import IssueQuery.Intent.Basic
import IssueQuery.Fault
import IssueQuery.Number.Quantity

namespace IssueQuery

open Number (Quantity)

structure RetryPolicy where
  attempts : Int
  baseDelay : Quantity
  backoff : Quantity
  maxDelay : Quantity

namespace RetryPolicy

def standard : RetryPolicy := ⟨3, .decimal 1.0, .decimal 2.0, .decimal 60.0⟩

def jitter : Float := 0.1

def limit (p : RetryPolicy) : Nat :=
  (max 1 p.attempts).toNat

def growth (p : RetryPolicy) (attempt : Int) : Outcome Quantity :=
  ofRange (p.baseDelay.timesPower p.backoff (attempt - 1))

/-- The upper bound, which keeps its own form, in place of a longer pause. -/
def cap (p : RetryPolicy) (delay : Quantity) : Quantity :=
  if p.maxDelay.less delay then p.maxDelay else delay

def jittered (p : RetryPolicy) (delay random : Quantity) : Outcome Quantity := do
  let chance ← ofRange random.toFloat
  let delay ← ofRange delay.toFloat
  return p.cap (.decimal (delay * (1.0 + chance * jitter)))

def delayFor (p : RetryPolicy) (attempt : Int) (random : Quantity) : Outcome Quantity := do
  p.jittered (← p.growth attempt) random

end RetryPolicy

structure Answerer (σ : Type) where
  ask : String → σ → Outcome Intent × σ
  random : σ → Quantity × σ

inductive RetryEvent where
  | asked (outcome : Outcome Intent)
  | drew (random : Quantity)
  | warned (text : String)
  | slept (delay : Quantity)

structure RetryRun (σ : Type) where
  outcome : Outcome Intent
  events : List RetryEvent
  state : σ

namespace RetryEvent

def isCall : RetryEvent → Bool
  | .asked _ => true
  | _ => false

def delay? : RetryEvent → Option Quantity
  | .slept delay => some delay
  | _ => none

def warning? : RetryEvent → Option String
  | .warned text => some text
  | _ => none

end RetryEvent

namespace RetryRun

variable {σ : Type}

def calls (r : RetryRun σ) : Nat :=
  r.events.countP RetryEvent.isCall

def delays (r : RetryRun σ) : List Quantity :=
  r.events.filterMap RetryEvent.delay?

def warnings (r : RetryRun σ) : List String :=
  r.events.filterMap RetryEvent.warning?

end RetryRun

namespace RetryPolicy

variable {σ : Type}

def warning (p : RetryPolicy) (attempt : Nat) (fault : Fault) (delay : Quantity) : String :=
  "Intent request failed on attempt " ++ toString attempt ++ "/" ++ toString p.limit ++ " (" ++
    fault.message ++ "); retrying in " ++ Number.fixed 2 delay.nearest ++ "s"

def retry (p : RetryPolicy) (attempt : Nat) (fault : Fault) (random delay : Quantity) : List RetryEvent :=
  [.asked (.error fault), .drew random, .warned (p.warning attempt fault delay), .slept delay]

/-- Asks from attempt `attempt` on, with `left` more attempts after it. -/
def attemptFrom (p : RetryPolicy) (a : Answerer σ) (question : String) (attempt : Nat) :
    Nat → σ → RetryRun σ
  | left, s =>
    match a.ask question s with
    | (.ok i, s) => ⟨.ok i, [.asked (.ok i)], s⟩
    | (.error fault, s) =>
      match left with
      | 0 => ⟨.error fault, [.asked (.error fault)], s⟩
      | left + 1 =>
        if !fault.isTransient then ⟨.error fault, [.asked (.error fault)], s⟩
        else match p.growth attempt with
          | .error f => ⟨.error f, [.asked (.error fault)], s⟩
          | .ok delay =>
            let (random, s) := a.random s
            match p.jittered delay random with
            | .error f => ⟨.error f, [.asked (.error fault), .drew random], s⟩
            | .ok delay =>
              let run := attemptFrom p a question (attempt + 1) left s
              { run with events := p.retry attempt fault random delay ++ run.events }

def run (p : RetryPolicy) (a : Answerer σ) (question : String) (s : σ) : RetryRun σ :=
  p.attemptFrom a question 1 (p.limit - 1) s

def runAll (p : RetryPolicy) (a : Answerer σ) : List String → σ → List (RetryRun σ)
  | [], _ => []
  | q :: qs, s =>
    let first := p.run a q s
    first :: runAll p a qs first.state

end RetryPolicy

end IssueQuery
