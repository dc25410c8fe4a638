import IssueQuery.Intent.Retry
import IssueQuery.Proofs.Outcome
import Mathlib.Data.Nat.Find
import Mathlib.Order.Bounds.Defs
import Mathlib.Tactic.Choose

namespace IssueQuery

open Number (Quantity)

/-- What the calls say, one after the other, and the random numbers. A finite list of outcomes is a
script whatever is said after its end. -/
structure Script where
  outcome : Nat → String → Outcome Intent
  random : Nat → Quantity

namespace Script

structure Position where
  asked : Nat
  drawn : Nat

def answerer (sc : Script) : Answerer Position where
  ask question pos := (sc.outcome pos.asked question, { pos with asked := pos.asked + 1 })
  random pos := (sc.random pos.drawn, { pos with drawn := pos.drawn + 1 })

end Script

def Final (x : Outcome Intent) : Prop :=
  ∀ fault, x = .error fault → fault.isTransient = false

theorem not_final_iff {x : Outcome Intent} :
    ¬Final x ↔ ∃ fault, x = .error fault ∧ fault.isTransient = true := by
  simp [Final]

namespace RetryPolicy

variable {σ : Type} {p : RetryPolicy} {a : Answerer σ} {question : String} {s : σ}

theorem limit_eq (p : RetryPolicy) : (p.limit : Int) = max 1 p.attempts := by
  rw [limit]
  omega

theorem of_delayFor {attempt : Int} {random delay : Quantity} (h : p.delayFor attempt random = .ok delay) :
    ∃ growth, p.growth attempt = .ok growth ∧ p.jittered growth random = .ok delay :=
  Outcome.of_bind h

theorem exists_delayFor {base random : Float} {attempt : Int} (hbase : p.baseDelay = .decimal base)
    (hbackoff : p.backoff = .whole 1) (h : 1 ≤ attempt) :
    ∃ delay, p.delayFor attempt (.decimal random) = .ok delay := by
  -- One has the power one, so that nothing becomes too large.
  obtain ⟨one, hone⟩ : ∃ one, Number.floatOfWhole 1 = .ok one := ⟨_, rfl⟩
  have hpower : (Quantity.whole 1).power (attempt - 1) = .ok (.whole 1) := by
    have hw : Number.wholePower 1 (attempt - 1) = .ok 1 := by simp [Number.wholePower]
    have he : attempt - 1 ≥ 0 := by omega
    rw [Quantity.power, if_pos he, hw]
    rfl
  have hgrowth : p.growth attempt = .ok (.decimal (base * one)) := by
    rw [growth, hbase, hbackoff, Quantity.timesPower, hpower]
    · show ofRange ((Quantity.decimal base).mul (.whole 1)) = _
      simp only [Quantity.mul, Quantity.toFloat, hone]
      rfl
    · intro b hb
      cases hb
  rw [delayFor, hgrowth]
  exact ⟨_, rfl⟩

theorem attemptFrom_final {attempt left : Nat} {x : Outcome Intent} {s' : σ}
    (ha : a.ask question s = (x, s')) (hx : left = 0 ∨ Final x) :
    p.attemptFrom a question attempt left s = ⟨x, [.asked x], s'⟩ := by
  cases x with
  | ok i =>
    rw [attemptFrom]
    simp only [ha]
  | error fault =>
    cases left with
    | zero =>
      rw [attemptFrom]
      simp only [ha]
    | succ left =>
      have hf : fault.isTransient = false := by
        rcases hx with hx | hx
        · cases hx
        · exact hx fault rfl
      rw [attemptFrom]
      simp only [ha, hf, Bool.not_false, if_true]

theorem attemptFrom_retry {attempt left : Nat} {fault : Fault} {random delay : Quantity} {s' s'' : σ}
    (ha : a.ask question s = (.error fault, s')) (hf : fault.isTransient = true)
    (hr : a.random s' = (random, s'')) (hd : p.delayFor attempt random = .ok delay) :
    p.attemptFrom a question attempt (left + 1) s =
      { p.attemptFrom a question (attempt + 1) left s'' with
        events := p.retry attempt fault random delay ++
          (p.attemptFrom a question (attempt + 1) left s'').events } := by
  obtain ⟨growth, hg, hj⟩ := of_delayFor hd
  rw [attemptFrom]
  simp only [ha, hf, hg, hr, hj, Bool.not_true, Bool.false_eq_true, if_false]

end RetryPolicy

namespace Script

variable {p : RetryPolicy} {sc : Script} {question : String} {pos : Position}
variable {fault : Nat → Fault} {delay : Nat → Quantity}

def retries (p : RetryPolicy) (sc : Script) (pos : Position) (fault : Nat → Fault) (delay : Nat → Quantity)
    (first n : Nat) : List RetryEvent :=
  (List.range n).flatMap fun i => p.retry (first + i) (fault i) (sc.random (pos.drawn + i)) (delay i)

theorem retries_succ (first n : Nat) :
    retries p sc pos fault delay first (n + 1) =
      p.retry first (fault 0) (sc.random pos.drawn) (delay 0) ++
        retries p sc ⟨pos.asked + 1, pos.drawn + 1⟩ (fun i => fault (i + 1)) (fun i => delay (i + 1))
          (first + 1) n := by
  simp only [retries, List.range_succ_eq_map, List.flatMap_cons, List.flatMap_map, Nat.add_zero,
    Nat.succ_eq_add_one, Nat.add_assoc, Nat.add_comm 1]

theorem attemptFrom_eq {n left attempt : Nat} (hn : n ≤ left)
    (hfault : ∀ i < n, sc.outcome (pos.asked + i) question = .error (fault i))
    (htransient : ∀ i < n, (fault i).isTransient = true)
    (hdelay : ∀ i < n, p.delayFor ((attempt + i : Nat) : Int) (sc.random (pos.drawn + i)) = .ok (delay i))
    (hlast : n = left ∨ Final (sc.outcome (pos.asked + n) question)) :
    p.attemptFrom sc.answerer question attempt left pos =
      ⟨sc.outcome (pos.asked + n) question,
        retries p sc pos fault delay attempt n ++ [.asked (sc.outcome (pos.asked + n) question)],
        ⟨pos.asked + n + 1, pos.drawn + n⟩⟩ := by
  induction n generalizing left attempt pos fault delay with
  | zero => exact RetryPolicy.attemptFrom_final rfl (hlast.imp_left Eq.symm)
  | succ n ih =>
    -- What follows the first attempt is a run of `n` attempts from the next position, so that its
    -- `i`-th call is the one after `i` here.
    obtain ⟨left, rfl⟩ : ∃ m, left = m + 1 := ⟨left - 1, by omega⟩
    have hask : sc.answerer.ask question pos = (.error (fault 0), ⟨pos.asked + 1, pos.drawn⟩) := by
      rw [← hfault 0 (by omega)]
      rfl
    have hfirst : p.delayFor attempt (sc.random pos.drawn) = .ok (delay 0) := hdelay 0 (by omega)
    have hnext (i : Nat) : pos.asked + 1 + i = pos.asked + (i + 1) := by omega
    have hdrawn (i : Nat) : pos.drawn + 1 + i = pos.drawn + (i + 1) := by omega
    have hattempt (i : Nat) : attempt + 1 + i = attempt + (i + 1) := by omega
    have hrest : p.attemptFrom sc.answerer question (attempt + 1) left ⟨pos.asked + 1, pos.drawn + 1⟩ =
        ⟨sc.outcome (pos.asked + 1 + n) question,
          retries p sc ⟨pos.asked + 1, pos.drawn + 1⟩ (fun i => fault (i + 1)) (fun i => delay (i + 1))
            (attempt + 1) n ++ [.asked (sc.outcome (pos.asked + 1 + n) question)],
          ⟨pos.asked + 1 + n + 1, pos.drawn + 1 + n⟩⟩ := by
      apply ih (by omega)
      · intro i hi
        rw [hnext]
        exact hfault (i + 1) (by omega)
      · intro i hi
        exact htransient (i + 1) (by omega)
      · intro i hi
        rw [hdrawn, hattempt]
        exact hdelay (i + 1) (by omega)
      · rw [hnext]
        exact hlast.imp_left fun h => by omega
    rw [RetryPolicy.attemptFrom_retry hask (htransient 0 (by omega)) rfl hfirst, hrest, retries_succ]
    simp only [hnext, hdrawn, List.append_assoc]

def Ends (p : RetryPolicy) (sc : Script) (question : String) (pos : Position) (k : Nat) : Prop :=
  1 ≤ k ∧ (Final (sc.outcome (pos.asked + (k - 1)) question) ∨ (k : Int) = max 1 p.attempts)

/-- A run of `k` calls: all but the last fail, and each of these is followed by a random number, a
warning and a delay. -/
structure IsRun (p : RetryPolicy) (sc : Script) (question : String) (pos : Position) (k : Nat)
    (fault : Nat → Fault) (delay : Nat → Quantity) (run : RetryRun Position) : Prop where
  outcome : run.outcome = sc.outcome (pos.asked + (k - 1)) question
  events : run.events = retries p sc pos fault delay 1 (k - 1) ++ [.asked run.outcome]
  calls : run.calls = k
  delays : run.delays = (List.range (k - 1)).map delay
  warnings : run.warnings.length = k - 1
  state : run.state = ⟨pos.asked + k, pos.drawn + (k - 1)⟩

/-- The run takes the calls up to the first at which asking ends, provided that the delays in between
are defined. -/
def Follows (p : RetryPolicy) (sc : Script) (question : String) (pos : Position)
    (run : RetryRun Position) : Prop :=
  ∃ k, IsLeast {k | Ends p sc question pos k} k ∧
    ∃ fault, (∀ i, i + 1 < k → sc.outcome (pos.asked + i) question = .error (fault i)) ∧
      ∀ delay : Nat → Quantity,
        (∀ i, i + 1 < k → p.delayFor ((i + 1 : Nat) : Int) (sc.random (pos.drawn + i)) = .ok (delay i)) →
          IsRun p sc question pos k fault delay run

inductive FollowsAll (p : RetryPolicy) (sc : Script) :
    List String → Position → List (RetryRun Position) → Prop
  | nil (pos : Position) : FollowsAll p sc [] pos []
  | cons {question : String} {questions : List String} {pos : Position} {run : RetryRun Position}
      {runs : List (RetryRun Position)} :
      Follows p sc question pos run → FollowsAll p sc questions run.state runs →
        FollowsAll p sc (question :: questions) pos (run :: runs)

theorem calls_retries (first n : Nat) :
    (retries p sc pos fault delay first n).countP RetryEvent.isCall = n := by
  rw [retries, List.countP_flatMap]
  change ((List.range n).map fun _ => 1).sum = n
  rw [List.map_const', List.sum_replicate_nat, List.length_range, Nat.mul_one]

theorem delays_retries (first n : Nat) :
    (retries p sc pos fault delay first n).filterMap RetryEvent.delay? = (List.range n).map delay := by
  rw [retries, List.filterMap_flatMap]
  exact List.map_eq_flatMap.symm

theorem warnings_retries (first n : Nat) :
    ((retries p sc pos fault delay first n).filterMap RetryEvent.warning?).length = n := by
  rw [retries, List.filterMap_flatMap, List.length_flatMap]
  change ((List.range n).map fun _ => 1).sum = n
  rw [List.map_const', List.sum_replicate_nat, List.length_range, Nat.mul_one]

theorem exists_ends (p : RetryPolicy) (sc : Script) (question : String) (pos : Position) :
    ∃ k, IsLeast {k | Ends p sc question pos k} k := by
  classical
  have hlimit : ∃ k, Ends p sc question pos k :=
    ⟨p.limit, by have := p.limit_eq; omega, .inr p.limit_eq⟩
  exact ⟨Nat.find hlimit, Nat.find_spec hlimit, fun k hk => Nat.find_min' hlimit hk⟩

theorem run_follows (p : RetryPolicy) (sc : Script) (question : String) (pos : Position) :
    Follows p sc question pos (p.run sc.answerer question pos) := by
  obtain ⟨k, hk⟩ := exists_ends p sc question pos
  obtain ⟨⟨hpos, hend⟩, hleast⟩ := hk
  have hlimit := p.limit_eq
  have hle : k ≤ p.limit := hleast ⟨by omega, .inr hlimit⟩
  have hfailed (i : Nat) : ∃ fault, i + 1 < k →
      sc.outcome (pos.asked + i) question = .error fault ∧ fault.isTransient = true := by
    by_cases hi : i + 1 < k
    · have hnot : ¬Final (sc.outcome (pos.asked + i) question) := by
        intro hfinal
        have := hleast (show Ends p sc question pos (i + 1) from ⟨by omega, .inl hfinal⟩)
        omega
      obtain ⟨fault, hf⟩ := not_final_iff.mp hnot
      exact ⟨fault, fun _ => hf⟩
    · exact ⟨.infiniteInteger, fun h => absurd h hi⟩
  choose fault hfault using hfailed
  refine ⟨k, ⟨⟨hpos, hend⟩, hleast⟩, fault, fun i hi => (hfault i hi).1, fun delay hdelay => ?_⟩
  have hrun : p.run sc.answerer question pos =
      ⟨sc.outcome (pos.asked + (k - 1)) question,
        retries p sc pos fault delay 1 (k - 1) ++ [.asked (sc.outcome (pos.asked + (k - 1)) question)],
        ⟨pos.asked + (k - 1) + 1, pos.drawn + (k - 1)⟩⟩ := by
    apply attemptFrom_eq (by omega)
    · intro i hi
      exact (hfault i (by omega)).1
    · intro i hi
      exact (hfault i (by omega)).2
    · intro i hi
      rw [Nat.add_comm 1]
      exact hdelay i (by omega)
    · exact hend.symm.imp_left fun h => by omega
  have hk : pos.asked + (k - 1) + 1 = pos.asked + k := by omega
  rw [hk] at hrun
  rw [hrun]
  exact {
    outcome := rfl
    events := rfl
    calls := by
      rw [RetryRun.calls, List.countP_append, calls_retries]
      show k - 1 + 1 = k
      omega
    delays := by
      rw [RetryRun.delays, List.filterMap_append, delays_retries]
      exact List.append_nil _
    warnings := by
      rw [RetryRun.warnings, List.filterMap_append, List.length_append, warnings_retries]
      rfl
    state := rfl }

theorem exists_isRun {base : Float} {random : Nat → Float} (hbase : p.baseDelay = .decimal base)
    (hbackoff : p.backoff = .whole 1) (hrandom : ∀ i, sc.random i = .decimal (random i))
    (question : String) (pos : Position) :
    ∃ k fault delay, IsLeast {k | Ends p sc question pos k} k ∧
      IsRun p sc question pos k fault delay (p.run sc.answerer question pos) := by
  obtain ⟨k, hk, fault, -, hrun⟩ := run_follows p sc question pos
  have hdelay (i : Nat) :
      ∃ delay, p.delayFor ((i + 1 : Nat) : Int) (sc.random (pos.drawn + i)) = .ok delay := by
    rw [hrandom]
    exact RetryPolicy.exists_delayFor hbase hbackoff (by omega)
  choose delay hdelay using hdelay
  exact ⟨k, fault, delay, hk, hrun delay fun i _ => hdelay i⟩

theorem runAll_follows (p : RetryPolicy) (sc : Script) (questions : List String) (pos : Position) :
    FollowsAll p sc questions pos (p.runAll sc.answerer questions pos) := by
  induction questions generalizing pos with
  | nil => exact .nil pos
  | cons question questions ih => exact .cons (run_follows p sc question pos) (ih _)

end Script

end IssueQuery
