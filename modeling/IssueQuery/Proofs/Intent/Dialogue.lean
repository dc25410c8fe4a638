import IssueQuery.Proofs.Intent.Reporting
import IssueQuery.Proofs.Intent.Retry

namespace IssueQuery

open Number (Quantity)

def RetryRun.map {σ τ : Type} (f : σ → τ) (r : RetryRun σ) : RetryRun τ :=
  ⟨r.outcome, r.events, f r.state⟩

namespace RetryPolicy

variable {σ τ : Type} {a : Answerer σ} {b : Answerer τ} {f : σ → τ}

theorem attemptFrom_map {question : String}
    (hask : ∀ s, b.ask question (f s) = Prod.map id f (a.ask question s))
    (hrandom : ∀ s, b.random (f s) = Prod.map id f (a.random s)) (p : RetryPolicy) (attempt left : Nat) (s : σ) :
    p.attemptFrom b question attempt left (f s) = (p.attemptFrom a question attempt left s).map f := by
  induction left generalizing attempt s with
  | zero =>
    rw [attemptFrom, attemptFrom, hask]
    obtain ⟨_ | _, s'⟩ := a.ask question s <;> rfl
  | succ left ih =>
    rw [attemptFrom, attemptFrom, hask]
    obtain ⟨fault | i, s'⟩ := a.ask question s
    · simp only [Prod.map_apply, id_eq]
      cases fault.isTransient with
      | false => rfl
      | true =>
        cases p.growth attempt with
        | error g => rfl
        | ok growth =>
          simp only [hrandom, Prod.map_fst, Prod.map_snd, id_eq]
          cases p.jittered growth (a.random s').1 with
          | error g => rfl
          | ok delay =>
            simp only [ih]
            rfl
    · rfl

end RetryPolicy

theorem Payload.final_intent {r : Calendar.Reader} (hr : r.NeedsNoConnection) (v : Json) : Final (intent r v) := by
  intro fault h
  rcases intent_error h with hfault | ⟨rfl, -⟩
  · cases hfault with
    | intent cause => rfl
    | reader hs => exact hr _ _ hs
  · rfl

namespace Model

namespace Reply

def isResponse : Reply → Bool
  | .content _ | .noChoices => true
  | .noConnection | .timeout | .rateLimit _ | .status .. => false

/-- The service is out of reach, too slow, too busy or broken for now. -/
def mayPass : Reply → Bool
  | .noConnection | .timeout | .rateLimit _ => true
  | .status code _ => code ≥ 500
  | .content _ | .noChoices => false

theorem mayPass_of_isResponse {r : Reply} (h : r.isResponse = true) : r.mayPass = false := by
  cases r with
  | content _ | noChoices => rfl
  | noConnection | timeout | rateLimit _ | status _ _ => cases h

theorem intent_of_not_isResponse (reader : Calendar.Reader) {r : Reply} (h : r.isResponse = false) :
    ∃ message, r.intent reader = .error (.service message r.mayPass) := by
  cases r with
  | content _ | noChoices => cases h
  | noConnection | timeout | rateLimit _ | status _ _ => exact ⟨_, rfl⟩

theorem final_of_isResponse {reader : Calendar.Reader} (hreader : reader.NeedsNoConnection) {r : Reply}
    (h : r.isResponse = true) : Final (r.intent reader) := by
  intro fault hf
  rw [intent] at hf
  rcases Outcome.bind_eq_error_iff.mp hf with ht | ⟨text, -, hf⟩
  · cases r with
    | content text =>
      cases text with
      | none =>
        obtain rfl := Except.error.inj ht
        rfl
      | some text =>
        rw [Reply.text] at ht
        split at ht
        · obtain rfl := Except.error.inj ht
          rfl
        · cases ht
    | noChoices =>
      obtain rfl := Except.error.inj ht
      rfl
    | noConnection | timeout | rateLimit _ | status _ _ => cases h
  · split at hf
    · exact Payload.final_intent hreader _ fault hf
    all_goals
      obtain rfl := Except.error.inj hf
      rfl

theorem final_intent_iff {reader : Calendar.Reader} (hreader : reader.NeedsNoConnection) (r : Reply) :
    Final (r.intent reader) ↔ r.mayPass = false := by
  cases hr : r.isResponse with
  | true => exact iff_of_true (final_of_isResponse hreader hr) (mayPass_of_isResponse hr)
  | false =>
    obtain ⟨message, h⟩ := intent_of_not_isResponse reader hr
    rw [h]
    constructor
    · intro hfinal
      exact hfinal _ rfl
    · intro hpass fault hf
      obtain rfl := Except.error.inj hf
      exact hpass

end Reply

/-- A language model under some settings: what it replies to a request after so many others, and the reader and
the random numbers of those who ask it. -/
structure Dialogue where
  settings : Settings
  reader : Calendar.Reader
  reply : Nat → Request → Reply
  random : Nat → Quantity

namespace Dialogue

structure Log where
  sent : List Request
  drawn : Nat

def answerer (d : Dialogue) : Answerer Log where
  ask question log :=
    let request := request d.settings question
    ((d.reply log.sent.length request).intent d.reader, { log with sent := log.sent ++ [request] })
  random log := (d.random log.drawn, { log with drawn := log.drawn + 1 })

def replyTo (d : Dialogue) (question : String) (log : Log) (i : Nat) : Reply :=
  d.reply (log.sent.length + (i - 1)) (request d.settings question)

/-- The pause after the `i`-th call is defined wherever the question may be put again. -/
def PausesDefined (p : RetryPolicy) (d : Dialogue) (question : String) (log : Log) : Prop :=
  ∀ i : Nat, 1 ≤ i → (i : Int) < max 1 p.attempts →
    (∀ j, 1 ≤ j → j ≤ i → (d.replyTo question log j).mayPass = true) →
      ∃ delay, p.delayFor i (d.random (log.drawn + (i - 1))) = .ok delay

structure Obeys (p : RetryPolicy) (d : Dialogue) (question : String) (log : Log) (k : Nat)
    (run : RetryRun Log) : Prop where
  sent : run.state.sent = log.sent ++ List.replicate k (request d.settings question)
  calls : run.calls = k
  again : ∀ i : Nat, 1 ≤ i → i ≤ k →
    (i < k ↔ (d.replyTo question log i).mayPass = true ∧ (i : Int) < max 1 p.attempts)
  response : ∀ i, 1 ≤ i → i ≤ k → (d.replyTo question log i).isResponse = true → i = k
  delays : run.delays.length = k - 1
  last : run.events.getLast? = some (.asked run.outcome)
  outcome : run.outcome = (d.replyTo question log k).intent d.reader
  failure : (d.replyTo question log k).isResponse = false →
    ∃ message, run.outcome = .error (.service message (d.replyTo question log k).mayPass)

def toScript (d : Dialogue) (question : String) (log : Log) : Script where
  outcome n _ := (d.replyTo question log (n + 1)).intent d.reader
  random n := d.random (log.drawn + n)

def logAt (d : Dialogue) (question : String) (log : Log) (pos : Script.Position) : Log :=
  ⟨log.sent ++ List.replicate pos.asked (request d.settings question), log.drawn + pos.drawn⟩

variable {p : RetryPolicy} {d : Dialogue} {question : String} {log : Log}

theorem run_toScript (p : RetryPolicy) (d : Dialogue) (question : String) (log : Log) :
    p.run d.answerer question log =
      (p.run (d.toScript question log).answerer question ⟨0, 0⟩).map (d.logAt question log) := by
  have hstart : log = d.logAt question log ⟨0, 0⟩ := by simp [logAt]
  have hask : ∀ pos, d.answerer.ask question (d.logAt question log pos) =
      Prod.map id (d.logAt question log) ((d.toScript question log).answerer.ask question pos) := by
    intro pos
    simp [answerer, toScript, Script.answerer, logAt, replyTo, List.replicate_succ']
  have hrandom : ∀ pos, d.answerer.random (d.logAt question log pos) =
      Prod.map id (d.logAt question log) ((d.toScript question log).answerer.random pos) := fun _ => rfl
  conv_lhs => rw [hstart]
  exact RetryPolicy.attemptFrom_map hask hrandom p 1 (p.limit - 1) ⟨0, 0⟩

theorem outcome_toScript {i : Nat} (hi : 1 ≤ i) :
    (d.toScript question log).outcome (0 + (i - 1)) question = (d.replyTo question log i).intent d.reader := by
  have hi : 0 + (i - 1) + 1 = i := by omega
  change (d.replyTo question log (0 + (i - 1) + 1)).intent d.reader = _
  rw [hi]

theorem again_iff (hreader : d.reader.NeedsNoConnection) {k : Nat}
    (hk : IsLeast {k | Script.Ends p (d.toScript question log) question ⟨0, 0⟩ k} k) {i : Nat} (hi : 1 ≤ i) (hle : i ≤ k) :
    i < k ↔ (d.replyTo question log i).mayPass = true ∧ (i : Int) < max 1 p.attempts := by
  obtain ⟨⟨-, hend⟩, hleast⟩ := hk
  have hbound : (k : Int) ≤ max 1 p.attempts := by
    have hlimit := p.limit_eq
    have hk : k ≤ p.limit := hleast ⟨by omega, .inr hlimit⟩
    omega
  constructor
  · intro hlt
    refine ⟨?_, by omega⟩
    rw [← Bool.not_eq_false, ← Reply.final_intent_iff hreader]
    intro hfinal
    rw [← outcome_toScript hi] at hfinal
    have := hleast ⟨hi, .inl hfinal⟩
    omega
  · rintro ⟨hpass, hlt⟩
    apply lt_of_le_of_ne hle
    rintro rfl
    rcases hend with hfinal | hlast
    · rw [outcome_toScript hi, Reply.final_intent_iff hreader, hpass] at hfinal
      cases hfinal
    · omega

/-- Provided that the pauses are defined, a question is put again exactly after a failure that may pass, as long
as calls are left, with the same request each time. A response ends the run, whatever it says, and a failure that
ends it is reported with whether it may pass. -/
theorem run_obeys (p : RetryPolicy) (d : Dialogue) (question : String) (log : Log)
    (hreader : d.reader.NeedsNoConnection) (hdelay : PausesDefined p d question log) :
    ∃ k, 1 ≤ k ∧ Obeys p d question log k (p.run d.answerer question log) := by
  obtain ⟨k, hk, fault, -, hrun⟩ := Script.run_follows p (d.toScript question log) question ⟨0, 0⟩
  have hone : 1 ≤ k := hk.1.1
  have hdefined (i : Nat) : ∃ delay, i + 1 < k →
      p.delayFor ((i + 1 : Nat) : Int) (d.random (log.drawn + (0 + i))) = .ok delay := by
    by_cases hi : i + 1 < k
    · have hpassed : ∀ j, 1 ≤ j → j ≤ i + 1 → (d.replyTo question log j).mayPass = true := fun j hj hji =>
        ((again_iff hreader hk hj (by omega)).mp (by omega)).1
      obtain ⟨delay, h⟩ := hdelay (i + 1) (by omega) ((again_iff hreader hk (by omega) (by omega)).mp hi).2 hpassed
      rw [Nat.add_sub_cancel] at h
      exact ⟨delay, fun _ => by rwa [Nat.zero_add]⟩
    · exact ⟨.whole 0, fun h => absurd h hi⟩
  choose delay hdelay using hdefined
  have hrun := hrun delay hdelay
  have houtcome := hrun.outcome.trans (outcome_toScript hone)
  have hpauses : (p.run (d.toScript question log).answerer question ⟨0, 0⟩).delays.length = k - 1 := by
    rw [hrun.delays, List.length_map, List.length_range]
  have hlast : (p.run (d.toScript question log).answerer question ⟨0, 0⟩).events.getLast? =
      some (.asked (p.run (d.toScript question log).answerer question ⟨0, 0⟩).outcome) := by
    rw [hrun.events, List.getLast?_append]
    rfl
  rw [run_toScript]
  refine ⟨k, hone, ?_⟩
  exact {
    sent := by
      simp only [RetryRun.map, hrun.state, logAt, Nat.zero_add]
    calls := hrun.calls
    again := fun i hi hle => again_iff hreader hk hi hle
    response := by
      intro i hi hle hr
      apply le_antisymm hle
      by_contra hlt
      have hpass := ((again_iff hreader hk hi hle).mp (by omega)).1
      rw [Reply.mayPass_of_isResponse hr] at hpass
      cases hpass
    delays := hpauses
    last := hlast
    outcome := houtcome
    failure := by
      intro hr
      obtain ⟨message, h⟩ := Reply.intent_of_not_isResponse d.reader hr
      exact ⟨message, houtcome.trans h⟩ }

def recovering : Dialogue where
  settings := ⟨defaultName, defaultTemperature, defaultMaxTokens⟩
  reader := .standard
  reply n _ :=
    match n with
    | 0 => .rateLimit "slow down"
    | 1 => .status 503 "unavailable"
    | _ => .content (some "[]")
  random _ := .decimal 0.5

theorem run_obeys_recovering :
    let p : RetryPolicy := ⟨5, .decimal 0.25, .whole 1, .decimal 60.0⟩
    recovering.reader.NeedsNoConnection ∧ PausesDefined p recovering "q" ⟨[], 0⟩ ∧
      Obeys p recovering "q" ⟨[], 0⟩ 3 (p.run recovering.answerer "q" ⟨[], 0⟩) := by
  intro p
  have hreader := Calendar.Reader.needsNoConnection_standard
  have hdelay : PausesDefined p recovering "q" ⟨[], 0⟩ := fun i hi _ _ =>
    RetryPolicy.exists_delayFor rfl rfl (by omega)
  obtain ⟨k, hk, h⟩ := run_obeys p recovering "q" ⟨[], 0⟩ hreader hdelay
  refine ⟨hreader, hdelay, ?_⟩
  have hfirst : 1 < k := (h.again 1 le_rfl hk).mpr ⟨rfl, by decide⟩
  have hsecond : 2 < k := (h.again 2 (by omega) hfirst).mpr ⟨rfl, by decide⟩
  obtain rfl : 3 = k := h.response 3 (by omega) hsecond rfl
  exact h

end Dialogue

end Model

end IssueQuery
