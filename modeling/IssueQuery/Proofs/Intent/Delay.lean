import IssueQuery.Proofs.Intent.Retry
import IssueQuery.Proofs.Number.Growth

namespace IssueQuery

open Number (Binary Quantity RangeFault floatLimit scaled)

namespace RetryPolicy

open Number.Quantity (Lands grown)

/-- Pauses from zero on that do not become shorter, up to a bound that is not below zero. -/
structure Sensible (p : RetryPolicy) : Prop where
  baseDelay : (Quantity.whole 0).AtMost p.baseDelay
  backoff : (Quantity.whole 1).AtMost p.backoff
  maxDelay : (Quantity.whole 0).AtMost p.maxDelay

def IsChance (random : Quantity) : Prop :=
  (Quantity.whole 0).AtMost random ∧ random.less (.whole 1) = true

def exponent (p : RetryPolicy) (attempt : Int) : Nat :=
  match p.backoff, Number.roundedWhole (attempt - 1) with
  | .decimal _, .ok n => n.toNat
  | _, _ => (attempt - 1).toNat

/-- The numbers that have to be floats on the way to a pause: whole ones as soon as they meet a float, the
exponent, and the power, of which an infinite one counts as zero. -/
def needed (p : RetryPolicy) (attempt : Int) : List ℚ :=
  match p.backoff with
  | .whole backoff =>
    match p.baseDelay with
    | .whole base => [base * backoff ^ p.exponent attempt]
    | .decimal _ => [backoff ^ p.exponent attempt]
  | .decimal backoff =>
    p.baseDelay.ifWhole ++ [((attempt - 1 : Int) : ℚ), (Quantity.decimal backoff).place.2 ^ p.exponent attempt]

/-- Zero times infinity. -/
def Undefined (p : RetryPolicy) (attempt : Int) : Prop :=
  p.baseDelay.place = (0, 0) ∧ p.backoff.place = (1, 0) ∧ p.exponent attempt ≠ 0

def Within (p : RetryPolicy) (delay : Quantity) : Prop :=
  (Quantity.whole 0).AtMost delay ∧ delay.AtMost p.maxDelay

/-- What comes of a pause. Between the limit of the floats and the next power of two it may be either, as powers
are not rounded exactly. -/
inductive Pause (p : RetryPolicy) (attempt : Int) : Outcome Quantity → Prop
  | capped {delay : Quantity} : (∀ v ∈ p.needed attempt, v < 2 ^ 1024) → ¬p.Undefined attempt →
      p.Within delay → Pause p attempt (.ok delay)
  | undefined {delay : Quantity} : (∀ v ∈ p.needed attempt, v < 2 ^ 1024) → p.Undefined attempt →
      delay.isNaN = true → Pause p attempt (.ok delay)
  | tooLarge {fault : RangeFault} : (∃ v ∈ p.needed attempt, floatLimit ≤ v) →
      Pause p attempt (.error (.range fault))

variable {p : RetryPolicy} {attempt : Int} {random : Quantity}

theorem lands (hp : p.Sensible) (ha : 1 ≤ attempt) :
    Lands (grown p.baseDelay p.backoff (attempt - 1)) (p.needed attempt) (p.Undefined attempt) := by
  obtain ⟨n, hn⟩ := Int.eq_ofNat_of_zero_le (show 0 ≤ attempt - 1 by omega)
  obtain ⟨attempts, base, backoff, maxDelay⟩ := p
  obtain ⟨hbase, hbackoff, -⟩ := hp
  cases backoff with
  | whole c =>
    have hc : 1 ≤ c := Quantity.whole_atMost_iff.mp hbackoff
    obtain ⟨c, rfl⟩ := Int.eq_ofNat_of_zero_le (show 0 ≤ c by omega)
    have hdefined : Undefined ⟨attempts, base, .whole c, maxDelay⟩ attempt = False :=
      eq_false fun h => zero_ne_one (congrArg Prod.fst h.2.1)
    have hexponent : exponent ⟨attempts, base, .whole c, maxDelay⟩ attempt = n := by
      simp only [exponent, hn, Int.toNat_natCast]
    rw [hdefined, hn]
    cases base with
    | whole b =>
      obtain ⟨b, rfl⟩ := Int.eq_ofNat_of_zero_le (Quantity.whole_atMost_iff.mp hbase)
      rw [needed, hexponent]
      exact Quantity.grown_whole b (by omega) n
    | decimal x =>
      rw [needed, hexponent]
      exact Quantity.grown_decimal_whole hbase (by omega) n
  | decimal y =>
    rw [needed, hn]
    apply Quantity.grown_decimal hbase hbackoff
    intro k hk
    rcases Number.roundedWhole_cases n with ⟨-, k', hrounded⟩ | ⟨-, herror⟩
    · obtain rfl : (k' : Int) = k := Except.ok.inj (hrounded.symm.trans hk)
      simp only [exponent, hn, hrounded, Int.toNat_natCast]
    · rw [herror] at hk
      cases hk

theorem jittered_eq {delay : Quantity} {c : Float} (hc : random.toFloat = .ok c) :
    p.jittered delay random = ofRange delay.toFloat >>= fun x =>
      .ok (p.cap (.decimal (x * (1.0 + c * jitter)))) := by
  have hchance : ofRange random.toFloat = .ok c := by
    rw [hc]
    rfl
  rw [jittered, hchance]
  rfl

theorem delayFor_eq {c : Float} (hc : random.toFloat = .ok c) :
    p.delayFor attempt random = ofRange (grown p.baseDelay p.backoff (attempt - 1)) >>= fun x =>
      .ok (p.cap (.decimal (x * (1.0 + c * jitter)))) := by
  simp only [delayFor, jittered_eq hc, growth, grown]
  generalize 1.0 + c * jitter = factor
  cases p.baseDelay.timesPower p.backoff (attempt - 1) <;> rfl

theorem ofFloat_jitter : Binary.ofFloat jitter = .finite false 7205759403792794 (-56) := by
  rfl

theorem isFinite_of_isChance (h : IsChance random) : ∃ c negative m e, random.toFloat = .ok c ∧
    Binary.ofFloat c = .finite negative m e ∧ (Binary.ofFloat c).Nonneg := by
  obtain ⟨hzero, hone⟩ := h
  cases random with
  | whole n =>
    have hn : n = 0 := by
      have hleast := Quantity.whole_atMost_iff.mp hzero
      rw [Quantity.less_eq_true_iff] at hone
      have hmost : (n : ℚ) < 1 := by simpa [Quantity.isNaN, Quantity.place_whole] using hone
      have hmost' : n < 1 := by exact_mod_cast hmost
      omega
    subst hn
    have hfinite := Number.ofFloat_ofInt_zero
    refine ⟨_, _, _, _, Number.floatOfWhole_of_finite hfinite, hfinite, ?_⟩
    rw [hfinite]
    exact .inl rfl
  | decimal c =>
    have hnonneg := Quantity.zero_atMost_iff.mp hzero
    cases hc : Binary.ofFloat c with
    | nan =>
      rw [hc] at hnonneg
      cases hnonneg
    | infinite negative =>
      rw [hc] at hnonneg
      obtain rfl : negative = false := hnonneg
      rw [Quantity.less_eq_true_iff, Quantity.place_infinite hc] at hone
      obtain ⟨-, -, h | h⟩ := hone
      · cases h
      · cases h.1
    | finite negative m e => exact ⟨c, negative, m, e, rfl, hc, hc ▸ hnonneg⟩

theorem exists_factor {c : Float} {negative : Bool} {m : Nat} {e : Int} (hc : Binary.ofFloat c = .finite negative m e)
    (hnonneg : (Binary.ofFloat c).Nonneg) :
    ∃ m' e', Binary.ofFloat (1.0 + c * jitter) = .finite false m' e' ∧ m' ≠ 0 := by
  have hcanonical := Binary.isCanonical_ofFloat c
  rw [hc] at hcanonical
  obtain ⟨-, -, -, hexp⟩ := hcanonical
  obtain ⟨n, m', e', hproduct, hsmall⟩ := Binary.exists_mul_finite hc ofFloat_jitter (by omega)
  exact Binary.exists_one_add hproduct (Binary.nonneg_mul_of_pos hnonneg ofFloat_jitter (by decide)) (by omega)

theorem within_cap (hp : p.Sensible) {x : Float} (h : (Binary.ofFloat x).Nonneg) :
    p.Within (p.cap (.decimal x)) := by
  have hx := Quantity.zero_atMost_iff.mpr h
  rw [cap]
  split
  · exact ⟨hp.maxDelay, Quantity.atMost_iff.mpr ⟨hp.maxDelay.2.1, hp.maxDelay.2.1, .inr ⟨rfl, le_rfl⟩⟩⟩
  · rename_i hmax
    exact ⟨hx, hx.2.1, hp.maxDelay.2.1, Bool.eq_false_of_not_eq_true hmax⟩

theorem isNaN_cap {x : Float} (h : Binary.ofFloat x = .nan) : (p.cap (.decimal x)).isNaN = true := by
  have hnan : (Quantity.decimal x).isNaN = true := by
    rw [Quantity.isNaN, h]
    rfl
  have hless : ¬p.maxDelay.less (.decimal x) = true := by
    rw [Quantity.less_eq_true_iff, hnan]
    simp
  rw [cap, if_neg hless, hnan]

theorem pause_delayFor (hp : p.Sensible) (ha : 1 ≤ attempt) (hr : IsChance random) :
    p.Pause attempt (p.delayFor attempt random) := by
  obtain ⟨c, negative, m, e, hc, hfinite, hnonneg⟩ := isFinite_of_isChance hr
  obtain ⟨m', e', hfactor, hm'⟩ := exists_factor hfinite hnonneg
  rw [delayFor_eq hc]
  rcases lands hp ha with ⟨x, hx, hnan, hpos, hneeded⟩ | ⟨fault, hx, hneeded⟩
  · rw [hx]
    show p.Pause attempt (.ok (p.cap (.decimal (x * (1.0 + c * jitter)))))
    by_cases hu : p.Undefined attempt
    · exact .undefined hneeded hu (isNaN_cap (Binary.mul_of_nan (hnan hu)))
    · exact .capped hneeded hu (within_cap hp (Binary.nonneg_mul_of_pos (hpos hu) hfactor hm'))
  · rw [hx]
    exact .tooLarge hneeded

section

variable {σ : Type}

inductive Ends (p : RetryPolicy) (a : Answerer σ) (question : String) (first left : Nat) (run : RetryRun σ) : Prop
  | answered (s : σ) : run.outcome = (a.ask question s).1 → run.events.getLast? = some (.asked run.outcome) →
      Final run.outcome ∨ run.calls = left + 1 → Ends p a question first left run
  | tooLarge {fault : RangeFault} : run.outcome = .error (.range fault) → run.calls ≤ left →
      (∃ v ∈ p.needed ((first + run.calls - 1 : Nat) : Int), floatLimit ≤ v) → Ends p a question first left run

/-- From attempt `first` on, with `left` more attempts after it: every call but the last one is followed by a
pause, which keeps to the bounds unless it is undefined. -/
structure Course (p : RetryPolicy) (a : Answerer σ) (question : String) (first left : Nat) (run : RetryRun σ) :
    Prop where
  called : 1 ≤ run.calls
  ends : p.Ends a question first left run
  paused : run.delays.length + 1 = run.calls
  fits : ∀ n : Nat, first ≤ n → n + 1 < first + run.calls → ∀ v ∈ p.needed n, v < 2 ^ 1024
  bounded : ∀ delay ∈ run.delays, p.Within delay ∨ (delay.isNaN = true ∧ ∃ n, p.Undefined n)

variable {a : Answerer σ} {question : String} {first left : Nat} {s s' : σ}

theorem course_answered {outcome : Outcome Intent} (hask : a.ask question s = (outcome, s'))
    (h : Final outcome ∨ left = 0) : p.Course a question first left ⟨outcome, [.asked outcome], s'⟩ where
  called := le_rfl
  ends := .answered s (by rw [hask]) rfl (h.imp_right fun h => by rw [h]; rfl)
  paused := rfl
  fits n hfirst hlast := by
    change n + 1 < first + 1 at hlast
    omega
  bounded delay h := by cases h

theorem calls_retry (run : RetryRun σ) (fault : Fault) (random delay : Quantity) :
    RetryRun.calls { run with events := p.retry first fault random delay ++ run.events } = run.calls + 1 := by
  rw [RetryRun.calls, RetryRun.calls, List.countP_append, Nat.add_comm]
  rfl

theorem delays_retry (run : RetryRun σ) (fault : Fault) (random delay : Quantity) :
    RetryRun.delays { run with events := p.retry first fault random delay ++ run.events } = delay :: run.delays :=
  rfl

theorem Course.retry {run : RetryRun σ} (h : p.Course a question (first + 1) left run) {fault : Fault}
    {random delay : Quantity} (hfits : ∀ v ∈ p.needed (first : Int), v < 2 ^ 1024)
    (hdelay : p.Within delay ∨ (delay.isNaN = true ∧ ∃ n, p.Undefined n)) :
    p.Course a question first (left + 1) { run with events := p.retry first fault random delay ++ run.events } where
  called := by
    rw [calls_retry]
    omega
  ends := by
    have hcalled := h.called
    cases h.ends with
    | answered s hsaid hlast hend =>
      refine .answered s hsaid ?_ ?_
      · rw [List.getLast?_append, hlast]
        rfl
      · rw [calls_retry]
        exact hend.imp_right fun h => by rw [h]
    | tooLarge hfault hcalls hlarge =>
      have hlast : first + (run.calls + 1) - 1 = first + 1 + run.calls - 1 := by omega
      refine .tooLarge hfault ?_ ?_
      · rw [calls_retry]
        omega
      · rw [calls_retry, hlast]
        exact hlarge
  fits n hfirst hlast := by
    rw [calls_retry] at hlast
    rcases Nat.eq_or_lt_of_le hfirst with rfl | hlater
    · exact hfits
    · exact h.fits n hlater (by omega)
  paused := by
    rw [calls_retry, delays_retry, List.length_cons, h.paused]
  bounded := by
    rw [delays_retry, List.forall_mem_cons]
    exact ⟨hdelay, h.bounded⟩

theorem course_tooLarge {fault : RangeFault} {outcome : Outcome Intent} {drawn : List RetryEvent}
    (hdrawn : drawn = [] ∨ ∃ random, drawn = [.drew random])
    (hlarge : ∃ v ∈ p.needed (first : Int), floatLimit ≤ v) :
    p.Course a question first (left + 1) ⟨.error (.range fault), .asked outcome :: drawn, s⟩ := by
  have hcalls : RetryRun.calls (⟨.error (.range fault), .asked outcome :: drawn, s⟩ : RetryRun σ) = 1 := by
    rcases hdrawn with rfl | ⟨random, rfl⟩ <;> rfl
  have hdelays : RetryRun.delays (⟨.error (.range fault), .asked outcome :: drawn, s⟩ : RetryRun σ) = [] := by
    rcases hdrawn with rfl | ⟨random, rfl⟩ <;> rfl
  exact {
    called := by rw [hcalls]
    ends := .tooLarge rfl (by omega) (by rwa [hcalls])
    fits := fun n hfirst hlast => by omega
    paused := by rw [hcalls, hdelays]; rfl
    bounded := by rw [hdelays]; simp }

theorem attemptFrom_course (hp : p.Sensible) (hrandom : ∀ s, IsChance (a.random s).1) (hfirst : 1 ≤ first) :
    p.Course a question first left (p.attemptFrom a question first left s) := by
  induction left generalizing first s with
  | zero =>
    rw [RetryPolicy.attemptFrom_final rfl (.inl rfl)]
    exact course_answered rfl (.inr rfl)
  | succ left ih =>
    obtain ⟨outcome, s', hask⟩ : ∃ outcome s', a.ask question s = (outcome, s') := ⟨_, _, rfl⟩
    by_cases hfinal : Final outcome
    · rw [RetryPolicy.attemptFrom_final hask (.inr hfinal)]
      exact course_answered hask (.inl hfinal)
    obtain ⟨fault, rfl, htransient⟩ := not_final_iff.mp hfinal
    obtain ⟨random, s'', hdraw⟩ : ∃ random s'', a.random s' = (random, s'') := ⟨_, _, rfl⟩
    have hchance : IsChance random := by
      have := hrandom s'
      rwa [hdraw] at this
    have hpause : p.Pause first (p.delayFor first random) := pause_delayFor hp (by omega) hchance
    cases hdelay : p.delayFor first random with
    | ok delay =>
      rw [RetryPolicy.attemptFrom_retry hask htransient hdraw hdelay]
      rw [hdelay] at hpause
      cases hpause with
      | capped hfits _ hwithin => exact (ih (by omega)).retry hfits (.inl hwithin)
      | undefined hfits hundefined hnan => exact (ih (by omega)).retry hfits (.inr ⟨hnan, _, hundefined⟩)
    | error f =>
      rw [hdelay] at hpause
      cases hpause with
      | tooLarge hlarge =>
        -- The growth fails before a random number is drawn, what becomes of it as a float only after that.
        rcases Outcome.bind_eq_error_iff.mp hdelay with hgrowth | ⟨growth, hgrowth, hjittered⟩
        · rw [attemptFrom]
          simp only [hask, htransient, hgrowth, Bool.not_true, Bool.false_eq_true, if_false]
          exact course_tooLarge (.inl rfl) hlarge
        · rw [attemptFrom]
          simp only [hask, htransient, hgrowth, hdraw, hjittered, Bool.not_true, Bool.false_eq_true, if_false]
          exact course_tooLarge (.inr ⟨random, rfl⟩) hlarge

end

theorem sensible_standard : standard.Sensible where
  baseDelay := by
    rw [standard, Quantity.zero_atMost_iff, Number.ofFloat_one]
    exact .inl rfl
  backoff := by
    rw [standard, Quantity.atMost_iff, Quantity.place_whole, Quantity.place_two, Quantity.isNaN, Quantity.isNaN,
      Number.ofFloat_two, Int.cast_one]
    exact ⟨rfl, rfl, .inr ⟨rfl, one_le_two⟩⟩
  maxDelay := by
    have hsixty : Binary.ofFloat 60.0 = .finite false (60 * 2 ^ 47) (-47) := rfl
    rw [standard, Quantity.zero_atMost_iff, hsixty]
    exact .inl rfl

theorem isChance_zero : IsChance (.decimal 0.0) := by
  have hleast : (Quantity.whole 0).AtMost (.decimal 0.0) := by
    rw [Quantity.zero_atMost_iff, Number.ofFloat_zero]
    exact .inl rfl
  have hvalue : scaled 0 (-1074) = 0 := by rw [scaled, Nat.cast_zero, zero_mul]
  refine ⟨hleast, Quantity.less_eq_true_iff.mpr ⟨hleast.2.1, rfl, .inr ?_⟩⟩
  rw [Quantity.place_finite Number.ofFloat_zero, Quantity.place_whole, hvalue, Int.cast_one]
  exact ⟨rfl, zero_lt_one⟩

def Doubles (p : RetryPolicy) : Prop :=
  p.baseDelay = .decimal 1.0 ∧ p.backoff = .decimal 2.0

theorem Doubles.needed_eq (h : p.Doubles) {n : Nat} (hn : n < 2 ^ 53) :
    p.needed (n + 1) = [(n : ℚ), 2 ^ n] := by
  obtain ⟨hbase, hbackoff⟩ := h
  have hexponent : p.exponent (n + 1) = n := by
    simp only [exponent, hbackoff, Int.add_sub_cancel, Number.roundedWhole_of_lt hn, Int.toNat_natCast]
  simp only [needed, hexponent, hbase, hbackoff, Quantity.ifWhole, Int.add_sub_cancel, Quantity.place_two, List.nil_append,
    Int.cast_natCast]

theorem Doubles.delayFor_cases (h : p.Doubles) (hp : p.Sensible) (hr : IsChance random) {n : Nat} (hn : n ≤ 1024) :
    (n < 1024 ∧ ∃ delay, p.delayFor (n + 1) random = .ok delay ∧ p.Within delay) ∨
      (n = 1024 ∧ ∃ fault, p.delayFor (n + 1) random = .error (.range fault)) := by
  -- After attempt `n + 1` the pause is `2 ^ n` seconds before its bound, and `2 ^ 1024` is no float.
  have hneeded := h.needed_eq (show n < 2 ^ 53 by omega)
  have hpause : p.Pause (n + 1) (p.delayFor (n + 1) random) := pause_delayFor hp (by omega) hr
  generalize p.delayFor (n + 1) random = outcome at hpause
  cases hpause with
  | capped hfits _ hwithin =>
    left
    rw [hneeded] at hfits
    have hpow : (2 : ℚ) ^ n < 2 ^ 1024 := hfits _ (by simp)
    exact ⟨(pow_lt_pow_iff_right₀ one_lt_two).mp hpow, _, rfl, hwithin⟩
  | undefined _ hundefined _ =>
    have hplace := hundefined.2.1
    rw [h.2, Quantity.place_two] at hplace
    cases hplace
  | tooLarge hlarge =>
    right
    rw [hneeded] at hlarge
    refine ⟨?_, _, rfl⟩
    by_contra hne
    have hpow : (2 : ℚ) ^ n < floatLimit := Number.two_pow_lt_floatLimit (by omega)
    have hexponent : (n : ℚ) < floatLimit := by
      refine lt_of_lt_of_le ?_ hpow.le
      exact_mod_cast Nat.lt_two_pow_self
    simp only [List.mem_cons, List.not_mem_nil, or_false, exists_eq_or_imp, exists_eq_left] at hlarge
    rcases hlarge with h | h
    · exact absurd hexponent (not_lt.mpr h)
    · exact absurd hpow (not_lt.mpr h)

theorem run_tooLarge {σ : Type} {a : Answerer σ} {question : String} (hp : p.Sensible)
    (hrandom : ∀ s, IsChance (a.random s).1) (hfail : ∀ s, ¬Final (a.ask question s).1) {n : Nat} (hpos : 1 ≤ n)
    (hn : n < p.limit) (hlarge : ∃ v ∈ p.needed n, 2 ^ 1024 ≤ v) (s : σ) :
    ∃ fault, (p.run a question s).outcome = .error (.range fault) := by
  have hcourse : p.Course a question 1 (p.limit - 1) (p.run a question s) := attemptFrom_course hp hrandom le_rfl
  cases hcourse.ends with
  | tooLarge hfault _ _ => exact ⟨_, hfault⟩
  | answered s hsaid _ hend =>
    rcases hend with hfinal | hcalls
    · rw [hsaid] at hfinal
      exact absurd hfinal (hfail s)
    · obtain ⟨v, hv, hle⟩ := hlarge
      exact absurd (hcourse.fits n hpos (by omega) v hv) (not_lt.mpr hle)

def busy : Answerer Unit where
  ask _ s := (.error (.service "busy" true), s)
  random s := (.decimal 0.0, s)

end RetryPolicy

end IssueQuery
