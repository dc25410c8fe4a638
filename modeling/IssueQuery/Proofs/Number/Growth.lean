import IssueQuery.Proofs.Number.Powers
import IssueQuery.Proofs.Number.Products

namespace IssueQuery.Number.Quantity

def AtMost (a b : Quantity) : Prop :=
  a.isNaN = false ∧ b.isNaN = false ∧ b.less a = false

variable {a b : Quantity}

theorem less_eq_true_iff : a.less b = true ↔
    a.isNaN = false ∧ b.isNaN = false ∧ (a.place.1 < b.place.1 ∨ a.place.1 = b.place.1 ∧ a.place.2 < b.place.2) := by
  simp [less, and_assoc]

theorem atMost_iff : a.AtMost b ↔
    a.isNaN = false ∧ b.isNaN = false ∧ (a.place.1 < b.place.1 ∨ a.place.1 = b.place.1 ∧ a.place.2 ≤ b.place.2) := by
  rw [AtMost]
  refine and_congr_right fun ha => and_congr_right fun hb => ?_
  rw [← Bool.not_eq_true, less_eq_true_iff]
  constructor
  · intro h
    rcases lt_trichotomy a.place.1 b.place.1 with hlt | heq | hgt
    · exact .inl hlt
    · exact .inr ⟨heq, not_lt.mp fun hlt => h ⟨hb, ha, .inr ⟨heq.symm, hlt⟩⟩⟩
    · exact absurd ⟨hb, ha, .inl hgt⟩ h
  · rintro (hlt | ⟨heq, hle⟩) ⟨-, -, hlt' | ⟨heq', hlt'⟩⟩
    · omega
    · omega
    · omega
    · exact absurd hlt' (not_lt.mpr hle)

theorem place_whole (n : Int) : (whole n).place = (0, (n : ℚ)) :=
  rfl

theorem place_finite {x : Float} {negative : Bool} {m : Nat} {e : Int}
    (h : Binary.ofFloat x = .finite negative m e) :
    (decimal x).place = (0, if negative then -scaled m e else scaled m e) := by
  have hvalue : mkRat (m * 2 ^ e.toNat) (2 ^ (-e).toNat) = scaled m e := by
    rw [Rat.mkRat_eq_div, div_eq_iff (by positivity), ← cast_quotient]
    push_cast
    rfl
  simp only [place, h, hvalue]

theorem place_infinite {x : Float} {negative : Bool} (h : Binary.ofFloat x = .infinite negative) :
    (decimal x).place = (if negative then -1 else 1, 0) := by
  simp only [place, h]

theorem place_two : (decimal 2.0).place = (0, 2) := by
  have hvalue : scaled (2 ^ 52) (-51) = 2 := by
    rw [scaled]
    norm_num
  rw [place_finite ofFloat_two, hvalue]
  rfl

theorem zero_atMost_iff {x : Float} : (whole 0).AtMost (decimal x) ↔ (Binary.ofFloat x).Nonneg := by
  rw [atMost_iff, place_whole]
  cases h : Binary.ofFloat x with
  | nan => simp [isNaN, h, Binary.Nonneg]
  | infinite negative => cases negative <;> simp [isNaN, place_infinite h, h, Binary.Nonneg]
  | finite negative m e =>
    have hzero := scaled_nonneg m e
    have hnone : scaled m e ≤ 0 ↔ m = 0 := hzero.ge_iff_eq'.trans scaled_eq_zero_iff
    cases negative <;> simp [isNaN, place_finite h, h, Binary.Nonneg, hzero, hnone]

theorem one_atMost {x : Float} (h : (whole 1).AtMost (decimal x)) :
    Binary.ofFloat x = .infinite false ∨ ∃ m e, Binary.ofFloat x = .finite false m e ∧ 1 ≤ scaled m e := by
  rw [atMost_iff, place_whole] at h
  obtain ⟨-, hnumber, hplace⟩ := h
  cases hx : Binary.ofFloat x with
  | nan => simp [isNaN, hx] at hnumber
  | infinite negative => cases negative <;> simp_all [place_infinite hx]
  | finite negative m e =>
    have hzero := scaled_nonneg m e
    rw [place_finite hx] at hplace
    cases negative with
    | false => exact .inr ⟨m, e, rfl, by simpa using hplace⟩
    | true =>
      simp only [lt_irrefl, if_true, false_or, Int.cast_one, true_and] at hplace
      linarith

theorem whole_atMost_iff {m n : Int} : (whole m).AtMost (whole n) ↔ m ≤ n := by
  simp [atMost_iff, isNaN, place]

theorem wholePower_cases {c : Nat} (hc : 1 ≤ c) (n : Nat) :
    wholePower c n = .ok ((c ^ n : Nat) : Int) ∨
      ((2 : ℚ) ^ 1024 ≤ (c : ℚ) ^ n ∧ wholePower c n = .error .wholeTooLarge) := by
  have hnonzero : ((c : Int) == 0) = false := beq_eq_false_iff_ne.mpr (by omega)
  have hpositive : ((c : Int) == -1) = false := beq_eq_false_iff_ne.mpr (by omega)
  by_cases hone : c = 1
  · subst hone
    left
    simp [wholePower]
  have hmore : ((c : Int) == 1) = false := beq_eq_false_iff_ne.mpr (by omega)
  by_cases hn : n < 1024
  · left
    have hsmall : (n : Int) < maxExponent := by
      rw [maxExponent]
      omega
    simp only [wholePower, hnonzero, hmore, hpositive, Bool.or_self, Bool.false_eq_true, if_false, if_pos hsmall,
      Int.toNat_natCast, Nat.cast_pow]
  · right
    have hlarge : ¬(n : Int) < maxExponent := by
      rw [maxExponent]
      omega
    constructor
    · calc (2 : ℚ) ^ 1024 ≤ 2 ^ n := pow_le_pow_right₀ one_le_two (by omega)
        _ ≤ (c : ℚ) ^ n := by
          have htwo : (2 : ℚ) ≤ c := by exact_mod_cast (show 2 ≤ c by omega)
          exact pow_le_pow_left₀ zero_le_two htwo n
    · simp only [wholePower, hnonzero, hmore, hpositive, Bool.or_self, Bool.false_eq_true, if_false, if_neg hlarge]

theorem power_whole_cases {c : Nat} (hc : 1 ≤ c) (n : Nat) :
    (whole c).power n = .ok (whole ((c ^ n : Nat) : Int)) ∨
      ((2 : ℚ) ^ 1024 ≤ (c : ℚ) ^ n ∧ (whole c).power n = .error .wholeTooLarge) := by
  have hn : (n : Int) ≥ 0 := by omega
  rw [power, if_pos hn]
  rcases wholePower_cases hc n with hpower | ⟨hlarge, hpower⟩
  · rw [hpower]
    exact .inl rfl
  · rw [hpower]
    exact .inr ⟨hlarge, rfl⟩

theorem power_decimal_of_ok {x y : Float} {n k : Int} (hrounded : roundedWhole n = .ok k)
    (h : Number.power x k = .ok y) : (decimal x).power n = .ok (decimal y) := by
  rw [power, hrounded]
  show (Number.power x k >>= fun y => Except.ok (decimal y)) = _
  rw [h]
  rfl

theorem power_decimal_of_error {x : Float} {n k : Int} {fault : RangeFault} (hrounded : roundedWhole n = .ok k)
    (h : Number.power x k = .error fault) : (decimal x).power n = .error fault := by
  rw [power, hrounded]
  show (Number.power x k >>= fun y => Except.ok (decimal y)) = _
  rw [h]
  rfl

theorem timesPower_zero (c : Int) (n : Nat) : (whole 0).timesPower (whole c) n = .ok (whole 0) := by
  have hn : (n : Int) ≥ 0 := by omega
  rw [timesPower, if_pos hn]

theorem timesPower_eq {factor base : Quantity} (h : factor ≠ whole 0 ∨ ∃ x, base = decimal x) (n : Int) :
    factor.timesPower base n = base.power n >>= factor.mul := by
  rw [timesPower]
  rintro b rfl rfl
  rcases h with h | ⟨x, hx⟩
  · exact h rfl
  · cases hx

def grown (base backoff : Quantity) (n : Int) : Except RangeFault Float := do
  (← base.timesPower backoff n).toFloat

section

variable {factor base power : Quantity} {n : Int}

theorem grown_of_power (h : factor ≠ whole 0 ∨ ∃ x, base = decimal x) (hpower : base.power n = .ok power) :
    grown factor base n = factor.mul power >>= toFloat := by
  rw [grown, timesPower_eq h, hpower]
  rfl

theorem grown_of_tooLarge (h : factor ≠ whole 0 ∨ ∃ x, base = decimal x) {fault : RangeFault}
    (hpower : base.power n = .error fault) : grown factor base n = .error fault := by
  rw [grown, timesPower_eq h, hpower]
  rfl

end

/-- A float that is not negative, unless it is undefined, where nothing needed for it is too large. -/
def Lands (r : Except RangeFault Float) (needed : List ℚ) (undefined : Prop) : Prop :=
  (∃ x, r = .ok x ∧ (undefined → Binary.ofFloat x = .nan) ∧ (¬undefined → (Binary.ofFloat x).Nonneg) ∧
    ∀ v ∈ needed, v < 2 ^ 1024) ∨
  ∃ fault, r = .error fault ∧ ∃ v ∈ needed, floatLimit ≤ v

theorem nonneg_ofInt (n : Nat) (h : (n : ℚ) < floatLimit) : (Binary.ofFloat (ofInt n)).Nonneg := by
  rcases ofFloat_ofInt n with ⟨-, m, e, hfinite, -⟩ | ⟨hle, -⟩
  · rw [hfinite]
    exact .inl rfl
  · exact absurd h (not_lt.mpr hle)

theorem grown_whole (b : Nat) {c : Nat} (hc : 1 ≤ c) (n : Nat) :
    Lands (grown (.whole b) (.whole c) n) [(b : ℚ) * c ^ n] False := by
  have hproduct : grown (.whole b) (.whole c) n = floatOfWhole ((b * c ^ n : Nat) : Int) ∨
      (floatLimit ≤ (b : ℚ) * c ^ n ∧ grown (.whole b) (.whole c) n = .error .wholeTooLarge) := by
    rcases Nat.eq_zero_or_pos b with rfl | hb
    · left
      rw [grown, Nat.cast_zero, timesPower_zero, Nat.zero_mul]
      rfl
    have hne : whole (b : Int) ≠ whole 0 := by
      rw [Ne, whole.injEq]
      omega
    rcases power_whole_cases hc n with hpower | ⟨hlarge, hpower⟩
    · left
      rw [grown_of_power (.inl hne) hpower, Nat.cast_mul]
      rfl
    · right
      have hone : (1 : ℚ) ≤ b := by exact_mod_cast hb
      exact ⟨floatLimit_le_two_pow.trans (hlarge.trans (le_mul_of_one_le_left (by positivity) hone)),
        grown_of_tooLarge (.inl hne) hpower⟩
  have hcast : ((b * c ^ n : Nat) : ℚ) = (b : ℚ) * c ^ n := by push_cast; rfl
  rcases hproduct with hproduct | ⟨hle, herror⟩
  · rw [hproduct]
    rcases floatOfWhole_cases (b * c ^ n) with ⟨hlt, hfloat⟩ | ⟨hle, herror⟩
    · left
      refine ⟨_, hfloat, False.elim, fun _ => nonneg_ofInt _ hlt, ?_⟩
      rw [List.forall_mem_singleton, ← hcast]
      exact hlt.trans_le floatLimit_le_two_pow
    · right
      rw [hcast] at hle
      exact ⟨_, herror, _, List.mem_singleton_self _, hle⟩
  · exact .inr ⟨_, herror, _, List.mem_singleton_self _, hle⟩

def ifWhole : Quantity → List ℚ
  | .whole n => [(n : ℚ)]
  | .decimal _ => []

theorem isZero_iff_of_nonneg {x : Float} (h : (Binary.ofFloat x).Nonneg) :
    (Binary.ofFloat x).IsZero ↔ (decimal x).place = (0, 0) := by
  cases hx : Binary.ofFloat x with
  | nan => rw [hx] at h; cases h
  | infinite negative =>
    rw [place_infinite hx]
    constructor
    · rintro ⟨_, _, h⟩
      cases h
    · intro h
      cases negative <;> cases h
  | finite negative m e =>
    rw [place_finite hx]
    constructor
    · rintro ⟨_, _, h⟩
      cases h
      cases negative <;> simp [scaled_eq_zero_iff]
    · intro h
      have hm : m = 0 := by
        cases negative <;> simpa [scaled_eq_zero_iff] using h
      exact ⟨negative, e, by rw [hm]⟩

theorem isZero_ofInt_iff {n : Nat} (h : (n : ℚ) < floatLimit) :
    (Binary.ofFloat (ofInt n)).IsZero ↔ (whole n).place = (0, 0) := by
  rw [place_whole, Prod.mk.injEq, Int.cast_natCast, Nat.cast_eq_zero]
  constructor
  · rintro ⟨_, _, hnone⟩
    rcases ofFloat_ofInt n with ⟨-, m, e, hfinite, hzero⟩ | ⟨hle, -⟩
    · rw [hfinite] at hnone
      cases hnone
      exact ⟨rfl, hzero rfl⟩
    · exact absurd h (not_lt.mpr hle)
  · rintro ⟨-, rfl⟩
    exact ⟨_, _, ofFloat_ofInt_zero⟩

theorem toFloat_cases (h : (whole 0).AtMost a) :
    (∃ x, a.toFloat = .ok x ∧ (Binary.ofFloat x).Nonneg ∧ ((Binary.ofFloat x).IsZero ↔ a.place = (0, 0)) ∧
      ∀ v ∈ a.ifWhole, v < 2 ^ 1024) ∨
    ∃ fault, a.toFloat = .error fault ∧ ∃ v ∈ a.ifWhole, floatLimit ≤ v := by
  cases a with
  | decimal x =>
    have hx := zero_atMost_iff.mp h
    exact .inl ⟨x, rfl, hx, isZero_iff_of_nonneg hx, by simp [ifWhole]⟩
  | whole n =>
    obtain ⟨n, rfl⟩ := Int.eq_ofNat_of_zero_le (whole_atMost_iff.mp h)
    rcases floatOfWhole_cases n with ⟨hlt, hfloat⟩ | ⟨hle, herror⟩
    · left
      refine ⟨ofInt n, hfloat, nonneg_ofInt n hlt, isZero_ofInt_iff hlt, ?_⟩
      simpa [ifWhole] using hlt.trans_le floatLimit_le_two_pow
    · exact .inr ⟨_, herror, n, by simp [ifWhole], hle⟩

theorem mul_decimal (a : Quantity) (y : Float) :
    a.mul (.decimal y) = a.toFloat >>= fun x => .ok (.decimal (x * y)) := by
  cases a <;> rfl

theorem mul_whole_of_ok (x : Float) {n : Int} {y : Float} (h : floatOfWhole n = .ok y) :
    (decimal x).mul (.whole n) = (decimal x).mul (.decimal y) := by
  rw [mul, toFloat, toFloat, h]
  · rfl
  · rintro _ _ h
    cases h

theorem mul_whole_of_error (x : Float) {n : Int} {fault : RangeFault} (h : floatOfWhole n = .error fault) :
    (decimal x).mul (.whole n) = .error fault := by
  rw [mul, toFloat, toFloat, h]
  · rfl
  · rintro _ _ h
    cases h

theorem lands_mul (h : (whole 0).AtMost a) {y : Float} {needed : List ℚ} {undefined : Prop}
    (hneeded : ∀ v ∈ needed, v < 2 ^ 1024)
    (hy : (Binary.ofFloat y = .infinite false ∧ (undefined ↔ a.place = (0, 0))) ∨
      ((∃ m e, Binary.ofFloat y = .finite false m e ∧ m ≠ 0) ∧ ¬undefined)) :
    Lands (a.mul (.decimal y) >>= toFloat) (a.ifWhole ++ needed) undefined := by
  rw [mul_decimal]
  rcases toFloat_cases h with ⟨x, hx, hnonneg, hzero, hwhole⟩ | ⟨fault, hx, v, hv, hle⟩
  · left
    rw [hx]
    refine ⟨x * y, rfl, fun hu => ?_, fun hu => ?_, List.forall_mem_append.mpr ⟨hwhole, hneeded⟩⟩
    · rcases hy with ⟨hy, hiff⟩ | ⟨-, hnot⟩
      · exact Binary.mul_of_zero_infinite (hzero.mpr (hiff.mp hu)) ⟨_, hy⟩
      · exact absurd hu hnot
    · rcases hy with ⟨hy, hiff⟩ | ⟨⟨m, e, hy, hm⟩, -⟩
      · apply Binary.nonneg_mul hnonneg
        · rw [hy]
          rfl
        · rintro ⟨hx, -⟩
          exact hu (hiff.mpr (hzero.mp hx))
        · rintro ⟨-, _, _, hinfinite⟩
          rw [hy] at hinfinite
          cases hinfinite
      · exact Binary.nonneg_mul_of_pos hnonneg hy hm
  · right
    rw [hx]
    exact ⟨fault, rfl, v, List.mem_append_left _ hv, hle⟩

theorem grown_decimal_whole {x : Float} (h : (whole 0).AtMost (.decimal x)) {c : Nat} (hc : 1 ≤ c) (n : Nat) :
    Lands (grown (.decimal x) (.whole c) n) [(c : ℚ) ^ n] False := by
  have hne : decimal x ≠ whole 0 := by
    intro h
    cases h
  have hcast : ((c ^ n : Nat) : ℚ) = (c : ℚ) ^ n := Nat.cast_pow c n
  rcases power_whole_cases hc n with hpower | ⟨hlarge, hpower⟩
  · rw [grown_of_power (.inl hne) hpower]
    rcases ofFloat_ofInt (c ^ n) with ⟨hlt, m, e, hfinite, hzero⟩ | ⟨hle, -⟩
    · have hpos : c ^ n ≠ 0 := (Nat.pow_pos hc).ne'
      rw [mul_whole_of_ok x (floatOfWhole_of_finite hfinite)]
      apply lands_mul h
      · rw [List.forall_mem_singleton, ← hcast]
        exact hlt.trans_le floatLimit_le_two_pow
      · exact .inr ⟨⟨m, e, hfinite, fun hm => hpos (hzero hm)⟩, id⟩
    · right
      rcases floatOfWhole_cases (c ^ n) with ⟨hlt, -⟩ | ⟨-, herror⟩
      · exact absurd hlt (not_lt.mpr hle)
      · rw [mul_whole_of_error x herror]
        rw [hcast] at hle
        exact ⟨_, rfl, _, List.mem_singleton_self _, hle⟩
  · right
    exact ⟨_, grown_of_tooLarge (.inl hne) hpower, _, List.mem_singleton_self _, floatLimit_le_two_pow.trans hlarge⟩

theorem grown_decimal (h : (whole 0).AtMost a) {x : Float} (hx : (whole 1).AtMost (.decimal x)) {n k : Nat}
    (hk : ∀ k' : Int, roundedWhole n = .ok k' → k' = k) :
    Lands (grown a (.decimal x) n) (a.ifWhole ++ [(n : ℚ), (decimal x).place.2 ^ k])
      (a.place = (0, 0) ∧ (decimal x).place = (1, 0) ∧ k ≠ 0) := by
  have hdecimal : a ≠ whole 0 ∨ ∃ y, decimal x = decimal y := .inr ⟨x, rfl⟩
  rcases roundedWhole_cases n with ⟨hlt, k', hrounded⟩ | ⟨hle, herror⟩
  · obtain rfl : k' = k := by exact_mod_cast hk k' hrounded
    have hn : (n : ℚ) < 2 ^ 1024 := hlt.trans_le floatLimit_le_two_pow
    have hone : (1 : ℚ) < 2 ^ 1024 := one_lt_pow₀ one_lt_two (by decide)
    rcases one_atMost hx with hinfinite | ⟨m, e, hfinite, hleast⟩
    · have hplace : (decimal x).place = (1, 0) := place_infinite hinfinite
      have hneeded : ∀ v ∈ [(n : ℚ), (decimal x).place.2 ^ k'], v < 2 ^ 1024 := by
        simp only [List.forall_mem_cons, List.not_mem_nil, false_imp_iff, implies_true, and_true]
        refine ⟨hn, (pow_le_one₀ ?_ ?_).trans_lt hone⟩
        · rw [hplace]
        · rw [hplace]
          exact zero_le_one
      by_cases hzero : k' = 0
      · subst hzero
        rw [grown_of_power hdecimal (power_decimal_of_ok hrounded (power_zero x))]
        exact lands_mul h hneeded (.inr ⟨⟨2 ^ 52, -52, ofFloat_one, by decide⟩, fun hu => hu.2.2 rfl⟩)
      · rw [grown_of_power hdecimal (power_decimal_of_ok hrounded (power_infinite hinfinite hzero))]
        exact lands_mul h hneeded (.inl ⟨ofFloat_infinity, fun hu => hu.1, fun hu => ⟨hu, hplace, hzero⟩⟩)
    · have hplace : (decimal x).place = (0, scaled m e) := place_finite hfinite
      rw [hplace]
      rcases power_cases hfinite hleast k' with ⟨hpow, y, m', e', hy, hyfinite, hm'⟩ | ⟨hle, herror⟩
      · rw [grown_of_power hdecimal (power_decimal_of_ok hrounded hy)]
        refine lands_mul h ?_ (.inr ⟨⟨m', e', hyfinite, hm'⟩, fun hu => ?_⟩)
        · simpa using ⟨hn, hpow⟩
        · cases hu.2.1
      · right
        exact ⟨_, grown_of_tooLarge hdecimal (power_decimal_of_error hrounded herror), scaled m e ^ k', by simp, hle⟩
  · right
    have hpower : (decimal x).power n = .error .wholeTooLarge := by
      rw [power, herror]
      rfl
    exact ⟨_, grown_of_tooLarge hdecimal hpower, n, by simp, hle⟩

end IssueQuery.Number.Quantity
