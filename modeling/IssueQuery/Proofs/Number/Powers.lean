import IssueQuery.Proofs.Number.Rounding
import Mathlib.Algebra.Order.Field.Basic
import Mathlib.Tactic.Linarith

/-!
Powers of floats from one on. They are multiplied out with a fixed number of bits, where every cut loses a
little: the result is no larger than the power and, but for the cuts, as large (`Wide.near_pow`). Since no float
but one itself is close to one, that is enough to tell which powers are floats (`power_cases`).
-/

namespace IssueQuery.Number

namespace Wide

def value (w : Wide) : ℚ :=
  scaled w.mant w.exp

def kept : ℚ :=
  1 - 1 / 2 ^ (bits - 1)

theorem kept_pos : 0 < kept :=
  sub_pos.mpr ((div_lt_one (by positivity)).mpr (one_lt_pow₀ one_lt_two (by decide)))

theorem kept_le_one : kept ≤ 1 :=
  sub_le_self _ (by positivity)

theorem value_nonneg (w : Wide) : 0 ≤ w.value :=
  scaled_nonneg w.mant w.exp

theorem value_product (a b : Wide) : (⟨a.mant * b.mant, a.exp + b.exp⟩ : Wide).value = a.value * b.value := by
  simp only [value, scaled, Nat.cast_mul, zpow_add₀ (two_ne_zero' ℚ)]
  ring

def excess (w : Wide) : Nat :=
  Nat.log2 w.mant + 1 - bits

theorem value_cut (w : Wide) :
    w.cut.value = ((w.mant / 2 ^ w.excess * 2 ^ w.excess : Nat) : ℚ) * 2 ^ w.exp := by
  show ((w.mant / 2 ^ w.excess : Nat) : ℚ) * 2 ^ (w.exp + w.excess) = _
  rw [zpow_add₀ (two_ne_zero' ℚ), zpow_natCast]
  push_cast
  ring

theorem value_cut_le (w : Wide) : w.cut.value ≤ w.value := by
  rw [value_cut, value, scaled]
  gcongr
  exact Nat.div_mul_le_self _ _

theorem two_pow_excess_le {w : Wide} (h : w.excess ≠ 0) : 2 ^ (bits - 1) * 2 ^ w.excess ≤ w.mant := by
  have hlog : bits - 1 + w.excess = Nat.log2 w.mant := by
    simp only [excess, bits] at h ⊢
    omega
  rw [← Nat.pow_add, hlog]
  apply Nat.log2_self_le
  intro hzero
  rw [excess, hzero] at h
  exact h rfl

theorem le_value_cut (w : Wide) : w.value * kept ≤ w.cut.value := by
  have hcut : (w.mant : ℚ) * kept ≤ ((w.mant / 2 ^ w.excess * 2 ^ w.excess : Nat) : ℚ) := by
    by_cases h : w.excess = 0
    · rw [h, Nat.pow_zero, Nat.div_one, Nat.mul_one]
      exact mul_le_of_le_one_right (Nat.cast_nonneg _) kept_le_one
    · have hrest : w.mant ≤ w.mant / 2 ^ w.excess * 2 ^ w.excess + 2 ^ w.excess := by
        have hsplit := Nat.div_add_mod w.mant (2 ^ w.excess)
        have hmod := Nat.mod_lt w.mant (Nat.two_pow_pos w.excess)
        rw [Nat.mul_comm] at hsplit
        omega
      have hshare : (2 : ℚ) ^ w.excess ≤ w.mant * (1 / 2 ^ (bits - 1)) := by
        rw [mul_one_div, le_div_iff₀ (by positivity), mul_comm]
        exact_mod_cast two_pow_excess_le h
      have hrest' : (w.mant : ℚ) ≤ ((w.mant / 2 ^ w.excess * 2 ^ w.excess : Nat) : ℚ) + 2 ^ w.excess := by
        exact_mod_cast hrest
      rw [kept, mul_sub, mul_one]
      exact (sub_le_sub hrest' hshare).trans_eq (add_sub_cancel_right _ _)
  rw [value_cut, value, scaled, mul_right_comm]
  exact mul_le_mul_of_nonneg_right hcut (by positivity)

theorem one_le_value_iff (w : Wide) : 1 ≤ w.value ↔ 2 ^ (-w.exp).toNat ≤ w.mant * 2 ^ w.exp.toNat := by
  have h := le_quotient_iff 1 w.mant w.exp 0
  rw [Int.sub_zero, Nat.one_mul, Nat.cast_one, zpow_zero, mul_one] at h
  exact h.symm

theorem one_le_value_cut {w : Wide} (h : 1 ≤ w.value) : 1 ≤ w.cut.value := by
  have hsame : w.cut = ⟨w.mant / 2 ^ w.excess, w.exp + w.excess⟩ := rfl
  by_cases hnone : w.excess = 0
  · rw [hsame, hnone, Nat.pow_zero, Nat.div_one, Nat.cast_zero, Int.add_zero]
    exact h
  rw [one_le_value_iff] at h
  rw [one_le_value_iff, hsame]
  show 2 ^ (-(w.exp + w.excess)).toNat ≤ w.mant / 2 ^ w.excess * 2 ^ (w.exp + w.excess).toNat
  by_cases hexp : 0 ≤ w.exp + w.excess
  · have hleast : 1 ≤ w.mant / 2 ^ w.excess := by
      rw [Nat.le_div_iff_mul_le (Nat.two_pow_pos _)]
      exact (Nat.mul_le_mul_right _ Nat.one_le_two_pow).trans (two_pow_excess_le hnone)
    have hzero : (-(w.exp + w.excess)).toNat = 0 := by omega
    rw [hzero, Nat.pow_zero]
    exact Nat.mul_pos hleast (Nat.two_pow_pos _)
  · have hzero : (w.exp + w.excess).toNat = 0 := by omega
    have hzero' : w.exp.toNat = 0 := by omega
    have hsplit : (-w.exp).toNat = (-(w.exp + w.excess)).toNat + w.excess := by omega
    rw [hzero', Nat.pow_zero, Nat.mul_one, hsplit, Nat.pow_add] at h
    rw [hzero, Nat.pow_zero, Nat.mul_one, Nat.le_div_iff_mul_le (Nat.two_pow_pos _)]
    exact h

/-- From one on and, but for `n` cuts, as large as `q`. -/
structure Near (q : ℚ) (n : Nat) (w : Wide) : Prop where
  lower : q * kept ^ n ≤ w.value
  upper : w.value ≤ q
  one_le : 1 ≤ w.value

variable {a b : Wide} {p q : ℚ} {m n : Nat}

theorem near_self (h : 1 ≤ a.value) : Near a.value 0 a where
  lower := by rw [pow_zero, mul_one]
  upper := le_rfl
  one_le := h

theorem near_one : Near 1 0 ⟨1, 0⟩ := by
  have hone : value ⟨1, 0⟩ = 1 := by simp [value, scaled]
  rw [← hone]
  exact near_self hone.ge

theorem Near.mono (h : Near q m a) (hmn : m ≤ n) : Near q n a where
  lower := by
    have hq : 0 ≤ q := (value_nonneg a).trans h.upper
    exact (mul_le_mul_of_nonneg_left (pow_le_pow_of_le_one kept_pos.le kept_le_one hmn) hq).trans h.lower
  upper := h.upper
  one_le := h.one_le

theorem Near.mul (ha : Near p m a) (hb : Near q n b) : Near (p * q) (m + n + 1) (mul a b) where
  lower := by
    have hp : 0 ≤ p * kept ^ m := mul_nonneg ((value_nonneg a).trans ha.upper) (pow_nonneg kept_pos.le m)
    have hq : 0 ≤ q * kept ^ n := mul_nonneg ((value_nonneg b).trans hb.upper) (pow_nonneg kept_pos.le n)
    calc p * q * kept ^ (m + n + 1) = p * kept ^ m * (q * kept ^ n) * kept := by ring
      _ ≤ a.value * b.value * kept := by
          gcongr
          · exact kept_pos.le
          · exact value_nonneg a
          · exact ha.lower
          · exact hb.lower
      _ ≤ (Wide.mul a b).value := by
          rw [← value_product]
          exact le_value_cut _
  upper := by
    refine (value_cut_le _).trans ?_
    rw [value_product]
    exact mul_le_mul ha.upper hb.upper (value_nonneg b) ((value_nonneg a).trans ha.upper)
  one_le := by
    apply one_le_value_cut
    rw [value_product]
    exact one_le_mul_of_one_le_of_one_le ha.one_le hb.one_le

theorem near_pow (h : 1 ≤ a.value) {steps : Nat} (hn : n < 2 ^ steps) :
    Near (a.value ^ n) (4 * n - 2) (pow a n steps) := by
  induction steps generalizing n with
  | zero =>
    obtain rfl : n = 0 := by omega
    rw [pow_zero]
    exact near_one
  | succ steps ih =>
    rcases Nat.eq_zero_or_pos n with rfl | hpos
    · rw [pow_zero]
      exact near_one
    have hhalf := ih (show n / 2 < 2 ^ steps by omega)
    have hsquare := hhalf.mul hhalf
    have hne : (n == 0) = false := by
      rw [beq_eq_false_iff_ne]
      omega
    rw [pow, hne]
    by_cases hodd : n % 2 = 1
    · have hpow : a.value ^ n = a.value ^ (n / 2) * a.value ^ (n / 2) * a.value := by
        rw [← pow_add, ← pow_succ]
        congr 1
        omega
      simp only [hodd, beq_self_eq_true, Bool.false_eq_true, if_true, if_false]
      rw [hpow]
      exact (hsquare.mul (near_self h)).mono (by omega)
    · have hpow : a.value ^ n = a.value ^ (n / 2) * a.value ^ (n / 2) := by
        rw [← pow_add]
        congr 1
        omega
      have heven : (n % 2 == 1) = false := beq_eq_false_iff_ne.mpr hodd
      simp only [heven, Bool.false_eq_true, if_false]
      rw [hpow]
      exact hsquare.mono (by omega)

theorem kept_bound : 1 - 1 / 2 ^ 120 ≤ kept := by
  have hpow : (2 : ℚ) ^ 120 ≤ 2 ^ (bits - 1) := pow_le_pow_right₀ one_le_two (by decide)
  exact sub_le_sub_left (one_div_le_one_div_of_le (by positivity) hpow) 1

theorem le_kept_pow (n : Nat) : 1 - n * (1 / 2 ^ 120 : ℚ) ≤ kept ^ n := by
  have hbernoulli := one_add_mul_le_pow (show (-2 : ℚ) ≤ -(1 / 2 ^ 120) by norm_num) n
  rw [mul_neg, ← sub_eq_add_neg, ← sub_eq_add_neg] at hbernoulli
  refine hbernoulli.trans (pow_le_pow_left₀ (by norm_num) kept_bound n)

/-- With every factor above one by what floats are apart there, the cuts do not bring a power below the limit: there
are too few of them, or the power is far beyond it. -/
theorem Near.floatLimit_le {w : Wide} (h : Near (q ^ n) (4 * n - 2) w) (hgap : 1 + 1 / 2 ^ 52 ≤ q)
    (hlarge : 2 ^ 1024 ≤ q ^ n) : floatLimit ≤ w.value := by
  refine le_trans ?_ h.lower
  by_cases hn : n ≤ 2 ^ 64
  · have hfew : ((4 * n - 2 : Nat) : ℚ) ≤ 2 ^ 66 := by
      have : 4 * n - 2 ≤ 2 ^ 66 := by omega
      exact_mod_cast this
    have hkept : (1 : ℚ) - 1 / 2 ^ 54 ≤ kept ^ (4 * n - 2) := by
      refine le_trans ?_ (le_kept_pow _)
      have := mul_le_mul_of_nonneg_right hfew (show (0 : ℚ) ≤ 1 / 2 ^ 120 by positivity)
      norm_num at this ⊢
      linarith
    have hlimit : floatLimit = 2 ^ 1024 * (1 - 1 / 2 ^ 54) := by
      rw [floatLimit, mul_sub, mul_one, mul_one_div]
      congr 1
      rw [eq_div_iff (by positivity), ← pow_add]
    rw [hlimit]
    exact mul_le_mul hlarge hkept (by norm_num) ((by positivity : (0 : ℚ) ≤ 2 ^ 1024).trans hlarge)
  · have hfactor : 1 + 1 / 2 ^ 53 ≤ q * kept ^ 4 := by
      have hfour := le_kept_pow 4
      have hkept : (0 : ℚ) ≤ 1 - (4 : Nat) * (1 / 2 ^ 120) := by norm_num
      refine le_trans ?_ (mul_le_mul hgap hfour hkept (by linarith))
      norm_num
    have htwo : (2 : ℚ) ≤ (1 + 1 / 2 ^ 53) ^ 2 ^ 53 := by
      have hbernoulli := one_add_mul_le_pow (show (-2 : ℚ) ≤ 1 / 2 ^ 53 by norm_num) (2 ^ 53)
      refine le_trans (le_of_eq ?_) hbernoulli
      norm_num
    have hq : 0 ≤ q := le_trans (by positivity) hgap
    calc floatLimit ≤ 2 ^ 1024 := floatLimit_le_two_pow
      _ ≤ ((1 + 1 / 2 ^ 53) ^ 2 ^ 53) ^ 1024 := pow_le_pow_left₀ zero_le_two htwo 1024
      _ = (1 + 1 / 2 ^ 53) ^ (2 ^ 53 * 1024) := (pow_mul _ _ _).symm
      _ ≤ (1 + 1 / 2 ^ 53) ^ n := pow_le_pow_right₀ (le_add_of_nonneg_right (by positivity)) (by omega)
      _ ≤ (q * kept ^ 4) ^ n := pow_le_pow_left₀ (by positivity) hfactor n
      _ = q ^ n * kept ^ (4 * n) := by rw [mul_pow, ← pow_mul]
      _ ≤ q ^ n * kept ^ (4 * n - 2) :=
          mul_le_mul_of_nonneg_left (pow_le_pow_of_le_one kept_pos.le kept_le_one (Nat.sub_le _ _))
            (pow_nonneg hq n)

end Wide

theorem one_add_le_scaled {m : Nat} {e : Int} (hm : m < 2 ^ 53) (h : 1 < scaled m e) :
    1 + 1 / 2 ^ 52 ≤ scaled m e := by
  -- Over its power of two a float above one has a whole numerator above the denominator.
  obtain ⟨den, hden⟩ : ∃ den, den = 2 ^ (-e).toNat := ⟨_, rfl⟩
  have hpos : (0 : ℚ) < den := by
    rw [hden]
    positivity
  have hvalue : ((m * 2 ^ e.toNat : Nat) : ℚ) = scaled m e * den := by
    rw [hden, cast_quotient]
  have hmore : den + 1 ≤ m * 2 ^ e.toNat := by
    have hlt : (den : ℚ) < ((m * 2 ^ e.toNat : Nat) : ℚ) := by
      rw [hvalue]
      exact lt_mul_of_one_lt_left hpos h
    exact_mod_cast hlt
  have hsmall : den ≤ 2 ^ 52 := by
    rw [hden]
    apply Nat.pow_le_pow_right (by decide)
    by_contra hlarge
    have hzero : e.toNat = 0 := by omega
    have hwide : 2 ^ 53 ≤ 2 ^ (-e).toNat := Nat.pow_le_pow_right (by decide) (by omega)
    rw [hzero, Nat.pow_zero, Nat.mul_one] at hmore
    omega
  have hsmall' : (den : ℚ) / 2 ^ 52 ≤ 1 := (div_le_one (by positivity)).mpr (by exact_mod_cast hsmall)
  have hmore' : (den : ℚ) + 1 ≤ scaled m e * den := by
    rw [← hvalue]
    exact_mod_cast hmore
  rw [← mul_le_mul_iff_left₀ hpos, add_mul, one_mul, one_div_mul_eq_div]
  linarith

theorem ofFloat_one : Binary.ofFloat 1.0 = .finite false (2 ^ 52) (-52) := by
  rfl

theorem ofFloat_two : Binary.ofFloat 2.0 = .finite false (2 ^ 52) (-51) := by
  rfl

section

variable {x : Float} {m : Nat} {e : Int}

theorem power_zero (x : Float) : power x 0 = .ok 1.0 :=
  rfl

theorem power_infinite (h : Binary.ofFloat x = .infinite false) {n : Nat} (hn : n ≠ 0) :
    power x n = .ok infinity := by
  have hne : ((n : Int) == 0) = false := beq_eq_false_iff_ne.mpr (by omega)
  have hneg : ¬(n : Int) < 0 := by omega
  simp only [power, hne, h, Bool.false_and, withSign, if_neg hneg, Bool.false_eq_true, if_false]

theorem power_finite (h : Binary.ofFloat x = .finite false m e) (hm : m ≠ 0) {n : Nat} (hn : n ≠ 0) {w : Wide}
    (hw : w = Wide.pow ⟨m, e⟩ n (Nat.log2 n + 1)) :
    power x n = if isFinite (nearestScaled w.mant 1 w.exp) then .ok (nearestScaled w.mant 1 w.exp)
      else .error .tooLarge := by
  have hne : ((n : Int) == 0) = false := beq_eq_false_iff_ne.mpr (by omega)
  have hneg : ¬(n : Int) < 0 := by omega
  have hm' : (m == 0) = false := beq_eq_false_iff_ne.mpr hm
  simp only [power, hne, h, hm', Bool.false_and, withSign, if_neg hneg, Bool.false_eq_true, if_false,
    Int.natAbs_natCast, ← hw]

theorem power_cases (h : Binary.ofFloat x = .finite false m e) (hone : 1 ≤ scaled m e) (n : Nat) :
    (scaled m e ^ n < 2 ^ 1024 ∧ ∃ y m' e', power x n = .ok y ∧ Binary.ofFloat y = .finite false m' e' ∧ m' ≠ 0) ∨
      (floatLimit ≤ scaled m e ^ n ∧ power x n = .error .tooLarge) := by
  by_cases hn : n = 0
  · subst hn
    left
    refine ⟨?_, 1.0, 2 ^ 52, -52, power_zero x, ofFloat_one, by decide⟩
    rw [pow_zero]
    exact one_lt_pow₀ one_lt_two (by decide)
  have hcanonical := Binary.isCanonical_ofFloat x
  rw [h] at hcanonical
  have hm : m ≠ 0 := by
    rintro rfl
    rw [scaled, Nat.cast_zero, zero_mul] at hone
    linarith
  obtain ⟨w, hw⟩ : ∃ w, w = Wide.pow ⟨m, e⟩ n (Nat.log2 n + 1) := ⟨_, rfl⟩
  have hnear : Wide.Near (scaled m e ^ n) (4 * n - 2) w := by
    have hvalue : 1 ≤ Wide.value ⟨m, e⟩ := hone
    rw [hw]
    exact Wide.near_pow hvalue Nat.lt_log2_self
  have hpos : 0 < w.mant := by
    apply Nat.pos_of_ne_zero
    intro hzero
    have hvalue := hnear.one_le
    rw [Wide.value, scaled, hzero, Nat.cast_zero, zero_mul] at hvalue
    linarith
  rw [power_finite h hm hn hw]
  rcases ofFloat_nearestScaled hpos w.exp with ⟨hlt, m', e', hfinite, hzero⟩ | ⟨hle, hinfinite⟩
  · left
    constructor
    · by_contra hlarge
      rw [not_lt] at hlarge
      have hmore : 1 < scaled m e := by
        refine lt_of_le_of_ne hone fun heq => ?_
        rw [← heq, one_pow] at hlarge
        exact absurd hlarge (not_le.mpr (one_lt_pow₀ one_lt_two (by decide)))
      have hgap := one_add_le_scaled hcanonical.1 hmore
      exact absurd (hnear.floatLimit_le hgap hlarge) (not_le.mpr hlt)
    · refine ⟨_, m', e', ?_, hfinite, fun h => ?_⟩
      · simp only [isFinite, hfinite, if_true]
      · exact absurd hnear.one_le (not_le.mpr (hzero h))
  · right
    refine ⟨hle.trans hnear.upper, ?_⟩
    simp only [isFinite, hinfinite, Bool.false_eq_true, if_false]

end

end IssueQuery.Number
