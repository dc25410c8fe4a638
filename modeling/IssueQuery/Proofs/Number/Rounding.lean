import IssueQuery.Number.Quantity
import IssueQuery.Proofs.Number.Stored
import Mathlib.Algebra.Order.Field.Power
import Mathlib.Tactic.NormNum
import Mathlib.Tactic.Ring

namespace IssueQuery.Number

/-- Halfway between the largest float and the next power of two. -/
def floatLimit : ℚ :=
  2 ^ 1024 - 2 ^ 970

def scaled (mant : Nat) (exp : Int) : ℚ :=
  mant * 2 ^ exp

theorem scaled_nonneg (mant : Nat) (exp : Int) : 0 ≤ scaled mant exp := by
  rw [scaled]
  positivity

theorem scaled_eq_zero_iff {mant : Nat} {exp : Int} : scaled mant exp = 0 ↔ mant = 0 := by
  have hpow : (2 : ℚ) ^ exp ≠ 0 := by positivity
  rw [scaled, mul_eq_zero, Nat.cast_eq_zero, or_iff_left hpow]

theorem zpow_toNat (k : Int) : (2 : ℚ) ^ k.toNat = 2 ^ k * 2 ^ (-k).toNat := by
  rcases le_total 0 k with h | h
  · obtain ⟨n, rfl⟩ := Int.eq_ofNat_of_zero_le h
    simp
  · obtain ⟨n, hn⟩ := Int.eq_ofNat_of_zero_le (neg_nonneg.mpr h)
    obtain rfl : k = -n := by omega
    simp

theorem divEven_cases (num den : Nat) :
    (divEven num den = num / den ∧ 2 * (num % den) ≤ den) ∨
      (divEven num den = num / den + 1 ∧ den ≤ 2 * (num % den)) := by
  simp only [divEven, Bool.or_eq_true, decide_eq_true_eq, Bool.and_eq_true, beq_iff_eq]
  split <;> omega

theorem le_divEven {num den bound : Nat} (hden : 0 < den) (h : bound * den ≤ num) : bound ≤ divEven num den := by
  have hquotient := (Nat.le_div_iff_mul_le hden).mpr h
  rcases divEven_cases num den with ⟨heq, -⟩ | ⟨heq, -⟩ <;> omega

theorem divEven_le {num den bound : Nat} (hden : 0 < den) (h : num < bound * den) : divEven num den ≤ bound := by
  have hquotient := (Nat.div_lt_iff_lt_mul hden).mpr h
  rcases divEven_cases num den with ⟨heq, -⟩ | ⟨heq, -⟩ <;> omega

theorem divEven_one (num : Nat) : divEven num 1 = num := by
  simp [divEven, Nat.mod_one]

theorem lt_divEven_iff {num den top : Nat} (hden : 0 < den) (hodd : top % 2 = 1) (h : num < (top + 1) * den) :
    top < divEven num den ↔ (2 * top + 1) * den ≤ 2 * num := by
  have hmost : num / den < top + 1 := (Nat.div_lt_iff_lt_mul hden).mpr h
  have hsplit := Nat.div_add_mod num den
  have hdouble : (2 * top + 1) * den = 2 * (den * top) + den := by ring
  constructor
  · intro hlt
    rcases divEven_cases num den with ⟨heq, -⟩ | ⟨heq, hrest⟩
    · omega
    · obtain rfl : num / den = top := by omega
      omega
  · intro hle
    have hleast : top ≤ num / den := by
      rw [Nat.le_div_iff_mul_le hden, Nat.mul_comm]
      omega
    obtain rfl : num / den = top := by omega
    -- At a tie an odd quotient gives way to the next one.
    have hup : 2 * (num % den) > den ∨ 2 * (num % den) = den ∧ num / den % 2 = 1 := by omega
    have hnext : divEven num den = num / den + 1 := by
      rw [divEven, if_pos]
      simpa using hup
    omega

theorem ofFloat_assemble {mant : Nat} {exp : Int} (hmant : mant ≤ 2 ^ 53) (hlow : -1074 ≤ exp)
    (hlong : 2 ^ 52 ≤ mant ∨ exp = -1074) (hfits : (exp + 1074).toNat * 2 ^ 52 + mant < 2047 * 2 ^ 52) :
    Binary.ofFloat (assemble mant exp) =
      if mant = 2 ^ 53 then .finite false (2 ^ 52) (exp + 1) else .finite false mant exp := by
  have hbits : (UInt64.ofNat ((exp + 1074).toNat * 2 ^ 52 + mant)).toNat = (exp + 1074).toNat * 2 ^ 52 + mant := by
    rw [UInt64.toNat_ofNat']
    exact Nat.mod_eq_of_lt (by omega)
  have hsign : ((exp + 1074).toNat * 2 ^ 52 + mant) / 2 ^ 63 = 0 := by omega
  rw [assemble]
  simp only [ge_iff_le, Nat.not_le.mpr hfits, if_false]
  rw [Binary.ofFloat_ofBits, hbits, hsign, Binary.ofFields]
  by_cases hcarry : mant = 2 ^ 53
  · rw [if_neg (by omega), if_neg (by omega), if_pos hcarry]
    show Binary.finite false _ _ = _
    congr 1 <;> omega
  · rw [if_neg hcarry]
    by_cases hnormal : 2 ^ 52 ≤ mant
    · rw [if_neg (by omega), if_neg (by omega)]
      show Binary.finite false _ _ = _
      congr 1 <;> omega
    · rw [if_neg (by omega), if_pos (by omega)]
      show Binary.finite false _ _ = _
      congr 1 <;> omega

section

variable {mant : Nat} {exp e : Int}

theorem nearestScaled_guess (exp : Int) (hpos : 0 < mant) :
    (mant == 0 || (1 : Nat) == 0) = false ∧
      (mant.log2 : Int) - (Nat.log2 1 : Nat) - 52 + exp = mant.log2 + exp - 52 := by
  have hone : Nat.log2 1 = 0 := by decide
  constructor
  · simp only [Bool.or_eq_false_iff, beq_eq_false_iff_ne]
    omega
  · omega

theorem nearestScaled_of_huge (hpos : 0 < mant) (h : mant.log2 + exp - 52 > 1100) :
    nearestScaled mant 1 exp = infinity := by
  obtain ⟨hnone, hguess⟩ := nearestScaled_guess exp hpos
  simp only [nearestScaled, hnone, hguess, Bool.false_eq_true, if_false, if_pos h]

theorem nearestScaled_of_tiny (hpos : 0 < mant) (h : mant.log2 + exp - 52 < -1200) :
    nearestScaled mant 1 exp = 0.0 := by
  obtain ⟨hnone, hguess⟩ := nearestScaled_guess exp hpos
  have hsmall : ¬(mant.log2 : Int) + exp - 52 > 1100 := by omega
  simp only [nearestScaled, hnone, hguess, Bool.false_eq_true, if_false, if_neg hsmall, if_pos h]

theorem long_quotient (hpos : 0 < mant) (he : e = max (mant.log2 + exp - 52) (-1074)) :
    e = -1074 ∨ 2 ^ 52 * 2 ^ (-(exp - e)).toNat ≤ mant * 2 ^ (exp - e).toNat := by
  -- Above the least exponent the quotient has 53 bits.
  by_cases hlow : mant.log2 + exp - 52 ≤ -1074
  · exact .inl (by omega)
  · right
    calc 2 ^ 52 * 2 ^ (-(exp - e)).toNat = 2 ^ mant.log2 * 2 ^ (exp - e).toNat := by
          rw [← Nat.pow_add, ← Nat.pow_add]
          congr 1
          omega
      _ ≤ mant * 2 ^ (exp - e).toNat := Nat.mul_le_mul_right _ (Nat.log2_self_le (Nat.ne_of_gt hpos))

theorem short_quotient (he : e = max (mant.log2 + exp - 52) (-1074)) :
    mant * 2 ^ (exp - e).toNat < 2 ^ 53 * 2 ^ (-(exp - e)).toNat := by
  calc mant * 2 ^ (exp - e).toNat < 2 ^ (mant.log2 + 1) * 2 ^ (exp - e).toNat :=
        Nat.mul_lt_mul_of_pos_right Nat.lt_log2_self (Nat.two_pow_pos _)
    _ ≤ 2 ^ 53 * 2 ^ (-(exp - e)).toNat := by
        rw [← Nat.pow_add, ← Nat.pow_add]
        exact Nat.pow_le_pow_right (by decide) (by omega)

theorem nearestScaled_eq (hpos : 0 < mant) (hlow : -1200 ≤ mant.log2 + exp - 52)
    (hhigh : mant.log2 + exp - 52 ≤ 1100) (he : e = max (mant.log2 + exp - 52) (-1074)) :
    nearestScaled mant 1 exp =
      assemble (divEven (mant * 2 ^ (exp - e).toNat) (2 ^ (-(exp - e)).toNat)) e := by
  obtain ⟨hnone, hguess⟩ := nearestScaled_guess exp hpos
  have hkeep : (decide (mant * 2 ^ (exp - e).toNat < 2 ^ (-(exp - e)).toNat * 2 ^ 52) &&
      decide (e > -1074)) = false := by
    rcases long_quotient hpos he with h | h
    · rw [decide_eq_false (by omega : ¬e > -1074), Bool.and_false]
    · rw [Nat.mul_comm] at h
      rw [decide_eq_false (Nat.not_lt.mpr h), Bool.false_and]
  rw [nearestScaled]
  simp only [hnone, hguess, ← he, Bool.false_eq_true, if_false, Nat.one_mul]
  rw [if_neg (by omega), if_neg (by omega)]
  simp only [hkeep, Bool.false_eq_true, if_false]

end

theorem quotient_eq (mant : Nat) (exp e : Int) :
    ((mant * 2 ^ (exp - e).toNat : Nat) : ℚ) * 2 ^ e = scaled mant exp * ((2 ^ (-(exp - e)).toNat : Nat) : ℚ) := by
  have hexp : (2 : ℚ) ^ exp = 2 ^ (exp - e) * 2 ^ e := by
    rw [← zpow_add₀ (by norm_num)]
    congr 1
    omega
  push_cast
  rw [zpow_toNat (exp - e), scaled, hexp]
  ring

theorem cast_quotient (mant : Nat) (exp : Int) :
    ((mant * 2 ^ exp.toNat : Nat) : ℚ) = scaled mant exp * ((2 ^ (-exp).toNat : Nat) : ℚ) := by
  have h := quotient_eq mant exp 0
  rwa [Int.sub_zero, zpow_zero, mul_one] at h

theorem le_quotient_iff (bound mant : Nat) (exp e : Int) :
    bound * 2 ^ (-(exp - e)).toNat ≤ mant * 2 ^ (exp - e).toNat ↔ (bound : ℚ) * 2 ^ e ≤ scaled mant exp := by
  have hden : (0 : ℚ) < ((2 ^ (-(exp - e)).toNat : Nat) : ℚ) := by positivity
  have hgrid : (0 : ℚ) < 2 ^ e := by positivity
  rw [← Nat.cast_le (α := ℚ), ← mul_le_mul_iff_left₀ hgrid, quotient_eq, Nat.cast_mul, mul_right_comm,
    mul_le_mul_iff_left₀ hden]

theorem scaled_binade {mant : Nat} (hpos : 0 < mant) (exp : Int) :
    2 ^ (mant.log2 + exp) ≤ scaled mant exp ∧ scaled mant exp < 2 ^ (mant.log2 + exp + 1) := by
  have hgrid : (0 : ℚ) < 2 ^ exp := by positivity
  have hleast : ((2 ^ mant.log2 : Nat) : ℚ) ≤ mant := Nat.cast_le.mpr (Nat.log2_self_le (Nat.ne_of_gt hpos))
  have hmost : (mant : ℚ) < ((2 ^ (mant.log2 + 1) : Nat) : ℚ) := Nat.cast_lt.mpr Nat.lt_log2_self
  push_cast at hleast hmost
  constructor
  · rw [zpow_add₀ (by norm_num), zpow_natCast, scaled]
    exact mul_le_mul_of_nonneg_right hleast hgrid.le
  · rw [Int.add_right_comm, zpow_add₀ (by norm_num), scaled]
    have hsucc : (2 : ℚ) ^ ((mant.log2 : Int) + 1) = 2 ^ (mant.log2 + 1) := by
      rw [← zpow_natCast]
      rfl
    rw [hsucc]
    exact mul_lt_mul_of_pos_right hmost hgrid

theorem floatLimit_eq : floatLimit = (2 ^ 54 - 1) * 2 ^ 970 := by
  rw [floatLimit, sub_mul, one_mul, ← pow_add]

theorem lt_floatLimit : 2 ^ (1023 : Int) < floatLimit := by
  have hpow : (2 : ℚ) ^ (1023 : Int) = 2 ^ 53 * 2 ^ 970 := by
    rw [zpow_ofNat, ← pow_add]
  rw [hpow, floatLimit_eq]
  exact mul_lt_mul_of_pos_right (by norm_num) (by positivity)

theorem two_pow_lt_floatLimit {n : Nat} (h : n < 1024) : (2 : ℚ) ^ n < floatLimit := by
  refine lt_of_le_of_lt ?_ lt_floatLimit
  rw [← zpow_natCast]
  exact zpow_le_zpow_right₀ one_le_two (by omega)

theorem floatLimit_le_two_pow : floatLimit ≤ 2 ^ 1024 :=
  sub_le_self _ (by positivity)

theorem floatLimit_le : floatLimit ≤ 2 ^ (1024 : Int) := by
  rw [zpow_ofNat]
  exact floatLimit_le_two_pow

theorem two_mul_floatLimit : 2 * floatLimit = ((2 * (2 ^ 53 - 1) + 1 : Nat) : ℚ) * 2 ^ (971 : Int) := by
  have hpow : (2 : ℚ) ^ (971 : Int) = 2 * 2 ^ 970 := by
    rw [zpow_ofNat, ← pow_succ']
  have hodd : ((2 * (2 ^ 53 - 1) + 1 : Nat) : ℚ) = 2 ^ 54 - 1 := by norm_num
  rw [floatLimit_eq, hpow, hodd]
  exact mul_left_comm _ _ _

theorem ofFloat_infinity : Binary.ofFloat infinity = .infinite false := by
  rw [infinity, Binary.ofFloat_ofBits]
  rfl

theorem ofFloat_zero : Binary.ofFloat 0.0 = .finite false 0 (-1074) := by
  rfl

theorem ofFloat_nearestScaled {mant : Nat} (hpos : 0 < mant) (exp : Int) :
    (scaled mant exp < floatLimit ∧ ∃ m e, Binary.ofFloat (nearestScaled mant 1 exp) = .finite false m e ∧
        (m = 0 → scaled mant exp < 1)) ∨
      (floatLimit ≤ scaled mant exp ∧ Binary.ofFloat (nearestScaled mant 1 exp) = .infinite false) := by
  obtain ⟨hleast, hmost⟩ := scaled_binade hpos exp
  have hmono {i j : Int} (h : i ≤ j) : (2 : ℚ) ^ i ≤ 2 ^ j := zpow_le_zpow_right₀ (by norm_num) h
  by_cases hhuge : mant.log2 + exp - 52 > 1100
  · right
    rw [nearestScaled_of_huge hpos hhuge]
    exact ⟨floatLimit_le.trans ((hmono (by omega)).trans hleast), ofFloat_infinity⟩
  by_cases htiny : mant.log2 + exp - 52 < -1200
  · left
    have hbelow : scaled mant exp < 1 := hmost.trans_le ((hmono (by omega)).trans_eq (zpow_zero 2))
    have hlimit : 1 ≤ floatLimit := (one_le_zpow₀ (by norm_num) (by norm_num)).trans lt_floatLimit.le
    rw [nearestScaled_of_tiny hpos htiny]
    exact ⟨hbelow.trans_le hlimit, 0, -1074, ofFloat_zero, fun _ => hbelow⟩
  obtain ⟨e, he⟩ : ∃ e : Int, e = max (mant.log2 + exp - 52) (-1074) := ⟨_, rfl⟩
  rw [nearestScaled_eq hpos (by omega) (by omega) he]
  have hden : 0 < 2 ^ (-(exp - e)).toNat := Nat.two_pow_pos _
  have hshort := short_quotient he
  have hlong := long_quotient hpos he
  obtain ⟨q, hq⟩ : ∃ q, q = divEven (mant * 2 ^ (exp - e).toNat) (2 ^ (-(exp - e)).toNat) := ⟨_, rfl⟩
  have hqshort : q ≤ 2 ^ 53 := hq ▸ divEven_le hden hshort
  have hqlong : e = -1074 ∨ 2 ^ 52 ≤ q := hlong.imp_right fun h => hq ▸ le_divEven hden h
  -- At the largest exponent the last number with 53 bits is odd, so a tie leaves the floats.
  have htop (h : e = 971) : 2 ^ 53 - 1 < q ↔ floatLimit ≤ scaled mant exp := by
    have hdouble : scaled (2 * mant) exp = 2 * scaled mant exp := by
      rw [scaled, scaled, Nat.cast_mul, mul_assoc]
      rfl
    rw [hq, lt_divEven_iff hden (by decide) hshort, ← Nat.mul_assoc, le_quotient_iff, h, ← two_mul_floatLimit,
      hdouble]
    exact mul_le_mul_iff_right₀ two_pos
  rw [← hq]
  by_cases hfits : (e + 1074).toNat * 2 ^ 52 + q < 2047 * 2 ^ 52
  · left
    have hbelow : scaled mant exp < floatLimit := by
      by_cases h : e = 971
      · rw [← not_le, ← htop h]
        omega
      · exact hmost.trans_le ((hmono (by omega)).trans lt_floatLimit.le)
    refine ⟨hbelow, ?_⟩
    rw [ofFloat_assemble hqshort (by omega) hqlong.symm hfits]
    split
    · exact ⟨_, _, rfl, fun h => absurd h (by decide)⟩
    · refine ⟨_, _, rfl, fun h => ?_⟩
      exact hmost.trans_le ((hmono (by omega)).trans_eq (zpow_zero 2))
  · right
    refine ⟨?_, ?_⟩
    · by_cases h : e = 971
      · rw [← htop h]
        omega
      · exact floatLimit_le.trans ((hmono (by omega)).trans hleast)
    · rw [assemble, if_pos (by omega)]
      exact ofFloat_infinity

theorem scaled_zero (n : Nat) : scaled n 0 = n := by
  rw [scaled, zpow_zero, mul_one]

theorem ofInt_natCast (n : Nat) : ofInt n = nearestScaled n 1 0 := by
  have hsign : decide ((n : Int) < 0) = false := decide_eq_false (by omega)
  rw [ofInt, nearest, hsign, Int.natAbs_natCast, withSign, if_neg Bool.false_ne_true]

theorem ofFloat_ofInt_zero : Binary.ofFloat (ofInt 0) = .finite false 0 (-1074) := by
  have hnone : nearestScaled 0 1 0 = 0.0 := by
    have hzero : ((0 : Nat) == 0 || (1 : Nat) == 0) = true := rfl
    rw [nearestScaled, if_pos hzero]
  have hzero : ofInt 0 = nearestScaled 0 1 0 := ofInt_natCast 0
  rw [hzero, hnone, ofFloat_zero]

theorem floatOfWhole_of_finite {n : Int} {negative : Bool} {m : Nat} {e : Int}
    (h : Binary.ofFloat (ofInt n) = .finite negative m e) : floatOfWhole n = .ok (ofInt n) := by
  simp only [floatOfWhole, isFinite, h, if_true]

theorem roundedWhole_of_finite {n : Int} {negative : Bool} {m : Nat} {e : Int}
    (h : Binary.ofFloat (ofInt n) = .finite negative m e) : roundedWhole n = .ok (integerPart negative m e) := by
  rw [roundedWhole, floatOfWhole_of_finite h]
  simp only [bind, Except.bind, h, pure, Except.pure]

theorem ofFloat_ofInt (n : Nat) :
    ((n : ℚ) < floatLimit ∧ ∃ m e, Binary.ofFloat (ofInt n) = .finite false m e ∧ (m = 0 → n = 0)) ∨
      (floatLimit ≤ n ∧ Binary.ofFloat (ofInt n) = .infinite false) := by
  rcases Nat.eq_zero_or_pos n with rfl | hpos
  · left
    exact ⟨lt_trans (by positivity) lt_floatLimit, 0, -1074, ofFloat_ofInt_zero, fun _ => rfl⟩
  have hrounded := ofFloat_nearestScaled hpos 0
  rw [scaled_zero, ← ofInt_natCast] at hrounded
  rcases hrounded with ⟨hlt, m, e, hfinite, hzero⟩ | ⟨hle, hinfinite⟩
  · left
    refine ⟨hlt, m, e, hfinite, fun h => ?_⟩
    have hone : n < 1 := by exact_mod_cast hzero h
    omega
  · exact .inr ⟨hle, hinfinite⟩

theorem ofFloat_ofInt_of_lt {n : Nat} (hpos : 0 < n) (h : n < 2 ^ 53) :
    Binary.ofFloat (ofInt n) = .finite false (n * 2 ^ (52 - n.log2)) (n.log2 - 52) := by
  have hlog := (Nat.log2_lt (Nat.ne_of_gt hpos)).mpr h
  have hleast := Nat.log2_self_le (Nat.ne_of_gt hpos)
  have hmost : n < 2 ^ (n.log2 + 1) := Nat.lt_log2_self
  have he : (n.log2 : Int) - 52 = max ((n.log2 : Int) + 0 - 52) (-1074) := by omega
  have hup : ((0 : Int) - (n.log2 - 52)).toNat = 52 - n.log2 := by omega
  have hdown : (-((0 : Int) - (n.log2 - 52))).toNat = 0 := by omega
  have hlow : 2 ^ 52 ≤ n * 2 ^ (52 - n.log2) := by
    calc 2 ^ 52 = 2 ^ n.log2 * 2 ^ (52 - n.log2) := by
          rw [← Nat.pow_add]
          congr 1
          omega
      _ ≤ n * 2 ^ (52 - n.log2) := Nat.mul_le_mul_right _ hleast
  have hhigh : n * 2 ^ (52 - n.log2) < 2 ^ 53 := by
    calc n * 2 ^ (52 - n.log2) < 2 ^ (n.log2 + 1) * 2 ^ (52 - n.log2) :=
          Nat.mul_lt_mul_of_pos_right hmost (Nat.two_pow_pos _)
      _ = 2 ^ 53 := by
          rw [← Nat.pow_add]
          congr 1
          omega
  rw [ofInt_natCast, nearestScaled_eq hpos (by omega) (by omega) he, hup, hdown, Nat.pow_zero, divEven_one,
    ofFloat_assemble (by omega) (by omega) (.inl hlow) (by omega), if_neg (by omega)]

theorem floatOfWhole_cases (n : Nat) :
    ((n : ℚ) < floatLimit ∧ floatOfWhole n = .ok (ofInt n)) ∨
      (floatLimit ≤ n ∧ floatOfWhole n = .error .wholeTooLarge) := by
  rcases ofFloat_ofInt n with ⟨hlt, m, e, hfinite, -⟩ | ⟨hle, hinfinite⟩
  · exact .inl ⟨hlt, floatOfWhole_of_finite hfinite⟩
  · right
    refine ⟨hle, ?_⟩
    simp only [floatOfWhole, isFinite, hinfinite, Bool.false_eq_true, if_false]

theorem roundedWhole_cases (n : Nat) :
    ((n : ℚ) < floatLimit ∧ ∃ k : Nat, roundedWhole n = .ok k) ∨
      (floatLimit ≤ n ∧ roundedWhole n = .error .wholeTooLarge) := by
  rcases ofFloat_ofInt n with ⟨hlt, m, e, hfinite, -⟩ | ⟨hle, -⟩
  · left
    refine ⟨hlt, m * 2 ^ e.toNat / 2 ^ (-e).toNat, ?_⟩
    rw [roundedWhole_of_finite hfinite]
    simp [integerPart]
  · right
    rcases floatOfWhole_cases n with ⟨hlt, -⟩ | ⟨-, herror⟩
    · exact absurd hlt (not_lt.mpr hle)
    · rw [roundedWhole, herror]
      exact ⟨hle, rfl⟩

theorem roundedWhole_of_lt {n : Nat} (h : n < 2 ^ 53) : roundedWhole n = .ok (n : Int) := by
  rcases Nat.eq_zero_or_pos n with rfl | hpos
  · rw [Nat.cast_zero, roundedWhole_of_finite ofFloat_ofInt_zero, integerPart, Nat.cast_zero, zero_mul,
      Int.zero_ediv]
    rfl
  · rw [roundedWhole_of_finite (ofFloat_ofInt_of_lt hpos h)]
    have hlog := (Nat.log2_lt (Nat.ne_of_gt hpos)).mpr h
    have hup : ((n.log2 : Int) - 52).toNat = 0 := by omega
    have hdown : (-((n.log2 : Int) - 52)).toNat = 52 - n.log2 := by omega
    have hpow : (0 : Int) < 2 ^ (52 - n.log2) := Int.pow_pos (by decide)
    rw [integerPart, hup, hdown, Nat.cast_mul, Nat.cast_pow, Int.pow_zero, Int.mul_one]
    show Except.ok ((n : Int) * 2 ^ (52 - n.log2) / 2 ^ (52 - n.log2)) = _
    rw [Int.mul_ediv_cancel _ hpow.ne']

end IssueQuery.Number
