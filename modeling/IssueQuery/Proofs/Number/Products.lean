import IssueQuery.Proofs.Number.Stored

namespace IssueQuery.Number.Binary

open Float.Model (Format UnpackedFloat totalExponent)
open Float.Model.UnpackedFloat (Sign Accuracy ExtendedMantissa shiftToTargetExponent roundWithAccuracy)

def Nonneg : Binary → Prop
  | .nan => False
  | .infinite negative => negative = false
  | .finite negative mant _ => negative = false ∨ mant = 0

theorem nonneg_ofFields {field fraction : Nat} (h : field = 2047 → fraction = 0) :
    (ofFields false field fraction).Nonneg := by
  rw [ofFields]
  split
  · rename_i hfield
    rw [if_pos (h hfield)]
    rfl
  · split <;> exact .inl rfl

theorem nonneg_stored {mant : Nat} {exp : Int} (hpos : 0 < mant) :
    (stored (.finite .positive mant exp hpos)).Nonneg := by
  rw [stored_eq, pack_finite]
  split
  · exact rfl
  · rename_i hfits
    split
    · rw [ofUnpacked_packComponents]
      apply nonneg_ofFields
      intro hfield
      rw [BitVec.toNat_ofNat] at hfield
      have hmod : (exp + 1023 + 52).toNat % 2048 = 2047 := hfield
      omega
    · rw [ofUnpacked_packComponents]
      exact nonneg_ofFields fun h => absurd h (by decide)

theorem targetExponent_eq (mant : Nat) (exp : Int) :
    Format.binary64.targetExponent (totalExponent mant exp) = max (mant.log2 + exp - 52) (-1074) := by
  show max ((mant.log2 + 1 + exp : Int) - 53) (-1074) = _
  omega

theorem mantissa_shiftRight (em : ExtendedMantissa) (n : Nat) :
    (em >>> n).mantissa = em.mantissa / 2 ^ n := by
  induction n with
  | zero => exact (Nat.div_one _).symm
  | succ n ih =>
    show (em >>> n).mantissa / 2 = _
    rw [ih, Nat.div_div_eq_div_mul, Nat.pow_succ]

theorem mantissa_ofAccuracy (mant : Nat) (accuracy : Accuracy) :
    (ExtendedMantissa.ofMantissaAndAccuracy mant accuracy).mantissa = mant := by
  rcases accuracy with _ | (_ | _ | _) <;> rfl

theorem roundedMantissa_bounds (em : ExtendedMantissa) :
    em.mantissa ≤ em.roundedMantissa ∧ em.roundedMantissa ≤ em.mantissa + 1 := by
  rcases em with ⟨mant, _ | _, _ | _⟩ <;>
    simp only [ExtendedMantissa.roundedMantissa, ExtendedMantissa.accuracy, Accuracy.roundToNearestEven] <;> omega

def excess (mant : Nat) (exp : Int) : Nat :=
  (max (mant.log2 + exp - 52) (-1074) - exp).toNat

theorem shiftToTargetExponent_eq (mant : Nat) (exp : Int) (accuracy : Accuracy) :
    ((shiftToTargetExponent Format.binary64 mant exp accuracy).1.mantissa = mant / 2 ^ excess mant exp) ∧
      (shiftToTargetExponent Format.binary64 mant exp accuracy).2 = exp + excess mant exp := by
  rw [shiftToTargetExponent, targetExponent_eq]
  refine ⟨?_, rfl⟩
  show (ExtendedMantissa.ofMantissaAndAccuracy mant accuracy >>> excess mant exp).mantissa = _
  rw [mantissa_shiftRight, mantissa_ofAccuracy]

theorem div_excess_lt (mant : Nat) (exp : Int) : mant / 2 ^ excess mant exp < 2 ^ 53 := by
  have hlog : mant.log2 + 1 ≤ 53 + excess mant exp := by
    rw [excess]
    omega
  rw [Nat.div_lt_iff_lt_mul (Nat.two_pow_pos _), ← Nat.pow_add]
  exact Nat.lt_of_lt_of_le Nat.lt_log2_self (Nat.pow_le_pow_right (by decide) hlog)

theorem excess_eq_zero {mant : Nat} {exp : Int} (hmant : mant < 2 ^ 53) (hexp : -1074 ≤ exp) :
    excess mant exp = 0 := by
  have hlog : mant.log2 ≤ 52 := by
    rcases Nat.eq_zero_or_pos mant with rfl | hpos
    · decide
    · have := (Nat.log2_lt (Nat.ne_of_gt hpos)).mpr hmant
      omega
  rw [excess]
  omega

theorem excess_carry {exp : Int} (hexp : -1074 ≤ exp) : excess (2 ^ 53) exp = 1 := by
  rw [excess, Nat.log2_two_pow]
  omega

theorem add_excess {mant : Nat} {exp : Int} (h : 52 ≤ mant.log2 ∨ exp ≤ -1074) :
    exp + excess mant exp = max (mant.log2 + exp - 52) (-1074) := by
  rw [excess]
  omega

theorem long_div_excess {mant : Nat} {exp : Int} (hpos : 0 < mant) (h : 52 ≤ mant.log2 ∨ exp ≤ -1074) :
    exp + excess mant exp = -1074 ∨ 2 ^ 52 ≤ mant / 2 ^ excess mant exp := by
  have htarget := add_excess h
  by_cases hlow : (mant.log2 : Int) + exp - 52 ≤ -1074
  · exact .inl (by omega)
  · right
    have hlog : mant.log2 = 52 + excess mant exp := by omega
    rw [Nat.le_div_iff_mul_le (Nat.two_pow_pos _), ← Nat.pow_add, ← hlog]
    exact Nat.log2_self_le (Nat.ne_of_gt hpos)

theorem lt_of_div_excess_eq_zero {mant : Nat} {exp : Int} (hpos : 0 < mant)
    (h : mant / 2 ^ excess mant exp = 0) : mant.log2 + exp < -1074 := by
  have hlt := (Nat.div_eq_zero_iff_lt (Nat.two_pow_pos _)).mp h
  have hlog := (Nat.log2_lt (Nat.ne_of_gt hpos)).mpr hlt
  rw [excess] at hlog
  omega

def IsRounded (sign : Sign) (top : Int) (u : UnpackedFloat) : Prop :=
  (u = .zero sign ∧ top < -1074) ∨
    ∃ m e hm, u = .finite sign m e hm ∧ m < 2 ^ 53 ∧ (2 ^ 52 ≤ m ∨ e = -1074) ∧ -1074 ≤ e ∧
      e ≤ max (top - 52) (-1074) + 1

theorem roundWithAccuracy_eq (sign : Sign) {mant : Nat} {exp e₁ e₂ : Int} {accuracy : Accuracy}
    {em₁ em₂ : ExtendedMantissa} (hfirst : shiftToTargetExponent Format.binary64 mant exp accuracy = (em₁, e₁))
    (hsecond : shiftToTargetExponent Format.binary64 em₁.roundedMantissa e₁ .exact = (em₂, e₂)) :
    roundWithAccuracy Format.binary64 sign mant exp accuracy =
      if h : em₂.mantissa = 0 then .zero sign
      else .finite sign em₂.mantissa e₂ (Nat.pos_of_ne_zero h) := by
  rw [roundWithAccuracy, hfirst]
  dsimp only
  rw [hsecond]

theorem isRounded_roundWithAccuracy (sign : Sign) {mant : Nat} {exp : Int} (accuracy : Accuracy)
    (hpos : 0 < mant) (h : 52 ≤ mant.log2 ∨ exp ≤ -1074) :
    IsRounded sign (mant.log2 + exp) (roundWithAccuracy Format.binary64 sign mant exp accuracy) := by
  obtain ⟨hcut, hexp⟩ := shiftToTargetExponent_eq mant exp accuracy
  rcases hfirst : shiftToTargetExponent Format.binary64 mant exp accuracy with ⟨em, e₁⟩
  rw [hfirst] at hcut hexp
  obtain ⟨hleast, hmost⟩ := roundedMantissa_bounds em
  have hshort := div_excess_lt mant exp
  have htarget := add_excess h
  obtain ⟨hcut', hexp'⟩ := shiftToTargetExponent_eq em.roundedMantissa e₁ .exact
  rcases hsecond : shiftToTargetExponent Format.binary64 em.roundedMantissa e₁ .exact with ⟨em₂, e₂⟩
  rw [hsecond] at hcut' hexp'
  simp only at hcut hexp hcut' hexp'
  have hlong : e₁ = -1074 ∨ 2 ^ 52 ≤ em.mantissa := by
    rw [hexp, hcut]
    exact long_div_excess hpos h
  rw [roundWithAccuracy_eq sign hfirst hsecond]
  by_cases hzero : em.roundedMantissa = 0
  · left
    have hfinal : em₂.mantissa = 0 := by rw [hcut', hzero, Nat.zero_div]
    exact ⟨dif_pos hfinal, lt_of_div_excess_eq_zero hpos (by omega)⟩
  · right
    rcases Nat.lt_or_ge em.roundedMantissa (2 ^ 53) with hlt | hge
    · have hkeep : excess em.roundedMantissa e₁ = 0 := excess_eq_zero hlt (by omega)
      have hfinal : em₂.mantissa = em.roundedMantissa := by rw [hcut', hkeep, Nat.pow_zero, Nat.div_one]
      have hne : ¬em₂.mantissa = 0 := by omega
      exact ⟨em₂.mantissa, e₂, Nat.pos_of_ne_zero hne, dif_neg hne, by omega, by omega, by omega, by omega⟩
    · have hcarry : em.roundedMantissa = 2 ^ 53 := by omega
      have hone : excess em.roundedMantissa e₁ = 1 := by
        rw [hcarry]
        exact excess_carry (by omega)
      have hfinal : em₂.mantissa = 2 ^ 52 := by rw [hcut', hone, hcarry]
      have hne : ¬em₂.mantissa = 0 := by omega
      exact ⟨em₂.mantissa, e₂, Nat.pos_of_ne_zero hne, dif_neg hne, by omega, by omega, by omega, by omega⟩

theorem log2_shiftLeft {mant : Nat} (n : Nat) (hpos : 0 < mant) : (mant <<< n).log2 = mant.log2 + n := by
  have hpos' : 0 < mant * 2 ^ n := Nat.mul_pos hpos (Nat.two_pow_pos n)
  rw [Nat.shiftLeft_eq, Nat.log2_eq_iff (Nat.ne_of_gt hpos'), Nat.pow_add, Nat.add_right_comm, Nat.pow_add]
  have hlow := Nat.log2_self_le (Nat.ne_of_gt hpos)
  have hhigh : mant < 2 ^ (mant.log2 + 1) := Nat.lt_log2_self
  exact ⟨Nat.mul_le_mul_right _ hlow, Nat.mul_lt_mul_of_pos_right hhigh (Nat.two_pow_pos n)⟩

theorem isRounded_round (sign : Sign) {mant : Nat} {exp : Int} (hpos : 0 < mant) :
    IsRounded sign (mant.log2 + exp) (UnpackedFloat.round Format.binary64 sign mant exp) := by
  obtain ⟨n, hn⟩ : ∃ n, n = (exp - max (mant.log2 + exp - 52) (-1074)).toNat := ⟨_, rfl⟩
  have hround : UnpackedFloat.round Format.binary64 sign mant exp =
      roundWithAccuracy Format.binary64 sign (mant <<< n) (exp - n) .exact := by
    rw [UnpackedFloat.round, targetExponent_eq, hn]
    rfl
  have hlog := log2_shiftLeft n hpos
  have hpos' : 0 < mant <<< n := by
    rw [Nat.shiftLeft_eq]
    exact Nat.mul_pos hpos (Nat.two_pow_pos n)
  have hsum : (mant.log2 : Int) + exp = (mant <<< n).log2 + (exp - n) := by omega
  rw [hround, hsum]
  exact isRounded_roundWithAccuracy sign .exact hpos' (by omega)

theorem ofFloat_mul (x y : Float) : ofFloat (x * y) =
    stored (UnpackedFloat.mul Format.binary64 x.toModel.unpack y.toModel.unpack) := by
  rw [ofFloat_eq]
  rfl

theorem ofFloat_add (x y : Float) : ofFloat (x + y) =
    stored (UnpackedFloat.add Format.binary64 x.toModel.unpack y.toModel.unpack) := by
  rw [ofFloat_eq]
  rfl

def IsZero (b : Binary) : Prop :=
  ∃ negative exp, b = .finite negative 0 exp

def IsInfinite (b : Binary) : Prop :=
  ∃ negative, b = .infinite negative

theorem nonneg_roundWithAccuracy (mant : Nat) (exp : Int) (accuracy : Accuracy) :
    (stored (roundWithAccuracy Format.binary64 .positive mant exp accuracy)).Nonneg := by
  rcases hfirst : shiftToTargetExponent Format.binary64 mant exp accuracy with ⟨em₁, e₁⟩
  rcases hsecond : shiftToTargetExponent Format.binary64 em₁.roundedMantissa e₁ .exact with ⟨em₂, e₂⟩
  rw [roundWithAccuracy_eq .positive hfirst hsecond]
  by_cases hzero : em₂.mantissa = 0
  · rw [dif_pos hzero]
    exact .inl rfl
  · rw [dif_neg hzero]
    exact nonneg_stored _

variable {x y : Float}

theorem unpack_of_nan (h : ofFloat x = .nan) : x.toModel.unpack = .notANumber := by
  rw [ofFloat_eq] at h
  cases hu : x.toModel.unpack with
  | notANumber => rfl
  | _ => rw [hu] at h; cases h

theorem unpack_of_isZero (h : (ofFloat x).IsZero) : ∃ sign, x.toModel.unpack = .zero sign := by
  obtain ⟨_, _, h⟩ := h
  rw [ofFloat_eq] at h
  cases hu : x.toModel.unpack with
  | zero sign => exact ⟨sign, rfl⟩
  | finite sign mant exp hpos =>
    rw [hu] at h
    cases h
    cases hpos
  | _ => rw [hu] at h; cases h

theorem unpack_of_isInfinite (h : (ofFloat x).IsInfinite) : ∃ sign, x.toModel.unpack = .infinity sign := by
  obtain ⟨_, h⟩ := h
  rw [ofFloat_eq] at h
  cases hu : x.toModel.unpack with
  | infinity sign => exact ⟨sign, rfl⟩
  | _ => rw [hu] at h; cases h

theorem unpack_of_nonneg (h : (ofFloat x).Nonneg) :
    x.toModel.unpack = .infinity .positive ∨ (∃ sign, x.toModel.unpack = .zero sign) ∨
      ∃ mant exp hpos, x.toModel.unpack = .finite .positive mant exp hpos := by
  rw [ofFloat_eq] at h
  cases hu : x.toModel.unpack with
  | notANumber => rw [hu] at h; cases h
  | infinity sign =>
    rw [hu] at h
    cases sign with
    | positive => exact .inl rfl
    | negative => cases h
  | zero sign => exact .inr (.inl ⟨sign, rfl⟩)
  | finite sign mant exp hpos =>
    rw [hu] at h
    cases sign with
    | positive => exact .inr (.inr ⟨mant, exp, hpos, rfl⟩)
    | negative =>
      rcases h with h | h
      · cases h
      · omega

theorem isZero_of_unpack {sign : Sign} (h : x.toModel.unpack = .zero sign) : (ofFloat x).IsZero := by
  rw [ofFloat_eq, h]
  exact ⟨_, _, rfl⟩

theorem isInfinite_of_unpack {sign : Sign} (h : x.toModel.unpack = .infinity sign) :
    (ofFloat x).IsInfinite := by
  rw [ofFloat_eq, h]
  exact ⟨_, rfl⟩

theorem mul_of_nan (h : ofFloat x = .nan) : ofFloat (x * y) = .nan := by
  rw [ofFloat_mul, unpack_of_nan h]
  exact stored_notANumber

theorem mul_of_zero_infinite (hx : (ofFloat x).IsZero) (hy : (ofFloat y).IsInfinite) :
    ofFloat (x * y) = .nan := by
  obtain ⟨s, hs⟩ := unpack_of_isZero hx
  obtain ⟨t, ht⟩ := unpack_of_isInfinite hy
  rw [ofFloat_mul, hs, ht]
  exact stored_notANumber

theorem nonneg_mul (hx : (ofFloat x).Nonneg) (hy : (ofFloat y).Nonneg)
    (hzero : ¬((ofFloat x).IsZero ∧ (ofFloat y).IsInfinite))
    (hinfinite : ¬((ofFloat x).IsInfinite ∧ (ofFloat y).IsZero)) : (ofFloat (x * y)).Nonneg := by
  have hnone (sign : Sign) : (stored (.zero sign)).Nonneg := by
    rw [stored_zero]
    exact .inr rfl
  have hmost : (stored (.infinity .positive)).Nonneg := rfl
  rcases unpack_of_nonneg hx with hu | ⟨s, hu⟩ | ⟨m, e, hm, hu⟩ <;>
    rcases unpack_of_nonneg hy with hv | ⟨t, hv⟩ | ⟨m', e', hm', hv⟩ <;>
    rw [ofFloat_mul, hu, hv]
  · exact hmost
  · exact absurd ⟨isInfinite_of_unpack hu, isZero_of_unpack hv⟩ hinfinite
  · exact hmost
  · exact absurd ⟨isZero_of_unpack hu, isInfinite_of_unpack hv⟩ hzero
  · exact hnone _
  · exact hnone _
  · exact hmost
  · exact hnone _
  · exact nonneg_roundWithAccuracy _ _ _

theorem nonneg_mul_of_pos (hx : (ofFloat x).Nonneg) {m : Nat} {e : Int} (hy : ofFloat y = .finite false m e)
    (hm : m ≠ 0) : (ofFloat (x * y)).Nonneg := by
  apply nonneg_mul hx
  · rw [hy]
    exact .inl rfl
  · rintro ⟨-, _, hinfinite⟩
    rw [hy] at hinfinite
    cases hinfinite
  · rintro ⟨-, _, _, hzero⟩
    rw [hy] at hzero
    cases hzero
    exact hm rfl

theorem exists_stored_of_isRounded {sign : Sign} {top : Int} {u : UnpackedFloat} (h : IsRounded sign top u)
    (htop : top ≤ 1022) : ∃ m e, stored u = .finite (sign == .negative) m e ∧ (m = 0 → top < -1074) ∧
      e ≤ max (top - 52) (-1074) + 1 := by
  rcases h with ⟨rfl, hlow⟩ | ⟨m, e, hm, rfl, hshort, hlong, hlow, hhigh⟩
  · exact ⟨0, -1074, stored_zero sign, fun _ => hlow, by omega⟩
  · exact ⟨m, e, stored_finite sign hm ⟨hshort, hlong, hlow, by omega⟩, by omega, hhigh⟩

theorem exists_mul_finite {negative negative' : Bool} {m m' : Nat} {e e' : Int}
    (hx : ofFloat x = .finite negative m e) (hy : ofFloat y = .finite negative' m' e')
    (hexp : e + e' ≤ 917) : ∃ n m'' e'', ofFloat (x * y) = .finite n m'' e'' ∧ e'' ≤ max (e + e' + 54) (-1073) := by
  -- Two mantissas have 106 bits, of which 53 are kept, and rounding up may add one place.
  have hcx := isCanonical_ofFloat x
  have hcy := isCanonical_ofFloat y
  rw [hx] at hcx
  rw [hy] at hcy
  obtain ⟨hshort, hlong, hlow, -⟩ := hcx
  obtain ⟨hshort', hlong', hlow', -⟩ := hcy
  have hnone (sign : Sign) : ∃ n m'' e'', stored (.zero sign) = .finite n m'' e'' ∧
      e'' ≤ max (e + e' + 54) (-1073) := ⟨_, _, _, stored_zero sign, by omega⟩
  rw [ofFloat_eq] at hx hy
  rw [ofFloat_mul]
  cases hu : x.toModel.unpack with
  | notANumber => rw [hu] at hx; cases hx
  | infinity => rw [hu] at hx; cases hx
  | zero s =>
    cases hv : y.toModel.unpack with
    | notANumber => rw [hv] at hy; cases hy
    | infinity => rw [hv] at hy; cases hy
    | _ => exact hnone _
  | finite s _ _ hm =>
    rw [hu] at hx
    cases hx
    cases hv : y.toModel.unpack with
    | notANumber => rw [hv] at hy; cases hy
    | infinity => rw [hv] at hy; cases hy
    | zero => exact hnone _
    | finite t _ _ hm' =>
      rw [hv] at hy
      cases hy
      have hpos : 0 < m * m' := Nat.mul_pos hm hm'
      have hlog : (m * m').log2 ≤ 105 := by
        have hlt : m * m' < 2 ^ 53 * 2 ^ 53 := Nat.mul_lt_mul'' hshort hshort'
        rw [← Nat.pow_add] at hlt
        have := (Nat.log2_lt (Nat.ne_of_gt hpos)).mpr hlt
        omega
      have hlarge : 52 ≤ (m * m').log2 ∨ e + e' ≤ -1074 := by
        rw [Nat.le_log2 (Nat.ne_of_gt hpos)]
        rcases hlong with h | h
        · exact .inl (Nat.le_trans h (Nat.le_mul_of_pos_right m hm'))
        · rcases hlong' with h' | h'
          · exact .inl (Nat.le_trans h' (Nat.le_mul_of_pos_left m' hm))
          · exact .inr (by omega)
      obtain ⟨m'', e'', hstored, -, hle⟩ := exists_stored_of_isRounded
        (isRounded_roundWithAccuracy (s * t) .exact hpos hlarge) (by omega)
      exact ⟨_, m'', e'', hstored, by omega⟩

theorem unpack_one : (1.0 : Float).toModel.unpack = .finite .positive (2 ^ 52) (-52) (by decide) := by
  rfl

theorem normalize_of_pos {mant : Nat} (exp : Int) (sign : Sign) (hpos : 0 < mant) :
    UnpackedFloat.normalize Format.binary64 mant exp sign =
      UnpackedFloat.round Format.binary64 .positive mant exp := by
  have hcompare : compare (mant : Int) 0 = .gt := Int.compare_eq_gt.mpr (by omega)
  rw [UnpackedFloat.normalize, hcompare]
  rfl

theorem exists_one_add {negative : Bool} {m : Nat} {e : Int} (hy : ofFloat y = .finite negative m e)
    (hnonneg : (ofFloat y).Nonneg) (hexp : e ≤ 969) :
    ∃ m' e', ofFloat (1.0 + y) = .finite false m' e' ∧ m' ≠ 0 := by
  have hcy := isCanonical_ofFloat y
  rw [hy] at hcy
  obtain ⟨hshort, -, hlow, -⟩ := hcy
  rw [ofFloat_add, unpack_one]
  rcases unpack_of_nonneg hnonneg with hv | ⟨t, hv⟩ | ⟨_, _, hm, hv⟩
  · rw [ofFloat_eq, hv] at hy
    cases hy
  · rw [hv]
    exact ⟨2 ^ 52, -52, stored_finite .positive _ ⟨by decide, .inl (by decide), by decide, by decide⟩, by decide⟩
  · rw [ofFloat_eq, hv] at hy
    cases hy
    rw [hv]
    -- Both mantissas are brought to the smaller exponent and added there.
    obtain ⟨g, hg⟩ : ∃ g, g = min (-52) e := ⟨_, rfl⟩
    obtain ⟨one, hone⟩ : ∃ one, one = 2 ^ 52 <<< (-52 - g).toNat := ⟨_, rfl⟩
    obtain ⟨other, hother⟩ : ∃ other, other = m <<< (e - g).toNat := ⟨_, rfl⟩
    have hone' : one = 2 ^ (52 + (-52 - g).toNat) := by rw [hone, Nat.shiftLeft_eq, Nat.pow_add]
    have hother' : other < 2 ^ (53 + (e - g).toNat) := by
      rw [hother, Nat.shiftLeft_eq, Nat.pow_add]
      exact Nat.mul_lt_mul_of_pos_right hshort (Nat.two_pow_pos _)
    have hpos : 0 < one + other := by
      have := Nat.two_pow_pos (52 + (-52 - g).toNat)
      omega
    have hsum : UnpackedFloat.add Format.binary64 (.finite .positive (2 ^ 52) (-52) (by decide))
        (.finite .positive m e hm) = UnpackedFloat.round Format.binary64 .positive (one + other) g := by
      rw [← normalize_of_pos g .positive hpos, hone, hother, hg]
      rfl
    have hleast : 52 + (-52 - g).toNat ≤ (one + other).log2 := by
      rw [Nat.le_log2 (Nat.ne_of_gt hpos)]
      omega
    have hmost : (one + other).log2 < 54 + (max (-52) e - g).toNat := by
      have hfirst : 2 ^ (52 + (-52 - g).toNat) ≤ 2 ^ (53 + (max (-52) e - g).toNat) :=
        Nat.pow_le_pow_right (by decide) (by omega)
      have hsecond : 2 ^ (53 + (e - g).toNat) ≤ 2 ^ (53 + (max (-52) e - g).toNat) :=
        Nat.pow_le_pow_right (by decide) (by omega)
      have hdouble : 2 ^ (54 + (max (-52) e - g).toNat) = 2 ^ (53 + (max (-52) e - g).toNat) * 2 := by
        rw [← Nat.pow_succ]
        congr 1
        omega
      rw [Nat.log2_lt (Nat.ne_of_gt hpos)]
      omega
    have htop : ((one + other).log2 : Int) + g ≤ 1022 := by omega
    obtain ⟨m', e', hstored, hzero, -⟩ := exists_stored_of_isRounded (isRounded_round .positive hpos) htop
    rw [hsum]
    exact ⟨m', e', hstored, fun h => absurd (hzero h) (by omega)⟩

end IssueQuery.Number.Binary
