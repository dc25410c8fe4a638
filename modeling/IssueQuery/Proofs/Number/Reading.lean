import IssueQuery.Fault
import IssueQuery.Proofs.Text.Words

namespace IssueQuery

namespace Number

open Text

theorem isBlank_of_isNumberBlank {c : Char} (h : isNumberBlank c = true) : isBlank c = true := by
  rw [isNumberBlank] at h
  split at h
  · simp only [Bool.or_eq_true, Bool.and_eq_true, beq_iff_eq, decide_eq_true_eq] at h
    rcases h with rfl | ⟨hl, hr⟩
    · rfl
    · simp [isBlank, hl, hr]
  · exact h

theorem isNumberBlank_eq_false {c : Char} (h : Text.isDigit c = true) : isNumberBlank c = false := by
  rw [← Bool.not_eq_true]
  intro hn
  have hd := isBlank_eq_false_of_isDigit h
  rw [isBlank_of_isNumberBlank hn] at hd
  cases hd

def digitValue (c : Char) : Nat :=
  (digitValue? c).getD 0

theorem digitValue?_eq_some {c : Char} (h : Text.isDigit c = true) :
    digitValue? c = some (digitValue c) := by
  obtain ⟨n, hn⟩ := Option.isSome_iff_exists.mp h
  rw [digitValue, hn]
  rfl

theorem digitValue_lt (c : Char) : digitValue c < 10 := by
  rw [digitValue, digitValue?]
  split
  · split
    · rename_i hc
      simp only [isAsciiDigit, Bool.and_eq_true, decide_eq_true_eq] at hc
      simp only [Option.getD_some]
      omega
    · decide
  · cases hz : digitZeros.find? fun z => z ≤ c.toNat && c.toNat ≤ z + 9 with
    | none => exact Nat.zero_lt_succ 9
    | some z =>
      have hrange := List.find?_some hz
      simp only [Bool.and_eq_true, decide_eq_true_eq] at hrange
      simp only [Option.map_some, Option.getD_some]
      omega

theorem digitsValue_lt {ds : List Nat} (h : ∀ d ∈ ds, d < 10) : digitsValue ds < 10 ^ ds.length := by
  -- The digits that are read already are multiplied by ten for each one that follows.
  have hfold (ds : List Nat) (h : ∀ d ∈ ds, d < 10) (n : Nat) :
      ds.foldl (fun n d => 10 * n + d) n < (n + 1) * 10 ^ ds.length := by
    induction ds generalizing n with
    | nil => simp
    | cons d ds ih =>
      rw [List.forall_mem_cons] at h
      have hd := h.1
      calc ds.foldl (fun n d => 10 * n + d) (10 * n + d)
          < (10 * n + d + 1) * 10 ^ ds.length := ih h.2 _
        _ ≤ (10 * (n + 1)) * 10 ^ ds.length := Nat.mul_le_mul_right _ (by omega)
        _ = (n + 1) * 10 ^ (d :: ds).length := by rw [List.length_cons, Nat.pow_succ]; ac_rfl
  have hall := hfold ds h 0
  rwa [Nat.zero_add, Nat.one_mul] at hall

section Digits

variable {cs : List Char} (h : ∀ c ∈ cs, Text.isDigit c = true)

include h

theorem digitRun?_map (hne : cs ≠ []) : digitRun? cs = some (cs.map digitValue) := by
  induction cs with
  | nil => exact absurd rfl hne
  | cons c cs ih =>
    have hc := digitValue?_eq_some (h c List.mem_cons_self)
    cases cs with
    | nil => simp [digitRun?, hc]
    | cons d cs =>
      have ih := ih (fun a ha => h a (List.mem_cons_of_mem c ha)) (by simp)
      have hd : d ≠ '_' := by
        rintro rfl
        exact absurd (h '_' (by simp)) (by decide)
      rw [digitRun?.eq_4 c (d :: cs) (by simp) (by simp [hd]), hc, ih]
      rfl

theorem stripNumber_of_isDigit : stripNumber cs = cs := by
  have hb : ∀ c ∈ cs, isNumberBlank c = false := fun c hc => isNumberBlank_eq_false (h c hc)
  rw [stripNumber, dropWhile_of_head? fun c hc => hb c (List.mem_of_head? hc), stripEnd_of_forall hb]

theorem splitSign_of_isDigit : splitSign cs = (false, cs) := by
  cases cs with
  | nil => rfl
  | cons c cs =>
    have hm : c ≠ '-' := by
      rintro rfl
      exact absurd (h '-' List.mem_cons_self) (by decide)
    have hp : c ≠ '+' := by
      rintro rfl
      exact absurd (h '+' List.mem_cons_self) (by decide)
    simp [splitSign, hm, hp]

theorem readInt_digits (hne : cs ≠ []) :
    readInt (String.ofList cs) =
      if cs.length > maxDigits then .tooLong cs.length else .value (digitsValue (cs.map digitValue)) := by
  simp only [readInt, String.toList_ofList, stripNumber_of_isDigit h, splitSign_of_isDigit h,
    digitRun?_map h hne, List.length_map, Bool.false_eq_true, if_false]

end Digits

theorem isDigit_bounds {c : Char} (h : c.isDigit = true) : 0x30 ≤ c.toNat ∧ c.toNat ≤ 0x39 := by
  simpa [Char.isDigit, UInt32.le_iff_toNat_le] using h

theorem digitValue?_of_isDigit {c : Char} (h : c.isDigit = true) : digitValue? c = some (c.toNat - 0x30) := by
  have hn := isDigit_bounds h
  have hc : c.toNat < 0x80 := by omega
  simp [digitValue?, hc, isAsciiDigit, hn]

theorem isDigit_of_ascii {c : Char} (h : c.isDigit = true) : Text.isDigit c = true := by
  rw [Text.isDigit, digitValue?_of_isDigit h]
  rfl

theorem isNumberBlank_of_isDigit {c : Char} (h : c.isDigit = true) : isNumberBlank c = false :=
  isNumberBlank_eq_false (isDigit_of_ascii h)

theorem digitsValue_map {cs : List Char} (h : ∀ c ∈ cs, c.isDigit = true) :
    digitsValue (cs.map digitValue) = asciiValue cs := by
  have hmap : cs.map digitValue = cs.map fun c => c.toNat - 0x30 := by
    apply List.map_congr_left
    intro c hc
    rw [digitValue, digitValue?_of_isDigit (h c hc)]
    rfl
  rw [hmap, digitsValue, asciiValue, List.foldl_map]

theorem toString_ne_nil (n : Nat) : (toString n).toList ≠ [] := by
  simp [Nat.toDigits_ne_nil]

theorem readInt_toString {n : Nat} (h : (toString n).toList.length ≤ maxDigits) :
    readInt (toString n) = .value n := by
  have hd : ∀ c ∈ (toString n).toList, c.isDigit = true := fun c => isDigit_of_mem_toString
  have hread := readInt_digits (fun c hc => isDigit_of_ascii (hd c hc)) (toString_ne_nil n)
  rwa [String.ofList_toList, if_neg (by omega), digitsValue_map hd, asciiValue_toString] at hread

end Number

theorem of_integerOfDigits {cs : List Char} {n : Int} (hne : cs ≠ [])
    (h : ∀ c ∈ cs, Text.isDigit c = true) (hn : integerOfDigits cs = .ok n) :
    n = Number.digitsValue (cs.map Number.digitValue) := by
  rw [integerOfDigits, Number.readInt_digits h hne] at hn
  split at hn
  · rename_i hr
    split at hr
    · cases hr
    · obtain rfl := Number.Reading.value.inj hr
      exact (Except.ok.inj hn).symm
  · cases hn
  · rename_i hr
    split at hr <;> cases hr

theorem integerOfDigits_toString_of_length {n : Nat} (h : (toString n).toList.length ≤ Number.maxDigits) :
    integerOfDigits (toString n).toList = .ok n := by
  rw [integerOfDigits, String.ofList_toList, Number.readInt_toString h]

theorem integerOfDigits_again {cs : List Char} {n : Int} (hne : cs ≠ []) (h : ∀ c ∈ cs, Text.isDigit c = true)
    (hn : integerOfDigits cs = .ok n) : ∃ m : Nat, n = m ∧ integerOfDigits (toString m).toList = .ok m := by
  -- Written again it has no zeros in front, so that its digits are not more than they were.
  refine ⟨_, of_integerOfDigits hne h hn, integerOfDigits_toString_of_length ?_⟩
  have hlength : cs.length ≤ Number.maxDigits := by
    apply Nat.not_lt.mp
    intro hlong
    rw [integerOfDigits, Number.readInt_digits h hne, if_pos hlong] at hn
    cases hn
  have hdigits : ∀ d ∈ cs.map Number.digitValue, d < 10 := by
    intro d hd
    obtain ⟨c, -, rfl⟩ := List.mem_map.mp hd
    exact Number.digitValue_lt c
  have hlt := Number.digitsValue_lt hdigits
  rw [List.length_map] at hlt
  rw [String.length_toList]
  exact (Nat.length_repr_le_iff (by decide)).mpr (Nat.lt_of_lt_of_le hlt (Nat.pow_le_pow_right (by decide) hlength))

end IssueQuery
