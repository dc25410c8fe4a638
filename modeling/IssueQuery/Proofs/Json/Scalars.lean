import IssueQuery.Json.Reader
import IssueQuery.Json.Writer
import IssueQuery.Proofs.Number.Reading
import Mathlib.Tactic.SplitIfs

namespace IssueQuery.Json

section Texts

variable {c e : Char} {n high low start : Nat} {t acc : List Char}

theorem hexValue?_lowerHexDigit (n : Nat) :
    Text.hexValue? (Text.lowerHexDigit (n % 16)) = some (n % 16) := by
  have hall : ∀ m < 16, Text.hexValue? (Text.lowerHexDigit m) = some m := by decide
  exact hall _ (Nat.mod_lt n (by decide))

theorem exists_codeUnit?_escapedUnit (hn : n < 0x10000) :
    ∃ a b c d, escapedUnit n = ['\\', 'u', a, b, c, d] ∧ codeUnit? a b c d = some n := by
  refine ⟨_, _, _, _, rfl, ?_⟩
  simp only [codeUnit?, List.mapM_cons, List.mapM_nil, hexValue?_lowerHexDigit]
  change some _ = some n
  simp only [List.foldl_cons, List.foldl_nil, Option.some.injEq]
  omega

theorem readText_plain (hq : c ≠ '"') (hb : c ≠ '\\') (hc : 0x20 ≤ c.toNat) :
    readText start (c :: t) acc = readText start t (c :: acc) := by
  rw [readText]
  · rw [if_neg (by omega)]
  all_goals simp [hq, hb]

theorem readText_simple (he : e ≠ 'u') (hs : simpleEscape? e = some c) :
    readText start ('\\' :: e :: t) acc = readText start t (c :: acc) := by
  rw [readText]
  · rw [hs]
  all_goals simp [he]

theorem readText_unit (hn : n < 0x10000) (hh : isHighSurrogate n = false) (ht : t ≠ []) :
    readText start (escapedUnit n ++ t) acc = readText start t (unitChar n :: acc) := by
  obtain ⟨a, b, c, d, hunit, hcode⟩ := exists_codeUnit?_escapedUnit hn
  obtain ⟨x, t, rfl⟩ := List.exists_cons_of_ne_nil ht
  rw [hunit]
  simp only [List.cons_append, List.nil_append]
  -- The reader looks whether another escape follows, which could be the second half of a character.
  by_cases hnext : ∃ e f g h y cs, x :: t = '\\' :: 'u' :: e :: f :: g :: h :: y :: cs
  · obtain ⟨e, f, g, h, y, cs, hcs⟩ := hnext
    rw [hcs, readText, hcode]
    simp only [hh, Bool.false_eq_true, if_false]
  · rw [readText, hcode]
    intro e f g h y cs hx ht
    exact hnext ⟨e, f, g, h, y, cs, by rw [hx, ht]⟩

theorem readText_pair (hh : isHighSurrogate high = true) (hl : isLowSurrogate low = true) (ht : t ≠ []) :
    readText start (escapedUnit high ++ (escapedUnit low ++ t)) acc =
      readText start t (Char.ofNat (joinSurrogates high low) :: acc) := by
  have hbounds : high < 0x10000 ∧ low < 0x10000 := by
    simp only [isHighSurrogate, isLowSurrogate, Bool.and_eq_true, decide_eq_true_eq] at hh hl
    omega
  obtain ⟨a, b, c, d, hunit, hcode⟩ := exists_codeUnit?_escapedUnit hbounds.1
  obtain ⟨e, f, g, h, hunit', hcode'⟩ := exists_codeUnit?_escapedUnit hbounds.2
  obtain ⟨x, t, rfl⟩ := List.exists_cons_of_ne_nil ht
  rw [hunit, hunit']
  simp only [List.cons_append, List.nil_append]
  rw [readText, hcode]
  simp only [hh, if_true, hcode', hl]

theorem toNat_bounds (c : Char) : c.toNat < 0xd800 ∨ 0xdfff < c.toNat ∧ c.toNat < 0x110000 := c.valid

theorem not_surrogate (c : Char) : isHighSurrogate c.toNat = false ∧ isLowSurrogate c.toNat = false := by
  have hc := toNat_bounds c
  constructor
  · rw [isHighSurrogate, ← Bool.not_eq_true, Bool.and_eq_true, decide_eq_true_eq, decide_eq_true_eq]
    omega
  · rw [isLowSurrogate, ← Bool.not_eq_true, Bool.and_eq_true, decide_eq_true_eq, decide_eq_true_eq]
    omega

theorem unitChar_toNat (c : Char) : unitChar c.toNat = c := by
  rw [unitChar, (not_surrogate c).1, (not_surrogate c).2]
  exact Char.ofNat_toNat c

theorem readText_beyond (hc : 0x10000 ≤ c.toNat) (ht : t ≠ []) :
    readText start (escapedUnit (0xd800 + (c.toNat - 0x10000) / 0x400) ++
      (escapedUnit (0xdc00 + (c.toNat - 0x10000) % 0x400) ++ t)) acc = readText start t (c :: acc) := by
  have hbounds := toNat_bounds c
  have hjoin : joinSurrogates (0xd800 + (c.toNat - 0x10000) / 0x400) (0xdc00 + (c.toNat - 0x10000) % 0x400) =
      c.toNat := by
    unfold joinSurrogates
    omega
  rw [readText_pair _ _ ht, hjoin, Char.ofNat_toNat]
  · rw [isHighSurrogate, Bool.and_eq_true, decide_eq_true_eq, decide_eq_true_eq]
    omega
  · rw [isLowSurrogate, Bool.and_eq_true, decide_eq_true_eq, decide_eq_true_eq]
    omega

theorem eq_of_toNat {n : Nat} (h : c.toNat = n) : c = Char.ofNat n := by
  rw [← h, Char.ofNat_toNat]

theorem readText_escapedChar (c : Char) (ht : t ≠ []) :
    readText start (escapedChar c ++ t) acc = readText start t (c :: acc) := by
  unfold escapedChar
  dsimp only
  split_ifs with hquote hback hline hreturn htab hbackspace hfeed hplain hunit
  · obtain rfl := eq_of_beq hquote
    exact readText_simple (by decide) rfl
  · obtain rfl := eq_of_beq hback
    exact readText_simple (by decide) rfl
  · obtain rfl := eq_of_beq hline
    exact readText_simple (by decide) rfl
  · obtain rfl := eq_of_beq hreturn
    exact readText_simple (by decide) rfl
  · obtain rfl := eq_of_beq htab
    exact readText_simple (by decide) rfl
  · obtain rfl := eq_of_toNat (eq_of_beq hbackspace)
    exact readText_simple (by decide) rfl
  · obtain rfl := eq_of_toNat (eq_of_beq hfeed)
    exact readText_simple (by decide) rfl
  · exact readText_plain (by simpa using hquote) (by simpa using hback)
      (by simpa using (Bool.and_eq_true_iff.mp hplain).1)
  · rw [readText_unit hunit (not_surrogate c).1 ht, unitChar_toNat]
  · rw [List.append_assoc]
    exact readText_beyond (by omega) ht

theorem readText_escaped (cs rest acc : List Char) :
    readText start (cs.flatMap escapedChar ++ '"' :: rest) acc = .ok (String.ofList (acc.reverse ++ cs), rest) := by
  induction cs generalizing acc with
  | nil => simp [readText]
  | cons c cs ih =>
    rw [List.flatMap_cons, List.append_assoc, readText_escapedChar c (by simp), ih]
    simp

theorem readText_quoted (s : String) (rest : List Char) :
    readText start (s.toList.flatMap escapedChar ++ '"' :: rest) [] = .ok (s, rest) := by
  rw [readText_escaped, List.reverse_nil, List.nil_append, String.ofList_toList]

end Texts

def Ends (rest : List Char) : Prop :=
  ∀ c ∈ rest.head?, c = ',' ∨ c = '\n'

section Numbers

variable {digits n : Nat} {rest : List Char}

theorem exists_toDigits (hn : 0 < n) : ∃ c cs, Nat.toDigits 10 n = c :: cs ∧ c ≠ '0' := by
  induction n using Nat.strongRecOn with
  | _ n ih =>
    by_cases hsmall : n < 10
    · have hall : ∀ m < 10, 0 < m → m.digitChar ≠ '0' := by decide
      exact ⟨n.digitChar, [], Nat.toDigits_of_lt_base hsmall, hall n hsmall hn⟩
    · obtain ⟨c, cs, hcs, hc⟩ := ih (n / 10) (by omega) (by omega)
      refine ⟨c, cs ++ [(n % 10).digitChar], ?_, hc⟩
      rw [Nat.toDigits_of_base_le (by decide) (by omega), hcs, List.cons_append]

theorem isAsciiDigit_of_mem_toString {c : Char} (h : c ∈ (toString n).toList) : Text.isAsciiDigit c = true := by
  have hc := Number.isDigit_bounds (Number.isDigit_of_mem_toString h)
  simp [Text.isAsciiDigit, hc]

theorem digitsOf_toString (hr : Ends rest) : digitsOf ((toString n).toList ++ rest) = (toString n).toList := by
  have hrest : rest.takeWhile Text.isAsciiDigit = [] := by
    cases rest with
    | nil => rfl
    | cons c rest =>
      rcases hr c rfl with rfl | rfl <;> rfl
  rw [digitsOf, List.takeWhile_append_of_pos fun c hc => isAsciiDigit_of_mem_toString hc, hrest, List.append_nil]

theorem wholeDigits?_toString (hr : Ends rest) :
    wholeDigits? ((toString n).toList ++ rest) = some ((toString n).toList, rest) := by
  rcases Nat.eq_zero_or_pos n with rfl | hn
  · rfl
  · have hdigits := digitsOf_toString (n := n) hr
    obtain ⟨c, cs, hcs, hc⟩ := exists_toDigits hn
    rw [Nat.toString_eq_ofList_toDigits, String.toList_ofList, hcs, List.cons_append] at hdigits ⊢
    rw [wholeDigits?, hdigits]
    · simp
    · exact fun _ h => hc (List.cons.inj h).1

theorem fractionDigits_of_ends (hr : Ends rest) : fractionDigits rest = ([], rest) := by
  cases rest with
  | nil => rfl
  | cons c rest => rcases hr c rfl with rfl | rfl <;> rfl

theorem exponentPart_of_ends (hr : Ends rest) : exponentPart rest = (false, 0, rest) := by
  cases rest with
  | nil => rfl
  | cons c rest => rcases hr c rfl with rfl | rfl <;> rfl

theorem readNumber?_toString (negative : Bool) (hd : (toString n).toList.length ≤ digits) (hr : Ends rest) :
    readNumber? digits negative ((toString n).toList ++ rest) =
      some (.ok (.int (if negative then -(n : Int) else n), rest)) := by
  have hlong : ¬(toString n).toList.length > digits := by omega
  rw [readNumber?, wholeDigits?_toString hr, Option.map_some]
  simp only [fractionDigits_of_ends hr, exponentPart_of_ends hr, List.isEmpty_nil, Bool.not_false, Bool.and_self,
    if_true, hlong, if_false, Number.asciiValue_toString]

theorem ne_of_isAsciiDigit {c d : Char} (hc : Text.isAsciiDigit c = true) (hd : Text.isAsciiDigit d = false) :
    c ≠ d := by
  rintro rfl
  rw [hd] at hc
  cases hc

theorem readLiteral?_digit {c : Char} (hc : Text.isAsciiDigit c = true) (cs : List Char) :
    readLiteral? (c :: cs) = none ∧ readLiteral? ('-' :: c :: cs) = none := by
  have hne (d : Char) (hd : Text.isAsciiDigit d = false) : d ≠ c := (ne_of_isAsciiDigit hc hd).symm
  constructor
  · simp [readLiteral?, literals, Text.dropPrefix?, hne 'n' rfl, hne 't' rfl, hne 'f' rfl, hne 'N' rfl, hne 'I' rfl,
      hne '-' rfl]
  · simp [readLiteral?, literals, Text.dropPrefix?, hne 'I' rfl]

theorem readScalar_toString (m : Int) (hd : (toString m.natAbs).toList.length ≤ digits) (hr : Ends rest) :
    readScalar digits ((toString m).toList ++ rest) = .ok (.int m, rest) := by
  obtain ⟨c, cs, hcs⟩ := List.exists_cons_of_ne_nil (Number.toString_ne_nil m.natAbs)
  have hc : Text.isAsciiDigit c = true := isAsciiDigit_of_mem_toString (hcs ▸ List.mem_cons_self)
  obtain ⟨hword, hsigned⟩ := readLiteral?_digit hc (cs ++ rest)
  have hnumber (negative : Bool) := readNumber?_toString negative hd hr
  rw [hcs, List.cons_append] at hnumber
  cases m with
  | ofNat n =>
    change readScalar digits ((toString n).toList ++ rest) = _
    change (toString n).toList = _ at hcs
    rw [hcs, List.cons_append, readScalar, hword]
    · change (readNumber? digits false (c :: (cs ++ rest))).getD _ = _
      rw [hnumber]
      rfl
    · exact fun _ ht => ne_of_isAsciiDigit hc rfl (List.cons.inj ht).1
  | negSucc n =>
    change (toString (n + 1)).toList = _ at hcs
    rw [Number.toList_toString_negSucc, hcs, List.cons_append, List.cons_append, readScalar, hsigned]
    change (readNumber? digits true (c :: (cs ++ rest))).getD _ = _
    rw [hnumber]
    rfl

theorem readScalar_null (rest : List Char) : readScalar digits ("null".toList ++ rest) = .ok (.null, rest) := by
  simp [readScalar, readLiteral?, literals, Text.dropPrefix?]

theorem readScalar_bool (b : Bool) (rest : List Char) :
    readScalar digits ((scalar (.bool b)).toList ++ rest) = .ok (.bool b, rest) := by
  cases b <;> simp [scalar, readScalar, readLiteral?, literals, Text.dropPrefix?]

end Numbers

end IssueQuery.Json
