import IssueQuery.Number.Reading
import IssueQuery.Tracker.Condition

namespace IssueQuery.Text

@[simp] theorem dropPrefix?_append (pre rest : List Char) : dropPrefix? pre (pre ++ rest) = some rest := by
  induction pre with
  | nil => rfl
  | cons c pre ih => simp [dropPrefix?, ih]

theorem eq_append_of_dropPrefix? {pre cs rest : List Char} (h : dropPrefix? pre cs = some rest) :
    cs = pre ++ rest := by
  induction pre generalizing cs with
  | nil => simpa [dropPrefix?] using h
  | cons p pre ih =>
    cases cs with
    | nil => simp [dropPrefix?] at h
    | cons c cs =>
      by_cases hc : p = c
      · subst hc
        simp only [dropPrefix?, beq_self_eq_true, if_true] at h
        rw [ih h, List.cons_append]
      · simp [dropPrefix?, hc] at h

theorem splitOnChar_of_not_mem {sep : Char} {cs : List Char} (h : sep ∉ cs) :
    splitOnChar sep cs = [cs] := by
  induction cs with
  | nil => rfl
  | cons c cs ih =>
    rw [List.mem_cons, not_or] at h
    simp [splitOnChar, Ne.symm h.1, ih h.2]

theorem splitOnChar_append {sep : Char} {piece : List Char} (h : sep ∉ piece) (rest : List Char) :
    splitOnChar sep (piece ++ sep :: rest) = piece :: splitOnChar sep rest := by
  induction piece with
  | nil => simp [splitOnChar]
  | cons c piece ih =>
    rw [List.mem_cons, not_or] at h
    simp [splitOnChar, Ne.symm h.1, ih h.2]

theorem splitOnChar_intercalate {sep : Char} (gap first : List Char) (pieces : List (List Char))
    (hf : sep ∉ first) (hg : sep ∉ gap) (hp : ∀ p ∈ pieces, sep ∉ p) :
    splitOnChar sep ((sep :: gap).intercalate (first :: pieces)) =
      first :: pieces.map (gap ++ ·) := by
  -- What the separator has after its first character goes to the piece behind it.
  induction pieces generalizing first with
  | nil => simp [splitOnChar_of_not_mem hf]
  | cons p pieces ih =>
    have hgp : sep ∉ gap ++ p := by simp [hg, hp p (by simp)]
    have ht : (sep :: gap).intercalate (first :: p :: pieces) =
        first ++ sep :: (sep :: gap).intercalate ((gap ++ p) :: pieces) := by
      cases pieces <;> simp [List.intercalate]
    rw [ht, splitOnChar_append hf, ih _ hgp fun q hq => hp q (List.mem_cons_of_mem _ hq)]
    simp

theorem toList_join_cons (sep s : String) (ss : List String) :
    (join sep (s :: ss)).toList = s.toList ++ ss.flatMap fun t => sep.toList ++ t.toList := by
  rw [join, String.toList_intercalate]
  induction ss generalizing s with
  | nil => simp
  | cons t ss ih => simpa [List.intercalate] using ih t

theorem dropWhile_of_head? {p : Char → Bool} {cs : List Char} (h : ∀ c ∈ cs.head?, p c = false) :
    cs.dropWhile p = cs := by
  cases cs with
  | nil => rfl
  | cons c cs => simp [h c rfl]

theorem stripEnd_of_getLast? {p : Char → Bool} {cs : List Char} (h : ∀ c ∈ cs.getLast?, p c = false) :
    stripEnd p cs = cs := by
  rw [stripEnd, dropWhile_of_head? (by simpa using h), List.reverse_reverse]

theorem stripEnd_of_forall {p : Char → Bool} {cs : List Char} (h : ∀ c ∈ cs, p c = false) :
    stripEnd p cs = cs :=
  stripEnd_of_getLast? fun c hc => h c (List.mem_of_getLast? hc)

theorem dropWhile_replicate_append {p : Char → Bool} {c : Char} (n : Nat) (hc : p c = true)
    (rest : List Char) : (List.replicate n c ++ rest).dropWhile p = rest.dropWhile p := by
  induction n with
  | zero => rfl
  | succ n ih => simp [List.replicate_succ, hc, ih]

theorem mem_of_mem_stripEnd {p : Char → Bool} {c : Char} {cs : List Char} (h : c ∈ stripEnd p cs) :
    c ∈ cs := by
  rw [stripEnd, List.mem_reverse] at h
  simpa using (List.dropWhile_sublist p).subset h

theorem mem_of_mem_strip {c : Char} {s : String} (h : c ∈ (strip s).toList) : c ∈ s.toList := by
  rw [strip, String.toList_ofList] at h
  exact (List.dropWhile_sublist _).subset (mem_of_mem_stripEnd h)

end IssueQuery.Text

namespace IssueQuery.Condition

theorem upTo?_append {mark : Char} {cs : List Char} (h : mark ∉ cs) (rest : List Char) :
    upTo? mark (cs ++ mark :: rest) = some (cs, rest) := by
  have hp : ∀ c ∈ cs, (c != mark) = true := by
    intro c hc
    simp only [bne_iff_ne, ne_eq]
    rintro rfl
    exact h hc
  simp [upTo?, List.dropWhile_append_of_pos hp, List.takeWhile_append_of_pos hp]

end IssueQuery.Condition

namespace IssueQuery.Number

theorem asciiValue_eq_ofDigitChars (cs : List Char) : asciiValue cs = Nat.ofDigitChars 10 cs 0 := rfl

@[simp] theorem asciiValue_toString (n : Nat) : asciiValue (toString n).toList = n := by
  simp [asciiValue_eq_ofDigitChars]

theorem isDigit_of_mem_toString {n : Nat} {c : Char} (h : c ∈ (toString n).toList) : c.isDigit = true := by
  rw [Nat.toString_eq_ofList_toDigits, String.toList_ofList] at h
  exact Nat.isDigit_of_mem_toDigits (by decide) (by decide) h

theorem toList_toString_negSucc (n : Nat) :
    (toString (Int.negSucc n)).toList = '-' :: (toString (n + 1)).toList := by
  show ("-" ++ Nat.repr (n + 1)).toList = _
  simp

theorem splitSign_digits (n : Nat) : splitSign (toString n).toList = (false, (toString n).toList) := by
  cases hc : (toString n).toList with
  | nil => rfl
  | cons c cs =>
    have hd : c.isDigit = true := isDigit_of_mem_toString (by rw [hc]; exact List.mem_cons_self)
    have hm : c ≠ '-' := by rintro rfl; simp at hd
    have hp : c ≠ '+' := by rintro rfl; simp at hd
    simp [splitSign, hm, hp]

def signedValue (cs : List Char) : Int :=
  let (negative, ds) := splitSign cs
  if negative then -(asciiValue ds : Int) else asciiValue ds

theorem signedValue_toString (n : Int) : signedValue (toString n).toList = n := by
  cases n with
  | ofNat n =>
    show signedValue (toString n).toList = n
    simp only [signedValue, splitSign_digits, asciiValue_toString]
    rfl
  | negSucc n =>
    rw [toList_toString_negSucc, signedValue]
    simp only [splitSign, asciiValue_toString, if_true]
    rfl

theorem mem_toString_int {n : Int} {c : Char} (h : c ∈ (toString n).toList) :
    c = '-' ∨ c.isDigit = true := by
  cases n with
  | ofNat n => exact .inr (isDigit_of_mem_toString (n := n) h)
  | negSucc n =>
    rw [toList_toString_negSucc] at h
    exact (List.mem_cons.mp h).imp_right isDigit_of_mem_toString

end IssueQuery.Number

namespace IssueQuery.Calendar

@[simp] theorem asciiValue_padZeros (width n : Nat) :
    Number.asciiValue (padZeros width n).toList = n := by
  simp [padZeros, Number.asciiValue_eq_ofDigitChars, Nat.ofDigitChars_append]

theorem isDigit_of_mem_padZeros {width n : Nat} {c : Char} (h : c ∈ (padZeros width n).toList) :
    c.isDigit = true := by
  simp only [padZeros, String.toList_append, String.toList_ofList, List.mem_append,
    List.mem_replicate] at h
  rcases h with ⟨_, rfl⟩ | h
  · rfl
  · exact Number.isDigit_of_mem_toString h

end IssueQuery.Calendar
