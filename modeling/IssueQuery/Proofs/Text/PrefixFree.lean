import IssueQuery.Proofs.Json.Scalars
import IssueQuery.Text.Quoted
import Mathlib.Tactic.SplitIfs

namespace IssueQuery.Text

/-- What is written for an element ends where it ends, and belongs to no other element. -/
def PrefixFree {α : Type} (f : α → List Char) : Prop :=
  ∀ a b rest tail, f a ++ rest = f b ++ tail → a = b ∧ rest = tail

theorem PrefixFree.of_read {α : Type} {f : α → List Char} (read? : List Char → Option (α × List Char))
    (h : ∀ a rest, read? (f a ++ rest) = some (a, rest)) : PrefixFree f := by
  intro a b rest tail heq
  have hread := h a rest
  rw [heq, h b tail, Option.some.injEq, Prod.mk.injEq] at hread
  exact ⟨hread.1.symm, hread.2.symm⟩

section Codes

def codeValue (cs : List Char) : Nat :=
  cs.foldl (fun n c => 16 * n + (hexValue? c).getD 0) 0

theorem length_hexCode (width n : Nat) : (hexCode width n).length = width := by
  induction width generalizing n with
  | zero => rfl
  | succ width ih => simp [hexCode, ih]

theorem codeValue_hexCode (width n : Nat) : codeValue (hexCode width n) = n % 16 ^ width := by
  induction width generalizing n with
  | zero => simp [hexCode, codeValue, Nat.mod_one]
  | succ width ih =>
    have ih := ih (n / 16)
    rw [codeValue] at ih
    rw [hexCode, codeValue, List.foldl_append, ih, List.foldl_cons, List.foldl_nil,
      Json.hexValue?_lowerHexDigit, Option.getD_some, Nat.pow_succ']
    exact (Nat.add_comm _ _).trans (Nat.mod_mul).symm

def readCode (width : Nat) (cs : List Char) : Char × List Char :=
  (Char.ofNat (codeValue (cs.take width)), cs.drop width)

theorem readCode_hexCode {width : Nat} {c : Char} (h : c.toNat < 16 ^ width) (rest : List Char) :
    readCode width (hexCode width c.toNat ++ rest) = (c, rest) := by
  have hlen := length_hexCode width c.toNat
  have htake : (hexCode width c.toNat ++ rest).take width = hexCode width c.toNat := List.take_left' hlen
  have hdrop : (hexCode width c.toNat ++ rest).drop width = rest := List.drop_left' hlen
  rw [readCode, htake, hdrop, codeValue_hexCode, Nat.mod_eq_of_lt h, Char.ofNat_toNat]

end Codes

section Quoted

def readQuotedChar? : List Char → Option (Char × List Char)
  | '\\' :: 'n' :: cs => some ('\n', cs)
  | '\\' :: 'r' :: cs => some ('\r', cs)
  | '\\' :: 't' :: cs => some ('\t', cs)
  | '\\' :: 'x' :: cs => some (readCode 2 cs)
  | '\\' :: 'u' :: cs => some (readCode 4 cs)
  | '\\' :: 'U' :: cs => some (readCode 8 cs)
  | '\\' :: c :: cs => some (c, cs)
  | c :: cs => some (c, cs)
  | [] => none

def IsMark (c : Char) : Prop := c = '\'' ∨ c = '"'

variable {mark : Char}

theorem isMark_quoteMark (cs : List Char) : IsMark (quoteMark cs) := by
  unfold quoteMark
  split
  · exact .inr rfl
  · exact .inl rfl

theorem readQuotedChar?_quotedChar (hm : IsMark mark) (c : Char) (rest : List Char) :
    readQuotedChar? (quotedChar mark c ++ rest) = some (c, rest) := by
  unfold quotedChar
  dsimp only
  split_ifs with hmark hn hr ht hp hx hu
  · simp only [Bool.or_eq_true, beq_iff_eq] at hmark
    rcases hmark with rfl | rfl
    · rcases hm with rfl | rfl <;> rfl
    · rfl
  · obtain rfl := eq_of_beq hn
    rfl
  · obtain rfl := eq_of_beq hr
    rfl
  · obtain rfl := eq_of_beq ht
    rfl
  · have hback : c ≠ '\\' := by
      rintro rfl
      simp at hmark
    rw [List.cons_append, List.nil_append, readQuotedChar?]
    all_goals simp [hback]
  · exact congrArg some (readCode_hexCode (by omega) rest)
  · exact congrArg some (readCode_hexCode (by omega) rest)
  · have hc := Json.toNat_bounds c
    exact congrArg some (readCode_hexCode (by omega) rest)

theorem quotedChar_prefixFree (hm : IsMark mark) : PrefixFree (quotedChar mark) :=
  .of_read readQuotedChar? (readQuotedChar?_quotedChar hm)

theorem quotedChar_ne_mark (hm : IsMark mark) (c : Char) (rest tail : List Char) :
    quotedChar mark c ++ rest ≠ mark :: tail := by
  have hback : '\\' ≠ mark := by
    rcases hm with rfl | rfl <;> decide
  unfold quotedChar
  dsimp only
  -- All but what is printed as it is begins with a backslash.
  split_ifs with hmark <;> simp [hback]
  rintro rfl
  simp at hmark

def closed (mark : Char) (cs : List Char) : List Char :=
  cs.flatMap (quotedChar mark) ++ [mark]

theorem closed_prefixFree (hm : IsMark mark) : PrefixFree (closed mark) := by
  intro cs ds rest tail h
  induction cs generalizing ds with
  | nil =>
    cases ds with
    | nil => exact ⟨rfl, by simpa [closed] using h⟩
    | cons d ds =>
      simp only [closed, List.flatMap_nil, List.nil_append, List.flatMap_cons, List.append_assoc] at h
      exact absurd h.symm (quotedChar_ne_mark hm d _ _)
  | cons c cs ih =>
    cases ds with
    | nil =>
      simp only [closed, List.flatMap_nil, List.nil_append, List.flatMap_cons, List.append_assoc] at h
      exact absurd h (quotedChar_ne_mark hm c _ _)
    | cons d ds =>
      simp only [closed, List.flatMap_cons, List.append_assoc] at h
      obtain ⟨rfl, h⟩ := quotedChar_prefixFree hm c d _ _ h
      obtain ⟨rfl, hrest⟩ := ih ds (by simpa [closed] using h)
      exact ⟨rfl, hrest⟩

theorem toList_quoted (s : String) :
    (quoted s).toList = quoteMark s.toList :: closed (quoteMark s.toList) s.toList := by
  simp [quoted, closed]

theorem quoted_prefixFree : PrefixFree fun s => (quoted s).toList := by
  intro s t rest tail h
  simp only [toList_quoted, List.cons_append, List.cons.injEq] at h
  obtain ⟨hmark, h⟩ := h
  rw [← hmark] at h
  obtain ⟨heq, hrest⟩ := closed_prefixFree (isMark_quoteMark s.toList) _ _ _ _ h
  exact ⟨String.toList_inj.mp heq, hrest⟩

end Quoted

end IssueQuery.Text
