import IssueQuery.Proofs.Query.Conjunction

namespace IssueQuery

open Text

section Cutting

def everyOther {α : Type} : List α → List α
  | [] => []
  | [x] => [x]
  | x :: _ :: xs => x :: everyOther xs

theorem everyOther_cons {α : Type} (x : α) (xs : List α) : everyOther (x :: xs) = x :: everyOther xs.tail := by
  cases xs <;> rfl

def outsideQuotes (cs : List Char) : List (List Char) :=
  everyOther (splitOnChar '"' cs)

def betweenQuotes (cs : List Char) : List (List Char) :=
  everyOther (splitOnChar '"' cs).tail

theorem splitOnChar_eq_cons (sep : Char) (cs : List Char) :
    ∃ first others, splitOnChar sep cs = first :: others := by
  cases cs with
  | nil => exact ⟨[], [], rfl⟩
  | cons c cs =>
    rw [splitOnChar]
    split
    · exact ⟨_, _, rfl⟩
    · split
      · exact ⟨_, _, rfl⟩
      · exact ⟨_, _, rfl⟩

theorem splitOnChar_append_of_not_mem {sep : Char} {word cs first : List Char} {others : List (List Char)}
    (hw : sep ∉ word) (hc : splitOnChar sep cs = first :: others) :
    splitOnChar sep (word ++ cs) = (word ++ first) :: others := by
  induction word with
  | nil => exact hc
  | cons c word ih =>
    rw [List.mem_cons, not_or] at hw
    have hne : (c == sep) = false := beq_eq_false_iff_ne.mpr (Ne.symm hw.1)
    simp only [List.cons_append, splitOnChar, hne, Bool.false_eq_true, if_false, ih hw.2]

theorem splitOnChar_quote {v : String} (h : '"' ∉ v.toList) (cs : List Char) :
    splitOnChar '"' ((Clause.quote v).toList ++ cs) = [] :: v.toList :: splitOnChar '"' cs := by
  have ht : (Clause.quote v).toList ++ cs = '"' :: (v.toList ++ '"' :: cs) := by simp [Clause.quote]
  rw [ht, splitOnChar, if_pos (beq_self_eq_true _), splitOnChar_append h]

end Cutting

section Parentheses

/-- How many parentheses are open behind a text, when so many are in front of it; none if one is closed
that was not opened. -/
def openAfter? : Nat → List Char → Option Nat
  | opened, [] => some opened
  | opened, '(' :: cs => openAfter? (opened + 1) cs
  | 0, ')' :: _ => none
  | opened + 1, ')' :: cs => openAfter? opened cs
  | opened, _ :: cs => openAfter? opened cs

def Balanced (cs : List Char) : Prop :=
  openAfter? 0 cs = some 0

theorem openAfter?_cons {c : Char} (ho : c ≠ '(') (hc : c ≠ ')') (opened : Nat) (cs : List Char) :
    openAfter? opened (c :: cs) = openAfter? opened cs := by
  cases opened <;> simp [openAfter?, hc]

theorem openAfter?_append {word : List Char} (ho : '(' ∉ word) (hc : ')' ∉ word) (opened : Nat)
    (cs : List Char) : openAfter? opened (word ++ cs) = openAfter? opened cs := by
  induction word with
  | nil => rfl
  | cons c word ih =>
    rw [List.mem_cons, not_or] at ho hc
    rw [List.cons_append, openAfter?_cons (Ne.symm ho.1) (Ne.symm hc.1), ih ho.2 hc.2]

end Parentheses

def MadeOf (word : List Char → Prop) (cs : List Char) : Prop :=
  ∃ ws : List (List Char), (∀ w ∈ ws, word w) ∧ cs = ws.flatten

theorem MadeOf.cons {word : List Char → Prop} {w cs : List Char} (hw : word w) (h : MadeOf word cs) :
    MadeOf word (w ++ cs) := by
  obtain ⟨ws, hws, rfl⟩ := h
  exact ⟨w :: ws, List.forall_mem_cons.mpr ⟨hw, hws⟩, rfl⟩

theorem MadeOf.mono {word other : List Char → Prop} (hsub : ∀ w, word w → other w) {cs : List Char}
    (h : MadeOf word cs) : MadeOf other cs := by
  obtain ⟨ws, hws, rfl⟩ := h
  exact ⟨ws, fun w hw => hsub w (hws w hw), rfl⟩

/-- Text with its values: words outside of quotes, values between quotes, and parentheses in pairs. -/
inductive Composed (word : List Char → Prop) : List String → List Char → Prop
  | nil : Composed word [] []
  | word {w} : word w → Composed word [] w
  | value {v : String} : '"' ∉ v.toList → Composed word [v] (Clause.quote v).toList
  | group {vs u} : Composed word vs u → Composed word vs ('(' :: (u ++ [')']))
  | append {vs ws u t} : Composed word vs u → Composed word ws t → Composed word (vs ++ ws) (u ++ t)

def Bare (word : List Char → Prop) : Prop :=
  ∀ w, word w → '"' ∉ w ∧ '(' ∉ w ∧ ')' ∉ w

def OrParenthesis (word : List Char → Prop) (w : List Char) : Prop :=
  word w ∨ w = ['('] ∨ w = [')']

structure Cut (word : List Char → Prop) (vs : List String) (u : List Char) : Prop where
  parity : ∀ rest, (splitOnChar '"' (u ++ rest)).length % 2 = (splitOnChar '"' rest).length % 2
  between : ∀ rest, betweenQuotes (u ++ rest) = vs.map String.toList ++ betweenQuotes rest
  outside : ∀ rest, (∀ p ∈ outsideQuotes rest, MadeOf word p) → ∀ p ∈ outsideQuotes (u ++ rest), MadeOf word p

namespace Cut

variable {word : List Char → Prop}

theorem ofWord {w : List Char} (hw : word w) (hq : '"' ∉ w) : Cut word [] w := by
  constructor
  all_goals
    intro rest
    obtain ⟨first, others, hr⟩ := splitOnChar_eq_cons '"' rest
    have hs := splitOnChar_append_of_not_mem hq hr
  · rw [hs, hr, List.length_cons, List.length_cons]
  · rw [betweenQuotes, betweenQuotes, hs, hr]
    rfl
  · intro h
    rw [outsideQuotes, hr, everyOther_cons, List.forall_mem_cons] at h
    rw [outsideQuotes, hs, everyOther_cons, List.forall_mem_cons]
    exact ⟨h.1.cons hw, h.2⟩

theorem ofValue {v : String} (hq : '"' ∉ v.toList) : Cut word [v] (Clause.quote v).toList := by
  constructor
  all_goals
    intro rest
    have hs := splitOnChar_quote hq rest
  · rw [hs, List.length_cons, List.length_cons]
    omega
  · obtain ⟨first, others, hr⟩ := splitOnChar_eq_cons '"' rest
    rw [betweenQuotes, betweenQuotes, hs, List.tail_cons, everyOther_cons]
    rfl
  · intro h
    rw [outsideQuotes, hs, everyOther_cons, List.forall_mem_cons]
    exact ⟨⟨[], by simp, rfl⟩, h⟩

theorem append {vs ws : List String} {u t : List Char} (hu : Cut word vs u) (ht : Cut word ws t) :
    Cut word (vs ++ ws) (u ++ t) := by
  constructor
  all_goals
    intro rest
    rw [List.append_assoc]
  · rw [hu.parity, ht.parity]
  · rw [hu.between, ht.between, List.map_append, List.append_assoc]
  · exact fun h => hu.outside _ (ht.outside _ h)

theorem nil : Cut word [] [] :=
  ⟨fun _ => rfl, fun _ => rfl, fun _ h => h⟩

end Cut

namespace Composed

variable {word : List Char → Prop} {vs : List String} {u : List Char}

theorem cut (hb : Bare word) (h : Composed word vs u) : Cut (OrParenthesis word) vs u := by
  induction h with
  | nil => exact .nil
  | word hw => exact .ofWord (.inl hw) (hb _ hw).1
  | value hq => exact .ofValue hq
  | group _ ih =>
    have hopen : Cut (OrParenthesis word) [] ['('] := .ofWord (.inr (.inl rfl)) (by decide)
    have hclose : Cut (OrParenthesis word) [] [')'] := .ofWord (.inr (.inr rfl)) (by decide)
    simpa using hopen.append (ih.append hclose)
  | append _ _ ihu iht => exact ihu.append iht

theorem flatten_outsideQuotes_word {w : List Char} (hq : '"' ∉ w) (rest : List Char) :
    (outsideQuotes (w ++ rest)).flatten = w ++ (outsideQuotes rest).flatten := by
  obtain ⟨first, others, hr⟩ := splitOnChar_eq_cons '"' rest
  rw [outsideQuotes, outsideQuotes, splitOnChar_append_of_not_mem hq hr, hr, everyOther_cons, everyOther_cons,
    List.flatten_cons, List.flatten_cons, List.append_assoc]

theorem openAfter?_outsideQuotes (hb : Bare word) (h : Composed word vs u) (opened : Nat)
    (rest : List Char) :
    openAfter? opened (outsideQuotes (u ++ rest)).flatten = openAfter? opened (outsideQuotes rest).flatten := by
  -- Induction on how the text is composed: only a group opens a parenthesis, and it closes it again.
  induction h generalizing opened rest with
  | nil => rfl
  | word hw =>
    obtain ⟨hq, ho, hc⟩ := hb _ hw
    rw [flatten_outsideQuotes_word hq, openAfter?_append ho hc]
  | value hq =>
    rw [outsideQuotes, splitOnChar_quote hq, everyOther_cons]
    rfl
  | @group vs u _ ih =>
    have ht : '(' :: (u ++ [')']) ++ rest = ['('] ++ (u ++ ([')'] ++ rest)) := by simp
    rw [ht, flatten_outsideQuotes_word (by decide), List.singleton_append, openAfter?, ih,
      flatten_outsideQuotes_word (by decide), List.singleton_append, openAfter?]
  | @append vs ws u t _ _ ihu iht => rw [List.append_assoc, ihu, iht]

theorem split (hb : Bare word) (h : Composed word vs u) :
    (splitOnChar '"' u).length % 2 = 1 ∧ betweenQuotes u = vs.map String.toList ∧
      (∀ p ∈ outsideQuotes u, MadeOf (OrParenthesis word) p) ∧ Balanced (outsideQuotes u).flatten := by
  have hc := h.cut hb
  have hparity := hc.parity []
  have hbetween := hc.between []
  have houtside := hc.outside [] (by simpa [outsideQuotes, splitOnChar, everyOther] using ⟨[], by simp, rfl⟩)
  have hbalance := h.openAfter?_outsideQuotes hb 0 []
  rw [List.append_nil] at hparity hbetween houtside hbalance
  exact ⟨hparity, by rw [hbetween]; exact List.append_nil _, houtside, hbalance⟩

end Composed

end IssueQuery
