import IssueQuery.Proofs.Text.Pieces
import IssueQuery.Text.Scan

namespace IssueQuery.Text

def Stops (cs : List Char) : Prop :=
  ∀ c ∈ cs.head?, isWord c = false

section Words

variable {α : Type} {p : List Char → Option (α × List Char)}

theorem wordMatches_of_stops {cs : List Char} (h : Stops cs) (inWord : Bool) :
    wordMatches p inWord 0 cs = wordMatches p false 0 cs := by
  cases cs with
  | nil => rfl
  | cons c cs => simp [wordMatches, h c rfl]

theorem wordMatches_used {rest : List Char} (h : Stops rest) (used : List Char) (inWord : Bool) :
    wordMatches p inWord used.length (used ++ rest) = wordMatches p false 0 rest := by
  induction used generalizing inWord with
  | nil => exact wordMatches_of_stops h inWord
  | cons c used ih => exact ih (isWord c)

theorem wordMatches_found {c : Char} {used rest : List Char} {a : α} (hc : isWord c = true)
    (hp : p (c :: (used ++ rest)) = some (a, rest)) (h : Stops rest) :
    wordMatches p false 0 (c :: (used ++ rest)) = a :: wordMatches p false 0 rest := by
  have hu : (used ++ rest).length - rest.length = used.length := by simp
  rw [wordMatches]
  simp only [hc, hp, hu, wordMatches_used h]
  rfl

theorem wordMatches_word {word rest : List Char} (hw : ∀ c ∈ word, isWord c = true) (h : Stops rest) :
    wordMatches p true 0 (word ++ rest) = wordMatches p false 0 rest := by
  induction word with
  | nil => exact wordMatches_of_stops h true
  | cons c word ih =>
    rw [List.cons_append, wordMatches, hw c (by simp)]
    exact ih fun d hd => hw d (List.mem_cons_of_mem c hd)

theorem wordMatches_value {value rest : List Char} (inWord : Bool)
    (hv : ∀ t, t <:+ value → p (t ++ '"' :: rest) = none) :
    wordMatches p inWord 0 (value ++ '"' :: rest) = wordMatches p false 0 rest := by
  -- The flag does not matter at the quote, where no word can begin.
  induction value generalizing inWord with
  | nil =>
    have hq : isWord '"' = false := by decide
    simp [wordMatches, hq]
  | cons c value ih =>
    have hc := hv (c :: value) (List.suffix_refl _)
    have ih := fun b => ih b fun t ht => hv t (ht.trans (List.suffix_cons c value))
    rw [List.cons_append] at hc ⊢
    rw [wordMatches]
    simp only [hc, ih, ite_self]

end Words

theorem isSome_dropPrefix?_iff {pre cs : List Char} : (dropPrefix? pre cs).isSome = true ↔ pre <+: cs := by
  constructor
  · intro h
    obtain ⟨rest, hr⟩ := Option.isSome_iff_exists.mp h
    exact ⟨rest, (eq_append_of_dropPrefix? hr).symm⟩
  · rintro ⟨rest, rfl⟩
    simp

theorem occursIn_iff {needle cs : List Char} : occursIn needle cs = true ↔ needle <:+: cs := by
  induction cs with
  | nil => simp [occursIn]
  | cons c cs ih => rw [occursIn, Bool.or_eq_true, isSome_dropPrefix?_iff, ih, List.infix_cons_iff]

theorem dropPrefix?_eq_none_of_not_occursIn {needle cs t : List Char} (h : occursIn needle cs = false)
    (ht : t <:+ cs) : dropPrefix? needle t = none := by
  rw [← Option.isNone_iff_eq_none, ← Option.isSome_eq_false_iff, ← Bool.not_eq_true, isSome_dropPrefix?_iff]
  intro hp
  rw [← Bool.not_eq_true, occursIn_iff] at h
  exact h (hp.isInfix.trans ht.isInfix)

theorem dropPrefix?_before {mark : Char} {needle : List Char} (hm : mark ∉ needle) (cs rest : List Char) :
    dropPrefix? needle (cs ++ mark :: rest) = (dropPrefix? needle cs).map (· ++ mark :: rest) := by
  induction needle generalizing cs with
  | nil => rfl
  | cons k needle ih =>
    rw [List.mem_cons, not_or] at hm
    cases cs with
    | nil => simp [dropPrefix?, Ne.symm hm.1]
    | cons c cs =>
      by_cases hc : k = c
      · simp [dropPrefix?, hc, ih hm.2]
      · simp [dropPrefix?, hc]

theorem isCaseOf_quote (k : Char) : isCaseOf k '"' = ('"' == k) := by
  have hl : asciiLower '"' = '"' := by decide
  simp [isCaseOf, hl, otherCases]

theorem dropKeyword?_before_quote {word : List Char} (hq : '"' ∉ word) (cs rest : List Char) :
    dropKeyword? word (cs ++ '"' :: rest) = (dropKeyword? word cs).map (· ++ '"' :: rest) := by
  induction word generalizing cs with
  | nil => rfl
  | cons k word ih =>
    rw [List.mem_cons, not_or] at hq
    cases cs with
    | nil => simp [dropKeyword?, isCaseOf_quote, hq.1]
    | cons c cs =>
      cases hc : isCaseOf k c with
      | true => simp [dropKeyword?, hc, ih hq.2]
      | false => simp [dropKeyword?, hc]

theorem suffix_of_dropKeyword? {word cs rest : List Char} (h : dropKeyword? word cs = some rest) :
    rest <:+ cs := by
  induction word generalizing cs with
  | nil =>
    obtain rfl : cs = rest := by simpa [dropKeyword?] using h
    exact List.suffix_refl _
  | cons k word ih =>
    cases cs with
    | nil => simp [dropKeyword?] at h
    | cons c cs =>
      cases hc : isCaseOf k c with
      | true =>
        rw [dropKeyword?, if_pos hc] at h
        exact (ih h).trans (List.suffix_cons c cs)
      | false => simp [dropKeyword?, hc] at h

def isPlain (c : Char) : Bool :=
  isAsciiLetter c || isAsciiDigit c || c == ' ' || c == '.' || c == '_' || c == '-'

def Plain (cs : List Char) : Prop :=
  ∀ c ∈ cs, isPlain c = true

theorem Plain.suffix {cs t : List Char} (h : Plain cs) (ht : t <:+ cs) : Plain t :=
  fun c hc => h c (ht.subset hc)

theorem lt_of_isPlain {c : Char} (h : isPlain c = true) : c.toNat < 0x80 := by
  simp only [isPlain, isAsciiLetter, isAsciiDigit, Bool.or_eq_true, Bool.and_eq_true, decide_eq_true_eq,
    beq_iff_eq] at h
  rcases h with ((((h | h) | rfl) | rfl) | rfl) | rfl
  · omega
  · omega
  all_goals decide

theorem isCaseOf_ascii {c : Char} (h : c.toNat < 0x80) (k : Char) : isCaseOf k c = (k == asciiLower c) := by
  have hn (n : Nat) (hn : 0x80 ≤ n) : c.toNat ≠ n := by omega
  simp [isCaseOf, otherCases, hn, Bool.beq_comm]

theorem dropKeyword?_ascii {cs : List Char} (h : ∀ c ∈ cs, c.toNat < 0x80) (word : List Char) :
    (dropKeyword? word cs).isSome = (dropPrefix? word (cs.map asciiLower)).isSome := by
  induction word generalizing cs with
  | nil => rfl
  | cons k word ih =>
    cases cs with
    | nil => rfl
    | cons c cs =>
      have hc := isCaseOf_ascii (h c (by simp)) k
      cases hk : k == asciiLower c with
      | true => simp [dropKeyword?, dropPrefix?, hc, hk, ih fun d hd => h d (List.mem_cons_of_mem c hd)]
      | false => simp [dropKeyword?, dropPrefix?, hc, hk]

theorem lowerAfter_ascii {cs : List Char} (h : ∀ c ∈ cs, c.toNat < 0x80) (before : List Char) :
    lowerAfter before cs = cs.map asciiLower := by
  induction cs generalizing before with
  | nil => rfl
  | cons c cs ih =>
    have hc := h c (by simp)
    have hs : (c == capitalSigma) = false := by
      rw [beq_eq_false_iff_ne]
      rintro rfl
      exact absurd hc (by decide)
    simp [lowerAfter, hs, lowerChar, hc, ih fun d hd => h d (List.mem_cons_of_mem c hd)]

theorem lowerChars_ascii {cs : List Char} (h : ∀ c ∈ cs, c.toNat < 0x80) :
    lowerChars cs = cs.map asciiLower :=
  lowerAfter_ascii h []

end IssueQuery.Text
