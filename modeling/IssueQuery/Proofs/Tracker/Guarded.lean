import IssueQuery.Proofs.Tracker.Recognition

namespace IssueQuery.Condition

open Text

theorem skipBlanks_before_quote (t u : List Char) : skipBlanks (t ++ '"' :: u) = skipBlanks t ++ '"' :: u := by
  have hq : isBlank '"' = false := by decide
  rw [skipBlanks, List.dropWhile_append]
  split
  · rename_i he
    simp [hq, skipBlanks, List.isEmpty_iff.mp he]
  · rfl

theorem suffix_skipBlanks (t : List Char) : skipBlanks t <:+ t :=
  List.dropWhile_suffix _

theorem isPlain_asciiLower {c : Char} (h : isPlain c = true) : isPlain (asciiLower c) = true := by
  unfold asciiLower
  split
  · rename_i hc
    simp only [Bool.and_eq_true, decide_eq_true_eq] at hc
    have hv : (c.toNat + 0x20).isValidChar := .inl (by omega)
    have hn : (Char.ofNat (c.toNat + 0x20)).toNat = c.toNat + 0x20 := by
      rw [Char.ofNat, dif_pos hv]
      rfl
    simp only [isPlain, isAsciiLetter, hn, Bool.or_eq_true, Bool.and_eq_true, decide_eq_true_eq]
    omega
  · exact h

theorem dropKeyword?_sign {t : List Char} (ht : Plain t) {k : Char} (hk : isPlain k = false) (hq : k ≠ '"')
    (ks u : List Char) : dropKeyword? (k :: ks) (t ++ '"' :: u) = none := by
  cases t with
  | nil => simp [dropKeyword?, isCaseOf_quote, Ne.symm hq]
  | cons c t =>
    have hc := ht c (by simp)
    have hne : (k == asciiLower c) = false := by
      rw [beq_eq_false_iff_ne]
      rintro rfl
      simp [isPlain_asciiLower hc] at hk
    simp [dropKeyword?, isCaseOf_ascii (lt_of_isPlain hc), hne]

theorem dropSign?_value {t : List Char} (ht : Plain t) {sign : String} {k : Char} {ks : List Char}
    (hs : sign.toList = k :: ks) (hk : isPlain k = false) (hq : k ≠ '"') (u : List Char) :
    dropSign? sign (t ++ '"' :: u) = none := by
  rw [dropSign?, hs, skipBlanks_before_quote, dropKeyword?_sign (ht.suffix (suffix_skipBlanks t)) hk hq]

theorem quotedAfter?_value {t : List Char} (ht : Plain t) {sign : String} {k : Char} {ks : List Char}
    (hs : sign.toList = k :: ks) (hk : isPlain k = false) (hq : k ≠ '"') (u : List Char) :
    quotedAfter? sign (t ++ '"' :: u) = none := by
  simp [quotedAfter?, dropSign?_value ht hs hk hq]

theorem anyKeyword?_suffix {names : List String} (hn : ∀ name ∈ names, '"' ∉ name.toList) (t u : List Char) :
    anyKeyword? names (t ++ '"' :: u) = none ∨
      ∃ name t', t' <:+ t ∧ anyKeyword? names (t ++ '"' :: u) = some (name, t' ++ '"' :: u) := by
  induction names with
  | nil => exact .inl rfl
  | cons name names ih =>
    have hdrop := dropKeyword?_before_quote (hn name (by simp)) t u
    cases h : dropKeyword? name.toList t with
    | none =>
      rw [h, Option.map_none] at hdrop
      have ih := ih fun n hm => hn n (List.mem_cons_of_mem name hm)
      simpa [anyKeyword?, hdrop] using ih
    | some t' =>
      rw [h, Option.map_some] at hdrop
      refine .inr ⟨lower (String.ofList ((t ++ '"' :: u).take name.length)), t', suffix_of_dropKeyword? h, ?_⟩
      simp [anyKeyword?, hdrop]

theorem dropKeyword?_value {t : List Char} (ht : Plain t) {word : List Char} (hw : '"' ∉ word) (u : List Char) :
    dropKeyword? word (t ++ '"' :: u) = none ∨
      ∃ t', Plain t' ∧ dropKeyword? word (t ++ '"' :: u) = some (t' ++ '"' :: u) := by
  rw [dropKeyword?_before_quote hw]
  cases h : dropKeyword? word t with
  | none => exact .inl rfl
  | some t' => exact .inr ⟨t', ht.suffix (suffix_of_dropKeyword? h), rfl⟩

theorem anyKeyword?_value {t : List Char} (ht : Plain t) {names : List String}
    (hn : ∀ name ∈ names, '"' ∉ name.toList) (u : List Char) :
    anyKeyword? names (t ++ '"' :: u) = none ∨
      ∃ name t', Plain t' ∧ anyKeyword? names (t ++ '"' :: u) = some (name, t' ++ '"' :: u) := by
  rcases anyKeyword?_suffix hn t u with h | ⟨name, t', hsuffix, h⟩
  · exact .inl h
  · exact .inr ⟨name, t', ht.suffix hsuffix, h⟩

/-- A pattern that begins neither within a value nor at a digit. -/
structure Guarded {α : Type} (p : List Char → Option (α × List Char)) : Prop where
  value : ∀ v, Harmless v → ∀ t, t <:+ v.toList → ∀ u, p (t ++ '"' :: u) = none
  digit : ∀ c, c.isDigit = true → ∀ u, p (c :: u) = none
  conjunction : ∀ u, p ("AND ".toList ++ u) = none

theorem isWord_of_isDigit {c : Char} (h : c.isDigit = true) : isWord c = true := by
  have hn := Number.isDigit_bounds h
  have hc : c.toNat < 0x80 := by omega
  simp [isWord, hc, isAsciiDigit, hn]

theorem Guarded.passesValues {α : Type} {p : List Char → Option (α × List Char)} (h : Guarded p) :
    PassesValues (wordMatches p false 0) where
  value v hv u := wordMatches_value false fun t ht => h.value v hv t ht u
  separator _ := rfl
  days n u hu := by
    have hd : ∀ c ∈ (toString n).toList, c.isDigit = true := fun c => Number.isDigit_of_mem_toString
    obtain ⟨c, ds, hn⟩ := List.exists_cons_of_ne_nil (Number.toString_ne_nil n)
    rw [hn] at hd ⊢
    have hc := hd c (by simp)
    -- Behind its first digit a number goes on as a word, in which no match begins.
    have hw : ∀ a ∈ ds ++ ['d'], isWord a = true := by
      intro a ha
      rcases List.mem_append.mp ha with ha | ha
      · exact isWord_of_isDigit (hd a (List.mem_cons_of_mem c ha))
      · obtain rfl : a = 'd' := by simpa using ha
        decide
    have ht := @wordMatches_word α p (ds ++ ['d']) u hw hu
    rw [List.append_assoc] at ht
    rw [List.cons_append, wordMatches, isWord_of_isDigit hc, h.digit c hc]
    exact ht
  opening _ := rfl
  closing _ := rfl
  conjunction u := by
    have ha : wordMatches p false 0 (" AND ".toList ++ u) = wordMatches p false 0 ("AND ".toList ++ u) := rfl
    have hc : "AND ".toList ++ u = 'A' :: ("ND ".toList ++ u) := rfl
    have hw : isWord 'A' = true := by decide
    rw [ha, hc, wordMatches, ← hc, h.conjunction]
    rfl

theorem dropKeyword?_digit {c k : Char} (hc : c.isDigit = true) (hk : k.isDigit = false) (ks u : List Char) :
    dropKeyword? (k :: ks) (c :: u) = none := by
  have hne : (k == c) = false := by
    rw [beq_eq_false_iff_ne]
    rintro rfl
    simp [hc] at hk
  simp [dropKeyword?, isCaseOf_ascii (lt_of_isPlain (isPlain_of_isDigit hc)), asciiLower_of_isDigit hc, hne]

theorem anyKeyword?_digit {c : Char} (hc : c.isDigit = true) {names : List String}
    (hn : ∀ name ∈ names, name.toList.head?.any (!·.isDigit) = true) (u : List Char) :
    anyKeyword? names (c :: u) = none := by
  rw [anyKeyword?, List.findSome?_eq_none_iff]
  intro name hm
  have hk := hn name hm
  cases ht : name.toList with
  | nil => simp [ht] at hk
  | cons k ks =>
    have hd : k.isDigit = false := by simpa [ht] using hk
    rw [dropKeyword?_digit hc hd]
    rfl

theorem dropKeyword?_self {word : List Char} (hw : ∀ k ∈ word, k.toNat < 0x80 ∧ asciiLower k = k)
    (u : List Char) : dropKeyword? word (word ++ u) = some u := by
  induction word with
  | nil => rfl
  | cons k ks ih =>
    obtain ⟨hk, hl⟩ := hw k (by simp)
    simp [dropKeyword?, isCaseOf_ascii hk, hl, ih fun d hd => hw d (List.mem_cons_of_mem k hd)]

theorem anyKeyword?_name {names : List String} {name : String} (hm : name ∈ names)
    (hl : name.toList.all fun k => k.toNat < 0x80 && asciiLower k == k) {u : List Char}
    (ho : ∀ other ∈ names, other ≠ name → dropKeyword? other.toList (name.toList ++ u) = none) :
    anyKeyword? names (name.toList ++ u) = some (name, u) := by
  have hl : ∀ k ∈ name.toList, k.toNat < 0x80 ∧ asciiLower k = k := by simpa using hl
  have hlower : lower (String.ofList name.toList) = name := by
    have hmap : name.toList.map asciiLower = name.toList.map id :=
      List.map_congr_left fun k hk => (hl k hk).2
    rw [lower, String.toList_ofList, lowerChars_ascii fun k hk => (hl k hk).1, hmap, List.map_id,
      String.ofList_toList]
  have htake : (name.toList ++ u).take name.length = name.toList := by
    rw [← String.length_toList, List.take_left]
  induction names with
  | nil => simp at hm
  | cons other names ih =>
    by_cases he : other = name
    · subst he
      simp only [anyKeyword?, List.findSome?_cons, dropKeyword?_self hl, Option.map_some, htake, hlower]
    · have hm := (List.mem_cons.mp hm).resolve_left (Ne.symm he)
      have ih := ih hm fun n hn => ho n (List.mem_cons_of_mem other hn)
      rw [anyKeyword?] at ih ⊢
      simpa only [List.findSome?_cons, ho other (by simp) he, Option.map_none] using ih

theorem anyKeyword?_matchField (f : MatchField) (u : List Char) :
    anyKeyword? MatchField.names (f.name.toList ++ ' ' :: u) = some (f.name, ' ' :: u) := by
  apply anyKeyword?_name
  · cases f <;> simp [MatchField.names, MatchField.name]
  · cases f <;> rfl
  · intro other ho hne
    simp only [MatchField.names, List.mem_cons, List.not_mem_nil, or_false] at ho
    cases f <;> rcases ho with rfl | rfl | rfl | rfl | rfl | rfl <;>
      first | exact absurd rfl hne | (simp only [MatchField.name]; rfl)

theorem anyKeyword?_timeField (f : TimeField) (u : List Char) :
    anyKeyword? ["updated", "created"] (f.name.toList ++ ' ' :: u) = some (f.name, ' ' :: u) := by
  apply anyKeyword?_name
  · cases f <;> simp [TimeField.name]
  · cases f <;> rfl
  · intro other ho hne
    simp only [List.mem_cons, List.not_mem_nil, or_false] at ho
    cases f <;> rcases ho with rfl | rfl <;> first | exact absurd rfl hne | (simp only [TimeField.name]; rfl)

theorem ofName_name (f : MatchField) : MatchField.ofName f.name = f := by
  cases f <;> simp [MatchField.ofName, MatchField.name]

theorem wordMatches_text {α : Type} {p : List Char → Option (α × List Char)} {c : Comparison} {a : α}
    {u : List Char} (hp : p (c.text.toList ++ u) = some (a, u)) (hu : Stops u) :
    wordMatches p false 0 (c.text.toList ++ u) = a :: wordMatches p false 0 u := by
  obtain ⟨first, rest, ht, hl⟩ := c.text_eq_cons
  have hw : isWord first = true := by
    have hl : (first.val ≥ 'a'.val && first.val ≤ 'z'.val) = true := hl
    have hn : 0x61 ≤ first.toNat ∧ first.toNat ≤ 0x7a := by
      simpa [UInt32.le_iff_toNat_le] using hl
    have hc : first.toNat < 0x80 := by omega
    simp [isWord, hc, isAsciiLetter, hn]
  rw [ht, List.cons_append] at hp ⊢
  exact wordMatches_found hw hp hu

theorem Guarded.reads {α : Type} {p : List Char → Option (α × List Char)} (h : Guarded p)
    (find : Comparison → Option α)
    (hit : ∀ c a, find c = some a → c.Plain → ∀ u, p (c.text.toList ++ u) = some (a, u))
    (miss : ∀ c, find c = none → ∀ u, (c = .unassigned → Stops u) →
      wordMatches p false 0 (c.start.toList ++ u) = wordMatches p false 0 u) :
    Reads (wordMatches p false 0) Comparison.Plain fun c found => (find c).toList ++ found where
  opening := h.passesValues.opening
  closing := h.passesValues.closing
  conjunction := h.passesValues.conjunction
  comparison c hc u hu := by
    cases hf : find c with
    | none => exact h.passesValues.text hc (miss c hf) hu
    | some a => exact wordMatches_text (hit c a hf hc u) hu

end IssueQuery.Condition
