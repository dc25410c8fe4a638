import IssueQuery.Proofs.Tracker.Guarded

namespace IssueQuery.Condition

open Text

def order? (cs : List Char) : Option (List Char × List Char) :=
  if startsOrder cs then some (cs, []) else none

theorem startsOrder_eq_false {cs : List Char} (h : dropKeyword? "order by".toList cs = none) :
    startsOrder cs = false := by
  simp only [startsOrder, h]

theorem order?_eq_none {cs : List Char} (h : dropKeyword? "order by".toList cs = none) : order? cs = none := by
  rw [order?, startsOrder_eq_false h]
  rfl

theorem order?_guarded : Guarded order? where
  value v hv t ht u := by
    have hp := hv.not_dropPrefix? hv.order ht
    have hk := dropKeyword?_ascii (fun c hc => lt_of_isPlain (hv.plain.suffix ht c hc)) "order by".toList
    rw [hp, Option.isSome_none, Option.isSome_eq_false_iff, Option.isNone_iff_eq_none] at hk
    apply order?_eq_none
    rw [dropKeyword?_before_quote (by decide), hk]
    rfl
  digit c hc u := order?_eq_none (dropKeyword?_digit hc (k := 'o') (by decide) "rder by".toList u)
  conjunction _ := rfl

theorem order?_reads : Reads (wordMatches order? false 0) Comparison.Plain fun _ found => found := by
  apply order?_guarded.reads (fun _ => none) (fun c a hf => by cases hf)
  intro c hf u hs
  cases c with
  | unassigned => exact wordMatches_of_stops (hs rfl) true
  | mine | assignedTo | mentions => simp only [Comparison.start]; rfl
  | equals f | oneOf f => cases f <;> simp only [Comparison.start, MatchField.name] <;> rfl
  | lastDays f | notBefore f | notAfter f => cases f <;> simp only [Comparison.start, TimeField.name] <;> rfl

theorem isWord_of_startsOrder {c : Char} {cs : List Char} (h : startsOrder (c :: cs) = true) :
    isWord c = true := by
  have hc : isCaseOf 'o' c = true := by
    cases hc : isCaseOf 'o' c with
    | true => rfl
    | false =>
      have hk : dropKeyword? "order by".toList (c :: cs) = none := by
        show (if isCaseOf 'o' c then _ else none) = none
        simp [hc]
      simp [startsOrder_eq_false hk] at h
  have hl : asciiLower c = 'o' := by simpa [isCaseOf, otherCases] using hc
  unfold asciiLower at hl
  split at hl
  · rename_i hr
    have hr : 0x41 ≤ c.toNat ∧ c.toNat ≤ 0x5a := by simpa using hr
    have hn : c.toNat < 0x80 := by omega
    simp [isWord, hn, isAsciiLetter, hr]
  · rw [hl]
    decide

theorem beforeOrder_append (inWord : Bool) (cs : List Char) :
    beforeOrder inWord cs ++ (wordMatches order? inWord 0 cs).head?.getD [] = cs := by
  induction cs generalizing inWord with
  | nil => rfl
  | cons c cs ih =>
    rw [beforeOrder, wordMatches]
    cases ho : startsOrder (c :: cs) with
    | true =>
      cases inWord with
      | true => simp [ih]
      | false => simp [isWord_of_startsOrder ho, order?, ho]
    | false => simp [order?, ho, ih]

def hasPhrase (phrase : List Char) (cs : List Char) : Bool :=
  occursIn phrase (cs.map asciiLower)

theorem hasPhrase_cons (phrase : List Char) (c : Char) (cs : List Char) :
    hasPhrase phrase (c :: cs) =
      ((dropPrefix? phrase ((c :: cs).map asciiLower)).isSome || hasPhrase phrase cs) := rfl

theorem hasPhrase_append {phrase text : List Char} (u : List Char)
    (h : ∀ t, t <:+ text → t ≠ [] → dropPrefix? phrase ((t ++ u).map asciiLower) = none) :
    hasPhrase phrase (text ++ u) = hasPhrase phrase u := by
  induction text with
  | nil => rfl
  | cons c text ih =>
    have hc := h (c :: text) (List.suffix_refl _) (by simp)
    rw [List.cons_append] at hc ⊢
    rw [hasPhrase_cons, hc, ih fun t ht => h t (ht.trans (List.suffix_cons c text))]
    rfl

structure GuardedPhrase (phrase : List Char) : Prop where
  value : ∀ v, Harmless v → ∀ t, t <:+ v.toList → dropPrefix? phrase (t.map asciiLower) = none
  quote : '"' ∉ phrase
  first : ∃ k ks, phrase = k :: ks ∧ k.isDigit = false ∧ k ≠ 'd'

namespace GuardedPhrase

variable {phrase : List Char}

theorem passes_value (h : GuardedPhrase phrase) (v : String) (hv : Harmless v) (u : List Char) :
    hasPhrase phrase (v.toList ++ '"' :: u) = hasPhrase phrase u := by
  have hl : asciiLower '"' = '"' := by decide
  have hb (t : List Char) (ht : t <:+ v.toList) : dropPrefix? phrase ((t ++ '"' :: u).map asciiLower) = none := by
    rw [List.map_append, List.map_cons, hl, dropPrefix?_before h.quote, h.value v hv t ht]
    rfl
  have hq := hb [] (List.nil_suffix)
  rw [List.nil_append] at hq
  rw [hasPhrase_append _ fun t ht _ => hb t ht, hasPhrase_cons, hq]
  rfl

theorem passes_days (h : GuardedPhrase phrase) (n : Nat) (u : List Char) :
    hasPhrase phrase ((toString n).toList ++ 'd' :: u) = hasPhrase phrase u := by
  obtain ⟨k, ks, rfl, hk, hne⟩ := h.first
  have hd : asciiLower 'd' = 'd' := by decide
  rw [hasPhrase_append, hasPhrase_cons]
  · simp [hd, dropPrefix?, hne]
  · intro t ht hnil
    obtain ⟨c, t, rfl⟩ := List.exists_cons_of_ne_nil hnil
    have hc := Number.isDigit_of_mem_toString (ht.subset List.mem_cons_self)
    have hkc : k ≠ c := by
      rintro rfl
      simp [hc] at hk
    simp [asciiLower_of_isDigit hc, dropPrefix?, hkc]

theorem passesValues (h : GuardedPhrase phrase)
    (hs : ∀ u, hasPhrase phrase (", \"".toList ++ u) = hasPhrase phrase u)
    (ho : ∀ u, hasPhrase phrase ('(' :: u) = hasPhrase phrase u)
    (hc : ∀ u, hasPhrase phrase (')' :: u) = hasPhrase phrase u)
    (ha : ∀ u, hasPhrase phrase (" AND ".toList ++ u) = hasPhrase phrase u) :
    PassesValues (hasPhrase phrase) where
  value := h.passes_value
  separator := hs
  days n u _ := h.passes_days n u
  opening := ho
  closing := hc
  conjunction := ha

end GuardedPhrase

def askingPhrase : List Char := "assignee = currentuser()".toList

def nobodyPhrase : List Char := "assignee is empty".toList

theorem askingPhrase_guarded : GuardedPhrase askingPhrase where
  value v hv t ht := by
    cases hd : dropPrefix? askingPhrase (t.map asciiLower) with
    | none => rfl
    | some rest =>
      have hm : '=' ∈ t.map asciiLower := by
        rw [eq_append_of_dropPrefix? hd]
        exact List.mem_append_left _ (by decide)
      obtain ⟨c, hc, he⟩ := List.mem_map.mp hm
      have hp := isPlain_asciiLower (hv.plain.suffix ht c hc)
      rw [he] at hp
      exact absurd hp (by decide)
  quote := by decide
  first := ⟨'a', _, rfl, by decide, by decide⟩

theorem nobodyPhrase_guarded : GuardedPhrase nobodyPhrase where
  value _ hv _ ht := hv.not_dropPrefix? hv.nobody ht
  quote := by decide
  first := ⟨'a', _, rfl, by decide, by decide⟩

theorem askingPhrase_passes : PassesValues (hasPhrase askingPhrase) :=
  askingPhrase_guarded.passesValues (fun _ => rfl) (fun _ => rfl) (fun _ => rfl) fun _ => rfl

theorem nobodyPhrase_passes : PassesValues (hasPhrase nobodyPhrase) :=
  nobodyPhrase_guarded.passesValues (fun _ => rfl) (fun _ => rfl) (fun _ => rfl) fun _ => rfl

theorem phrase_reads {phrase : List Char} (h : PassesValues (hasPhrase phrase)) (own : Comparison)
    (hit : ∀ u, hasPhrase phrase (own.text.toList ++ u) = true)
    (miss : ∀ c, c ≠ own → ∀ u, hasPhrase phrase (c.start.toList ++ u) = hasPhrase phrase u) :
    Reads (hasPhrase phrase) Comparison.Plain fun c found => c == own || found where
  opening := h.opening
  closing := h.closing
  conjunction := h.conjunction
  comparison c hc u hu := by
    by_cases he : c = own
    · subst he
      simp [hit]
    · simp [h.text hc (fun u _ => miss c he u) hu, he]

theorem askingPhrase_reads : Reads (hasPhrase askingPhrase) Comparison.Plain
    fun c found => c == .mine || found := by
  apply phrase_reads askingPhrase_passes .mine (fun _ => rfl)
  intro c hne u
  cases c with
  | mine => exact absurd rfl hne
  | unassigned | assignedTo | mentions => simp only [Comparison.start]; rfl
  | equals f | oneOf f => cases f <;> simp only [Comparison.start, MatchField.name] <;> rfl
  | lastDays f | notBefore f | notAfter f => cases f <;> simp only [Comparison.start, TimeField.name] <;> rfl

theorem nobodyPhrase_reads : Reads (hasPhrase nobodyPhrase) Comparison.Plain
    fun c found => c == .unassigned || found := by
  apply phrase_reads nobodyPhrase_passes .unassigned (fun _ => rfl)
  intro c hne u
  cases c with
  | unassigned => exact absurd rfl hne
  | mine | assignedTo | mentions => simp only [Comparison.start]; rfl
  | equals f | oneOf f => cases f <;> simp only [Comparison.start, MatchField.name] <;> rfl
  | lastDays f | notBefore f | notAfter f => cases f <;> simp only [Comparison.start, TimeField.name] <;> rfl

end IssueQuery.Condition
