import IssueQuery.Proofs.Number.Reading
import IssueQuery.Proofs.Query.Layout
import IssueQuery.Tracker.Condition

namespace IssueQuery

open Text

/-- A value of plain characters without the phrases that are looked for anywhere in a text. -/
structure Harmless (s : String) : Prop where
  plain : Plain s.toList
  order : contains (lower s) "order by" = false
  nobody : contains (lower s) "assignee is empty" = false

instance (s : String) : Decidable (Harmless s) :=
  decidable_of_iff (s.toList.all isPlain ∧ contains (lower s) "order by" = false ∧
      contains (lower s) "assignee is empty" = false)
    ⟨fun h => ⟨List.all_eq_true.mp h.1, h.2.1, h.2.2⟩,
      fun h => ⟨List.all_eq_true.mpr h.plain, h.order, h.nobody⟩⟩

namespace Harmless

variable {s : String}

theorem lower_toList (h : Harmless s) : (lower s).toList = s.toList.map asciiLower := by
  rw [lower, String.toList_ofList, lowerChars_ascii fun c hc => lt_of_isPlain (h.plain c hc)]

theorem not_quote (h : Harmless s) : '"' ∉ s.toList :=
  fun hq => absurd (h.plain _ hq) (by decide)

theorem not_dropPrefix? {phrase : String} (h : Harmless s) (hp : contains (lower s) phrase = false)
    {t : List Char} (ht : t <:+ s.toList) : dropPrefix? phrase.toList (t.map asciiLower) = none := by
  rw [contains, h.lower_toList] at hp
  exact dropPrefix?_eq_none_of_not_occursIn hp (ht.map asciiLower)

end Harmless

namespace Comparison

def Plain : Comparison → Prop
  | assignedTo s | equals _ s | mentions s => Harmless s
  | oneOf _ vs => vs ≠ [] ∧ ∀ v ∈ vs, Harmless v
  | lastDays _ n => 0 ≤ n
  | _ => True

def start : Comparison → String
  | mine => "assignee = currentUser()"
  | unassigned => "assignee is EMPTY"
  | assignedTo _ => "assignee = \""
  | equals f _ => f.name ++ " = \""
  | oneOf f _ => f.name ++ " IN (\""
  | lastDays f _ => f.name ++ " >= -"
  | notBefore f _ => f.name ++ " >= \""
  | notAfter f _ => f.name ++ " <= \""
  | mentions _ => "text ~ \""

def openedValues : List String → List Char
  | [] => []
  | v :: vs => v.toList ++ '"' :: vs.flatMap fun w => ", \"".toList ++ w.toList ++ ['"']

def body : Comparison → List Char
  | mine | unassigned => []
  | assignedTo s | equals _ s | mentions s => s.toList ++ ['"']
  | oneOf _ vs => openedValues vs ++ [')']
  | lastDays _ n => (toString n).toList ++ ['d']
  | notBefore _ d | notAfter _ d => d.shortIso.toList ++ ['"']

theorem toList_text {c : Comparison} (h : c.Plain) : c.text.toList = c.start.toList ++ c.body := by
  cases c with
  | mine | unassigned => rfl
  | oneOf f vs =>
    obtain ⟨v, vs, rfl⟩ := List.exists_cons_of_ne_nil h.1
    simp [text, start, body, toList_join_cons, openedValues, Clause.quote, List.flatMap_map]
  | _ => simp [text, start, body, Clause.quote]

end Comparison

theorem isPlain_of_isDigit {c : Char} (h : c.isDigit = true) : isPlain c = true := by
  simp [isPlain, isAsciiDigit, Number.isDigit_bounds h]

theorem asciiLower_of_isDigit {c : Char} (h : c.isDigit = true) : asciiLower c = c := by
  have hn := Number.isDigit_bounds h
  have hc : ¬0x41 ≤ c.toNat := by omega
  simp [asciiLower, hc]

theorem isPlain_of_mem_toString {n : Nat} {c : Char} (h : c ∈ (toString n).toList) : isPlain c = true :=
  isPlain_of_isDigit (Number.isDigit_of_mem_toString h)

theorem mem_shortIso {d : Calendar.Date} {c : Char} (h : c ∈ d.shortIso.toList) :
    c.isDigit = true ∨ c = '-' := by
  simp only [Calendar.Date.shortIso, String.toList_append, List.mem_append] at h
  rcases h with (((h | h) | h) | h) | h
  · exact .inl (Number.isDigit_of_mem_toString h)
  · exact .inr (by simpa using h)
  · exact .inl (Calendar.isDigit_of_mem_padZeros h)
  · exact .inr (by simpa using h)
  · exact .inl (Calendar.isDigit_of_mem_padZeros h)

theorem harmless_shortIso (d : Calendar.Date) : Harmless d.shortIso := by
  have hplain : Plain d.shortIso.toList := by
    intro c hc
    rcases mem_shortIso hc with h | rfl
    · exact isPlain_of_isDigit h
    · decide
  have hlower : (lower d.shortIso).toList = d.shortIso.toList := by
    have hmap : d.shortIso.toList.map asciiLower = d.shortIso.toList.map id := by
      apply List.map_congr_left
      intro c hc
      rcases mem_shortIso hc with h | rfl
      · exact asciiLower_of_isDigit h
      · decide
    rw [lower, String.toList_ofList, lowerChars_ascii fun c hc => lt_of_isPlain (hplain c hc), hmap, List.map_id]
  have hphrase (phrase : String) (hp : ∃ c ∈ phrase.toList, c.isDigit = false ∧ c ≠ '-') :
      contains (lower d.shortIso) phrase = false := by
    obtain ⟨c, hc, hd, hne⟩ := hp
    rw [contains, hlower, ← Bool.not_eq_true]
    intro h
    rcases mem_shortIso ((occursIn_iff.mp h).subset hc) with h | h
    · exact absurd (h.symm.trans hd) (by decide)
    · exact hne h
  exact ⟨hplain, hphrase _ ⟨'o', by decide, by decide, by decide⟩,
    hphrase _ ⟨'a', by decide, by decide, by decide⟩⟩

/-- A reading that no value of a comparison disturbs. -/
structure PassesValues {β : Type} (read : List Char → β) : Prop where
  value : ∀ v, Harmless v → ∀ u, read (v.toList ++ '"' :: u) = read u
  separator : ∀ u, read (", \"".toList ++ u) = read u
  days : ∀ n : Nat, ∀ u, Stops u → read ((toString n).toList ++ 'd' :: u) = read u
  opening : ∀ u, read ('(' :: u) = read u
  closing : ∀ u, read (')' :: u) = read u
  conjunction : ∀ u, read (" AND ".toList ++ u) = read u

namespace PassesValues

variable {β : Type} {read : List Char → β}

theorem openedValues (h : PassesValues read) (vs : List String) (hv : ∀ v ∈ vs, Harmless v) (u : List Char) :
    read (Comparison.openedValues vs ++ u) = read u := by
  have hmore (ws : List String) (hw : ∀ w ∈ ws, Harmless w) :
      read ((ws.flatMap fun w => ", \"".toList ++ w.toList ++ ['"']) ++ u) = read u := by
    induction ws with
    | nil => rfl
    | cons w ws ih =>
      have ht : ((w :: ws).flatMap fun w => ", \"".toList ++ w.toList ++ ['"']) ++ u = ", \"".toList ++
          (w.toList ++ '"' :: ((ws.flatMap fun w => ", \"".toList ++ w.toList ++ ['"']) ++ u)) := by
        simp
      rw [ht, h.separator, h.value w (hw w (by simp)), ih fun x hx => hw x (List.mem_cons_of_mem w hx)]
  cases vs with
  | nil => rfl
  | cons v vs =>
    rw [Comparison.openedValues, List.append_assoc, List.cons_append, h.value v (hv v (by simp))]
    exact hmore vs fun w hw => hv w (List.mem_cons_of_mem v hw)

theorem body (h : PassesValues read) {c : Comparison} (hc : c.Plain) {u : List Char} (hu : Stops u) :
    read (c.body ++ u) = read u := by
  cases c with
  | mine | unassigned => rfl
  | assignedTo s | equals _ s | mentions s => simpa [Comparison.body] using h.value s hc u
  | oneOf f vs =>
    rw [Comparison.body, List.append_assoc, h.openedValues vs hc.2]
    exact h.closing u
  | lastDays f n =>
    obtain ⟨n, rfl⟩ := Int.eq_ofNat_of_zero_le hc
    have hb : (Comparison.lastDays f (n : Int)).body ++ u = (toString n).toList ++ 'd' :: u := by
      show (toString n).toList ++ ['d'] ++ u = _
      simp
    rw [hb, h.days n u hu]
  | notBefore _ d | notAfter _ d => simpa [Comparison.body] using h.value _ (harmless_shortIso d) u

theorem text (h : PassesValues read) {c : Comparison} (hc : c.Plain)
    (hs : ∀ u, (c = .unassigned → Stops u) → read (c.start.toList ++ u) = read u) {u : List Char}
    (hu : Stops u) : read (c.text.toList ++ u) = read u := by
  -- What follows matters only behind the comparison that ends in a word.
  rw [Comparison.toList_text hc, List.append_assoc, hs _ ?_, h.body hc hu]
  rintro rfl
  exact hu

end PassesValues

end IssueQuery
