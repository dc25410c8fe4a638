import IssueQuery.Proofs.Query.Conjunction

namespace IssueQuery

open Text

namespace Query

def sortFieldText (s : SortField) : String :=
  s.field ++ " " ++ s.order

theorem readSortField?_text {s : SortField} (h : s.order = ascending ∨ s.order = descending) :
    readSortField? (sortFieldText s).toList = some s := by
  obtain ⟨field, order⟩ := s
  rcases h with h | h
  · obtain rfl : order = ascending := h
    simp [readSortField?, sortFieldText, ascending, dropPrefix?]
  · obtain rfl : order = descending := h
    simp [readSortField?, sortFieldText, ascending, descending, dropPrefix?]

theorem splitOnChar_order {fields : List SortField} (hne : fields ≠ [])
    (hf : ∀ s ∈ fields, ',' ∉ (sortFieldText s).toList) :
    splitOnChar ',' (' ' :: (join ", " (fields.map sortFieldText)).toList) =
      fields.map fun s => ' ' :: (sortFieldText s).toList := by
  cases fields with
  | nil => exact absurd rfl hne
  | cons s fields =>
    have hs := @splitOnChar_intercalate ',' [' '] (' ' :: (sortFieldText s).toList)
      (fields.map fun s => (sortFieldText s).toList) (by simpa using hf s (by simp)) (by simp)
      (by simpa using fun t ht => hf t (List.mem_cons_of_mem _ ht))
    have hj : ' ' :: (join ", " ((s :: fields).map sortFieldText)).toList =
        [',', ' '].intercalate ((' ' :: (sortFieldText s).toList) ::
          fields.map fun s => (sortFieldText s).toList) := by
      rw [join, String.toList_intercalate]
      cases fields <;> simp [List.intercalate, Function.comp_def]
    rw [hj, hs]
    simp

theorem mapM_readSortField? {fields : List SortField}
    (hf : ∀ s ∈ fields, s.order = ascending ∨ s.order = descending) :
    (fields.map fun s => ' ' :: (sortFieldText s).toList).mapM
      (fun piece => (dropPrefix? [' '] piece).bind readSortField?) = some fields := by
  induction fields with
  | nil => rfl
  | cons s fields ih =>
    have hs : (dropPrefix? [' '] (' ' :: (sortFieldText s).toList)).bind readSortField? = some s :=
      readSortField?_text (hf s (by simp))
    rw [List.map_cons, List.mapM_cons, hs, ih fun _ ht => hf _ (List.mem_cons_of_mem _ ht)]
    rfl

theorem readOrder?_text {fields : List SortField} (hne : fields ≠ [])
    (hf : ∀ s ∈ fields, ',' ∉ s.field.toList ∧ (s.order = ascending ∨ s.order = descending)) :
    readOrder? ("ORDER BY ".toList ++ (join ", " (fields.map sortFieldText)).toList) =
      some (some fields) := by
  have hcomma : ∀ s ∈ fields, ',' ∉ (sortFieldText s).toList := by
    intro s hs h
    simp only [sortFieldText, String.toList_append, List.mem_append] at h
    rcases h with (h | h) | h
    · exact (hf s hs).1 h
    · simp at h
    · rcases (hf s hs).2 with ho | ho <;> simp [ho, ascending, descending] at h
  show ((splitOnChar ',' (' ' :: (join ", " (fields.map sortFieldText)).toList)).mapM
    fun piece => (dropPrefix? [' '] piece).bind readSortField?).bind (fun fields => some (some fields)) = _
  rw [splitOnChar_order hne hcomma, mapM_readSortField? fun s hs => (hf s hs).2]
  rfl

end Query

/-- Queries show all of an intent whose values hold no double quote, if its order is a list of names
without commas and of known directions. -/
structure Intent.Readable (i : Intent) : Prop where
  project : ∀ s ∈ i.allFilters.project, '"' ∉ s.toList
  assignee : ∀ s ∈ i.allFilters.assignee, '"' ∉ s.toList
  status : ∀ vs ∈ i.allFilters.status, ∀ v ∈ vs, '"' ∉ v.toList
  issueTypes : ∀ vs ∈ i.allFilters.issueTypes, ∀ v ∈ vs, '"' ∉ v.toList
  priorities : ∀ vs ∈ i.allFilters.priorities, ∀ v ∈ vs, '"' ∉ v.toList
  labels : ∀ vs ∈ i.allFilters.labels, ∀ v ∈ vs, '"' ∉ v.toList
  components : ∀ vs ∈ i.allFilters.components, ∀ v ∈ vs, '"' ∉ v.toList
  search : ∀ s ∈ i.search, '"' ∉ s.toList
  sort : ∀ fields ∈ i.sort, ∀ s ∈ fields,
    ',' ∉ s.field.toList ∧ (upper s.order = ascending ∨ upper s.order = descending)

namespace Intent.Readable

variable {i : Intent}

theorem parts_unquoted (h : i.Readable) : ∀ cs ∈ i.canonical.parts, ∀ c ∈ cs, c.Unquoted := by
  have hlist {xs : Option (List String)} (f : MatchField) (hx : ∀ vs ∈ xs, ∀ v ∈ vs, '"' ∉ v.toList) :
      ∀ vs ∈ xs, ∀ c ∈ Comparison.ofValues f vs, c.Unquoted := by
    intro vs hv c hc
    obtain ⟨v, rfl, rfl⟩ | ⟨-, rfl⟩ := Comparison.mem_ofValues hc
    · exact hx [v] hv v (by simp)
    · exact hx vs hv
  have hwindow (f : TimeField) (w : DateWindow) : ∀ c ∈ Comparison.ofWindow f w.canonical, c.Unquoted := by
    intro c hc
    obtain ⟨n, -, rfl⟩ | ⟨d, rfl⟩ | ⟨d, rfl⟩ := Comparison.mem_ofWindow hc <;> trivial
  apply i.forall_parts (P := Comparison.Unquoted)
  case assignee =>
    intro name hn
    rcases Assignee.comparison_ofName name with hc | hc | hc <;> rw [hc]
    · trivial
    · trivial
    · exact h.assignee name hn
  case project => exact h.project
  case status => exact hlist _ h.status
  case issueTypes => exact hlist _ h.issueTypes
  case priorities => exact hlist _ h.priorities
  case updated => exact fun w _ => hwindow _ w
  case created => exact fun w _ => hwindow _ w
  case labels => exact hlist _ h.labels
  case components => exact hlist _ h.components
  case search => exact fun s hs hq => h.search s hs (mem_of_mem_strip hq)

theorem canonical_sort (h : i.Readable) {fields : List SortField} (hs : i.canonical.sort = some fields) :
    fields ≠ [] ∧
      ∀ s ∈ fields, ',' ∉ s.field.toList ∧ (s.order = ascending ∨ s.order = descending) := by
  obtain ⟨stated, hp, rfl⟩ := Option.map_eq_some_iff.mp hs
  rw [presentList, Option.filter_eq_some_iff] at hp
  constructor
  · simpa using hp.2
  · simpa [SortField.canonical] using h.sort stated hp.1

end Intent.Readable

namespace Query

open Comparison (allOf)

theorem join_ne_nil {fields : List SortField} (h : fields ≠ []) :
    (join ", " (fields.map sortFieldText)).toList ≠ [] := by
  match fields with
  | [] => exact absurd rfl h
  | [s] => simp [join, sortFieldText]
  | s :: t :: fields => simp [join, sortFieldText]

theorem decode?_of_order {q : Query} {sort : Option (List SortField)}
    (hq : q.text.toList = [] ∨ ∃ order, q.text.toList = "ORDER BY ".toList ++ order)
    (hs : readOrder? q.text.toList = some sort) : decode? q = some (.ofComparisons [] sort q.limit) := by
  have hstart : (q.text.toList.isEmpty || (dropPrefix? "ORDER BY".toList q.text.toList).isSome) = true := by
    rcases hq with h | ⟨order, h⟩ <;> simp [h, dropPrefix?]
  simp only [decode?, hstart, if_true, Option.bind_eq_bind, Option.bind_some, hs]
  rfl

theorem decode?_of_condition {q : Query} {parts : List (List Comparison)}
    (hp : ∀ cs ∈ parts, ∀ c ∈ cs, c.Unquoted) {w : String}
    (hw : Fragment.conjunction (parts.filterMap allOf) = some w) {rest : List Char}
    (hq : q.text.toList = w.toList ++ rest) (hr : Ends rest) {sort : Option (List SortField)}
    (hs : readOrder? rest = some sort) : decode? q = some (.ofComparisons parts.flatten sort q.limit) := by
  obtain ⟨first, tail, hf, hO⟩ := conjunction_eq_cons hw
  have hstart : ((w.toList ++ rest).isEmpty ||
      (dropPrefix? "ORDER BY".toList (w.toList ++ rest)).isSome) = false := by
    simp [hf, dropPrefix?, Ne.symm hO]
  have hl : parts.flatten.length ≤ (w.toList ++ rest).length + 1 := by
    have := length_flatten_le hw
    rw [List.length_append]
    omega
  simp only [decode?, hq, hstart, Bool.false_eq_true, if_false, readCondition?_parts hp hw hr hl,
    Option.bind_eq_bind, Option.bind_some, hs]
  rfl

theorem decode?_query {i : Intent} (h : i.Readable) : decode? i.canonical.query = some i.canonical := by
  have hback := CanonicalIntent.ofComparisons_parts i
  cases hs : i.canonical.sort with
  | none =>
    have ho : i.canonical.order = none := by rw [CanonicalIntent.order, hs]; rfl
    rw [hs] at hback
    cases hw : i.canonical.condition with
    | none =>
      have hq : i.canonical.query = ⟨"", i.limit⟩ := by
        rw [CanonicalIntent.query, hw, ho]
        rfl
      rw [hq, decode?_of_order (.inl rfl) rfl, ← flatten_eq_nil hw]
      exact congrArg some hback
    | some w =>
      obtain ⟨first, tail, hf, _⟩ := conjunction_eq_cons hw
      have hq : i.canonical.query = ⟨w, i.limit⟩ := by
        rw [CanonicalIntent.query, hw, ho, render, present_of_ne (by simp [hf])]
        rfl
      rw [hq, decode?_of_condition h.parts_unquoted hw (List.append_nil _).symm (.inl rfl) rfl]
      exact congrArg some hback
  | some fields =>
    obtain ⟨hne, hfields⟩ := h.canonical_sort hs
    have ho : i.canonical.order = some (join ", " (fields.map sortFieldText)) := by
      rw [CanonicalIntent.order, hs]
      rfl
    have hread := readOrder?_text hne hfields
    rw [hs] at hback
    cases hw : i.canonical.condition with
    | none =>
      have hq : i.canonical.query = ⟨"ORDER BY " ++ join ", " (fields.map sortFieldText), i.limit⟩ := by
        rw [CanonicalIntent.query, hw, ho, render, present_of_ne (join_ne_nil hne)]
        rfl
      have ht : i.canonical.query.text.toList =
          "ORDER BY ".toList ++ (join ", " (fields.map sortFieldText)).toList := by
        rw [hq, String.toList_append]
      rw [decode?_of_order (.inr ⟨_, ht⟩) (ht ▸ hread), ← flatten_eq_nil hw, hq]
      exact congrArg some hback
    | some w =>
      obtain ⟨first, tail, hf, _⟩ := conjunction_eq_cons hw
      have hq : i.canonical.query =
          ⟨w ++ " " ++ ("ORDER BY " ++ join ", " (fields.map sortFieldText)), i.limit⟩ := by
        rw [CanonicalIntent.query, hw, ho, render, present_of_ne (join_ne_nil hne),
          present_of_ne (by simp [hf])]
        rfl
      have ht : i.canonical.query.text.toList =
          w.toList ++ (" ORDER BY ".toList ++ (join ", " (fields.map sortFieldText)).toList) := by
        rw [hq]
        simp
      rw [decode?_of_condition h.parts_unquoted hw ht (.inr ⟨_, rfl⟩) hread, hq]
      exact congrArg some hback

theorem compile_lossless :
    (∀ i : Intent, i.Readable → decode? (compile i) = some i.canonical) ∧
      ∀ i j : Intent, i.Readable → j.Readable → compile i = compile j → i.canonical = j.canonical := by
  have hdecode (i : Intent) (h : i.Readable) : decode? (compile i) = some i.canonical := by
    rw [compile_eq_query]
    exact decode?_query h
  refine ⟨hdecode, fun i j hi hj h => ?_⟩
  have he : some i.canonical = some j.canonical := by rw [← hdecode i hi, ← hdecode j hj, h]
  exact Option.some.inj he

def separators (search order : String) : Intent where
  filters := some { Filters.none with
    project := some ") AND (status = ", assignee := some "Unassigned", labels := some ["ORDER BY", " IN ("] }
  search := some search
  sort := some [⟨"updated", order⟩]
  limit := some 5

theorem separators_readable {search order : String} (hs : '"' ∉ search.toList)
    (ho : upper order = ascending ∨ upper order = descending) : (separators search order).Readable := by
  constructor <;> simp [separators, Intent.allFilters, Filters.none, hs, ho]

theorem compile_lossless_separators :
    decode? (compile (separators " AND (" "desc")) = some (separators " AND (" "desc").canonical ∧
      (separators " AND (" "desc").canonical = (separators "AND ( " "DESC").canonical := by
  have hi : (separators " AND (" "desc").Readable := separators_readable (by decide) (by decide)
  have hj : (separators "AND ( " "DESC").Readable := separators_readable (by decide) (by decide)
  exact ⟨compile_lossless.1 _ hi, compile_lossless.2 _ _ hi hj (by decide +kernel)⟩

end Query

end IssueQuery
