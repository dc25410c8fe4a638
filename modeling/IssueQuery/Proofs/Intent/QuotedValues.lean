import IssueQuery.Proofs.Intent.Keywords
import IssueQuery.Proofs.Query.Lossless
import IssueQuery.Proofs.Query.Values

namespace IssueQuery

open Text

/-- What a query of the intent of a question shows between quotes, in this order. -/
def Intent.quotedValues (i : Intent) : List String :=
  let f := i.allFilters
  (f.assignee.toList.filter fun a => lower a != Clause.currentUser && lower a != Clause.unassigned) ++
    f.project.toList ++ f.status.getD [] ++ f.issueTypes.getD [] ++ f.priorities.getD [] ++
    (i.search.toList.map strip).filter (!·.isEmpty)

theorem ne_of_isWord {c d : Char} (h : isWord c = true) (hd : isWord d = false) : c ≠ d := by
  rintro rfl
  rw [h] at hd
  cases hd

theorem Trimmed.present {s : String} (h : Trimmed s) : Clause.present (some s) = some s := by
  apply present_of_ne
  intro he
  apply h.1
  simpa using he

namespace Phrases

/-- What a question can ask for at all: the last days of updates are the only window, and the latest update
is the only order. -/
structure Narrow (i : Intent) : Prop where
  labels : i.allFilters.labels = none
  components : i.allFilters.components = none
  created : i.allFilters.created = none
  updated : ∀ w ∈ i.allFilters.updated, ∃ n : Nat, w = DateWindow.last n
  sort : ∀ fields ∈ i.sort, fields = [⟨"updated", descending⟩]

section Values

variable {prompt : List Char}

theorem assignee_unquoted : ∀ s ∈ assignee prompt, '"' ∉ s.toList := by
  intro s hs
  rcases of_assignee hs with rfl | rfl | ⟨word, -, hw, rfl⟩
  · decide
  · decide
  · rw [String.toList_ofList]
    exact fun hq => ne_of_isWord (hw _ hq) (by decide) rfl

theorem project_unquoted : ∀ s ∈ project prompt, '"' ∉ s.toList := by
  intro s hs hq
  obtain ⟨word, -, hw, rfl⟩ := of_project hs
  obtain ⟨c, hc, hq⟩ : ∃ c ∈ word, '"' ∈ upperChar c := by simpa [upper] using hq
  exact upperChar_not_quote (hw c hc) hq

theorem of_searchRun? {cs run : List Char} (h : searchRun? cs = some run) :
    ∀ c ∈ run, isWord c = true ∨ c = ' ' := by
  induction cs generalizing run with
  | nil => cases h
  | cons c cs ih =>
    rw [searchRun?] at h
    split at h
    · cases h
    · rename_i hc
      have hclass : isWord c = true ∨ c = ' ' := by
        rw [Bool.not_eq_true', Bool.not_eq_false, Bool.or_eq_true, beq_iff_eq] at hc
        exact hc
      split at h
      · obtain rfl := Option.some.inj h
        exact List.forall_mem_singleton.mpr hclass
      · obtain ⟨rest, hrest, rfl⟩ := Option.map_eq_some_iff.mp h
        exact List.forall_mem_cons.mpr ⟨hclass, ih hrest⟩

theorem of_search {s : String} (h : s ∈ search prompt) : ∀ c ∈ s.toList, isWord c = true ∨ c = ' ' := by
  intro c hc
  obtain ⟨cs, hcs, rfl⟩ := Option.map_eq_some_iff.mp h
  obtain ⟨t, ht⟩ := of_firstMatch hcs
  simp only [searchWords?, Option.bind_eq_bind, Option.bind_eq_some_iff] at ht
  obtain ⟨rest, -, inner, -, hrun⟩ := ht
  have hmem : c ∈ (strip (String.ofList cs)).toList := by simpa [strip] using hc
  have hcs := mem_of_mem_strip hmem
  rw [String.toList_ofList] at hcs
  exact of_searchRun? hrun c hcs

theorem search_not_mem {a : Char} (hw : isWord a = false) (hb : a ≠ ' ') :
    ∀ s ∈ search prompt, a ∉ s.toList := by
  intro s hs ha
  rcases of_search hs a ha with h | h
  · exact ne_of_isWord h hw rfl
  · exact hb h

theorem keywords_unquoted :
    (∀ row ∈ statusWords, ∀ v ∈ row.2, '"' ∉ v.toList) ∧ (∀ row ∈ issueTypeWords, ∀ v ∈ row.2, '"' ∉ v.toList) ∧
      ∀ row ∈ priorityWords, ∀ v ∈ row.2, '"' ∉ v.toList := by
  decide

theorem valuesOf_unquoted {table : Keywords} (ht : ∀ row ∈ table, ∀ v ∈ row.2, '"' ∉ v.toList) :
    ∀ vs ∈ valuesOf table prompt, ∀ v ∈ vs, '"' ∉ v.toList := by
  intro vs hvs v hv
  obtain ⟨row, hrow, hin⟩ := mem_of_valuesOf hvs hv
  exact ht row hrow v hin

theorem sort_updated : ∀ fields ∈ sort prompt, fields = [⟨"updated", descending⟩] := by
  intro fields hf
  rw [sort] at hf
  split at hf
  · exact (Option.some.inj hf).symm
  · cases hf

end Values

theorem ofKeywords_narrow {text : String} {i : Intent} (h : ofKeywords text = .ok i) :
    i.Readable ∧ Narrow i := by
  obtain ⟨window, hupdated, h⟩ := Outcome.of_bind h
  obtain ⟨n, -, h⟩ := Outcome.of_bind h
  obtain rfl := Except.ok.inj h
  obtain ⟨hstatus, htypes, hpriorities⟩ := keywords_unquoted
  constructor
  · exact {
      project := project_unquoted
      assignee := assignee_unquoted
      status := valuesOf_unquoted hstatus
      issueTypes := valuesOf_unquoted htypes
      priorities := valuesOf_unquoted hpriorities
      labels := by simp [Intent.allFilters, Filters.none]
      components := by simp [Intent.allFilters, Filters.none]
      search := search_not_mem (by decide) (by decide)
      sort := by
        intro fields hf
        rw [sort_updated fields hf]
        decide }
  · exact {
      labels := rfl
      components := rfl
      created := rfl
      updated := updated_last hupdated
      sort := sort_updated }

theorem presets_narrow : ∀ preset ∈ presets, preset.2.Readable ∧ Narrow preset.2 := by
  have hweek : ∃ n : Nat, DateWindow.last 7 = DateWindow.last n := ⟨7, rfl⟩
  have hmonth : ∃ n : Nat, DateWindow.last 30 = DateWindow.last n := ⟨30, rfl⟩
  simp only [presets, List.forall_mem_cons]
  refine ⟨?_, ?_, ?_, ?_, ?_, by simp⟩
  all_goals
    constructor
    · constructor <;> decide
    · constructor <;> simp [Intent.allFilters, Filters.none, Intent.empty, hweek, hmonth]

theorem intent_narrow {text : String} {i : Intent} (h : intent text = .ok i) : i.Readable ∧ Narrow i := by
  rw [intent] at h
  simp only at h
  split at h
  · rename_i found
    obtain rfl := Except.ok.inj h
    exact presets_narrow _ (List.mem_of_find?_eq_some found)
  · exact ofKeywords_narrow h

section Composition

open Comparison (ofValues ofWindow)

theorem flatMap_quoted_ofValues (f : MatchField) (vs : List String) :
    (ofValues f vs).flatMap Comparison.quoted = vs := by
  match vs with
  | [] => rfl
  | [v] => rfl
  | v :: w :: vs => exact List.append_nil _

theorem flatMap_quoted_assignee {a : Option String} (h : ∀ s ∈ a, Trimmed s) :
    (((Clause.present a).map Assignee.ofName).toList.map Assignee.comparison).flatMap Comparison.quoted =
      a.toList.filter fun a => lower a != Clause.currentUser && lower a != Clause.unassigned := by
  cases a with
  | none => rfl
  | some s =>
    rw [(h s rfl).present]
    by_cases hc : lower s = Clause.currentUser
    · simp [Assignee.ofName, Assignee.comparison, Comparison.quoted, hc]
    · by_cases hu : lower s = Clause.unassigned
      · have hne : ¬Clause.unassigned = Clause.currentUser := by decide
        simp [Assignee.ofName, Assignee.comparison, Comparison.quoted, hu, hne]
      · simp [Assignee.ofName, Assignee.comparison, Comparison.quoted, hc, hu]

theorem present_of_trimmed {a : Option String} (h : ∀ s ∈ a, Trimmed s) : Clause.present a = a := by
  cases a with
  | none => rfl
  | some s => exact (h s rfl).present

theorem ofWindow_last {w : Option DateWindow} (h : ∀ v ∈ w, ∃ n : Nat, v = DateWindow.last n) (f : TimeField) :
    ofWindow f (w.bind DateWindow.canonical) = (w.bind (·.lastDays)).toList.map (Comparison.lastDays f) := by
  cases w with
  | none => rfl
  | some w =>
    obtain ⟨n, rfl⟩ := h w rfl
    rfl

theorem flatMap_quoted_lastDays (f : TimeField) (ns : List Int) :
    (ns.map (Comparison.lastDays f)).flatMap Comparison.quoted = [] := by
  rw [List.flatMap_map, List.flatMap_eq_nil_iff]
  exact fun n _ => rfl

theorem Proper.allFilters {i : Intent} (h : Proper i) : i.allFilters.WellFormed := by
  cases hf : i.filters with
  | none =>
    rw [Intent.allFilters, hf]
    constructor <;> simp [Filters.none]
  | some f =>
    rw [Intent.allFilters, hf]
    exact (h.filters f hf).1

theorem flatMap_quoted_parts {i : Intent} (hp : Proper i) (hn : Narrow i) :
    i.canonical.parts.flatten.flatMap Comparison.quoted = i.quotedValues := by
  have hf := hp.allFilters
  have hsearch : ((Clause.present (i.search.map strip)).toList.map Comparison.mentions).flatMap Comparison.quoted =
      (i.search.toList.map strip).filter (!·.isEmpty) := by
    cases i.search with
    | none => rfl
    | some s =>
      by_cases he : strip s = "" <;> simp [Clause.present, Comparison.quoted, Option.filter, he]
  simp only [CanonicalIntent.parts, Intent.canonical, List.flatten_cons, List.flatten_nil, List.flatMap_append,
    List.flatMap_nil, flatMap_quoted_assignee hf.assignee, flatMap_quoted_ofValues, present_of_trimmed hf.project,
    Clause.getD_presentList, ofWindow_last hn.updated, flatMap_quoted_lastDays, hn.created, hn.labels,
    hn.components, hsearch, Intent.quotedValues]
  simp [ofWindow]

theorem fits_parts {i : Intent} (hr : i.Readable) (hn : Narrow i) :
    ∀ cs ∈ i.canonical.parts, ∀ c ∈ cs,
      Composed.Fits (i.allFilters.updated.bind (·.lastDays)).toList c := by
  have hvalues (f : MatchField) (vs : List String) : ∀ c ∈ ofValues f vs, c.days = [] := by
    intro c hc
    obtain ⟨v, -, rfl⟩ | ⟨-, rfl⟩ := Comparison.mem_ofValues hc <;> rfl
  have hdays : ∀ cs ∈ i.canonical.parts, ∀ c ∈ cs,
      ∀ n ∈ c.days, n ∈ (i.allFilters.updated.bind (·.lastDays)).toList := by
    apply i.forall_parts (P := fun c => ∀ n ∈ c.days, n ∈ (i.allFilters.updated.bind (·.lastDays)).toList)
    case assignee =>
      intro name _
      rcases Assignee.comparison_ofName name with hc | hc | hc <;> simp [hc, Comparison.days]
    case updated =>
      intro w hw c hc
      obtain ⟨n, hn, rfl⟩ | ⟨d, rfl⟩ | ⟨d, rfl⟩ := Comparison.mem_ofWindow hc
      · have hw : i.allFilters.updated = some w := hw
        have hn : w.lastDays = some n := hn
        simp [Comparison.days, hw, hn]
      · simp [Comparison.days]
      · simp [Comparison.days]
    case created => simp [hn.created]
    case project => simp [Comparison.days]
    case search => simp [Comparison.days]
    all_goals
      intro vs _ c hc
      simp [hvalues _ vs c hc]
  exact fun cs hcs c hc => ⟨hr.parts_unquoted cs hcs c hc, hdays cs hcs c hc⟩

theorem composed_order {i : Intent} (hn : Narrow i) (numbers : List Int) :
    ∀ order ∈ i.canonical.order, Composed (Query.IsWord numbers) [] order.toList := by
  intro order ho
  obtain ⟨fields, hs, rfl⟩ := Option.map_eq_some_iff.mp ho
  obtain ⟨stated, hp, rfl⟩ := Option.map_eq_some_iff.mp hs
  rw [presentList, Option.filter_eq_some_iff] at hp
  obtain rfl := hn.sort stated hp.1
  have h : Composed (Query.IsWord numbers) [] ("updated".toList ++ " ".toList ++ "DESC".toList) :=
    ((Composed.keyword (by decide)).append (.keyword (by decide))).append (.keyword (by decide))
  exact h

end Composition

/-- What may stand outside of quotes: keywords, parentheses, and the number of days in which updates are
looked for. -/
def IsFixed (i : Intent) (w : List Char) : Prop :=
  w ∈ ("(" :: ")" :: Query.keywords).map String.toList ∨
    ∃ n : Nat, i.allFilters.updated = some (DateWindow.last n) ∧ w = (toString n).toList

theorem isFixed_of_isWord {i : Intent} (hn : Narrow i) {w : List Char}
    (h : OrParenthesis (Query.IsWord (i.allFilters.updated.bind (·.lastDays)).toList) w) : IsFixed i w := by
  rcases h with (hw | ⟨n, hn', rfl⟩) | rfl | rfl
  · exact .inl (List.mem_cons_of_mem _ (List.mem_cons_of_mem _ hw))
  · rw [Option.mem_toList, Option.bind_eq_some_iff] at hn'
    obtain ⟨v, hv, hdays⟩ := hn'
    obtain ⟨m, rfl⟩ := hn.updated v hv
    obtain rfl : (m : Int) = n := Option.some.inj hdays
    exact .inr ⟨m, hv, rfl⟩
  · exact .inl List.mem_cons_self
  · exact .inl (List.mem_cons_of_mem _ List.mem_cons_self)

theorem compile_intent_quotes {text : String} {i : Intent} (h : intent text = .ok i) :
    (splitOnChar '"' (Query.compile i).text.toList).length % 2 = 1 ∧
      betweenQuotes (Query.compile i).text.toList = i.quotedValues.map String.toList ∧
      (∀ piece ∈ outsideQuotes (Query.compile i).text.toList, MadeOf (IsFixed i) piece) ∧
      Balanced (outsideQuotes (Query.compile i).text.toList).flatten := by
  obtain ⟨hr, hn⟩ := intent_narrow h
  have hc := Query.composed_compile (fits_parts hr hn) (composed_order hn _)
  rw [flatMap_quoted_parts (proper_intent h) hn] at hc
  obtain ⟨hodd, hvalues, houtside, hbalanced⟩ := hc.split (Query.isWord_bare _)
  exact ⟨hodd, hvalues, fun p hp => (houtside p hp).mono fun _ => isFixed_of_isWord hn, hbalanced⟩

def attempt : String :=
  "Bugs assigned to o\" OR (about \"a b\" in straße project, last 9 days"

def attempted : Intent where
  filters := some { Filters.none with
    project := some "STRASSE", assignee := some "o", issueTypes := some ["Bug"], updated := some (.last 9) }
  search := some "a b"
  sort := none
  limit := none

theorem compile_intent_quotes_attempt :
    intent attempt = .ok attempted ∧
      betweenQuotes (Query.compile attempted).text.toList =
        ["o", "STRASSE", "Bug", "a b"].map String.toList := by
  have h : intent attempt = .ok attempted := rfl
  refine ⟨h, ?_⟩
  rw [(compile_intent_quotes h).2.1]
  rfl

end Phrases

end IssueQuery
