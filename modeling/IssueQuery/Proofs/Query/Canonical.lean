import IssueQuery.Proofs.Query.Combination
import IssueQuery.Proofs.Query.Comparison
import IssueQuery.Query.Compiler

namespace IssueQuery

open Text

/-- Whom a filter by assignee means: two names, in any case, stand for the person who asks and for
nobody. -/
inductive Assignee where
  | asking
  | nobody
  | named (name : String)
  deriving Repr, DecidableEq

namespace Assignee

def ofName (name : String) : Assignee :=
  if lower name = Clause.currentUser then asking
  else if lower name = Clause.unassigned then nobody
  else named name

def comparison : Assignee → Comparison
  | asking => .mine
  | nobody => .unassigned
  | named name => .assignedTo name

theorem comparison_ofName (name : String) : (ofName name).comparison = .mine ∨
    (ofName name).comparison = .unassigned ∨ (ofName name).comparison = .assignedTo name := by
  unfold ofName
  split
  · exact .inl rfl
  · split
    · exact .inr (.inl rfl)
    · exact .inr (.inr rfl)

end Assignee

namespace DateWindow

def canonical (w : DateWindow) : Option DateWindow :=
  match w.lastDays with
  | some days => some (last days)
  | none => if w.start.isNone && w.stop.isNone then none else some w

end DateWindow

def presentList {α : Type} (xs : Option (List α)) : Option (List α) :=
  xs.filter (!·.isEmpty)

structure CanonicalIntent where
  project : Option String
  assignee : Option Assignee
  status : Option (List String)
  issueTypes : Option (List String)
  priorities : Option (List String)
  labels : Option (List String)
  components : Option (List String)
  created : Option DateWindow
  updated : Option DateWindow
  search : Option String
  sort : Option (List SortField)
  limit : Option Int
  deriving Repr, DecidableEq

def SortField.canonical (s : SortField) : SortField := ⟨s.field, upper s.order⟩

def Intent.canonical (i : Intent) : CanonicalIntent where
  project := Clause.present i.allFilters.project
  assignee := (Clause.present i.allFilters.assignee).map Assignee.ofName
  status := presentList i.allFilters.status
  issueTypes := presentList i.allFilters.issueTypes
  priorities := presentList i.allFilters.priorities
  labels := presentList i.allFilters.labels
  components := presentList i.allFilters.components
  created := i.allFilters.created.bind DateWindow.canonical
  updated := i.allFilters.updated.bind DateWindow.canonical
  search := Clause.present (i.search.map strip)
  sort := (presentList i.sort).map (·.map SortField.canonical)
  limit := i.limit

namespace Comparison

def ofValues (f : MatchField) : List String → List Comparison
  | [] => []
  | [v] => [equals f v]
  | vs => [oneOf f vs]

def ofWindow (f : TimeField) : Option DateWindow → List Comparison
  | none => []
  | some w =>
    match w.lastDays with
    | some days => [lastDays f days]
    | none => w.start.toList.map (notBefore f) ++ w.stop.toList.map (notAfter f)

theorem mem_ofValues {f : MatchField} {vs : List String} {c : Comparison} (h : c ∈ ofValues f vs) :
    (∃ v, vs = [v] ∧ c = equals f v) ∨ (vs ≠ [] ∧ c = oneOf f vs) := by
  match vs, h with
  | [v], h => exact .inl ⟨v, rfl, by simpa [ofValues] using h⟩
  | v :: w :: vs, h => exact .inr ⟨by simp, by simpa [ofValues] using h⟩

theorem mem_ofWindow {f : TimeField} {w : DateWindow} {c : Comparison} (h : c ∈ ofWindow f w.canonical) :
    (∃ n ∈ w.lastDays, c = lastDays f n) ∨ (∃ d, c = notBefore f d) ∨ ∃ d, c = notAfter f d := by
  match w, h with
  | ⟨some n, _, _⟩, h => exact .inl ⟨n, rfl, by simpa [DateWindow.canonical, DateWindow.last, ofWindow] using h⟩
  | ⟨none, start, stop⟩, h =>
    cases start <;> cases stop <;> simp [DateWindow.canonical, ofWindow] at h <;> simp [h]
    rcases h with rfl | rfl <;> simp

def allOf : List Comparison → Option String
  | [] => none
  | cs => some (join " AND " (cs.map text))

end Comparison

namespace CanonicalIntent

open Comparison (ofValues ofWindow) in
def parts (c : CanonicalIntent) : List (List Comparison) :=
  [c.assignee.toList.map Assignee.comparison,
    ofValues .project c.project.toList,
    ofValues .status (c.status.getD []),
    ofValues .type (c.issueTypes.getD []),
    ofValues .priority (c.priorities.getD []),
    ofWindow .updated c.updated ++ ofWindow .created c.created,
    ofValues .labels (c.labels.getD []),
    ofValues .component (c.components.getD []),
    c.search.toList.map .mentions]

def condition (c : CanonicalIntent) : Option String :=
  Fragment.conjunction (c.parts.filterMap Comparison.allOf)

def order (c : CanonicalIntent) : Option String :=
  c.sort.map fun fields => join ", " (fields.map fun s => s.field ++ " " ++ s.order)

def query (c : CanonicalIntent) : Query :=
  ⟨Query.render ⟨c.condition, c.order⟩, c.limit⟩

end CanonicalIntent

namespace Clause

open Comparison (text allOf ofValues ofWindow)

theorem condition_ofCondition? (c : Option String) : (ofCondition? c).condition = c := by
  cases c <;> rfl

theorem assignee_condition (i : Intent) :
    (assignee.emit i).condition = allOf (i.canonical.assignee.toList.map Assignee.comparison) := by
  simp only [assignee, condition_ofCondition?, Intent.canonical]
  cases present i.allFilters.assignee with
  | none => rfl
  | some name =>
    have hne : ¬unassigned = currentUser := by decide
    by_cases hc : lower name = currentUser
    · simp [assigneeCondition, Assignee.ofName, Assignee.comparison, allOf, join, Comparison.text, hc]
    · by_cases hu : lower name = unassigned
      · simp [assigneeCondition, Assignee.ofName, Assignee.comparison, allOf, join, Comparison.text, hu, hne]
      · simp [assigneeCondition, Assignee.ofName, Assignee.comparison, allOf, join, Comparison.text, hc, hu]

theorem oneOf?_eq (f : MatchField) (vs : List String) : oneOf? f.name vs = allOf (ofValues f vs) := by
  match vs with
  | [] => rfl
  | [v] => simp [oneOf?, ofValues, allOf, join, Comparison.text]
  | v :: w :: vs => simp [oneOf?, ofValues, allOf, join, Comparison.text]

theorem project_condition (i : Intent) :
    (project.emit i).condition = allOf (ofValues .project i.canonical.project.toList) := by
  simp only [project, condition_ofCondition?, Intent.canonical]
  rw [← oneOf?_eq]
  cases present i.allFilters.project <;> rfl

theorem getD_presentList {α : Type} (xs : Option (List α)) : (presentList xs).getD [] = xs.getD [] := by
  match xs with
  | none => rfl
  | some [] => rfl
  | some (_ :: _) => rfl

theorem ofList_condition (name : String) (f : MatchField) (values : Filters → Option (List String))
    (i : Intent) : ((ofList name f.name values).emit i).condition =
      allOf (ofValues f ((presentList (values i.allFilters)).getD [])) := by
  rw [getD_presentList, ← oneOf?_eq]
  exact condition_ofCondition? _

theorem within?_eq (f : TimeField) (w : DateWindow) :
    within? f.name w = allOf (ofWindow f w.canonical) := by
  obtain ⟨days, start, stop⟩ := w
  cases days with
  | some n => simp [within?, DateWindow.canonical, DateWindow.last, ofWindow, allOf, join, Comparison.text]
  | none =>
    cases start <;> cases stop <;>
      simp [within?, DateWindow.canonical, ofWindow, allOf, join, Comparison.text]

theorem bind_within?_eq (f : TimeField) (w : Option DateWindow) :
    w.bind (within? f.name) = allOf (ofWindow f (w.bind DateWindow.canonical)) := by
  cases w with
  | none => rfl
  | some w => exact within?_eq f w

theorem allOf_append (cs ds : List Comparison) :
    allOf (cs ++ ds) =
      match allOf cs, allOf ds with
      | some a, some b => some (a ++ " AND " ++ b)
      | some a, none => some a
      | none, b => b := by
  match cs, ds with
  | [], [] => rfl
  | [], d :: ds => rfl
  | c :: cs, [] => simp [allOf]
  | c :: cs, d :: ds =>
    have hj := String.intercalate_append_of_ne_nil (l := (c :: cs).map text) (m := (d :: ds).map text)
      (s := " AND ") (by simp) (by simp)
    rw [← List.map_append] at hj
    exact congrArg some hj

theorem dateRange_condition (i : Intent) :
    (dateRange.emit i).condition =
      allOf (ofWindow .updated i.canonical.updated ++ ofWindow .created i.canonical.created) := by
  have hu := bind_within?_eq .updated i.allFilters.updated
  have hc := bind_within?_eq .created i.allFilters.created
  simp only [TimeField.name] at hu hc
  simp only [dateRange, allOf_append, Intent.canonical, ← hu, ← hc]
  cases i.allFilters.updated.bind (within? "updated") <;>
    cases i.allFilters.created.bind (within? "created") <;> rfl

theorem textSearch_condition (i : Intent) :
    (textSearch.emit i).condition = allOf (i.canonical.search.toList.map .mentions) := by
  simp only [textSearch, condition_ofCondition?, searchText, Intent.canonical]
  cases present (i.search.map strip) with
  | none => rfl
  | some s => simp [allOf, join, Comparison.text]

theorem sort_order (i : Intent) : (sort.emit i).order = i.canonical.order := by
  simp only [sort, Intent.canonical, CanonicalIntent.order]
  match i.sort with
  | none => rfl
  | some [] => rfl
  | some (s :: fields) =>
    show some (orderText (s :: fields)) =
      some (join ", " (((s :: fields).map SortField.canonical).map fun s => s.field ++ " " ++ s.order))
    simp [orderText, SortField.canonical, Function.comp_def]

theorem all_conditions (i : Intent) :
    all.map (fun c => (c.emit i).condition) = i.canonical.parts.map allOf ++ [none] := by
  have hs : (sort.emit i).condition = none := by
    simp only [sort]
    cases i.sort.getD [] <;> rfl
  have hstatus := ofList_condition "status" .status Filters.status i
  have htype := ofList_condition "issue_type" .type Filters.issueTypes i
  have hpriority := ofList_condition "priority" .priority Filters.priorities i
  have hlabels := ofList_condition "labels" .labels Filters.labels i
  have hcomponents := ofList_condition "components" .component Filters.components i
  simp only [all, List.map_cons, List.map_nil, assignee_condition, project_condition, dateRange_condition,
    textSearch_condition, hs]
  simp only [status, issueType, priority, labels, components]
  simp only [MatchField.name] at hstatus htype hpriority hlabels hcomponents
  simp only [hstatus, htype, hpriority, hlabels, hcomponents]
  rfl

theorem order_ofCondition? (c : Option String) : (ofCondition? c).order = none := by
  cases c <;> rfl

theorem all_orders (i : Intent) : (all.findSome? fun c => (c.emit i).order) = (sort.emit i).order := by
  have hdate : (dateRange.emit i).order = none := by
    simp only [dateRange]
    split
    · rfl
    · rfl
    · exact order_ofCondition? _
  simp only [all, List.findSome?_cons, List.findSome?_nil, hdate]
  simp only [assignee, project, status, issueType, priority, labels, components, textSearch, ofList,
    order_ofCondition?]
  cases (sort.emit i).order <;> rfl

theorem emit_eq_empty_of_not_applies (i : Intent) :
    ∀ c ∈ all, c.applies i = false → c.emit i = Fragment.empty := by
  have ofNone {c : Option String} (h : c = none) : ofCondition? c = Fragment.empty := by rw [h]; rfl
  have ofValues (name field : String) (values : Filters → Option (List String))
      (h : (ofList name field values).applies i = false) : (ofList name field values).emit i = .empty := by
    have hv : (values i.allFilters).getD [] = [] := by simpa [ofList] using h
    exact ofNone (by rw [hv]; rfl)
  intro c hc ha
  simp only [all, List.mem_cons, List.not_mem_nil, or_false] at hc
  rcases hc with rfl | rfl | rfl | rfl | rfl | rfl | rfl | rfl | rfl | rfl
  · exact ofNone (by simpa [assignee] using ha)
  · exact ofNone (by simpa [project] using ha)
  · exact ofValues _ _ _ ha
  · exact ofValues _ _ _ ha
  · exact ofValues _ _ _ ha
  · obtain ⟨hu, hcr⟩ : i.allFilters.updated = none ∧ i.allFilters.created = none := by
      simpa [dateRange] using ha
    simp [dateRange, hu, hcr, ofCondition?]
  · exact ofValues _ _ _ ha
  · exact ofValues _ _ _ ha
  · exact ofNone (by simpa [textSearch] using ha)
  · have hs : i.sort.getD [] = [] := by simpa [sort] using ha
    simp [sort, hs]

theorem filterMap_emit (i : Intent) {α : Type} (get : Fragment → Option α) (hg : get .empty = none)
    (cs : List Clause) (hc : ∀ c ∈ cs, c.applies i = false → c.emit i = Fragment.empty) :
    ((cs.filter (·.applies i)).map (·.emit i)).filterMap get = cs.filterMap fun c => get (c.emit i) := by
  induction cs with
  | nil => rfl
  | cons c cs ih =>
    have ih := ih fun d hd => hc d (List.mem_cons_of_mem _ hd)
    cases ha : c.applies i with
    | true => simp [ha, List.filterMap_cons, ih]
    | false => simp [ha, ih, hc c (by simp) ha, hg]

end Clause

open Clause in
theorem Query.compile_eq_query (i : Intent) : compile i = i.canonical.query := by
  have hcond : (Fragment.combineAll ((all.filter (·.applies i)).map (·.emit i))).condition =
      i.canonical.condition := by
    have hid := congrArg (List.filterMap id) (all_conditions i)
    simp only [List.filterMap_append, List.filterMap_map, Function.id_comp] at hid
    rw [Fragment.combineAll_condition, filterMap_emit i _ rfl all (emit_eq_empty_of_not_applies i),
      CanonicalIntent.condition]
    exact congrArg _ (hid.trans (List.append_nil _))
  have horder : (Fragment.combineAll ((all.filter (·.applies i)).map (·.emit i))).order =
      i.canonical.order := by
    rw [Fragment.combineAll_order, ← List.head?_filterMap,
      filterMap_emit i _ rfl all (emit_eq_empty_of_not_applies i), List.head?_filterMap, ← sort_order]
    exact all_orders i
  have hf : Fragment.combineAll ((all.filter (·.applies i)).map (·.emit i)) =
      ⟨i.canonical.condition, i.canonical.order⟩ := by
    rw [← hcond, ← horder]
  rw [compile, compileWith, hf]
  rfl

theorem present_of_ne {s : String} (h : s.toList ≠ []) : Clause.present (some s) = some s := by
  have he : s.isEmpty = false := by
    rw [← Bool.not_eq_true, String.isEmpty_iff]
    rintro rfl
    exact h rfl
  simp [Clause.present, he]

theorem mem_of_present {s : String} {o : Option String} (h : Clause.present o = some s) : s ∈ o := by
  rw [Clause.present, Option.filter_eq_some_iff] at h
  exact h.1

open Comparison (ofValues ofWindow) in
theorem Intent.forall_parts (i : Intent) {P : Comparison → Prop}
    (assignee : ∀ name ∈ i.allFilters.assignee, P (Assignee.ofName name).comparison)
    (project : ∀ p ∈ i.allFilters.project, P (.equals .project p))
    (status : ∀ vs ∈ i.allFilters.status, ∀ c ∈ ofValues .status vs, P c)
    (issueTypes : ∀ vs ∈ i.allFilters.issueTypes, ∀ c ∈ ofValues .type vs, P c)
    (priorities : ∀ vs ∈ i.allFilters.priorities, ∀ c ∈ ofValues .priority vs, P c)
    (updated : ∀ w ∈ i.allFilters.updated, ∀ c ∈ ofWindow .updated w.canonical, P c)
    (created : ∀ w ∈ i.allFilters.created, ∀ c ∈ ofWindow .created w.canonical, P c)
    (labels : ∀ vs ∈ i.allFilters.labels, ∀ c ∈ ofValues .labels vs, P c)
    (components : ∀ vs ∈ i.allFilters.components, ∀ c ∈ ofValues .component vs, P c)
    (search : ∀ s ∈ i.search, P (.mentions (strip s))) :
    ∀ cs ∈ i.canonical.parts, ∀ c ∈ cs, P c := by
  have hlist {xs : Option (List String)} (f : MatchField) (hx : ∀ vs ∈ xs, ∀ c ∈ ofValues f vs, P c) :
      ∀ c ∈ ofValues f ((presentList xs).getD []), P c := by
    rw [Clause.getD_presentList]
    cases xs with
    | none => simp [ofValues]
    | some vs => exact hx vs rfl
  have hwindow {w : Option DateWindow} (f : TimeField) (hw : ∀ v ∈ w, ∀ c ∈ ofWindow f v.canonical, P c) :
      ∀ c ∈ ofWindow f (w.bind DateWindow.canonical), P c := by
    cases w with
    | none => simp [ofWindow]
    | some w => exact hw w rfl
  simp only [CanonicalIntent.parts, Intent.canonical, List.forall_mem_cons]
  refine ⟨?_, ?_, hlist .status status, hlist .type issueTypes, hlist .priority priorities, ?_,
    hlist .labels labels, hlist .component components, ?_, by simp⟩
  · cases hp : Clause.present i.allFilters.assignee with
    | none => simp
    | some name => simpa using assignee name (mem_of_present hp)
  · cases hp : Clause.present i.allFilters.project with
    | none => simp [ofValues]
    | some p => simpa [ofValues] using project p (mem_of_present hp)
  · intro c hc
    rcases List.mem_append.mp hc with hc | hc
    · exact hwindow .updated updated c hc
    · exact hwindow .created created c hc
  · cases hp : Clause.present (i.search.map strip) with
    | none => simp
    | some s =>
      obtain ⟨t, ht, rfl⟩ := Option.map_eq_some_iff.mp (mem_of_present hp)
      simpa using search t ht

end IssueQuery
