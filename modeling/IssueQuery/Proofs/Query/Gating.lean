import IssueQuery.Proofs.Query.Canonical
import Mathlib.Data.List.Basic

namespace IssueQuery

structure DateWindow.Unbounded (w : DateWindow) : Prop where
  lastDays : w.lastDays = none
  start : w.start = none
  stop : w.stop = none

def Intent.windows (i : Intent) : List DateWindow :=
  i.allFilters.updated.toList ++ i.allFilters.created.toList

namespace Clause

/-- What a clause emits is in accord with whether it applies. -/
structure Gated (i : Intent) (c : Clause) : Prop where
  silent : c.applies i = false → c.emit i = Fragment.empty
  speaks : c.applies i = true →
    (c.emit i = Fragment.empty ↔ c.name = dateRange.name ∧ ∀ w ∈ i.windows, w.Unbounded)
  condition : (c.emit i).condition ≠ some ""
  order : (c.emit i).order ≠ some ""

/-- The second list is the first with clauses put in that do not apply. -/
inductive Inserted (i : Intent) : List Clause → List Clause → Prop
  | nil : Inserted i [] []
  | keep {c cs ds} : Inserted i cs ds → Inserted i (c :: cs) (c :: ds)
  | insert {c cs ds} : c.applies i = false → Inserted i cs ds → Inserted i cs (c :: ds)

variable {i : Intent} {c : Clause}

theorem ofCondition?_eq_empty_iff {o : Option String} : ofCondition? o = Fragment.empty ↔ o = none := by
  cases o <;> simp [ofCondition?, Fragment.ofCondition, Fragment.empty]

theorem gated_of_condition {o : Option String} (hc : c ∈ all) (hname : c.name ≠ dateRange.name)
    (hemit : c.emit i = ofCondition? o) (happlies : c.applies i = o.isSome) (hne : o ≠ some "") :
    Gated i c where
  silent := emit_eq_empty_of_not_applies i c hc
  speaks h := by
    rw [happlies, Option.isSome_iff_ne_none] at h
    rw [hemit, ofCondition?_eq_empty_iff]
    exact iff_of_false h fun hdate => hname hdate.1
  condition := by rwa [hemit, condition_ofCondition?]
  order := by simp [hemit, order_ofCondition?]

theorem map_ne_some_empty {α : Type} {f : α → String} (h : ∀ a, f a ≠ "") (o : Option α) : o.map f ≠ some "" := by
  intro hf
  obtain ⟨a, -, ha⟩ := Option.map_eq_some_iff.mp hf
  exact h a ha

theorem assigneeCondition_ne_empty (name : String) : assigneeCondition name ≠ "" := by
  unfold assigneeCondition
  split
  · decide
  · split
    · decide
    · simp

theorem isSome_oneOf? (field : String) (vs : List String) : (oneOf? field vs).isSome = !vs.isEmpty := by
  match vs with
  | [] => rfl
  | [_] => rfl
  | _ :: _ :: _ => rfl

theorem oneOf?_ne_empty (field : String) (vs : List String) : oneOf? field vs ≠ some "" := by
  match vs with
  | [] => simp [oneOf?]
  | [_] => simp [oneOf?]
  | _ :: _ :: _ => simp [oneOf?]

theorem gated_ofList {name field : String} {values : Filters → Option (List String)}
    (hc : ofList name field values ∈ all) (hname : name ≠ dateRange.name) : Gated i (ofList name field values) :=
  gated_of_condition hc hname rfl (isSome_oneOf? field _).symm (oneOf?_ne_empty field _)

theorem within?_eq_none_iff {field : String} {w : DateWindow} : within? field w = none ↔ w.Unbounded := by
  obtain ⟨lastDays, start, stop⟩ := w
  constructor
  · intro h
    cases lastDays <;> cases start <;> cases stop <;> simp [within?] at h
    exact ⟨rfl, rfl, rfl⟩
  · rintro ⟨rfl, rfl, rfl⟩
    rfl

theorem within?_ne_empty (field : String) (w : DateWindow) : within? field w ≠ some "" := by
  obtain ⟨lastDays, start, stop⟩ := w
  cases lastDays <;> cases start <;> cases stop <;> simp [within?]

theorem bind_within?_eq_none_iff {field : String} {w : Option DateWindow} :
    w.bind (within? field) = none ↔ ∀ v ∈ w, v.Unbounded := by
  cases w with
  | none => simp
  | some w => simpa using within?_eq_none_iff

theorem bind_within?_ne_empty (field : String) (w : Option DateWindow) : w.bind (within? field) ≠ some "" := by
  cases w with
  | none => simp
  | some w => exact within?_ne_empty field w

theorem gated_dateRange : Gated i dateRange where
  silent := emit_eq_empty_of_not_applies i dateRange (by simp [all])
  speaks _ := by
    have hu : i.allFilters.updated.bind (within? "updated") = none ↔ _ := bind_within?_eq_none_iff
    have hc : i.allFilters.created.bind (within? "created") = none ↔ _ := bind_within?_eq_none_iff
    have hwindows : (∀ w ∈ i.windows, w.Unbounded) ↔
        i.allFilters.updated.bind (within? "updated") = none ∧
          i.allFilters.created.bind (within? "created") = none := by
      rw [hu, hc, Intent.windows, List.forall_mem_append]
      simp
    rw [hwindows]
    simp only [dateRange, true_and]
    cases i.allFilters.updated.bind (within? "updated") with
    | none => simp [ofCondition?_eq_empty_iff]
    | some a =>
      cases i.allFilters.created.bind (within? "created") <;> simp [Fragment.ofCondition, Fragment.empty]
  condition := by
    have hu := bind_within?_ne_empty "updated" i.allFilters.updated
    have hc := bind_within?_ne_empty "created" i.allFilters.created
    simp only [dateRange]
    split
    · simp [Fragment.ofCondition]
    · rename_i a ha _
      rwa [ha] at hu
    · rwa [condition_ofCondition?]
  order := by
    simp only [dateRange]
    split
    · simp [Fragment.ofCondition]
    · simp [Fragment.ofCondition]
    · simp [order_ofCondition?]

theorem orderText_ne_empty {fields : List SortField} (h : fields ≠ []) : orderText fields ≠ "" := by
  match fields with
  | [] => exact absurd rfl h
  | [s] => simp [orderText, Text.join]
  | s :: t :: fields => simp [orderText, Text.join]

theorem gated_sort : Gated i sort where
  silent := emit_eq_empty_of_not_applies i sort (by simp [all])
  speaks h := by
    have hne : i.sort.getD [] ≠ [] := by simpa [sort] using h
    obtain ⟨s, fields, hs⟩ := List.exists_cons_of_ne_nil hne
    have hname : sort.name ≠ dateRange.name := by decide
    refine iff_of_false ?_ fun hdate => hname hdate.1
    simp [sort, hs, Fragment.ofOrder, Fragment.empty]
  condition := by
    simp only [sort]
    split <;> simp [Fragment.ofOrder, Fragment.empty]
  order := by
    simp only [sort]
    split
    · simp [Fragment.empty]
    · rename_i fields hne
      simpa [Fragment.ofOrder] using orderText_ne_empty (by simpa using hne)

theorem gated_all (i : Intent) : ∀ c ∈ all, Gated i c := by
  intro c hc
  have hmem := hc
  simp only [all, List.mem_cons, List.not_mem_nil, or_false] at hc
  rcases hc with rfl | rfl | rfl | rfl | rfl | rfl | rfl | rfl | rfl | rfl
  · exact gated_of_condition hmem (by decide) rfl (by simp [assignee]) (map_ne_some_empty assigneeCondition_ne_empty _)
  · exact gated_of_condition hmem (by decide) rfl (by simp [project]) (map_ne_some_empty (by simp) _)
  · exact gated_ofList hmem (by decide)
  · exact gated_ofList hmem (by decide)
  · exact gated_ofList hmem (by decide)
  · exact gated_dateRange
  · exact gated_ofList hmem (by decide)
  · exact gated_ofList hmem (by decide)
  · exact gated_of_condition hmem (by decide) rfl (by simp [textSearch]) (map_ne_some_empty (by simp) _)
  · exact gated_sort

theorem filter_inserted {cs ds : List Clause} (h : Inserted i cs ds) :
    ds.filter (·.applies i) = cs.filter (·.applies i) := by
  induction h with
  | nil => rfl
  | keep _ ih => simp only [List.filter_cons, ih]
  | insert ha _ ih => simp only [List.filter_cons, ha, ih, Bool.false_eq_true, if_false]

theorem combineAll_filter {cs : List Clause} (h : ∀ c ∈ cs, c.applies i = false → c.emit i = Fragment.empty) :
    Fragment.combineAll ((cs.filter (·.applies i)).map (·.emit i)) = Fragment.combineAll (cs.map (·.emit i)) := by
  rw [Fragment.combineAll, Fragment.combineAll, List.foldl_map, List.foldl_map, List.foldl_filter]
  apply List.foldl_ext
  intro before c hc
  cases ha : c.applies i with
  | true => simp
  | false => simp [h c hc ha]

end Clause

namespace Query

open Clause (Gated Inserted)

theorem gate_redundant (i : Intent) :
    (∀ c ∈ Clause.all, Gated i c) ∧
      compile i = ⟨render (Fragment.combineAll (Clause.all.map (·.emit i))), i.limit⟩ ∧
      ∀ cs ds, Inserted i cs ds → compileWith ds i = compileWith cs i := by
  refine ⟨Clause.gated_all i, ?_, ?_⟩
  · rw [compile, compileWith, Clause.combineAll_filter fun c hc => (Clause.gated_all i c hc).silent]
  · intro cs ds h
    rw [compileWith, compileWith, Clause.filter_inserted h]

def boundless : Intent where
  filters := some { Filters.none with project := some "OBS", updated := some ⟨none, none, none⟩ }
  search := some " "
  sort := none
  limit := some 5

def mute : Clause := .constant "mute" false (.ofCondition "type = Bug")

theorem gate_redundant_boundless :
    Clause.dateRange.applies boundless = true ∧ Clause.dateRange.emit boundless = Fragment.empty ∧
      compileWith [mute, .dateRange, mute, .project, .textSearch] boundless =
        compileWith [.dateRange, .project] boundless := by
  have hdate : Clause.dateRange.applies boundless = true := rfl
  have hmute : mute.applies boundless = false := rfl
  have hsearch : Clause.textSearch.applies boundless = false := by decide +kernel
  have hmem : Clause.dateRange ∈ Clause.all := by simp [Clause.all]
  obtain ⟨hgated, -, hinserted⟩ := gate_redundant boundless
  refine ⟨hdate, ((hgated _ hmem).speaks hdate).mpr ⟨rfl, ?_⟩, hinserted _ _ ?_⟩
  · intro w hw
    obtain rfl : w = ⟨none, none, none⟩ := List.mem_singleton.mp hw
    exact ⟨rfl, rfl, rfl⟩
  · exact .insert hmute (.keep (.insert hmute (.keep (.insert hsearch .nil))))

end Query

end IssueQuery
