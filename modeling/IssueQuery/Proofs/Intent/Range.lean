import IssueQuery.Proofs.Calendar.Reader
import IssueQuery.Proofs.Intent.WellFormed

namespace IssueQuery

open Text

/-- Values in which no object names a member twice, as they are when a text has been decoded. -/
inductive Json.Decoded : Json → Prop
  | null : Decoded .null
  | bool (b : Bool) : Decoded (.bool b)
  | int (n : Int) : Decoded (.int n)
  | float (x : Float) : Decoded (.float x)
  | text (s : String) : Decoded (.text s)
  | list {items : List Json} : (∀ v ∈ items, Decoded v) → Decoded (.list items)
  | object {members : List (String × Json)} : (OrderedMap.keys members).Nodup →
      (∀ e ∈ members, Decoded e.2) → Decoded (.object members)

namespace Payload

def ofOption {α : Type} (write : α → Json) (o : Option α) : Json :=
  (o.map write).getD .null

def ofTexts (ss : List String) : Json :=
  .list (ss.map .text)

def ofDay (d : Calendar.Date) : Json :=
  .text d.iso

def ofWindow (w : DateWindow) : Json :=
  match w.lastDays with
  | some n => .object [("lastDays", .int n)]
  | none => .object [("from", ofOption ofDay w.start), ("to", ofOption ofDay w.stop)]

def ofSortField (s : SortField) : Json :=
  .object [("field", .text s.field), ("order", .text s.order)]

def ofFilters (f : Filters) : Json :=
  .object [("project", ofOption .text f.project), ("assignee", ofOption .text f.assignee),
    ("status", ofOption ofTexts f.status), ("issueTypes", ofOption ofTexts f.issueTypes),
    ("priorities", ofOption ofTexts f.priorities), ("labels", ofOption ofTexts f.labels),
    ("components", ofOption ofTexts f.components), ("created", ofOption ofWindow f.created),
    ("updated", ofOption ofWindow f.updated)]

def members (i : Intent) : OrderedMap Json :=
  [("filters", ofOption ofFilters i.filters), ("search", ofOption .text i.search),
    ("sort", ofOption (fun fields => .list (fields.map ofSortField)) i.sort),
    ("limit", ofOption .int i.limit)]

section Decoded

open Json (Decoded)

theorem decoded_ofOption {α : Type} {write : α → Json} {o : Option α} (h : ∀ a, Decoded (write a)) :
    Decoded (ofOption write o) := by
  cases o with
  | none => exact .null
  | some a => exact h a

theorem decoded_ofTexts (ss : List String) : Decoded (ofTexts ss) := by
  apply Decoded.list
  intro v hv
  obtain ⟨s, -, rfl⟩ := List.mem_map.mp hv
  exact .text s

theorem decoded_ofWindow (w : DateWindow) : Decoded (ofWindow w) := by
  have hday (d : Option Calendar.Date) : Decoded (ofOption ofDay d) := decoded_ofOption fun d => .text d.iso
  rw [ofWindow]
  split
  · exact .object (by simp [OrderedMap.keys]) (by simpa using .int _)
  · exact .object (by simp [OrderedMap.keys]) (by simpa using ⟨hday w.start, hday w.stop⟩)

theorem decoded_ofSortField (s : SortField) : Decoded (ofSortField s) :=
  .object (by simp [OrderedMap.keys]) (by simpa using ⟨.text s.field, .text s.order⟩)

theorem decoded_ofFilters (f : Filters) : Decoded (ofFilters f) := by
  have htext (s : Option String) : Decoded (ofOption .text s) := decoded_ofOption .text
  have htexts (ss : Option (List String)) : Decoded (ofOption ofTexts ss) := decoded_ofOption decoded_ofTexts
  have hwindow (w : Option DateWindow) : Decoded (ofOption ofWindow w) := decoded_ofOption decoded_ofWindow
  refine .object (by simp [OrderedMap.keys]) ?_
  simp only [List.forall_mem_cons]
  exact ⟨htext _, htext _, htexts _, htexts _, htexts _, htexts _, htexts _, hwindow _, hwindow _, by simp⟩

theorem decoded_members (i : Intent) : Decoded (.object (members i)) := by
  have hsort (fields : List SortField) : Decoded (.list (fields.map ofSortField)) := by
    apply Decoded.list
    intro v hv
    obtain ⟨s, -, rfl⟩ := List.mem_map.mp hv
    exact decoded_ofSortField s
  refine .object (by simp [OrderedMap.keys, members]) ?_
  simp only [members, List.forall_mem_cons]
  exact ⟨decoded_ofOption decoded_ofFilters, decoded_ofOption .text, decoded_ofOption hsort,
    decoded_ofOption .int, by simp⟩

end Decoded

theorem strip_of_trimmed {s : String} (h : Trimmed s) : strip s = s := by
  obtain ⟨-, hhead, hlast⟩ := h
  rw [strip, stripChars, dropWhile_of_head? hhead, stripEnd_of_getLast? hlast, String.ofList_toList]

theorem text?_ofOption {o : Option String} (h : ∀ s ∈ o, Trimmed s) : text? (ofOption .text o) = o := by
  cases o with
  | none => rfl
  | some s =>
    have hs := h s rfl
    have hne : s.isEmpty = false := by
      rw [← Bool.not_eq_true, String.isEmpty_iff]
      exact hs.1
    show (if (strip s).isEmpty then none else some (strip s)) = some s
    rw [strip_of_trimmed hs, hne]
    rfl

theorem kept_texts {ss : List String} (h : ∀ s ∈ ss, isBlankText s = false) : texts.kept (ss.map .text) = ss := by
  induction ss with
  | nil => rfl
  | cons s ss ih =>
    have hb : isBlankText (Json.text s).asText = false := h s (by simp)
    have ih := ih fun t ht => h t (List.mem_cons_of_mem s ht)
    rw [texts.kept] at ih ⊢
    rw [List.map_cons, List.filterMap_cons, ih]
    simp only [hb]
    rfl

theorem texts_ofOption {o : Option (List String)} (h : ∀ ss ∈ o, Stated ss) :
    texts (ofOption ofTexts o) = .ok o := by
  cases o with
  | none => rfl
  | some ss =>
    obtain ⟨hne, hb⟩ := h ss rfl
    show Except.ok (texts.nonEmpty (texts.kept (ss.map .text))) = _
    rw [kept_texts hb, texts.nonEmpty, if_neg (by simpa using hne)]

theorem integerFrom_ofOption (what : String) {least : Int} {o : Option Int} (h : ∀ n ∈ o, least ≤ n) :
    integerFrom what least (ofOption .int o) = .ok o := by
  cases o with
  | none => rfl
  | some n =>
    have hn : ¬n < least := Int.not_lt.mpr (h n rfl)
    show (if n < least then _ else _ : Outcome (Option Int)) = _
    rw [if_neg hn]
    rfl

theorem sortField_ofSortField {s : SortField} (h : s.WellFormed) : sortField (ofSortField s) = .ok s := by
  obtain ⟨field, order⟩ := s
  obtain ⟨hf, ho⟩ := h
  have htrue : (Json.text field).isTruthy = true := by
    simpa [Json.isTruthy, String.isEmpty_iff] using hf
  have horder : orderText [("field", .text field), ("order", .text order)] = order := by
    have hu : upper order = order := by rcases ho with rfl | rfl <;> decide
    have ht : (Json.text order).isTruthy = true := by rcases ho with rfl | rfl <;> decide
    show upper (((Json.text order).orElse _).orElse _).asText = order
    rw [Json.orElse, Json.orElse, ht, if_pos rfl, ht]
    exact hu
  have hasc : (order == ascending || order == descending) = true := by simpa using ho
  show (if !(Json.text field).isTruthy then _ else
    if orderText _ == ascending || orderText _ == descending then _ else _ : Outcome SortField) = _
  rw [htrue, horder, if_pos hasc]
  rfl

theorem sort_ofOption {o : Option (List SortField)}
    (h : ∀ fields ∈ o, fields ≠ [] ∧ ∀ s ∈ fields, s.WellFormed) :
    sort (ofOption (fun fields => .list (fields.map ofSortField)) o) = .ok o := by
  cases o with
  | none => rfl
  | some fields =>
    obtain ⟨hne, hw⟩ := h fields rfl
    have hread : (fields.map ofSortField).mapM sortField = .ok fields := by
      clear h hne
      induction fields with
      | nil => rfl
      | cons s fields ih =>
        rw [List.map_cons, List.mapM_cons, sortField_ofSortField (hw s (by simp)),
          ih fun t ht => hw t (List.mem_cons_of_mem s ht)]
        rfl
    have htrue : (Json.list (fields.map ofSortField)).isTruthy = true := by
      simpa [Json.isTruthy] using hne
    show sort (.list (fields.map ofSortField)) = _
    rw [sort, htrue, hread]
    rfl

section Read

variable {r : Calendar.Reader} (hr : r.ReadsDays)

include hr

theorem day_ofOption {o : Option Calendar.Date} (h : ∀ d ∈ o, d.Valid) : day r (ofOption ofDay o) = .ok o := by
  cases o with
  | none => rfl
  | some d =>
    have hne : d.iso.isEmpty = false := by
      rw [← Bool.not_eq_true, String.isEmpty_iff]
      exact ne_empty_of_mem (c := '-') (by simp [Calendar.Date.iso])
    show day r (.text d.iso) = _
    simp only [day, hne, hr d (h d rfl), Bool.false_eq_true, if_false]

theorem window_ofOption {o : Option DateWindow} (h : ∀ w ∈ o, w.WellFormed) :
    window r (ofOption ofWindow o) = .ok o := by
  match o with
  | none => rfl
  | some ⟨some n, start, stop⟩ =>
    obtain ⟨hn, rfl, rfl⟩ : 0 ≤ n ∧ start = none ∧ stop = none := h _ rfl
    have hm : Json.member [("lastDays", Json.int n)] "lastDays" = ofOption .int (some n) := rfl
    show (integerFrom "lastDays" 0 (Json.member [("lastDays", Json.int n)] "lastDays") >>= _) = _
    rw [hm, integerFrom_ofOption "lastDays" (by simpa using hn)]
    rfl
  | some ⟨none, start, stop⟩ =>
    obtain ⟨hne, hstart, hstop⟩ := h ⟨none, start, stop⟩ rfl
    have hbounds : bounds [("from", ofOption ofDay start), ("to", ofOption ofDay stop)] =
        (ofOption ofDay start, ofOption ofDay stop) := rfl
    have hsome : (start.isNone && stop.isNone) = false := by
      cases start <;> cases stop <;> simp_all
    show (day r (bounds _).1 >>= fun start => day r (bounds _).2 >>= fun stop => _) = _
    rw [hbounds, day_ofOption hr hstart, day_ofOption hr hstop]
    show Except.ok (if start.isNone && stop.isNone then none else some (DateWindow.between start stop)) = _
    rw [hsome]
    rfl

theorem filters_ofOption {o : Option Filters} (h : ∀ f ∈ o, f.WellFormed) :
    filters r (ofOption ofFilters o) = .ok o := by
  cases o with
  | none => rfl
  | some f =>
    have hf := h f rfl
    have hread : filters r (ofFilters f) = (do
        let status ← texts (ofOption ofTexts f.status)
        let issueTypes ← texts (ofOption ofTexts f.issueTypes)
        let priorities ← texts (ofOption ofTexts f.priorities)
        let labels ← texts (ofOption ofTexts f.labels)
        let components ← texts (ofOption ofTexts f.components)
        let created ← window r (ofOption ofWindow f.created)
        let updated ← window r (ofOption ofWindow f.updated)
        return some ⟨text? (ofOption .text f.project), text? (ofOption .text f.assignee), status,
          issueTypes, priorities, labels, components, created, updated⟩) := rfl
    show filters r (ofFilters f) = .ok (some f)
    rw [hread, texts_ofOption hf.status, texts_ofOption hf.issueTypes, texts_ofOption hf.priorities,
      texts_ofOption hf.labels, texts_ofOption hf.components, window_ofOption hr hf.created,
      window_ofOption hr hf.updated, text?_ofOption hf.project, text?_ofOption hf.assignee]
    rfl

theorem intent_members {i : Intent} (h : i.WellFormed) : intent r (.object (members i)) = .ok i := by
  have hf : Json.member (members i) "filters" = ofOption ofFilters i.filters := rfl
  have hsearch : Json.member (members i) "search" = ofOption .text i.search := rfl
  have hsort : Json.member (members i) "sort" =
      ofOption (fun fields => .list (fields.map ofSortField)) i.sort := rfl
  have hlimit : Json.member (members i) "limit" = ofOption .int i.limit := rfl
  rw [intent]
  simp only [hf, hsearch, hsort, hlimit, filters_ofOption hr h.filters, text?_ofOption h.search,
    sort_ofOption h.sort, integerFrom_ofOption "limit" h.limit]
  rfl

end Read

theorem intent_range {r : Calendar.Reader} (hr : r.ReadsDays) (i : Intent) :
    (∀ v, intent r v = .ok i → i.WellFormed) ∧
      (i.WellFormed → ∃ members, (Json.object members).Decoded ∧ intent r (.object members) = .ok i) :=
  ⟨fun _ h => intent_sound h, fun h => ⟨members i, decoded_members i, intent_members hr h⟩⟩

def overdue : Intent where
  filters := some { Filters.none with
    project := some "OBS"
    status := some ["Open"]
    created := some (.between none (some ⟨2024, 2, 29⟩))
    updated := some (.last 7) }
  search := none
  sort := some [⟨"created", "ASC"⟩]
  limit := some 5

def overduePayload : Json :=
  .object [("limit", .text " 5 "), ("search", .text " "),
    ("sort", .list [.object [("field", .text "created"), ("direction", .text "asc")]]),
    ("filters", .object [("project", .text " OBS "), ("status", .text "Open"),
      ("created", .object [("before", .text "2024-02-29")]), ("updated", .object [("lastDays", .int 7)])])]

theorem intent_range_overdue :
    Calendar.Reader.standard.ReadsDays ∧ overdue.WellFormed ∧
      ∃ members, (Json.object members).Decoded ∧ intent .standard (.object members) = .ok overdue :=
  have hr := Calendar.Reader.readsDays_standard
  have h : overdue.WellFormed := (intent_range hr overdue).1 overduePayload rfl
  ⟨hr, h, (intent_range hr overdue).2 h⟩

end Payload

end IssueQuery
