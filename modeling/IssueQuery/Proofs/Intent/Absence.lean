import IssueQuery.Calendar.StandardReader
import IssueQuery.Intent.Payload
import IssueQuery.Proofs.Outcome

namespace IssueQuery

namespace OrderedMap

variable {α β : Type} (m : OrderedMap α)

theorem get?_filter (p : String → Bool) (key : String) :
    get? (m.filter fun e => p e.1) key = if p key then m.get? key else none := by
  induction m with
  | nil => simp [get?]
  | cons e m ih =>
    rw [List.filter_cons, get?_cons]
    by_cases he : e.1 = key
    · subst he
      by_cases hp : p e.1 = true
      · simp [hp, get?_cons]
      · simp [hp, ih]
    · by_cases hp : p e.1 = true
      · simp [hp, get?_cons, he, ih]
      · simp [hp, he, ih]

theorem get?_map (f : String → α → β) (key : String) :
    get? (m.map fun e => (e.1, f e.1 e.2)) key = (m.get? key).map (f key) := by
  induction m with
  | nil => rfl
  | cons e m ih =>
    rw [List.map_cons, get?_cons, get?_cons, ih]
    by_cases he : e.1 = key
    · subst he
      simp
    · simp [he]

end OrderedMap

namespace Json

def isNull : Json → Bool
  | .null => true
  | _ => false

theorem isNull_iff {v : Json} : v.isNull = true ↔ v = .null := by
  cases v <;> simp [isNull]

def statedMembers (rewrite : String → Json → Json) (members : OrderedMap Json) : OrderedMap Json :=
  (members.filter fun e => !(member members e.1).isNull).map fun e => (e.1, rewrite e.1 e.2)

def withoutNulls (rewrite : String → Json → Json) : Json → Json
  | .object members => .object (statedMembers rewrite members)
  | v => v

variable (rewrite : String → Json → Json) (members : OrderedMap Json) {key : String}

theorem get?_statedMembers (key : String) :
    (statedMembers rewrite members).get? key =
      if (member members key).isNull then none else (members.get? key).map (rewrite key) := by
  rw [statedMembers, OrderedMap.get?_map, OrderedMap.get?_filter members fun name => !(member members name).isNull]
  cases (member members key).isNull <;> rfl

theorem member_statedMembers (h : rewrite key .null = .null) :
    member (statedMembers rewrite members) key = rewrite key (member members key) := by
  rw [member, get?_statedMembers]
  by_cases hn : (member members key).isNull = true
  · rw [if_pos hn, isNull_iff.mp hn, h]
    rfl
  · rw [if_neg hn]
    cases hm : members.get? key with
    | none => simp [member, hm, isNull] at hn
    | some v => simp [member, hm]

end Json

namespace Outcome

/-- The same value, or faults of one kind. -/
def Agrees {α : Type} : Outcome α → Outcome α → Prop
  | .ok a, .ok b => a = b
  | .error f, .error g => f.kind = g.kind
  | _, _ => False

variable {α β : Type} {x y : Outcome α}

theorem Agrees.refl (x : Outcome α) : x.Agrees x := by
  cases x <;> rfl

theorem Agrees.bind {f g : α → Outcome β} (h : x.Agrees y) (hf : ∀ a, (f a).Agrees (g a)) :
    (x >>= f).Agrees (y >>= g) := by
  cases x with
  | error e =>
    cases y with
    | error e' => exact h
    | ok b => exact h.elim
  | ok a =>
    cases y with
    | error e' => exact h.elim
    | ok b =>
      obtain rfl : a = b := h
      exact hf a

theorem Agrees.map {f : α → β} (h : x.Agrees y) : Agrees (x.map f) (y.map f) := by
  cases x with
  | error e =>
    cases y with
    | error e' => exact h
    | ok b => exact h.elim
  | ok a =>
    cases y with
    | error e' => exact h.elim
    | ok b => exact congrArg f h

end Outcome

namespace Payload

open Json (withoutNulls statedMembers member)

def unchanged : String → Json → Json :=
  fun _ v => v

def windowWithoutNulls : Json → Json :=
  withoutNulls fun name v => if name = "between" then withoutNulls unchanged v else v

def filtersWithoutNulls : Json → Json :=
  withoutNulls fun name v => if name = "created" ∨ name = "updated" then windowWithoutNulls v else v

def sortWithoutNulls : Json → Json
  | .list items => .list (items.map (withoutNulls unchanged))
  | v => v

def payloadWithoutNulls : Json → Json :=
  withoutNulls fun name v =>
    if name = "filters" then filtersWithoutNulls v
    else if name = "sort" then sortWithoutNulls v
    else v

/-- A null under the first of two names hides nothing that is read under the other. -/
def HidesNothing {α : Type} (read : Json → Outcome (Option α)) (members : OrderedMap Json)
    (key other : String) : Prop :=
  members.get? key = some .null → read (member members other) = .ok none

/-- The bounds of a window count only where neither a number of days nor bounds in an object of their
own are given. -/
def WindowHidesNothing (r : Calendar.Reader) (v : Json) : Prop :=
  ∀ members, v = .object members → member members "lastDays" = .null →
    members? (member members "between") = none →
      HidesNothing (day r) members "from" "after" ∧ HidesNothing (day r) members "to" "before"

structure FiltersHideNothing (r : Calendar.Reader) (members : OrderedMap Json) : Prop where
  priorities : HidesNothing texts members "priorities" "priority"
  created : WindowHidesNothing r (member members "created")
  updated : WindowHidesNothing r (member members "updated")

section Either

variable {α : Type} {read : Json → Outcome (Option α)} {rewrite : String → Json → Json}
  {members : OrderedMap Json} {key other : String}

theorem either_of_hidden (hother : ∀ v, rewrite other v = v) (hk : members.get? key = some .null) :
    either members key other = .null ∧
      either (statedMembers rewrite members) key other = member members other := by
  have hm : member (statedMembers rewrite members) other = member members other := by
    rw [Json.member_statedMembers rewrite members (hother .null), hother]
  have hnull : (member members key).isNull = true := by simp [member, hk, Json.isNull]
  constructor
  · simp [either, hk]
  · rw [either, Json.get?_statedMembers, if_pos hnull]
    exact hm

theorem either_of_not_hidden (hkey : ∀ v, rewrite key v = v) (hother : ∀ v, rewrite other v = v)
    (hk : members.get? key ≠ some .null) :
    either (statedMembers rewrite members) key other = either members key other := by
  have hm : member (statedMembers rewrite members) other = member members other := by
    rw [Json.member_statedMembers rewrite members (hother .null), hother]
  rw [either, either, Json.get?_statedMembers]
  cases hv : members.get? key with
  | none =>
    rw [Option.map_none, ite_self]
    exact hm
  | some v =>
    have hn : ¬(member members key).isNull = true := by
      rw [Json.isNull_iff, member, hv]
      rintro rfl
      exact hk hv
    rw [if_neg hn, Option.map_some, hkey]
    rfl

theorem read_either_iff (hkey : ∀ v, rewrite key v = v) (hother : ∀ v, rewrite other v = v)
    (hnull : read .null = .ok none) :
    read (either (statedMembers rewrite members) key other) = read (either members key other) ↔
      HidesNothing read members key other := by
  by_cases hk : members.get? key = some .null
  · obtain ⟨he, hs⟩ := either_of_hidden hother hk
    rw [he, hs, hnull]
    exact ⟨fun h _ => h, fun h => h hk⟩
  · rw [either_of_not_hidden hkey hother hk]
    exact ⟨fun _ h => absurd h hk, fun _ => rfl⟩

end Either

variable {r : Calendar.Reader}

section Window

theorem between_inj {start stop start' stop' : Option Calendar.Date}
    (h : (if start.isNone && stop.isNone then none else some (DateWindow.between start stop)) =
      if start'.isNone && stop'.isNone then none else some (DateWindow.between start' stop')) :
    start = start' ∧ stop = stop' := by
  cases start <;> cases stop <;> cases start' <;> cases stop' <;> simp_all [DateWindow.between]

def windowBetween (r : Calendar.Reader) (between : Json × Json) : Outcome (Option DateWindow) := do
  let start ← day r between.1
  let stop ← day r between.2
  return if start.isNone && stop.isNone then none else some (DateWindow.between start stop)

theorem window_object (members : OrderedMap Json) :
    window r (.object members) = (integerFrom "lastDays" 0 (member members "lastDays") >>= fun n =>
      match n with
      | some n => .ok (some (DateWindow.last n))
      | none => windowBetween r (bounds members)) := by
  rw [window]
  congr 1

theorem windowBetween_inj {b c : Json × Json} {w : Option DateWindow} (hb : windowBetween r b = .ok w)
    (hc : windowBetween r c = .ok w) : day r b.1 = day r c.1 ∧ day r b.2 = day r c.2 := by
  obtain ⟨start, hstart, hb⟩ := Outcome.of_bind hb
  obtain ⟨stop, hstop, hb⟩ := Outcome.of_bind hb
  obtain ⟨start', hstart', hc⟩ := Outcome.of_bind hc
  obtain ⟨stop', hstop', hc⟩ := Outcome.of_bind hc
  have hw := (Except.ok.inj hb).trans (Except.ok.inj hc).symm
  obtain ⟨rfl, rfl⟩ := between_inj hw
  exact ⟨hstart.trans hstart'.symm, hstop.trans hstop'.symm⟩

theorem integerFrom_eq_none {what : String} {least : Int} {v : Json}
    (h : integerFrom what least v = .ok none) : v = .null := by
  unfold integerFrom at h
  split at h
  · rfl
  · obtain ⟨n, -, h⟩ := Outcome.of_bind h
    cases n with
    | none => cases h
    | some n =>
      simp only at h
      split at h <;> cases h

variable {members : OrderedMap Json}

def windowMembers (members : OrderedMap Json) : OrderedMap Json :=
  statedMembers (fun name v => if name = "between" then withoutNulls unchanged v else v) members

theorem bounds_windowMembers_of_object {inner : OrderedMap Json}
    (h : members? (member members "between") = some inner) :
    bounds (windowMembers members) = bounds members := by
  have hv : member members "between" = .object inner := by
    cases hv : member members "between" <;> simp_all [members?]
  have hb : member (windowMembers members) "between" = .object (statedMembers unchanged inner) := by
    rw [windowMembers, Json.member_statedMembers _ _ rfl, hv]
    rfl
  have hm (key : String) : member (statedMembers unchanged inner) key = member inner key :=
    Json.member_statedMembers unchanged inner rfl
  rw [bounds, bounds, hb, hv]
  simp only [members?, hm]

theorem bounds_of_none (h : members? (member members "between") = none) :
    bounds members = (either members "from" "after", either members "to" "before") ∧
      bounds (windowMembers members) = (either (windowMembers members) "from" "after",
        either (windowMembers members) "to" "before") := by
  have hb : members? (member (windowMembers members) "between") = none := by
    rw [windowMembers, Json.member_statedMembers _ _ rfl]
    cases hv : member members "between" <;> simp_all [members?, withoutNulls]
  constructor
  · rw [bounds, h]
  · rw [bounds, hb]

theorem day_bounds_iff (h : members? (member members "between") = none) :
    day r (bounds (windowMembers members)).1 = day r (bounds members).1 ∧
        day r (bounds (windowMembers members)).2 = day r (bounds members).2 ↔
      HidesNothing (day r) members "from" "after" ∧ HidesNothing (day r) members "to" "before" := by
  obtain ⟨hb, hw⟩ := bounds_of_none h
  rw [hb, hw]
  exact and_congr (read_either_iff (fun _ => rfl) (fun _ => rfl) rfl)
    (read_either_iff (fun _ => rfl) (fun _ => rfl) rfl)

theorem lastDays_windowMembers : member (windowMembers members) "lastDays" = member members "lastDays" :=
  Json.member_statedMembers _ members rfl

theorem window_withoutNulls {v : Json} (h : WindowHidesNothing r v) :
    window r (windowWithoutNulls v) = window r v := by
  cases v with
  | object members =>
    show window r (.object (windowMembers members)) = _
    rw [window_object, window_object, lastDays_windowMembers]
    cases hn : integerFrom "lastDays" 0 (member members "lastDays") with
    | error fault => rfl
    | ok n =>
      cases n with
      | some n => rfl
      | none =>
        show windowBetween r (bounds (windowMembers members)) = windowBetween r (bounds members)
        cases hb : members? (member members "between") with
        | some inner => rw [bounds_windowMembers_of_object hb]
        | none =>
          obtain ⟨hstart, hstop⟩ := (day_bounds_iff hb).mpr (h members rfl (integerFrom_eq_none hn) hb)
          rw [windowBetween, windowBetween, hstart, hstop]
  | _ => rfl

theorem windowHidesNothing_of_eq {v : Json} {w : Option DateWindow} (hv : window r v = .ok w)
    (hw : window r (windowWithoutNulls v) = .ok w) : WindowHidesNothing r v := by
  rintro members rfl hlast hb
  change window r (.object (windowMembers members)) = _ at hw
  rw [window_object, lastDays_windowMembers, hlast] at hw
  rw [window_object, hlast] at hv
  exact (day_bounds_iff hb).mp (windowBetween_inj hw hv)

end Window

section Filters

variable {members : OrderedMap Json}

def filterMembers (members : OrderedMap Json) : OrderedMap Json :=
  statedMembers (fun name v => if name = "created" ∨ name = "updated" then windowWithoutNulls v else v) members

theorem texts_priorities_iff :
    texts (either (filterMembers members) "priorities" "priority") =
        texts (either members "priorities" "priority") ↔
      HidesNothing texts members "priorities" "priority" :=
  read_either_iff (fun _ => rfl) (fun _ => rfl) rfl

theorem created_filterMembers :
    member (filterMembers members) "created" = windowWithoutNulls (member members "created") :=
  Json.member_statedMembers _ members rfl

theorem updated_filterMembers :
    member (filterMembers members) "updated" = windowWithoutNulls (member members "updated") :=
  Json.member_statedMembers _ members rfl

theorem filters_filterMembers (h : FiltersHideNothing r members) :
    filters r (.object (filterMembers members)) = filters r (.object members) := by
  have hsame (key : String) (hc : ¬(key = "created" ∨ key = "updated")) :
      member (filterMembers members) key = member members key := by
    rw [filterMembers, Json.member_statedMembers _ members (by rw [if_neg hc]), if_neg hc]
  rw [filters, filters]
  simp only [texts_priorities_iff.mpr h.priorities, created_filterMembers, updated_filterMembers,
    window_withoutNulls h.created, window_withoutNulls h.updated,
    hsame "project" (by decide), hsame "assignee" (by decide),
    hsame "status" (by decide), hsame "issueTypes" (by decide),
    hsame "labels" (by decide), hsame "components" (by decide)]

theorem of_filters {o : Option Filters} (h : filters r (.object members) = .ok o) :
    ∃ f, o = some f ∧ texts (either members "priorities" "priority") = .ok f.priorities ∧
      window r (member members "created") = .ok f.created ∧
      window r (member members "updated") = .ok f.updated := by
  rw [filters] at h
  obtain ⟨status, -, h⟩ := Outcome.of_bind h
  obtain ⟨issueTypes, -, h⟩ := Outcome.of_bind h
  obtain ⟨priorities, hpriorities, h⟩ := Outcome.of_bind h
  obtain ⟨labels, -, h⟩ := Outcome.of_bind h
  obtain ⟨components, -, h⟩ := Outcome.of_bind h
  obtain ⟨created, hcreated, h⟩ := Outcome.of_bind h
  obtain ⟨updated, hupdated, h⟩ := Outcome.of_bind h
  exact ⟨_, (Except.ok.inj h).symm, hpriorities, hcreated, hupdated⟩

theorem filtersHideNothing_of_eq {o : Option Filters} (hv : filters r (.object members) = .ok o)
    (hw : filters r (.object (filterMembers members)) = .ok o) : FiltersHideNothing r members := by
  obtain ⟨f, rfl, hpriorities, hcreated, hupdated⟩ := of_filters hv
  obtain ⟨g, hg, hpriorities', hcreated', hupdated'⟩ := of_filters hw
  obtain rfl := Option.some.inj hg
  rw [created_filterMembers] at hcreated'
  rw [updated_filterMembers] at hupdated'
  exact ⟨texts_priorities_iff.mp (hpriorities'.trans hpriorities.symm),
    windowHidesNothing_of_eq hcreated hcreated', windowHidesNothing_of_eq hupdated hupdated'⟩

end Filters

section SortEntries

theorem sortField_withoutNulls (v : Json) : (sortField (withoutNulls unchanged v)).Agrees (sortField v) := by
  -- A faulty entry is quoted as it stands, nulls included, so that only the kind of the fault stays.
  cases v with
  | object members =>
    have hm (key : String) : member (statedMembers unchanged members) key = member members key :=
      Json.member_statedMembers unchanged members rfl
    have horder : orderText (statedMembers unchanged members) = orderText members := by
      simp only [orderText, hm]
    simp only [withoutNulls, sortField, members?, hm, horder]
    split
    · rfl
    · exact Outcome.Agrees.refl _
  | _ => exact Outcome.Agrees.refl _

theorem sortFields_withoutNulls (items : List Json) :
    Outcome.Agrees ((items.map (withoutNulls unchanged)).mapM sortField) (items.mapM sortField) := by
  induction items with
  | nil => exact Outcome.Agrees.refl _
  | cons v items ih =>
    rw [List.map_cons, List.mapM_cons, List.mapM_cons]
    exact (sortField_withoutNulls v).bind fun field => ih.bind fun fields => Outcome.Agrees.refl _

theorem sort_withoutNulls (v : Json) : (sort (sortWithoutNulls v)).Agrees (sort v) := by
  cases v with
  | list items =>
    have htrue : (Json.list (items.map (withoutNulls unchanged))).isTruthy = (Json.list items).isTruthy := by
      simp [Json.isTruthy]
    rw [sortWithoutNulls, sort, sort, htrue]
    split
    · exact Outcome.Agrees.refl _
    · exact (sortFields_withoutNulls items).map
  | _ => exact Outcome.Agrees.refl _

end SortEntries

/-- No null among the filters hides anything. -/
def NothingHidden (r : Calendar.Reader) (v : Json) : Prop :=
  ∀ members fs, v = .object members → member members "filters" = .object fs → FiltersHideNothing r fs

theorem intent_object (members : OrderedMap Json) :
    intent r (.object members) = (filters r (member members "filters") >>= fun fs =>
      sort (member members "sort") >>= fun fields =>
        integerFrom "limit" 1 (member members "limit") >>= fun limit =>
          .ok ⟨fs, text? (member members "search"), fields, limit⟩) :=
  rfl

theorem intent_withoutNulls_object (members : OrderedMap Json) :
    intent r (payloadWithoutNulls (.object members)) =
      (filters r (filtersWithoutNulls (member members "filters")) >>= fun fs =>
        sort (sortWithoutNulls (member members "sort")) >>= fun fields =>
          integerFrom "limit" 1 (member members "limit") >>= fun limit =>
            .ok ⟨fs, text? (member members "search"), fields, limit⟩) := by
  show intent r (.object (statedMembers _ members)) = _
  rw [intent_object, Json.member_statedMembers _ members rfl, Json.member_statedMembers _ members rfl,
    Json.member_statedMembers _ members rfl, Json.member_statedMembers _ members rfl]
  rfl

theorem filters_withoutNulls {v : Json} (h : ∀ fs, v = .object fs → FiltersHideNothing r fs) :
    filters r (filtersWithoutNulls v) = filters r v := by
  cases v with
  | object fs => exact filters_filterMembers (h fs rfl)
  | _ => rfl

theorem intent_agrees {v : Json} (h : NothingHidden r v) :
    (intent r (payloadWithoutNulls v)).Agrees (intent r v) := by
  cases v with
  | object members =>
    have hfilters : filters r (filtersWithoutNulls (member members "filters")) =
        filters r (member members "filters") :=
      filters_withoutNulls fun fs hfs => h members fs rfl hfs
    rw [intent_withoutNulls_object, intent_object, hfilters]
    apply (Outcome.Agrees.refl _).bind
    intro fs
    apply (sort_withoutNulls _).bind
    intro fields
    exact Outcome.Agrees.refl _
  | _ => exact Outcome.Agrees.refl _

theorem filters_of_intent {members : OrderedMap Json} {i : Intent} (h : intent r (.object members) = .ok i) :
    filters r (member members "filters") = .ok i.filters := by
  rw [intent_object] at h
  obtain ⟨fs, hfs, h⟩ := Outcome.of_bind h
  obtain ⟨fields, -, h⟩ := Outcome.of_bind h
  obtain ⟨limit, -, h⟩ := Outcome.of_bind h
  obtain rfl := Except.ok.inj h
  exact hfs

theorem nothingHidden_of_eq {v : Json} {i : Intent} (hv : intent r v = .ok i)
    (hw : intent r (payloadWithoutNulls v) = .ok i) : NothingHidden r v := by
  rintro members fs rfl hfs
  have hread := filters_of_intent hv
  change intent r (.object (statedMembers _ members)) = .ok i at hw
  have hread' := filters_of_intent hw
  rw [Json.member_statedMembers _ members rfl] at hread'
  rw [hfs] at hread hread'
  exact filtersHideNothing_of_eq hread hread'

/-- Leaving the null members out gives the same intent or a fault of the same kind as long as no null
hides anything; and where there is an intent, it is the same only then. -/
theorem intent_withoutNulls (r : Calendar.Reader) (v : Json) :
    (NothingHidden r v → (intent r (payloadWithoutNulls v)).Agrees (intent r v)) ∧
      ∀ i, intent r v = .ok i → (intent r (payloadWithoutNulls v) = .ok i ↔ NothingHidden r v) := by
  refine ⟨intent_agrees, fun i hi => ⟨nothingHidden_of_eq hi, fun h => ?_⟩⟩
  have ha := intent_agrees h
  rw [hi] at ha
  cases hs : intent r (payloadWithoutNulls v) with
  | error fault =>
    rw [hs] at ha
    exact ha.elim
  | ok j =>
    rw [hs] at ha
    exact congrArg Except.ok ha

def hiddenPriority : Json :=
  .object [("filters", .object [("priorities", .null), ("priority", .text "High")])]

theorem hiddenPriority_ignored :
    (intent .standard hiddenPriority).map (·.allFilters.priorities) = .ok none ∧
      (intent .standard (payloadWithoutNulls hiddenPriority)).map (·.allFilters.priorities) = .ok (some ["High"]) ∧
      ¬∀ v, (intent .standard (payloadWithoutNulls v)).Agrees (intent .standard v) := by
  refine ⟨rfl, rfl, fun h => ?_⟩
  have hall := h hiddenPriority
  have hfilters := congrArg (fun i : Intent => i.allFilters.priorities) hall
  cases hfilters

end Payload

end IssueQuery
