import IssueQuery.Proofs.Analysis.Partition
import IssueQuery.Proofs.Json.RoundTrip
import IssueQuery.Report.Structured
import IssueQuery.Tracker.Sample

namespace IssueQuery

namespace Json

def text? : Json → Option String
  | .text s => some s
  | _ => none

def optionalText? : Json → Option (Option String)
  | .null => some none
  | v => (text? v).map some

def textList? : Json → Option (List String)
  | .list vs => vs.mapM text?
  | _ => none

def field? {α : Type} (v : Json) (name : String) (read : Json → Option α) : Option α :=
  match v with
  | .object members => (OrderedMap.get? members name).bind read
  | _ => none

theorem mapM_text? (ss : List String) : (ss.map Json.text).mapM text? = some ss := by
  induction ss with
  | nil => rfl
  | cons s ss ih => simp [text?, ih]

@[simp] theorem textList?_textList (ss : List String) : textList? (textList ss) = some ss :=
  mapM_text? ss

@[simp] theorem optionalText?_textOrNull (s : Option String) : optionalText? (textOrNull s) = some s := by
  cases s <;> rfl

theorem plain_textList (ss : List String) : (textList ss).Plain := by
  apply Plain.list
  intro v hv
  obtain ⟨s, -, rfl⟩ := List.mem_map.mp hv
  exact .text s

theorem plain_textOrNull (s : Option String) : (textOrNull s).Plain := by
  cases s with
  | none => exact .null
  | some s => exact .text s

end Json

structure ShownIssue where
  key : String
  summary : String
  status : String
  priority : String
  issueType : String
  project : String
  assignee : Option User
  reporter : Option User
  created : String
  updated : String
  resolutionDate : Option String
  labels : List String
  components : List String
  fixVersions : List String
  deriving DecidableEq

namespace ShownIssue

open Json (text? optionalText? textList?)

def ofIssue (i : Issue) : ShownIssue where
  key := i.key
  summary := i.summary
  status := i.status
  priority := i.priority
  issueType := i.issueType
  project := i.project
  assignee := i.assignee
  reporter := i.reporter
  created := i.created.iso
  updated := i.updated.iso
  resolutionDate := i.resolutionDate.map (·.iso)
  labels := i.labels
  components := i.components
  fixVersions := i.fixVersions

def user? : Json → Option (Option User)
  | .null => some none
  | v => do
    let accountId ← v.field? "accountId" text?
    let displayName ← v.field? "displayName" text?
    let email ← v.field? "emailAddress" optionalText?
    return some ⟨accountId, displayName, email⟩

def ofJson? (v : Json) : Option ShownIssue := do
  return {
    key := ← v.field? "key" text?
    summary := ← v.field? "summary" text?
    status := ← v.field? "status" text?
    priority := ← v.field? "priority" text?
    issueType := ← v.field? "issueType" text?
    project := ← v.field? "project" text?
    assignee := ← v.field? "assignee" user?
    reporter := ← v.field? "reporter" user?
    created := ← v.field? "created" text?
    updated := ← v.field? "updated" text?
    resolutionDate := ← v.field? "resolutionDate" optionalText?
    labels := ← v.field? "labels" textList?
    components := ← v.field? "components" textList?
    fixVersions := ← v.field? "fixVersions" textList? }

@[simp] theorem user?_userJson (u : Option User) : user? (IssueOf.userJson u) = some u := by
  cases u with
  | none => rfl
  | some u =>
    obtain ⟨accountId, displayName, email⟩ := u
    cases email <;> rfl

theorem ofJson?_toJson (i : Issue) : ofJson? i.toJson = some (ofIssue i) := by
  simp [ofJson?, ofIssue, IssueOf.toJson, Json.field?, OrderedMap.get?_cons, text?]

end ShownIssue

namespace IssueOf

theorem plain_userJson (u : Option User) : (userJson u).Plain := by
  cases u with
  | none => exact .null
  | some u =>
    apply Json.Plain.object (by simp [OrderedMap.keys])
    simp only [List.forall_mem_cons]
    exact ⟨.text _, .text _, Json.plain_textOrNull _, by simp⟩

theorem plain_toJson (i : Issue) : i.toJson.Plain := by
  apply Json.Plain.object (by simp [OrderedMap.keys])
  simp only [List.forall_mem_cons]
  exact ⟨.text _, .text _, .text _, .text _, .text _, .text _, plain_userJson _, plain_userJson _, .text _, .text _,
    Json.plain_textOrNull _, Json.plain_textList _, Json.plain_textList _, Json.plain_textList _, by simp⟩

end IssueOf

namespace Value

inductive Plain : Value → Prop
  | null : Plain .null
  | bool (b : Bool) : Plain (.bool b)
  | int (n : Int) : Plain (.int n)
  | text (s : String) : Plain (.text s)
  | list {items : List Value} : (∀ v ∈ items, Plain v) → Plain (.list items)
  | map {entries : OrderedMap Value} : entries.keys.Nodup → (∀ e ∈ entries, Plain e.2) → Plain (.map entries)

theorem toJsonItems_eq (vs : List Value) : toJsonItems vs = vs.map toJson := by
  induction vs with
  | nil => rfl
  | cons v vs ih => rw [toJsonItems, ih, List.map_cons]

theorem toJsonEntries_eq (m : OrderedMap Value) : toJsonEntries m = m.map fun e => (e.1, e.2.toJson) := by
  induction m with
  | nil => rfl
  | cons e m ih => rw [toJsonEntries, ih, List.map_cons]

theorem ofJsonItems_eq (vs : List Json) : ofJsonItems vs = vs.map ofJson := by
  induction vs with
  | nil => rfl
  | cons v vs ih => rw [ofJsonItems, ih, List.map_cons]

theorem ofJsonMembers_eq (m : OrderedMap Json) : ofJsonMembers m = m.map fun e => (e.1, ofJson e.2) := by
  induction m with
  | nil => rfl
  | cons e m ih => rw [ofJsonMembers, ih, List.map_cons]

theorem plain_toJson {v : Value} (h : v.Plain) : v.toJson.Plain := by
  induction h with
  | null => exact .null
  | bool b => exact .bool b
  | int n => exact .int n
  | text s => exact .text s
  | @list items _ ih =>
    rw [toJson, toJsonItems_eq]
    exact .list (List.forall_mem_map.mpr ih)
  | @map entries hkeys _ ih =>
    rw [toJson, toJsonEntries_eq]
    apply Json.Plain.object
    · simpa [OrderedMap.keys, List.map_map, Function.comp_def] using hkeys
    · exact List.forall_mem_map.mpr ih

theorem ofJson_toJson {v : Value} (h : v.Plain) : ofJson v.toJson = v := by
  induction h with
  | null => rfl
  | bool b => rfl
  | int n => rfl
  | text s => rfl
  | @list items _ ih =>
    rw [toJson, ofJson, toJsonItems_eq, ofJsonItems_eq, List.map_map]
    exact congrArg Value.list ((List.map_congr_left ih).trans (List.map_id items))
  | @map entries _ _ ih =>
    rw [toJson, ofJson, toJsonEntries_eq, ofJsonMembers_eq, List.map_map]
    have hentries : ∀ e ∈ entries, (e.1, ofJson e.2.toJson) = e := fun e he => Prod.ext rfl (ih e he)
    exact congrArg Value.map ((List.map_congr_left hentries).trans (List.map_id entries))

end Value

namespace Group

structure IsShown (g : Group) (members : OrderedMap Json) : Prop where
  key : members.get? "key" = some (.text g.key)
  value : members.get? "value" = some (.text g.value.asText)
  count : members.get? "issueCount" = some (.int g.records.length)
  issues : ∃ items, members.get? "issues" = some (.list items) ∧
    items.map ShownIssue.ofJson? = g.records.map fun i => some (.ofIssue i)

/-- An object shows a group with all groups inside it; a group without any has null in their place. -/
inductive Mirrors : Group → Json → Prop
  | leaf {g : Group} {members : OrderedMap Json} : g.IsShown members → g.subgroups = [] →
      members.get? "subGroups" = some .null → Mirrors g (.object members)
  | branch {g : Group} {members : OrderedMap Json} {subs : List Json} : g.IsShown members → g.subgroups ≠ [] →
      members.get? "subGroups" = some (.list subs) → List.Forall₂ Mirrors g.subgroups subs →
      Mirrors g (.object members)

theorem listJson_eq (gs : List Group) : listJson gs = gs.map toJson := by
  induction gs with
  | nil => rfl
  | cons g gs ih => rw [listJson, ih, List.map_cons]

theorem toJson_eq (g : Group) :
    g.toJson = .object [("key", .text g.key), ("value", g.value.scalarJson), ("issueCount", .int g.records.length),
      ("issues", .list (g.records.map (·.toJson))), ("subGroups", listOrNull (g.subgroups.map toJson)),
      ("aggregations", (g.aggregations.map Value.entriesJson).getD .null)] := by
  obtain ⟨key, value, records, subgroups, aggregations⟩ := g
  rw [toJson, listJson_eq]

theorem scalarJson_branch (field : String) (fields : List String) (records : List Issue) (k : FieldKey) :
    (branch field fields records k).value.scalarJson = .text (branch field fields records k).value.asText := by
  unfold branch
  dsimp only
  split
  · rfl
  · rename_i x _ _
    cases Field.labelled x field <;> rfl

theorem map_ofJson?_toJson (issues : List Issue) :
    (issues.map (·.toJson)).map ShownIssue.ofJson? = issues.map fun i => some (.ofIssue i) := by
  rw [List.map_map]
  exact List.map_congr_left fun i _ => ShownIssue.ofJson?_toJson i

theorem plain_issues (issues : List Issue) : (Json.list (issues.map (·.toJson))).Plain :=
  .list (List.forall_mem_map.mpr fun i _ => i.plain_toJson)

section Nodes

variable {g : Group} (hvalue : g.value.scalarJson = .text g.value.asText)
  (hsubs : ∀ h ∈ g.subgroups, Mirrors h h.toJson)

include hvalue in
theorem plain_toJson (hnone : g.aggregations = none) (hplain : ∀ h ∈ g.subgroups, h.toJson.Plain) :
    g.toJson.Plain := by
  have hnull : (listOrNull (g.subgroups.map toJson)).Plain := by
    cases hs : g.subgroups with
    | nil => exact .null
    | cons h hs' =>
      rw [hs] at hplain
      exact .list (List.forall_mem_map.mpr hplain)
  rw [toJson_eq, hvalue, hnone]
  apply Json.Plain.object (by simp [OrderedMap.keys])
  simp only [List.forall_mem_cons]
  exact ⟨.text _, .text _, .int _, plain_issues _, hnull, .null, by simp⟩

include hvalue hsubs in
theorem mirrors_toJson : Mirrors g g.toJson := by
  rw [toJson_eq, hvalue]
  have hshown (subs aggregations : Json) : IsShown g [("key", .text g.key), ("value", .text g.value.asText),
      ("issueCount", .int g.records.length), ("issues", .list (g.records.map (·.toJson))), ("subGroups", subs),
      ("aggregations", aggregations)] :=
    ⟨rfl, rfl, rfl, _, rfl, map_ofJson?_toJson g.records⟩
  cases hs : g.subgroups with
  | nil => exact .leaf (hshown _ _) hs rfl
  | cons h hs' =>
    have hne : g.subgroups ≠ [] := by
      rw [hs]
      exact List.cons_ne_nil h hs'
    have hlist : listOrNull ((h :: hs').map toJson) = .list (g.subgroups.map toJson) := by
      rw [hs]
      rfl
    have hall : List.Forall₂ Mirrors g.subgroups (g.subgroups.map toJson) := by
      rw [List.forall₂_map_right_iff, List.forall₂_same]
      exact hsubs
    exact .branch (hshown _ _) hne (congrArg some hlist) hall

end Nodes

theorem of_mem_groupBy {fields : List String} {records : List Issue} {g : Group} (h : g ∈ groupBy fields records) :
    Mirrors g g.toJson ∧ g.toJson.Plain := by
  induction fields generalizing records g with
  | nil => cases h
  | cons field fields ih =>
    rw [groupBy_cons] at h
    obtain ⟨k, -, rfl⟩ := List.mem_map.mp h
    have hvalue := scalarJson_branch field fields records k
    exact ⟨mirrors_toJson hvalue fun h hh => (ih hh).1, plain_toJson hvalue rfl fun h hh => (ih hh).2⟩

end Group

namespace Findings

/-- What a program finds in a report: the query, the total and the issues, and of what was processed the groups
and the values, with null in the place of each where nothing was processed. -/
structure Shows (f : Findings) (members : OrderedMap Json) : Prop where
  query : members.get? "generatedJql" = some (.text f.result.query)
  total : (members.get? "total").bind Total.ofJson? = some f.result.total
  issues : ∃ items, members.get? "issues" = some (.list items) ∧
    items.map ShownIssue.ofJson? = f.result.issues.map fun i => some (.ofIssue i)
  groups : ∀ p, f.processed = some p → ∃ items, members.get? "groups" = some (.list items) ∧
    List.Forall₂ Group.Mirrors p.groups items
  calculations : ∀ p, f.processed = some p →
    (members.get? "calculations").map Value.ofJson = some (.map p.calculations)
  aggregations : ∀ p, f.processed = some p →
    (members.get? "aggregations").map Value.ofJson = some (.map p.aggregations)
  metadata : ∀ p, f.processed = some p → (members.get? "metadata").map Value.ofJson = some (.map p.metadata)
  absent : ∀ name ∈ ["groups", "calculations", "aggregations", "metadata"],
    members.get? name = some .null ↔ f.processed = none

/-- Groups as grouping makes them, and values without floats. -/
structure Regular (p : Processed) : Prop where
  groups : ∃ fields records, p.groups = Group.groupBy fields records
  calculations : (Value.map p.calculations).Plain
  aggregations : (Value.map p.aggregations).Plain
  metadata : (Value.map p.metadata).Plain

variable {f : Findings}

theorem forall₂_mirrors {p : Processed} (h : Regular p) :
    List.Forall₂ Group.Mirrors p.groups (Group.listJson p.groups) := by
  obtain ⟨fields, records, hgroups⟩ := h.groups
  rw [hgroups, Group.listJson_eq, List.forall₂_map_right_iff, List.forall₂_same]
  exact fun g hg => (Group.of_mem_groupBy hg).1

theorem plain_groups {p : Processed} (h : Regular p) : (Json.list (Group.listJson p.groups)).Plain := by
  obtain ⟨fields, records, hgroups⟩ := h.groups
  rw [hgroups, Group.listJson_eq]
  exact .list (List.forall_mem_map.mpr fun g hg => (Group.of_mem_groupBy hg).2)

theorem plain_total (t : Total) : t.toJson.Plain := by
  cases t with
  | count n => exact .int n
  | flag b => exact .bool b

theorem plain_toJson (hp : ∀ p, f.processed = some p → Regular p) : f.toJson.Plain := by
  have hpart (get : Processed → Json) (hget : ∀ p, Regular p → (get p).Plain) :
      ((f.processed.map get).getD .null).Plain := by
    cases hprocessed : f.processed with
    | none => exact .null
    | some p => exact hget p (hp p hprocessed)
  apply Json.Plain.object (by simp [OrderedMap.keys])
  simp only [List.forall_mem_cons]
  exact ⟨.text _, plain_total _, Group.plain_issues _, hpart _ fun p h => plain_groups h,
    hpart _ fun p h => Value.plain_toJson h.calculations, hpart _ fun p h => Value.plain_toJson h.aggregations,
    hpart _ fun p h => Value.plain_toJson h.metadata, by simp⟩

theorem ofJson?_total (t : Total) : Total.ofJson? t.toJson = some t := by
  cases t <;> rfl

theorem shows_toJson (hp : ∀ p, f.processed = some p → Regular p) :
    ∃ members, f.toJson = .object members ∧ f.Shows members := by
  have hpart (get : Processed → Json) {p : Processed} (h : f.processed = some p) :
      (f.processed.map get).getD .null = get p := by
    rw [h]
    rfl
  have hvalues (get : Processed → OrderedMap Value) {p : Processed} (h : f.processed = some p)
      (hplain : (Value.map (get p)).Plain) :
      Value.ofJson ((f.processed.map fun p => Value.entriesJson (get p)).getD .null) = .map (get p) := by
    rw [hpart _ h]
    exact Value.ofJson_toJson hplain
  have habsent (get : Processed → Json) (hget : ∀ p, get p ≠ .null) :
      some ((f.processed.map get).getD .null) = some .null ↔ f.processed = none := by
    cases f.processed with
    | none => simp
    | some p => simpa using hget p
  have hentries (m : OrderedMap Value) : Value.entriesJson m ≠ .null := by
    rw [Value.entriesJson, Value.toJson]
    exact Json.noConfusion
  refine ⟨_, rfl, rfl, ofJson?_total _, ⟨_, rfl, Group.map_ofJson?_toJson _⟩, ?_, ?_, ?_, ?_, ?_⟩
  · exact fun p h => ⟨_, congrArg some (hpart _ h), forall₂_mirrors (hp p h)⟩
  · exact fun p h => congrArg some (hvalues (·.calculations) h (hp p h).calculations)
  · exact fun p h => congrArg some (hvalues (·.aggregations) h (hp p h).aggregations)
  · exact fun p h => congrArg some (hvalues (·.metadata) h (hp p h).metadata)
  · simp only [List.forall_mem_cons]
    exact ⟨habsent _ fun _ => Json.noConfusion, habsent _ fun _ => hentries _, habsent _ fun _ => hentries _,
      habsent _ fun _ => hentries _, by simp⟩

theorem readWithin_json (hp : ∀ p, f.processed = some p → Regular p) :
    ∃ members, f.Shows members ∧
      ∀ limits, f.toJson.needs ≤ limits → Json.readWithin limits f.json = .ok (.object members) := by
  obtain ⟨members, hmembers, hshows⟩ := shows_toJson hp
  refine ⟨members, hshows, fun limits hn => ?_⟩
  rw [← hmembers]
  exact Json.readWithin_pretty (plain_toJson hp) hn

def bugByStatus : Findings :=
  let bug := { Sample.paymentBug ⟨0, some 0⟩ ⟨0, some 0⟩ with summary := "na\u00efve \"quotes\" \u2028 𝄞" }
  ⟨⟨[bug], "project = \"BANK\"", .count 1⟩, some {
    records := [bug]
    groups := Group.groupBy ["status", "labels"] [bug]
    calculations := [("totalCount", .int 1)]
    aggregations := []
    metadata := [("grouped_by", .list [.text "status", .text "labels"]), ("none", .null)] }⟩

theorem regular_bugByStatus : ∀ p, bugByStatus.processed = some p → Regular p := by
  rintro _ ⟨⟩
  constructor
  · exact ⟨_, _, rfl⟩
  · apply Value.Plain.map (by decide)
    simpa using Value.Plain.int 1
  · exact .map List.nodup_nil (by simp)
  · apply Value.Plain.map (by decide)
    have hlist : (Value.list [.text "status", .text "labels"]).Plain :=
      .list (by simpa using ⟨Value.Plain.text "status", Value.Plain.text "labels"⟩)
    simpa using ⟨hlist, Value.Plain.null⟩

theorem readWithin_json_bugByStatus :
    ∃ members, bugByStatus.Shows members ∧ Json.read bugByStatus.json = .ok (.object members) := by
  have hneeds : bugByStatus.toJson.needs ≤ .standard := by decide +kernel
  obtain ⟨members, hshows, hread⟩ := readWithin_json regular_bugByStatus
  exact ⟨members, hshows, hread .standard hneeds⟩

end Findings

end IssueQuery
