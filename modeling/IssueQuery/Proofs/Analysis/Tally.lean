import IssueQuery.Analysis.Measure
import IssueQuery.Proofs.Analysis.Partition
import IssueQuery.Proofs.Issue.FieldNames
import IssueQuery.Tracker.Sample

namespace IssueQuery

open Calendar (Timestamp)

theorem distinct_map {α β : Type} [DecidableEq α] [DecidableEq β] {f : α → β} (hf : Function.Injective f)
    (xs : List α) : distinct (xs.map f) = (distinct xs).map f := by
  induction xs with
  | nil => rfl
  | cons x xs ih =>
    have hne : (fun y => y != f x) ∘ f = fun y => y != x := by
      funext y
      by_cases h : y = x
      · simp [h]
      · rw [Function.comp_apply, bne_iff_ne.mpr h, bne_iff_ne.mpr (hf.ne h)]
    rw [List.map_cons, distinct, distinct, ih, List.map_cons, List.filter_map, hne]

section Counts

theorem OrderedMap.get?_map_mk {α : Type} (f : String → α) (keys : List String) (key : String) :
    OrderedMap.get? (keys.map fun k => (k, f k)) key = if key ∈ keys then some (f key) else none := by
  induction keys with
  | nil => rfl
  | cons k keys ih =>
    rw [List.map_cons, OrderedMap.get?_cons, ih]
    by_cases h : k = key
    · simp [h]
    · simp [h, Ne.symm h]

theorem getD_counts (xs : List String) (key : String) : ((counts xs).get? key).getD 0 = xs.count key := by
  rw [counts, OrderedMap.get?_map_mk]
  by_cases h : key ∈ xs
  · rw [if_pos (mem_distinct.mpr h), Option.getD_some]
  · rw [if_neg (mt mem_distinct.mp h), Option.getD_none, List.count_eq_zero_of_not_mem h]

theorem count_eq_length_filter (f : Issue → String) (records : List Issue) (s : String) :
    (records.map f).count s = (records.filter (f · == s)).length := by
  rw [List.count, List.countP_map, List.countP_eq_length_filter]
  rfl

end Counts

def Value.numbers (table : OrderedMap Nat) : Value :=
  .map (table.map fun (key, n) => (key, .int n))

inductive Attribute where
  | status
  | priority
  | assignee
  | issueType

namespace IssueOf

/-- The issue has no assignee, or one whose name cannot be told from the label of none. -/
def IsUnassigned (i : Issue) : Prop :=
  ∀ u ∈ i.assignee, u.displayName = unassignedLabel

instance (i : Issue) : Decidable i.IsUnassigned :=
  inferInstanceAs (Decidable (∀ u ∈ i.assignee, u.displayName = unassignedLabel))

theorem beq_unassignedLabel (i : Issue) : (i.assigneeName == unassignedLabel) = decide i.IsUnassigned := by
  rw [Bool.eq_iff_iff, beq_iff_eq, decide_eq_true_eq, assigneeName, IsUnassigned]
  cases i.assignee <;> simp

end IssueOf

namespace Attribute

def all : List Attribute :=
  [status, priority, assignee, issueType]

def measure : Attribute → String
  | status => "status_counts"
  | priority => "priority_counts"
  | assignee => "assignee_counts"
  | issueType => "type_counts"

def fields : Attribute → List String
  | status => ["status"]
  | priority => ["priority"]
  | assignee => ["assignee"]
  | issueType => ["type", "issuetype", "issue_type"]

def get : Attribute → Issue → String
  | status => (·.status)
  | priority => (·.priority)
  | assignee => (·.assigneeName)
  | issueType => (·.issueType)

theorem fold_measure (a : Attribute) : Text.fold a.measure = a.measure := by
  cases a <;> decide +kernel

theorem spelling_of_mem_fields {a : Attribute} {field : String} (h : field ∈ a.fields) :
    field ≠ "" ∧ ∀ c ∈ field.toList, Text.isBlank c = false := by
  have hall : (a.fields.all fun field => field != "" && field.toList.all fun c => !Text.isBlank c) = true := by
    cases a <;> decide +kernel
  simpa using List.all_eq_true.mp hall field h

theorem labelled_eq {a : Attribute} {path : String} (h : Field.normalize path ∈ a.fields) (i : Issue) :
    Field.labelled i path = .text (a.get i) := by
  unfold Field.labelled Field.get Field.accessor?
  cases a with
  | status =>
    rw [List.mem_singleton.mp h]
    rfl
  | priority =>
    rw [List.mem_singleton.mp h]
    rfl
  | assignee =>
    rw [List.mem_singleton.mp h]
    have hget : Field.accessors.get? "assignee" = some (Field.ofOption fun i => i.assignee.map (·.displayName)) := rfl
    simp only [hget, Option.bind_some, Field.ofOption, get, IssueOf.assigneeName]
    cases i.assignee <;> rfl
  | issueType =>
    simp only [fields, List.mem_cons, List.not_mem_nil, or_false] at h
    rcases h with h | h | h <;> rw [h] <;> rfl

end Attribute

namespace Group

theorem groupBy_text {path : String} {f : Issue → String} (h : ∀ i, Field.labelled i path = .text (f i))
    (records : List Issue) : groupBy [path] records =
      (distinct (records.map f)).map fun s => ⟨path, .text s, records.filter (f · == s), [], none⟩ := by
  have hkey : Field.key path = FieldKey.text ∘ f := by
    funext i
    rw [Field.key, h]
    rfl
  have hinj : Function.Injective FieldKey.text := fun _ _ => FieldKey.text.inj
  rw [groupBy_cons, keysOf, hkey, ← List.map_map, distinct_map hinj, List.map_map]
  apply List.map_congr_left
  intro s hs
  have hk : FieldKey.text s ∈ keysOf path records := by
    rw [keysOf, hkey, ← List.map_map, distinct_map hinj]
    exact List.mem_map_of_mem hs
  obtain ⟨x, -, hx, hvalue⟩ := exists_branch_value [] hk
  have hmembers : membersWith path records (.text s) = records.filter (f · == s) := by
    rw [membersWith, hkey]
    apply List.filter_congr
    intro i _
    rw [Bool.eq_iff_iff]
    simp
  rw [h x, FieldValue.toValue] at hvalue
  rw [hkey] at hx
  have hbranch : branch path [] records (.text s) =
      ⟨path, (branch path [] records (.text s)).value, membersWith path records (.text s), [], none⟩ := by
    rw [branch, groupBy]
  rw [Function.comp_apply, hbranch, hvalue, hmembers, FieldKey.text.inj hx]

theorem sizes_groupBy_text {path : String} {f : Issue → String} (h : ∀ i, Field.labelled i path = .text (f i))
    (records : List Issue) : (groupBy [path] records).map (fun g => (g.value, g.records.length)) =
      (counts (records.map f)).map fun e => (.text e.1, e.2) := by
  rw [groupBy_text h, counts, List.map_map, List.map_map]
  apply List.map_congr_left
  intro s _
  simp only [Function.comp_apply, count_eq_length_filter]

theorem records_of_unassigned {path : String} {records : List Issue} {g : Group}
    (h : ∀ i, Field.labelled i path = .text i.assigneeName) (hg : g ∈ groupBy [path] records)
    (hv : g.value = .text unassignedLabel) : g.records = records.filter (·.IsUnassigned) := by
  rw [groupBy_text h] at hg
  obtain ⟨s, -, rfl⟩ := List.mem_map.mp hg
  obtain rfl : s = unassignedLabel := Value.text.inj hv
  exact List.filter_congr fun i _ => i.beq_unassignedLabel

end Group

namespace Registry

variable {records : List Issue} {now : Timestamp} {asked : String} {v : Value}

theorem value_counts {a : Attribute} (h : Text.fold asked = a.measure) :
    aggregations.value records now asked = .ok (.numbers (counts (records.map a.get))) := by
  rw [value, get?, h]
  cases a <;> rfl

theorem value_statusDistribution (h : Text.fold asked = "statusdistribution") :
    calculations.value records now asked = .ok (.numbers (counts (records.map (·.status)))) := by
  rw [value, get?, h]
  rfl

theorem evaluate_singleton {r : Registry} (h : r.value records now asked = .ok v) :
    r.evaluate records now [asked] = .ok [(asked, v)] := by
  rw [evaluate, List.foldlM_cons, h]
  rfl

theorem counts_are_groups (records : List Issue) (now : Timestamp) :
    (∀ (a : Attribute) (asked path : String), Text.fold asked = a.measure → Field.normalize path ∈ a.fields →
      ∃ table : OrderedMap Nat,
        aggregations.evaluate records now [asked] = .ok [(asked, .numbers table)] ∧
        (Group.groupBy [path] records).map (fun g => (g.value, g.records.length)) =
          table.map (fun e => (.text e.1, e.2)) ∧
        (a = .assignee →
          (table.get? unassignedLabel).getD 0 = (records.filter (·.IsUnassigned)).length ∧
          ∀ g ∈ Group.groupBy [path] records, g.value = .text unassignedLabel →
            g.records = records.filter (·.IsUnassigned))) ∧
    (∀ a : Attribute, ∀ field ∈ a.fields, ∀ path, Field.Spells field path → Field.normalize path ∈ a.fields) ∧
    ∀ distribution asked, Text.fold distribution = "statusdistribution" →
      Text.fold asked = Attribute.status.measure →
      calculations.value records now distribution = aggregations.value records now asked := by
  refine ⟨fun a asked path hasked hpath => ?_, fun a field hfield path hspells => ?_, fun _ _ hd ha => ?_⟩
  · have hlabelled := Attribute.labelled_eq hpath
    refine ⟨_, evaluate_singleton (value_counts hasked), Group.sizes_groupBy_text hlabelled records, ?_⟩
    rintro rfl
    refine ⟨?_, fun g hg hv => Group.records_of_unassigned hlabelled hg hv⟩
    rw [getD_counts, count_eq_length_filter]
    exact congrArg List.length (List.filter_congr fun i _ => i.beq_unassignedLabel)
  · obtain ⟨hne, hblank⟩ := Attribute.spelling_of_mem_fields hfield
    rw [Field.normalize_of_spells hne hblank hspells]
    exact hfield
  · rw [value_statusDistribution hd, value_counts ha]
    rfl

def scarcelyAssigned : List Issue :=
  let bug := Sample.paymentBug ⟨0, none⟩ ⟨0, none⟩
  [{ bug with assignee := none }, bug, { bug with assignee := some ⟨"u", "Unassigned", none⟩ }]

theorem counts_are_groups_unassigned :
    Text.fold "Assignee_Counts" = Attribute.assignee.measure ∧
      Field.normalize "\tASSIGNEE " ∈ Attribute.assignee.fields ∧
      ∃ table : OrderedMap Nat,
        aggregations.evaluate scarcelyAssigned ⟨0, none⟩ ["Assignee_Counts"] =
          .ok [("Assignee_Counts", .numbers table)] ∧
        (Group.groupBy ["\tASSIGNEE "] scarcelyAssigned).map (fun g => (g.value, g.records.length)) =
          table.map (fun e => (.text e.1, e.2)) ∧
        (table.get? unassignedLabel).getD 0 = 2 := by
  have hasked : Text.fold "Assignee_Counts" = Attribute.assignee.measure := by decide +kernel
  obtain ⟨hgroups, hspells, -⟩ := counts_are_groups scarcelyAssigned ⟨0, none⟩
  have hpath : Field.normalize "\tASSIGNEE " ∈ Attribute.assignee.fields := by
    refine hspells .assignee "assignee" (by simp [Attribute.fields]) _ ?_
    exact ⟨['\t'], ['A', 'S', 'S', 'I', 'G', 'N', 'E', 'E'], [' '], rfl, by simp [Text.isBlank], by simp, rfl⟩
  obtain ⟨table, hvalues, hentries, hlabel⟩ := hgroups .assignee "Assignee_Counts" "\tASSIGNEE " hasked hpath
  exact ⟨hasked, hpath, table, hvalues, hentries, (hlabel rfl).1⟩

end Registry

end IssueQuery
