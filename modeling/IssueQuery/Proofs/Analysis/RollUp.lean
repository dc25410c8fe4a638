import IssueQuery.Proofs.Analysis.Annotation
import IssueQuery.Proofs.Analysis.Forest
import IssueQuery.Proofs.Analysis.Tally
import Mathlib.Algebra.GroupWithZero.Nat

namespace IssueQuery

open Calendar (Timestamp)

section Counts

theorem sum_counts (xs : List String) : ((counts xs).map (·.2)).sum = xs.length := by
  have hperm : ((distinct xs).flatMap fun x => xs.filter (· == x)).Perm xs :=
    flatMap_filter_perm id (nodup_distinct xs) fun x hx => mem_distinct.mpr hx
  rw [← hperm.length_eq, List.length_flatMap, counts, List.map_map]
  congr 1
  exact List.map_congr_left fun x _ => List.count_eq_length_filter

theorem pos_of_mem_counts {xs : List String} {e : String × Nat} (h : e ∈ counts xs) : 0 < e.2 := by
  obtain ⟨x, hx, rfl⟩ := List.mem_map.mp h
  exact List.count_pos_iff.mpr (mem_distinct.mp hx)

theorem mem_keys_counts {xs : List String} {key : String} : key ∈ (counts xs).keys ↔ key ∈ xs := by
  rw [keys_counts, mem_distinct]

end Counts

structure Tally where
  size : Nat
  table : Attribute → OrderedMap Nat

namespace Tally

def values (t : Tally) : OrderedMap Value :=
  ("count", .int t.size) :: Attribute.all.map fun a => (a.measure, .numbers (t.table a))

def names : List String :=
  ["count", "status_counts", "priority_counts", "assignee_counts", "type_counts"]

def ofIssues (records : List Issue) : Tally where
  size := records.length
  table a := counts (records.map a.get)

/-- Every table has each text once, only texts that occur, and all issues. -/
structure IsWhole (t : Tally) : Prop where
  nodup : ∀ a, (t.table a).keys.Nodup
  positive : ∀ a, ∀ e ∈ t.table a, 0 < e.2
  total : ∀ a, ((t.table a).map (·.2)).sum = t.size

/-- Every number is the sum of the numbers of the parts, and no text comes or goes. -/
structure IsSum (t : Tally) (parts : List Tally) : Prop where
  size : t.size = (parts.map (·.size)).sum
  keys : ∀ a key, key ∈ (t.table a).keys ↔ ∃ part ∈ parts, key ∈ (part.table a).keys
  entry : ∀ a key, ((t.table a).get? key).getD 0 = (parts.map fun part => ((part.table a).get? key).getD 0).sum

theorem isWhole_ofIssues (records : List Issue) : (ofIssues records).IsWhole where
  nodup a := by
    rw [ofIssues, keys_counts]
    exact nodup_distinct _
  positive _ _ he := pos_of_mem_counts he
  total a := by
    rw [ofIssues, sum_counts, List.length_map]

theorem ofIssues_isSum {records : List Issue} {parts : List (List Issue)} (h : parts.flatten.Perm records) :
    (ofIssues records).IsSum (parts.map ofIssues) where
  size := by
    rw [List.map_map]
    exact h.length_eq.symm.trans List.length_flatten
  keys a key := by
    have hmem : key ∈ records.map a.get ↔ ∃ part ∈ parts, key ∈ part.map a.get := by
      rw [← (h.map a.get).mem_iff, List.map_flatten, List.mem_flatten]
      simp only [List.mem_map, exists_exists_and_eq_and]
    rw [ofIssues, mem_keys_counts, hmem]
    constructor
    · rintro ⟨part, hpart, hkey⟩
      exact ⟨ofIssues part, List.mem_map_of_mem hpart, mem_keys_counts.mpr hkey⟩
    · rintro ⟨tally, htally, hkey⟩
      obtain ⟨part, hpart, rfl⟩ := List.mem_map.mp htally
      exact ⟨part, hpart, mem_keys_counts.mp hkey⟩
  entry a key := by
    simp only [ofIssues, getD_counts, List.map_map, Function.comp_def]
    rw [← (h.map a.get).count_eq, List.map_flatten, List.count_flatten, List.map_map]
    rfl

/-- The groups carry tallies, and the tally is their sum. -/
def RollsUp (t : Tally) (groups : List Group) : Prop :=
  ∃ parts : List Tally, groups.map (·.aggregations) = parts.map (fun part => some part.values) ∧ t.IsSum parts

theorem rollsUp_of_shares {records : List Issue} {groups : List Group}
    (hvalues : ∀ g ∈ groups, g.aggregations = some (ofIssues g.records).values)
    (h : (groups.map (·.records)).flatten.Perm records) : (ofIssues records).RollsUp groups := by
  refine ⟨(groups.map (·.records)).map ofIssues, ?_, ofIssues_isSum h⟩
  rw [List.map_map, List.map_map]
  exact List.map_congr_left hvalues

end Tally

namespace Group

variable {field : String} {fields : List String} {records : List Issue} {groups : List Group} {g : Group}

theorem shares_groupBy : ((groupBy (field :: fields) records).map (·.records)).flatten.Perm records := by
  have hsiblings : Siblings field records (groupBy (field :: fields) records) := siblings_groupBy
  exact hsiblings.shares

theorem shares_of_mem_nodesOf (hg : g ∈ nodesOf (groupBy fields records)) (hne : g.subgroups ≠ []) :
    (g.subgroups.map (·.records)).flatten.Perm g.records := by
  obtain ⟨rest, -, hrest⟩ := subgroups_of_mem_nodesOf hg
  rw [hrest] at hne ⊢
  cases rest with
  | nil => exact absurd (by rw [groupBy]) hne
  | cons next rest => exact shares_groupBy

theorem map_records_of_plain {others : List Group} (h : groups.map plain = others.map plain) :
    groups.map (·.records) = others.map (·.records) := by
  have hrecords : (·.records) ∘ plain = Group.records := by
    funext g
    rw [Function.comp_apply, plain_eq]
  have hmap := congrArg (List.map (·.records)) h
  rwa [List.map_map, List.map_map, hrecords] at hmap

theorem shares_of_plainAll (h : plainAll groups = plainAll (groupBy fields records)) (hg : g ∈ nodesOf groups)
    (hne : g.subgroups ≠ []) : (g.subgroups.map (·.records)).flatten.Perm g.records := by
  obtain ⟨node, hnode, hplain⟩ := exists_mem_nodesOf_of_plainAll h hg
  rw [plain_eq, plain_eq, Group.mk.injEq] at hplain
  obtain ⟨-, -, hrecords, hsubgroups, -⟩ := hplain
  have hinside : node.subgroups ≠ [] := by
    rintro hnil
    rw [hnil, List.map_nil, eq_comm, List.map_eq_nil_iff] at hsubgroups
    exact hne hsubgroups
  rw [← map_records_of_plain hsubgroups, ← hrecords]
  exact shares_of_mem_nodesOf hnode hinside

end Group

namespace Registry

theorem evaluate_names (records : List Issue) (now : Timestamp) :
    aggregations.evaluate records now Tally.names = .ok (Tally.ofIssues records).values := by
  have hcount : aggregations.value records now "count" = .ok (.int records.length) := by
    have hfold : Text.fold "count" = "count" := by decide +kernel
    rw [value, get?, hfold]
    rfl
  have hcounts (a : Attribute) : aggregations.value records now a.measure =
      .ok (.numbers (counts (records.map a.get))) := value_counts a.fold_measure
  have hnames : Tally.names = "count" :: Attribute.all.map (·.measure) := rfl
  simp only [evaluate, hnames, Attribute.all, List.map_cons, List.map_nil, List.foldlM_cons, hcount, hcounts]
  rfl

theorem aggregations_of_isAnnotated {g : Group} {now : Timestamp} (h : aggregations.IsAnnotated now Tally.names g) :
    g.aggregations = some (Tally.ofIssues g.records).values := by
  obtain ⟨values, hvalues, hg⟩ := h
  rw [evaluate_names] at hvalues
  rw [hg, Except.ok.inj hvalues]

theorem counts_roll_up (field : String) (fields : List String) (records : List Issue) (now : Timestamp) :
    ∃ (annotated : List Group) (total : Tally),
      aggregations.annotateAll now Tally.names (Group.groupBy (field :: fields) records) = .ok annotated ∧
      Group.plainAll annotated = Group.plainAll (Group.groupBy (field :: fields) records) ∧
      aggregations.evaluate records now Tally.names = .ok total.values ∧
      total.IsWhole ∧ total.RollsUp annotated ∧
      ∀ g ∈ Group.nodesOf annotated, ∃ tally : Tally,
        g.aggregations = some tally.values ∧ tally.IsWhole ∧
          (g.subgroups ≠ [] → tally.RollsUp g.subgroups) := by
  have hmeasured : ∀ g ∈ Group.nodesOf (Group.groupBy (field :: fields) records),
      ∃ values, aggregations.evaluate g.records now Tally.names = .ok values :=
    fun g _ => ⟨_, evaluate_names g.records now⟩
  obtain ⟨annotated, hannotated⟩ := exists_annotateAll hmeasured
  obtain ⟨hplain, hnodes⟩ := of_annotateAll hannotated
  have hvalues : ∀ g ∈ Group.nodesOf annotated, g.aggregations = some (Tally.ofIssues g.records).values :=
    fun g hg => aggregations_of_isAnnotated (hnodes g hg)
  -- The issues are where they were before the groups got their values.
  have hshares : (annotated.map (·.records)).flatten.Perm records := by
    rw [Group.plainAll_eq_map, Group.plainAll_eq_map] at hplain
    rw [Group.map_records_of_plain hplain]
    exact Group.shares_groupBy
  have htop : ∀ g ∈ annotated, g ∈ Group.nodesOf annotated := fun g hg => Group.mem_nodesOf_of_mem hg
  refine ⟨annotated, Tally.ofIssues records, hannotated, hplain, evaluate_names records now,
    Tally.isWhole_ofIssues records, Tally.rollsUp_of_shares (fun g hg => hvalues g (htop g hg)) hshares,
    fun g hg => ?_⟩
  refine ⟨Tally.ofIssues g.records, hvalues g hg, Tally.isWhole_ofIssues g.records, fun hne => ?_⟩
  exact Tally.rollsUp_of_shares (fun sub hsub => hvalues sub (Group.mem_nodesOf_of_mem_subgroups hg hsub))
    (Group.shares_of_plainAll hplain hg hne)

end Registry

end IssueQuery
