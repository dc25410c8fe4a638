import IssueQuery.Proofs.Analysis.Annotation
import IssueQuery.Proofs.Analysis.Forest

namespace IssueQuery.Group

def nodeTable : List String → List Issue → List (List FieldKey × Group)
  | [], _ => []
  | field :: fields, records => (keysOf field records).flatMap fun k =>
      ([k], branch field fields records k) ::
        (nodeTable fields (membersWith field records k)).map fun e => (k :: e.1, e.2)

variable {field : String} {fields : List String} {records : List Issue} {k : FieldKey} {ks : List FieldKey}
  {g : Group}

theorem map_snd_nodeTable (fields : List String) (records : List Issue) :
    (nodeTable fields records).map (·.2) = nodesOf (groupBy fields records) := by
  induction fields generalizing records with
  | nil => rw [nodeTable, groupBy, nodesOf, List.map_nil]
  | cons field fields ih =>
    rw [nodeTable, groupBy_cons, nodesOf_eq_flatMap, List.flatMap_map, List.map_flatMap]
    apply List.flatMap_congr
    intro k _
    rw [nodes_eq, List.map_cons, List.map_map]
    exact congrArg _ (ih _)

theorem ne_nil_of_mem_nodeTable (h : (ks, g) ∈ nodeTable fields records) : ks ≠ [] := by
  cases fields with
  | nil => cases h
  | cons field fields =>
    obtain ⟨k, -, h⟩ := List.mem_flatMap.mp h
    rcases List.mem_cons.mp h with h | h
    · rw [(Prod.mk.inj h).1]
      exact List.cons_ne_nil _ _
    · obtain ⟨e, -, h⟩ := List.mem_map.mp h
      rw [← (Prod.mk.inj h).1]
      exact List.cons_ne_nil _ _

theorem mem_nodeTable_cons : (k :: ks, g) ∈ nodeTable (field :: fields) records ↔
    k ∈ keysOf field records ∧ ((ks = [] ∧ g = branch field fields records k) ∨
      (ks, g) ∈ nodeTable fields (membersWith field records k)) := by
  simp only [nodeTable, List.mem_flatMap, List.mem_cons, List.mem_map, Prod.mk.injEq, List.cons.injEq]
  constructor
  · rintro ⟨l, hl, ⟨⟨rfl, rfl⟩, rfl⟩ | ⟨e, he, ⟨rfl, rfl⟩, rfl⟩⟩
    · exact ⟨hl, .inl ⟨rfl, rfl⟩⟩
    · exact ⟨hl, .inr he⟩
  · rintro ⟨hk, ⟨rfl, rfl⟩ | he⟩
    · exact ⟨k, hk, .inl ⟨⟨rfl, rfl⟩, rfl⟩⟩
    · exact ⟨k, hk, .inr ⟨(ks, g), he, ⟨rfl, rfl⟩, rfl⟩⟩

theorem mem_nodeTable_iff : (ks, g) ∈ nodeTable fields records ↔ Reaches (groupBy fields records) ks g := by
  induction fields generalizing records ks with
  | nil =>
    constructor
    · intro h
      cases h
    · intro h
      exact (not_reaches_nil h).elim
  | cons field fields ih =>
    cases ks with
    | nil =>
      constructor
      · intro h
        exact (ne_nil_of_mem_nodeTable h rfl).elim
      · intro h
        cases h
    | cons k ks => rw [mem_nodeTable_cons, reaches_groupBy_cons, ih]

theorem nodup_nodeTable_paths (fields : List String) (records : List Issue) :
    ((nodeTable fields records).map (·.1)).Nodup := by
  induction fields generalizing records with
  | nil => exact List.nodup_nil
  | cons field fields ih =>
    have hpaths : (nodeTable (field :: fields) records).map (·.1) = (keysOf field records).flatMap fun k =>
        ([] :: (nodeTable fields (membersWith field records k)).map (·.1)).map (k :: ·) := by
      rw [nodeTable, List.map_flatMap]
      simp only [List.map_cons, List.map_map, Function.comp_def]
    rw [hpaths]
    refine List.nodup_flatMap.mpr ⟨fun k _ => ?_, ?_⟩
    · have hnil : [] ∉ (nodeTable fields (membersWith field records k)).map (·.1) := by
        intro h
        obtain ⟨e, he, hnil⟩ := List.mem_map.mp h
        exact ne_nil_of_mem_nodeTable he hnil
      exact (List.nodup_cons.mpr ⟨hnil, ih _⟩).map fun _ _ h => (List.cons.inj h).2
    · -- Ways that begin with different values are different.
      apply nodup_keysOf.imp
      intro k l hne p hp hq
      obtain ⟨_, -, rfl⟩ := List.mem_map.mp hp
      obtain ⟨_, -, h⟩ := List.mem_map.mp hq
      exact hne (List.cons.inj h).1.symm

theorem aggregations_of_mem_nodeTable {e : List FieldKey × Group} (h : e ∈ nodeTable fields records) :
    e.2.aggregations = none := by
  have hnode : e.2 ∈ nodesOf (groupBy fields records) := by
    rw [← map_snd_nodeTable]
    exact List.mem_map_of_mem h
  exact (of_mem_nodesOf_groupBy hnode).2

theorem plainAll_groupBy (fields : List String) (records : List Issue) :
    plainAll (groupBy fields records) = groupBy fields records := by
  induction fields generalizing records with
  | nil => rw [groupBy, plainAll]
  | cons field fields ih =>
    rw [plainAll_eq_map, groupBy_cons, List.map_map]
    apply List.map_congr_left
    intro k _
    rw [Function.comp_apply, plain_eq, ← plainAll_eq_map]
    exact congrArg (Group.mk _ _ _ · _) (ih _)

end IssueQuery.Group
