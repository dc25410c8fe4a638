import IssueQuery.Proofs.Analysis.Partition
import Mathlib.Data.List.Nodup

namespace IssueQuery.Group

inductive Reaches : List Group → List FieldKey → Group → Prop
  | root {gs g k} : g ∈ gs → FieldKey.ofValue? g.value = some k → Reaches gs [k] g
  | inside {gs g k ks h} : g ∈ gs → FieldKey.ofValue? g.value = some k → Reaches g.subgroups ks h →
      Reaches gs (k :: ks) h

def path (fields : List String) (x : Issue) : List FieldKey :=
  fields.map (Field.key · x)

/-- The issues whose values begin with some values. -/
def along (fields : List String) (ks : List FieldKey) (records : List Issue) : List Issue :=
  records.filter fun x => ks <+: path fields x

/-- Groups beside each other: one for each value of a field, as first seen, that share out the issues. -/
structure Siblings (field : String) (records : List Issue) (gs : List Group) : Prop where
  order : gs.map (fun g => FieldKey.ofValue? g.value) = (distinct (records.map (Field.key field))).map some
  different : (gs.map fun g => FieldKey.ofValue? g.value).Nodup
  shares : (gs.flatMap (·.records)).Perm records

structure IsNode (fields : List String) (records : List Issue) (ks : List FieldKey) (g : Group) : Prop where
  below : ks ≠ []
  key : fields[ks.length - 1]? = some g.key
  records : g.records = along fields ks records
  present : g.records ≠ []
  value : ∀ x ∈ g.records.head?, g.value = (Field.labelled x g.key).toValue
  leaf : g.subgroups = [] ↔ ks.length = fields.length
  siblings : ∀ field, fields[ks.length]? = some field → Siblings field g.records g.subgroups

structure IsForest (fields : List String) (records : List Issue) (gs : List Group) : Prop where
  node : ∀ ks g, Reaches gs ks g → IsNode fields records ks g
  reached : ∀ ks, (∃ g, Reaches gs ks g) ↔ ks ≠ [] ∧ ∃ x ∈ records, ks <+: path fields x
  unique : ∀ ks g h, Reaches gs ks g → Reaches gs ks h → g = h
  roots : ∀ field ∈ fields.head?, Siblings field records gs
  leaves : ((gs.flatMap leaves).flatMap (·.records)).Perm records
  /-- The leaves are those of the different paths through all fields, one for each. -/
  paths : ∃ table : List (List FieldKey × Group), table.map (·.2) = gs.flatMap Group.leaves ∧
    (∀ e ∈ table, Reaches gs e.1 e.2) ∧ (table.map (·.1)).Nodup ∧
    ∀ p, p ∈ table.map (·.1) ↔ ∃ x ∈ records, path fields x = p

section Cons

variable {field : String} {fields : List String} {records : List Issue} {k : FieldKey} {ks : List FieldKey}
  {g : Group}

theorem siblings_groupBy : Siblings field records (groupBy (field :: fields) records) := by
  have hvalues : (groupBy (field :: fields) records).map (fun g => FieldKey.ofValue? g.value) =
      (keysOf field records).map some := by
    rw [groupBy_cons, List.map_map]
    exact List.map_congr_left fun k hk => ofValue?_branch fields hk
  refine ⟨hvalues, ?_, ?_⟩
  · rw [hvalues]
    exact nodup_keysOf.map fun _ _ h => Option.some.inj h
  · rw [groupBy_cons, List.flatMap_map]
    exact flatMap_membersWith_perm

theorem mem_groupBy_cons : g ∈ groupBy (field :: fields) records ∧ FieldKey.ofValue? g.value = some k ↔
    k ∈ keysOf field records ∧ g = branch field fields records k := by
  rw [groupBy_cons, List.mem_map]
  constructor
  · rintro ⟨⟨l, hl, rfl⟩, hv⟩
    rw [ofValue?_branch fields hl] at hv
    obtain rfl := Option.some.inj hv
    exact ⟨hl, rfl⟩
  · rintro ⟨hk, rfl⟩
    exact ⟨⟨k, hk, rfl⟩, ofValue?_branch fields hk⟩

theorem not_reaches_nil : ¬Reaches [] ks g := by
  rintro (⟨h, _⟩ | ⟨h, _, _⟩) <;> cases h

theorem reaches_groupBy_cons : Reaches (groupBy (field :: fields) records) (k :: ks) g ↔
    k ∈ keysOf field records ∧ ((ks = [] ∧ g = branch field fields records k) ∨
      Reaches (groupBy fields (membersWith field records k)) ks g) := by
  constructor
  · intro h
    cases h with
    | root hg hv =>
      obtain ⟨hk, rfl⟩ := mem_groupBy_cons.mp ⟨hg, hv⟩
      exact ⟨hk, .inl ⟨rfl, rfl⟩⟩
    | inside hg hv hr =>
      obtain ⟨hk, rfl⟩ := mem_groupBy_cons.mp ⟨hg, hv⟩
      exact ⟨hk, .inr hr⟩
  · rintro ⟨hk, h⟩
    have hb : branch field fields records k ∈ groupBy (field :: fields) records ∧
        FieldKey.ofValue? (branch field fields records k).value = some k := mem_groupBy_cons.mpr ⟨hk, rfl⟩
    rcases h with ⟨rfl, rfl⟩ | hr
    · exact .root hb.1 hb.2
    · exact .inside hb.1 hb.2 hr

theorem path_cons (x : Issue) : path (field :: fields) x = Field.key field x :: path fields x := rfl

theorem cons_prefix_path_iff {x : Issue} :
    k :: ks <+: path (field :: fields) x ↔ Field.key field x = k ∧ ks <+: path fields x := by
  rw [path_cons, List.cons_prefix_cons, eq_comm]

theorem along_cons (fields : List String) (ks : List FieldKey) :
    along fields ks (membersWith field records k) = along (field :: fields) (k :: ks) records := by
  rw [along, along, membersWith, List.filter_filter]
  apply List.filter_congr
  intro x _
  rw [Bool.eq_iff_iff]
  simp only [Bool.and_eq_true, decide_eq_true_eq, beq_iff_eq, cons_prefix_path_iff, and_comm]

theorem groupBy_eq_nil_iff (h : records ≠ []) : groupBy fields records = [] ↔ fields = [] := by
  cases fields with
  | nil => simp [groupBy]
  | cons field fields =>
    obtain ⟨x, rest, rfl⟩ := List.exists_cons_of_ne_nil h
    simp [groupBy_cons, keysOf, distinct]

theorem isNode_branch (hk : k ∈ keysOf field records) :
    IsNode (field :: fields) records [k] (branch field fields records k) where
  below := by simp
  key := rfl
  records := by
    rw [← along_cons]
    simp [along, branch]
  present := membersWith_ne_nil hk
  value := by
    intro x hx
    obtain ⟨rest, hm⟩ := List.head?_eq_some_iff.mp hx
    exact branch_value fields hm
  leaf := by
    have hbelow : (branch field fields records k).subgroups = [] ↔ fields = [] :=
      groupBy_eq_nil_iff (membersWith_ne_nil hk)
    rw [hbelow]
    cases fields <;> simp
  siblings := by
    intro next hnext
    cases fields with
    | nil => simp at hnext
    | cons other fields =>
      obtain rfl : other = next := by simpa using hnext
      exact siblings_groupBy

theorem IsNode.inside (h : IsNode fields (membersWith field records k) ks g) :
    IsNode (field :: fields) records (k :: ks) g where
  below := by simp
  key := by
    obtain ⟨l, ls, rfl⟩ := List.exists_cons_of_ne_nil h.below
    exact h.key
  records := by rw [h.records, along_cons]
  present := h.present
  value := h.value
  leaf := by rw [h.leaf, List.length_cons, List.length_cons, Nat.add_right_cancel_iff]
  siblings := h.siblings

theorem isNode_of_reaches (h : Reaches (groupBy fields records) ks g) : IsNode fields records ks g := by
  induction fields generalizing records ks with
  | nil => exact (not_reaches_nil h).elim
  | cons field fields ih =>
    cases ks with
    | nil => cases h
    | cons k ks =>
      obtain ⟨hk, ⟨rfl, rfl⟩ | hr⟩ := reaches_groupBy_cons.mp h
      · exact isNode_branch hk
      · exact (ih hr).inside

theorem exists_reaches_iff : (∃ g, Reaches (groupBy fields records) ks g) ↔
    ks ≠ [] ∧ ∃ x ∈ records, ks <+: path fields x := by
  induction fields generalizing records ks with
  | nil =>
    constructor
    · rintro ⟨g, h⟩
      exact (not_reaches_nil h).elim
    · rintro ⟨hks, x, -, h⟩
      exact (hks (List.prefix_nil.mp h)).elim
  | cons field fields ih =>
    cases ks with
    | nil =>
      constructor
      · rintro ⟨g, h⟩
        cases h
      · rintro ⟨h, -⟩
        exact (h rfl).elim
    | cons k ks =>
      simp only [reaches_groupBy_cons]
      constructor
      · rintro ⟨g, hk, ⟨rfl, -⟩ | hr⟩
        · obtain ⟨x, hx, rfl⟩ := mem_keysOf.mp hk
          exact ⟨by simp, x, hx, cons_prefix_path_iff.mpr ⟨rfl, List.nil_prefix⟩⟩
        · obtain ⟨-, x, hx, hp⟩ := ih.mp ⟨g, hr⟩
          obtain ⟨hx, hkey⟩ := mem_membersWith.mp hx
          exact ⟨by simp, x, hx, cons_prefix_path_iff.mpr ⟨hkey, hp⟩⟩
      · rintro ⟨-, x, hx, hp⟩
        obtain ⟨rfl, hrest⟩ := cons_prefix_path_iff.mp hp
        have hk : Field.key field x ∈ keysOf field records := mem_keysOf.mpr ⟨x, hx, rfl⟩
        by_cases hks : ks = []
        · exact ⟨_, hk, .inl ⟨hks, rfl⟩⟩
        · obtain ⟨g, hr⟩ := ih.mpr ⟨hks, x, mem_membersWith.mpr ⟨hx, rfl⟩, hrest⟩
          exact ⟨g, hk, .inr hr⟩

theorem reaches_unique {h : Group} (hg : Reaches (groupBy fields records) ks g)
    (hh : Reaches (groupBy fields records) ks h) : g = h := by
  induction fields generalizing records ks with
  | nil => exact (not_reaches_nil hg).elim
  | cons field fields ih =>
    cases ks with
    | nil => cases hg
    | cons k ks =>
      obtain ⟨-, ⟨rfl, rfl⟩ | hg⟩ := reaches_groupBy_cons.mp hg <;>
        obtain ⟨-, ⟨hks, rfl⟩ | hh⟩ := reaches_groupBy_cons.mp hh
      · rfl
      · cases hh
      · subst hks
        cases hg
      · exact ih hg hh

end Cons

section Leaves

variable {field : String} {fields : List String} {records : List Issue} {k : FieldKey}

theorem leavesOf_eq_flatMap (gs : List Group) : leavesOf gs = gs.flatMap leaves := by
  induction gs with
  | nil => simp [leavesOf]
  | cons g gs ih => rw [leavesOf, ih, List.flatMap_cons]

theorem leaves_branch_nil : leaves (branch field [] records k) = [branch field [] records k] := by
  simp [branch, groupBy, leaves]

theorem leaves_branch_cons (next : String) (h : k ∈ keysOf field records) :
    leaves (branch field (next :: fields) records k) =
      (groupBy (next :: fields) (membersWith field records k)).flatMap leaves := by
  have hne : groupBy (next :: fields) (membersWith field records k) ≠ [] := by
    simp [groupBy_eq_nil_iff (membersWith_ne_nil h)]
  obtain ⟨g, gs, hg⟩ := List.exists_cons_of_ne_nil hne
  rw [branch, hg, leaves, leavesOf_eq_flatMap, List.flatMap_cons]

theorem leaves_groupBy_perm (field : String) (fields : List String) (records : List Issue) :
    (((groupBy (field :: fields) records).flatMap leaves).flatMap (·.records)).Perm records := by
  induction fields generalizing field records with
  | nil =>
    simp only [groupBy_cons, List.flatMap_map, leaves_branch_nil, List.flatMap_assoc]
    simpa [branch] using flatMap_membersWith_perm
  | cons next fields ih =>
    rw [groupBy_cons, List.flatMap_map, List.flatMap_assoc]
    refine List.Perm.trans (List.Perm.flatMap_left _ fun k hk => ?_) flatMap_membersWith_perm
    rw [leaves_branch_cons next hk]
    exact ih next (membersWith field records k)

def leafTable (field : String) : List String → List Issue → List (List FieldKey × Group)
  | [], records => (keysOf field records).map fun k => ([k], branch field [] records k)
  | next :: fields, records => (keysOf field records).flatMap fun k =>
      (leafTable next fields (membersWith field records k)).map fun e => (k :: e.1, e.2)

theorem leafTable_leaves (field : String) (fields : List String) (records : List Issue) :
    (leafTable field fields records).map (·.2) = (groupBy (field :: fields) records).flatMap leaves := by
  induction fields generalizing field records with
  | nil =>
    simp only [leafTable, groupBy_cons, List.flatMap_map, leaves_branch_nil, List.map_map, Function.comp_def,
      ← List.map_eq_flatMap]
  | cons next fields ih =>
    rw [leafTable, groupBy_cons, List.flatMap_map, List.map_flatMap]
    apply List.flatMap_congr
    intro k hk
    rw [leaves_branch_cons next hk, ← ih next, List.map_map]
    rfl

theorem leafTable_reaches {e : List FieldKey × Group} (h : e ∈ leafTable field fields records) :
    Reaches (groupBy (field :: fields) records) e.1 e.2 := by
  induction fields generalizing field records e with
  | nil =>
    obtain ⟨k, hk, rfl⟩ := List.mem_map.mp h
    exact reaches_groupBy_cons.mpr ⟨hk, .inl ⟨rfl, rfl⟩⟩
  | cons next fields ih =>
    obtain ⟨k, hk, h⟩ := List.mem_flatMap.mp h
    obtain ⟨e, he, rfl⟩ := List.mem_map.mp h
    exact reaches_groupBy_cons.mpr ⟨hk, .inr (ih he)⟩

theorem leafTable_cons_paths (next : String) : (leafTable field (next :: fields) records).map (·.1) =
    (keysOf field records).flatMap fun k =>
      ((leafTable next fields (membersWith field records k)).map (·.1)).map (k :: ·) := by
  rw [leafTable, List.map_flatMap]
  simp only [List.map_map, Function.comp_def]

theorem mem_leafTable_paths {p : List FieldKey} :
    p ∈ (leafTable field fields records).map (·.1) ↔ ∃ x ∈ records, path (field :: fields) x = p := by
  induction fields generalizing field records p with
  | nil =>
    simp only [leafTable, List.map_map, List.mem_map, Function.comp_apply, mem_keysOf]
    constructor
    · rintro ⟨k, ⟨x, hx, rfl⟩, rfl⟩
      exact ⟨x, hx, rfl⟩
    · rintro ⟨x, hx, rfl⟩
      exact ⟨_, ⟨x, hx, rfl⟩, rfl⟩
  | cons next fields ih =>
    rw [leafTable_cons_paths, List.mem_flatMap]
    constructor
    · rintro ⟨k, -, hp⟩
      obtain ⟨q, hq, rfl⟩ := List.mem_map.mp hp
      obtain ⟨x, hx, rfl⟩ := ih.mp hq
      obtain ⟨hmem, rfl⟩ := mem_membersWith.mp hx
      exact ⟨x, hmem, path_cons x⟩
    · rintro ⟨x, hx, rfl⟩
      have hmem : x ∈ membersWith field records (Field.key field x) := mem_membersWith.mpr ⟨hx, rfl⟩
      exact ⟨Field.key field x, mem_keysOf.mpr ⟨x, hx, rfl⟩,
        List.mem_map.mpr ⟨path (next :: fields) x, ih.mpr ⟨x, hmem, rfl⟩, rfl⟩⟩

theorem nodup_leafTable_paths (field : String) (fields : List String) (records : List Issue) :
    ((leafTable field fields records).map (·.1)).Nodup := by
  induction fields generalizing field records with
  | nil =>
    rw [leafTable, List.map_map]
    exact nodup_keysOf.map fun _ _ h => (List.cons.inj h).1
  | cons next fields ih =>
    rw [leafTable_cons_paths]
    refine List.nodup_flatMap.mpr ⟨fun k _ => (ih next _).map fun _ _ h => (List.cons.inj h).2, ?_⟩
    -- Rows of different values differ in their first value.
    apply nodup_keysOf.imp
    intro k l hne p hp hq
    obtain ⟨_, -, rfl⟩ := List.mem_map.mp hp
    obtain ⟨_, -, h⟩ := List.mem_map.mp hq
    exact hne (List.cons.inj h).1.symm

end Leaves

theorem groupBy_isForest (field : String) (fields : List String) (records : List Issue) :
    IsForest (field :: fields) records (groupBy (field :: fields) records) where
  node _ _ h := isNode_of_reaches h
  reached _ := exists_reaches_iff
  unique _ _ _ hg hh := reaches_unique hg hh
  roots := by
    intro f hf
    obtain rfl : field = f := by simpa using hf
    exact siblings_groupBy
  leaves := leaves_groupBy_perm field fields records
  paths := ⟨leafTable field fields records, leafTable_leaves field fields records,
    fun _ h => leafTable_reaches h, nodup_leafTable_paths field fields records, fun _ => mem_leafTable_paths⟩

end IssueQuery.Group
