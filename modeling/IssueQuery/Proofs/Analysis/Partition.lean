import IssueQuery.Analysis.Distinct
import IssueQuery.Analysis.Grouping
import Mathlib.Data.List.Induction
import Mathlib.Data.List.Perm.Basic

namespace IssueQuery

theorem distinct_concat {α : Type} [DecidableEq α] (xs : List α) (x : α) :
    distinct (xs ++ [x]) = if x ∈ xs then distinct xs else distinct xs ++ [x] := by
  induction xs with
  | nil => rfl
  | cons y xs ih =>
    rw [List.cons_append, distinct, ih, distinct]
    by_cases hy : x = y
    · subst hy
      by_cases hx : x ∈ xs <;> simp [hx]
    · by_cases hx : x ∈ xs <;> simp [hx, hy]

theorem flatMap_filter_perm {α κ : Type} [DecidableEq κ] (f : α → κ) {ks : List κ} (hn : ks.Nodup)
    {xs : List α} (h : ∀ x ∈ xs, f x ∈ ks) : (ks.flatMap fun k => xs.filter (f · == k)).Perm xs := by
  induction ks generalizing xs with
  | nil =>
    obtain rfl : xs = [] := List.eq_nil_iff_forall_not_mem.mpr fun x hx => by simpa using h x hx
    exact .nil
  | cons k ks ih =>
    rw [List.nodup_cons] at hn
    let rest := xs.filter fun x => !(f x == k)
    have hrest : ∀ x ∈ rest, f x ∈ ks := by
      intro x hx
      obtain ⟨hx, hne⟩ := List.mem_filter.mp hx
      exact (List.mem_cons.mp (h x hx)).resolve_left (by simpa using hne)
    have hlater : (ks.flatMap fun l => xs.filter (f · == l)) = ks.flatMap fun l => rest.filter (f · == l) := by
      apply List.flatMap_congr
      intro l hl
      rw [List.filter_filter]
      apply List.filter_congr
      intro x _
      by_cases hx : f x = l
      · have hne : f x ≠ k := by
          intro hk
          exact hn.1 (hk ▸ hx ▸ hl)
        simp [hx ▸ hne, hx]
      · simp [hx]
    rw [List.flatMap_cons, hlater]
    exact ((ih hn.2 hrest).append_left _).trans (List.filter_append_perm _ xs)

namespace FieldKey

def texts? : List Value → Option (List String)
  | [] => some []
  | .text s :: vs => (texts? vs).map (s :: ·)
  | _ => none

def ofValue? : Value → Option FieldKey
  | .text s => some (.text s)
  | .tuple vs => (texts? vs).map .tags
  | .time t => some (FieldValue.time t).key
  | _ => none

theorem texts?_map (ss : List String) : texts? (ss.map .text) = some ss := by
  induction ss with
  | nil => rfl
  | cons s ss ih => simp [texts?, ih]

@[simp] theorem ofValue?_toValue (v : FieldValue) : ofValue? v.toValue = some v.key := by
  cases v with
  | text s => rfl
  | tags ss => simp [FieldValue.toValue, ofValue?, texts?_map, FieldValue.key]
  | time t => rfl

end FieldKey

namespace Field

def key (field : String) (x : Issue) : FieldKey :=
  (labelled x field).key

end Field

namespace Group

def keysOf (field : String) (records : List Issue) : List FieldKey :=
  distinct (records.map (Field.key field))

def membersWith (field : String) (records : List Issue) (k : FieldKey) : List Issue :=
  records.filter (Field.key field · == k)

variable {field : String} {records : List Issue}

theorem mem_keysOf {k : FieldKey} : k ∈ keysOf field records ↔ ∃ x ∈ records, Field.key field x = k := by
  rw [keysOf, mem_distinct, List.mem_map]

theorem nodup_keysOf : (keysOf field records).Nodup :=
  nodup_distinct _

theorem mem_membersWith {k : FieldKey} {x : Issue} :
    x ∈ membersWith field records k ↔ x ∈ records ∧ Field.key field x = k := by
  rw [membersWith, List.mem_filter, beq_iff_eq]

theorem membersWith_ne_nil {k : FieldKey} (h : k ∈ keysOf field records) : membersWith field records k ≠ [] := by
  obtain ⟨x, hx, rfl⟩ := mem_keysOf.mp h
  exact List.ne_nil_of_mem (mem_membersWith.mpr ⟨hx, rfl⟩)

theorem flatMap_membersWith_perm :
    ((keysOf field records).flatMap (membersWith field records)).Perm records :=
  flatMap_filter_perm (Field.key field) nodup_keysOf fun x hx => mem_keysOf.mpr ⟨x, hx, rfl⟩

def branch (field : String) (fields : List String) (records : List Issue) (k : FieldKey) : Group where
  key := field
  value :=
    match membersWith field records k with
    | [] => .null
    | x :: _ => (Field.labelled x field).toValue
  records := membersWith field records k
  subgroups := groupBy fields (membersWith field records k)
  aggregations := none

theorem branch_value {k : FieldKey} (fields : List String) {x : Issue} {rest : List Issue}
    (h : membersWith field records k = x :: rest) :
    (branch field fields records k).value = (Field.labelled x field).toValue := by
  simp only [branch, h]

theorem exists_branch_value {k : FieldKey} (fields : List String) (h : k ∈ keysOf field records) :
    ∃ x ∈ records, Field.key field x = k ∧
      (branch field fields records k).value = (Field.labelled x field).toValue := by
  obtain ⟨x, rest, hm⟩ := List.exists_cons_of_ne_nil (membersWith_ne_nil h)
  obtain ⟨hx, hk⟩ := mem_membersWith.mp (hm ▸ List.mem_cons_self : x ∈ membersWith field records k)
  exact ⟨x, hx, hk, branch_value fields hm⟩

theorem ofValue?_branch {k : FieldKey} (fields : List String) (h : k ∈ keysOf field records) :
    FieldKey.ofValue? (branch field fields records k).value = some k := by
  obtain ⟨x, rest, hm⟩ := List.exists_cons_of_ne_nil (membersWith_ne_nil h)
  have hx : x ∈ membersWith field records k := hm ▸ List.mem_cons_self
  have hk : Field.key field x = k := (mem_membersWith.mp hx).2
  rw [branch_value fields hm, FieldKey.ofValue?_toValue]
  exact congrArg some hk

section Parts

variable {ks : List FieldKey} {v : FieldValue} {i : Issue} {m : FieldKey → List Issue}

def keyed (part : FieldValue × List Issue) : FieldKey × List Issue :=
  (part.1.key, part.2)

theorem keyed_addTo (hn : ks.Nodup) (hm : v.key ∉ ks → m v.key = []) {parts : List (FieldValue × List Issue)}
    (h : parts.map keyed = ks.map fun k => (k, m k)) :
    (addTo v i parts).map keyed =
      (if v.key ∈ ks then ks else ks ++ [v.key]).map fun k => (k, if k = v.key then m k ++ [i] else m k) := by
  induction ks generalizing parts with
  | nil =>
    obtain rfl := List.map_eq_nil_iff.mp h
    simp [addTo, keyed, hm]
  | cons k ks ih =>
    rw [List.nodup_cons] at hn
    obtain ⟨⟨w, members⟩, parts, rfl⟩ : ∃ part rest, parts = part :: rest :=
      List.exists_cons_of_ne_nil (by rintro rfl; cases h)
    obtain ⟨⟨rfl, rfl⟩, hrest⟩ : (w.key = k ∧ members = m k) ∧ parts.map keyed = ks.map fun k => (k, m k) := by
      simpa [keyed] using h
    by_cases hw : w.key = v.key
    · have hsame : ks.map (fun k => (k, if k = v.key then m k ++ [i] else m k)) = ks.map fun k => (k, m k) := by
        apply List.map_congr_left
        intro k hk
        rw [if_neg]
        rintro rfl
        exact hn.1 (hw ▸ hk)
      rw [if_pos (hw ▸ List.mem_cons_self), List.map_cons, hsame, ← hrest, addTo, if_pos (beq_iff_eq.mpr hw)]
      simp [keyed, hw]
    · have ih := ih hn.2 (fun hv => hm (by simpa [Ne.symm hw] using hv)) hrest
      rw [addTo, if_neg (by simpa using hw), List.map_cons, ih]
      by_cases hv : v.key ∈ ks <;> simp [keyed, hv, hw, Ne.symm hw]

theorem partition_concat (field : String) (records : List Issue) (i : Issue) :
    partition field (records ++ [i]) = addTo (Field.labelled i field) i (partition field records) := by
  rw [partition, List.foldl_concat]
  rfl

theorem keyed_partition (field : String) (records : List Issue) :
    (partition field records).map keyed = (keysOf field records).map fun k => (k, membersWith field records k) := by
  induction records using List.reverseRecOn with
  | nil => rfl
  | append_singleton records i ih =>
    have hm : Field.key field i ∉ keysOf field records → membersWith field records (Field.key field i) = [] := by
      intro hk
      refine List.filter_eq_nil_iff.mpr fun x hx hxk => hk ?_
      exact mem_keysOf.mpr ⟨x, hx, by simpa using hxk⟩
    have hkeys : keysOf field (records ++ [i]) = if Field.key field i ∈ keysOf field records then
        keysOf field records else keysOf field records ++ [Field.key field i] := by
      rw [keysOf, List.map_append, List.map_singleton, distinct_concat]
      simp [keysOf]
    rw [partition_concat, keyed_addTo nodup_keysOf hm ih, hkeys]
    apply List.map_congr_left
    intro k _
    have hmembers : membersWith field (records ++ [i]) k =
        if k = Field.key field i then membersWith field records k ++ [i] else membersWith field records k := by
      by_cases hk : k = Field.key field i
      · simp [membersWith, List.filter_append, hk]
      · simp [membersWith, List.filter_append, hk, Ne.symm hk]
    rw [hmembers]
    rfl

theorem members_of_mem_partition {part : FieldValue × List Issue} (h : part ∈ partition field records) :
    part.2 = membersWith field records part.1.key := by
  have hkeyed : keyed part ∈ (keysOf field records).map fun k => (k, membersWith field records k) :=
    keyed_partition field records ▸ List.mem_map_of_mem h
  obtain ⟨k, -, hk⟩ := List.mem_map.mp hkeyed
  obtain ⟨hkey, hmembers⟩ := Prod.mk.inj hk
  rw [← hmembers, hkey]

theorem forall_mem_addTo {P : FieldValue × List Issue → Prop} {parts : List (FieldValue × List Issue)}
    (hnew : P (v, [i])) (hold : ∀ w members, P (w, members) → P (w, members ++ [i]))
    (h : ∀ part ∈ parts, P part) : ∀ part ∈ addTo v i parts, P part := by
  induction parts with
  | nil => simpa [addTo] using hnew
  | cons first parts ih =>
    obtain ⟨hfirst, hparts⟩ := List.forall_mem_cons.mp h
    rw [addTo]
    split
    · exact List.forall_mem_cons.mpr ⟨hold _ _ hfirst, hparts⟩
    · exact List.forall_mem_cons.mpr ⟨hfirst, ih hparts⟩

def LedBy (value : Issue → FieldValue) (part : FieldValue × List Issue) : Prop :=
  ∃ x rest, part = (value x, x :: rest)

theorem LedBy.concat {value : Issue → FieldValue} {members : List Issue} (h : LedBy value (v, members)) (i : Issue) :
    LedBy value (v, members ++ [i]) := by
  obtain ⟨x, rest, h⟩ := h
  obtain ⟨rfl, rfl⟩ := Prod.mk.inj h
  exact ⟨x, rest ++ [i], rfl⟩

theorem ledBy_partition (field : String) (records : List Issue) :
    ∀ part ∈ partition field records, LedBy (Field.labelled · field) part := by
  induction records using List.reverseRecOn with
  | nil => exact fun _ h => by cases h
  | append_singleton records i ih =>
    rw [partition_concat]
    exact forall_mem_addTo ⟨i, [], rfl⟩ (fun _ _ h => h.concat i) ih

end Parts

theorem groupBy_cons (field : String) (fields : List String) (records : List Issue) :
    groupBy (field :: fields) records = (keysOf field records).map (branch field fields records) := by
  have hkeys : keysOf field records = (partition field records).map fun part => part.1.key := by
    have h := congrArg (List.map Prod.fst) (keyed_partition field records)
    simpa [Function.comp_def, keyed] using h.symm
  rw [groupBy, hkeys, List.map_map]
  apply List.map_congr_left
  rintro ⟨v, members⟩ hpart
  have hmembers : members = membersWith field records v.key := members_of_mem_partition hpart
  obtain ⟨x, rest, hpart⟩ := ledBy_partition field records _ hpart
  obtain ⟨hv, hx⟩ := Prod.mk.inj hpart
  have hbranch := branch_value fields (hmembers.symm.trans hx)
  simp only [Function.comp_apply]
  rw [branch, Group.mk.injEq]
  exact ⟨rfl, (congrArg FieldValue.toValue hv).trans hbranch.symm, hmembers, by rw [hmembers], rfl⟩

end Group

end IssueQuery
