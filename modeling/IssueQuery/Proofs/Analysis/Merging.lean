import IssueQuery.Analysis.Pipeline
import IssueQuery.Proofs.OrderedMap

namespace IssueQuery.Processed

section Lists

variable {α : Type}

@[simp] theorem nil_laterList (incoming : List α) : laterList [] incoming = incoming := by
  cases incoming <;> rfl

theorem laterList_assoc (xs ys zs : List α) : laterList (laterList xs ys) zs = laterList xs (laterList ys zs) := by
  cases zs with
  | nil => rfl
  | cons z zs => rfl

theorem laterList_self (xs : List α) : laterList xs xs = xs := by
  cases xs <;> rfl

theorem laterList_cases (current incoming : List α) :
    incoming ≠ [] ∧ laterList current incoming = incoming ∨ incoming = [] ∧ laterList current incoming = current := by
  cases incoming with
  | nil => exact .inr ⟨rfl, rfl⟩
  | cons x xs => exact .inl ⟨List.cons_ne_nil x xs, rfl⟩

end Lists

def maps : List (Processed → OrderedMap Value) :=
  [calculations, aggregations, metadata]

/-- No key stands twice in a map of the result. -/
def IsKeyed (r : Processed) : Prop :=
  ∀ f ∈ maps, (f r).keys.Nodup

instance (r : Processed) : Decidable r.IsKeyed :=
  inferInstanceAs (Decidable (∀ f ∈ maps, (f r).keys.Nodup))

variable {a b : Processed} {f : Processed → OrderedMap Value}

theorem eq_of_parts (hrecords : a.records = b.records) (hgroups : a.groups = b.groups) (hmaps : ∀ f ∈ maps, f a = f b) :
    a = b := by
  simp only [maps, List.forall_mem_cons] at hmaps
  obtain ⟨hcalculations, haggregations, hmetadata, -⟩ := hmaps
  cases a
  cases b
  simp only at *
  subst hrecords hgroups hcalculations haggregations hmetadata
  rfl

theorem map_merge (hf : f ∈ maps) (a b : Processed) : f (a.merge b) = (f a).merge (f b) := by
  simp only [maps, List.mem_cons, List.not_mem_nil, or_false] at hf
  rcases hf with rfl | rfl | rfl <;> rfl

theorem map_empty (hf : f ∈ maps) : f empty = [] := by
  simp only [maps, List.mem_cons, List.not_mem_nil, or_false] at hf
  rcases hf with rfl | rfl | rfl <;> rfl

theorem isKeyed_empty : empty.IsKeyed := by
  intro f hf
  rw [map_empty hf]
  exact List.nodup_nil

theorem IsKeyed.merge (h : a.IsKeyed) (b : Processed) : (a.merge b).IsKeyed := by
  intro f hf
  rw [map_merge hf]
  exact OrderedMap.nodup_keys_merge _ (h f hf)

theorem merge_assoc (ha : a.IsKeyed) (hb : b.IsKeyed) (c : Processed) : (a.merge b).merge c = a.merge (b.merge c) := by
  apply eq_of_parts (laterList_assoc _ _ _) (laterList_assoc _ _ _)
  intro f hf
  simp only [map_merge hf]
  exact OrderedMap.merge_assoc (ha f hf) (hb f hf) _

theorem empty_merge (ha : a.IsKeyed) : empty.merge a = a := by
  apply eq_of_parts (nil_laterList _) (nil_laterList _)
  intro f hf
  rw [map_merge hf, map_empty hf, OrderedMap.nil_merge (ha f hf)]

theorem merge_empty (a : Processed) : a.merge empty = a := by
  apply eq_of_parts rfl rfl
  intro f hf
  rw [map_merge hf, map_empty hf]

theorem merge_self (ha : a.IsKeyed) : a.merge a = a := by
  apply eq_of_parts (laterList_self _) (laterList_self _)
  intro f hf
  rw [map_merge hf, OrderedMap.merge_self (ha f hf)]

/-- Results are a monoid under merging, in which merging a result with itself changes nothing. Every key of either
result is kept, the new ones after the others, with the value of the later one, and a list is lost to no empty one. -/
theorem merge_laws (ha : a.IsKeyed) (hb : b.IsKeyed) (c : Processed) :
    (empty.IsKeyed ∧ (a.merge b).IsKeyed) ∧
    (a.merge b).merge c = a.merge (b.merge c) ∧
    (empty.merge a = a ∧ a.merge empty = a) ∧
    a.merge a = a ∧
    (∀ f ∈ maps,
      (f (a.merge b)).keys = (f a).keys ++ (f b).keys.filter (fun key => !decide (key ∈ (f a).keys)) ∧
      ∀ key, (f (a.merge b)).get? key = ((f b).get? key).or ((f a).get? key)) ∧
    (b.records ≠ [] ∧ (a.merge b).records = b.records ∨ b.records = [] ∧ (a.merge b).records = a.records) ∧
    (b.groups ≠ [] ∧ (a.merge b).groups = b.groups ∨ b.groups = [] ∧ (a.merge b).groups = a.groups) := by
  refine ⟨⟨isKeyed_empty, ha.merge b⟩, merge_assoc ha hb c, ⟨empty_merge ha, merge_empty a⟩, merge_self ha, ?_,
    laterList_cases _ _, laterList_cases _ _⟩
  intro f hf
  rw [map_merge hf, OrderedMap.keys_merge, distinct_of_nodup (hb f hf)]
  exact ⟨rfl, fun key => OrderedMap.get?_merge_of_nodup _ (hb f hf) key⟩

theorem merge_laws_overlapping :
    let grouped : Processed := { empty with
      groups := [⟨"status", .text "Open", [], [], none⟩]
      metadata := [("grouped_by", .null), ("group_count", .int 1)] }
    let counted : Processed := { empty with
      aggregations := [("count", .int 2)]
      metadata := [("group_count", .int 3), ("aggregation_count", .int 1)] }
    let named : Processed := { empty with metadata := [("processors", .list []), ("grouped_by", .int 4)] }
    grouped.IsKeyed ∧ counted.IsKeyed ∧
      (grouped.merge counted).merge named = grouped.merge (counted.merge named) ∧
      (grouped.merge counted).metadata.keys = ["grouped_by", "group_count", "aggregation_count"] ∧
      (grouped.merge counted).metadata.get? "group_count" = some (.int 3) ∧
      (grouped.merge counted).groups = grouped.groups := by
  intro grouped counted named
  have hgrouped : grouped.IsKeyed := by decide
  have hcounted : counted.IsKeyed := by decide
  obtain ⟨-, hassoc, -, -, hmaps, -, hgroups⟩ := merge_laws hgrouped hcounted named
  have hmetadata := hmaps metadata (by simp [maps])
  exact ⟨hgrouped, hcounted, hassoc, hmetadata.1.trans (by decide), hmetadata.2 "group_count",
    (hgroups.resolve_left (fun h => h.1 rfl)).2⟩

end IssueQuery.Processed
