import IssueQuery.OrderedMap

namespace IssueQuery

variable {α : Type} [DecidableEq α]

def distinct : List α → List α
  | [] => []
  | x :: xs => x :: (distinct xs).filter (· != x)

@[simp] theorem mem_distinct {x : α} {xs : List α} : x ∈ distinct xs ↔ x ∈ xs := by
  induction xs with
  | nil => rfl
  | cons y xs ih => by_cases h : x = y <;> simp [distinct, ih, h]

theorem nodup_distinct (xs : List α) : (distinct xs).Nodup := by
  induction xs with
  | nil => exact List.nodup_nil
  | cons y xs ih =>
    rw [distinct, List.nodup_cons]
    exact ⟨by simp, ih.filter _⟩

def counts (xs : List String) : OrderedMap Nat :=
  (distinct xs).map fun x => (x, xs.count x)

theorem keys_counts (xs : List String) : (counts xs).keys = distinct xs := by
  simp [counts, OrderedMap.keys, Function.comp_def]

end IssueQuery
