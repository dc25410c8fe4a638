
namespace IssueQuery

abbrev OrderedMap (α : Type) := List (String × α)

namespace OrderedMap

variable {α : Type}

def get? (m : OrderedMap α) (key : String) : Option α :=
  (m.find? (·.1 == key)).map (·.2)

def keys (m : OrderedMap α) : List String :=
  m.map (·.1)

/-- A present key keeps its place and takes the new value; a new key goes to the end. -/
def put (m : OrderedMap α) (key : String) (value : α) : OrderedMap α :=
  match m with
  | [] => [(key, value)]
  | (k, v) :: rest => if k == key then (k, value) :: rest else (k, v) :: put rest key value

@[simp] theorem keys_cons (e : String × α) (m : OrderedMap α) : keys (e :: m) = e.1 :: keys m := rfl

theorem get?_cons (e : String × α) (m : OrderedMap α) (key : String) :
    get? (e :: m) key = if e.1 == key then some e.2 else get? m key := by
  unfold get?
  rw [List.find?_cons]
  split <;> simp_all

theorem get?_eq_none_iff {m : OrderedMap α} {key : String} : m.get? key = none ↔ key ∉ m.keys := by
  induction m with
  | nil => simp [get?, keys]
  | cons e m ih =>
    rw [get?_cons, keys_cons]
    by_cases h : e.1 = key
    · simp [h]
    · simp [h, ih, Ne.symm h]

theorem get?_put_self (m : OrderedMap α) (key : String) (value : α) :
    (m.put key value).get? key = some value := by
  induction m with
  | nil => simp [put, get?_cons]
  | cons e m ih =>
    by_cases h : e.1 = key
    · simp [put, h, get?_cons]
    · simp [put, h, get?_cons, ih]

theorem get?_put_of_ne (m : OrderedMap α) {key other : String} (value : α) (h : other ≠ key) :
    (m.put key value).get? other = m.get? other := by
  induction m with
  | nil => simp [put, get?_cons, Ne.symm h]
  | cons e m ih =>
    by_cases he : e.1 = key
    · simp [put, he, get?_cons, Ne.symm h]
    · simp [put, he, get?_cons, ih]

theorem keys_put (m : OrderedMap α) (key : String) (value : α) :
    (m.put key value).keys = if key ∈ m.keys then m.keys else m.keys ++ [key] := by
  induction m with
  | nil => simp [put, keys]
  | cons e m ih =>
    by_cases h : e.1 = key
    · simp [put, h]
    · by_cases hm : key ∈ keys m <;> simp [put, h, ih, hm, Ne.symm h]

theorem nodup_keys_put {m : OrderedMap α} (key : String) (value : α) (h : m.keys.Nodup) :
    (m.put key value).keys.Nodup := by
  rw [keys_put]
  split
  · exact h
  · rename_i hk
    simp only [List.nodup_append, List.mem_singleton, List.nodup_cons, List.not_mem_nil,
      not_false_eq_true, List.nodup_nil, and_self, true_and, h]
    intro a ha b hb hab
    exact hk (hb ▸ hab ▸ ha)

theorem put_of_not_mem {m : OrderedMap α} {key : String} (value : α) (h : key ∉ m.keys) :
    m.put key value = m ++ [(key, value)] := by
  induction m with
  | nil => rfl
  | cons e m ih =>
    rw [keys_cons, List.mem_cons, not_or] at h
    have hne : (e.1 == key) = false := beq_eq_false_iff_ne.mpr (Ne.symm h.1)
    simp [put, hne, ih h.2]

def merge (m n : OrderedMap α) : OrderedMap α :=
  n.foldl (fun acc (k, v) => acc.put k v) m

def ofList (entries : List (String × α)) : OrderedMap α :=
  merge [] entries

theorem merge_of_nodup {m n : OrderedMap α} (h : (keys (m ++ n)).Nodup) : m.merge n = m ++ n := by
  induction n generalizing m with
  | nil => exact (List.append_nil m).symm
  | cons e n ih =>
    have hkeys : keys (m ++ e :: n) = m.keys ++ e.1 :: keys n := by simp [keys]
    have hnew : e.1 ∉ m.keys := by
      rw [hkeys, List.nodup_append] at h
      intro hmem
      exact h.2.2 e.1 hmem e.1 List.mem_cons_self rfl
    have hrest : (keys ((m ++ [e]) ++ n)).Nodup := by simpa using h
    have hput : m.put e.1 e.2 = m ++ [e] := put_of_not_mem e.2 hnew
    have hmerge : m.merge (e :: n) = (m.put e.1 e.2).merge n := rfl
    rw [hmerge, hput, ih hrest, List.append_assoc]
    rfl

theorem nil_merge {m : OrderedMap α} (h : m.keys.Nodup) : merge [] m = m :=
  merge_of_nodup h

theorem nodup_keys_merge {m : OrderedMap α} (n : OrderedMap α) (h : m.keys.Nodup) :
    (m.merge n).keys.Nodup := by
  induction n generalizing m with
  | nil => exact h
  | cons e n ih => exact ih (nodup_keys_put e.1 e.2 h)

theorem nodup_keys_ofList (entries : List (String × α)) : (ofList entries).keys.Nodup :=
  nodup_keys_merge entries List.nodup_nil

end OrderedMap

end IssueQuery
