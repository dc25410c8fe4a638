import IssueQuery.Analysis.Distinct
import Mathlib.Data.List.Nodup

namespace IssueQuery

theorem distinct_of_nodup {α : Type} [DecidableEq α] {xs : List α} (h : xs.Nodup) : distinct xs = xs := by
  induction xs with
  | nil => rfl
  | cons x xs ih =>
    rw [List.nodup_cons] at h
    have hne : ∀ y ∈ xs, (y != x) = true := by
      rintro y hy
      rw [bne_iff_ne]
      rintro rfl
      exact h.1 hy
    rw [distinct, ih h.2, List.filter_eq_self.mpr hne]

namespace OrderedMap

variable {α : Type} {m n : OrderedMap α} {key : String}

section Lookup

theorem get?_append (m n : OrderedMap α) (key : String) : get? (m ++ n) key = (get? m key).or (get? n key) := by
  simp only [get?, List.find?_append, Option.map_or]

theorem get?_eq_some_iff (h : m.keys.Nodup) {value : α} : m.get? key = some value ↔ (key, value) ∈ m := by
  induction m with
  | nil => simp [get?]
  | cons e m ih =>
    rw [keys_cons, List.nodup_cons] at h
    rw [get?_cons, List.mem_cons]
    by_cases he : e.1 = key
    · have hnone : (key, value) ∉ m := fun hmem => h.1 (he ▸ List.mem_map_of_mem hmem)
      simp [he, hnone, Prod.ext_iff, eq_comm]
    · simp [he, ih h.2, Prod.ext_iff, Ne.symm he]

theorem get?_reverse (h : m.keys.Nodup) (key : String) : get? m.reverse key = m.get? key := by
  have hreverse : (keys m.reverse).Nodup := by
    rw [keys, List.map_reverse, List.nodup_reverse]
    exact h
  apply Option.ext
  intro value
  rw [get?_eq_some_iff hreverse, get?_eq_some_iff h, List.mem_reverse]

theorem get?_reverse_eq_some_iff {value : α} : get? m.reverse key = some value ↔
    ∃ before after, m = before ++ (key, value) :: after ∧ key ∉ keys after := by
  constructor
  · induction m with
    | nil => simp [get?]
    | cons e m ih =>
      rw [List.reverse_cons, get?_append]
      intro h
      cases hm : get? m.reverse key with
      | some v =>
        rw [hm, Option.some_or] at h
        obtain ⟨before, after, rfl, hafter⟩ := ih (hm.trans h)
        exact ⟨e :: before, after, rfl, hafter⟩
      | none =>
        rw [hm, Option.none_or, get?_cons] at h
        by_cases he : e.1 = key
        · have hkeys : key ∉ keys m := by
            have hreverse := get?_eq_none_iff.mp hm
            rwa [keys, List.map_reverse, List.mem_reverse] at hreverse
          rw [if_pos (beq_iff_eq.mpr he)] at h
          obtain rfl := Option.some.inj h
          exact ⟨[], m, by rw [← he]; rfl, hkeys⟩
        · rw [if_neg (by simpa using he)] at h
          cases h
  · rintro ⟨before, after, rfl, hafter⟩
    have hnone : get? after.reverse key = none := by
      rw [get?_eq_none_iff, keys, List.map_reverse, List.mem_reverse]
      exact hafter
    rw [List.reverse_append, List.reverse_cons, List.append_assoc, get?_append, hnone, Option.none_or,
      List.singleton_append, get?_cons, if_pos (beq_self_eq_true key)]

theorem ext_of_nodup (hm : m.keys.Nodup) (hkeys : m.keys = n.keys) (h : ∀ key, m.get? key = n.get? key) : m = n := by
  induction m generalizing n with
  | nil => exact (List.map_eq_nil_iff.mp hkeys.symm).symm
  | cons e m ih =>
    cases n with
    | nil => cases hkeys
    | cons f n =>
      obtain ⟨hkey, hrest⟩ := List.cons.inj hkeys
      rw [keys_cons, List.nodup_cons] at hm
      have hvalue := h e.1
      rw [get?_cons, get?_cons, if_pos (beq_self_eq_true e.1), if_pos (beq_iff_eq.mpr hkey.symm)] at hvalue
      have hentry : e = f := Prod.ext hkey (Option.some.inj hvalue)
      -- Below the first entry its key is in neither map.
      refine List.cons_eq_cons.mpr ⟨hentry, ih hm.2 hrest fun key => ?_⟩
      by_cases he : e.1 = key
      · have hnot : key ∉ keys m := he ▸ hm.1
        have hnot' : key ∉ keys n := by rwa [show keys n = keys m from hrest.symm]
        rw [get?_eq_none_iff.mpr hnot, get?_eq_none_iff.mpr hnot']
      · have hlater := h key
        rwa [get?_cons, get?_cons, ← hentry, if_neg (by simpa using he), if_neg (by simpa using he)] at hlater

end Lookup

section Merge

theorem put_put (m : OrderedMap α) (key : String) (v w : α) : (m.put key v).put key w = m.put key w := by
  induction m with
  | nil => simp [put]
  | cons e m ih => by_cases h : e.1 = key <;> simp [put, h, ih]

theorem keys_merge (m n : OrderedMap α) :
    (m.merge n).keys = m.keys ++ (distinct (keys n)).filter fun key => !decide (key ∈ m.keys) := by
  induction n generalizing m with
  | nil => simp [merge, keys, distinct]
  | cons e n ih =>
    have hstep : m.merge (e :: n) = (m.put e.1 e.2).merge n := rfl
    rw [hstep, ih, keys_put, keys_cons, distinct]
    -- What follows the entry is cut down by its key, which was there before or is there now.
    by_cases he : e.1 ∈ m.keys
    · have hcut : ∀ x ∈ distinct (keys n), (!decide (x ∈ m.keys)) = (!decide (x ∈ m.keys) && x != e.1) := by
        intro x _
        by_cases hx : x = e.1 <;> simp [hx, he]
      rw [if_pos he, List.filter_cons_of_neg (by simpa using he), List.filter_filter]
      exact congrArg _ (List.filter_congr hcut)
    · have hcut : ∀ x ∈ distinct (keys n),
          (!decide (x ∈ m.keys ++ [e.1])) = (!decide (x ∈ m.keys) && x != e.1) := by
        intro x _
        by_cases hx : x = e.1 <;> simp [hx]
      rw [if_neg he, List.filter_cons_of_pos (by simpa using he), List.filter_filter, List.append_assoc]
      exact congrArg _ (congrArg (e.1 :: ·) (List.filter_congr hcut))

theorem keys_ofList (entries : List (String × α)) : (ofList entries).keys = distinct (keys entries) := by
  rw [ofList, keys_merge]
  simp [keys]

theorem get?_merge (m n : OrderedMap α) (key : String) :
    (m.merge n).get? key = (get? n.reverse key).or (m.get? key) := by
  induction n generalizing m with
  | nil => rfl
  | cons e n ih =>
    have hstep : m.merge (e :: n) = (m.put e.1 e.2).merge n := rfl
    have hput : (m.put e.1 e.2).get? key = (get? [e] key).or (m.get? key) := by
      by_cases he : e.1 = key
      · rw [← he, get?_put_self, get?_cons, if_pos (beq_self_eq_true e.1), Option.some_or]
      · rw [get?_put_of_ne _ _ (Ne.symm he), get?_cons, if_neg (by simpa using he)]
        rfl
    rw [hstep, ih, hput, List.reverse_cons, get?_append, Option.or_assoc]

theorem get?_merge_of_nodup (m : OrderedMap α) (hn : n.keys.Nodup) (key : String) :
    (m.merge n).get? key = (n.get? key).or (m.get? key) := by
  rw [get?_merge, get?_reverse hn]

theorem merge_assoc (hm : m.keys.Nodup) (hn : n.keys.Nodup) (k : OrderedMap α) :
    (m.merge n).merge k = m.merge (n.merge k) := by
  apply ext_of_nodup (nodup_keys_merge k (nodup_keys_merge n hm))
  · have hlater := nodup_keys_merge k hn
    rw [keys_merge, keys_merge m n, keys_merge m (n.merge k), distinct_of_nodup hn, distinct_of_nodup hlater,
      keys_merge n k, List.filter_append, List.filter_filter, List.append_assoc]
    refine congrArg _ (congrArg _ (List.filter_congr fun key _ => ?_))
    by_cases hmem : key ∈ m.keys <;> simp [hmem]
  · intro key
    rw [get?_merge, get?_merge_of_nodup m hn, get?_merge_of_nodup m (nodup_keys_merge k hn), get?_merge, Option.or_assoc]

theorem merge_ofList (hm : m.keys.Nodup) (entries : List (String × α)) :
    m.merge (ofList entries) = m.merge entries := by
  have hnil : (keys ([] : OrderedMap α)).Nodup := List.nodup_nil
  exact (merge_assoc hm hnil entries).symm

theorem merge_self (hm : m.keys.Nodup) : m.merge m = m := by
  apply ext_of_nodup (nodup_keys_merge m hm)
  · have hnone : ∀ key ∈ m.keys, ¬(!decide (key ∈ m.keys)) = true := by
      intro key hkey
      simp [hkey]
    rw [keys_merge, distinct_of_nodup hm, List.filter_eq_nil_iff.mpr hnone, List.append_nil]
  · intro key
    rw [get?_merge_of_nodup m hm, Option.or_self]

end Merge

end OrderedMap

end IssueQuery
