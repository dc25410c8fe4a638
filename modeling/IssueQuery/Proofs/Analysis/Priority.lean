import IssueQuery.Analysis.Pipeline
import Mathlib.Data.List.Basic
import Mathlib.Data.Prod.Lex
import Mathlib.Data.Rat.Defs
import Mathlib.Algebra.Order.Ring.Unbundled.Rat

namespace IssueQuery

section Stable

variable {α κ : Type} [LinearOrder κ] (key : α → κ)

theorem mergeSort_congr {r s : α → α → Bool} {xs : List α} (h : ∀ a ∈ xs, ∀ b ∈ xs, r a b = s a b) :
    xs.mergeSort r = xs.mergeSort s := by
  have hmap := List.map_mergeSort (f := id) h
  rwa [List.map_id, List.map_id] at hmap

theorem key_trans (a b c : α) (hab : decide (key a ≤ key b) = true) (hbc : decide (key b ≤ key c) = true) :
    decide (key a ≤ key c) = true := by
  rw [decide_eq_true_eq] at *
  exact hab.trans hbc

theorem key_total (a b : α) : (decide (key a ≤ key b) || decide (key b ≤ key a)) = true := by
  rw [Bool.or_eq_true, decide_eq_true_eq, decide_eq_true_eq]
  exact le_total (key a) (key b)

theorem pairwise_mergeSort_key (xs : List α) :
    (xs.mergeSort fun a b => decide (key a ≤ key b)).Pairwise (key · ≤ key ·) :=
  (List.pairwise_mergeSort (key_trans key) (key_total key) xs).imp of_decide_eq_true

theorem filter_mergeSort (xs : List α) (k : κ) :
    (xs.mergeSort fun a b => decide (key a ≤ key b)).filter (key · = k) = xs.filter (key · = k) := by
  have hpairs : (xs.filter (key · = k)).Pairwise fun a b => decide (key a ≤ key b) = true := by
    rw [List.pairwise_filter]
    apply List.pairwise_of_forall
    intro a b ha hb
    rw [decide_eq_true_eq] at *
    rw [ha, hb]
  have hsub := (List.sublist_mergeSort (key_trans key) (key_total key) hpairs List.filter_sublist).filter (key · = k)
  rw [List.filter_filter] at hsub
  simp only [Bool.and_self] at hsub
  have hperm := (List.mergeSort_perm xs fun a b => decide (key a ≤ key b)).filter (key · = k)
  exact (hsub.eq_of_length hperm.length_eq.symm).symm

theorem pairwise_mergeSort_lex {R : α → α → Prop} {xs : List α} (h : xs.Pairwise R) :
    (xs.mergeSort fun a b => decide (key a ≤ key b)).Pairwise
      fun a b => key a < key b ∨ key a = key b ∧ R a b := by
  rw [List.pairwise_iff_forall_sublist] at h ⊢
  intro a b hsub
  rcases (List.pairwise_iff_forall_sublist.mp (pairwise_mergeSort_key key xs) hsub).lt_or_eq with hlt | heq
  · exact .inl hlt
  · -- The sort is stable: elements of one key stand as they stood.
    have hfilter := hsub.filter (key · = key a)
    rw [filter_mergeSort, List.filter_cons_of_pos (by simp), List.filter_cons_of_pos (by simp [heq]),
      List.filter_nil] at hfilter
    exact .inr ⟨heq, h (hfilter.trans List.filter_sublist)⟩

theorem eq_of_filter_eq {xs ys : List α} (hx : xs.Pairwise (key · ≤ key ·)) (hy : ys.Pairwise (key · ≤ key ·))
    (h : ∀ k, xs.filter (key · = k) = ys.filter (key · = k)) : xs = ys := by
  have mem {us vs : List α} (h : ∀ k, us.filter (key · = k) = vs.filter (key · = k)) {a : α} (ha : a ∈ us) :
      a ∈ vs := by
    have hin : a ∈ us.filter (key · = key a) := List.mem_filter.mpr ⟨ha, by simp⟩
    rw [h] at hin
    exact (List.mem_filter.mp hin).1
  induction xs generalizing ys with
  | nil =>
    cases ys with
    | nil => rfl
    | cons b ys => exact absurd (mem (fun k => (h k).symm) List.mem_cons_self) List.not_mem_nil
  | cons a xs ih =>
    cases ys with
    | nil => exact absurd (mem h List.mem_cons_self) List.not_mem_nil
    | cons b ys =>
      rw [List.pairwise_cons] at hx hy
      have hab : key a ≤ key b := by
        rcases List.mem_cons.mp (mem (fun k => (h k).symm) (List.mem_cons_self (a := b))) with heq | hin
        · exact le_of_eq (congrArg key heq.symm)
        · exact hx.1 b hin
      have hba : key b ≤ key a := by
        rcases List.mem_cons.mp (mem h (List.mem_cons_self (a := a))) with heq | hin
        · exact le_of_eq (congrArg key heq.symm)
        · exact hy.1 a hin
      have hkey : key b = key a := le_antisymm hba hab
      have hhead := h (key a)
      simp only [List.filter_cons, hkey, decide_true, if_true] at hhead
      obtain ⟨rfl, -⟩ := List.cons.inj hhead
      have htail : xs = ys := by
        apply ih hx.2 hy.2
        intro k
        have hk := h k
        simp only [List.filter_cons] at hk
        split at hk
        · exact (List.cons.inj hk).2
        · exact hk
      rw [htail]

end Stable

namespace Number.Quantity

def rank (q : Quantity) : Int ×ₗ Rat :=
  toLex q.place

theorem less_eq_false_iff {a b : Quantity} (ha : a.isNaN = false) (hb : b.isNaN = false) :
    b.less a = false ↔ a.rank ≤ b.rank := by
  have hlt : b.less a = true ↔ b.rank < a.rank := by
    simp [less, ha, hb, rank, Prod.Lex.toLex_lt_toLex]
  rw [← Bool.not_eq_true, hlt, not_lt]

theorem equal_eq {a b : Quantity} (ha : a.isNaN = false) (hb : b.isNaN = false) :
    a.equal b = decide (a.rank = b.rank) := by
  rw [Bool.eq_iff_iff]
  simp [equal, ha, hb, rank]

end Number.Quantity

namespace Stage

/-- All priorities are numbers, as integers are. -/
def Ranked (stages : List Stage) : Prop :=
  ∀ s ∈ stages, s.priority.isNaN = false

/-- The stages by ascending priority, those of one priority as they were registered. -/
structure InPriorityOrder (stages ordered : List Stage) : Prop where
  perm : ordered.Perm stages
  ascending : ordered.Pairwise fun a b => b.priority.less a.priority = false
  stable : ∀ p : Number.Quantity, ordered.filter (·.priority.equal p) = stages.filter (·.priority.equal p)

def rank (s : Stage) : Int ×ₗ Rat :=
  s.priority.rank

variable {stages ordered : List Stage}

theorem inOrder_eq (h : Ranked stages) : inOrder stages = stages.mergeSort fun a b => decide (a.rank ≤ b.rank) := by
  apply mergeSort_congr
  intro a ha b hb
  rw [Bool.eq_iff_iff, Bool.not_eq_true', decide_eq_true_eq]
  exact Number.Quantity.less_eq_false_iff (h a ha) (h b hb)

theorem inOrder_perm (stages : List Stage) : (inOrder stages).Perm stages :=
  List.mergeSort_perm _ _

theorem inOrder_ascending (h : Ranked stages) : (inOrder stages).Pairwise (rank · ≤ rank ·) := by
  rw [inOrder_eq h]
  exact pairwise_mergeSort_key rank stages

theorem filter_equal (h : Ranked stages) {p : Number.Quantity} (hp : p.isNaN = false) :
    stages.filter (·.priority.equal p) = stages.filter (rank · = p.rank) := by
  apply List.filter_congr
  intro s hs
  exact Number.Quantity.equal_eq (h s hs) hp

theorem filter_equal_of_isNaN {p : Number.Quantity} (hp : p.isNaN = true) (stages : List Stage) :
    stages.filter (·.priority.equal p) = [] := by
  rw [List.filter_eq_nil_iff]
  intro s _
  simp [Number.Quantity.equal, hp]

theorem ascending_iff (h : Ranked ordered) :
    (ordered.Pairwise fun a b => b.priority.less a.priority = false) ↔ ordered.Pairwise (rank · ≤ rank ·) := by
  apply List.Pairwise.iff_of_mem
  intro a b ha hb
  exact Number.Quantity.less_eq_false_iff (h a ha) (h b hb)

theorem inPriorityOrder_inOrder (h : Ranked stages) : InPriorityOrder stages (inOrder stages) := by
  have hranked : Ranked (inOrder stages) := fun s hs => h s ((inOrder_perm stages).mem_iff.mp hs)
  refine ⟨inOrder_perm stages, (ascending_iff hranked).mpr (inOrder_ascending h), ?_⟩
  intro p
  cases hp : p.isNaN with
  | true => rw [filter_equal_of_isNaN hp, filter_equal_of_isNaN hp]
  | false =>
    rw [filter_equal hranked hp, filter_equal h hp, inOrder_eq h]
    exact filter_mergeSort rank stages p.rank

theorem filter_rank_eq (h : Ranked stages) (hp : ordered.Perm stages)
    (hs : ∀ p : Number.Quantity, ordered.filter (·.priority.equal p) = stages.filter (·.priority.equal p))
    (k : Int ×ₗ Rat) : ordered.filter (rank · = k) = stages.filter (rank · = k) := by
  have hranked : Ranked ordered := fun s hs => h s (hp.mem_iff.mp hs)
  -- Of a rank that is the rank of no priority `hs` says nothing, but no stage has it.
  by_cases hk : ∃ s ∈ stages, s.rank = k
  · obtain ⟨s, hmem, rfl⟩ := hk
    have hstable := hs s.priority
    rwa [filter_equal hranked (h s hmem), filter_equal h (h s hmem)] at hstable
  · have hnone : ∀ s ∈ stages, ¬decide (s.rank = k) = true := by
      intro s hmem hrank
      exact hk ⟨s, hmem, of_decide_eq_true hrank⟩
    rw [List.filter_eq_nil_iff.mpr hnone, List.filter_eq_nil_iff.mpr fun s hmem => hnone s (hp.mem_iff.mp hmem)]

theorem inPriorityOrder_iff (h : Ranked stages) : InPriorityOrder stages ordered ↔ ordered = inOrder stages := by
  constructor
  · intro ho
    have hranked : Ranked ordered := fun s hs => h s (ho.perm.mem_iff.mp hs)
    have hin := inPriorityOrder_inOrder h
    apply eq_of_filter_eq rank ((ascending_iff hranked).mp ho.ascending) (inOrder_ascending h)
    intro k
    rw [filter_rank_eq h ho.perm ho.stable, filter_rank_eq h hin.perm hin.stable]
  · rintro rfl
    exact inPriorityOrder_inOrder h

theorem inOrder_of_perm {others : List Stage} (h : Ranked stages) (hp : others.Perm stages)
    (hs : ∀ p : Number.Quantity, others.filter (·.priority.equal p) = stages.filter (·.priority.equal p)) :
    inOrder others = inOrder stages := by
  have hranked : Ranked others := fun s hs => h s (hp.mem_iff.mp hs)
  have ho := inPriorityOrder_inOrder hranked
  rw [← inPriorityOrder_iff h]
  exact ⟨ho.perm.trans hp, ho.ascending, fun p => (ho.stable p).trans (hs p)⟩

end Stage

end IssueQuery
