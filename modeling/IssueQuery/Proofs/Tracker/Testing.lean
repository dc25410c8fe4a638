import IssueQuery.Proofs.Number.Reading
import IssueQuery.Proofs.Tracker.Conditions

namespace IssueQuery

open Text
open Calendar (Timestamp daysBefore microsPerDay)

namespace Condition

def holds (now : Timestamp) : Condition → Issue → Bool
  | .mine, x => x.assignee.any (·.accountId == currentAccount)
  | .unassigned, x => x.assignee.isNone
  | .assignedTo name, x => isAssignedTo name x
  | .equals f v, x => (f.values x).contains (lower v)
  | .oneOf f vs, x => (f.values x).any fun v => (vs.map lower).contains v
  | .within f digits, x => now.utcWall - Number.asciiValue digits * microsPerDay ≤ (f.time x).utcWall
  | .mentions s, x => contains (searchedText x) (lower s)

def Decides (now : Timestamp) (issues : List Issue) (c : Condition) : Prop :=
  ∃ test, c.test now = .ok test ∧ ∀ x ∈ issues, test x = .ok (c.holds now x)

theorem select_eq_filter {α : Type} {test : α → Outcome Bool} {holds : α → Bool} {xs : List α}
    (h : ∀ x ∈ xs, test x = .ok (holds x)) : select test xs = .ok (xs.filter holds) := by
  induction xs with
  | nil => rfl
  | cons x xs ih =>
    have hx := h x (by simp)
    have ih := ih fun y hy => h y (List.mem_cons_of_mem x hy)
    rw [select, hx, ih]
    cases hb : holds x <;> simp [hb] <;> rfl

theorem Decides.keep {now : Timestamp} {issues : List Issue} {c : Condition} (h : c.Decides now issues) :
    keep now issues c = .ok (issues.filter (c.holds now)) := by
  obtain ⟨test, ht, hx⟩ := h
  rw [Condition.keep, ht]
  exact select_eq_filter hx

theorem Decides.filter {now : Timestamp} {issues : List Issue} {c : Condition} (h : c.Decides now issues)
    (p : Issue → Bool) : c.Decides now (issues.filter p) := by
  obtain ⟨test, ht, hx⟩ := h
  exact ⟨test, ht, fun x hm => hx x (List.mem_filter.mp hm).1⟩

theorem keepAll_eq_filter {now : Timestamp} {cs : List Condition} {issues : List Issue}
    (h : ∀ c ∈ cs, c.Decides now issues) :
    keepAll now cs issues = .ok (issues.filter fun x => cs.all (·.holds now x)) := by
  induction cs generalizing issues with
  | nil =>
    have ht : issues.filter (fun x => ([] : List Condition).all (·.holds now x)) = issues := by simp
    rw [ht]
    rfl
  | cons c cs ih =>
    obtain ⟨hc, hcs⟩ := List.forall_mem_cons.mp h
    have hrest : ∀ d ∈ cs, d.Decides now (issues.filter (c.holds now)) := fun d hd => (hcs d hd).filter _
    have hboth : issues.filter (fun x => (c :: cs).all (·.holds now x)) =
        (issues.filter (c.holds now)).filter fun x => cs.all (·.holds now x) := by
      rw [List.filter_filter]
      exact List.filter_congr fun x _ => by rw [List.all_cons, Bool.and_comm]
    rw [hboth, ← ih hrest, keepAll, List.foldlM_cons, hc.keep]
    rfl

/-- The clock of the issues and that of the search agree on whether offsets are stated. -/
def Comparable (now : Timestamp) (issues : List Issue) : Prop :=
  ∀ x ∈ issues, x.created.isAware = now.isAware ∧ x.updated.isAware = now.isAware

theorem daysBefore_ok {now cutoff : Timestamp} {days : Nat} (h : daysBefore days now = .ok cutoff) :
    days ≤ 999999999 ∧ cutoff.isAware = now.isAware ∧ cutoff.utcWall = now.utcWall - days * microsPerDay := by
  rw [daysBefore] at h
  split at h
  · cases h
  · rename_i hd
    rw [Timestamp.shift] at h
    split at h
    · injection h with h
      subst h
      refine ⟨by omega, rfl, ?_⟩
      simp only [Timestamp.utcWall]
      omega
    · cases h

theorem integerOfDigits_toString {n : Nat} (h : n ≤ 999999999) :
    integerOfDigits (toString n).toList = .ok n := by
  have hl : (toString n).toList.length ≤ 9 := by
    rw [String.length_toList]
    exact (Nat.length_repr_le_iff (by decide)).mpr (by omega)
  exact integerOfDigits_toString_of_length (Nat.le_trans hl (by decide))

def Counts (now : Timestamp) : Comparison → Prop
  | .lastDays _ n => ∃ cutoff, daysBefore n.toNat now = .ok cutoff
  | _ => True

theorem decides_within {now : Timestamp} {issues : List Issue} (hi : Comparable now issues) (f : TimeField)
    {n : Nat} {cutoff : Timestamp} (hc : daysBefore n now = .ok cutoff) :
    (within f (toString n).toList).Decides now issues := by
  obtain ⟨hn, haware, hwall⟩ := daysBefore_ok hc
  refine ⟨fun x => ofClock ((f.time x).notBefore cutoff), ?_, fun x hx => ?_⟩
  · simp only [test, integerOfDigits_toString hn]
    show ofClock (daysBefore n now) >>= _ = _
    rw [hc]
    rfl
  · have hf : (f.time x).isAware = cutoff.isAware := by
      rw [haware]
      cases f
      · exact (hi x hx).1
      · exact (hi x hx).2
    show ofClock ((f.time x).notBefore cutoff) = _
    rw [Timestamp.notBefore, if_pos (by rw [hf, beq_self_eq_true]), hwall, holds, Number.asciiValue_toString]
    rfl

theorem decides_ofComparison {now : Timestamp} {issues : List Issue} (hi : Comparable now issues)
    {c : Comparison} (hp : c.Plain) (hc : Counts now c) {condition : Condition}
    (h : ofComparison c = some condition) : condition.Decides now issues := by
  cases c <;> simp only [ofComparison, Option.some.injEq, reduceCtorEq] at h <;> subst h
  case lastDays f n =>
    obtain ⟨n, rfl⟩ := Int.eq_ofNat_of_zero_le hp
    obtain ⟨cutoff, hc⟩ := hc
    exact decides_within hi f hc
  all_goals exact ⟨_, rfl, fun _ _ => rfl⟩

end Condition

end IssueQuery
