import IssueQuery.Proofs.Query.Combination
import IssueQuery.Proofs.Tracker.Testing
import IssueQuery.Tracker.Sample
import Mathlib.Data.List.Basic

namespace IssueQuery

namespace Fragment

variable {ι : Type} {texts : String → Prop} {holds : String → ι → Prop}

def joined (a b : String) : String :=
  "(" ++ a ++ ") AND (" ++ b ++ ")"

/-- What the texts of a language say: joining leads from texts to a text, which says what both say. -/
structure IsReading (texts : String → Prop) (holds : String → ι → Prop) : Prop where
  text : ∀ a b, texts a → texts b → texts (joined a b)
  meaning : ∀ a b, texts a → texts b → ∀ x, holds (joined a b) x ↔ holds a x ∧ holds b x

def Speaks (texts : String → Prop) (f : Fragment) : Prop :=
  ∀ w ∈ f.condition, texts w

def Admits (holds : String → ι → Prop) (f : Fragment) (x : ι) : Prop :=
  ∀ w ∈ f.condition, holds w x

structure Conjoins (fs : List Fragment) : Prop where
  order : (combineAll fs).order = fs.findSome? (·.order)
  none_iff : (combineAll fs).condition = none ↔ ∀ f ∈ fs, f.condition = none
  text : ∀ w ws, fs.filterMap (·.condition) = w :: ws →
    (combineAll fs).condition = some (ws.foldl joined w)
  empties : ∀ gs, gs.filter (· ≠ empty) = fs.filter (· ≠ empty) → combineAll gs = combineAll fs

theorem conjunction_eq_none_iff {ws : List String} : conjunction ws = none ↔ ws = [] := by
  cases ws <;> simp [conjunction]

theorem combineAll_filter_ne_empty (fs : List Fragment) :
    combineAll (fs.filter (· ≠ empty)) = combineAll fs := by
  rw [combineAll, combineAll, List.foldl_filter]
  apply List.foldl_ext
  intro before f _
  by_cases hf : f = empty
  · simp [hf]
  · simp [hf]

theorem conjoins (fs : List Fragment) : Conjoins fs where
  order := combineAll_order fs
  none_iff := by
    rw [combineAll_condition, conjunction_eq_none_iff, List.filterMap_eq_nil_iff]
  text w ws h := by
    rw [combineAll_condition, h]
    rfl
  empties gs h := by
    rw [← combineAll_filter_ne_empty gs, h, combineAll_filter_ne_empty]

namespace IsReading

theorem speaks_combine (h : IsReading texts holds) {f g : Fragment} (hf : f.Speaks texts)
    (hg : g.Speaks texts) : (f.combine g).Speaks texts := by
  intro w hw
  cases ha : f.condition with
  | none =>
    rw [combine, ha] at hw
    exact hg w hw
  | some a =>
    cases hb : g.condition with
    | none =>
      rw [combine, ha, hb] at hw
      exact hf w (ha ▸ hw)
    | some b =>
      rw [combine, ha, hb] at hw
      obtain rfl : joined a b = w := Option.some.inj hw
      exact h.text a b (hf a ha) (hg b hb)

theorem admits_combine (h : IsReading texts holds) {f g : Fragment} (hf : f.Speaks texts)
    (hg : g.Speaks texts) (x : ι) :
    (f.combine g).Admits holds x ↔ f.Admits holds x ∧ g.Admits holds x := by
  simp only [Admits, combine]
  cases ha : f.condition with
  | none => simp [both]
  | some a =>
    cases hb : g.condition with
    | none => simp [both]
    | some b =>
      have hboth : both (some a) (some b) = some (joined a b) := rfl
      simpa [hboth] using h.meaning a b (hf a ha) (hg b hb) x

theorem foldl_combine (h : IsReading texts holds) {fs : List Fragment} {f : Fragment}
    (hf : f.Speaks texts) (hfs : ∀ g ∈ fs, g.Speaks texts) :
    (fs.foldl combine f).Speaks texts ∧
      ∀ x, (fs.foldl combine f).Admits holds x ↔ f.Admits holds x ∧ ∀ g ∈ fs, g.Admits holds x := by
  induction fs generalizing f with
  | nil => exact ⟨hf, by simp⟩
  | cons g fs ih =>
    rw [List.forall_mem_cons] at hfs
    obtain ⟨hspeaks, hadmits⟩ := ih (h.speaks_combine hf hfs.1) hfs.2
    refine ⟨hspeaks, fun x => ?_⟩
    rw [List.foldl_cons, hadmits, h.admits_combine hf hfs.1, List.forall_mem_cons, and_assoc]

theorem admits_combineAll (h : IsReading texts holds) {fs : List Fragment} (hfs : ∀ f ∈ fs, f.Speaks texts) :
    (combineAll fs).Speaks texts ∧
      ∀ x, (combineAll fs).Admits holds x ↔ ∀ f ∈ fs, f.Admits holds x := by
  have hempty : empty.Speaks texts := by simp [Speaks, empty]
  obtain ⟨hspeaks, hadmits⟩ := h.foldl_combine hempty hfs
  refine ⟨hspeaks, fun x => (hadmits x).trans ?_⟩
  simp [Admits, empty]

end IsReading

end Fragment

open Text in
theorem Layout.append {stop u v : List Char} {cs ds : List Comparison} (hu : Layout [] cs u)
    (hv : Layout stop ds v) (hstops : Stops v) : Layout stop (cs ++ ds) (u ++ v) := by
  induction hu with
  | stop => exact hv
  | opening _ ih => exact ih.opening
  | closing _ ih => exact ih.closing
  | conjunction _ ih => exact ih.conjunction
  | @comparison cs u c _ hc ih =>
    have hafter : Stops (u ++ v) := by
      cases u with
      | nil => exact hstops
      | cons a u => exact hc
    rw [List.append_assoc]
    exact ih.comparison c hafter

namespace Condition

open Text
open Calendar (Timestamp)

def IsPlainText (s : String) : Prop :=
  ∃ cs, (∀ c ∈ cs, Comparison.Plain c) ∧ Layout [] cs s.toList

/-- All conditions that are recognised in a text hold. -/
def AllHold (now : Timestamp) (s : String) (x : Issue) : Prop :=
  ∀ c ∈ ofText s, c.holds now x = true

theorem isPlainText_comparison {c : Comparison} (h : c.Plain) : IsPlainText c.text := by
  refine ⟨[c], by simpa using h, ?_⟩
  rw [← List.append_nil c.text.toList]
  exact Layout.stop.comparison c (by simp [Stops])

theorem layout_joined {a b : String} {cs ds : List Comparison} (ha : Layout [] cs a.toList)
    (hb : Layout [] ds b.toList) : Layout [] (cs ++ ds) (Fragment.joined a b).toList := by
  have htext : (Fragment.joined a b).toList =
      '(' :: (a.toList ++ (')' :: (" AND ".toList ++ ('(' :: (b.toList ++ [')']))))) := by
    simp [Fragment.joined]
  have hclose (u : List Char) : Stops (')' :: u) := by
    intro c hc
    obtain rfl : c = ')' := by simpa using hc.symm
    decide
  have hlast : Layout [] [] [')'] := Layout.stop.closing
  have hright : Layout [] ds (b.toList ++ [')']) := by
    simpa using hb.append hlast (hclose [])
  rw [htext]
  exact (ha.append hright.opening.conjunction.closing (hclose _)).opening

theorem ofText_plain {s : String} {cs : List Comparison} (hc : ∀ c ∈ cs, c.Plain)
    (h : Layout [] cs s.toList) : ofText s = ofComparisons cs := by
  -- Behind the comparisons nothing is left that could begin an order.
  have hs : Layout [] cs (s.toList ++ []) := by rwa [List.append_nil]
  obtain ⟨gap, hgap, hbefore⟩ := beforeOrder_condition (.inl rfl) hs hc
  rw [List.append_nil] at hbefore
  refine ofText_of_layout hgap ?_ hc
  rw [hbefore, ← List.append_nil cs]
  exact h.append .stop hgap.stops

theorem allHold_iff {now : Timestamp} {s : String} {cs : List Comparison} (hc : ∀ c ∈ cs, c.Plain)
    (h : Layout [] cs s.toList) (x : Issue) :
    AllHold now s x ↔ ∀ c ∈ cs, ∀ condition ∈ ofComparison c, condition.holds now x = true := by
  simp only [AllHold, ofText_plain hc h, mem_ofComparisons]
  constructor
  · exact fun hall c hm condition hcondition => hall condition ⟨c, hm, hcondition⟩
  · rintro hall condition ⟨c, hm, hcondition⟩
    exact hall c hm condition hcondition

theorem isReading_recognised (now : Timestamp) : Fragment.IsReading IsPlainText (AllHold now) where
  text := by
    rintro a b ⟨cs, hcs, ha⟩ ⟨ds, hds, hb⟩
    exact ⟨cs ++ ds, List.forall_mem_append.mpr ⟨hcs, hds⟩, layout_joined ha hb⟩
  meaning := by
    rintro a b ⟨cs, hcs, ha⟩ ⟨ds, hds, hb⟩ x
    rw [allHold_iff (List.forall_mem_append.mpr ⟨hcs, hds⟩) (layout_joined ha hb), allHold_iff hcs ha,
      allHold_iff hds hb, List.forall_mem_append]

end Condition

namespace Fragment

theorem combineAll_conjoins (fs : List Fragment) :
    Conjoins fs ∧
      ∀ {ι : Type} {texts : String → Prop} {holds : String → ι → Prop}, IsReading texts holds →
        (∀ f ∈ fs, f.Speaks texts) → ∀ x,
          (∀ gs, gs.Perm fs → ((combineAll gs).Admits holds x ↔ ∀ f ∈ fs, f.Admits holds x)) ∧
          ∀ gs hs, (gs ++ hs).Perm fs →
            (((combineAll gs).combine (combineAll hs)).Admits holds x ↔ ∀ f ∈ fs, f.Admits holds x) := by
  refine ⟨conjoins fs, fun {ι texts holds} h hfs x => ⟨?_, ?_⟩⟩
  · intro gs hperm
    have hgs : ∀ g ∈ gs, g.Speaks texts := fun g hg => hfs g (hperm.mem_iff.mp hg)
    rw [(h.admits_combineAll hgs).2]
    exact forall_congr' fun f => by rw [hperm.mem_iff]
  · intro gs hs hperm
    have hboth : ∀ g ∈ gs ++ hs, g.Speaks texts := fun g hg => hfs g (hperm.mem_iff.mp hg)
    rw [List.forall_mem_append] at hboth
    obtain ⟨hleft, hadmitsLeft⟩ := h.admits_combineAll hboth.1
    obtain ⟨hright, hadmitsRight⟩ := h.admits_combineAll hboth.2
    rw [h.admits_combine hleft hright, hadmitsLeft, hadmitsRight, ← List.forall_mem_append]
    exact forall_congr' fun f => by rw [hperm.mem_iff]

def openBugs : List Fragment :=
  [.ofCondition (Comparison.equals .project "BANK").text, .empty, .ofOrder "created ASC",
    ⟨some (Comparison.oneOf .status ["Open", "Reopened"]).text, some "key DESC"⟩,
    .ofCondition (Comparison.mentions "checkout").text]

theorem speaks_openBugs : ∀ f ∈ openBugs, f.Speaks Condition.IsPlainText := by
  have hplain {c : Comparison} {order : Option String} (h : c.Plain) :
      Speaks Condition.IsPlainText ⟨some c.text, order⟩ := by
    intro w hw
    obtain rfl : c.text = w := Option.some.inj hw
    exact Condition.isPlainText_comparison h
  have hproject : Comparison.Plain (.equals .project "BANK") :=
    show Harmless "BANK" by decide
  have hstatus : Comparison.Plain (.oneOf .status ["Open", "Reopened"]) :=
    ⟨by decide, show ∀ v ∈ ["Open", "Reopened"], Harmless v by decide⟩
  have htext : Comparison.Plain (.mentions "checkout") :=
    show Harmless "checkout" by decide
  simp only [openBugs, List.forall_mem_cons]
  exact ⟨hplain hproject, by simp [Speaks, empty], by simp [Speaks, ofOrder], hplain hstatus,
    hplain htext, by simp⟩

theorem combineAll_conjoins_openBugs :
    let now : Calendar.Timestamp := ⟨0, some 0⟩
    let bug := Sample.paymentBug now now
    (∀ f ∈ openBugs, f.Speaks Condition.IsPlainText) ∧
      combineAll openBugs =
        ⟨some "((project = \"BANK\") AND (status IN (\"Open\", \"Reopened\"))) AND (text ~ \"checkout\")",
          some "created ASC"⟩ ∧
      ((combineAll openBugs.reverse).Admits (Condition.AllHold now) bug ↔
        ∀ f ∈ openBugs, f.Admits (Condition.AllHold now) bug) ∧
      (((combineAll (openBugs.take 2)).combine (combineAll (openBugs.drop 2))).Admits
        (Condition.AllHold now) bug ↔ ∀ f ∈ openBugs, f.Admits (Condition.AllHold now) bug) := by
  intro now bug
  obtain ⟨hletter, hmeaning⟩ := combineAll_conjoins openBugs
  have hreading := Condition.isReading_recognised now
  obtain ⟨hperm, hgroup⟩ := hmeaning hreading speaks_openBugs bug
  have hgroups : openBugs.take 2 ++ openBugs.drop 2 = openBugs := List.take_append_drop 2 openBugs
  have hcondition : (combineAll openBugs).condition = _ := hletter.text _ _ rfl
  have horder : (combineAll openBugs).order = some "created ASC" := hletter.order
  exact ⟨speaks_openBugs, by rw [Fragment.mk.injEq]; exact ⟨hcondition, horder⟩,
    hperm _ (List.reverse_perm openBugs), hgroup _ _ (by rw [hgroups])⟩

end Fragment

end IssueQuery
