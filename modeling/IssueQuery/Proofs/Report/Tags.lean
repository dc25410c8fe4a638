import IssueQuery.Proofs.Analysis.Priority
import IssueQuery.Proofs.Text.Words
import IssueQuery.Proofs.Text.Pieces
import IssueQuery.Report.Frame
import IssueQuery.Tracker.Sample
import Mathlib.Data.String.Basic

namespace IssueQuery

namespace Text

theorem lowerChar_ne_nil (c : Char) : lowerChar c ≠ [] := by
  have htable : ∀ e ∈ lowerExpansions, e.2 ≠ [] := by decide +kernel
  rw [lowerChar]
  split
  · simp
  · exact mapped_ne_nil htable _ c

theorem length_lowerAfter (before cs : List Char) :
    (lowerAfter before cs).length = (cs.flatMap lowerChar).length := by
  -- A capital sigma has one lower case letter wherever it stands.
  have hsigma : (lowerChar capitalSigma).length = 1 := by decide +kernel
  induction cs generalizing before with
  | nil => rfl
  | cons c cs ih =>
    rw [lowerAfter, List.flatMap_cons, List.length_append, List.length_append, ih]
    split
    · rename_i hc
      rw [eq_of_beq hc, hsigma, List.length_singleton]
    · rfl

theorem length_lowerChars_lt (cs : List Char) {ds : List Char} (h : ds ≠ []) :
    (lowerChars cs).length < (lowerChars (cs ++ ds)).length := by
  rw [lowerChars, lowerChars, length_lowerAfter, length_lowerAfter, List.flatMap_append, List.length_append]
  cases ds with
  | nil => exact absurd rfl h
  | cons d ds =>
    have hpos := List.length_pos_of_ne_nil (lowerChar_ne_nil d)
    rw [List.flatMap_cons, List.length_append]
    omega

theorem eq_of_lower_of_begins {s t : String} (h : lower s = lower t) (hp : s.toList <+: t.toList) : s = t := by
  obtain ⟨ds, hds⟩ := hp
  by_cases hnil : ds = []
  · rw [hnil, List.append_nil] at hds
    exact String.toList_inj.mp hds
  · have hlt := length_lowerChars_lt s.toList hnil
    rw [hds, String.ofList_inj.mp h] at hlt
    exact absurd hlt (Nat.lt_irrefl _)

variable {xs ys : List String}

theorem append_flatMap_inj (sep : String) {s t : String} (hlower : (s :: xs).map lower = (t :: ys).map lower)
    (h : s.toList ++ xs.flatMap (fun u => sep.toList ++ u.toList) =
      t.toList ++ ys.flatMap fun u => sep.toList ++ u.toList) : s :: xs = t :: ys := by
  induction xs generalizing s t ys with
  | nil =>
    obtain ⟨hhead, htail⟩ := List.cons.inj hlower
    obtain rfl := List.map_eq_nil_iff.mp htail.symm
    simp only [List.flatMap_nil, List.append_nil] at h
    rw [String.toList_inj.mp h]
  | cons x xs ih =>
    obtain ⟨hhead, htail⟩ := List.cons.inj hlower
    obtain rfl : s = t := by
      rcases List.prefix_or_prefix_of_prefix (List.prefix_append s.toList _) (h ▸ List.prefix_append t.toList _)
        with hp | hp
      · exact eq_of_lower_of_begins hhead hp
      · exact (eq_of_lower_of_begins hhead.symm hp).symm
    cases ys with
    | nil => cases htail
    | cons y ys =>
      have hrest := List.append_cancel_left h
      rw [List.flatMap_cons, List.flatMap_cons, List.append_assoc, List.append_assoc] at hrest
      rw [ih htail (List.append_cancel_left hrest)]

theorem join_inj (sep : String) (hlower : xs.map lower = ys.map lower) (h : join sep xs = join sep ys) : xs = ys := by
  cases xs with
  | nil => exact (List.map_eq_nil_iff.mp hlower.symm).symm
  | cons s xs =>
    cases ys with
    | nil => cases hlower
    | cons t ys =>
      have hchars := congrArg String.toList h
      rw [toList_join_cons, toList_join_cons] at hchars
      exact append_flatMap_inj sep hlower hchars

end Text

namespace Frame

open Text (lower join)

/-- The tags that are shown, each once and in the order of their lower case forms, as one text. -/
def Shows (tags : List String) (text : String) : Prop :=
  ∃ shown : List String, shown.Nodup ∧ (∀ t, t ∈ shown ↔ t ∈ tags ∧ t ≠ "") ∧
    shown.Pairwise (lower · ≤ lower ·) ∧ text = join ", " shown

/-- An order in which the set of those tags that are not empty may be gone through. -/
structure Traversal (tags order : List String) : Prop where
  nodup : order.Nodup
  mem_iff : ∀ t, t ∈ order ↔ t ∈ tags ∧ t ≠ ""

/-- No two different tags have one lower case form. -/
def Untied (tags : List String) : Prop :=
  ∀ a ∈ tags, ∀ b ∈ tags, a ≠ "" → b ≠ "" → lower a = lower b → a = b

variable {tags others order order' : List String}

theorem traversal_distinct (tags : List String) : Traversal tags ((distinct tags).filter (!·.isEmpty)) where
  nodup := (nodup_distinct tags).filter _
  mem_iff t := by simp

theorem Traversal.perm (h : Traversal tags order) (h' : Traversal others order') (hsame : ∀ t, t ∈ tags ↔ t ∈ others) :
    order.Perm order' := by
  rw [List.perm_ext_iff_of_nodup h.nodup h'.nodup]
  intro t
  rw [h.mem_iff, h'.mem_iff, hsame]

theorem Traversal.of_perm (h : Traversal tags order) (hp : order'.Perm order) : Traversal tags order' where
  nodup := hp.nodup_iff.mpr h.nodup
  mem_iff t := hp.mem_iff.trans (h.mem_iff t)

theorem sortTags_eq (tags : List String) : sortTags tags = tags.mergeSort fun a b => decide (lower a ≤ lower b) := by
  apply mergeSort_congr
  intro a _ b _
  rw [← decide_not, decide_eq_decide, not_lt]

theorem sortTags_perm (tags : List String) : (sortTags tags).Perm tags :=
  List.mergeSort_perm _ _

theorem pairwise_sortTags (tags : List String) : (sortTags tags).Pairwise (lower · ≤ lower ·) := by
  rw [sortTags_eq]
  exact pairwise_mergeSort_key lower tags

theorem sortTags_of_pairwise (h : tags.Pairwise (lower · ≤ lower ·)) : sortTags tags = tags := by
  rw [sortTags_eq]
  exact List.mergeSort_of_pairwise (h.imp decide_eq_true)

theorem Traversal.shows (h : Traversal tags order) : Shows tags (join ", " (sortTags order)) := by
  have hsorted := h.of_perm (sortTags_perm order)
  exact ⟨sortTags order, hsorted.nodup, hsorted.mem_iff, pairwise_sortTags order, rfl⟩

theorem map_lower_sortTags (h : order.Perm order') :
    (sortTags order).map lower = (sortTags order').map lower := by
  have hperm := ((sortTags_perm order).trans (h.trans (sortTags_perm order').symm)).map lower
  apply hperm.eq_of_pairwise (fun a b _ _ => le_antisymm)
  · exact List.pairwise_map.mpr (pairwise_sortTags order)
  · exact List.pairwise_map.mpr (pairwise_sortTags order')

theorem sortTags_congr (hp : order.Perm order') (h : ∀ a ∈ order, ∀ b ∈ order, lower a = lower b → a = b) :
    sortTags order = sortTags order' := by
  have hperm := (sortTags_perm order).trans (hp.trans (sortTags_perm order').symm)
  refine hperm.eq_of_pairwise ?_ (pairwise_sortTags order) (pairwise_sortTags order')
  intro a b ha hb hab hba
  have ha' := (sortTags_perm order).mem_iff.mp ha
  have hb' := hp.mem_iff.mpr ((sortTags_perm order').mem_iff.mp hb)
  exact h a ha' b hb' (le_antisymm hab hba)

theorem sortTags_ne_of_tied {a b : String} (hne : a ≠ b) (h : lower a = lower b) (rest : List String) :
    sortTags (a :: b :: rest) ≠ sortTags (b :: a :: rest) := by
  -- The sort is stable, so that the first of two tied tags stays before the other.
  intro heq
  rw [sortTags_eq, sortTags_eq] at heq
  have hfilter := congrArg (List.filter (lower · = lower a)) heq
  rw [filter_mergeSort, filter_mergeSort, List.filter_cons_of_pos (by simp),
    List.filter_cons_of_pos (l := a :: rest) (by simp [h])] at hfilter
  exact hne (List.cons.inj hfilter).1

theorem Traversal.congr (h : Traversal tags order) (hsame : ∀ t, t ∈ tags ↔ t ∈ others) : Traversal others order where
  nodup := h.nodup
  mem_iff t := by rw [h.mem_iff, hsame]

theorem exists_traversals_of_tied {a b : String} (ha : a ∈ tags) (hb : b ∈ tags) (ha' : a ≠ "") (hb' : b ≠ "")
    (hne : a ≠ b) : ∃ rest, Traversal tags (a :: b :: rest) ∧ Traversal tags (b :: a :: rest) := by
  have hall := traversal_distinct tags
  have hmem : b ∈ ((distinct tags).filter (!·.isEmpty)).erase a :=
    (List.mem_erase_of_ne hne.symm).mpr ((hall.mem_iff b).mpr ⟨hb, hb'⟩)
  have hperm := (List.perm_cons_erase ((hall.mem_iff a).mpr ⟨ha, ha'⟩)).trans ((List.perm_cons_erase hmem).cons a)
  exact ⟨_, hall.of_perm hperm.symm, hall.of_perm ((List.Perm.swap a b _).trans hperm.symm)⟩

structure SetOrder where
  order : List String → List String
  traversal : ∀ tags, Traversal tags (order tags)

namespace SetOrder

def firstSeen : SetOrder :=
  ⟨fun tags => (distinct tags).filter (!·.isEmpty), traversal_distinct⟩

def update (o : SetOrder) (h : Traversal tags order) : SetOrder where
  order ts := if ts = tags then order else o.order ts
  traversal ts := by
    split
    · rename_i heq
      rw [heq]
      exact h
    · exact o.traversal ts

def text (o : SetOrder) (tags : List String) : String :=
  join ", " (sortTags (o.order tags))

theorem text_update (o : SetOrder) (h : Traversal tags order) :
    (o.update h).text tags = join ", " (sortTags order) := by
  simp only [text, update, if_true]

theorem text_firstSeen (tags : List String) : firstSeen.text tags = tagText tags := rfl

theorem text_eq_iff (hsame : ∀ t, t ∈ tags ↔ t ∈ others) :
    (∀ o o' : SetOrder, o.text tags = o'.text others) ↔ Untied tags := by
  constructor
  · intro h a ha b hb ha' hb' hlower
    by_contra hne
    obtain ⟨rest, hab, hba⟩ := exists_traversals_of_tied ha hb ha' hb' hne
    have hjoin := h (firstSeen.update hab) (firstSeen.update (hba.congr hsame))
    rw [text_update, text_update] at hjoin
    have hmap := map_lower_sortTags (List.Perm.swap b a rest)
    exact sortTags_ne_of_tied hne hlower rest (Text.join_inj ", " hmap hjoin)
  · intro h o o'
    have htags := o.traversal tags
    rw [text, text, sortTags_congr (htags.perm (o'.traversal others) hsame)]
    intro a ha b hb hlower
    obtain ⟨ha, ha'⟩ := (htags.mem_iff a).mp ha
    obtain ⟨hb, hb'⟩ := (htags.mem_iff b).mp hb
    exact h a ha b hb ha' hb' hlower

end SetOrder

inductive TagField where
  | labels
  | components

namespace TagField

def name : TagField → String
  | labels => "labels"
  | components => "components"

def get : TagField → Issue → List String
  | labels => (·.labels)
  | components => (·.components)

def column (f : TagField) (o : SetOrder) (issues : List Issue) : Column :=
  textColumn f.name (fun i => o.text (f.get i)) issues

end TagField

def ofIssuesBy (o : SetOrder) (issues : List Issue) : Frame :=
  (ofIssues issues).map fun c =>
    if c.name = TagField.labels.name then TagField.labels.column o issues
    else if c.name = TagField.components.name then TagField.components.column o issues
    else c

theorem ofIssuesBy_firstSeen (issues : List Issue) : ofIssuesBy .firstSeen issues = ofIssues issues := by
  cases issues with
  | nil => rfl
  | cons i issues => rfl

theorem cellsOf_ofIssuesBy (f : TagField) (o : SetOrder) {issues : List Issue} (h : issues ≠ []) :
    (ofIssuesBy o issues).cellsOf f.name = .ok (issues.map fun i => .text (o.text (f.get i))) := by
  cases issues with
  | nil => exact absurd rfl h
  | cons i issues => cases f <;> rfl

/-- The cells of two issues with the same set of tags show that set, and they agree in every order in which it is
gone through if and only if no two of the tags are tied. -/
theorem tagCells_stable_iff (f : TagField) {i j : Issue} (h : ∀ t, t ∈ f.get i ↔ t ∈ f.get j) :
    (∀ issues, ofIssuesBy .firstSeen issues = ofIssues issues) ∧
    (∀ (o : SetOrder) (issues : List Issue), issues ≠ [] →
      (ofIssuesBy o issues).cellsOf f.name = .ok (issues.map fun i => .text (o.text (f.get i)))) ∧
    (∀ o : SetOrder, Shows (f.get i) (o.text (f.get i)) ∧ Shows (f.get i) (o.text (f.get j))) ∧
    ((∀ o o' : SetOrder, o.text (f.get i) = o'.text (f.get j)) ↔ Untied (f.get i)) := by
  refine ⟨ofIssuesBy_firstSeen, fun o issues => cellsOf_ofIssuesBy f o, fun o => ⟨?_, ?_⟩, SetOrder.text_eq_iff h⟩
  · exact (o.traversal _).shows
  · exact ((o.traversal _).congr fun t => (h t).symm).shows

def labelled (labels : List String) : Issue :=
  { Sample.paymentBug ⟨0, none⟩ ⟨0, none⟩ with labels := labels }

theorem tagCells_stable_untied :
    (∀ t, t ∈ ["Zeta", "alpha", "", "Zeta"] ↔ t ∈ ["alpha", "", "Zeta"]) ∧ Untied ["Zeta", "alpha", "", "Zeta"] ∧
      ∀ o o' : SetOrder, (ofIssuesBy o [labelled ["Zeta", "alpha", "", "Zeta"]]).cellsOf "labels" =
        (ofIssuesBy o' [labelled ["alpha", "", "Zeta"]]).cellsOf "labels" := by
  have hsame : ∀ t, t ∈ ["Zeta", "alpha", "", "Zeta"] ↔ t ∈ ["alpha", "", "Zeta"] := by
    intro t
    simp only [List.mem_cons, List.not_mem_nil, or_false]
    tauto
  have huntied : Untied ["Zeta", "alpha", "", "Zeta"] := by
    unfold Untied
    decide +kernel
  obtain ⟨-, hcells, -, hstable⟩ := tagCells_stable_iff .labels
    (show ∀ t, t ∈ TagField.labels.get (labelled _) ↔ t ∈ TagField.labels.get (labelled _) from hsame)
  refine ⟨hsame, huntied, fun o o' => ?_⟩
  have htext := hstable.mpr huntied o o'
  have hfirst := hcells o [labelled ["Zeta", "alpha", "", "Zeta"]] (List.cons_ne_nil _ _)
  have hsecond := hcells o' [labelled ["alpha", "", "Zeta"]] (List.cons_ne_nil _ _)
  rw [List.map_singleton, htext] at hfirst
  exact hfirst.trans hsecond.symm

theorem tagText_pair {a b : String} (ha : a ≠ "") (hb : b ≠ "") (hne : a ≠ b) (h : lower a = lower b) :
    tagText [a, b] = join ", " [a, b] := by
  have hdistinct : (distinct [a, b]).filter (!·.isEmpty) = [a, b] := by simp [distinct, hne.symm, ha, hb]
  rw [tagText, hdistinct, sortTags_of_pairwise (List.pairwise_pair.mpr h.le)]

def tiedLabels : List Issue :=
  [labelled ["email-24566", "Email-24566"], labelled ["Email-24566", "email-24566"]]

theorem tiedLabels_shown_twice :
    (∀ t, t ∈ ["email-24566", "Email-24566"] ↔ t ∈ ["Email-24566", "email-24566"]) ∧
      (ofIssues tiedLabels).cellsOf "labels" =
        .ok [.text "email-24566, Email-24566", .text "Email-24566, email-24566"] := by
  constructor
  · intro t
    simp only [List.mem_cons, List.not_mem_nil, or_false]
    exact or_comm
  · have hlower : lower "email-24566" = lower "Email-24566" := by decide +kernel
    have hissues : tiedLabels ≠ [] := List.cons_ne_nil _ _
    have hcells := cellsOf_ofIssuesBy .labels .firstSeen hissues
    rw [ofIssuesBy_firstSeen] at hcells
    have hfirst := tagText_pair (by decide) (by decide) (by decide) hlower
    have hsecond := tagText_pair (by decide) (by decide) (by decide) hlower.symm
    refine hcells.trans (congrArg Except.ok ?_)
    simp only [tiedLabels, labelled, List.map_cons, List.map_nil, SetOrder.text_firstSeen, TagField.get, hfirst,
      hsecond]
    rfl

end Frame

end IssueQuery
