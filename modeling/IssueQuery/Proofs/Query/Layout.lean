import IssueQuery.Proofs.Query.Conjunction
import IssueQuery.Proofs.Text.Searching

namespace IssueQuery

open Text
open Comparison (allOf joined allOf_cons)

inductive Layout (stop : List Char) : List Comparison → List Char → Prop
  | stop : Layout stop [] stop
  | opening {cs u} : Layout stop cs u → Layout stop cs ('(' :: u)
  | closing {cs u} : Layout stop cs u → Layout stop cs (')' :: u)
  | conjunction {cs u} : Layout stop cs u → Layout stop cs (" AND ".toList ++ u)
  | comparison {cs u} (c : Comparison) : Layout stop cs u → Stops u → Layout stop (c :: cs) (c.text.toList ++ u)

namespace Layout

variable {stop : List Char}

theorem openings {cs : List Comparison} {u : List Char} (h : Layout stop cs u) (n : Nat) :
    Layout stop cs (List.replicate n '(' ++ u) := by
  induction n with
  | zero => exact h
  | succ n ih => exact ih.opening

theorem stops_joined (cs : List Comparison) {u : List Char} (h : Stops u) : Stops (joined cs ++ u) := by
  cases cs with
  | nil => exact h
  | cons c cs =>
    intro a ha
    obtain rfl : a = ' ' := by simpa [joined] using ha.symm
    decide

theorem append_joined {cs ds : List Comparison} {u : List Char} (h : Layout stop ds u) (hu : Stops u) :
    Layout stop (cs ++ ds) (joined cs ++ u) := by
  induction cs with
  | nil => exact h
  | cons c cs ih =>
    have ht : joined (c :: cs) ++ u = " AND ".toList ++ (c.text.toList ++ (joined cs ++ u)) := by
      simp [joined]
    rw [ht]
    exact (ih.comparison c (stops_joined cs hu)).conjunction

theorem stops_further (ws : List String) (h : Stops stop) : Stops (Query.further ws ++ stop) := by
  cases ws with
  | nil => exact h
  | cons w ws =>
    intro a ha
    obtain rfl : a = ')' := by simpa [Query.further] using ha.symm
    decide

theorem of_further (parts : List (List Comparison)) :
    Layout stop parts.flatten (Query.further (parts.filterMap allOf) ++ stop) := by
  induction parts with
  | nil => exact .stop
  | cons cs parts ih =>
    cases cs with
    | nil => exact ih
    | cons c cs =>
      obtain ⟨w, hw, ht⟩ := allOf_cons c cs
      have hclose : Stops (')' :: (Query.further (parts.filterMap allOf) ++ stop)) := by
        intro a ha
        obtain rfl : a = ')' := by simpa using ha.symm
        decide
      have hf : Query.further (((c :: cs) :: parts).filterMap allOf) ++ stop =
          ')' :: (" AND ".toList ++ ('(' :: (c.text.toList ++
            (joined cs ++ ')' :: (Query.further (parts.filterMap allOf) ++ stop))))) := by
        simp [Query.further, hw, ht]
      rw [hf]
      exact ((ih.closing.append_joined hclose).comparison c (stops_joined cs hclose)).opening.conjunction.closing

theorem of_conjunction {parts : List (List Comparison)} {w : String}
    (hw : Fragment.conjunction (parts.filterMap allOf) = some w) (h : Stops stop) :
    Layout stop parts.flatten (w.toList ++ stop) := by
  induction parts with
  | nil => simp [Fragment.conjunction] at hw
  | cons cs parts ih =>
    cases cs with
    | nil => exact ih hw
    | cons c cs =>
      obtain ⟨v, hv, ht⟩ := allOf_cons c cs
      rw [List.filterMap_cons, hv, Fragment.conjunction, Option.some.injEq] at hw
      have htext : w.toList ++ stop = List.replicate (parts.filterMap allOf).length '(' ++
          (c.text.toList ++ (joined cs ++ (Query.further (parts.filterMap allOf) ++ stop))) := by
        rw [← hw, Fragment.toList_foldl_and, ht]
        simp [Query.further]
      have hfurther := stops_further (parts.filterMap allOf) h
      rw [htext]
      exact (((of_further parts).append_joined hfurther).comparison c (stops_joined cs hfurther)).openings _

end Layout

/-- What a reading makes of the marks between comparisons, and of the comparisons that satisfy `fine`. -/
structure Reads {β : Type} (read : List Char → β) (fine : Comparison → Prop)
    (step : Comparison → β → β) : Prop where
  opening : ∀ u, read ('(' :: u) = read u
  closing : ∀ u, read (')' :: u) = read u
  conjunction : ∀ u, read (" AND ".toList ++ u) = read u
  comparison : ∀ c, fine c → ∀ u, Stops u → read (c.text.toList ++ u) = step c (read u)

theorem Layout.read {β : Type} {read : List Char → β} {fine : Comparison → Prop}
    {step : Comparison → β → β} (hr : Reads read fine step) {stop u : List Char} {cs : List Comparison}
    (h : Layout stop cs u) (hc : ∀ c ∈ cs, fine c) : read u = cs.foldr step (read stop) := by
  induction h with
  | stop => rfl
  | opening _ ih => rw [hr.opening, ih hc]
  | closing _ ih => rw [hr.closing, ih hc]
  | conjunction _ ih => rw [hr.conjunction, ih hc]
  | comparison c _ hu ih =>
    rw [hr.comparison c (hc c (by simp)) _ hu, ih fun d hd => hc d (List.mem_cons_of_mem c hd)]
    rfl

theorem Layout.read_append {β : Type} {read : List Char → β} {fine : Comparison → Prop}
    {step : Comparison → β → β} (hr : Reads read fine step) {stop u : List Char} {cs ds : List Comparison} {b : β}
    (h : Layout stop (cs ++ ds) u) (hc : ∀ c ∈ cs, fine c) (hd : ∀ v, Layout stop ds v → read v = b) :
    read u = cs.foldr step b := by
  generalize hall : cs ++ ds = all at h
  induction h generalizing cs with
  | stop =>
    obtain ⟨rfl, rfl⟩ := List.append_eq_nil_iff.mp hall
    exact hd _ .stop
  | opening _ ih => rw [hr.opening, ih hc hall]
  | closing _ ih => rw [hr.closing, ih hc hall]
  | conjunction _ ih => rw [hr.conjunction, ih hc hall]
  | comparison c hl hu ih =>
    cases cs with
    | nil =>
      obtain rfl := hall
      exact hd _ (hl.comparison c hu)
    | cons d cs =>
      obtain ⟨rfl, hrest⟩ := List.cons.inj hall
      rw [hr.comparison d (hc d (by simp)) _ hu, ih (fun e he => hc e (List.mem_cons_of_mem d he)) hrest]
      rfl

theorem Layout.not_mem {a : Char} {stop u : List Char} {cs : List Comparison} (h : Layout stop cs u)
    (ha : a ∉ ['(', ')'] ++ " AND ".toList) (hc : ∀ c ∈ cs, a ∉ c.text.toList) (hs : a ∉ stop) : a ∉ u := by
  rw [List.mem_append, not_or] at ha
  induction h with
  | stop => exact hs
  | opening _ ih =>
    rw [List.mem_cons, not_or]
    exact ⟨fun h => ha.1 (by simp [h]), ih hc⟩
  | closing _ ih =>
    rw [List.mem_cons, not_or]
    exact ⟨fun h => ha.1 (by simp [h]), ih hc⟩
  | conjunction _ ih =>
    rw [List.mem_append, not_or]
    exact ⟨ha.2, ih hc⟩
  | comparison c _ _ ih =>
    rw [List.mem_append, not_or]
    exact ⟨hc c (by simp), ih fun d hd => hc d (List.mem_cons_of_mem c hd)⟩

end IssueQuery
