import IssueQuery.Proofs.Query.Decoding

namespace IssueQuery

open Text

namespace Comparison

theorem text_eq_cons (c : Comparison) : ∃ first rest, c.text.toList = first :: rest ∧ first.isLower := by
  cases c with
  | mine | unassigned => exact ⟨_, _, rfl, rfl⟩
  | assignedTo | mentions => simp [text]
  | equals f | oneOf f => cases f <;> simp [text, MatchField.name]
  | lastDays f | notBefore f | notAfter f => cases f <;> simp [text, TimeField.name]

theorem length_text_pos (c : Comparison) : 0 < c.text.toList.length := by
  obtain ⟨first, rest, h, _⟩ := c.text_eq_cons
  simp [h]

def joined (cs : List Comparison) : List Char :=
  cs.flatMap fun c => " AND ".toList ++ c.text.toList

theorem length_le_joined (cs : List Comparison) : cs.length ≤ (joined cs).length := by
  induction cs with
  | nil => simp
  | cons c cs ih =>
    have hc := c.length_text_pos
    simp only [joined, List.flatMap_cons, List.length_append, List.length_cons] at *
    omega

theorem allOf_cons (c : Comparison) (cs : List Comparison) :
    ∃ w, allOf (c :: cs) = some w ∧ w.toList = c.text.toList ++ joined cs := by
  refine ⟨_, rfl, ?_⟩
  rw [List.map_cons, toList_join_cons, joined, List.flatMap_map]

end Comparison

namespace Query

open Comparison (allOf joined allOf_cons)

def prepend (cs : List Comparison) (read : List Comparison × List Char) : List Comparison × List Char :=
  (cs ++ read.1, read.2)

theorem map_prepend_prepend (cs ds : List Comparison) (r : Option (List Comparison × List Char)) :
    (r.map (prepend ds)).map (prepend cs) = r.map (prepend (cs ++ ds)) := by
  cases r <;> simp [prepend]

theorem readMore?_close (fuel : Nat) (cs : List Char) : readMore? fuel (')' :: cs) = readMore? fuel cs := by
  cases fuel <;> simp [readMore?]

theorem read?_opened {c : Comparison} (hc : c.Unquoted) (opened : Nat) (rest : List Char) :
    Comparison.read? ((List.replicate opened '(' ++ c.text.toList ++ rest).dropWhile (· == '(')) =
      some (c, rest) := by
  obtain ⟨first, tail, ht, hl⟩ := c.text_eq_cons
  have hp : (first == '(') = false := by
    simp only [beq_eq_false_iff_ne, ne_eq]
    rintro rfl
    simp at hl
  have hd : (c.text.toList ++ rest).dropWhile (· == '(') = c.text.toList ++ rest := by simp [ht, hp]
  rw [List.append_assoc, dropWhile_replicate_append opened (by rfl), hd, Comparison.read?_text hc]

theorem readMore?_and {c : Comparison} (hc : c.Unquoted) (fuel opened : Nat) (rest : List Char) :
    readMore? (fuel + 1) (" AND ".toList ++ (List.replicate opened '(' ++ c.text.toList ++ rest)) =
      (readMore? fuel rest).map (prepend [c]) := by
  have hand (cs : List Char) : (" AND ".toList ++ cs).dropWhile (· == ')') = " AND ".toList ++ cs := rfl
  simp only [readMore?, hand, dropPrefix?_append, read?_opened hc]
  cases hr : readMore? fuel rest <;> simp [prepend, hr]

theorem readMore?_joined {cs : List Comparison} (hc : ∀ c ∈ cs, c.Unquoted) (fuel : Nat) (rest : List Char) :
    readMore? (cs.length + fuel) (joined cs ++ rest) = (readMore? fuel rest).map (prepend cs) := by
  induction cs with
  | nil => cases h : readMore? fuel rest <;> simp [joined, prepend, h]
  | cons c cs ih =>
    have ih := ih fun d hd => hc d (List.mem_cons_of_mem _ hd)
    have hl : (c :: cs).length + fuel = (cs.length + fuel) + 1 := by simp only [List.length_cons]; omega
    have hj : joined (c :: cs) ++ rest =
        " AND ".toList ++ (List.replicate 0 '(' ++ c.text.toList ++ (joined cs ++ rest)) := by
      simp [joined]
    rw [hl, hj, readMore?_and (hc c (by simp)), ih, map_prepend_prepend]
    rfl

def further (ws : List String) : List Char :=
  ws.flatMap fun w => ") AND (".toList ++ w.toList ++ [')']

theorem readMore?_further {parts : List (List Comparison)} (hp : ∀ cs ∈ parts, ∀ c ∈ cs, c.Unquoted)
    (fuel : Nat) (rest : List Char) :
    readMore? (parts.flatten.length + fuel) (further (parts.filterMap allOf) ++ rest) =
      (readMore? fuel rest).map (prepend parts.flatten) := by
  induction parts with
  | nil => cases h : readMore? fuel rest <;> simp [further, prepend, h]
  | cons cs parts ih =>
    have ih := ih fun ds hd => hp ds (List.mem_cons_of_mem _ hd)
    cases cs with
    | nil => exact ih
    | cons c cs =>
      obtain ⟨w, hw, ht⟩ := allOf_cons c cs
      have hcs := hp (c :: cs) (by simp)
      have hl : ((c :: cs) :: parts).flatten.length + fuel =
          (cs.length + (parts.flatten.length + fuel)) + 1 := by
        simp only [List.flatten_cons, List.length_append, List.length_cons]; omega
      have hf : further (((c :: cs) :: parts).filterMap allOf) ++ rest =
          ')' :: (" AND ".toList ++ (List.replicate 1 '(' ++ c.text.toList ++
            (joined cs ++ ')' :: (further (parts.filterMap allOf) ++ rest)))) := by
        simp [further, hw, ht]
      rw [hl, hf, readMore?_close, readMore?_and (hcs c (by simp)),
        readMore?_joined (fun d hd => hcs d (List.mem_cons_of_mem _ hd)), readMore?_close, ih,
        map_prepend_prepend, map_prepend_prepend]
      rfl

theorem length_le_further (parts : List (List Comparison)) :
    parts.flatten.length ≤ (further (parts.filterMap allOf)).length := by
  induction parts with
  | nil => simp
  | cons cs parts ih =>
    cases cs with
    | nil => exact ih
    | cons c cs =>
      obtain ⟨w, hw, ht⟩ := allOf_cons c cs
      have hj := Comparison.length_le_joined cs
      simp only [further, List.filterMap_cons, hw, List.flatMap_cons, List.length_append, ht,
        List.flatten_cons, List.length_cons] at *
      omega

def Ends (rest : List Char) : Prop :=
  rest = [] ∨ ∃ order, rest = " ORDER BY ".toList ++ order

theorem readMore?_ends {rest : List Char} (h : Ends rest) (fuel : Nat) :
    readMore? (fuel + 1) rest = some ([], rest) := by
  rcases h with rfl | ⟨order, rfl⟩ <;> rfl

theorem readCondition?_parts {parts : List (List Comparison)}
    (hp : ∀ cs ∈ parts, ∀ c ∈ cs, c.Unquoted) {w : String}
    (hw : Fragment.conjunction (parts.filterMap allOf) = some w) {rest : List Char} (hr : Ends rest)
    {fuel : Nat} (hf : parts.flatten.length ≤ fuel) :
    readCondition? fuel (w.toList ++ rest) = some (parts.flatten, rest) := by
  -- Clauses without comparisons leave no trace; the induction looks for the first one with some.
  induction parts with
  | nil => simp [Fragment.conjunction] at hw
  | cons cs parts ih =>
    have hps := fun ds hd => hp ds (List.mem_cons_of_mem _ hd)
    cases cs with
    | nil => exact ih hps hw hf
    | cons c cs =>
      obtain ⟨v, hv, ht⟩ := allOf_cons c cs
      have hcs := hp (c :: cs) (by simp)
      rw [List.filterMap_cons, hv, Fragment.conjunction, Option.some.injEq] at hw
      have htext : w.toList ++ rest = List.replicate (parts.filterMap allOf).length '(' ++
          c.text.toList ++ (joined cs ++ (further (parts.filterMap allOf) ++ rest)) := by
        rw [← hw, Fragment.toList_foldl_and, ht]
        simp [further]
      obtain ⟨spare, rfl⟩ : ∃ spare, fuel = cs.length + (parts.flatten.length + (spare + 1)) := by
        simp only [List.flatten_cons, List.length_append, List.length_cons] at hf
        exact ⟨fuel - (cs.length + parts.flatten.length + 1), by omega⟩
      rw [readCondition?, htext, read?_opened (hcs c (by simp))]
      simp only [Option.bind_eq_bind, Option.bind_some,
        readMore?_joined (fun d hd => hcs d (List.mem_cons_of_mem _ hd)), readMore?_further hps,
        readMore?_ends hr]
      simp [prepend]

theorem length_flatten_le {parts : List (List Comparison)} {w : String}
    (hw : Fragment.conjunction (parts.filterMap allOf) = some w) :
    parts.flatten.length ≤ w.toList.length := by
  induction parts with
  | nil => simp
  | cons cs parts ih =>
    cases cs with
    | nil => exact ih hw
    | cons c cs =>
      obtain ⟨v, hv, ht⟩ := allOf_cons c cs
      rw [List.filterMap_cons, hv, Fragment.conjunction, Option.some.injEq] at hw
      have hj := Comparison.length_le_joined cs
      have hc := c.length_text_pos
      have hf := length_le_further parts
      rw [← hw, Fragment.toList_foldl_and, ht]
      simp only [further, List.length_append, List.flatten_cons, List.length_cons] at *
      omega

theorem flatten_eq_nil {parts : List (List Comparison)}
    (hw : Fragment.conjunction (parts.filterMap allOf) = none) : parts.flatten = [] := by
  induction parts with
  | nil => rfl
  | cons cs parts ih =>
    cases cs with
    | nil => exact ih hw
    | cons c cs =>
      obtain ⟨v, hv, _⟩ := allOf_cons c cs
      simp [hv, Fragment.conjunction] at hw

theorem conjunction_eq_cons {parts : List (List Comparison)} {w : String}
    (hw : Fragment.conjunction (parts.filterMap allOf) = some w) :
    ∃ first rest, w.toList = first :: rest ∧ first ≠ 'O' := by
  induction parts with
  | nil => simp [Fragment.conjunction] at hw
  | cons cs parts ih =>
    cases cs with
    | nil => exact ih hw
    | cons c cs =>
      obtain ⟨v, hv, ht⟩ := allOf_cons c cs
      rw [List.filterMap_cons, hv, Fragment.conjunction, Option.some.injEq] at hw
      obtain ⟨first, rest, hc, hl⟩ := c.text_eq_cons
      have hO : first ≠ 'O' := by
        rintro rfl
        simp at hl
      rw [← hw, Fragment.toList_foldl_and, ht, hc]
      cases (parts.filterMap allOf).length with
      | zero => exact ⟨first, _, rfl, hO⟩
      | succ n => exact ⟨'(', _, rfl, by decide⟩

end Query

end IssueQuery
