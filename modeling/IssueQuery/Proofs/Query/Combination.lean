import IssueQuery.Query.Clause

namespace IssueQuery.Fragment

def conjunction : List String → Option String
  | [] => none
  | w :: ws => some (ws.foldl (fun acc w => "(" ++ acc ++ ") AND (" ++ w ++ ")") w)

theorem both_conjunction (ws : List String) (w : String) :
    both (conjunction ws) (some w) = conjunction (ws ++ [w]) := by
  cases ws with
  | nil => rfl
  | cons v ws => simp [conjunction, both, List.foldl_append]

theorem foldl_combine (f : Fragment) (ws : List String) (fs : List Fragment)
    (h : f.condition = conjunction ws) :
    (fs.foldl combine f).condition = conjunction (ws ++ fs.filterMap (·.condition)) ∧
      (fs.foldl combine f).order = f.order.orElse fun _ => fs.findSome? (·.order) := by
  induction fs generalizing f ws with
  | nil => cases hf : f.order <;> simp [h, hf]
  | cons g fs ih =>
    have hg : (f.combine g).condition = conjunction (ws ++ g.condition.toList) := by
      cases hc : g.condition with
      | none =>
        rw [combine, h, hc, Option.toList_none, List.append_nil]
        cases conjunction ws <;> rfl
      | some w =>
        rw [combine, h, hc]
        exact both_conjunction ws w
    obtain ⟨hcond, horder⟩ := ih (f.combine g) _ hg
    constructor
    · rw [List.foldl_cons, hcond]
      cases hc : g.condition <;> simp [hc]
    · rw [List.foldl_cons, horder]
      cases hf : f.order <;> cases hgo : g.order <;> simp [combine, hf, hgo]

theorem combineAll_condition (fs : List Fragment) :
    (combineAll fs).condition = conjunction (fs.filterMap (·.condition)) :=
  (foldl_combine empty [] fs rfl).1

theorem combineAll_order (fs : List Fragment) :
    (combineAll fs).order = fs.findSome? (·.order) :=
  (foldl_combine empty [] fs rfl).2

theorem toList_foldl_and (ws : List String) (acc : String) :
    (ws.foldl (fun acc w => "(" ++ acc ++ ") AND (" ++ w ++ ")") acc).toList =
      List.replicate ws.length '(' ++ acc.toList ++
        ws.flatMap fun w => ") AND (".toList ++ w.toList ++ [')'] := by
  -- Each step puts one more parenthesis in front of all that is joined so far.
  induction ws generalizing acc with
  | nil => simp
  | cons w ws ih =>
    rw [List.foldl_cons, ih, List.length_cons, List.replicate_succ']
    simp

end IssueQuery.Fragment
