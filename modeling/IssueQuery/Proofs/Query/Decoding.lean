import IssueQuery.Proofs.Query.Canonical

namespace IssueQuery

open Text

namespace Query

def readMore? : Nat → List Char → Option (List Comparison × List Char)
  | 0, _ => none
  | fuel + 1, cs =>
    let cs := cs.dropWhile (· == ')')
    match dropPrefix? " AND ".toList cs with
    | none => some ([], cs)
    | some cs => do
      let (c, cs) ← Comparison.read? (cs.dropWhile (· == '('))
      let (more, rest) ← readMore? fuel cs
      return (c :: more, rest)

def readCondition? (fuel : Nat) (cs : List Char) : Option (List Comparison × List Char) := do
  let (c, cs) ← Comparison.read? (cs.dropWhile (· == '('))
  let (more, rest) ← readMore? fuel cs
  return (c :: more, rest)

def readSortField? (cs : List Char) : Option SortField :=
  let before (direction : String) : Option SortField :=
    (dropPrefix? direction.toList.reverse cs.reverse).bind fun back =>
      (dropPrefix? [' '] back).map fun back => ⟨String.ofList back.reverse, direction⟩
  (before ascending).orElse fun _ => before descending

def readOrder? (cs : List Char) : Option (Option (List SortField)) :=
  match cs.dropWhile (· == ' ') with
  | [] => some none
  | cs => do
    let fields ← dropPrefix? "ORDER BY".toList cs
    let fields ← (splitOnChar ',' fields).mapM fun piece => (dropPrefix? [' '] piece).bind readSortField?
    return some fields

end Query

namespace CanonicalIntent

def assigneesOf : Comparison → List Assignee
  | .mine => [.asking]
  | .unassigned => [.nobody]
  | .assignedTo name => [.named name]
  | _ => []

def valuesOf (f : MatchField) : Comparison → List String
  | .equals g v => if g = f then [v] else []
  | .oneOf g vs => if g = f then vs else []
  | _ => []

def daysOf (f : TimeField) : Comparison → List Int
  | .lastDays g n => if g = f then [n] else []
  | _ => []

def startsOf (f : TimeField) : Comparison → List Calendar.Date
  | .notBefore g d => if g = f then [d] else []
  | _ => []

def stopsOf (f : TimeField) : Comparison → List Calendar.Date
  | .notAfter g d => if g = f then [d] else []
  | _ => []

def textsOf : Comparison → List String
  | .mentions s => [s]
  | _ => []

def windowOf (f : TimeField) (cs : List Comparison) : Option DateWindow :=
  DateWindow.canonical
    ⟨(cs.flatMap (daysOf f)).head?, (cs.flatMap (startsOf f)).head?, (cs.flatMap (stopsOf f)).head?⟩

def ofComparisons (cs : List Comparison) (sort : Option (List SortField)) (limit : Option Int) :
    CanonicalIntent :=
  let values (f : MatchField) : Option (List String) := presentList (some (cs.flatMap (valuesOf f)))
  { project := (cs.flatMap (valuesOf .project)).head?
    assignee := (cs.flatMap assigneesOf).head?
    status := values .status
    issueTypes := values .type
    priorities := values .priority
    labels := values .labels
    components := values .component
    created := windowOf .created cs
    updated := windowOf .updated cs
    search := (cs.flatMap textsOf).head?
    sort := sort
    limit := limit }

end CanonicalIntent

namespace Query

def decode? (q : Query) : Option CanonicalIntent := do
  let cs := q.text.toList
  let (comparisons, rest) ←
    if cs.isEmpty || (dropPrefix? "ORDER BY".toList cs).isSome then some ([], cs)
    else readCondition? (cs.length + 1) cs
  return .ofComparisons comparisons (← readOrder? rest) q.limit

end Query

namespace CanonicalIntent

theorem flatMap_ofAssignee (a : Option Assignee) :
    let part := a.toList.map Assignee.comparison
    part.flatMap assigneesOf = a.toList ∧ (∀ f, part.flatMap (valuesOf f) = []) ∧
      (∀ f, part.flatMap (daysOf f) = []) ∧ (∀ f, part.flatMap (startsOf f) = []) ∧
      (∀ f, part.flatMap (stopsOf f) = []) ∧ part.flatMap textsOf = [] := by
  match a with
  | none => simp
  | some .asking => simp [Assignee.comparison, assigneesOf, valuesOf, daysOf, startsOf, stopsOf, textsOf]
  | some .nobody => simp [Assignee.comparison, assigneesOf, valuesOf, daysOf, startsOf, stopsOf, textsOf]
  | some (.named _) => simp [Assignee.comparison, assigneesOf, valuesOf, daysOf, startsOf, stopsOf, textsOf]

theorem flatMap_ofValues (g : MatchField) (vs : List String) :
    let part := Comparison.ofValues g vs
    part.flatMap assigneesOf = [] ∧ (∀ f, part.flatMap (valuesOf f) = if g = f then vs else []) ∧
      (∀ f, part.flatMap (daysOf f) = []) ∧ (∀ f, part.flatMap (startsOf f) = []) ∧
      (∀ f, part.flatMap (stopsOf f) = []) ∧ part.flatMap textsOf = [] := by
  match vs with
  | [] => simp [Comparison.ofValues]
  | [v] => simp [Comparison.ofValues, assigneesOf, valuesOf, daysOf, startsOf, stopsOf, textsOf]
  | v :: w :: vs => simp [Comparison.ofValues, assigneesOf, valuesOf, daysOf, startsOf, stopsOf, textsOf]

def bounds (w : Option DateWindow) (bound : DateWindow → Option Calendar.Date) : List Calendar.Date :=
  match w with
  | some w => if w.lastDays.isNone then (bound w).toList else []
  | none => []

theorem flatMap_ofWindow (g : TimeField) (w : Option DateWindow) :
    let part := Comparison.ofWindow g w
    part.flatMap assigneesOf = [] ∧ (∀ f, part.flatMap (valuesOf f) = []) ∧
      (∀ f, part.flatMap (daysOf f) = if g = f then (w.bind (·.lastDays)).toList else []) ∧
      (∀ f, part.flatMap (startsOf f) = if g = f then bounds w (·.start) else []) ∧
      (∀ f, part.flatMap (stopsOf f) = if g = f then bounds w (·.stop) else []) ∧
      part.flatMap textsOf = [] := by
  match w with
  | none => simp [Comparison.ofWindow, bounds]
  | some ⟨some n, start, stop⟩ =>
    simp [Comparison.ofWindow, bounds, assigneesOf, valuesOf, daysOf, startsOf, stopsOf, textsOf]
  | some ⟨none, start, stop⟩ =>
    cases start <;> cases stop <;>
      simp [Comparison.ofWindow, bounds, assigneesOf, valuesOf, daysOf, startsOf, stopsOf, textsOf]

theorem flatMap_mentions (s : Option String) :
    let part := s.toList.map Comparison.mentions
    part.flatMap assigneesOf = [] ∧ (∀ f, part.flatMap (valuesOf f) = []) ∧
      (∀ f, part.flatMap (daysOf f) = []) ∧ (∀ f, part.flatMap (startsOf f) = []) ∧
      (∀ f, part.flatMap (stopsOf f) = []) ∧ part.flatMap textsOf = s.toList := by
  cases s <;> simp [assigneesOf, valuesOf, daysOf, startsOf, stopsOf, textsOf]

theorem presentList_getD {α : Type} (xs : Option (List α)) :
    presentList (some ((presentList xs).getD [])) = presentList xs := by
  match xs with
  | none => rfl
  | some [] => rfl
  | some (_ :: _) => rfl

theorem canonical_of_parts (w : Option DateWindow) :
    let c := w.bind DateWindow.canonical
    DateWindow.canonical ⟨c.bind (·.lastDays), (bounds c (·.start)).head?, (bounds c (·.stop)).head?⟩ =
      c := by
  match w with
  | none => rfl
  | some ⟨some n, start, stop⟩ => rfl
  | some ⟨none, start, stop⟩ => cases start <;> cases stop <;> rfl

theorem ofComparisons_parts (i : Intent) :
    ofComparisons i.canonical.parts.flatten i.canonical.sort i.limit = i.canonical := by
  have hu := canonical_of_parts i.allFilters.updated
  have hc := canonical_of_parts i.allFilters.created
  dsimp only at hu hc
  simp only [ofComparisons, windowOf, parts, List.flatten_cons, List.flatten_nil, List.flatMap_append,
    flatMap_ofAssignee, flatMap_ofValues, flatMap_ofWindow, flatMap_mentions,
    reduceCtorEq, if_true, if_false, List.append_nil, List.nil_append]
  simp only [Intent.canonical, presentList_getD, Option.head?_toList, hu, hc]

end CanonicalIntent

end IssueQuery
