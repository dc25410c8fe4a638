
namespace IssueQuery

structure Fragment where
  condition : Option String
  order : Option String
  deriving Repr, DecidableEq

namespace Fragment

def empty : Fragment := ⟨none, none⟩

def ofCondition (text : String) : Fragment := ⟨some text, none⟩

def ofOrder (text : String) : Fragment := ⟨none, some text⟩

def both : Option String → Option String → Option String
  | some a, some b => some ("(" ++ a ++ ") AND (" ++ b ++ ")")
  | some a, none => some a
  | none, b => b

/-- The first order wins. -/
def combine (left right : Fragment) : Fragment :=
  ⟨both left.condition right.condition, left.order.orElse fun _ => right.order⟩

@[simp] theorem empty_combine (f : Fragment) : empty.combine f = f := by
  simp [combine, empty, both]

@[simp] theorem combine_empty (f : Fragment) : f.combine empty = f := by
  obtain ⟨condition, order⟩ := f
  cases condition <;> cases order <;> rfl

def combineAll (fragments : List Fragment) : Fragment :=
  fragments.foldl combine empty

end Fragment

end IssueQuery
