import IssueQuery.Issue.Basic
import IssueQuery.Query.Compiler
import IssueQuery.Value

namespace IssueQuery

/-- A number of issues as a tracker states it; a truth value stands for one or none. -/
inductive Total where
  | count (n : Int)
  | flag (b : Bool)
  deriving Repr, DecidableEq

namespace Total

def toInt : Total → Int
  | .count n => n
  | .flag b => if b then 1 else 0

def toJson : Total → Json
  | .count n => .int n
  | .flag b => .bool b

def text (t : Total) : String :=
  t.toJson.asText

def ofJson? : Json → Option Total
  | .int n => some (.count n)
  | .bool b => some (.flag b)
  | _ => none

end Total

structure SearchResult (α : Type) where
  issues : List (IssueOf α)
  query : String
  total : Total

namespace Query

def defaultPageSize : Int := 50

def pageSize (q : Query) : Int :=
  match q.limit with
  | none | some 0 => defaultPageSize
  | some n => n

/-- The first elements of a list; a negative number says how many of the last are left out. -/
def firstOf {α : Type} (n : Int) (xs : List α) : List α :=
  if n < 0 then xs.take (xs.length - n.natAbs) else xs.take n.toNat

end Query

end IssueQuery
