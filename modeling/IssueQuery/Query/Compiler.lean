import IssueQuery.Query.Clause

namespace IssueQuery

structure Query where
  text : String
  limit : Option Int
  deriving Repr, DecidableEq

namespace Query

def render (f : Fragment) : String :=
  let condition := Clause.present f.condition
  let order := (Clause.present f.order).map ("ORDER BY " ++ ·)
  match condition, order with
  | some a, some b => a ++ " " ++ b
  | some a, none => a
  | none, b => b.getD ""

def compileWith (clauses : List Clause) (i : Intent) : Query :=
  ⟨render (Fragment.combineAll ((clauses.filter (·.applies i)).map (·.emit i))), i.limit⟩

def compile (i : Intent) : Query :=
  compileWith Clause.all i

end Query

end IssueQuery
