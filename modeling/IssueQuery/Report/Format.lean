import IssueQuery.Report.Structured
import IssueQuery.Report.Summary

namespace IssueQuery

open Calendar (Timestamp)

inductive Format where
  | table
  | detail
  | json
  | summary
  deriving Repr, DecidableEq

namespace Format

def standardName : String := "table"

def named : OrderedMap Format :=
  [("table", table), ("detail", detail), ("json", json), ("summary", summary)]

def names : List String :=
  ["detail", "json", "summary", "table"]

def ofName (name : Option String) : Format :=
  match name with
  | some name => ((named.get? (Text.fold name))).getD table
  | none => table

end Format

namespace Findings

def render (columns : ColumnSets) (now : Timestamp) (f : Findings) : Format → Outcome String
  | .table => f.table columns.table now
  | .detail => f.table columns.detail now
  | .json => .ok f.json
  | .summary => f.summary now

end Findings

end IssueQuery
