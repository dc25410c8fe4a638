import IssueQuery.Report.Columns
import IssueQuery.Report.Layout
import IssueQuery.Report.Section
import IssueQuery.Tracker.Result

namespace IssueQuery

open Text
open Calendar (Timestamp)

structure Findings where
  result : SearchResult String
  processed : Option Processed

namespace Findings

def groups (f : Findings) : List Group :=
  (f.processed.map (·.groups)).getD []

def calculations (f : Findings) : OrderedMap Value :=
  (f.processed.map (·.calculations)).getD []

def aggregations (f : Findings) : OrderedMap Value :=
  (f.processed.map (·.aggregations)).getD []

end Findings

namespace IssueTable

def rowLimit : Nat := 20

def summaryLimit : Nat := 44

def timeColumns : List String := ["created", "updated", "resolution_date"]

def shown (c : Column) : Column :=
  if timeColumns.contains c.name then { c with cells := c.cells.map Cell.toDay }
  else if c.name == "summary" then
    { c with cells := c.cells.map fun cell =>
        match cell with
        | .text s => .text (truncate s summaryLimit)
        | cell => cell }
  else c

def choose (names : List String) (f : Frame) : Outcome Frame :=
  let known := names.filter f.names.contains
  if timeColumns.any fun name => known.count name > 1 then .error .repeatedColumn
  else .ok (if known.isEmpty then f else known.filterMap f.find?)

def footer (result : SearchResult String) : List String :=
  let found := result.issues.length
  if found > rowLimit || result.total.toInt > found then
    ["", "Showing first " ++ toString (min found rowLimit) ++ " of " ++ result.total.text ++ " results"]
  else []

def lines (names : List String) (now : Timestamp) (result : SearchResult String) :
    Outcome (List String) := do
  let frame ← (Frame.ofIssues (result.issues.take rowLimit)).withAges now
  let view ← choose names frame
  return Frame.layout (view.map shown) ++ footer result

end IssueTable

namespace Findings

def bodyLines (names : List String) (now : Timestamp) (f : Findings) : Outcome (List String) :=
  if !f.groups.isEmpty then .ok ((Group.outlineAll 0 f.groups).map (·.text))
  else if !f.result.issues.isEmpty then IssueTable.lines names now f.result
  else .ok ["No issues found matching your query."]

def table (names : List String) (now : Timestamp) (f : Findings) : Outcome String := do
  let body ← f.bodyLines names now
  return join "\n" (["Generated JQL: " ++ f.result.query, ""] ++ body ++
    sectionOf "Calculations:" f.calculations ++ sectionOf "Aggregations:" f.aggregations)

end Findings

end IssueQuery
