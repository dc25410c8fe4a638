import IssueQuery.Report.Table

namespace IssueQuery

open Text
open Calendar (Timestamp)

def ranked (xs : List String) : OrderedMap Nat :=
  (counts xs).mergeSort fun a b => b.2 ≤ a.2

namespace Summary

def assigneeLimit : Nat := 5

def statuses (issues : List Issue) : OrderedMap Nat :=
  ranked (issues.map (·.status))

def topAssignees (issues : List Issue) : OrderedMap Nat :=
  (ranked (issues.map (·.assigneeName))).take assigneeLimit

def percentage (count total : Nat) : Float :=
  Number.ofInt count * 100.0 / Number.ofInt total

def statusLines (issues : List Issue) : List String :=
  (statuses issues).map fun (status, n) =>
    "  " ++ status ++ ": " ++ toString n ++ " (" ++ Number.fixed 1 (percentage n issues.length) ++ "%)"

def assigneeLines (issues : List Issue) : List String :=
  (topAssignees issues).map fun (name, n) => "  " ++ name ++ ": " ++ toString n ++ " issues"

def averageLine (what : String) (xs : List Float) : String :=
  "  Average " ++ what ++ ": " ++ Number.fixed 1 (Measure.average xs) ++ " days"

def issueLines (now : Timestamp) (issues : List Issue) : Outcome (List String) := do
  if issues.isEmpty then return []
  let ages ← Measure.ages issues now
  let updateAges ← Measure.updateAges issues now
  return ["Status Distribution:"] ++ statusLines issues ++ ["", "Top Assignees:"] ++
    assigneeLines issues ++ ["", "Time Metrics:", averageLine "age" ages,
      averageLine "days since update" updateAges]

def groupLines (g : Group) : List String :=
  ("  " ++ g.key ++ " '" ++ g.value.asText ++ "': " ++ toString g.records.length ++ " issues") ::
    (g.aggregations.getD []).map fun (name, v) => "    " ++ name ++ ": " ++ v.display

def groupSection (groups : List Group) : List String :=
  if groups.isEmpty then [] else ["Grouping Summary:"] ++ groups.flatMap groupLines ++ [""]

end Summary

namespace Findings

def summary (now : Timestamp) (f : Findings) : Outcome String := do
  let body ← Summary.issueLines now f.result.issues
  return join "\n" (["Query Summary: " ++ f.result.total.text ++ " issues found",
    "JQL: " ++ f.result.query, ""] ++ Summary.groupSection f.groups ++ body ++
    sectionOf "Custom Calculations:" f.calculations ++ sectionOf "Custom Aggregations:" f.aggregations)

end Findings

end IssueQuery
