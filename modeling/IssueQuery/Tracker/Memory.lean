import IssueQuery.Analysis.Distinct
import IssueQuery.Tracker.Condition
import IssueQuery.Tracker.Result

namespace IssueQuery

open Calendar (Timestamp)

namespace Memory

def search (issues : List Issue) (now : Timestamp) (q : Query) : Outcome (SearchResult String) := do
  let found ← Condition.keepAll now (Condition.ofText q.text) issues
  return ⟨Query.firstOf q.pageSize found, q.text, .count found.length⟩

def fetch (issues : List Issue) (key : String) : Option Issue :=
  issues.find? fun i => Text.lower i.key == Text.lower key

def projects (issues : List Issue) : List String :=
  distinct (issues.map (·.project))

end Memory

end IssueQuery
