import IssueQuery.Issue.Payload
import IssueQuery.Json.Reader
import IssueQuery.Tracker.Result

namespace IssueQuery.Remote

open Calendar (Reader)

structure Request where
  url : String
  query : String
  pageSize : Int
  fields : List String

def searchPath : String := "/rest/api/3/search/jql"

def searchFields : List String :=
  ["summary", "description", "status", "priority", "issuetype", "assignee", "reporter", "project",
    "created", "updated", "resolutiondate", "resolution", "labels", "components", "fixVersions"]

def baseUrl (server : String) : String :=
  String.ofList (Text.stripEnd (· == '/') server.toList)

def request (server : String) (q : Query) : Request :=
  ⟨baseUrl server ++ searchPath, q.text, q.pageSize, searchFields⟩

inductive Reply where
  | noSession
  | refused (status : Option Int) (text : String)
  | unreachable (message : String)
  | response (status : Int) (body : String)

def firstFailure : Int := 400

def reportedLength : Nat := 200

def readBody (r : Reader) (room : Nat) (body : String) : Outcome (List RawIssue × OrderedMap Json) := do
  let payload ← (Json.read body).mapError Fault.unreadable
  let top ← IssuePayload.members payload
  let items ← IssuePayload.itemsOrNone (Json.member top "issues")
  return (← items.mapM (IssuePayload.issue r room), top)

/-- The classes of the faults that a search makes its own. -/
def caught : List FaultClass := [.value, .attribute, .type]

def search (r : Reader) (room : Nat) (q : Query) : Reply → Outcome (SearchResult Json)
  | .noSession => .error (.transport .noSession)
  | .refused status text => .error (.transport (.searchFailed status text))
  | .unreachable message => .error (.transport (.network message))
  | .response status body =>
    if status ≥ firstFailure then
      .error (.transport
        (.searchFailed (some status) (String.ofList (body.toList.take reportedLength))))
    else match readBody r room body with
      | .ok (issues, top) =>
        .ok ⟨issues, q.text, (Total.ofJson? (Json.member top "total")).getD (.count issues.length)⟩
      | .error fault =>
        if caught.any fault.isA then .error (.transport (.unreadableReply fault.message)) else .error fault

inductive Lookup (α : Type) where
  | refused (status : Option Int) (text : String)
  | found (value : α)

def notFound : Int := 404

def fetch (r : Reader) (room : Nat) (key : String) : Lookup Json → Outcome (Option RawIssue)
  | .refused status text =>
    if status == some notFound then .ok none
    else .error (.transport (.fetchFailed key text status))
  | .found (.object members) =>
    match IssuePayload.issue r room (.object members) with
    | .ok i => .ok (some i)
    | .error fault =>
      if fault.isA .value then .error (.transport (.unreadableIssue key fault.message))
      else .error fault
  | .found v => .error (.transport (.notAnIssue key v.kind))

def projects : Lookup (List String) → Outcome (List String)
  | .refused status text => .error (.transport (.projectsFailed text status))
  | .found keys => .ok keys

end IssueQuery.Remote
