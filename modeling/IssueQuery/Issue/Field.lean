import IssueQuery.Issue.Basic
import IssueQuery.OrderedMap
import IssueQuery.Value
import IssueQuery.Text.Case
import IssueQuery.Text.Basic

namespace IssueQuery

open Calendar (Moment)

inductive FieldValue where
  | text (s : String)
  | tags (ss : List String)
  | time (t : Moment)
  deriving DecidableEq

/-- What makes two field values the same: of times with an offset, the instant, and the reading where the zone gives
it two of them. -/
inductive FieldKey where
  | text (s : String)
  | tags (ss : List String)
  | instant (utc : Int)
  | wall (micros : Int)
  | ambiguous (zone : String) (micros : Int)
  deriving DecidableEq

namespace FieldValue

def key : FieldValue → FieldKey
  | .text s => .text s
  | .tags ss => .tags ss
  | .time t =>
    match t.ambiguousIn with
    | some zone => .ambiguous zone t.wall
    | none => if t.isAware then .instant t.utcWall else .wall t.wall

def toValue : FieldValue → Value
  | .text s => .text s
  | .tags ss => .tuple (ss.map .text)
  | .time t => .time t

end FieldValue

namespace Field

abbrev Accessor := Issue → Option FieldValue

def ofText (get : Issue → String) : Accessor := fun i => some (.text (get i))

def ofOption (get : Issue → Option String) : Accessor := fun i => (get i).map .text

def ofTags (get : Issue → List String) : Accessor := fun i => some (.tags (get i))

def ofTime (get : Issue → Moment) : Accessor := fun i => some (.time (get i))

def accessors : OrderedMap Accessor :=
  [("key", ofText (·.key)), ("summary", ofText (·.summary)), ("status", ofText (·.status)),
    ("priority", ofText (·.priority)), ("type", ofText (·.issueType)),
    ("issuetype", ofText (·.issueType)), ("issue_type", ofText (·.issueType)),
    ("project", ofText (·.project)),
    ("assignee", ofOption fun i => i.assignee.map (·.displayName)),
    ("assignee.email", ofOption fun i => i.assignee.bind (·.email)),
    ("reporter", ofOption fun i => i.reporter.map (·.displayName)),
    ("reporter.email", ofOption fun i => i.reporter.bind (·.email)),
    ("created", ofTime (·.created)), ("updated", ofTime (·.updated)),
    ("resolutiondate", fun i => i.resolutionDate.map .time),
    ("resolution", ofOption (·.resolution)), ("labels", ofTags (·.labels)),
    ("components", ofTags (·.components)), ("fixversions", ofTags (·.fixVersions))]

def normalize (path : String) : String :=
  Text.fold (Text.strip path)

def accessor? (path : String) : Option Accessor :=
  accessors.get? (normalize path)

def canAccess (path : String) : Bool :=
  (accessor? path).isSome

def get (i : Issue) (path : String) : Option FieldValue :=
  (accessor? path).bind (· i)

def labelled (i : Issue) (path : String) : FieldValue :=
  (get i path).getD (.text unassignedLabel)

end Field

end IssueQuery
