import IssueQuery.Json.Writer
import IssueQuery.Report.Table

namespace IssueQuery

def textOrNull (s : Option String) : Json :=
  (s.map Json.text).getD .null

def textList (ss : List String) : Json :=
  .list (ss.map .text)

namespace IssueOf

def userJson (u : Option User) : Json :=
  match u with
  | some u => .object [("accountId", .text u.accountId), ("displayName", .text u.displayName),
      ("emailAddress", textOrNull u.email)]
  | none => .null

def toJson (i : Issue) : Json :=
  .object [("key", .text i.key), ("summary", .text i.summary), ("status", .text i.status),
    ("priority", .text i.priority), ("issueType", .text i.issueType), ("project", .text i.project),
    ("assignee", userJson i.assignee), ("reporter", userJson i.reporter),
    ("created", .text i.created.iso), ("updated", .text i.updated.iso),
    ("resolutionDate", textOrNull (i.resolutionDate.map (·.iso))), ("labels", textList i.labels),
    ("components", textList i.components), ("fixVersions", textList i.fixVersions)]

end IssueOf

namespace Value

def scalarJson : Value → Json
  | .text s => .text s
  | .bool b => .bool b
  | .int n => .int n
  | .float x => .float x
  | v => .text v.asText

def entriesJson (m : OrderedMap Value) : Json :=
  (Value.map m).toJson

end Value

namespace Group

def listOrNull : List Json → Json
  | [] => .null
  | vs => .list vs

mutual

def toJson : Group → Json
  | ⟨key, value, records, subgroups, aggregations⟩ =>
    .object [("key", .text key), ("value", value.scalarJson), ("issueCount", .int records.length),
      ("issues", .list (records.map (·.toJson))), ("subGroups", listOrNull (listJson subgroups)),
      ("aggregations", (aggregations.map Value.entriesJson).getD .null)]

def listJson : List Group → List Json
  | [] => []
  | g :: gs => toJson g :: listJson gs

end

end Group

namespace Findings

def toJson (f : Findings) : Json :=
  let part (get : Processed → Json) : Json := (f.processed.map get).getD .null
  .object [("generatedJql", .text f.result.query), ("total", f.result.total.toJson),
    ("issues", .list (f.result.issues.map (·.toJson))),
    ("groups", part fun p => .list (Group.listJson p.groups)),
    ("calculations", part fun p => Value.entriesJson p.calculations),
    ("aggregations", part fun p => Value.entriesJson p.aggregations),
    ("metadata", part fun p => Value.entriesJson p.metadata)]

def json (f : Findings) : String :=
  f.toJson.pretty 0

end Findings

end IssueQuery
