import IssueQuery.Yaml.Document
import IssueQuery.Fault

namespace IssueQuery

structure ColumnSets where
  table : List String
  detail : List String
  deriving Repr, DecidableEq

namespace ColumnSets

def standard : ColumnSets where
  table := ["key", "summary", "status", "assignee", "updated"]
  detail := ["key", "summary", "status", "priority", "issue_type", "assignee", "reporter", "days_open",
    "days_since_update", "updated"]

def configured (d : Yaml.Document) (usual : List String) : Option Yaml.Item → Outcome (List String)
  | none => .ok usual
  | some v =>
    if d.isTruthy v then
      match d.itemTexts? v with
      | some texts => texts.mapError Fault.yaml
      | none => .error (.noItems (d.kind v))
    else .ok usual

def setsOf? (d : Yaml.Document) : Option Yaml.Item :=
  (d.entries? d.root).bind (Yaml.Document.member? · "sets")

def ofDocument (d : Yaml.Document) : Outcome ColumnSets :=
  match setsOf? d with
  | none => .ok standard
  | some sets =>
    match d.entries? sets with
    | some entries => do
      let table ← configured d standard.table (Yaml.Document.member? entries "table")
      let detail ← configured d standard.detail (Yaml.Document.member? entries "detail")
      return ⟨table, detail⟩
    | none => .error (.noMembers (d.kind sets))

/-- The column sets of a file that may not exist, by the document that it is read as. A file that breaks the rules
of documents configures nothing. -/
def load : Option (Except Failure Yaml.Document) → Outcome ColumnSets
  | none => .ok standard
  | some (.ok d) => ofDocument d
  | some (.error failure) => if failure.isA .markup then .ok standard else .error (.foreign failure)

def get (sets : ColumnSets) : String → List String
  | "table" => sets.table
  | "detail" => sets.detail
  | _ => []

end ColumnSets

end IssueQuery
