import IssueQuery.Analysis.Pipeline
import IssueQuery.Text.Basic

namespace IssueQuery

open Text

def sectionLines (title : String) (values : OrderedMap Value) : List String :=
  ["", title] ++ values.map fun (name, v) => "  " ++ name ++ ": " ++ v.display

def sectionOf (title : String) (values : OrderedMap Value) : List String :=
  if values.isEmpty then [] else sectionLines title values

inductive GroupLine where
  | header (level : Nat) (key : String) (value : Value) (count : Nat)
  | measure (level : Nat) (name : String) (value : Value)
  | issue (level : Nat) (key summary : String)
  | more (level count : Nat)
  | blank

namespace GroupLine

def indent (level : Nat) : String :=
  String.ofList (List.replicate (2 * level) ' ')

def text : GroupLine → String
  | .header level key value count =>
    indent level ++ key ++ ": " ++ value.asText ++ " (" ++ toString count ++ " issues)"
  | .measure level name value => indent level ++ "  " ++ name ++ ": " ++ value.display
  | .issue level key summary => indent level ++ "  - " ++ key ++ ": " ++ summary
  | .more level count => indent level ++ "  ... and " ++ toString count ++ " more"
  | .blank => ""

end GroupLine

namespace Group

def previewLimit : Nat := 5

def summaryLimit : Nat := 40

def previewLines (level : Nat) (records : List Issue) : List GroupLine :=
  (records.take previewLimit).map (fun i => GroupLine.issue level i.key (truncate i.summary summaryLimit)) ++
    if records.length > previewLimit then [GroupLine.more level (records.length - previewLimit)] else []

def measureLines (level : Nat) (values : Option (OrderedMap Value)) : List GroupLine :=
  (values.getD []).map fun (name, v) => GroupLine.measure level name v

mutual

def outline (level : Nat) : Group → List GroupLine
  | ⟨key, value, records, subgroups, aggregations⟩ =>
    GroupLine.header level key value records.length :: measureLines level aggregations ++
      (match subgroups with
      | [] => previewLines level records
      | g :: gs => outline (level + 1) g ++ outlineAll (level + 1) gs) ++
      [GroupLine.blank]

def outlineAll (level : Nat) : List Group → List GroupLine
  | [] => []
  | g :: gs => outline level g ++ outlineAll level gs

end

end Group

end IssueQuery
