import IssueQuery.Analysis.Distinct
import IssueQuery.Calendar.Day
import IssueQuery.Issue.Basic
import IssueQuery.Fault
import IssueQuery.Text.Case
import IssueQuery.Text.Basic

namespace IssueQuery

open Calendar (Timestamp)

inductive Cell where
  | text (s : String)
  | time (t : Timestamp)
  | number (x : Float)
  | missing

structure Column where
  name : String
  numeric : Bool
  cells : List Cell

abbrev Frame := List Column

namespace Cell

def ofTime? (t : Option Timestamp) : Cell :=
  (t.map time).getD missing

def daysFrom : Cell → Cell → Cell
  | .time start, .time stop =>
    .number (Number.toTenth (Calendar.daysOfMicros (stop.utcWall - start.utcWall)))
  | _, _ => .missing

def toDay : Cell → Cell
  | .time t => .text (Calendar.Day.ofNumber (t.utcWall / Calendar.microsPerDay)).iso
  | c => c

end Cell

namespace Frame

/-- Distinct tags in alphabetical order without regard to case; tags that differ in case only stay in
their order. -/
def sortTags (tags : List String) : List String :=
  tags.mergeSort fun a b => !(Text.lower b < Text.lower a)

def tagText (tags : List String) : String :=
  Text.join ", " (sortTags ((distinct tags).filter (!·.isEmpty)))

def textColumn (name : String) (get : Issue → String) (issues : List Issue) : Column :=
  ⟨name, false, issues.map fun i => .text (get i)⟩

def timeColumn (name : String) (get : Issue → Option Timestamp) (issues : List Issue) : Column :=
  ⟨name, false, issues.map fun i => Cell.ofTime? (get i)⟩

def resolutionText (i : Issue) : String :=
  match i.resolution with
  | some s => if s.isEmpty then "Unresolved" else s
  | none => "Unresolved"

def reporterName (i : Issue) : String :=
  match i.reporter with
  | some u => u.displayName
  | none => "Unknown"

def ofIssues : List Issue → Frame
  | [] => []
  | issues =>
    [textColumn "key" (·.key) issues, textColumn "summary" (·.summary) issues,
      textColumn "status" (·.status) issues, textColumn "priority" (·.priority) issues,
      textColumn "issue_type" (·.issueType) issues, textColumn "project" (·.project) issues,
      textColumn "assignee" (·.assigneeName) issues, textColumn "reporter" reporterName issues,
      timeColumn "created" (fun i => some i.created) issues,
      timeColumn "updated" (fun i => some i.updated) issues,
      textColumn "resolution" resolutionText issues,
      timeColumn "resolution_date" (fun i => i.resolutionDate.map (·.toTimestamp)) issues,
      textColumn "labels" (fun i => tagText i.labels) issues,
      textColumn "components" (fun i => tagText i.components) issues]

def names (f : Frame) : List String :=
  f.map (·.name)

def find? (f : Frame) (name : String) : Option Column :=
  List.find? (·.name == name) f

def cellsOf (f : Frame) (name : String) : Outcome (List Cell) :=
  match f.find? name with
  | some c => .ok c.cells
  | none => .error (.missingColumn name)

def numberColumn (name : String) (cells : List Cell) : Column :=
  ⟨name, true, cells⟩

def dropColumns (f : Frame) (dropped : List String) : Frame :=
  f.filter fun c => !dropped.contains c.name

def withAges (now : Timestamp) (f : Frame) : Outcome Frame := do
  if f.isEmpty then return f
  let now ← ofClock now.toUtc
  let created ← f.cellsOf "created"
  let updated ← f.cellsOf "updated"
  let ages := [numberColumn "days_open" (created.map fun c => c.daysFrom (.time now)),
    numberColumn "days_since_update" (updated.map fun c => c.daysFrom (.time now))]
  match f.find? "resolution_date" with
  | some resolved =>
    return f ++ ages ++
      [numberColumn "time_to_resolution_days" (List.zipWith Cell.daysFrom created resolved.cells)]
  | none => return f ++ ages

end Frame

end IssueQuery
