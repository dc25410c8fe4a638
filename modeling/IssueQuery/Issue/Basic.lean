import IssueQuery.Calendar.Timestamp
import IssueQuery.Json.Basic

namespace IssueQuery

open Calendar (Moment)

structure UserOf (α : Type) where
  accountId : α
  displayName : α
  email : Option α
  deriving DecidableEq

structure IssueOf (α : Type) where
  id : Option α
  key : α
  summary : α
  description : Option String
  status : α
  priority : α
  issueType : α
  assignee : Option (UserOf α)
  reporter : Option (UserOf α)
  project : α
  created : Moment
  updated : Moment
  resolutionDate : Option Moment
  resolution : Option α
  labels : List α
  components : List String
  fixVersions : List String
  deriving DecidableEq

abbrev User := UserOf String

abbrev Issue := IssueOf String

abbrev RawIssue := IssueOf Json

def unassignedLabel : String := "Unassigned"

namespace IssueOf

def assigneeName (i : Issue) : String :=
  match i.assignee with
  | some u => u.displayName
  | none => unassignedLabel

end IssueOf

end IssueQuery
