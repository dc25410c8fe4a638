import IssueQuery.Intent.Basic
import IssueQuery.Query.Fragment
import IssueQuery.Text.Basic
import IssueQuery.Text.Case

namespace IssueQuery

open Text

structure Clause where
  name : String
  applies : Intent → Bool
  emit : Intent → Fragment

namespace Clause

def quote (value : String) : String :=
  "\"" ++ value ++ "\""

def oneOf? (field : String) : List String → Option String
  | [] => none
  | [v] => some (field ++ " = " ++ quote v)
  | vs => some (field ++ " IN (" ++ join ", " (vs.map quote) ++ ")")

def within? (field : String) (w : DateWindow) : Option String :=
  match w.lastDays with
  | some days => some (field ++ " >= -" ++ toString days ++ "d")
  | none =>
    let lower := w.start.map fun d => field ++ " >= " ++ quote d.shortIso
    let upper := w.stop.map fun d => field ++ " <= " ++ quote d.shortIso
    match lower, upper with
    | some a, some b => some (a ++ " AND " ++ b)
    | some a, none => some a
    | none, b => b

def present (s : Option String) : Option String :=
  s.filter (!·.isEmpty)

def currentUser : String := "currentuser"

def unassigned : String := "unassigned"

def assigneeCondition (name : String) : String :=
  if lower name == currentUser then "assignee = currentUser()"
  else if lower name == unassigned then "assignee is EMPTY"
  else "assignee = " ++ quote name

def ofCondition? (c : Option String) : Fragment :=
  (c.map Fragment.ofCondition).getD Fragment.empty

def assignee : Clause where
  name := "assignee"
  applies i := (present i.allFilters.assignee).isSome
  emit i := ofCondition? ((present i.allFilters.assignee).map assigneeCondition)

def project : Clause where
  name := "project"
  applies i := (present i.allFilters.project).isSome
  emit i := ofCondition? ((present i.allFilters.project).map fun p => "project = " ++ quote p)

def ofList (name field : String) (values : Filters → Option (List String)) : Clause where
  name := name
  applies i := !((values i.allFilters).getD []).isEmpty
  emit i := ofCondition? (oneOf? field ((values i.allFilters).getD []))

def status : Clause := ofList "status" "status" Filters.status

def issueType : Clause := ofList "issue_type" "type" Filters.issueTypes

def priority : Clause := ofList "priority" "priority" Filters.priorities

def labels : Clause := ofList "labels" "labels" Filters.labels

def components : Clause := ofList "components" "component" Filters.components

def dateRange : Clause where
  name := "date_range"
  applies i := i.allFilters.updated.isSome || i.allFilters.created.isSome
  emit i :=
    let f := i.allFilters
    match f.updated.bind (within? "updated"), f.created.bind (within? "created") with
    | some a, some b => Fragment.ofCondition (a ++ " AND " ++ b)
    | some a, none => Fragment.ofCondition a
    | none, b => ofCondition? b

def searchText (i : Intent) : Option String :=
  present (i.search.map strip)

def textSearch : Clause where
  name := "text_search"
  applies i := (searchText i).isSome
  emit i := ofCondition? ((searchText i).map fun s => "text ~ " ++ quote s)

def orderText (fields : List SortField) : String :=
  join ", " (fields.map fun s => s.field ++ " " ++ upper s.order)

def sort : Clause where
  name := "sort"
  applies i := !(i.sort.getD []).isEmpty
  emit i :=
    match i.sort.getD [] with
    | [] => Fragment.empty
    | fields => Fragment.ofOrder (orderText fields)

def all : List Clause :=
  [assignee, project, status, issueType, priority, dateRange, labels, components, textSearch, sort]

def find? (name : String) : Option Clause :=
  all.find? (·.name == name)

def constant (name : String) (applies : Bool) (fragment : Fragment) : Clause where
  name := name
  applies _ := applies
  emit _ := fragment

end Clause

end IssueQuery
