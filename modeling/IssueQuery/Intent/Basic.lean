import IssueQuery.Calendar.Date

namespace IssueQuery

open Calendar (Date)

/-- A window of days: the last few, or those between two bounds that may each be missing. The number
of days takes precedence. -/
structure DateWindow where
  lastDays : Option Int
  start : Option Date
  stop : Option Date
  deriving Repr, DecidableEq

namespace DateWindow

def last (days : Int) : DateWindow := ⟨some days, none, none⟩

def between (start stop : Option Date) : DateWindow := ⟨none, start, stop⟩

end DateWindow

structure SortField where
  field : String
  order : String
  deriving Repr, DecidableEq

def ascending : String := "ASC"

def descending : String := "DESC"

structure Filters where
  project : Option String
  assignee : Option String
  status : Option (List String)
  issueTypes : Option (List String)
  priorities : Option (List String)
  labels : Option (List String)
  components : Option (List String)
  created : Option DateWindow
  updated : Option DateWindow
  deriving Repr, DecidableEq

namespace Filters

def none : Filters := ⟨.none, .none, .none, .none, .none, .none, .none, .none, .none⟩

end Filters

structure Intent where
  filters : Option Filters
  search : Option String
  sort : Option (List SortField)
  limit : Option Int
  deriving Repr, DecidableEq

namespace Intent

def empty : Intent := ⟨none, none, none, none⟩

def allFilters (i : Intent) : Filters :=
  i.filters.getD Filters.none

end Intent

end IssueQuery
