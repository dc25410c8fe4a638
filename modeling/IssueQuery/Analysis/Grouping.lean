import IssueQuery.Issue.Field

namespace IssueQuery

structure Group where
  key : String
  value : Value
  records : List Issue
  subgroups : List Group
  aggregations : Option (OrderedMap Value)

namespace Group

def isLeaf (g : Group) : Bool :=
  g.subgroups.isEmpty

mutual

def leaves (g : Group) : List Group :=
  match g with
  | ⟨key, value, records, [], aggregations⟩ => [⟨key, value, records, [], aggregations⟩]
  | ⟨_, _, _, sub :: subs, _⟩ => leaves sub ++ leavesOf subs

def leavesOf : List Group → List Group
  | [] => []
  | g :: gs => leaves g ++ leavesOf gs

end

/-- Adds an issue to those with the same value, or begins a new part with it. A part keeps its first value. -/
def addTo (v : FieldValue) (i : Issue) : List (FieldValue × List Issue) → List (FieldValue × List Issue)
  | [] => [(v, [i])]
  | (w, members) :: rest =>
    if w.key == v.key then (w, members ++ [i]) :: rest else (w, members) :: addTo v i rest

def partition (field : String) (records : List Issue) : List (FieldValue × List Issue) :=
  records.foldl (fun parts i => addTo (Field.labelled i field) i parts) []

def groupBy : List String → List Issue → List Group
  | [], _ => []
  | field :: fields, records =>
    (partition field records).map fun (v, members) =>
      ⟨field, v.toValue, members, groupBy fields members, none⟩

end Group

end IssueQuery
