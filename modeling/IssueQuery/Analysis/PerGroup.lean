import IssueQuery.Analysis.Grouping
import IssueQuery.Analysis.Measure

namespace IssueQuery

open Calendar (Timestamp)

namespace Registry

def addGroup (names : List String) (table : OrderedMap (OrderedMap Value)) (label : String)
    (values : OrderedMap Value) : OrderedMap (OrderedMap Value) :=
  names.foldl (fun table name =>
    let row := (OrderedMap.get? table name).getD []
    OrderedMap.put table name (OrderedMap.put row label ((OrderedMap.get? values name).getD .null))) table

def byGroup (r : Registry) (groups : List Group) (now : Timestamp) (names : List String) :
    Outcome (OrderedMap (OrderedMap Value)) :=
  groups.foldlM (fun table g =>
    (r.evaluate g.records now names).map (addGroup names table g.value.asText))
    (OrderedMap.ofList (names.map (·, [])))

mutual

def annotate (r : Registry) (now : Timestamp) (names : List String) : Group → Outcome Group
  | ⟨key, value, records, subgroups, _⟩ => do
    let subgroups ← annotateAll r now names subgroups
    let values ← r.evaluate records now names
    return ⟨key, value, records, subgroups, some values⟩

def annotateAll (r : Registry) (now : Timestamp) (names : List String) :
    List Group → Outcome (List Group)
  | [] => .ok []
  | g :: gs => do
    let g ← annotate r now names g
    let gs ← annotateAll r now names gs
    return g :: gs

end

end Registry

end IssueQuery
