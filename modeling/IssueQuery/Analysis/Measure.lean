import IssueQuery.Analysis.Distinct
import IssueQuery.Issue.Basic
import IssueQuery.Fault
import IssueQuery.Text.Case

namespace IssueQuery

open Calendar (Timestamp daysBetween)

abbrev Measure := List Issue → Timestamp → Outcome Value

namespace Measure

def daysOpen (now : Timestamp) (i : Issue) : Outcome Float :=
  ofClock (daysBetween i.created now)

def daysSinceUpdate (now : Timestamp) (i : Issue) : Outcome Float :=
  ofClock (daysBetween i.updated now)

def resolutionDays (i : Issue) : Outcome (Option Float) :=
  match i.resolutionDate with
  | none => .ok none
  | some t => (ofClock (daysBetween i.created t)).map some

def sum (xs : List Float) : Float :=
  xs.foldl (· + ·) 0.0

def average (xs : List Float) : Float :=
  sum xs / Number.ofInt xs.length

def mean (xs : List Float) : Value :=
  if xs.isEmpty then .int 0 else .float (average xs)

def extreme (better : Float → Float → Bool) : List Float → Value
  | [] => .int 0
  | x :: xs => .float (xs.foldl (fun best y => if better y best then y else best) x)

def floats (xs : List Float) : Value :=
  .list (xs.map .float)

def countMap (xs : List String) : Value :=
  .map ((counts xs).map fun (k, n) => (k, .int n))

def ages (records : List Issue) (now : Timestamp) : Outcome (List Float) :=
  records.mapM (daysOpen now)

def updateAges (records : List Issue) (now : Timestamp) : Outcome (List Float) :=
  records.mapM (daysSinceUpdate now)

def updateRate (days : Float) : Float :=
  if days ≤ 0.0 then 1.0 else 1.0 / days

def countOf (get : Issue → String) : Measure := fun records _ => .ok (countMap (records.map get))

def size : Measure := fun records _ => .ok (.int records.length)

def calculations : OrderedMap Measure :=
  [("age", fun records now => (ages records now).map floats),
    ("daysSinceUpdate", fun records now => (updateAges records now).map floats),
    ("velocity", fun records now => (updateAges records now).map fun xs => mean (xs.map updateRate)),
    ("avgAge", fun records now => (ages records now).map mean),
    ("avgDaysSinceUpdate", fun records now => (updateAges records now).map mean),
    ("avgResolutionDays", fun records _ => (records.mapM resolutionDays).map fun xs =>
      mean (xs.filterMap id)),
    ("totalCount", size),
    ("statusDistribution", countOf (·.status))]

def aggregations : OrderedMap Measure :=
  [("count", size),
    ("avg_age", fun records now => (ages records now).map mean),
    ("max_age", fun records now => (ages records now).map (extreme (· > ·))),
    ("min_age", fun records now => (ages records now).map (extreme (· < ·))),
    ("status_counts", countOf (·.status)),
    ("priority_counts", countOf (·.priority)),
    ("assignee_counts", countOf (·.assigneeName)),
    ("type_counts", countOf (·.issueType))]

end Measure

structure Registry where
  noun : String
  measures : OrderedMap Measure

namespace Registry

def put (r : Registry) (name : String) (m : Measure) : Registry :=
  { r with measures := OrderedMap.put r.measures (Text.fold name) m }

def ofMeasures (noun : String) (measures : OrderedMap Measure) : Registry :=
  measures.foldl (fun r (name, m) => r.put name m) ⟨noun, []⟩

/-- Further measures; one whose name is taken replaces the other. -/
def extend (r : Registry) (extra : OrderedMap Measure) : Registry :=
  extra.foldl (fun r (name, m) => r.put name m) r

def calculations : Registry :=
  ofMeasures "calculation" Measure.calculations

def aggregations : Registry :=
  ofMeasures "aggregation" Measure.aggregations

def get? (r : Registry) (name : String) : Option Measure :=
  OrderedMap.get? r.measures (Text.fold name)

def has (r : Registry) (name : String) : Bool :=
  (r.get? name).isSome

def value (r : Registry) (records : List Issue) (now : Timestamp) (name : String) : Outcome Value :=
  match r.get? name with
  | some m => m records now
  | none => .ok (.text ("Unknown " ++ r.noun ++ ": " ++ name))

def evaluate (r : Registry) (records : List Issue) (now : Timestamp) (names : List String) :
    Outcome (OrderedMap Value) :=
  names.foldlM (fun acc name => (r.value records now name).map (OrderedMap.put acc name)) []

end Registry

end IssueQuery
