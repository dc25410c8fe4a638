import IssueQuery.Analysis.PerGroup
import IssueQuery.Intent.Basic
import IssueQuery.Number.Quantity

namespace IssueQuery

open Calendar (Timestamp)

structure ProcessingOptions where
  groupBy : List String
  calculate : List String
  aggregate : List String
  outputFormat : Option String
  deriving DecidableEq

def ProcessingOptions.none : ProcessingOptions := ⟨[], [], [], .none⟩

structure ProcessingContext where
  records : List Issue
  intent : Option Intent
  options : ProcessingOptions

structure Processed where
  records : List Issue
  groups : List Group
  calculations : OrderedMap Value
  aggregations : OrderedMap Value
  metadata : OrderedMap Value

namespace Processed

def empty : Processed := ⟨[], [], [], [], []⟩

def laterList {α : Type} (current incoming : List α) : List α :=
  if incoming.isEmpty then current else incoming

def merge (current incoming : Processed) : Processed where
  records := laterList current.records incoming.records
  groups := laterList current.groups incoming.groups
  calculations := OrderedMap.merge current.calculations incoming.calculations
  aggregations := OrderedMap.merge current.aggregations incoming.aggregations
  metadata := OrderedMap.merge current.metadata incoming.metadata

end Processed

structure Stage where
  name : String
  priority : Number.Quantity
  applies : ProcessingContext → Bool
  apply : ProcessingContext → Outcome Processed

namespace Stage

def texts (ss : List String) : Value :=
  .list (ss.map .text)

def grouping : Stage where
  name := "grouping"
  priority := .whole 10
  applies c := !c.options.groupBy.isEmpty
  apply c :=
    let groups := Group.groupBy c.options.groupBy c.records
    .ok { Processed.empty with
      groups := groups
      metadata := [("grouped_by", texts c.options.groupBy), ("group_count", .int groups.length)] }

def calculation (clock : Outcome Timestamp) : Stage where
  name := "calculation"
  priority := .whole 20
  applies c := !c.options.calculate.isEmpty
  apply c := do
    let now ← clock
    let values ← Registry.calculations.evaluate c.records now c.options.calculate
    return { Processed.empty with
      calculations := values
      metadata := [("calculation_count", .int values.length)] }

def aggregation (clock : Outcome Timestamp) : Stage where
  name := "aggregation"
  priority := .whole 30
  applies c := !c.options.aggregate.isEmpty
  apply c := do
    let now ← clock
    let values ← Registry.aggregations.evaluate c.records now c.options.aggregate
    return { Processed.empty with
      aggregations := values
      metadata := [("aggregation_count", .int values.length)] }

def defaults (clock : Outcome Timestamp) : List Stage :=
  [grouping, calculation clock, aggregation clock]

/-- By priority; stages of equal priority stay in their order. -/
def inOrder (stages : List Stage) : List Stage :=
  stages.mergeSort fun a b => !b.priority.less a.priority

def step (c : ProcessingContext) (result : Processed) (s : Stage) : Outcome Processed :=
  (s.apply c).map result.merge

end Stage

def process (stages : List Stage) (c : ProcessingContext) : Outcome Processed := do
  let applicable := (Stage.inOrder stages).filter (·.applies c)
  let result ← applicable.foldlM (Stage.step c) { Processed.empty with records := c.records }
  return result.merge { Processed.empty with
    metadata := [("processors", Stage.texts (applicable.map (·.name)))] }

end IssueQuery
