import IssueQuery.Intent.Basic
import IssueQuery.Fault
import IssueQuery.Calendar.Reader

namespace IssueQuery.Payload

open Text
open Calendar (Date Reader)

def members? : Json → Option (OrderedMap Json)
  | .object members => some members
  | _ => none

def texts : Json → Outcome (Option (List String))
  | .null => .ok none
  | .text s => .ok (nonEmpty (kept [.text s]))
  | .list items => .ok (nonEmpty (kept items))
  | v => .error (.intent (.notTexts v.kind))
where
  kept (items : List Json) : List String :=
    items.filterMap fun v =>
      match v with
      | .null => none
      | v => if isBlankText v.asText then none else some v.asText
  nonEmpty (ss : List String) : Option (List String) :=
    if ss.isEmpty then none else some ss

def text? : Json → Option String
  | .null => none
  | v =>
    let s := strip v.asText
    if s.isEmpty then none else some s

def day (r : Reader) : Json → Outcome (Option Date)
  | .null => .ok none
  | .text s =>
    if s.isEmpty then .ok none
    else match r.day s with
      | .ok (some d) => .ok (some d)
      | .ok none => .error (.intent (.badDate (.text s)))
      | .error failure =>
        if failure.isA .value || failure.isA .type then .error (.intent (.badDate (.text s)))
        else .error (.foreign failure)
  | v => .error (.intent (.badDate v))

/-- The integer that a value stands for; a float loses its fraction. -/
def integer? : Json → Outcome (Option Int)
  | .bool b => .ok (some (if b then 1 else 0))
  | .int n => .ok (some n)
  | .float x =>
    match Number.Binary.ofFloat x with
    | .nan => .ok none
    | .infinite _ => .error .infiniteInteger
    | .finite negative mant exp => .ok (some (Number.integerPart negative mant exp))
  | .text s =>
    match Number.readInt s with
    | .value n => .ok (some n)
    | _ => .ok none
  | _ => .ok none

def integerFrom (what : String) (least : Int) : Json → Outcome (Option Int)
  | .null => .ok none
  | v => do
    match ← integer? v with
    | some n => if n < least then throw (.intent (.badNumber what v)) else return some n
    | none => throw (.intent (.badNumber what v))

/-- The value of one member, or of another where the first is missing; a null is not missing. -/
def either (members : OrderedMap Json) (key other : String) : Json :=
  ((members.get? key).orElse fun _ => members.get? other).getD .null

def bounds (members : OrderedMap Json) : Json × Json :=
  match members? (Json.member members "between") with
  | some inner => (Json.member inner "start", Json.member inner "end")
  | none => (either members "from" "after", either members "to" "before")

def window (r : Reader) : Json → Outcome (Option DateWindow)
  | .null => .ok none
  | .object members => do
    match ← integerFrom "lastDays" 0 (Json.member members "lastDays") with
    | some days => return some (DateWindow.last days)
    | none =>
      let start ← day r (bounds members).1
      let stop ← day r (bounds members).2
      return if start.isNone && stop.isNone then none else some (DateWindow.between start stop)
  | v => .error (.intent (.windowNotObject v.kind))

def orderText (members : OrderedMap Json) : String :=
  let stated := (Json.member members "order").orElse (Json.member members "direction")
  upper (stated.orElse (.text ascending)).asText

def sortField (v : Json) : Outcome SortField :=
  match members? v with
  | some members =>
    let field := Json.member members "field"
    if !field.isTruthy then .error (.intent (.badSortEntry v))
    else
      let order := orderText members
      if order == ascending || order == descending then .ok ⟨field.asText, order⟩
      else .error (.intent (.badSortOrder order))
  | none => .error (.intent (.badSortEntry v))

def sort (v : Json) : Outcome (Option (List SortField)) :=
  if !v.isTruthy then .ok none
  else match v with
    | .list items => (items.mapM sortField).map some
    | _ => .error (.intent .sortNotList)

def filters (r : Reader) : Json → Outcome (Option Filters)
  | .null => .ok none
  | .object members => do
    let get := Json.member members
    return some {
      project := text? (get "project")
      assignee := text? (get "assignee")
      status := ← texts (get "status")
      issueTypes := ← texts (get "issueTypes")
      priorities := ← texts (either members "priorities" "priority")
      labels := ← texts (get "labels")
      components := ← texts (get "components")
      created := ← window r (get "created")
      updated := ← window r (get "updated") }
  | _ => .error (.intent .filtersNotObject)

def intent (r : Reader) : Json → Outcome Intent
  | .object members => do
    let get := Json.member members
    return {
      filters := ← filters r (get "filters")
      search := text? (get "search")
      sort := ← sort (get "sort")
      limit := ← integerFrom "limit" 1 (get "limit") }
  | _ => .error (.intent .payloadNotObject)

end IssueQuery.Payload
