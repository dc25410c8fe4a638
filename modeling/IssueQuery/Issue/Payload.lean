import IssueQuery.Issue.Basic
import IssueQuery.Issue.Document
import IssueQuery.Calendar.Reader

namespace IssueQuery.IssuePayload

open Calendar (Moment Reader Timestamp)

def members : Json → Outcome (OrderedMap Json)
  | .object members => .ok members
  | v => .error (.noMembers v.kind)

def membersOrNone (v : Json) : Outcome (OrderedMap Json) :=
  if v.isTruthy then members v else .ok []

def items : Json → Outcome (List Json)
  | .list vs => .ok vs
  | .text s => .ok (s.toList.map fun c => .text c.toString)
  | .object members => .ok (members.map fun (name, _) => .text name)
  | v => .error (.noItems v.kind)

def itemsOrNone (v : Json) : Outcome (List Json) :=
  if v.isTruthy then items v else .ok []

def orNone : Json → Option Json
  | .null => none
  | v => some v

def nested (fields : OrderedMap Json) (field member fallback : String) : Outcome Json := do
  let inner ← membersOrNone (Json.member fields field)
  return (Json.member inner member).orElse (.text fallback)

def user (v : Json) : Outcome (Option (UserOf Json)) := do
  if !v.isTruthy then return none
  let inner ← members v
  let get := Json.member inner
  return some {
    accountId := ((get "accountId").orElse (get "name")).orElse (.text "")
    displayName := (get "displayName").orElse (.text "")
    email := orNone (get "emailAddress") }

def name? : Json → Option String
  | .object members =>
    let name := Json.member members "name"
    if name.isTruthy then some name.asText else none
  | v => if v.isTruthy then some v.asText else none

def names (v : Json) : Outcome (List String) := do
  return (← itemsOrNone v).filterMap name?

def resolution (v : Json) : Outcome (Option Json) := do
  if !v.isTruthy then return none
  return orNone (Json.member (← members v) "name")

def time (r : Reader) (v : Json) : Outcome (Option Timestamp) :=
  if v.isTruthy then (r.instant v).mapError Fault.foreign else .ok none

def description (room : Nat) (v : Json) : Outcome (Option String) := do
  let s ← Document.flattenWithin room v
  return if s.isEmpty then none else some s

def issue (r : Reader) (room : Nat) (raw : Json) : Outcome RawIssue := do
  let top ← members raw
  let fields ← membersOrNone (Json.member top "fields")
  let get := Json.member fields
  let key := Json.member top "key"
  let created ← time r (get "created")
  let updated ← time r (get "updated")
  match created, updated, key.isTruthy with
  | some created, some updated, true =>
    return {
      id := orNone (Json.member top "id")
      key := key
      summary := (get "summary").orElse (.text "")
      description := ← description room (get "description")
      status := ← nested fields "status" "name" "Unknown"
      priority := ← nested fields "priority" "name" "None"
      issueType := ← nested fields "issuetype" "name" "Unknown"
      assignee := ← user (get "assignee")
      reporter := ← user (get "reporter")
      project := ← nested fields "project" "key" ""
      created := .single created
      updated := .single updated
      resolutionDate := (← time r (get "resolutiondate")).map Moment.single
      resolution := ← resolution (get "resolution")
      labels := ← itemsOrNone (get "labels")
      components := ← names (get "components")
      fixVersions := ← names (get "fixVersions") }
  | _, _, _ => throw (.incompleteIssue (if key.isTruthy then key.asText else "<no key>"))

end IssueQuery.IssuePayload
