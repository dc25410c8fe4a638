import IssueQuery.Issue.Basic
import IssueQuery.Fault
import IssueQuery.Text.Scan

namespace IssueQuery

open Text
open Calendar (Timestamp daysBefore)

inductive MatchField where
  | project
  | status
  | type
  | priority
  | labels
  | component
  deriving Repr, DecidableEq

inductive TimeField where
  | created
  | updated
  deriving Repr, DecidableEq

inductive Condition where
  | mine
  | unassigned
  | assignedTo (name : String)
  | equals (field : MatchField) (value : String)
  | oneOf (field : MatchField) (values : List String)
  /-- The time is at most so many days ago. -/
  | within (field : TimeField) (digits : List Char)
  | mentions (text : String)
  deriving Repr, DecidableEq

namespace MatchField

def names : List String :=
  ["project", "status", "type", "priority", "labels", "component"]

def ofName : String → MatchField
  | "project" => .project
  | "status" => .status
  | "type" => .type
  | "priority" => .priority
  | "labels" => .labels
  | _ => .component

def values (f : MatchField) (i : Issue) : List String :=
  match f with
  | .project => [lower i.project]
  | .status => [lower i.status]
  | .type => [lower i.issueType]
  | .priority => [lower i.priority]
  | .labels => i.labels.map lower
  | .component => i.components.map lower

end MatchField

namespace TimeField

def time (f : TimeField) (i : Issue) : Timestamp :=
  match f with
  | .created => i.created
  | .updated => i.updated

end TimeField

def select {α : Type} (test : α → Outcome Bool) : List α → Outcome (List α)
  | [] => .ok []
  | x :: xs => do
    let passes ← test x
    let rest ← select test xs
    return if passes then x :: rest else rest

namespace Condition

def currentAccount : String := "john.doe"

def isAssignedTo (name : String) (i : Issue) : Bool :=
  match i.assignee with
  | some u => lower name == lower u.displayName || lower name == u.accountId
  | none => false

def searchedText (i : Issue) : String :=
  lower (i.summary ++ " " ++ i.description.getD "")

def test (now : Timestamp) : Condition → Outcome (Issue → Outcome Bool)
  | .mine => .ok fun i => .ok (i.assignee.any (·.accountId == currentAccount))
  | .unassigned => .ok fun i => .ok i.assignee.isNone
  | .assignedTo name => .ok fun i => .ok (isAssignedTo name i)
  | .equals f value => .ok fun i => .ok ((f.values i).contains (lower value))
  | .oneOf f values => .ok fun i => .ok ((f.values i).any fun v => (values.map lower).contains v)
  | .within f digits => do
    let days ← integerOfDigits digits
    let cutoff ← ofClock (daysBefore days.toNat now)
    return fun i => ofClock ((f.time i).notBefore cutoff)
  | .mentions text => .ok fun i => .ok (contains (searchedText i) (lower text))

def keep (now : Timestamp) (issues : List Issue) (c : Condition) : Outcome (List Issue) := do
  select (← c.test now) issues

def keepAll (now : Timestamp) (cs : List Condition) (issues : List Issue) : Outcome (List Issue) :=
  cs.foldlM (keep now) issues

def anyKeyword? (names : List String) (cs : List Char) : Option (String × List Char) :=
  names.findSome? fun name => (dropKeyword? name.toList cs).map fun rest =>
    (lower (String.ofList (cs.take name.length)), rest)

def upTo? (mark : Char) (cs : List Char) : Option (List Char × List Char) :=
  match cs.dropWhile (· != mark) with
  | [] => none
  | _ :: rest => some (cs.takeWhile (· != mark), rest)

def quotedAfter? (sign : String) (cs : List Char) : Option (String × List Char) := do
  let rest ← dropPrefix? ['"'] (skipBlanks (← dropSign? sign cs))
  let (value, rest) ← upTo? '"' rest
  return (String.ofList value, rest)

def assignment? (cs : List Char) : Option (Condition × List Char) := do
  let (name, rest) ← quotedAfter? "=" (← dropKeyword? "assignee".toList cs)
  return (assignedTo name, rest)

def equation? (cs : List Char) : Option (Condition × List Char) := do
  let (field, rest) ← anyKeyword? MatchField.names cs
  let (value, rest) ← quotedAfter? "=" rest
  return (equals (MatchField.ofName field) value, rest)

def listedValue (cs : List Char) : String :=
  String.ofList (stripEnd (· == '"') ((stripChars cs).dropWhile (· == '"')))

def membership? (cs : List Char) : Option (Condition × List Char) := do
  let (field, rest) ← anyKeyword? MatchField.names cs
  let (_, rest) ← run? isBlank rest
  let rest ← dropPrefix? ['('] (skipBlanks (← dropKeyword? "in".toList rest))
  let (values, rest) ← upTo? ')' rest
  return (oneOf (MatchField.ofName field) ((splitOnChar ',' values).map listedValue), rest)

def period? (cs : List Char) : Option (Condition × List Char) := do
  let (field, rest) ← anyKeyword? ["updated", "created"] cs
  let (digits, rest) ← run? isDigit (← dropSign? "-" (← dropSign? ">=" rest))
  let rest ← dropKeyword? ['d'] rest
  return (within (if field == "updated" then .updated else .created) digits, rest)

def mention? (cs : List Char) : Option (Condition × List Char) := do
  let (text, rest) ← quotedAfter? "~" (← dropKeyword? "text".toList cs)
  return (mentions text, rest)

def startsOrder (cs : List Char) : Bool :=
  match dropKeyword? "order by".toList cs with
  | some rest => !(rest.head?.any isWord)
  | none => false

def beforeOrder : Bool → List Char → List Char
  | _, [] => []
  | inWord, c :: cs => if !inWord && startsOrder (c :: cs) then [] else c :: beforeOrder (isWord c) cs

def ofText (text : String) : List Condition :=
  let cs := beforeOrder false text.toList
  let small := lowerChars cs
  let find (p : List Char → Option (Condition × List Char)) : List Condition := wordMatches p false 0 cs
  (if occursIn "assignee = currentuser()".toList small then [mine] else []) ++
    (if occursIn "assignee is empty".toList small then [unassigned] else []) ++
    find assignment? ++ find equation? ++ find membership? ++ find period? ++ find mention?

end Condition

end IssueQuery
