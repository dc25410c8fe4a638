import IssueQuery.Fault
import IssueQuery.Text.Basic

namespace IssueQuery.Document

open Text

def ownText (members : OrderedMap Json) : List String :=
  match Json.member members "type", members.get? "text" with
  | .text "text", some v => [v.asText]
  | _, _ => []

def isPresent (s : String) : Bool :=
  !s.isEmpty

mutual

def flatten : Json → String
  | .null => ""
  | .text s => strip s
  | .object members => join " " (ownText members ++ flattenContent members)
  | .list items => join " " (flattenItems items)
  | v => v.asText

def flattenItems : List Json → List String
  | [] => []
  | v :: vs =>
    let s := flatten v
    if isPresent s then s :: flattenItems vs else flattenItems vs

def flattenContent : List (String × Json) → List String
  | [] => []
  | ("content", .list items) :: _ => flattenItems items
  | (name, _) :: rest => if name == "content" then [] else flattenContent rest

end

mutual

/-- The frames that writing a value takes on the stack. -/
def levels : Json → Nat
  | .list items => levelsOf items + 1
  | .object members => levelsOfMembers members + 1
  | _ => 1

def levelsOf : List Json → Nat
  | [] => 0
  | v :: vs => max (levels v) (levelsOf vs)

def levelsOfMembers : List (String × Json) → Nat
  | [] => 0
  | (_, v) :: rest => max (levels v) (levelsOfMembers rest)

end

/-- A list takes a frame, and three more while its items are gone through. -/
def listFrames : Nat := 4

/-- An object takes a frame, and another while its type is compared. -/
def objectFrames : Nat := 2

def ownFrames (members : OrderedMap Json) : Nat :=
  match Json.member members "type", members.get? "text" with
  | .text "text", some (.text _) => 0
  | .text "text", some v => levels v
  | _, _ => 0

def leafFrames : Json → Nat
  | .null | .text _ => 1
  | v => levels v + 1

/-- The frames that are left where issues are read. -/
def usualRoom : Nat := 990

def take (frames room : Nat) : Outcome Unit :=
  if frames ≤ room then .ok () else .error .stackOverflow

mutual

/-- The plain text of a document if it can be made with the frames that are left on the stack. -/
def flattenWithin (room : Nat) : Json → Outcome String
  | .object members => do
    take objectFrames room
    take (ownFrames members) (room - 1)
    return join " " (ownText members ++ (← flattenContentWithin (room - 1) members))
  | .list items => do
    take listFrames room
    return join " " (← flattenItemsWithin (room - listFrames) items)
  | v => do
    take (leafFrames v) room
    return flatten v

def flattenItemsWithin (room : Nat) : List Json → Outcome (List String)
  | [] => .ok []
  | v :: vs => do
    let s ← flattenWithin room v
    let rest ← flattenItemsWithin room vs
    return if isPresent s then s :: rest else rest

def flattenContentWithin (room : Nat) : List (String × Json) → Outcome (List String)
  | [] => .ok []
  | ("content", .list items) :: _ => flattenItemsWithin room items
  | (name, _) :: rest => if name == "content" then .ok [] else flattenContentWithin room rest

end

end IssueQuery.Document
