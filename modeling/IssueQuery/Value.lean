import IssueQuery.Json.Writer
import IssueQuery.Text.Quoted
import IssueQuery.Number.Fixed
import IssueQuery.Calendar.Timestamp

namespace IssueQuery

inductive Value where
  | null
  | bool (b : Bool)
  | int (n : Int)
  | float (x : Float)
  | text (s : String)
  | list (items : List Value)
  | tuple (items : List Value)
  | map (entries : List (String × Value))
  | time (t : Calendar.Moment)
  deriving Inhabited

namespace Value

def number : Number.Notation := ⟨-4, 15, 2, "nan", "inf"⟩

mutual

def quoted : Value → String
  | .null => "None"
  | .bool b => if b then "True" else "False"
  | .int n => toString n
  | .float x => number.write x
  | .text s => Text.quoted s
  | .list items => "[" ++ quotedItems items ++ "]"
  | .tuple [v] => "(" ++ quoted v ++ ",)"
  | .tuple items => "(" ++ quotedItems items ++ ")"
  | .map entries => "\x7b" ++ quotedEntries entries ++ "\x7d"
  | .time t => t.text

def quotedItems : List Value → String
  | [] => ""
  | [v] => quoted v
  | v :: vs => quoted v ++ ", " ++ quotedItems vs

def quotedEntries : List (String × Value) → String
  | [] => ""
  | [(k, v)] => Text.quoted k ++ ": " ++ quoted v
  | (k, v) :: rest => Text.quoted k ++ ": " ++ quoted v ++ ", " ++ quotedEntries rest

end

def asText : Value → String
  | .text s => s
  | v => quoted v

mutual

/-- A value in a report: floats have two places, lists and maps lose their quotes. -/
def display : Value → String
  | .float x => Number.fixed 2 x
  | .list items => "[" ++ displayItems items ++ "]"
  | .tuple items => "[" ++ displayItems items ++ "]"
  | .map entries => "\x7b" ++ displayEntries entries ++ "\x7d"
  | v => asText v

def displayItems : List Value → String
  | [] => ""
  | [v] => display v
  | v :: vs => display v ++ ", " ++ displayItems vs

def displayEntries : List (String × Value) → String
  | [] => ""
  | [(k, v)] => k ++ ": " ++ display v
  | (k, v) :: rest => k ++ ": " ++ display v ++ ", " ++ displayEntries rest

end

mutual

def ofJson : Json → Value
  | .null => .null
  | .bool b => .bool b
  | .int n => .int n
  | .float x => .float x
  | .text s => .text s
  | .list items => .list (ofJsonItems items)
  | .object members => .map (ofJsonMembers members)

def ofJsonItems : List Json → List Value
  | [] => []
  | v :: vs => ofJson v :: ofJsonItems vs

def ofJsonMembers : List (String × Json) → List (String × Value)
  | [] => []
  | (k, v) :: rest => (k, ofJson v) :: ofJsonMembers rest

end

mutual

def toJson : Value → Json
  | .null => .null
  | .bool b => .bool b
  | .int n => .int n
  | .float x => .float x
  | .text s => .text s
  | .list items => .list (toJsonItems items)
  | .tuple items => .list (toJsonItems items)
  | .map entries => .object (toJsonEntries entries)
  | .time t => .text t.text

def toJsonItems : List Value → List Json
  | [] => []
  | v :: vs => toJson v :: toJsonItems vs

def toJsonEntries : List (String × Value) → List (String × Json)
  | [] => []
  | (k, v) :: rest => (k, toJson v) :: toJsonEntries rest

end

end Value

namespace Json

def quoted (v : Json) : String :=
  (Value.ofJson v).quoted

def asText (v : Json) : String :=
  (Value.ofJson v).asText

end Json

end IssueQuery
