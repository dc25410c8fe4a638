import IssueQuery.Json.Basic
import IssueQuery.Number.Shortest
import IssueQuery.Text.Quoted

namespace IssueQuery.Json

def number : Number.Notation := ⟨-4, 15, 2, "NaN", "Infinity"⟩

def escapedUnit (n : Nat) : List Char :=
  '\\' :: 'u' :: Text.hexCode 4 n

/-- A character of a text value; beyond 16 bits it is written as two surrogates. -/
def escapedChar (c : Char) : List Char :=
  let n := c.toNat
  if c == '"' then ['\\', '"']
  else if c == '\\' then ['\\', '\\']
  else if c == '\n' then ['\\', 'n']
  else if c == '\r' then ['\\', 'r']
  else if c == '\t' then ['\\', 't']
  else if n == 8 then ['\\', 'b']
  else if n == 12 then ['\\', 'f']
  else if 0x20 ≤ n && n ≤ 0x7e then [c]
  else if n < 0x10000 then escapedUnit n
  else escapedUnit (0xd800 + (n - 0x10000) / 0x400) ++ escapedUnit (0xdc00 + (n - 0x10000) % 0x400)

def quote (s : String) : String :=
  "\"" ++ String.ofList (s.toList.flatMap escapedChar) ++ "\""

def scalar : Json → String
  | .null => "null"
  | .bool b => if b then "true" else "false"
  | .int n => toString n
  | .float x => number.write x
  | .text s => quote s
  | .list _ => "[]"
  | .object _ => "\x7b\x7d"

def breakLine (level : Nat) : String :=
  "\n" ++ String.ofList (List.replicate (2 * level) ' ')

mutual

def pretty (level : Nat) : Json → String
  | .list (v :: vs) =>
    "[" ++ breakLine (level + 1) ++ pretty (level + 1) v ++ prettyItems (level + 1) vs ++
      breakLine level ++ "]"
  | .object ((k, v) :: rest) =>
    "\x7b" ++ breakLine (level + 1) ++ quote k ++ ": " ++ pretty (level + 1) v ++
      prettyMembers (level + 1) rest ++ breakLine level ++ "\x7d"
  | v => scalar v

def prettyItems (level : Nat) : List Json → String
  | [] => ""
  | v :: vs => "," ++ breakLine level ++ pretty level v ++ prettyItems level vs

def prettyMembers (level : Nat) : List (String × Json) → String
  | [] => ""
  | (k, v) :: rest =>
    "," ++ breakLine level ++ quote k ++ ": " ++ pretty level v ++ prettyMembers level rest

end

mutual

def compact : Json → String
  | .list (v :: vs) => "[" ++ compact v ++ compactItems vs ++ "]"
  | .object ((k, v) :: rest) => "\x7b" ++ quote k ++ ": " ++ compact v ++ compactMembers rest ++ "\x7d"
  | v => scalar v

def compactItems : List Json → String
  | [] => ""
  | v :: vs => ", " ++ compact v ++ compactItems vs

def compactMembers : List (String × Json) → String
  | [] => ""
  | (k, v) :: rest => ", " ++ quote k ++ ": " ++ compact v ++ compactMembers rest

end

end IssueQuery.Json
