import IssueQuery.Calendar.Timestamp
import IssueQuery.Number.Quantity
import IssueQuery.Value
import IssueQuery.Yaml.ReadFault

namespace IssueQuery.Yaml

inductive Scalar where
  | null
  | bool (b : Bool)
  | int (n : Int)
  | float (x : Float)
  | text (s : String)
  | bytes (bs : List Nat)
  | date (d : Calendar.Date)
  | time (t : Calendar.Timestamp)
  deriving Inhabited, DecidableEq

namespace Scalar

def kind : Scalar → String
  | .null => "NoneType"
  | .bool _ => "bool"
  | .int _ => "int"
  | .float _ => "float"
  | .text _ => "str"
  | .bytes _ => "bytes"
  | .date _ => "datetime.date"
  | .time _ => "datetime.datetime"

def isTruthy : Scalar → Bool
  | .null => false
  | .bool b => b
  | .int n => n != 0
  | .float x => !(x == 0.0)
  | .text s => !s.isEmpty
  | .bytes bs => !bs.isEmpty
  | .date _ | .time _ => true

def quantity? : Scalar → Option Number.Quantity
  | .bool b => some (.whole (if b then 1 else 0))
  | .int n => some (.whole n)
  | .float x => some (.decimal x)
  | _ => none

def sameQuantity (a b : Number.Quantity) : Bool :=
  a.equal b || (a.isNaN && b.isNaN)

def sameTime (t u : Calendar.Timestamp) : Bool :=
  t.isAware == u.isAware && t.utcWall == u.utcWall

/-- Two values are one key of a map. -/
def same (a b : Scalar) : Bool :=
  match a.quantity?, b.quantity? with
  | some x, some y => sameQuantity x y
  | none, none =>
    match a, b with
    | .null, .null => true
    | .text s, .text t => s == t
    | .bytes bs, .bytes cs => bs == cs
    | .date d, .date e => d == e
    | .time t, .time u => sameTime t u
    | _, _ => false
  | _, _ => false

def intText (n : Int) : Except ReadFault String :=
  let s := toString n
  if s.length > Number.maxDigits + 1 || (0 ≤ n && s.length > Number.maxDigits) then .error .hugeInteger
  else .ok s

def byteText (mark : Char) (n : Nat) : List Char :=
  let c := Char.ofNat n
  if c == mark || c == '\\' then ['\\', c]
  else if c == '\n' then ['\\', 'n']
  else if c == '\r' then ['\\', 'r']
  else if c == '\t' then ['\\', 't']
  else if 0x20 ≤ n && n < 0x7f then [c]
  else '\\' :: 'x' :: Text.hexCode 2 n

def bytesText (bs : List Nat) : String :=
  let mark := Text.quoteMark (bs.map Char.ofNat)
  String.ofList ('b' :: mark :: bs.flatMap (byteText mark) ++ [mark])

def dateParts (d : Calendar.Date) : List Nat :=
  [d.year, d.month, d.day]

def clockParts (micros : Nat) : List Nat :=
  let fraction := micros % Calendar.microsPerSecond
  let seconds := micros / Calendar.microsPerSecond
  [seconds / 3600, seconds / 60 % 60] ++
    (if fraction == 0 then if seconds % 60 == 0 then [] else [seconds % 60] else [seconds % 60, fraction])

def zoneText (offset : Int) : String :=
  if offset == 0 then "datetime.timezone.utc" else "datetime.timezone(" ++ spanText offset ++ ")"

def partsText (parts : List Nat) : String :=
  ", ".intercalate (parts.map toString)

def quoted : Scalar → Except ReadFault String
  | .null => .ok (Value.quoted .null)
  | .bool b => .ok (Value.quoted (.bool b))
  | .int n => intText n
  | .float x => .ok (Value.quoted (.float x))
  | .text s => .ok (Text.quoted s)
  | .bytes bs => .ok (bytesText bs)
  | .date d => .ok ("datetime.date(" ++ partsText (dateParts d) ++ ")")
  | .time t =>
    .ok ("datetime.datetime(" ++
      partsText (dateParts t.date ++ clockParts (t.wall % Calendar.microsPerDay).toNat) ++
      (t.offset.map fun offset => ", tzinfo=" ++ zoneText offset).getD "" ++ ")")

def asText : Scalar → Except ReadFault String
  | .text s => .ok s
  | .date d => .ok d.iso
  | .time t => .ok t.text
  | v => v.quoted

end Scalar

end IssueQuery.Yaml
