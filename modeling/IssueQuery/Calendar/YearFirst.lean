import IssueQuery.Calendar.Day
import IssueQuery.Calendar.Timestamp
import IssueQuery.Number.Reading

namespace IssueQuery.Calendar

open Text
open Number (asciiValue)

def isAsciiBlank (c : Char) : Bool :=
  c.toNat < 0x80 && Number.isNumberBlank c

def skipAsciiBlanks (cs : List Char) : List Char :=
  cs.dropWhile isAsciiBlank

def isSign (c : Char) : Bool :=
  c == '+' || c == '-'

def startsWithDigit (cs : List Char) : Bool :=
  cs.head?.any isAsciiDigit

def oneOrTwo? (oneIsEnough : Bool) (cs : List Char) : Option (List Char × List Char) :=
  let ds := (cs.take 2).takeWhile isAsciiDigit
  if ds.length == 2 || (ds.length == 1 && oneIsEnough) then some (ds, cs.drop ds.length) else none

structure YearFirst where
  day : Day
  hour : Nat
  minute : Nat
  second : Nat
  fraction : List Char
  offset : Option Int
  deriving Repr, DecidableEq

namespace YearFirst

def ofDay (d : Day) : YearFirst := ⟨d, 0, 0, 0, [], none⟩

def offsetMinutes? (cs : List Char) : Option (Nat × List Char) :=
  match cs with
  | [] => some (0, [])
  | c :: rest => do
    let (ds, rest) ← oneOrTwo? true (if c == ':' then rest else cs)
    let n := asciiValue ds
    if n < 60 then some (n, rest) else none

def offset? (cs : List Char) : Option (Nat × List Char) := do
  let (ds, rest) ← oneOrTwo? true cs
  let hours := asciiValue ds
  let (minutes, rest) ← offsetMinutes? rest
  if hours < 24 then some (hours * 60 + minutes, rest) else none

def withZone? (t : YearFirst) (cs : List Char) : Option YearFirst := do
  let (offset, rest) ← match skipAsciiBlanks cs with
    | 'Z' :: rest => some (some 0, rest)
    | '+' :: rest => (offset? rest).map fun (n, rest) => (some (n : Int), rest)
    | '-' :: rest => (offset? rest).map fun (n, rest) => (some (-(n : Int)), rest)
    | rest => some (none, rest)
  if (skipAsciiBlanks rest).isEmpty then some { t with offset := offset } else none

def maxFraction : Nat := 18

def withFraction? (t : YearFirst) (cs : List Char) : Option YearFirst :=
  match cs with
  | '.' :: rest =>
    let ds := (rest.take maxFraction).takeWhile isAsciiDigit
    withZone? { t with fraction := ds } (rest.drop ds.length)
  | _ => t.withZone? cs

def withSecond? (t : YearFirst) (hasColons : Bool) (cs : List Char) : Option YearFirst := do
  let (ds, rest) ← oneOrTwo? hasColons cs
  let n := asciiValue ds
  if n < 60 then withFraction? { t with second := n } rest else none

def withMinute? (t : YearFirst) (hasColons : Bool) (cs : List Char) : Option YearFirst := do
  let (ds, rest) ← oneOrTwo? hasColons cs
  let n := asciiValue ds
  let t := { t with minute := n }
  if n ≥ 60 then none
  else match rest with
    | [] => some t
    | c :: after =>
      if hasColons && c == ':' then t.withSecond? true after
      else if !hasColons && isAsciiDigit c then t.withSecond? false rest
      else t.withZone? rest

def withHour? (t : YearFirst) (cs : List Char) : Option YearFirst := do
  let (ds, rest) ← oneOrTwo? true cs
  let n := asciiValue ds
  let t := { t with hour := n }
  if n ≥ 24 then none
  else match rest with
    | ':' :: after => t.withMinute? true after
    | _ =>
      if ds.length == 1 then none
      else if startsWithDigit rest then t.withMinute? false rest
      else if rest.isEmpty then some t
      else t.withZone? rest

def withTime? (t : YearFirst) (cs : List Char) : Option YearFirst :=
  match cs with
  | [] => some t
  | 'T' :: rest | ' ' :: rest => t.withHour? rest
  | _ => none

def ofDay? (year : Int) (month : Nat) (day : List Char) (rest : List Char) : Option YearFirst :=
  let d : Day := ⟨if year ≤ -1000 then -year else year, month, asciiValue day⟩
  if d.Valid then (ofDay d).withTime? rest else none

def ofMonth? (year : Int) (separator : Option Char) (cs : List Char) : Option YearFirst := do
  let (ds, rest) ← oneOrTwo? separator.isSome cs
  let month := asciiValue ds
  if month < 1 || month > 12 then none
  else match separator, rest with
    | some _, [] => some (ofDay ⟨year, month, 1⟩)
    | some s, c :: rest =>
      if c == s then do
        let (day, rest) ← oneOrTwo? true rest
        ofDay? year month day rest
      else none
    | none, rest => do
      let (day, rest) ← oneOrTwo? false rest
      ofDay? year month day rest

def separators : List Char := ['-', '.', '/', '\\', ' ']

def ofText? (text : List Char) : Option YearFirst :=
  let cs := match skipAsciiBlanks text with
    | '-' :: rest => rest
    | rest => rest
  let ds := (cs.take 4).takeWhile isAsciiDigit
  let (size, rest) := if ds.length == 4 then (asciiValue ds, cs.drop 4) else (0, cs)
  let year : Int := if text.head? == some '-' then -size else size
  if cs.isEmpty then none
  else match rest with
    | [] => some (ofDay ⟨year, 1, 1⟩)
    | c :: after =>
      if isAsciiDigit c then ofMonth? year none rest
      else if separators.contains c then ofMonth? year (some c) after
      else none

def attos (t : YearFirst) : Int :=
  let seconds : Int := t.day.toNumber * 86400 + (t.hour * 3600 + t.minute * 60 + t.second : Nat)
  seconds * 10 ^ 18 + (asciiValue t.fraction * 10 ^ (maxFraction - t.fraction.length) : Nat)

def epochAttos : Int := 719162 * 86400 * 10 ^ 18

/-- A number of billionths of a second since 1970 is held in 64 bits, the least of which is no time. -/
def isHeld (attos : Int) : Bool :=
  let passed := attos - epochAttos
  (1 - 2 ^ 63) * 10 ^ 9 ≤ passed && passed ≤ (2 ^ 63 - 1) * 10 ^ 9

def isHoldable (t : YearFirst) : Bool :=
  t.fraction.length ≤ 6 ||
    (isHeld t.attos && isHeld (t.attos - t.offset.getD 0 * 60 * 10 ^ 18))

def timestamp? (t : YearFirst) : Option Timestamp :=
  if t.isHoldable then some ⟨t.attos / 10 ^ 12, t.offset.map (· * 60 * microsPerSecond)⟩ else none

end YearFirst

end IssueQuery.Calendar
