import IssueQuery.Calendar.Timestamp
import IssueQuery.Number.Reading

namespace IssueQuery.Calendar.Iso

open Text

def number? (least most : Nat) (cs : List Char) : Option Nat :=
  if least ≤ cs.length && cs.length ≤ most && cs.all isAsciiDigit then
    some (Number.asciiValue cs)
  else none

def date? (cs : List Char) : Option Date :=
  match splitOnChar '-' cs with
  | [y, m, d] => do Date.ofParts? (← number? 4 4 y) (← number? 2 2 m) (← number? 2 2 d)
  | _ => none

def clock? (hour minute second : List Char) : Option Nat := do
  let h ← number? 2 2 hour
  let m ← number? 2 2 minute
  let s ← number? 2 2 second
  if h < 24 && m < 60 && s < 60 then some ((h * 60 + m) * 60 + s) else none

def time? (cs : List Char) : Option Nat := do
  let seconds ← match splitOnChar ':' (cs.takeWhile (· != '.')) with
    | [h, m, s] => clock? h m s
    | _ => none
  let micros ← match cs.dropWhile (· != '.') with
    | [] => some 0
    | _ :: fraction => (number? 1 6 fraction).map (· * 10 ^ (6 - fraction.length))
  some (seconds * microsPerSecond + micros)

def offset? (cs : List Char) : Option Int :=
  match splitOnChar ':' cs with
  | [h, m] => (clock? h m ['0', '0']).map fun seconds => Int.ofNat (seconds * microsPerSecond)
  | _ => (time? cs).map Int.ofNat

def zone? (cs : List Char) : Option (Option Int) :=
  match cs with
  | [] => some none
  | '+' :: zone => (offset? zone).map some
  | '-' :: zone => (offset? zone).map fun n => some (-n)
  | _ => none

def isSign (c : Char) : Bool :=
  c == '+' || c == '-'

end IssueQuery.Calendar.Iso

namespace IssueQuery.Calendar.Timestamp

open Iso in
def ofIso? (s : String) : Option Timestamp := do
  let cs := s.toList
  let day ← date? (cs.take 10)
  let rest := cs.drop 11
  let micros ← time? (rest.takeWhile (!isSign ·))
  let offset ← zone? (rest.dropWhile (!isSign ·))
  some (ofDate day micros offset)

end IssueQuery.Calendar.Timestamp
