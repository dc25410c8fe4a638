import IssueQuery.Calendar.Date
import IssueQuery.Calendar.Piece

namespace IssueQuery.Calendar

/-- Years of two digits are taken to be at most fifty years from this one. -/
def referenceYear : Nat := 2026

def fullYear (year : Nat) : Nat :=
  if year ≥ 100 then year
  else
    let year := year + referenceYear / 100 * 100
    if year ≥ referenceYear + 50 then year - 100
    else if year + 50 < referenceYear then year + 100
    else year

structure DayParts where
  values : List Nat
  yearAt : Option Nat
  monthAt : Option Nat
  hasFullYear : Bool
  deriving Repr, DecidableEq

structure PartialDate where
  year : Option Nat
  month : Option Nat
  day : Option Nat
  deriving Repr, DecidableEq

namespace DayParts

def none : DayParts := ⟨[], .none, .none, false⟩

def count (p : DayParts) : Nat :=
  p.values.length

def addYear? (p : DayParts) (n : Nat) : Option DayParts :=
  if p.yearAt.isSome then .none
  else some { p with values := p.values ++ [n], yearAt := some p.count, hasFullYear := true }

def addMonth? (p : DayParts) (n : Nat) : Option DayParts :=
  if p.monthAt.isSome then .none
  else some { p with values := p.values ++ [n], monthAt := some p.count }

def add (p : DayParts) (n : Nat) : DayParts :=
  { p with values := p.values ++ [n] }

def addDigits? (p : DayParts) (ds : List Nat) : Option DayParts :=
  if ds.length > 2 then p.addYear? (Number.digitsValue ds) else some (p.add (Number.digitsValue ds))

def addNumber? (p : DayParts) (n : Numeral) : Option DayParts :=
  if n.atMost 100 then some (p.add n.floor) else p.addYear? n.floor

def admitsDay (p : DayParts) (n : Numeral) : Bool :=
  let value (place : Option Nat) : Option Nat := place.bind (p.values[·]?)
  let last := match value p.monthAt, value p.yearAt with
    | .none, _ => 31
    | some month, .none => daysInMonth 2000 month
    | some month, some year => daysInMonth year month
  n.floor ≥ 1 && n.atMost last

def ofTwo (a b : Nat) : PartialDate :=
  if a > 31 then ⟨some a, some b, .none⟩
  else if b > 31 then ⟨some b, some a, .none⟩
  else ⟨.none, some a, some b⟩

def ofMonthAnd (month other : Nat) : PartialDate :=
  if other > 31 then ⟨some other, some month, .none⟩ else ⟨.none, some month, some other⟩

/-- Three numbers: the year comes first where it is known to or above 31, the day where it is above 12,
and otherwise the month. -/
def ofThree (yearFirst : Bool) (a b c : Nat) : PartialDate :=
  if a > 31 || yearFirst then ⟨some a, some b, some c⟩
  else if a > 12 then ⟨some c, some b, some a⟩
  else ⟨some c, some a, some b⟩

def ofThreeWithMonth (place a b c : Nat) : PartialDate :=
  match place with
  | 0 => if b > 31 then ⟨some b, some a, some c⟩ else ⟨some c, some a, some b⟩
  | 1 => if a > 31 then ⟨some a, some b, some c⟩ else ⟨some c, some b, some a⟩
  | _ => if b > 31 then ⟨some b, some c, some a⟩ else ⟨some a, some c, some b⟩

def resolve? (p : DayParts) : Option PartialDate :=
  match p.values, p.yearAt, p.monthAt with
  | [], _, _ => some ⟨.none, .none, .none⟩
  | [a], some _, _ => some ⟨some a, .none, .none⟩
  | [a], .none, some _ => some ⟨.none, some a, .none⟩
  | [a], .none, .none => some (if a > 31 then ⟨some a, .none, .none⟩ else ⟨.none, .none, some a⟩)
  | [a, b], some y, some _ =>
    some (if y == 0 then ⟨some a, some b, .none⟩ else ⟨some b, some a, .none⟩)
  | [a, b], .none, some m => some (if m == 0 then ofMonthAnd a b else ofMonthAnd b a)
  | [a, b], _, .none => some (ofTwo a b)
  | [a, b, c], some y, some m =>
    some ⟨p.values[y]?, p.values[m]?, [a, b, c][3 - y - m]?⟩
  | [a, b, c], .none, some m => some (ofThreeWithMonth m a b c)
  | [a, b, c], y, .none => some (ofThree (y == some 0) a b c)
  | _, _, _ => .none

end DayParts

end IssueQuery.Calendar
