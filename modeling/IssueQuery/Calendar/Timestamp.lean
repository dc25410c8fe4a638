import IssueQuery.Calendar.Date
import IssueQuery.Number.Binary

namespace IssueQuery.Calendar

def microsPerSecond : Nat := 1000000

def microsPerDay : Nat := 86400000000

def maxMicros : Nat := 3652059 * microsPerDay

/-- A clock reading in microseconds since the start of year 1, and microseconds east of UTC. -/
structure Timestamp where
  wall : Int
  offset : Option Int
  deriving Repr, DecidableEq

/-- A timestamp of an issue. A zone in which its reading has two offsets, as when clocks are put back, is named. -/
structure Moment extends Timestamp where
  ambiguousIn : Option String
  deriving Repr, DecidableEq

instance : CoeOut Moment Timestamp := ⟨Moment.toTimestamp⟩

inductive ClockFault where
  | outOfRange
  | incomparable
  | spanTooLong (days : Nat)
  deriving Repr, DecidableEq

namespace Timestamp

def inRange (wall : Int) : Bool :=
  0 ≤ wall && wall < maxMicros

/-- The UTC reading of the same instant; without an offset the reading is taken for UTC. -/
def utcWall (t : Timestamp) : Int :=
  t.wall - t.offset.getD 0

def toUtc (t : Timestamp) : Except ClockFault Timestamp :=
  if inRange t.utcWall then .ok ⟨t.utcWall, some 0⟩ else .error .outOfRange

def shift (t : Timestamp) (micros : Int) : Except ClockFault Timestamp :=
  if inRange (t.wall + micros) then .ok { t with wall := t.wall + micros } else .error .outOfRange

def isAware (t : Timestamp) : Bool :=
  t.offset.isSome

def notBefore (t u : Timestamp) : Except ClockFault Bool :=
  if t.isAware == u.isAware then .ok (u.utcWall ≤ t.utcWall) else .error .incomparable

def date (t : Timestamp) : Date :=
  Date.ofNumber (t.wall / microsPerDay).toNat

def ofDate (d : Date) (micros : Nat) (offset : Option Int) : Timestamp :=
  ⟨d.toNumber * microsPerDay + micros, offset⟩

def ofNanos? (n : Int) : Option Timestamp :=
  if -(2 ^ 63) < n && n < 2 ^ 63 then some ⟨719162 * microsPerDay + n.fdiv 1000, some 0⟩ else none

def hoursText (seconds : Nat) : String :=
  padZeros 2 (seconds / 3600) ++ ":" ++ padZeros 2 (seconds / 60 % 60)

def clockText (micros : Nat) : String :=
  let seconds := micros / microsPerSecond
  let fraction := micros % microsPerSecond
  hoursText seconds ++ ":" ++ padZeros 2 (seconds % 60) ++
    (if fraction == 0 then "" else "." ++ padZeros 6 fraction)

def offsetText (offset : Int) : String :=
  let micros := offset.natAbs
  let seconds := micros / microsPerSecond
  (if offset < 0 then "-" else "+") ++
    (if micros % microsPerSecond == 0 && seconds % 60 == 0 then hoursText seconds else clockText micros)

def textWith (separator : String) (t : Timestamp) : String :=
  t.date.iso ++ separator ++ clockText (t.wall % microsPerDay).toNat ++
    ((t.offset.map offsetText).getD "")

def iso (t : Timestamp) : String :=
  t.textWith "T"

def text (t : Timestamp) : String :=
  t.textWith " "

end Timestamp

def Moment.single (t : Timestamp) : Moment := ⟨t, none⟩

/-- The time from one timestamp to another in days: the exact seconds, rounded, over the seconds of
a day. -/
def daysOfMicros (micros : Int) : Float :=
  Number.nearest micros microsPerSecond / 86400.0

def daysBetween (start stop : Timestamp) : Except ClockFault Float := do
  let stop ← stop.toUtc
  let start ← start.toUtc
  return daysOfMicros (stop.wall - start.wall)

def daysBefore (days : Nat) (t : Timestamp) : Except ClockFault Timestamp :=
  if days > 999999999 then .error (.spanTooLong days)
  else t.shift (-(days * microsPerDay : Nat))

end IssueQuery.Calendar
