import IssueQuery.Calendar.FreeForm
import IssueQuery.Calendar.ShortForm

namespace IssueQuery.Calendar

open Text

def missingWords : List String := ["NaT", "nat", "NAT", "nan", "NaN", "NAN"]

def loneLetters : List String := ["a", "A", "m", "M", "p", "P", "t", "T"]

def isSmallNumber (cs : List Char) : Bool :=
  let cs := stripEnd isAsciiBlank (skipAsciiBlanks cs)
  let (negative, cs) := Number.splitSign cs
  let whole := cs.takeWhile isAsciiDigit
  let fraction := (cs.drop whole.length).drop 1
  (cs.drop whole.length).head?.all (· == '.') && fraction.all isAsciiDigit &&
    !(whole.isEmpty && fraction.isEmpty) && (negative || (whole.dropWhile (· == '0')).length < 4)

/-- The text may be a date: one that begins with a zero may, and a small number or a lone letter may
not. -/
def mayBeDate (cs : List Char) : Bool :=
  cs.head? == some '0' || !(loneLetters.contains (String.ofList cs) || isSmallNumber cs)

namespace Timestamp

def ofText? (s : String) : Option Timestamp :=
  let cs := stripEnd (·.toNat == 0) s.toList
  if missingWords.contains (String.ofList cs) then none
  else match YearFirst.ofText? cs with
    | some t => t.timestamp?
    | none =>
      if !mayBeDate cs then none
      else match shortForm cs with
        | .date d => some (ofDate d 0 none)
        | .refused => none
        | .other => ofWords? cs

def civilDay (t : Timestamp) : Day :=
  Day.ofNumber (t.wall / microsPerDay)

/-- The day that the clock shows; a year that dates do not have is shown as 1972 if it is a leap year
and as 1970 if not. -/
def wallDate (t : Timestamp) : Date :=
  let d := t.civilDay
  if 1 ≤ d.year && d.year ≤ maxYear then ⟨d.year.toNat, d.month, d.day⟩
  else ⟨if isLeap d.inCycle.1.year then 1972 else 1970, d.month, d.day⟩

end Timestamp

end IssueQuery.Calendar
