import IssueQuery.Calendar.Names
import IssueQuery.Calendar.YearFirst
import IssueQuery.Text.Basic

namespace IssueQuery.Calendar

open Text

inductive Shaped where
  | date (d : Date)
  | refused
  | other
  deriving Repr, DecidableEq

namespace Shaped

def ofParts (year month day : Nat) : Shaped :=
  match Date.ofParts? year month day with
  | some d => .date d
  | none => .refused

def orElse (a : Shaped) (b : Unit → Shaped) : Shaped :=
  match a with
  | .other => b ()
  | a => a

def ofOption (d : Option Date) : Shaped :=
  match d with
  | some d => .date d
  | none => .other

end Shaped

def isDelimiter (c : Char) : Bool :=
  c == ' ' || c == '/' || c == '-' || c == '.'

def asciiNumber? (cs : List Char) : Option Nat :=
  if !cs.isEmpty && cs.all isAsciiDigit then some (Number.asciiValue cs) else none

def delimitedParts (cs : List Char) : List (List Char) :=
  splitOnChar '/' (cs.map fun c => if isDelimiter c then '/' else c)

def monthFirst (first second year : Nat) : Shaped :=
  if year < 1000 then .other
  else if first > 12 then Shaped.ofParts year second first
  else Shaped.ofParts year first second

/-- Numbers between delimiters, with the year at the end. A month and a year are not delimited by a
point, which would be the one of a decimal number. -/
def delimitedDate (cs : List Char) : Shaped :=
  let parts := delimitedParts cs
  match parts.map List.length, parts.map asciiNumber? with
  | [m, n, 4], [some a, some b, some year] => if m ≤ 2 && n ≤ 2 then monthFirst a b year else .other
  | [2, 4], [some month, some year] =>
    if cs.contains '.' || year < 1000 then .other else Shaped.ofParts year month 1
  | _, _ => .other

def bareYear (cs : List Char) : Option Date :=
  if cs.length == 4 then
    match Number.readInt (String.ofList cs) with
    | .value n => if n < 0 then none else Date.ofParts? n.toNat 1 1
    | _ => none
  else none

def quarterStart (quarter year : List Char) : Shaped :=
  match asciiNumber? quarter, asciiNumber? year with
  | some q, some y =>
    if q < 1 || q > 4 then .refused
    else Shaped.ofOption (Date.ofParts? (if year.length == 2 then 2000 + y else y) (3 * (q - 1) + 1) 1)
  | _, _ => .other

def isYearLength (n : Nat) : Bool :=
  n == 2 || n == 4

def quarter (cs : List Char) : Shaped :=
  match splitOnChar 'Q' (cs.map asciiUpper) with
  | [[q], year] =>
    let year := match year with
      | '-' :: year => year
      | year => year
    if isYearLength year.length then quarterStart [q] year else .other
  | [year, [q]] =>
    let year := match year.reverse with
      | '-' :: year => year.reverse
      | _ => year
    if isYearLength year.length then quarterStart [q] year else .other
  | _ => .other

def monthAndYear (cs : List Char) : Option Date :=
  let cs := cs.flatMap upperChar
  let year? (cs : List Char) : Option Nat :=
    if cs.length == 4 then (cs.mapM digitValue?).map Number.digitsValue else none
  let named := do
    let month ← shortMonthOf? (cs.take 3)
    let rest := cs.drop 3
    let year ← match rest with
      | '-' :: year => year? year
      | c :: _ => if isBlank c then year? (rest.dropWhile isBlank) else none
      | [] => none
    Date.ofParts? year month 1
  named.orElse fun _ => do
    let year ← year? (cs.take 4)
    match cs.drop 4 with
    | '-' :: month => if month.length ≤ 2 then Date.ofParts? year (← asciiNumber? month) 1 else none
    | _ => none

def shortForm (cs : List Char) : Shaped :=
  (delimitedDate cs).orElse fun _ =>
    (Shaped.ofOption (bareYear cs)).orElse fun _ =>
      (quarter cs).orElse fun _ => Shaped.ofOption (monthAndYear cs)

end IssueQuery.Calendar
