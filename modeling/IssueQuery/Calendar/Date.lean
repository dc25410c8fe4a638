
namespace IssueQuery.Calendar

structure Date where
  year : Nat
  month : Nat
  day : Nat
  deriving Repr, DecidableEq

def isLeap (year : Nat) : Bool :=
  year % 4 == 0 && (year % 100 != 0 || year % 400 == 0)

def daysInMonth (year month : Nat) : Nat :=
  match month with
  | 2 => if isLeap year then 29 else 28
  | 4 | 6 | 9 | 11 => 30
  | _ => 31

def maxYear : Nat := 9999

def daysBeforeYear (year : Nat) : Nat :=
  let past := year - 1
  past * 365 + past / 4 - past / 100 + past / 400

def daysBeforeMonth (year : Nat) : Nat → Nat
  | 0 | 1 => 0
  | month + 1 => daysBeforeMonth year month + daysInMonth year month

namespace Date

def Valid (d : Date) : Prop :=
  1 ≤ d.year ∧ d.year ≤ maxYear ∧ 1 ≤ d.month ∧ d.month ≤ 12 ∧ 1 ≤ d.day ∧
    d.day ≤ daysInMonth d.year d.month

instance (d : Date) : Decidable d.Valid := by unfold Valid; infer_instance

def ofParts? (year month day : Nat) : Option Date :=
  let d : Date := ⟨year, month, day⟩
  if d.Valid then some d else none

def toNumber (d : Date) : Nat :=
  daysBeforeYear d.year + daysBeforeMonth d.year d.month + (d.day - 1)

end Date

def splitYear (n : Nat) : Nat × Nat :=
  let cycles := n / 146097
  let n := n % 146097
  let centuries := min (n / 36524) 3
  let n := n - centuries * 36524
  let quads := n / 1461
  let n := n % 1461
  let years := min (n / 365) 3
  (400 * cycles + 100 * centuries + 4 * quads + years + 1, n - years * 365)

def splitMonth (year month : Nat) : Nat → Nat → Nat × Nat
  | 0, n => (month, n)
  | fuel + 1, n =>
    if n < daysInMonth year month then (month, n)
    else splitMonth year (month + 1) fuel (n - daysInMonth year month)

namespace Date

def ofNumber (n : Nat) : Date :=
  let (year, rest) := splitYear n
  let (month, rest) := splitMonth year 1 11 rest
  ⟨year, month, rest + 1⟩

end Date

def padZeros (width n : Nat) : String :=
  let digits := toString n
  String.ofList (List.replicate (width - digits.length) '0') ++ digits

namespace Date

def iso (d : Date) : String :=
  padZeros 4 d.year ++ "-" ++ padZeros 2 d.month ++ "-" ++ padZeros 2 d.day

def shortIso (d : Date) : String :=
  toString d.year ++ "-" ++ padZeros 2 d.month ++ "-" ++ padZeros 2 d.day

end Date

end IssueQuery.Calendar
