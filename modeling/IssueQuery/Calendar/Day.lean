import IssueQuery.Calendar.Date

namespace IssueQuery.Calendar

/-- A day of any year: years before the first one are counted down to zero and below. -/
structure Day where
  year : Int
  month : Nat
  day : Nat
  deriving Repr, DecidableEq

namespace Day

def cycleYears : Nat := 400

def cycleDays : Nat := 146097

def inCycle (d : Day) : Date × Int :=
  (⟨((d.year - 1) % cycleYears).toNat + 1, d.month, d.day⟩, (d.year - 1) / cycleYears)

def toNumber (d : Day) : Int :=
  let (date, cycles) := d.inCycle
  date.toNumber + cycles * cycleDays

def ofNumber (n : Int) : Day :=
  let date := Date.ofNumber (n % cycleDays).toNat
  ⟨date.year + n / cycleDays * cycleYears, date.month, date.day⟩

def Valid (d : Day) : Prop :=
  1 ≤ d.month ∧ d.month ≤ 12 ∧ 1 ≤ d.day ∧ d.day ≤ daysInMonth d.inCycle.1.year d.month

instance (d : Day) : Decidable d.Valid := by unfold Valid; infer_instance

def iso (d : Day) : String :=
  (if d.year < 0 then "-" else "") ++ padZeros 4 d.year.natAbs ++ "-" ++ padZeros 2 d.month ++ "-" ++
    padZeros 2 d.day

end Day

end IssueQuery.Calendar
