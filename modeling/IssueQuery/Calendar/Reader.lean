import IssueQuery.Fault

namespace IssueQuery.Calendar

/-- A library that reads points in time from what people and services write. It may take what it is given for no
timestamp, and it may fail. -/
structure Reader where
  /-- The day of the timestamp that a text writes. -/
  day : String → Except Failure (Option Date)
  /-- The timestamp in UTC that a value stands for. -/
  instant : Json → Except Failure (Option Timestamp)
  day_valid : ∀ {s d}, day s = .ok (some d) → d.Valid

end IssueQuery.Calendar
