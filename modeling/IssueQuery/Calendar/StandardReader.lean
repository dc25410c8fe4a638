import IssueQuery.Calendar.Reader
import IssueQuery.Calendar.Reading
import IssueQuery.Text.Case

namespace IssueQuery.Calendar

inductive TimeFault where
  | several
  | table
  | unlisted
  | unequalLists
  | mixedLists
  | missingParts (names : List String)
  | unknownParts (names : List String)
  | listed
  | yearOutOfRange (year : Int)

def TimeFault.message : TimeFault → String
  | .several =>
    "The truth value of an array with more than one element is ambiguous. Use a.any() or a.all()"
  | .table => "arg must be a string, datetime, list, tuple, 1-d array, or Series"
  | .unlisted => "If using all scalar values, you must pass an index"
  | .unequalLists => "All arrays must be of the same length"
  | .mixedLists => "Mixing dicts with non-Series may lead to ambiguous ordering."
  | .missingParts names =>
    "to assemble mappings requires at least that [year, month, day] be specified: [" ++
      ",".intercalate names ++ "] is missing"
  | .unknownParts names =>
    "extra keys have been passed to the datetime assemblage: [" ++ ",".intercalate names ++ "]"
  | .listed =>
    "The truth value of a Series is ambiguous. Use a.empty, a.item(), a.any() or a.all()."
  | .yearOutOfRange year => "year " ++ toString year ++ " is out of range"

def TimeFault.failure : TimeFault → Failure
  | .table => ⟨"TypeError", TimeFault.message .table, [.type]⟩
  | cause => ⟨"ValueError", cause.message, [.value]⟩

namespace StandardReader

def utcInstant (t : Timestamp) : Except TimeFault Timestamp :=
  let utc : Timestamp := ⟨t.utcWall, some 0⟩
  if Timestamp.inRange utc.wall then .ok utc else .error (.yearOutOfRange utc.civilDay.year)

def scalarInstant : Json → Except TimeFault (Option Timestamp)
  | .text s =>
    match Timestamp.ofText? s with
    | some t => (utcInstant t).map some
    | none => .ok none
  | .int n => .ok (Timestamp.ofNanos? n)
  | .float x =>
    match Number.Binary.ofFloat x with
    | .finite negative mant exp => .ok (Timestamp.ofNanos? (Number.integerPart negative mant exp))
    | _ => .ok none
  | _ => .ok none

def partNames : List (String × List String) :=
  [("year", ["year", "years"]), ("month", ["month", "months"]), ("day", ["day", "days"]),
    ("h", ["hour", "hours"]), ("m", ["minute", "minutes"]), ("s", ["second", "seconds"]),
    ("ms", ["ms", "millisecond", "milliseconds"]), ("us", ["us", "microsecond", "microseconds"]),
    ("ns", ["ns", "nanosecond", "nanoseconds"])]

def partNamed (name : String) : String :=
  ((partNames.find? fun (_, names) => names.contains (Text.lower name)).map (·.1)).getD name

def requiredParts : List String := ["day", "month", "year"]

def memberFault (members : OrderedMap Json) : TimeFault :=
  let lengths := members.filterMap fun (_, v) =>
    match v with
    | .list vs => some vs.length
    | _ => none
  let hasMembers := members.any fun (_, v) =>
    match v with
    | .object _ => true
    | _ => false
  let parts := members.map fun (name, _) => partNamed name
  let missing := requiredParts.filter fun p => !parts.contains p
  let unknown := parts.filter fun p => !(partNames.map (·.1)).contains p
  if lengths.isEmpty && !hasMembers then .unlisted
  else if lengths.any (· != lengths.headD 0) then .unequalLists
  else if !lengths.isEmpty && hasMembers then .mixedLists
  else if !missing.isEmpty then .missingParts missing
  else if !unknown.isEmpty then .unknownParts (unknown.mergeSort fun a b => !(b < a))
  else .listed

def isTable (vs : List Json) : Bool :=
  let lengths := vs.map fun v =>
    match v with
    | .list vs => some vs.length
    | _ => none
  lengths.all fun n => n.isSome && n == (lengths.head?.getD none)

def instant : Json → Except TimeFault (Option Timestamp)
  | .list vs =>
    if isTable vs then .error .table
    else match vs with
      | [v] => scalarInstant v
      | _ => .error .several
  | .object members => .error (memberFault members)
  | v => scalarInstant v

end StandardReader

/-- The reader with which the program runs. -/
def Reader.standard : Reader where
  day s := .ok ((Timestamp.ofText? s).bind fun t => if t.wallDate.Valid then some t.wallDate else none)
  instant v := (StandardReader.instant v).mapError TimeFault.failure
  day_valid := by
    intro s d h
    obtain ⟨t, -, ht⟩ := Option.bind_eq_some_iff.mp (Except.ok.inj h)
    split at ht
    · rename_i hvalid
      exact Option.some.inj ht ▸ hvalid
    · cases ht

end IssueQuery.Calendar
