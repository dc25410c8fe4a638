import IssueQuery.Calendar.Iso
import IssueQuery.Text.Base64
import IssueQuery.Yaml.Scalar
import IssueQuery.Yaml.Tag

namespace IssueQuery.Yaml.Scalar

open Text

def withoutBars (cs : List Char) : List Char :=
  cs.filter (· != '_')

def digit? (base : Nat) (c : Char) : Option Nat :=
  ((digitValue? c).orElse fun _ => hexValue? c).filter (· < base)

def baseLetter : Nat → Char
  | 2 => 'b'
  | 8 => 'o'
  | _ => 'x'

def withoutBase (base : Nat) : List Char → List Char
  | '0' :: c :: cs => if asciiLower c == baseLetter base then cs else '0' :: c :: cs
  | cs => cs

def binaryInt (base : Nat) (cs : List Char) : Except ReadFault Int :=
  let (negative, digits) := Number.splitSign (Number.stripNumber cs)
  let digits := withoutBase base digits
  match digits.mapM (digit? base) with
  | some values =>
    if values.isEmpty then .error (.notInteger base cs)
    else
      let n : Nat := values.foldl (fun n d => base * n + d) 0
      .ok (if negative then -n else n)
  | none => .error (.notInteger base cs)

def decimalInt (cs : List Char) : Except ReadFault Int :=
  match Number.readInt (String.ofList cs) with
  | .value n => .ok n
  | .tooLong n => .error (.longInteger n)
  | .malformed => .error (.notInteger 10 cs)

def unsignedInt (cs : List Char) : Except ReadFault Int :=
  match cs with
  | [] => .error .noNumber
  | ['0'] => .ok 0
  | '0' :: 'b' :: digits => binaryInt 2 digits
  | '0' :: 'x' :: digits => binaryInt 16 digits
  | '0' :: _ => binaryInt 8 cs
  | _ => do
    let places ← (splitOnChar ':' cs).mapM decimalInt
    return places.foldl (fun n place => 60 * n + place) 0

def signed (cs : List Char) : Except ReadFault (Bool × List Char) :=
  if cs.isEmpty then .error .noNumber else .ok (Number.splitSign cs)

def ofInt (cs : List Char) : Except ReadFault Int := do
  let (negative, digits) ← signed (withoutBars cs)
  let n ← unsignedInt digits
  return if negative then -n else n

def decimalFloat (cs : List Char) : Except ReadFault Float :=
  match Number.readFloat? (String.ofList cs) with
  | some x => .ok x
  | none => .error (.notFloat cs)

def sumOfPlaces : List Float → Nat → Float → Except ReadFault Float
  | [], _, sum => .ok sum
  | place :: places, weight, sum =>
    match Number.floatOfWhole weight with
    | .ok w => sumOfPlaces places (60 * weight) (sum + place * w)
    | .error _ => .error .tooManyPlaces

def unsignedFloat (cs : List Char) : Except ReadFault Float :=
  if cs.contains ':' then do
    let places ← (splitOnChar ':' cs).mapM decimalFloat
    sumOfPlaces places.reverse 1 0.0
  else decimalFloat cs

def ofFloat (cs : List Char) : Except ReadFault Float := do
  let (negative, digits) ← signed (lowerChars (withoutBars cs))
  match String.ofList digits with
  | ".inf" => return Number.withSign negative Number.infinity
  | ".nan" => return Number.notANumber
  | _ => return Number.withSign negative (← unsignedFloat digits)

def offset (west : Bool) (hour minute : List Char) : Except ReadFault Int :=
  let span : Int := Number.asciiValue hour * 3600 + Number.asciiValue minute * 60
  let seconds := if west then -span else span
  if span < secondsPerDay then .ok seconds else .error (.wrongOffset seconds)

def dateOf (t : TimeDigits) : Except ReadFault Calendar.Date :=
  let d : Calendar.Date := ⟨Number.asciiValue t.year, Number.asciiValue t.month, Number.asciiValue t.day⟩
  if d.year == 0 then .error (.wrongTime .year)
  else if d.month == 0 || d.month > 12 then .error (.wrongTime .month)
  else if d.day == 0 || d.day > Calendar.daysInMonth d.year d.month then .error (.wrongTime .day)
  else .ok d

def microseconds (fraction : List Char) : Nat :=
  Number.asciiValue ((fraction ++ List.replicate 6 '0').take 6)

def clockMicros (clock : ClockDigits) : Except ReadFault Nat :=
  let hour := Number.asciiValue clock.hour
  let minute := Number.asciiValue clock.minute
  let second := Number.asciiValue clock.second
  if hour > 23 then .error (.wrongTime .hour)
  else if minute > 59 then .error (.wrongTime .minute)
  else if second > 59 then .error (.wrongTime .second)
  else
    let seconds := (hour * 60 + minute) * 60 + second
    .ok (seconds * Calendar.microsPerSecond + microseconds clock.fraction)

def ofTime (cs : List Char) : Except ReadFault Scalar :=
  match timeDigits? (withoutLineEnd cs) with
  | none => .error .notTime
  | some t =>
    match t.clock with
    | none => do return .date (← dateOf t)
    | some clock => do
      let zone ← match clock.offset with
        | some (west, hour, minute) => (offset west hour minute).map fun seconds => some (seconds * microsPerSecond)
        | none => .ok (if clock.isUtc then some 0 else none)
      let day ← dateOf t
      return .time (.ofDate day (← clockMicros clock) zone)

def truths : List (String × Bool) :=
  [("yes", true), ("no", false), ("true", true), ("false", false), ("on", true), ("off", false)]

def ofTruth (cs : List Char) : Except ReadFault Bool :=
  let word := String.ofList (lowerChars cs)
  match truths.lookup word with
  | some b => .ok b
  | none => .error (.notTruth word)

def ofBase64 (cs : List Char) : Except ReadFault (List Nat) :=
  if cs.all (·.toNat < 0x80) then
    match base64? cs with
    | some bs => .ok bs
    | none => .error .malformed
  else .error .malformed

def ofText (tag : Tag) (cs : List Char) : Except ReadFault Scalar :=
  match tag with
  | .null => .ok .null
  | .bool => (ofTruth cs).map .bool
  | .int => (ofInt cs).map .int
  | .float => (ofFloat cs).map .float
  | .binary => (ofBase64 cs).map .bytes
  | .time => ofTime cs
  | .text => .ok (.text (String.ofList cs))
  | _ => .error .malformed

end IssueQuery.Yaml.Scalar
