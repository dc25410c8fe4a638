import IssueQuery.Number.Binary
import IssueQuery.Text.Basic
import IssueQuery.Text.Case

namespace IssueQuery.Number

open Text

def maxDigits : Nat := 4300

def longMessage (detail : String) : String :=
  "Exceeds the limit (" ++ toString maxDigits ++ " digits) for integer string conversion" ++ detail ++
    "; use sys.set_int_max_str_digits() to increase the limit"

def longIntegerMessage (digits : Nat) : String :=
  longMessage (": value has " ++ toString digits ++ " digits")

def wideIntegerMessage : String :=
  "Python int too large to convert to C int"

inductive Reading where
  | value (n : Int)
  | malformed
  | tooLong (digits : Nat)
  deriving Repr, DecidableEq

def digitRun? : List Char → Option (List Nat)
  | [] => none
  | [c] => (digitValue? c).map ([·])
  | c :: '_' :: cs => (digitValue? c).bind fun d => (digitRun? cs).map (d :: ·)
  | c :: cs => (digitValue? c).bind fun d => (digitRun? cs).map (d :: ·)

def digitsValue (ds : List Nat) : Nat :=
  ds.foldl (fun n d => 10 * n + d) 0

def asciiValue (cs : List Char) : Nat :=
  cs.foldl (fun n c => 10 * n + (c.toNat - 0x30)) 0

/-- White space around numbers: the six blanks of ASCII that move the print position, and all blanks
beyond ASCII. -/
def isNumberBlank (c : Char) : Bool :=
  if c.toNat < 0x80 then c == ' ' || (0x9 ≤ c.toNat && c.toNat ≤ 0xd) else isBlank c

def stripNumber (cs : List Char) : List Char :=
  stripEnd isNumberBlank (cs.dropWhile isNumberBlank)

def splitSign : List Char → Bool × List Char
  | '-' :: cs => (true, cs)
  | '+' :: cs => (false, cs)
  | cs => (false, cs)

def readInt (s : String) : Reading :=
  let (negative, cs) := splitSign (stripNumber s.toList)
  match digitRun? cs with
  | none => .malformed
  | some ds =>
    if ds.length > maxDigits then .tooLong ds.length
    else .value (if negative then -(digitsValue ds : Int) else digitsValue ds)

def digitRunOrNone? (cs : List Char) : Option (List Nat) :=
  if cs.isEmpty then some [] else digitRun? cs

def exponent? (cs : List Char) : Option Int :=
  let (negative, cs) := splitSign cs
  (digitRun? cs).map fun ds =>
    let ds := ds.dropWhile (· == 0)
    let n : Int := if ds.length > 12 then 10 ^ 12 else digitsValue ds
    if negative then -n else n

def isExponentMark (c : Char) : Bool :=
  c == 'e' || c == 'E'

def unsignedFloat? (cs : List Char) : Option Float :=
  let mantissa := cs.takeWhile (!isExponentMark ·)
  let whole := mantissa.takeWhile (· != '.')
  let fraction := (mantissa.dropWhile (· != '.')).drop 1
  match digitRunOrNone? whole, digitRunOrNone? fraction,
      (match cs.dropWhile (!isExponentMark ·) with
      | [] => some 0
      | _ :: cs => exponent? cs) with
  | some a, some b, some e =>
    if a.isEmpty && b.isEmpty then none
    else some (nearestDecimal (digitsValue (a ++ b)) (e - b.length))
  | _, _, _ => none

def readFloat? (s : String) : Option Float :=
  let (negative, cs) := splitSign (stripNumber s.toList)
  (match String.ofList (cs.map asciiLower) with
    | "inf" | "infinity" => some infinity
    | "nan" => some notANumber
    | _ => unsignedFloat? cs).map (withSign negative)

end IssueQuery.Number
