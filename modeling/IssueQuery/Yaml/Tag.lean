import IssueQuery.Number.Reading
import IssueQuery.Text.Basic

namespace IssueQuery.Yaml

open Text

inductive Tag where
  | null
  | bool
  | int
  | float
  | binary
  | time
  | text
  | list
  | map
  | pairs
  | set
  | merge
  | standIn
  | unknown
  deriving Repr, DecidableEq

def tagPrefix : List Char := "tag:yaml.org,2002:".toList

def Tag.names : List (String × Tag) :=
  [("null", .null), ("bool", .bool), ("int", .int), ("float", .float), ("binary", .binary),
    ("timestamp", .time), ("str", .text), ("seq", .list), ("map", .map), ("omap", .pairs),
    ("pairs", .pairs), ("set", .set), ("merge", .merge), ("value", .standIn)]

def Tag.ofName (name : List Char) : Tag :=
  ((dropPrefix? tagPrefix name).bind fun rest => Tag.names.lookup (String.ofList rest)).getD .unknown

def isSign (c : Char) : Bool :=
  c == '-' || c == '+'

def nullWords : List String := ["", "~", "null", "Null", "NULL"]

def truthWords : List String :=
  ["yes", "Yes", "YES", "no", "No", "NO", "true", "True", "TRUE", "false", "False", "FALSE", "on", "On",
    "ON", "off", "Off", "OFF"]

def infinityWords : List String := [".inf", ".Inf", ".INF"]

def nanWords : List String := [".nan", ".NaN", ".NAN"]

def unsigned : List Char → List Char
  | c :: cs => if isSign c then cs else c :: cs
  | [] => []

def isRunOf (p : Char → Bool) (cs : List Char) : Bool :=
  !cs.isEmpty && cs.all p

def isDigitOrBar (c : Char) : Bool :=
  isAsciiDigit c || c == '_'

def startsDigits (p : Char → Bool) : List Char → Bool
  | c :: cs => p c && cs.all isDigitOrBar
  | [] => false

def isSixtieth : List Char → Bool
  | [a] => isAsciiDigit a
  | [a, b] => '0' ≤ a && a ≤ '5' && isAsciiDigit b
  | _ => false

def isSexagesimal (p : Char → Bool) (cs : List Char) : Bool :=
  match splitOnChar ':' cs with
  | first :: places => startsDigits p first && !places.isEmpty && places.all isSixtieth
  | [] => false

def isNonzeroDigit (c : Char) : Bool :=
  isAsciiDigit c && c != '0'

def isUnsignedInt (cs : List Char) : Bool :=
  match cs with
  | ['0'] => true
  | '0' :: 'b' :: cs => isRunOf (fun c => c == '0' || c == '1' || c == '_') cs
  | '0' :: 'x' :: cs => isRunOf (fun c => (hexValue? c).isSome || c == '_') cs
  | '0' :: cs => isRunOf (fun c => ('0' ≤ c && c ≤ '7') || c == '_') cs
  | cs => startsDigits isNonzeroDigit cs || isSexagesimal isNonzeroDigit cs

def isExponent : List Char → Bool
  | [] => true
  | mark :: sign :: digits => Number.isExponentMark mark && isSign sign && isRunOf isAsciiDigit digits
  | _ => false

def isFloat (cs : List Char) : Bool :=
  let body := unsigned cs
  let whole := body.takeWhile (· != '.')
  match body.dropWhile (· != '.') with
  | [] => false
  | _ :: rest =>
    let fraction := rest.takeWhile isDigitOrBar
    let rest := rest.dropWhile isDigitOrBar
    if whole.isEmpty then body == cs && startsDigits isAsciiDigit fraction && isExponent rest
    else (startsDigits isAsciiDigit whole && isExponent rest) ||
      (isSexagesimal isAsciiDigit whole && rest.isEmpty)

def isSpecialFloat (cs : List Char) : Bool :=
  nanWords.contains (String.ofList cs) || infinityWords.contains (String.ofList (unsigned cs))

structure ClockDigits where
  hour : List Char
  minute : List Char
  second : List Char
  fraction : List Char
  offset : Option (Bool × List Char × List Char)
  isUtc : Bool

structure TimeDigits where
  year : List Char
  month : List Char
  day : List Char
  clock : Option ClockDigits

def digits? (least most : Nat) (cs : List Char) : Option (List Char × List Char) :=
  let run := cs.takeWhile isAsciiDigit
  if least ≤ run.length && run.length ≤ most then some (run, cs.drop run.length) else none

def isTimeSpace (c : Char) : Bool :=
  c == ' ' || c == '\t'

def zone? (cs : List Char) : Option (Option (Bool × List Char × List Char) × Bool) :=
  match cs.dropWhile isTimeSpace with
  | [] => if cs.isEmpty then some (none, false) else none
  | ['Z'] => some (none, true)
  | sign :: rest =>
    if isSign sign then do
      let (hour, rest) ← digits? 1 2 rest
      match rest with
      | [] => some (some (sign == '-', hour, []), false)
      | ':' :: rest =>
        let (minute, rest) ← digits? 2 2 rest
        if rest.isEmpty then some (some (sign == '-', hour, minute), false) else none
      | _ => none
    else none

def clock? (cs : List Char) : Option ClockDigits := do
  let (hour, rest) ← digits? 1 2 cs
  let (minute, rest) ← digits? 2 2 (← dropPrefix? [':'] rest)
  let (second, rest) ← digits? 2 2 (← dropPrefix? [':'] rest)
  let (fraction, rest) := match rest with
    | '.' :: rest => rest.span isAsciiDigit
    | rest => ([], rest)
  let (offset, isUtc) ← zone? rest
  some ⟨hour, minute, second, fraction, offset, isUtc⟩

def timeDigits? (cs : List Char) : Option TimeDigits := do
  let (year, rest) ← digits? 4 4 cs
  let (month, rest) ← digits? 1 2 (← dropPrefix? ['-'] rest)
  let (day, rest) ← digits? 1 2 (← dropPrefix? ['-'] rest)
  match rest with
  | [] => some ⟨year, month, day, none⟩
  | c :: cs =>
    if c == 'T' || c == 't' then some ⟨year, month, day, ← clock? cs⟩
    else if isTimeSpace c then some ⟨year, month, day, ← clock? (cs.dropWhile isTimeSpace)⟩
    else none

def TimeDigits.isFull (t : TimeDigits) : Bool :=
  t.clock.isSome || (t.month.length == 2 && t.day.length == 2)

def withoutLineEnd (cs : List Char) : List Char :=
  if cs.length > 1 && cs.getLast? == some '\n' then cs.dropLast else cs

def Tag.ofPlain (cs : List Char) : Tag :=
  let cs := withoutLineEnd cs
  let s := String.ofList cs
  if nullWords.contains s then .null
  else if truthWords.contains s then .bool
  else if isUnsignedInt (unsigned cs) then .int
  else if isFloat cs || isSpecialFloat cs then .float
  else if (timeDigits? cs).any (·.isFull) then .time
  else if s == "<<" then .merge
  else if s == "=" then .standIn
  else .text

end IssueQuery.Yaml
