import IssueQuery.Number.Reading
import IssueQuery.Text.Quoted

namespace IssueQuery.Yaml

inductive TimePart where
  | year
  | month
  | day
  | hour
  | minute
  | second
  deriving Repr, DecidableEq

def TimePart.message : TimePart → String
  | .year => "year 0 is out of range"
  | .month => "month must be in 1..12"
  | .day => "day is out of range for month"
  | .hour => "hour must be in 0..23"
  | .minute => "minute must be in 0..59"
  | .second => "second must be in 0..59"

inductive ReadFault where
  | malformed
  | tooDeep
  | noCharacter (code : Nat)
  | notInteger (base : Nat) (digits : List Char)
  | longInteger (digits : Nat)
  | hugeInteger
  | noNumber
  | notFloat (digits : List Char)
  | tooManyPlaces
  | notTruth (word : String)
  | notTime
  | timeOfMembers
  | wrongTime (part : TimePart)
  | wrongOffset (seconds : Int)
  deriving Repr, DecidableEq

def secondsPerDay : Int := 86400

def microsPerSecond : Int := 1000000

def spanText (micros : Int) : String :=
  let seconds := micros.fdiv microsPerSecond
  let amounts := [("days", seconds.fdiv secondsPerDay), ("seconds", seconds.fmod secondsPerDay),
    ("microseconds", micros.fmod microsPerSecond)]
  let parts := (amounts.filter (·.2 != 0)).map fun (name, n) => name ++ "=" ++ toString n
  "datetime.timedelta(" ++ (if parts.isEmpty then "0" else ", ".intercalate parts) ++ ")"

def shownDigits : Nat := 200

namespace ReadFault

def message : ReadFault → String
  | .malformed => ""
  | .tooDeep => "maximum recursion depth exceeded"
  | .noCharacter code =>
    if code < 2 ^ 31 then "chr() arg not in range(0x110000)" else Number.wideIntegerMessage
  | .notInteger base digits =>
    "invalid literal for int() with base " ++ toString base ++ ": " ++
      String.ofList ((Text.quoted (String.ofList digits)).toList.take shownDigits)
  | .longInteger digits => Number.longIntegerMessage digits
  | .hugeInteger => Number.longMessage ""
  | .noNumber => "string index out of range"
  | .notFloat digits => "could not convert string to float: " ++ Text.quoted (String.ofList digits)
  | .tooManyPlaces => "int too large to convert to float"
  | .notTruth word => Text.quoted word
  | .notTime => "'NoneType' object has no attribute 'groupdict'"
  | .timeOfMembers => "expected string or bytes-like object, got 'list'"
  | .wrongTime part => part.message
  | .wrongOffset seconds =>
    "offset must be a timedelta strictly between -timedelta(hours=24) and timedelta(hours=24), not " ++
      spanText (seconds * microsPerSecond) ++ "."

def kind : ReadFault → String
  | .malformed => "YAMLError"
  | .tooDeep => "RecursionError"
  | .noCharacter code => if code < 2 ^ 31 then "ValueError" else "OverflowError"
  | .noNumber => "IndexError"
  | .tooManyPlaces => "OverflowError"
  | .notTruth _ => "KeyError"
  | .notTime => "AttributeError"
  | .timeOfMembers => "TypeError"
  | .notInteger .. | .longInteger _ | .hugeInteger | .notFloat _ | .wrongTime _ | .wrongOffset _ =>
    "ValueError"

end ReadFault

end IssueQuery.Yaml
