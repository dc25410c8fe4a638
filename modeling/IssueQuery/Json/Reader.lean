import IssueQuery.Json.Basic
import IssueQuery.Number.Reading

/-!
Reading JSON text within limits. Beyond the standard, `NaN` and the two infinities are numbers, and of two
members with one name the last counts. A fault names what was expected and where.
-/

namespace IssueQuery.Json

inductive Problem where
  | value
  | memberName
  | colon
  | comma
  | trailing
  | openText
  | control
  | badEscape
  | badCodeUnit
  | byteOrderMark
  deriving Repr, DecidableEq

def Problem.message : Problem → String
  | .value => "Expecting value"
  | .memberName => "Expecting property name enclosed in double quotes"
  | .colon => "Expecting ':' delimiter"
  | .comma => "Expecting ',' delimiter"
  | .trailing => "Extra data"
  | .openText => "Unterminated string starting at"
  | .control => "Invalid control character at"
  | .badEscape => "Invalid \\escape"
  | .badCodeUnit => "Invalid \\uXXXX escape"
  | .byteOrderMark => "Unexpected UTF-8 BOM (decode using utf-8-sig)"

/-- Why a text is no JSON value; places are counted by the characters still unread there. -/
inductive Stop where
  | problem (p : Problem) (unread : Nat)
  | longInteger (digits : Nat)
  | tooDeep (isObject : Bool)
  deriving Repr, DecidableEq

abbrev Step (α : Type) := Except Stop (α × List Char)

def isSpace (c : Char) : Bool :=
  c == ' ' || c == '\t' || c == '\n' || c == '\r'

def skipSpace (cs : List Char) : List Char :=
  cs.dropWhile isSpace

def codeUnit? (a b c d : Char) : Option Nat := do
  let digits ← [a, b, c, d].mapM Text.hexValue?
  return digits.foldl (fun n digit => 16 * n + digit) 0

def isHighSurrogate (n : Nat) : Bool :=
  0xd800 ≤ n && n ≤ 0xdbff

def isLowSurrogate (n : Nat) : Bool :=
  0xdc00 ≤ n && n ≤ 0xdfff

def joinSurrogates (high low : Nat) : Nat :=
  0x10000 + (high - 0xd800) * 0x400 + (low - 0xdc00)

/-- The character of a code unit; a surrogate that stands alone has none of its own. -/
def unitChar (n : Nat) : Char :=
  if isHighSurrogate n || isLowSurrogate n then Char.ofNat 0xfffd else Char.ofNat n

def simpleEscape? : Char → Option Char
  | '"' => some '"'
  | '\\' => some '\\'
  | '/' => some '/'
  | 'b' => some (Char.ofNat 8)
  | 'f' => some (Char.ofNat 12)
  | 'n' => some '\n'
  | 'r' => some '\r'
  | 't' => some '\t'
  | _ => none

/-- The rest of a text value after its opening quote, which stood where `start` characters were
unread. The characters read so far are given in reverse. -/
def readText (start : Nat) : List Char → List Char → Step String
  | [], _ => .error (.problem .openText start)
  | ['\\'], _ => .error (.problem .openText start)
  | '"' :: cs, acc => .ok (String.ofList acc.reverse, cs)
  | '\\' :: 'u' :: a :: b :: c :: d :: '\\' :: 'u' :: e :: f :: g :: h :: x :: cs, acc =>
    let rest := x :: cs
    match codeUnit? a b c d with
    | none => .error (.problem .badCodeUnit (rest.length + 11))
    | some high =>
      if isHighSurrogate high then
        match codeUnit? e f g h with
        | none => .error (.problem .badCodeUnit (rest.length + 5))
        | some low =>
          if isLowSurrogate low then readText start (x :: cs) (Char.ofNat (joinSurrogates high low) :: acc)
          else readText start ('\\' :: 'u' :: e :: f :: g :: h :: x :: cs) (unitChar high :: acc)
      else readText start ('\\' :: 'u' :: e :: f :: g :: h :: x :: cs) (unitChar high :: acc)
  | '\\' :: 'u' :: a :: b :: c :: d :: x :: cs, acc =>
    match codeUnit? a b c d with
    | none => .error (.problem .badCodeUnit (cs.length + 6))
    | some n => readText start (x :: cs) (unitChar n :: acc)
  | '\\' :: 'u' :: cs, _ => .error (.problem .badCodeUnit (cs.length + 1))
  | '\\' :: c :: cs, acc =>
    match simpleEscape? c with
    | some e => readText start cs (e :: acc)
    | none => .error (.problem .badEscape (cs.length + 2))
  | c :: cs, acc =>
    if c.toNat < 0x20 then .error (.problem .control (cs.length + 1)) else readText start cs (c :: acc)

def digitsOf (cs : List Char) : List Char :=
  cs.takeWhile Text.isAsciiDigit

def wholeDigits? : List Char → Option (List Char × List Char)
  | '0' :: cs => some (['0'], cs)
  | cs =>
    let ds := digitsOf cs
    if ds.isEmpty then none else some (ds, cs.drop ds.length)

def fractionDigits : List Char → List Char × List Char
  | '.' :: cs =>
    let ds := digitsOf cs
    if ds.isEmpty then ([], '.' :: cs) else (ds, cs.drop ds.length)
  | cs => ([], cs)

def exponentPart (cs : List Char) : Bool × Int × List Char :=
  match cs with
  | e :: rest =>
    if Number.isExponentMark e then
      let (negative, digits) := Number.splitSign rest
      let ds := digitsOf digits
      if ds.isEmpty then (false, 0, cs)
      else
        let n := (Number.exponent? ds).getD 0
        (true, if negative then -n else n, digits.drop ds.length)
    else (false, 0, cs)
  | [] => (false, 0, cs)

def readNumber? (digits : Nat) (negative : Bool) (cs : List Char) : Option (Step Json) :=
  (wholeDigits? cs).map fun (whole, afterWhole) =>
    let (fraction, afterFraction) := fractionDigits afterWhole
    let (hasExponent, e, rest) := exponentPart afterFraction
    if fraction.isEmpty && !hasExponent then
      if whole.length > digits then .error (.longInteger whole.length)
      else .ok (.int (if negative then -(Number.asciiValue whole : Int) else Number.asciiValue whole), rest)
    else
      let x := Number.nearestDecimal (Number.asciiValue (whole ++ fraction)) (e - fraction.length)
      .ok (.float (Number.withSign negative x), rest)

def literals : List (String × Json) :=
  [("null", .null), ("true", .bool true), ("false", .bool false), ("NaN", .float Number.notANumber),
    ("Infinity", .float Number.infinity), ("-Infinity", .float (-Number.infinity))]

def readLiteral? (cs : List Char) : Option (Json × List Char) :=
  literals.findSome? fun (word, v) => (Text.dropPrefix? word.toList cs).map (v, ·)

def readScalar (digits : Nat) (cs : List Char) : Step Json :=
  match readLiteral? cs with
  | some r => .ok r
  | none =>
    (match cs with
      | '-' :: rest => readNumber? digits true rest
      | _ => readNumber? digits false cs).getD (.error (.problem .value cs.length))

def maxDepth : Nat := 988

structure Limits where
  depth : Nat
  digits : Nat
  deriving Repr, DecidableEq

def Limits.standard : Limits := ⟨maxDepth, Number.maxDigits⟩

mutual

/-- Reads one value, in which `depth` lists and objects may lie one inside the other; `fuel` bounds the
number of the values. -/
def readValue (digits depth fuel : Nat) (cs : List Char) : Step Json :=
  match fuel with
  | 0 => .error (.problem .value cs.length)
  | fuel + 1 =>
    match cs, depth with
    | '"' :: rest, _ => (readText cs.length rest []).map fun (s, r) => (.text s, r)
    | '[' :: _, 0 => .error (.tooDeep false)
    | '{' :: _, 0 => .error (.tooDeep true)
    | '[' :: rest, depth + 1 =>
      match skipSpace rest with
      | ']' :: r => .ok (.list [], r)
      | r => (readItems digits depth fuel r).map fun (items, r) => (.list items, r)
    | '{' :: rest, depth + 1 =>
      match skipSpace rest with
      | '}' :: r => .ok (.object [], r)
      | r => (readMembers digits depth fuel r []).map fun (members, r) => (.object members, r)
    | _, _ => readScalar digits cs

def readItems (digits depth fuel : Nat) (cs : List Char) : Step (List Json) :=
  match fuel with
  | 0 => .error (.problem .value cs.length)
  | fuel + 1 =>
    match readValue digits depth fuel cs with
    | .error e => .error e
    | .ok (v, rest) =>
      match skipSpace rest with
      | ']' :: r => .ok ([v], r)
      | ',' :: r => (readItems digits depth fuel (skipSpace r)).map fun (vs, r) => (v :: vs, r)
      | r => .error (.problem .comma r.length)

def readMembers (digits depth fuel : Nat) (cs : List Char) (acc : OrderedMap Json) : Step (OrderedMap Json) :=
  match fuel with
  | 0 => .error (.problem .value cs.length)
  | fuel + 1 =>
    match cs with
    | '"' :: afterQuote =>
      match readText cs.length afterQuote [] with
      | .error e => .error e
      | .ok (name, rest) =>
        match skipSpace rest with
        | ':' :: r =>
          match readValue digits depth fuel (skipSpace r) with
          | .error e => .error e
          | .ok (v, rest) =>
            match skipSpace rest with
            | '}' :: r => .ok (acc.put name v, r)
            | ',' :: r => readMembers digits depth fuel (skipSpace r) (acc.put name v)
            | r => .error (.problem .comma r.length)
        | r => .error (.problem .colon r.length)
    | _ => .error (.problem .memberName cs.length)

end

inductive ReadFault where
  | malformed (problem : Problem) (line column position : Nat)
  | longInteger (digits : Nat)
  | tooDeep (isObject : Bool)
  deriving Repr, DecidableEq

def locate (cs : List Char) (position : Nat) : Nat × Nat :=
  let before := cs.take position
  (before.count '\n' + 1, (before.reverse.takeWhile (· != '\n')).length + 1)

def Stop.toFault (cs : List Char) : Stop → ReadFault
  | .problem p unread =>
    let position := cs.length - unread
    let (line, column) := locate cs position
    .malformed p line column position
  | .longInteger digits => .longInteger digits
  | .tooDeep isObject => .tooDeep isObject

def ReadFault.message : ReadFault → String
  | .malformed p line column position => s!"{p.message}: line {line} column {column} (char {position})"
  | .longInteger digits => Number.longIntegerMessage digits
  | .tooDeep isObject =>
    "maximum recursion depth exceeded while decoding a JSON " ++ (if isObject then "object" else "array") ++
      " from a unicode string"

def readAll (limits : Limits) (cs : List Char) : Except Stop Json :=
  match cs with
  | '\ufeff' :: _ => .error (.problem .byteOrderMark cs.length)
  | _ =>
    match readValue limits.digits limits.depth (2 * cs.length + 2) (skipSpace cs) with
    | .error e => .error e
    | .ok (v, rest) =>
      match skipSpace rest with
      | [] => .ok v
      | r => .error (.problem .trailing r.length)

def readWithin (limits : Limits) (s : String) : Except ReadFault Json :=
  (readAll limits s.toList).mapError (Stop.toFault s.toList)

def read (s : String) : Except ReadFault Json :=
  readWithin .standard s

end IssueQuery.Json
