import IssueQuery.Calendar.Names
import IssueQuery.Number.Reading

namespace IssueQuery.Calendar

open Text
open Number (digitsValue)

structure Numeral where
  whole : List Nat
  fraction : List Nat
  deriving Repr, DecidableEq

namespace Numeral

def isWhole (n : Numeral) : Bool :=
  n.fraction.isEmpty

def length (n : Numeral) : Nat :=
  n.whole.length + if n.isWhole then 0 else n.fraction.length + 1

def floor (n : Numeral) : Nat :=
  digitsValue n.whole

def isIntegral (n : Numeral) : Bool :=
  n.fraction.all (· == 0)

def atMost (n : Numeral) (bound : Nat) : Bool :=
  n.floor < bound || (n.floor == bound && n.isIntegral)

def sixtieths? (n : Numeral) : Option Nat :=
  if n.isIntegral then none else some (60 * digitsValue n.fraction / 10 ^ n.fraction.length)

def millionths (n : Numeral) : Nat :=
  digitsValue (n.fraction.take 6) * 10 ^ (6 - n.fraction.length)

end Numeral

inductive Piece where
  | number (n : Numeral)
  | word (letters : List Char)
  | sign (c : Char)
  | blank
  deriving Repr, DecidableEq

namespace Piece

def isLetter (c : Char) : Bool :=
  if c.toNat < 0x80 then isAsciiLetter c else !isBlank c && !isDigit c

def isCut (c : Char) : Bool :=
  c == '.' || c == ','

inductive RunKind where
  | letters
  | digits
  | pointedLetters
  | pointedDigits
  deriving Repr, DecidableEq

structure Run where
  kind : RunKind
  lettered : Bool
  text : List Char

def extend? (kind : RunKind) (text : List Char) (c : Char) : Option RunKind :=
  let afterPoint := text.head? == some '.'
  match kind with
  | .letters => if isLetter c then some .letters else if c == '.' then some .pointedLetters else none
  | .digits =>
    if isDigit c then some .digits
    else if c == '.' || (c == ',' && text.length ≥ 2) then some .pointedDigits
    else none
  | .pointedLetters =>
    if c == '.' || isLetter c then some .pointedLetters
    else if isDigit c && afterPoint then some .pointedDigits
    else none
  | .pointedDigits =>
    if c == '.' || isDigit c then some .pointedDigits
    else if isLetter c && afterPoint then some .pointedLetters
    else none

def isLettered : RunKind → Bool
  | .letters | .pointedLetters => true
  | _ => false

def takeRun (r : Run) : List Char → Run × List Char
  | [] => (r, [])
  | c :: cs =>
    let lettered := r.lettered || isLettered r.kind
    match extend? r.kind r.text c with
    | some kind => takeRun ⟨kind, lettered, c :: r.text⟩ cs
    | none => (⟨r.kind, lettered, r.text⟩, c :: cs)

def cutAtPoints : List Char → List Char → List Piece
  | part, [] => close part
  | part, c :: cs => if isCut c then close part ++ sign c :: cutAtPoints [] cs else cutAtPoints (c :: part) cs
where
  close (part : List Char) : List Piece :=
    if part.isEmpty then []
    else match part.reverse.mapM digitValue? with
      | some ds => [.number ⟨ds, []⟩]
      | none => [.word part.reverse]

def decimal? (cs : List Char) : Option Numeral :=
  match (cs.takeWhile (!isCut ·)).mapM digitValue?, ((cs.dropWhile (!isCut ·)).drop 1).mapM digitValue? with
  | some whole, some fraction => some ⟨whole, fraction⟩
  | _, _ => none

def ofRun (r : Run) : List Piece :=
  let cs := r.text.reverse
  let isPointed := r.kind == .pointedLetters || r.kind == .pointedDigits
  if isPointed && (r.lettered || cs.count '.' > 1 || r.text.head?.any isCut) then cutAtPoints [] cs
  else match decimal? cs with
    | some n => [.number n]
    | none => [.word cs]

/-- The pieces of a text; `fuel` is at least its length. -/
def scan : Nat → List Char → List Piece
  | 0, _ => []
  | _, [] => []
  | fuel + 1, c :: cs =>
    if isLetter c then
      let (r, rest) := takeRun ⟨.letters, false, [c]⟩ cs
      ofRun r ++ scan fuel rest
    else if isDigit c then
      let (r, rest) := takeRun ⟨.digits, false, [c]⟩ cs
      ofRun r ++ scan fuel rest
    else (if isBlank c then .blank else .sign c) :: scan fuel cs

def ofText (cs : List Char) : List Piece :=
  let cs := cs.filter (·.toNat != 0)
  scan cs.length cs

def isFiller : Piece → Bool
  | .blank => true
  | .sign c => fillerSigns.contains c
  | .word cs => fillerWords.contains (lowerWord cs)
  | .number _ => false

def word? : Piece → Option (List Char)
  | .word cs => some cs
  | _ => none

def unit? (p : Piece) : Option Nat :=
  p.word?.bind (placeOf? unitNames)

def half? (p : Piece) : Option Nat :=
  p.word?.bind (placeOf? halfNames)

def digits? : Piece → Option (List Nat)
  | .number n => if n.isWhole then some n.whole else none
  | _ => none

end Piece

end IssueQuery.Calendar
