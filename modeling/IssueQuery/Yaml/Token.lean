import IssueQuery.Yaml.ScalarText

namespace IssueQuery.Yaml

inductive Directive where
  | version (major : Int)
  | handle (name : List Char) (meaning : List Char)
  | other
  deriving Repr, DecidableEq

inductive Token where
  | directive (d : Directive)
  | documentStart
  | documentEnd
  | streamEnd
  | blockSequence
  | blockMapping
  | blockEnd
  | flowSequence
  | flowSequenceEnd
  | flowMapping
  | flowMappingEnd
  | item
  | comma
  | key
  | value
  | anchor (name : List Char)
  | alias (name : List Char)
  | tag (handle : Option (List Char)) (rest : List Char)
  | scalar (plain : Bool) (text : List Char)
  deriving Repr, DecidableEq

def isNameChar (c : Char) : Bool :=
  Text.isAsciiLetter c || Text.isAsciiDigit c || c == '-' || c == '_'

def isNameEnd (c : Char) : Bool :=
  isGap c || ['?', ':', ',', ']', '\x7d', '%', '@', Char.ofNat 0x60].contains c

def isTagChar (c : Char) : Bool :=
  isNameChar c || ";/?:@&=+$,.!~*'()[]".toList.contains c

def percentBytes : List Char → Except ReadFault (List UInt8 × List Char)
  | '%' :: a :: b :: cs =>
    match Text.hexValue? a, Text.hexValue? b with
    | some x, some y => do
      let (bytes, rest) ← percentBytes cs
      return ((16 * x + y).toUInt8 :: bytes, rest)
    | _, _ => .error .malformed
  | '%' :: _ => .error .malformed
  | cs => .ok ([], cs)

def hasHandle (cs : List Char) : Bool :=
  (cs.takeWhile (!isBlankOrBreak ·)).contains '!'

namespace Cursor

def name (c : Cursor) : Except ReadFault (List Char × Cursor) :=
  let (cs, after) := c.span isNameChar
  if cs.isEmpty then .error .malformed else .ok (cs, after)

def anchorName (c : Cursor) : Except ReadFault (List Char × Cursor) := do
  let (cs, after) ← name c
  if ends isNameEnd after.rest then return (cs, after) else throw .malformed

def tagHandle (c : Cursor) : Except ReadFault (List Char × Cursor) :=
  match c.rest with
  | '!' :: ' ' :: _ => .ok (['!'], c.next)
  | '!' :: _ =>
    let (cs, after) := c.next.span isNameChar
    if after.rest.head? == some '!' then .ok ('!' :: cs ++ ['!'], after.next) else .error .malformed
  | _ => .error .malformed

def tagText : Nat → Cursor → Except ReadFault (List Char × Cursor)
  | 0, _ => .error .malformed
  | fuel + 1, c =>
    match c.rest with
    | '%' :: _ => do
      let (bytes, _) ← percentBytes c.rest
      match String.fromUTF8? (ByteArray.mk bytes.toArray) with
      | some s => do
        let (more, after) ← tagText fuel (c.skip (3 * bytes.length))
        return (s.toList ++ more, after)
      | none => throw .malformed
    | ch :: _ =>
      if isTagChar ch then do
        let (more, after) ← tagText fuel c.next
        return (ch :: more, after)
      else .ok ([], c)
    | [] => .ok ([], c)

def tagRest (fuel : Nat) (c : Cursor) : Except ReadFault (List Char × Cursor) := do
  let (cs, after) ← tagText fuel c
  if cs.isEmpty then throw .malformed else return (cs, after)

def tag (fuel : Nat) (c : Cursor) : Except ReadFault (Token × Cursor) := do
  let (token, after) ←
    match c.next.rest with
    | '<' :: _ => do
      let (cs, after) ← tagRest fuel (c.skip 2)
      if after.rest.head? == some '>' then .ok (Token.tag none cs, after.next) else .error .malformed
    | cs =>
      if ends isGap cs then .ok (Token.tag none ['!'], c.next)
      else do
        let (handle, after) ← if hasHandle cs then tagHandle c else .ok (['!'], c.next)
        let (cs, after) ← tagRest fuel after
        .ok (Token.tag (some handle) cs, after)
  if ends isBlankOrBreak after.rest then return (token, after) else throw .malformed

def number (c : Cursor) : Except ReadFault (Int × Cursor) :=
  let (cs, after) := c.span Text.isAsciiDigit
  match Number.readInt (String.ofList cs) with
  | .value n => .ok (n, after)
  | .tooLong n => .error (.longInteger n)
  | .malformed => .error .malformed

def version (c : Cursor) : Except ReadFault (Directive × Cursor) := do
  let (major, after) ← number (c.skipWhile (· == ' '))
  if after.rest.head? != some '.' then throw .malformed
  let (_, after) ← number after.next
  if ends isBlankOrBreak after.rest then return (.version major, after) else throw .malformed

def handleMeaning (fuel : Nat) (c : Cursor) : Except ReadFault (Directive × Cursor) := do
  let (handle, after) ← tagHandle (c.skipWhile (· == ' '))
  if after.rest.head? != some ' ' then throw .malformed
  let (cs, after) ← tagRest fuel (after.skipWhile (· == ' '))
  if ends isBlankOrBreak after.rest then return (.handle handle cs, after) else throw .malformed

def directive (fuel : Nat) (c : Cursor) : Except ReadFault (Token × Cursor) := do
  let (cs, after) ← name c
  if !ends isBlankOrBreak after.rest then throw .malformed
  let (d, after) ←
    match String.ofList cs with
    | "YAML" => version after
    | "TAG" => handleMeaning fuel after
    | _ => .ok (.other, after.skipWhile (!isBreak ·))
  return (.directive d, ← voidLine after)

end Cursor

end IssueQuery.Yaml
