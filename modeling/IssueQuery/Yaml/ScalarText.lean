import IssueQuery.Yaml.Cursor
import IssueQuery.Yaml.ReadFault

namespace IssueQuery.Yaml

/-- What a scalar holds for a line end: a space, or the further line breaks after it. Line breaks
other than the usual one stay as they are. -/
def foldedBreaks (first : Char) (more : List Char) : List Char :=
  if first != '\n' then first :: more else if more.isEmpty then [' '] else more

def quotedBreaks (atLineStart : Bool) : List Char → Position → Except ReadFault (List Char × Cursor)
  | [], p => .ok ([], ⟨[], p⟩)
  | c :: cs, p =>
    if atLineStart && startsDocument (c :: cs) then .error .malformed
    else if isSpace c then quotedBreaks false cs (p.over c)
    else if isBreak c then do
      let (breaks, after) ← quotedBreaks true cs (p.over c)
      return (keptBreak c :: breaks, after)
    else .ok ([], ⟨c :: cs, p⟩)

def quotedGap (c : Cursor) : Except ReadFault (List Char × Cursor) :=
  let (spaces, after) := c.span isSpace
  match after.rest with
  | [] => .error .malformed
  | ch :: cs =>
    if isBreak ch then do
      let (more, after) ← quotedBreaks true cs (after.position.over ch)
      return (foldedBreaks (keptBreak ch) more, after)
    else .ok (spaces, after)

def escapes : List (Char × Nat) :=
  [('0', 0), ('a', 7), ('b', 8), ('t', 9), ('\t', 9), ('n', 10), ('v', 11), ('f', 12), ('r', 13),
    ('e', 27), (' ', 32), ('"', 34), ('/', 47), ('\\', 92), ('N', 0x85), ('_', 0xa0), ('L', 0x2028),
    ('P', 0x2029)]

def codeLength? : Char → Option Nat
  | 'x' => some 2
  | 'u' => some 4
  | 'U' => some 8
  | _ => none

def character (code : Nat) : Except ReadFault Char :=
  if code ≥ 0x110000 then .error (.noCharacter code)
  else if 0xd800 ≤ code && code < 0xe000 then .ok (Char.ofNat 0xfffd)
  else .ok (Char.ofNat code)

def escaped (c : Cursor) : Except ReadFault (List Char × Cursor) :=
  match c.rest with
  | [] => .error .malformed
  | ch :: cs =>
    match escapes.lookup ch, codeLength? ch with
    | some code, _ => .ok ([Char.ofNat code], c.next)
    | none, some width =>
      match (cs.take width).mapM Text.hexValue? with
      | some digits =>
        if digits.length == width then do
          let char ← character (digits.foldl (fun n d => 16 * n + d) 0)
          return ([char], c.skip (width + 1))
        else .error .malformed
      | none => .error .malformed
    | none, none =>
      if isBreak ch then quotedBreaks true cs (c.position.over ch) else .error .malformed

def quotedText (double : Bool) : Nat → Cursor → Except ReadFault (List Char × Cursor)
  | 0, _ => .error .malformed
  | fuel + 1, c =>
    match c.rest with
    | [] => .error .malformed
    | ch :: cs =>
      if ch == (if double then '"' else '\'') then
        if !double && cs.head? == some '\'' then do
          let (text, after) ← quotedText double fuel (c.skip 2)
          return ('\'' :: text, after)
        else .ok ([], c.next)
      else do
        let (piece, after) ←
          if isGap ch then quotedGap c
          else if double && ch == '\\' then escaped c.next
          else .ok ([ch], c.next)
        let (text, after) ← quotedText double fuel after
        return (piece ++ text, after)

def isBracket (c : Char) : Bool :=
  c == '[' || c == ']' || c == '\x7b' || c == '\x7d'

def isFlowSign (c : Char) : Bool :=
  c == ',' || isBracket c

/-- A scalar without quotes ends before a gap and before a colon at the end of a word; between
brackets also before a bracket, a comma or a question mark. -/
def endsPlain (inFlow : Bool) : List Char → Bool
  | [] => true
  | c :: cs =>
    isGap c || (c == ':' && ends (fun d => isGap d || (inFlow && isFlowSign d)) cs) ||
      (inFlow && (isFlowSign c || c == '?'))

def plainRun (inFlow : Bool) : List Char → Position → List Char × Cursor
  | [], p => ([], ⟨[], p⟩)
  | c :: cs, p =>
    if endsPlain inFlow (c :: cs) then ([], ⟨c :: cs, p⟩)
    else
      let (run, after) := plainRun inFlow cs (p.over c)
      (c :: run, after)

structure PlainGap where
  text : Option (List Char)
  endsLine : Bool
  after : Cursor

def plainBreaks (atLineStart : Bool) : List Char → Position → Option (List Char) × Cursor
  | [], p => (some [], ⟨[], p⟩)
  | c :: cs, p =>
    if atLineStart && startsDocument (c :: cs) then (none, ⟨c :: cs, p⟩)
    else if c == ' ' then plainBreaks false cs (p.over c)
    else if isBreak c then
      let (breaks, after) := plainBreaks true cs (p.over c)
      (breaks.map (keptBreak c :: ·), after)
    else (some [], ⟨c :: cs, p⟩)

def plainGap (c : Cursor) : PlainGap :=
  let (spaces, after) := c.span (· == ' ')
  match after.rest with
  | [] => ⟨if spaces.isEmpty then none else some spaces, false, after⟩
  | ch :: cs =>
    if isBreak ch then
      let (more, after) := plainBreaks true cs (after.position.over ch)
      ⟨more.map (foldedBreaks (keptBreak ch)), true, after⟩
    else ⟨if spaces.isEmpty then none else some spaces, false, after⟩

def goesOn (inFlow : Bool) (indent : Nat) (after : Cursor) : Bool :=
  after.rest.head? != some '#' && (inFlow || indent ≤ after.column) && !endsPlain inFlow after.rest

def plainText (inFlow : Bool) (indent : Nat) : Nat → Cursor → List Char × Bool × Cursor
  | 0, c => ([], false, c)
  | fuel + 1, c =>
    let (run, after) := plainRun inFlow c.rest c.position
    let gap := plainGap after
    match gap.text with
    | some between =>
      if goesOn inFlow indent gap.after then
        let (more, endsLine, after) := plainText inFlow indent fuel gap.after
        (run ++ between ++ more, endsLine, after)
      else (run, gap.endsLine, gap.after)
    | none => (run, gap.endsLine, gap.after)

inductive Chomping where
  | strip
  | clip
  | keep
  deriving Repr, DecidableEq

def chomping? : Char → Option Chomping
  | '+' => some .keep
  | '-' => some .strip
  | _ => none

def indentation? (c : Char) : Except ReadFault (Option Nat) :=
  if c == '0' then .error .malformed
  else if Text.isAsciiDigit c then .ok (some (c.toNat - 0x30))
  else .ok none

def blockHead (c : Cursor) : Except ReadFault (Chomping × Option Nat × Cursor) := do
  let sign (c : Cursor) : Option Chomping := c.rest.head?.bind chomping?
  let digit (c : Cursor) : Except ReadFault (Option Nat) :=
    match c.rest with
    | ch :: _ => indentation? ch
    | [] => .ok none
  let (chomping, indent, after) ←
    match sign c with
    | some s => do
      let d ← digit c.next
      .ok (s, d, if d.isSome then c.next.next else c.next)
    | none =>
      match ← digit c with
      | some d =>
        let s := sign c.next
        .ok (s.getD .clip, some d, if s.isSome then c.next.next else c.next)
      | none => .ok (.clip, none, c)
  if ends isBlankOrBreak after.rest then return (chomping, indent, after) else throw .malformed

def voidLine (c : Cursor) : Except ReadFault Cursor :=
  let c := c.skipWhile (· == ' ')
  let c := if c.rest.head? == some '#' then c.skipWhile (!isBreak ·) else c
  if ends isBreak c.rest then .ok c.lineBreak.2 else .error .malformed

def openingBreaks (deepest : Nat) : List Char → Position → List Char × Nat × Cursor
  | [], p => ([], deepest, ⟨[], p⟩)
  | c :: cs, p =>
    if c == ' ' then openingBreaks (max deepest (p.over c).column) cs (p.over c)
    else if isBreak c then
      let (breaks, deepest, after) := openingBreaks deepest cs (p.over c)
      (keptBreak c :: breaks, deepest, after)
    else ([], deepest, ⟨c :: cs, p⟩)

def blockBreaks (indent : Nat) : List Char → Position → List Char × Cursor
  | [], p => ([], ⟨[], p⟩)
  | c :: cs, p =>
    if c == ' ' && p.column < indent then blockBreaks indent cs (p.over c)
    else if isBreak c then
      let (breaks, after) := blockBreaks indent cs (p.over c)
      (keptBreak c :: breaks, after)
    else ([], ⟨c :: cs, p⟩)

def isBlockLine (indent : Nat) (c : Cursor) : Bool :=
  c.column == indent && !c.rest.isEmpty

def blockLines (folded : Bool) (chomping : Chomping) (indent : Nat) :
    Nat → List Char → Cursor → List Char × Cursor
  | 0, _, c => ([], c)
  | fuel + 1, breaks, c =>
    let startsDense (c : Cursor) : Bool := !(c.rest.head?.any isSpace)
    let (line, after) := c.span (!isBreak ·)
    let (lineEnd, after) := after.lineBreak
    let (more, after) := blockBreaks indent after.rest after.position
    if isBlockLine indent after then
      let joint :=
        if folded && lineEnd == ['\n'] && startsDense c && startsDense after then
          if more.isEmpty then [' '] else []
        else lineEnd
      let (text, after) := blockLines folded chomping indent fuel more after
      (breaks ++ line ++ joint ++ text, after)
    else
      let tail := match chomping with
        | .strip => []
        | .clip => lineEnd
        | .keep => lineEnd ++ more
      (breaks ++ line ++ tail, after)

def blockText (folded : Bool) (least fuel : Nat) (c : Cursor) : Except ReadFault (List Char × Cursor) := do
  let (chomping, asked, after) ← blockHead c
  let after ← voidLine after
  let (breaks, indent, after) :=
    match asked with
    | some n =>
      let (breaks, after) := blockBreaks (least + n - 1) after.rest after.position
      (breaks, least + n - 1, after)
    | none =>
      let (breaks, deepest, after) := openingBreaks 0 after.rest after.position
      (breaks, max least deepest, after)
  if isBlockLine indent after then return blockLines folded chomping indent fuel breaks after
  else return (if chomping == .keep then breaks else [], after)

end IssueQuery.Yaml
