import IssueQuery.Yaml.Token

namespace IssueQuery.Yaml

structure PossibleKey where
  token : Nat
  start : Position
  required : Bool
  deriving Repr, DecidableEq

/-- A key lies on one line and has at most so many characters. -/
def maxKeyLength : Nat := 1024

structure Layout where
  cursor : Cursor
  tokens : Array Token
  indents : List Nat
  mayBeKey : Bool
  key : Option PossibleKey
  outer : List (Option PossibleKey)

namespace Layout

def start (cs : List Char) : Layout := ⟨.start cs, #[], [], true, none, []⟩

def inFlow (l : Layout) : Bool :=
  !l.outer.isEmpty

def column (l : Layout) : Nat :=
  l.cursor.column

def ownIndent (l : Layout) : Nat :=
  (l.indents.head?.map (· + 1)).getD 0

def push (l : Layout) (t : Token) : Layout :=
  { l with tokens := l.tokens.push t }

def skip (l : Layout) (n : Nat) : Layout :=
  { l with cursor := l.cursor.skip n }

def isStale (l : Layout) (k : PossibleKey) : Bool :=
  k.start.line != l.cursor.position.line || k.start.index + maxKeyLength < l.cursor.position.index

def live (l : Layout) : Option PossibleKey → Except ReadFault (Option PossibleKey)
  | none => .ok none
  | some k =>
    if !l.isStale k then .ok (some k) else if k.required then .error .malformed else .ok none

def dropStale (l : Layout) : Except ReadFault Layout := do
  return { l with key := ← l.live l.key, outer := ← l.outer.mapM l.live }

def dropKey (l : Layout) : Except ReadFault Layout :=
  if l.key.any (·.required) then .error .malformed else .ok { l with key := none }

/-- What begins here may be a key. In a block it must be one where the keys of the block stand. -/
def offerKey (l : Layout) : Except ReadFault Layout :=
  if l.mayBeKey then do
    let l ← l.dropKey
    let required := !l.inFlow && l.indents.head? == some l.column
    return { l with key := some ⟨l.tokens.size, l.cursor.position, required⟩ }
  else .ok l

def settled (l : Layout) : List Token :=
  let open_ := (l.key :: l.outer).filterMap fun k => k.filter (!l.isStale ·)
  l.tokens.toList.take (open_.foldl (fun n k => min n k.token) l.tokens.size)

def closeBlocks (keep : Nat → Bool) (l : Layout) : Layout :=
  if l.inFlow then l
  else
    let closed := l.indents.takeWhile (!keep ·)
    { l with
      indents := l.indents.drop closed.length
      tokens := l.tokens ++ Array.replicate closed.length .blockEnd }

def closeAll (l : Layout) : Layout :=
  l.closeBlocks fun _ => false

/-- Opens a block at a column that lies deeper than the innermost one; its sign stands before the token
of a number. -/
def openBlock (column token : Nat) (sign : Token) (l : Layout) : Layout :=
  if l.indents.head?.all (· < column) then
    { l with indents := column :: l.indents, tokens := l.tokens.insertIdxIfInBounds token sign }
  else l

def openHere (sign : Token) (l : Layout) : Except ReadFault Layout :=
  if l.inFlow then .ok l
  else if l.mayBeKey then .ok (l.openBlock l.column l.tokens.size sign)
  else .error .malformed

def gapFrom (inFlow inComment mayBeKey : Bool) : List Char → Position → Bool × Cursor
  | [], p => (mayBeKey, ⟨[], p⟩)
  | c :: cs, p =>
    if isBreak c then gapFrom inFlow false (mayBeKey || !inFlow) cs (p.over c)
    else if inComment || c == ' ' then gapFrom inFlow inComment mayBeKey cs (p.over c)
    else if c == '#' then gapFrom inFlow true mayBeKey cs (p.over c)
    else (mayBeKey, ⟨c :: cs, p⟩)

def toToken (l : Layout) : Except ReadFault Layout := do
  let cursor :=
    if l.cursor.position.index == 0 && l.cursor.rest.head? == some byteOrderMark then l.cursor.next
    else l.cursor
  let (mayBeKey, cursor) := gapFrom l.inFlow false l.mayBeKey cursor.rest cursor.position
  let l ← dropStale { l with cursor, mayBeKey }
  return l.closeBlocks (· ≤ l.column)

def valueSign (l : Layout) : Except ReadFault Layout := do
  match l.key with
  | some k =>
    let l := { l with key := none, mayBeKey := false, tokens := l.tokens.insertIdxIfInBounds k.token .key }
    return if l.inFlow then l else l.openBlock k.start.column k.token .blockMapping
  | none => return { ← l.openHere .blockMapping with mayBeKey := !l.inFlow }

def sign (token : Token) (width : Nat) (l : Layout) : Layout :=
  (l.skip width).push token

def outerSign (l : Layout) : Except ReadFault Layout := do
  return { ← l.closeAll.dropKey with mayBeKey := false }

def flowStart (token : Token) (l : Layout) : Except ReadFault Layout := do
  let l ← l.offerKey
  return sign token 1 { l with key := none, outer := l.key :: l.outer, mayBeKey := true }

def flowEnd (token : Token) (l : Layout) : Except ReadFault Layout := do
  let l ← l.dropKey
  match l.outer with
  | key :: outer => return sign token 1 { l with key, outer, mayBeKey := false }
  | [] => throw .malformed

def named (read : Cursor → Except ReadFault (Token × Cursor)) (l : Layout) : Except ReadFault Layout := do
  let l ← l.offerKey
  let (token, cursor) ← read l.cursor
  return { l with cursor, mayBeKey := false }.push token

def isIndicator (c : Char) : Bool :=
  isGap c || isFlowSign c ||
    ['-', '?', ':', '#', '&', '*', '!', '|', '>', '\'', '"', '%', '@', Char.ofNat 0x60].contains c

def startsPlain (inFlow : Bool) (c : Char) (cs : List Char) : Bool :=
  !isIndicator c || (!ends isGap cs && (c == '-' || (!inFlow && (c == '?' || c == ':'))))

def token (size : Nat) (l : Layout) (c : Char) (cs : List Char) : Except ReadFault Layout := do
  let quoted (double : Bool) := l.named fun cursor => do
    let (text, after) ← quotedText double size cursor.next
    return (.scalar false text, after)
  let block (folded : Bool) := do
    let l ← l.dropKey
    let (text, cursor) ← blockText folded (max l.ownIndent 1) size l.cursor.next
    return { l with cursor, mayBeKey := true }.push (.scalar false text)
  let atWord := l.inFlow || ends isGap cs
  if l.column == 0 && c == '%' then
    let l ← l.outerSign
    let (token, cursor) ← l.cursor.next.directive size
    return { l with cursor }.push token
  else if l.column == 0 && startsMark '-' (c :: cs) then return sign .documentStart 3 (← l.outerSign)
  else if l.column == 0 && startsMark '.' (c :: cs) then return sign .documentEnd 3 (← l.outerSign)
  else if c == '[' then l.flowStart .flowSequence
  else if c == '\x7b' then l.flowStart .flowMapping
  else if c == ']' then l.flowEnd .flowSequenceEnd
  else if c == '\x7d' then l.flowEnd .flowMappingEnd
  else if c == ',' then return sign .comma 1 { ← l.dropKey with mayBeKey := true }
  else if c == '-' && ends isGap cs then
    let l ← (← l.openHere .blockSequence).dropKey
    return sign .item 1 { l with mayBeKey := true }
  else if c == '?' && atWord then
    let l ← (← l.openHere .blockMapping).dropKey
    return sign .key 1 { l with mayBeKey := !l.inFlow }
  else if c == ':' && atWord then return sign .value 1 (← l.valueSign)
  else if c == '*' then l.named fun cursor => do
    let (name, after) ← cursor.next.anchorName
    return (.alias name, after)
  else if c == '&' then l.named fun cursor => do
    let (name, after) ← cursor.next.anchorName
    return (.anchor name, after)
  else if c == '!' then l.named fun cursor => cursor.tag size
  else if c == '|' && !l.inFlow then block false
  else if c == '>' && !l.inFlow then block true
  else if c == '\'' then quoted false
  else if c == '"' then quoted true
  else if startsPlain l.inFlow c cs then
    let l ← l.offerKey
    let (text, mayBeKey, cursor) := plainText l.inFlow l.ownIndent size l.cursor
    return { l with cursor, mayBeKey }.push (.scalar true text)
  else throw .malformed

def step (size : Nat) (l : Layout) : Except ReadFault Layout := do
  let l ← l.toToken
  match l.cursor.rest with
  | c :: cs => l.token size c cs
  | [] => return (← l.closeAll.dropKey).push .streamEnd

def isDone (l : Layout) : Bool :=
  l.tokens.back? == some .streamEnd

def tokensFrom (size : Nat) : Nat → Layout → List Token × ReadFault
  | 0, l => (l.settled, .malformed)
  | fuel + 1, l =>
    match l.step size with
    | .ok l => if l.isDone then (l.tokens.toList, .malformed) else tokensFrom size fuel l
    | .error fault => (l.settled, fault)

end Layout

def Token.ofText (cs : List Char) : List Token × ReadFault :=
  Layout.tokensFrom (cs.length + 1) (cs.length + 2) (.start cs)

end IssueQuery.Yaml
