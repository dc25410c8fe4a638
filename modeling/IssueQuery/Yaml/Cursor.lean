import IssueQuery.Text.Class

namespace IssueQuery.Yaml

def isAllowed (c : Char) : Bool :=
  let n := c.toNat
  n == 9 || n == 10 || n == 13 || (0x20 ≤ n && n ≤ 0x7e) || n == 0x85 ||
    (0xa0 ≤ n && n != 0xfffe && n != 0xffff)

def byteOrderMark : Char := Char.ofNat 0xfeff

def isBreak (c : Char) : Bool :=
  let n := c.toNat
  n == 10 || n == 0x85 || n == 0x2028 || n == 0x2029

def keptBreak (c : Char) : Char :=
  if c.toNat == 0x85 then '\n' else c

def isSpace (c : Char) : Bool :=
  c == ' ' || c == '\t'

def isGap (c : Char) : Bool :=
  isSpace c || isBreak c

def isBlankOrBreak (c : Char) : Bool :=
  c == ' ' || isBreak c

def ends (p : Char → Bool) : List Char → Bool
  | [] => true
  | c :: _ => p c

def startsMark (sign : Char) (cs : List Char) : Bool :=
  cs.take 3 == [sign, sign, sign] && ends isGap (cs.drop 3)

def startsDocument (cs : List Char) : Bool :=
  startsMark '-' cs || startsMark '.' cs

def uniform : List Char → List Char
  | [] => []
  | '\r' :: '\n' :: cs => '\n' :: uniform cs
  | '\r' :: cs => '\n' :: uniform cs
  | c :: cs => c :: uniform cs

structure Position where
  index : Nat
  line : Nat
  column : Nat
  deriving Repr, DecidableEq

def Position.start : Position := ⟨0, 0, 0⟩

def Position.over (p : Position) (c : Char) : Position :=
  if isBreak c then ⟨p.index + 1, p.line + 1, 0⟩
  else ⟨p.index + 1, p.line, if c == byteOrderMark then p.column else p.column + 1⟩

structure Cursor where
  rest : List Char
  position : Position
  deriving Repr, DecidableEq

namespace Cursor

def start (cs : List Char) : Cursor := ⟨cs, .start⟩

def column (c : Cursor) : Nat := c.position.column

def next (c : Cursor) : Cursor :=
  match c.rest with
  | [] => c
  | ch :: rest => ⟨rest, c.position.over ch⟩

def skip (c : Cursor) : Nat → Cursor
  | 0 => c
  | n + 1 => c.next.skip n

def spanFrom (p : Char → Bool) : List Char → Position → List Char × Cursor
  | [], pos => ([], ⟨[], pos⟩)
  | c :: cs, pos =>
    if p c then
      let (run, after) := spanFrom p cs (pos.over c)
      (c :: run, after)
    else ([], ⟨c :: cs, pos⟩)

def span (p : Char → Bool) (c : Cursor) : List Char × Cursor :=
  spanFrom p c.rest c.position

def skipWhile (p : Char → Bool) (c : Cursor) : Cursor :=
  (c.span p).2

def lineBreak (c : Cursor) : List Char × Cursor :=
  match c.rest with
  | ch :: _ => if isBreak ch then ([keptBreak ch], c.next) else ([], c)
  | [] => ([], c)

end Cursor

end IssueQuery.Yaml
