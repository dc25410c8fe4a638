import IssueQuery.Text.Class

namespace IssueQuery.Text

def lowerHexDigit (n : Nat) : Char :=
  Char.ofNat (if n < 10 then 0x30 + n else 0x57 + n)

def hexCode : Nat → Nat → List Char
  | 0, _ => []
  | width + 1, n => hexCode width (n / 16) ++ [lowerHexDigit (n % 16)]

def quoteMark (cs : List Char) : Char :=
  if cs.contains '\'' && !cs.contains '"' then '"' else '\''

def quotedChar (mark c : Char) : List Char :=
  let n := c.toNat
  if c == mark || c == '\\' then ['\\', c]
  else if c == '\n' then ['\\', 'n']
  else if c == '\r' then ['\\', 'r']
  else if c == '\t' then ['\\', 't']
  else if isPrintable c then [c]
  else if n < 0x100 then '\\' :: 'x' :: hexCode 2 n
  else if n < 0x10000 then '\\' :: 'u' :: hexCode 4 n
  else '\\' :: 'U' :: hexCode 8 n

def quoted (s : String) : String :=
  let mark := quoteMark s.toList
  String.ofList (mark :: s.toList.flatMap (quotedChar mark) ++ [mark])

end IssueQuery.Text
