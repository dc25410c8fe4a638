import IssueQuery.Text.CaseTable
import IssueQuery.Text.Class

namespace IssueQuery.Text

def shifted? (table : List (Nat × Nat × Nat × Nat)) (n : Nat) : Option Nat :=
  (table.find? fun (first, last, step, _) => first ≤ n && n ≤ last && (n - first) % step == 0).map
    fun (first, _, _, target) => target + (n - first)

def mapped (expansions : List (Nat × List Nat)) (shifts : List (Nat × Nat × Nat × Nat)) (c : Char) :
    List Char :=
  match expansions.lookup c.toNat with
  | some ns => ns.map Char.ofNat
  | none => [((shifted? shifts c.toNat).map Char.ofNat).getD c]

def asciiLower (c : Char) : Char :=
  if 0x41 ≤ c.toNat && c.toNat ≤ 0x5a then Char.ofNat (c.toNat + 0x20) else c

def asciiUpper (c : Char) : Char :=
  if 0x61 ≤ c.toNat && c.toNat ≤ 0x7a then Char.ofNat (c.toNat - 0x20) else c

def lowerChar (c : Char) : List Char :=
  if c.toNat < 0x80 then [asciiLower c] else mapped lowerExpansions lowerShifts c

def upperChar (c : Char) : List Char :=
  if c.toNat < 0x80 then [asciiUpper c] else mapped upperExpansions upperShifts c

def foldChar (c : Char) : List Char :=
  if c.toNat < 0x80 then [asciiLower c] else mapped foldExpansions foldShifts c

def isCased (c : Char) : Bool :=
  if c.toNat < 0x80 then isAsciiLetter c else inRuns casedRuns c

def isCaseIgnorable (c : Char) : Bool :=
  if c.toNat < 0x80 then c == '\'' || c == '.' || c == ':' || c == '^' || c.toNat == 0x60
  else inRuns ignorableRuns c

def meetsCased (cs : List Char) : Bool :=
  ((cs.dropWhile isCaseIgnorable).head?.map isCased).getD false

def capitalSigma : Char := Char.ofNat 0x3a3

def smallSigma : Char := Char.ofNat 0x3c3

def finalSigma : Char := Char.ofNat 0x3c2

/-- Lower case, given what stands before, nearest first. -/
def lowerAfter : List Char → List Char → List Char
  | _, [] => []
  | before, c :: cs =>
    (if c == capitalSigma then
      [if meetsCased before && !meetsCased cs then finalSigma else smallSigma]
    else lowerChar c) ++ lowerAfter (c :: before) cs

def lowerChars (cs : List Char) : List Char :=
  lowerAfter [] cs

def lower (s : String) : String :=
  String.ofList (lowerChars s.toList)

def upper (s : String) : String :=
  String.ofList (s.toList.flatMap upperChar)

def fold (s : String) : String :=
  String.ofList (s.toList.flatMap foldChar)

end IssueQuery.Text
