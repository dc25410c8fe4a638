import IssueQuery.Text.Basic
import IssueQuery.Text.Case

namespace IssueQuery.Text

def firstMatch {α : Type} (p : List Char → Option α) : List Char → Option α
  | [] => p []
  | c :: cs => (p (c :: cs)).orElse fun _ => firstMatch p cs

def run? (p : Char → Bool) (cs : List Char) : Option (List Char × List Char) :=
  let taken := cs.takeWhile p
  if taken.isEmpty then none else some (taken, cs.dropWhile p)

def dropAny? (words : List String) (cs : List Char) : Option (List Char) :=
  words.findSome? fun w => dropPrefix? w.toList cs

def wordAfter? (phrase : String) (cs : List Char) : Option (List Char) := do
  let (word, _) ← run? isWord (← dropPrefix? phrase.toList cs)
  return word

/-- The letters beyond ASCII that count as cases of an ASCII letter: the long s, the kelvin sign, and
the letters i without a dot and with a dot in capitals. -/
def otherCases : List (Char × Nat) :=
  [('s', 0x17f), ('k', 0x212a), ('i', 0x131), ('i', 0x130)]

def isCaseOf (letter c : Char) : Bool :=
  asciiLower c == letter || otherCases.contains (letter, c.toNat)

def dropKeyword? : List Char → List Char → Option (List Char)
  | [], cs => some cs
  | _ :: _, [] => none
  | k :: ks, c :: cs => if isCaseOf k c then dropKeyword? ks cs else none

def skipBlanks (cs : List Char) : List Char :=
  cs.dropWhile isBlank

def dropSign? (sign : String) (cs : List Char) : Option (List Char) :=
  dropKeyword? sign.toList (skipBlanks cs)

/-- The results of a pattern where a word begins, from left to right; the search goes on after what a
result has used up. The flag says whether a word character stands before, the number how many
characters are used up. -/
def wordMatches {α : Type} (p : List Char → Option (α × List Char)) :
    Bool → Nat → List Char → List α
  | _, _, [] => []
  | _, used + 1, c :: cs => wordMatches p (isWord c) used cs
  | inWord, 0, c :: cs =>
    if inWord || !isWord c then wordMatches p (isWord c) 0 cs
    else match p (c :: cs) with
      | some (a, rest) => a :: wordMatches p (isWord c) (cs.length - rest.length) cs
      | none => wordMatches p (isWord c) 0 cs

end IssueQuery.Text
