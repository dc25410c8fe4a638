import IssueQuery.Text.Class

namespace IssueQuery.Text

def stripEnd (p : Char → Bool) (cs : List Char) : List Char :=
  (cs.reverse.dropWhile p).reverse

def stripChars (cs : List Char) : List Char :=
  stripEnd isBlank (cs.dropWhile isBlank)

def strip (s : String) : String :=
  String.ofList (stripChars s.toList)

def isBlankText (s : String) : Bool :=
  s.toList.all isBlank

def splitRuns (p : Char → Bool) : List Char → List Char → List (List Char)
  | [], word => if word.isEmpty then [] else [word.reverse]
  | c :: cs, word =>
    if p c then
      if word.isEmpty then splitRuns p cs [] else word.reverse :: splitRuns p cs []
    else splitRuns p cs (c :: word)

def words (s : String) : List String :=
  (splitRuns isBlank s.toList []).map String.ofList

def linesAfter : List Char → List Char → List (List Char)
  | [], [] => []
  | [], line => [line.reverse]
  | '\r' :: '\n' :: cs, line => line.reverse :: linesAfter cs []
  | c :: cs, line => if isLineEnd c then line.reverse :: linesAfter cs [] else linesAfter cs (c :: line)

def lines (s : String) : List String :=
  (linesAfter s.toList []).map String.ofList

def splitOnChar (sep : Char) : List Char → List (List Char)
  | [] => [[]]
  | c :: cs =>
    if c == sep then [] :: splitOnChar sep cs
    else match splitOnChar sep cs with
      | [] => [[c]]
      | piece :: pieces => (c :: piece) :: pieces

def dropPrefix? : List Char → List Char → Option (List Char)
  | [], cs => some cs
  | _ :: _, [] => none
  | p :: ps, c :: cs => if p == c then dropPrefix? ps cs else none

def occursIn (needle : List Char) : List Char → Bool
  | [] => needle.isEmpty
  | c :: cs => (dropPrefix? needle (c :: cs)).isSome || occursIn needle cs

def contains (s needle : String) : Bool :=
  occursIn needle.toList s.toList

def join (sep : String) (parts : List String) : String :=
  sep.intercalate parts

def truncate (s : String) (limit : Int) : String :=
  if s.length ≤ limit then s
  else
    let kept := limit - 3
    let keep := if kept < 0 then ((s.length : Int) + kept).toNat else kept.toNat
    String.ofList (s.toList.take keep) ++ "..."

def padLeft (width : Nat) (s : String) : String :=
  String.ofList (List.replicate (width - s.length) ' ') ++ s

end IssueQuery.Text
