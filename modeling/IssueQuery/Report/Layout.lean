import IssueQuery.Report.Frame

namespace IssueQuery

open Text

namespace Cell

def shownChar (c : Char) : List Char :=
  if c == '\n' then ['\\', 'n']
  else if c == '\r' then ['\\', 'r']
  else if c == '\t' then ['\\', 't']
  else [c]

def shown : Cell → String
  | .text s => String.ofList (s.toList.flatMap shownChar)
  | .time t => t.text
  | .number x => Number.fixed 1 x
  | .missing => "NaN"

end Cell

namespace Column

def texts (c : Column) : List String :=
  (if c.numeric then " " ++ c.name else c.name) :: c.cells.map Cell.shown

def width (texts : List String) : Nat :=
  texts.foldl (fun n s => max n s.length) 0

def padded (c : Column) : List String :=
  c.texts.map (padLeft (width c.texts))

end Column

namespace Frame

def besides : List (List String) → List String
  | [] => []
  | [texts] => texts
  | texts :: rest => List.zipWith (fun a b => a ++ " " ++ b) texts (besides rest)

def layout (f : Frame) : List String :=
  Text.lines (join "\n" (besides (f.map (·.padded))))

end Frame

end IssueQuery
