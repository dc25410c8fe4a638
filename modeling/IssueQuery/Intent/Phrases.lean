import IssueQuery.Intent.Basic
import IssueQuery.Fault
import IssueQuery.Text.Scan
import IssueQuery.Text.Case

namespace IssueQuery.Phrases

open Text

def presets : List (String × Intent) :=
  let bug := some ["Bug"]
  [("show bugs assigned to me updated last 7 days",
      { Intent.empty with filters := some { Filters.none with
          assignee := some "currentUser", issueTypes := bug, updated := some (DateWindow.last 7) } }),
    ("bugs assigned to me",
      { Intent.empty with filters := some { Filters.none with
          assignee := some "currentUser", issueTypes := bug } }),
    ("high priority stories in bank project",
      { Intent.empty with filters := some { Filters.none with
          project := some "BANK", priorities := some ["High"], issueTypes := some ["Story"] } }),
    ("closed issues last month",
      { Intent.empty with filters := some { Filters.none with
          status := some ["Closed", "Done"], updated := some (DateWindow.last 30) } }),
    ("open issues",
      { Intent.empty with filters := some { Filters.none with status := some ["Open", "To Do"] } })]

abbrev Keywords := List (List String × List String)

def issueTypeWords : Keywords :=
  [(["bug"], ["Bug"]), (["story", "stories"], ["Story"]), (["task"], ["Task"]), (["epic"], ["Epic"])]

def statusWords : Keywords :=
  [(["open"], ["Open"]), (["closed", "done"], ["Closed", "Done"]), (["in progress"], ["In Progress"])]

def priorityWords : Keywords :=
  [(["high priority"], ["High"]), (["low priority"], ["Low"]), (["medium priority"], ["Medium"])]

def valuesOf (table : Keywords) (prompt : List Char) : Option (List String) :=
  let found := table.foldl (fun acc (words, values) =>
    if words.any (occursIn ·.toList prompt) then acc ++ values.filter (!acc.contains ·) else acc) []
  if found.isEmpty then none else some found

def mentions (prompt : List Char) (phrase : String) : Bool :=
  occursIn phrase.toList prompt

def assignee (prompt : List Char) : Option String :=
  if mentions prompt "assigned to me" || mentions prompt "my " then some "currentUser"
  else if mentions prompt "unassigned" then some "unassigned"
  else (firstMatch (wordAfter? "assigned to ") prompt).map String.ofList

def wordInProject? (cs : List Char) : Option (List Char) := do
  let (word, rest) ← run? isWord (← dropPrefix? "in ".toList cs)
  let _ ← dropPrefix? " project".toList rest
  return word

def project (prompt : List Char) : Option String :=
  (firstMatch (fun cs => (wordAfter? "project " cs).orElse fun _ => wordInProject? cs) prompt).map
    fun word => upper (String.ofList word)

def daysDigits? (cs : List Char) : Option (List Char) := do
  let (digits, rest) ← run? isDigit (← dropPrefix? "last ".toList cs)
  let _ ← dropPrefix? " day".toList rest
  return digits

def updated (prompt : List Char) : Outcome (Option DateWindow) :=
  if mentions prompt "last week" || mentions prompt "past week" then .ok (some (DateWindow.last 7))
  else if mentions prompt "last month" || mentions prompt "past month" then
    .ok (some (DateWindow.last 30))
  else match firstMatch daysDigits? prompt with
    | some digits => (integerOfDigits digits).map fun n => some (DateWindow.last n)
    | none => .ok none

def limitDigits? (cs : List Char) : Option (List Char) := do
  let rest ← dropAny? ["show", "limit", "top"] cs
  let (digits, _) ← run? isDigit (← dropPrefix? [' '] rest)
  return digits

def limit (prompt : List Char) : Outcome (Option Int) :=
  match firstMatch limitDigits? prompt with
  | some digits => (integerOfDigits digits).map some
  | none => .ok none

def endsSearch (cs : List Char) : Bool :=
  cs == [] || cs == ['\n'] || (dropAny? [" in ", " with "] cs).isSome

def endsQuotedSearch : List Char → Bool
  | '"' :: cs => endsSearch cs || endsSearch ('"' :: cs)
  | cs => endsSearch cs

def searchRun? : List Char → Option (List Char)
  | [] => none
  | c :: cs =>
    if !(isWord c || c == ' ') then none
    else if endsQuotedSearch cs then some [c]
    else (searchRun? cs).map (c :: ·)

def searchWords? (cs : List Char) : Option (List Char) := do
  let rest ← dropPrefix? [' '] (← dropAny? ["about", "containing", "mentioning"] cs)
  searchRun? (match rest with
    | '"' :: inner => inner
    | _ => rest)

def search (prompt : List Char) : Option String :=
  (firstMatch searchWords? prompt).map fun cs => String.ofList (stripChars cs)

def sort (prompt : List Char) : Option (List SortField) :=
  if mentions prompt "sorted by updated" || mentions prompt "recent" then
    some [⟨"updated", descending⟩]
  else none

def ofKeywords (text : String) : Outcome Intent := do
  let prompt := text.toList
  let updated ← updated prompt
  let limit ← limit prompt
  return {
    filters := some { Filters.none with
      project := project prompt
      assignee := assignee prompt
      status := valuesOf statusWords prompt
      issueTypes := valuesOf issueTypeWords prompt
      priorities := valuesOf priorityWords prompt
      updated := updated }
    search := search prompt
    sort := sort prompt
    limit := limit }

def intent (text : String) : Outcome Intent :=
  let prompt := strip (lower text)
  match presets.find? fun (phrase, _) => contains prompt phrase with
  | some (_, i) => .ok i
  | none => ofKeywords prompt

end IssueQuery.Phrases
