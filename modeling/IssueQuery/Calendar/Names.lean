import IssueQuery.Text.Case

namespace IssueQuery.Calendar

open Text

def monthNames : List (List String) :=
  [["jan", "january"], ["feb", "february"], ["mar", "march"], ["apr", "april"], ["may"],
    ["jun", "june"], ["jul", "july"], ["aug", "august"], ["sep", "sept", "september"],
    ["oct", "october"], ["nov", "november"], ["dec", "december"]]

def weekdayNames : List (List String) :=
  [["mon", "monday"], ["tue", "tuesday"], ["wed", "wednesday"], ["thu", "thursday"],
    ["fri", "friday"], ["sat", "saturday"], ["sun", "sunday"]]

def unitNames : List (List String) :=
  [["h", "hour", "hours"], ["m", "minute", "minutes"], ["s", "second", "seconds"]]

def halfNames : List (List String) :=
  [["am", "a"], ["pm", "p"]]

def utcNames : List String := ["utc", "gmt", "z"]

def fillerWords : List String :=
  ["at", "on", "and", "ad", "m", "t", "of", "st", "nd", "rd", "th"]

def fillerSigns : List Char := ['.', ',', ';', '-', '/', '\'']

def lowerWord (cs : List Char) : String :=
  String.ofList (cs.map asciiLower)

def placeOf? (names : List (List String)) (cs : List Char) : Option Nat :=
  names.findIdx? fun spellings => spellings.contains (lowerWord cs)

def monthOf? (cs : List Char) : Option Nat :=
  (placeOf? monthNames cs).map (· + 1)

def shortMonthOf? (cs : List Char) : Option Nat :=
  if cs.length == 3 then monthOf? cs else none

end IssueQuery.Calendar
