import IssueQuery.Report.Format
import IssueQuery.Text.Quoted
import IssueQuery.Text.Basic

namespace IssueQuery

open Text

inductive Flag where
  | help
  | groupBy
  | calculate
  | aggregate
  | format
  | perGroup
  | debug
  deriving Repr, DecidableEq

namespace Flag

def spellings : OrderedMap Flag :=
  [("--help", help), ("--group-by", groupBy), ("--calculate", calculate), ("--aggregate", aggregate),
    ("--format", format), ("--per-group", perGroup), ("--debug", debug)]

def title : Flag → String
  | .help => "-h/--help"
  | .groupBy => "--group-by"
  | .calculate => "--calculate"
  | .aggregate => "--aggregate"
  | .format => "--format"
  | .perGroup => "--per-group"
  | .debug => "--debug"

def takesValue : Flag → Bool
  | .groupBy | .calculate | .aggregate | .format => true
  | .help | .perGroup | .debug => false

def beginning (text : List Char) : OrderedMap Flag :=
  spellings.filter fun (spelling, _) => (dropPrefix? text spelling.toList).isSome

end Flag

inductive ArgumentFault where
  | ambiguous (argument : String) (spellings : List String)
  | valueExpected (flag : Flag)
  | valueIgnored (flag : Flag) (value : String)
  | unrecognized (arguments : List String)
  deriving Repr, DecidableEq

def ArgumentFault.message : ArgumentFault → String
  | .ambiguous argument spellings =>
    "ambiguous option: " ++ argument ++ " could match " ++ join ", " spellings
  | .valueExpected flag => "argument " ++ flag.title ++ ": expected one argument"
  | .valueIgnored flag value =>
    "argument " ++ flag.title ++ ": ignored explicit argument " ++ Text.quoted value
  | .unrecognized arguments => "unrecognized arguments: " ++ join " " arguments

inductive Token where
  | word (text : String)
  | mark
  | flag (flag : Flag) (attached : Option String)
  | cluster (attached : List Char)
  | unknown (text : String)
  deriving Repr, DecidableEq

namespace Token

/-- A negative number is no flag. One line break may follow it. -/
def isNegativeNumber (cs : List Char) : Bool :=
  match cs with
  | '-' :: rest =>
    let body := match rest.reverse with
      | '\n' :: front => front.reverse
      | _ => rest
    let whole := body.takeWhile isDigit
    match body.dropWhile isDigit with
    | [] => !whole.isEmpty
    | '.' :: fraction => !fraction.isEmpty && fraction.all isDigit
    | _ => false
  | _ => false

def splitAttached (cs : List Char) : List Char × Option String :=
  match cs.dropWhile (· != '=') with
  | [] => (cs, none)
  | _ :: value => (cs.takeWhile (· != '='), some (String.ofList value))

def other (text : String) : Token :=
  if isNegativeNumber text.toList || text.toList.contains ' ' then .word text else .unknown text

def ofLong (text : String) : Except ArgumentFault Token :=
  let (spelling, attached) := splitAttached text.toList
  match Flag.spellings.get? (String.ofList spelling), Flag.beginning spelling with
  | some f, _ => .ok (.flag f attached)
  | none, [] => .ok (other text)
  | none, [(_, f)] => .ok (.flag f attached)
  | none, several => .error (.ambiguous text (OrderedMap.keys several))

def ofShort (text : String) : Token :=
  match text.toList with
  | ['-', 'h', '='] => .flag .help (some "")
  | '-' :: 'h' :: '=' :: rest => .cluster rest
  | '-' :: 'h' :: rest => .cluster rest
  | _ => other text

def ofText (text : String) : Except ArgumentFault Token :=
  match text.toList with
  | '-' :: '-' :: _ => ofLong text
  | '-' :: _ :: _ => .ok (ofShort text)
  | _ => .ok (.word text)

def ofTexts : List String → Except ArgumentFault (List Token)
  | [] => .ok []
  | text :: rest =>
    if text == "--" then .ok (.mark :: rest.map .word)
    else do
      let token ← ofText text
      let tokens ← ofTexts rest
      return token :: tokens

end Token

structure Arguments where
  words : List String
  groupBy : List String
  calculate : List String
  aggregate : List String
  format : String
  perGroup : Bool
  debug : Bool
  deriving Repr, DecidableEq

namespace Arguments

def none : Arguments := ⟨[], [], [], [], Format.standardName, false, false⟩

inductive Reading where
  | help
  | arguments (a : Arguments)
  deriving Repr, DecidableEq

inductive Phase where
  | before
  | during
  | after
  deriving Repr, DecidableEq

namespace Phase

def interrupt : Phase → Phase
  | .before => .before
  | _ => .after

end Phase

def withFlag (a : Arguments) : Flag → Arguments
  | .perGroup => { a with perGroup := true }
  | .debug => { a with debug := true }
  | _ => a

def withValue (a : Arguments) (value : String) : Flag → Arguments
  | .groupBy => { a with groupBy := a.groupBy ++ [value] }
  | .calculate => { a with calculate := a.calculate ++ [value] }
  | .aggregate => { a with aggregate := a.aggregate ++ [value] }
  | .format => { a with format := value }
  | _ => a

/-- Further short spellings may be attached to the short one of help; anything else that is attached is
a value, which help does not take. -/
def readCluster : List Char → Except ArgumentFault Reading
  | [] => .ok .help
  | 'h' :: rest => readCluster rest
  | rest => .error (.valueIgnored .help (String.ofList rest))

def withWord (a : Arguments) (word : String) : Arguments :=
  { a with words := a.words ++ [word] }

def read (a : Arguments) (phase : Phase) (extra : List String) :
    List Token → Except ArgumentFault Reading
  | [] => if extra.isEmpty then .ok (.arguments a) else .error (.unrecognized extra)
  | .word text :: rest =>
    if phase == .after then read a phase (extra ++ [text]) rest
    else read (a.withWord text) .during extra rest
  | .mark :: rest =>
    if phase == .after then read a phase (extra ++ ["--"]) rest else read a .during extra rest
  | .unknown text :: rest => read a phase.interrupt (extra ++ [text]) rest
  | .cluster attached :: _ => readCluster attached
  | .flag f (some value) :: rest =>
    if f.takesValue then read (a.withValue value f) phase.interrupt extra rest
    else .error (.valueIgnored f value)
  | .flag .help Option.none :: _ => .ok .help
  | .flag f Option.none :: rest =>
    if f.takesValue then
      match rest with
      | .word value :: rest => read (a.withValue value f) phase.interrupt extra rest
      | _ => .error (.valueExpected f)
    else read (a.withFlag f) phase.interrupt extra rest

def ofTexts (texts : List String) : Except ArgumentFault Reading := do
  read none .before [] (← Token.ofTexts texts)

end Arguments

end IssueQuery
