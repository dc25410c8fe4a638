import IssueQuery.Json.Reader
import IssueQuery.Value
import IssueQuery.Number.Power
import IssueQuery.Yaml.ReadFault

namespace IssueQuery

inductive IntentFault where
  | payloadNotObject
  | filtersNotObject
  | windowNotObject (kind : String)
  | notTexts (kind : String)
  | badDate (v : Json)
  | badNumber (what : String) (v : Json)
  | sortNotList
  | badSortEntry (v : Json)
  | badSortOrder (order : String)
  | emptyReply
  | unreadableReply (fault : Json.ReadFault)
  | other (message : String)

def IntentFault.message : IntentFault → String
  | .payloadNotObject => "Intent payload must be a JSON object"
  | .filtersNotObject => "filters must be an object"
  | .windowNotObject kind => "Date range must be an object, got " ++ kind
  | .notTexts kind => "Expected a list of strings, got " ++ kind
  | .badDate v => "Invalid date value: " ++ v.quoted
  | .badNumber what v => "Invalid " ++ what ++ ": " ++ v.quoted
  | .sortNotList => "sort must be a list"
  | .badSortEntry v => "Invalid sort entry: " ++ v.quoted
  | .badSortOrder order => "Invalid sort order: " ++ order
  | .emptyReply => "Empty response from OpenAI"
  | .unreadableReply fault => "Invalid response format from LLM: " ++ fault.message
  | .other message => message

inductive TransportFault where
  | noSession
  | searchFailed (status : Option Int) (text : String)
  | network (message : String)
  | unreadableReply (cause : String)
  | fetchFailed (key text : String) (status : Option Int)
  | notAnIssue (key kind : String)
  | unreadableIssue (key cause : String)
  | projectsFailed (text : String) (status : Option Int)
  | other (message : String) (status : Option Int)

def statusText (status : Option Int) : String :=
  (status.map toString).getD "None"

namespace TransportFault

def message : TransportFault → String
  | .noSession => "JIRA session unavailable"
  | .searchFailed status text => "Search failed " ++ statusText status ++ ": " ++ text
  | .network message => "Failed to search Jira issues due to network error: " ++ message
  | .unreadableReply cause => "Failed to parse Jira API response: " ++ cause
  | .fetchFailed key text _ => "Failed to fetch issue " ++ key ++ ": " ++ text
  | .notAnIssue key kind =>
    "Unexpected issue payload type for " ++ key ++ ": <class '" ++ kind ++ "'>"
  | .unreadableIssue key cause => "Failed to parse issue " ++ key ++ ": " ++ cause
  | .projectsFailed text _ => "Failed to fetch projects: " ++ text
  | .other message _ => message

def status : TransportFault → Option Int
  | .searchFailed status _ | .fetchFailed _ _ status | .projectsFailed _ status | .other _ status => status
  | _ => none

end TransportFault

inductive SettingsFault where
  | unknownProvider (name : String)
  | noApiKey (provider : String)
  | missing (names : List String)
  | other (message : String)

def SettingsFault.message : SettingsFault → String
  | .unknownProvider name => "Unknown LLM provider: " ++ name
  | .noApiKey provider => provider ++ " configuration is missing. Set LLM_API_KEY environment variable."
  | .missing names => "Missing Jira configuration: " ++ ", ".intercalate names
  | .other message => message

/-- The classes by which failures are told apart where they are handled. -/
inductive FaultClass where
  | value
  | type
  | attribute
  /-- A lost connection, or an answer that did not come in time. -/
  | connection
  /-- A document that breaks the rules of its language. -/
  | markup
  deriving Repr, DecidableEq

/-- A failure of a collaborator: the name and the words under which it is reported, and the classes to which it
belongs. -/
structure Failure where
  kind : String
  message : String
  classes : List FaultClass
  deriving Repr, DecidableEq

def Failure.isA (f : Failure) (c : FaultClass) : Bool :=
  f.classes.contains c

namespace Yaml.ReadFault

def classes : ReadFault → List FaultClass
  | .malformed => [.markup]
  | .noCharacter code => if code < 2 ^ 31 then [.value] else []
  | .notInteger .. | .longInteger _ | .hugeInteger | .notFloat _ | .wrongTime _ | .wrongOffset _ => [.value]
  | .notTime => [.attribute]
  | .timeOfMembers => [.type]
  | .tooDeep | .noNumber | .tooManyPlaces | .notTruth _ => []

def failure (f : ReadFault) : Failure :=
  ⟨f.kind, f.message, f.classes⟩

end Yaml.ReadFault

inductive Fault where
  | intent (cause : IntentFault)
  | service (message : String) (transient : Bool)
  | transport (cause : TransportFault)
  | settings (cause : SettingsFault)
  | clock (cause : Calendar.ClockFault)
  | range (cause : Number.RangeFault)
  | infiniteInteger
  | longInteger (digits : Nat)
  | unreadable (fault : Json.ReadFault)
  | yaml (fault : Yaml.ReadFault)
  | noMembers (kind : String)
  | noItems (kind : String)
  | incompleteIssue (key : String)
  | missingColumn (name : String)
  | repeatedColumn
  | stackOverflow
  | foreign (failure : Failure)

def clockMessage : Calendar.ClockFault → String
  | .outOfRange => "date value out of range"
  | .incomparable => "can't compare offset-naive and offset-aware datetimes"
  | .spanTooLong days =>
    if days ≥ 2 ^ 31 then Number.wideIntegerMessage
    else "days=" ++ toString days ++ "; must have magnitude <= 999999999"

namespace Fault

def message : Fault → String
  | .intent cause => cause.message
  | .service message _ => message
  | .transport cause => cause.message
  | .settings cause => cause.message
  | .clock cause => clockMessage cause
  | .range .tooLarge => "(34, 'Numerical result out of range')"
  | .range .zeroDivisor => "0.0 cannot be raised to a negative power"
  | .range .wholeTooLarge => "int too large to convert to float"
  | .infiniteInteger => "cannot convert float infinity to integer"
  | .longInteger digits => Number.longIntegerMessage digits
  | .unreadable fault => fault.message
  | .yaml fault => fault.message
  | .noMembers kind => "'" ++ kind ++ "' object has no attribute 'get'"
  | .noItems kind => "'" ++ kind ++ "' object is not iterable"
  | .incompleteIssue key => "Incomplete issue payload: " ++ key
  | .missingColumn name => Text.quoted name
  | .repeatedColumn => "cannot assemble with duplicate keys"
  | .stackOverflow => "maximum recursion depth exceeded"
  | .foreign failure => failure.message

def kind : Fault → String
  | .intent _ => "IntentParsingError"
  | .service .. => "IntentServiceError"
  | .transport _ => "JiraTransportError"
  | .settings _ => "ConfigurationError"
  | .clock .incomparable | .noItems _ => "TypeError"
  | .range .zeroDivisor => "ZeroDivisionError"
  | .clock _ | .range _ | .infiniteInteger => "OverflowError"
  | .unreadable (.tooDeep _) | .stackOverflow => "RecursionError"
  | .yaml fault => fault.kind
  | .longInteger _ | .unreadable _ | .incompleteIssue _ | .repeatedColumn => "ValueError"
  | .missingColumn _ => "KeyError"
  | .noMembers _ => "AttributeError"
  | .foreign failure => failure.kind

def classes : Fault → List FaultClass
  | .clock .incomparable | .noItems _ => [.type]
  | .unreadable (.tooDeep _) => []
  | .longInteger _ | .unreadable _ | .incompleteIssue _ | .repeatedColumn => [.value]
  | .noMembers _ => [.attribute]
  | .yaml fault => fault.classes
  | .foreign failure => failure.classes
  | _ => []

def isA (f : Fault) (c : FaultClass) : Bool :=
  f.classes.contains c

def isTransient : Fault → Bool
  | .service _ transient => transient
  | f => f.isA .connection

end Fault

abbrev Outcome (α : Type) := Except Fault α

def integerOfDigits (digits : List Char) : Outcome Int :=
  match Number.readInt (String.ofList digits) with
  | .value n => .ok n
  | .tooLong n => .error (.longInteger n)
  | .malformed => .ok 0

def ofRange {α : Type} (r : Except Number.RangeFault α) : Outcome α :=
  r.mapError Fault.range

def ofClock {α : Type} (r : Except Calendar.ClockFault α) : Outcome α :=
  r.mapError Fault.clock

end IssueQuery
