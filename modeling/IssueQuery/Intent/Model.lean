import IssueQuery.Intent.Payload
import IssueQuery.Intent.Prompt

namespace IssueQuery.Model

structure Settings where
  name : String
  temperature : Float
  maxTokens : Int

structure Message where
  role : String
  content : String

structure Request where
  model : String
  messages : List Message
  temperature : Float
  maxTokens : Int
  format : String

def defaultName : String := "gpt-4o"

def defaultTemperature : Float := 0.1

def defaultMaxTokens : Int := 1000

def request (s : Settings) (question : String) : Request :=
  ⟨s.name, [⟨"system", prompt⟩, ⟨"user", question⟩], s.temperature, s.maxTokens, "json_object"⟩

inductive Reply where
  | content (text : Option String)
  | noChoices
  | noConnection
  | timeout
  | rateLimit (message : String)
  | status (code : Int) (message : String)

def Reply.text : Reply → Outcome String
  | .content (some text) => if text.isEmpty then .error (.intent .emptyReply) else .ok text
  | .content none | .noChoices => .error (.intent .emptyReply)
  | .noConnection => unanswered "Connection error."
  | .timeout => unanswered "Request timed out."
  | .rateLimit message => unanswered message
  | .status code message =>
    .error (.service ("OpenAI API error " ++ toString code ++ ": " ++ message) (code ≥ 500))
where
  unanswered (message : String) : Outcome String :=
    .error (.service ("OpenAI request failed: " ++ message) true)

def Reply.intent (reader : Calendar.Reader) (r : Reply) : Outcome Intent := do
  match Json.read (← r.text) with
  | .ok payload => Payload.intent reader payload
  | .error (.longInteger digits) => throw (.longInteger digits)
  | .error (.tooDeep isObject) => throw (.unreadable (.tooDeep isObject))
  | .error fault => throw (.intent (.unreadableReply fault))

end IssueQuery.Model
