import IssueQuery.Fault
import IssueQuery.Intent.Model
import IssueQuery.Intent.Retry
import IssueQuery.Number.Reading
import IssueQuery.Text.Case

namespace IssueQuery

open Text

abbrev Environment := OrderedMap String

structure Settings where
  useSamples : Bool
  server : Option String
  email : Option String
  token : Option String
  provider : String
  apiKey : Option String
  model : Model.Settings
  attempts : Int

namespace Settings

def trueWords : List String := ["1", "true", "yes", "on"]

def readBool (fallback : Bool) : Option String → Bool
  | none => fallback
  | some s => if isBlankText s then fallback else trueWords.contains (lower (strip s))

def readFloat (fallback : Float) (s : Option String) : Float :=
  (s.bind Number.readFloat?).getD fallback

def readInt (fallback : Int) (s : Option String) : Int :=
  match s.map Number.readInt with
  | some (.value n) => n
  | _ => fallback

def isPresent (s : Option String) : Bool :=
  s.any (!·.isEmpty)

def either (a b : Option String) : Option String :=
  if isPresent a then a else b

def mockProvider : String := "mock"

def openaiProvider : String := "openai"

def ofEnvironment (env : Environment) : Settings where
  useSamples := readBool true (env.get? "USE_MOCKS")
  server := either (env.get? "JIRA_BASE_URL") (env.get? "JIRA_SERVER")
  email := env.get? "JIRA_EMAIL"
  token := either (env.get? "JIRA_API_TOKEN") (env.get? "JIRA_TOKEN")
  provider := lower (strip ((either (env.get? "LLM_PROVIDER") none).getD mockProvider))
  apiKey := env.get? "LLM_API_KEY"
  model := {
    name := (either (env.get? "OPENAI_MODEL") none).getD Model.defaultName
    temperature := readFloat Model.defaultTemperature (env.get? "OPENAI_TEMPERATURE")
    maxTokens := readInt Model.defaultMaxTokens (env.get? "OPENAI_MAX_TOKENS") }
  attempts := readInt RetryPolicy.standard.attempts (env.get? "LLM_MAX_ATTEMPTS")

def missingNames (s : Settings) : List String :=
  ([("JIRA_BASE_URL", s.server), ("JIRA_EMAIL", s.email), ("JIRA_API_TOKEN", s.token)].filter
    fun (_, v) => !isPresent v).map (·.1)

def validate (s : Settings) : Except SettingsFault Unit :=
  if s.provider != mockProvider && s.provider != openaiProvider then
    .error (.unknownProvider s.provider)
  else if s.provider != mockProvider && !isPresent s.apiKey then .error (.noApiKey s.provider)
  else if !s.useSamples && !s.missingNames.isEmpty then .error (.missing s.missingNames)
  else .ok ()

inductive Interpreter where
  | phrases
  | model (settings : Model.Settings) (policy : RetryPolicy)

def interpreter (s : Settings) : Interpreter :=
  if s.provider == openaiProvider then
    .model s.model { RetryPolicy.standard with attempts := s.attempts }
  else .phrases

inductive Source where
  | samples
  | remote (server : String)

def source (s : Settings) : Source :=
  if s.useSamples then .samples else .remote (s.server.getD "")

end Settings

end IssueQuery
