import IssueQuery.Command.Arguments
import IssueQuery.Command.Help
import IssueQuery.Service

namespace IssueQuery.Command

open Text

structure Output where
  exit : Nat
  out : String
  err : String
  deriving Repr, DecidableEq

def failure (message : String) : Output :=
  ⟨1, "", "Error: " ++ message ++ "\n"⟩

def faultText (f : Fault) : String :=
  let message := join " " (words f.message)
  if message.isEmpty then f.kind else message

def options (a : Arguments) : ProcessingOptions :=
  ⟨a.groupBy, a.calculate, a.aggregate, some a.format⟩

def report (w : Surroundings) (columns : ColumnSets) (settings : Settings) (question : String)
    (a : Arguments) : Outcome String := do
  (settings.validate).mapError Fault.settings
  let service ← Service.ofSettings w settings
  let (result, processed) ← service.answer question (options a) a.perGroup
  Findings.render columns w.now ⟨result, some processed⟩ (Format.ofName (some a.format))

abbrev Reporter := Settings → String → Arguments → Outcome String

def answer (reporter : Reporter) (env : Environment) (a : Arguments) : Output :=
  let question := strip (join " " a.words)
  if question.isEmpty then ⟨1, "", usage⟩
  else match reporter (Settings.ofEnvironment env) question a with
    | .ok text => ⟨0, text ++ "\n", ""⟩
    | .error f => failure (faultText f)

def respond (reporter : Reporter) (env : Environment) (arguments : List String) : Output :=
  match Arguments.ofTexts arguments with
  | .ok .help => ⟨0, help, ""⟩
  | .ok (.arguments a) => answer reporter env a
  | .error f => failure f.message

def run (w : Surroundings) (columns : ColumnSets) : Environment → List String → Output :=
  respond (report w columns)

end IssueQuery.Command
