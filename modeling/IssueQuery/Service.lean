import IssueQuery.Analysis.Pipeline
import IssueQuery.Intent.Phrases
import IssueQuery.Settings
import IssueQuery.Tracker.Memory
import IssueQuery.Tracker.Sample

namespace IssueQuery

open Calendar (Reader Timestamp)

structure Service where
  interpret : String → Outcome Intent
  search : Query → Outcome (SearchResult String)
  now : Timestamp

/-- What lies outside: the time in UTC, a library of dates, a language model, and trackers at addresses. -/
structure Surroundings where
  now : Timestamp
  reader : Reader
  reply : Model.Request → Model.Reply
  search : String → Query → Outcome (SearchResult String)

namespace Surroundings

def offline (reader : Reader) (now : Timestamp) : Surroundings where
  now := now
  reader := reader
  reply _ := .noConnection
  search _ _ := .error (.transport .noSession)

def answerer (w : Surroundings) (settings : Model.Settings) : Answerer Unit where
  ask question _ := ((w.reply (Model.request settings question)).intent w.reader, ())
  random _ := (.decimal 0.0, ())

end Surroundings

namespace Service

def ofSettings (w : Surroundings) (s : Settings) : Outcome Service := do
  let interpret : String → Outcome Intent := match s.interpreter with
    | .phrases => Phrases.intent
    | .model settings policy => fun question => (policy.run (w.answerer settings) question ()).outcome
  match s.source with
  | .samples =>
    let now ← ofClock w.now.toUtc
    let issues ← Sample.issues now
    return ⟨interpret, Memory.search issues now, now⟩
  | .remote server => return ⟨interpret, w.search server, w.now⟩

def answer (s : Service) (question : String) (options : ProcessingOptions) (perGroup : Bool) :
    Outcome (SearchResult String × Processed) := do
  let intent ← s.interpret question
  let result ← s.search (Query.compile intent)
  let processed ← process (Stage.defaults (.ok s.now)) ⟨result.issues, some intent, options⟩
  if perGroup && !processed.groups.isEmpty && !options.aggregate.isEmpty then
    let groups ← Registry.aggregations.annotateAll s.now options.aggregate processed.groups
    return (result, { processed with groups := groups })
  else return (result, processed)

end Service

end IssueQuery
