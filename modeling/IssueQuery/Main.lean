import Std.Time.DateTime.Timestamp
import IssueQuery.Calendar.StandardReader
import IssueQuery.Command.Run

namespace IssueQuery.Command

def environmentNames : List String :=
  ["USE_MOCKS", "JIRA_BASE_URL", "JIRA_SERVER", "JIRA_EMAIL", "JIRA_API_TOKEN", "JIRA_TOKEN",
    "LLM_PROVIDER", "LLM_API_KEY", "OPENAI_MODEL", "OPENAI_TEMPERATURE", "OPENAI_MAX_TOKENS",
    "LLM_MAX_ATTEMPTS"]

def environment : IO Environment :=
  environmentNames.filterMapM fun name => do
    return (← IO.getEnv name).map (name, ·)

def clock : IO Calendar.Timestamp := do
  let now ← Std.Time.Timestamp.now
  return (Calendar.Timestamp.ofNanos? now.toNanosecondsSinceUnixEpoch.val).getD ⟨0, some 0⟩

end IssueQuery.Command

def main (arguments : List String) : IO UInt32 := do
  let world := IssueQuery.Surroundings.offline .standard (← IssueQuery.Command.clock)
  let env ← IssueQuery.Command.environment
  let output := IssueQuery.Command.run world IssueQuery.ColumnSets.standard env arguments
  IO.print output.out
  IO.eprint output.err
  return output.exit.toUInt32
