
namespace IssueQuery.Command

def usage : String :=
  "usage: jql-bridge [-h] [--group-by FIELD] [--calculate NAME]\n" ++
  "                  [--aggregate NAME] [--format FORMAT] [--per-group] [--debug]\n" ++
  "                  [query ...]\n"

def help : String :=
  usage ++ "\n" ++
  "Translate a natural-language question into JQL, run it, and summarize the\n" ++
  "results.\n" ++
  "\n" ++
  "positional arguments:\n" ++
  "  query             Free-text query, e.g. 'open bugs assigned to me'\n" ++
  "\n" ++
  "options:\n" ++
  "  -h, --help        show this help message and exit\n" ++
  "  --group-by FIELD  Group by field (repeatable)\n" ++
  "  --calculate NAME  Calculation (repeatable)\n" ++
  "  --aggregate NAME  Aggregation (repeatable)\n" ++
  "  --format FORMAT   Output format (detail, json, summary, table); unknown\n" ++
  "                    names fall back to table\n" ++
  "  --per-group       Attach aggregations to each group\n" ++
  "  --debug           Enable debug logging\n"

end IssueQuery.Command
