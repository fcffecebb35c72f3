import RuleGraph.CommandLine.Failure
import RuleGraph.Text.Wrap

namespace RuleGraph.CommandLine

/-- The columns of a line of a report. -/
def reportWidth : Nat := 198

/-- A paragraph of a report: a text with a mark in front of its first line, and as many columns in
    front of the others. -/
def paragraph (first others text : String) : List String :=
  Text.indent first others (Text.wrap (reportWidth - first.length) text)

/-- The report on a failure, as it is shown to people: the kind of failure, its text, what lies
    behind it, and help. -/
def report (failure : Failure) : String :=
  let cause := (failure.cause?.map (paragraph "  `-> " "      ")).getD []
  let help := (failure.help?.map (paragraph "  help: " "        ")).getD []
  let lines := [failure.code, ""] ++ paragraph "  x " "  | " failure.message ++ cause ++ help
  String.join (lines.map (· ++ "\n"))

end RuleGraph.CommandLine
