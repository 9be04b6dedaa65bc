import CatchmentLint.Json.Basic
import CatchmentLint.Lint.Issue

/-!
# CatchmentLint.Report

What is told about one file, in two forms:

1. as lines, one for each issue and a last one with the counts, each opened by the path of the file;
2. as one JSON object with the path, the counts and the issues, and no line feed behind it.
-/

namespace CatchmentLint.Report

/-- How a report is written. -/
inductive Form where
  | lines
  | json
  deriving DecidableEq, Repr

/-! ## Lines -/

/-- One issue: where it is, how severe it is and what is wrong. -/
def line (path : Text) (i : Issue) : Text :=
  path ++ ':' :: Text.ofNat i.line ++ ": ".toList ++ i.detail

/-- The line with the counts of errors and warnings. -/
def lastLine (path : Text) (issues : List Issue) : Text :=
  path ++ ": ".toList ++ Issue.summary issues

/-- The issues stay in the order in which they were found. -/
def lines (path : Text) (issues : List Issue) : List Text :=
  issues.map (line path) ++ [lastLine path issues]

/-! ## JSON -/

/-- One issue as an object, with its rule. -/
def issueValue (i : Issue) : Json :=
  .object
    [("line".toList, .number i.line), ("message".toList, .string i.message),
     ("severity".toList, .string i.severity.toText), ("rule".toList, .string i.rule)]

/-- The issues of both severities in one list, with their counts before it. -/
def value (path : Text) (issues : List Issue) : Json :=
  .object
    [("file".toList, .string path), ("errors".toList, .number (issues.countP Issue.isError)),
     ("warnings".toList, .number (issues.countP Issue.isWarning)),
     ("issues".toList, .array (issues.map issueValue))]

/-- The report as it is printed: each line is ended by a line feed, the object is not. -/
def render (form : Form) (path : Text) (issues : List Issue) : Text :=
  match form with
  | .lines => (lines path issues).flatMap (· ++ ['\n'])
  | .json => (value path issues).toText

end CatchmentLint.Report
