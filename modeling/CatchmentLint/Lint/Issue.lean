import CatchmentLint.Binary64.Shortest
import CatchmentLint.Expression.Check
import CatchmentLint.Severity

/-!
# CatchmentLint.Lint.Issue

What a check finds, and how it is told.

1. A finding has a code and a message.  The rule that switches it on and off, and sets its
   severity, is most often the one of its code; missing files, outputs and links have rules of
   their own.
2. What is found in an expression is as grave as its message says, whatever the rule says.
-/

namespace CatchmentLint

/-- One line of a report. -/
structure Issue where
  line : Nat
  message : Text
  severity : Severity
  rule : Text
  deriving DecidableEq, Repr

namespace Issue

def isError (i : Issue) : Bool := i.severity == .error

def isWarning (i : Issue) : Bool := i.severity == .warning

/-- Severity, message and rule, as every text form gives them. -/
def detail (i : Issue) : Text :=
  i.severity.toText ++ ": ".toList ++ i.message ++ " [".toList ++ i.rule ++ [']']

def toText (i : Issue) : Text :=
  "line ".toList ++ Text.ofNat i.line ++ ": ".toList ++ i.detail

/-- The counts of errors and warnings. -/
def summary (issues : List Issue) : Text :=
  Text.ofNat (issues.countP isError) ++ " errors, ".toList ++
    Text.ofNat (issues.countP isWarning) ++ " warnings".toList

end Issue

/-! ## Findings -/

inductive Finding where
  | missingSection (name : Text)
  | missingProperty (name : Text)
  | invalidProperty (name : Text)
  | invalidVersion
  | missingNodeType (node : Text)
  | unknownNodeType (type : Text)
  | missingParameter (node parameter : Text)
  | unknownParameter (parameter type : Text)
  | invalidExpression (message : Text)
  | invalidCoordinates
  | invalidNumber (value : Text)
  | invalidInteger (value : Text)
  | integerOutOfRange (value : Text)
  | belowMinimum (min : Binary64) (value : Text)
  | aboveMaximum (max : Binary64) (value : Text)
  | invalidSequence
  | wrongCount (parameter : Text) (expected got : Nat)
  | duplicateProperty (key sectionName : Text)
  | duplicateNode (name : Text) (otherLines : List Nat)
  | invalidOutput (reference : Text)
  | unknownOutputNode (node : Text)
  | unknownLinkTarget (node : Text)
  | linkUpwards
  | missingFile (path : Text)
  deriving DecidableEq, Repr

namespace Finding

def code : Finding → Text
  | .missingSection _ => "missing_section".toList
  | .missingProperty _ => "missing_property".toList
  | .invalidProperty name => "invalid_".toList ++ name
  | .invalidVersion => "invalid_version".toList
  | .missingNodeType _ => "missing_node_type".toList
  | .unknownNodeType _ => "unknown_node_type".toList
  | .missingParameter .. => "missing_required_param".toList
  | .unknownParameter .. => "unknown_parameter".toList
  | .invalidExpression _ => "function_expression_error".toList
  | .invalidCoordinates => "invalid_coordinates".toList
  | .invalidNumber _ => "invalid_number".toList
  | .invalidInteger _ => "invalid_integer".toList
  | .integerOutOfRange _ | .belowMinimum .. | .aboveMaximum .. => "value_out_of_range".toList
  | .invalidSequence => "invalid_number_sequence".toList
  | .wrongCount .. => "incorrect_parameter_count".toList
  | .duplicateProperty .. => "duplicate_property".toList
  | .duplicateNode .. => "duplicate_node_name".toList
  | .invalidOutput _ => "invalid_output_reference".toList
  | .unknownOutputNode _ | .unknownLinkTarget _ => "invalid_node_reference".toList
  | .linkUpwards => "node_ordering".toList
  | .missingFile _ => "file_not_found".toList

/-- The rule that switches the finding. -/
def governor : Finding → Text
  | .invalidOutput _ | .unknownOutputNode _ => "output_references".toList
  | .unknownLinkTarget _ => "dsnode_references".toList
  | .missingFile _ => "file_paths".toList
  | f => f.code

/-- The severity where the schema does not name the rule. -/
def defaultSeverity : Finding → Severity
  | .unknownParameter .. => .warning
  | _ => .error

def message : Finding → Text
  | .missingSection name => "Missing required section: [".toList ++ name ++ [']']
  | .missingProperty name => "Missing required property: ".toList ++ name
  | .invalidProperty name => "Invalid ".toList ++ name ++ " format".toList
  | .invalidVersion => "Invalid version format. Expected: X.Y.Z".toList
  | .missingNodeType node => "Node missing required 'type' parameter: ".toList ++ node
  | .unknownNodeType type => "Unknown node type: ".toList ++ type
  | .missingParameter node parameter =>
    "Node '".toList ++ node ++ "' missing required parameter: ".toList ++ parameter
  | .unknownParameter parameter type =>
    "Unknown parameter '".toList ++ parameter ++ "' for node type '".toList ++ type ++ ['\'']
  | .invalidExpression message => message
  | .invalidCoordinates =>
    "Invalid coordinate format. Expected: 'X, Y' (two comma-separated numbers)".toList
  | .invalidNumber value => "Invalid number format: ".toList ++ value
  | .invalidInteger value => "Invalid integer format: ".toList ++ value
  | .integerOutOfRange value => "Integer value out of range: ".toList ++ value
  | .belowMinimum min value => "Value must be >= ".toList ++ min.toText ++ ": ".toList ++ value
  | .aboveMaximum max value => "Value must be <= ".toList ++ max.toText ++ ": ".toList ++ value
  | .invalidSequence => "Invalid number sequence format. Expected comma-separated numbers".toList
  | .wrongCount parameter expected got =>
    "Parameter '".toList ++ parameter ++ "' expects ".toList ++ Text.ofNat expected ++
      " values but got ".toList ++ Text.ofNat got
  | .duplicateProperty key sectionName =>
    "Duplicate property '".toList ++ key ++ "' in section [".toList ++ sectionName ++ [']']
  | .duplicateNode name otherLines =>
    "Duplicate node name '".toList ++ name ++ "' (also defined on line ".toList ++
      Text.join ", ".toList (otherLines.map Text.ofNat) ++ [')']
  | .invalidOutput reference => "Invalid output reference format: ".toList ++ reference
  | .unknownOutputNode node =>
    "Output reference points to non-existent node: ".toList ++ node
  | .unknownLinkTarget node => "Link points to non-existent node: ".toList ++ node
  | .linkUpwards => "Can only link to nodes that appear below this node in the model file".toList
  | .missingFile path => "Input file does not exist: ".toList ++ path

/-- The severity of a finding whose rule has the severity `ruled`. -/
def severityUnder (ruled : Severity) : Finding → Severity
  | .invalidExpression message => if Diagnostic.isWarning message then .warning else .error
  | _ => ruled

/-- The issue of a finding at a line, unless its rule is switched off. -/
def issues (schema : Schema) (line : Nat) (f : Finding) : List Issue :=
  match schema.severity? f.governor f.defaultSeverity with
  | some ruled => [⟨line, f.message, f.severityUnder ruled, f.code⟩]
  | none => []

end Finding

/-- A finding with its line. -/
structure Located where
  line : Nat
  finding : Finding
  deriving DecidableEq, Repr

/-- The issues of findings, in their order. -/
def report (schema : Schema) (found : List Located) : List Issue :=
  found.flatMap fun l => l.finding.issues schema l.line

end CatchmentLint
