import CatchmentLint.Model.Basic
import CatchmentLint.Schema.Basic

/-!
# CatchmentLint.Expression.Reference

References to data series, constants, node outputs and simulation variables.

1. Every reference is a list of segments with dots between them: `data.series`, `c.constant`,
   `node.name.output`, `this.output`, `sim.variable`.
2. A clause in brackets may end a reference and says nothing about what it refers to.
3. A node reference has a name and an output, and neither is empty; where a model is known the node
   must be declared, and where its type lists outputs the output must be one of them.
-/

namespace CatchmentLint

/-- What is known of the model around an expression. -/
inductive Context where
  | empty
  | model (m : Model) (schema : Schema)
  /-- Inside a parameter of the node `self`. -/
  | node (m : Model) (schema : Schema) (self : Section)

namespace Context

/-- The model and the schema, where there is a model. -/
def surroundings? : Context → Option (Model × Schema)
  | .empty => none
  | .model m schema => some (m, schema)
  | .node m schema _ => some (m, schema)

def isEmpty : Context → Bool
  | .empty => true
  | _ => false

end Context

namespace Reference

/-! ## Problems -/

/-- What may be wrong with a reference. -/
inductive Problem where
  | incomplete (label reference : Text)
  | consecutiveDots (label reference : Text)
  | trailingDot (label reference : Text)
  | malformedNode (reference : Text)
  | unknownNode (name : Text)
  | outputNotAllowed (output nodeType : Text) (allowed : List Text)
  | unknownVariable (reference : Text)
  | outsideNode (reference : Text)
  deriving DecidableEq, Repr

/-- The simulation variables. -/
def knownVariables : List Text :=
  ["sim.year", "sim.month", "sim.day", "sim.day_of_year", "sim.step"].map String.toList

def Problem.message : Problem → Text
  | .incomplete label reference =>
    "Incomplete ".toList ++ label ++ " reference: '".toList ++ reference ++ ['\'']
  | .consecutiveDots label reference =>
    "Malformed ".toList ++ label ++ " reference: '".toList ++ reference ++
      "' (consecutive dots)".toList
  | .trailingDot label reference =>
    "Malformed ".toList ++ label ++ " reference: '".toList ++ reference ++ "' (trailing dot)".toList
  | .malformedNode reference => "Malformed node reference: '".toList ++ reference ++ ['\'']
  | .unknownNode name => "Node reference points to non-existent node: ".toList ++ name
  | .outputNotAllowed output nodeType allowed =>
    "Output property '".toList ++ output ++ "' is not allowed for node type '".toList ++ nodeType ++
      "'. Allowed outputs: ".toList ++ Text.join ", ".toList allowed
  | .unknownVariable reference =>
    "Unknown sim variable: '".toList ++ reference ++ "'. Valid options are: ".toList ++
      Text.join ", ".toList knownVariables
  | .outsideNode reference =>
    "Cannot use 'this' reference outside of node context: '".toList ++ reference ++ ['\'']

/-! ## Shape -/

/-- The reference without a bracketed clause at its end. -/
def withoutBrackets (reference : Text) : Text :=
  if '[' ∈ reference ∧ reference.getLast? = some ']' then reference.takeWhile (· != '[')
  else reference

/-- The name and the output of `node.name.output`. -/
def splitNode? (reference : Text) : Option (Text × Text) :=
  match Text.dropLead? "node.".toList reference with
  | none => none
  | some rest =>
    match Text.cut? '.' rest with
    | none => none
    | some (name, output) =>
      if name = [] ∨ output = [] ∨ '.' ∈ output then none else some (name, output)

/-- The first of the faults that a reference with the first segment `lead` may have. -/
def dottedProblem? (label lead reference : Text) : Option Problem :=
  let body := withoutBrackets reference
  let rest := (Text.dropLead? lead body).getD body
  if rest = [] ∨ rest = ['.'] then some (.incomplete label reference)
  else if Text.hasPart ['.', '.'] body then some (.consecutiveDots label reference)
  else if body.getLast? = some '.' then some (.trailingDot label reference)
  else none

/-! ## Meaning -/

/-- The problem of an output of a node, if its type is known and lists outputs without it. -/
def outputProblem? (schema : Schema) (node : Section) (output : Text) : Option Problem :=
  match node.nodeType? with
  | none => none
  | some typeName =>
    match schema.nodeType? typeName with
    | none => none
    | some t =>
      if t.outputs = [] ∨ t.allowsOutput output then none
      else some (.outputNotAllowed output typeName t.outputs)

/-- The node that a node reference names. -/
def resolve (m : Model) (schema : Schema) (reference : Text) : Except Problem Node :=
  let body := withoutBrackets reference
  match splitNode? body with
  | none => .error (.malformedNode body)
  | some (name, output) =>
    match m.node? name with
    | none => .error (.unknownNode name)
    | some node =>
      match outputProblem? schema node.body output with
      | some problem => .error problem
      | none => .ok node

/-- What is wrong with a node reference.  Without a model only its shape is looked at. -/
def nodeProblem? (context : Context) (reference : Text) : Option Problem :=
  match dottedProblem? "node".toList "node".toList reference with
  | some problem => some problem
  | none =>
    match context.surroundings? with
    | some (m, schema) =>
      match resolve m schema reference with
      | .error problem => some problem
      | .ok _ => none
    | none =>
      if (splitNode? (withoutBrackets reference)).isNone then some (.malformedNode reference)
      else none

def variableProblem? (reference : Text) : Option Problem :=
  if knownVariables.contains reference then none else some (.unknownVariable reference)

/-- What is wrong with a reference to an output of the node that the expression stands in. -/
def thisProblem? (context : Context) (reference : Text) : Option Problem :=
  match Text.dropLead? "this.".toList (withoutBrackets reference) with
  | none | some [] => some (.incomplete "this".toList reference)
  | some output =>
    match context with
    | .node _ schema self => outputProblem? schema self output
    | _ => some (.outsideNode reference)

end Reference

end CatchmentLint
