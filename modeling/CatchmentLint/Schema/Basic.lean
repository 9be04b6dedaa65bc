import CatchmentLint.Binary64.Basic
import CatchmentLint.Pattern.Basic
import CatchmentLint.Severity

/-!
# CatchmentLint.Schema.Basic

What a model file may hold: its top-level sections, the types of its nodes, the forms of its
values, and the rules that are checked, each with a severity and a switch.

A rule that a schema does not name is on, with the severity that its check gives it.
-/

namespace CatchmentLint

/-! ## Sections -/

/-- What a schema asks of a property of a section. -/
structure PropertySpec where
  name : Text
  required : Bool
  pattern : Option Pattern
  /-- The name of a built-in form; `version` is the only one that is checked. -/
  form : Option Text

/-- What a schema asks of a section and its properties. -/
structure SectionSpec where
  name : Text
  required : Bool
  properties : List PropertySpec

/-! ## Node types -/

/-- What the values of a parameter are. -/
inductive ParameterType where
  | coordinates
  | number
  | integer
  | numberSequence
  | functionExpression
  | nodeReference
  | string
  /-- Any type that is not checked. -/
  | other
  deriving DecidableEq, Repr

namespace ParameterType

/-- The type that a schema names; an unknown name stands for values that are not checked. -/
def ofName (name : Text) : ParameterType :=
  if name = "coordinates".toList then .coordinates
  else if name = "number".toList then .number
  else if name = "integer".toList then .integer
  else if name = "number_sequence".toList then .numberSequence
  else if name = "function_expression".toList then .functionExpression
  else if name = "node_reference".toList then .nodeReference
  else if name = "string".toList then .string
  else .other

/-- The data type whose pattern the values must match. -/
def dataType? : ParameterType → Option Text
  | .coordinates => some "coordinates".toList
  | .number => some "number".toList
  | .integer => some "integer".toList
  | .numberSequence => some "number_sequence".toList
  | _ => none

end ParameterType

/-- What a schema asks of a parameter of a node. -/
structure ParameterSpec where
  type : ParameterType
  description : Option Text
  /-- How many values a number sequence must have. -/
  count : Option Nat
  min : Option Binary64
  max : Option Binary64

/-- What a schema asks of the nodes of a type. -/
structure NodeType where
  description : Option Text
  required : List Text
  optional : List Text
  /-- Parameters that name a node downstream. -/
  links : List Text
  outputs : List Text
  parameters : List (Text × ParameterSpec)

namespace NodeType

/-- Whether nodes of the type may have the parameter; their type they always have. -/
def allowsParameter (t : NodeType) (name : Text) : Bool :=
  name == "type".toList || t.required.contains name || t.optional.contains name ||
    t.links.contains name

/-- Whether nodes of the type give the output. -/
def allowsOutput (t : NodeType) (name : Text) : Bool := t.outputs.contains name

/-- What is asked of a parameter, if anything is. -/
def parameter? (t : NodeType) (name : Text) : Option ParameterSpec := t.parameters.lookup name

end NodeType

/-! ## Rules -/

/-- How a check is to be made and told of. -/
structure Rule where
  description : Option Text
  severity : Severity
  enabled : Bool
  pattern : Option Pattern

/-! ## Schemas -/

/-- What models are held against. -/
structure Schema where
  version : Option Text
  sections : List SectionSpec
  nodeTypes : List (Text × NodeType)
  /-- The patterns of the data types; one without a pattern takes every value. -/
  dataTypes : List (Text × Option Pattern)
  rules : List (Text × Rule)

namespace Schema

/-- The node type of a name. -/
def nodeType? (s : Schema) (name : Text) : Option NodeType := s.nodeTypes.lookup name

/-- The rule of a name; a rule that a schema leaves out is not there. -/
def rule? (s : Schema) (name : Text) : Option Rule := s.rules.lookup name

/-- Whether the value has the form of a data type, if the schema has that data type. -/
def conforms? (s : Schema) (dataType value : Text) : Option Bool :=
  (s.dataTypes.lookup dataType).map fun pattern => pattern.all (·.accepts value)

/-- The severity of a rule, or nothing where it is switched off. -/
def severity? (s : Schema) (rule : Text) (default : Severity) : Option Severity :=
  match s.rule? rule with
  | some r => if r.enabled then some r.severity else none
  | none => some default

end Schema

end CatchmentLint
