import CatchmentLint.Schema.Basic
import CatchmentLint.Toml.Reader
import CatchmentLint.Toml.Record

/-!
# CatchmentLint.Schema.Reader

Reads a schema from a TOML document.

1. Keys that a schema does not know count for nothing, if their values can be read; a known key
   with a value of a wrong shape makes the document no schema.
2. The sections, their properties, the node types, the data types and the rules are kept in the
   order of their names.
3. Patterns are read last: those of properties, then those of data types, then those of rules.
   The first that is no pattern is the one that is reported.
-/

namespace CatchmentLint.Schema

/-! ## Errors -/

/-- The part of a schema that a pattern belongs to. -/
inductive PatternOwner where
  | property (sectionName name : Text)
  | dataType (name : Text)
  | rule (name : Text)
  deriving DecidableEq, Repr

/-- The part as it is named in a message. -/
def PatternOwner.toText : PatternOwner → Text
  | .property sectionName name => '[' :: sectionName ++ "] ".toList ++ name
  | .dataType name => "data type '".toList ++ name ++ ['\'']
  | .rule name => "rule '".toList ++ name ++ ['\'']

/-- What is wrong with a document that should be a schema. -/
inductive LoadError where
  /-- The document is not TOML, or not a schema. -/
  | malformed
  | invalidPattern (owner : PatternOwner)
  | unreadable
  deriving DecidableEq, Repr

/-! ## Records -/

section Records

open Toml (Value Record)

/-- The entries of a table in the order of their keys. -/
def sortedMap? {α : Type} (read : Value → Option α) (v : Value) : Option (List (Text × α)) :=
  (v.map? read).map fun entries => entries.mergeSort fun a b => !decide (b.1 < a.1)

/-- A property of a section whose pattern has not been read. -/
structure PropertyRecord where
  required : Bool
  pattern : Option Text
  form : Option Text

/-- A property is not required unless the document says so. -/
def propertyRecord? (v : Value) : Option PropertyRecord := do
  let r ← Record.ofValue? ["required", "pattern", "type"] v
  return {
    required := ← r.withDefault "required" Value.boolean? false
    pattern := ← r.optional "pattern" Value.text?
    form := ← r.optional "type" Value.text? }

/-- A section whose patterns have not been read. -/
structure SectionRecord where
  required : Bool
  properties : List (Text × PropertyRecord)

/-- A section is not required either, and may be given without properties. -/
def sectionRecord? (v : Value) : Option SectionRecord := do
  let r ← Record.ofValue? ["required", "properties"] v
  return {
    required := ← r.withDefault "required" Value.boolean? false
    properties := ← r.withDefault "properties" (sortedMap? propertyRecord?) [] }

/-- A parameter must have a type, and has bounds and a count where they are given. -/
def parameterRecord? (v : Value) : Option ParameterSpec := do
  let r ← Record.ofValue? ["type", "description", "count", "min", "max"] v
  return {
    type := ParameterType.ofName (← r.required "type" Value.choice?)
    description := ← r.optional "description" Value.text?
    count := ← r.optional "count" Value.natural?
    min := ← r.optional "min" Value.number?
    max := ← r.optional "max" Value.number? }

/-- Every list of a node type may be left out, and then is empty. -/
def nodeTypeRecord? (v : Value) : Option NodeType := do
  let r ← Record.ofValue? ["description", "required_params", "optional_params", "dsnode_params",
    "allowed_outputs", "parameters"] v
  return {
    description := ← r.optional "description" Value.text?
    required := ← r.withDefault "required_params" Value.texts? []
    optional := ← r.withDefault "optional_params" Value.texts? []
    links := ← r.withDefault "dsnode_params" Value.texts? []
    outputs := ← r.withDefault "allowed_outputs" Value.texts? []
    parameters := ← r.withDefault "parameters" (sortedMap? parameterRecord?) [] }

/-- The pattern of a data type. -/
def dataTypeRecord? (v : Value) : Option (Option Text) := do
  let r ← Record.ofValue? ["pattern", "description"] v
  let pattern ← r.optional "pattern" Value.text?
  let _ ← r.optional "description" Value.text?
  return pattern

/-- A rule whose pattern has not been read. -/
structure RuleRecord where
  description : Option Text
  severity : Severity
  enabled : Bool
  pattern : Option Text

/-- A rule is an error and switched on unless the document says otherwise. -/
def ruleRecord? (v : Value) : Option RuleRecord := do
  let r ← Record.ofValue? ["description", "severity", "enabled", "pattern"] v
  return {
    description := ← r.optional "description" Value.text?
    severity := ← r.withDefault "severity" (fun v => v.choice?.bind Severity.ofText?) .error
    enabled := ← r.withDefault "enabled" Value.boolean? true
    pattern := ← r.optional "pattern" Value.text? }

/-- A schema whose patterns have not been read. -/
structure SchemaRecord where
  version : Option Text
  sections : List (Text × SectionRecord)
  nodeTypes : List (Text × NodeType)
  dataTypes : List (Text × Option Text)
  rules : List (Text × RuleRecord)

/-- A schema of the parts that the document has; nothing else may stand at its top. -/
def schemaRecord? (document : List (Text × Value)) : Option SchemaRecord := do
  let r ← Record.ofTable? ["version", "sections", "node_types", "data_types",
    "validation_rules"] document
  return {
    version := ← r.optional "version" Value.text?
    sections := ← r.withDefault "sections" (sortedMap? sectionRecord?) []
    nodeTypes := ← r.withDefault "node_types" (sortedMap? nodeTypeRecord?) []
    dataTypes := ← r.withDefault "data_types" (sortedMap? dataTypeRecord?) []
    rules := ← r.withDefault "validation_rules" (sortedMap? ruleRecord?) [] }

end Records

/-! ## Patterns -/

/-- The pattern of a part, if it has one. -/
def compile (owner : PatternOwner) : Option Text → Except LoadError (Option Pattern)
  | none => .ok none
  | some text =>
    match Pattern.compile? text with
    | some pattern => .ok (some pattern)
    | none => .error (.invalidPattern owner)

/-- The property with its pattern read. -/
def compileProperty (sectionName : Text) (entry : Text × PropertyRecord) :
    Except LoadError PropertySpec := do
  let (name, p) := entry
  return ⟨name, p.required, ← compile (.property sectionName name) p.pattern, p.form⟩

/-- The section with its patterns read, in the order of its properties. -/
def compileSection (entry : Text × SectionRecord) : Except LoadError SectionSpec := do
  let (name, s) := entry
  return ⟨name, s.required, ← s.properties.mapM (compileProperty name)⟩

/-- The data type with its pattern read. -/
def compileDataType (entry : Text × Option Text) : Except LoadError (Text × Option Pattern) := do
  return (entry.1, ← compile (.dataType entry.1) entry.2)

/-- The rule with its pattern read. -/
def compileRule (entry : Text × RuleRecord) : Except LoadError (Text × Rule) := do
  let (name, r) := entry
  return (name, ⟨r.description, r.severity, r.enabled, ← compile (.rule name) r.pattern⟩)

/-- The schema of a record: sections first, then data types, then rules. -/
def ofRecord (r : SchemaRecord) : Except LoadError Schema := do
  let sections ← r.sections.mapM compileSection
  let dataTypes ← r.dataTypes.mapM compileDataType
  let rules ← r.rules.mapM compileRule
  return ⟨r.version, sections, r.nodeTypes, dataTypes, rules⟩

/-! ## Documents -/

/-- The schema that a document holds. -/
def read (document : Text) : Except LoadError Schema :=
  match (Toml.read? document).bind schemaRecord? with
  | some r => ofRecord r
  | none => .error .malformed

end CatchmentLint.Schema
