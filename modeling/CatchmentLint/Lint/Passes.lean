import CatchmentLint.Lint.Linter

/-!
# CatchmentLint.Lint.Passes

The checks as passes over one report, which they share with the cache of expressions and the
memory of files.

1. A pass adds its issues one by one, at the end of what has been told.
2. Outputs, links and input files ask for the severity of their rule once, before they begin; the
   other passes ask for it each time that they find something.
3. No expression is checked where its rule is switched off.
-/

namespace CatchmentLint.Lint

/-- What the passes of one run share. -/
structure Desk where
  told : List Issue
  expressions : Expression.Cache
  memory : Memory

/-- The desk of a run that begins, where nothing is told and nothing is known. -/
def Desk.empty : Desk :=
  { told := []
    expressions := .empty Expression.Cache.defaultCapacity
    memory := .fresh Memory.defaultLifetime }

/-- A step of a run, which may tell of issues and use what the run has in common. -/
abbrev Pass := StateM Desk

/-! ## Telling -/

/-- Issues are told of behind all others. -/
def append (issues : List Issue) : Pass Unit :=
  modify fun desk => { desk with told := desk.told ++ issues }

/-- Adds the issue of a finding whose rule has the severity `ruled`. -/
def tellUnder (ruled : Severity) (line : Nat) (f : Finding) : Pass Unit :=
  append [⟨line, f.message, f.severityUnder ruled, f.code⟩]

/-- Adds the issue of a finding, unless its rule is switched off. -/
def tell (schema : Schema) (line : Nat) (f : Finding) : Pass Unit :=
  match schema.severity? f.governor f.defaultSeverity with
  | some ruled => tellUnder ruled line f
  | none => pure ()

/-! ## Sections -/

/-- A property of a section, with its form. -/
def writeProperty (schema : Schema) (spec : PropertySpec) (s : Section) : Pass Unit :=
  match s.property? spec.name with
  | none =>
    if spec.required then tell schema (s.startLine + 1) (.missingProperty spec.name) else pure ()
  | some p => do
    if !spec.pattern.all (·.accepts p.value) then tell schema p.line (.invalidProperty spec.name)
    if spec.form = some "version".toList ∧ !isVersion p.value then
      tell schema p.line .invalidVersion

/-- A section with its properties, or that it is missing. -/
def writeSection (schema : Schema) (m : Model) (spec : SectionSpec) : Pass Unit :=
  match m.section? spec.name with
  | some s => spec.properties.forM fun property => writeProperty schema property s
  | none => if spec.required then tell schema 1 (.missingSection spec.name) else pure ()

def writeSections (schema : Schema) (m : Model) : Pass Unit :=
  schema.sections.forM (writeSection schema m)

/-! ## Nodes -/

/-- A value is held against both bounds, the least first. -/
def writeBounds (schema : Schema) (spec : ParameterSpec) (p : Property) (value : Binary64) :
    Pass Unit := do
  if let some min := spec.min then
    if value.lt min then tell schema p.line (.belowMinimum min p.value)
  if let some max := spec.max then
    if max.lt value then tell schema p.line (.aboveMaximum max p.value)

/-- A number, with its bounds if it can be read. -/
def writeNumber (schema : Schema) (spec : ParameterSpec) (p : Property) : Pass Unit :=
  if !conforms schema .number p.value then tell schema p.line (.invalidNumber p.value)
  else
    match Binary64.read? p.value with
    | some value => writeBounds schema spec p value
    | none => pure ()

/-- An integer, with its bounds if it fits 64 bits. -/
def writeInteger (schema : Schema) (spec : ParameterSpec) (p : Property) : Pass Unit :=
  if !conforms schema .integer p.value then tell schema p.line (.invalidInteger p.value)
  else
    match readInteger? p.value with
    | some value => writeBounds schema spec p (.ofInt value)
    | none => tell schema p.line (.integerOutOfRange p.value)

/-- A sequence with its length. -/
def writeSequence (schema : Schema) (spec : ParameterSpec) (p : Property) : Pass Unit := do
  if !conforms schema .numberSequence p.value then tell schema p.line .invalidSequence
  if let some expected := spec.count then
    if sequenceLength p.value ≠ expected then
      tell schema p.line (.wrongCount p.key expected (sequenceLength p.value))

/-- The messages for an expression, by way of the shared cache. -/
def say (context : Context) (expression : Text) : Pass (List Text) := fun desk =>
  let (messages, expressions) := Expression.validate desk.expressions context expression
  (messages, { desk with expressions := expressions })

/-- An expression, through the cache, where the rule of expressions is switched on. -/
def writeExpression (schema : Schema) (m : Model) (node : Node) (p : Property) : Pass Unit :=
  match schema.severity? "function_expression_error".toList .error with
  | none => pure ()
  | some ruled => do
    let messages ← say (.node m schema node.body) p.value
    messages.forM fun message => tellUnder ruled p.line (.invalidExpression message)

/-- A value by its type. -/
def writeValue (schema : Schema) (m : Model) (node : Node) (spec : ParameterSpec) (p : Property) :
    Pass Unit :=
  match spec.type with
  | .functionExpression => writeExpression schema m node p
  | .coordinates =>
    if conforms schema .coordinates p.value then pure () else tell schema p.line .invalidCoordinates
  | .number => writeNumber schema spec p
  | .integer => writeInteger schema spec p
  | .numberSequence => writeSequence schema spec p
  | .nodeReference | .string | .other => pure ()

/-- A property of a node, if its type allows it. -/
def writeParameter (schema : Schema) (m : Model) (node : Node) (type : Text × NodeType)
    (p : Property) : Pass Unit :=
  if p.key = "type".toList then pure ()
  else if !type.2.allowsParameter p.key then
    tell schema p.line (.unknownParameter p.key type.1)
  else
    match type.2.parameter? p.key with
    | none => pure ()
    | some spec => writeValue schema m node spec p

def writeRequired (schema : Schema) (node : Node) (name : Text) : Pass Unit :=
  if (node.body.property? name).isSome then pure ()
  else tell schema node.body.startLine (.missingParameter node.name name)

/-- A node with its type, its parameters that are required, and those that it has. -/
def writeNode (schema : Schema) (m : Model) (node : Node) : Pass Unit :=
  match node.body.nodeType? with
  | none => tell schema node.body.startLine (.missingNodeType node.name)
  | some typeName =>
    match schema.nodeType? typeName with
    | none =>
      let line := ((node.body.property? "type".toList).map Property.line).getD node.body.startLine
      tell schema line (.unknownNodeType typeName)
    | some t => do
      t.required.forM (writeRequired schema node)
      node.body.properties.forM (writeParameter schema m node (typeName, t))

def writeNodes (schema : Schema) (m : Model) : Pass Unit := m.nodes.forM (writeNode schema m)

/-! ## Duplicates -/

def writeDuplicateProperties (schema : Schema) (m : Model) : Pass Unit :=
  m.sections.forM fun s =>
    s.occurrences.forM fun p =>
      if 1 < s.occurrences.countP (·.key == p.key) then
        tell schema p.line (.duplicateProperty p.key s.name)
      else pure ()

def writeDuplicateNodes (schema : Schema) (m : Model) : Pass Unit :=
  m.declaredNodes.forM fun node =>
    let lines := declarationLines m node.name
    if lines.length < 2 then pure ()
    else
      tell schema node.body.startLine
        (.duplicateNode node.name (lines.filter (· != node.body.startLine)))

/-! ## References -/

/-- An output and its node, under the severity that the rule has. -/
def writeOutput (schema : Schema) (m : Model) (ruled : Severity) (entry : Entry) : Pass Unit :=
  if !(outputPattern schema).all (·.accepts entry.text) then
    tellUnder ruled entry.line (.invalidOutput entry.text)
  else
    match Reference.resolve m schema entry.text with
    | .error (.unknownNode name) => tellUnder ruled entry.line (.unknownOutputNode name)
    | _ => pure ()

def writeOutputs (schema : Schema) (m : Model) : Pass Unit :=
  match schema.severity? "output_references".toList .error with
  | none => pure ()
  | some ruled => m.outputs.forM (writeOutput schema m ruled)

def writeDanglingLinks (schema : Schema) (m : Model) : Pass Unit :=
  match schema.severity? "dsnode_references".toList .error with
  | none => pure ()
  | some ruled =>
    m.nodes.forM fun node =>
      node.body.properties.forM fun p =>
        if isLink p && !m.hasNode p.value then tellUnder ruled p.line (.unknownLinkTarget p.value)
        else pure ()

def writeReferences (schema : Schema) (m : Model) : Pass Unit := do
  writeOutputs schema m
  writeDanglingLinks schema m

/-- Dangling links belong to the references. -/
def writeUpwardLink (schema : Schema) (m : Model) (node : Node) (p : Property) : Pass Unit :=
  if !isLink p then pure ()
  else
    match m.node? p.value with
    | none => pure ()
    | some target =>
      if target.body.startLine ≤ node.body.startLine then tell schema p.line .linkUpwards
      else pure ()

/-- Links against the order of the nodes. -/
def writeUpwardLinks (schema : Schema) (m : Model) : Pass Unit :=
  m.nodes.forM fun node => node.body.properties.forM (writeUpwardLink schema m node)

/-! ## Input files -/

/-- Whether a path exists, by way of the shared memory. -/
def lookFor (onDisk : Text → Bool) (now : Moment) (path : Text) : Pass Bool := fun desk =>
  let (found, memory) := desk.memory.look onDisk now path
  (found, { desk with memory := memory })

/-- Files one by one, each at its own moment. -/
def writeMissingFiles (onDisk : Text → Bool) (base : Text) (ruled : Severity) :
    Clock → List Entry → Pass Unit
  | _, [] => pure ()
  | clock, entry :: entries => do
    let found ← lookFor onDisk clock.first (Path.join base entry.text)
    if !found then tellUnder ruled entry.line (.missingFile entry.text)
    writeMissingFiles onDisk base ruled (clock.after 1) entries

/-- Input files are looked for where a directory is given. -/
def writeInputFiles (schema : Schema) (around : Surroundings) (m : Model) (base? : Option Text) :
    Pass Unit :=
  match base? with
  | none => pure ()
  | some base =>
    match schema.severity? "file_paths".toList .error with
    | none => pure ()
    | some ruled => writeMissingFiles around.onDisk base ruled around.clock m.inputs

/-! ## The passes together -/

namespace Check

/-- The pass of each check. -/
def write (schema : Schema) (around : Surroundings) (m : Model) (base? : Option Text) :
    Check → Pass Unit
  | .sections => writeSections schema m
  | .nodes => writeNodes schema m
  | .duplicateProperties => writeDuplicateProperties schema m
  | .uniqueNodeNames => writeDuplicateNodes schema m
  | .references => writeReferences schema m
  | .nodeOrdering => writeUpwardLinks schema m
  | .inputFiles => writeInputFiles schema around m base?

/-- What a pass tells by itself. -/
def alone (schema : Schema) (around : Surroundings) (m : Model) (base? : Option Text)
    (check : Check) : List Issue :=
  ((check.write schema around m base?).run .empty).2.told

/-- Passes one after another over the same desk. -/
def writeAll (schema : Schema) (around : Surroundings) (m : Model) (base? : Option Text)
    (checks : List Check) : Pass Unit :=
  checks.forM (write schema around m base?)

end Check

end CatchmentLint.Lint
