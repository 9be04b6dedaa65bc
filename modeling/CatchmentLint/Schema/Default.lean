import CatchmentLint.Schema.Basic

/-!
# CatchmentLint.Schema.Default

The schema that is used where no other is given.
-/

namespace CatchmentLint.Schema

/-! ## Short forms of the entries -/

/-- A parameter of which nothing but the type is asked. -/
def plain (type : ParameterType) : ParameterSpec := ⟨type, none, none, none, none⟩

/-- A number sequence with so many values. -/
def values (count : Nat) : ParameterSpec := ⟨.numberSequence, none, some count, none, none⟩

/-- A parameter with bounds. -/
def bounded (type : ParameterType) (min max : Option Binary64) : ParameterSpec :=
  ⟨type, none, none, min, max⟩

/-- A node type with its name. -/
def nodeType (name description : String) (required optional links outputs : List String)
    (parameters : List (String × ParameterSpec)) : Text × NodeType :=
  (name.toList,
    { description := some description.toList
      required := required.map String.toList
      optional := optional.map String.toList
      links := links.map String.toList
      outputs := outputs.map String.toList
      parameters := parameters.map fun (name, spec) => (name.toList, spec) })

/-- A rule that is switched on, with its name. -/
def rule (name : String) (severity : Severity) (description pattern : Option String) :
    Text × Rule :=
  (name.toList,
    { description := description.map String.toList
      severity := severity
      enabled := true
      pattern := pattern.bind fun text => Pattern.compile? text.toList })

/-! ## Data types -/

/-- Two numbers with a comma between them. -/
def coordinatesPattern : Option Pattern :=
  Pattern.compile? "\\s*-?\\d+(\\.\\d+)?\\s*,\\s*-?\\d+(\\.\\d+)?\\s*".toList

/-- Digits, with a minus before them at most. -/
def integerPattern : Option Pattern := Pattern.compile? "-?\\d+".toList

/-- Digits with a fraction and an exponent at most; no plus stands before them. -/
def numberPattern : Option Pattern :=
  Pattern.compile? "-?(\\d+(\\.\\d*)?|\\.\\d+)([eE][+-]?\\d+)?".toList

/-- Numbers with commas between them. -/
def numberSequencePattern : Option Pattern :=
  Pattern.compile? ("\\s*-?(\\d+(\\.\\d*)?|\\.\\d+)([eE][+-]?\\d+)?" ++
    "(\\s*,\\s*-?(\\d+(\\.\\d*)?|\\.\\d+)([eE][+-]?\\d+)?)*\\s*").toList

/-! ## The schema -/

/-- The types of nodes, in the order of their names. -/
def defaultNodeTypes : List (Text × NodeType) :=
  [nodeType "blackhole" "Terminal node that discards all inflow"
      ["loc"]
      [] []
      ["usflow", "dsflow"]
      [("loc", plain .coordinates)],
   nodeType "confluence" "Joins upstream flows"
      ["loc"]
      [] ["ds_1"]
      ["usflow", "dsflow"]
      [("ds_1", plain .nodeReference), ("loc", plain .coordinates)],
   nodeType "gauge" "Flow gauge with optional observed series"
      ["loc"]
      ["observed"] ["ds_1"]
      ["usflow", "dsflow"]
      [("ds_1", plain .nodeReference), ("loc", plain .coordinates),
       ("observed", plain .functionExpression)],
   nodeType "gr4j" "GR4J rainfall-runoff model"
      ["loc", "params"]
      ["area", "evap", "rain"] ["ds_1"]
      ["dsflow", "runoff_depth", "runoff_volume"]
      [("area", bounded .number (some (.ofInt 0)) none), ("ds_1", plain .nodeReference),
       ("evap", plain .functionExpression), ("loc", plain .coordinates), ("params", values 4),
       ("rain", plain .functionExpression)],
   nodeType "inflow" "External inflow series"
      ["loc", "inflow"]
      [] ["ds_1"]
      ["usflow", "dsflow", "inflow"]
      [("ds_1", plain .nodeReference), ("inflow", plain .functionExpression),
       ("loc", plain .coordinates)],
   nodeType "loss" "Flow-dependent loss table"
      ["loc", "table"]
      [] ["ds_1"]
      ["usflow", "dsflow", "loss"]
      [("ds_1", plain .nodeReference), ("loc", plain .coordinates),
       ("table", plain .numberSequence)],
   nodeType "routing" "Lag and Muskingum-style routing"
      ["loc"]
      ["lag", "n_divs", "x", "pwl", "index_flows", "index_times"] ["ds_1"]
      ["usflow", "dsflow", "storage"]
      [("ds_1", plain .nodeReference), ("index_flows", plain .numberSequence),
       ("index_times", plain .numberSequence), ("lag", bounded .integer (some (.ofInt 0)) none),
       ("loc", plain .coordinates), ("n_divs", bounded .integer (some (.ofInt 1)) none),
       ("pwl", plain .numberSequence),
       ("x", bounded .number (some (.ofInt 0)) (some (.ofRatio false 1 2)))],
   nodeType "sacramento" "Sacramento rainfall-runoff model"
      ["loc", "params"]
      ["area", "evap", "rain"] ["ds_1"]
      ["usflow", "dsflow", "runoff_depth", "runoff_volume"]
      [("area", bounded .number (some (.ofInt 0)) none), ("ds_1", plain .nodeReference),
       ("evap", plain .functionExpression), ("loc", plain .coordinates), ("params", values 17),
       ("rain", plain .functionExpression)],
   nodeType "splitter" "Splits flow between two downstream links"
      ["loc", "table"]
      [] ["ds_1", "ds_2"]
      ["usflow", "dsflow", "ds_1", "ds_2"]
      [("ds_1", plain .nodeReference), ("ds_2", plain .nodeReference), ("loc", plain .coordinates),
       ("table", plain .numberSequence)],
   nodeType "storage" "Reservoir with level-volume-area relationship"
      ["loc", "dimensions"]
      ["evap", "rain", "seep", "pond_demand", "dimensions_file"] ["ds_1", "ds_2"]
      ["usflow", "dsflow", "storage", "volume", "level", "area", "spill"]
      [("dimensions", plain .numberSequence), ("dimensions_file", plain .string),
       ("ds_1", plain .nodeReference), ("ds_2", plain .nodeReference),
       ("evap", plain .functionExpression), ("loc", plain .coordinates),
       ("pond_demand", plain .functionExpression), ("rain", plain .functionExpression),
       ("seep", plain .functionExpression)],
   nodeType "user" "Water user with demand and optional annual cap"
      ["loc", "demand"]
      ["annual_cap", "pump", "flow_threshold", "demand_carryover"] ["ds_1"]
      ["usflow", "dsflow", "diversion", "demand"]
      [("annual_cap", plain .functionExpression), ("demand", plain .functionExpression),
       ("demand_carryover", plain .string), ("ds_1", plain .nodeReference),
       ("flow_threshold", bounded .number (some (.ofInt 0)) none), ("loc", plain .coordinates),
       ("pump", bounded .number (some (.ofInt 0)) none)]]

/-- The rules, in the order of their names. -/
def defaultRules : List (Text × Rule) :=
  [rule "dsnode_references" .error (some "Downstream links must name an existing node") none,
   rule "duplicate_node_name" .error none none,
   rule "duplicate_property" .error none none,
   rule "file_paths" .error (some "Input files must exist relative to the model file") none,
   rule "node_ordering" .error
     (some "Downstream links must point to nodes further down the file") none,
   rule "output_references" .error (some "Output references must name a node and one of its flows")
     (some "^node\\.[\\w_]+\\.(dsflow|usflow|storage)$"),
   rule "unknown_parameter" .warning none none]

/-- The default schema, with all of its rules switched on. -/
def default : Schema :=
  { version := some "1.0.0".toList
    sections :=
      [⟨"attributes".toList, true,
         [⟨"ini_version".toList, true, none, some "version".toList⟩]⟩,
       ⟨"inputs".toList, true, []⟩,
       ⟨"outputs".toList, true, []⟩]
    nodeTypes := defaultNodeTypes
    dataTypes :=
      [("coordinates".toList, coordinatesPattern), ("integer".toList, integerPattern),
       ("number".toList, numberPattern), ("number_sequence".toList, numberSequencePattern)]
    rules := defaultRules }

/-- Every pattern of the default schema is one. -/
example : [coordinatesPattern, integerPattern, numberPattern, numberSequencePattern].all
    (·.isSome) = true := by decide +kernel

end CatchmentLint.Schema
