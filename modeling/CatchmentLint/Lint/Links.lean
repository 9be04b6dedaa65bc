import CatchmentLint.Expression.Reference
import CatchmentLint.Lint.Issue

/-!
# CatchmentLint.Lint.Links

What refers to a node: the entries of `[outputs]`, and the links of a node, which are its
properties whose keys start with `ds_`.

1. An output has the form that the schema gives, or else names a node and one of the flows
   `dsflow`, `usflow` and `storage`; its node is declared.
2. The target of a link is declared, and its header stands below that of the node.
-/

namespace CatchmentLint.Lint

/-! ## Outputs -/

/-- The form of an output where the schema gives none. -/
def defaultOutputPattern : Option Pattern :=
  Pattern.compile? "node\\.[\\w_]+\\.(dsflow|usflow|storage)".toList

example : defaultOutputPattern.isSome = true := by decide +kernel

/-- The form of outputs: that of the rule, where the schema has the rule with a pattern. -/
def outputPattern (schema : Schema) : Option Pattern :=
  match (schema.rule? "output_references".toList).bind Rule.pattern with
  | some pattern => some pattern
  | none => defaultOutputPattern

/-- An output of another form is told of as such; of the others it is asked whether their node is
there. -/
def checkOutput (schema : Schema) (m : Model) (pattern : Option Pattern) (entry : Entry) :
    List Located :=
  if !pattern.all (·.accepts entry.text) then [⟨entry.line, .invalidOutput entry.text⟩]
  else
    match Reference.resolve m schema entry.text with
    | .error (.unknownNode name) => [⟨entry.line, .unknownOutputNode name⟩]
    | _ => []

/-- The outputs in the order of their lines. -/
def findOutputs (schema : Schema) (m : Model) : List Located :=
  m.outputs.flatMap (checkOutput schema m (outputPattern schema))

/-! ## Links -/

/-- Whether the property links its node to one downstream. -/
def isLink (p : Property) : Bool := (Text.dropLead? "ds_".toList p.key).isSome

/-- The links that name no node. -/
def findDanglingLinks (m : Model) : List Located :=
  m.nodes.flatMap fun node =>
    (node.body.properties.filter fun p => isLink p && !m.hasNode p.value).map fun p =>
      ⟨p.line, .unknownLinkTarget p.value⟩

/-- Outputs come before links. -/
def findReferences (schema : Schema) (m : Model) : List Located :=
  findOutputs schema m ++ findDanglingLinks m

/-- Whether a link leads to a header at the line of its own node or above it. -/
def leadsUpwards (m : Model) (node : Node) (p : Property) : Bool :=
  (m.node? p.value).any fun target => decide (target.body.startLine ≤ node.body.startLine)

/-- The links against the order of the nodes. -/
def findUpwardLinks (m : Model) : List Located :=
  m.nodes.flatMap fun node =>
    (node.body.properties.filter fun p => isLink p && leadsUpwards m node p).map fun p =>
      ⟨p.line, .linkUpwards⟩

end CatchmentLint.Lint
