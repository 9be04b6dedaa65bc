import CatchmentLint.Binary64.Decimal
import CatchmentLint.Binary64.Shortest
import CatchmentLint.Expression.Validator
import CatchmentLint.Lint.Issue

/-!
# CatchmentLint.Lint.Nodes

The nodes: each has a type that is known, the parameters that its type requires, and no others
than its type allows.

1. The value of a parameter must have the form of its data type; where the schema has no such data
   type, every value does.
2. A number must lie within its bounds, which are compared as numbers of 64 bits; a value that is
   no number is left alone.  An integer must fit 64 bits.
3. A sequence must have as many items as its parameter says.
4. An expression must give no message where it stands.
-/

namespace CatchmentLint.Lint

/-! ## Values -/

/-- Whether the value has the form of its type; a type whose form the schema leaves open takes every
value. -/
def conforms (schema : Schema) (type : ParameterType) (value : Text) : Bool :=
  (type.dataType?.bind fun dataType => schema.conforms? dataType value).getD true

/-- A value is held against both bounds, the least first. -/
def checkBounds (spec : ParameterSpec) (p : Property) (value : Binary64) : List Located :=
  (match spec.min with
    | some min => if value.lt min then [⟨p.line, .belowMinimum min p.value⟩] else []
    | none => []) ++
  match spec.max with
  | some max => if max.lt value then [⟨p.line, .aboveMaximum max p.value⟩] else []
  | none => []

/-- A number is held against its bounds as far as it can be read. -/
def checkNumber (schema : Schema) (spec : ParameterSpec) (p : Property) : List Located :=
  if !conforms schema .number p.value then [⟨p.line, .invalidNumber p.value⟩]
  else
    match Binary64.read? p.value with
    | some value => checkBounds spec p value
    | none => []

/-- The integer that the text spells, if it fits 64 bits. -/
def readInteger? (value : Text) : Option Int :=
  match Text.toInt? value with
  | some i => if -(twoTo 63 : Int) ≤ i ∧ i < twoTo 63 then some i else none
  | none => none

/-- An integer must fit 64 bits, and is held against its bounds as the number it is rounded to. -/
def checkInteger (schema : Schema) (spec : ParameterSpec) (p : Property) : List Located :=
  if !conforms schema .integer p.value then [⟨p.line, .invalidInteger p.value⟩]
  else
    match readInteger? p.value with
    | some value => checkBounds spec p (.ofInt value)
    | none => [⟨p.line, .integerOutOfRange p.value⟩]

/-- How long the separator is that the text starts with: a comma, and all blank characters around
it. -/
def separatorLength? (s : Text) : Option Nat :=
  match s.dropWhile isBlank with
  | ',' :: rest => some (s.length - (rest.dropWhile isBlank).length)
  | _ => none

/-- The items between the separators.  The first `passed` characters belong to a separator that
starts before them. -/
def itemsFrom : (passed : Nat) → Text → List Text
  | _, [] => [[]]
  | passed + 1, _ :: s => itemsFrom passed s
  | 0, c :: s =>
    match separatorLength? (c :: s) with
    | some length => [] :: itemsFrom (length - 1) s
    | none =>
      match itemsFrom 0 s with
      | [] => [[c]]
      | item :: items => (c :: item) :: items

/-- Drops the empty items from the last one on, which stands first here, but leaves one item. -/
def dropEmpty : List Text → List Text
  | [] :: item :: items => dropEmpty (item :: items)
  | items => items

/-- How many items a sequence has: empty items at its end do not count, but one always does. -/
def sequenceLength (value : Text) : Nat := (dropEmpty (itemsFrom 0 value).reverse).length

example : ["1, 2\t,3", "1,2, ,", " , ", ""].map (fun s => sequenceLength s.toList) = [3, 2, 1, 1] := by
  decide

/-- A sequence is held against its form and its length, each by itself. -/
def checkSequence (schema : Schema) (spec : ParameterSpec) (p : Property) : List Located :=
  (if conforms schema .numberSequence p.value then [] else [⟨p.line, .invalidSequence⟩]) ++
    match spec.count with
    | some expected =>
      if sequenceLength p.value = expected then []
      else [⟨p.line, .wrongCount p.key expected (sequenceLength p.value)⟩]
    | none => []

/-! ## Nodes

How an expression is checked is left open: `say` gives the messages for one, and what it does
besides is handed on from node to node. -/

/-- A parameter that is required is told of at the header if it is missing. -/
def checkRequired (node : Node) (name : Text) : List Located :=
  if (node.body.property? name).isSome then []
  else [⟨node.body.startLine, .missingParameter node.name name⟩]

section Saying

variable {μ : Type → Type} [Monad μ] (say : Context → Text → μ (List Text))

/-- A value is checked by its type. -/
def checkValueWith (schema : Schema) (m : Model) (node : Node) (spec : ParameterSpec)
    (p : Property) : μ (List Located) :=
  match spec.type with
  | .functionExpression => do
    let messages ← say (.node m schema node.body) p.value
    return messages.map fun message => ⟨p.line, .invalidExpression message⟩
  | .coordinates =>
    return if conforms schema .coordinates p.value then [] else [⟨p.line, .invalidCoordinates⟩]
  | .number => return checkNumber schema spec p
  | .integer => return checkInteger schema spec p
  | .numberSequence => return checkSequence schema spec p
  | .nodeReference | .string | .other => return []

/-- A property that the type does not allow is told of as such, and not checked further. -/
def checkParameterWith (schema : Schema) (m : Model) (node : Node) (type : Text × NodeType)
    (p : Property) : μ (List Located) :=
  if p.key = "type".toList then return []
  else if !type.2.allowsParameter p.key then return [⟨p.line, .unknownParameter p.key type.1⟩]
  else
    match type.2.parameter? p.key with
    | none => return []
    | some spec => checkValueWith say schema m node spec p

/-- A node whose type is known, under the name of that type. -/
def checkTypedWith (schema : Schema) (m : Model) (node : Node) (type : Text × NodeType) :
    μ (List Located) := do
  let found ← node.body.properties.mapM (checkParameterWith say schema m node type)
  return type.2.required.flatMap (checkRequired node) ++ found.flatten

/-- A node without a known type is told of at its header, or where it gives its type. -/
def checkNodeWith (schema : Schema) (m : Model) (node : Node) : μ (List Located) :=
  match node.body.nodeType? with
  | none => return [⟨node.body.startLine, .missingNodeType node.name⟩]
  | some typeName =>
    match schema.nodeType? typeName with
    | none =>
      let line := ((node.body.property? "type".toList).map Property.line).getD node.body.startLine
      return [⟨line, .unknownNodeType typeName⟩]
    | some t => checkTypedWith say schema m node (typeName, t)

/-- The nodes in their order, each name once. -/
def findNodesWith (schema : Schema) (m : Model) : μ (List Located) := do
  return (← m.nodes.mapM (checkNodeWith say schema m)).flatten

end Saying

/-! ## Nodes by themselves -/

/-- The messages for an expression, whatever has been checked before it. -/
def sayAnew (context : Context) (expression : Text) : Id (List Text) :=
  pure (Expression.messages context expression)

def checkValue (schema : Schema) (m : Model) (node : Node) (spec : ParameterSpec) (p : Property) :
    List Located :=
  (checkValueWith sayAnew schema m node spec p).run

def checkParameter (schema : Schema) (m : Model) (node : Node) (type : Text × NodeType)
    (p : Property) : List Located :=
  (checkParameterWith sayAnew schema m node type p).run

def checkTyped (schema : Schema) (m : Model) (node : Node) (type : Text × NodeType) :
    List Located :=
  (checkTypedWith sayAnew schema m node type).run

def checkNode (schema : Schema) (m : Model) (node : Node) : List Located :=
  (checkNodeWith sayAnew schema m node).run

/-- What is found in the nodes where each expression is checked anew. -/
def findNodes (schema : Schema) (m : Model) : List Located := (findNodesWith sayAnew schema m).run

end CatchmentLint.Lint
