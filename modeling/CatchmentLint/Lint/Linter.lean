import CatchmentLint.Expression.Validator
import CatchmentLint.Lint.DocumentCache
import CatchmentLint.Lint.Duplicates
import CatchmentLint.Lint.InputFiles
import CatchmentLint.Lint.Links
import CatchmentLint.Lint.Nodes
import CatchmentLint.Lint.Sections
import CatchmentLint.Model.Reader

/-!
# CatchmentLint.Lint.Linter

All checks in their order, and a linter that remembers what it has found.

1. Each check looks at the model and the files alone, and its issues follow those of the checks
   before it.
2. A linter asks the cache for a whole document first.  What it computes goes into the cache, and
   what it computes for a model does not.
3. A linter that is switched off finds nothing and remembers nothing.
-/

namespace CatchmentLint

namespace Lint

/-! ## Checks -/

/-- What a linter looks for, in passes that run one after another. -/
inductive Check where
  | sections
  | nodes
  | duplicateProperties
  | uniqueNodeNames
  | references
  | nodeOrdering
  | inputFiles
  deriving DecidableEq, Repr

namespace Check

/-- Every check, in the order in which they run. -/
def all : List Check :=
  [.sections, .nodes, .duplicateProperties, .uniqueNodeNames, .references, .nodeOrdering,
    .inputFiles]

/-- The name of the check in the log. -/
def name : Check → Text
  | .sections => "sections".toList
  | .nodes => "nodes".toList
  | .duplicateProperties => "duplicate_properties".toList
  | .uniqueNodeNames => "unique_node_names".toList
  | .references => "references".toList
  | .nodeOrdering => "node_ordering".toList
  | .inputFiles => "input_files".toList

/-- What a check finds in the model itself; the files are not in it. -/
def find (schema : Schema) (m : Model) : Check → List Located
  | .sections => findSections schema m
  | .nodes => findNodes schema m
  | .duplicateProperties => findDuplicateProperties m
  | .uniqueNodeNames => findDuplicateNodes m
  | .references => findReferences schema m
  | .nodeOrdering => findUpwardLinks m
  | .inputFiles => []

/-- The issues of the check where no files are looked for. -/
def issues (schema : Schema) (m : Model) (check : Check) : List Issue :=
  report schema (check.find schema m)

end Check

/-- The issues that the text of a model has by itself. -/
def modelIssues (schema : Schema) (m : Model) : List Issue :=
  Check.all.flatMap (Check.issues schema m)

end Lint

/-! ## Linters -/

/-- A schema, and what has been found with it so far. -/
structure Linter where
  schema : Schema
  enabled : Bool
  expressions : Expression.Cache
  documents : Lint.DocumentCache
  memory : Lint.Memory

/-- What a linter sees around it during one call: the clock, and which paths are on the disk. -/
structure Surroundings where
  clock : Lint.Clock
  onDisk : Text → Bool

namespace Linter

open Lint

/-- A linter that is switched on and has found nothing yet. -/
def fresh (schema : Schema) : Linter :=
  { schema
    enabled := true
    expressions := .empty Expression.Cache.defaultCapacity
    documents := .fresh DocumentCache.defaultCapacity DocumentCache.defaultLifetime
    memory := .fresh Memory.defaultLifetime }

/-- One check of a model whose files lie in the directory `base?`, if that is known.  The
expressions of nodes go through the linter's own cache, and the files through its memory. -/
def runCheck (around : Surroundings) (m : Model) (base? : Option Text) (check : Check)
    (l : Linter) : List Issue × Linter :=
  match check with
  | .nodes =>
    let (found, expressions) :=
      findNodesWith (μ := StateM Expression.Cache)
        (fun context expression cache => Expression.validate cache context expression)
        l.schema m l.expressions
    (report l.schema found, { l with expressions := expressions })
  | .inputFiles =>
    let (missing, memory) := checkInputFiles l.schema around.onDisk around.clock base? m l.memory
    (missing, { l with memory := memory })
  | check => (check.issues l.schema m, l)

/-- The checks in their order, each with the linter that the one before leaves. -/
def runChecks (around : Surroundings) (m : Model) (base? : Option Text) :
    List Check → Linter → List Issue × Linter
  | [], l => ([], l)
  | check :: checks, l =>
    let (issues, l) := runCheck around m base? check l
    let (rest, l) := runChecks around m base? checks l
    (issues ++ rest, l)

/-- Checks a model, without asking the cache of documents. -/
def validateModel (around : Surroundings) (m : Model) (base? : Option Text) (l : Linter) :
    List Issue × Linter :=
  if !l.enabled then ([], l) else runChecks around m base? Check.all l

/-- Checks a document.  The clock is read for the lookup, for the files, and for what is kept. -/
def validate (around : Surroundings) (content : Text) (base? : Option Text) (l : Linter) :
    List Issue × Linter :=
  if !l.enabled then ([], l)
  else
    let key := DocumentKey.of content base?
    match l.documents.get around.clock.first key with
    | (some issues, documents) => (issues, { l with documents := documents })
    | (none, documents) =>
      let m := Model.read content
      let (issues, l) := validateModel { around with clock := around.clock.after 1 } m base?
        { l with documents := documents }
      let storedAt := around.clock.reading ((lookedFor l.schema base? m).length + 1)
      (issues, { l with documents := l.documents.insert storedAt key issues })

/-- Checks an expression by itself or in a context. -/
def checkExpression (context : Context) (expression : Text) (l : Linter) : List Text × Linter :=
  let (messages, expressions) := Expression.validate l.expressions context expression
  (messages, { l with expressions := expressions })

/-- Forgets documents and expressions; what is known of files stays. -/
def clear (l : Linter) : Linter :=
  { l with documents := l.documents.clear, expressions := l.expressions.clear }

end Linter

end CatchmentLint
