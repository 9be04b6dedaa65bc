import CatchmentLint.Lint.Linter

/-!
# CatchmentLint.Proofs.Lint.Checks

What the checks of a linter do to it: they find what the model has by itself and what the disk or
the memory says of its files, and they leave all but the memory as it was.

* `saysAlone_validate` — an expression that stands in a node goes past the cache;
* `findNodesWith_eq` — so the check of nodes finds the same, whatever the cache holds;
* `validateModel_of_enabled` — the checks together come down to the model and its files.
-/

namespace CatchmentLint.Lint

variable {schema : Schema} {m : Model}

/-- Findings are graded one by one. -/
theorem report_append (first second : List Located) :
    report schema (first ++ second) = report schema first ++ report schema second :=
  List.flatMap_append

/-! ## Nodes -/

section Saying

variable {μ : Type → Type} [Monad μ] {say : Context → Text → μ (List Text)}

/-- Of an expression in a node, `say` gives the messages by the text alone, and it does no more. -/
def SaysAlone (schema : Schema) (m : Model) (say : Context → Text → μ (List Text)) : Prop :=
  ∀ self text,
    say (.node m schema self) text = pure (Expression.messages (.node m schema self) text)

theorem saysAlone_sayAnew : SaysAlone schema m sayAnew := fun _ _ => rfl

/-- The cache is for expressions without a context, so one in a node never gets to it. -/
theorem saysAlone_validate :
    SaysAlone (μ := StateM Expression.Cache) schema m
      fun context expression cache => Expression.validate cache context expression :=
  fun _ _ => rfl

variable [LawfulMonad μ]

/-- A value is checked as if its expressions were checked anew. -/
theorem checkValueWith_eq (h : SaysAlone schema m say) (node : Node) (spec : ParameterSpec)
    (p : Property) :
    checkValueWith say schema m node spec p = pure (checkValue schema m node spec p) := by
  unfold checkValue checkValueWith
  cases spec.type with
  | functionExpression => simp only [h _ _, sayAnew, pure_bind, Id.run_pure]
  | _ => rfl

theorem checkParameterWith_eq (h : SaysAlone schema m say) (node : Node) (type : Text × NodeType)
    (p : Property) :
    checkParameterWith say schema m node type p = pure (checkParameter schema m node type p) := by
  unfold checkParameter checkParameterWith
  split
  · rfl
  · split
    · rfl
    · cases type.2.parameter? p.key with
      | none => rfl
      | some spec => exact checkValueWith_eq h node spec p

/-- A node of a known type is checked parameter by parameter, its expressions as if anew. -/
theorem checkTypedWith_eq (h : SaysAlone schema m say) (node : Node) (type : Text × NodeType) :
    checkTypedWith say schema m node type =
      pure (type.2.required.flatMap (checkRequired node) ++
        node.body.properties.flatMap (checkParameter schema m node type)) := by
  have hparameters : checkParameterWith say schema m node type =
      fun p => pure (checkParameter schema m node type p) :=
    funext (checkParameterWith_eq h node type)
  simp only [checkTypedWith, hparameters, List.mapM_pure, pure_bind, List.flatMap_def]

theorem checkTyped_eq (node : Node) (type : Text × NodeType) :
    checkTyped schema m node type = type.2.required.flatMap (checkRequired node) ++
      node.body.properties.flatMap (checkParameter schema m node type) :=
  congrArg Id.run (checkTypedWith_eq saysAlone_sayAnew node type)

/-- A node is checked as if its expressions were checked anew. -/
theorem checkNodeWith_eq (h : SaysAlone schema m say) (node : Node) :
    checkNodeWith say schema m node = pure (checkNode schema m node) := by
  unfold checkNode checkNodeWith
  cases node.body.nodeType? with
  | none => rfl
  | some typeName =>
      cases htype : schema.nodeType? typeName with
      | none => simp only [htype, Id.run_pure]
      | some t =>
          simp only [htype]
          rw [checkTypedWith_eq h, ← checkTyped_eq]
          rfl

/-- The check of nodes comes to the nodes one by one. -/
theorem findNodesWith_eq_flatMap (h : SaysAlone schema m say) :
    findNodesWith say schema m = pure (m.nodes.flatMap (checkNode schema m)) := by
  have hnodes : checkNodeWith say schema m = fun node => pure (checkNode schema m node) :=
    funext (checkNodeWith_eq h)
  rw [findNodesWith, hnodes, List.mapM_pure, pure_bind, List.flatMap_def]

theorem findNodes_eq : findNodes schema m = m.nodes.flatMap (checkNode schema m) :=
  congrArg Id.run (findNodesWith_eq_flatMap saysAlone_sayAnew)

/-- The nodes are checked as by themselves. -/
theorem findNodesWith_eq (h : SaysAlone schema m say) :
    findNodesWith say schema m = pure (findNodes schema m) := by
  rw [findNodesWith_eq_flatMap h, findNodes_eq]

end Saying

end CatchmentLint.Lint

/-! ## The checks together -/

namespace CatchmentLint.Linter

open Lint

variable {around : Surroundings} {m : Model} {base? : Option Text} {l : Linter}

/-- The check of nodes leaves the linter as it was. -/
theorem runCheck_nodes :
    runCheck around m base? .nodes l = (Check.nodes.issues l.schema m, l) := by
  rw [runCheck, findNodesWith_eq saysAlone_validate]
  rfl

/-- The check of files changes nothing but the memory. -/
theorem runCheck_inputFiles :
    runCheck around m base? .inputFiles l =
      ((checkInputFiles l.schema around.onDisk around.clock base? m l.memory).1,
        { l with
          memory := (checkInputFiles l.schema around.onDisk around.clock base? m l.memory).2 }) :=
  rfl

/-- Each check but that of the files finds what the model has by itself, and leaves the linter. -/
theorem runCheck_of_ne {check : Check} (h : check ≠ .inputFiles) :
    runCheck around m base? check l = (check.issues l.schema m, l) := by
  cases check with
  | nodes => exact runCheck_nodes
  | inputFiles => exact absurd rfl h
  | _ => rfl

/-- The checks hand on the linter from one to the next. -/
theorem runChecks_append (checks others : List Check) :
    runChecks around m base? (checks ++ others) l =
      let (issues, l) := runChecks around m base? checks l
      let (rest, l) := runChecks around m base? others l
      (issues ++ rest, l) := by
  induction checks generalizing l with
  | nil => rfl
  | cons check checks ih => simp only [List.cons_append, runChecks, ih, List.append_assoc]

/-- Without the check of files, checks find what they find by themselves. -/
theorem runChecks_of_notMem {checks : List Check} (h : .inputFiles ∉ checks) :
    runChecks around m base? checks l = (checks.flatMap (Check.issues l.schema m), l) := by
  induction checks with
  | nil => rfl
  | cons check checks ih =>
      have hne : check ≠ .inputFiles := fun heq => h (heq ▸ List.mem_cons_self)
      have hrest := ih fun hmem => h (List.mem_cons_of_mem _ hmem)
      simp only [runChecks, runCheck_of_ne hne, hrest, List.flatMap_cons]

/-- A linter that is switched on finds what the model has by itself, and then the files that are
missing; of the linter only the memory changes. -/
theorem validateModel_of_enabled (h : l.enabled = true) :
    l.validateModel around m base? =
      (modelIssues l.schema m ++
          (checkInputFiles l.schema around.onDisk around.clock base? m l.memory).1,
        { l with
          memory :=
            (checkInputFiles l.schema around.onDisk around.clock base? m l.memory).2 }) := by
  have hall : Check.all = Check.all.dropLast ++ [.inputFiles] := rfl
  have hissues : modelIssues l.schema m = Check.all.dropLast.flatMap (Check.issues l.schema m) := by
    rw [modelIssues, hall, List.flatMap_append]
    exact List.append_nil _
  rw [validateModel, if_neg (by simp [h]), hall, runChecks_append,
    runChecks_of_notMem (by decide), ← hissues]
  simp only [runChecks, runCheck_inputFiles, List.append_nil]

theorem validateModel_of_disabled (h : l.enabled = false) :
    l.validateModel around m base? = ([], l) := by simp [validateModel, h]

end CatchmentLint.Linter
