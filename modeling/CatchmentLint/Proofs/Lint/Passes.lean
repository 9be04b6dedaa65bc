import CatchmentLint.Lint.Passes
import CatchmentLint.Proofs.Lint.Clean
import CatchmentLint.Proofs.Lint.Session

/-!
# CatchmentLint.Proofs.Lint.Passes

The passes over one shared report, and that they know nothing of each other.

* `writeSections_eq` and the like — each pass tells what its check finds, and does no more;
* `appendsOnly_write` — so what it adds does not depend on what has been told;
* `validateModel_eq_writeAll` — a linter checks a model as the passes do one after another, over one
  report;
* `passes_append` — so its issues are those of each pass by itself, in the order of the passes.
-/

namespace CatchmentLint.Lint

variable {schema : Schema} {m : Model}

/-! ## Telling -/

/-- Telling of nothing is doing nothing. -/
theorem append_nil : append [] = pure () := by
  funext desk
  exact congrArg (fun told => ((), { desk with told })) (List.append_nil desk.told)

/-- Telling twice is telling once of both. -/
theorem append_append (first second : List Issue) :
    (append first >>= fun _ => append second) = append (first ++ second) := by
  funext desk
  exact congrArg (fun told => ((), { desk with told })) (List.append_assoc desk.told first second)

/-- The pass that adds the issues of these findings. -/
def tellAll (schema : Schema) (found : List Located) : Pass Unit := append (report schema found)

@[simp]
theorem tellAll_nil : tellAll schema [] = pure () := append_nil

/-- Findings that are told one after another are told together. -/
theorem tellAll_append (first second : List Located) :
    (tellAll schema first >>= fun _ => tellAll schema second) =
      tellAll schema (first ++ second) := by
  rw [tellAll, tellAll, append_append, tellAll, report_append]

/-- What is told of each element is told of all of them at once. -/
theorem forM_tellAll {α : Type} (f : α → List Located) (xs : List α) :
    xs.forM (fun x => tellAll schema (f x)) = tellAll schema (xs.flatMap f) := by
  induction xs with
  | nil => exact tellAll_nil.symm
  | cons x xs ih =>
      rw [List.flatMap_cons, ← tellAll_append, ← ih]
      rfl

/-- Under the severity that its rule has, a finding is told as it would be by itself. -/
theorem tellUnder_eq {ruled : Severity} {line : Nat} {f : Finding}
    (h : schema.severity? f.governor f.defaultSeverity = some ruled) :
    tellUnder ruled line f = tellAll schema [⟨line, f⟩] := by
  simp [tellUnder, tellAll, report, Finding.issues, h]

/-- Telling asks for the severity of the rule as the report of a finding does, and leaves the finding out
where the rule is switched off. -/
@[simp]
theorem tell_eq {line : Nat} {f : Finding} :
    tell schema line f = tellAll schema [⟨line, f⟩] := by
  unfold tell
  cases h : schema.severity? f.governor f.defaultSeverity with
  | some ruled => exact tellUnder_eq h
  | none => simp [tellAll, report, Finding.issues, h, append_nil]

/-- A finding under a condition. -/
theorem tell_if {c : Prop} [Decidable c] {line : Nat} {f : Finding} :
    (if c then tell schema line f else pure ()) =
      tellAll schema (if c then [⟨line, f⟩] else []) := by
  split
  · exact tell_eq
  · exact tellAll_nil.symm

/-- What is found under a rule that is switched off is not told. -/
theorem tellAll_of_off {found : List Located}
    (h : ∀ l ∈ found, schema.severity? l.finding.governor l.finding.defaultSeverity = none) :
    tellAll schema found = pure () := by
  have hnil : report schema found = [] :=
    List.flatMap_eq_nil_iff.mpr fun l hl => by simp [Finding.issues, h l hl]
  rw [tellAll, hnil, append_nil]

/-- One finding for each element that a condition holds of. -/
theorem forM_where {α : Type} (c : α → Bool) (f : α → Located) (xs : List α) :
    xs.forM (fun x => if c x then tellAll schema [f x] else pure ()) =
      tellAll schema ((xs.filter c).map f) := by
  induction xs with
  | nil => exact tellAll_nil.symm
  | cons x xs ih =>
    rw [List.forM_eq_forM, List.forM_cons, ← List.forM_eq_forM, ih]
    cases hx : c x with
    | true =>
      rw [if_pos rfl, List.filter_cons_of_pos hx, List.map_cons, tellAll_append]
      rfl
    | false => rw [if_neg Bool.false_ne_true, List.filter_cons_of_neg (by simp [hx]), pure_bind]

/-! ## Sections -/

/-- The pass and the check look at a property alike. -/
theorem writeProperty_eq (spec : PropertySpec) (s : Section) :
    writeProperty schema spec s = tellAll schema (checkProperty spec s) := by
  unfold writeProperty checkProperty
  cases s.property? spec.name with
  | none => exact tell_if
  | some p =>
      simp only [tell_if]
      cases spec.pattern.all (·.accepts p.value) with
      | true => rfl
      | false =>
        rw [if_pos (by rfl : (!false) = true), tell_eq, tellAll_append]
        rfl

/-- The pass over sections tells what the check of sections finds. -/
theorem writeSections_eq : writeSections schema m = tellAll schema (findSections schema m) := by
  have hsection : writeSection schema m = fun spec => tellAll schema (checkSection m spec) := by
    funext spec
    unfold writeSection checkSection
    cases m.section? spec.name with
    | some s => simp only [writeProperty_eq, forM_tellAll]
    | none => cases spec.required <;> simp
  rw [writeSections, hsection, forM_tellAll, findSections]

/-! ## Nodes -/

/-- Of a value beyond both bounds the pass tells twice, like the check. -/
theorem writeBounds_eq (spec : ParameterSpec) (p : Property) (value : Binary64) :
    writeBounds schema spec p value = tellAll schema (checkBounds spec p value) := by
  unfold writeBounds checkBounds
  cases spec.min with
  | none =>
    cases spec.max with
    | none => simp
    | some max => by_cases hmax : max.lt value = true <;> simp [hmax]
  | some min =>
    by_cases hmin : value.lt min = true <;>
    cases spec.max with
    | none => simp [hmin]
    | some max => by_cases hmax : max.lt value = true <;> simp [hmin, hmax, tellAll_append]

/-- The pass and the check read a number alike. -/
theorem writeNumber_eq (spec : ParameterSpec) (p : Property) :
    writeNumber schema spec p = tellAll schema (checkNumber schema spec p) := by
  unfold writeNumber checkNumber
  split
  · exact tell_eq
  · cases Binary64.read? p.value with
    | some value => exact writeBounds_eq spec p value
    | none => exact tellAll_nil.symm

/-- The pass and the check read an integer alike. -/
theorem writeInteger_eq (spec : ParameterSpec) (p : Property) :
    writeInteger schema spec p = tellAll schema (checkInteger schema spec p) := by
  unfold writeInteger checkInteger
  split
  · exact tell_eq
  · cases readInteger? p.value with
    | some value => exact writeBounds_eq spec p (.ofInt value)
    | none => exact tell_eq

/-- The pass and the check count a sequence alike. -/
theorem writeSequence_eq (spec : ParameterSpec) (p : Property) :
    writeSequence schema spec p = tellAll schema (checkSequence schema spec p) := by
  unfold writeSequence checkSequence
  cases conforms schema .numberSequence p.value <;>
  cases spec.count with
  | none => simp
  | some expected =>
    by_cases hcount : sequenceLength p.value = expected <;> simp [hcount, tellAll_append]

/-- An expression in a node goes past the cache, which is left as it is. -/
theorem say_node (node : Section) (expression : Text) :
    say (.node m schema node) expression =
      pure (Expression.messages (.node m schema node) expression) := rfl

/-- Whatever the cache holds, the messages for an expression are those of its text. -/
theorem writeExpression_eq (node : Node) (p : Property) :
    writeExpression schema m node p =
      tellAll schema ((Expression.messages (.node m schema node.body) p.value).map fun message =>
        ⟨p.line, .invalidExpression message⟩) := by
  unfold writeExpression
  cases h : schema.severity? "function_expression_error".toList .error with
  | none =>
    -- the check goes through the expression all the same, but nothing that it finds is told
    refine (tellAll_of_off fun l hl => ?_).symm
    obtain ⟨message, -, rfl⟩ := List.mem_map.mp hl
    exact h
  | some ruled =>
    have htell : (fun message => tellUnder ruled p.line (.invalidExpression message)) =
        fun message => tellAll schema [⟨p.line, .invalidExpression message⟩] :=
      funext fun message => tellUnder_eq h
    simp only [say_node, pure_bind, htell, forM_tellAll, List.map_eq_flatMap]

/-- The pass and the check go by the same type of the value. -/
theorem writeValue_eq (node : Node) (spec : ParameterSpec) (p : Property) :
    writeValue schema m node spec p = tellAll schema (checkValue schema m node spec p) := by
  unfold writeValue checkValue checkValueWith
  cases spec.type with
  | functionExpression => exact writeExpression_eq node p
  | coordinates =>
    by_cases hform : conforms schema .coordinates p.value = true <;> simp [hform]
  | number => exact writeNumber_eq spec p
  | integer => exact writeInteger_eq spec p
  | numberSequence => exact writeSequence_eq spec p
  | nodeReference | string | other => exact tellAll_nil.symm

/-- The pass and the check allow a node the same properties. -/
theorem writeParameter_eq (node : Node) (type : Text × NodeType) (p : Property) :
    writeParameter schema m node type p =
      tellAll schema (checkParameter schema m node type p) := by
  unfold writeParameter checkParameter checkParameterWith
  split
  · exact tellAll_nil.symm
  · split
    · exact tell_eq
    · cases type.2.parameter? p.key with
      | none => exact tellAll_nil.symm
      | some spec => exact writeValue_eq node spec p

theorem writeRequired_eq (node : Node) (name : Text) :
    writeRequired schema node name = tellAll schema (checkRequired node name) := by
  unfold writeRequired checkRequired
  split <;> simp

/-- The pass and the check look up the same type of the node. -/
theorem writeNode_eq (node : Node) :
    writeNode schema m node = tellAll schema (checkNode schema m node) := by
  unfold writeNode checkNode checkNodeWith
  cases node.body.nodeType? with
  | none => exact tell_eq
  | some typeName =>
    cases htype : schema.nodeType? typeName with
    | none => simp only [htype]; exact tell_eq
    | some t =>
      have hrequired : writeRequired schema node = fun name =>
          tellAll schema (checkRequired node name) := funext (writeRequired_eq node)
      have hparameter : writeParameter schema m node (typeName, t) = fun p =>
          tellAll schema (checkParameter schema m node (typeName, t) p) :=
        funext (writeParameter_eq node (typeName, t))
      simp only [htype, hrequired, hparameter, forM_tellAll, tellAll_append]
      exact congrArg (tellAll schema) (checkTyped_eq node (typeName, t)).symm

/-- The pass over nodes tells what the check of nodes finds. -/
theorem writeNodes_eq : writeNodes schema m = tellAll schema (findNodes schema m) := by
  have hnode : writeNode schema m = fun node => tellAll schema (checkNode schema m node) :=
    funext writeNode_eq
  rw [writeNodes, hnode, forM_tellAll, findNodes_eq]

/-! ## Duplicates -/

/-- The pass over properties tells of those that the check finds twice. -/
theorem writeDuplicateProperties_eq :
    writeDuplicateProperties schema m = tellAll schema (findDuplicateProperties m) := by
  have hsection : ∀ s : Section, (s.occurrences.forM fun p =>
      if 1 < s.occurrences.countP (·.key == p.key) then
        tell schema p.line (.duplicateProperty p.key s.name)
      else pure ()) = tellAll schema (duplicatesIn s) := by
    intro s
    rw [duplicatesIn, ← forM_where]
    simp only [tell_eq, decide_eq_true_eq]
  unfold writeDuplicateProperties
  simp only [hsection, forM_tellAll, findDuplicateProperties]

/-- The pass over names tells of those that the check finds twice. -/
theorem writeDuplicateNodes_eq :
    writeDuplicateNodes schema m = tellAll schema (findDuplicateNodes m) := by
  rw [findDuplicateNodes, ← forM_where, writeDuplicateNodes]
  congr 1
  funext node
  by_cases hlines : 1 < (declarationLines m node.name).length
  · have hmany : ¬(declarationLines m node.name).length < 2 := by omega
    simp [hlines, hmany]
  · have hfew : (declarationLines m node.name).length < 2 := by omega
    simp [hlines, hfew]

/-! ## References -/

/-- Under the severity of its rule, an output is told of as the check finds it. -/
theorem writeOutput_eq {ruled : Severity}
    (h : schema.severity? "output_references".toList .error = some ruled) (entry : Entry) :
    writeOutput schema m ruled entry =
      tellAll schema (checkOutput schema m (outputPattern schema) entry) := by
  unfold writeOutput checkOutput
  split
  · exact tellUnder_eq h
  · cases Reference.resolve m schema entry.text with
    | ok s => exact tellAll_nil.symm
    | error problem =>
      cases problem with
      | unknownNode name => exact tellUnder_eq h
      | _ => exact tellAll_nil.symm

/-- The pass over outputs tells what the check finds, and nothing where the rule is switched off. -/
theorem writeOutputs_eq : writeOutputs schema m = tellAll schema (findOutputs schema m) := by
  unfold writeOutputs findOutputs
  cases h : schema.severity? "output_references".toList .error with
  | none =>
    refine (tellAll_of_off fun l hl => ?_).symm
    obtain ⟨entry, -, hl⟩ := List.mem_flatMap.mp hl
    rcases eq_of_mem_checkOutput hl with rfl | ⟨name, rfl⟩ <;> exact h
  | some ruled =>
    have houtput : writeOutput schema m ruled = fun entry =>
        tellAll schema (checkOutput schema m (outputPattern schema) entry) :=
      funext (writeOutput_eq h)
    simp only [houtput, forM_tellAll]

/-- The pass over links tells of those that name no node, unless their rule is switched off. -/
theorem writeDanglingLinks_eq :
    writeDanglingLinks schema m = tellAll schema (findDanglingLinks m) := by
  unfold writeDanglingLinks findDanglingLinks
  cases h : schema.severity? "dsnode_references".toList .error with
  | none =>
    refine (tellAll_of_off fun l hl => ?_).symm
    simp only [List.mem_flatMap, List.mem_map] at hl
    obtain ⟨node, -, p, -, rfl⟩ := hl
    exact h
  | some ruled =>
    have hlink : ∀ p : Property, tellUnder ruled p.line (.unknownLinkTarget p.value) =
        tellAll schema [⟨p.line, .unknownLinkTarget p.value⟩] := fun p => tellUnder_eq h
    simp only [hlink, forM_where, forM_tellAll]

theorem writeUpwardLink_eq (node : Node) (p : Property) :
    writeUpwardLink schema m node p =
      if isLink p && leadsUpwards m node p then tellAll schema [⟨p.line, .linkUpwards⟩]
      else pure () := by
  unfold writeUpwardLink leadsUpwards
  cases isLink p <;> cases m.node? p.value <;> simp

/-- The pass over links tells of those that the check finds to lead upwards. -/
theorem writeUpwardLinks_eq :
    writeUpwardLinks schema m = tellAll schema (findUpwardLinks m) := by
  have hlink : ∀ node, writeUpwardLink schema m node = fun p =>
      if isLink p && leadsUpwards m node p then tellAll schema [⟨p.line, .linkUpwards⟩]
      else pure () := fun node => funext (writeUpwardLink_eq node)
  simp only [writeUpwardLinks, findUpwardLinks, hlink, forM_where, forM_tellAll]

/-! ## Input files -/

/-- The pass over files asks the memory as the check does, at the same moments, and leaves it the
same. -/
theorem writeMissingFiles_eq {ruled : Severity} {onDisk : Text → Bool} {base : Text}
    (h : schema.severity? "file_paths".toList .error = some ruled) (clock : Clock)
    (entries : List Entry) (desk : Desk) :
    (writeMissingFiles onDisk base ruled clock entries).run desk =
      ((), { desk with
        told := desk.told ++
          report schema (findMissingFiles onDisk base clock entries desk.memory).1
        memory := (findMissingFiles onDisk base clock entries desk.memory).2 }) := by
  induction entries generalizing clock desk with
  | nil => exact congrFun append_nil.symm desk
  | cons entry entries ih =>
    unfold writeMissingFiles findMissingFiles
    rcases hlook : desk.memory.look onDisk clock.first (Path.join base entry.text) with
      ⟨found, memory⟩
    have hseen : lookFor onDisk clock.first (Path.join base entry.text) desk =
        (found, { desk with memory := memory }) := by rw [lookFor, hlook]
    have htell : tellUnder ruled entry.line (.missingFile entry.text) =
        tellAll schema [⟨entry.line, .missingFile entry.text⟩] := tellUnder_eq h
    simp only [StateT.run, bind, StateT.bind, hseen, htell]
    cases found with
    | true => exact ih ..
    | false =>
      have htold : ∀ rest,
          desk.told ++ report schema (⟨entry.line, .missingFile entry.text⟩ :: rest) =
            desk.told ++ report schema [⟨entry.line, .missingFile entry.text⟩] ++
              report schema rest := by
        intro rest
        rw [List.append_assoc, ← report_append, List.singleton_append]
      refine (ih ..).trans ?_
      rw [if_neg Bool.false_ne_true, htold]

/-- The pass over input files does what the check does, and nothing without a directory. -/
theorem writeInputFiles_eq (around : Surroundings) (base? : Option Text) (desk : Desk) :
    (writeInputFiles schema around m base?).run desk =
      ((), { desk with
        told := desk.told ++
          (checkInputFiles schema around.onDisk around.clock base? m desk.memory).1
        memory := (checkInputFiles schema around.onDisk around.clock base? m desk.memory).2 }) := by
  unfold writeInputFiles checkInputFiles
  cases base? with
  | none => exact congrFun append_nil.symm desk
  | some base =>
    cases h : schema.severity? "file_paths".toList .error with
    | none => exact congrFun append_nil.symm desk
    | some ruled => exact writeMissingFiles_eq h around.clock m.inputs desk

/-! ## One pass -/

/-- No pass but that of the files touches anything but the report. -/
theorem write_of_ne {around : Surroundings} {base? : Option Text} {check : Check}
    (h : check ≠ .inputFiles) :
    check.write schema around m base? = append (check.issues schema m) := by
  cases check with
  | sections => exact writeSections_eq
  | nodes => exact writeNodes_eq
  | duplicateProperties => exact writeDuplicateProperties_eq
  | uniqueNodeNames => exact writeDuplicateNodes_eq
  | references =>
    rw [Check.write, writeReferences, writeOutputs_eq, writeDanglingLinks_eq, tellAll_append]
    rfl
  | nodeOrdering => exact writeUpwardLinks_eq
  | inputFiles => exact absurd rfl h

end CatchmentLint.Lint

namespace CatchmentLint.Linter

open Lint

variable {around : Surroundings} {m : Model} {base? : Option Text} {l : Linter}

/-- A pass over a desk with the caches of a linter does what the linter's check does. -/
theorem write_eq_runCheck (check : Check) (told : List Issue) :
    (check.write l.schema around m base?).run ⟨told, l.expressions, l.memory⟩ =
      let (added, after) := l.runCheck around m base? check
      ((), ⟨told ++ added, after.expressions, after.memory⟩) := by
  by_cases hfiles : check = .inputFiles
  · subst hfiles
    exact writeInputFiles_eq around base? _
  · rw [write_of_ne hfiles, runCheck_of_ne hfiles]
    rfl

/-- No check changes the schema. -/
theorem schema_runCheck (check : Check) :
    (l.runCheck around m base? check).2.schema = l.schema := by
  by_cases hfiles : check = .inputFiles
  · subst hfiles
    rfl
  · rw [runCheck_of_ne hfiles]

/-- Passes one after another do what the checks do one after another. -/
theorem writeAll_eq_runChecks (checks : List Check) (told : List Issue) :
    (Check.writeAll l.schema around m base? checks).run ⟨told, l.expressions, l.memory⟩ =
      let (added, after) := l.runChecks around m base? checks
      ((), ⟨told ++ added, after.expressions, after.memory⟩) := by
  induction checks generalizing l told with
  | nil => exact congrFun append_nil.symm _
  | cons check checks ih =>
    -- the next pass finds the caches as the check has left them
    have hstep := @write_eq_runCheck around m base? l check told
    have hrest := @ih (l.runCheck around m base? check).2
      (told ++ (l.runCheck around m base? check).1)
    rw [schema_runCheck] at hrest
    simp only [StateT.run] at hstep hrest
    simp only [StateT.run, Check.writeAll, List.forM_eq_forM, List.forM_cons, bind, StateT.bind,
      hstep, runChecks]
    refine hrest.trans ?_
    rw [List.append_assoc]

/-- A linter checks a model as the passes do one after another, over one report that is empty at
first. -/
theorem validateModel_eq_writeAll (h : l.enabled = true) :
    (l.validateModel around m base?).1 =
      ((Check.writeAll l.schema around m base? Check.all).run
        ⟨[], l.expressions, l.memory⟩).2.told := by
  rw [writeAll_eq_runChecks, validateModel, if_neg (by simp [h])]
  rfl

/-! ## The passes together -/

/-- By itself, a pass tells what its check finds. -/
theorem alone_of_ne {schema : Schema} {check : Check} (h : check ≠ .inputFiles) :
    check.alone schema around m base? = check.issues schema m := by
  rw [Check.alone, write_of_ne h]
  exact List.nil_append _

/-- By itself, the pass over files tells what a memory without any answers gives. -/
theorem alone_inputFiles {schema : Schema} :
    Check.inputFiles.alone schema around m base? =
      (checkInputFiles schema around.onDisk around.clock base? m
        (.fresh Memory.defaultLifetime)).1 :=
  congrArg (·.2.told) (writeInputFiles_eq around base? .empty)

/-- Over every report and every cache, a pass adds the same issues, at the end. -/
def AppendsOnly (pass : Pass Unit) : Prop :=
  ∀ memory, ∃ added left, ∀ told expressions,
    pass.run ⟨told, expressions, memory⟩ = ((), ⟨told ++ added, expressions, left⟩)

/-- Every pass adds to the report without looking at what has been told. -/
theorem appendsOnly_write (schema : Schema) (check : Check) :
    AppendsOnly (check.write schema around m base?) := by
  intro memory
  by_cases hfiles : check = .inputFiles
  · subst hfiles
    let checked := checkInputFiles schema around.onDisk around.clock base? m memory
    exact ⟨checked.1, checked.2, fun told expressions => writeInputFiles_eq around base? _⟩
  · refine ⟨check.issues schema m, memory, fun told expressions => ?_⟩
    rw [write_of_ne hfiles]
    rfl

/-- Each pass leaves what has been told and adds to it, and what it adds does not depend on that.  A
new linter, which reads the clock once before its passes begin, so tells what each of them tells by
itself. -/
theorem passes_append (schema : Schema) (around : Surroundings) (base? : Option Text) :
    (∀ (m : Model) (check : Check), AppendsOnly (check.write schema around m base?)) ∧
    ∀ (capacity lifetime : Nat) (expressions : Expression.Cache) (content : Text),
      let during := { around with clock := around.clock.after 1 }
      let m := Model.read content
      let alone := Check.alone schema during m base?
      let issues :=
        ((withCaches schema capacity lifetime expressions).validate around content base?).1
      issues = ((Check.writeAll schema during m base? Check.all).run
          ⟨[], expressions, .fresh Memory.defaultLifetime⟩).2.told ∧
        issues = alone .sections ++ alone .nodes ++ alone .duplicateProperties ++
            alone .uniqueNodeNames ++ alone .references ++ alone .nodeOrdering ++
            alone .inputFiles := by
  refine ⟨fun m check => appendsOnly_write schema check, ?_⟩
  intro capacity lifetime expressions content during m alone issues
  have hissues : issues =
      ((withCaches schema capacity lifetime expressions).validateModel during m base?).1 := rfl
  -- All passes but the one over the input files look at the model alone.
  have hrest : ∀ check ≠ .inputFiles, alone check = check.issues schema m :=
    fun check h => alone_of_ne h
  have hfiles : alone .inputFiles = _ := alone_inputFiles
  have hmodel : modelIssues schema m = alone .sections ++ alone .nodes ++
      alone .duplicateProperties ++ alone .uniqueNodeNames ++ alone .references ++
      alone .nodeOrdering := by
    rw [hrest .sections (by decide), hrest .nodes (by decide),
      hrest .duplicateProperties (by decide), hrest .uniqueNodeNames (by decide),
      hrest .references (by decide), hrest .nodeOrdering (by decide)]
    have hnone : Check.inputFiles.issues schema m = [] := rfl
    simp only [modelIssues, Check.all, List.flatMap_cons, List.flatMap_nil, hnone, List.append_nil,
      List.append_assoc]
  refine ⟨?_, ?_⟩
  · rw [hissues, validateModel_eq_writeAll rfl]
    rfl
  · rw [hissues, validateModel_of_enabled rfl, ← hmodel, hfiles]
    rfl

end CatchmentLint.Linter
