import CatchmentLint.Proofs.Model.LineRoles

/-!
# CatchmentLint.Proofs.Model.Reading

The reader, which jumps over the lines that a statement consumes, makes of a file what the roles of
its lines say: a section for each header, a property or an entry for each line that is recorded, and
nothing for any other line.

* `Reached` — where the reader stands between two statements;
* `ofLines_eq` — the statements are those of the lines, one after another;
* `sections_eq` and `entries_eq` — what is made of them.
-/

namespace CatchmentLint.Lines

variable {lines : List Text}

/-! ## Statements -/

/-- The list that the nearest header above line `i` opens. -/
def listAbove? (lines : List Text) (i : Nat) : Option EntryList :=
  (headerAbove? lines i).bind fun header => EntryList.ofSection? header.2

/-- What the reader makes of line `i`. -/
def statementAt? (lines : List Text) (i : Nat) : Option Statement :=
  if isConsumed lines i then none
  else
    let last := i + 1 + consumedAfter lines i
    match saidAt lines i with
    | .blank => none
    | .header name => some (.header name (i + 1))
    | .keyValue key value =>
      (headerAbove? lines i).map fun _ => .property key (fullText lines value i) (i + 1) last
    | .bare text =>
      (listAbove? lines i).map fun list => .entry list (fullText lines text i) (i + 1) last

theorem statementAt?_of_isConsumed {i : Nat} (h : isConsumed lines i = true) :
    statementAt? lines i = none := by
  rw [statementAt?, if_pos h]

/-- A section is one of the two lists by its name. -/
theorem isSome_ofSection? (name : Text) : (EntryList.ofSection? name).isSome =
    (name == "inputs".toList || name == "outputs".toList) := by
  unfold EntryList.ofSection?
  by_cases hinputs : name = "inputs".toList
  · rw [if_pos hinputs, beq_iff_eq.mpr hinputs, Bool.true_or]
    rfl
  · rw [if_neg hinputs, beq_eq_false_iff_ne.mpr hinputs, Bool.false_or]
    by_cases houtputs : name = "outputs".toList
    · rw [if_pos houtputs, beq_iff_eq.mpr houtputs]
      rfl
    · rw [if_neg houtputs, beq_eq_false_iff_ne.mpr houtputs]
      rfl

/-- A bare entry counts under the header of a list. -/
theorem isStatement_of_bare {i : Nat} {text : Text} (h : saidAt lines i = .bare text) :
    isStatement lines i = (listAbove? lines i).isSome := by
  rw [isStatement, listAbove?, h]
  cases headerAbove? lines i with
  | none => rfl
  | some header => exact (isSome_ofSection? header.2).symm

theorem isStatement_of_keyValue {i : Nat} {key value : Text}
    (h : saidAt lines i = .keyValue key value) :
    isStatement lines i = (headerAbove? lines i).isSome := by
  rw [isStatement, h]
  cases headerAbove? lines i <;> rfl

theorem filterMap_range'_of_isConsumed {start count : Nat}
    (h : ∀ j < count, isConsumed lines (start + j) = true) :
    (List.range' start count).filterMap (statementAt? lines) = [] := by
  refine List.filterMap_eq_nil_iff.mpr fun i hi => ?_
  obtain ⟨j, hj, rfl⟩ := List.mem_range'.mp hi
  rw [Nat.one_mul]
  exact statementAt?_of_isConsumed (h j hj)

/-! ## Between two statements -/

/-- The reader has read the lines before and has the rest to read, under the header of the section
that is open, where no statement above has a claim to the next line. -/
structure Reached (lines : List Text) (current : Option Text) (before rest : List Text) : Prop where
  lines_eq : lines = before ++ rest
  current_eq : (headerAbove? lines before.length).map Prod.snd = current
  unclaimed : isConsumed lines before.length = false

section Reached

variable {current : Option Text} {before rest : List Text} {raw : Text}

theorem Reached.start : Reached lines none [] lines := ⟨rfl, rfl, rfl⟩

theorem Reached.saidAt_eq (h : Reached lines current before (raw :: rest)) :
    saidAt lines before.length = Line.read raw := by
  rw [saidAt, rawAt_length h.lines_eq]

/-- The list that bare entries go to is that of the section that is open. -/
theorem Reached.listAbove?_eq (h : Reached lines current before rest) :
    listAbove? lines before.length = current.bind EntryList.ofSection? := by
  rw [← h.current_eq, listAbove?]
  cases headerAbove? lines before.length <;> rfl

theorem Reached.isRecorded_eq (h : Reached lines current before rest) :
    isRecorded lines before.length = isStatement lines before.length := by
  rw [isRecorded, h.unclaimed, Bool.not_false, Bool.true_and]

/-- After a line that is not recorded comes the next one, which has nothing to continue. -/
theorem Reached.next (h : Reached lines current before (raw :: rest))
    (hstatement : isStatement lines before.length = false) :
    Reached lines ((headerAbove? lines (before.length + 1)).map Prod.snd) (before ++ [raw]) rest where
  lines_eq := h.lines_eq.trans (List.append_cons ..)
  current_eq := by rw [List.length_append]; rfl
  unclaimed := by
    rw [List.length_append, List.length_singleton, isConsumed_succ, h.unclaimed, h.isRecorded_eq,
      hstatement, Bool.or_false, Bool.and_false]

theorem Reached.next_of_header {name : Text} (h : Reached lines current before (raw :: rest))
    (hsaid : saidAt lines before.length = .header name) :
    Reached lines (some name) (before ++ [raw]) rest := by
  have hheader : headerAt? lines before.length = some name := by simp [headerAt?, hsaid]
  have hnext := h.next (by simp [isStatement, hsaid])
  rwa [headerAbove?_succ_of_some hheader] at hnext

/-- A line that is passed over leaves the section that is open as it is. -/
theorem Reached.next_of_passed (h : Reached lines current before (raw :: rest))
    (hheader : headerAt? lines before.length = none)
    (hstatement : isStatement lines before.length = false) :
    Reached lines current (before ++ [raw]) rest := by
  have hnext := h.next hstatement
  rwa [headerAbove?_succ_of_none hheader, h.current_eq] at hnext

/-- Past all the lines that continue the next one stands a line that continues nothing. -/
theorem Reached.past_continuations (h : Reached lines current before (raw :: rest))
    (hheader : headerAt? lines before.length = none) :
    Reached lines current (before ++ raw :: rest.takeWhile Line.isContinuation)
      (rest.dropWhile Line.isContinuation) := by
  have hlength : (before ++ raw :: rest.takeWhile Line.isContinuation).length =
      before.length + 1 + (rest.takeWhile Line.isContinuation).length := by
    rw [List.length_append, List.length_cons]
    omega
  constructor
  · rw [List.append_assoc, List.cons_append, List.takeWhile_append_dropWhile]
    exact h.lines_eq
  · rw [hlength, headerAbove?_after h.lines_eq hheader]
    exact h.current_eq
  · rw [hlength]
    exact isConsumed_add_length h.lines_eq

/-- After a line that is recorded the statements are those of the lines that do not continue it. -/
theorem Reached.filterMap_of_recorded (h : Reached lines current before (raw :: rest))
    (hrecorded : isRecorded lines before.length = true) :
    (List.range' before.length (rest.length + 1)).filterMap (statementAt? lines) =
      (statementAt? lines before.length).toList ++
        (List.range' (before.length + 1 + (rest.takeWhile Line.isContinuation).length)
          (rest.dropWhile Line.isContinuation).length).filterMap (statementAt? lines) := by
  have hlength : rest.length = (rest.takeWhile Line.isContinuation).length +
      (rest.dropWhile Line.isContinuation).length :=
    (length_takeWhile_add_dropWhile _ rest).symm
  have hnone := filterMap_range'_of_isConsumed fun _ => isConsumed_add h.lines_eq hrecorded
  rw [List.range'_succ, hlength, ← List.range'_append_1, ← List.singleton_append,
    List.filterMap_append, List.filterMap_append, hnone, List.nil_append]
  cases hstatement : statementAt? lines before.length <;> simp [hstatement]

end Reached

/-- A line that is passed over, and then the lines after it. -/
theorem filterMap_range'_of_passed {i count : Nat} (h : statementAt? lines i = none) :
    (List.range' i (count + 1)).filterMap (statementAt? lines) =
      (List.range' (i + 1) count).filterMap (statementAt? lines) := by
  rw [List.range'_succ, List.filterMap_cons_none h]

theorem headerAt?_eq_none {i : Nat} (h : ∀ name, saidAt lines i ≠ .header name) :
    headerAt? lines i = none := by
  unfold headerAt?
  split
  · next name hsaid => exact absurd hsaid (h name)
  · rfl

/-- The statements are those of the lines, one after another. -/
theorem ofLines_eq {current : Option Text} {read : Nat} {before rest : List Text}
    (hread : before.length = read) (h : Reached lines current before rest) :
    Statement.ofLines current read rest =
      (List.range' read rest.length).filterMap (statementAt? lines) := by
  -- The cases are those of the reader: no line, one that says nothing, a header, a property without
  -- a header above it and with one, an entry outside of the lists and in one of them.
  fun_induction Statement.ofLines current read rest generalizing before with
  | case1 => rfl
  | case2 current read raw rest hsaid ih =>
      subst hread
      rw [← h.saidAt_eq] at hsaid
      have hnone : statementAt? lines before.length = none := by simp [statementAt?, hsaid]
      rw [List.length_cons, filterMap_range'_of_passed hnone]
      exact ih (by simp) (h.next_of_passed (headerAt?_eq_none (by simp [hsaid]))
        (by simp [isStatement, hsaid]))
  | case3 current read raw rest name hsaid ih =>
      subst hread
      rw [← h.saidAt_eq] at hsaid
      have hsome : statementAt? lines before.length = some (.header name (before.length + 1)) := by
        simp [statementAt?, hsaid, h.unclaimed]
      rw [List.length_cons, List.range'_succ, List.filterMap_cons_some hsome]
      exact congrArg _ (ih (by simp) (h.next_of_header hsaid))
  | case4 read raw rest key value hsaid ih =>
      subst hread
      rw [← h.saidAt_eq] at hsaid
      have habove : headerAbove? lines before.length = none := by simpa using h.current_eq
      have hstatement : isStatement lines before.length = false := by
        rw [isStatement_of_keyValue hsaid, habove]
        rfl
      have hnone : statementAt? lines before.length = none := by
        simp [statementAt?, hsaid, habove]
      rw [List.length_cons, filterMap_range'_of_passed hnone]
      exact ih (by simp) (h.next_of_passed (headerAt?_eq_none (by simp [hsaid])) hstatement)
  | case5 read raw rest continuations last key value hsaid name =>
      rename_i ih
      subst hread
      rw [← h.saidAt_eq] at hsaid
      obtain ⟨header, habove, hname⟩ := Option.map_eq_some_iff.mp h.current_eq
      have hrecorded : isRecorded lines before.length = true := by
        rw [h.isRecorded_eq, isStatement_of_keyValue hsaid, habove]
        rfl
      have hsome : statementAt? lines before.length =
          some (.property key (Statement.fullText value continuations) (before.length + 1) last) := by
        simp [statementAt?, hsaid, h.unclaimed, habove, fullText_eq h.lines_eq hrecorded,
          consumedAfter_eq h.lines_eq hrecorded, continuations, last]
      rw [List.length_cons, h.filterMap_of_recorded hrecorded, hsome]
      exact congrArg _ (ih (by simp [last, continuations]; omega)
        (h.past_continuations (headerAt?_eq_none (by simp [hsaid]))))
  | case6 current read raw rest text hsaid hlist ih =>
      subst hread
      rw [← h.saidAt_eq] at hsaid
      have habove : listAbove? lines before.length = none := by rw [h.listAbove?_eq, hlist]
      have hstatement : isStatement lines before.length = false := by
        rw [isStatement_of_bare hsaid, habove]
        rfl
      have hnone : statementAt? lines before.length = none := by
        simp [statementAt?, hsaid, habove]
      rw [List.length_cons, filterMap_range'_of_passed hnone]
      exact ih (by simp) (h.next_of_passed (headerAt?_eq_none (by simp [hsaid])) hstatement)
  | case7 current read raw rest continuations last text hsaid list hlist =>
      rename_i ih
      subst hread
      rw [← h.saidAt_eq] at hsaid
      have habove : listAbove? lines before.length = some list := by rw [h.listAbove?_eq, hlist]
      have hrecorded : isRecorded lines before.length = true := by
        rw [h.isRecorded_eq, isStatement_of_bare hsaid, habove]
        rfl
      have hsome : statementAt? lines before.length =
          some (.entry list (Statement.fullText text continuations) (before.length + 1) last) := by
        simp [statementAt?, hsaid, h.unclaimed, habove, fullText_eq h.lines_eq hrecorded,
          consumedAfter_eq h.lines_eq hrecorded, continuations, last]
      rw [List.length_cons, h.filterMap_of_recorded hrecorded, hsome]
      exact congrArg _ (ih (by simp [last, continuations]; omega)
        (h.past_continuations (headerAt?_eq_none (by simp [hsaid]))))

/-! ## Sections -/

/-- The properties that are recorded under the header on line `i`. -/
def propertiesUnder (lines : List Text) (i : Nat) : List Property :=
  (List.range lines.length).filterMap fun j =>
    if (headerAbove? lines j).map Prod.fst = some i then propertyAt? lines j else none

/-- The property that a statement adds to its section. -/
def propertyFor? : Statement → Option Property
  | .property key value line _ => some ⟨key, value, line⟩
  | _ => none

theorem bind_propertyFor? (i : Nat) :
    (statementAt? lines i).bind propertyFor? = propertyAt? lines i := by
  unfold statementAt? propertyAt? isRecorded
  cases hconsumed : isConsumed lines i with
  | true => rfl
  | false =>
      cases hsaid : saidAt lines i with
      | blank => simp
      | header name => simp [propertyFor?]
      | keyValue key value =>
          rw [isStatement_of_keyValue hsaid]
          cases headerAbove? lines i <;> simp [propertyFor?]
      | bare text =>
          cases listAbove? lines i <;> simp [propertyFor?]

theorem foldl_addTo (statements : List Statement) (s : Section) :
    (statements.foldl Statement.addTo s).name = s.name ∧
      (statements.foldl Statement.addTo s).startLine = s.startLine ∧
      (statements.foldl Statement.addTo s).occurrences =
        s.occurrences ++ statements.filterMap propertyFor? := by
  induction statements generalizing s with
  | nil => simp
  | cons statement statements ih =>
      obtain ⟨hname, hstart, hoccurrences⟩ := ih (Statement.addTo s statement)
      rw [List.foldl_cons, hname, hstart, hoccurrences]
      cases statement with
      | header name line => exact ⟨rfl, rfl, rfl⟩
      | property key value line last =>
          refine ⟨rfl, rfl, ?_⟩
          simp [Statement.addTo, Section.record, Section.extend, propertyFor?]
      | entry list text line last => exact ⟨rfl, rfl, rfl⟩

theorem statementAt?_of_headerAt? {i : Nat} {name : Text} (h : headerAt? lines i = some name) :
    statementAt? lines i = some (.header name (i + 1)) := by
  simp [statementAt?, isConsumed_of_headerAt? h, saidAt_of_headerAt? h]

theorem isHeader_of_headerAt? {i : Nat} {statement : Statement} (h : headerAt? lines i = none)
    (hstatement : statementAt? lines i = some statement) : statement.isHeader = false := by
  unfold statementAt? at hstatement
  split at hstatement
  · contradiction
  · split at hstatement
    · contradiction
    · next name hsaid => simp [headerAt?, hsaid] at h
    · obtain ⟨header, -, rfl⟩ := Option.map_eq_some_iff.mp hstatement
      rfl
    · obtain ⟨list, -, rfl⟩ := Option.map_eq_some_iff.mp hstatement
      rfl

/-- The statements up to the next header are those whose nearest header is the one above. -/
theorem filterMap_takeWhile_statements {start count i : Nat} {name : Text}
    (h : headerAbove? lines start = some (i, name)) :
    (((List.range' start count).filterMap (statementAt? lines)).takeWhile
        (!·.isHeader)).filterMap propertyFor? =
      (List.range' start count).filterMap fun j =>
        if (headerAbove? lines j).map Prod.fst = some i then propertyAt? lines j else none := by
  induction count generalizing start with
  | zero => rfl
  | succ count ih =>
      have hadded : (statementAt? lines start).bind propertyFor? = propertyAt? lines start :=
        bind_propertyFor? start
      have hhere : (headerAbove? lines start).map Prod.fst = some i := by rw [h]; rfl
      rw [List.range'_succ]
      cases hheader : headerAt? lines start with
      | some name' =>
          -- The headers above the lines from here on are this one or stand below it.
          have hbelow : ∀ j ∈ List.range' (start + 1) count,
              (headerAbove? lines j).map Prod.fst ≠ some i := by
            intro j hj heq
            obtain ⟨found, hfound, hi⟩ := Option.map_eq_some_iff.mp heq
            have hlt := headerAbove?_lt h
            have hle := le_headerAbove? hheader (List.mem_range'_1.mp hj).1 hfound
            omega
          have hstatement := statementAt?_of_headerAt? hheader
          rw [hstatement] at hadded
          rw [List.filterMap_cons_some hstatement, List.takeWhile_cons_of_neg (by simp [Statement.isHeader]),
            List.filterMap_cons_none (by rw [if_pos hhere, ← hadded]; rfl)]
          refine (List.filterMap_eq_nil_iff.mpr fun j hj => ?_).symm
          rw [if_neg (hbelow j hj)]
      | none =>
          have habove : headerAbove? lines (start + 1) = some (i, name) := by
            rw [headerAbove?_succ_of_none hheader, h]
          cases hstatement : statementAt? lines start with
          | none =>
              rw [hstatement] at hadded
              rw [List.filterMap_cons_none hstatement, ih habove,
                List.filterMap_cons_none (by rw [if_pos hhere, ← hadded]; rfl)]
          | some statement =>
              rw [hstatement] at hadded
              have hheader' := isHeader_of_headerAt? hheader hstatement
              rw [List.filterMap_cons_some hstatement, List.takeWhile_cons_of_pos (by simp [hheader']),
                List.filterMap_cons, List.filterMap_cons, ih habove, if_pos hhere, ← hadded]
              rfl

theorem propertiesUnder_eq {i : Nat} {count : Nat} (h : i + 1 + count = lines.length) :
    propertiesUnder lines i = (List.range' (i + 1) count).filterMap fun j =>
      if (headerAbove? lines j).map Prod.fst = some i then propertyAt? lines j else none := by
  have hsplit : List.range lines.length = List.range' 0 (i + 1) ++ List.range' (i + 1) count := by
    rw [List.range_eq_range', ← h, ← List.range'_append_1, Nat.zero_add]
  have habove : ∀ j ∈ List.range' 0 (i + 1), (headerAbove? lines j).map Prod.fst ≠ some i := by
    intro j hj heq
    obtain ⟨found, hfound, hi⟩ := Option.map_eq_some_iff.mp heq
    have hlt := headerAbove?_lt hfound
    have hj' := (List.mem_range'_1.mp hj).2
    omega
  rw [propertiesUnder, hsplit, List.filterMap_append,
    List.filterMap_eq_nil_iff.mpr fun j hj => if_neg (habove j hj), List.nil_append]

theorem sections_of_not_isHeader {statement : Statement} (h : statement.isHeader = false)
    (statements : List Statement) :
    Statement.sections (statement :: statements) = Statement.sections statements := by
  cases statement with
  | header name line => contradiction
  | property key value line last => rfl
  | entry list text line last => rfl

/-- What is compared of a section: everything but the last line that belongs to it. -/
def sectionParts (s : Section) : Text × Nat × List Property := (s.name, s.startLine, s.occurrences)

/-- There is one section for each header, with the properties under it. -/
theorem sections_eq {start count : Nat} (h : start + count = lines.length) :
    (Statement.sections ((List.range' start count).filterMap (statementAt? lines))).map sectionParts =
      (List.range' start count).filterMap fun i =>
        (headerAt? lines i).map fun name => (name, i + 1, propertiesUnder lines i) := by
  induction count generalizing start with
  | zero => rfl
  | succ count ih =>
      have hnext : start + 1 + count = lines.length := by omega
      rw [List.range'_succ]
      cases hheader : headerAt? lines start with
      | some name =>
          obtain ⟨hname, hstart, hoccurrences⟩ := foldl_addTo
            (((List.range' (start + 1) count).filterMap (statementAt? lines)).takeWhile (!·.isHeader))
            (.opened name (start + 1))
          rw [filterMap_takeWhile_statements (headerAbove?_succ_of_some hheader),
            ← propertiesUnder_eq hnext] at hoccurrences
          rw [List.filterMap_cons_some (statementAt?_of_headerAt? hheader), Statement.sections,
            List.map_cons, ih hnext, sectionParts, hname, hstart, hoccurrences,
            List.filterMap_cons_some (by rw [hheader]; rfl)]
          rfl
      | none =>
          rw [List.filterMap_cons, List.filterMap_cons, hheader, Option.map_none, ← ih hnext]
          cases hstatement : statementAt? lines start with
          | none => rfl
          | some statement =>
              simp only [sections_of_not_isHeader (isHeader_of_headerAt? hheader hstatement)]

/-! ## Entries -/

/-- The bare entries that are recorded under headers of this name. -/
def entriesUnder (lines : List Text) (name : Text) : List Entry :=
  (List.range lines.length).filterMap fun j =>
    if (headerAbove? lines j).map Prod.snd = some name then entryAt? lines j else none

def listName : EntryList → Text
  | .inputs => "inputs".toList
  | .outputs => "outputs".toList

theorem ofSection?_eq_some_iff {name : Text} {list : EntryList} :
    EntryList.ofSection? name = some list ↔ name = listName list := by
  have hne : "outputs".toList ≠ "inputs".toList := by decide
  unfold EntryList.ofSection?
  by_cases hinputs : name = "inputs".toList
  · rw [if_pos hinputs]
    cases list with
    | inputs => exact iff_of_true rfl hinputs
    | outputs => exact iff_of_false nofun fun h => hne (h.symm.trans hinputs)
  · rw [if_neg hinputs]
    by_cases houtputs : name = "outputs".toList
    · rw [if_pos houtputs]
      cases list with
      | inputs => exact iff_of_false nofun hinputs
      | outputs => exact iff_of_true rfl houtputs
    · rw [if_neg houtputs]
      cases list with
      | inputs => exact iff_of_false nofun hinputs
      | outputs => exact iff_of_false nofun houtputs

/-- The entry that a statement adds to a list. -/
def entryFor? (list : EntryList) : Statement → Option Entry
  | .entry list' text line _ => if list' = list then some ⟨text, line⟩ else none
  | _ => none

theorem entries_eq_filterMap (list : EntryList) (statements : List Statement) :
    Statement.entries list statements = statements.filterMap (entryFor? list) := by
  induction statements with
  | nil => rfl
  | cons statement statements ih =>
      cases statement with
      | header name line => exact ih
      | property key value line last => exact ih
      | entry list' text line last =>
          by_cases hlist : list' = list
          · simp [Statement.entries, entryFor?, hlist, ih]
          · simp [Statement.entries, entryFor?, hlist, ih]

theorem bind_entryFor? (list : EntryList) (i : Nat) :
    (statementAt? lines i).bind (entryFor? list) =
      if (headerAbove? lines i).map Prod.snd = some (listName list) then entryAt? lines i else none := by
  unfold statementAt? entryAt? isRecorded
  cases hconsumed : isConsumed lines i with
  | true => simp
  | false =>
      cases hsaid : saidAt lines i with
      | blank => simp
      | header name => simp [entryFor?]
      | keyValue key value => cases headerAbove? lines i <;> simp [entryFor?]
      | bare text =>
          rw [isStatement_of_bare hsaid, listAbove?]
          cases headerAbove? lines i with
          | none => simp
          | some header =>
              cases hfound : EntryList.ofSection? header.2 with
              | none =>
                  have hname : header.2 ≠ listName list := fun heq => by
                    rw [ofSection?_eq_some_iff.mpr heq] at hfound
                    contradiction
                  simp [hfound, hname]
              | some found =>
                  have hname : header.2 = listName list ↔ found = list := by
                    rw [← ofSection?_eq_some_iff, hfound, Option.some.injEq]
                  by_cases hlist : found = list
                  · simp [hfound, hname, hlist, entryFor?]
                  · simp [hfound, hname, hlist, entryFor?]

theorem entries_eq (list : EntryList) :
    Statement.entries list ((List.range' 0 lines.length).filterMap (statementAt? lines)) =
      entriesUnder lines (listName list) := by
  rw [entries_eq_filterMap, List.filterMap_filterMap, entriesUnder, List.range_eq_range']
  simp only [bind_entryFor?]

/-! ## Models -/

/-- Behind its last line a document says nothing. -/
theorem saidAt_of_length_le {i : Nat} (h : lines.length ≤ i) : saidAt lines i = .blank := by
  rw [saidAt, rawAt, List.getD_eq_getElem?_getD, List.getElem?_eq_none h]
  rfl

theorem lt_length_of_isStatement {i : Nat} (h : isStatement lines i = true) : i < lines.length := by
  refine Nat.lt_of_not_le fun hle => ?_
  rw [isStatement, saidAt_of_length_le hle] at h
  contradiction

theorem lt_length_of_headerAt? {i : Nat} {name : Text} (h : headerAt? lines i = some name) :
    i < lines.length := by
  refine Nat.lt_of_not_le fun hle => ?_
  rw [headerAt?, saidAt_of_length_le hle] at h
  contradiction

/-- A recorded line stands under a header, and is one property or one entry. -/
theorem exists_header_of_isRecorded {i : Nat} (h : isRecorded lines i = true) :
    i < lines.length ∧ ∃ j name, headerAbove? lines i = some (j, name) ∧
      headerAt? lines j = some name ∧
      ((propertyAt? lines i).isSome = true ∧ entryAt? lines i = none ∨
        propertyAt? lines i = none ∧ (entryAt? lines i).isSome = true ∧
          (name = "inputs".toList ∨ name = "outputs".toList)) := by
  have hstatement : isStatement lines i = true := (Bool.and_eq_true_iff.mp h).2
  refine ⟨lt_length_of_isStatement hstatement, ?_⟩
  unfold propertyAt? entryAt?
  rw [h]
  rw [isStatement] at hstatement
  split at hstatement
  · next key value header hsaid habove =>
      refine ⟨header.1, header.2, habove, headerAt?_of_headerAbove? habove, .inl ?_⟩
      rw [hsaid]
      exact ⟨rfl, rfl⟩
  · next text j name hsaid habove =>
      refine ⟨j, name, habove, headerAt?_of_headerAbove? habove, .inr ?_⟩
      rw [hsaid]
      refine ⟨rfl, rfl, ?_⟩
      rwa [Bool.or_eq_true, beq_iff_eq, beq_iff_eq] at hstatement
  · contradiction

/-- The statements of a text are those of its lines. -/
theorem ofLines_lines (content : Text) : Statement.ofLines none 0 (Text.lines content) =
    (List.range' 0 (Text.lines content).length).filterMap (statementAt? (Text.lines content)) :=
  ofLines_eq rfl .start

/-- Every section of a model has a header on its first line, and the properties under it. -/
theorem exists_headerAt? {content : Text} {s : Section} (hs : s ∈ (Model.read content).sections) :
    ∃ i < (Text.lines content).length, headerAt? (Text.lines content) i = some s.name ∧
      s.startLine = i + 1 ∧ s.occurrences = propertiesUnder (Text.lines content) i := by
  have hparts : sectionParts s ∈ (Model.read content).sections.map sectionParts :=
    List.mem_map_of_mem hs
  rw [Model.read, Model.ofStatements, ofLines_lines, sections_eq (Nat.zero_add _)] at hparts
  obtain ⟨i, hi, hheader⟩ := List.mem_filterMap.mp hparts
  obtain ⟨name, hname, heq⟩ := Option.map_eq_some_iff.mp hheader
  simp only [sectionParts, Prod.mk.injEq] at heq
  obtain ⟨rfl, hstart, hoccurrences⟩ := heq
  have hlt := (List.mem_range'_1.mp hi).2
  exact ⟨i, by omega, hname, hstart.symm, hoccurrences.symm⟩

/-- Every property of a model is recorded on some line. -/
theorem exists_propertyAt? {content : Text} {s : Section} {p : Property}
    (hs : s ∈ (Model.read content).sections) (hp : p ∈ s.occurrences) :
    ∃ i, propertyAt? (Text.lines content) i = some p := by
  obtain ⟨i, -, -, -, hoccurrences⟩ := exists_headerAt? hs
  rw [hoccurrences] at hp
  obtain ⟨j, -, hj⟩ := List.mem_filterMap.mp hp
  split at hj
  · exact ⟨j, hj⟩
  · contradiction

/-- So is every entry. -/
theorem exists_entryAt? {content : Text} {list : EntryList} {entry : Entry}
    (h : entry ∈ Statement.entries list (Statement.ofLines none 0 (Text.lines content))) :
    ∃ i, entryAt? (Text.lines content) i = some entry := by
  rw [ofLines_lines, entries_eq] at h
  obtain ⟨i, -, hi⟩ := List.mem_filterMap.mp h
  split at hi
  · exact ⟨i, hi⟩
  · contradiction

theorem line_of_propertyAt? {lines : List Text} {i : Nat} {p : Property}
    (h : propertyAt? lines i = some p) : p.line = i + 1 := by
  unfold propertyAt? at h
  split at h
  · cases h
    rfl
  · contradiction

/-- No line holds two properties. -/
theorem eq_of_propertyAt? {lines : List Text} {i j : Nat} {p q : Property}
    (hp : propertyAt? lines i = some p) (hq : propertyAt? lines j = some q) (h : p.line = q.line) :
    p = q := by
  have hij : i = j := by
    have hi := line_of_propertyAt? hp
    have hj := line_of_propertyAt? hq
    omega
  rw [hij, hq] at hp
  exact (Option.some.inj hp).symm

/-- No line holds a property and an entry. -/
theorem line_ne_of_propertyAt? {lines : List Text} {i j : Nat} {p : Property} {entry : Entry}
    (hp : propertyAt? lines i = some p) (hentry : entryAt? lines j = some entry) :
    p.line ≠ entry.line := by
  unfold propertyAt? at hp
  unfold entryAt? at hentry
  split at hp
  · next key value _ hkey =>
      split at hentry
      · next text _ hbare =>
          cases hp
          cases hentry
          intro hline
          have hij : i = j := Nat.succ.inj hline
          rw [hij, hbare] at hkey
          contradiction
      · contradiction
  · contradiction

/-- A model is what the roles of its lines say: a section for each header, with what is recorded
under it, and the entries that are recorded under the headers of the two lists.  No header is
consumed, and each line that is recorded counts once. -/
theorem read_eq (content : Text) :
    let lines := Text.lines content
    (Model.read content).sections.map sectionParts =
        (List.range lines.length).filterMap (fun i =>
          (headerAt? lines i).map fun name => (name, i + 1, propertiesUnder lines i)) ∧
      (Model.read content).inputs = entriesUnder lines "inputs".toList ∧
      (Model.read content).outputs = entriesUnder lines "outputs".toList ∧
      (∀ i name, headerAt? lines i = some name → isConsumed lines i = false) ∧
      ∀ i, isRecorded lines i = true →
        i < lines.length ∧ ∃ j name, headerAbove? lines i = some (j, name) ∧
          headerAt? lines j = some name ∧
          ((propertyAt? lines i).isSome = true ∧ entryAt? lines i = none ∨
            propertyAt? lines i = none ∧ (entryAt? lines i).isSome = true ∧
              (name = "inputs".toList ∨ name = "outputs".toList)) := by
  intro lines
  have hstatements : Statement.ofLines none 0 lines =
      (List.range' 0 lines.length).filterMap (statementAt? lines) :=
    ofLines_eq rfl .start
  have hread : Model.read content =
      .ofStatements ((List.range' 0 lines.length).filterMap (statementAt? lines)) :=
    congrArg Model.ofStatements hstatements
  rw [hread]
  refine ⟨?_, entries_eq .inputs, entries_eq .outputs, fun i name => isConsumed_of_headerAt?,
    fun i => exists_header_of_isRecorded⟩
  rw [List.range_eq_range']
  exact sections_eq (Nat.zero_add _)

end CatchmentLint.Lines
