import CatchmentLint.Model.Reader
import CatchmentLint.Proofs.Lists

/-!
# CatchmentLint.Proofs.Model.LineRoles

What each line of a model file is, line by line: a header, a statement that is recorded, a line that
the statement above it has consumed, or nothing.

* `isConsumed` and `isRecorded` — the two roles, by recursion over the lines above;
* `isConsumed_of_headerAt?` — no header is consumed;
* `consumedAfter_eq` — a recorded statement consumes the continuation lines right after it;
* `fullText_eq` — and says what the reader makes of them.
-/

namespace CatchmentLint.Lines

variable (lines : List Text)

/-! ## Roles -/

/-- Line `i`, where the first one is line 0 and nothing stands after the last. -/
def rawAt (i : Nat) : Text := lines.getD i []

def saidAt (i : Nat) : Line := Line.read (rawAt lines i)

def headerAt? (i : Nat) : Option Text :=
  match saidAt lines i with
  | .header name => some name
  | _ => none

/-- The nearest header above line `i`: where it stands and its name. -/
def headerAbove? : (i : Nat) → Option (Nat × Text)
  | 0 => none
  | i + 1 =>
    match headerAt? lines i with
    | some name => some (i, name)
    | none => headerAbove? i

/-- Whether the line is a statement where it stands: a property under a header, or a bare entry
under the header of one of the two lists. -/
def isStatement (i : Nat) : Bool :=
  match saidAt lines i, headerAbove? lines i with
  | .keyValue _ _, some _ => true
  | .bare _, some (_, name) => name == "inputs".toList || name == "outputs".toList
  | _, _ => false

/-- Whether the line belongs to a statement above it. -/
def isConsumed : (i : Nat) → Bool
  | 0 => false
  | i + 1 =>
    Line.isContinuation (rawAt lines (i + 1)) &&
      (isConsumed i || (!isConsumed i && isStatement lines i))

def isRecorded (i : Nat) : Bool := !isConsumed lines i && isStatement lines i

theorem isConsumed_succ (i : Nat) : isConsumed lines (i + 1) =
    (Line.isContinuation (rawAt lines (i + 1)) && (isConsumed lines i || isRecorded lines i)) := rfl

/-- How many lines right after line `i` are consumed. -/
def consumedAfter (i : Nat) : Nat :=
  ((List.range' (i + 1) (lines.length - (i + 1))).takeWhile (isConsumed lines)).length

/-- The text of a statement on line `i` that says `text`: what is not empty of it and of the lines
that it consumes, with a space between each two. -/
def fullText (text : Text) (i : Nat) : Text :=
  Text.join [' '] ((text :: ((lines.drop (i + 1)).take (consumedAfter lines i)).map
    Line.continuationText).filter (!·.isEmpty))

/-- The property that is recorded on line `i`. -/
def propertyAt? (i : Nat) : Option Property :=
  match isRecorded lines i, saidAt lines i with
  | true, .keyValue key value => some ⟨key, fullText lines value i, i + 1⟩
  | _, _ => none

/-- The bare entry that is recorded on line `i`. -/
def entryAt? (i : Nat) : Option Entry :=
  match isRecorded lines i, saidAt lines i with
  | true, .bare text => some ⟨fullText lines text i, i + 1⟩
  | _, _ => none

/-! ## Headers -/

variable {lines}

/-- A header is what stands in brackets once the comment and the blank ends are gone. -/
theorem headerName?_of_header {raw name : Text} (h : Line.read raw = .header name) :
    Line.headerName? (Text.trim (Line.stripComment raw)) = some name := by
  unfold Line.read Line.classify at h
  simp only at h
  split at h
  · contradiction
  · split at h
    · next found hfound => rw [hfound, Line.header.inj h]
    · split at h
      · contradiction
      · split at h <;> contradiction

theorem isContinuation_of_header {raw name : Text} (h : Line.read raw = .header name) :
    Line.isContinuation raw = false := by
  unfold Line.isContinuation
  split
  · rw [headerName?_of_header h]
    simp
  · rfl

theorem saidAt_of_headerAt? {i : Nat} {name : Text} (h : headerAt? lines i = some name) :
    saidAt lines i = .header name := by
  unfold headerAt? at h
  split at h
  · next found hsaid => rw [hsaid, Option.some.inj h]
  · contradiction

/-- No header is consumed. -/
theorem isConsumed_of_headerAt? {i : Nat} {name : Text} (h : headerAt? lines i = some name) :
    isConsumed lines i = false := by
  cases i with
  | zero => rfl
  | succ i => rw [isConsumed, isContinuation_of_header (saidAt_of_headerAt? h), Bool.false_and]

theorem headerAt?_of_isContinuation {i : Nat} (h : Line.isContinuation (rawAt lines i) = true) :
    headerAt? lines i = none := by
  cases hheader : headerAt? lines i with
  | none => rfl
  | some name =>
      rw [isContinuation_of_header (saidAt_of_headerAt? hheader)] at h
      contradiction

theorem headerAbove?_succ_of_some {i : Nat} {name : Text} (h : headerAt? lines i = some name) :
    headerAbove? lines (i + 1) = some (i, name) := by
  rw [headerAbove?, h]

theorem headerAbove?_succ_of_none {i : Nat} (h : headerAt? lines i = none) :
    headerAbove? lines (i + 1) = headerAbove? lines i := by
  rw [headerAbove?, h]

/-- Lines without a header leave the nearest one above as it is. -/
theorem headerAbove?_add {i : Nat} (count : Nat)
    (h : ∀ j < count, headerAt? lines (i + j) = none) :
    headerAbove? lines (i + count) = headerAbove? lines i := by
  induction count with
  | zero => rfl
  | succ count ih =>
      rw [← Nat.add_assoc, headerAbove?_succ_of_none (h count (Nat.lt_succ_self _))]
      exact ih fun j hj => h j (Nat.lt_succ_of_lt hj)

/-- The nearest header above a line stands above it. -/
theorem headerAbove?_lt {i : Nat} {found : Nat × Text} (h : headerAbove? lines i = some found) :
    found.1 < i := by
  induction i with
  | zero => contradiction
  | succ i ih =>
      cases hheader : headerAt? lines i with
      | none =>
          rw [headerAbove?_succ_of_none hheader] at h
          exact Nat.lt_succ_of_lt (ih h)
      | some name =>
          rw [headerAbove?_succ_of_some hheader] at h
          rw [← Option.some.inj h]
          exact Nat.lt_succ_self i

theorem headerAt?_of_headerAbove? {i : Nat} {found : Nat × Text}
    (h : headerAbove? lines i = some found) : headerAt? lines found.1 = some found.2 := by
  induction i with
  | zero => contradiction
  | succ i ih =>
      cases hheader : headerAt? lines i with
      | none =>
          rw [headerAbove?_succ_of_none hheader] at h
          exact ih h
      | some name =>
          rw [headerAbove?_succ_of_some hheader] at h
          rw [← Option.some.inj h]
          exact hheader

/-- Above the line and below that header there is no other. -/
theorem le_headerAbove? {i j : Nat} {name : Text} {found : Nat × Text}
    (hheader : headerAt? lines i = some name) (hij : i < j)
    (h : headerAbove? lines j = some found) : i ≤ found.1 := by
  induction j with
  | zero => contradiction
  | succ j ih =>
      cases hheader' : headerAt? lines j with
      | none =>
          rw [headerAbove?_succ_of_none hheader'] at h
          have hne : i ≠ j := by
            rintro rfl
            rw [hheader] at hheader'
            contradiction
          exact ih (by omega) h
      | some name' =>
          rw [headerAbove?_succ_of_some hheader'] at h
          rw [← Option.some.inj h]
          exact Nat.le_of_lt_succ hij

/-! ## What a statement consumes -/

/-- Texts are added with a space between each two, but for the empty ones. -/
theorem foldl_addContinuation (text : Text) (parts : List Text) :
    parts.foldl Statement.addContinuation text =
      Text.join [' '] ((text :: parts).filter (!·.isEmpty)) := by
  induction parts generalizing text with
  | nil => cases text <;> simp [Text.join]
  | cons part parts ih =>
      rw [List.foldl_cons, ih, Statement.addContinuation]
      cases part with
      | nil => cases text <;> simp
      | cons c part =>
          cases text with
          | nil => simp
          | cons d text => cases hrest : parts.filter (!·.isEmpty) <;> simp [hrest, Text.join]

section Block

variable {before rest : List Text} {raw : Text} (hlines : lines = before ++ raw :: rest)

include hlines

theorem rawAt_length : rawAt lines before.length = raw := by
  rw [rawAt, hlines]
  simp

theorem rawAt_add (j : Nat) : rawAt lines (before.length + 1 + j) = rest.getD j [] := by
  rw [rawAt, hlines, List.append_cons, List.getD_eq_getElem?_getD,
    List.getElem?_append_right (by simp), List.getD_eq_getElem?_getD]
  simp

/-- After a line that is recorded all the lines are consumed that continue it. -/
theorem isConsumed_add (hrecorded : isRecorded lines before.length = true) {j : Nat}
    (hj : j < (rest.takeWhile Line.isContinuation).length) :
    isConsumed lines (before.length + 1 + j) = true := by
  induction j with
  | zero =>
      have hcontinues : Line.isContinuation (rawAt lines (before.length + 1)) = true := by
        rw [← Nat.add_zero (before.length + 1), rawAt_add hlines]
        exact apply_getD_of_lt [] hj
      rw [Nat.add_zero, isConsumed_succ, hcontinues, hrecorded, Bool.or_true, Bool.and_true]
  | succ j ih =>
      have hcontinues : Line.isContinuation (rawAt lines (before.length + 1 + (j + 1))) = true := by
        rw [rawAt_add hlines]
        exact apply_getD_of_lt [] hj
      rw [← Nat.add_assoc] at hcontinues ⊢
      rw [isConsumed_succ, hcontinues, ih (Nat.lt_of_succ_lt hj), Bool.true_or, Bool.and_true]

/-- The line after those is not consumed. -/
theorem isConsumed_add_length :
    isConsumed lines (before.length + 1 + (rest.takeWhile Line.isContinuation).length) = false := by
  have hstops : Line.isContinuation
      (rest.getD (rest.takeWhile Line.isContinuation).length []) = false := apply_getD_length rfl
  rw [← rawAt_add hlines, Nat.add_right_comm] at hstops
  rw [Nat.add_right_comm, isConsumed_succ, hstops, Bool.false_and]

theorem length_eq : lines.length - (before.length + 1) = rest.length := by
  rw [hlines, List.length_append, List.length_cons]
  omega

/-- A statement consumes the continuation lines right after it, and no others. -/
theorem consumedAfter_eq (hrecorded : isRecorded lines before.length = true) :
    consumedAfter lines before.length = (rest.takeWhile Line.isContinuation).length := by
  have hle : (rest.takeWhile Line.isContinuation).length ≤ rest.length :=
    (List.takeWhile_prefix _).length_le
  have hconsumed : ∀ i ∈ List.range' (before.length + 1) (rest.takeWhile Line.isContinuation).length,
      isConsumed lines i = true := by
    intro i hi
    obtain ⟨j, hj, rfl⟩ := List.mem_range'.mp hi
    rw [Nat.one_mul]
    exact isConsumed_add hlines hrecorded hj
  have hstops : StartsOutside (isConsumed lines)
      (List.range' (before.length + 1 + (rest.takeWhile Line.isContinuation).length)
        (rest.length - (rest.takeWhile Line.isContinuation).length)) := by
    intro i hi
    rw [List.head?_range'] at hi
    split at hi
    · cases hi
    · rw [← Option.some.inj hi]
      exact isConsumed_add_length hlines
  have hsplit : List.range' (before.length + 1) rest.length =
      List.range' (before.length + 1) (rest.takeWhile Line.isContinuation).length ++
        List.range' (before.length + 1 + (rest.takeWhile Line.isContinuation).length)
          (rest.length - (rest.takeWhile Line.isContinuation).length) := by
    rw [List.range'_append_1, Nat.add_sub_cancel' hle]
  rw [consumedAfter, length_eq hlines, hsplit, takeWhile_append_of_startsOutside hconsumed hstops,
    List.length_range']

/-- Nothing that a statement consumes is a header. -/
theorem headerAbove?_after (hheader : headerAt? lines before.length = none) :
    headerAbove? lines (before.length + 1 + (rest.takeWhile Line.isContinuation).length) =
      headerAbove? lines before.length := by
  rw [headerAbove?_add _ fun j hj => headerAt?_of_isContinuation ?_,
    headerAbove?_succ_of_none hheader]
  rw [rawAt_add hlines]
  exact apply_getD_of_lt [] hj

/-- The full text of a statement is the one that the reader joins. -/
theorem fullText_eq (hrecorded : isRecorded lines before.length = true) (text : Text) :
    fullText lines text before.length =
      Statement.fullText text (rest.takeWhile Line.isContinuation) := by
  have hdrop : lines.drop (before.length + 1) = rest := by
    rw [hlines, List.append_cons]
    exact List.drop_left' (by simp)
  have htake : rest.take (rest.takeWhile Line.isContinuation).length =
      rest.takeWhile Line.isContinuation :=
    (List.prefix_iff_eq_take.mp (List.takeWhile_prefix _)).symm
  rw [fullText, consumedAfter_eq hlines hrecorded, hdrop, htake, Statement.fullText, foldl_addContinuation]

end Block

end CatchmentLint.Lines
