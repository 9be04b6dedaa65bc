import CatchmentLint.Proofs.Json.RoundTrip
import CatchmentLint.Report

/-!
# CatchmentLint.Proofs.Json.Report

What a report in JSON tells, read back from its text.

* `issueOf?` — the issue that an object holds, whatever the order of its members;
* `read?_render` — a report is an object with the path, the counts and the issues.
-/

namespace CatchmentLint

/-! ## Looking into values -/

namespace Json.Value

/-- The value under a name that an object holds once. -/
def member? (name : Text) : Value → Option Value
  | .object members =>
    match members.filter (·.1 = name) with
    | [member] => some member.2
    | _ => none
  | _ => none

def text? : Value → Option Text
  | .string s => some s
  | _ => none

def items? : Value → Option (List Value)
  | .array items => some items
  | _ => none

/-- The natural number, where the value is one. -/
def natural? : Value → Option Nat
  | .number d =>
    if d.negative = false ∧ 0 ≤ d.exponent then some (d.coefficient * 10 ^ d.exponent.toNat)
    else none
  | _ => none

theorem natural?_number (n : Nat) : natural? (.number ⟨false, n, 0⟩) = some n := by
  simp [natural?]

end Json.Value

namespace Report

open Json

/-- The issue that an object holds. -/
def issueOf? (v : Value) : Option Issue := do
  let line ← (v.member? "line".toList).bind Value.natural?
  let message ← (v.member? "message".toList).bind Value.text?
  let severity ← ((v.member? "severity".toList).bind Value.text?).bind Severity.ofText?
  let rule ← (v.member? "rule".toList).bind Value.text?
  return ⟨line, message, severity, rule⟩

/-! ## Reports -/

theorem itemValues_eq_map (items : List Json) : itemValues items = items.map Json.value := by
  induction items with
  | nil => rfl
  | cons item items ih => rw [itemValues, ih, List.map_cons]

theorem issueOf?_issueValue (i : Issue) : issueOf? (issueValue i).value = some i := by
  obtain ⟨line, message, severity, rule⟩ := i
  have hline : (issueValue ⟨line, message, severity, rule⟩).value.member? "line".toList =
      some (.number ⟨false, line, 0⟩) := rfl
  have hmessage : (issueValue ⟨line, message, severity, rule⟩).value.member? "message".toList =
      some (.string message) := rfl
  have hseverity : (issueValue ⟨line, message, severity, rule⟩).value.member? "severity".toList =
      some (.string severity.toText) := rfl
  have hrule : (issueValue ⟨line, message, severity, rule⟩).value.member? "rule".toList =
      some (.string rule) := rfl
  rw [issueOf?, hline, hmessage, hseverity, hrule]
  simp only [Option.bind_some, Value.natural?_number, Value.text?, Severity.ofText?_toText]
  rfl

/-- Every issue is an error or a warning. -/
theorem countP_isError_add_isWarning (issues : List Issue) :
    issues.countP Issue.isError + issues.countP Issue.isWarning = issues.length := by
  have hother : Issue.isWarning = fun i => decide ¬i.isError = true := by
    funext i
    unfold Issue.isWarning Issue.isError
    cases i.severity <;> rfl
  rw [hother, ← List.length_eq_countP_add_countP]

/-- The JSON text of a report, for any path and any issues, is an object with the path, the numbers of
the errors and the warnings, which add up to the number of issues, and an array from which every issue
is read back, in the order of the issues. -/
theorem read?_render (path : Text) (issues : List Issue) :
    ∃ report items, Json.read? (render .json path issues) = some report ∧
      (report.member? "file".toList).bind Value.text? = some path ∧
      (report.member? "issues".toList).bind Value.items? = some items ∧
      items.map issueOf? = issues.map some ∧
      (report.member? "errors".toList).bind Value.natural? = some (issues.countP Issue.isError) ∧
      (report.member? "warnings".toList).bind Value.natural? = some (issues.countP Issue.isWarning) ∧
      issues.countP Issue.isError + issues.countP Issue.isWarning = items.length := by
  have hitems : itemValues (issues.map issueValue) = issues.map fun i => (issueValue i).value := by
    rw [itemValues_eq_map, List.map_map]
    rfl
  refine ⟨(value path issues).value, issues.map fun i => (issueValue i).value, read?_toText _, rfl,
    ?_, ?_, ?_, ?_, ?_⟩
  · rw [← hitems]
    rfl
  · simp [issueOf?_issueValue]
  · exact Value.natural?_number _
  · exact Value.natural?_number _
  · rw [List.length_map, countP_isError_add_isWarning]

end Report

end CatchmentLint
