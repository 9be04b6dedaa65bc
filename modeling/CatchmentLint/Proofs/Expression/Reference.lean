import CatchmentLint.Expression.Shortcut
import CatchmentLint.Proofs.Expression.Lexeme

/-!
# CatchmentLint.Proofs.Expression.Reference

References, and those whose segments are names, as the shortcuts take them:

* `cutBrackets?_eq_some` — what is left of a reference without its brackets;
* `dottedProblem?_eq_none_iff` — what a fault in the dots of a reference is;
* `dottedProblem?_of_named` — a reference of names has none;
* `nodeProblem?_congr` and `thisProblem?_of_named` — what is found at a reference is decided by the
  text before the brackets, but for the text that a message repeats;
* `outputProblem?_eq_none_iff` — when nothing is wrong with an output.
-/

namespace CatchmentLint.Expression

/-! ## Names with dots between them -/

/-- The word `lead`, and then names, with a dot before each. -/
def Named (lead : Text) (names : List Text) (body : Text) : Prop :=
  ∃ tail, body = lead ++ '.' :: tail ∧ Text.splitOn '.' tail = names ∧
    ∀ name ∈ names, isName name = true

/-- A reference whose segments are names is put together of these. -/
theorem named_of_segmentsAfter? {lead : String} {names : List Text} {body : Text}
    (h : segmentsAfter? lead body = some names) (hnames : names.all isName = true) :
    Named lead.toList names body := by
  obtain ⟨tail, hlead, hsplit⟩ := Option.map_eq_some_iff.mp h
  refine ⟨tail, ?_, hsplit, List.all_eq_true.mp hnames⟩
  rw [Text.dropLead?_eq_some_iff.mp hlead]
  simp

theorem isWordChar_of_mem_name {name : Text} {c : Char} (h : isName name = true) (hc : c ∈ name) :
    Token.isWordChar c = true := by
  cases name with
  | nil => cases hc
  | cons d rest =>
      obtain ⟨hd, hrest⟩ := Bool.and_eq_true_iff.mp h
      cases List.mem_cons.mp hc with
      | inl heq => exact heq ▸ Token.isWordChar_of_isWordStart hd
      | inr hmem => exact List.all_eq_true.mp hrest c hmem

theorem ne_nil_of_isName {name : Text} (h : isName name = true) : name ≠ [] := by
  rintro rfl
  exact absurd h (by decide)

/-- A name has no dot. -/
theorem dot_notMem_of_isName {name : Text} (h : isName name = true) : '.' ∉ name := fun hmem =>
  absurd (isWordChar_of_mem_name h hmem) (by decide)

theorem isDottedChar_of_mem_tail {tail : Text}
    (h : ∀ name ∈ Text.splitOn '.' tail, isName name = true) {c : Char} (hc : c ∈ tail) :
    Token.isDottedChar c = true := by
  by_cases hdot : c = '.'
  · subst hdot
    decide
  · obtain ⟨name, hname, hmem⟩ := Text.exists_mem_splitOn hc hdot
    exact Token.isDottedChar_of_isWordChar (isWordChar_of_mem_name (h name hname) hmem)

theorem dot_notMem_of_mem_leads {lead : Text} (h : lead ∈ Token.leads) : '.' ∉ lead := by
  obtain ⟨-, -, -, -, -, -, -, hword⟩ := Token.eq_cons_of_mem_leads h
  exact fun hmem => absurd (hword '.' hmem) (by decide)

/-- Before its clause a reference has no bracket. -/
theorem bracket_notMem_of_dotted {lead tail : Text} (hlead : lead ∈ Token.leads)
    (htail : ∀ c ∈ tail, Token.isDottedChar c = true) : '[' ∉ lead ++ '.' :: tail := by
  obtain ⟨-, -, -, -, -, -, -, hword⟩ := Token.eq_cons_of_mem_leads hlead
  intro hmem
  simp only [List.mem_append, List.mem_cons] at hmem
  rcases hmem with hmem | hmem | hmem
  · exact absurd (hword '[' hmem) (by decide)
  · exact absurd hmem (by decide)
  · exact absurd (htail '[' hmem) (by decide)

/-- A reference has a fault in its dots just where nothing stands between two of them or behind the
last one. -/
theorem dottedProblem?_eq_none_iff {label lead tail reference : Text} (hlead : lead ∈ Token.leads)
    (hbody : Reference.withoutBrackets reference = lead ++ '.' :: tail) :
    Reference.dottedProblem? label lead reference = none ↔ [] ∉ Text.splitOn '.' tail := by
  have hdrop : (Text.dropLead? lead (lead ++ '.' :: tail)).getD (lead ++ '.' :: tail) = '.' :: tail := by
    rw [Text.dropLead?_eq_some_iff.mpr rfl]
    rfl
  have hpieces : [] ∈ Text.splitOn '.' tail ↔
      Text.hasPart ['.', '.'] (lead ++ '.' :: tail) = true ∨
        (lead ++ '.' :: tail).getLast? = some '.' := by
    have hdot := dot_notMem_of_mem_leads hlead
    obtain ⟨c, word, rfl, -⟩ := Token.eq_cons_of_mem_leads hlead
    have hc : c ≠ '.' := fun heq => hdot (heq ▸ List.mem_cons_self)
    have hwhole := Text.nil_mem_splitOn_iff (c := '.') (s := c :: word ++ '.' :: tail)
    rw [Text.splitOn_append_cons, Text.splitOn_of_notMem hdot] at hwhole
    simpa [hc, Text.hasPart_iff] using hwhole
  unfold Reference.dottedProblem?
  simp only [hbody, hdrop]
  by_cases htail : tail = []
  · subst htail
    simp [Text.splitOn]
  · rw [if_neg (by simp [htail]), hpieces, not_or]
    split
    · next hdots => simp [hdots]
    · next hdots =>
        split
        · next hlast => simp [hlast]
        · next hlast => exact ⟨fun _ => ⟨hdots, hlast⟩, fun _ => rfl⟩

section Named

variable {lead body : Text} {names : List Text} (h : Named lead names body) (hlead : lead ∈ Token.leads)

include h hlead

/-- Such a reference has no bracket in it. -/
theorem bracket_notMem_of_named : '[' ∉ body := by
  obtain ⟨tail, rfl, rfl, hnames⟩ := h
  exact bracket_notMem_of_dotted hlead fun _ => isDottedChar_of_mem_tail hnames

/-- It has no fault in its dots. -/
theorem dottedProblem?_of_named {label reference : Text}
    (hbody : Reference.withoutBrackets reference = body) :
    Reference.dottedProblem? label lead reference = none := by
  obtain ⟨tail, rfl, rfl, hnames⟩ := h
  exact (dottedProblem?_eq_none_iff hlead hbody).mpr fun hnil => ne_nil_of_isName (hnames [] hnil) rfl

end Named

/-! ## Brackets -/

/-- A reference without brackets stays as it is. -/
theorem withoutBrackets_of_notMem {reference : Text} (h : '[' ∉ reference) :
    Reference.withoutBrackets reference = reference := by
  rw [Reference.withoutBrackets, if_neg (fun hand => h hand.1)]

/-- A clause that closes at the end is taken off. -/
theorem withoutBrackets_bracketed {body inner : Text} (hbody : '[' ∉ body)
    (hinner : inner.getLast? = some ']') :
    Reference.withoutBrackets (body ++ '[' :: inner) = body := by
  have hlast : (body ++ '[' :: inner).getLast? = some ']' := by
    obtain ⟨before, hbefore⟩ := List.getLast?_eq_some_iff.mp hinner
    exact List.getLast?_eq_some_iff.mpr ⟨body ++ '[' :: before, by simp [hbefore]⟩
  rw [Reference.withoutBrackets, if_pos ⟨by simp, hlast⟩]
  refine takeWhile_append_of_startsOutside ?_ ?_
  · intro c hc
    simp only [bne_iff_ne]
    rintro rfl
    exact hbody hc
  · intro c hc
    cases hc
    decide

/-- What the shortcut leaves of a reference: all of it, or what stands before a clause in brackets
that closes somewhere and after which something may follow. -/
theorem cutBrackets?_eq_some {t body : Text} (h : cutBrackets? t = some body) :
    t = body ∨ ∃ clause rest, t = body ++ '[' :: (clause ++ ']' :: rest) ∧ '[' ∉ body ∧
      ']' ∉ clause ∧ (clause ++ ']' :: rest).getLast? = some ']' := by
  unfold cutBrackets? at h
  split at h
  · exact .inl (Option.some.inj h)
  · next before inner hcut =>
      split at h
      · next hinner =>
          cases h
          obtain ⟨rfl, hbody⟩ := Text.cut?_eq_some_iff.mp hcut
          cases hclause : Text.cut? ']' inner with
          | none =>
              exact absurd (List.mem_of_getLast? hinner.1) (Text.cut?_eq_none_iff.mp hclause)
          | some parts =>
              obtain ⟨heq, hnotMem⟩ := Text.cut?_eq_some_iff.mp hclause
              refine .inr ⟨parts.1, parts.2, ?_, hbody, hnotMem, ?_⟩
              · rw [← heq]
              · rw [← heq]
                exact hinner.1
      · contradiction

/-- The shortcuts and the check take the same clause off. -/
theorem withoutBrackets_of_cutBrackets? {t body : Text} (h : cutBrackets? t = some body)
    (hbody : '[' ∉ body) : Reference.withoutBrackets t = body := by
  rcases cutBrackets?_eq_some h with rfl | ⟨clause, rest, rfl, -, -, hlast⟩
  · exact withoutBrackets_of_notMem hbody
  · exact withoutBrackets_bracketed hbody hlast

/-! ## The references of the shortcuts -/

/-- What a shortcut accepts has the segments that it asks for. -/
theorem exists_segments {lead : String} {names? : List Text → Bool} {body? : Option Text}
    (h : (body?.bind (segmentsAfter? lead)).any names? = true) :
    ∃ body names, body? = some body ∧ segmentsAfter? lead body = some names ∧
      names? names = true := by
  obtain ⟨names, hbind, hp⟩ := (Option.any_eq_true _ _).mp h
  obtain ⟨body, hbody, hsegments⟩ := Option.bind_eq_some_iff.mp hbind
  exact ⟨body, names, hbody, hsegments, hp⟩

/-- A reference to data that is taken for one has names behind its word. -/
theorem named_of_isDataReference {t : Text} (h : isDataReference t = true) :
    ∃ body names, cutBrackets? t = some body ∧ Named "data".toList names body := by
  obtain ⟨body, names, hcut, hsegments, hnames⟩ := exists_segments h
  exact ⟨body, names, hcut, named_of_segmentsAfter? hsegments hnames⟩

/-- A reference to a constant that is taken for one has names behind its word, and no clause. -/
theorem named_of_isConstantReference {t : Text} (h : isConstantReference t = true) :
    ∃ names, Named "c".toList names t := by
  have hsome : ((some t).bind (segmentsAfter? "c")).any (·.all isName) = true := h
  obtain ⟨body, names, hbody, hsegments, hnames⟩ := exists_segments hsome
  cases hbody
  exact ⟨names, named_of_segmentsAfter? hsegments hnames⟩

/-- A reference to a node that is taken for one has two names behind its word. -/
theorem named_of_isNodeReference {t : Text} (h : isNodeReference t = true) :
    ∃ body name output, cutBrackets? t = some body ∧ Named "node".toList [name, output] body := by
  obtain ⟨body, names, hcut, hsegments, hnames⟩ := exists_segments h
  obtain ⟨hlength, hnames⟩ := Bool.and_eq_true_iff.mp hnames
  match names, hlength with
  | [name, output], _ => exact ⟨body, name, output, hcut, named_of_segmentsAfter? hsegments hnames⟩

/-- A reference to the node itself that is taken for one has one name behind its word. -/
theorem named_of_isThisReference {t : Text} (h : isThisReference t = true) :
    ∃ body output, cutBrackets? t = some body ∧ Named "this".toList [output] body := by
  obtain ⟨body, names, hcut, hsegments, hnames⟩ := exists_segments h
  obtain ⟨hlength, hnames⟩ := Bool.and_eq_true_iff.mp hnames
  match names, hlength with
  | [output], _ => exact ⟨body, output, hcut, named_of_segmentsAfter? hsegments hnames⟩

/-! ## What a reference names -/

/-- A node's name and its output are split just where there are two segments. -/
theorem splitNode?_eq_some_iff {body name output : Text} :
    Reference.splitNode? body = some (name, output) ↔
      body = "node.".toList ++ (name ++ '.' :: output) ∧ name ≠ [] ∧ output ≠ [] ∧ '.' ∉ name ∧
        '.' ∉ output := by
  unfold Reference.splitNode?
  constructor
  · intro h
    split at h
    · contradiction
    · next rest hrest =>
      split at h
      · contradiction
      · next name' output' hcut =>
        split at h
        · contradiction
        · next hparts =>
          cases h
          obtain rfl := Text.dropLead?_eq_some_iff.mp hrest
          obtain ⟨rfl, hname⟩ := Text.cut?_eq_some_iff.mp hcut
          obtain ⟨hne, hne', hdot⟩ := by simpa only [not_or] using hparts
          exact ⟨rfl, hne, hne', hname, hdot⟩
  · rintro ⟨rfl, hname, houtput, hdot, hdot'⟩
    rw [Text.dropLead?_eq_some_iff.mpr rfl]
    simp only [Text.cut?_eq_some_iff.mpr ⟨rfl, hdot⟩]
    exact if_neg (by simp [hname, houtput, hdot'])

/-- A node reference of two names has a name and an output. -/
theorem splitNode?_of_named {name output body : Text}
    (h : Named "node".toList [name, output] body) :
    Reference.splitNode? body = some (name, output) := by
  obtain ⟨tail, rfl, hsplit, hnames⟩ := h
  have hname : isName name = true := hnames name (by simp)
  have houtput : isName output = true := hnames output (by simp)
  have htail : tail = name ++ '.' :: output := by
    rw [← Text.intercalate_splitOn '.' tail, hsplit]
    simp [List.intercalate]
  refine splitNode?_eq_some_iff.mpr ⟨?_, ne_nil_of_isName hname, ne_nil_of_isName houtput,
    dot_notMem_of_isName hname, dot_notMem_of_isName houtput⟩
  rw [htail]
  rfl

/-- What is found at a node reference depends on the text before the brackets alone. -/
theorem nodeProblem?_congr {context : Context} {name output body reference other : Text}
    (h : Named "node".toList [name, output] body)
    (hreference : Reference.withoutBrackets reference = body)
    (hother : Reference.withoutBrackets other = body) :
    Reference.nodeProblem? context reference = Reference.nodeProblem? context other := by
  have hmem : "node".toList ∈ Token.leads := by decide
  unfold Reference.nodeProblem?
  rw [dottedProblem?_of_named h hmem hreference, dottedProblem?_of_named h hmem hother]
  simp only [Reference.resolve, hreference, hother, splitNode?_of_named h]
  rfl

/-! ## Outputs -/

/-- What can be wrong with an output is that the type of its node does not have it. -/
theorem exists_outputNotAllowed {schema : Schema} {node : Section} {output : Text} {p : Reference.Problem}
    (h : Reference.outputProblem? schema node output = some p) :
    ∃ typeName type, node.nodeType? = some typeName ∧ schema.nodeType? typeName = some type ∧
      type.outputs ≠ [] ∧ output ∉ type.outputs ∧
        p = .outputNotAllowed output typeName type.outputs := by
  unfold Reference.outputProblem? at h
  split at h
  · contradiction
  · next typeName htype =>
      split at h
      · contradiction
      · next type hknown =>
          split at h
          · contradiction
          · next hallowed =>
              rw [not_or, NodeType.allowsOutput, List.contains_iff_mem] at hallowed
              exact ⟨typeName, type, htype, hknown, hallowed.1, hallowed.2, (Option.some.inj h).symm⟩

/-- Nothing is wrong with an output where the type of the node is not known, lists no outputs, or lists
this one. -/
theorem outputProblem?_eq_none_iff {schema : Schema} {node : Section} {output : Text} :
    Reference.outputProblem? schema node output = none ↔
      ∀ typeName type, node.nodeType? = some typeName → schema.nodeType? typeName = some type →
        type.outputs = [] ∨ output ∈ type.outputs := by
  constructor
  · intro h typeName type htype hknown
    simp only [Reference.outputProblem?, htype, hknown] at h
    split at h
    · next hallowed => simpa [NodeType.allowsOutput] using hallowed
    · contradiction
  · intro h
    cases hproblem : Reference.outputProblem? schema node output with
    | none => rfl
    | some p =>
        obtain ⟨typeName, type, htype, hknown, houtputs, houtput, -⟩ := exists_outputNotAllowed hproblem
        exact absurd (h typeName type htype hknown) (not_or.mpr ⟨houtputs, houtput⟩)

/-- What is found at `this` with something behind its dot depends on that and the node alone, within
a node. -/
theorem thisProblem?_of_ne_nil {context : Context} {tail reference : Text} (htail : tail ≠ [])
    (hreference : Reference.withoutBrackets reference = "this".toList ++ '.' :: tail) :
    Reference.thisProblem? context reference =
      match context with
      | .node _ schema self => Reference.outputProblem? schema self tail
      | _ => some (.outsideNode reference) := by
  have hlead : Text.dropLead? "this.".toList ("this".toList ++ '.' :: tail) = some tail :=
    Text.dropLead?_eq_some_iff.mpr rfl
  unfold Reference.thisProblem?
  rw [hreference, hlead]
  cases tail with
  | nil => exact absurd rfl htail
  | cons c rest => rfl

/-- So it does of `this` with one name. -/
theorem thisProblem?_of_named {context : Context} {output body reference : Text}
    (h : Named "this".toList [output] body)
    (hreference : Reference.withoutBrackets reference = body) :
    Reference.thisProblem? context reference =
      match context with
      | .node _ schema self => Reference.outputProblem? schema self output
      | _ => some (.outsideNode reference) := by
  obtain ⟨tail, rfl, hsplit, hnames⟩ := h
  have hne := ne_nil_of_isName (hnames output (by simp))
  obtain rfl := Text.eq_of_splitOn_eq_singleton hsplit
  exact thisProblem?_of_ne_nil hne hreference

end CatchmentLint.Expression
