import CatchmentLint.Expression.Validator
import CatchmentLint.Proofs.Expression.Messages
import CatchmentLint.Proofs.Expression.Numeral
import CatchmentLint.Proofs.Expression.Reference
import CatchmentLint.Proofs.Expression.Walk

/-!
# CatchmentLint.Proofs.Expression.Shortcut

Where the shortcuts say what the walk over the tokens says, and where they do not.

* `checkTokens_operand` — after an operand the walk goes on alike, whatever the operand was;
* `check_bracketed` — a reference ends at its first closing bracket, for the walk;
* `messages_reference_iff` — for the shortcuts it may go on, which is where the two come apart;
* `messages_plainNumber_iff` — as they do where a number has digits of another script.
-/

namespace CatchmentLint.Expression

/-! ## An operand and what follows it -/

/-- The operand of which nothing is found. -/
def zeroToken : Token := ⟨.number, ['0'], 0⟩

theorem isOperandKind_of_referenceKind? {lead : Text} {kind : TokenKind}
    (h : Token.referenceKind? lead = some kind) : isOperandKind kind = true := by
  unfold Token.referenceKind? at h
  grind [isOperandKind]

variable {context : Context}

/-- What is found at an operand that opens an expression stands before what is found after it,
and the walk goes on as after any other operand. -/
theorem checkTokens_operand {t : Token} {tokens : List Token} (ht : isOperandKind t.kind = true) :
    checkTokens context (t :: tokens) =
      referenceFindings context t ++ checkTokens context (zeroToken :: tokens) := by
  have hzero : referenceFindings context zeroToken = [] := rfl
  unfold checkTokens walkExpression
  rw [walkOperand_operand ht, walkOperand_operand (by rfl : isOperandKind zeroToken.kind = true), hzero]
  simp only [Walk.after, Walk.done, Walk.andThen, List.append_nil, List.nil_append]
  split
  · simp
  · simp
  · split
    · rfl
    · simp

theorem checkTokens_single {t : Token} {position : Nat} (ht : isOperandKind t.kind = true) :
    checkTokens context [t, ⟨.eof, [], position⟩] = referenceFindings context t := by
  rw [checkTokens_operand ht]
  have hzero : checkTokens context [zeroToken, ⟨.eof, [], position⟩] = [] := rfl
  rw [hzero, List.append_nil]

/-! ## Operands blanked out -/

/-- A zero and blanks, which take the place of an operand. -/
def blankedOut (operand : Text) : Text := '0' :: List.replicate (Text.utf8Size operand - 1) ' '

theorem readFrom_spaces (position count : Nat) (s : Text) :
    Token.readFrom position (List.replicate count ' ' ++ s) = Token.readFrom (position + count) s := by
  induction count generalizing position with
  | zero => rfl
  | succ count ih =>
      rw [List.replicate_succ, List.cons_append, Token.readFrom_blank _ _ (by decide), ih]
      congr 1
      have hsize : ' '.utf8Size = 1 := by decide
      omega

/-- After a zero and blanks the tokens are those that would follow the operand. -/
theorem check_blankedOut {operand rest : Text} (hsize : 2 ≤ Text.utf8Size operand) :
    check context (blankedOut operand ++ rest) =
      match Token.readFrom (Text.utf8Size operand) rest with
      | .error e => [.syntaxError (.lexical e)]
      | .ok tokens => checkTokens context (zeroToken :: tokens) := by
  obtain ⟨count, hcount⟩ : ∃ count, Text.utf8Size operand = count + 2 := Nat.exists_eq_add_of_le' hsize
  have hblanked : blankedOut operand ++ rest = ['0'] ++ (List.replicate (count + 1) ' ' ++ rest) := by
    simp [blankedOut, hcount]
  have hlexeme : Token.readLexeme 0 '0' ([] ++ (List.replicate (count + 1) ' ' ++ rest)) =
      .ok (.number, ['0']) := by
    rfl
  have hread := Token.readFrom_lexeme (by decide) hlexeme
  rw [readFrom_spaces, show 0 + Text.utf8Size ['0'] + (count + 1) = Text.utf8Size operand by
    rw [hcount, show Text.utf8Size ['0'] = 1 by decide]; omega] at hread
  unfold check Token.readAll
  rw [hblanked, hread]
  cases Token.readFrom (Text.utf8Size operand) rest with
  | error e => rfl
  | ok tokens => rfl

/-! ## References -/

section Reference

variable {lead body clause rest : Text} {names : List Text} {kind : TokenKind}
  (hkind : Token.referenceKind? lead = some kind) (h : Named lead names body)

include hkind h

/-- A reference without brackets is checked as one token. -/
theorem check_plain : check context body = referenceFindings context ⟨kind, body, 0⟩ := by
  obtain ⟨tail, rfl, rfl, hnames⟩ := h
  unfold check Token.readAll
  rw [Token.readFrom_plain hkind fun c hc => isDottedChar_of_mem_tail hnames hc]
  exact checkTokens_single (isOperandKind_of_referenceKind? hkind)

/-- A reference with brackets is checked as the token up to the first bracket that closes, and the
text after that as the tokens after an operand. -/
theorem check_bracketed (hbrackets : Token.takesBrackets kind = true) (hclause : ']' ∉ clause) :
    check context (body ++ '[' :: (clause ++ ']' :: rest)) =
      match Token.readFrom (Text.utf8Size (body ++ '[' :: clause ++ [']'])) rest with
      | .error e => [.syntaxError (.lexical e)]
      | .ok tokens => referenceFindings context ⟨kind, body ++ '[' :: clause ++ [']'], 0⟩ ++
          checkTokens context (zeroToken :: tokens) := by
  obtain ⟨tail, rfl, rfl, hnames⟩ := h
  have hread : Token.readFrom 0 (lead ++ '.' :: tail ++ '[' :: clause ++ ']' :: rest) = _ :=
    Token.readFrom_bracketed hkind hbrackets (fun c hc => isDottedChar_of_mem_tail hnames hc) hclause
  rw [Nat.zero_add] at hread
  have htext : lead ++ '.' :: tail ++ '[' :: (clause ++ ']' :: rest) =
      lead ++ '.' :: tail ++ '[' :: clause ++ ']' :: rest := by simp
  unfold check Token.readAll
  rw [htext, hread]
  cases Token.readFrom (Text.utf8Size (lead ++ '.' :: tail ++ '[' :: clause ++ [']'])) rest with
  | error e => rfl
  | ok tokens => exact checkTokens_operand (isOperandKind_of_referenceKind? hkind)

theorem takeWhile_named : body.takeWhile Token.isWordChar = lead := by
  obtain ⟨tail, rfl, rfl, -⟩ := h
  obtain ⟨-, -, -, -, -, -, -, hword⟩ :=
    Token.eq_cons_of_mem_leads (Token.mem_leads_of_referenceKind? hkind)
  refine takeWhile_append_of_startsOutside hword ?_
  intro c hc
  cases hc
  decide

end Reference

/-! ## Messages -/

theorem message_reference (p : Reference.Problem) : (Diagnostic.reference p).message = p.message := rfl

theorem referenceFindings_ne_lexical (t : Token) (e : LexError) :
    (referenceFindings context t).map Diagnostic.message ≠ [e.message] := by
  intro heq
  have hmem : e.message ∈ (referenceFindings context t).map Diagnostic.message := by
    rw [heq]
    exact List.mem_singleton_self _
  obtain ⟨d, hd, hmessage⟩ := List.mem_map.mp hmem
  obtain ⟨p, rfl⟩ := exists_problem_of_mem_referenceFindings hd
  exact message_ne_of_isFinding rfl (.lexical e) hmessage

theorem outsideNode_message_inj {r r' : Text}
    (h : (Reference.Problem.outsideNode r).message = (Reference.Problem.outsideNode r').message) :
    r = r' := by
  obtain ⟨front, hmessage⟩ : ∃ front : Text, ∀ r, (Reference.Problem.outsideNode r).message =
      front ++ r ++ ['\''] := ⟨_, fun _ => rfl⟩
  rw [hmessage, hmessage] at h
  exact List.append_cancel_left (List.append_cancel_right h)

/-! ## Going on after the brackets -/

/-- Some digit of the text is of another script than ASCII. -/
def HasForeignDigit (t : Text) : Prop := ∃ c ∈ t, Unicode.isDigit c = true ∧ c.isDigit = false

/-- The text is taken for one reference, but goes on after the first clause in brackets of it, and
something is found there that the shortcut does not see; or the message repeats the reference. -/
def RunsOn (context : Context) (t : Text) : Prop :=
  ∃ reference clause rest, t = reference ++ '[' :: (clause ++ ']' :: rest) ∧
    '[' ∉ reference ∧ ']' ∉ clause ∧ rest ≠ [] ∧
    (isDataReference t = true ∨ isNodeReference t = true ∨ isThisReference t = true) ∧
    (check context (blankedOut (reference ++ '[' :: clause ++ [']']) ++ rest) ≠ [] ∨
      isThisReference t = true ∧ ∀ m schema self, context ≠ .node m schema self)

/-- The shortcuts go beyond one operand of the grammar. -/
def Overreaches (context : Context) (t : Text) : Prop :=
  isPlainNumber t = true ∧ HasForeignDigit t ∨ RunsOn context t

section Reference

variable {lead body clause rest : Text} {names : List Text} {kind : TokenKind}
  (hkind : Token.referenceKind? lead = some kind) (h : Named lead names body)
  (hbrackets : Token.takesBrackets kind = true) (hclause : ']' ∉ clause)

include hkind h hbrackets hclause

/-- Where as much is found at the reference up to its first closing bracket as at the whole text,
the two are told apart by what is found after that bracket, and by the messages. -/
theorem messages_check_bracketed_iff {t : Text}
    (ht : t = body ++ '[' :: (clause ++ ']' :: rest))
    (hlength : (referenceFindings context ⟨kind, body ++ '[' :: clause ++ [']'], 0⟩).length =
      (referenceFindings context ⟨kind, t, 0⟩).length) :
    (check context t).map Diagnostic.message =
        (referenceFindings context ⟨kind, t, 0⟩).map Diagnostic.message ↔
      check context (blankedOut (body ++ '[' :: clause ++ [']']) ++ rest) = [] ∧
        (referenceFindings context ⟨kind, body ++ '[' :: clause ++ [']'], 0⟩).map Diagnostic.message =
          (referenceFindings context ⟨kind, t, 0⟩).map Diagnostic.message := by
  have hsize : 2 ≤ Text.utf8Size (body ++ '[' :: clause ++ [']']) := by
    have hopen : '['.utf8Size = 1 := by decide
    have hclose : ']'.utf8Size = 1 := by decide
    simp only [Text.utf8Size_append, Text.utf8Size, hopen, hclose]
    omega
  have hcheck : check context (body ++ '[' :: (clause ++ ']' :: rest)) = _ :=
    check_bracketed hkind h hbrackets hclause
  rw [← ht] at hcheck
  rw [check_blankedOut hsize, hcheck]
  cases Token.readFrom (Text.utf8Size (body ++ '[' :: clause ++ [']'])) rest with
  | error e =>
      constructor
      · intro heq
        exact absurd heq.symm (referenceFindings_ne_lexical _ e)
      · rintro ⟨hnil, -⟩
        contradiction
  | ok tokens =>
      simp only [List.map_append]
      constructor
      · intro heq
        obtain ⟨hfront, hback⟩ := List.append_inj (heq.trans (List.append_nil _).symm) (by simpa using hlength)
        exact ⟨List.map_eq_nil_iff.mp hback, hfront⟩
      · rintro ⟨hnil, hfront⟩
        rw [hnil, hfront, List.map_nil, List.append_nil]

end Reference

theorem not_runsOn_of_notMem {t : Text} (h : '[' ∉ t) : ¬RunsOn context t := by
  rintro ⟨reference, clause, rest, rfl, -⟩
  exact h (by simp)

/-- A text has one first clause in brackets. -/
theorem runsOn_iff {t body clause rest : Text} (ht : t = body ++ '[' :: (clause ++ ']' :: rest))
    (hbody : '[' ∉ body) (hclause : ']' ∉ clause) :
    RunsOn context t ↔ rest ≠ [] ∧
      (isDataReference t = true ∨ isNodeReference t = true ∨ isThisReference t = true) ∧
      (check context (blankedOut (body ++ '[' :: clause ++ [']']) ++ rest) ≠ [] ∨
        isThisReference t = true ∧ ∀ m schema self, context ≠ .node m schema self) := by
  constructor
  · rintro ⟨body', clause', rest', ht', hbody', hclause', h⟩
    have hcut := Text.cut?_eq_some_iff.mpr ⟨ht, hbody⟩
    rw [Text.cut?_eq_some_iff.mpr ⟨ht', hbody'⟩, Option.some.injEq, Prod.mk.injEq] at hcut
    obtain ⟨rfl, hinner⟩ := hcut
    have hcut := Text.cut?_eq_some_iff.mpr ⟨hinner, hclause⟩
    rw [Text.cut?_eq_some_iff.mpr ⟨rfl, hclause'⟩, Option.some.injEq, Prod.mk.injEq] at hcut
    obtain ⟨rfl, rfl⟩ := hcut
    exact h
  · intro h
    exact ⟨body, clause, rest, ht, hbody, hclause, h⟩

/-- Whether the shortcut for one kind of reference says what the walk says.  What it finds may
depend on the brackets in the message about `this` outside of a node, and nowhere else. -/
theorem messages_reference_iff {lead t body : Text} {names : List Text} {kind : TokenKind}
    (hkind : Token.referenceKind? lead = some kind) (hbrackets : Token.takesBrackets kind = true)
    (hcut : cutBrackets? t = some body) (h : Named lead names body)
    (href : isDataReference t = true ∨ isNodeReference t = true ∨ isThisReference t = true)
    (hlength : ∀ r r', Reference.withoutBrackets r = body → Reference.withoutBrackets r' = body →
      (referenceFindings context ⟨kind, r, 0⟩).length =
        (referenceFindings context ⟨kind, r', 0⟩).length)
    (hmessages : ∀ r r', Reference.withoutBrackets r = body → Reference.withoutBrackets r' = body →
      r ≠ r' → ((referenceFindings context ⟨kind, r, 0⟩).map Diagnostic.message =
          (referenceFindings context ⟨kind, r', 0⟩).map Diagnostic.message ↔
        ¬(isThisReference t = true ∧ ∀ m schema self, context ≠ .node m schema self))) :
    (referenceFindings context ⟨kind, t, 0⟩).map Diagnostic.message =
        (check context t).map Diagnostic.message ↔ ¬RunsOn context t := by
  have hlead := Token.mem_leads_of_referenceKind? hkind
  have hnotMem := bracket_notMem_of_named h hlead
  have hwhole := withoutBrackets_of_cutBrackets? hcut hnotMem
  -- Without brackets the walk finds the same; with them it may go on behind the first one.
  rcases cutBrackets?_eq_some hcut with rfl | ⟨clause, rest, ht, hbody, hclause, -⟩
  · rw [check_plain hkind h]
    simp [not_runsOn_of_notMem hnotMem]
  · rw [runsOn_iff ht hbody hclause]
    by_cases hrest : rest = []
    · subst hrest
      have hcheck : check context (body ++ '[' :: (clause ++ [']'])) = _ :=
        check_bracketed hkind h hbrackets hclause
      rw [Token.readFrom_nil, ← ht] at hcheck
      have hzero : checkTokens context [zeroToken, ⟨.eof, [], Text.utf8Size t⟩] = [] := rfl
      have htoken : body ++ '[' :: clause ++ [']'] = t := by rw [ht]; simp
      simp only [htoken, hzero, List.append_nil] at hcheck
      simp [hcheck]
    · have htoken : Reference.withoutBrackets (body ++ '[' :: clause ++ [']']) = body := by
        rw [List.append_assoc]
        exact withoutBrackets_bracketed hbody (by simp)
      have hne : body ++ '[' :: clause ++ [']'] ≠ t := by
        intro heq
        rw [ht] at heq
        simp [hrest] at heq
      rw [eq_comm, messages_check_bracketed_iff hkind h hbrackets hclause ht (hlength _ _ htoken hwhole),
        hmessages _ _ htoken hwhole hne]
      simp only [ne_eq, hrest, not_false_eq_true, href, true_and, not_or, Classical.not_not]

/-! ## The shortcuts one by one -/

theorem bracket_notMem_of_isPlainNumber {t : Text} (h : isPlainNumber t = true) : '[' ∉ t := by
  obtain ⟨sign, whole, fraction, exponent, rfl, hsign, hnumeral⟩ := exists_numeral_of_isPlainNumber h
  intro hmem
  cases List.mem_append.mp hmem with
  | inl hmem => rcases hsign with rfl | rfl <;> simp at hmem
  | inr hmem =>
      cases hnumeral.mem hmem with
      | inl hdigit => exact absurd hdigit (by decide)
      | inr hother => exact absurd hother (by decide)

/-- A text with a digit of another script has no tokens, unless that stands in brackets. -/
theorem check_ne_nil_of_hasForeignDigit {t : Text} (h : HasForeignDigit t) (ht : '[' ∉ t) :
    check context t ≠ [] := by
  obtain ⟨c, hc, hdigit, hforeign⟩ := h
  unfold check Token.readAll
  cases hread : Token.readFrom 0 t with
  | error e => simp
  | ok tokens =>
      cases Token.readFrom_chars ht hread hc with
      | inl hblank =>
          rw [isBlank_of_isUnicodeDigit hdigit] at hblank
          contradiction
      | inr htoken =>
          rw [isTokenChar_of_foreign hdigit hforeign] at htoken
          contradiction

/-- A numeral in ASCII digits, be there a minus before it or not, is a number to the walk. -/
theorem check_numeral {sign whole fraction exponent : Text} (hsign : sign = [] ∨ sign = ['-'])
    (h : Numeral Char.isDigit whole fraction exponent) :
    check context (sign ++ (whole ++ fraction ++ exponent)) = [] := by
  unfold check Token.readAll
  rcases hsign with rfl | rfl
  · rw [List.nil_append, readFrom_numeral h]
    rfl
  · obtain ⟨c, rest, htext⟩ := List.exists_cons_of_ne_nil
      (show whole ++ fraction ++ exponent ≠ [] by simp [h.whole.1])
    have hminus : Token.readLexeme 0 '-' ([] ++ (whole ++ fraction ++ exponent)) =
        .ok (.operator, ['-']) := by
      rw [htext]
      simp [Token.readLexeme, Token.startsNumber, Token.isWordStart, Token.isOperatorChar,
        Token.operatorText, Token.isOperatorPair]
    rw [Token.readFrom_lexeme (by decide) hminus, readFrom_numeral h]
    rfl

/-- A number is checked alike if its digits are ASCII; any other has no tokens. -/
theorem messages_plainNumber_iff {t : Text} (h : isPlainNumber t = true) :
    [] = (check context t).map Diagnostic.message ↔ ¬HasForeignDigit t := by
  rw [eq_comm, List.map_eq_nil_iff]
  constructor
  · intro hcheck hforeign
    exact check_ne_nil_of_hasForeignDigit hforeign (bracket_notMem_of_isPlainNumber h) hcheck
  · intro hforeign
    obtain ⟨sign, whole, fraction, exponent, rfl, hsign, hnumeral⟩ := exists_numeral_of_isPlainNumber h
    refine check_numeral hsign (hnumeral.mono fun c hc hdigit => ?_)
    cases hascii : c.isDigit with
    | true => rfl
    | false => exact absurd ⟨c, List.mem_append_right _ hc, hdigit, hascii⟩ hforeign

/-- A reference opens with one word. -/
theorem isThisReference_of_named {lead t body : Text} {names : List Text} {kind : TokenKind}
    (hcut : cutBrackets? t = some body) (hkind : Token.referenceKind? lead = some kind)
    (h : Named lead names body) (hlead : lead ≠ "this".toList) : ¬isThisReference t = true := by
  intro hthis
  obtain ⟨body', output, hcut', h'⟩ := named_of_isThisReference hthis
  rw [hcut, Option.some.injEq] at hcut'
  subst hcut'
  have hkind' : Token.referenceKind? "this".toList = some .thisRef := by decide
  exact hlead ((takeWhile_named hkind h).symm.trans (takeWhile_named hkind' h'))

theorem messages_dataReference_iff {t : Text} (h : isDataReference t = true) :
    [] = (check context t).map Diagnostic.message ↔ ¬RunsOn context t := by
  obtain ⟨body, names, hcut, hnamed⟩ := named_of_isDataReference h
  have hkind : Token.referenceKind? "data".toList = some .dataRef := by decide
  have hlead := Token.mem_leads_of_referenceKind? hkind
  have hthis := isThisReference_of_named hcut hkind hnamed (by decide)
  have hnil : ∀ r, Reference.withoutBrackets r = body →
      referenceFindings context ⟨.dataRef, r, 0⟩ = [] := by
    intro r hr
    unfold referenceFindings
    simp only [dottedProblem?_of_named hnamed hlead hr]
    rfl
  have hiff : List.map _ _ = (check context t).map Diagnostic.message ↔ ¬RunsOn context t :=
    messages_reference_iff hkind rfl hcut hnamed (.inl h)
    (fun r r' hr hr' => by rw [hnil r hr, hnil r' hr'])
    (fun r r' hr hr' _ => by simp [hnil r hr, hnil r' hr', hthis])
  rwa [hnil t (withoutBrackets_of_cutBrackets? hcut (bracket_notMem_of_named hnamed hlead))] at hiff

theorem check_constantReference {t : Text} (h : isConstantReference t = true) :
    check context t = [] ∧ ¬RunsOn context t := by
  obtain ⟨names, hnamed⟩ := named_of_isConstantReference h
  have hkind : Token.referenceKind? "c".toList = some .constRef := by decide
  have hlead := Token.mem_leads_of_referenceKind? hkind
  have hnotMem := bracket_notMem_of_named hnamed hlead
  refine ⟨?_, not_runsOn_of_notMem hnotMem⟩
  rw [check_plain hkind hnamed]
  unfold referenceFindings
  simp only [dottedProblem?_of_named hnamed hlead (withoutBrackets_of_notMem hnotMem)]
  rfl

theorem messages_nodeReference_iff {t : Text} (h : isNodeReference t = true) :
    ((Reference.nodeProblem? context t).map Diagnostic.reference).toList.map Diagnostic.message =
      (check context t).map Diagnostic.message ↔ ¬RunsOn context t := by
  obtain ⟨body, name, output, hcut, hnamed⟩ := named_of_isNodeReference h
  have hkind : Token.referenceKind? "node".toList = some .nodeRef := by decide
  have hthis := isThisReference_of_named hcut hkind hnamed (by decide)
  have hsame : ∀ r r', Reference.withoutBrackets r = body → Reference.withoutBrackets r' = body →
      referenceFindings context ⟨.nodeRef, r, 0⟩ = referenceFindings context ⟨.nodeRef, r', 0⟩ := by
    intro r r' hr hr'
    unfold referenceFindings
    simp only [nodeProblem?_congr hnamed hr hr']
  exact messages_reference_iff hkind rfl hcut hnamed (.inr (.inl h))
    (fun r r' hr hr' => by rw [hsame r r' hr hr'])
    (fun r r' hr hr' _ => by simp [hsame r r' hr hr', hthis])

theorem messages_thisReference_iff {t : Text} (h : isThisReference t = true) :
    ((Reference.thisProblem? context t).map Diagnostic.reference).toList.map Diagnostic.message =
      (check context t).map Diagnostic.message ↔ ¬RunsOn context t := by
  obtain ⟨body, output, hcut, hnamed⟩ := named_of_isThisReference h
  have hkind : Token.referenceKind? "this".toList = some .thisRef := by decide
  refine messages_reference_iff hkind rfl hcut hnamed (.inr (.inr h)) ?_ ?_
  · intro r r' hr hr'
    unfold referenceFindings
    simp only [thisProblem?_of_named hnamed hr, thisProblem?_of_named hnamed hr']
    cases context with
    | empty => rfl
    | model => rfl
    | node => rfl
  · intro r r' hr hr' hne
    unfold referenceFindings
    simp only [thisProblem?_of_named hnamed hr, thisProblem?_of_named hnamed hr']
    have hdiffer : (Reference.Problem.outsideNode r).message ≠ (Reference.Problem.outsideNode r').message :=
      fun heq => hne (outsideNode_message_inj heq)
    cases context with
    | empty => simpa [h, message_reference] using hdiffer
    | model => simpa [h, message_reference] using hdiffer
    | node m schema self => simp

/-- The simulation variables are one token each. -/
theorem check_variable {t : Text} (h : Reference.knownVariables.contains t = true) :
    check context t = [] ∧ ¬RunsOn context t := by
  have hparts : ∀ t ∈ Reference.knownVariables, t = "sim".toList ++ '.' :: t.drop 4 ∧
      (Text.splitOn '.' (t.drop 4)).all isName = true := by decide
  obtain ⟨ht, hnames⟩ := hparts t (by simpa using h)
  have hnamed : Named "sim".toList (Text.splitOn '.' (t.drop 4)) t :=
    ⟨t.drop 4, ht, rfl, List.all_eq_true.mp hnames⟩
  have hkind : Token.referenceKind? "sim".toList = some .simRef := by decide
  have hnotMem := bracket_notMem_of_named hnamed (Token.mem_leads_of_referenceKind? hkind)
  refine ⟨?_, not_runsOn_of_notMem hnotMem⟩
  rw [check_plain hkind hnamed]
  unfold referenceFindings
  simp only [Reference.variableProblem?, h, if_true]
  rfl

/-! ## All expressions -/

/-- The messages of the walk over the tokens of an expression, none of which are there where it is
blank. -/
def fullMessages (context : Context) (expression : Text) : List Text :=
  (if Text.trim expression = [] then [.emptyExpression]
    else check context (Text.trim expression)).map Diagnostic.message

theorem validate_empty (capacity : Nat) (context : Context) (expression : Text) :
    (validate (.empty capacity) context expression).1 = messages context expression := by
  unfold validate
  split
  · rfl
  · rfl

theorem messages_checkTrimmed_iff {t : Text} (ht : t ≠ []) :
    (checkTrimmed context t).map Diagnostic.message = (check context t).map Diagnostic.message ↔
      ¬Overreaches context t := by
  unfold checkTrimmed Overreaches
  rw [if_neg ht]
  by_cases hnumber : isPlainNumber t = true
  · have hruns : ¬RunsOn context t :=
      not_runsOn_of_notMem (bracket_notMem_of_isPlainNumber hnumber)
    rw [if_pos (by simp [hnumber])]
    simpa [hnumber, hruns] using messages_plainNumber_iff hnumber
  by_cases hdata : isDataReference t = true
  · rw [if_pos (by simp [hdata])]
    simpa [hnumber] using messages_dataReference_iff hdata
  by_cases hconstant : isConstantReference t = true
  · obtain ⟨hcheck, hruns⟩ : check context t = [] ∧ ¬RunsOn context t :=
      check_constantReference hconstant
    rw [if_pos (by simp [hconstant])]
    simp [hnumber, hcheck, hruns]
  rw [if_neg (by simp [hnumber, hdata, hconstant])]
  by_cases hnode : isNodeReference t = true
  · rw [if_pos hnode]
    simpa [hnumber] using messages_nodeReference_iff hnode
  rw [if_neg hnode]
  by_cases hthis : isThisReference t = true
  · rw [if_pos hthis]
    simpa [hnumber] using messages_thisReference_iff hthis
  rw [if_neg hthis]
  by_cases hvariable : Reference.knownVariables.contains t = true
  · obtain ⟨hcheck, hruns⟩ : check context t = [] ∧ ¬RunsOn context t := check_variable hvariable
    rw [if_pos hvariable]
    simp [hnumber, hcheck, hruns]
  · have hruns : ¬RunsOn context t := by
      rintro ⟨reference, clause, rest, -, -, -, -, href, -⟩
      simp [hdata, hnode, hthis] at href
    rw [if_neg hvariable]
    simp [hnumber, hruns]

/-- A fresh validator says what the walk over the tokens says, but for the texts that a shortcut
takes beyond one operand: numbers with a digit of another script, and references that go on after
their first clause in brackets. -/
theorem validate_eq_fullMessages_iff (context : Context) (expression : Text) :
    (validate (.empty Cache.defaultCapacity) context expression).1 = fullMessages context expression ↔
      ¬Overreaches context (Text.trim expression) := by
  rw [validate_empty, messages, fullMessages]
  by_cases ht : Text.trim expression = []
  · have hoverreaches : ¬Overreaches context [] := by
      rintro (⟨h, -⟩ | ⟨reference, clause, rest, h, -⟩)
      · exact absurd h (by decide)
      · simp at h
    rw [if_pos ht, ht]
    simp [hoverreaches, checkTrimmed]
  · rw [if_neg ht]
    exact messages_checkTrimmed_iff ht

/-- A division by zero between two series with brackets is taken for one reference to data. -/
theorem validate_ne_fullMessages :
    (validate (.empty Cache.defaultCapacity) .empty "data.a[0] / 0 + data.b[1]".toList).1 ≠
      fullMessages .empty "data.a[0] / 0 + data.b[1]".toList := by
  decide +kernel

end CatchmentLint.Expression
