import CatchmentLint.Proofs.Expression.Partition
import CatchmentLint.Proofs.Expression.Walk

/-!
# CatchmentLint.Proofs.Expression.Spacing

Blank characters between tokens say nothing.

* `StandsAlone` — a text that is a token wherever nothing or a blank character stands behind it, as
  the tokens of every text do;
* `exists_readAll_spread` — so tokens that are moved apart are read again;
* `checkTokens_unplaced` — and what is found in tokens does not depend on where they stand;
* `check_spread` — so an expression means the same with other blank characters between its tokens.
-/

namespace CatchmentLint

namespace Token

/-! ## Tokens by themselves -/

/-- The text is a token of this kind wherever nothing or a blank character stands behind it. -/
def StandsAlone (kind : TokenKind) (text : Text) : Prop :=
  ∃ c s, text = c :: s ∧ isBlank c = false ∧ ∀ position rest, (∀ d ∈ rest.head?, isBlank d = true) →
    readLexeme position c (s ++ rest) = .ok (kind, text)

/-- The tokens of a text stand alone, since blanks end them or the next one does. -/
theorem ReadsAs.standsAlone {position : Nat} {s : Text} {tokens : List Token}
    (h : ReadsAs position s tokens) : ∀ t ∈ tokens, t.kind ≠ .eof → StandsAlone t.kind t.text := by
  induction h with
  | done => simp
  | blank _ _ ih => exact ih
  | @token position kind c s rest tokens hc hlexeme _ ih =>
      refine List.forall_mem_cons.mpr ⟨fun _ => ⟨c, s, rfl, hc, fun position' rest' hrest' => ?_⟩, ih⟩
      exact readLexeme_of_endsAs hlexeme (endsAs_of_blank hrest')

/-! ## Tokens apart -/

/-- The texts of the tokens but the last, each with the gap behind it. -/
def spread : List Token → List Text → Text
  | t :: tokens, gap :: gaps => t.text ++ gap ++ spread tokens gaps
  | _, _ => []

/-- What a token says, wherever it stands. -/
def unplaced (t : Token) : Token := { t with position := 0 }

/-- Blanks before a text move its tokens on, and nothing else. -/
theorem ReadsAs.blanks_append {position : Nat} {gap s : Text} {tokens : List Token}
    (hgap : ∀ c ∈ gap, isBlank c = true) (h : ReadsAs (position + Text.utf8Size gap) s tokens) :
    ReadsAs position (gap ++ s) tokens := by
  induction gap generalizing position with
  | nil => exact h
  | cons c gap ih =>
      obtain ⟨hc, hgap⟩ := List.forall_mem_cons.mp hgap
      refine .blank hc (ih hgap ?_)
      rwa [Nat.add_assoc]

/-- A gap that is empty only where nothing follows can stand behind a token. -/
theorem blank_of_head?_append {gap rest : Text} (hgap : ∀ c ∈ gap, isBlank c = true)
    (hrest : gap = [] → rest = []) : ∀ d ∈ (gap ++ rest).head?, isBlank d = true := by
  intro d hd
  cases gap with
  | nil => simp [hrest rfl] at hd
  | cons c gap =>
      cases hd
      exact hgap _ List.mem_cons_self

/-- A text that stands alone is read as its token, and then what stands behind the blanks. -/
theorem StandsAlone.readsAs {kind : TokenKind} {text gap rest : Text} {position : Nat}
    {tokens : List Token} (h : StandsAlone kind text) (hgap : ∀ c ∈ gap, isBlank c = true)
    (hrest : gap = [] → rest = [])
    (hreads : ReadsAs (position + Text.utf8Size text + Text.utf8Size gap) rest tokens) :
    ReadsAs position (text ++ gap ++ rest) (⟨kind, text, position⟩ :: tokens) := by
  obtain ⟨c, s, rfl, hc, hlexeme⟩ := h
  rw [List.append_assoc]
  exact .token hc (hlexeme position _ (blank_of_head?_append hgap hrest)) (hreads.blanks_append hgap)

/-- Tokens that stand alone are read again where blank characters stand between each two. -/
theorem exists_readsAs_spread {front : List Token} (last : Token)
    (hfront : ∀ t ∈ front, StandsAlone t.kind t.text) {gaps : List Text}
    (hlength : gaps.length = front.length) (hblank : ∀ gap ∈ gaps, ∀ c ∈ gap, isBlank c = true)
    (hgaps : ∀ gap ∈ gaps.dropLast, gap ≠ []) (position : Nat) :
    ∃ tokens size, ReadsAs position (spread (front ++ [last]) gaps) (tokens ++ [⟨.eof, [], size⟩]) ∧
      tokens.map unplaced = front.map unplaced := by
  induction front generalizing gaps position with
  | nil =>
      obtain rfl := List.length_eq_zero_iff.mp hlength
      exact ⟨[], position, .done, rfl⟩
  | cons t front ih =>
      obtain ⟨gap, gaps, rfl⟩ := List.exists_cons_of_length_eq_add_one hlength
      obtain ⟨ht, hfront⟩ := List.forall_mem_cons.mp hfront
      obtain ⟨hgap, hblank⟩ := List.forall_mem_cons.mp hblank
      have hrest : gap = [] → spread (front ++ [last]) gaps = [] := by
        rintro rfl
        cases gaps with
        | nil => cases front <;> rfl
        | cons gap gaps => exact absurd rfl (hgaps [] List.mem_cons_self)
      have hgaps : ∀ gap ∈ gaps.dropLast, gap ≠ [] := fun other hother => hgaps other <| by
        cases gaps with
        | nil => cases hother
        | cons gap gaps => exact List.mem_cons_of_mem _ hother
      obtain ⟨tokens, size, hreads, htokens⟩ :=
        ih hfront (Nat.succ.inj hlength) hblank hgaps (position + Text.utf8Size t.text + Text.utf8Size gap)
      exact ⟨⟨t.kind, t.text, position⟩ :: tokens, size, ht.readsAs hgap hrest hreads,
        by simp [htokens, unplaced]⟩

/-- The tokens of a text are read again where they stand apart. -/
theorem exists_readAll_spread {s lead : Text} {tokens : List Token} {gaps : List Text}
    (hread : readAll s = .ok tokens) (hlength : gaps.length + 1 = tokens.length)
    (hlead : ∀ c ∈ lead, isBlank c = true) (hblank : ∀ gap ∈ gaps, ∀ c ∈ gap, isBlank c = true)
    (hgaps : ∀ gap ∈ gaps.dropLast, gap ≠ []) :
    ∃ tokens', readAll (lead ++ spread tokens gaps) = .ok tokens' ∧
      tokens'.map unplaced = tokens.map unplaced := by
  have hreads := readsAs_of_readFrom hread
  obtain ⟨front, rfl, hfront⟩ := hreads.ending
  have halone : ∀ t ∈ front, StandsAlone t.kind t.text := fun t ht =>
    hreads.standsAlone t (List.mem_append_left _ ht) (hfront t ht)
  obtain ⟨tokens', size, hreads', htokens'⟩ := exists_readsAs_spread _ halone
    (by simpa using hlength) hblank hgaps (0 + Text.utf8Size lead)
  exact ⟨_, (hreads'.blanks_append hlead).readFrom_eq, by simp [htokens', unplaced]⟩

end Token

namespace Expression

open Token (unplaced)

/-! ## Walks over tokens wherever they stand -/

/-- The walk, where it does not matter how far the tokens behind it are. -/
def Walk.unplaced (w : Walk) : Walk := { w with rest := w.rest.map (List.map Token.unplaced) }

/-- A walk that asks no token where it stands. -/
def Placeless (walk : List Token → Walk) : Prop :=
  ∀ tokens, walk (tokens.map unplaced) = (walk tokens).unplaced

/-- Two walks regardless of places are one. -/
theorem Walk.andThen_unplaced {w : Walk} {next : List Token → Walk} (h : Placeless next) :
    w.unplaced.andThen next = (w.andThen next).unplaced := by
  obtain ⟨findings, rest⟩ := w
  cases rest with
  | ok tokens => exact congrArg (·.after findings) (h tokens)
  | error e => rfl

/-- One walk after the other looks at no place if neither does. -/
theorem Placeless.andThen {first next : List Token → Walk} (hfirst : Placeless first)
    (hnext : Placeless next) : Placeless fun tokens => (first tokens).andThen next := by
  intro tokens
  simp only [hfirst tokens]
  exact Walk.andThen_unplaced hnext

theorem Placeless.after {walk : List Token → Walk} (h : Placeless walk) (findings : List Diagnostic) :
    Placeless fun tokens => (walk tokens).after findings := by
  intro tokens
  simp only [h tokens]
  rfl

theorem placeless_done : Placeless .done := fun _ => rfl

theorem placeless_expect (kind : TokenKind) : Placeless (expect kind) := by
  intro tokens
  cases tokens with
  | nil => rfl
  | cons t tokens =>
      simp only [List.map_cons, expect, unplaced]
      split <;> rfl

theorem dropWhile_isSign_unplaced (tokens : List Token) :
    (tokens.map unplaced).dropWhile isSign = (tokens.dropWhile isSign).map unplaced := by
  rw [List.dropWhile_map]
  rfl

/-- Whether tokens start with a zero does not depend on where they stand. -/
theorem startsWithZero_unplaced (tokens : List Token) :
    startsWithZero (tokens.map unplaced) = startsWithZero tokens := by
  unfold startsWithZero
  rw [dropWhile_isSign_unplaced]
  cases tokens.dropWhile isSign with
  | nil => rfl
  | cons t rest =>
      simp only [List.map_cons]
      rw [dropWhile_isSign_unplaced]
      rcases rest.dropWhile isSign with _ | ⟨zero, _ | ⟨close, rest⟩⟩ <;> rfl

/-- What is found at an operator does not depend on where the tokens stand. -/
theorem operatorFindings_unplaced (t : Token) (rest : List Token) :
    operatorFindings t.unplaced (rest.map unplaced) = operatorFindings t rest := by
  simp only [operatorFindings, startsWithZero_unplaced, unplaced]

section Level

variable (context : Context) {deeper : Phrase → List Token → Walk}
  (hdeeper : ∀ phrase, Placeless (deeper phrase))

include hdeeper

/-- An operand without signs is walked regardless of where its tokens stand. -/
theorem walkPrimary_placeless : Placeless (walkPrimary context deeper) := by
  intro tokens
  cases tokens with
  | nil => rfl
  | cons t rest =>
      obtain ⟨kind, text, position⟩ := t
      cases kind with
      | number | dataRef | constRef | nodeRef | thisRef | simRef => rfl
      | ident =>
          cases rest with
          | nil => rfl
          | cons next more =>
              simp only [List.map_cons, walkPrimary, unplaced]
              split
              · exact hdeeper .call (⟨.ident, text, position⟩ :: next :: more)
              · rfl
      | lparen => exact ((hdeeper .expression).andThen (placeless_expect .rparen)) rest
      | operator | rparen | comma | eof => rfl

/-- An operand is walked regardless of where its tokens stand. -/
theorem walkOperand_placeless : Placeless (walkOperand context deeper) := by
  intro tokens
  cases tokens with
  | nil => exact walkPrimary_placeless context hdeeper []
  | cons t rest =>
      have hunary : isUnary t.unplaced = isUnary t := rfl
      simp only [List.map_cons, walkOperand, hunary]
      split
      · exact hdeeper .operand rest
      · exact walkPrimary_placeless context hdeeper (t :: rest)

/-- Operators and their operands are walked regardless of where they stand. -/
theorem walkOperators_placeless (fuel : Nat) : Placeless (walkOperators context deeper fuel) := by
  induction fuel with
  | zero => exact fun _ => rfl
  | succ fuel ih =>
      intro tokens
      cases tokens with
      | nil => rfl
      | cons t rest =>
          have hbinary : isBinary t.unplaced = isBinary t := rfl
          simp only [List.map_cons, walkOperators, hbinary, operatorFindings_unplaced]
          split
          · exact ((walkOperand_placeless context hdeeper).andThen ih).after (operatorFindings t rest) rest
          · rfl

/-- An expression is walked regardless of where its tokens stand. -/
theorem walkExpression_placeless : Placeless (walkExpression context deeper) := by
  have hoperators : Placeless fun rest => walkOperators context deeper rest.length rest := by
    intro rest
    simp only [List.length_map]
    exact walkOperators_placeless context hdeeper rest.length rest
  exact (walkOperand_placeless context hdeeper).andThen hoperators

/-- Arguments are walked regardless of where their tokens stand. -/
theorem walkArguments_placeless (finish : Nat → List Diagnostic) (fuel count : Nat) :
    Placeless (walkArguments context deeper finish fuel count) := by
  induction fuel generalizing count with
  | zero => exact fun _ => rfl
  | succ fuel ih =>
      intro tokens
      cases tokens with
      | nil => rfl
      | cons t rest =>
          simp only [List.map_cons, walkArguments, unplaced]
          split
          · exact ((walkExpression_placeless context hdeeper).andThen (ih (count + 1))) rest
          · exact ((placeless_expect .rparen).andThen (placeless_done.after (finish count))) (t :: rest)

/-- The arguments of a call and its closing parenthesis. -/
theorem placeless_arguments (finish : Nat → List Diagnostic) :
    Placeless fun tokens =>
      match tokens with
      | close :: after =>
        if close.kind = .rparen then (Walk.done after).after (finish 0)
        else (walkExpression context deeper tokens).andThen fun rest =>
          walkArguments context deeper finish (rest.length + 1) 1 rest
      | [] => walkExpression context deeper [] := by
  have harguments : Placeless fun rest => walkArguments context deeper finish (rest.length + 1) 1 rest := by
    intro rest
    simp only [List.length_map]
    exact walkArguments_placeless context hdeeper finish (rest.length + 1) 1 rest
  intro tokens
  cases tokens with
  | nil => exact walkExpression_placeless context hdeeper []
  | cons close after =>
      simp only [List.map_cons, unplaced]
      split
      · exact (placeless_done.after (finish 0)) after
      · exact ((walkExpression_placeless context hdeeper).andThen harguments) (close :: after)

/-- A call is walked regardless of where its tokens stand. -/
theorem walkCall_placeless : Placeless (walkCall context deeper) := by
  intro tokens
  cases tokens with
  | nil => rfl
  | cons t rest =>
      have hcall := (placeless_expect .lparen).andThen (placeless_arguments context hdeeper
        (arityFindings (Text.lowerAscii t.text)))
      exact (hcall.after (nameFindings (Text.lowerAscii t.text))) rest

end Level

/-- Every phrase is walked regardless of where its tokens stand. -/
theorem walk_placeless (context : Context) (room : Nat) (phrase : Phrase) :
    Placeless (walk context room phrase) := by
  induction room generalizing phrase with
  | zero => exact fun _ => rfl
  | succ room ih =>
      cases phrase with
      | expression => exact walkExpression_placeless context ih
      | operand => exact walkOperand_placeless context ih
      | call => exact walkCall_placeless context ih

/-! ## Checks -/

/-- What is found in tokens does not depend on where they stand. -/
theorem checkTokens_unplaced (context : Context) (tokens : List Token) :
    checkTokens context (tokens.map unplaced) = checkTokens context tokens := by
  have hwalk := walkExpression_placeless context (walk_placeless context maxNesting) tokens
  rw [checkTokens, checkTokens, hwalk]
  cases hrest : (walkExpression context (walk context maxNesting) tokens).rest with
  | error e => simp [Walk.unplaced, hrest, Except.map]
  | ok rest =>
      cases rest with
      | nil => simp [Walk.unplaced, hrest, Except.map]
      | cons t rest => simp [Walk.unplaced, hrest, Except.map, unplaced]

/-- Tokens that say the same have the same found in them. -/
theorem checkTokens_eq_of_map_unplaced {tokens tokens' : List Token}
    (h : tokens'.map unplaced = tokens.map unplaced) (context : Context) :
    checkTokens context tokens' = checkTokens context tokens := by
  rw [← checkTokens_unplaced context tokens', h, checkTokens_unplaced]

/-- The tokens of an expression may stand apart: with blank characters between each two, and perhaps
before the first and behind the last, they are the same tokens, and what is found in them is the
same. -/
theorem check_spread {expression lead : Text} {tokens : List Token} {gaps : List Text}
    (hread : Token.readAll expression = .ok tokens) (hlength : gaps.length + 1 = tokens.length)
    (hlead : ∀ c ∈ lead, isBlank c = true) (hblank : ∀ gap ∈ gaps, ∀ c ∈ gap, isBlank c = true)
    (hgaps : ∀ gap ∈ gaps.dropLast, gap ≠ []) :
    (∃ tokens', Token.readAll (lead ++ Token.spread tokens gaps) = .ok tokens' ∧
      tokens'.map (fun t => (t.kind, t.text)) = tokens.map fun t => (t.kind, t.text)) ∧
      ∀ context, check context (lead ++ Token.spread tokens gaps) = check context expression := by
  obtain ⟨tokens', hread', hunplaced⟩ := Token.exists_readAll_spread hread hlength hlead hblank hgaps
  have hsaid : ∀ tokens : List Token, tokens.map (fun t => (t.kind, t.text)) =
      (tokens.map unplaced).map fun t => (t.kind, t.text) := fun tokens => by simp [unplaced]
  refine ⟨⟨tokens', hread', by rw [hsaid, hunplaced, ← hsaid]⟩, fun context => ?_⟩
  simp only [check, hread', hread]
  exact checkTokens_eq_of_map_unplaced hunplaced context

/-- An expression without blanks, and the same with blanks of several kinds between its tokens. -/
theorem check_spread_dense :
    let dense := "2.e1**-data.x[a b]>=c.k".toList
    let tokens : List Token := [⟨.number, "2.e1".toList, 0⟩, ⟨.operator, "**".toList, 4⟩,
      ⟨.operator, "-".toList, 6⟩, ⟨.dataRef, "data.x[a b]".toList, 7⟩, ⟨.operator, ">=".toList, 18⟩,
      ⟨.constRef, "c.k".toList, 20⟩, ⟨.eof, [], 23⟩]
    let gaps := [" ", "\n", " ", "\u2003", " ", ""].map String.toList
    let apart := "\u00a0".toList ++ Token.spread tokens gaps
    Token.readAll dense = .ok tokens ∧ apart = "\u00a02.e1 **\n- data.x[a b]\u2003>= c.k".toList ∧
      (∃ tokens', Token.readAll apart = .ok tokens' ∧
        tokens'.map (fun t => (t.kind, t.text)) = tokens.map fun t => (t.kind, t.text)) ∧
      ∀ context, check context apart = check context dense := by
  intro dense tokens gaps apart
  have hread : Token.readAll dense = .ok tokens := by decide +kernel
  have hlead : "\u00a0".toList.all isBlank = true := by decide
  have hblank : gaps.all (·.all isBlank) = true := by decide
  exact ⟨hread, by decide, check_spread hread rfl (List.all_eq_true.mp hlead)
    (fun gap hgap => List.all_eq_true.mp (List.all_eq_true.mp hblank gap hgap)) (by decide)⟩

end Expression

end CatchmentLint
