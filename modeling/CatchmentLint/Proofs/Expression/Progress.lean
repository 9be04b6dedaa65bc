import CatchmentLint.Proofs.Expression.Cursor
import CatchmentLint.Proofs.Expression.Lexeme
import CatchmentLint.Proofs.Expression.Precedence

/-!
# CatchmentLint.Proofs.Expression.Progress

A cursor reads what a walk walks, so it comes to an end inside of the tokens and moves on.

* `walkOf`, `walkOf_advances` — the walk of each procedure, which passes a token where it ends well;
* `follows_operators`, `follows_arguments` — the loops, by induction on the tokens ahead, some of
  which every turn passes;
* `follows_of_nests` — every procedure follows its walk if those a level deeper do;
* `nests_zero`, `nests_succ` — and those do: at the limit they fail, and above it the cursor comes
  back up;
* `follows_read` — so all follow, by induction on the room that is left to nest in;
* `read_result` — every procedure ends inside of the tokens, behind where it has started if it ends
  well, and as deep as before;
* `findings?_eq`, `findings?_readAll` — what a cursor finds is what the check of an expression finds.
-/

namespace CatchmentLint.Expression.Cursor

open Reading

/-! ## What procedures walk -/

/-- The walk of each procedure, inside of which `room` levels more may nest. -/
def walkOf (context : Context) : Procedure → (room : Nat) → List Token → Walk
  | .levels levels, room, tokens => climb (walkOperand context (walk context room)) levels tokens
  | .operand, room, tokens => walkOperand context (walk context room) tokens
  | .primary, room, tokens => walkPrimary context (walk context room) tokens
  -- The cursor does not move on from the last token, so that is what stands behind the name.
  | .call, _, [last] =>
    (Walk.fail (.expectedToken .lparen last.kind last.text)).after
      (nameFindings (Text.lowerAscii last.text))
  | .call, room, tokens => walkCall context (walk context room) tokens
  | .nested _, 0, _ => .fail (.nestingTooDeep maxNesting)
  | .nested inner, room + 1, tokens => walkOf context inner room tokens

theorem walkOf_advances (context : Context) (room : Nat) (procedure : Procedure) :
    Advances (walkOf context procedure room) := by
  have hdeeper (room : Nat) := walk_advances context room
  induction procedure generalizing room with
  | levels levels => exact climb_advances (walkOperand_advances (hdeeper room)) levels
  | operand => exact walkOperand_advances (hdeeper room)
  | primary => exact walkPrimary_advances (hdeeper room)
  | call =>
      rintro (_ | ⟨name, _ | ⟨next, more⟩⟩) rest h
      · exact walkCall_advances (hdeeper room) h
      · contradiction
      · exact walkCall_advances (hdeeper room) h
  | nested inner ih =>
      cases room with
      | zero =>
          intro tokens rest h
          contradiction
      | succ room => exact ih room

def procedureOf : Phrase → Procedure
  | .expression => .levels levels
  | .operand => .operand
  | .call => .call

theorem walkOf_nested (context : Context) (room : Nat) {phrase : Phrase} {tokens : List Token}
    (h : phrase = .call → tokens.length ≠ 1) :
    walkOf context (.nested (procedureOf phrase)) room tokens = walk context room phrase tokens := by
  cases room with
  | zero => rfl
  | succ room =>
      cases phrase with
      | expression =>
          rw [walk, walkExpression_eq_climb]
          rfl
      | operand => rfl
      | call =>
          match tokens, h rfl with
          | [], _ => rfl
          | _ :: _ :: _, _ => rfl

/-! ## One level -/

variable {context : Context} {room : Nat} {tokens rest : List Token} {t : Token} {c c' : Cursor}

/-- The reading follows the walk from anywhere in the tokens where there is that room. -/
def FollowsWith (room : Nat) (tokens : List Token) (x : Nat → Reading Unit)
    (walk : List Token → Walk) : Prop :=
  ∀ c : Cursor, c.depth + room = maxNesting → c.position < tokens.length →
    Follows tokens c x (walk (c.ahead tokens))

/-- Procedures a level deeper follow their walks. -/
def Nests (context : Context) (tokens : List Token) (room : Nat) : Prop :=
  ∀ procedure, FollowsWith room tokens (read context tokens · (.nested procedure))
    (walkOf context (.nested procedure) room)

/-- So does a phrase a level deeper, unless it is a call at the last token. -/
theorem Nests.phrase (hnests : Nests context tokens room) (phrase : Phrase)
    (hroom : c.depth + room = maxNesting) (h : c.position < tokens.length)
    (hcall : phrase = .call → c.position + 1 < tokens.length) :
    Follows tokens c (read context tokens · (.nested (procedureOf phrase)))
      (walk context room phrase (c.ahead tokens)) := by
  have hfollows := hnests (procedureOf phrase) c hroom h
  rwa [walkOf_nested] at hfollows
  intro hphrase
  have hlt := hcall hphrase
  rw [ahead, List.length_drop]
  omega

section Level

variable (htokens : EndsInEof tokens)

include htokens

/-- The end of a call. -/
theorem follows_closing (h : c.position < tokens.length) (findings : List Diagnostic) :
    Follows tokens c (fun _ => do expect tokens .rparen; tell findings)
      ((Expression.expect .rparen (c.ahead tokens)).andThen fun rest =>
        (Walk.done rest).after findings) :=
  (follows_expect htokens (by simp) h).andThen fun _ hstays _ => follows_tell hstays.lt findings

/-- The loop of a level is its chain of operators, given what its operands follow. -/
theorem follows_operators {operators : List Text} {tighter : List (List Text)}
    {operand : List Token → Walk} (hoperand : Advances operand)
    (hfollows : FollowsWith room tokens (read context tokens · (.levels tighter)) operand)
    (fuel : Nat) (hfuel : (c.ahead tokens).length ≤ fuel) (hroom : c.depth + room = maxNesting)
    (h : c.position < tokens.length) :
    Follows tokens c (readOperators context tokens · operators tighter)
      (walkChain operators operand fuel (c.ahead tokens)) := by
  induction fuel generalizing c with
  | zero => exact absurd (List.eq_nil_of_length_eq_zero (Nat.le_zero.mp hfuel)) (ahead_ne_nil h)
  | succ fuel ih =>
      obtain ⟨t, rest, hahead⟩ := List.exists_cons_of_ne_nil (ahead_ne_nil h)
      rw [hahead] at hfuel ⊢
      refine Follows.succ ?_
      simp only [readOperators, walkChain]
      refine Follows.step (operator?_result hahead _) (.refl h) rfl ?_
      by_cases hone : isOneOf operators t = true
      · simp only [if_pos hone]
        have hkind : t.kind ≠ .eof := by
          intro heof
          simp [isOneOf, heof] at hone
        have hrest := htokens.rest_ne_nil hahead hkind
        have hmoved := stays_moved hahead hrest
        obtain rfl := ahead_moved hahead
        refine Follows.advance hahead hrest (Follows.step result_get (.refl hmoved.lt) rfl ?_)
        have hnext := hfollows (c.moved.told (operatorFindings t (c.moved.ahead tokens))) hroom hmoved.lt
        refine Follows.tell (hnext.andThen fun c' hstays hw => ?_)
        -- The operand has passed a token, so what is ahead of it needs less fuel.
        have hadvance : (c'.ahead tokens).length < (c.moved.ahead tokens).length := hoperand hw
        rw [List.length_cons] at hfuel
        exact ih (by omega) (hstays.depth_eq ▸ hroom) hstays.lt
      · simp only [if_neg hone]
        exact hahead ▸ follows_done h

/-- A call at the last token finds that instead of a parenthesis. -/
theorem follows_call_last (hahead : c.ahead tokens = [t]) :
    Follows tokens c (read context tokens · .call) (walkOf context .call room [t]) := by
  have hlt := lt_length_of_ahead hahead
  have hkind : t.kind ≠ .lparen := by
    intro hkind
    exact htokens.rest_ne_nil hahead (by simp [hkind]) rfl
  have hagain : (c.told (nameFindings (Text.lowerAscii t.text))).ahead tokens = [t] := hahead
  have hopening := follows_expect htokens (by simp : TokenKind.lparen ≠ .eof) (lt_length_of_ahead hagain)
  rw [hagain, Expression.expect, if_neg hkind] at hopening
  refine Follows.succ ?_
  simp only [read]
  refine Follows.look hahead (Follows.tell ?_)
  refine Follows.step (advance_result_last hagain) (.refl hlt) rfl ?_
  -- Whatever would come behind the parenthesis is not read.
  change Follows _ _ _ ((Walk.fail _).andThen .done)
  exact hopening.andThen fun _ _ hw => by contradiction

variable (hnests : Nests context tokens room)

include hnests

/-- A primary is read as it is walked; what it nests is read one level deeper. -/
theorem follows_primary :
    FollowsWith room tokens (read context tokens · .primary) (walkPrimary context (walk context room)) := by
  intro c hroom h
  obtain ⟨t, rest, hahead⟩ := List.exists_cons_of_ne_nil (ahead_ne_nil h)
  rw [hahead]
  refine Follows.succ ?_
  simp only [read]
  refine Follows.look hahead ?_
  have hoperand (hkind : t.kind ≠ .eof) : Follows tokens c
      (fun _ => do tell (referenceFindings context t); advance tokens)
      ((Walk.done rest).after (referenceFindings context t)) :=
    .tell (follows_advance hahead (htokens.rest_ne_nil hahead hkind))
  simp only [walkPrimary]
  cases hkind : t.kind with
  | number | dataRef | constRef | nodeRef | thisRef | simRef => exact hoperand (by simp [hkind])
  | ident =>
      have hrest := htokens.rest_ne_nil hahead (by simp [hkind])
      have hcall := hnests.phrase .call hroom h fun _ => (stays_moved hahead hrest).lt
      obtain ⟨next, more, rfl⟩ := List.exists_cons_of_ne_nil hrest
      have hnext : tokens[c.position + 1]? = some next := getElem?_of_ahead hahead 1
      refine Follows.step result_get (.refl h) rfl ?_
      simp only [hnext, Option.any_some, beq_iff_eq]
      split
      · exact hahead ▸ hcall
      · exact follows_advance hahead hrest
  | lparen =>
      have hrest := htokens.rest_ne_nil hahead (by simp [hkind])
      have hmoved := stays_moved hahead hrest
      have hinner := hnests.phrase (c := c.moved) .expression hroom hmoved.lt (by simp)
      rw [ahead_moved hahead] at hinner
      refine Follows.advance hahead hrest (hinner.andThen fun c' hstays _ => ?_)
      exact follows_expect htokens (by simp) hstays.lt
  | operator | rparen | comma | eof => exact follows_fail h _

theorem follows_operand :
    FollowsWith room tokens (read context tokens · .operand) (walkOperand context (walk context room)) := by
  intro c hroom h
  obtain ⟨t, rest, hahead⟩ := List.exists_cons_of_ne_nil (ahead_ne_nil h)
  have hprimary := follows_primary htokens hnests c hroom h
  rw [hahead] at hprimary ⊢
  refine Follows.succ ?_
  simp only [read, walkOperand]
  refine Follows.step (operator?_result hahead _) (.refl h) rfl ?_
  by_cases hunary : isUnary t = true
  · have hkind : t.kind ≠ .eof := by
      intro heof
      rw [isUnary_of_kind_ne (by simp [heof])] at hunary
      contradiction
    have hrest := htokens.rest_ne_nil hahead hkind
    have hinner := hnests.phrase (c := c.moved) .operand hroom (stays_moved hahead hrest).lt (by simp)
    rw [ahead_moved hahead] at hinner
    have hone : isOneOf unaryOperators t = true := hunary
    simp only [if_pos hunary, if_pos hone]
    exact Follows.advance hahead hrest hinner
  · have hone : ¬isOneOf unaryOperators t = true := hunary
    simp only [if_neg hunary, if_neg hone]
    exact hprimary

/-- The ladder of operators is read as it is climbed, level by level. -/
theorem follows_levels (operators : List (List Text)) :
    FollowsWith room tokens (read context tokens · (.levels operators))
      (climb (walkOperand context (walk context room)) operators) := by
  induction operators with
  | nil =>
      intro c hroom h
      refine Follows.succ ?_
      simp only [read_levels_nil]
      exact follows_operand htokens hnests c hroom h
  | cons operators tighter ih =>
      have hoperand : Advances (climb (walkOperand context (walk context room)) tighter) :=
        climb_advances (walkOperand_advances (walk_advances context room)) tighter
      intro c hroom h
      refine Follows.succ ?_
      simp only [read_levels_cons]
      refine (ih c hroom h).andThen fun c' hstays _ => ?_
      exact follows_operators htokens hoperand ih _ (Nat.le_refl _) (hstays.depth_eq ▸ hroom) hstays.lt

theorem follows_expression :
    FollowsWith room tokens (read context tokens · (.levels levels))
      (walkExpression context (walk context room)) := by
  rw [walkExpression_eq_climb]
  exact follows_levels htokens hnests levels

/-- The arguments of a call are read as they are walked, up to the bracket that closes it. -/
theorem follows_arguments (name : Text) (fuel count : Nat) (hfuel : (c.ahead tokens).length < fuel)
    (hroom : c.depth + room = maxNesting) (h : c.position < tokens.length) :
    Follows tokens c
      (fun fuel => do
        let count ← readArguments context tokens fuel count
        expect tokens .rparen
        tell (arityFindings name count))
      (walkArguments context (walk context room) (arityFindings name) fuel count (c.ahead tokens)) := by
  induction fuel generalizing c count with
  | zero => contradiction
  | succ fuel ih =>
      obtain ⟨t, rest, hahead⟩ := List.exists_cons_of_ne_nil (ahead_ne_nil h)
      have hclosing := follows_closing htokens h (arityFindings name count)
      rw [hahead] at hfuel hclosing ⊢
      refine Follows.succ ?_
      simp only [readArguments, walkArguments, bind_assoc]
      refine Follows.look hahead ?_
      split
      · next hcomma =>
          have hrest := htokens.rest_ne_nil hahead (by simp [hcomma])
          obtain rfl := ahead_moved hahead
          have hargument := follows_expression htokens hnests c.moved hroom (stays_moved hahead hrest).lt
          simp only [bind_assoc]
          refine Follows.advance hahead hrest (hargument.andThen fun c' hstays hw => ?_)
          have hadvance := walkExpression_advances (walk_advances context room) hw
          rw [List.length_cons] at hfuel
          exact ih (count + 1) (by omega) (hstays.depth_eq ▸ hroom) hstays.lt
      · exact hclosing

/-- A call of which there is more than the name. -/
theorem follows_call (hroom : c.depth + room = maxNesting) (h : c.position + 1 < tokens.length) :
    Follows tokens c (read context tokens · .call)
      (walkCall context (walk context room) (c.ahead tokens)) := by
  obtain ⟨t, rest, hahead⟩ := List.exists_cons_of_ne_nil (ahead_ne_nil (Nat.lt_of_succ_lt h))
  obtain rfl := ahead_moved hahead
  have hrest : c.moved.ahead tokens ≠ [] := ahead_ne_nil h
  rw [hahead]
  refine Follows.succ ?_
  simp only [read, walkCall]
  refine Follows.look hahead (Follows.tell ?_)
  refine Follows.advance (c := c.told _) hahead hrest ?_
  have hopening := follows_expect (c := (c.told (nameFindings (Text.lowerAscii t.text))).moved)
    htokens (by simp : TokenKind.lparen ≠ .eof) h
  refine hopening.andThen fun c' hstays _ => ?_
  have hroom' : c'.depth + room = maxNesting := hstays.depth_eq ▸ hroom
  obtain ⟨close, after, hahead'⟩ := List.exists_cons_of_ne_nil (ahead_ne_nil hstays.lt)
  refine Follows.look hahead' ?_
  simp only [hahead']
  split
  · next hclose =>
      have hclosing := follows_closing htokens hstays.lt (arityFindings (Text.lowerAscii t.text) 0)
      rw [hahead', expect_cons hclose, Walk.done_andThen] at hclosing
      exact hclosing
  · refine (hahead' ▸ follows_expression htokens hnests c' hroom' hstays.lt).andThen fun c'' hstays' _ => ?_
    exact follows_arguments htokens hnests _ _ 1 (Nat.lt_succ_self _) (hstays'.depth_eq ▸ hroom')
      hstays'.lt

/-- Every procedure does as the walk does, once what it nests does. -/
theorem follows_of_nests (procedure : Procedure) :
    FollowsWith room tokens (read context tokens · procedure) (walkOf context procedure room) := by
  cases procedure with
  | levels levels => exact follows_levels htokens hnests levels
  | operand => exact follows_operand htokens hnests
  | primary => exact follows_primary htokens hnests
  | call =>
      intro c hroom h
      obtain ⟨t, _ | ⟨next, more⟩, hahead⟩ := List.exists_cons_of_ne_nil (ahead_ne_nil h)
      · rw [hahead]
        exact follows_call_last htokens hahead
      · have hlt := (stays_moved hahead (List.cons_ne_nil next more)).lt
        have hcall := follows_call htokens hnests hroom hlt
        rw [hahead] at hcall ⊢
        exact hcall
  | nested inner => exact hnests inner

end Level

/-! ## Levels in each other -/

theorem nests_zero (context : Context) (tokens : List Token) : Nests context tokens 0 := by
  intro procedure c hroom h
  have hfull : c.depth = maxNesting := hroom
  have hdescend : descend.result c = some (.error (.syntaxError (.nestingTooDeep maxNesting)), c) := by
    rw [descend, result_bind_of_ok result_get, if_pos (Nat.le_of_eq hfull.symm)]
    rfl
  refine Follows.succ ?_
  simp only [read]
  refine ⟨c, (ends_const hdescend).bind_error, .refl h, (List.append_nil _).symm, fun _ hrest => ?_⟩
  contradiction

/-- The cursor a level deeper. -/
def lowered (c : Cursor) : Cursor :=
  { c with depth := c.depth + 1, deepest := max c.deepest (c.depth + 1) }

/-- However a reading ends, the cursor comes up behind it. -/
theorem result_ascending {x : Reading Unit} {ending : Except Stop Unit}
    (h : x.result c = some (ending, c')) :
    Reading.result
        (do
          let ending ← x.run
          ascend
          return ending : StateT Cursor Option (Except Stop Unit)) c =
      some (ending, { c' with depth := c'.depth - 1 }) := by
  have hrun : x.run.run c = some (ending, c') := h
  change (x.run >>= fun ending => ascend >>= fun _ => pure ending).run c = _
  rw [StateT.run_bind, hrun]
  rfl

/-- A nested procedure runs one level deeper, and gives the level back at its end. -/
theorem ends_nested {inner : Procedure} {ending : Except Stop Unit} (hdepth : c.depth < maxNesting)
    (h : Ends (read context tokens · inner) c.lowered ending c') :
    Ends (read context tokens · (.nested inner)) c ending { c' with depth := c'.depth - 1 } := by
  have hdescend : descend.result c = some (.ok (), c.lowered) := by
    rw [descend, result_bind_of_ok result_get, if_neg (Nat.not_le.mpr hdepth)]
    rfl
  obtain ⟨enough, hends⟩ := h
  refine Ends.succ ?_
  simp only [read]
  exact (ends_const hdescend).bind ⟨enough, fun fuel hfuel => result_ascending (hends fuel hfuel)⟩

/-- One level more is at hand for what nests in it. -/
theorem nests_succ (h : ∀ procedure, FollowsWith room tokens (read context tokens · procedure)
      (walkOf context procedure room)) :
    Nests context tokens (room + 1) := by
  intro procedure c hroom hposition
  have hdepth : c.depth < maxNesting := by omega
  have hlowered : c.lowered.depth + room = maxNesting := by
    have hdeeper : c.lowered.depth = c.depth + 1 := rfl
    omega
  obtain ⟨c', hends, hstays, hfindings, hahead⟩ := h procedure c.lowered hlowered hposition
  refine ⟨_, ends_nested hdepth hends, ⟨hstays.le, hstays.lt, ?_, ?_⟩, hfindings, hahead⟩
  · exact Nat.sub_eq_of_eq_add hstays.depth_eq
  · calc c'.deepest ≤ max (max c.deepest (c.depth + 1)) maxNesting := hstays.deepest_le
      _ = max c.deepest maxNesting := by rw [Nat.max_assoc, Nat.max_eq_right hdepth]

/-- Every procedure follows its walk, by induction on the room that is left to nest in. -/
theorem follows_read (context : Context) (room : Nat) (htokens : EndsInEof tokens)
    (procedure : Procedure) :
    FollowsWith room tokens (read context tokens · procedure) (walkOf context procedure room) := by
  induction room generalizing procedure with
  | zero => exact follows_of_nests htokens (nests_zero context tokens) procedure
  | succ room ih => exact follows_of_nests htokens (nests_succ ih) procedure

/-- With enough fuel every procedure comes to an end, from anywhere in the tokens and at any depth
that is allowed.
It does not look outside of the tokens; it leaves the cursor inside of them and not before where it
was, and behind it if it ends well; and however it ends, the cursor is as deep as before and has
been no deeper than allowed. -/
theorem read_result (context : Context) (htokens : EndsInEof tokens) (procedure : Procedure)
    (hposition : c.position < tokens.length) (hdepth : c.depth ≤ maxNesting) :
    ∃ ending c', Ends (read context tokens · procedure) c ending c' ∧ ending ≠ .error .outside ∧
      Stays tokens c c' ∧ (ending = .ok () → c.position < c'.position) := by
  obtain ⟨room, hroom⟩ := Nat.exists_eq_add_of_le hdepth
  obtain ⟨c', hresult, hstays, -, hahead⟩ :=
    follows_read context room htokens procedure c hroom.symm hposition
  refine ⟨_, c', hresult, ?_, hstays, fun hok => ?_⟩
  · unfold endingOf
    split <;> simp
  · cases hw : (walkOf context procedure room (c.ahead tokens)).rest with
    | error e => simp [endingOf, hw] at hok
    | ok rest =>
        have hadvance := walkOf_advances context room procedure hw
        rw [← hahead rest hw, ahead, ahead, List.length_drop, List.length_drop] at hadvance
        omega

/-- The tokens of "(x)". -/
def parenthesized : List Token :=
  [⟨.lparen, ['('], 0⟩, ⟨.ident, ['x'], 1⟩, ⟨.rparen, [')'], 2⟩, ⟨.eof, [], 3⟩]

/-- Parentheses at the limit, inside of which there is no room. -/
theorem read_result_parenthesized :
    EndsInEof parenthesized ∧ 0 < parenthesized.length ∧ 64 ≤ maxNesting ∧
      ∃ ending c', Ends (read .empty parenthesized · .primary) ⟨0, 64, 64, []⟩ ending c' ∧
        ending ≠ .error .outside ∧ Stays parenthesized ⟨0, 64, 64, []⟩ c' ∧
          (ending = .ok () → 0 < c'.position) := by
  have htokens : EndsInEof parenthesized := ⟨parenthesized.take 3, ⟨.eof, [], 3⟩, rfl, rfl⟩
  have hposition : 0 < parenthesized.length := by decide
  have hdepth : 64 ≤ maxNesting := by decide
  exact ⟨htokens, hposition, hdepth, read_result .empty htokens .primary hposition hdepth⟩

/-! ## Whole expressions -/

theorem readWhole_of_error {fuel : Nat} {e : SyntaxError}
    (h : (read context tokens fuel (.levels levels)).result c = some (.error (.syntaxError e), c')) :
    (readWhole context tokens fuel).result c = some (.ok (), c'.told [.syntaxError e]) := by
  rw [readWhole, result_tryCatch_of_error (result_bind_of_error h)]
  rfl

theorem readWhole_of_ok {fuel : Nat}
    (h : (read context tokens fuel (.levels levels)).result c = some (.ok (), c'))
    (hahead : c'.ahead tokens = t :: rest) :
    (readWhole context tokens fuel).result c = some (.ok (),
      if t.kind = .eof then c' else c'.told [.syntaxError (.trailingTokens t.text)]) := by
  rw [readWhole, result_tryCatch_of_ok]
  rw [result_bind_of_ok h, result_bind_of_ok (look_result hahead)]
  split <;> rfl

/-- With enough fuel a cursor finds in tokens what the walk over them does. -/
theorem findings?_eq (context : Context) (htokens : EndsInEof tokens) :
    ∃ enough, ∀ fuel, enough ≤ fuel →
      findings? context tokens fuel = some (checkTokens context tokens) := by
  have hstart : start.position < tokens.length := by
    obtain ⟨front, last, rfl, -⟩ := htokens
    simp [start]
  have hroom : start.depth + maxNesting = maxNesting := Nat.zero_add _
  have hfollows := follows_read context maxNesting htokens (.levels levels) start hroom hstart
  rw [walkOf, ← walkExpression_eq_climb, ahead_start] at hfollows
  obtain ⟨c', ⟨enough, hends⟩, hstays, hfindings, hahead⟩ := hfollows
  have hfound : c'.findings = (walkExpression context (walk context maxNesting) tokens).findings :=
    hfindings
  refine ⟨enough, fun fuel hfuel => ?_⟩
  have hresult := hends fuel hfuel
  unfold findings? checkTokens
  cases hw : (walkExpression context (walk context maxNesting) tokens).rest with
  | error e =>
      rw [endingOf, hw] at hresult
      rw [readWhole_of_error hresult]
      simp only [hw, ← hfound]
      rfl
  | ok rest =>
      obtain ⟨t, more, hnext⟩ := List.exists_cons_of_ne_nil (ahead_ne_nil hstays.lt)
      obtain rfl : t :: more = rest := hnext ▸ hahead rest hw
      rw [endingOf, hw] at hresult
      rw [readWhole_of_ok hresult hnext]
      simp only [hw, ← hfound]
      split <;> rfl

/-- With enough fuel a cursor finds in the tokens of a text what is found in the text. -/
theorem findings?_readAll (context : Context) {text : Text} (h : Token.readAll text = .ok tokens) :
    ∃ enough, ∀ fuel, enough ≤ fuel → findings? context tokens fuel = some (check context text) := by
  obtain ⟨front, last, htokens, hlast, -⟩ := Token.readFrom_ends h
  rw [check, h]
  exact findings?_eq context ⟨front, last, htokens, hlast⟩

end CatchmentLint.Expression.Cursor
