import CatchmentLint.Proofs.Expression.Walk
import CatchmentLint.Expression.Cursor

/-!
# CatchmentLint.Proofs.Expression.Cursor

Readings of a cursor, one after another, and the walks that they follow.

* `Reading.result_bind_of_ok`, `Reading.result_bind_of_error` — a reading goes on where the one
  before it has ended, unless in an error;
* `EndsInEof.rest_ne_nil` — behind a token that is not the end there is another one, so that the
  cursor moves on;
* `Stays` — what every reading leaves of a cursor;
* `Follows` — a reading that ends like a walk, finds the same and stops where it does;
* `Follows.andThen` — readings follow one after another what the walks are one after another.
-/

namespace CatchmentLint.Expression

/-! ## Readings one after another -/

namespace Reading

variable {α β : Type} {c c' : Cursor} {x : Reading α} {f : α → Reading β}

/-- A reading goes on where the one before it has ended. -/
theorem result_bind_of_ok {a : α} (h : x.result c = some (.ok a, c')) :
    (x >>= f).result c = (f a).result c' := by
  unfold result at h ⊢
  simp only [ExceptT.run_bind, StateT.run_bind, h]
  rfl

/-- After an error nothing is read. -/
theorem result_bind_of_error {e : Stop} (h : x.result c = some (.error e, c')) :
    (x >>= f).result c = some (.error e, c') := by
  unfold result at h ⊢
  simp only [ExceptT.run_bind, StateT.run_bind, h]
  rfl

/-- Without an error there is nothing to catch. -/
theorem result_tryCatch_of_ok {a : α} {g : Stop → Reading α} (h : x.result c = some (.ok a, c')) :
    (tryCatch x g).result c = some (.ok a, c') := by
  have hrun : StateT.run x c = some (.ok a, c') := h
  simp only [result, tryCatch, tryCatchThe, MonadExceptOf.tryCatch, ExceptT.tryCatch, ExceptT.run_mk,
    StateT.run_bind, hrun]
  rfl

/-- What catches an error goes on where the error was. -/
theorem result_tryCatch_of_error {e : Stop} {g : Stop → Reading α}
    (h : x.result c = some (.error e, c')) : (tryCatch x g).result c = (g e).result c' := by
  have hrun : StateT.run x c = some (.error e, c') := h
  simp only [result, tryCatch, tryCatchThe, MonadExceptOf.tryCatch, ExceptT.tryCatch, ExceptT.run_mk,
    StateT.run_bind, hrun]
  rfl

theorem result_get : (get : Reading Cursor).result c = some (.ok c, c) := rfl

/-- With enough fuel the reading ends so. -/
def Ends (x : Nat → Reading α) (c : Cursor) (ending : Except Stop α) (c' : Cursor) : Prop :=
  ∃ enough, ∀ fuel, enough ≤ fuel → (x fuel).result c = some (ending, c')

section Ends

variable {x : Nat → Reading α} {f : α → Nat → Reading β} {c'' : Cursor}

/-- A reading that needs no fuel ends with any. -/
theorem ends_const {x : Reading α} {ending : Except Stop α} (h : x.result c = some (ending, c')) :
    Ends (fun _ => x) c ending c' :=
  ⟨0, fun _ _ => h⟩

/-- A reading that takes one off its fuel. -/
theorem Ends.succ {ending : Except Stop α} (h : Ends (fun fuel => x (fuel + 1)) c ending c') :
    Ends x c ending c' := by
  obtain ⟨enough, hends⟩ := h
  refine ⟨enough + 1, fun fuel hfuel => ?_⟩
  obtain ⟨fuel, rfl⟩ := Nat.exists_eq_add_of_le' (Nat.le_trans (Nat.le_add_left 1 enough) hfuel)
  exact hends fuel (Nat.le_of_succ_le_succ hfuel)

/-- Two readings end with the greater fuel of both. -/
theorem Ends.bind {a : α} {ending : Except Stop β} (h : Ends x c (.ok a) c')
    (hnext : Ends (f a) c' ending c'') :
    Ends (fun fuel => x fuel >>= fun a => f a fuel) c ending c'' := by
  obtain ⟨enough, hends⟩ := h
  obtain ⟨more, hnext⟩ := hnext
  refine ⟨max enough more, fun fuel hfuel => ?_⟩
  rw [result_bind_of_ok (hends fuel (Nat.le_trans (Nat.le_max_left _ _) hfuel))]
  exact hnext fuel (Nat.le_trans (Nat.le_max_right _ _) hfuel)

/-- An error ends both. -/
theorem Ends.bind_error {e : Stop} (h : Ends x c (.error e) c') :
    Ends (fun fuel => x fuel >>= fun a => f a fuel) c (.error e) c' := by
  obtain ⟨enough, hends⟩ := h
  exact ⟨enough, fun fuel hfuel => result_bind_of_error (hends fuel hfuel)⟩

end Ends

end Reading

namespace Cursor

open Reading

/-! ## Places in the tokens -/

/-- The last token is the end. -/
def EndsInEof (tokens : List Token) : Prop := ∃ front last, tokens = front ++ [last] ∧ last.kind = .eof

/-- The tokens from the cursor on. -/
def ahead (tokens : List Token) (c : Cursor) : List Token := tokens.drop c.position

theorem ahead_start (tokens : List Token) : start.ahead tokens = tokens := rfl

/-- The cursor one token further. -/
def moved (c : Cursor) : Cursor := { c with position := c.position + 1 }

/-- The cursor after some findings. -/
def told (c : Cursor) (findings : List Diagnostic) : Cursor :=
  { c with findings := c.findings ++ findings }

variable {tokens rest : List Token} {t : Token} {c c' : Cursor}

/-- Inside of the tokens there is one ahead. -/
theorem ahead_ne_nil (h : c.position < tokens.length) : c.ahead tokens ≠ [] :=
  List.ne_nil_of_length_pos (by rw [ahead, List.length_drop]; omega)

/-- What is ahead are the tokens from the cursor on. -/
theorem getElem?_of_ahead (h : c.ahead tokens = t :: rest) (n : Nat) :
    tokens[c.position + n]? = (t :: rest)[n]? := by
  rw [← h, ahead, List.getElem?_drop]

/-- One token further, that token is no longer ahead. -/
theorem ahead_moved (h : c.ahead tokens = t :: rest) : c.moved.ahead tokens = rest := by
  have htail : (c.ahead tokens).tail = rest := by rw [h, List.tail_cons]
  rwa [ahead, List.tail_drop] at htail

/-- With a token ahead the cursor stands inside. -/
theorem lt_length_of_ahead (h : c.ahead tokens = t :: rest) : c.position < tokens.length := by
  refine Nat.lt_of_not_le fun hle => ?_
  rw [ahead, List.drop_eq_nil_of_le hle] at h
  contradiction

/-- Behind a token that is not the end there is another one. -/
theorem EndsInEof.rest_ne_nil (htokens : EndsInEof tokens) (h : c.ahead tokens = t :: rest)
    (ht : t.kind ≠ .eof) : rest ≠ [] := by
  obtain ⟨front, last, rfl, hlast⟩ := htokens
  rintro rfl
  have hsame : (front ++ [last]).getLast? = some t := by
    rw [← List.take_append_drop c.position (front ++ [last])]
    change (_ ++ c.ahead _).getLast? = some t
    rw [h, List.getLast?_concat]
  rw [List.getLast?_concat] at hsame
  exact ht (Option.some.inj hsame ▸ hlast)

/-! ## Moves -/

/-- Looking moves nothing. -/
theorem look_result (h : c.ahead tokens = t :: rest) :
    (look tokens).result c = some (.ok t, c) := by
  have hhere : tokens[c.position]? = some t := getElem?_of_ahead h 0
  rw [look, result_bind_of_ok result_get, hhere]
  rfl

/-- The cursor moves on if there is another token behind. -/
theorem advance_result (h : c.ahead tokens = t :: rest) (hrest : rest ≠ []) :
    (advance tokens).result c = some (.ok (), c.moved) := by
  have hnext : c.position + 1 < tokens.length := by
    obtain ⟨next, more, rfl⟩ := List.exists_cons_of_ne_nil hrest
    exact lt_length_of_ahead (ahead_moved h)
  have hmove : (advance tokens).result c =
      some (.ok (), if c.position + 1 < tokens.length then c.moved else c) := rfl
  rw [hmove, if_pos hnext]

/-- At the last token it stays. -/
theorem advance_result_last (h : c.ahead tokens = [t]) :
    (advance tokens).result c = some (.ok (), c) := by
  have hlast : ¬c.position + 1 < tokens.length := by
    have hlength := congrArg List.length h
    rw [ahead, List.length_drop, List.length_singleton] at hlength
    omega
  have hmove : (advance tokens).result c =
      some (.ok (), if c.position + 1 < tokens.length then c.moved else c) := rfl
  rw [hmove, if_neg hlast]

/-- Looking for an operator moves nothing either. -/
theorem operator?_result (h : c.ahead tokens = t :: rest) (operators : List Text) :
    (operator? tokens operators).result c =
      some (.ok (if isOneOf operators t then some t else none), c) := by
  rw [operator?, result_bind_of_ok (look_result h)]
  rfl

/-! ## What a reading leaves -/

/-- The cursor stands inside of the tokens and not before where it was, as deep as before, and has
been no deeper than allowed. -/
structure Stays (tokens : List Token) (c c' : Cursor) : Prop where
  le : c.position ≤ c'.position
  lt : c'.position < tokens.length
  depth_eq : c'.depth = c.depth
  deepest_le : c'.deepest ≤ max c.deepest maxNesting

/-- A cursor inside of the tokens stays there. -/
theorem Stays.refl (h : c.position < tokens.length) : Stays tokens c c :=
  ⟨Nat.le_refl _, h, rfl, Nat.le_max_left _ _⟩

/-- One reading after the other. -/
theorem Stays.trans {c'' : Cursor} (h : Stays tokens c c') (h' : Stays tokens c' c'') :
    Stays tokens c c'' where
  le := Nat.le_trans h.le h'.le
  lt := h'.lt
  depth_eq := h'.depth_eq.trans h.depth_eq
  deepest_le := Nat.le_trans h'.deepest_le (Nat.max_le.mpr ⟨h.deepest_le, Nat.le_max_right _ _⟩)

/-- Moving on stays inside, and goes on. -/
theorem stays_moved (h : c.ahead tokens = t :: rest) (hrest : rest ≠ []) :
    Stays tokens c c.moved := by
  obtain ⟨next, more, rfl⟩ := List.exists_cons_of_ne_nil hrest
  exact ⟨Nat.le_succ _, lt_length_of_ahead (ahead_moved h), rfl, Nat.le_max_left _ _⟩

/-! ## Readings that follow walks -/

/-- How a reading ends that follows the walk. -/
def endingOf (w : Walk) : Except Stop Unit :=
  match w.rest with
  | .ok _ => .ok ()
  | .error e => .error (.syntaxError e)

/-- The reading ends like the walk, finds the same, and stops where it does. -/
def Follows (tokens : List Token) (c : Cursor) (x : Nat → Reading Unit) (w : Walk) : Prop :=
  ∃ c', Ends x c (endingOf w) c' ∧ Stays tokens c c' ∧
    c'.findings = c.findings ++ w.findings ∧ ∀ rest, w.rest = .ok rest → c'.ahead tokens = rest

section Follows

variable {x : Nat → Reading Unit} {w : Walk}

/-- A reading of nothing follows the walk that is done. -/
theorem follows_done (h : c.position < tokens.length) :
    Follows tokens c (fun _ => pure ()) (.done (c.ahead tokens)) := by
  refine ⟨c, ends_const rfl, .refl h, (List.append_nil _).symm, fun rest hrest => ?_⟩
  exact Except.ok.inj hrest

/-- A reading that fails follows the walk that fails. -/
theorem follows_fail (h : c.position < tokens.length) (e : SyntaxError) :
    Follows tokens c (fun _ => fail e) (.fail e) :=
  ⟨c, ends_const rfl, .refl h, (List.append_nil _).symm, nofun⟩

/-- What is told last. -/
theorem follows_tell (h : c.position < tokens.length) (findings : List Diagnostic) :
    Follows tokens c (fun _ => tell findings) ((Walk.done (c.ahead tokens)).after findings) := by
  refine ⟨c.told findings, ends_const rfl, ⟨Nat.le_refl _, h, rfl, Nat.le_max_left _ _⟩, ?_,
    fun rest hrest => Except.ok.inj hrest⟩
  rw [Walk.after, Walk.done, List.append_nil, told]

/-- A last move onto the next token. -/
theorem follows_advance (hahead : c.ahead tokens = t :: rest) (hrest : rest ≠ []) :
    Follows tokens c (fun _ => advance tokens) (.done rest) := by
  refine ⟨c.moved, ends_const (advance_result hahead hrest), stays_moved hahead hrest,
    (List.append_nil _).symm, fun after hafter => ?_⟩
  rw [ahead_moved hahead, Except.ok.inj hafter]

/-- A counter that is taken down by one follows the same walk. -/
theorem Follows.succ (h : Follows tokens c (fun fuel => x (fuel + 1)) w) : Follows tokens c x w := by
  obtain ⟨c', hends, hleft⟩ := h
  exact ⟨c', hends.succ, hleft⟩

/-- A step that leaves the findings, before a reading that follows a walk. -/
theorem Follows.step {α : Type} {x : Reading α} {f : α → Nat → Reading Unit} {a : α}
    (hstep : x.result c = some (.ok a, c')) (hstays : Stays tokens c c')
    (hfindings : c'.findings = c.findings) (h : Follows tokens c' (f a) w) :
    Follows tokens c (fun fuel => x >>= fun a => f a fuel) w := by
  obtain ⟨c'', hends, hstays', hfound, hahead⟩ := h
  refine ⟨c'', (ends_const hstep).bind hends, hstays.trans hstays', ?_, hahead⟩
  rw [hfound, hfindings]

/-- Looking at the token ahead follows a walk by cases on its first token. -/
theorem Follows.look {f : Token → Nat → Reading Unit} (hahead : c.ahead tokens = t :: rest)
    (h : Follows tokens c (f t) w) : Follows tokens c (fun fuel => look tokens >>= fun t => f t fuel) w :=
  h.step (look_result hahead) (.refl (lt_length_of_ahead hahead)) rfl

/-- Moving on follows a walk that goes on behind its first token. -/
theorem Follows.advance {f : Unit → Nat → Reading Unit} (hahead : c.ahead tokens = t :: rest)
    (hrest : rest ≠ []) (h : Follows tokens c.moved (f ()) w) :
    Follows tokens c (fun fuel => advance tokens >>= fun u => f u fuel) w :=
  h.step (advance_result hahead hrest) (stays_moved hahead hrest) rfl

/-- Telling of findings follows a walk with them in front. -/
theorem Follows.tell {f : Unit → Nat → Reading Unit} {findings : List Diagnostic}
    (h : Follows tokens (c.told findings) (f ()) w) :
    Follows tokens c (fun fuel => tell findings >>= fun u => f u fuel) (w.after findings) := by
  obtain ⟨c', hends, hstays, hfound, hahead⟩ := h
  refine ⟨c', (ends_const rfl).bind hends, ⟨hstays.le, hstays.lt, hstays.depth_eq, hstays.deepest_le⟩,
    ?_, hahead⟩
  rw [hfound, told, List.append_assoc]
  rfl

/-- One reading after the other follows one walk after the other. -/
theorem Follows.andThen {f : Unit → Nat → Reading Unit} {next : List Token → Walk}
    (h : Follows tokens c x w)
    (hnext : ∀ c', Stays tokens c c' → w.rest = .ok (c'.ahead tokens) →
      Follows tokens c' (f ()) (next (c'.ahead tokens))) :
    Follows tokens c (fun fuel => x fuel >>= fun u => f u fuel) (w.andThen next) := by
  obtain ⟨c', hends, hstays, hfound, hahead⟩ := h
  cases hw : w.rest with
  | error e =>
      have hending : endingOf w = .error (.syntaxError e) := by rw [endingOf, hw]
      rw [Walk.andThen_of_error hw]
      refine ⟨c', ?_, hstays, hfound, hahead⟩
      rw [hending] at hends ⊢
      exact hends.bind_error
  | ok rest =>
      have hending : endingOf w = .ok () := by rw [endingOf, hw]
      obtain rfl := hahead rest hw
      obtain ⟨c'', hends', hstays', hfound', hahead'⟩ := hnext c' hstays hw
      rw [Walk.andThen_of_ok hw]
      rw [hending] at hends
      refine ⟨c'', hends.bind hends', hstays.trans hstays', ?_, hahead'⟩
      rw [hfound', hfound, List.append_assoc]
      rfl

/-- A token is expected by both alike, and by both passed or told of. -/
theorem follows_expect (htokens : EndsInEof tokens) {kind : TokenKind} (hkind : kind ≠ .eof)
    (h : c.position < tokens.length) :
    Follows tokens c (fun _ => expect tokens kind) (Expression.expect kind (c.ahead tokens)) := by
  obtain ⟨t, rest, hahead⟩ := List.exists_cons_of_ne_nil (ahead_ne_nil h)
  rw [hahead]
  refine Follows.look hahead ?_
  simp only [Expression.expect]
  by_cases ht : t.kind = kind
  · simp only [if_pos ht]
    exact follows_advance hahead (htokens.rest_ne_nil hahead (ht ▸ hkind))
  · simp only [if_neg ht]
    exact follows_fail h _

end Follows

end Cursor

end CatchmentLint.Expression
