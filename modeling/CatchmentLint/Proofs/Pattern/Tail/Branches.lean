import CatchmentLint.Proofs.Pattern.Tail.Items

/-!
# CatchmentLint.Proofs.Pattern.Tail.Branches

Groups and whole patterns, read with `)$` behind the text and without: `readBranches_agrees`.
-/

namespace CatchmentLint.Pattern

variable {r r' q : Reading} {s : Text}

/-! ## Groups -/

/-- Flags are read alike; where the text ends in them, the longer one is read up to its `)`, as a
group of flags alone. -/
theorem readFlags_agrees {fuel fuel' : Nat} (on dangling : Bool) (changes : FlagChanges)
    (h : Joins r r') (hfuel : r.rest.length < fuel) (hfuel' : r'.rest.length < fuel') :
    Agrees Spent (readFlags fuel on dangling changes r)
      (readFlags fuel' on dangling changes r') := by
  induction fuel generalizing fuel' on dangling changes r r' with
  | zero => contradiction
  | succ fuel ih =>
      obtain ⟨fuel', rfl⟩ := Nat.exists_eq_add_one_of_ne_zero (Nat.ne_zero_of_lt hfuel')
      cases hr : r.rest with
      | nil =>
          have hnone : readFlags (fuel + 1) on dangling changes r = none := by
            simp [readFlags, Reading.next?, hr]
          rw [hnone]
          exact .refused (within_readFlags _ _ _ _ (h.tail_suffix hr))
      | cons c s =>
          obtain ⟨hnext, hnext'⟩ := h.next?_eq hr
          have hlength := length_of_next? hnext
          have hlength' := length_of_next? hnext'
          have hafter := h.goTo s
          simp only [readFlags, hnext, hnext', Option.bind_eq_bind, Option.bind_some]
          split
          · split
            · exact .none
            · exact .read _ hafter
          · split
            · split
              · exact ih _ _ _ hafter (by omega) (by omega)
              · exact .none
            · split
              · exact .none
              · split
                · exact .none
                · exact ih _ _ _ hafter (by omega) (by omega)

/-- Both readings know the same names of groups. -/
theorem Joins.withName (h : Joins r r') (s : Text) (names : List Text) :
    Joins { r with rest := s, names := names }
      { r' with rest := s ++ closing, names := names } := by
  have hgo : ({ r' with rest := s ++ closing, names := names } : Reading) =
      { rest := s ++ closing, verbose := r.verbose, names := names } := by
    rw [h.verbose_eq]
  rw [hgo]
  exact .behind (r := { r with rest := s, names := names })

/-- The name of a group is read alike: its bracket stands in the text or nowhere. -/
theorem readName_agrees {P : Opening → Reading → Prop} (h : Joins r r') :
    Agrees P (readName r) (readName r') := by
  unfold readName
  rcases h.of_append (f := Text.cut? '>') (cut?_append_closing (by decide)) rfl with
    ⟨hcut, hcut'⟩ | ⟨name, t, hcut, hcut'⟩
  · simp only [hcut, hcut']
    exact .none
  · simp only [hcut, hcut', h.names_eq]
    cases name with
    | nil => exact .none
    | cons c name =>
        simp only
        split
        · exact .read _ (h.withName t _)
        · exact .none

/-- The mark of a group with a name is found by both or by neither. -/
theorem pastNameMark?_joins (h : Joins r r') :
    pastNameMark? r = none ∧ pastNameMark? r' = none ∨
      ∃ q q', pastNameMark? r = some q ∧ pastNameMark? r' = some q' ∧ Joins q q' := by
  unfold pastNameMark?
  rcases h.past? (c := 'P') (by decide) with ⟨hp, hp'⟩ | ⟨p, p', hp, hp', hjoins⟩
  · simp only [hp, hp']
    exact h.past? (by decide)
  · simp only [hp, hp']
    exact hjoins.past? (by decide)

/-- What opens a look around, which no group may, is seen alike. -/
theorem isLookAround_eq (h : Joins r r') : isLookAround r'.rest = isLookAround r.rest := by
  cases h with
  | behind =>
      simp only [isLookAround, List.any_cons, List.any_nil]
      rw [dropLead?_append_closing (by decide), dropLead?_append_closing (by decide),
        dropLead?_append_closing (by decide), dropLead?_append_closing (by decide)]
      simp only [Option.isSome_map]
  | swallowed _ => rfl

/-- What opens a group is read alike, but for flags that the text ends in. -/
theorem readOpening_agrees (h : Joins r r') : Agrees Spent (readOpening r) (readOpening r') := by
  simp only [readOpening, isLookAround_eq h.skip]
  split
  · exact .none
  · rcases h.skip.past? (c := '?') (by decide) with ⟨hp, hp'⟩ | ⟨p, p', hp, hp', hjoins⟩
    · simp only [hp, hp']
      exact .read _ h.skip
    · simp only [hp, hp']
      rcases pastNameMark?_joins hjoins with ⟨hmark, hmark'⟩ | ⟨q, q', hmark, hmark', hname⟩
      · simp only [hmark, hmark']
        exact (readFlags_agrees true false [] hjoins (Nat.lt_succ_self _) (Nat.lt_succ_self _)).bind
          (fun flags q q' _ _ hq => .map_value hq) fun flags q hq => .map_value fun _ => hq
      · simp only [hmark, hmark']
        exact readName_agrees hname

/-! ## Patterns -/

/-- What was read last is repeated alike. -/
theorem repeatLast_agrees {P : List Ast → Reading → Prop} (turns : Nat × Option Nat)
    (items : List Ast) (h : Joins r r') :
    Agrees P (repeatLast turns items r) (repeatLast turns items r') := by
  obtain ⟨hlazy, hjoins⟩ := readLazyMark_joins h
  unfold repeatLast
  split
  · simp only [hlazy]
    split
    · exact .read _ hjoins
    · exact .none
  · exact .none

/-- An operator of repetition is read alike, with its counts. -/
theorem readTurns_agrees {P : Nat × Option Nat → Reading → Prop} (c : Char) (h : Joins r r') :
    Agrees P (readTurns c r) (readTurns c r') := by
  unfold readTurns
  split
  · exact .read _ h
  · split
    · exact .read _ h
    · split
      · exact .read _ h
      · exact readCounts_agrees h

/-- An atom is read alike, but for an escape that the text ends in. -/
theorem readAtom_agrees (c : Char) (h : Joins r r') :
    Agrees Stray (readAtom c r) (readAtom c r') := by
  unfold readAtom
  split
  · exact (readClass_agrees h).mono fun _ _ hq => .inl hq
  · split
    · exact readEscape_agrees h
    · split
      · exact .read _ h
      · split
        · exact .read _ h
        · split
          · exact .read _ h
          · exact .read _ h

/-- No count stands between the brace and the end of the text. -/
theorem readBranches_of_brace (fuel : Nat) (items branches : List Ast) (h : EndsInBrace r) :
    readBranches fuel items branches r = none := by
  cases fuel with
  | zero => rfl
  | succ fuel =>
      obtain ⟨inside, hinside, hclosing⟩ := h
      have hrest := rest_of_past? hinside
      have hskip : r.skip = r := by
        have hblank : isBlank '{' = false := by decide
        have hsame : Reading.skipBlanks false r.rest = r.rest := by
          rw [hrest]
          simp [Reading.skipBlanks, hblank]
        simp only [Reading.skip, hsame, ite_self]
      have hnext : r.next? = some ('{', inside) := by
        obtain ⟨t, ht, rfl⟩ := Option.map_eq_some_iff.mp hinside
        simp only [Reading.next?, Text.dropLead?_eq_some_iff.mp ht]
        rfl
      have hturns : readTurns '{' inside = none := readCounts_of_closing hclosing
      have hrepeats : repeats '{' = true := by decide
      simp only [readBranches, hskip, hnext, hrepeats, if_true, hturns]
      rfl

/-- A group is read alike if what is inside of it and behind it is.  A group that the text leaves
open is closed by the `)`, so that only the `$` is left for what follows. -/
theorem readOpened_agrees
    {readRest readRest' : List Ast → List Ast → Reading → Option (Ast × Reading)} {fuel fuel' : Nat}
    (hagrees : ∀ {r r' : Reading} (items branches : List Ast), Joins r r' → r.rest.length < fuel →
      r'.rest.length < fuel' →
        Agrees Spent (readRest items branches r) (readRest' items branches r'))
    (hwithin : ∀ {r : Reading} {s : Text} (items branches : List Ast), r.rest <:+ s →
      Within s (readRest items branches r))
    (hwithin' : ∀ {r : Reading} {s : Text} (items branches : List Ast), r.rest <:+ s →
      Within s (readRest' items branches r))
    (items branches : List Ast) (verbose : Bool) (opening : Opening) (h : Joins r r')
    (hfuel : r.rest.length < fuel) (hfuel' : r'.rest.length < fuel') :
    Agrees Spent (readOpened readRest items branches verbose opening r)
      (readOpened readRest' items branches verbose opening r') := by
  have hverbose := h.verbose_eq
  cases opening with
  | directive changes =>
      simp only [readOpened, hverbose]
      exact hagrees _ _ (h.withVerbose _) hfuel hfuel'
  | group captures changes =>
      have hinside := h.withVerbose ((changes.value? .verbose).getD r.verbose)
      simp only [readOpened, hverbose]
      refine (hagrees [] [] hinside hfuel hfuel').bind
        (fun body q q' hq hq' hjoins => ?_) fun body q hq a p hp => ?_
      · have hbody := (hwithin _ _ (List.suffix_refl _) body q hq).length_le
        have hbody' := (hwithin' _ _ (List.suffix_refl _) body q' hq').length_le
        simp only
        rcases hjoins.past?_closing with ⟨hp, hp'⟩ | ⟨p, p', hp, hp', hjoins⟩
        -- The text leaves the group open: only the longer one goes on, with the `$`.
        · rw [hp]
          refine .refused fun a z hz => ?_
          obtain ⟨closed, hclosed, hz⟩ := Option.bind_eq_some_iff.mp hz
          have hend : closed.rest <:+ ['$'] := ⟨[], hp' closed hclosed⟩
          exact hwithin' (r := { closed with verbose := verbose }) _ _ hend a z hz
        · have hclosed := length_of_past? hp
          have hclosed' := length_of_past? hp'
          simp only [hp, hp', Option.bind_eq_bind, Option.bind_some]
          exact hagrees _ _ (hjoins.withVerbose verbose) (by simp only at *; omega)
            (by simp only at *; omega)
      · obtain ⟨closed, hclosed, hp⟩ := Option.bind_eq_some_iff.mp hp
        have hend := past?_suffix hclosed hq
        exact hwithin' (r := { closed with verbose := verbose }) _ _ hend a p hp

/-- The branches end where the text does, with nothing left or at the `)` behind it. -/
theorem readBranches_agrees_of_nil {P : Ast → Reading → Prop} (fuel fuel' : Nat)
    (items branches : List Ast) (h : Joins r r') (hr : r.skip.rest = []) :
    Agrees P (readBranches (fuel + 1) items branches r)
      (readBranches (fuel' + 1) items branches r') := by
  have hnext : r.skip.next? = none := by simp [Reading.next?, hr]
  simp only [readBranches, hnext]
  rcases h.skip.rest_eq_of_nil hr with hr' | hr'
  · have hnext' : r'.skip.next? = none := by simp [Reading.next?, hr']
    simp only [hnext']
    exact .read _ h.skip
  · have hnext' : r'.skip.next? = some (')', r'.skip.goTo ['$']) := by
      simp [Reading.next?, hr', closing]
    simp only [hnext', if_true]
    exact .read _ h.skip

/-- A whole pattern is read alike with `)$` behind it: what is no pattern by itself becomes one only
by taking the `)` for its own, and then leaves at most the `$`. -/
theorem readBranches_agrees {fuel fuel' : Nat} (items branches : List Ast) (h : Joins r r')
    (hfuel : r.rest.length < fuel) (hfuel' : r'.rest.length < fuel') :
    Agrees Spent (readBranches fuel items branches r) (readBranches fuel' items branches r') := by
  induction fuel generalizing fuel' items branches r r' with
  | zero => contradiction
  | succ fuel ih =>
      obtain ⟨fuel', rfl⟩ := Nat.exists_eq_add_one_of_ne_zero (Nat.ne_zero_of_lt hfuel')
      have hskip := length_skip_le r
      have hskip' := length_skip_le r'
      cases hr : r.skip.rest with
      | nil => exact readBranches_agrees_of_nil _ _ items branches h hr
      | cons c s =>
          -- Both take the same character, and the cases are what it can be: the end of a group,
          -- of a branch, the start of a group, a repetition, an atom.
          simp only [readBranches]
          obtain ⟨hnext, hnext'⟩ := h.skip.next?_eq hr
          have hlength := length_of_next? hnext
          have hlength' := length_of_next? hnext'
          have hafter := h.skip.goTo s
          generalize r.skip.goTo s = after at hnext hlength hafter
          generalize r'.skip.goTo (s ++ closing) = after' at hnext' hlength' hafter
          simp only [hnext, hnext']
          split
          · exact .read _ h.skip
          · split
            · exact ih _ _ hafter (by omega) (by omega)
            · split
              · rw [h.skip.verbose_eq]
                refine (readOpening_agrees hafter).bind (fun opening q q' hq hq' hjoins => ?_)
                  fun opening q hq =>
                    within_readOpened (fun _ _ _ => within_readBranches _ _ _) _ _ _ opening hq
                have hopening := (within_readOpening (List.suffix_refl _)).length_le hq
                have hopening' := (within_readOpening (List.suffix_refl _)).length_le hq'
                exact readOpened_agrees ih (within_readBranches fuel) (within_readBranches fuel')
                  _ _ _ opening hjoins (by simp only; omega) (by simp only; omega)
              · split
                · refine (readTurns_agrees (P := fun _ _ => False) c hafter).bind
                    (fun turns q q' hq hq' hjoins => ?_) fun _ _ => False.elim
                  have hturns := (within_readTurns c (List.suffix_refl _)).length_le hq
                  have hturns' := (within_readTurns c (List.suffix_refl _)).length_le hq'
                  refine (repeatLast_agrees (P := fun _ _ => False) turns items hjoins).bind
                    (fun items p p' hp hp' hjoins => ?_) fun _ _ => False.elim
                  have hlast := (within_repeatLast turns _ (List.suffix_refl _)).length_le hp
                  have hlast' := (within_repeatLast turns _ (List.suffix_refl _)).length_le hp'
                  exact ih _ _ hjoins (by simp only at *; omega) (by simp only at *; omega)
                · refine (readAtom_agrees c hafter).bind (fun item q q' hq hq' hjoins => ?_)
                    fun item q hq => ?_
                  · have hatom := (within_readAtom c (List.suffix_refl _)).length_le hq
                    have hatom' := (within_readAtom c (List.suffix_refl _)).length_le hq'
                    exact ih _ _ hjoins (by simp only; omega) (by simp only; omega)
                  -- The escape has taken the `)`, or left a brace that no count stands behind.
                  · rcases hq with hq | ⟨-, hq⟩
                    · exact within_readBranches _ _ _ hq
                    · simp only [readBranches_of_brace _ _ _ hq]
                      exact .none

end CatchmentLint.Pattern
