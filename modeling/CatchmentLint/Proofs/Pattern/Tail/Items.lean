import CatchmentLint.Proofs.Pattern.Tail.Basic

/-!
# CatchmentLint.Proofs.Pattern.Tail.Items

Counts, escapes and classes, read with `)$` behind the text and without.

1. No count and no class goes beyond the text, as `)$` holds neither digits nor brackets.
2. The places `\b{` at the end of the text are the one exception for escapes: with `)$` behind
   them they are read as a place and the start of a count, which is none.
-/

namespace CatchmentLint.Pattern

variable {r r' q : Reading} {s : Text}

/-! ## Counts -/

/-- At the end of the text no digit is found, since `)$` has none. -/
theorem readDigits_of_nil (h : Joins r r') (hr : r.rest = []) (fuel : Nat) :
    readDigits fuel r' = ([], r') := by
  cases fuel with
  | zero => rfl
  | succ fuel => rcases h.rest_eq_of_nil hr with hr' | hr' <;> simp [readDigits, hr', closing]

/-- The same digits are read, whatever more there is to count down from. -/
theorem readDigits_joins {fuel fuel' : Nat} (h : Joins r r') (hfuel : r.rest.length ≤ fuel)
    (hfuel' : r'.rest.length ≤ fuel') :
    (readDigits fuel' r').1 = (readDigits fuel r).1 ∧
      Joins (readDigits fuel r).2 (readDigits fuel' r').2 := by
  induction fuel generalizing fuel' r r' with
  | zero =>
      have hr : r.rest = [] := List.eq_nil_of_length_eq_zero (Nat.le_zero.mp hfuel)
      rw [readDigits_of_nil h hr]
      exact ⟨rfl, h⟩
  | succ fuel ih =>
      cases hr : r.rest with
      | nil =>
          rw [readDigits_of_nil h hr, readDigits_of_nil (.swallowed hr) hr]
          exact ⟨rfl, h⟩
      | cons c s =>
          have hr' := h.rest_eq hr
          rw [hr, List.length_cons] at hfuel
          rw [hr', List.length_cons] at hfuel'
          obtain ⟨fuel', rfl⟩ := Nat.exists_eq_add_one_of_ne_zero (Nat.ne_zero_of_lt hfuel')
          simp only [readDigits, hr, hr']
          split
          · have hlength : (r.goTo s).skip.rest.length ≤ s.length :=
              (length_skip_le _)
            have hlength' : (r'.goTo (s ++ closing)).skip.rest.length ≤ (s ++ closing).length :=
              (length_skip_le _)
            obtain ⟨hdigits, hrest⟩ := ih (h.goTo s).skip (by omega)
              (Nat.le_trans hlength' (Nat.le_of_succ_le_succ hfuel'))
            exact ⟨congrArg (c :: ·) hdigits, hrest⟩
          · exact ⟨rfl, h⟩

/-- Blanks in front are dropped alike, since `)$` has none. -/
theorem trimStart_append_closing (s : Text) :
    Text.trimStart (s ++ closing) = Text.trimStart s ++ closing := by
  induction s with
  | nil => decide
  | cons c s ih =>
      unfold Text.trimStart at ih ⊢
      simp only [List.cons_append, List.dropWhile_cons]
      split
      · exact ih
      · rfl

theorem Joins.dropBlanks (h : Joins r r') : Joins (dropBlanks r) (dropBlanks r') := by
  cases h with
  | behind =>
      have hgo := (Joins.behind (r := r)).goTo (Text.trimStart r.rest)
      rwa [← trimStart_append_closing] at hgo
  | swallowed hnil =>
      exact .swallowed (List.suffix_nil.mp (dropBlanks_suffix (hnil ▸ List.suffix_refl _)))

/-- A number of turns is read alike; nothing but the text itself can be part of it. -/
theorem readCount_agrees {P : Option Nat → Reading → Prop} (h : Joins r r') :
    Agrees P (readCount r) (readCount r') := by
  obtain ⟨hdigits, hjoins⟩ := readDigits_joins h.dropBlanks (Nat.le_refl _) (Nat.le_refl _)
  have hrest := hjoins.dropBlanks.skip
  simp only [readCount, hdigits]
  split
  · exact .read none hrest
  · split
    · exact .read _ hrest
    · exact .none

/-- No count stands at the end of the text. -/
theorem readCounts_of_closing (h : r.skip.rest = closing) : readCounts r = none := by
  have hblanks : (dropBlanks r.skip).rest = closing := by
    show Text.trimStart r.skip.rest = closing
    rw [h]
    decide
  have hdigits : readDigits (dropBlanks r.skip).rest.length (dropBlanks r.skip) =
      ([], dropBlanks r.skip) := by
    rw [hblanks]
    simp [readDigits, hblanks, closing]
  simp [readCounts, readCount, hdigits]

/-- The greatest count is read alike: its brace stands in the text or nowhere. -/
theorem readGreatest_agrees {P : Nat × Option Nat → Reading → Prop} (least : Nat)
    (h : Joins r r') : Agrees P (readGreatest least r) (readGreatest least r') := by
  unfold readGreatest
  rcases h.past? (c := '}') (by decide) with ⟨hq, hq'⟩ | ⟨q, q', hq, hq', hjoins⟩
  · simp only [hq, hq']
    refine (readCount_agrees (P := fun _ _ => False) h).bind (fun second p p' _ _ hp => ?_)
      fun _ _ => False.elim
    refine .bind_value fun greatest => ?_
    rcases hp.past? (c := '}') (by decide) with ⟨hclose, hclose'⟩ | ⟨q, q', hclose, hclose', hq⟩
    · simp only [hclose, hclose']
      exact .none
    · simp only [hclose, hclose', Option.bind_eq_bind, Option.bind_some]
      split
      · exact .read _ hq.skip
      · exact .none
  · simp only [hq, hq']
    exact .read _ hjoins.skip

/-- Counts in braces are read alike, and not at all where the text ends in them. -/
theorem readCounts_agrees {P : Nat × Option Nat → Reading → Prop} (h : Joins r r') :
    Agrees P (readCounts r) (readCounts r') := by
  cases hr : r.skip.rest with
  | nil =>
      have hleft : readCounts r = none := by simp [readCounts, hr]
      have hright : readCounts r' = none := by
        rcases h.skip.rest_eq_of_nil hr with hr' | hr'
        · simp [readCounts, hr']
        · exact readCounts_of_closing hr'
      rw [hleft, hright]
      exact .none
  | cons c s =>
      simp only [readCounts, hr, h.skip.rest_eq hr, List.isEmpty_cons]
      refine (readCount_agrees (P := fun _ _ => False) h.skip).bind (fun first p p' _ _ hp => ?_)
        fun _ _ => False.elim
      refine .bind_value fun least => ?_
      rcases hp.past? (c := '}') (by decide) with ⟨hclose, hclose'⟩ | ⟨q, q', hclose, hclose', hq⟩
      · simp only [hclose, hclose']
        rcases hp.past? (c := ',') (by decide) with ⟨hmore, hmore'⟩ | ⟨q, q', hmore, hmore', hq⟩
        · simp only [hmore, hmore']
          exact .none
        · simp only [hmore, hmore', Option.bind_some]
          exact readGreatest_agrees least hq.skip
      · simp only [hclose, hclose']
        exact .read _ hq.skip

/-- The mark for as few turns as possible is found by both or by neither. -/
theorem readLazyMark_joins (h : Joins r r') :
    (readLazyMark r').1 = (readLazyMark r).1 ∧ Joins (readLazyMark r).2 (readLazyMark r').2 := by
  unfold readLazyMark
  rcases h.past? (c := '?') (by decide) with ⟨hq, hq'⟩ | ⟨q, q', hq, hq', hjoins⟩
  · rw [hq, hq']
    exact ⟨rfl, h⟩
  · rw [hq, hq']
    exact ⟨rfl, hjoins⟩

/-! ## Escapes -/

/-- Hexadecimal digits are read alike; where the text is too short for them the longer one gets as
far as the `)` at most. -/
theorem readHexDigits_agrees (count : Nat) (digits : Text) (h : Joins r r') :
    Agrees Spent (readHexDigits count digits r) (readHexDigits count digits r') := by
  induction count generalizing digits r r' with
  | zero => exact .read _ h
  | succ count ih =>
      refine h.next?.bind (fun c q q' _ _ hq => ?_) fun c q hq => ?_
      · simp only
        split
        · exact ih _ hq.skip
        · exact .none
      · simp only
        split
        · exact within_readHexDigits _ _ (skip_suffix hq)
        · exact .none

/-- Hexadecimal digits in braces are read alike, where the text may leave the braces open. -/
theorem readHexBraced_agrees {fuel fuel' : Nat} (digits : Text) (h : Joins r r')
    (hfuel : r.rest.length < fuel) (hfuel' : r'.rest.length < fuel') :
    Agrees Spent (readHexBraced fuel digits r) (readHexBraced fuel' digits r') := by
  induction fuel generalizing fuel' digits r r' with
  | zero => contradiction
  | succ fuel ih =>
      obtain ⟨fuel', rfl⟩ := Nat.exists_eq_add_one_of_ne_zero (Nat.ne_zero_of_lt hfuel')
      unfold readHexBraced
      rcases h.past? (c := '}') (by decide) with ⟨hp, hp'⟩ | ⟨p, p', hp, hp', hjoins⟩
      · simp only [hp, hp']
        refine h.next?.bind (fun c q q' hnext hnext' hq => ?_) fun c q hq => ?_
        · have hlength := length_skip_of_next? hnext
          have hlength' := length_skip_of_next? hnext'
          simp only
          split
          · exact ih _ hq.skip (by omega) (by omega)
          · exact .none
        · simp only
          split
          · exact within_readHexBraced _ _ (skip_suffix hq)
          · exact .none
      · simp only [hp, hp']
        exact .read _ hjoins.skip

/-- Hexadecimal escapes are read alike in both forms. -/
theorem readHex_agrees (width : Nat) (h : Joins r r') :
    Agrees Spent (readHex width r) (readHex width r') := by
  simp only [readHex]
  rcases h.skip.past? (c := '{') (by decide) with ⟨hp, hp'⟩ | ⟨p, p', hp, hp', hjoins⟩
  · simp only [hp, hp']
    refine (readHexDigits_agrees width [] h.skip).bind (fun digits q q' _ _ hq => ?_)
      fun digits q hq => .bind_value fun l => .some hq
    exact .bind_value fun l => .read l hq
  · simp only [hp, hp']
    refine (readHexBraced_agrees [] hjoins.skip (Nat.lt_succ_of_le ?_)
      (Nat.lt_succ_of_le ?_)).bind (fun digits q q' _ _ hq => ?_)
      fun digits q hq => .bind_value fun l => .some hq
    · exact length_skip_le _
    · exact length_skip_le _
    · exact .bind_value fun l => .read l hq

/-- A text up to a closing brace is read alike, and only what never closes takes in the `)$`. -/
theorem readBraced_agrees {fuel fuel' : Nat} (text : Text) (h : Joins r r')
    (hfuel : r.rest.length < fuel) (hfuel' : r'.rest.length < fuel') :
    Agrees Spent (readBraced fuel text r) (readBraced fuel' text r') := by
  induction fuel generalizing fuel' text r r' with
  | zero => contradiction
  | succ fuel ih =>
      obtain ⟨fuel', rfl⟩ := Nat.exists_eq_add_one_of_ne_zero (Nat.ne_zero_of_lt hfuel')
      unfold readBraced
      rcases h.past? (c := '}') (by decide) with ⟨hp, hp'⟩ | ⟨p, p', hp, hp', hjoins⟩
      · simp only [hp, hp']
        refine h.next?.bind (fun c q q' hnext hnext' hq => ?_) fun c q hq =>
          within_readBraced _ _ (skip_suffix hq)
        have hlength := length_skip_of_next? hnext
        have hlength' := length_skip_of_next? hnext'
        simp only
        exact ih _ hq.skip (by omega) (by omega)
      · simp only [hp, hp']
        exact .read _ hjoins

/-- The name of a class of characters is read alike.  At the end of the text it is the `)`, which is
read as a name of one letter. -/
theorem readProperty_agrees (h : Joins r r') : Agrees Spent (readProperty r) (readProperty r') := by
  simp only [readProperty]
  rcases h.skip.past? (c := '{') (by decide) with ⟨hp, hp'⟩ | ⟨p, p', hp, hp', hjoins⟩
  · simp only [hp, hp']
    refine h.skip.next?.bind (fun c q q' _ _ hq => ?_) fun c q hq => ?_
    · simp only
      split
      · exact .none
      · exact .read _ hq.skip
    · simp only
      split
      · exact .none
      · exact .some (skip_suffix hq)
  · simp only [hp, hp']
    refine (readBraced_agrees [] hjoins.skip (Nat.lt_succ_of_le ?_) (Nat.lt_succ_of_le ?_)).bind
      (fun text q q' _ _ hq => .read _ hq) fun text q hq => .some hq
    · exact length_skip_le _
    · exact length_skip_le _

/-- A `{` is left that the text ends behind. -/
def EndsInBrace (q : Reading) : Prop :=
  ∃ inside, q.past? '{' = some inside ∧ inside.skip.rest = closing

/-- The `)` has been read, or a word place that the text ends behind the brace of. -/
def Stray (item : Ast) (q : Reading) : Prop :=
  q.rest <:+ ['$'] ∨ item = .place .wordBoundary ∧ EndsInBrace q

/-- The place behind `\b` is read alike, unless the text ends in `\b{`: what is left there by the
longer text is the brace. -/
theorem readWordPlace_agrees (h : Joins r r') :
    Agrees (fun p q => q.rest <:+ ['$'] ∨ p = .wordBoundary ∧ EndsInBrace q)
      (readWordPlace r) (readWordPlace r') := by
  unfold readWordPlace
  rcases h.past? (c := '{') (by decide) with ⟨hp, hp'⟩ | ⟨p, p', hp, hp', hjoins⟩
  · simp only [hp, hp']
    exact .read _ h
  · simp only [hp, hp']
    cases hr : p.skip.rest with
    | nil =>
        -- The text ends in `\b{`.  The `)` begins no name of a place, so the brace is left.
        have hnone : p.skip.next? = none := by simp [Reading.next?, hr]
        rw [hnone]
        refine .refused ?_
        rcases hjoins.skip.rest_eq_of_nil hr with hr' | hr'
        · have hnone' : p'.skip.next? = none := by simp [Reading.next?, hr']
          rw [hnone']
          exact .none
        · have hnext' : p'.skip.next? = some (')', p'.skip.goTo ['$']) := by
            simp [Reading.next?, hr', closing]
          have hname : isPlaceNameChar ')' = false := by decide
          simp only [hnext', Option.bind_eq_bind, Option.bind_some, hname, Bool.false_eq_true,
            if_false]
          exact .some (.inr ⟨rfl, p', hp', hr'⟩)
    | cons c s =>
        have hnext : p.skip.next? = some (c, p.skip.goTo s) := by simp [Reading.next?, hr]
        have hnext' : p'.skip.next? = some (c, p'.skip.goTo (s ++ closing)) := by
          simp [Reading.next?, hjoins.skip.rest_eq hr]
        simp only [hnext, hnext', Option.bind_eq_bind, Option.bind_some]
        split
        · refine (readBraced_agrees [] hjoins.skip (Nat.lt_succ_of_le ?_)
            (Nat.lt_succ_of_le ?_)).bind (fun name q q' _ _ hq => ?_)
            fun name q hq => .bind_value fun place => .some (.inl hq)
          · exact length_skip_le _
          · exact length_skip_le _
          · exact .bind_value fun place => .read place hq
        · exact .read _ h

/-- Every escape is read alike, whichever letter stands behind the backslash, but for `\b{`. -/
theorem readEscapeOf_agrees (c : Char) (h : Joins r r') :
    Agrees Stray (readEscapeOf c r) (readEscapeOf c r') := by
  have hproperty (negated : Bool) :=
    (readProperty_agrees h).map (f := (.property · negated)) (Q := Stray) fun _ _ hq => .inl hq
  simp only [readEscapeOf]
  split <;> try
    first
    | exact (readHex_agrees _ h).map fun _ _ hq => .inl hq
    | exact hproperty _
    | exact .read _ h
  · refine (readWordPlace_agrees h).map (f := Ast.place) fun place q hq => ?_
    rcases hq with hq | ⟨rfl, hq⟩
    · exact .inl hq
    · exact .inr ⟨rfl, hq⟩
  · split
    · exact .read _ h
    · exact .none

/-- Every escape is read alike with its letter, which at the end of the text is the `)`. -/
theorem readEscape_agrees (h : Joins r r') : Agrees Stray (readEscape r) (readEscape r') :=
  h.next?.bind (fun c _ _ _ _ hq => readEscapeOf_agrees c hq) fun c _ hq =>
    (within_readEscapeOf c hq).mono fun _ _ hp => .inl hp

/-! ## Classes -/

/-- A cut at a character that `)$` has not falls in the text. -/
theorem cut?_append_closing {c : Char} (hc : c ∉ closing) (s : Text) :
    Text.cut? c (s ++ closing) =
      (Text.cut? c s).map fun (before, after) => (before, after ++ closing) := by
  induction s with
  | nil => exact Text.cut?_eq_none_iff.mpr hc
  | cons d s ih =>
      simp only [List.cons_append, Text.cut?]
      split
      · rfl
      · simp only [ih, Option.map_map]
        rfl

/-- A lead that shares nothing with `)$` is found in the text or not at all. -/
theorem dropLead?_append_closing {lead : Text}
    (hlead : (lead.all fun c => !closing.contains c) = true) (s : Text) :
    Text.dropLead? lead (s ++ closing) = (Text.dropLead? lead s).map (· ++ closing) := by
  induction lead generalizing s with
  | nil => rfl
  | cons c lead ih =>
      rw [List.all_cons, Bool.and_eq_true] at hlead
      cases s with
      | nil =>
          have hne : c ≠ ')' := fun e => by
            subst e
            exact absurd hlead.1 (by decide)
          simp [closing, Text.dropLead?, hne]
      | cons d s =>
          simp only [List.cons_append, Text.dropLead?]
          split
          · exact ih hlead.2 s
          · rfl

/-- A class such as `[:alpha:]` stands in the text as a whole. -/
theorem readAsciiName_append_closing (negated : Bool) (s : Text) :
    readAsciiName negated (s ++ closing) =
      (readAsciiName negated s).map fun (set, rest) => (set, rest ++ closing) := by
  unfold readAsciiName
  rw [cut?_append_closing (by decide)]
  rcases Text.cut? ':' s with _ | ⟨name, rest⟩
  · rfl
  · simp only [Option.map_some, Option.bind_eq_bind, Option.bind_some]
    rw [dropLead?_append_closing (by decide)]
    cases Text.dropLead? [']'] rest with
    | none => rfl
    | some rest =>
        simp only [Option.map_some, Option.bind_some]
        cases asciiClass? name <;> rfl

/-- A class such as `[:alpha:]`, negated or not, stands in the text as a whole. -/
theorem readAscii_append_closing (s : Text) :
    readAscii (s ++ closing) = (readAscii s).map fun (set, rest) => (set, rest ++ closing) := by
  unfold readAscii
  rw [dropLead?_append_closing (by decide)]
  cases Text.dropLead? [':'] s with
  | none => rfl
  | some s =>
      simp only [Option.map_some, Option.bind_eq_bind, Option.bind_some]
      rw [dropLead?_append_closing (by decide)]
      cases Text.dropLead? ['^'] s with
      | none => exact readAsciiName_append_closing false s
      | some s => exact readAsciiName_append_closing true s

/-- The operators of classes have neither `)` nor `$` in them. -/
theorem setOperation?_append_closing (s : Text) :
    setOperation? (s ++ closing) =
      (setOperation? s).map fun (op, rest) => (op, rest ++ closing) := by
  rcases s with _ | ⟨c, _ | ⟨d, s⟩⟩
  · rfl
  · simp [setOperation?, closing]
  · unfold setOperation?
    split <;> simp_all

/-- An item of a class is read alike, but for a word place at the end of the text. -/
theorem readItem_agrees (h : Joins r r') : Agrees Stray (readItem r) (readItem r') := by
  refine h.next?.bind (fun c q q' _ _ hq => ?_) fun c q hq => ?_
  · simp only
    split
    · exact readEscape_agrees hq
    · exact .read _ hq
  · simp only
    split
    · exact (within_readEscape (tail_suffix hq)).mono fun _ _ hp => .inl hp
    · exact .some (.inl hq)

/-- What comes behind blanks is seen alike if it is not one of `)$` nor what is seen of an empty
text. -/
theorem peekBlank_append_closing {c : Char} (hc : c ∉ closing) {text : Text}
    (htext : text.head? ≠ some c) (text' : Text) (inComment : Bool) (s : Text) :
    Reading.peekBlank inComment text' (s ++ closing) = some c ↔
      Reading.peekBlank inComment text s = some c := by
  induction s generalizing inComment with
  | nil =>
      have hne : ')' ≠ c := fun e => hc (e ▸ List.mem_cons_self)
      have hblank : isBlank ')' = false := by decide
      simp [Reading.peekBlank, closing, htext, hne, hblank]
  | cons d s ih =>
      simp only [List.cons_append, Reading.peekBlank]
      split
      · exact ih _
      · split
        · exact ih _
        · exact Iff.rfl

/-- Whether a character comes next that can end or divide a range is seen alike. -/
theorem Joins.peek_eq (h : Joins r r') {c : Char} (hc : c ∉ closing) (hblank : isBlank c = false)
    (hmark : c ≠ '#') {d : Char} {s : Text} (hr : r.rest = d :: s) :
    r'.peek = some c ↔ r.peek = some c := by
  have hne : ')' ≠ c := fun e => hc (e ▸ List.mem_cons_self)
  simp only [Reading.peek, hr, h.rest_eq hr, h.verbose_eq]
  cases s with
  | nil =>
      have hright := peekBlank_append_closing hc (show ([] : Text).head? ≠ some c by simp)
        ([] ++ closing) false []
      split
      · exact hright
      · simp [closing, hne]
  | cons e s =>
      split
      · simp only [List.cons_append, Reading.peekBlank]
        split
        · next he =>
            refine peekBlank_append_closing hc (fun hhead => ?_) _ _ s
            cases hhead
            rw [hblank] at he
            contradiction
        · split
          · next he =>
              refine peekBlank_append_closing hc (fun hhead => ?_) _ _ s
              cases hhead
              exact hmark (by simpa using he)
          · exact Iff.rfl
      · exact Iff.rfl

/-- No place is an item of a class, nor the start of a range. -/
theorem readRangeFrom_place (place : Place) (r : Reading) :
    readRangeFrom (.place place) r = none := by
  unfold readRangeFrom
  split
  · rfl
  · split
    · rfl
    · split
      · rfl
      · next after _ _ => cases readItem after.skip <;> rfl

/-- The rest of a range is read alike.  Only an item at the end of the text makes a difference: with
`)$` behind it the class can go on. -/
theorem readRangeFrom_agrees (item : Ast) (h : Joins r r') :
    Agrees Reached (readRangeFrom item r) (readRangeFrom item r') := by
  unfold readRangeFrom
  cases hr : r.rest with
  | nil =>
      refine .refused ?_
      rcases h.rest_eq_of_nil hr with hr' | hr'
      · simp only [hr']
        exact .none
      · have hdash : r'.past? '-' = none := by simp [Reading.past?, hr', Text.dropLead?, closing]
        simp only [hr', hdash]
        exact .map_value fun _ => reached_of_rest_eq hr'
  | cons c s =>
      simp only [h.rest_eq hr, List.isEmpty_cons, Bool.false_eq_true, if_false]
      rcases h.past? (c := '-') (by decide) with ⟨hp, hp'⟩ | ⟨p, p', hp, hp', hjoins⟩
      · simp only [hp, hp']
        exact .map_value h
      · simp only [hp, hp', h.peek_eq (c := ']') (by decide) (by decide) (by decide) hr,
          h.peek_eq (c := '-') (by decide) (by decide) (by decide) hr]
        split
        · exact .map_value h
        · refine (readItem_agrees hjoins.skip).bind (fun last q q' _ _ hq => .map_value hq)
            fun last q hq => ?_
          rcases hq with hq | ⟨rfl, -⟩
          · exact .map_value fun _ => hq.trans (List.suffix_cons _ _)
          · cases item <;> exact .none

/-- A whole range is read alike; a word place that the text ends behind is refused by both. -/
theorem readRange_agrees (h : Joins r r') : Agrees Reached (readRange r) (readRange r') := by
  refine (readItem_agrees h).bind (fun item q q' _ _ hq => readRangeFrom_agrees item hq.skip)
    fun item q hq => ?_
  rcases hq with hq | ⟨rfl, -⟩
  · exact within_readRangeFrom item (skip_suffix (hq.trans (List.suffix_cons _ _)))
  · show Ends Reached (readRangeFrom (.place .wordBoundary) q.skip)
    rw [readRangeFrom_place]
    exact .none

/-- At the end of the text there is no dash. -/
theorem readDashes_of_nil (h : Joins r r') (hr : r.rest = []) (fuel : Nat)
    (items : List ClassSet) : readDashes fuel items r' = (items, r') := by
  have hdash : r'.past? '-' = none := by
    rcases h.rest_eq_of_nil hr with hr' | hr' <;>
      simp [Reading.past?, hr', Text.dropLead?, closing]
  cases fuel with
  | zero => rfl
  | succ fuel => simp only [readDashes, hdash]

/-- The same dashes open a class, whatever more there is to count down from. -/
theorem readDashes_joins {fuel fuel' : Nat} (items : List ClassSet) (h : Joins r r')
    (hfuel : r.rest.length ≤ fuel) (hfuel' : r'.rest.length ≤ fuel') :
    (readDashes fuel' items r').1 = (readDashes fuel items r).1 ∧
      Joins (readDashes fuel items r).2 (readDashes fuel' items r').2 := by
  induction fuel generalizing fuel' items r r' with
  | zero =>
      have hr : r.rest = [] := List.eq_nil_of_length_eq_zero (Nat.le_zero.mp hfuel)
      rw [readDashes_of_nil h hr]
      exact ⟨rfl, h⟩
  | succ fuel ih =>
      rcases h.past? (c := '-') (by decide) with ⟨hp, hp'⟩ | ⟨p, p', hp, hp', hjoins⟩
      · have hleft : readDashes (fuel + 1) items r = (items, r) := by simp only [readDashes, hp]
        have hright : readDashes fuel' items r' = (items, r') := by
          cases fuel' with
          | zero => rfl
          | succ fuel' => simp only [readDashes, hp']
        rw [hleft, hright]
        exact ⟨rfl, h⟩
      · have hlength := length_skip_of_past? hp
        have hlength' := length_skip_of_past? hp'
        obtain ⟨fuel', rfl⟩ : ∃ n, fuel' = n + 1 := Nat.exists_eq_add_one_of_ne_zero (by omega)
        simp only [readDashes, hp, hp']
        exact ih _ hjoins.skip (by omega) (by omega)

/-- The `^` of a class is found by both or by neither. -/
theorem readCaret_joins (h : Joins r r') :
    (readCaret r').1 = (readCaret r).1 ∧ Joins (readCaret r).2 (readCaret r').2 := by
  unfold readCaret
  rcases h.past? (c := '^') (by decide) with ⟨hp, hp'⟩ | ⟨p, p', hp, hp', hjoins⟩
  · rw [hp, hp']
    exact ⟨rfl, h⟩
  · rw [hp, hp']
    exact ⟨rfl, hjoins.skip⟩

/-- The start of a class is read alike, and where the text ends in it all of `)$` is left. -/
theorem readClassStart_agrees (h : Joins r r') :
    Agrees Reached (readClassStart r) (readClassStart r') := by
  obtain ⟨hcaret, hjoins⟩ := readCaret_joins h.skip
  obtain ⟨hdashes, hjoins⟩ := readDashes_joins [] hjoins (Nat.le_refl _) (Nat.le_refl _)
  simp only [readClassStart, hcaret, hdashes]
  generalize (readDashes (readCaret r.skip).2.rest.length [] (readCaret r.skip).2).2 = q at hjoins ⊢
  generalize (readDashes (readCaret r'.skip).2.rest.length [] (readCaret r'.skip).2).2 = q'
    at hjoins ⊢
  cases hr : q.rest with
  | nil =>
      refine .refused ?_
      rcases hjoins.rest_eq_of_nil hr with hr' | hr'
      · simp only [hr']
        exact .none
      · have hclose : q'.past? ']' = none := by simp [Reading.past?, hr', Text.dropLead?, closing]
        simp only [hr', hclose]
        exact .some (reached_of_rest_eq hr')
  | cons c s =>
      simp only [hjoins.rest_eq hr, List.isEmpty_cons, Bool.false_eq_true, if_false]
      rcases hjoins.past? (c := ']') (by decide) with ⟨hp, hp'⟩ | ⟨p, p', hp, hp', hafter⟩
      · simp only [hp, hp']
        exact .read _ hjoins
      · simp only [hp, hp']
        split
        · exact .read _ hafter.skip
        · exact .read _ hjoins

/-- An operator of classes makes the rest shorter. -/
theorem length_of_setOperation? {t : Text} {op : SetOperation}
    (h : setOperation? s = some (op, t)) : t.length < s.length := by
  cases s with
  | nil => contradiction
  | cons c s => exact Nat.lt_succ_of_le (setOperation?_suffix h).length_le

/-- A range makes the rest shorter. -/
theorem length_of_readRange {item : ClassSet} (h : readRange r = some (item, q)) :
    q.rest.length < r.rest.length := by
  have hrest := within_readRange (List.suffix_refl _) item q h
  cases hr : r.rest with
  | nil => simp [readRange, readItem, Reading.next?, hr] at h
  | cons c s =>
      rw [hr] at hrest
      exact Nat.lt_succ_of_le hrest.length_le

/-- A class ends in a `]`. -/
theorem readClassRest_eq_none (fuel : Nat) (pending : Option (SetOperation × ClassSet))
    (items : List ClassSet) (h : ']' ∉ r.rest) : readClassRest fuel pending items r = none := by
  induction fuel generalizing pending items r with
  | zero => rfl
  | succ fuel ih =>
      have hskip : ∀ t : Text, t <:+ r.skip.rest → ']' ∉ t := fun t ht hmem =>
        h ((ht.trans (skip_suffix (List.suffix_refl _))).subset hmem)
      simp only [readClassRest]
      split
      · next op t ht =>
          exact ih _ _ (hskip _ ((setOperation?_suffix ht).trans (List.tail_suffix _)))
      · split
        · next q hq =>
            refine absurd ?_ (hskip _ (List.suffix_refl _))
            rw [rest_of_past? hq]
            exact List.mem_cons_self
        · split
          · refine Option.bind_eq_none_iff.mpr fun x hx => ?_
            obtain ⟨item, q⟩ := x
            exact ih _ _ (hskip _ (within_readRange (List.tail_suffix _) item q hx))
          · next inner hinner =>
              have hinner := past?_suffix hinner (List.suffix_refl _)
              split
              · next set t ht => exact ih _ _ (hskip _ ((readAscii_suffix ht).trans hinner))
              · refine Option.bind_eq_none_iff.mpr fun x hx => ?_
                obtain ⟨start, q⟩ := x
                have hq := within_readClassStart hinner start q hx
                simp only [ih none start.2 (hskip _ hq)]
                rfl

/-- No class closes in `)$`, which has no bracket. -/
theorem readClassRest_of_reached (fuel : Nat) (pending : Option (SetOperation × ClassSet))
    (items : List ClassSet) (h : r.rest <:+ closing) :
    readClassRest fuel pending items r = none :=
  readClassRest_eq_none fuel pending items fun hmem =>
    absurd (h.subset hmem) (by decide)

/-- The rest of a class is read alike; one that the text leaves open takes in the `)` at most. -/
theorem readClassRest_agrees {fuel fuel' : Nat} (pending : Option (SetOperation × ClassSet))
    (items : List ClassSet) (h : Joins r r') (hfuel : r.rest.length < fuel)
    (hfuel' : r'.rest.length < fuel') :
    Agrees Spent (readClassRest fuel pending items r) (readClassRest fuel' pending items r') := by
  induction fuel generalizing fuel' pending items r r' with
  | zero => contradiction
  | succ fuel ih =>
      obtain ⟨fuel', rfl⟩ := Nat.exists_eq_add_one_of_ne_zero (Nat.ne_zero_of_lt hfuel')
      have hskip := length_skip_le r
      have hskip' := length_skip_le r'
      simp only [readClassRest]
      -- The cases are those of the reader: an operator, the bracket, an inner class, an item.
      rcases h.skip.of_append setOperation?_append_closing rfl with
        ⟨hop, hop'⟩ | ⟨op, t, hop, hop'⟩
      · simp only [hop, hop']
        rcases h.skip.past? (c := ']') (by decide) with ⟨hp, hp'⟩ | ⟨p, p', hp, hp', hjoins⟩
        · simp only [hp, hp']
          rcases h.skip.past? (c := '[') (by decide) with ⟨hp, hp'⟩ | ⟨p, p', hp, hp', hjoins⟩
          · simp only [hp, hp']
            refine (readRange_agrees h.skip).bind (fun item q q' hq hq' hjoins => ?_)
              fun item q hq => ?_
            · have hlength := length_of_readRange hq
              have hlength' := length_of_readRange hq'
              exact ih _ _ hjoins (by simp only; omega) (by simp only; omega)
            -- The text ends in the item, so the class is left open by both.
            · simp only [readClassRest_of_reached _ _ _ hq]
              exact .none
          · have hlength := length_of_past? hp
            have hlength' := length_of_past? hp'
            simp only [hp, hp']
            rcases hjoins.of_append readAscii_append_closing rfl with
              ⟨hascii, hascii'⟩ | ⟨set, t, hascii, hascii'⟩
            · simp only [hascii, hascii']
              refine (readClassStart_agrees hjoins).bind (fun start q q' hq hq' hjoins => ?_)
                fun start q hq => ?_
              · have hstart := (within_readClassStart (List.suffix_refl _)).length_le hq
                have hstart' := (within_readClassStart (List.suffix_refl _)).length_le hq'
                refine (ih none start.2 hjoins (by omega) (by omega)).bind
                  (fun set z z' hz hz' hjoins => ?_) fun set z hz => ?_
                · have hset := (within_readClassRest _ _ _ (List.suffix_refl _)).length_le hz
                  have hset' := (within_readClassRest _ _ _ (List.suffix_refl _)).length_le hz'
                  exact ih _ _ hjoins (by simp only; omega) (by simp only; omega)
                · exact within_readClassRest _ _ _ hz
              · simp only [readClassRest_of_reached _ _ _ hq]
                exact .none
            · have hrest := (readAscii_suffix hascii).length_le
              have hrest' := (readAscii_suffix hascii').length_le
              simp only [hascii, hascii']
              exact ih _ _ (hjoins.goTo t) (by simp only [Reading.goTo]; omega)
                (by simp only [Reading.goTo]; omega)
        · simp only [hp, hp']
          exact .read _ hjoins
      · have hlength := length_of_setOperation? hop
        have hlength' := length_of_setOperation? hop'
        simp only [hop, hop']
        exact ih _ _ (h.skip.goTo t) (by simp only [Reading.goTo]; omega)
          (by simp only [Reading.goTo]; omega)

/-- A class in brackets is read alike. -/
theorem readClass_agrees (h : Joins r r') : Agrees Spent (readClass r) (readClass r') := by
  refine (readClassStart_agrees h).bind (fun start q q' hq hq' hjoins => ?_) fun start q hq => ?_
  · have hlength := (within_readClassStart (List.suffix_refl _)).length_le hq
    have hlength' := (within_readClassStart (List.suffix_refl _)).length_le hq'
    exact (readClassRest_agrees none start.2 hjoins (Nat.lt_succ_of_le hlength)
      (Nat.lt_succ_of_le hlength')).bind (fun set p p' _ _ hp => .read _ hp)
      fun set p hp => .some hp
  · simp only [readClassRest_of_reached _ _ _ hq]
    exact .none

end CatchmentLint.Pattern
