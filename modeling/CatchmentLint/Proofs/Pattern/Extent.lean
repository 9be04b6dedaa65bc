import CatchmentLint.Pattern.Reader
import CatchmentLint.Proofs.Text.Pieces

/-!
# CatchmentLint.Proofs.Pattern.Extent

What the readers of a pattern leave of a text: an end of what they were given, and a proper one
where they take a character in any case.

`Ends P x` says that whatever is read and left satisfies `P`; it is kept by the ways in which
readers are put together.  `Within s x` is the case that what is left is an end of `s`.
-/

namespace CatchmentLint.Pattern

/-! ## What is left -/

/-- Whatever is read and left satisfies `P`. -/
def Ends {α : Type} (P : α → Reading → Prop) (x : Option (α × Reading)) : Prop :=
  ∀ a q, x = some (a, q) → P a q

/-- What is left is an end of `s`. -/
abbrev Within {α : Type} (s : Text) (x : Option (α × Reading)) : Prop :=
  Ends (fun _ q => q.rest <:+ s) x

namespace Ends

variable {α β γ : Type} {P : α → Reading → Prop} {Q : β → Reading → Prop}
  {x : Option (α × Reading)}

/-- A reader that gives nothing leaves nothing to speak of. -/
theorem none : Ends P none := nofun

theorem some {a : α} {q : Reading} (h : P a q) : Ends P (some (a, q)) := by
  rintro _ _ ⟨⟩
  exact h

/-- A weaker statement of what is read and left holds as well. -/
theorem mono {P' : α → Reading → Prop} (h : Ends P x) (himp : ∀ a q, P a q → P' a q) :
    Ends P' x := fun a q hx => himp a q (h a q hx)

/-- One step after the other: what the first leaves is what the second is given. -/
theorem bind {f : α × Reading → Option (β × Reading)} (h : Ends P x)
    (hf : ∀ a q, P a q → Ends Q (f (a, q))) : Ends Q (x >>= f) := by
  rcases x with _ | ⟨a, q⟩
  · exact Ends.none
  · exact hf a q (h a q rfl)

/-- A step of which nothing need be known. -/
theorem bind_any {f : α × Reading → Option (β × Reading)} (h : ∀ a q, Ends Q (f (a, q))) :
    Ends Q (x >>= f) :=
  bind (P := fun _ _ => True) (fun _ _ _ => True.intro) fun a q _ => h a q

/-- A step that only turns over what has been read leaves as much. -/
theorem map {f : α × Reading → β × Reading} (h : Ends P x)
    (hf : ∀ a q, P a q → Q (f (a, q)).1 (f (a, q)).2) : Ends Q (x.map f) := by
  rcases x with _ | ⟨a, q⟩
  · exact Ends.none
  · exact Ends.some (hf a q (h a q rfl))

/-- A step that reads nothing. -/
theorem bind_value {o : Option γ} {f : γ → Option (β × Reading)} (h : ∀ c, Ends Q (f c)) :
    Ends Q (o >>= f) := by
  rcases o with _ | c
  · exact Ends.none
  · exact h c

/-- What is read and left as it is, where there is a value. -/
theorem map_value {o : Option β} {q : Reading} (h : ∀ b, Q b q) : Ends Q (o.map (·, q)) := by
  rcases o with _ | b
  · exact Ends.none
  · exact Ends.some (h b)

end Ends

/-- No reader leaves more than it was given. -/
theorem Within.length_le {α : Type} {s : Text} {x : Option (α × Reading)} {a : α} {q : Reading}
    (h : Within s x) (hx : x = some (a, q)) : q.rest.length ≤ s.length := (h a q hx).length_le

variable {r q : Reading} {s : Text}

/-! ## Single steps -/

/-- Blanks and comments are passed over from the front. -/
theorem skipBlanks_suffix (inComment : Bool) (s : Text) :
    Reading.skipBlanks inComment s <:+ s := by
  induction s generalizing inComment with
  | nil => exact List.suffix_refl _
  | cons c s ih =>
      have hrest : ∀ b, Reading.skipBlanks b s <:+ c :: s := fun b =>
        (ih b).trans (List.suffix_cons c s)
      simp only [Reading.skipBlanks]
      split
      · exact hrest _
      · split
        · exact hrest _
        · split
          · exact hrest _
          · exact List.suffix_refl _

/-- What a reading leaves when it passes over blanks is an end of what it had. -/
theorem skip_suffix (h : r.rest <:+ s) : r.skip.rest <:+ s := by
  unfold Reading.skip
  split
  · exact (skipBlanks_suffix false r.rest).trans h
  · exact h

/-- Passing over blanks leaves no more. -/
theorem length_skip_le (r : Reading) : r.skip.rest.length ≤ r.rest.length :=
  (skip_suffix (List.suffix_refl _)).length_le

/-- The next character stood in front of what is left. -/
theorem rest_of_next? {c : Char} (h : r.next? = some (c, q)) : r.rest = c :: q.rest := by
  unfold Reading.next? at h
  split at h
  · contradiction
  · next hr =>
      cases h
      exact hr

/-- A character that is passed stood in front of what is left. -/
theorem rest_of_past? {c : Char} (h : r.past? c = some q) : r.rest = c :: q.rest := by
  obtain ⟨s, hs, rfl⟩ := Option.map_eq_some_iff.mp h
  exact Text.dropLead?_eq_some_iff.mp hs

/-- Taking a character leaves what is behind the first one. -/
theorem within_next? (h : r.rest.tail <:+ s) : Within s r.next? := fun c q hq => by
  rw [rest_of_next? hq] at h
  exact h

/-- Passing a given character leaves an end of what there was. -/
theorem past?_suffix {c : Char} (hq : r.past? c = some q) (h : r.rest <:+ s) : q.rest <:+ s := by
  rw [rest_of_past? hq] at h
  exact (List.suffix_cons c _).trans h

theorem tail_suffix (h : r.rest <:+ s) : r.rest.tail <:+ s := (List.tail_suffix _).trans h

/-! ## Counts -/

/-- The digits of a count are taken from the front, with blanks between them. -/
theorem readDigits_suffix (fuel : Nat) (h : r.rest <:+ s) : (readDigits fuel r).2.rest <:+ s := by
  induction fuel generalizing r with
  | zero => exact h
  | succ fuel ih =>
      unfold readDigits
      split
      · next c t hr =>
          split
          · have ht : t <:+ s := (List.suffix_cons c t).trans (hr ▸ h)
            exact ih (skip_suffix (r := r.goTo t) ht)
          · exact h
      · exact h

theorem dropBlanks_suffix (h : r.rest <:+ s) : (dropBlanks r).rest <:+ s :=
  (List.dropWhile_suffix _).trans h

/-- A count leaves an end of the text, whether or not there are digits to it. -/
theorem within_readCount (h : r.rest <:+ s) : Within s (readCount r) := by
  have hrest : ((dropBlanks (readDigits (dropBlanks r).rest.length (dropBlanks r)).2).skip).rest
      <:+ s :=
    skip_suffix (dropBlanks_suffix (readDigits_suffix _ (dropBlanks_suffix h)))
  simp only [readCount]
  split
  · exact .some hrest
  · split
    · exact .some hrest
    · exact .none

/-- The greatest count of `{m,n}` and its brace are taken from the front. -/
theorem within_readGreatest (least : Nat) (h : r.rest <:+ s) :
    Within s (readGreatest least r) := by
  unfold readGreatest
  split
  · next q hq => exact .some (skip_suffix (past?_suffix hq h))
  · refine (within_readCount h).bind fun second q hq => .bind_value fun greatest => ?_
    intro counts p hp
    obtain ⟨after, hafter, hp⟩ := Option.bind_eq_some_iff.mp hp
    split at hp
    · cases hp
      exact skip_suffix (past?_suffix hafter hq)
    · contradiction

/-- Counts in braces are taken from the front. -/
theorem within_readCounts (h : r.rest <:+ s) : Within s (readCounts r) := by
  simp only [readCounts]
  split
  · exact .none
  · refine (within_readCount (skip_suffix h)).bind fun first q hq => .bind_value fun least => ?_
    split
    · next p hp => exact .some (skip_suffix (past?_suffix hp hq))
    · intro counts p hp
      obtain ⟨after, hafter, hp⟩ := Option.bind_eq_some_iff.mp hp
      exact within_readGreatest least (skip_suffix (past?_suffix hafter hq)) counts p hp

/-- A `?` behind counts is taken from the front if it is there. -/
theorem readLazyMark_suffix (h : r.rest <:+ s) : (readLazyMark r).2.rest <:+ s := by
  unfold readLazyMark
  split
  · next q hq => exact past?_suffix hq h
  · exact h

/-! ## Escapes -/

/-- The digits of a hexadecimal escape of fixed width are taken from the front. -/
theorem within_readHexDigits (count : Nat) (digits : Text) (h : r.rest <:+ s) :
    Within s (readHexDigits count digits r) := by
  induction count generalizing digits r with
  | zero => exact .some h
  | succ count ih =>
      refine (within_next? (tail_suffix h)).bind fun c q hq => ?_
      show Within s (if isHexDigit c then readHexDigits count (c :: digits) q.skip else none)
      split
      · exact ih _ (skip_suffix hq)
      · exact .none

/-- The digits of a hexadecimal escape in braces are taken from the front, with the brace. -/
theorem within_readHexBraced (fuel : Nat) (digits : Text) (h : r.rest <:+ s) :
    Within s (readHexBraced fuel digits r) := by
  induction fuel generalizing digits r with
  | zero => exact .none
  | succ fuel ih =>
      unfold readHexBraced
      split
      · next q hq => exact .some (skip_suffix (past?_suffix hq h))
      · refine (within_next? (tail_suffix h)).bind fun c q hq => ?_
        show Within s (if isHexDigit c then readHexBraced fuel (c :: digits) q.skip else none)
        split
        · exact ih _ (skip_suffix hq)
        · exact .none

/-- Both forms of a hexadecimal escape leave an end of the text. -/
theorem within_readHex (width : Nat) (h : r.rest <:+ s) : Within s (readHex width r) := by
  simp only [readHex]
  split
  · next q hq =>
      refine (within_readHexBraced _ [] (skip_suffix (past?_suffix hq (skip_suffix h)))).bind
        fun digits p hp => .bind_value fun l => .some hp
  · exact (within_readHexDigits width [] (skip_suffix h)).bind
      fun digits p hp => .bind_value fun l => .some hp

/-- A text up to a closing brace is taken from the front with the brace. -/
theorem within_readBraced (fuel : Nat) (text : Text) (h : r.rest <:+ s) :
    Within s (readBraced fuel text r) := by
  induction fuel generalizing text r with
  | zero => exact .none
  | succ fuel ih =>
      unfold readBraced
      split
      · next q hq => exact .some (past?_suffix hq h)
      · exact (within_next? (tail_suffix h)).bind fun c q hq => ih _ (skip_suffix hq)

/-- The name of a class of characters, one letter or in braces, is taken from the front. -/
theorem within_readProperty (h : r.rest <:+ s) : Within s (readProperty r) := by
  simp only [readProperty]
  split
  · next q hq =>
      exact (within_readBraced _ [] (skip_suffix (past?_suffix hq (skip_suffix h)))).bind
        fun text p hp => .some hp
  · refine (within_next? (tail_suffix (skip_suffix h))).bind fun c q hq => ?_
    show Within s (if c = '\\' then none else some (PropertyQuery.named [c], q.skip))
    split
    · exact .none
    · exact .some (skip_suffix hq)

/-- What stands behind `\b`, a place in braces or nothing, is taken from the front; braces that open
no place are left to be read as counts. -/
theorem within_readWordPlace (h : r.rest <:+ s) : Within s (readWordPlace r) := by
  unfold readWordPlace
  split
  · exact .some h
  · next q hq =>
      refine .bind_value fun (c, _) => ?_
      show Within s (if isPlaceNameChar c then _ else _)
      split
      · exact (within_readBraced _ [] (skip_suffix (past?_suffix hq h))).bind
          fun name p hp => .bind_value fun place => .some hp
      · exact .some h

/-- Every escape leaves an end of the text behind its letter, whichever letter it is. -/
theorem within_readEscapeOf (c : Char) (h : r.rest <:+ s) : Within s (readEscapeOf c r) := by
  simp only [readEscapeOf]
  split <;> try
    first
    | exact (within_readHex _ h).map fun _ _ hq => hq
    | exact (within_readProperty h).map fun _ _ hq => hq
    | exact (within_readWordPlace h).map fun _ _ hq => hq
    | exact .some h
  split
  · exact .some h
  · exact .none

/-- An escape takes at least the character behind the backslash. -/
theorem within_readEscape (h : r.rest.tail <:+ s) : Within s (readEscape r) :=
  (within_next? h).bind fun c _ hq => within_readEscapeOf c hq

/-! ## Classes -/

/-- What stands behind the cut is an end of the text. -/
theorem cut?_suffix {c : Char} {before after : Text} (h : Text.cut? c s = some (before, after)) :
    after <:+ s := by
  rw [(Text.cut?_eq_some_iff.mp h).1]
  exact (List.suffix_cons c after).trans (List.suffix_append _ _)

theorem dropLead?_suffix {lead t : Text} (h : Text.dropLead? lead s = some t) : t <:+ s := by
  rw [Text.dropLead?_eq_some_iff.mp h]
  exact List.suffix_append _ _

/-- A class such as `[:alpha:]` leaves what stands behind its bracket. -/
theorem readAsciiName_suffix {negated : Bool} {t : Text} {set : ClassSet}
    (h : readAsciiName negated s = some (set, t)) : t <:+ s := by
  obtain ⟨⟨name, rest⟩, hcut, h⟩ := Option.bind_eq_some_iff.mp h
  obtain ⟨rest', hclose, h⟩ := Option.bind_eq_some_iff.mp h
  obtain ⟨ranges, -, h⟩ := Option.bind_eq_some_iff.mp h
  cases h
  exact (dropLead?_suffix hclose).trans (cut?_suffix hcut)

/-- A class such as `[:alpha:]`, negated or not, leaves what stands behind its bracket. -/
theorem readAscii_suffix {t : Text} {set : ClassSet} (h : readAscii s = some (set, t)) :
    t <:+ s := by
  obtain ⟨inner, hinner, h⟩ := Option.bind_eq_some_iff.mp h
  have hinner := dropLead?_suffix hinner
  split at h
  · next after hafter =>
      exact (readAsciiName_suffix h).trans ((dropLead?_suffix hafter).trans hinner)
  · exact (readAsciiName_suffix h).trans hinner

/-- An item of a class is one character or an escape, so that one character goes in any case. -/
theorem within_readItem (h : r.rest.tail <:+ s) : Within s (readItem r) := by
  refine (within_next? h).bind fun c q hq => ?_
  show Within s (if c = '\\' then readEscape q else some (.literal ⟨c, .plain⟩, q))
  split
  · exact within_readEscape (tail_suffix hq)
  · exact .some hq

/-- A range goes on behind a dash, or is the item alone. -/
theorem within_readRangeFrom (item : Ast) (h : r.rest <:+ s) : Within s (readRangeFrom item r) := by
  unfold readRangeFrom
  split
  · exact .none
  · split
    · exact .map_value fun _ => h
    · next after hafter =>
        split
        · exact .map_value fun _ => h
        · exact (within_readItem (tail_suffix (skip_suffix (past?_suffix hafter h)))).bind
            fun last p hp => .map_value fun _ => hp

/-- An item or a range takes at least one character. -/
theorem within_readRange (h : r.rest.tail <:+ s) : Within s (readRange r) :=
  (within_readItem h).bind fun item _ hq => within_readRangeFrom item (skip_suffix hq)

/-- Dashes at the start of a class are taken from the front. -/
theorem readDashes_suffix (fuel : Nat) (items : List ClassSet) (h : r.rest <:+ s) :
    (readDashes fuel items r).2.rest <:+ s := by
  induction fuel generalizing items r with
  | zero => exact h
  | succ fuel ih =>
      unfold readDashes
      split
      · next q hq => exact ih _ (skip_suffix (past?_suffix hq h))
      · exact h

theorem readCaret_suffix (h : r.rest <:+ s) : (readCaret r).2.rest <:+ s := by
  unfold readCaret
  split
  · next q hq => exact skip_suffix (past?_suffix hq h)
  · exact h

/-- The start of a class takes `^`, dashes and a `]` from the front, each only where it stands for
itself. -/
theorem within_readClassStart (h : r.rest <:+ s) : Within s (readClassStart r) := by
  have hcaret := readCaret_suffix (skip_suffix h)
  have hrest := readDashes_suffix (readCaret r.skip).2.rest.length [] hcaret
  simp only [readClassStart]
  split
  · exact .none
  · split
    · exact .some hrest
    · next after hafter =>
        split
        · exact .some (skip_suffix (past?_suffix hafter hrest))
        · exact .some hrest

/-- The operators `&&`, `--` and `~~` take more than one character. -/
theorem setOperation?_suffix {t : Text} {op : SetOperation} (h : setOperation? s = some (op, t)) :
    t <:+ s.tail := by
  unfold setOperation? at h
  split at h
  all_goals first | contradiction | skip
  all_goals cases h; exact List.suffix_cons _ _

/-- A class that has begun leaves an end of the text however its items, operators and inner classes
follow on one another. -/
theorem within_readClassRest (fuel : Nat) (pending : Option (SetOperation × ClassSet))
    (items : List ClassSet) (h : r.rest <:+ s) :
    Within s (readClassRest fuel pending items r) := by
  induction fuel generalizing pending items r with
  | zero => exact .none
  | succ fuel ih =>
      have hskip := skip_suffix h
      simp only [readClassRest]
      split
      · next op t ht => exact ih _ _ ((setOperation?_suffix ht).trans (tail_suffix hskip))
      · split
        · next q hq => exact .some (past?_suffix hq hskip)
        · split
          · exact (within_readRange (tail_suffix hskip)).bind fun item q hq => ih _ _ hq
          · next inner hinner =>
              have hinner := past?_suffix hinner hskip
              split
              · next set t ht => exact ih _ _ ((readAscii_suffix ht).trans hinner)
              · exact (within_readClassStart hinner).bind fun start q hq =>
                  (ih _ _ hq).bind fun set p hp => ih _ _ hp

/-- A class in brackets leaves an end of the text. -/
theorem within_readClass (h : r.rest <:+ s) : Within s (readClass r) :=
  (within_readClassStart h).bind fun start _ hq =>
    (within_readClassRest _ none start.2 hq).bind fun _ _ hp => .some hp

/-! ## Groups -/

/-- Flags take at least one character, which is the `:` or the `)` behind them if nothing else. -/
theorem within_readFlags (fuel : Nat) (on dangling : Bool) (changes : FlagChanges)
    (h : r.rest.tail <:+ s) : Within s (readFlags fuel on dangling changes r) := by
  induction fuel generalizing on dangling changes r with
  | zero => exact .none
  | succ fuel ih =>
      refine (within_next? h).bind fun c q hq => ?_
      simp only
      split
      · split
        · exact .none
        · exact .some hq
      · split
        · split
          · exact ih _ _ _ (tail_suffix hq)
          · exact .none
        · split
          · exact .none
          · split
            · exact .none
            · exact ih _ _ _ (tail_suffix hq)

/-- The name of a group is taken from the front with its bracket. -/
theorem within_readName (h : r.rest <:+ s) : Within s (readName r) := by
  unfold readName
  split
  · next c name t ht =>
      split
      · exact .some ((cut?_suffix ht).trans h)
      · exact .none
  · exact .none

theorem pastNameMark?_suffix (hq : pastNameMark? r = some q) (h : r.rest <:+ s) : q.rest <:+ s := by
  refine past?_suffix hq ?_
  cases hp : r.past? 'P' with
  | none => exact h
  | some p => exact past?_suffix hp h

/-- What opens a group, by itself or with a name or flags, leaves an end of the text. -/
theorem within_readOpening (h : r.rest <:+ s) : Within s (readOpening r) := by
  have hskip := skip_suffix h
  simp only [readOpening]
  split
  · exact .none
  · split
    · exact .some hskip
    · next inner hinner =>
        have hinner := past?_suffix hinner hskip
        split
        · next q hq => exact within_readName (pastNameMark?_suffix hq hinner)
        · exact (within_readFlags _ true false [] (tail_suffix hinner)).bind fun flags q hq =>
            .map_value fun _ => hq

/-! ## Patterns -/

/-- Repeating what was read last takes nothing but the mark for as few turns as possible. -/
theorem within_repeatLast (turns : Nat × Option Nat) (items : List Ast) (h : r.rest <:+ s) :
    Within s (repeatLast turns items r) := by
  unfold repeatLast
  split
  · simp only
    split
    · exact .some (readLazyMark_suffix h)
    · exact .none
  · exact .none

/-- An operator of repetition leaves an end of the text. -/
theorem within_readTurns (c : Char) (h : r.rest <:+ s) : Within s (readTurns c r) := by
  unfold readTurns
  split
  · exact .some h
  · split
    · exact .some h
    · split
      · exact .some h
      · exact within_readCounts h

/-- An atom that starts with `c`, a character that has been taken, leaves an end of the text. -/
theorem within_readAtom (c : Char) (h : r.rest <:+ s) : Within s (readAtom c r) := by
  unfold readAtom
  split
  · exact within_readClass h
  · split
    · exact within_readEscape (tail_suffix h)
    · split
      · exact .some h
      · split
        · exact .some h
        · split
          · exact .some h
          · exact .some h

/-- A group leaves an end of the text if what is read inside of it and behind it does. -/
theorem within_readOpened {readRest : List Ast → List Ast → Reading → Option (Ast × Reading)}
    (hrest : ∀ items branches r, r.rest <:+ s → Within s (readRest items branches r))
    (items branches : List Ast) (verbose : Bool) (opening : Opening) (h : r.rest <:+ s) :
    Within s (readOpened readRest items branches verbose opening r) := by
  cases opening with
  | directive changes => exact hrest _ _ _ h
  | group captures changes =>
      have hbody := hrest [] [] { r with verbose := (changes.value? .verbose).getD r.verbose } h
      refine hbody.bind fun body q hq a p hp => ?_
      obtain ⟨closed, hclosed, hp⟩ := Option.bind_eq_some_iff.mp hp
      have hclosed := past?_suffix hclosed hq
      exact hrest _ _ { closed with verbose := verbose } hclosed a p hp

/-- The readers together: the rest of a pattern leaves an end of the text. -/
theorem within_readBranches (fuel : Nat) (items branches : List Ast) (h : r.rest <:+ s) :
    Within s (readBranches fuel items branches r) := by
  induction fuel generalizing items branches r with
  | zero => exact .none
  | succ fuel ih =>
      have hskip := skip_suffix h
      simp only [readBranches]
      split
      · exact .some hskip
      · next c after hnext =>
          have hafter := within_next? (tail_suffix hskip) c after hnext
          split
          · exact .some hskip
          · split
            · exact ih _ _ hafter
            · split
              · exact (within_readOpening hafter).bind fun opening inner hinner =>
                  within_readOpened (fun _ _ _ => ih _ _) _ _ _ opening hinner
              · split
                · exact (within_readTurns c hafter).bind fun turns q hq =>
                    (within_repeatLast turns items hq).bind fun items p hp => ih _ _ hp
                · exact (within_readAtom c hafter).bind fun item q hq => ih _ _ hq

end CatchmentLint.Pattern
