import CatchmentLint.Pattern.Basic
import CatchmentLint.Proofs.Pattern.Ordered
import CatchmentLint.Proofs.Pattern.Tail.Branches

/-!
# CatchmentLint.Proofs.Pattern.Whole

What a text means by itself, and what it means between the anchors `^(?:` and `)$`.
-/

namespace CatchmentLint.Pattern

/-! ## Reading with more fuel -/

section Fuel

variable {α β : Type} {items branches : List Ast} {r : Reading}

/-- What a first step leads to, a step that does no less leads to as well. -/
theorem bind_mono {x : Option α} {f g : α → Option β} {b : β} (h : x >>= f = some b)
    (hfg : ∀ a, f a = some b → g a = some b) : x >>= g = some b := by
  obtain ⟨a, ha, h⟩ := Option.bind_eq_some_iff.mp h
  exact Option.bind_eq_some_iff.mpr ⟨a, ha, hfg a h⟩

theorem ite_mono {c : Prop} [Decidable c] {x y x' y' : Option α} {a : α}
    (hpos : x = some a → x' = some a) (hneg : y = some a → y' = some a)
    (h : (if c then x else y) = some a) : (if c then x' else y') = some a := by
  split at h
  · next hc => rw [if_pos hc, hpos h]
  · next hc => rw [if_neg hc, hneg h]

variable {x : Ast × Reading}

/-- A group that is read is read alike by readers that read no less. -/
theorem readOpened_mono
    {readRest readRest' : List Ast → List Ast → Reading → Option (Ast × Reading)}
    (hmono : ∀ {items branches r x}, readRest items branches r = some x →
      readRest' items branches r = some x) {verbose : Bool} {opening : Opening}
    (h : readOpened readRest items branches verbose opening r = some x) :
    readOpened readRest' items branches verbose opening r = some x := by
  cases opening with
  | directive changes => exact hmono h
  | group captures changes =>
      obtain ⟨⟨body, q⟩, hbody, h⟩ := Option.bind_eq_some_iff.mp h
      exact Option.bind_eq_some_iff.mpr
        ⟨(body, q), hmono hbody, bind_mono h fun closed => hmono⟩

/-- More to count down from changes nothing that is read. -/
theorem readBranches_succ {fuel : Nat} (h : readBranches fuel items branches r = some x) :
    readBranches (fuel + 1) items branches r = some x := by
  induction fuel generalizing items branches r x with
  | zero => contradiction
  | succ fuel ih =>
      rw [readBranches] at h ⊢
      split at h
      · exact h
      · refine ite_mono id (ite_mono ih (ite_mono ?_ (ite_mono ?_ ?_))) h
        · exact fun h => bind_mono h fun opened => readOpened_mono ih
        · exact fun h => bind_mono h fun turns h => bind_mono h fun items => ih
        · exact fun h => bind_mono h fun item => ih

end Fuel

/-! ## By itself -/

/-- The tree of what a text starts with, and the reading where that ends: at the end of the text,
or at a `)` that closes no group. -/
def readText (text : Text) : Option (Ast × Reading) :=
  readBranches (text.length + 1) [] [] ⟨text, false, []⟩

/-- The whole text is read as a tree. -/
def ReadsAs (text : Text) (ast : Ast) : Prop := ∃ q, readText text = some (ast, q) ∧ q.rest = []

/-- The limits on nesting and size are kept. -/
def WithinLimits (ast : Ast) (regex : Regex) : Prop :=
  ast.depth ≤ maxNesting ∧ regex.layout.fits = true

/-- What a text means by itself. -/
def alone? (text : Text) : Option Regex := do
  let ast ← Ast.read? text
  let (regex, _) ← ast.meaning? .initial
  if regex.layout.fits then some regex else none

/-- A text means a regular expression by itself if it is read, has a meaning and keeps within the
limits. -/
theorem alone?_eq_some_iff {text : Text} {regex : Regex} :
    alone? text = some regex ↔ ∃ ast flags, ReadsAs text ast ∧
      ast.meaning? .initial = some (regex, flags) ∧ WithinLimits ast regex := by
  constructor
  · intro h
    obtain ⟨ast, hast, h⟩ := Option.bind_eq_some_iff.mp h
    obtain ⟨⟨regex, flags⟩, hmeaning, h⟩ := Option.bind_eq_some_iff.mp h
    obtain ⟨⟨ast, q⟩, hq, hast⟩ := Option.bind_eq_some_iff.mp hast
    simp only at h hast
    split at hast
    · contradiction
    · next hread =>
        obtain ⟨hend, hdepth⟩ := not_or.mp hread
        cases hast
        split at h
        · next hfits =>
            cases h
            exact ⟨ast, flags, ⟨q, hq, Classical.not_not.mp hend⟩, hmeaning,
              Nat.not_lt.mp hdepth, hfits⟩
        · contradiction
  · rintro ⟨ast, flags, ⟨q, hq, hend⟩, hmeaning, hdepth, hfits⟩
    have hread : Ast.read? text = some ast := by
      refine Option.bind_eq_some_iff.mpr ⟨(ast, q), hq, if_neg ?_⟩
      exact not_or.mpr ⟨Classical.not_not.mpr hend, Nat.not_lt.mpr hdepth⟩
    simp only [alone?, hread, hmeaning, hfits, Option.bind_eq_bind, Option.bind_some, if_true]

/-- A text is read as one pattern at most. -/
theorem ReadsAs.unique {text : Text} {ast ast' : Ast} (h : ReadsAs text ast)
    (h' : ReadsAs text ast') : ast = ast' := by
  obtain ⟨q, hq, -⟩ := h
  obtain ⟨q', hq', -⟩ := h'
  rw [hq] at hq'
  cases hq'
  rfl

/-- The repetitions of a pattern that is read have bounds that can be met. -/
theorem ReadsAs.ordered {text : Text} {ast : Ast} (h : ReadsAs text ast) : ast.Ordered := by
  obtain ⟨q, hq, -⟩ := h
  exact ordered_readBranches _ (List.forall_mem_nil _) (List.forall_mem_nil _) _ ast q hq

/-- Compiling a text is reading it between its anchors. -/
theorem compile?_eq (text : Text) :
    compile? text = (alone? (anchored text)).map (⟨anchored text, ·⟩) := by
  unfold compile? alone?
  simp only
  cases Ast.read? (anchored text) with
  | none => rfl
  | some ast =>
      simp only [Option.bind_eq_bind, Option.bind_some]
      rcases ast.meaning? .initial with _ | ⟨regex, flags⟩
      · rfl
      · simp only [Option.bind_some]
        split <;> rfl

/-! ## Between the anchors -/

/-- The tree of a text between the anchors. -/
def anchoredAst (ast : Ast) : Ast := .sequence [.place .caret, .group false [] ast, .place .dollar]

/-- The meaning of a text between the anchors. -/
def anchoredRegex (regex : Regex) : Regex :=
  .seq (.condition .textStart) (regex.andThen (.seq (.condition .textEnd) .empty))

/-- The comment that a text ends in takes in what stands behind the text. -/
def EndsInComment (text : Text) : Prop :=
  (∃ ast, ReadsAs text ast) ∧ ∃ ast, ReadsAs (text ++ closing) ast

/-- The reading of a text with `)$` behind it. -/
def readInside (text : Text) : Option (Ast × Reading) :=
  readBranches (text.length + 5) [] [] ⟨text ++ closing, false, []⟩

/-- Between its anchors, a text is read as the inside of a group. -/
theorem readText_anchored (text : Text) :
    readText (anchored text) = (do
      let (body, q) ← readInside text
      let q ← q.past? ')'
      readBranches (text.length + 5) [.group false [] body, .place .caret] []
        { q with verbose := false }) := by
  have hlength : (anchored text).length + 1 = text.length + 7 := by
    simp [anchored]
  rw [readText, hlength]
  rfl

/-- Reading a text goes alike by itself and inside of the group, as long as the text lasts. -/
theorem readText_agrees (text : Text) : Agrees Spent (readText text) (readInside text) :=
  readBranches_agrees [] [] (.behind (r := ⟨text, false, []⟩)) (Nat.lt_succ_self _)
    (by simp [closing])

/-- More fuel makes no difference to what is read. -/
theorem readText_append_closing {text : Text} {x : Ast × Reading}
    (h : readText (text ++ closing) = some x) : readInside text = some x := by
  have hlength : (text ++ closing).length + 1 = text.length + 3 := by simp [closing]
  rw [readText, hlength] at h
  exact readBranches_succ (readBranches_succ h)

/-- The end of the group stands where the text ends, unless a comment takes it in. -/
theorem ReadsAs.inside {text : Text} {ast : Ast} (h : ReadsAs text ast) :
    ∃ q, readInside text = some (ast, q) ∧
      (q.rest = closing ∧ ¬EndsInComment text ∨ q.rest = [] ∧ EndsInComment text) := by
  obtain ⟨q, hq, hend⟩ := h
  have hagrees : Agrees Spent (readText text) (readText (text ++ closing)) :=
    readBranches_agrees [] [] (.behind (r := ⟨text, false, []⟩)) (Nat.lt_succ_self _)
      (Nat.lt_succ_self _)
  obtain ⟨q', hq', hjoins⟩ := hagrees.of_some hq
  refine ⟨q', readText_append_closing hq', ?_⟩
  rcases hjoins.rest_eq_of_nil hend with hrest | hrest
  · exact .inr ⟨hrest, ⟨ast, q, hq, hend⟩, ast, q', hq', hrest⟩
  · refine .inl ⟨hrest, fun ⟨_, ast', p, hp, hnil⟩ => ?_⟩
    rw [hq'] at hp
    cases hp
    rw [hrest] at hnil
    contradiction

/-- A text that cannot be read cannot be read between the anchors either. -/
theorem not_readsAs_anchored_of_none {text : Text} (h : readText text = none) (ast : Ast) :
    ¬ReadsAs (anchored text) ast := by
  rintro ⟨q, hq, -⟩
  rw [readText_anchored] at hq
  obtain ⟨⟨body, p⟩, hp, hq⟩ := Option.bind_eq_some_iff.mp hq
  obtain ⟨closed, hclosed, -⟩ := Option.bind_eq_some_iff.mp hq
  have hspent : p.rest <:+ ['$'] := (readText_agrees text).of_none h body p hp
  rw [rest_of_past? hclosed] at hspent
  exact absurd (hspent.subset List.mem_cons_self) (by decide)

/-- A pattern is read between its anchors as a whole, unless it ends in a comment. -/
theorem ReadsAs.readsAs_anchored {text : Text} {ast : Ast} (h : ReadsAs text ast)
    (hcomment : ¬EndsInComment text) : ReadsAs (anchored text) (anchoredAst ast) := by
  obtain ⟨q, hq, hrest | ⟨-, hends⟩⟩ := h.inside
  · obtain ⟨rest, verbose, names⟩ := q
    obtain rfl : rest = closing := hrest.1
    refine ⟨⟨[], false, names⟩, ?_, rfl⟩
    rw [readText_anchored, hq]
    rfl
  · contradiction

/-- One that ends in a comment takes in the anchor behind it. -/
theorem EndsInComment.not_readsAs_anchored {text : Text} (h : EndsInComment text) (ast : Ast) :
    ¬ReadsAs (anchored text) ast := by
  rintro ⟨p, hp, -⟩
  obtain ⟨body, hbody⟩ := h.1
  obtain ⟨q, hq, ⟨-, hends⟩ | ⟨hrest, -⟩⟩ := hbody.inside
  · contradiction
  · have hnone : q.past? ')' = none := by simp [Reading.past?, hrest, Text.dropLead?]
    simp only [readText_anchored, hq, hnone, Option.bind_eq_bind, Option.bind_some,
      Option.bind_none] at hp
    contradiction

/-- Between anchors, a pattern means what it means by itself, between the ends of the text. -/
theorem meaning?_anchoredAst (ast : Ast) :
    (anchoredAst ast).meaning? .initial =
      (ast.meaning? .initial).map fun (regex, _) => (anchoredRegex regex, .initial) := by
  have happly : Flags.initial.apply [] = .initial := rfl
  simp only [anchoredAst, Ast.meaning?, Ast.itemsMeaning?, happly, Option.bind_eq_bind,
    Option.bind_some]
  rcases ast.meaning? .initial with _ | ⟨regex, flags⟩
  · rfl
  · rfl

/-- The anchors hold what is matched between them fast at both ends of the text. -/
theorem isFoundIn_anchoredRegex {regex : Regex} (h : regex.Ordered) (value : Text) :
    (anchoredRegex regex).isFoundIn value = true ↔ regex.Spans none value none := by
  have hordered : (anchoredRegex regex).Ordered := ⟨True.intro, h.andThen ⟨True.intro, True.intro⟩⟩
  rw [Regex.isFoundIn_iff hordered]
  constructor
  · rintro ⟨passed, u, v, rfl, start, rest, rfl, ⟨rfl, hstart⟩, hrest⟩
    obtain ⟨whole, finish, rfl, hwhole, z, z', rfl, ⟨rfl, hfinish⟩, rfl⟩ :=
      Regex.spans_andThen.mp hrest
    have hpassed : passed = [] := by simpa [Condition.holds] using hstart
    have hv : v = [] := by simpa [Condition.holds] using hfinish
    subst hpassed hv
    simpa using hwhole
  · intro hspans
    refine ⟨[], value, [], by simp, [], value, rfl, ⟨rfl, rfl⟩, Regex.spans_andThen.mpr ?_⟩
    exact ⟨value, [], by simp, by simpa using hspans, [], [], rfl, ⟨rfl, rfl⟩, rfl⟩

/-! ## Slips -/

/-- The text has a `)` that closes none of its groups. -/
def HasStrayParenthesis (text : Text) : Prop :=
  ∃ ast q s, readText text = some (ast, q) ∧ q.rest = ')' :: s

/-- A text that is a pattern by itself and none between the anchors, or the other way round. -/
inductive Slips (text : Text) : Prop
  /-- A `)` of the text closes the group of the anchors, and the rest goes on from there. -/
  | parenthesis (h : HasStrayParenthesis text) (hcompile : (compile? text).isSome)
  /-- The end of the group is in the comment that the text ends in. -/
  | comment (h : EndsInComment text) (halone : (alone? text).isSome)
  /-- The limits are kept without the anchors only, or with them only. -/
  | limits {ast : Ast} {regex : Regex} {flags : Flags} (h : ReadsAs text ast)
      (hcomment : ¬EndsInComment text) (hmeaning : ast.meaning? .initial = some (regex, flags))
      (hlimits : ¬(WithinLimits ast regex ↔
        WithinLimits (anchoredAst ast) (anchoredRegex regex)))

/-- A group leaves what is left behind it. -/
theorem ends_readOpened {P : Ast → Reading → Prop}
    {readRest : List Ast → List Ast → Reading → Option (Ast × Reading)}
    (hrest : ∀ items branches r, Ends P (readRest items branches r)) (items branches : List Ast)
    (verbose : Bool) (opening : Opening) (r : Reading) :
    Ends P (readOpened readRest items branches verbose opening r) := by
  cases opening with
  | directive changes => exact hrest _ _ _
  | group captures changes => exact .bind_any fun body q => .bind_value fun closed => hrest _ _ _

/-- Branches end where the text does, or at a `)`. -/
theorem readBranches_stops (fuel : Nat) (items branches : List Ast) (r : Reading) :
    Ends (fun _ q => q.rest = [] ∨ ∃ s, q.rest = ')' :: s)
      (readBranches fuel items branches r) := by
  induction fuel generalizing items branches r with
  | zero => exact .none
  | succ fuel ih =>
      simp only [readBranches]
      split
      · next hnext =>
          refine .some (.inl ?_)
          cases hr : r.skip.rest with
          | nil => rfl
          | cons c s => simp [Reading.next?, hr] at hnext
      · next c after hnext =>
          split
          · next hc =>
              subst hc
              exact .some (.inr ⟨_, rest_of_next? hnext⟩)
          · split
            · exact ih _ _ _
            · split
              · exact .bind_any fun opening q => ends_readOpened ih _ _ _ opening q
              · split
                · exact .bind_any fun turns q => .bind_any fun items p => ih _ _ _
                · exact .bind_any fun item q => ih _ _ _

/-- A text has a stray parenthesis, or is read as a whole, or cannot be read. -/
theorem readText_cases (text : Text) :
    readText text = none ∨ HasStrayParenthesis text ∨ ∃ ast, ReadsAs text ast := by
  cases h : readText text with
  | none => exact .inl rfl
  | some x =>
      obtain ⟨ast, q⟩ := x
      rcases readBranches_stops _ _ _ _ ast q h with hend | ⟨s, hs⟩
      · exact .inr (.inr ⟨ast, q, h, hend⟩)
      · exact .inr (.inl ⟨ast, q, s, h, hs⟩)

/-- A text that closes a group it has not opened means nothing by itself. -/
theorem HasStrayParenthesis.alone?_eq_none {text : Text} (h : HasStrayParenthesis text) :
    alone? text = none := by
  obtain ⟨ast, q, s, hq, hs⟩ := h
  refine Option.eq_none_iff_forall_ne_some.mpr fun regex hregex => ?_
  obtain ⟨_, _, ⟨p, hp, hend⟩, -⟩ := alone?_eq_some_iff.mp hregex
  rw [hq] at hp
  cases hp
  rw [hs] at hend
  contradiction

/-- A text that cannot be read means nothing by itself. -/
theorem alone?_eq_none {text : Text} (h : ∀ ast, ¬ReadsAs text ast) : alone? text = none :=
  Option.eq_none_iff_forall_ne_some.mpr fun _ hregex =>
    have ⟨ast, _, hast, _⟩ := alone?_eq_some_iff.mp hregex
    h ast hast

/-- A text that cannot be read between its anchors compiles to nothing. -/
theorem compile?_eq_none {text : Text} (h : ∀ ast, ¬ReadsAs (anchored text) ast) :
    compile? text = none := by
  rw [compile?_eq, alone?_eq_none h]
  rfl

section ReadsAs

variable {text : Text} {ast : Ast}

/-- A pattern that is read means something by itself if it has a meaning within the limits. -/
theorem ReadsAs.isSome_alone?_iff (h : ReadsAs text ast) :
    (alone? text).isSome ↔ ∃ regex flags, ast.meaning? .initial = some (regex, flags) ∧
      WithinLimits ast regex := by
  rw [Option.isSome_iff_exists]
  simp only [alone?_eq_some_iff]
  constructor
  · rintro ⟨regex, ast', flags, hast, hmeaning⟩
    obtain rfl := h.unique hast
    exact ⟨regex, flags, hmeaning⟩
  · rintro ⟨regex, flags, hmeaning⟩
    exact ⟨regex, ast, flags, h, hmeaning⟩

/-- A pattern that is read compiles to its meaning between its anchors, if that is within the
limits. -/
theorem ReadsAs.compile?_eq_some_iff (h : ReadsAs text ast) (hcomment : ¬EndsInComment text)
    {pattern : Pattern} :
    compile? text = some pattern ↔ ∃ regex flags, ast.meaning? .initial = some (regex, flags) ∧
      WithinLimits (anchoredAst ast) (anchoredRegex regex) ∧
        pattern = ⟨anchored text, anchoredRegex regex⟩ := by
  rw [compile?_eq, Option.map_eq_some_iff]
  simp only [alone?_eq_some_iff]
  constructor
  · rintro ⟨whole, ⟨ast', flags, hast, hmeaning, hlimits⟩, rfl⟩
    obtain rfl := (h.readsAs_anchored hcomment).unique hast
    rw [meaning?_anchoredAst] at hmeaning
    obtain ⟨⟨regex, inner⟩, hinner, heq⟩ := Option.map_eq_some_iff.mp hmeaning
    cases heq
    exact ⟨regex, inner, hinner, hlimits, rfl⟩
  · rintro ⟨regex, flags, hmeaning, hlimits, rfl⟩
    refine ⟨_, ⟨_, .initial, h.readsAs_anchored hcomment, ?_, hlimits⟩, rfl⟩
    rw [meaning?_anchoredAst, hmeaning]
    rfl

/-- A pattern that is read compiles just if it has such a meaning between its anchors. -/
theorem ReadsAs.isSome_compile?_iff (h : ReadsAs text ast) (hcomment : ¬EndsInComment text) :
    (compile? text).isSome ↔ ∃ regex flags, ast.meaning? .initial = some (regex, flags) ∧
      WithinLimits (anchoredAst ast) (anchoredRegex regex) := by
  rw [Option.isSome_iff_exists]
  simp only [h.compile?_eq_some_iff hcomment]
  constructor
  · rintro ⟨_, regex, flags, hmeaning, hlimits, -⟩
    exact ⟨regex, flags, hmeaning, hlimits⟩
  · rintro ⟨regex, flags, hmeaning, hlimits⟩
    exact ⟨_, regex, flags, hmeaning, hlimits, rfl⟩

end ReadsAs

variable {text : Text}

/-- The slips are just where the anchors decide whether a text is a pattern. -/
theorem slips_iff : Slips text ↔ ¬((compile? text).isSome ↔ (alone? text).isSome) := by
  constructor
  · rintro (⟨h, hcompile⟩ | ⟨h, halone⟩ | ⟨h, hcomment, hmeaning, hlimits⟩) hiff
    · rw [hiff, h.alone?_eq_none] at hcompile
      contradiction
    · rw [← hiff, compile?_eq_none h.not_readsAs_anchored] at halone
      contradiction
    · rw [h.isSome_compile?_iff hcomment, h.isSome_alone?_iff] at hiff
      simp only [hmeaning, Option.some.injEq, Prod.mk.injEq] at hiff
      refine hlimits ⟨fun hwithin => ?_, fun hwithin => ?_⟩
      · obtain ⟨_, _, ⟨rfl, -⟩, hanchored⟩ := hiff.mpr ⟨_, _, ⟨rfl, rfl⟩, hwithin⟩
        exact hanchored
      · obtain ⟨_, _, ⟨rfl, -⟩, halone⟩ := hiff.mp ⟨_, _, ⟨rfl, rfl⟩, hwithin⟩
        exact halone
  · intro hiff
    -- The text is not read by itself, is read up to a parenthesis too many, or is read whole.
    rcases readText_cases text with hnone | hstray | ⟨ast, h⟩
    · refine absurd ?_ hiff
      have hread : ∀ ast, ¬ReadsAs text ast := fun ast ⟨q, hq, _⟩ => by
        rw [hnone] at hq
        contradiction
      simp [alone?_eq_none hread, compile?_eq_none (not_readsAs_anchored_of_none hnone)]
    · rw [hstray.alone?_eq_none] at hiff
      exact .parenthesis hstray (by simpa [Option.isSome_iff_ne_none] using hiff)
    · by_cases hcomment : EndsInComment text
      · rw [compile?_eq_none hcomment.not_readsAs_anchored] at hiff
        exact .comment hcomment (by simpa [Option.isSome_iff_ne_none] using hiff)
      · rw [h.isSome_compile?_iff hcomment, h.isSome_alone?_iff] at hiff
        rcases hmeaning : ast.meaning? .initial with _ | ⟨regex, flags⟩
        · simp [hmeaning] at hiff
        · refine .limits h hcomment hmeaning fun hlimits => hiff ?_
          simp only [hmeaning, Option.some.injEq, Prod.mk.injEq]
          constructor
          · rintro ⟨_, _, ⟨rfl, rfl⟩, hwithin⟩
            exact ⟨_, _, ⟨rfl, rfl⟩, hlimits.mpr hwithin⟩
          · rintro ⟨_, _, ⟨rfl, rfl⟩, hwithin⟩
            exact ⟨_, _, ⟨rfl, rfl⟩, hlimits.mp hwithin⟩

/-- What a text means by itself matches the value from its first character to its last. -/
def MatchesWhole (text value : Text) : Prop :=
  ∃ regex, alone? text = some regex ∧ regex.Spans none value none

/-- A text that is a pattern between the anchors and by itself accepts the values that it matches
as a whole. -/
theorem accepts_iff_matchesWhole {pattern : Pattern} (hcompile : compile? text = some pattern)
    (halone : (alone? text).isSome) (value : Text) :
    pattern.accepts value = true ↔ MatchesWhole text value := by
  obtain ⟨regex, halone⟩ := Option.isSome_iff_exists.mp halone
  obtain ⟨ast, flags, h, hmeaning, -⟩ := alone?_eq_some_iff.mp halone
  have hcomment : ¬EndsInComment text := fun hcomment => by
    rw [compile?_eq_none hcomment.not_readsAs_anchored] at hcompile
    contradiction
  obtain ⟨regex', _, hmeaning', -, rfl⟩ := (h.compile?_eq_some_iff hcomment).mp hcompile
  rw [hmeaning] at hmeaning'
  cases hmeaning'
  rw [accepts, isFoundIn_anchoredRegex (Ast.ordered_meaning? h.ordered hmeaning)]
  constructor
  · exact fun hspans => ⟨regex, halone, hspans⟩
  · rintro ⟨regex', halone', hspans⟩
    rw [halone] at halone'
    cases halone'
    exact hspans

end CatchmentLint.Pattern
