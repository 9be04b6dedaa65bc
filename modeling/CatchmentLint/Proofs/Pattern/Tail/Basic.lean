import CatchmentLint.Proofs.Pattern.Extent

/-!
# CatchmentLint.Proofs.Pattern.Tail.Basic

Reading a text by itself, and reading it with the end `)$` of a group behind it.

1. As long as the text lasts, both readings go on alike (`Joins`): the second has `)$` behind what
   is left.  Only a comment that the text ends in makes a difference, since it takes in the `)$`.
2. A reader that needs more than the text has finds at most the `)` to go on with, and leaves
   nothing but the `$` then (`Agrees`).
-/

namespace CatchmentLint.Pattern

/-- The end of the group that a pattern is put into. -/
def closing : Text := ")$".toList

/-! ## Two readings -/

/-- Two readings that go on alike: `)$` stands behind what is left to the second, or both texts are
at their end and `)$` has been passed over as part of a comment. -/
inductive Joins (r : Reading) : Reading → Prop
  | behind : Joins r { r with rest := r.rest ++ closing }
  | swallowed (h : r.rest = []) : Joins r r

/-- What a text gives by itself, and with `)$` behind it: the same, or nothing and what is left as
`P` says. -/
inductive Agrees {α : Type} (P : α → Reading → Prop) :
    Option (α × Reading) → Option (α × Reading) → Prop
  | read (a : α) {q q' : Reading} (h : Joins q q') : Agrees P (some (a, q)) (some (a, q'))
  | refused {y : Option (α × Reading)} (h : Ends P y) : Agrees P none y

/-- The `)` has been read. -/
abbrev Spent {α : Type} : α → Reading → Prop := fun _ q => q.rest <:+ ['$']

/-- The end of the text has been reached. -/
abbrev Reached {α : Type} : α → Reading → Prop := fun _ q => q.rest <:+ closing

theorem reached_of_rest_eq {α : Type} {a : α} {q : Reading} (h : q.rest = closing) :
    Reached a q := ⟨[], h⟩

section Agrees

variable {α β γ : Type} {P : α → Reading → Prop} {Q : β → Reading → Prop}
  {x y : Option (α × Reading)}

/-- Nothing is read, with `)$` and without. -/
theorem Agrees.none : Agrees P none none := .refused .none

/-- What is read of the text by itself is read of the longer one as well. -/
theorem Agrees.of_some {a : α} {q : Reading} (h : Agrees P x y) (hx : x = some (a, q)) :
    ∃ q', y = some (a, q') ∧ Joins q q' := by
  cases h with
  | read b hjoins =>
      cases hx
      exact ⟨_, rfl, hjoins⟩
  | refused _ => contradiction

/-- Where the text by itself gives nothing, the longer one leaves what `P` says. -/
theorem Agrees.of_none (h : Agrees P x y) (hx : x = Option.none) : Ends P y := by
  cases h with
  | read _ _ => contradiction
  | refused hrest => exact hrest

/-- One step after the other: both go on from what they have left, or the longer text alone from
what `P` says of it. -/
theorem Agrees.bind {f f' : α × Reading → Option (β × Reading)} (h : Agrees P x y)
    (hread : ∀ a q q', x = some (a, q) → y = some (a, q') → Joins q q' →
      Agrees Q (f (a, q)) (f' (a, q')))
    (hrest : ∀ a q, P a q → Ends Q (f' (a, q))) : Agrees Q (x >>= f) (y >>= f') := by
  cases h with
  | read a h => exact hread a _ _ rfl rfl h
  | refused h => exact .refused (h.bind hrest)

/-- A weaker statement of what the longer text leaves will do as well. -/
theorem Agrees.mono {P' : α → Reading → Prop} (h : Agrees P x y) (himp : ∀ a q, P a q → P' a q) :
    Agrees P' x y := by
  cases h with
  | read a h => exact .read a h
  | refused h => exact .refused (h.mono himp)

/-- A step that only turns over what has been read. -/
theorem Agrees.map {f : α → β} (h : Agrees P x y) (hrest : ∀ a q, P a q → Q (f a) q) :
    Agrees Q (x.map fun p => (f p.1, p.2)) (y.map fun p => (f p.1, p.2)) := by
  cases h with
  | read a h => exact .read _ h
  | refused h => exact .refused (h.map hrest)

/-- A step that reads nothing. -/
theorem Agrees.bind_value {o : Option γ} {f f' : γ → Option (β × Reading)}
    (h : ∀ c, Agrees Q (f c) (f' c)) : Agrees Q (o >>= f) (o >>= f') := by
  rcases o with _ | c
  · exact .none
  · exact h c

theorem Agrees.map_value {o : Option β} {q q' : Reading} (h : Joins q q') :
    Agrees Q (o.map (·, q)) (o.map (·, q')) := by
  rcases o with _ | b
  · exact .none
  · exact .read b h

end Agrees

variable {r r' q : Reading} {s : Text}

/-! ## Single steps -/

namespace Joins

/-- As long as there is a character left of the text, both readings have it in front. -/
theorem rest_eq (h : Joins r r') {c : Char} {s : Text} (hr : r.rest = c :: s) :
    r'.rest = c :: (s ++ closing) := by
  cases h with
  | behind => simp only [hr, List.cons_append]
  | swallowed hnil =>
      rw [hnil] at hr
      contradiction

/-- At the end of the text, nothing is left or the end of the group. -/
theorem rest_eq_of_nil (h : Joins r r') (hr : r.rest = []) : r'.rest = [] ∨ r'.rest = closing := by
  cases h with
  | behind => exact .inr (by simp only [hr, List.nil_append])
  | swallowed _ => exact .inl hr

/-- Both readings go on at the same place of the text. -/
theorem goTo (h : Joins r r') (s : Text) : Joins (r.goTo s) (r'.goTo (s ++ closing)) := by
  have hgo : r'.goTo (s ++ closing) = { r.goTo s with rest := (r.goTo s).rest ++ closing } := by
    cases h <;> rfl
  rw [hgo]
  exact .behind

/-- Whether blanks count may change for both at once. -/
theorem withVerbose (h : Joins r r') (b : Bool) :
    Joins { r with verbose := b } { r' with verbose := b } := by
  cases h with
  | behind => exact .behind
  | swallowed hr => exact .swallowed hr

theorem verbose_eq (h : Joins r r') : r'.verbose = r.verbose := by cases h <;> rfl

theorem names_eq (h : Joins r r') : r'.names = r.names := by cases h <;> rfl

end Joins

/-- Blanks are passed over alike, unless a comment takes in the end of the group. -/
theorem skipBlanks_append (inComment : Bool) (s : Text) :
    Reading.skipBlanks inComment (s ++ closing) = Reading.skipBlanks inComment s ++ closing ∨
      Reading.skipBlanks inComment s = [] ∧ Reading.skipBlanks inComment (s ++ closing) = [] := by
  induction s generalizing inComment with
  | nil =>
      cases inComment with
      | false => exact .inl (by decide)
      | true => exact .inr ⟨rfl, by decide⟩
  | cons c s ih =>
      simp only [List.cons_append, Reading.skipBlanks]
      split
      · exact ih _
      · split
        · exact ih _
        · split
          · exact ih _
          · exact .inl rfl

namespace Joins

/-- Both readings pass over the same blanks and comments; a comment at the end takes in the `)$`. -/
theorem skip (h : Joins r r') : Joins r.skip r'.skip := by
  cases h with
  | behind =>
      unfold Reading.skip
      by_cases hverbose : r.verbose
      · simp only [if_pos hverbose]
        rcases skipBlanks_append false r.rest with hskip | ⟨hnil, hskip⟩
        · rw [hskip]
          exact .behind
        · rw [hskip, hnil]
          exact .swallowed rfl
      · simp only [if_neg hverbose]
        exact .behind
  | swallowed hnil =>
      exact .swallowed (List.suffix_nil.mp (skip_suffix (hnil ▸ List.suffix_refl _)))

/-- Both take the same character, and at the end of the text the longer one takes the `)`. -/
theorem next? (h : Joins r r') : Agrees Spent r.next? r'.next? := by
  unfold Reading.next?
  cases hr : r.rest with
  | nil =>
      refine .refused ?_
      rcases h.rest_eq_of_nil hr with hr' | hr' <;> rw [hr']
      · exact .none
      · exact .some (List.suffix_refl _)
  | cons c s =>
      rw [h.rest_eq hr]
      exact .read c (h.goTo s)

/-- A character that the end of the group does not hold. -/
theorem past? {c : Char} (h : Joins r r') (hc : c ∉ closing) :
    r.past? c = none ∧ r'.past? c = none ∨
      ∃ q q', r.past? c = some q ∧ r'.past? c = some q' ∧ Joins q q' := by
  unfold Reading.past?
  cases hr : r.rest with
  | nil =>
      refine .inl ⟨rfl, ?_⟩
      rcases h.rest_eq_of_nil hr with hr' | hr' <;> rw [hr']
      · rfl
      · have hne : c ≠ ')' := fun e => hc (e ▸ List.mem_cons_self)
        simp [closing, Text.dropLead?, hne]
  | cons d s =>
      rw [h.rest_eq hr]
      by_cases hd : c = d
      · subst hd
        exact .inr ⟨r.goTo s, r'.goTo (s ++ closing), by simp [Text.dropLead?],
          by simp [Text.dropLead?], h.goTo s⟩
      · exact .inl ⟨by simp [Text.dropLead?, hd], by simp [Text.dropLead?, hd]⟩

/-- The end of a group inside the text is read alike; behind the text it is the `)`. -/
theorem past?_closing (h : Joins r r') :
    (r.past? ')' = none ∧ ∀ q', r'.past? ')' = some q' → q'.rest = ['$']) ∨
      ∃ q q', r.past? ')' = some q ∧ r'.past? ')' = some q' ∧ Joins q q' := by
  unfold Reading.past?
  cases hr : r.rest with
  | nil =>
      refine .inl ⟨rfl, fun q' hq' => ?_⟩
      rcases h.rest_eq_of_nil hr with hr' | hr' <;> rw [hr'] at hq'
      · contradiction
      · cases hq'
        rfl
  | cons d s =>
      rw [h.rest_eq hr]
      by_cases hd : ')' = d
      · subst hd
        exact .inr ⟨r.goTo s, r'.goTo (s ++ closing), by simp [Text.dropLead?],
          by simp [Text.dropLead?], h.goTo s⟩
      · exact .inl ⟨by simp [Text.dropLead?, hd], by simp [Text.dropLead?, hd]⟩

/-- A character that is left is the next one of both. -/
theorem next?_eq (h : Joins r r') {c : Char} {s : Text} (hr : r.rest = c :: s) :
    r.next? = some (c, r.goTo s) ∧ r'.next? = some (c, r'.goTo (s ++ closing)) := by
  simp [Reading.next?, hr, h.rest_eq hr]

/-- Behind the first character that the end of the text has, there is at most the `$`. -/
theorem tail_suffix (h : Joins r r') (hr : r.rest = []) : r'.rest.tail <:+ ['$'] := by
  rcases h.rest_eq_of_nil hr with hr' | hr' <;> rw [hr']
  · exact List.nil_suffix
  · exact List.suffix_refl _

/-- What reads a text without regard to `)$` behind it. -/
theorem of_append {α : Type} {f : Text → Option (α × Text)} (h : Joins r r')
    (hf : ∀ s, f (s ++ closing) = (f s).map fun (a, rest) => (a, rest ++ closing))
    (hnil : f [] = none) :
    f r.rest = none ∧ f r'.rest = none ∨
      ∃ a s, f r.rest = some (a, s) ∧ f r'.rest = some (a, s ++ closing) := by
  cases h with
  | behind =>
      simp only [hf]
      rcases f r.rest with _ | ⟨a, s⟩
      · exact .inl ⟨rfl, rfl⟩
      · exact .inr ⟨a, s, rfl, rfl⟩
  | swallowed hr => exact .inl ⟨by rw [hr, hnil], by rw [hr, hnil]⟩

end Joins

/-- A character and the blanks behind it make the rest shorter. -/
theorem length_skip_of_next? {c : Char} (h : r.next? = some (c, q)) :
    q.skip.rest.length < r.rest.length := by
  rw [rest_of_next? h, List.length_cons]
  exact Nat.lt_succ_of_le (length_skip_le _)

theorem length_of_next? {c : Char} (h : r.next? = some (c, q)) : q.rest.length < r.rest.length := by
  rw [rest_of_next? h]
  exact Nat.lt_succ_self _

/-- A given character and the blanks behind it make the rest shorter. -/
theorem length_skip_of_past? {c : Char} (h : r.past? c = some q) :
    q.skip.rest.length < r.rest.length := by
  rw [rest_of_past? h, List.length_cons]
  exact Nat.lt_succ_of_le (length_skip_le _)

theorem length_of_past? {c : Char} (h : r.past? c = some q) : q.rest.length < r.rest.length := by
  rw [rest_of_past? h]
  exact Nat.lt_succ_self _

end CatchmentLint.Pattern
