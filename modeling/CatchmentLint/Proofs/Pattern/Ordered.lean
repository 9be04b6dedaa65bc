import CatchmentLint.Pattern.Meaning
import CatchmentLint.Proofs.Pattern.Extent
import CatchmentLint.Proofs.Pattern.Spans

/-!
# CatchmentLint.Proofs.Pattern.Ordered

The bounds of every repetition that is read can be met, and so can those of what it means.
-/

namespace CatchmentLint.Pattern

/-! ## What is read -/

/-- The least count is at most the greatest. -/
def CountsOrdered (turns : Nat × Option Nat) : Prop := ∀ m ∈ turns.2, turns.1 ≤ m

mutual

/-- Whether the bounds of every repetition can be met. -/
def Ast.Ordered : Ast → Prop
  | .repetition min max _ body => CountsOrdered (min, max) ∧ body.Ordered
  | .group _ _ body => body.Ordered
  | .alternation branches => Ast.AllOrdered branches
  | .sequence items => Ast.AllOrdered items
  | _ => True

/-- The bounds of every repetition in a list can be met. -/
def Ast.AllOrdered : List Ast → Prop
  | [] => True
  | ast :: asts => ast.Ordered ∧ Ast.AllOrdered asts

end

theorem Ast.allOrdered_iff {asts : List Ast} : Ast.AllOrdered asts ↔ ∀ ast ∈ asts, ast.Ordered := by
  induction asts with
  | nil => simp [Ast.AllOrdered]
  | cons ast asts ih => simp [Ast.AllOrdered, ih]

/-- A sequence repeats nothing by itself. -/
theorem Ast.ordered_ofItems {items : List Ast} (h : ∀ item ∈ items, item.Ordered) :
    (Ast.ofItems items).Ordered := by
  unfold Ast.ofItems
  split
  · exact True.intro
  · exact h _ List.mem_cons_self
  · exact Ast.allOrdered_iff.mpr h

/-- A choice repeats nothing by itself. -/
theorem Ast.ordered_ofBranches {branches : List Ast} (h : ∀ branch ∈ branches, branch.Ordered) :
    (Ast.ofBranches branches).Ordered := by
  unfold Ast.ofBranches
  split
  · exact h _ List.mem_cons_self
  · exact Ast.allOrdered_iff.mpr h

variable {r : Reading} {items branches : List Ast}

/-- The branches that are closed are as good as the items and branches they are made of. -/
theorem ordered_closeBranches (hitems : ∀ item ∈ items, item.Ordered)
    (hbranches : ∀ branch ∈ branches, branch.Ordered) : (closeBranches items branches).Ordered := by
  have hlast : (Ast.ofItems items.reverse).Ordered :=
    Ast.ordered_ofItems fun item hitem => hitems item (List.mem_reverse.mp hitem)
  refine Ast.ordered_ofBranches fun branch hbranch => ?_
  rcases List.mem_cons.mp (List.mem_reverse.mp hbranch) with rfl | hbranch
  · exact hlast
  · exact hbranches branch hbranch

/-- Counts `{m,n}` with the greatest below the least are refused by the reader. -/
theorem countsOrdered_readGreatest (least : Nat) (r : Reading) :
    Ends (fun turns _ => CountsOrdered turns) (readGreatest least r) := by
  unfold readGreatest
  split
  · exact .some nofun
  · refine .bind_any fun second q => .bind_value fun greatest => .bind_value fun after => ?_
    split
    · next hle =>
        refine .some fun m hm => ?_
        cases hm
        exact hle
    · exact .none

/-- Every operator of repetition comes with bounds that can be met. -/
theorem countsOrdered_readTurns (c : Char) (r : Reading) :
    Ends (fun turns _ => CountsOrdered turns) (readTurns c r) := by
  unfold readTurns
  split
  · exact .some fun m _ => Nat.zero_le m
  · split
    · exact .some nofun
    · split
      · exact .some nofun
      · simp only [readCounts]
        split
        · exact .none
        · refine .bind_any fun first q => .bind_value fun least => ?_
          split
          · refine .some fun m hm => ?_
            cases hm
            exact Nat.le_refl _
          · exact .bind_value fun after => countsOrdered_readGreatest least _

/-- A repetition takes over the bounds that have been read. -/
theorem ordered_repeatLast {turns : Nat × Option Nat} (hturns : CountsOrdered turns)
    (hitems : ∀ item ∈ items, item.Ordered) (r : Reading) :
    Ends (fun items _ => ∀ item ∈ items, Ast.Ordered item) (repeatLast turns items r) := by
  unfold repeatLast
  split
  · next item items =>
      simp only
      split
      · refine .some fun a ha => ?_
        rcases List.mem_cons.mp ha with rfl | ha
        · exact ⟨hturns, hitems item List.mem_cons_self⟩
        · exact hitems a (List.mem_cons_of_mem _ ha)
      · exact .none
  · exact .none

/-- No escape repeats anything. -/
theorem ordered_readEscapeOf (c : Char) (r : Reading) :
    Ends (fun item _ => Ast.Ordered item) (readEscapeOf c r) := by
  simp only [readEscapeOf]
  split <;> try
    first
    | exact .some True.intro
    | exact Ends.map (P := fun _ _ => True) (fun _ _ _ => True.intro) fun _ _ _ => True.intro
  split
  · exact .some True.intro
  · exact .none

/-- No atom repeats anything. -/
theorem ordered_readAtom (c : Char) (r : Reading) :
    Ends (fun item _ => Ast.Ordered item) (readAtom c r) := by
  unfold readAtom
  split
  · exact .bind_any fun start q => .bind_any fun set p => .some True.intro
  · split
    · exact .bind_any ordered_readEscapeOf
    · split
      · exact .some True.intro
      · split
        · exact .some True.intro
        · split
          · exact .some True.intro
          · exact .some True.intro

/-- A group is as good as what is read inside of it and behind it. -/
theorem ordered_readOpened {readRest : List Ast → List Ast → Reading → Option (Ast × Reading)}
    (hrest : ∀ items branches r, (∀ item ∈ items, Ast.Ordered item) →
      (∀ branch ∈ branches, Ast.Ordered branch) →
        Ends (fun ast _ => Ast.Ordered ast) (readRest items branches r))
    (hitems : ∀ item ∈ items, item.Ordered) (hbranches : ∀ branch ∈ branches, branch.Ordered)
    (verbose : Bool) (opening : Opening) (r : Reading) :
    Ends (fun ast _ => Ast.Ordered ast) (readOpened readRest items branches verbose opening r) := by
  cases opening with
  | directive changes =>
      exact hrest _ _ _ (List.forall_mem_cons.mpr ⟨True.intro, hitems⟩) hbranches
  | group captures changes =>
      have hinner := hrest [] [] { r with verbose := (changes.value? .verbose).getD r.verbose }
        (List.forall_mem_nil _) (List.forall_mem_nil _)
      exact hinner.bind fun body q hbody => .bind_value fun closed =>
        hrest _ _ _ (List.forall_mem_cons.mpr ⟨hbody, hitems⟩) hbranches

/-- Whatever pattern is read, the bounds of its repetitions can be met. -/
theorem ordered_readBranches (fuel : Nat) (hitems : ∀ item ∈ items, item.Ordered)
    (hbranches : ∀ branch ∈ branches, branch.Ordered) (r : Reading) :
    Ends (fun ast _ => Ast.Ordered ast) (readBranches fuel items branches r) := by
  induction fuel generalizing items branches r with
  | zero => exact .none
  | succ fuel ih =>
      have hclose := ordered_closeBranches hitems hbranches
      simp only [readBranches]
      split
      · exact .some hclose
      · split
        · exact .some hclose
        · split
          · refine ih (List.forall_mem_nil _) (List.forall_mem_cons.mpr ⟨?_, hbranches⟩) _
            exact Ast.ordered_ofItems fun item hitem => hitems item (List.mem_reverse.mp hitem)
          · split
            · exact .bind_any fun opening q =>
                ordered_readOpened (fun _ _ r hitems hbranches => ih hitems hbranches r) hitems
                  hbranches _ opening q
            · split
              · exact (countsOrdered_readTurns _ _).bind fun turns q hturns =>
                  (ordered_repeatLast hturns hitems q).bind fun items p hitems =>
                    ih hitems hbranches p
              · exact (ordered_readAtom _ _).bind fun item q hitem =>
                  ih (List.forall_mem_cons.mpr ⟨hitem, hitems⟩) hbranches q

/-! ## What it means -/

/-- A character means a single step, in either case of letters. -/
theorem ordered_literalMeaning? {flags : Flags} {l : Literal} {regex : Regex}
    (h : literalMeaning? flags l = some regex) : regex.Ordered := by
  simp only [literalMeaning?] at h
  split at h
  · contradiction
  · split at h
    · cases h
      exact True.intro
    · cases h
      exact True.intro

theorem ordered_dotMeaning? {flags : Flags} {regex : Regex} (h : dotMeaning? flags = some regex) :
    regex.Ordered := by
  simp only [dotMeaning?] at h
  split at h
  · cases h
    exact True.intro
  · contradiction

mutual

/-- Bounds are taken over as they are, so that they can be met in the meaning as well. -/
theorem Ast.ordered_meaning? : {ast : Ast} → {flags flags' : Flags} → {regex : Regex} →
    ast.Ordered → ast.meaning? flags = some (regex, flags') → regex.Ordered
  | .empty, _, _, _, _, h => by
      cases h
      exact True.intro
  | .directive _, _, _, _, _, h => by
      cases h
      exact True.intro
  | .literal _, _, _, _, _, h => by
      obtain ⟨regex, hregex, h⟩ := Option.map_eq_some_iff.mp h
      cases h
      exact ordered_literalMeaning? hregex
  | .dot, _, _, _, _, h => by
      obtain ⟨regex, hregex, h⟩ := Option.map_eq_some_iff.mp h
      cases h
      exact ordered_dotMeaning? hregex
  | .place p, _, _, _, _, h => by
      cases h
      exact True.intro
  | .property _ _, _, _, _, _, h => by
      obtain ⟨set, -, h⟩ := Option.map_eq_some_iff.mp h
      cases h
      exact True.intro
  | .perl _ _, _, _, _, _, h => by
      obtain ⟨set, -, h⟩ := Option.map_eq_some_iff.mp h
      cases h
      exact True.intro
  | .bracketed _ _, _, _, _, _, h => by
      obtain ⟨set, -, h⟩ := Option.map_eq_some_iff.mp h
      cases h
      exact True.intro
  -- Here alone bounds come into the meaning.
  | .repetition min max lazy body, _, _, _, hast, h => by
      obtain ⟨⟨inner, _⟩, hinner, h⟩ := Option.bind_eq_some_iff.mp h
      cases h
      exact ⟨hast.1, Ast.ordered_meaning? hast.2 hinner⟩
  | .group captures changes body, _, _, _, hast, h => by
      obtain ⟨⟨inner, _⟩, hinner, h⟩ := Option.bind_eq_some_iff.mp h
      have hbody : body.Ordered := hast
      have hinner := Ast.ordered_meaning? hbody hinner
      cases h
      split
      · exact hinner
      · exact hinner
  | .alternation branches, _, _, _, hast, h => Ast.ordered_branchesMeaning? hast h
  | .sequence items, _, _, _, hast, h => Ast.ordered_itemsMeaning? hast h

/-- The bounds in a sequence can be met in its meaning, item by item. -/
theorem Ast.ordered_itemsMeaning? : {items : List Ast} → {flags flags' : Flags} →
    {regex : Regex} → Ast.AllOrdered items →
      Ast.itemsMeaning? flags items = some (regex, flags') → regex.Ordered
  | [], _, _, _, _, h => by
      cases h
      exact True.intro
  | item :: items, _, _, _, hitems, h => by
      obtain ⟨⟨first, _⟩, hfirst, h⟩ := Option.bind_eq_some_iff.mp h
      obtain ⟨⟨rest, _⟩, hrest, h⟩ := Option.bind_eq_some_iff.mp h
      cases h
      exact (Ast.ordered_meaning? hitems.1 hfirst).andThen
        (Ast.ordered_itemsMeaning? hitems.2 hrest)

/-- The bounds in a choice can be met in its meaning, branch by branch. -/
theorem Ast.ordered_branchesMeaning? : {branches : List Ast} → {flags flags' : Flags} →
    {regex : Regex} → Ast.AllOrdered branches →
      Ast.branchesMeaning? flags branches = some (regex, flags') → regex.Ordered
  | [], _, _, _, _, h => by
      cases h
      exact True.intro
  | branch :: branches, _, _, _, hbranches, h => by
      obtain ⟨⟨first, _⟩, hfirst, h⟩ := Option.bind_eq_some_iff.mp h
      obtain ⟨⟨rest, _⟩, hrest, h⟩ := Option.bind_eq_some_iff.mp h
      cases h
      exact ⟨Ast.ordered_meaning? hbranches.1 hfirst,
        Ast.ordered_branchesMeaning? hbranches.2 hrest⟩

end

end CatchmentLint.Pattern
