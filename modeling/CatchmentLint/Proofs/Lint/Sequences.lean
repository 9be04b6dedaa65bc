import CatchmentLint.Proofs.Lint.Passes
import CatchmentLint.Proofs.Schema.Numbers
import Mathlib.Data.List.DropRight

/-!
# CatchmentLint.Proofs.Lint.Sequences

How the items of a sequence are counted.

* `separatorLength?_eq_some_iff` — a separator takes in all the blank characters around its comma,
  and `alone?_separator`, `denotes_separator` — it is what `\s*,\s*` matches;
* `itemsFrom_append_cons` — the items are what stands between the commas, without the blank
  characters next to them;
* `sequenceLength_eq` — so they are counted as the pieces between commas are;
* `count_sequence` — of a value that has the form of a sequence every item counts.
-/

namespace CatchmentLint.Lint

/-! ## Separators -/

/-- A comma, and blank characters around it. -/
def IsSeparator (s : Text) : Prop :=
  ∃ before after, s = before ++ ',' :: after ∧ (∀ c ∈ before, isBlank c = true) ∧
    ∀ c ∈ after, isBlank c = true

/-- A comma with any blank characters around it. -/
def separator : Regex :=
  .seq .blanks (.seq (.set (.single ','.toNat)) (.seq .blanks .empty))

/-- The text that separates items is that regular expression. -/
theorem alone?_separator : Pattern.alone? "\\s*,\\s*".toList = some separator := by
  decide +kernel

/-- The regular expression of separators matches just these. -/
theorem denotes_separator : separator.Denotes IsSeparator := by
  refine (Regex.denotes_blanks.seq (Regex.denotes_blanks.last.single ',')).congr fun s => ?_
  constructor
  · rintro ⟨before, _, rfl, hbefore, after, rfl, hafter⟩
    exact ⟨before, after, rfl, hbefore, hafter⟩
  · rintro ⟨before, after, rfl, hbefore, hafter⟩
    exact ⟨before, _, rfl, hbefore, after, rfl, hafter⟩

/-- The separator that a text starts with is as long as can be. -/
theorem separatorLength?_eq_some_iff {s : Text} {length : Nat} :
    separatorLength? s = some length ↔ ∃ found rest, s = found ++ rest ∧ found.length = length ∧
      IsSeparator found ∧ StartsOutside isBlank rest := by
  unfold separatorLength?
  constructor
  · intro h
    split at h
    · next rest hrest =>
      have hs : s = (s.takeWhile isBlank ++ ',' :: rest.takeWhile isBlank) ++
          rest.dropWhile isBlank := by
        rw [List.append_assoc, List.cons_append, List.takeWhile_append_dropWhile, ← hrest,
          List.takeWhile_append_dropWhile]
      refine ⟨_, _, hs, ?_, ⟨_, _, rfl, fun c => of_mem_takeWhile, fun c => of_mem_takeWhile⟩,
        startsOutside_dropWhile _ _⟩
      have hlength := congrArg List.length hs
      rw [List.length_append] at hlength
      have heq := Option.some.inj h
      omega
    · cases h
  · rintro ⟨_, rest, rfl, rfl, ⟨before, after, rfl, hbefore, hafter⟩, hrest⟩
    have hcomma : StartsOutside isBlank (',' :: (after ++ rest)) := by
      rintro c ⟨⟩
      rfl
    have hdrop : (before ++ ',' :: after ++ rest).dropWhile isBlank = ',' :: (after ++ rest) := by
      rw [List.append_assoc]
      exact dropWhile_append_of_startsOutside hbefore hcomma
    simp only [hdrop, dropWhile_append_of_startsOutside hafter hrest, List.length_append,
      List.length_cons, Option.some.injEq]
    omega

/-- No separator begins before a character that is neither blank nor a comma. -/
theorem separatorLength?_eq_none {before rest : Text} {c : Char}
    (hbefore : ∀ d ∈ before, isBlank d = true) (hc : isBlank c = false) (hcomma : c ≠ ',') :
    separatorLength? (before ++ c :: rest) = none := by
  have hstarts : StartsOutside isBlank (c :: rest) := by
    rintro d ⟨⟩
    exact hc
  unfold separatorLength?
  rw [dropWhile_append_of_startsOutside hbefore hstarts]
  split
  · next heq => exact absurd (List.cons.inj heq).1 hcomma
  · rfl

/-! ## Items -/

theorem itemsFrom_eq_drop (passed : Nat) (s : Text) :
    itemsFrom passed s = itemsFrom 0 (s.drop passed) := by
  induction s generalizing passed with
  | nil => rw [List.drop_nil, itemsFrom, itemsFrom]
  | cons c s ih =>
    cases passed with
    | zero => rfl
    | succ passed => rw [itemsFrom, ih, List.drop_succ_cons]

/-- Without a comma there is one item. -/
theorem itemsFrom_of_notMem {s : Text} (h : ',' ∉ s) : itemsFrom 0 s = [s] := by
  induction s with
  | nil => rfl
  | cons c s ih =>
    have hnone : separatorLength? (c :: s) = none := by
      refine Option.eq_none_iff_forall_ne_some.mpr fun length hlength => h ?_
      obtain ⟨_, rest, hs, -, ⟨before, after, rfl, -⟩, -⟩ := separatorLength?_eq_some_iff.mp hlength
      rw [hs]
      simp
    rw [itemsFrom, hnone]
    simp only [ih fun hmem => h (List.mem_cons_of_mem c hmem)]

/-- A separator ends an item, whatever its length. -/
theorem itemsFrom_separator {found rest : Text} (hfound : IsSeparator found)
    (hrest : StartsOutside isBlank rest) :
    itemsFrom 0 (found ++ rest) = [] :: itemsFrom 0 rest := by
  have hlength : separatorLength? (found ++ rest) = some found.length :=
    separatorLength?_eq_some_iff.mpr ⟨found, rest, rfl, rfl, hfound, hrest⟩
  obtain ⟨c, s, rfl⟩ : ∃ c s, found = c :: s := by
    obtain ⟨before, after, rfl, -⟩ := hfound
    exact List.exists_cons_of_ne_nil (by simp)
  rw [List.cons_append] at hlength ⊢
  rw [itemsFrom, hlength]
  simp only [List.length_cons, Nat.add_one_sub_one, itemsFrom_eq_drop s.length, List.drop_left]

/-- The first item ends before the blank characters in front of the first comma, and the second one
starts behind those that follow the comma. -/
theorem itemsFrom_append_cons {s t : Text} (h : ',' ∉ s) :
    itemsFrom 0 (s ++ ',' :: t) = Text.trimEnd s :: itemsFrom 0 (Text.trimStart t) := by
  have hblank : ∀ s : Text, (∀ c ∈ s, isBlank c = true) →
      itemsFrom 0 (s ++ ',' :: t) = Text.trimEnd s :: itemsFrom 0 (Text.trimStart t) := by
    intro s hs
    have hsplit : s ++ ',' :: t = (s ++ ',' :: t.takeWhile isBlank) ++ Text.trimStart t := by
      rw [List.append_assoc, List.cons_append, Text.trimStart, List.takeWhile_append_dropWhile]
    rw [hsplit, Text.trimEnd_of_blank hs]
    exact itemsFrom_separator ⟨s, _, rfl, hs, fun c => of_mem_takeWhile⟩ (startsOutside_dropWhile _ _)
  induction s with
  | nil => exact hblank [] (List.forall_mem_nil _)
  | cons c s ih =>
    by_cases hs : ∀ d ∈ c :: s, isBlank d = true
    · exact hblank _ hs
    · -- no separator starts here, since another character stands before the comma
      obtain ⟨d, hd, hfilled⟩ : ∃ d ∈ c :: s, isBlank d = false := by
        simpa only [not_forall, exists_prop, Bool.not_eq_true] using hs
      have hmem : d ∈ (c :: s).dropWhile isBlank := mem_dropWhile_of_mem hd hfilled
      obtain ⟨e, rest, hrest⟩ := List.exists_cons_of_ne_nil (List.ne_nil_of_mem hmem)
      have he : isBlank e = false := startsOutside_dropWhile isBlank (c :: s) e (by rw [hrest]; rfl)
      have hsplit := List.takeWhile_append_dropWhile (p := isBlank) (l := c :: s)
      rw [hrest] at hsplit
      have hcomma : e ≠ ',' := by
        rintro rfl
        exact h (by rw [← hsplit]; simp)
      have hnone : separatorLength? (c :: (s ++ ',' :: t)) = none := by
        rw [← List.cons_append, ← hsplit, List.append_assoc]
        exact separatorLength?_eq_none (fun c => of_mem_takeWhile) he hcomma
      rw [List.cons_append, itemsFrom, hnone]
      simp only [ih fun hmem => h (List.mem_cons_of_mem c hmem), Text.trimEnd_cons hs]

/-- An item is empty where the piece between two commas is blank. -/
theorem map_isEmpty_itemsFrom (t : Text) : (itemsFrom 0 (Text.trimStart t)).map List.isEmpty =
    (Text.splitOn ',' t).map (·.all isBlank) := by
  -- The induction is on the length, since what follows a comma is shorter.
  induction hlength : t.length using Nat.strongRecOn generalizing t with
  | ind n ih =>
    subst hlength
    cases hcut : Text.cut? ',' t with
    | none =>
      have hcomma := Text.cut?_eq_none_iff.mp hcut
      have htrimmed : ',' ∉ Text.trimStart t := fun hmem =>
        hcomma ((List.dropWhile_suffix isBlank).mem hmem)
      rw [itemsFrom_of_notMem htrimmed, Text.splitOn_of_notMem hcomma, List.map_singleton,
        List.map_singleton, Text.isEmpty_trimStart]
    | some parts =>
      obtain ⟨rfl, hcomma⟩ := Text.cut?_eq_some_iff.mp hcut
      have hstart : Text.trimStart (parts.1 ++ ',' :: parts.2) =
          Text.trimStart parts.1 ++ ',' :: parts.2 :=
        dropWhile_append_eq (by rintro c ⟨⟩; rfl)
      have htrimmed : ',' ∉ Text.trimStart parts.1 := fun hmem =>
        hcomma ((List.dropWhile_suffix isBlank).mem hmem)
      rw [hstart, itemsFrom_append_cons htrimmed, Text.splitOn_append_cons,
        Text.splitOn_of_notMem hcomma, List.map_cons, ih _ (by simp; omega) parts.2 rfl,
        ← Text.trim, Text.isEmpty_trim]
      rfl

/-! ## Counting -/

/-- Of items that are all empty one is left. -/
theorem length_dropEmpty {items : List Text} (h : items ≠ []) :
    (dropEmpty items).length = max 1 (items.dropWhile List.isEmpty).length := by
  fun_induction dropEmpty items with
  | case1 item items ih =>
    rw [ih (List.cons_ne_nil item items)]
    rfl
  | case2 items hitems =>
    match items with
    | [] => contradiction
    | [[]] => rfl
    | [] :: item :: rest => exact absurd rfl (hitems item rest)
    | (c :: item) :: rest => simp

/-- The items are counted as the pieces between commas are, where blank ones at the end are left
out, but for one. -/
theorem sequenceLength_eq (value : Text) : sequenceLength value =
    max 1 ((Text.splitOn ',' value).rdropWhile (·.all isBlank)).length := by
  have hne : itemsFrom 0 value ≠ [] := by
    cases hcut : Text.cut? ',' value with
    | none => simp [itemsFrom_of_notMem (Text.cut?_eq_none_iff.mp hcut)]
    | some parts =>
      obtain ⟨rfl, hcomma⟩ := Text.cut?_eq_some_iff.mp hcut
      simp [itemsFrom_append_cons hcomma]
  have hlength : ∀ {α : Type} (f : α → Bool) (l : List α),
      (l.dropWhile f).length = ((l.map f).dropWhile id).length := fun f l => by
    rw [List.dropWhile_map, List.length_map, Function.id_comp]
  rw [sequenceLength, length_dropEmpty (by simpa using hne), List.rdropWhile, List.length_reverse,
    hlength List.isEmpty, hlength fun piece : Text => piece.all isBlank,
    List.map_reverse, List.map_reverse]
  cases hcut : Text.cut? ',' value with
  | none =>
    have hcomma := Text.cut?_eq_none_iff.mp hcut
    rw [itemsFrom_of_notMem hcomma, Text.splitOn_of_notMem hcomma]
    have hone : ∀ b : Bool, max 1 ([b].dropWhile id).length = 1 := by decide
    exact (hone _).trans (hone _).symm
  | some parts =>
    obtain ⟨rfl, hcomma⟩ := Text.cut?_eq_some_iff.mp hcut
    rw [itemsFrom_append_cons hcomma, Text.splitOn_append_cons, Text.splitOn_of_notMem hcomma,
      List.map_cons, Text.isEmpty_trimEnd, map_isEmpty_itemsFrom]
    rfl

/-- A value has the form of a sequence just if each piece between commas is an item. -/
theorem conforms_numberSequence_iff {value : Text} :
    conforms Schema.default .numberSequence value = true ↔
      ∀ item ∈ Text.splitOn ',' value, IsItem item := by
  have hconforms : conforms Schema.default .numberSequence value =
      Schema.numberSequencePattern.all (·.accepts value) := rfl
  obtain ⟨pattern, hpattern⟩ : ∃ pattern, Schema.numberSequencePattern = some pattern :=
    Option.isSome_iff_exists.mp (by decide +kernel)
  rw [← accepts_sequence_iff hpattern, hconforms, hpattern, Option.all_some]

/-- Every item of a value that has the form of a sequence counts. -/
theorem sequenceLength_of_conforms {value : Text}
    (h : conforms Schema.default .numberSequence value = true) :
    sequenceLength value = value.count ',' + 1 := by
  have hitems := conforms_numberSequence_iff.mp h
  have hkept : (Text.splitOn ',' value).rdropWhile (·.all isBlank) = Text.splitOn ',' value := by
    rw [List.rdropWhile_eq_self_iff]
    intro hne hblank
    have hitem := hitems _ (List.getLast_mem hne)
    rw [List.all_eq_true] at hblank
    exact hitem.ne_nil (Text.trim_of_blank hblank)
  rw [sequenceLength_eq, hkept, Text.length_splitOn]
  omega

/-- A sequence has as many items as there are pieces between its commas, blank ones at the end left
out, but one at least.  A value that has the default form of a sequence has one more than it has
commas, whatever blank characters stand around them; what is told of it, where the parameter asks
for a number of items, is that it has another one. -/
theorem count_sequence :
    (∀ value, sequenceLength value =
      max 1 ((Text.splitOn ',' value).rdropWhile (·.all isBlank)).length) ∧
    ∀ value, conforms Schema.default .numberSequence value = true →
      sequenceLength value = value.count ',' + 1 ∧
      ∀ (spec : ParameterSpec) (p : Property) (expected : Nat) (desk : Desk),
        p.value = value → spec.count = some expected →
        (writeSequence Schema.default spec p).run desk =
          ((), { desk with
            told := desk.told ++
              if value.count ',' + 1 = expected then []
              else [⟨p.line, (Finding.wrongCount p.key expected (value.count ',' + 1)).message,
                .error, "incorrect_parameter_count".toList⟩] }) := by
  refine ⟨sequenceLength_eq, fun value h => ⟨sequenceLength_of_conforms h, ?_⟩⟩
  rintro spec p expected desk rfl hexpected
  have hfound : checkSequence Schema.default spec p =
      if p.value.count ',' + 1 = expected then []
      else [⟨p.line, .wrongCount p.key expected (p.value.count ',' + 1)⟩] := by
    rw [checkSequence, if_pos h, hexpected, sequenceLength_of_conforms h]
    rfl
  rw [writeSequence_eq, hfound]
  split
  · exact congrFun tellAll_nil desk |>.trans (by simp; rfl)
  · rfl

/-- Three items, with blanks of several kinds around their commas. -/
theorem count_sequence_blanks :
    let value := "1,\t-.5 \u3000, 2.E+3".toList
    let p : Property := ⟨"params".toList, value, 4⟩
    sequenceLength value = 3 ∧
      ((writeSequence Schema.default (Schema.values 4) p).run .empty).2.told =
        [⟨4, "Parameter 'params' expects 4 values but got 3".toList, .error,
          "incorrect_parameter_count".toList⟩] := by
  intro value p
  have hform : conforms Schema.default .numberSequence value = true := by decide +kernel
  obtain ⟨hlength, htold⟩ := count_sequence.2 value hform
  refine ⟨hlength.trans (by decide), ?_⟩
  rw [htold (Schema.values 4) p 4 .empty rfl rfl]
  decide +kernel

end CatchmentLint.Lint
