import CatchmentLint.Proofs.Expression.Numeral
import CatchmentLint.Proofs.Expression.Segments

/-!
# CatchmentLint.Proofs.Expression.Boundary

Where a token ends is told by its text and by the character behind it.

* `EndsAs` — what can stand behind a token in place of what does: nothing, a blank character, or a
  text that starts alike;
* `IsLocal` — a part of a token that is the same with that behind it, and the ways in which such
  parts are put together;
* `readLexeme_of_endsAs` — so tokens of every kind are read again.
-/

namespace CatchmentLint.Token

/-! ## What stands behind a token -/

/-- Nothing stands there, or a blank character, or the character that `rest` starts with. -/
def EndsAs (rest rest' : Text) : Prop := ∀ c ∈ rest'.head?, isBlank c = true ∨ c ∈ rest.head?

/-- Behind more characters of the same kind, the same can stand. -/
theorem EndsAs.append {rest rest' : Text} (h : EndsAs rest rest') (s : Text) :
    EndsAs (s ++ rest) (s ++ rest') := by
  cases s with
  | nil => exact h
  | cons c s => exact fun d hd => .inr hd

/-- A start of what stands behind a token can stand there by itself. -/
theorem endsAs_of_isPrefix {rest rest' : Text} (h : rest' <+: rest) : EndsAs rest rest' := by
  obtain ⟨after, rfl⟩ := h
  intro c hc
  cases rest' with
  | nil => cases hc
  | cons d rest' => exact .inr hc

/-- A text that is empty or starts with a blank character can stand behind every token. -/
theorem endsAs_of_blank {rest rest' : Text} (h : ∀ c ∈ rest'.head?, isBlank c = true) :
    EndsAs rest rest' := fun c hc => .inl (h c hc)

/-- What ends a part of a token ends it still. -/
theorem EndsAs.startsOutside {p : Char → Bool} {rest rest' : Text} (h : EndsAs rest rest')
    (hblank : ∀ c, isBlank c = true → p c = false) (hrest : StartsOutside p rest) :
    StartsOutside p rest' := by
  intro c hc
  cases h c hc with
  | inl hc => exact hblank c hc
  | inr hc => exact hrest c hc

/-! ## Blank characters -/

/-- No token character is blank: there are few of both below 128, and none of one above. -/
theorem isTokenChar_of_isBlank {c : Char} (h : isBlank c = true) : isTokenChar c = false := by
  cases htoken : isTokenChar c with
  | false => rfl
  | true =>
      have hascii : ∀ n < 128, isTokenChar (Char.ofNat n) = true → isBlank (Char.ofNat n) = false := by
        decide +kernel
      have hsolid := hascii c.toNat (Expression.toNat_lt_of_isTokenChar htoken)
      rw [Char.ofNat_toNat, h] at hsolid
      exact absurd (hsolid htoken) (by decide)

theorem eq_false_of_isBlank {p : Char → Bool} (hp : ∀ c, p c = true → isTokenChar c = true) (c : Char)
    (h : isBlank c = true) : p c = false := by
  cases hc : p c with
  | false => rfl
  | true =>
      have htoken := hp c hc
      rw [isTokenChar_of_isBlank h] at htoken
      contradiction

/-! ## Parts of tokens -/

/-- Where the part ends that is taken from the start of a text, the character behind it tells. -/
def IsLocal (part : Text → Text) : Prop :=
  ∀ ⦃s rest rest' : Text⦄, part (s ++ rest) = s → EndsAs rest rest' → part (s ++ rest') = s

/-- A part that is taken as far as it goes is ended by what follows it. -/
theorem startsOutside_of_takeWhile_append {p : Char → Bool} {s rest : Text}
    (h : (s ++ rest).takeWhile p = s) : StartsOutside p rest := by
  have hs : ∀ c ∈ s, p c = true := fun c hc => of_mem_takeWhile (h.symm ▸ hc)
  rw [List.takeWhile_append_of_pos hs, List.append_right_eq_self] at h
  intro c hc
  cases rest with
  | nil => cases hc
  | cons d rest =>
      cases hc
      cases hp : p c with
      | false => rfl
      | true =>
          rw [List.takeWhile_cons_of_pos hp] at h
          contradiction

/-- A run of characters is the same as long as what follows ends it. -/
theorem isLocal_takeWhile {p : Char → Bool} (hp : ∀ c, p c = true → isTokenChar c = true) :
    IsLocal (·.takeWhile p) := by
  intro s rest rest' h hrest
  have hs : ∀ c ∈ s, p c = true := fun c hc => of_mem_takeWhile (h.symm ▸ hc)
  exact takeWhile_append_of_startsOutside hs
    (hrest.startsOutside (eq_false_of_isBlank hp) (startsOutside_of_takeWhile_append h))

/-- One part, and another one right behind it. -/
def followedBy (first second : Text → Text) (s : Text) : Text :=
  first s ++ second (s.drop (first s).length)

/-- One part after another. -/
theorem IsLocal.followedBy {first second : Text → Text} (hfirst : IsLocal first)
    (hsecond : IsLocal second) : IsLocal (followedBy first second) := by
  intro s rest rest' h hrest
  generalize ha : first (s ++ rest) = a at h
  generalize hb : second ((s ++ rest).drop a.length) = b at h
  obtain rfl : a ++ b = s := by rw [← h, Token.followedBy, ha, hb]
  rw [List.append_assoc, List.drop_left] at hb
  rw [List.append_assoc] at ha ⊢
  have ha' : first (a ++ (b ++ rest')) = a := hfirst ha (hrest.append b)
  rw [Token.followedBy, ha', List.drop_left, hsecond hb hrest]

/-- A part that is there where a character of some class opens it. -/
def openedBy (p : Char → Bool) (part : Text → Text) : Text → Text
  | c :: s => if p c then c :: part s else []
  | [] => []

/-- A part that a single character opens, if it is there. -/
theorem IsLocal.openedBy {p : Char → Bool} {part : Text → Text}
    (hp : ∀ c, p c = true → isTokenChar c = true) (hpart : IsLocal part) :
    IsLocal (openedBy p part) := by
  intro s rest rest' h hrest
  cases s with
  | nil =>
      have houtside : StartsOutside p rest := by
        intro c hc
        cases rest with
        | nil => cases hc
        | cons d rest =>
            cases hc
            simpa [Token.openedBy] using h
      cases rest' with
      | nil => rfl
      | cons c rest' =>
          have hc := hrest.startsOutside (eq_false_of_isBlank hp) houtside c rfl
          simp [Token.openedBy, hc]
  | cons c s =>
      simp only [List.cons_append, Token.openedBy] at h ⊢
      split at h
      · next hc => rw [if_pos hc, hpart (List.cons.inj h).2 hrest]
      · contradiction

/-! ## Numbers -/

theorem fractionPart_eq : fractionPart = openedBy (· == '.') (·.takeWhile Char.isDigit) := by
  funext s
  unfold fractionPart openedBy
  grind

theorem signPart_eq : signPart = openedBy (fun c => c == '+' || c == '-') fun _ => [] := by
  funext s
  unfold signPart openedBy
  grind

theorem exponentPart_eq : exponentPart =
    openedBy (fun c => c == 'e' || c == 'E') (followedBy signPart (·.takeWhile Char.isDigit)) := by
  funext s
  unfold exponentPart openedBy followedBy
  grind

theorem numberText_eq : numberText =
    followedBy (followedBy (·.takeWhile Char.isDigit) fractionPart) exponentPart := by
  funext s
  simp [numberText, followedBy]

theorem isLocal_digits : IsLocal (·.takeWhile Char.isDigit) :=
  isLocal_takeWhile fun _ hc => isTokenChar_of_isWordChar (isWordChar_of_isDigit hc)

/-- A number is read again, since its digits, its fraction and its exponent are. -/
theorem isLocal_numberText : IsLocal numberText := by
  have hfraction : IsLocal fractionPart := by
    rw [fractionPart_eq]
    exact isLocal_digits.openedBy (by simp; decide)
  have hsign : IsLocal signPart := by
    have hnothing : IsLocal fun _ => [] := fun _ _ _ h _ => h
    rw [signPart_eq]
    exact hnothing.openedBy (by simp; decide)
  have hexponent : IsLocal exponentPart := by
    rw [exponentPart_eq]
    exact (hsign.followedBy isLocal_digits).openedBy (by simp; decide)
  rw [numberText_eq]
  exact (isLocal_digits.followedBy hfraction).followedBy hexponent

/-! ## Words -/

section Words

variable {position position' : Nat} {kind : TokenKind} {text rest rest' : Text}

/-- A text that ends as a word is read as one. -/
theorem EndsWord.readWord (h : EndsWord text rest) (position : Nat) :
    readWord position (text ++ rest) = .ok (.ident, text) := by
  unfold Token.readWord
  simp only [h.word, List.drop_left]
  split
  · next hkind => exact absurd rfl (h.unopened (by rw [hkind]; rfl))
  · rfl

/-- A word ends still before what can stand behind it. -/
theorem EndsWord.of_endsAs (h : EndsWord text rest) (hrest : EndsAs rest rest') : EndsWord text rest' where
  word := isLocal_takeWhile (fun _ => isTokenChar_of_isWordChar) h.word hrest
  unopened := by
    intro hopens hdot
    cases hrest '.' hdot with
    | inl hblank => exact absurd hblank (by decide)
    | inr hdot => exact h.unopened hopens hdot

/-- There is no clause in brackets just if no bracket opens one. -/
theorem bracketPart?_eq_nil_iff {s : Text} : bracketPart? s = some [] ↔ '[' ∉ s.head? := by
  unfold bracketPart?
  split
  · split <;> simp
  · next hopening => simpa [List.head?_eq_some_iff] using hopening

/-- A clause ends with its bracket; where there is none, none begins. -/
theorem bracketPart?_of_endsAs {clause : Text} (h : bracketPart? (clause ++ rest) = some clause)
    (hrest : EndsAs rest rest') : bracketPart? (clause ++ rest') = some clause := by
  rcases bracketPart?_eq_some h with rfl | ⟨inner, rfl⟩
  · rw [List.nil_append, bracketPart?_eq_nil_iff] at h ⊢
    intro hopening
    cases hrest '[' hopening with
    | inl hblank => exact absurd hblank (by decide)
    | inr hhead => exact h hhead
  · -- The clause ends at its first closing bracket, whatever stands behind that.
    have hinner : ']' ∉ inner := by
      cases hcut : Text.cut? ']' (inner ++ ']' :: rest) with
      | none => simp [bracketPart?, hcut] at h
      | some parts =>
          obtain rfl : parts.1 = inner := by simpa [bracketPart?, hcut] using h
          exact (Text.cut?_eq_some_iff.mp hcut).2
    have hcut : Text.cut? ']' (inner ++ ']' :: rest') = some (inner, rest') :=
      Text.cut?_eq_some_iff.mpr ⟨rfl, hinner⟩
    simp [bracketPart?, hcut]

/-- A reference ends still before what can stand behind it. -/
theorem EndsReference.of_endsAs {lead tail clause : Text}
    (h : EndsReference kind text rest lead tail clause) (hrest : EndsAs rest rest') :
    EndsReference kind text rest' lead tail clause where
  kind_eq := h.kind_eq
  text_eq := h.text_eq
  dotted := isLocal_takeWhile (fun _ => isTokenChar_of_isDottedChar) h.dotted (hrest.append clause)
  clause_eq := by
    have hclause := h.clause_eq
    split
    · next hbrackets =>
        rw [if_pos hbrackets] at hclause
        exact bracketPart?_of_endsAs hclause hrest
    · next hbrackets => rwa [if_neg hbrackets] at hclause

/-- A text that ends as a reference is read as one. -/
theorem EndsReference.readWord {lead tail clause : Text}
    (h : EndsReference kind text rest lead tail clause) (position : Nat) :
    readWord position (text ++ rest) = .ok (kind, text) := by
  have htail : ∀ c ∈ tail, isDottedChar c = true := fun c hc => h.isDotted c (by simp [hc])
  have hclause := h.clause_eq
  rw [h.text_eq, List.append_assoc,
    readWord_dotted h.kind_eq htail (startsOutside_of_takeWhile_append h.dotted)]
  split
  · next hbrackets =>
      rw [if_pos hbrackets] at hclause
      rw [hclause]
  · next hbrackets =>
      rw [if_neg hbrackets] at hclause
      rw [hclause, List.append_nil]

/-- A word or a reference is the same with whatever ends it. -/
theorem readWord_of_endsAs (h : readWord position (text ++ rest) = .ok (kind, text))
    (hrest : EndsAs rest rest') : readWord position' (text ++ rest') = .ok (kind, text) := by
  rcases readWord_cases h with ⟨rfl, hword⟩ | ⟨lead, tail, clause, hreference⟩
  · exact (hword.of_endsAs hrest).readWord position'
  · exact (hreference.of_endsAs hrest).readWord position'

end Words

/-! ## Operators -/

theorem isTokenChar_of_isOperatorPair {c d : Char} (h : isOperatorPair c d = true) :
    isTokenChar d = true := by
  simp only [isOperatorPair, Bool.or_eq_true, Bool.and_eq_true, beq_iff_eq] at h
  rcases h with ⟨rfl, -⟩ | ⟨rfl, (rfl | rfl) | rfl⟩ <;> decide

/-- An operator is read again, since no second character joins it. -/
theorem operatorText_of_endsAs {c : Char} {s rest rest' : Text}
    (h : operatorText (c :: (s ++ rest)) = c :: s) (hrest : EndsAs rest rest') :
    operatorText (c :: (s ++ rest')) = c :: s := by
  cases s with
  | nil =>
      cases rest' with
      | nil => rfl
      | cons d rest' =>
          have hpair : isOperatorPair c d = false := by
            cases hrest d rfl with
            | inl hd => exact eq_false_of_isBlank (fun _ => isTokenChar_of_isOperatorPair) d hd
            | inr hd =>
                obtain ⟨after, rfl⟩ := List.head?_eq_some_iff.mp hd
                cases hpair : isOperatorPair c d with
                | false => rfl
                | true => simp [operatorText, hpair] at h
          simp [operatorText, hpair]
  | cons d s =>
      simp only [List.cons_append, operatorText] at h ⊢
      split
      · next hpair => rwa [if_pos hpair] at h
      · next hpair => rwa [if_neg hpair] at h

/-! ## Tokens -/

theorem startsNumber_eq_false {c : Char} (hdigit : c.isDigit = false) (hdot : c ≠ '.') (s : Text) :
    startsNumber c s = false := by
  simp [startsNumber, hdigit, hdot]

/-- No word starts as a number does. -/
theorem startsNumber_of_isWordStart {c : Char} (h : isWordStart c = true) (s : Text) :
    startsNumber c s = false := by
  have hword : ∀ n < 128, isWordStart (Char.ofNat n) = true →
      (Char.ofNat n).isDigit = false ∧ Char.ofNat n ≠ '.' := by decide +kernel
  have htoken := isTokenChar_of_isWordChar (isWordChar_of_isWordStart h)
  have hc := hword c.toNat (Expression.toNat_lt_of_isTokenChar htoken)
  rw [Char.ofNat_toNat] at hc
  exact startsNumber_eq_false (hc h).1 (hc h).2 s

/-- No operator starts as a number does. -/
theorem startsNumber_of_isOperatorChar {c : Char} (h : isOperatorChar c = true) (s : Text) :
    startsNumber c s = false := by
  have hoperators : "+-*/%^<>=!&|".toList.all (fun c => !c.isDigit && c != '.') = true := by decide
  have hc := List.all_eq_true.mp hoperators c (by simpa [isOperatorChar] using h)
  have hplain : c.isDigit = false ∧ c ≠ '.' := by simpa using hc
  exact startsNumber_eq_false hplain.1 hplain.2 s

/-- A point that starts a number has a digit behind it that belongs to the number. -/
theorem startsNumber_of_append {c : Char} {s rest : Text} (h : startsNumber c (s ++ rest) = true)
    (hread : (Binary64.read? (c :: s)).isSome = true) (rest' : Text) :
    startsNumber c (s ++ rest') = true := by
  cases s with
  | nil =>
      cases hdigit : c.isDigit with
      | true => simp [startsNumber, hdigit]
      | false =>
          obtain ⟨rfl, -⟩ : c = '.' ∧ _ := by simpa [startsNumber, hdigit] using h
          exact absurd hread (by decide)
  | cons d s => exact h

/-- A token is the same with whatever ends it. -/
theorem readLexeme_of_endsAs {position position' : Nat} {c : Char} {s rest rest' : Text}
    {kind : TokenKind} (h : readLexeme position c (s ++ rest) = .ok (kind, c :: s))
    (hrest : EndsAs rest rest') : readLexeme position' c (s ++ rest') = .ok (kind, c :: s) := by
  -- The first character decides the form: one of three marks, a number, a word or an operator.
  unfold readLexeme at h ⊢
  split at h
  · next hc => simpa [hc] using h
  split at h
  · next hc => simpa [hc] using h
  split at h
  · next hc => simpa [hc] using h
  next hopening hclosing hcomma =>
  rw [if_neg hopening, if_neg hclosing, if_neg hcomma]
  split at h
  · next hnumber =>
      simp only at h
      split at h
      · next hread =>
          obtain ⟨rfl, htext⟩ : .number = kind ∧ numberText (c :: (s ++ rest)) = c :: s := by
            simpa using h
          rw [htext] at hread
          have htext' : numberText (c :: (s ++ rest')) = c :: s :=
            isLocal_numberText (s := c :: s) htext hrest
          simp [startsNumber_of_append hnumber hread rest', htext', hread]
      · contradiction
  split at h
  · next hword =>
      rw [startsNumber_of_isWordStart hword, if_neg (by decide), if_pos hword]
      have hread : readWord position (c :: s ++ rest) = .ok (kind, c :: s) := h
      exact readWord_of_endsAs hread hrest
  split at h
  · next hword hoperator =>
      obtain ⟨rfl, htext⟩ : .operator = kind ∧ operatorText (c :: (s ++ rest)) = c :: s := by
        simpa using h
      rw [startsNumber_of_isOperatorChar hoperator, if_neg (by decide), if_neg hword, if_pos hoperator,
        operatorText_of_endsAs htext hrest]
  · contradiction

end CatchmentLint.Token
