import CatchmentLint.Expression.Shortcut
import CatchmentLint.Proofs.Expression.Lexeme

/-!
# CatchmentLint.Proofs.Expression.Numeral

Numbers as the shortcut sees them and as the tokens see them:

* `exists_numeral_of_isPlainNumber` — the shortcut takes an optional minus and a numeral in the
  digits of any script;
* `isTokenChar_of_foreign` — a digit of another script stands in no token;
* `exists_read?` — a number in ASCII digits is read as a decimal;
* `readFrom_numeral` — a numeral in ASCII digits is one token.
-/

namespace CatchmentLint.Expression

/-! ## Numerals -/

/-- One digit or more. -/
def Digits (digit : Char → Bool) (s : Text) : Prop := s ≠ [] ∧ ∀ c ∈ s, digit c = true

/-- The parts of a number in digits of a class: the fraction has its point with it, the exponent
its letter. -/
structure Numeral (digit : Char → Bool) (whole fraction exponent : Text) : Prop where
  whole : Digits digit whole
  fraction : fraction = [] ∨ ∃ digits, fraction = '.' :: digits ∧ Digits digit digits
  exponent : exponent = [] ∨ ∃ letter sign digits, exponent = letter :: (sign ++ digits) ∧
    (letter = 'e' ∨ letter = 'E') ∧ (sign = [] ∨ sign = ['+'] ∨ sign = ['-']) ∧ Digits digit digits

/-- An exponent, or nothing. -/
def IsExponent (digit : Char → Bool) (s : Text) : Prop :=
  s = [] ∨ ∃ letter sign digits, s = letter :: (sign ++ digits) ∧
    (letter = 'e' ∨ letter = 'E') ∧ (sign = [] ∨ sign = ['+'] ∨ sign = ['-']) ∧ Digits digit digits

/-- Digits, one at least, with a point among them, behind them, before them or nowhere. -/
inductive IsMantissa (digit : Char → Bool) : Text → Prop
  | whole {s : Text} (h : Digits digit s) : IsMantissa digit s
  | pointed {before after : Text} (hbefore : ∀ c ∈ before, digit c = true)
      (hafter : ∀ c ∈ after, digit c = true) (h : before ≠ [] ∨ after ≠ []) :
      IsMantissa digit (before ++ '.' :: after)

/-- The digits of a numeral with its fraction are a mantissa. -/
theorem Numeral.isMantissa {digit : Char → Bool} {whole fraction exponent : Text}
    (h : Numeral digit whole fraction exponent) : IsMantissa digit (whole ++ fraction) := by
  rcases h.fraction with rfl | ⟨digits, rfl, hdigits⟩
  · rw [List.append_nil]
    exact .whole h.whole
  · exact .pointed h.whole.2 hdigits.2 (.inl h.whole.1)

/-- The shortcut passes digits of any script, as many as there are. -/
theorem digits_of_afterDigits? {s rest : Text} (h : afterDigits? s = some rest) :
    ∃ digits, s = digits ++ rest ∧ Digits Unicode.isDigit digits := by
  unfold afterDigits? at h
  split at h
  · next c s =>
      split at h
      · next hc =>
          refine ⟨c :: s.takeWhile Unicode.isDigit, ?_, by simp, ?_⟩
          · rw [← Option.some.inj h, List.cons_append, List.takeWhile_append_dropWhile]
          · intro d hd
            cases List.mem_cons.mp hd with
            | inl heq => exact heq ▸ hc
            | inr hmem => exact of_mem_takeWhile hmem
      · contradiction
  · contradiction

/-- It passes a point with digits behind it, or nothing. -/
theorem fraction_of_afterFraction? {s rest : Text} (h : afterFraction? s = some rest) :
    ∃ fraction, s = fraction ++ rest ∧
      (fraction = [] ∨ ∃ digits, fraction = '.' :: digits ∧ Digits Unicode.isDigit digits) := by
  unfold afterFraction? at h
  split at h
  · obtain ⟨digits, hs, hdigits⟩ := digits_of_afterDigits? h
    exact ⟨'.' :: digits, by rw [hs]; rfl, .inr ⟨digits, rfl, hdigits⟩⟩
  · rw [Option.some.inj h]
    exact ⟨[], rfl, .inl rfl⟩

/-- What it takes as an exponent to the end is one, or nothing. -/
theorem exponent_of_afterExponent? {s : Text} (h : afterExponent? s = some []) :
    s = [] ∨ ∃ letter sign digits, s = letter :: (sign ++ digits) ∧
      (letter = 'e' ∨ letter = 'E') ∧ (sign = [] ∨ sign = ['+'] ∨ sign = ['-']) ∧
      Digits Unicode.isDigit digits := by
  unfold afterExponent? at h
  split at h
  · next letter s =>
      split at h
      · next hletter =>
          refine .inr ?_
          split at h
          · obtain ⟨digits, hs, hdigits⟩ := digits_of_afterDigits? h
            exact ⟨letter, ['+'], digits, by rw [hs]; simp, hletter, .inr (.inl rfl), hdigits⟩
          · obtain ⟨digits, hs, hdigits⟩ := digits_of_afterDigits? h
            exact ⟨letter, ['-'], digits, by rw [hs]; simp, hletter, .inr (.inr rfl), hdigits⟩
          · obtain ⟨digits, hs, hdigits⟩ := digits_of_afterDigits? h
            exact ⟨letter, [], digits, by rw [hs]; simp, hletter, .inl rfl, hdigits⟩
      · cases h
  · exact .inl rfl

/-- The shortcut for numbers takes an optional minus and a numeral in the digits of any script. -/
theorem exists_numeral_of_isPlainNumber {t : Text} (h : isPlainNumber t = true) :
    ∃ sign whole fraction exponent, t = sign ++ (whole ++ fraction ++ exponent) ∧
      (sign = [] ∨ sign = ['-']) ∧ Numeral Unicode.isDigit whole fraction exponent := by
  have hsign : ∃ sign, t = sign ++ (Text.dropLead? ['-'] t).getD t ∧ (sign = [] ∨ sign = ['-']) := by
    cases hlead : Text.dropLead? ['-'] t with
    | none => exact ⟨[], rfl, .inl rfl⟩
    | some rest => exact ⟨['-'], Text.dropLead?_eq_some_iff.mp hlead, .inr rfl⟩
  obtain ⟨sign, ht, hsign⟩ := hsign
  rw [isPlainNumber, beq_iff_eq, Option.bind_eq_some_iff] at h
  obtain ⟨s₂, h, hexponent⟩ := h
  obtain ⟨s₁, hafter, hafter'⟩ := Option.bind_eq_some_iff.mp h
  obtain ⟨whole, hs, hwhole⟩ := digits_of_afterDigits? hafter
  obtain ⟨fraction, rfl, hfraction⟩ := fraction_of_afterFraction? hafter'
  refine ⟨sign, whole, fraction, s₂, ?_, hsign, hwhole, hfraction, exponent_of_afterExponent? hexponent⟩
  rw [List.append_assoc, ← hs]
  exact ht

/-- A numeral has digits, a point, the letter of an exponent and its sign. -/
theorem Numeral.mem {digit : Char → Bool} {whole fraction exponent : Text}
    (h : Numeral digit whole fraction exponent) {c : Char} (hc : c ∈ whole ++ fraction ++ exponent) :
    digit c = true ∨ c ∈ ['.', 'e', 'E', '+', '-'] := by
  simp only [List.mem_append] at hc
  rcases hc with (hc | hc) | hc
  · exact .inl (h.whole.2 c hc)
  · rcases h.fraction with rfl | ⟨digits, rfl, hdigits⟩
    · cases hc
    · cases List.mem_cons.mp hc with
      | inl heq => exact .inr (by simp [heq])
      | inr hmem => exact .inl (hdigits.2 c hmem)
  · rcases h.exponent with rfl | ⟨letter, sign, digits, rfl, hletter, hsign, hdigits⟩
    · cases hc
    · simp only [List.mem_cons, List.mem_append] at hc
      rcases hc with rfl | hc | hc
      · rcases hletter with rfl | rfl <;> simp
      · rcases hsign with rfl | rfl | rfl <;> simp_all
      · exact .inl (hdigits.2 c hc)

/-! ## Digits of any script -/

/-- A code is in a set just if one of the ranges has it. -/
theorem has_iff {ranges : CharRanges} {code : Nat} :
    ranges.has code = true ↔ ∃ range ∈ ranges, range.1 ≤ code ∧ code ≤ range.2 := by
  simp [CharRanges.has]

theorem isUnicodeDigit_of_isDigit {c : Char} (h : c.isDigit = true) : Unicode.isDigit c = true := by
  refine has_iff.mpr ⟨(0x30, 0x39), by decide, ?_⟩
  simpa [Char.isDigit, UInt32.le_iff_toNat_le] using h

/-- No digit is blank: the ranges of the two have no character in common. -/
theorem isBlank_of_isUnicodeDigit {c : Char} (h : Unicode.isDigit c = true) : isBlank c = false := by
  have hapart : ∀ a ∈ blankRanges, ∀ b ∈ Unicode.digitRanges, a.2 < b.1 ∨ b.2 < a.1 := by decide
  cases hblank : isBlank c with
  | false => rfl
  | true =>
      obtain ⟨a, ha, hlow, hhigh⟩ := has_iff.mp hblank
      obtain ⟨b, hb, hlow', hhigh'⟩ := has_iff.mp h
      cases hapart a ha b hb with
      | inl hlt => omega
      | inr hlt => omega

/-- A digit of another script is no ASCII character. -/
theorem le_toNat_of_foreign {c : Char} (h : Unicode.isDigit c = true) (hforeign : c.isDigit = false) :
    0x660 ≤ c.toNat := by
  have hranges : ∀ range ∈ Unicode.digitRanges, range = (0x30, 0x39) ∨ 0x660 ≤ range.1 := by decide
  obtain ⟨range, hrange, hlow, hhigh⟩ := has_iff.mp h
  cases hranges range hrange with
  | inl heq =>
      subst heq
      have hdigit : c.isDigit = true := by
        simpa [Char.isDigit, UInt32.le_iff_toNat_le] using And.intro hlow hhigh
      rw [hforeign] at hdigit
      contradiction
  | inr hle => exact Nat.le_trans hle hlow

/-- Characters of tokens are ASCII. -/
theorem toNat_lt_of_isTokenChar {c : Char} (h : Token.isTokenChar c = true) : c.toNat < 128 := by
  have hoperators : "+-*/%^<>=!&|".toList.all (fun d => d.toNat < 128) = true := by decide
  simp only [Token.isTokenChar, Bool.or_eq_true, beq_iff_eq] at h
  rcases h with (((hdotted | hoperator) | rfl) | rfl) | rfl
  · unfold Token.isDottedChar Token.isWordChar Char.isAlphanum Char.isAlpha Char.isUpper Char.isLower
      Char.isDigit at hdotted
    simp only [Bool.or_eq_true, Bool.and_eq_true, decide_eq_true_eq, beq_iff_eq,
      UInt32.le_iff_toNat_le, ge_iff_le] at hdotted
    rcases hdotted with (((⟨-, hle⟩ | ⟨-, hle⟩) | ⟨-, hle⟩) | rfl) | rfl
    · exact Nat.lt_of_le_of_lt hle (by decide)
    · exact Nat.lt_of_le_of_lt hle (by decide)
    · exact Nat.lt_of_le_of_lt hle (by decide)
    · decide
    · decide
  · have hmem : c ∈ "+-*/%^<>=!&|".toList := by simpa only [Token.isOperatorChar, List.contains_iff_mem] using hoperator
    simpa only [decide_eq_true_eq] using List.all_eq_true.mp hoperators c hmem
  · decide
  · decide
  · decide

/-- A digit of another script stands in no token. -/
theorem isTokenChar_of_foreign {c : Char} (h : Unicode.isDigit c = true)
    (hforeign : c.isDigit = false) : Token.isTokenChar c = false := by
  have hle := le_toNat_of_foreign h hforeign
  cases htoken : Token.isTokenChar c with
  | false => rfl
  | true =>
      have hlt := toNat_lt_of_isTokenChar htoken
      omega

theorem Digits.mono {p q : Char → Bool} {s : Text} (h : Digits p s) (hpq : ∀ c ∈ s, p c = true → q c = true) :
    Digits q s :=
  ⟨h.1, fun c hc => hpq c hc (h.2 c hc)⟩

/-- A numeral is one in the digits of another class where its digits belong to that. -/
theorem Numeral.mono {p q : Char → Bool} {whole fraction exponent : Text}
    (h : Numeral p whole fraction exponent)
    (hpq : ∀ c ∈ whole ++ fraction ++ exponent, p c = true → q c = true) :
    Numeral q whole fraction exponent where
  whole := h.whole.mono fun c hc => hpq c (by simp [hc])
  fraction := by
    refine h.fraction.imp_right ?_
    rintro ⟨digits, rfl, hdigits⟩
    exact ⟨digits, rfl, hdigits.mono fun c hc => hpq c (by simp [hc])⟩
  exponent := by
    refine h.exponent.imp_right ?_
    rintro ⟨letter, sign, digits, rfl, hletter, hsign, hdigits⟩
    exact ⟨letter, sign, digits, rfl, hletter, hsign, hdigits.mono fun c hc => hpq c (by simp [hc])⟩

/-! ## Numerals in ASCII digits -/

theorem isBlank_of_isDigit {c : Char} (h : c.isDigit = true) : isBlank c = false :=
  isBlank_of_isUnicodeDigit (isUnicodeDigit_of_isDigit h)

theorem ne_cons_of_digits {digits rest : Text} {c : Char} (h : Digits Char.isDigit digits)
    (hc : c.isDigit = false) : digits ≠ c :: rest := by
  rintro rfl
  have hdigit : c.isDigit = true := h.2 c List.mem_cons_self
  rw [hc] at hdigit
  contradiction

/-- Digits are no sign. -/
theorem signPart_append {sign digits : Text} (hsign : sign = [] ∨ sign = ['+'] ∨ sign = ['-'])
    (hdigits : Digits Char.isDigit digits) : Token.signPart (sign ++ digits) = sign := by
  rcases hsign with rfl | rfl | rfl
  · unfold Token.signPart
    split
    · next heq => exact absurd heq (ne_cons_of_digits hdigits (by decide))
    · next heq => exact absurd heq (ne_cons_of_digits hdigits (by decide))
    · rfl
  · rfl
  · rfl

/-- A sign before digits is taken off. -/
theorem takeSign_append {sign digits : Text} (hsign : sign = [] ∨ sign = ['+'] ∨ sign = ['-'])
    (hdigits : Digits Char.isDigit digits) : (Text.takeSign (sign ++ digits)).2 = digits := by
  rcases hsign with rfl | rfl | rfl
  · unfold Text.takeSign
    split
    · next heq => exact absurd heq (ne_cons_of_digits hdigits (by decide))
    · next heq => exact absurd heq (ne_cons_of_digits hdigits (by decide))
    · rfl
  · rfl
  · rfl

section Reading

variable {mantissa exponent : Text}

/-- An exponent begins with neither a digit nor a point. -/
theorem exponent_startsOutside (h : IsExponent Char.isDigit exponent) :
    StartsOutside Char.isDigit exponent ∧ StartsOutside (· == '.') exponent := by
  rcases h with rfl | ⟨letter, sign, digits, rfl, hletter, -, -⟩
  · exact ⟨startsOutside_nil, startsOutside_nil⟩
  · rcases hletter with rfl | rfl <;> exact ⟨by rintro c ⟨⟩; rfl, by rintro c ⟨⟩; rfl⟩

/-- An exponent in ASCII digits can be read. -/
theorem readExponent?_isSome (h : IsExponent Char.isDigit exponent) :
    (Decimal.readExponent? exponent).isSome = true := by
  rcases h with rfl | ⟨letter, sign, digits, rfl, hletter, hsign, hdigits⟩
  · rfl
  · have hcond : ¬(digits = [] ∨ (!digits.all Char.isDigit) = true) := by
      simpa [hdigits.1] using hdigits.2
    rw [Decimal.readExponent?, if_pos hletter, Text.toInt?]
    simp only [takeSign_append hsign hdigits]
    rw [if_neg hcond]
    rfl

/-- A mantissa with an exponent can be read. -/
theorem readUnsigned?_isSome (hm : IsMantissa Char.isDigit mantissa)
    (he : IsExponent Char.isDigit exponent) (negative : Bool) :
    (Decimal.readUnsigned? negative (mantissa ++ exponent)).isSome = true := by
  obtain ⟨hdigit, hpoint⟩ := exponent_startsOutside he
  unfold Decimal.readUnsigned?
  cases hm with
  | whole h =>
      simp only [takeWhile_append_of_startsOutside h.2 hdigit,
        dropWhile_append_of_startsOutside h.2 hdigit]
      rw [if_neg (by simp [h.1]), Option.isSome_map]
      split
      · exact absurd (hpoint '.' rfl) (by decide)
      · exact readExponent?_isSome he
  | @pointed before after hbefore hafter h =>
      have hrest : StartsOutside Char.isDigit ('.' :: (after ++ exponent)) := by
        rintro c ⟨⟩
        rfl
      have hsplit : before ++ '.' :: after ++ exponent = before ++ '.' :: (after ++ exponent) := by
        simp
      rw [hsplit]
      simp only [takeWhile_append_of_startsOutside hbefore hrest,
        dropWhile_append_of_startsOutside hbefore hrest,
        takeWhile_append_of_startsOutside hafter hdigit,
        dropWhile_append_of_startsOutside hafter hdigit]
      rw [if_neg fun hnil => h.elim (· hnil.1) (· hnil.2), Option.isSome_map]
      exact readExponent?_isSome he

/-- A mantissa begins with a digit or with its point. -/
theorem IsMantissa.exists_cons (h : IsMantissa Char.isDigit mantissa) :
    ∃ c rest, mantissa = c :: rest ∧ (c.isDigit = true ∨ c = '.') := by
  cases h with
  | whole h =>
      obtain ⟨c, rest, rfl⟩ := List.exists_cons_of_ne_nil h.1
      exact ⟨c, rest, rfl, .inl (h.2 c List.mem_cons_self)⟩
  | @pointed before after hbefore hafter h =>
      cases before with
      | nil => exact ⟨'.', after, rfl, .inr rfl⟩
      | cons c before => exact ⟨c, _, rfl, .inl (hbefore c List.mem_cons_self)⟩

/-- What starts with a digit or a point is none of the words that name a number. -/
theorem exists_read? {sign : Text} (hsign : sign = [] ∨ sign = ['-'])
    (hm : IsMantissa Char.isDigit mantissa) (he : IsExponent Char.isDigit exponent) :
    ∃ d : Decimal, Binary64.read? (sign ++ (mantissa ++ exponent)) = some d.toBinary64 := by
  obtain ⟨c, rest, hmantissa, hc⟩ := hm.exists_cons
  have htaken : ∃ negative, Text.takeSign (sign ++ (mantissa ++ exponent)) =
      (negative, mantissa ++ exponent) := by
    rcases hsign with rfl | rfl
    · refine ⟨false, ?_⟩
      rw [hmantissa]
      unfold Text.takeSign
      split
      · next heq => cases heq; exact absurd hc (by decide)
      · next heq => cases heq; exact absurd hc (by decide)
      · rfl
    · exact ⟨true, rfl⟩
  obtain ⟨negative, htaken⟩ := htaken
  have hword : ∀ word : Text, word.head?.any (fun c => c.isDigit || c == '.') = false →
      Text.lowerAscii (mantissa ++ exponent) ≠ word := by
    rintro word hhead rfl
    have hlower : c.toLower = c := by
      rcases hc with hc | rfl
      · unfold Char.isDigit at hc
        unfold Char.toLower
        grind
      · rfl
    rw [hmantissa] at hhead
    rcases hc with hc | rfl
    · simp [Text.lowerAscii, hlower, hc] at hhead
    · simp [Text.lowerAscii] at hhead
  unfold Binary64.read?
  simp only [htaken]
  rw [if_neg (not_or.mpr ⟨hword _ (by decide), hword _ (by decide)⟩), if_neg (hword _ (by decide))]
  obtain ⟨d, hd⟩ := Option.isSome_iff_exists.mp (readUnsigned?_isSome hm he negative)
  exact ⟨d, by rw [hd]; rfl⟩

end Reading

section Ascii

variable {whole fraction exponent : Text} (h : Numeral Char.isDigit whole fraction exponent)

include h

/-- What follows the digits of a numeral begins with no digit. -/
theorem fraction_startsOutside : StartsOutside Char.isDigit (fraction ++ exponent) := by
  rcases h.fraction with rfl | ⟨digits, rfl, -⟩
  · exact (exponent_startsOutside h.exponent).1
  · intro c hc
    cases hc
    decide

/-- The tokens take the fraction that the shortcut takes. -/
theorem fractionPart_numeral : Token.fractionPart (fraction ++ exponent) = fraction := by
  rcases h.fraction with rfl | ⟨digits, rfl, -, hdigits⟩
  · rcases h.exponent with rfl | ⟨letter, sign, digits, rfl, hletter, -, -⟩
    · rfl
    · rcases hletter with rfl | rfl <;> rfl
  · rw [List.cons_append, Token.fractionPart,
      takeWhile_append_of_startsOutside hdigits (exponent_startsOutside h.exponent).1]

/-- The tokens take the exponent that the shortcut takes. -/
theorem exponentPart_numeral : Token.exponentPart exponent = exponent := by
  rcases h.exponent with rfl | ⟨letter, sign, digits, rfl, hletter, hsign, hdigits⟩
  · rfl
  · have htake : (digits ++ []).takeWhile Char.isDigit = digits :=
      takeWhile_append_of_startsOutside hdigits.2 startsOutside_nil
    rw [List.append_nil] at htake
    rw [Token.exponentPart, if_pos hletter]
    simp only [signPart_append hsign hdigits, List.drop_left, htake, List.cons_append]

/-- A numeral is the longest number at its place, where it ends the text. -/
theorem numberText_numeral :
    Token.numberText (whole ++ fraction ++ exponent) = whole ++ fraction ++ exponent := by
  have htake : (whole ++ fraction ++ exponent).takeWhile Char.isDigit = whole := by
    rw [List.append_assoc]
    exact takeWhile_append_of_startsOutside h.whole.2 (fraction_startsOutside h)
  have hdrop : (whole ++ fraction ++ exponent).drop whole.length = fraction ++ exponent := by
    rw [List.append_assoc, List.drop_left]
  have hdrop' : (whole ++ fraction ++ exponent).drop (whole.length + fraction.length) = exponent := by
    rw [← List.length_append, List.drop_left]
  unfold Token.numberText
  simp only [htake, hdrop, fractionPart_numeral h, hdrop', exponentPart_numeral h]

/-- A numeral is one token. -/
theorem readFrom_numeral (position : Nat) :
    Token.readFrom position (whole ++ fraction ++ exponent) =
      .ok [⟨.number, whole ++ fraction ++ exponent, position⟩,
        ⟨.eof, [], position + Text.utf8Size (whole ++ fraction ++ exponent)⟩] := by
  obtain ⟨c, rest, hwhole⟩ := List.exists_cons_of_ne_nil h.whole.1
  have hc : c.isDigit = true := h.whole.2 c (by rw [hwhole]; exact List.mem_cons_self)
  have htext : whole ++ fraction ++ exponent = c :: (rest ++ fraction ++ exponent) := by
    rw [hwhole]
    rfl
  have hlexeme : Token.readLexeme position c ((rest ++ fraction ++ exponent) ++ []) =
      .ok (.number, c :: (rest ++ fraction ++ exponent)) := by
    have hstart : Token.startsNumber c (rest ++ fraction ++ exponent) = true := by
      simp [Token.startsNumber, hc]
    obtain ⟨d, hread⟩ : ∃ d : Decimal,
        Binary64.read? (whole ++ fraction ++ exponent) = some d.toBinary64 :=
      exists_read? (.inl rfl) h.isMantissa h.exponent
    have hnumber := numberText_numeral h
    rw [htext] at hread hnumber
    have hne : ∀ d, d.isDigit = false → c ≠ d := by
      rintro d hd rfl
      rw [hc] at hd
      contradiction
    rw [List.append_nil, Token.readLexeme, if_neg (hne _ (by decide)), if_neg (hne _ (by decide)),
      if_neg (hne _ (by decide)), if_pos hstart]
    simp only [hnumber, hread, Option.isSome_some, if_true]
  have h := Token.readFrom_lexeme (isBlank_of_isDigit hc) hlexeme
  rw [Token.readFrom_nil, List.append_nil, ← htext] at h
  exact h

end Ascii

end CatchmentLint.Expression
