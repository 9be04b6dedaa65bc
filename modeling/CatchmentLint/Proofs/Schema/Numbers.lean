import CatchmentLint.Proofs.Expression.Shortcut
import CatchmentLint.Proofs.Pattern.Languages
import CatchmentLint.Proofs.Text.Lines
import CatchmentLint.Schema.Default

/-!
# CatchmentLint.Proofs.Schema.Numbers

The forms of numbers and of sequences that the default schema asks for.

* `IsNumber` — a number in the digits of a class, and `accepts_number_iff` — the form of a number
  takes the digits of every script;
* `isNumber_ascii_iff`, `read?_of_foreign` — a number without a digit of another script is one in
  ASCII digits, which can be read, and no other text with such a digit can;
* `accepts_sequence_iff` — a sequence has a number between each two commas.
-/

namespace CatchmentLint

open Expression (Digits IsMantissa IsExponent HasForeignDigit)

variable {digit : Char → Bool} {s : Text}

/-! ## Numbers -/

/-- A number in the digits of a class: an optional minus, a mantissa, and an optional exponent. -/
inductive IsNumber (digit : Char → Bool) : Text → Prop
  | intro {sign mantissa exponent : Text} (hsign : sign = [] ∨ sign = ['-'])
      (hmantissa : IsMantissa digit mantissa) (hexponent : IsExponent digit exponent) :
      IsNumber digit (sign ++ (mantissa ++ exponent))

/-- More digits make no fewer mantissas. -/
theorem Expression.IsMantissa.mono {p q : Char → Bool} (h : IsMantissa p s)
    (hpq : ∀ c ∈ s, p c = true → q c = true) : IsMantissa q s := by
  cases h with
  | whole h => exact .whole (h.mono hpq)
  | pointed hbefore hafter h =>
      exact .pointed (fun c hc => hpq c (by simp [hc]) (hbefore c hc))
        (fun c hc => hpq c (by simp [hc]) (hafter c hc)) h

/-- More digits make no fewer exponents. -/
theorem Expression.IsExponent.mono {p q : Char → Bool} (h : IsExponent p s)
    (hpq : ∀ c ∈ s, p c = true → q c = true) : IsExponent q s := by
  refine h.imp_right ?_
  rintro ⟨letter, sign, digits, rfl, hletter, hsign, hdigits⟩
  exact ⟨letter, sign, digits, rfl, hletter, hsign, hdigits.mono fun c hc => hpq c (by simp [hc])⟩

/-- A number has digits, a point, the letter of an exponent and signs. -/
theorem IsNumber.mem (h : IsNumber digit s) {c : Char} (hc : c ∈ s) :
    digit c = true ∨ c ∈ ['.', 'e', 'E', '+', '-'] := by
  obtain ⟨hsign, hmantissa, hexponent⟩ := h
  rcases List.mem_append.mp hc with hc | hc
  · rcases hsign with rfl | rfl
    · cases hc
    · exact .inr (by simp [List.mem_singleton.mp hc])
  · rcases List.mem_append.mp hc with hc | hc
    · cases hmantissa with
      | whole h => exact .inl (h.2 c hc)
      | pointed hbefore hafter _ =>
          rcases List.mem_append.mp hc with hc | hc
          · exact .inl (hbefore c hc)
          · rcases List.mem_cons.mp hc with rfl | hc
            · exact .inr (by simp)
            · exact .inl (hafter c hc)
    · rcases hexponent with rfl | ⟨letter, sign, digits, rfl, hletter, hsign', hdigits⟩
      · cases hc
      · simp only [List.mem_cons, List.mem_append] at hc
        rcases hc with rfl | hc | hc
        · rcases hletter with rfl | rfl <;> simp
        · rcases hsign' with rfl | rfl | rfl <;> simp_all
        · exact .inl (hdigits.2 c hc)

/-- A number has a character at least. -/
theorem IsNumber.ne_nil (h : IsNumber digit s) : s ≠ [] := by
  obtain ⟨hsign, hmantissa, hexponent⟩ := h
  cases hmantissa with
  | whole h => simp [h.1]
  | pointed => simp

/-- More digits make no fewer numbers. -/
theorem IsNumber.mono {p q : Char → Bool} (h : IsNumber p s)
    (hpq : ∀ c ∈ s, p c = true → q c = true) : IsNumber q s := by
  obtain ⟨hsign, hmantissa, hexponent⟩ := h
  exact .intro hsign (hmantissa.mono fun c hc => hpq c (by simp [hc]))
    (hexponent.mono fun c hc => hpq c (by simp [hc]))

/-- A number in ASCII digits is one that has no digit of another script. -/
theorem isNumber_ascii_iff :
    IsNumber Char.isDigit s ↔ IsNumber Unicode.isDigit s ∧ ¬HasForeignDigit s := by
  constructor
  · intro h
    refine ⟨h.mono fun c _ => Expression.isUnicodeDigit_of_isDigit, ?_⟩
    rintro ⟨c, hc, hdigit, hforeign⟩
    rcases h.mem hc with hascii | hother
    · rw [hforeign] at hascii
      contradiction
    · have hnone : ∀ d ∈ ['.', 'e', 'E', '+', '-'], Unicode.isDigit d = false := by
        simp only [List.forall_mem_cons, List.not_mem_nil, false_implies, implies_true, and_true]
        decide
      rw [hnone c hother] at hdigit
      contradiction
  · rintro ⟨h, hforeign⟩
    refine h.mono fun c hc hdigit => Classical.byContradiction fun hascii => ?_
    exact hforeign ⟨c, hc, hdigit, Bool.eq_false_iff.mpr hascii⟩

/-- No number has a blank character. -/
theorem IsNumber.not_blank (h : IsNumber Unicode.isDigit s) : ∀ c ∈ s, isBlank c = false := by
  intro c hc
  rcases h.mem hc with hdigit | hother
  · exact Expression.isBlank_of_isUnicodeDigit hdigit
  · have hnone : ∀ d ∈ ['.', 'e', 'E', '+', '-'], isBlank d = false := by
      simp only [List.forall_mem_cons, List.not_mem_nil, false_implies, implies_true, and_true]
      decide
    exact hnone c hother

/-- A number has no comma, whatever its digits. -/
theorem IsNumber.comma_notMem (h : IsNumber Unicode.isDigit s) : ',' ∉ s := by
  intro hc
  rcases h.mem hc with hdigit | hother
  · exact absurd hdigit (by decide)
  · exact absurd hother (by decide)

/-! ## Reading numbers -/

/-- A character stands in the sign or behind it. -/
theorem mem_or_of_takeSign {c : Char} (hc : c ∈ s) :
    c ∈ ['+', '-'] ∨ c ∈ (Text.takeSign s).2 := by
  unfold Text.takeSign
  split
  · exact (List.mem_cons.mp hc).imp_left fun h => by simp [h]
  · exact (List.mem_cons.mp hc).imp_left fun h => by simp [h]
  · exact .inr hc

/-- An integer that can be read has ASCII digits and signs only. -/
theorem toInt?_chars (h : (Text.toInt? s).isSome = true) {c : Char} (hc : c ∈ s) :
    c.isDigit = true ∨ c ∈ ['+', '-'] := by
  rcases mem_or_of_takeSign hc with hsign | hc
  · exact .inr hsign
  · unfold Text.toInt? at h
    simp only at h
    split at h
    · cases h
    · next hall =>
        rw [not_or, Bool.not_eq_true', Bool.not_eq_false, List.all_eq_true] at hall
        exact .inl (hall.2 c hc)

/-- An exponent that can be read has ASCII digits and signs, and the letter that opens it. -/
theorem readExponent?_chars (h : (Decimal.readExponent? s).isSome = true) {c : Char} (hc : c ∈ s) :
    c.isDigit = true ∨ c ∈ ['.', 'e', 'E', '+', '-'] := by
  unfold Decimal.readExponent? at h
  split at h
  · cases hc
  · split at h
    · next hletter =>
        rcases List.mem_cons.mp hc with rfl | hc
        · rcases hletter with rfl | rfl <;> simp
        · rcases toInt?_chars h hc with hdigit | hsign
          · exact .inl hdigit
          · exact .inr (List.mem_cons_of_mem _ (List.mem_cons_of_mem _ (List.mem_cons_of_mem _ hsign)))
    · cases h

/-- A number that can be read has ASCII digits, signs, points and letters of exponents only. -/
theorem readUnsigned?_chars {negative : Bool} (h : (Decimal.readUnsigned? negative s).isSome = true)
    {c : Char} (hc : c ∈ s) : c.isDigit = true ∨ c ∈ ['.', 'e', 'E', '+', '-'] := by
  have hsplit : ∀ t : Text, c ∈ t → c ∈ t.takeWhile Char.isDigit ∨ c ∈ t.dropWhile Char.isDigit :=
    fun t ht => List.mem_append.mp (by rwa [List.takeWhile_append_dropWhile])
  unfold Decimal.readUnsigned? at h
  simp only at h
  rcases hsplit s hc with hc | hc
  · exact .inl (of_mem_takeWhile hc)
  split at h
  · next t hrest =>
      rw [hrest] at hc
      split at h
      · cases h
      rw [Option.isSome_map] at h
      rcases List.mem_cons.mp hc with rfl | hc
      · exact .inr (by simp)
      · rcases hsplit t hc with hc | hc
        · exact .inl (of_mem_takeWhile hc)
        · exact readExponent?_chars h hc
  · split at h
    · cases h
    rw [Option.isSome_map] at h
    exact readExponent?_chars h hc

theorem toLower_of_le {c : Char} (h : 128 ≤ c.toNat) : c.toLower = c := by
  have hcode : ¬(c.val ≥ 'A'.val ∧ c.val ≤ 'Z'.val) := by
    rintro ⟨-, hle⟩
    have hle : c.toNat ≤ 90 := hle
    omega
  exact dif_neg hcode

/-- What can be read as a number is ASCII. -/
theorem toNat_lt_of_read? (h : (Binary64.read? s).isSome = true) {c : Char} (hc : c ∈ s) :
    c.toNat < 128 := by
  have hword : ∀ word : Text, word.all (fun d => decide (d.toNat < 128)) = true →
      Text.lowerAscii (Text.takeSign s).2 = word → c ∈ (Text.takeSign s).2 → c.toNat < 128 := by
    rintro word hword rfl hmem
    refine Classical.byContradiction fun hlt => hlt ?_
    have hlower : c ∈ Text.lowerAscii (Text.takeSign s).2 :=
      List.mem_map.mpr ⟨c, hmem, toLower_of_le (Nat.not_lt.mp hlt)⟩
    exact of_decide_eq_true (List.all_eq_true.mp hword c hlower)
  rcases mem_or_of_takeSign hc with hsign | hc
  · have hascii : ∀ d ∈ ['+', '-'], d.toNat < 128 := by
      simp only [List.forall_mem_cons, List.not_mem_nil, false_implies, implies_true, and_true]
      decide
    exact hascii c hsign
  · unfold Binary64.read? at h
    simp only at h
    split at h
    · next hname =>
        rcases hname with hname | hname
        · exact hword _ (by decide) hname hc
        · exact hword _ (by decide) hname hc
    · split at h
      · next hname => exact hword _ (by decide) hname hc
      · rw [Option.isSome_map] at h
        rcases readUnsigned?_chars h hc with hdigit | hother
        · simp only [Char.isDigit, Bool.and_eq_true, decide_eq_true_eq] at hdigit
          have hle : c.toNat ≤ 57 := hdigit.2
          omega
        · have hascii : ∀ d ∈ ['.', 'e', 'E', '+', '-'], d.toNat < 128 := by
            simp only [List.forall_mem_cons, List.not_mem_nil, false_implies, implies_true, and_true]
            decide
          exact hascii c hother

/-- A text with a digit of another script cannot be read as a number. -/
theorem read?_of_foreign (h : HasForeignDigit s) : Binary64.read? s = none := by
  obtain ⟨c, hc, hdigit, hforeign⟩ := h
  rw [← Option.not_isSome_iff_eq_none]
  intro hread
  have hlow := toNat_lt_of_read? hread hc
  have hhigh := Expression.le_toNat_of_foreign hdigit hforeign
  omega

/-- A number in ASCII digits can be read. -/
theorem IsNumber.exists_read? (h : IsNumber Char.isDigit s) :
    ∃ d : Decimal, Binary64.read? s = some d.toBinary64 := by
  obtain ⟨hsign, hmantissa, hexponent⟩ := h
  exact Expression.exists_read? hsign hmantissa hexponent

/-! ## The form of a number -/

theorem contains_pair_iff {a b c : Char} :
    CharRanges.contains [(a.toNat, a.toNat), (b.toNat, b.toNat)] c = true ↔ c = a ∨ c = b := by
  have heq : ∀ d : Char, d.toNat ≤ c.toNat ∧ c.toNat ≤ d.toNat ↔ c = d := fun d => by
    rw [← Char.toNat_inj]
    omega
  simp [CharRanges.contains, CharRanges.has, heq]

namespace Regex

/-- Digits of any script. -/
def digits (min : Nat) : Regex := .loop min none false (.set Unicode.digitRanges)

/-- The digits of a number, with a point before, between or behind them. -/
def mantissa : Regex :=
  .capture (.alt
    (.seq (digits 1) (.seq (.loop 0 (some 1) false
      (.capture (.seq (.set (.single '.'.toNat)) (.seq (digits 0) .empty)))) .empty))
    (.alt (.seq (.set (.single '.'.toNat)) (.seq (digits 1) .empty)) (.set [])))

/-- The letter of an exponent, its sign and its digits, or nothing. -/
def exponent : Regex :=
  .loop 0 (some 1) false (.capture
    (.seq (.set [('E'.toNat, 'E'.toNat), ('e'.toNat, 'e'.toNat)])
      (.seq (.loop 0 (some 1) false (.set [('+'.toNat, '+'.toNat), ('-'.toNat, '-'.toNat)]))
        (.seq (digits 1) .empty))))

/-- A number, and the rest. -/
def numberThen (rest : Regex) : Regex :=
  .seq (.loop 0 (some 1) false (.set (.single '-'.toNat))) (.seq mantissa (.seq exponent rest))

theorem denotes_digits : (digits 1).Denotes (Digits Unicode.isDigit) :=
  (denotes_loop_set 1 _).congr fun _ => and_congr_left' List.length_pos_iff

/-- The regular expression of mantissas matches those in the digits of all scripts. -/
theorem denotes_mantissa : mantissa.Denotes (IsMantissa Unicode.isDigit) := by
  have hfraction : (digits 0).Denotes fun s => ∀ c ∈ s, Unicode.isDigit c = true :=
    (denotes_loop_set 0 _).congr fun _ => and_iff_right (Nat.zero_le _)
  refine (((denotes_digits.seq ((hfraction.last.single '.').capture.optional).last).alt
    (denotes_digits.last.single '.')).capture).congr fun s => ?_
  constructor
  · rintro (⟨whole, _, rfl, hwhole, rfl | ⟨fraction, rfl, hfraction⟩⟩ | ⟨fraction, rfl, hfraction⟩)
    · rw [List.append_nil]
      exact .whole hwhole
    · exact .pointed hwhole.2 hfraction (.inl hwhole.1)
    · have hnone : ∀ c ∈ ([] : Text), Unicode.isDigit c = true := List.forall_mem_nil _
      exact .pointed hnone hfraction.2 (.inr hfraction.1)
  · rintro (h | @⟨before, after, hbefore, hafter, h⟩)
    · exact .inl ⟨s, [], (List.append_nil s).symm, h, .inl rfl⟩
    · cases before with
      | nil => exact .inr ⟨after, rfl, h.resolve_left fun h => h rfl, hafter⟩
      | cons c before =>
        exact .inl ⟨c :: before, _, rfl, ⟨List.cons_ne_nil c before, hbefore⟩, .inr ⟨after, rfl, hafter⟩⟩

/-- The regular expression of exponents matches those in the digits of all scripts. -/
theorem denotes_exponent : exponent.Denotes (IsExponent Unicode.isDigit) := by
  refine (((denotes_set _).seq ((denotes_set _).optional.seq denotes_digits.last)).capture.optional).congr
    fun s => or_congr_right ?_
  constructor
  · rintro ⟨_, _, rfl, ⟨letter, rfl, hletter⟩, sign, digits, rfl, hsign, hdigits⟩
    refine ⟨letter, sign, digits, rfl, (contains_pair_iff.mp hletter).symm, ?_, hdigits⟩
    refine hsign.imp_right ?_
    rintro ⟨c, rfl, hc⟩
    exact (contains_pair_iff.mp hc).imp (congrArg ([·])) (congrArg ([·]))
  · rintro ⟨letter, sign, digits, rfl, hletter, hsign, hdigits⟩
    refine ⟨[letter], sign ++ digits, rfl, ⟨letter, rfl, contains_pair_iff.mpr hletter.symm⟩, sign,
      digits, rfl, hsign.imp_right ?_, hdigits⟩
    rintro (rfl | rfl)
    · exact ⟨'+', rfl, contains_pair_iff.mpr (.inl rfl)⟩
    · exact ⟨'-', rfl, contains_pair_iff.mpr (.inr rfl)⟩

/-- A number with what follows it. -/
theorem denotes_numberThen {rest : Regex} {L : Text → Prop} (h : rest.Denotes L) :
    (numberThen rest).Denotes fun s => ∃ u v, s = u ++ v ∧ IsNumber Unicode.isDigit u ∧ L v := by
  refine ((denotes_single '-').optional.seq
    (denotes_mantissa.seq (denotes_exponent.seq h))).congr fun s => ?_
  constructor
  · rintro ⟨sign, _, rfl, hsign, mantissa, _, rfl, hmantissa, exponent, v, rfl, hexponent, hv⟩
    exact ⟨sign ++ (mantissa ++ exponent), v, by simp, ⟨hsign, hmantissa, hexponent⟩, hv⟩
  · rintro ⟨_, v, rfl, @⟨sign, mantissa, exponent, hsign, hmantissa, hexponent⟩, hv⟩
    exact ⟨sign, mantissa ++ (exponent ++ v), by simp, hsign, mantissa, _, rfl, hmantissa,
      exponent, v, rfl, hexponent, hv⟩

end Regex

/-- The text of the default schema is the regular expression of a number. -/
theorem alone?_number :
    Pattern.alone? "-?(\\d+(\\.\\d*)?|\\.\\d+)([eE][+-]?\\d+)?".toList =
      some (Regex.numberThen .empty) := by
  decide +kernel

/-- The pattern of the default schema accepts the numbers in the digits of all scripts, and nothing
else. -/
theorem accepts_number_iff {pattern : Pattern} (h : Schema.numberPattern = some pattern)
    (value : Text) : pattern.accepts value = true ↔ IsNumber Unicode.isDigit value := by
  refine (Pattern.accepts_iff_of_denotes h alone?_number
    (Regex.denotes_numberThen Regex.denotes_empty) value).trans ?_
  constructor
  · rintro ⟨u, _, rfl, hu, rfl⟩
    rwa [List.append_nil]
  · exact fun h => ⟨value, [], (List.append_nil value).symm, h, rfl⟩

/-! ## The form of a sequence -/

namespace Regex

/-- Any blank characters. -/
def blanks : Regex := .loop 0 none false (.set blankRanges)

/-- A comma with blank characters around it, and a number. -/
def nextNumber : Regex :=
  .capture (.seq blanks (.seq (.set (.single ','.toNat)) (.seq blanks (numberThen .empty))))

/-- A number with blanks around it, and more of these behind commas. -/
def numberSequence : Regex :=
  .seq blanks (numberThen (.seq (.loop 0 none false nextNumber) (.seq blanks .empty)))

theorem denotes_blanks : blanks.Denotes fun s => ∀ c ∈ s, isBlank c = true :=
  (denotes_loop_set 0 _).congr fun _ => and_iff_right (Nat.zero_le _)

/-- The text is a number behind a comma, with blank characters around the comma. -/
def IsNext (s : Text) : Prop :=
  ∃ before after number, s = before ++ ',' :: (after ++ number) ∧
    (∀ c ∈ before, isBlank c = true) ∧ (∀ c ∈ after, isBlank c = true) ∧
    IsNumber Unicode.isDigit number

/-- What stands behind a comma, with the comma. -/
theorem denotes_nextNumber : nextNumber.Denotes IsNext := by
  refine (denotes_blanks.seq ((denotes_blanks.seq
    (denotes_numberThen denotes_empty)).single ',')).capture.congr fun s => ?_
  constructor
  · rintro ⟨before, _, rfl, hbefore, _, rfl, after, _, rfl, hafter, number, _, rfl, hnumber, rfl⟩
    exact ⟨before, after, number, by simp, hbefore, hafter, hnumber⟩
  · rintro ⟨before, after, number, rfl, hbefore, hafter, hnumber⟩
    exact ⟨before, _, rfl, hbefore, _, rfl, after, number, rfl, hafter, number, [], by simp, hnumber, rfl⟩

/-- The text is a number and further ones behind commas, with blank ends. -/
def IsSequence (s : Text) : Prop :=
  ∃ before number parts after, s = before ++ (number ++ (List.flatten parts ++ after)) ∧
    (∀ c ∈ before, isBlank c = true) ∧ IsNumber Unicode.isDigit number ∧
    (∀ part ∈ parts, IsNext part) ∧ ∀ c ∈ after, isBlank c = true

/-- The regular expression of sequences matches just these. -/
theorem denotes_numberSequence : numberSequence.Denotes IsSequence := by
  refine (denotes_blanks.seq (denotes_numberThen
    (denotes_nextNumber.many.seq denotes_blanks.last))).congr fun s => ?_
  constructor
  · rintro ⟨before, _, rfl, hbefore, number, _, rfl, hnumber, _, after, rfl, ⟨parts, rfl, hparts⟩, hafter⟩
    exact ⟨before, number, parts, after, rfl, hbefore, hnumber, hparts, hafter⟩
  · rintro ⟨before, number, parts, after, rfl, hbefore, hnumber, hparts, hafter⟩
    exact ⟨before, _, rfl, hbefore, number, _, rfl, hnumber, _, after, rfl, ⟨parts, rfl, hparts⟩, hafter⟩

end Regex

/-- A number with blank ends. -/
def IsItem (s : Text) : Prop := IsNumber Unicode.isDigit (Text.trim s)

/-- An item is a number with blanks before and behind it. -/
theorem isItem_iff : IsItem s ↔ ∃ before number after, s = before ++ (number ++ after) ∧
    (∀ c ∈ before, isBlank c = true) ∧ IsNumber Unicode.isDigit number ∧
    ∀ c ∈ after, isBlank c = true := by
  constructor
  · intro h
    obtain ⟨before, after, hs, hbefore, hafter⟩ := Text.exists_eq_append_trim s
    exact ⟨before, Text.trim s, after, by rwa [List.append_assoc] at hs, hbefore, h, hafter⟩
  · rintro ⟨before, number, after, rfl, hbefore, hnumber, hafter⟩
    have htrimmed : Text.Trimmed number :=
      ⟨fun c hc => hnumber.not_blank c (List.mem_of_mem_head? hc),
        fun c hc => hnumber.not_blank c (List.mem_reverse.mp (List.mem_of_mem_head? hc))⟩
    rwa [IsItem, ← List.append_assoc, Text.trim_between hbefore htrimmed hafter]

theorem comma_notMem_of_blank {s : Text} (h : ∀ c ∈ s, isBlank c = true) : ',' ∉ s := fun hmem =>
  absurd (h ',' hmem) (by decide)

/-- Splitting takes a sequence apart into its numbers. -/
theorem Regex.IsSequence.isItem (h : Regex.IsSequence s) :
    ∀ item ∈ Text.splitOn ',' s, IsItem item := by
  obtain ⟨before, number, parts, after, rfl, hbefore, hnumber, hparts, hafter⟩ := h
  induction parts generalizing before number with
  | nil =>
    have hcomma : ',' ∉ before ++ (number ++ after) := by
      simp [comma_notMem_of_blank hbefore, hnumber.comma_notMem, comma_notMem_of_blank hafter]
    rw [List.flatten_nil, List.nil_append, Text.splitOn_of_notMem hcomma]
    simpa using isItem_iff.mpr ⟨before, number, after, rfl, hbefore, hnumber, hafter⟩
  | cons part parts ih =>
    obtain ⟨hpart, hothers⟩ := List.forall_mem_cons.mp hparts
    obtain ⟨before', after', number', rfl, hbefore', hafter', hnumber'⟩ := hpart
    have hcomma : ',' ∉ before ++ (number ++ before') := by
      simp [comma_notMem_of_blank hbefore, hnumber.comma_notMem, comma_notMem_of_blank hbefore']
    have hsplit : before ++ (number ++
        (List.flatten ((before' ++ ',' :: (after' ++ number')) :: parts) ++ after)) =
        (before ++ (number ++ before')) ++
          ',' :: (after' ++ (number' ++ (List.flatten parts ++ after))) := by
      simp
    rw [hsplit, Text.splitOn_append_cons, Text.splitOn_of_notMem hcomma, List.singleton_append]
    refine List.forall_mem_cons.mpr ⟨?_, ih after' number' hafter' hnumber' hothers⟩
    exact isItem_iff.mpr ⟨before, number, before', rfl, hbefore, hnumber, hbefore'⟩

/-- Items with commas between them are a sequence. -/
theorem isSequence_intercalate {items : List Text} (hne : items ≠ [])
    (h : ∀ item ∈ items, IsItem item) : Regex.IsSequence ([','].intercalate items) := by
  induction items with
  | nil => contradiction
  | cons item items ih =>
    obtain ⟨hitem, hitems⟩ := List.forall_mem_cons.mp h
    obtain ⟨before, number, after, rfl, hbefore, hnumber, hafter⟩ := isItem_iff.mp hitem
    cases items with
    | nil => exact ⟨before, number, [], after, by simp, hbefore, hnumber, by simp, hafter⟩
    | cons next items =>
      obtain ⟨before', number', parts, after', hrest, hbefore', hnumber', hparts, hafter'⟩ :=
        ih (List.cons_ne_nil next items) hitems
      refine ⟨before, number, (after ++ ',' :: (before' ++ number')) :: parts, after', ?_, hbefore,
        hnumber, List.forall_mem_cons.mpr ⟨?_, hparts⟩, hafter'⟩
      · rw [List.intercalate_cons_cons, hrest]
        simp
      · exact ⟨after, before', number', rfl, hafter, hbefore', hnumber'⟩

/-- A sequence has an item between each two commas. -/
theorem isSequence_iff : Regex.IsSequence s ↔ ∀ item ∈ Text.splitOn ',' s, IsItem item := by
  refine ⟨Regex.IsSequence.isItem, fun h => ?_⟩
  have hne : Text.splitOn ',' s ≠ [] := by
    rw [Text.splitOn_eq]
    exact List.splitOn_ne_nil ',' s
  rw [← Text.intercalate_splitOn ',' s]
  exact isSequence_intercalate hne h

/-- The text of the default schema is the regular expression of a sequence. -/
theorem alone?_numberSequence :
    Pattern.alone? ("\\s*-?(\\d+(\\.\\d*)?|\\.\\d+)([eE][+-]?\\d+)?" ++
      "(\\s*,\\s*-?(\\d+(\\.\\d*)?|\\.\\d+)([eE][+-]?\\d+)?)*\\s*").toList =
        some Regex.numberSequence := by
  decide +kernel

/-- The form of a sequence asks for a number between each two commas. -/
theorem accepts_sequence_iff {pattern : Pattern} (h : Schema.numberSequencePattern = some pattern)
    (value : Text) :
    pattern.accepts value = true ↔ ∀ item ∈ Text.splitOn ',' value, IsItem item :=
  (Pattern.accepts_iff_of_denotes h alone?_numberSequence Regex.denotes_numberSequence value).trans
    isSequence_iff

end CatchmentLint
