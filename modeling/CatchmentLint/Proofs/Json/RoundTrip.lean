import CatchmentLint.Proofs.Json.Reader
import Mathlib.Data.List.Forall2
import Mathlib.Data.List.TakeWhile
import Mathlib.Tactic.IntervalCases

/-!
# CatchmentLint.Proofs.Json.RoundTrip

A JSON text that is written in the one form of the library is read as the value that was written.

* `readString_quoted` — reading a string undoes its escapes;
* `Represents` — a text by itself is a value, wherever it stands;
* `Brackets` — what arrays and objects have in common, and `Brackets.represents_enclose` — so both
  stand for what their members stand for;
* `read?_toText` — and every value is read back.
-/

namespace CatchmentLint.Json

/-! ## Strings -/

/-- An escape of one letter is read as the character it was written for. -/
theorem readEscape_letter {c letter : Char} (h : escapeLetter? c = some letter) (s : Text) :
    readEscape (letter :: s) = some (c, s) := by
  unfold escapeLetter? at h
  split at h <;> cases h <;> rfl

/-- Two digits are enough for the characters that have no letter. -/
theorem hexToNat?_control : ∀ n < 0x20,
    Toml.hexToNat? ['0', '0', Nat.digitChar (n / 16), Nat.digitChar (n % 16)] = some n := by
  decide

/-- An escape in hexadecimal digits is read as the character it was written for. -/
theorem readEscape_control {c : Char} (h : c.toNat < 0x20) (s : Text) :
    readEscape ('u' :: '0' :: '0' :: Nat.digitChar (c.toNat / 16) ::
      Nat.digitChar (c.toNat % 16) :: s) = some (c, s) := by
  have hunit : readUnit ('0' :: '0' :: Nat.digitChar (c.toNat / 16) ::
      Nat.digitChar (c.toNat % 16) :: s) = some (c.toNat, s) := by
    have hnumber := hexToNat?_control c.toNat h
    simp [readUnit, hnumber]
  have hhigh : isHighSurrogate c.toNat = false := by
    rw [isHighSurrogate, Bool.and_eq_false_iff, decide_eq_false_iff_not]
    exact .inl (by omega)
  have hlow : isLowSurrogate c.toNat = false := by
    rw [isLowSurrogate, Bool.and_eq_false_iff, decide_eq_false_iff_not]
    exact .inl (by omega)
  simp [readEscape, hunit, hhigh, hlow, Char.ofNat_toNat]

/-- An escape inside of a string stands for its character. -/
theorem readString_backslash {s rest : Text} {c : Char} (h : readEscape s = some (c, rest)) :
    readString ('\\' :: s) = (readString rest).map fun found => (c :: found.1, found.2) := by
  rw [readString]
  split
  · next hnone =>
      rw [h] at hnone
      contradiction
  · next hsome =>
      rw [h] at hsome
      cases hsome
      rfl

/-- Reading what stands for a character gives the character. -/
theorem readString_escape (c : Char) (s : Text) :
    readString (escape c ++ s) = (readString s).map fun found => (c :: found.1, found.2) := by
  cases hletter : escapeLetter? c with
  | some letter =>
      have hescape : escape c ++ s = '\\' :: letter :: s := by simp [escape, hletter]
      rw [hescape, readString_backslash (readEscape_letter hletter s)]
  | none =>
      by_cases hcontrol : c.toNat < 0x20
      · have hescape : escape c ++ s = '\\' :: 'u' :: '0' :: '0' ::
            Nat.digitChar (c.toNat / 16) :: Nat.digitChar (c.toNat % 16) :: s := by
          simp [escape, hletter, hcontrol]
        rw [hescape, readString_backslash (readEscape_control hcontrol s)]
      · have hescape : escape c ++ s = c :: s := by simp [escape, hletter, hcontrol]
        have hquote : c ≠ '"' := by
          rintro rfl
          contradiction
        have hbackslash : c ≠ '\\' := by
          rintro rfl
          contradiction
        rw [hescape, readString, if_neg hcontrol]
        · exact hquote
        · exact hbackslash

/-- A quoted text is read back, and what follows it is left. -/
theorem readString_quoted (s rest : Text) :
    readString (s.flatMap escape ++ '"' :: rest) = some (s, rest) := by
  induction s with
  | nil => simp [readString]
  | cons c s ih => rw [List.flatMap_cons, List.append_assoc, readString_escape, ih, Option.map_some]

/-! ## Numbers -/

section Numbers

theorem isDigit_of_mem_ofNat {n : Nat} {c : Char} (h : c ∈ Text.ofNat n) : c.isDigit = true :=
  Nat.isDigit_of_mem_toDigits (by decide) (by decide) h

/-- A numeral has no leading zero. -/
theorem head?_ofNat {n : Nat} (h : n ≠ 0) : (Text.ofNat n).head? ≠ some '0' := by
  induction n using Nat.strongRecOn with
  | ind n ih =>
      by_cases hbase : n < 10
      · rw [Text.ofNat, Nat.toDigits_of_lt_base hbase]
        interval_cases n <;> simp_all [Nat.digitChar]
      · have hquotient : n / 10 ≠ 0 := by omega
        have hhead := ih (n / 10) (by omega) hquotient
        rw [Text.ofNat] at hhead
        rw [Text.ofNat, Nat.toDigits_of_base_le (by decide) (by omega),
          List.head?_append_of_ne_nil _ Nat.toDigits_ne_nil]
        exact hhead

/-- A number begins with a digit, which is zero for zero only. -/
theorem exists_ofNat_eq_cons (n : Nat) :
    ∃ c s, Text.ofNat n = c :: s ∧ c.isDigit = true ∧ (c = '0' → s = []) := by
  obtain ⟨c, s, hcons⟩ := List.exists_cons_of_ne_nil (Nat.toDigits_ne_nil (n := n) (b := 10))
  refine ⟨c, s, hcons, isDigit_of_mem_ofNat (hcons ▸ List.mem_cons_self), ?_⟩
  rintro rfl
  by_cases hzero : n = 0
  · subst hzero
    exact (List.cons.inj hcons).2.symm
  · exact absurd (congrArg List.head? hcons) (head?_ofNat hzero)

theorem dropDigits?_of_forall {s : Text} (hne : s ≠ []) (h : ∀ c ∈ s, c.isDigit = true) :
    dropDigits? s = some [] := by
  rw [dropDigits?, List.takeWhile_eq_self_iff.mpr h, List.dropWhile_eq_nil_iff.mpr h, if_neg hne]

/-- A number that is written has the form of one. -/
theorem isNumber_ofNat (n : Nat) : isNumber (Text.ofNat n) = true := by
  obtain ⟨c, s, hcons, hdigit, hzero⟩ := exists_ofNat_eq_cons n
  have hminus : dropMinus (c :: s) = c :: s := by
    unfold dropMinus
    split
    · next heq =>
        cases heq
        contradiction
    · rfl
  have hwhole : dropWhole? (c :: s) = some [] := by
    unfold dropWhole?
    split
    · next heq =>
        cases heq
        rw [hzero rfl]
    · rw [← hcons]
      exact dropDigits?_of_forall (by simp [hcons]) fun _ => isDigit_of_mem_ofNat
  rw [isNumber, hcons, hminus, hwhole]
  rfl

/-- The digits of a number give it back. -/
theorem digitsToNat_ofNat (n : Nat) : Text.digitsToNat (Text.ofNat n) = n :=
  Nat.ofDigitChars_toDigits (by decide) (by decide)

/-- A number that is written is read as itself, without a fraction. -/
theorem read?_ofNat (n : Nat) : Decimal.read? (Text.ofNat n) = some ⟨false, n, 0⟩ := by
  obtain ⟨c, s, hcons, hdigit, -⟩ := exists_ofNat_eq_cons n
  have hsign : Text.takeSign (Text.ofNat n) = (false, Text.ofNat n) := by
    rw [hcons]
    unfold Text.takeSign
    split
    · next heq =>
        cases heq
        contradiction
    · next heq =>
        cases heq
        contradiction
    · rfl
  have hall : ∀ d ∈ Text.ofNat n, d.isDigit = true := fun _ => isDigit_of_mem_ofNat
  have hne : Text.ofNat n ≠ [] := by simp [hcons]
  rw [Decimal.read?, hsign]
  simp [Decimal.readUnsigned?, List.takeWhile_eq_self_iff.mpr hall,
    List.dropWhile_eq_nil_iff.mpr hall, hne, Decimal.readExponent?, digitsToNat_ofNat]

/-- A number by itself is a number. -/
theorem scalar?_ofNat (n : Nat) : scalar? (Text.ofNat n) = some (.number ⟨false, n, 0⟩) := by
  obtain ⟨c, s, hcons, hdigit, -⟩ := exists_ofNat_eq_cons n
  have hword {word : String} (h : word.toList.head?.any Char.isDigit = false) :
      Text.ofNat n ≠ word.toList := by
    intro heq
    rw [← heq, hcons] at h
    simp [hdigit] at h
  rw [scalar?, if_neg (hword (by decide)), if_neg (hword (by decide)), if_neg (hword (by decide)),
    if_pos (isNumber_ofNat n), read?_ofNat, Option.map_some]

end Numbers

/-! ## Tokens -/

/-- No word goes on at the start of this text. -/
def EndsWord (rest : Text) : Prop := ∀ c ∈ rest.head?, isWordChar c = false

/-- The text has these tokens, wherever no word goes on behind it. -/
def Lexes (text : Text) (found : List Token) : Prop :=
  ∀ rest, EndsWord rest → tokens (text ++ rest) = (tokens rest).map (found ++ ·)

/-- Space between tokens is passed. -/
theorem tokens_space {c : Char} (h : isSpace c = true) (s : Text) : tokens (c :: s) = tokens s := by
  rw [tokens, if_pos h]

/-- A mark is a token by itself. -/
theorem tokens_mark {c : Char} (h : isMark c = true) (s : Text) :
    tokens (c :: s) = (tokens s).map (.mark c :: ·) := by
  have hmarks : ∀ d ∈ marks, isSpace d = false := by
    simpa using (by decide : (marks.all fun d => !isSpace d) = true)
  rw [tokens, if_neg (by simp [hmarks c (List.contains_iff_mem.mp h)]), if_pos h]

/-- The start of a line is space. -/
theorem tokens_lineStart (depth : Nat) (s : Text) : tokens (lineStart depth ++ s) = tokens s := by
  rw [lineStart, List.cons_append, tokens_space (by decide)]
  induction 2 * depth with
  | zero => rfl
  | succ count ih => rw [List.replicate_succ, List.cons_append, tokens_space (by decide), ih]

/-- A quote opens a string, which is one token. -/
theorem tokens_quote {s text rest : Text} (h : readString s = some (text, rest)) :
    tokens ('"' :: s) = (tokens rest).map (.string text :: ·) := by
  rw [tokens, if_neg (by decide), if_neg (by decide), if_pos rfl]
  split
  · next hnone =>
      rw [h] at hnone
      contradiction
  · next hsome =>
      rw [h] at hsome
      cases hsome
      rfl

/-- A string that is written is one token. -/
theorem lexes_quote (s : Text) : Lexes (quote s) [.string s] := by
  intro rest _
  have hquote : quote s ++ rest = '"' :: (s.flatMap escape ++ '"' :: rest) := by simp [quote]
  rw [hquote, tokens_quote (readString_quoted s rest)]
  rfl

theorem isWordChar_of_isDigit {c : Char} (h : c.isDigit = true) : isWordChar c = true := by
  simp [isWordChar, Char.isAlphanum, h]

/-- A digit opens a word, and nothing else. -/
theorem opens_of_isDigit {c : Char} (h : c.isDigit = true) :
    isSpace c = false ∧ isMark c = false ∧ c ≠ '"' := by
  have hothers : ∀ d ∈ '"' :: (spaces ++ marks), d.isDigit = false := by
    simpa only [List.all_eq_true, Bool.not_eq_true'] using
      (by decide : (('"' :: (spaces ++ marks)).all fun d => !d.isDigit) = true)
  have hnot : c ∉ '"' :: (spaces ++ marks) := fun hc => by simp [hothers c hc] at h
  simp only [List.mem_cons, List.mem_append, not_or] at hnot
  exact ⟨by simp [isSpace, hnot.2.1], by simp [isMark, hnot.2.2], hnot.1⟩

/-- What ends a word has no part in it. -/
theorem EndsWord.takeWhile_eq {rest : Text} (h : EndsWord rest) :
    rest.takeWhile isWordChar = [] := by
  cases rest with
  | nil => rfl
  | cons c rest => exact List.takeWhile_cons_of_neg (by simp [h c rfl])

/-- What ends a word is left as it is. -/
theorem EndsWord.dropWhile_eq {rest : Text} (h : EndsWord rest) :
    rest.dropWhile isWordChar = rest := by
  cases rest with
  | nil => rfl
  | cons c rest => exact List.dropWhile_cons_of_neg (by simp [h c rfl])

/-- A number that is written is one token. -/
theorem lexes_ofNat (n : Nat) : Lexes (Text.ofNat n) [.scalar (.number ⟨false, n, 0⟩)] := by
  intro rest hrest
  obtain ⟨c, s, hcons, hdigit, -⟩ := exists_ofNat_eq_cons n
  obtain ⟨hspace, hmark, hquote⟩ := opens_of_isDigit hdigit
  have hword : ∀ d ∈ s, isWordChar d = true := fun d hd =>
    isWordChar_of_isDigit (isDigit_of_mem_ofNat (hcons ▸ List.mem_cons_of_mem c hd))
  rw [hcons, List.cons_append, tokens, if_neg (by simp [hspace]), if_neg (by simp [hmark]),
    if_neg hquote, List.takeWhile_append_of_pos hword, List.dropWhile_append_of_pos hword,
    hrest.takeWhile_eq, hrest.dropWhile_eq, List.append_nil, ← hcons, scalar?_ofNat]
  rfl

/-! ## Values -/

/-- The tokens are a value, wherever one is expected. -/
def Begins (found : List Token) (v : Value) : Prop :=
  ∀ stack expected rest, expected = .value ∨ expected = .valueOrClosing →
    (Parsing.within stack expected).run (found ++ rest) =
      (Parsing.deliver v stack).bind (·.run rest)

/-- The text by itself is a value. -/
def Represents (text : Text) (v : Value) : Prop := ∃ found, Lexes text found ∧ Begins found v

/-- Tokens are taken one by one. -/
theorem run_cons (p : Parsing) (token : Token) (rest : List Token) :
    p.run (token :: rest) = (p.step token).bind (·.run rest) := rfl

/-- A string stands for its text. -/
theorem represents_quote (s : Text) : Represents (quote s) (.string s) := by
  refine ⟨_, lexes_quote s, ?_⟩
  rintro stack expected rest (rfl | rfl) <;> rfl

/-- A number stands for itself. -/
theorem represents_ofNat (n : Nat) : Represents (Text.ofNat n) (.number ⟨false, n, 0⟩) := by
  refine ⟨_, lexes_ofNat n, ?_⟩
  rintro stack expected rest (rfl | rfl) <;> rfl

/-! ## Brackets -/

/-- A kind of value in brackets, with members of a type. -/
structure Brackets (α : Type) where
  opening : Char
  closing : Char
  frame : List α → Frame
  value : List α → Value
  /-- What is expected after the opening bracket. -/
  first : Expected
  /-- What is expected after a comma. -/
  next : Expected
  isMark_opening : isMark opening = true
  isMark_closing : isMark closing = true
  closing_ne : closing ≠ ','
  opens : ∀ stack, Parsing.beginValue stack (.mark opening) = some (.within (frame [] :: stack) first)
  opening_ne : opening ≠ ']'
  separates : ∀ members stack,
    Parsing.separate (frame members :: stack) = some (.within (frame members :: stack) next)
  closes : ∀ members stack,
    Parsing.close closing (frame members :: stack) = Parsing.deliver (value members) stack
  closes_first : ∀ stack, Parsing.step (.within stack first) (.mark closing) =
    Parsing.close closing stack

namespace Brackets

/-- Arrays, of which each item adds itself. -/
def array : Brackets Value where
  opening := '['
  closing := ']'
  frame := .array
  value := .array
  first := .valueOrClosing
  next := .value
  isMark_opening := rfl
  isMark_closing := rfl
  closing_ne := by decide
  opens _ := rfl
  opening_ne := by decide
  separates _ _ := rfl
  closes _ _ := rfl
  closes_first _ := rfl

/-- Objects, of which each member adds its name and its value. -/
def object : Brackets (Text × Value) where
  opening := '\x7b'
  closing := '\x7d'
  frame := .object
  value := .object
  first := .nameOrClosing
  next := .name
  isMark_opening := rfl
  isMark_closing := rfl
  closing_ne := by decide
  opens _ := rfl
  opening_ne := by decide
  separates _ _ := rfl
  closes _ _ := rfl
  closes_first _ := rfl

variable {α : Type} (b : Brackets α)

/-- The tokens are a member, wherever one is expected. -/
def Adds (found : List Token) (member : α) : Prop :=
  ∀ members stack expected rest, expected = b.first ∨ expected = b.next →
    (Parsing.within (b.frame members :: stack) expected).run (found ++ rest) =
      (Parsing.within (b.frame (members ++ [member]) :: stack) .commaOrClosing).run rest

/-- The text by itself is a member. -/
def IsMember (text : Text) (member : α) : Prop := ∃ found, Lexes text found ∧ b.Adds found member

/-- The bracket that closes hands over what has been put together. -/
theorem run_closing (members : List α) (stack : List Frame) (rest : List Token) :
    (Parsing.within (b.frame members :: stack) .commaOrClosing).run (.mark b.closing :: rest) =
      (Parsing.deliver (b.value members) stack).bind (·.run rest) := by
  rw [run_cons, Parsing.step, if_neg b.closing_ne, b.closes]

/-- The members are taken in one after another, up to the closing bracket. -/
theorem run_members {found : List Token} {member : α} (h : b.Adds found member)
    {others : List (List Token)} {members : List α} (hothers : List.Forall₂ b.Adds others members)
    (before : List α) (stack : List Frame) {expected : Expected} (rest : List Token)
    (hexpected : expected = b.first ∨ expected = b.next) :
    (Parsing.within (b.frame before :: stack) expected).run
        ([Token.mark ','].intercalate (found :: others) ++ .mark b.closing :: rest) =
      (Parsing.deliver (b.value (before ++ member :: members)) stack).bind (·.run rest) := by
  induction hothers generalizing before found member expected with
  | nil => rw [List.intercalate_singleton, h _ _ _ _ hexpected, run_closing]
  | cons hnext _ ih =>
      rw [List.intercalate_cons_cons, List.append_assoc, List.append_assoc, h _ _ _ _ hexpected,
        List.singleton_append, run_cons, Parsing.step, if_pos rfl, b.separates, Option.bind_some,
        ih hnext _ (.inr rfl), List.append_assoc]
      rfl

/-- Brackets around members are the value that holds them. -/
theorem begins {found : List (List Token)} {members : List α}
    (h : List.Forall₂ b.Adds found members) :
    Begins (.mark b.opening :: ([Token.mark ','].intercalate found ++ [.mark b.closing]))
      (b.value members) := by
  intro stack expected rest hexpected
  have hopened : Parsing.step (.within stack expected) (.mark b.opening) =
      some (.within (b.frame [] :: stack) b.first) := by
    rcases hexpected with rfl | rfl
    · exact b.opens stack
    · rw [Parsing.step, if_neg b.opening_ne]
      exact b.opens stack
  rw [List.cons_append, List.append_assoc, List.singleton_append, run_cons, hopened, Option.bind_some]
  cases h with
  | nil => rw [List.intercalate_nil, List.nil_append, run_cons, b.closes_first, b.closes]
  | cons hfirst hothers => rw [b.run_members hfirst hothers [] stack rest (.inl rfl), List.nil_append]

end Brackets

theorem endsWord_cons_of_isMark {c : Char} (h : isMark c = true) (s : Text) : EndsWord (c :: s) := by
  have hmarks : ∀ d ∈ marks, isWordChar d = false := by
    simpa using (by decide : (marks.all fun d => !isWordChar d) = true)
  rintro d ⟨⟩
  exact hmarks c (List.contains_iff_mem.mp h)

/-- The start of a line ends a word. -/
theorem endsWord_lineStart (depth : Nat) (s : Text) : EndsWord (lineStart depth ++ s) := by
  rintro d ⟨⟩
  decide

/-- Members on lines of their own have their tokens, with commas between them. -/
theorem lexes_join {text : Text} {found : List Token} (h : Lexes text found) (depth : Nat)
    {texts : List Text} {others : List (List Token)} (hothers : List.Forall₂ Lexes texts others) :
    Lexes (Text.join (',' :: lineStart depth) (text :: texts))
      ([Token.mark ','].intercalate (found :: others)) := by
  induction hothers generalizing text found with
  | nil =>
      rw [List.intercalate_singleton]
      exact h
  | @cons next nextFound texts _ hnext _ ih =>
      intro rest hrest
      have hjoin : Text.join (',' :: lineStart depth) (text :: next :: texts) ++ rest =
          text ++ ',' :: (lineStart depth ++
            (Text.join (',' :: lineStart depth) (next :: texts) ++ rest)) := by
        simp [Text.join]
      rw [hjoin, h _ (endsWord_cons_of_isMark rfl _), tokens_mark rfl, tokens_lineStart,
        ih hnext rest hrest, List.intercalate_cons_cons]
      simp [Function.comp_def]

/-- What stands between brackets is the tokens of its members, with commas between them. -/
theorem lexes_enclose {opening closing : Char} (hopening : isMark opening = true)
    (hclosing : isMark closing = true) (depth : Nat) {texts : List Text}
    {found : List (List Token)} (h : List.Forall₂ Lexes texts found) :
    Lexes (enclose opening closing depth texts)
      (.mark opening :: ([Token.mark ','].intercalate found ++ [.mark closing])) := by
  intro rest _
  cases h with
  | nil =>
      have htext : enclose opening closing depth [] ++ rest = opening :: closing :: rest := rfl
      rw [htext, tokens_mark hopening, tokens_mark hclosing]
      simp [Function.comp_def]
  | @cons text _ texts _ hfirst hothers =>
      have htext : enclose opening closing depth (text :: texts) ++ rest =
          opening :: (lineStart (depth + 1) ++
            (Text.join (',' :: lineStart (depth + 1)) (text :: texts) ++
              (lineStart depth ++ closing :: rest))) := by
        simp [enclose]
      rw [htext, tokens_mark hopening, tokens_lineStart,
        lexes_join hfirst (depth + 1) hothers _ (endsWord_lineStart depth _), tokens_lineStart,
        tokens_mark hclosing]
      simp [Function.comp_def]

/-! ## Arrays and objects -/

section Members

variable {α : Type} {b : Brackets α} {text : Text} {v : Value}

/-- The members have tokens that add them. -/
theorem Brackets.exists_tokens {texts : List Text} {members : List α}
    (h : List.Forall₂ b.IsMember texts members) :
    ∃ found, List.Forall₂ Lexes texts found ∧ List.Forall₂ b.Adds found members := by
  induction h with
  | nil => exact ⟨[], .nil, .nil⟩
  | cons hfirst _ ih =>
      obtain ⟨found, hlexes, hadds⟩ := hfirst
      obtain ⟨others, hlexesOthers, haddsOthers⟩ := ih
      exact ⟨found :: others, .cons hlexes hlexesOthers, .cons hadds haddsOthers⟩

/-- Brackets around the texts of members stand for the value with these members. -/
theorem Brackets.represents_enclose {texts : List Text} {members : List α}
    (h : List.Forall₂ b.IsMember texts members) (depth : Nat) :
    Represents (enclose b.opening b.closing depth texts) (b.value members) := by
  obtain ⟨found, hlexes, hadds⟩ := Brackets.exists_tokens h
  exact ⟨_, lexes_enclose b.isMark_opening b.isMark_closing depth hlexes, b.begins hadds⟩

/-- An item is the text of its value. -/
theorem isMember_array (h : Represents text v) : Brackets.array.IsMember text v := by
  obtain ⟨found, hlexes, hbegins⟩ := h
  refine ⟨found, hlexes, fun items stack expected rest hexpected => ?_⟩
  exact hbegins (.array items :: stack) expected rest hexpected.symm

/-- A member is its name and the text of its value. -/
theorem isMember_object (name : Text) (h : Represents text v) :
    Brackets.object.IsMember (quote name ++ ": ".toList ++ text) (name, v) := by
  obtain ⟨found, hlexes, hbegins⟩ := h
  refine ⟨.string name :: .mark ':' :: found, fun rest hrest => ?_, ?_⟩
  · have htext : quote name ++ ": ".toList ++ text ++ rest =
        quote name ++ ':' :: ' ' :: (text ++ rest) := by simp
    rw [htext, lexes_quote name _ (endsWord_cons_of_isMark rfl _), tokens_mark rfl,
      tokens_space rfl, hlexes rest hrest]
    simp [Function.comp_def]
  · intro members stack expected rest hexpected
    have hnamed : Parsing.step (.within (.object members :: stack) expected) (.string name) =
        some (.within (.member members name :: stack) .colon) := by
      rcases hexpected with rfl | rfl <;> rfl
    rw [List.cons_append, List.cons_append, run_cons]
    exact (congrArg (Option.bind · _) hnamed).trans
      (hbegins (.member members name :: stack) .value rest (.inl rfl))

end Members

/-! ## Round trip -/

mutual

/-- What a text of the value says. -/
def value : Json → Value
  | .number n => .number ⟨false, n, 0⟩
  | .string s => .string s
  | .array items => .array (itemValues items)
  | .object members => .object (memberValues members)

/-- What the items of an array stand for. -/
def itemValues : List Json → List Value
  | [] => []
  | item :: items => value item :: itemValues items

/-- What the members of an object stand for. -/
def memberValues : List (Text × Json) → List (Text × Value)
  | [] => []
  | (name, item) :: members => (name, value item) :: memberValues members

end

mutual

/-- At every depth the text of a value is that value. -/
theorem represents_toTextAt (depth : Nat) (j : Json) : Represents (toTextAt depth j) j.value := by
  cases j with
  | number n => exact represents_ofNat n
  | string s => exact represents_quote s
  | array items => exact Brackets.represents_enclose (isMember_itemTexts (depth + 1) items) depth
  | object members =>
      exact Brackets.represents_enclose (isMember_memberTexts (depth + 1) members) depth

/-- The texts of items stand for the items. -/
theorem isMember_itemTexts (depth : Nat) (items : List Json) :
    List.Forall₂ Brackets.array.IsMember (itemTexts depth items) (itemValues items) := by
  cases items with
  | nil => exact .nil
  | cons item items =>
      exact .cons (isMember_array (represents_toTextAt depth item)) (isMember_itemTexts depth items)

/-- The texts of members stand for the members. -/
theorem isMember_memberTexts (depth : Nat) (members : List (Text × Json)) :
    List.Forall₂ Brackets.object.IsMember (memberTexts depth members) (memberValues members) := by
  cases members with
  | nil => exact .nil
  | cons member members =>
      obtain ⟨name, item⟩ := member
      exact .cons (isMember_object name (represents_toTextAt depth item))
        (isMember_memberTexts depth members)

end

/-- Every value is read back from its text. -/
theorem read?_toText (j : Json) : read? j.toText = some j.value := by
  obtain ⟨found, hlexes, hbegins⟩ := represents_toTextAt 0 j
  have htokens : tokens j.toText = some found := by
    have hends : EndsWord [] := nofun
    simpa [toText, tokens] using hlexes [] hends
  have hrun : Parsing.start.run found = some (.done j.value) := by
    have hvalue := hbegins [] .value [] (.inl rfl)
    rwa [List.append_nil] at hvalue
  rw [read?, htokens, Option.bind_some, hrun]
  rfl

end CatchmentLint.Json
