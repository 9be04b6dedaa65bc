import CatchmentLint.Expression.Token
import CatchmentLint.Proofs.Lists
import CatchmentLint.Proofs.Text.Pieces

/-!
# CatchmentLint.Proofs.Expression.Lexeme

What a token takes from the text:

* `readWord_cases` and `lexemeAt_of_readLexeme` — what a word and a token can be;
* `readLexeme_isPrefix` — the text of a token is a prefix that is not empty, so no character is lost
  or read twice;
* `ReadsAs` — a text and its tokens, one after another, which is how it is read;
* `readFrom_chars` — outside of brackets there are token characters and blank ones only where a
  text has tokens;
* `readFrom_ends` — the end is the last token and no other one;
* `readFrom_plain` and `readFrom_bracketed` — a reference is one token, up to its first closing
  bracket.
-/

namespace CatchmentLint.Token

/-! ## One token after another -/

/-- At the end of the text there is the token for the end. -/
theorem readFrom_nil (position : Nat) : readFrom position [] = .ok [⟨.eof, [], position⟩] := by
  rw [readFrom]

/-- A blank character moves the position on, and nothing else. -/
theorem readFrom_blank {c : Char} (position : Nat) (s : Text) (h : isBlank c = true) :
    readFrom position (c :: s) = readFrom (position + c.utf8Size) s := by
  rw [readFrom, if_pos h]

/-- A token, and then the tokens of the text after it. -/
theorem readFrom_lexeme {c : Char} {s rest : Text} {position : Nat} {kind : TokenKind}
    (hc : isBlank c = false) (h : readLexeme position c (s ++ rest) = .ok (kind, c :: s)) :
    readFrom position (c :: s ++ rest) =
      (readFrom (position + Text.utf8Size (c :: s)) rest).map (⟨kind, c :: s, position⟩ :: ·) := by
  have hdrop : (s ++ rest).drop ((c :: s).length - 1) = rest := by simp
  rw [List.cons_append, readFrom, if_neg (by simp [hc]), h]
  simp only [hdrop]
  cases readFrom (position + Text.utf8Size (c :: s)) rest <;> rfl

/-! ## Texts of tokens -/

/-- Two parts one behind the other are the start of a text together. -/
theorem append_isPrefix {a b s : Text} (ha : a <+: s) (hb : b <+: s.drop a.length) : a ++ b <+: s := by
  obtain ⟨t, rfl⟩ := ha
  rw [List.drop_left] at hb
  exact (List.prefix_append_right_inj a).mpr hb

theorem fractionPart_isPrefix (s : Text) : fractionPart s <+: s := by
  unfold fractionPart
  split
  · exact (List.prefix_cons_inj _).mpr (List.takeWhile_prefix _)
  · exact List.nil_prefix

theorem signPart_isPrefix (s : Text) : signPart s <+: s := by
  unfold signPart
  split <;> simp

theorem exponentPart_isPrefix (s : Text) : exponentPart s <+: s := by
  unfold exponentPart
  split
  · split
    · exact (List.prefix_cons_inj _).mpr
        (append_isPrefix (signPart_isPrefix _) (List.takeWhile_prefix _))
    · exact List.nil_prefix
  · exact List.nil_prefix

/-- A number is the start of the text that it is read from. -/
theorem numberText_isPrefix (s : Text) : numberText s <+: s := by
  have hwhole : s.takeWhile Char.isDigit <+: s := List.takeWhile_prefix _
  have hfraction := append_isPrefix hwhole (fractionPart_isPrefix (s.drop (s.takeWhile Char.isDigit).length))
  have h := append_isPrefix hfraction (exponentPart_isPrefix _)
  rwa [List.length_append] at h

/-- A clause in brackets is the start of the text that it is read from. -/
theorem bracketPart?_isPrefix {s brackets : Text} (h : bracketPart? s = some brackets) :
    brackets <+: s := by
  unfold bracketPart? at h
  split at h
  · split at h
    · next inner rest hcut =>
        obtain ⟨rfl, -⟩ := Text.cut?_eq_some_iff.mp hcut
        rw [← Option.some.inj h]
        exact ⟨rest, by simp⟩
    · contradiction
  · rw [← Option.some.inj h]
    exact List.nil_prefix

/-- An operator is the start of the text that it is read from, one character or two. -/
theorem operatorText_isPrefix (s : Text) : operatorText s <+: s := by
  unfold operatorText
  split
  · split <;> simp
  · exact List.prefix_refl _

theorem isWordChar_of_isWordStart {c : Char} (h : isWordStart c = true) : isWordChar c = true := by
  unfold isWordStart at h
  unfold isWordChar Char.isAlphanum
  grind

theorem isDottedChar_of_isWordChar {c : Char} (h : isWordChar c = true) : isDottedChar c = true := by
  simp [isDottedChar, h]

/-! ## Words -/

section Words

variable {position : Nat} {kind : TokenKind} {text rest : Text}

/-- A word that `rest` stands behind, and which opens no reference there. -/
structure EndsWord (text rest : Text) : Prop where
  word : (text ++ rest).takeWhile isWordChar = text
  unopened : (referenceKind? text).isSome = true → '.' ∉ rest.head?

/-- A reference that `rest` stands behind: an opening word, words with dots before them, and a clause
in brackets where one follows that belongs to it. -/
structure EndsReference (kind : TokenKind) (text rest lead tail clause : Text) : Prop where
  kind_eq : referenceKind? lead = some kind
  text_eq : text = lead ++ '.' :: tail ++ clause
  dotted : (lead ++ '.' :: tail ++ (clause ++ rest)).takeWhile isDottedChar = lead ++ '.' :: tail
  clause_eq : if takesBrackets kind then bracketPart? (clause ++ rest) = some clause else clause = []

/-- What a reference takes from a text, whose opening word has a dot behind it. -/
theorem takeWhile_isDottedChar {s after : Text} (h : s.takeWhile isWordChar ++ '.' :: after = s) :
    s.takeWhile isDottedChar = s.takeWhile isWordChar ++ '.' :: after.takeWhile isDottedChar := by
  have hword : ∀ c ∈ s.takeWhile isWordChar, isDottedChar c = true := fun c hc =>
    isDottedChar_of_isWordChar (of_mem_takeWhile hc)
  calc s.takeWhile isDottedChar
      = (s.takeWhile isWordChar ++ '.' :: after).takeWhile isDottedChar := by rw [h]
    _ = s.takeWhile isWordChar ++ '.' :: after.takeWhile isDottedChar := by
      rw [List.takeWhile_append_of_pos hword, List.takeWhile_cons_of_pos (by decide)]

/-- A word or a reference is the start of the text that it is read from. -/
theorem readWord_isPrefix {s : Text} (h : readWord position s = .ok (kind, text)) : text <+: s := by
  unfold readWord at h
  simp only at h
  split at h
  · split at h
    · split at h
      · next clause hclause =>
          cases h
          exact append_isPrefix (List.takeWhile_prefix _) (bracketPart?_isPrefix hclause)
      · contradiction
    · cases h
      exact List.takeWhile_prefix _
  · cases h
    exact List.takeWhile_prefix _

/-- What is read as a word is a name, or a reference of one of the kinds. -/
theorem readWord_cases (h : readWord position (text ++ rest) = .ok (kind, text)) :
    kind = .ident ∧ EndsWord text rest ∨
      ∃ lead tail clause, EndsReference kind text rest lead tail clause := by
  have hprefix : (text ++ rest).takeWhile isWordChar ++
      (text ++ rest).drop ((text ++ rest).takeWhile isWordChar).length = text ++ rest :=
    List.prefix_iff_eq_append.mp (List.takeWhile_prefix _)
  -- A word that leads a reference takes the dotted rest, and a clause in brackets where it may.
  unfold readWord at h
  simp only at h
  split at h
  · next kind' after hlead hdrop =>
      rw [hdrop] at hprefix
      have hdotted := takeWhile_isDottedChar hprefix
      rw [hdotted] at h
      generalize (text ++ rest).takeWhile isWordChar = lead at hlead hdotted h
      generalize after.takeWhile isDottedChar = tail at hdotted h
      right
      split at h
      · next hbrackets =>
          split at h
          · next clause hclause =>
              obtain ⟨rfl, rfl⟩ : kind' = kind ∧ lead ++ '.' :: tail ++ clause = text := by simpa using h
              rw [List.append_assoc (lead ++ '.' :: tail)] at hclause hdotted
              rw [List.drop_left] at hclause
              exact ⟨lead, tail, clause, hlead, rfl, hdotted, by rw [if_pos hbrackets, hclause]⟩
          · contradiction
      · next hbrackets =>
          obtain ⟨rfl, rfl⟩ : kind' = kind ∧ lead ++ '.' :: tail = text := by simpa using h
          exact ⟨lead, tail, [], hlead, by simp, hdotted, by rw [if_neg hbrackets]⟩
  · next hnone =>
      obtain ⟨rfl, htext⟩ : .ident = kind ∧ (text ++ rest).takeWhile isWordChar = text := by simpa using h
      refine .inl ⟨rfl, htext, fun hsome hdot => ?_⟩
      obtain ⟨kind, hkind⟩ := Option.isSome_iff_exists.mp hsome
      obtain ⟨after, rfl⟩ := List.head?_eq_some_iff.mp hdot
      exact hnone kind after (by rw [htext, hkind]) (by rw [htext, List.drop_left])

/-- A word has a character at least, the one that starts it. -/
theorem readWord_ne_nil {c : Char} {s : Text} (hc : isWordStart c = true)
    (h : readWord position (c :: s) = .ok (kind, text)) : text ≠ [] := by
  obtain ⟨rest, hrest⟩ := readWord_isPrefix h
  rw [← hrest] at h
  cases readWord_cases h with
  | inl hword =>
      have htext := hword.2.word
      rw [hrest, List.takeWhile_cons_of_pos (isWordChar_of_isWordStart hc)] at htext
      rw [← htext]
      exact List.cons_ne_nil _ _
  | inr hreference =>
      obtain ⟨lead, tail, clause, hreference⟩ := hreference
      simp [hreference.text_eq]

/-- Outside of its brackets a reference has word characters and dots only. -/
theorem EndsReference.isDotted {lead tail clause : Text}
    (h : EndsReference kind text rest lead tail clause) :
    ∀ c ∈ lead ++ '.' :: tail, isDottedChar c = true := fun _ hc =>
  of_mem_takeWhile (h.dotted.symm ▸ hc)

end Words

/-! ## Kinds of token -/

/-- The ways in which a token starts with `c` where `s` follows. -/
inductive LexemeAt (position : Nat) (c : Char) (s : Text) : TokenKind → Text → Prop
  | opening (hc : c = '(') : LexemeAt position c s .lparen [c]
  | closing (hc : c = ')') : LexemeAt position c s .rparen [c]
  | comma (hc : c = ',') : LexemeAt position c s .comma [c]
  | number (hread : (Binary64.read? (numberText (c :: s))).isSome = true) :
      LexemeAt position c s .number (numberText (c :: s))
  | word {kind : TokenKind} {text : Text} (hstart : isWordStart c = true)
      (hread : readWord position (c :: s) = .ok (kind, text)) : LexemeAt position c s kind text
  | operator (hc : isOperatorChar c = true) :
      LexemeAt position c s .operator (operatorText (c :: s))

/-- A token is a number, a word or reference, an operator, or a single sign. -/
theorem lexemeAt_of_readLexeme {position : Nat} {c : Char} {s text : Text} {kind : TokenKind}
    (h : readLexeme position c s = .ok (kind, text)) : LexemeAt position c s kind text := by
  unfold readLexeme at h
  split at h
  · next hc => cases h; exact .opening hc
  split at h
  · next hc => cases h; exact .closing hc
  split at h
  · next hc => cases h; exact .comma hc
  split at h
  · simp only at h
    split at h
    · next hread => cases h; exact .number hread
    · contradiction
  split at h
  · next hstart => exact .word hstart h
  split at h
  · next hc => cases h; exact .operator hc
  · contradiction

/-- The text of a token is what stands at its place, and is not empty. -/
theorem readLexeme_isPrefix {position : Nat} {c : Char} {s text : Text} {kind : TokenKind}
    (h : readLexeme position c s = .ok (kind, text)) : text <+: c :: s ∧ text ≠ [] := by
  have hsingle : [c] <+: c :: s ∧ [c] ≠ [] := by simp
  cases lexemeAt_of_readLexeme h with
  | opening => exact hsingle
  | closing => exact hsingle
  | comma => exact hsingle
  | number hread =>
      refine ⟨numberText_isPrefix _, fun hnil => ?_⟩
      rw [hnil] at hread
      exact absurd hread (by decide)
  | word hstart hread => exact ⟨readWord_isPrefix hread, readWord_ne_nil hstart hread⟩
  | operator =>
      refine ⟨operatorText_isPrefix _, ?_⟩
      unfold operatorText
      split
      · split <;> simp
      · simp

/-! ## Readings -/

/-- A text that `position` bytes stand before has these tokens. -/
inductive ReadsAs : (position : Nat) → Text → List Token → Prop
  | done {position : Nat} : ReadsAs position [] [⟨.eof, [], position⟩]
  | blank {position : Nat} {c : Char} {s : Text} {tokens : List Token} (hc : isBlank c = true)
      (h : ReadsAs (position + c.utf8Size) s tokens) : ReadsAs position (c :: s) tokens
  | token {position : Nat} {kind : TokenKind} {c : Char} {s rest : Text} {tokens : List Token}
      (hc : isBlank c = false) (hlexeme : readLexeme position c (s ++ rest) = .ok (kind, c :: s))
      (h : ReadsAs (position + Text.utf8Size (c :: s)) rest tokens) :
      ReadsAs position (c :: s ++ rest) (⟨kind, c :: s, position⟩ :: tokens)

/-- Whatever the token is, it begins with the character it is read at. -/
theorem exists_append_of_readLexeme {position : Nat} {c : Char} {s text : Text} {kind : TokenKind}
    (h : readLexeme position c s = .ok (kind, text)) :
    ∃ front, text = c :: front ∧ s = front ++ s.drop (text.length - 1) := by
  obtain ⟨⟨rest, hprefix⟩, hne⟩ := readLexeme_isPrefix h
  cases text with
  | nil => contradiction
  | cons d front =>
      obtain ⟨rfl, rfl⟩ := List.cons.inj hprefix
      exact ⟨front, rfl, by simp⟩

/-- A text that is read has its tokens one after another. -/
theorem readsAs_of_readFrom {position : Nat} {s : Text} {tokens : List Token}
    (h : readFrom position s = .ok tokens) : ReadsAs position s tokens := by
  fun_induction readFrom position s generalizing tokens with
  | case1 =>
      cases h
      exact .done
  | case2 position c s hc ih => exact .blank hc (ih h)
  | case3 => contradiction
  | case4 => contradiction
  | case5 position c s hc kind text hlexeme more hmore ih =>
      cases h
      obtain ⟨front, rfl, hs⟩ := exists_append_of_readLexeme hlexeme
      have hrest := ih hmore
      generalize s.drop _ = rest at hs hrest
      subst hs
      exact .token (by simpa using hc) hlexeme hrest

/-- A text that has tokens one after another is read as these. -/
theorem ReadsAs.readFrom_eq {position : Nat} {s : Text} {tokens : List Token}
    (h : ReadsAs position s tokens) : readFrom position s = .ok tokens := by
  induction h with
  | done => exact readFrom_nil _
  | blank hc _ ih => rw [readFrom_blank _ _ hc, ih]
  | token hc hlexeme _ ih => rw [readFrom_lexeme hc hlexeme, ih]; rfl

/-! ## Characters of tokens -/

/-- The characters that tokens hold outside of brackets. -/
def isTokenChar (c : Char) : Bool :=
  isDottedChar c || isOperatorChar c || c == '(' || c == ')' || c == ','

theorem isTokenChar_of_isDottedChar {c : Char} (h : isDottedChar c = true) : isTokenChar c = true := by
  simp [isTokenChar, h]

theorem isTokenChar_of_isWordChar {c : Char} (h : isWordChar c = true) : isTokenChar c = true :=
  isTokenChar_of_isDottedChar (isDottedChar_of_isWordChar h)

theorem isWordChar_of_isDigit {c : Char} (h : c.isDigit = true) : isWordChar c = true := by
  simp [isWordChar, Char.isAlphanum, h]

theorem isTokenChar_of_mem_digits {s : Text} {d : Char} (h : d ∈ s.takeWhile Char.isDigit) :
    isTokenChar d = true :=
  isTokenChar_of_isWordChar (isWordChar_of_isDigit (of_mem_takeWhile h))

theorem isTokenChar_of_mem_fractionPart {s : Text} {d : Char} (h : d ∈ fractionPart s) :
    isTokenChar d = true := by
  unfold fractionPart at h
  split at h
  · cases List.mem_cons.mp h with
    | inl heq => subst heq; decide
    | inr hd => exact isTokenChar_of_mem_digits hd
  · cases h

theorem isTokenChar_of_mem_exponentPart {s : Text} {d : Char} (h : d ∈ exponentPart s) :
    isTokenChar d = true := by
  unfold exponentPart at h
  split at h
  · next c rest =>
      split at h
      · next hc =>
          simp only [List.cons_append, List.mem_cons, List.mem_append] at h
          rcases h with rfl | hsign | hdigits
          · rcases hc with rfl | rfl <;> decide
          · unfold signPart at hsign
            split at hsign
            · rw [List.mem_singleton.mp hsign]; decide
            · rw [List.mem_singleton.mp hsign]; decide
            · cases hsign
          · exact isTokenChar_of_mem_digits hdigits
      · cases h
  · cases h

/-- A number consists of token characters. -/
theorem isTokenChar_of_mem_numberText {s : Text} {d : Char} (h : d ∈ numberText s) :
    isTokenChar d = true := by
  simp only [numberText, List.mem_append] at h
  rcases h with (hwhole | hfraction) | hexponent
  · exact isTokenChar_of_mem_digits hwhole
  · exact isTokenChar_of_mem_fractionPart hfraction
  · exact isTokenChar_of_mem_exponentPart hexponent

/-- Where no bracket opens, a reference has no bracketed clause. -/
theorem bracketPart?_of_notMem {s : Text} (h : '[' ∉ s) : bracketPart? s = some [] := by
  unfold bracketPart?
  split
  · simp at h
  · rfl

/-- A word or a reference without brackets consists of token characters. -/
theorem isTokenChar_of_mem_readWord {position : Nat} {s text : Text} {kind : TokenKind}
    (hs : '[' ∉ s) (h : readWord position s = .ok (kind, text)) {d : Char} (hd : d ∈ text) :
    isTokenChar d = true := by
  obtain ⟨rest, rfl⟩ := readWord_isPrefix h
  cases readWord_cases h with
  | inl hword => exact isTokenChar_of_isWordChar (of_mem_takeWhile (hword.2.word.symm ▸ hd))
  | inr hreference =>
      obtain ⟨lead, tail, clause, hreference⟩ := hreference
      have hclause : clause = [] := by
        have hnone : bracketPart? (clause ++ rest) = some [] := by
          refine bracketPart?_of_notMem fun hmem => hs ?_
          rw [hreference.text_eq, List.append_assoc]
          exact List.mem_append_right _ hmem
        have heq := hreference.clause_eq
        split at heq
        · rw [hnone] at heq
          exact (Option.some.inj heq).symm
        · exact heq
      rw [hreference.text_eq, hclause, List.append_nil] at hd
      exact isTokenChar_of_isDottedChar (hreference.isDotted d hd)

/-- An operator consists of token characters. -/
theorem isTokenChar_of_mem_operatorText {c : Char} {s : Text} (hc : isOperatorChar c = true)
    {d : Char} (hd : d ∈ operatorText (c :: s)) : isTokenChar d = true := by
  have hoperator : ∀ e, isOperatorChar e = true → isTokenChar e = true := fun e he => by
    simp [isTokenChar, he]
  unfold operatorText at hd
  split at hd
  · next c' e rest heq =>
      cases heq
      split at hd
      · next hpair =>
          simp only [List.mem_cons, List.not_mem_nil, or_false] at hd
          rcases hd with rfl | rfl
          · exact hoperator d hc
          · refine hoperator d ?_
            simp only [isOperatorPair, Bool.or_eq_true, Bool.and_eq_true, beq_iff_eq] at hpair
            rcases hpair with ⟨rfl, -⟩ | ⟨rfl, -⟩
            · decide
            · exact hc
      · rw [List.mem_singleton.mp hd]
        exact hoperator c hc
  · next hshort =>
      cases s with
      | nil => rw [List.mem_singleton.mp hd]; exact hoperator c hc
      | cons e rest => exact absurd rfl (hshort c e rest)

/-- Outside of brackets a token holds token characters only. -/
theorem readLexeme_chars {position : Nat} {c : Char} {s text : Text} {kind : TokenKind}
    (hs : '[' ∉ c :: s) (h : readLexeme position c s = .ok (kind, text)) {d : Char} (hd : d ∈ text) :
    isTokenChar d = true := by
  cases lexemeAt_of_readLexeme h with
  | opening hc => rw [List.mem_singleton.mp hd, hc]; decide
  | closing hc => rw [List.mem_singleton.mp hd, hc]; decide
  | comma hc => rw [List.mem_singleton.mp hd, hc]; decide
  | number => exact isTokenChar_of_mem_numberText hd
  | word hstart hread => exact isTokenChar_of_mem_readWord hs hread hd
  | operator hc => exact isTokenChar_of_mem_operatorText hc hd

/-- A text that has tokens and no bracket consists of token characters and blank ones. -/
theorem readFrom_chars {position : Nat} {s : Text} {tokens : List Token} (hs : '[' ∉ s)
    (h : readFrom position s = .ok tokens) {d : Char} (hd : d ∈ s) :
    isBlank d = true ∨ isTokenChar d = true := by
  induction readsAs_of_readFrom h with
  | done => cases hd
  | blank hc hrest ih =>
      cases List.mem_cons.mp hd with
      | inl heq => exact .inl (heq ▸ hc)
      | inr hmem => exact ih (fun hb => hs (List.mem_cons_of_mem _ hb)) hrest.readFrom_eq hmem
  | token hc hlexeme hrest ih =>
      obtain ⟨hlexeme', hrest'⟩ := not_or.mp (mt List.mem_append.mpr hs)
      cases List.mem_append.mp hd with
      | inl htext =>
          exact .inr (readLexeme_chars (by simpa using hs) hlexeme htext)
      | inr hmem => exact ih hrest' hrest.readFrom_eq hmem

/-! ## The end -/

theorem kind_of_referenceKind? {word : Text} {kind : TokenKind} (h : referenceKind? word = some kind) :
    kind ≠ .eof := by
  unfold referenceKind? at h
  grind

/-- No word is the end. -/
theorem kind_of_readWord {position : Nat} {s text : Text} {kind : TokenKind}
    (h : readWord position s = .ok (kind, text)) : kind ≠ .eof := by
  obtain ⟨rest, rfl⟩ := readWord_isPrefix h
  cases readWord_cases h with
  | inl hword => simp [hword.1]
  | inr hreference =>
      obtain ⟨lead, tail, clause, hreference⟩ := hreference
      exact kind_of_referenceKind? hreference.kind_eq

/-- No token that is read at a character is the end. -/
theorem kind_of_readLexeme {position : Nat} {c : Char} {s text : Text} {kind : TokenKind}
    (h : readLexeme position c s = .ok (kind, text)) : kind ≠ .eof := by
  cases lexemeAt_of_readLexeme h with
  | word hstart hread => exact kind_of_readWord hread
  | opening | closing | comma | number | operator => decide

/-- The end stands behind all tokens, and nowhere else. -/
theorem ReadsAs.ending {position : Nat} {s : Text} {tokens : List Token}
    (h : ReadsAs position s tokens) :
    ∃ front, tokens = front ++ [⟨.eof, [], position + Text.utf8Size s⟩] ∧
      ∀ t ∈ front, t.kind ≠ .eof := by
  induction h with
  | done => exact ⟨[], rfl, by simp⟩
  | blank _ _ ih =>
      obtain ⟨front, rfl, hfront⟩ := ih
      exact ⟨front, by rw [Text.utf8Size, Nat.add_assoc], hfront⟩
  | token _ hlexeme _ ih =>
      obtain ⟨front, rfl, hfront⟩ := ih
      refine ⟨_ :: front, by rw [Text.utf8Size_append, Nat.add_assoc]; rfl, ?_⟩
      exact List.forall_mem_cons.mpr ⟨kind_of_readLexeme hlexeme, hfront⟩

/-- The tokens of a text are closed by the end, which is not among those before it. -/
theorem readFrom_ends {position : Nat} {s : Text} {tokens : List Token}
    (h : readFrom position s = .ok tokens) :
    ∃ front last, tokens = front ++ [last] ∧ last.kind = .eof ∧ ∀ t ∈ front, t.kind ≠ .eof := by
  obtain ⟨front, rfl, hfront⟩ := (readsAs_of_readFrom h).ending
  exact ⟨front, _, rfl, rfl, hfront⟩

/-! ## References as single tokens -/

/-- The words that open a reference. -/
def leads : List Text := ["data", "c", "node", "this", "sim"].map String.toList

/-- The words that open references are known. -/
theorem mem_leads_of_referenceKind? {lead : Text} {kind : TokenKind}
    (h : referenceKind? lead = some kind) : lead ∈ leads := by
  unfold referenceKind? at h
  unfold leads
  grind

/-- A word that opens a reference starts with a letter and has word characters only. -/
theorem eq_cons_of_mem_leads {lead : Text} (h : lead ∈ leads) :
    ∃ c word, lead = c :: word ∧ isWordStart c = true ∧ isBlank c = false ∧ c.isDigit = false ∧
      c ∉ ['(', ')', ',', '.'] ∧ ∀ d ∈ lead, isWordChar d = true := by
  have hall : leads.all (fun lead => lead.all isWordChar && lead.head?.any fun c =>
      isWordStart c && !isBlank c && !c.isDigit && !(['(', ')', ',', '.'].contains c)) = true := by
    decide
  have hlead := List.all_eq_true.mp hall lead h
  cases lead with
  | nil => contradiction
  | cons c word =>
      simp only [List.head?_cons, Option.any_some, Bool.and_eq_true, Bool.not_eq_true',
        List.all_eq_true] at hlead
      obtain ⟨hword, ⟨⟨hstart, hblank⟩, hdigit⟩, hcontains⟩ := hlead
      exact ⟨c, word, rfl, hstart, hblank, hdigit, by simpa using hcontains, hword⟩

variable {position : Nat} {kind : TokenKind} {lead tail after : Text}

/-- Reading a reference at its opening word, up to where words and dots end. -/
theorem readWord_dotted (hlead : referenceKind? lead = some kind)
    (htail : ∀ c ∈ tail, isDottedChar c = true) (hafter : StartsOutside isDottedChar after) :
    readWord position (lead ++ '.' :: tail ++ after) =
      if takesBrackets kind then
        match bracketPart? after with
        | some brackets => .ok (kind, lead ++ '.' :: tail ++ brackets)
        | none => .error (.unclosedBracket (position + Text.utf8Size (lead ++ '.' :: tail)))
      else .ok (kind, lead ++ '.' :: tail) := by
  obtain ⟨-, -, -, -, -, -, -, hword⟩ := eq_cons_of_mem_leads (mem_leads_of_referenceKind? hlead)
  have hdot : StartsOutside isWordChar ('.' :: tail ++ after) := by
    intro c hc
    cases hc
    decide
  have hdotted : ∀ c ∈ lead ++ '.' :: tail, isDottedChar c = true := by
    intro c hc
    simp only [List.mem_append, List.mem_cons] at hc
    rcases hc with hc | rfl | hc
    · exact isDottedChar_of_isWordChar (hword c hc)
    · decide
    · exact htail c hc
  have htake : (lead ++ '.' :: tail ++ after).takeWhile isWordChar = lead := by
    rw [List.append_assoc]
    exact takeWhile_append_of_startsOutside hword hdot
  have htake' : (lead ++ '.' :: tail ++ after).takeWhile isDottedChar = lead ++ '.' :: tail :=
    takeWhile_append_of_startsOutside hdotted hafter
  have hdrop : (lead ++ '.' :: tail ++ after).drop lead.length = '.' :: (tail ++ after) := by simp
  unfold readWord
  simp only [htake, htake', hdrop, hlead]
  generalize hrest : (lead ++ '.' :: tail ++ after).drop (lead ++ '.' :: tail).length = rest
  rw [List.drop_left] at hrest
  subst hrest
  rfl

theorem readLexeme_word {c : Char} {word : Text} (hc : isWordStart c = true)
    (hdigit : c.isDigit = false) (hmem : c ∉ ['(', ')', ',', '.']) :
    readLexeme position c word = readWord position (c :: word) := by
  simp only [List.mem_cons, not_or] at hmem
  obtain ⟨h₁, h₂, h₃, h₄, -⟩ := hmem
  have hnumber : startsNumber c word = false := by simp [startsNumber, hdigit, h₄]
  simp [readLexeme, h₁, h₂, h₃, hnumber, hc]

/-- A reference without brackets is one token. -/
theorem readFrom_plain (hlead : referenceKind? lead = some kind)
    (htail : ∀ c ∈ tail, isDottedChar c = true) :
    readFrom position (lead ++ '.' :: tail) =
      .ok [⟨kind, lead ++ '.' :: tail, position⟩,
        ⟨.eof, [], position + Text.utf8Size (lead ++ '.' :: tail)⟩] := by
  have hread : readWord position (lead ++ '.' :: tail ++ []) = _ :=
    readWord_dotted hlead htail startsOutside_nil
  obtain ⟨c, word, rfl, hstart, hblank, hdigit, hmem, -⟩ :=
    eq_cons_of_mem_leads (mem_leads_of_referenceKind? hlead)
  have hlexeme : readLexeme position c ((word ++ '.' :: tail) ++ []) =
      .ok (kind, c :: (word ++ '.' :: tail)) := by
    rw [readLexeme_word hstart hdigit hmem]
    simpa [bracketPart?] using hread
  have h := readFrom_lexeme hblank hlexeme
  rw [readFrom_nil] at h
  simpa [Except.map] using h

/-- A reference to data, to a node or to `this` takes the clause in brackets right behind it, up to
the first bracket that closes. -/
theorem readFrom_bracketed {clause rest : Text} (hlead : referenceKind? lead = some kind)
    (hkind : takesBrackets kind = true) (htail : ∀ c ∈ tail, isDottedChar c = true)
    (hclause : ']' ∉ clause) :
    readFrom position (lead ++ '.' :: tail ++ '[' :: clause ++ ']' :: rest) =
      (readFrom (position + Text.utf8Size (lead ++ '.' :: tail ++ '[' :: clause ++ [']'])) rest).map
        (⟨kind, lead ++ '.' :: tail ++ '[' :: clause ++ [']'], position⟩ :: ·) := by
  have hafter : StartsOutside isDottedChar ('[' :: clause ++ ']' :: rest) := by
    intro c hc
    cases hc
    decide
  have hbrackets : bracketPart? ('[' :: clause ++ ']' :: rest) = some ('[' :: clause ++ [']']) := by
    have hcut : Text.cut? ']' (clause ++ ']' :: rest) = some (clause, rest) :=
      Text.cut?_eq_some_iff.mpr ⟨rfl, hclause⟩
    simp [bracketPart?, hcut]
  have hread : readWord position (lead ++ '.' :: tail ++ ('[' :: clause ++ ']' :: rest)) = _ :=
    readWord_dotted hlead htail hafter
  rw [if_pos hkind, hbrackets] at hread
  obtain ⟨c, word, rfl, hstart, hblank, hdigit, hmem, -⟩ :=
    eq_cons_of_mem_leads (mem_leads_of_referenceKind? hlead)
  have hlexeme : readLexeme position c ((word ++ '.' :: tail ++ '[' :: clause ++ [']']) ++ rest) =
      .ok (kind, c :: (word ++ '.' :: tail ++ '[' :: clause ++ [']'])) := by
    rw [readLexeme_word hstart hdigit hmem]
    simpa using hread
  simpa using readFrom_lexeme hblank hlexeme

end CatchmentLint.Token
