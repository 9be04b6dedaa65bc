import CatchmentLint.Proofs.Expression.Boundary

/-!
# CatchmentLint.Proofs.Expression.Partition

Tokens part a text: they stand in it one behind the other, and between them stand blank characters
only.

* `FailsWith` — a text that is read up to an error, token by token;
* `IsPartition` — what tokens with these byte positions are of a text;
* `readAll_partition` — the tokens of a text part it, and the text before a character that starts no
  token has tokens.
-/

namespace CatchmentLint.Token

/-! ## Readings that fail -/

/-- A text that `position` bytes stand before ends in an error. -/
inductive FailsWith (e : LexError) : (position : Nat) → Text → Prop
  | here {position : Nat} {c : Char} {s : Text} (hc : isBlank c = false)
      (hlexeme : readLexeme position c s = .error e) : FailsWith e position (c :: s)
  | blank {position : Nat} {c : Char} {s : Text} (hc : isBlank c = true)
      (h : FailsWith e (position + c.utf8Size) s) : FailsWith e position (c :: s)
  | token {position : Nat} {kind : TokenKind} {c : Char} {s rest : Text} (hc : isBlank c = false)
      (hlexeme : readLexeme position c (s ++ rest) = .ok (kind, c :: s))
      (h : FailsWith e (position + Text.utf8Size (c :: s)) rest) :
      FailsWith e position (c :: s ++ rest)

/-- A text that cannot be read has tokens up to the character that begins none. -/
theorem failsWith_of_readFrom {position : Nat} {s : Text} {e : LexError}
    (h : readFrom position s = .error e) : FailsWith e position s := by
  fun_induction readFrom position s with
  | case1 => contradiction
  | case2 position c s hc ih => exact .blank hc (ih h)
  | case3 position c s hc e' hlexeme =>
      cases h
      exact .here (by simpa using hc) hlexeme
  | case4 position c s hc kind text hlexeme e' hrest ih =>
      cases h
      obtain ⟨front, rfl, hs⟩ := exists_append_of_readLexeme hlexeme
      have hfails := ih hrest
      generalize s.drop _ = rest at hs hfails
      subst hs
      exact .token (by simpa using hc) hlexeme hfails
  | case5 => contradiction

/-! ## Partitions -/

/-- The position right behind a token. -/
def stop (t : Token) : Nat := t.position + Text.utf8Size t.text

/-- Tokens that part a text, which `position` bytes stand before. -/
structure IsPartition (position : Nat) (s : Text) (tokens : List Token) : Prop where
  ascending : tokens.Pairwise fun t u => t.position < u.position ∧ t.stop ≤ u.position
  slices : ∀ t ∈ tokens, t.kind ≠ .eof → t.text ≠ [] ∧
    ∃ before after, s = before ++ t.text ++ after ∧ position + Text.utf8Size before = t.position
  /-- A byte that belongs to no token belongs to a blank character. -/
  blanks : ∀ before c after byte, s = before ++ c :: after →
    position + Text.utf8Size before ≤ byte → byte < position + Text.utf8Size before + c.utf8Size →
      (∀ t ∈ tokens, ¬(t.position ≤ byte ∧ byte < t.stop)) → isBlank c = true
  ending : ∃ front, tokens = front ++ [⟨.eof, [], position + Text.utf8Size s⟩] ∧
    ∀ t ∈ front, t.kind ≠ .eof

section ReadsAs

variable {position : Nat} {s : Text} {tokens : List Token}

/-- No token stands before the start of the text. -/
theorem ReadsAs.position_le (h : ReadsAs position s tokens) : ∀ t ∈ tokens, position ≤ t.position := by
  induction h with
  | done => simp
  | blank _ _ ih =>
      intro t ht
      have hle := ih t ht
      omega
  | token _ _ _ ih =>
      intro t ht
      cases List.mem_cons.mp ht with
      | inl heq => simp [heq]
      | inr hmem =>
          have hle := ih t hmem
          omega

/-- Tokens stand one behind the other, none in another. -/
theorem ReadsAs.ascending (h : ReadsAs position s tokens) :
    tokens.Pairwise fun t u => t.position < u.position ∧ t.stop ≤ u.position := by
  induction h with
  | done => simp
  | blank _ _ ih => exact ih
  | @token position kind c s rest tokens _ _ h ih =>
      refine List.pairwise_cons.mpr ⟨fun u hu => ?_, ih⟩
      have hle := h.position_le u hu
      have hpos := c.utf8Size_pos
      rw [Text.utf8Size] at hle
      simp only [stop, Text.utf8Size]
      omega

/-- Every token but the end is a part of the text at its position. -/
theorem ReadsAs.slices (h : ReadsAs position s tokens) : ∀ t ∈ tokens, t.kind ≠ .eof → t.text ≠ [] ∧
    ∃ before after, s = before ++ t.text ++ after ∧ position + Text.utf8Size before = t.position := by
  induction h with
  | done => simp
  | @blank position c s tokens _ _ ih =>
      intro t ht hkind
      obtain ⟨hne, before, after, rfl, hposition⟩ := ih t ht hkind
      exact ⟨hne, c :: before, after, rfl, by simp only [Text.utf8Size]; omega⟩
  | @token position kind c s rest tokens _ _ _ ih =>
      intro t ht hkind
      cases List.mem_cons.mp ht with
      | inl heq =>
          subst heq
          exact ⟨List.cons_ne_nil c s, [], rest, rfl, rfl⟩
      | inr hmem =>
          obtain ⟨hne, before, after, rfl, hposition⟩ := ih t hmem hkind
          exact ⟨hne, c :: s ++ before, after, by simp, by rw [Text.utf8Size_append]; omega⟩

/-- What is in no token is blank. -/
theorem ReadsAs.blanks (h : ReadsAs position s tokens) : ∀ before c after byte,
    s = before ++ c :: after → position + Text.utf8Size before ≤ byte →
      byte < position + Text.utf8Size before + c.utf8Size →
        (∀ t ∈ tokens, ¬(t.position ≤ byte ∧ byte < t.stop)) → isBlank c = true := by
  induction h with
  | done => intro before c after byte hs; simp at hs
  | @blank position d s tokens hd _ ih =>
      intro before c after byte hs hle hlt houtside
      cases before with
      | nil => exact (List.cons.inj hs).1 ▸ hd
      | cons e before =>
          obtain ⟨rfl, rfl⟩ := List.cons.inj hs
          simp only [Text.utf8Size] at hle hlt
          exact ih before c after byte rfl (by omega) (by omega) houtside
  | @token position kind d s rest tokens _ _ _ ih =>
      intro before c after byte hs hle hlt houtside
      obtain ⟨hhere, hbehind⟩ := List.forall_mem_cons.mp houtside
      rcases List.append_eq_append_iff.mp hs with ⟨more, rfl, rfl⟩ | ⟨more, hmore, hrest⟩
      · rw [Text.utf8Size_append] at hle hlt
        exact ih more c after byte rfl (by omega) (by omega) hbehind
      · cases more with
        | nil =>
            rw [List.append_nil] at hmore
            rw [← hmore] at hle hlt
            exact ih [] c after byte hrest.symm hle hlt hbehind
        | cons e more =>
            -- The character stands in the token, which has its bytes.
            obtain ⟨rfl, -⟩ := List.cons.inj hrest
            have hsize : Text.utf8Size (d :: s) =
                Text.utf8Size before + (c.utf8Size + Text.utf8Size more) := by
              rw [hmore, Text.utf8Size_append, Text.utf8Size]
            exact absurd ⟨show position ≤ byte by omega,
              show byte < position + Text.utf8Size (d :: s) by omega⟩ hhere

/-- Tokens that are read one after another part the text. -/
theorem ReadsAs.isPartition (h : ReadsAs position s tokens) : IsPartition position s tokens :=
  ⟨h.ascending, h.slices, h.blanks, h.ending⟩

end ReadsAs

/-! ## Errors -/

theorem readWord_ne_unexpectedCharacter {position p : Nat} {s : Text} {c : Char} :
    readWord position s ≠ .error (.unexpectedCharacter p c) := by
  unfold readWord
  simp only
  split
  · split
    · split <;> simp
    · simp
  · simp

/-- A character is unexpected where it stands. -/
theorem readLexeme_eq_unexpectedCharacter {position p : Nat} {c d : Char} {s : Text}
    (h : readLexeme position c s = .error (.unexpectedCharacter p d)) : p = position ∧ d = c := by
  unfold readLexeme at h
  split at h
  · contradiction
  split at h
  · contradiction
  split at h
  · contradiction
  split at h
  · simp only at h
    split at h <;> simp at h
  split at h
  · exact absurd h readWord_ne_unexpectedCharacter
  split at h
  · contradiction
  · cases h
    exact ⟨rfl, rfl⟩

/-- What stands before an unexpected character has tokens: those before it end as they do, since it
goes on with none of them. -/
theorem FailsWith.readsAs_before {position p : Nat} {s : Text} {c : Char}
    (h : FailsWith (.unexpectedCharacter p c) position s) :
    ∃ before after tokens, s = before ++ c :: after ∧ position + Text.utf8Size before = p ∧
      ReadsAs position before tokens := by
  induction h with
  | @here position d s _ hlexeme =>
      obtain ⟨rfl, rfl⟩ := readLexeme_eq_unexpectedCharacter hlexeme
      exact ⟨[], s, _, rfl, rfl, .done⟩
  | @blank position d s hd _ ih =>
      obtain ⟨before, after, tokens, rfl, hp, hreads⟩ := ih
      exact ⟨d :: before, after, tokens, rfl, by simp only [Text.utf8Size]; omega, .blank hd hreads⟩
  | @token position kind d s rest hd hlexeme _ ih =>
      obtain ⟨before, after, tokens, rfl, hp, hreads⟩ := ih
      have hlexeme' : readLexeme position d (s ++ before) = .ok (kind, d :: s) :=
        readLexeme_of_endsAs hlexeme (endsAs_of_isPrefix (List.prefix_append before _))
      exact ⟨d :: s ++ before, after, _, by simp, by rw [Text.utf8Size_append]; omega,
        .token hd hlexeme' hreads⟩

/-- The tokens of a text part it; and where a text has none since a character is unexpected, that
stands at the position that is told, and the text before it has tokens. -/
theorem readAll_partition (s : Text) :
    (∀ tokens, readAll s = .ok tokens → IsPartition 0 s tokens) ∧
      ∀ position c, readAll s = .error (.unexpectedCharacter position c) →
        ∃ before after tokens, s = before ++ c :: after ∧ Text.utf8Size before = position ∧
          readAll before = .ok tokens := by
  refine ⟨fun tokens h => (readsAs_of_readFrom h).isPartition, fun position c h => ?_⟩
  obtain ⟨before, after, tokens, hs, hposition, hreads⟩ := (failsWith_of_readFrom h).readsAs_before
  exact ⟨before, after, tokens, hs, by omega, hreads.readFrom_eq⟩

/-- A text whose characters take more than one byte. -/
theorem readAll_partition_wide :
    let tokens : List Token := [⟨.dataRef, "data.x[é ]".toList, 0⟩, ⟨.operator, ">=".toList, 13⟩,
      ⟨.number, ".5".toList, 15⟩, ⟨.eof, [], 17⟩]
    IsPartition 0 "data.x[é ]\u00a0>=.5".toList tokens ∧
      ∃ before after tokens, "data.x[é]§.5".toList = before ++ '§' :: after ∧
        Text.utf8Size before = 10 ∧ readAll before = .ok tokens := by
  intro tokens
  have hread : readAll "data.x[é ]\u00a0>=.5".toList = .ok tokens := by decide +kernel
  have herror : readAll "data.x[é]§.5".toList = .error (.unexpectedCharacter 10 '§') := by decide +kernel
  exact ⟨(readAll_partition _).1 tokens hread, (readAll_partition _).2 10 '§' herror⟩

end CatchmentLint.Token
