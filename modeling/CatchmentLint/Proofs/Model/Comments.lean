import CatchmentLint.Model.Index
import CatchmentLint.Proofs.Lint.Session
import CatchmentLint.Proofs.Model.CommentScan
import CatchmentLint.Proofs.Model.Joining

/-!
# CatchmentLint.Proofs.Model.Comments

Comments at the ends of lines mean nothing.

* `Line.gist` — all that the reader uses of a line is whether it continues a statement and what it
  says without its comment, and `ofLines_congr` — so lines of the same gist make the same statements;
* `gist_append_comment` — a comment that starts where no quote is open keeps the gist;
* `gist_append_return` — so does a carriage return at the end;
* `ofLines_lines_join` — the lines of a file are those that it is put together from, for the reader;
* `read_remarked` — comments at the ends of any lines of a file change neither its model nor what is
  found in it.
-/

namespace CatchmentLint

namespace Line

/-! ## What the reader uses of a line -/

/-- Whether the line continues a statement, and what it says without its comment. -/
def gist (raw : Text) : Bool × Text := (isContinuation raw, continuationText raw)

/-- Lines of the same gist say the same. -/
theorem read_eq_of_gist_eq {raw raw' : Text} (h : gist raw = gist raw') : read raw = read raw' := by
  have hsaid : Text.trim (stripComment raw) = Text.trim (stripComment raw') := congrArg Prod.snd h
  rw [read, read, classify, classify, hsaid]

/-- The class of a line that goes on is that of its start, if it says the same. -/
theorem gist_append {raw more : Text}
    (hsaid : continuationText (raw ++ more) = continuationText raw)
    (hmore : StartsOutside (fun c => c == ' ' || c == '\t') more) : gist (raw ++ more) = gist raw := by
  have hcontinues : isContinuation (raw ++ more) = isContinuation raw := by
    cases raw with
    | nil =>
        cases more with
        | nil => rfl
        | cons c more =>
            have hc : (c == ' ' || c == '\t') = false := hmore c rfl
            simp [isContinuation, hc]
    | cons c raw =>
        simp only [continuationText, List.cons_append] at hsaid
        simp only [isContinuation, List.cons_append, hsaid]
  rw [gist, gist, hcontinues, hsaid]

/-! ## Comments -/

/-- A comment can start at the end of the line: no double quote is open there, and no backslash
stands right before it. -/
def TakesComment (raw : Text) : Prop := (stripComment raw).foldl Scan.step .start = .start

instance (raw : Text) : Decidable (TakesComment raw) :=
  inferInstanceAs (Decidable ((stripComment raw).foldl Scan.step .start = .start))

example : TakesComment "a = \"b\" ; \"c".toList ∧ ¬TakesComment "a = \"b".toList := by decide

/-- The text starts with one of the two signs of a comment. -/
def IsComment (remark : Text) : Prop := ∃ text, remark = ';' :: text ∨ remark = '#' :: text

/-- A comment is stripped from a line that takes one. -/
theorem stripComment_append_comment {raw remark : Text} (hraw : TakesComment raw)
    (hremark : IsComment remark) : stripComment (raw ++ remark) = stripComment raw := by
  by_cases hwhole : stripComment raw = raw
  · have hscan : raw.foldl Scan.step .start = .start := by rwa [TakesComment, hwhole] at hraw
    have hcut : stripFrom .start remark = [] := by
      obtain ⟨text, rfl | rfl⟩ := hremark <;> rfl
    rw [stripComment, stripFrom_append, ← stripComment, if_pos hwhole, hscan, hcut, hwhole,
      List.append_nil]
  · rw [stripComment, stripFrom_append, ← stripComment, if_neg hwhole]

/-- A comment at the end of such a line keeps its gist. -/
theorem gist_append_comment {raw remark : Text} (hraw : TakesComment raw)
    (hremark : IsComment remark) : gist (raw ++ remark) = gist raw := by
  have hsaid : continuationText (raw ++ remark) = continuationText raw :=
    congrArg Text.trim (stripComment_append_comment hraw hremark)
  refine gist_append hsaid fun c hc => ?_
  obtain ⟨text, rfl | rfl⟩ := hremark <;> cases hc <;> decide

/-- A carriage return is blank and starts no comment. -/
theorem gist_append_return (raw : Text) : gist (raw ++ ['\r']) = gist raw := by
  refine gist_append ?_ (by decide)
  have hblank : ∀ c ∈ ['\r'], isBlank c = true := List.forall_mem_singleton.mpr (by decide)
  have hkept : ∀ scan, stripFrom scan ['\r'] = ['\r'] := fun scan => by
    simp [stripFrom, Scan.opensComment]
  rw [continuationText, continuationText, stripComment, stripFrom_append, ← stripComment, hkept]
  split
  · next hwhole => rw [Text.trim_append_blank hblank, hwhole]
  · rfl

end Line

/-! ## Lines of the same gist -/

namespace Statement

/-- What is left behind lines that go on has the same gists. -/
theorem map_gist_dropWhile {ls ls' : List Text} (h : ls.map Line.gist = ls'.map Line.gist) :
    (ls.dropWhile Line.isContinuation).map Line.gist =
      (ls'.dropWhile Line.isContinuation).map Line.gist := by
  have hdrop : ∀ ls : List Text, (ls.dropWhile Line.isContinuation).map Line.gist =
      (ls.map Line.gist).dropWhile Prod.fst := fun ls =>
    (List.dropWhile_map (f := Line.gist) (p := Prod.fst)).symm
  rw [hdrop, hdrop, h]

/-- Lines that go on have the same gists. -/
theorem map_gist_takeWhile {ls ls' : List Text} (h : ls.map Line.gist = ls'.map Line.gist) :
    (ls.takeWhile Line.isContinuation).map Line.gist =
      (ls'.takeWhile Line.isContinuation).map Line.gist := by
  have htake : ∀ ls : List Text, (ls.takeWhile Line.isContinuation).map Line.gist =
      (ls.map Line.gist).takeWhile Prod.fst := fun ls =>
    (List.takeWhile_map (f := Line.gist) (p := Prod.fst)).symm
  rw [htake, htake, h]

/-- As many lines go on where the gists are the same. -/
theorem length_takeWhile_congr {ls ls' : List Text} (h : ls.map Line.gist = ls'.map Line.gist) :
    (ls.takeWhile Line.isContinuation).length = (ls'.takeWhile Line.isContinuation).length := by
  simpa using congrArg List.length (map_gist_takeWhile h)

/-- What continues a statement adds the same text to it. -/
theorem fullText_takeWhile_congr (text : Text) {ls ls' : List Text}
    (h : ls.map Line.gist = ls'.map Line.gist) :
    fullText text (ls.takeWhile Line.isContinuation) =
      fullText text (ls'.takeWhile Line.isContinuation) := by
  have htexts : ∀ ls : List Text, ls.map Line.continuationText = (ls.map Line.gist).map Prod.snd :=
    fun ls => by rw [List.map_map]; rfl
  rw [fullText, fullText, htexts, htexts, map_gist_takeWhile h]

/-- The first lines of files of the same gists say the same. -/
theorem exists_of_map_gist_eq_cons {raw : Text} {rest ls' : List Text}
    (h : (raw :: rest).map Line.gist = ls'.map Line.gist) :
    ∃ raw' rest', ls' = raw' :: rest' ∧ Line.read raw' = Line.read raw ∧
      rest.map Line.gist = rest'.map Line.gist := by
  cases ls' with
  | nil => contradiction
  | cons raw' rest' =>
      obtain ⟨hraw, hrest⟩ := List.cons.inj h
      exact ⟨raw', rest', rfl, Line.read_eq_of_gist_eq hraw.symm, hrest⟩

/-- Lines of the same gist make the same statements. -/
theorem ofLines_congr (current : Option Text) (read : Nat) {ls ls' : List Text}
    (h : ls.map Line.gist = ls'.map Line.gist) :
    ofLines current read ls = ofLines current read ls' := by
  revert ls'
  -- Where a statement goes on, as many lines continue it, and they add the same text.
  fun_induction ofLines current read ls with
  | case1 current read =>
      intro ls' h
      rw [List.map_eq_nil_iff.mp h.symm, ofLines]
  | case2 current read raw rest hsaid ih =>
      intro ls' h
      obtain ⟨raw', rest', rfl, hread, hrest⟩ := exists_of_map_gist_eq_cons h
      rw [ofLines, hread, hsaid, ih hrest]
  | case3 current read raw rest name hsaid ih =>
      intro ls' h
      obtain ⟨raw', rest', rfl, hread, hrest⟩ := exists_of_map_gist_eq_cons h
      rw [ofLines, hread, hsaid, ih hrest]
  | case4 read raw rest key value hsaid ih =>
      intro ls' h
      obtain ⟨raw', rest', rfl, hread, hrest⟩ := exists_of_map_gist_eq_cons h
      rw [ofLines, hread, hsaid, ih hrest]
  | case5 read raw rest continuations last key value hsaid name =>
      rename_i ih
      intro ls' h
      obtain ⟨raw', rest', rfl, hread, hrest⟩ := exists_of_map_gist_eq_cons h
      rw [ofLines, hread, hsaid, ih (map_gist_dropWhile hrest)]
      simp only [last, continuations, length_takeWhile_congr hrest,
        fullText_takeWhile_congr value hrest]
  | case6 current read raw rest text hsaid hlist ih =>
      intro ls' h
      obtain ⟨raw', rest', rfl, hread, hrest⟩ := exists_of_map_gist_eq_cons h
      simp only [ofLines, hread, hsaid, hlist, ih hrest]
  | case7 current read raw rest continuations last text hsaid list hlist =>
      rename_i ih
      intro ls' h
      obtain ⟨raw', rest', rfl, hread, hrest⟩ := exists_of_map_gist_eq_cons h
      rw [ofLines, hread, hsaid, ih (map_gist_dropWhile hrest)]
      simp only [last, continuations, hlist, length_takeWhile_congr hrest,
        fullText_takeWhile_congr text hrest]

/-! ## The lines of a file -/

/-- An empty line at the end says nothing. -/
theorem ofLines_append_nil (current : Option Text) (read : Nat) (ls : List Text) :
    ofLines current read (ls ++ [[]]) = ofLines current read ls := by
  obtain ⟨current', happend⟩ := exists_ofLines_append current read ls
  have hnil : ofLines current' (read + ls.length) [[]] = [] := by
    simp [ofLines, Line.read, Line.stripComment, Line.stripFrom, Line.classify]
  rw [happend [[]] (by decide), hnil, List.append_nil]

/-- The lines of a file are those that it is put together from, but for an empty one at the end. -/
theorem map_gist_lines_join {ls : List Text} (h : ∀ raw ∈ ls, '\n' ∉ raw) :
    (Text.lines (Text.join ['\n'] ls)).map Line.gist = ls.map Line.gist ∨
      (Text.lines (Text.join ['\n'] ls) ++ [[]]).map Line.gist = ls.map Line.gist := by
  fun_induction Text.join ['\n'] ls with
  | case1 => exact .inl rfl
  | case2 raw =>
      cases raw with
      | nil => exact .inr rfl
      | cons c raw =>
          have hraw := h (c :: raw) List.mem_cons_self
          exact .inl (by rw [Text.lines_of_notMem hraw (List.cons_ne_nil c raw)])
  | case3 raw rest hrest ih =>
      obtain ⟨hraw, hothers⟩ := List.forall_mem_cons.mp h
      obtain ⟨shown, hshown, hlines⟩ :=
        Text.exists_lines_append_feed hraw (Text.join ['\n'] rest)
      have hgist : Line.gist shown = Line.gist raw := by
        cases hshown with
        | inl heq => rw [heq]
        | inr hreturn => rw [hreturn, Line.gist_append_return]
      have hjoin : raw ++ ['\n'] ++ Text.join ['\n'] rest = raw ++ '\n' :: Text.join ['\n'] rest := by
        simp
      simpa only [hjoin, hlines, List.cons_append, List.map_cons, hgist, List.cons.injEq, true_and]
        using ih hothers

/-- Lines that are joined by line feeds are read as these, an empty one at the end making no
statement. -/
theorem ofLines_lines_join {ls : List Text} (h : ∀ raw ∈ ls, '\n' ∉ raw) :
    ofLines none 0 (Text.lines (Text.join ['\n'] ls)) = ofLines none 0 ls := by
  cases map_gist_lines_join h with
  | inl hsame => exact ofLines_congr none 0 hsame
  | inr hlast => rw [← ofLines_append_nil, ofLines_congr none 0 hlast]

end Statement

/-! ## Comments at the ends of lines -/

/-- A line of a file, and a comment that is put at its end, in front of a carriage return that may
stand there. -/
structure RemarkedLine where
  raw : Text
  remark : Text
  ending : Text
  raw_unbroken : '\n' ∉ raw
  remark_unbroken : '\n' ∉ remark
  ending_eq : ending = [] ∨ ending = ['\r']
  remark_eq : remark = [] ∨ Line.TakesComment raw ∧ Line.IsComment remark

namespace RemarkedLine

/-- The line without the comment. -/
def plain (line : RemarkedLine) : Text := line.raw ++ line.ending

/-- The line as it stands in the file with remarks. -/
def remarked (line : RemarkedLine) : Text := line.raw ++ line.remark ++ line.ending

variable (line : RemarkedLine)

theorem ending_unbroken : '\n' ∉ line.ending := by
  cases line.ending_eq with
  | inl hnil => simp [hnil]
  | inr hreturn => simp [hreturn]

theorem plain_unbroken : '\n' ∉ line.plain := by
  simp [plain, line.raw_unbroken, line.ending_unbroken]

/-- No part of such a line has a line feed. -/
theorem remarked_unbroken : '\n' ∉ line.remarked := by
  simp [remarked, line.raw_unbroken, line.remark_unbroken, line.ending_unbroken]

/-- An ending keeps the gist of a line. -/
theorem gist_append_ending (s : Text) : Line.gist (s ++ line.ending) = Line.gist s := by
  cases line.ending_eq with
  | inl hnil => rw [hnil, List.append_nil]
  | inr hreturn => rw [hreturn, Line.gist_append_return]

/-- A remark keeps the gist of a line. -/
theorem gist_remarked : Line.gist line.remarked = Line.gist line.plain := by
  rw [remarked, plain, gist_append_ending, gist_append_ending]
  cases line.remark_eq with
  | inl hnone => rw [hnone, List.append_nil]
  | inr hcomment => exact Line.gist_append_comment hcomment.1 hcomment.2

/-- A file with remarks makes the statements of the file without. -/
theorem ofLines_remarked (document : List RemarkedLine) :
    Statement.ofLines none 0 (Text.lines (Text.join ['\n'] (document.map remarked))) =
      Statement.ofLines none 0 (Text.lines (Text.join ['\n'] (document.map plain))) := by
  have hgist : (document.map remarked).map Line.gist = (document.map plain).map Line.gist := by
    simp [gist_remarked]
  rw [Statement.ofLines_lines_join (by simpa using fun line _ => line.remarked_unbroken),
    Statement.ofLines_lines_join (by simpa using fun line _ => line.plain_unbroken),
    Statement.ofLines_congr none 0 hgist]

end RemarkedLine

/-- Comments that are put at the ends of lines where they can start, empty lines included, change
nothing: the model stays, with its tables, and so does what is found in the file, by a linter that
keeps no documents, and without a directory by every linter. -/
theorem Model.read_remarked (document : List RemarkedLine) :
    let plain := Text.join ['\n'] (document.map (·.plain))
    let remarked := Text.join ['\n'] (document.map (·.remarked))
    Model.read remarked = Model.read plain ∧
      IndexedModel.read remarked = IndexedModel.read plain ∧
      (∀ (l : Linter) around base?, l.documents.entries = [] →
        (l.validate around remarked base?).1 = (l.validate around plain base?).1) ∧
      ∀ schema capacity lifetime expressions history around,
        let l := (Linter.withCaches schema capacity lifetime expressions).after history
        (l.validate around remarked none).1 = (l.validate around plain none).1 := by
  intro plain remarked
  have hstatements : Statement.ofLines none 0 (Text.lines remarked) =
      Statement.ofLines none 0 (Text.lines plain) := RemarkedLine.ofLines_remarked document
  have hread : Model.read remarked = Model.read plain := congrArg Model.ofStatements hstatements
  refine ⟨hread, ?_, fun l around base? hempty => ?_, ?_⟩
  · rw [IndexedModel.read, hstatements, ← IndexedModel.read]
  · cases henabled : l.enabled with
    | false => rw [Linter.validate_of_disabled henabled, Linter.validate_of_disabled henabled]
    | true =>
        rw [Linter.validate_of_entries_eq_nil henabled hempty,
          Linter.validate_of_entries_eq_nil henabled hempty, hread]
  · intro schema capacity lifetime expressions history around l
    have hgood : Linter.KeepsGood (Linter.IsFaithful schema) schema l :=
      Linter.keepsGood_after (Linter.isFaithful_anew schema) capacity lifetime expressions history
    cases henabled : l.enabled with
    | false => rw [Linter.validate_of_disabled henabled, Linter.validate_of_disabled henabled]
    | true =>
        rw [hgood.validate_alone henabled, hgood.validate_alone henabled, hread]

/-- Comments behind a header, on a line that was empty, in front of a carriage return and behind a
line that continues another. -/
theorem Model.read_remarked_everywhere :
    Model.read "[node.a]; first\n# lag\nparams = 1,#;\r\n\t2;".toList =
      Model.read "[node.a]\n\nparams = 1,\r\n\t2".toList := by
  have hsemicolon : ∀ text : Text, Line.IsComment (';' :: text) := fun text => ⟨text, .inl rfl⟩
  have hhash : ∀ text : Text, Line.IsComment ('#' :: text) := fun text => ⟨text, .inr rfl⟩
  exact (Model.read_remarked
    [⟨"[node.a]".toList, "; first".toList, [], by decide, by decide, .inl rfl,
        .inr ⟨by decide, hsemicolon _⟩⟩,
      ⟨[], "# lag".toList, [], by decide, by decide, .inl rfl, .inr ⟨by decide, hhash _⟩⟩,
      ⟨"params = 1,".toList, "#;".toList, ['\r'], by decide, by decide, .inr rfl,
        .inr ⟨by decide, hhash _⟩⟩,
      ⟨"\t2".toList, ";".toList, [], by decide, by decide, .inl rfl,
        .inr ⟨by decide, hsemicolon _⟩⟩]).1

end CatchmentLint
