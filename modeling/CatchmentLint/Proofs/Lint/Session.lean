import CatchmentLint.Proofs.Lint.Checks
import CatchmentLint.Proofs.Lint.Memory

/-!
# CatchmentLint.Proofs.Lint.Session

What one linter finds after a history of requests.

* `Follows` — what a request keeps of a linter, and where what is new in it comes from;
* `KeepsGood` — what is kept of documents is as all that is found anew, whatever has been asked;
* `validate_after` — so a document without a directory is found to be as a new linter finds it;
* `Settled` — what a linter is told of a path is what the disk says of it, and
  `validate_after_clear` — after clearing, every document is found to be as a new linter finds it,
  but for those of its files that are not settled;
* `validate_after_clear_stale` — and a file that has just come is not.
-/

namespace CatchmentLint

/-! ## What the document cache gives back -/

namespace Lint.DocumentCache

variable {c : DocumentCache} {now : Moment} {key : DocumentKey} {issues : List Issue}

/-- What a lookup returns was kept for the document that is asked for. -/
theorem exists_of_get_eq_some (h : (c.get now key).1 = some issues) :
    ∃ d ∈ c.entries, d.key = key ∧ d.issues = issues := by
  unfold get at h
  split at h
  · next d hd =>
      split at h
      · have hkey : d.key = key := by simpa using List.find?_some hd
        exact ⟨d, List.mem_of_find?_eq_some hd, hkey, Option.some.inj h⟩
      · contradiction
  · contradiction

/-- A lookup adds no entry. -/
theorem mem_of_mem_entries_get {d : CachedDocument} (h : d ∈ (c.get now key).2.entries) :
    d ∈ c.entries := by
  unfold get at h
  split at h
  · split at h
    · exact h
    · exact (List.mem_filter.mp h).1
  · exact h

theorem mem_of_mem_kept {d : CachedDocument} (h : d ∈ c.kept now key) : d ∈ c.entries := by
  unfold kept at h
  simp only at h
  split at h
  · exact (List.mem_filter.mp h).1
  · split at h
    · exact (List.mem_filter.mp (List.mem_of_mem_drop h)).1
    · exact (List.mem_filter.mp h).1

/-- After an insertion there are entries from before, and the new one. -/
theorem mem_entries_insert {d : CachedDocument} (h : d ∈ (c.insert now key issues).entries) :
    d ∈ c.entries ∨ d = ⟨key, issues, now⟩ := by
  unfold insert at h
  split at h
  · exact .inl h
  · refine (List.mem_append.mp h).imp (fun hkept => ?_) List.mem_singleton.mp
    exact mem_of_mem_kept (List.mem_filter.mp hkept).1

end Lint.DocumentCache

namespace Linter

open Lint

/-! ## Requests -/

inductive Request where
  | validate (content : Text) (base? : Option Text)
  | validateModel (m : Model) (base? : Option Text)
  | setEnabled (on : Bool)
  | clear
  | checkExpression (context : Context) (expression : Text)

/-- A request, and what the linter sees around it meanwhile. -/
structure Step where
  around : Surroundings
  request : Request

/-- The paths of the files that a request is about. -/
def Request.lookups (schema : Schema) : Request → List Text
  | .validate content base? => lookedFor schema base? (Model.read content)
  | .validateModel m base? => lookedFor schema base? m
  | _ => []

def serve (l : Linter) (step : Step) : Linter :=
  match step.request with
  | .validate content base? => (l.validate step.around content base?).2
  | .validateModel m base? => (l.validateModel step.around m base?).2
  | .setEnabled on => { l with enabled := on }
  | .clear => l.clear
  | .checkExpression context expression => (l.checkExpression context expression).2

/-- The linter after a sequence of requests. -/
def after (history : List Step) (l : Linter) : Linter := history.foldl serve l

/-- A new linter with a document cache of its own limits, which uses an expression cache that may
have been used before. -/
def withCaches (schema : Schema) (capacity lifetime : Nat) (expressions : Expression.Cache) :
    Linter :=
  { Linter.fresh schema with documents := .fresh capacity lifetime, expressions := expressions }

/-! ## One validation -/

section Validate

variable {around : Surroundings} {content : Text} {base? : Option Text} {l : Linter}

/-- A linter that is switched off tells nothing and stays as it is. -/
theorem validate_of_disabled (h : l.enabled = false) :
    l.validate around content base? = ([], l) := by simp [validate, h]

/-- A document that is found in the cache gets the issues kept for it, and only the cache changes.
-/
theorem validate_of_hit {issues : List Issue} (h : l.enabled = true)
    (hget : (l.documents.get around.clock.first (.of content base?)).1 = some issues) :
    l.validate around content base? =
      (issues,
        { l with
          documents := (l.documents.get around.clock.first (.of content base?)).2 }) := by
  rcases hpair : l.documents.get around.clock.first (.of content base?) with ⟨found?, documents⟩
  obtain rfl : found? = some issues := by simpa [hpair] using hget
  simp [validate, h, hpair]

/-- What is not kept is found anew, in the model and its files, and is kept then. -/
theorem validate_of_miss (h : l.enabled = true)
    (hget : (l.documents.get around.clock.first (.of content base?)).1 = none) :
    ∃ storedAt,
      let checked := checkInputFiles l.schema around.onDisk (around.clock.after 1) base?
        (Model.read content) l.memory
      let issues := modelIssues l.schema (Model.read content) ++ checked.1
      l.validate around content base? =
        (issues,
          { l with
            documents := (l.documents.get around.clock.first (.of content base?)).2.insert storedAt
              (.of content base?) issues
            memory := checked.2 }) := by
  refine ⟨around.clock.reading ((lookedFor l.schema base? (Model.read content)).length + 1), ?_⟩
  rcases hpair : l.documents.get around.clock.first (.of content base?) with ⟨found?, documents⟩
  obtain rfl : found? = none := by simpa [hpair] using hget
  simp [validate, h, hpair, validateModel_of_enabled]

/-- Expressions in models never reach the cache. -/
theorem validateModel_expressions (m : Model) :
    (l.validateModel around m base?).2.expressions = l.expressions := by
  cases h : l.enabled with
  | false => rw [validateModel_of_disabled h]
  | true => rw [validateModel_of_enabled h]

/-- The validation of a document leaves the cache of expressions alone. -/
theorem validate_expressions : (l.validate around content base?).2.expressions = l.expressions := by
  cases h : l.enabled with
  | false => rw [validate_of_disabled h]
  | true =>
      cases hget : (l.documents.get around.clock.first (.of content base?)).1 with
      | some issues => rw [validate_of_hit h hget]
      | none =>
          obtain ⟨storedAt, hmiss⟩ := validate_of_miss h hget
          rw [hmiss]

end Validate

/-! ## What a request does -/

/-- What a request keeps of a linter, and where what is new in it comes from. -/
structure Follows (step : Step) (l next : Linter) : Prop where
  schema_eq : next.schema = l.schema
  lifetime_eq : next.memory.lifetime = l.memory.lifetime
  entries : ∀ d ∈ next.documents.entries, d ∈ l.documents.entries ∨
    l.enabled = true ∧ ∃ content base?, step.request = .validate content base? ∧
      d.key = .of content base? ∧ d.issues = (l.validate step.around content base?).1
  sightings : ∀ s ∈ next.memory.sightings, s ∈ l.memory.sightings ∨
    ∃ path ∈ step.request.lookups l.schema, IsSeen step.around.onDisk step.around.clock path s

section Follows

variable {around : Surroundings} {step : Step} {l next : Linter}

/-- Nothing new is in a linter that has at most lost some documents. -/
theorem follows_of_subset (hschema : next.schema = l.schema)
    (hentries : next.documents.entries ⊆ l.documents.entries) (hmemory : next.memory = l.memory) :
    Follows step l next where
  schema_eq := hschema
  lifetime_eq := by rw [hmemory]
  entries d hd := .inl (hentries hd)
  sightings s hs := .inl (hmemory ▸ hs)

theorem follows_validate (content : Text) (base? : Option Text) :
    Follows ⟨around, .validate content base?⟩ l (l.validate around content base?).2 := by
  cases h : l.enabled with
  | false =>
      rw [validate_of_disabled h]
      exact follows_of_subset rfl (List.Subset.refl _) rfl
  | true =>
      cases hget : (l.documents.get around.clock.first (.of content base?)).1 with
      | some issues =>
          rw [validate_of_hit h hget]
          exact follows_of_subset rfl (fun d hd => DocumentCache.mem_of_mem_entries_get hd) rfl
      | none =>
          obtain ⟨storedAt, hmiss⟩ := validate_of_miss h hget
          refine ⟨?_, ?_, fun d hd => ?_, fun s hs => ?_⟩
          · rw [hmiss]
          · rw [hmiss]
            exact checkInputFiles_lifetime
          · rw [hmiss] at hd
            refine (DocumentCache.mem_entries_insert hd).imp DocumentCache.mem_of_mem_entries_get ?_
            rintro rfl
            exact ⟨h, content, base?, rfl, rfl, by rw [hmiss]⟩
          · rw [hmiss] at hs
            refine (mem_sightings_of_checkInputFiles hs).imp_right ?_
            rintro ⟨path, hpath, hseen⟩
            exact ⟨path, hpath, hseen.of_after⟩

theorem follows_validateModel (m : Model) (base? : Option Text) :
    Follows ⟨around, .validateModel m base?⟩ l (l.validateModel around m base?).2 := by
  cases h : l.enabled with
  | false =>
      rw [validateModel_of_disabled h]
      exact follows_of_subset rfl (List.Subset.refl _) rfl
  | true =>
      rw [validateModel_of_enabled h]
      exact ⟨rfl, checkInputFiles_lifetime, fun d hd => .inl hd,
        fun s hs => mem_sightings_of_checkInputFiles hs⟩

theorem follows_serve : Follows step l (l.serve step) := by
  obtain ⟨around, request⟩ := step
  cases request with
  | validate content base? => exact follows_validate content base?
  | validateModel m base? => exact follows_validateModel m base?
  | setEnabled on => exact follows_of_subset rfl (List.Subset.refl _) rfl
  | clear => exact follows_of_subset rfl (List.nil_subset _) rfl
  | checkExpression context expression => exact follows_of_subset rfl (List.Subset.refl _) rfl

end Follows

/-! ## What is kept of documents -/

/-- What is kept of a document is as `good` demands. -/
structure KeepsGood (good : DocumentKey → List Issue → Prop) (schema : Schema) (l : Linter) :
    Prop where
  schema_eq : l.schema = schema
  entries : ∀ d ∈ l.documents.entries, good d.key d.issues

/-- Whatever is found anew in a document and its files is as `good` demands. -/
def GoodAnew (good : DocumentKey → List Issue → Prop) (schema : Schema) : Prop :=
  ∀ content base? onDisk clock mem,
    good (.of content base?) (modelIssues schema (Model.read content) ++
      (checkInputFiles schema onDisk clock base? (Model.read content) mem).1)

section KeepsGood

variable {good : DocumentKey → List Issue → Prop} {schema : Schema} {l : Linter} {step : Step}
  {history : List Step}

/-- Good issues are told: those in the cache are good, and so are those found anew. -/
theorem KeepsGood.validate (hanew : GoodAnew good schema) (h : KeepsGood good schema l)
    (henabled : l.enabled = true) (around : Surroundings) (content : Text) (base? : Option Text) :
    good (.of content base?) (l.validate around content base?).1 := by
  cases hget : (l.documents.get around.clock.first (.of content base?)).1 with
  | some issues =>
      obtain ⟨d, hd, hkey, rfl⟩ := DocumentCache.exists_of_get_eq_some hget
      rw [validate_of_hit henabled hget, ← hkey]
      exact h.entries d hd
  | none =>
      obtain ⟨storedAt, hmiss⟩ := validate_of_miss henabled hget
      rw [hmiss, h.schema_eq]
      exact hanew content base? _ _ _

theorem KeepsGood.serve (hanew : GoodAnew good schema) (h : KeepsGood good schema l) :
    KeepsGood good schema (l.serve step) where
  schema_eq := follows_serve.schema_eq.trans h.schema_eq
  entries d hd := by
    cases follows_serve.entries d hd with
    | inl hold => exact h.entries d hold
    | inr hnew =>
        obtain ⟨henabled, content, base?, -, hkey, hissues⟩ := hnew
        rw [hissues, hkey]
        exact h.validate hanew henabled step.around content base?

theorem KeepsGood.after (hanew : GoodAnew good schema) (h : KeepsGood good schema l) :
    KeepsGood good schema (l.after history) := by
  induction history generalizing l with
  | nil => exact h
  | cons step history ih => exact ih (h.serve hanew)

theorem keepsGood_withCaches (schema : Schema) (capacity lifetime : Nat)
    (expressions : Expression.Cache) :
    KeepsGood good schema (withCaches schema capacity lifetime expressions) :=
  ⟨rfl, fun _ hd => absurd hd List.not_mem_nil⟩

end KeepsGood

/-- Whatever has been asked of it, a linter keeps nothing but good issues. -/
theorem keepsGood_after {good : DocumentKey → List Issue → Prop} {schema : Schema}
    (hanew : GoodAnew good schema) (capacity lifetime : Nat) (expressions : Expression.Cache)
    (history : List Step) :
    KeepsGood good schema ((withCaches schema capacity lifetime expressions).after history) :=
  (keepsGood_withCaches schema capacity lifetime expressions).after hanew

/-! ## Documents without a directory -/

/-- A document without a directory has the issues that its text has by itself. -/
def IsFaithful (schema : Schema) (key : DocumentKey) (issues : List Issue) : Prop :=
  key.base = none → issues = modelIssues schema (Model.read key.content)

/-- Without a directory no file is looked for. -/
theorem isFaithful_anew (schema : Schema) : GoodAnew (IsFaithful schema) schema := by
  intro content base? onDisk clock mem hbase
  obtain rfl : base? = none := by simpa [DocumentKey.of] using hbase
  exact List.append_nil _

theorem KeepsGood.validate_alone {schema : Schema} {l : Linter}
    (h : KeepsGood (IsFaithful schema) schema l) (henabled : l.enabled = true)
    (around : Surroundings) (content : Text) :
    (l.validate around content none).1 = modelIssues schema (Model.read content) :=
  h.validate (isFaithful_anew schema) henabled around content none rfl

/-- Whatever a linter has been asked before, it finds in a document without a directory what a new
linter finds in it, or nothing if it is switched off; and no validation reaches its expression
cache. -/
theorem validate_after (schema : Schema) (capacity lifetime : Nat) (expressions : Expression.Cache)
    (history : List Step) :
    let l := (withCaches schema capacity lifetime expressions).after history
    (∀ around newAround content,
        (l.validate around content none).1 =
          if l.enabled then ((fresh schema).validate newAround content none).1 else []) ∧
      ∀ around content base? m,
        (l.validate around content base?).2.expressions = l.expressions ∧
          (l.validateModel around m base?).2.expressions = l.expressions := by
  intro l
  have hl : KeepsGood (IsFaithful schema) schema l :=
    keepsGood_after (isFaithful_anew schema) capacity lifetime expressions history
  have hfresh : KeepsGood (IsFaithful schema) schema (fresh schema) :=
    keepsGood_withCaches schema _ _ _
  refine ⟨fun around newAround content => ?_, fun around content base? m => ?_⟩
  · cases h : l.enabled with
    | false => rw [validate_of_disabled h, if_neg (by simp)]
    | true => rw [hl.validate_alone h, if_pos rfl, hfresh.validate_alone rfl]
  · exact ⟨validate_expressions, validateModel_expressions m⟩

/-! ## Clearing -/

/-- A linter that turns to the files of a document is told of a path what the disk says of it: by
what is still remembered of the same path, and by what the disk says of the other paths of the
document that are the same. -/
structure Settled (l : Linter) (around : Surroundings) (content : Text) (base? : Option Text)
    (path : Text) : Prop where
  remembered : ∀ s ∈ (l.memory.current (around.clock.after 1).first).sightings,
    s.path = Path.components path → s.found = around.onDisk path
  alike : ∀ other ∈ lookedFor l.schema base? (Model.read content),
    Path.components other = Path.components path → around.onDisk other = around.onDisk path

section Clearing

variable {schema : Schema} {around : Surroundings} {content : Text} {base? : Option Text}
  {l : Linter} {history : List Step}

theorem schema_after : (l.after history).schema = l.schema := by
  induction history generalizing l with
  | nil => rfl
  | cons step history ih => exact ih.trans follows_serve.schema_eq

theorem memory_lifetime_after : (l.after history).memory.lifetime = l.memory.lifetime := by
  induction history generalizing l with
  | nil => rfl
  | cons step history ih => exact ih.trans follows_serve.lifetime_eq

/-- What is remembered has been remembered from the start, or the disk has said it in some step. -/
theorem mem_sightings_of_after {s : Sighting} (h : s ∈ (l.after history).memory.sightings) :
    s ∈ l.memory.sightings ∨ ∃ step ∈ history, ∃ path ∈ step.request.lookups l.schema,
      IsSeen step.around.onDisk step.around.clock path s := by
  induction history generalizing l with
  | nil => exact .inl h
  | cons step history ih =>
      cases ih h with
      | inl hserved =>
          refine (follows_serve.sightings s hserved).imp_right fun hseen => ?_
          exact ⟨step, List.mem_cons_self, hseen⟩
      | inr hlater =>
          obtain ⟨later, hlater, hseen⟩ := hlater
          rw [follows_serve.schema_eq] at hseen
          exact .inr ⟨later, List.mem_cons_of_mem _ hlater, hseen⟩

/-- As long as nothing is validated, the document cache stays empty. -/
theorem entries_after_of_forall_ne (hempty : l.documents.entries = [])
    (h : ∀ step ∈ history, ∀ content base?, step.request ≠ .validate content base?) :
    (l.after history).documents.entries = [] := by
  induction history generalizing l with
  | nil => exact hempty
  | cons step history ih =>
      refine ih (List.eq_nil_iff_forall_not_mem.mpr fun d hd => ?_)
        fun other hother => h other (List.mem_cons_of_mem _ hother)
      cases follows_serve.entries d hd with
      | inl hold => exact absurd hold (hempty ▸ List.not_mem_nil)
      | inr hnew =>
          obtain ⟨-, content, base?, hrequest, -⟩ := hnew
          exact h step List.mem_cons_self content base? hrequest

/-- With an empty document cache everything is found anew. -/
theorem validate_of_entries_eq_nil (henabled : l.enabled = true) (h : l.documents.entries = []) :
    (l.validate around content base?).1 =
      modelIssues l.schema (Model.read content) ++
        (checkInputFiles l.schema around.onDisk (around.clock.after 1) base? (Model.read content)
          l.memory).1 := by
  have hget : (l.documents.get around.clock.first (.of content base?)).1 = none := by
    simp [DocumentCache.get, h]
  obtain ⟨storedAt, hmiss⟩ := validate_of_miss henabled hget
  rw [hmiss]

/-- What is still remembered by a new linter is what the disk has said in some step, and that has
been less than the lifetime of its memory ago. -/
theorem exists_of_mem_current {now : Moment} (hnew : l.memory = .fresh Memory.defaultLifetime)
    {s : Sighting} (h : s ∈ ((l.after history).memory.current now).sightings) :
    ∃ step ∈ history, ∃ path ∈ step.request.lookups l.schema,
      IsSeen step.around.onDisk step.around.clock path s ∧
        now - s.askedAt < Memory.defaultLifetime := by
  obtain ⟨hmem, hage⟩ := mem_current_iff.mp h
  rw [memory_lifetime_after, hnew] at hage
  cases mem_sightings_of_after hmem with
  | inl hold =>
      rw [hnew] at hold
      cases hold
  | inr hseen =>
      obtain ⟨step, hstep, path, hpath, hseen⟩ := hseen
      exact ⟨step, hstep, path, hpath, hseen, hage⟩

end Clearing

/-- The first validation after the caches have been cleared tells the issues that a new linter tells
on the same disk, but for missing files at the lines whose paths are not settled; and what is
remembered then, the disk has said a short time ago. -/
theorem validate_after_clear {schema : Schema} {capacity lifetime : Nat}
    {expressions : Expression.Cache} {before between history : List Step} {clearing : Surroundings}
    {l : Linter} (hhistory : history = before ++ ⟨clearing, .clear⟩ :: between)
    (hl : l = (withCaches schema capacity lifetime expressions).after history)
    (hfirst : ∀ step ∈ between, ∀ content base?, step.request ≠ .validate content base?)
    (henabled : l.enabled = true) (around : Surroundings) (clock : Clock) (content : Text)
    (base? : Option Text) :
    (∀ keep : Issue → Bool,
        (∀ base, base? = some base → ∀ entry ∈ (Model.read content).inputs, ∀ issue,
          keep issue = true → issue.rule = "file_not_found".toList → issue.line = entry.line →
          Settled l around content base? (Path.join base entry.text)) →
        (l.validate around content base?).1.filter keep =
          ((fresh schema).validate ⟨clock, around.onDisk⟩ content base?).1.filter keep) ∧
      ∀ s ∈ (l.memory.current (around.clock.after 1).first).sightings,
        ∃ step ∈ history, ∃ path ∈ step.request.lookups schema,
          IsSeen step.around.onDisk step.around.clock path s ∧
            (around.clock.after 1).first - s.askedAt < Memory.defaultLifetime := by
  have hschema : l.schema = schema := hl ▸ schema_after
  have hempty : l.documents.entries = [] := by
    rw [hl, hhistory, after, List.foldl_append, List.foldl_cons]
    exact entries_after_of_forall_ne rfl hfirst
  refine ⟨fun keep hkeep => ?_, fun s hs => exists_of_mem_current rfl (hl ▸ hs)⟩
  -- Both linters find all anew, and both memories tell the truth of what is settled.
  have hspeaks : ∀ path ∈ lookedFor l.schema base? (Model.read content),
      SpeaksFor around.onDisk (Settled l around content base?) path :=
    fun path hpath other hother => hother.alike path hpath
  have htruthful : (l.memory.current (around.clock.after 1).first).Truthful around.onDisk
      (Settled l around content base?) :=
    fun s hs path hpath => hpath.remembered s hs
  rw [hschema] at hspeaks
  rw [validate_of_entries_eq_nil henabled hempty, validate_of_entries_eq_nil rfl rfl,
    List.filter_append, List.filter_append, hschema]
  refine congrArg _ (filter_checkInputFiles_congr hspeaks htruthful truthful_fresh.current keep ?_)
  exact fun severity base hbase entry hentry hkept => hkeep base hbase entry hentry _ hkept rfl rfl

/-- Rain has come after the first validation, and that has been long ago; of the evaporation the
disk has just said that it is not there. -/
theorem validate_after_clear_rain :
    let document := "[inputs]\ndata/rain.csv\nevap.csv\n".toList
    let nothing := Files.Tree.empty.pathExists []
    let history : List Step :=
      [⟨⟨0, nothing⟩, .validate document (some [])⟩, ⟨⟨1, nothing⟩, .clear⟩,
        ⟨⟨5500, nothing⟩, .validateModel ⟨[], [⟨"evap.csv".toList, 1⟩], []⟩ (some [])⟩]
    let l := (fresh .default).after history
    let around : Surroundings := ⟨6000, (rainTree.write ["evap.csv".toList] []).pathExists []⟩
    l.enabled = true ∧
      (l.validate around document (some [])).1.filter (·.line ≠ 3) =
        ((fresh .default).validate around document (some [])).1.filter (·.line ≠ 3) := by
  intro document nothing history l around
  have henabled : l.enabled = true := by decide +kernel
  have hinputs : (Model.read document).inputs =
      [⟨"data/rain.csv".toList, 2⟩, ⟨"evap.csv".toList, 3⟩] := by
    decide +kernel
  have hremembered : ∀ s ∈ (l.memory.current 6000).sightings,
      s.path = Path.components "data/rain.csv".toList →
        s.found = around.onDisk "data/rain.csv".toList := by
    decide +kernel
  have halike : ∀ other ∈ lookedFor l.schema (some []) (Model.read document),
      Path.components other = Path.components "data/rain.csv".toList →
        around.onDisk other = around.onDisk "data/rain.csv".toList := by
    decide +kernel
  have hhistory : history = history.take 1 ++ ⟨⟨1, nothing⟩, .clear⟩ :: history.drop 2 := rfl
  have hfirst : ∀ step ∈ history.drop 2, ∀ content base?,
      step.request ≠ .validate content base? := by
    simp [history]
  refine ⟨henabled,
    (validate_after_clear hhistory rfl hfirst henabled around 6000 document (some [])).1 _ ?_⟩
  intro base hbase entry hentry issue hkeep _ hline
  obtain rfl := Option.some.inj hbase
  rw [hinputs] at hentry
  cases hentry with
  | head => exact ⟨hremembered, halike⟩
  | tail _ hmem =>
      rw [List.mem_singleton.mp hmem] at hline
      simp [hline] at hkeep

/-- Rain that has come between two validations is still missing, though the caches have been cleared
between them. -/
theorem validate_after_clear_stale :
    let document := "[inputs]\ndata/rain.csv\n".toList
    let nothing := Files.Tree.empty.pathExists []
    let l := (fresh .default).after
      [⟨⟨0, nothing⟩, .validate document (some [])⟩, ⟨⟨1, nothing⟩, .clear⟩]
    let around : Surroundings := ⟨2, rainTree.pathExists []⟩
    (l.validate around document (some [])).1 ≠
      ((fresh .default).validate around document (some [])).1 := by
  decide +kernel

end Linter

end CatchmentLint
