import CatchmentLint.Files.Tree
import CatchmentLint.Lint.InputFiles
import CatchmentLint.Model.Reader
import CatchmentLint.Schema.Default

/-!
# CatchmentLint.Proofs.Lint.Memory

What the memory of files has to do with the disk.

* `mem_sightings_of_checkInputFiles` — a check adds to the memory only what the disk said to it;
* `Memory.Truthful` — what is remembered holds of every path that is asked for, and
  `filter_checkInputFiles` — then a check finds of these what the disk itself shows;
* `unnoticed_iff` — so no sequence of checks shows that there is a memory, just where the disk
  answers alike for all paths asked for that the memory takes for one;
* `unnoticed_trailingSlash` — a slash at the end is enough for that to fail.
-/

namespace CatchmentLint.Lint

variable {onDisk : Text → Bool} {schema : Schema}

/-! ## Where sightings come from -/

section Looking

variable {now : Moment} {path : Text} {mem : Memory}

/-- What counts at a moment is what is young enough then. -/
theorem mem_current_iff {s : Sighting} :
    s ∈ (mem.current now).sightings ↔ s ∈ mem.sightings ∧ now - s.askedAt < mem.lifetime := by
  simp [Memory.current]

theorem look_lifetime : (mem.look onDisk now path).2.lifetime = mem.lifetime := by
  unfold Memory.look
  simp only
  split
  · rfl
  · split <;> rfl

/-- A path is looked up in what is remembered of the same path, or on the disk. -/
theorem look_found (onDisk : Text → Bool) (now : Moment) (path : Text) (mem : Memory) :
    (mem.look onDisk now path).1 = onDisk path ∨
      ∃ s ∈ (mem.current now).sightings,
        s.path = Path.components path ∧ (mem.look onDisk now path).1 = s.found := by
  unfold Memory.look
  simp only
  split
  · next s hs =>
      have hpath : s.path = Path.components path := by simpa using List.find?_some hs
      exact .inr ⟨s, List.mem_of_find?_eq_some hs, hpath, rfl⟩
  · split <;> exact .inl rfl

/-- A look adds what the disk says now, and keeps nothing that is too old. -/
theorem mem_sightings_of_look {s : Sighting} (h : s ∈ (mem.look onDisk now path).2.sightings) :
    s ∈ (mem.current now).sightings ∨ s = ⟨Path.components path, onDisk path, now⟩ := by
  unfold Memory.look at h
  simp only at h
  split at h
  · exact .inl h
  · split at h
    · exact (List.mem_append.mp h).imp_right List.mem_singleton.mp
    · exact .inl h

end Looking

/-- What the disk says of a path at some reading of the clock. -/
def IsSeen (onDisk : Text → Bool) (clock : Clock) (path : Text) (s : Sighting) : Prop :=
  ∃ i, s = ⟨Path.components path, onDisk path, clock.reading i⟩

/-- What is seen later in a check is seen in the check. -/
theorem IsSeen.of_after {clock : Clock} {n : Nat} {path : Text} {s : Sighting}
    (h : IsSeen onDisk (clock.after n) path s) : IsSeen onDisk clock path s := by
  obtain ⟨i, hs⟩ := h
  exact ⟨n + i, hs⟩

/-- After a check, the memory has what it had and what the disk said to the check. -/
theorem mem_sightings_of_findMissingFiles {base : Text} {clock : Clock} {entries : List Entry}
    {mem : Memory} {s : Sighting}
    (h : s ∈ (findMissingFiles onDisk base clock entries mem).2.sightings) :
    s ∈ mem.sightings ∨
      ∃ entry ∈ entries, IsSeen onDisk clock (Path.join base entry.text) s := by
  induction entries generalizing clock mem with
  | nil => exact .inl h
  | cons entry entries ih =>
      cases ih h with
      | inl hmem =>
          cases mem_sightings_of_look hmem with
          | inl hcurrent => exact .inl (mem_current_iff.mp hcurrent).1
          | inr hnew => exact .inr ⟨entry, List.mem_cons_self, 0, hnew⟩
      | inr hlater =>
          obtain ⟨other, hother, hseen⟩ := hlater
          exact .inr ⟨other, List.mem_cons_of_mem _ hother, hseen.of_after⟩

theorem findMissingFiles_lifetime {base : Text} {clock : Clock} {entries : List Entry}
    {mem : Memory} :
    (findMissingFiles onDisk base clock entries mem).2.lifetime = mem.lifetime := by
  induction entries generalizing clock mem with
  | nil => rfl
  | cons entry entries ih => exact ih.trans look_lifetime

/-- Every input file is looked for where its rule is switched on. -/
theorem mem_lookedFor {severity : Severity} {base : Text} {m : Model} {entry : Entry}
    (hrule : schema.severity? "file_paths".toList .error = some severity) (h : entry ∈ m.inputs) :
    Path.join base entry.text ∈ lookedFor schema (some base) m := by
  simpa only [lookedFor, hrule] using List.mem_map_of_mem h

section Checking

variable {clock : Clock} {base? : Option Text} {m : Model} {mem : Memory}

/-- What a check adds to the memory is what the disk said of a path that was looked for. -/
theorem mem_sightings_of_checkInputFiles {s : Sighting}
    (h : s ∈ (checkInputFiles schema onDisk clock base? m mem).2.sightings) :
    s ∈ mem.sightings ∨ ∃ path ∈ lookedFor schema base? m, IsSeen onDisk clock path s := by
  unfold checkInputFiles at h
  unfold lookedFor
  split at h
  · refine (mem_sightings_of_findMissingFiles h).imp_right fun ⟨entry, hentry, hs⟩ => ?_
    exact ⟨_, List.mem_map.mpr ⟨entry, hentry, rfl⟩, hs⟩
  · exact .inl h

/-- Where the rule is switched off nothing is looked for. -/
theorem checkInputFiles_of_off (hrule : schema.severity? "file_paths".toList .error = none) :
    checkInputFiles schema onDisk clock base? m mem = ([], mem) := by
  cases base? <;> simp only [checkInputFiles, hrule]

theorem checkInputFiles_lifetime :
    (checkInputFiles schema onDisk clock base? m mem).2.lifetime = mem.lifetime := by
  unfold checkInputFiles
  split
  · exact findMissingFiles_lifetime
  · rfl

end Checking

/-! ## What the disk itself shows -/

/-- The entries whose files are not on the disk. -/
def missingOnDisk (onDisk : Text → Bool) (base : Text) (entries : List Entry) : List Entry :=
  entries.filter fun entry => !onDisk (Path.join base entry.text)

/-- What is reported of an entry whose file is missing. -/
def missingIssue (severity : Severity) (entry : Entry) : Issue :=
  ⟨entry.line, "Input file does not exist: ".toList ++ entry.text, severity,
    "file_not_found".toList⟩

/-- One issue for every entry whose file is not on the disk, at the line of that entry. -/
def missingIssues (severity : Severity) (onDisk : Text → Bool) (base? : Option Text) (m : Model) :
    List Issue :=
  match base? with
  | some base => (missingOnDisk onDisk base m.inputs).map (missingIssue severity)
  | none => []

/-- A missing file is told of under the severity of its rule. -/
theorem report_missing {severity : Severity}
    (hrule : schema.severity? "file_paths".toList .error = some severity) (entries : List Entry) :
    report schema (entries.map fun entry => ⟨entry.line, .missingFile entry.text⟩) =
      entries.map (missingIssue severity) := by
  induction entries with
  | nil => rfl
  | cons entry entries ih =>
      have hentry : (Finding.missingFile entry.text).issues schema entry.line =
          [missingIssue severity entry] := by
        have hgovernor : (Finding.missingFile entry.text).governor = "file_paths".toList := rfl
        have hdefault : (Finding.missingFile entry.text).defaultSeverity = .error := rfl
        rw [Finding.issues, hgovernor, hdefault, hrule]
        rfl
      rw [report, List.map_cons, List.flatMap_cons, hentry, List.map_cons, ← ih, report]
      rfl

/-! ## Truthful memories -/

/-- The disk answers alike for those paths asked for that are the same. -/
def AnswersAlike (onDisk : Text → Bool) (asked : Text → Prop) : Prop :=
  ∀ p q, asked p → asked q → Path.components p = Path.components q → onDisk p = onDisk q

/-- What the disk says of a path, it says of those asked for that are the same. -/
def SpeaksFor (onDisk : Text → Bool) (asked : Text → Prop) (path : Text) : Prop :=
  ∀ other, asked other → Path.components path = Path.components other → onDisk path = onDisk other

/-- What is remembered of a path asked for is what the disk says of it. -/
def Memory.Truthful (onDisk : Text → Bool) (asked : Text → Prop) (mem : Memory) : Prop :=
  ∀ s ∈ mem.sightings, ∀ path, asked path → s.path = Path.components path → s.found = onDisk path

section Truthful

variable {asked : Text → Prop} {clock : Clock} {mem : Memory}

/-- A memory of nothing is truthful. -/
theorem truthful_fresh {lifetime : Nat} : (Memory.fresh lifetime).Truthful onDisk asked := by
  simp [Memory.Truthful, Memory.fresh]

/-- What is young enough of a truthful memory is truthful. -/
theorem Memory.Truthful.current {now : Moment} (h : mem.Truthful onDisk asked) :
    (mem.current now).Truthful onDisk asked :=
  fun s hs => h s (mem_current_iff.mp hs).1

/-- What the disk says of one path holds of those that the memory takes for the same. -/
theorem SpeaksFor.of_isSeen {path other : Text} {s : Sighting} (h : SpeaksFor onDisk asked path)
    (hs : IsSeen onDisk clock path s) (hother : asked other)
    (hsame : s.path = Path.components other) : s.found = onDisk other := by
  obtain ⟨i, rfl⟩ := hs
  exact h other hother hsame

/-- A truthful memory answers as the disk does. -/
theorem look_of_truthful {now : Moment} {path : Text} (h : (mem.current now).Truthful onDisk asked)
    (hpath : asked path) : (mem.look onDisk now path).1 = onDisk path := by
  cases look_found onDisk now path mem with
  | inl hdisk => exact hdisk
  | inr hremembered =>
      obtain ⟨s, hs, hsame, hfound⟩ := hremembered
      exact hfound.trans (h s hs path hpath hsame)

/-- Of the entries whose paths are asked for, those are missing that are not on the disk.  Only what
counts at the first reading of the clock has to be true: the rest is dropped then. -/
theorem findMissingFiles_of_truthful {base : Text} {entries : List Entry}
    (hspeaks : ∀ entry ∈ entries, SpeaksFor onDisk asked (Path.join base entry.text))
    (h : (mem.current clock.first).Truthful onDisk asked) :
    ∃ missing : List Entry,
      (findMissingFiles onDisk base clock entries mem).1 =
          missing.map (fun entry => ⟨entry.line, .missingFile entry.text⟩) ∧
        ∀ keep : Entry → Bool,
          (∀ entry ∈ entries, keep entry = true → asked (Path.join base entry.text)) →
          missing.filter keep = (missingOnDisk onDisk base entries).filter keep := by
  induction entries generalizing clock mem with
  | nil => exact ⟨[], rfl, fun _ _ => rfl⟩
  | cons entry entries ih =>
      have hafter :
          (mem.look onDisk clock.first (Path.join base entry.text)).2.Truthful onDisk asked := by
        intro s hs path hpath hsame
        cases mem_sightings_of_look hs with
        | inl hold => exact h s hold path hpath hsame
        | inr hnew =>
            have hseen : IsSeen onDisk clock (Path.join base entry.text) s := ⟨0, hnew⟩
            exact (hspeaks entry List.mem_cons_self).of_isSeen hseen hpath hsame
      have hnext : ((mem.look onDisk clock.first (Path.join base entry.text)).2.current
          (clock.after 1).first).Truthful onDisk asked := hafter.current
      obtain ⟨missing, hfound, hkeep⟩ :=
        ih (fun other hother => hspeaks other (List.mem_cons_of_mem _ hother)) hnext
      refine ⟨if (mem.look onDisk clock.first (Path.join base entry.text)).1 then missing
        else entry :: missing, ?_, fun keep hasked => ?_⟩
      · simp only [findMissingFiles, hfound]
        split <;> rfl
      · have hrest := hkeep keep fun other hother => hasked other (List.mem_cons_of_mem _ hother)
        cases hentry : keep entry with
        | true =>
            rw [look_of_truthful h (hasked entry List.mem_cons_self hentry)]
            simp only [missingOnDisk, List.filter_cons] at hrest ⊢
            cases onDisk (Path.join base entry.text) <;> simp [hentry, hrest]
        | false =>
            -- What is said of an entry that is left out does not matter.
            have hleft : ∀ others, (entry :: others).filter keep = others.filter keep :=
              fun others => List.filter_cons_of_neg (by simp [hentry])
            simp only [missingOnDisk, List.filter_cons] at hrest ⊢
            split <;> split <;> simp only [hleft, hrest]

/-- A check finds what the disk shows, as far as the files of the issues that are kept are asked
for. -/
theorem filter_checkInputFiles {severity : Severity} {base? : Option Text} {m : Model}
    (hrule : schema.severity? "file_paths".toList .error = some severity)
    (hspeaks : ∀ path ∈ lookedFor schema base? m, SpeaksFor onDisk asked path)
    (h : (mem.current clock.first).Truthful onDisk asked) (keep : Issue → Bool)
    (hkeep : ∀ base, base? = some base → ∀ entry ∈ m.inputs,
      keep (missingIssue severity entry) = true → asked (Path.join base entry.text)) :
    (checkInputFiles schema onDisk clock base? m mem).1.filter keep =
      (missingIssues severity onDisk base? m).filter keep := by
  cases base? with
  | none => rfl
  | some base =>
      have hentries : ∀ entry ∈ m.inputs, SpeaksFor onDisk asked (Path.join base entry.text) :=
        fun entry hentry => hspeaks _ (mem_lookedFor hrule hentry)
      obtain ⟨missing, hfound, hmissing⟩ := findMissingFiles_of_truthful hentries h
      simp only [checkInputFiles, hrule, missingIssues, hfound, report_missing hrule,
        List.filter_map]
      exact congrArg _ (hmissing _ fun entry hentry => hkeep base rfl entry hentry)

/-- Truthful memories find the same of the paths that the disk speaks for. -/
theorem filter_checkInputFiles_congr {base? : Option Text} {m : Model} {otherClock : Clock}
    {other : Memory} (hspeaks : ∀ path ∈ lookedFor schema base? m, SpeaksFor onDisk asked path)
    (h : (mem.current clock.first).Truthful onDisk asked)
    (hother : (other.current otherClock.first).Truthful onDisk asked) (keep : Issue → Bool)
    (hkeep : ∀ severity base, base? = some base → ∀ entry ∈ m.inputs,
      keep (missingIssue severity entry) = true → asked (Path.join base entry.text)) :
    (checkInputFiles schema onDisk clock base? m mem).1.filter keep =
      (checkInputFiles schema onDisk otherClock base? m other).1.filter keep := by
  cases hrule : schema.severity? "file_paths".toList .error with
  | none => rw [checkInputFiles_of_off hrule, checkInputFiles_of_off hrule]
  | some severity =>
      rw [filter_checkInputFiles hrule hspeaks h keep (hkeep severity),
        filter_checkInputFiles hrule hspeaks hother keep (hkeep severity)]

/-- With a truthful memory, a check finds what the disk shows. -/
theorem checkInputFiles_of_truthful {severity : Severity} {base? : Option Text} {m : Model}
    (hrule : schema.severity? "file_paths".toList .error = some severity)
    (halike : AnswersAlike onDisk asked) (hasked : ∀ path ∈ lookedFor schema base? m, asked path)
    (h : (mem.current clock.first).Truthful onDisk asked) :
    (checkInputFiles schema onDisk clock base? m mem).1 =
      missingIssues severity onDisk base? m := by
  have hall := filter_checkInputFiles hrule (fun p hp q hq => halike p q (hasked p hp) hq) h
    (fun _ => true) fun base hbase entry hentry _ =>
      hasked _ (hbase ▸ mem_lookedFor hrule hentry)
  rwa [List.filter_eq_self.mpr fun _ _ => rfl, List.filter_eq_self.mpr fun _ _ => rfl] at hall

/-- A check leaves a truthful memory truthful. -/
theorem Memory.Truthful.checkInputFiles {base? : Option Text} {m : Model}
    (halike : AnswersAlike onDisk asked) (hasked : ∀ path ∈ lookedFor schema base? m, asked path)
    (h : mem.Truthful onDisk asked) :
    (checkInputFiles schema onDisk clock base? m mem).2.Truthful onDisk asked := by
  intro s hs path hpath hsame
  cases mem_sightings_of_checkInputFiles hs with
  | inl hold => exact h s hold path hpath hsame
  | inr hnew =>
      obtain ⟨seen, hseen, hs⟩ := hnew
      have hspeaks : SpeaksFor onDisk asked seen :=
        fun other => halike seen other (hasked seen hseen)
      exact hspeaks.of_isSeen hs hpath hsame

end Truthful

/-! ## Sequences of checks -/

/-- One check of the input files of a model. -/
structure Inspection where
  clock : Clock
  base? : Option Text
  model : Model

namespace Inspection

/-- The paths that an inspection looks for. -/
def lookups (schema : Schema) (i : Inspection) : List Text := lookedFor schema i.base? i.model

/-- The issues of a check, and the memory after it. -/
def perform (schema : Schema) (onDisk : Text → Bool) (i : Inspection) (mem : Memory) :
    List Issue × Memory :=
  checkInputFiles schema onDisk i.clock i.base? i.model mem

/-- The memory after a sequence of checks. -/
def remember (schema : Schema) (onDisk : Text → Bool) (history : List Inspection) (mem : Memory) :
    Memory :=
  history.foldl (fun mem i => (i.perform schema onDisk mem).2) mem

end Inspection

/-- Any inspections leave a truthful memory truthful. -/
theorem truthful_remember {asked : Text → Prop} {history : List Inspection} {mem : Memory}
    (halike : AnswersAlike onDisk asked)
    (hasked : ∀ i ∈ history, ∀ path ∈ i.lookups schema, asked path)
    (h : mem.Truthful onDisk asked) :
    (Inspection.remember schema onDisk history mem).Truthful onDisk asked := by
  induction history generalizing mem with
  | nil => exact h
  | cons i history ih =>
      exact ih (fun j hj => hasked j (List.mem_cons_of_mem _ hj))
        (h.checkInputFiles halike (hasked i List.mem_cons_self))

/-- Two entries that a new memory is asked for one after the other. -/
def askedTogether (p q : Text) : Inspection := ⟨0, some [], ⟨[], [⟨p, 1⟩, ⟨q, 2⟩], []⟩⟩

theorem join_nil (path : Text) : Path.join [] path = path := by simp [Path.join]

/-- A model of two entries has both looked for. -/
theorem lookups_askedTogether {severity : Severity}
    (hrule : schema.severity? "file_paths".toList .error = some severity) (p q : Text) :
    (askedTogether p q).lookups schema = [p, q] := by
  simp only [Inspection.lookups, lookedFor, askedTogether, hrule, List.map_cons, List.map_nil,
    join_nil]

/-- If they are the same path, the second gets the answer to the first. -/
theorem findMissingFiles_askedTogether {p q : Text}
    (hsame : Path.components p = Path.components q) :
    (findMissingFiles onDisk [] 0 [⟨p, 1⟩, ⟨q, 2⟩] (.fresh 1)).1 =
      (if onDisk p then [] else [⟨p, 1⟩, ⟨q, 2⟩]).map fun entry : Entry =>
        ⟨entry.line, .missingFile entry.text⟩ := by
  have hfirst : (Memory.fresh 1).look onDisk 0 p =
      (onDisk p, ⟨1, [⟨Path.components p, onDisk p, 0⟩]⟩) := rfl
  have hsecond : (Memory.mk 1 [⟨Path.components p, onDisk p, 0⟩]).look onDisk 0 q =
      (onDisk p, ⟨1, [⟨Path.components p, onDisk p, 0⟩]⟩) := by
    simp [Memory.look, Memory.current, hsame]
  have hstill : ∀ clock : Clock, clock = 0 → clock.first = 0 ∧ clock.after 1 = 0 := by
    rintro _ rfl
    exact ⟨rfl, rfl⟩
  simp only [findMissingFiles, join_nil, hstill, hfirst, hsecond]
  cases onDisk p <;> rfl

/-- If the memory does not show in that model, the disk says the same of both paths. -/
theorem eq_of_askedTogether {severity : Severity} {p q : Text}
    (hrule : schema.severity? "file_paths".toList .error = some severity)
    (hsame : Path.components p = Path.components q)
    (h : ((askedTogether p q).perform schema onDisk (.fresh 1)).1 =
      missingIssues severity onDisk (some []) (askedTogether p q).model) :
    onDisk p = onDisk q := by
  simp only [Inspection.perform, checkInputFiles, askedTogether, hrule,
    findMissingFiles_askedTogether hsame, report_missing hrule, missingIssues] at h
  have hlength := congrArg List.length h
  rw [List.length_map, List.length_map, missingOnDisk] at hlength
  cases hp : onDisk p <;> cases hq : onDisk q <;>
    simp [join_nil, hp, hq] at hlength ⊢

/-- No sequence of checks shows that anything is remembered, as long as only such paths are asked
for, just where the disk answers alike for those of them that are the same. -/
theorem unnoticed_iff {severity : Severity}
    (hrule : schema.severity? "file_paths".toList .error = some severity) (asked : Text → Prop) :
    (∀ (lifetime : Nat) (history : List Inspection) (last : Inspection),
        (∀ i ∈ history ++ [last], ∀ path ∈ i.lookups schema, asked path) →
        (last.perform schema onDisk
            (Inspection.remember schema onDisk history (.fresh lifetime))).1 =
          missingIssues severity onDisk last.base? last.model) ↔
      AnswersAlike onDisk asked := by
  constructor
  · -- Two paths that are the same are asked for one after the other, so that the second is remembered.
    intro h p q hp hq hsame
    refine eq_of_askedTogether hrule hsame (h 1 [] (askedTogether p q) fun i hi path hpath => ?_)
    rw [List.mem_singleton.mp hi, lookups_askedTogether hrule] at hpath
    cases hpath with
    | head => exact hp
    | tail _ hmem => exact List.mem_singleton.mp hmem ▸ hq
  · intro halike lifetime history last hasked
    have hhistory : (Inspection.remember schema onDisk history (.fresh lifetime)).Truthful onDisk
        asked :=
      truthful_remember halike (fun i hi => hasked i (List.mem_append_left _ hi)) truthful_fresh
    exact checkInputFiles_of_truthful hrule halike (hasked last (by simp)) hhistory.current

/-- Rain, in a directory beside the model. -/
def rainTree : Files.Tree := ⟨[["data".toList]], [(["data".toList, "rain.csv".toList], [])]⟩

/-- However the path of the rain is written with slashes and points, it is there. -/
theorem unnoticed_rain :
    let asked :=
      ["data/rain.csv", "data//rain.csv", "data/./rain.csv", "evap.csv"].map String.toList
    Schema.default.severity? "file_paths".toList .error = some .error ∧
      ∀ (lifetime : Nat) (history : List Inspection) (last : Inspection),
        (∀ i ∈ history ++ [last], ∀ path ∈ i.lookups .default, path ∈ asked) →
        (last.perform .default (rainTree.pathExists [])
            (Inspection.remember .default (rainTree.pathExists []) history (.fresh lifetime))).1 =
          missingIssues .error (rainTree.pathExists []) last.base? last.model := by
  intro asked
  have hrule : Schema.default.severity? "file_paths".toList .error = some .error := by
    decide +kernel
  have halike : ∀ p ∈ asked, ∀ q ∈ asked, Path.components p = Path.components q →
      rainTree.pathExists [] p = rainTree.pathExists [] q := by decide +kernel
  exact ⟨hrule, (unnoticed_iff hrule (· ∈ asked)).mpr fun p q hp hq => halike p hp q hq⟩

/-- A path with a slash behind it is the same path, but there is no such file: the entry of the
second line is missing, and the memory says that it is there. -/
theorem unnoticed_trailingSlash :
    let m := Model.read "[inputs]\ndata/rain.csv\ndata/rain.csv/\n".toList
    (checkInputFiles .default (rainTree.pathExists []) 0 (some []) m
        (.fresh Memory.defaultLifetime)).1 = [] ∧
      missingIssues .error (rainTree.pathExists []) (some []) m =
        [⟨3, "Input file does not exist: data/rain.csv/".toList, .error,
          "file_not_found".toList⟩] := by
  decide +kernel

end CatchmentLint.Lint
