import CatchmentLint.Expression.Validator
import CatchmentLint.Proofs.Text.Lines
import Mathlib.Data.List.DropRight

/-!
# CatchmentLint.Proofs.Expression.Caching

What a validator keeps of the expressions that it has checked, and that its answers do not show it.

* `askedSinceClear` — the texts that were checked without a context since the last clearing;
* `Keeps` — the cache holds the first of these, as many as it has room for, each with its own
  messages; `Keeps.serve` says that each request keeps it so;
* `validate_transparent` — so every answer is that of a fresh validator.
-/

namespace CatchmentLint.Expression

/-! ## First occurrences -/

section FirstOccurrences

variable {α : Type} [BEq α] [LawfulBEq α] {a : α} {s : List α}

/-- An element that is there already adds nothing. -/
theorem eraseDups_concat_of_mem (h : a ∈ s) : (s ++ [a]).eraseDups = s.eraseDups := by
  have hnone : [a].removeAll s = [] := by simp [List.removeAll, h]
  rw [List.eraseDups_append, hnone, List.eraseDups_nil, List.append_nil]

/-- One that is new comes last. -/
theorem eraseDups_concat_of_notMem (h : a ∉ s) : (s ++ [a]).eraseDups = s.eraseDups ++ [a] := by
  have hall : [a].removeAll s = [a] := by simp [List.removeAll, h]
  rw [List.eraseDups_append, hall, List.eraseDups_cons, List.filter_nil, List.eraseDups_nil]

omit [BEq α] [LawfulBEq α] in
theorem take_concat (n : Nat) :
    (s ++ [a]).take n = if s.length < n then s.take n ++ [a] else s.take n := by
  split
  · next h =>
      have hall : (s ++ [a]).length ≤ n := by rw [List.length_append]; exact h
      rw [List.take_of_length_le hall, List.take_of_length_le h.le]
  · next h => rw [List.take_append_of_le_length (by omega)]

/-- A table of the values of a function is asked for them by its keys. -/
theorem lookup_map_mk {β : Type} (f : α → β) :
    (s.map fun b => (b, f b)).lookup a = if a ∈ s then some (f a) else none := by
  induction s with
  | nil => rfl
  | cons b s ih =>
      rw [List.map_cons, List.lookup_cons, ih]
      by_cases hab : a = b
      · simp [hab]
      · have hne : (a == b) = false := by simpa using hab
        simp [hab, hne]

end FirstOccurrences

/-! ## Requests -/

/-- What may be asked of a validator. -/
inductive Request where
  | validate (context : Context) (expression : Text)
  | clear

namespace Request

def isClear : Request → Bool
  | .validate .. => false
  | .clear => true

/-- The text that is checked, without the blanks around it, where that is done without a context. -/
def asked? : Request → Option Text
  | .validate context expression => if context.isEmpty then some (Text.trim expression) else none
  | .clear => none

end Request

/-- The cache after a request. -/
def serve (cache : Cache) : Request → Cache
  | .validate context expression => (validate cache context expression).2
  | .clear => cache.clear

/-- The cache after a sequence of requests. -/
def after (history : List Request) (cache : Cache) : Cache := history.foldl serve cache

/-- The texts checked without a context since the last clearing, in their order. -/
def askedSinceClear (history : List Request) : List Text :=
  (history.rtakeWhile (!·.isClear)).filterMap Request.asked?

/-- One request more adds its text, unless it clears. -/
theorem askedSinceClear_concat (history : List Request) (request : Request) :
    askedSinceClear (history ++ [request]) =
      if request.isClear then [] else askedSinceClear history ++ request.asked?.toList := by
  unfold askedSinceClear
  rw [List.rtakeWhile_concat]
  cases request.isClear with
  | true => rfl
  | false => cases hasked : request.asked? <;> simp [hasked]

/-! ## One check -/

section Validate

variable {cache : Cache} {context : Context} {expression : Text} {found : List Text}

/-- Blanks around an expression change nothing in its messages. -/
theorem messages_trim (context : Context) (expression : Text) :
    messages context (Text.trim expression) = messages context expression := by
  rw [messages, messages, Text.trim_trim]

/-- With a context the cache is neither read nor changed. -/
theorem validate_of_context (h : context.isEmpty = false) :
    validate cache context expression = (messages context expression, cache) := by
  simp [validate, h]

/-- A known text is answered out of the cache, which stays as it is. -/
theorem validate_of_known (h : cache.get? (Text.trim expression) = some found) :
    validate cache .empty expression = (found, cache) := by
  simp [validate, Context.isEmpty, h]

/-- An unknown text is checked, and kept if there is room. -/
theorem validate_of_unknown (h : cache.get? (Text.trim expression) = none) :
    validate cache .empty expression =
      (messages .empty expression,
        cache.insert (Text.trim expression) (messages .empty expression)) := by
  simp [validate, Context.isEmpty, h]

end Validate

/-! ## What the cache holds -/

/-- The cache holds the first of these texts, each once and with its own messages. -/
structure Keeps (capacity : Nat) (texts : List Text) (cache : Cache) : Prop where
  capacity_eq : cache.capacity = capacity
  entries_eq : cache.entries =
    (texts.eraseDups.take capacity).map fun text => (text, messages .empty text)

section Keeps

variable {capacity : Nat} {texts : List Text} {cache : Cache} {history : List Request}

/-- An empty cache keeps nothing of nothing. -/
theorem keeps_empty (capacity : Nat) : Keeps capacity [] (.empty capacity) where
  capacity_eq := rfl
  entries_eq := by rw [List.eraseDups_nil, List.take_nil, List.map_nil]; rfl

/-- The cache is as full as the texts and its room allow. -/
theorem Keeps.size_eq (h : Keeps capacity texts cache) :
    cache.size = min capacity texts.eraseDups.length := by
  rw [Cache.size, h.entries_eq, List.length_map, List.length_take]

/-- The cache knows the first texts, with their own messages. -/
theorem Keeps.get?_eq (h : Keeps capacity texts cache) (text : Text) :
    cache.get? text =
      if text ∈ texts.eraseDups.take capacity then some (messages .empty text) else none := by
  rw [Cache.get?, h.entries_eq, lookup_map_mk]

/-- What is held for a text is what is found for it anew. -/
theorem Keeps.validate_eq (h : Keeps capacity texts cache) (context : Context) (expression : Text) :
    (validate cache context expression).1 = messages context expression := by
  cases context with
  | empty =>
      cases hget : cache.get? (Text.trim expression) with
      | none => rw [validate_of_unknown hget]
      | some found =>
          have hfound := (h.get?_eq _).symm.trans hget
          rw [Option.ite_none_right_eq_some, Option.some.injEq, messages_trim] at hfound
          rw [validate_of_known hget, hfound.2]
  | model m schema => rw [validate_of_context rfl]
  | node m schema self => rw [validate_of_context rfl]

/-- A text that is not held goes behind those that are, as long as there is room. -/
theorem Keeps.insert (h : Keeps capacity texts cache) {text : Text}
    (hget : cache.get? text = none) :
    Keeps capacity (texts ++ [text]) (cache.insert text (messages .empty text)) := by
  have habsent : text ∉ texts.eraseDups.take capacity := fun hmem => by
    rw [h.get?_eq, if_pos hmem] at hget
    contradiction
  have hsize := h.size_eq
  unfold Cache.insert
  rw [if_neg (by simp [hget]), h.capacity_eq]
  by_cases hroom : cache.size < capacity
  · have hall : texts.eraseDups.length < capacity := by omega
    have hnew : text ∉ texts := fun hmem => by
      rw [List.take_of_length_le hall.le, List.mem_eraseDups] at habsent
      exact habsent hmem
    rw [if_pos hroom]
    refine ⟨rfl, ?_⟩
    rw [eraseDups_concat_of_notMem hnew, take_concat, if_pos hall, List.map_append, ← h.entries_eq]
    rfl
  · rw [if_neg hroom]
    refine ⟨h.capacity_eq, ?_⟩
    by_cases hmem : text ∈ texts
    · -- The text came before, when the cache was full already.
      rw [eraseDups_concat_of_mem hmem]
      exact h.entries_eq
    · rw [eraseDups_concat_of_notMem hmem, take_concat, if_neg (by omega)]
      exact h.entries_eq

/-- A text without a context is one more that has been checked. -/
theorem Keeps.validate_empty (h : Keeps capacity texts cache) (expression : Text) :
    Keeps capacity (texts ++ [Text.trim expression]) (validate cache .empty expression).2 := by
  cases hget : cache.get? (Text.trim expression) with
  | none =>
      rw [validate_of_unknown hget, ← messages_trim]
      exact h.insert hget
  | some found =>
      have hfound := (h.get?_eq _).symm.trans hget
      rw [Option.ite_none_right_eq_some] at hfound
      have hmem : Text.trim expression ∈ texts :=
        List.mem_eraseDups.mp (List.mem_of_mem_take hfound.1)
      rw [validate_of_known hget]
      exact ⟨h.capacity_eq, by rw [eraseDups_concat_of_mem hmem]; exact h.entries_eq⟩

/-- Each request leaves the cache with the first texts that were asked for since it was cleared. -/
theorem Keeps.serve (h : Keeps capacity (askedSinceClear history) cache) (request : Request) :
    Keeps capacity (askedSinceClear (history ++ [request])) (serve cache request) := by
  rw [askedSinceClear_concat]
  cases request with
  | clear => exact ⟨h.capacity_eq, (keeps_empty capacity).entries_eq⟩
  | validate context expression =>
      cases context with
      | empty => exact h.validate_empty expression
      | model m schema =>
          rw [Expression.serve, validate_of_context rfl]
          exact (List.append_nil (askedSinceClear history)).symm ▸ h
      | node m schema self =>
          rw [Expression.serve, validate_of_context rfl]
          exact (List.append_nil (askedSinceClear history)).symm ▸ h

/-- After any requests the cache keeps the first texts since the last clearing. -/
theorem keeps_after (capacity : Nat) (history : List Request) :
    Keeps capacity (askedSinceClear history) (after history (.empty capacity)) := by
  induction history using List.reverseRecOn with
  | nil => exact keeps_empty capacity
  | append_singleton history request ih =>
      rw [after, List.foldl_append]
      exact ih.serve request

end Keeps

/-- Whatever a validator has been asked before, it answers as a fresh one does.  What it holds then
are the first texts that were checked without a context since it was cleared, as many as it has room
for, each with the answer of a fresh validator; a check with a context passes every cache by. -/
theorem validate_transparent (capacity : Nat) (history : List Request) :
    let cache := after history (.empty capacity)
    let fresh := Cache.empty Cache.defaultCapacity
    (∀ context expression,
        (validate cache context expression).1 = (validate fresh context expression).1) ∧
      cache.entries = ((askedSinceClear history).eraseDups.take capacity).map
        (fun text => (text, (validate fresh .empty text).1)) ∧
      ∀ (other : Cache) m schema expression,
        validate other (.model m schema) expression =
            ((validate fresh (.model m schema) expression).1, other) ∧
          ∀ self, validate other (.node m schema self) expression =
            ((validate fresh (.node m schema self) expression).1, other) := by
  intro cache fresh
  have hcache : Keeps capacity (askedSinceClear history) cache := keeps_after capacity history
  have hfresh : ∀ context expression,
      (validate fresh context expression).1 = messages context expression := (keeps_empty _).validate_eq
  refine ⟨fun context expression => ?_, ?_, fun other m schema expression => ⟨?_, fun self => ?_⟩⟩
  · rw [hcache.validate_eq, hfresh]
  · simp only [hfresh]
    exact hcache.entries_eq
  · rw [hfresh, validate_of_context rfl]
  · rw [hfresh, validate_of_context rfl]

example :
    let requests := [" x", "max(1)", "y ", "max(1) ", "z"].map fun s => .validate .empty s.toList
    (after (requests.take 1 ++ .clear :: requests.drop 1) (.empty 2)).entries.map Prod.fst =
      ["max(1)".toList, ['y']] := by
  decide +kernel

end CatchmentLint.Expression
