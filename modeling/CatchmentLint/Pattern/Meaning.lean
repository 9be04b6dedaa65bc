import CatchmentLint.Pattern.CharRanges
import CatchmentLint.Pattern.Reader
import CatchmentLint.Pattern.Regex
import CatchmentLint.Pattern.Unicode.Age
import CatchmentLint.Pattern.Unicode.Break
import CatchmentLint.Pattern.Unicode.Digit
import CatchmentLint.Pattern.Unicode.Script
import CatchmentLint.Pattern.Unicode.Word

/-!
# CatchmentLint.Pattern.Meaning

From the written form of a pattern to the regular expression that it means.

1. A directive such as `(?i)` changes the flags for all that follows in its group, later branches
   included; the flags of a group such as `(?i: )` hold inside it.
2. Where the flag `u` is off, classes and places know ASCII only, and a pattern has no meaning if
   it could match a part of a character: no dot, no negated class, no byte above `7F`.
3. Case is folded before a class is negated, and on both sides of a set operation.
4. A property is named by its own name, by a general category or by a script, in any case and
   without regard to blanks, `_`, `-` and a leading `is`.
-/

namespace CatchmentLint.Pattern

/-! ## Flags -/

/-- The flags that are on at a place of a pattern. -/
structure Flags where
  ignoreCase : Bool
  multiLine : Bool
  dotMatchesLineFeed : Bool
  swapGreed : Bool
  unicode : Bool
  crlf : Bool

namespace Flags

/-- Unicode is on where a pattern begins, and nothing else. -/
def initial : Flags := ⟨false, false, false, false, true, false⟩

/-- The flags after some have been changed; the others stay. -/
def apply (flags : Flags) (changes : FlagChanges) : Flags :=
  { ignoreCase := (changes.value? .ignoreCase).getD flags.ignoreCase
    multiLine := (changes.value? .multiLine).getD flags.multiLine
    dotMatchesLineFeed := (changes.value? .dotMatchesLineFeed).getD flags.dotMatchesLineFeed
    swapGreed := (changes.value? .swapGreed).getD flags.swapGreed
    unicode := (changes.value? .unicode).getD flags.unicode
    crlf := (changes.value? .crlf).getD flags.crlf }

end Flags

/-! ## Properties -/

/-- The loose form of a name. -/
def looseName (name : Text) : Text :=
  let lower := Text.lowerAscii name
  let (lead, body) := match lower with
    | 'i' :: 's' :: rest => (true, rest)
    | rest => (false, rest)
  let kept := body.filter fun c => c.toNat < 0x80 && c != ' ' && c != '_' && c != '-'
  if lead ∧ kept = ['c'] then "isc".toList else kept

/-- The characters of a category under a loose name, and of the three sets that are no category. -/
def categorySet? (name : Text) : Option CharRanges :=
  if name = "any".toList then some .full
  else if name = "assigned".toList then
    (Unicode.category? "unassigned".toList).map fun ranges => (CharRanges.canonical ranges).complement
  else if name = "ascii".toList then some [(0, 0x7F)]
  else Unicode.category? name

/-- Three names of categories are names of properties with values as well, and stand for the
former here. -/
def namedSet? (name : Text) : Option CharRanges :=
  let own := if ["cf", "sc", "lc"].any (·.toList == name) then none else Unicode.property? name
  match own with
  | some ranges => some ranges
  | none =>
    match categorySet? name with
    | some set => some set
    | none => Unicode.script? Unicode.scriptRuns name

/-- What the values of a property with values name, if it is one. -/
def valuedProperty? (name : Text) : Option (Text → Option CharRanges) :=
  (table.find? fun entry => entry.1.any (·.toList == name)).map Prod.snd
where
  table : List (List String × (Text → Option CharRanges)) :=
    [(["gc", "generalcategory"], categorySet?),
     (["sc", "script"], Unicode.script? Unicode.scriptRuns),
     (["scx", "scriptextensions"], Unicode.script? Unicode.sharedScriptRuns),
     (["age"], Unicode.age?),
     (["gcb", "graphemeclusterbreak"], Unicode.break? .graphemes),
     (["wb", "wordbreak"], Unicode.break? .words),
     (["sb", "sentencebreak"], Unicode.break? .sentences)]

/-- The characters that a property names, if there is such a property. -/
def PropertyQuery.set? (query : PropertyQuery) : Option CharRanges :=
  let set :=
    match query with
    | .named name => namedSet? (looseName name)
    | .valued name value _ =>
      (valuedProperty? (looseName name)).bind fun values => values (looseName value)
  set.map CharRanges.canonical

/-- Whether the characters without the value are asked for. -/
def PropertyQuery.isUnequal : PropertyQuery → Bool
  | .named _ => false
  | .valued _ _ unequal => unequal

/-! ## Classes -/

/-- The set with the other cases of its letters, where cases are to be ignored. -/
def fold (flags : Flags) (set : CharRanges) : CharRanges :=
  if !flags.ignoreCase then set else if flags.unicode then set.folded else set.foldedAscii

/-- Folds, then negates; the negation of a set of ASCII characters holds parts of others. -/
def foldAndNegate (flags : Flags) (negated : Bool) (set : CharRanges) : Option CharRanges :=
  if !negated then some (fold flags set)
  else if flags.unicode then some (fold flags set).complement
  else none

def asciiDigits : CharRanges := [(0x30, 0x39)]

def asciiBlanks : CharRanges := [(0x09, 0x0D), (0x20, 0x20)]

def asciiWord : CharRanges := [(0x30, 0x39), (0x41, 0x5A), (0x5F, 0x5F), (0x61, 0x7A)]

/-- The characters of words. -/
def wordSet (flags : Flags) : CharRanges := if flags.unicode then Unicode.wordRanges else asciiWord

/-- The characters of `\d`, `\s` and `\w`, and of their negations where Unicode is on. -/
def perlSet? (flags : Flags) (cls : PerlClass) (negated : Bool) : Option CharRanges :=
  let set :=
    match cls with
    | .digit => if flags.unicode then Unicode.digitRanges else asciiDigits
    | .space => if flags.unicode then blankRanges else asciiBlanks
    | .word => wordSet flags
  if !negated then some set else if flags.unicode then some set.complement else none

/-- The characters of `\p{..}`, which needs Unicode. -/
def propertySet? (flags : Flags) (query : PropertyQuery) (negated : Bool) : Option CharRanges :=
  if !flags.unicode then none
  else query.set?.bind (foldAndNegate flags (negated != query.isUnequal))

/-- A character of a class; where Unicode is off it must be ASCII. -/
def member? (flags : Flags) (l : Literal) : Option Nat :=
  if flags.unicode ∨ l.char.toNat < 0x80 then some l.char.toNat else none

/-- Sets are folded before they are held against one another. -/
def operate (flags : Flags) (op : SetOperation) (a b : CharRanges) : CharRanges :=
  let a := fold flags a
  let b := fold flags b
  match op with
  | .intersection => a.inter b
  | .difference => a.diff b
  | .symmetricDifference => a.symmDiff b

mutual

/-- The set that is put together with the others of its class. -/
def ClassSet.meaning? (flags : Flags) : ClassSet → Option CharRanges
  | .empty => some []
  | .literal l => (member? flags l).map .single
  | .range lo hi => do return [(← member? flags lo, ← member? flags hi)]
  | .ascii ranges negated => (foldAndNegate flags negated ranges).map .canonical
  | .property query negated => (propertySet? flags query negated).map .canonical
  | .perl cls negated => (perlSet? flags cls negated).map .canonical
  | .bracketed negated set =>
    ((set.meaning? flags).bind (foldAndNegate flags negated)).map .canonical
  | .union items => ClassSet.unionMeaning? flags items
  | .operation op lhs rhs => do
    return .canonical (operate flags op (← lhs.meaning? flags) (← rhs.meaning? flags))

/-- The sets of the items together. -/
def ClassSet.unionMeaning? (flags : Flags) : List ClassSet → Option CharRanges
  | [] => some []
  | item :: items => do return .union (← item.meaning? flags) (← ClassSet.unionMeaning? flags items)

end

/-! ## Patterns -/

/-- A character means itself, or itself in either case.  A byte beyond ASCII that is written as such
means nothing where Unicode is off. -/
def literalMeaning? (flags : Flags) (l : Literal) : Option Regex :=
  let code := l.char.toNat
  if !flags.unicode && l.spelling == .byte && 0x80 ≤ code then none
  else if flags.unicode || code < 0x80 then some (.set (fold flags (.single code)))
  else some (.set (.single code))

/-- Any character but the end of a line, unless that is allowed as well. -/
def dotMeaning? (flags : Flags) : Option Regex :=
  let excluded : CharRanges :=
    if flags.dotMatchesLineFeed then []
    else if flags.crlf then [(0x0A, 0x0A), (0x0D, 0x0D)]
    else [(0x0A, 0x0A)]
  if flags.unicode then some (.set excluded.complement) else none

/-- What a place asks of the characters around it. -/
def placeMeaning (flags : Flags) : Place → Condition
  | .caret => if flags.multiLine then .lineStart flags.crlf else .textStart
  | .dollar => if flags.multiLine then .lineEnd flags.crlf else .textEnd
  | .textStart => .textStart
  | .textEnd => .textEnd
  | .wordBoundary => .wordBoundary (wordSet flags)
  | .notWordBoundary => .notWordBoundary (wordSet flags)
  | .wordStart => .wordStart (wordSet flags)
  | .wordEnd => .wordEnd (wordSet flags)
  | .wordStartHalf => .wordStartHalf (wordSet flags)
  | .wordEndHalf => .wordEndHalf (wordSet flags)

mutual

/-- The meaning where `flags` are on, and the flags that are on after it. -/
def Ast.meaning? (flags : Flags) : Ast → Option (Regex × Flags)
  | .empty => some (.empty, flags)
  | .directive changes => some (.empty, flags.apply changes)
  | .literal l => (literalMeaning? flags l).map (·, flags)
  | .dot => (dotMeaning? flags).map (·, flags)
  | .place p => some (.condition (placeMeaning flags p), flags)
  | .property query negated => (propertySet? flags query negated).map (.set ·, flags)
  | .perl cls negated => (perlSet? flags cls negated).map (.set ·, flags)
  | .bracketed negated set =>
    ((set.meaning? flags).bind (foldAndNegate flags negated)).map (.set ·, flags)
  | .repetition min max lazy body => do
    let (r, flags) ← body.meaning? flags
    return (.loop min max (lazy != flags.swapGreed) r, flags)
  | .group captures changes body => do
    let (r, _) ← body.meaning? (flags.apply changes)
    return (if captures then .capture r else r, flags)
  | .alternation branches => Ast.branchesMeaning? flags branches
  | .sequence items => Ast.itemsMeaning? flags items

/-- One item after the other, each under the flags that the one before leaves. -/
def Ast.itemsMeaning? (flags : Flags) : List Ast → Option (Regex × Flags)
  | [] => some (.empty, flags)
  | item :: items => do
    let (r, flags) ← item.meaning? flags
    let (rest, flags) ← Ast.itemsMeaning? flags items
    return (r.andThen rest, flags)

/-- The branches in their order; flags last over the end of a branch. -/
def Ast.branchesMeaning? (flags : Flags) : List Ast → Option (Regex × Flags)
  | [] => some (.set [], flags)
  | branch :: branches => do
    let (r, flags) ← branch.meaning? flags
    let (rest, flags) ← Ast.branchesMeaning? flags branches
    return (.alt r rest, flags)

end

end CatchmentLint.Pattern
