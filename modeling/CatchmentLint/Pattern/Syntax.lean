import CatchmentLint.Text.Basic

/-!
# CatchmentLint.Pattern.Syntax

The written form of a pattern, as a tree.  What a node means depends on the flags that are on
where it stands, so the tree keeps flags as they are written.

A pattern may nest at most `maxNesting` deep, counting repetitions, groups, bracketed classes, set
operations, and every sequence, alternation or class with two members or more.
-/

namespace CatchmentLint.Pattern

/-! ## Flags -/

/-- What can be switched in a pattern. -/
inductive Flag where
  | ignoreCase
  | multiLine
  | dotMatchesLineFeed
  | swapGreed
  | unicode
  | crlf
  | verbose
  deriving DecidableEq, Repr

/-- The flag that a letter switches. -/
def Flag.ofChar? : Char → Option Flag
  | 'i' => some .ignoreCase
  | 'm' => some .multiLine
  | 's' => some .dotMatchesLineFeed
  | 'U' => some .swapGreed
  | 'u' => some .unicode
  | 'R' => some .crlf
  | 'x' => some .verbose
  | _ => none

/-- The flags of a group or directive, each with what it is set to. -/
abbrev FlagChanges := List (Flag × Bool)

/-- What the changes set `flag` to, if they name it. -/
def FlagChanges.value? (changes : FlagChanges) (flag : Flag) : Option Bool := changes.lookup flag

/-! ## Single characters and places -/

/-- How a character is written: as `\xHH`, which stands for a byte where Unicode is off, or in any
other way. -/
inductive Spelling where
  | plain
  | byte
  deriving DecidableEq, Repr

/-- A character that stands for itself, and how it is written. -/
structure Literal where
  char : Char
  spelling : Spelling
  deriving DecidableEq, Repr

/-- The classes `\d`, `\s` and `\w`. -/
inductive PerlClass where
  | digit
  | space
  | word
  deriving DecidableEq, Repr

/-- The inside of `\p`: one letter, a name, or a name with a value, where `≠` is written `!=`. -/
inductive PropertyQuery where
  | named (name : Text)
  | valued (name value : Text) (unequal : Bool)
  deriving DecidableEq, Repr

/-- A place between two characters, as it is written. -/
inductive Place where
  | caret
  | dollar
  | textStart
  | textEnd
  | wordBoundary
  | notWordBoundary
  | wordStart
  | wordEnd
  | wordStartHalf
  | wordEndHalf
  deriving DecidableEq, Repr

/-! ## Classes -/

/-- What `&&`, `--` and `~~` do. -/
inductive SetOperation where
  | intersection
  | difference
  | symmetricDifference
  deriving DecidableEq, Repr

/-- The inside of a class in brackets. -/
inductive ClassSet where
  | empty
  | literal (l : Literal)
  | range (lo hi : Literal)
  | ascii (ranges : CharRanges) (negated : Bool)
  | property (query : PropertyQuery) (negated : Bool)
  | perl (cls : PerlClass) (negated : Bool)
  | bracketed (negated : Bool) (set : ClassSet)
  | union (items : List ClassSet)
  | operation (op : SetOperation) (lhs rhs : ClassSet)
  deriving Repr

/-- The set of the items between two operators. -/
def ClassSet.ofItems : List ClassSet → ClassSet
  | [] => .empty
  | [item] => item
  | items => .union items

/-! ## Patterns -/

/-- A pattern as it is written. -/
inductive Ast where
  | empty
  | directive (changes : FlagChanges)
  | literal (l : Literal)
  | dot
  | place (p : Place)
  | property (query : PropertyQuery) (negated : Bool)
  | perl (cls : PerlClass) (negated : Bool)
  | bracketed (negated : Bool) (set : ClassSet)
  /-- A repetition, which prefers fewer turns if it is `lazy`. -/
  | repetition (min : Nat) (max : Option Nat) (lazy : Bool) (body : Ast)
  /-- A group, which `captures` what it matches or only sets flags. -/
  | group (captures : Bool) (changes : FlagChanges) (body : Ast)
  | alternation (branches : List Ast)
  | sequence (items : List Ast)
  deriving Repr

namespace Ast

/-- The items of a branch as one pattern. -/
def ofItems : List Ast → Ast
  | [] => .empty
  | [item] => item
  | items => .sequence items

/-- The branches of a pattern as one. -/
def ofBranches : List Ast → Ast
  | [branch] => branch
  | branches => .alternation branches

/-- Whether a repetition operator may follow. -/
def isRepeatable : Ast → Bool
  | .empty | .directive _ => false
  | _ => true

end Ast

/-! ## Nesting -/

/-- How deep a pattern may nest. -/
def maxNesting : Nat := 250

mutual

/-- How deep a class nests. -/
def ClassSet.depth : ClassSet → Nat
  | .bracketed _ set => set.depth + 1
  | .union items => ClassSet.maxDepth items + 1
  | .operation _ lhs rhs => max lhs.depth rhs.depth + 1
  | _ => 0

def ClassSet.maxDepth : List ClassSet → Nat
  | [] => 0
  | item :: items => max item.depth (ClassSet.maxDepth items)

end

mutual

/-- How deep a pattern nests. -/
def Ast.depth : Ast → Nat
  | .bracketed _ set => set.depth + 1
  | .repetition _ _ _ body => body.depth + 1
  | .group _ _ body => body.depth + 1
  | .alternation branches => Ast.maxDepth branches + 1
  | .sequence items => Ast.maxDepth items + 1
  | _ => 0

def Ast.maxDepth : List Ast → Nat
  | [] => 0
  | ast :: asts => max ast.depth (Ast.maxDepth asts)

end

end CatchmentLint.Pattern
