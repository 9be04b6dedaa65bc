import CatchmentLint.Toml.Value

/-!
# CatchmentLint.Toml.Record

Reading values of known shape.

1. A record is written as a table, where unknown keys count for nothing but their values must be
   readable, or as an array of its fields in their order, where nobody reads further items.
2. A field that may be left out of a table has a default or none; only one with a default may be
   left out of an array.
3. A date or time is a table of unknown keys.
4. A choice is written as its name, or as a table with that name as its only key and an empty
   value.
5. A number may be written as an integer of 64 bits, with a sign or without.
-/

namespace CatchmentLint.Toml

namespace Value

/-- The text of a string. -/
def text? : Value → Option Text
  | .string s => some s
  | _ => none

def boolean? : Value → Option Bool
  | .boolean b => some b
  | _ => none

/-- Whether an integer fits 64 bits, with a sign or without. -/
def fits64 (i : Int) : Bool := -(twoTo 63 : Int) ≤ i && i < twoTo 64

/-- An integer that is not negative. -/
def natural? : Value → Option Nat
  | .integer i => if 0 ≤ i ∧ fits64 i then some i.toNat else none
  | _ => none

/-- A number of either kind, rounded to 64 bits. -/
def number? : Value → Option Binary64
  | .float x => some x
  | .integer i => if fits64 i then some (.ofInt i) else none
  | _ => none

def texts? : Value → Option (List Text)
  | .array items => items.mapM text?
  | _ => none

/-- The name of a choice. -/
def choice? : Value → Option Text
  | .string s => some s
  | .table [(name, .table [])] => some name
  | .table [(name, .array [])] => some name
  | _ => none

/-- The values of a table under their keys. -/
def map? {α : Type} (read : Value → Option α) : Value → Option (List (Text × α))
  | .table entries => entries.mapM fun (key, v) => (read v).map (key, ·)
  | _ => none

end Value

/-- The values of a record, as they are written. -/
inductive Fields where
  | named (entries : List (Text × Value))
  | positional (items : List Value)

/-- A record, whose fields have names and an order. -/
structure Record where
  names : List String
  fields : Fields

namespace Record

/-- The record in a table, which may have other keys than the names of fields. -/
def ofTable? (names : List String) (entries : List (Text × Value)) : Option Record :=
  if entries.all fun entry => names.any (·.toList == entry.1) || entry.2.isReadable then
    some ⟨names, .named entries⟩
  else none

/-- The record with fields of these names in a value. -/
def ofValue? (names : List String) : Value → Option Record
  | .table entries => ofTable? names entries
  | .moment => some ⟨names, .named []⟩
  | .array items => some ⟨names, .positional items⟩
  | _ => none

/-- The value of a field. -/
def field? (r : Record) (name : String) : Option Value :=
  match r.fields with
  | .named entries => entries.lookup name.toList
  | .positional items => items[r.names.idxOf name]?

/-- A field that must be there. -/
def required {α : Type} (r : Record) (name : String) (read : Value → Option α) : Option α :=
  (r.field? name).bind read

/-- A field that has a default where it is left out. -/
def withDefault {α : Type} (r : Record) (name : String) (read : Value → Option α)
    (default : α) : Option α :=
  match r.field? name with
  | some v => read v
  | none => some default

/-- A field that may be left out, and then has no value. -/
def optional {α : Type} (r : Record) (name : String) (read : Value → Option α) :
    Option (Option α) :=
  match r.field? name, r.fields with
  | some v, _ => (read v).map some
  | none, .named _ => some none
  | none, .positional _ => none

end Record

end CatchmentLint.Toml
