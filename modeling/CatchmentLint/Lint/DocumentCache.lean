import CatchmentLint.Binary64.Basic
import CatchmentLint.Files.Path
import CatchmentLint.Lint.InputFiles

/-!
# CatchmentLint.Lint.DocumentCache

The issues of whole documents, under their texts and the directories that their files were looked
for in.

1. An entry is good for a lifetime; after that a lookup or an insertion removes it.
2. Where the cache is full, a new entry drives out the oldest one.  Inserting again makes an entry
   new.
3. Every lookup counts as a hit or a miss, and every entry that is removed as an eviction, but for
   those that clearing removes.
-/

namespace CatchmentLint.Lint

/-- What two requests must have in common to be answered alike. -/
structure DocumentKey where
  content : Text
  base : Option (List Path.Component)
  deriving DecidableEq, Repr

/-- Directories are the same where their components are, however they are written. -/
def DocumentKey.of (content : Text) (base? : Option Text) : DocumentKey :=
  ⟨content, base?.map Path.components⟩

/-- An answer that is kept, and since when. -/
structure CachedDocument where
  key : DocumentKey
  issues : List Issue
  storedAt : Moment
  deriving DecidableEq, Repr

/-- The oldest entry stands first. -/
structure DocumentCache where
  capacity : Nat
  lifetime : Nat
  entries : List CachedDocument
  hits : Nat
  misses : Nat
  evictions : Nat
  deriving Repr

namespace DocumentCache

def fresh (capacity lifetime : Nat) : DocumentCache := ⟨capacity, lifetime, [], 0, 0, 0⟩

def defaultCapacity : Nat := 100

def defaultLifetime : Nat := 300000

def size (c : DocumentCache) : Nat := c.entries.length

/-- Whether the entry is young enough to be given. -/
def isGood (c : DocumentCache) (now : Moment) (e : CachedDocument) : Bool :=
  now - e.storedAt < c.lifetime

/-- The issues of a document, and the cache after the lookup. -/
def get (c : DocumentCache) (now : Moment) (key : DocumentKey) :
    Option (List Issue) × DocumentCache :=
  match c.entries.find? (·.key = key) with
  | some e =>
    if c.isGood now e then (some e.issues, { c with hits := c.hits + 1 })
    else
      (none,
        { c with
          entries := c.entries.filter (·.key ≠ key)
          evictions := c.evictions + 1
          misses := c.misses + 1 })
  | none => (none, { c with misses := c.misses + 1 })

/-- The entries that stay when `key` is inserted. -/
def kept (c : DocumentCache) (now : Moment) (key : DocumentKey) : List CachedDocument :=
  let good := c.entries.filter (c.isGood now)
  if good.any (·.key = key) then good
  else if c.capacity ≤ good.length then good.drop 1
  else good

/-- Keeps an answer: what is too old goes first, and then the oldest if there is no room. -/
def insert (now : Moment) (key : DocumentKey) (issues : List Issue) (c : DocumentCache) :
    DocumentCache :=
  if c.capacity = 0 then c
  else
    let kept := c.kept now key
    { c with
      entries := kept.filter (·.key ≠ key) ++ [⟨key, issues, now⟩]
      evictions := c.evictions + (c.entries.length - kept.length) }

/-- Without its entries; the counts stay. -/
def clear (c : DocumentCache) : DocumentCache := { c with entries := [] }

/-- The share of lookups that were hits. -/
def hitRatio (c : DocumentCache) : Binary64 :=
  if c.hits + c.misses = 0 then .zero false else .ofRatio false c.hits (c.hits + c.misses)

end DocumentCache

end CatchmentLint.Lint
