import CatchmentLint.Lint.DocumentCache

/-!
# CatchmentLint.Lint.Readings

The cache of documents once more, with the clock read anew for every age, and with the entries
looked through in any order.

1. A lookup reads the clock for the entry that it finds, and once more before it removes one that is
   too old.
2. An insertion reads the clock for each entry, and removes those that are too old; then it reads the
   clock for the new entry.
3. A cache that is full all the same removes an entry than which none is older.
-/

namespace CatchmentLint.Lint

/-- What the clock says while one request is served, and how the entries are looked through. -/
structure Readings where
  clock : Clock
  order : List CachedDocument → List CachedDocument
  order_perm : ∀ entries, (order entries).Perm entries

/-- The clock stands still, and the entries are looked through as they stand. -/
def Readings.still (now : Moment) : Readings := ⟨⟨fun _ => now⟩, id, fun _ => .refl _⟩

namespace DocumentCache

/-- The entries that are found good, or too old, when each is looked at in its turn. -/
def found (c : DocumentCache) (r : Readings) (good : Bool) : List CachedDocument :=
  ((r.order c.entries).zipIdx.filter fun (e, i) => c.isGood (r.clock.reading i) e == good).map
    Prod.fst

/-- The first of the entries than which none has been stored earlier. -/
def oldest? : List CachedDocument → Option CachedDocument
  | [] => none
  | e :: rest =>
    match oldest? rest with
    | none => some e
    | some d => if d.storedAt < e.storedAt then some d else some e

/-- The issues of a document, and the cache after the lookup. -/
def getBy (c : DocumentCache) (r : Readings) (key : DocumentKey) :
    Option (List Issue) × DocumentCache :=
  match c.entries.find? (·.key = key) with
  | none => (none, { c with misses := c.misses + 1 })
  | some e =>
    if c.isGood (r.clock.reading 0) e then (some e.issues, { c with hits := c.hits + 1 })
    else if c.isGood (r.clock.reading 1) e then (none, { c with misses := c.misses + 1 })
    else
      (none,
        { c with
          entries := c.entries.filter (·.key ≠ key)
          evictions := c.evictions + 1
          misses := c.misses + 1 })

/-- The entry that has to go for a new document, where the good entries fill the cache. -/
def victim? (c : DocumentCache) (key : DocumentKey) (good : List CachedDocument) :
    Option CachedDocument :=
  if !good.any (·.key = key) && c.capacity ≤ good.length then oldest? good else none

/-- The good entries that stay. -/
def spared (c : DocumentCache) (key : DocumentKey) (good : List CachedDocument) :
    List CachedDocument :=
  good.filter fun e => !(c.victim? key good).any (·.key = e.key)

def insertBy (r : Readings) (key : DocumentKey) (issues : List Issue) (c : DocumentCache) :
    DocumentCache :=
  if c.capacity = 0 then c
  else
    let good := c.found r true
    let expired := c.entries.length - good.length
    { c with
      entries :=
        (c.spared key good).filter (·.key ≠ key) ++
          [⟨key, issues, r.clock.reading c.entries.length⟩]
      evictions := c.evictions + expired + (c.victim? key good).isSome.toNat }

end DocumentCache

end CatchmentLint.Lint
