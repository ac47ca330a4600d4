import DiffContents.Buckets
import DiffContents.Record

/-!
# Tables of contents

A table of contents lists, under a key for each file, the declarations that changed and the
regions that could not be parsed.

* `Item.ofRecord?` is what a record contributes: an unparseable region is a fault, any other
  edit is an entry for its context, and an edit without a context contributes nothing;
* `Contents.push` and `Contents.merge` build a table up;
* `Contents.counts` counts its entries, and `Counts.text` puts the counts into words.
-/

namespace DiffContents

/-- The key for a pair of paths: the one path there is, the common path, or both with an arrow
between them. -/
def pathKey (before after : String) : String :=
  if before = "" then after
  else if after = "" then before
  else if before = after then after
  else before ++ " -> " ++ after

/-- **A changed declaration.** -/
structure Entry where
  change : Change
  category : Category
  name : String
  span : Span
deriving DecidableEq, Repr, Inhabited

/-- **A region that could not be parsed**, with its text. -/
structure Fault where
  message : String
  span : Span
deriving DecidableEq, Repr, Inhabited

/-- What a record contributes to a table of contents. -/
inductive Item where
  | entry (entry : Entry)
  | fault (fault : Fault)
deriving DecidableEq, Repr, Inhabited

namespace Item

/-- The entry for a context. -/
def ofContext (c : Context) : Entry :=
  ⟨c.change, c.declaration.category, c.declaration.name, c.declaration.span⟩

/-- **What a record contributes.**  A region that could not be parsed is a fault whatever it is
reported under; otherwise the context speaks for the record. -/
def ofRecord? (r : Record) : Option Item :=
  if r.isError then some (.fault ⟨r.info.name, r.info.span⟩)
  else r.context.map fun c => .entry (ofContext c)

end Item

/-- **A tally of changes.** -/
structure Counts where
  added : UInt32
  removed : UInt32
  modified : UInt32
  faults : UInt32
deriving DecidableEq, Repr, Inhabited

namespace Counts

/-- Nothing counted yet. -/
def zero : Counts := ⟨0, 0, 0, 0⟩

/-- One more change. -/
def record (c : Counts) : Change → Counts
  | .added => { c with added := c.added + 1 }
  | .removed => { c with removed := c.removed + 1 }
  | .modified => { c with modified := c.modified + 1 }

/-- A count with its noun, unless it is zero. -/
def part (n : UInt32) (noun : String) : List String :=
  if n = 0 then [] else [toString n.toNat ++ " " ++ noun]

/-- The tally in words. -/
def text (c : Counts) : String :=
  match part c.added "added" ++ part c.removed "removed" ++ part c.modified "modified" ++
      part c.faults "parse errors" with
  | [] => "No changes"
  | parts => String.intercalate ", " parts

end Counts

/-- **A table of contents**: entries and faults under the keys of their files. -/
structure Contents where
  entries : Buckets Entry
  faults : Buckets Fault

namespace Contents

/-- A table without entries. -/
def empty : Contents := ⟨.empty, .empty⟩

instance : Inhabited Contents := ⟨empty⟩

/-- One more item under a key. -/
def push (c : Contents) (key : String) : Item → Contents
  | .entry e => { c with entries := c.entries.append key [e] }
  | .fault f => { c with faults := c.faults.append key [f] }

/-- The items of another table behind those of this one, key by key. -/
def merge (c d : Contents) : Contents := ⟨c.entries.merge d.entries, c.faults.merge d.faults⟩

/-- The table of a list of records, all under one key. -/
def ofRecords (key : String) (records : List Record) : Contents :=
  (records.filterMap Item.ofRecord?).foldl (fun c item => c.push key item) empty

/-- There are neither entries nor faults. -/
def isEmpty (c : Contents) : Bool := c.entries.isEmpty && c.faults.isEmpty

/-- An increasing list of keys with one more key, unless it is there already. -/
def insertKey (key : String) : List String → List String
  | [] => [key]
  | k :: ks =>
    if key < k then key :: k :: ks else if key = k then k :: ks else k :: insertKey key ks

/-- The tally of the table: its entries by change, and its faults. -/
def counts (c : Contents) : Counts :=
  { (c.entries.items.foldl (fun n e => n.record e.change) Counts.zero) with
    faults := UInt32.ofNat c.faults.items.length }

/-- The keys of the table, increasing, each one once. -/
def keys (c : Contents) : List String := c.faults.keys.foldr insertKey c.entries.keys

@[simp] theorem merge_empty (c : Contents) : c.merge empty = c := rfl

@[simp] theorem ofRecords_nil (key : String) : ofRecords key [] = empty := rfl

end Contents

end DiffContents
