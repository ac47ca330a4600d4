import DiffContents.Record

/-!
# Removing repeated records

Records are read in order, and some are dropped because a kept record speaks for them already.

* A record with the context of a kept one, or without a context when a kept one has none
  either, is dropped.
* A record whose context is like that of a kept record of an edited declaration is dropped, and
  the kept one is from then on reported as modified.

`Record.dedup` is the list of records kept, in order; `dedup_append` says that it may be computed
in stages.
-/

namespace DiffContents

namespace Record

/-- The kept record already stands for the same context, or for the same absence of one. -/
def covers (kept r : Record) : Bool := decide (kept.context = r.context)

/-- The kept record is of an edited declaration that the incoming one is about as well. -/
def absorbs (kept r : Record) : Bool :=
  match kept.context, r.context with
  | some (.edited declaration _), some context => declaration.alike context.declaration
  | _, _ => false

/-- The record with its context reported as modified. -/
def asModified (r : Record) : Record := { r with context := r.context.map Context.asModified }

/-- The first record that absorbs the incoming one, reported as modified; none if there is no
such record. -/
def absorb (r : Record) : List Record → Option (List Record)
  | [] => none
  | k :: ks =>
    if k.absorbs r then some (k.asModified :: ks) else (absorb r ks).map (k :: ·)

/-- The kept records after one more. -/
def keep (kept : List Record) (r : Record) : List Record :=
  if kept.any (·.covers r) then kept
  else (absorb r kept).getD (kept ++ [r])

/-- **The records that remain** when every record is kept, absorbed or dropped in turn. -/
def dedup (records : List Record) : List Record := records.foldl keep []

@[simp] theorem dedup_nil : dedup [] = [] := rfl

/-- Records may be deduplicated in stages, each stage going on from the records kept so far. -/
theorem dedup_append (xs ys : List Record) : dedup (xs ++ ys) = ys.foldl keep (dedup xs) := by
  simp [dedup]

end Record

end DiffContents
