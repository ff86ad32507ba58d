/-
Module: CacheDirectory.Access.Table
Purpose: The access held on every key. A key is tracked from before its first
  grant until it is pruned, once nobody holds it or is giving it up.
Trusted boundary: none
Main exports: Table, Table.entry, Table.track, Table.prune, Table.grant,
  Table.revise, Table.forceRelease
-/
import CacheDirectory.Access.Entry

namespace CacheDirectory

open Std

/-- The states of the keys that are tracked. -/
structure Table where
  entries : ExtTreeMap Key Entry := ∅

instance : Inhabited Table := ⟨{}⟩

namespace Table

/-- The state of a key; a key that is not tracked has the empty state. -/
def entry (table : Table) (key : Key) : Entry :=
  table.entries.getD key {}

/-- Whether a key is tracked. -/
def tracks (table : Table) (key : Key) : Bool :=
  table.entries.contains key

/-- Track a key from now on, with nobody on it unless it is tracked already. -/
def track (table : Table) (key : Key) : Table :=
  ⟨table.entries.insertIfNew key {}⟩

/-- Record the state of a key. The key is tracked even if the state is empty. -/
def write (table : Table) (key : Key) (entry : Entry) : Table :=
  ⟨table.entries.insert key entry⟩

/-- Track a key no longer if nobody is left on it. -/
def prune (table : Table) (key : Key) : Table :=
  ⟨if (table.entry key).isEmpty then table.entries.erase key else table.entries⟩

/-- Grant `mode` on `key` to `node`. -/
def grant (table : Table) (node : NodeId) (key : Key) (mode : Mode) : Grant × Table :=
  let (outcome, entry) := (table.entry key).grant node mode
  (outcome, table.write key entry)

/-- Turn `node`'s read access to `key` into write access, if it has that. -/
def upgrade (table : Table) (node : NodeId) (key : Key) : Option (Grant × Table) :=
  table.entries[key]?.bind fun entry =>
    (entry.upgrade node).map fun (outcome, entry) => (outcome, table.write key entry)

/-- Change the state of a key that is tracked; then track it no longer if nobody is
left on it. The answer is that of the change, and no for a key that is not tracked. -/
def revise (table : Table) (key : Key) (change : Entry → Bool × Entry) : Bool × Table :=
  let (answer, revised) :=
    match table.entries[key]? with
    | none => (false, table)
    | some entry =>
      let (answer, entry) := change entry
      (answer, table.write key entry)
  (answer, revised.prune key)

/-- Drop `node`'s access to `key`. The answer is whether it had any. -/
def release (table : Table) (node : NodeId) (key : Key) : Bool × Table :=
  table.revise key (·.release node)

/-- Record that `node` gave up `key` as asked. The answer is whether it had
been asked. -/
def completeRelease (table : Table) (node : NodeId) (key : Key) : Bool × Table :=
  table.revise key (·.completeRelease node)

/-- Remove every trace of `node` from the keys that satisfy `scope`, and track those of
them no longer that nobody is left on. The answer is the number of keys it was removed
from. -/
def forceRelease (table : Table) (node : NodeId) (scope : Key → Bool) : Nat × Table :=
  let affected := table.entries.toList.countP fun (key, entry) => scope key && entry.involves node
  let remaining := table.entries.filterMap fun key entry =>
    if scope key then
      let stripped := entry.strip node
      if stripped.isEmpty then none else some stripped
    else some entry
  (affected, ⟨remaining⟩)

/-- How `node` holds `key`. -/
def holder (table : Table) (key : Key) (node : NodeId) : Option Mode :=
  (table.entry key).holder node

/-- What `node` has been asked to give up of `key` and has not yet
acknowledged. -/
def pendingRelease (table : Table) (key : Key) (node : NodeId) : Option Release :=
  (table.entry key).pendingRelease node

/-- The tracked keys that satisfy `scope`, with their states, in order. -/
def inUse (table : Table) (scope : Key → Bool) : List (Key × Entry) :=
  table.entries.toList.filter fun tracked => scope tracked.1

/-- The number of tracked keys that satisfy `scope`. -/
def count (table : Table) (scope : Key → Bool) : Nat :=
  (table.inUse scope).length

end Table

end CacheDirectory
