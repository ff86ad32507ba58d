/-
Module: CacheDirectory.Access.Entry
Purpose: Who holds one key, who is giving it up, and how a grant changes both.
Trusted boundary: none
Main exports: Conflicts, Grant, Entry, Entry.grant, Entry.upgrade
-/
import CacheDirectory.Access.Mode

namespace CacheDirectory

open Std

/-- What a node is told about others when it is granted a key: whether a writer
had to go or is still to drop its copy, and whether readers had to go or are
still to stop reading. -/
structure Conflicts where
  evict : Bool := false
  downgrade : Bool := false
deriving DecidableEq, Repr, Inhabited

/-- Outcome of a grant: the conflicts told to the requester, and what each
displaced holder is asked to give up, in the order of the nodes. -/
structure Grant where
  conflicts : Conflicts := {}
  releases : List (NodeId × Release) := []
deriving DecidableEq, Repr, Inhabited

/-- State of one key. A node in `holders` has access now. A node in `releasing`
lost its access to somebody else and has not yet said that it stopped using
it. -/
structure Entry where
  holders : ExtTreeMap NodeId Mode := ∅
  releasing : ExtTreeMap NodeId Release := ∅

instance : Inhabited Entry := ⟨{}⟩

/-- Whether granting `mode` to `node` takes the key away from a holder. Readers
share a key; nothing else does. -/
def Mode.displaces (mode : Mode) (node holder : NodeId) (held : Mode) : Bool :=
  holder != node && (mode.isWrite || held.isWrite)

namespace Entry

/-- What the holders that a grant displaces are asked to give up. -/
def displaced (entry : Entry) (node : NodeId) (mode : Mode) : ExtTreeMap NodeId Release :=
  entry.holders.filterMap fun holder held =>
    if mode.displaces node holder held then some held.forfeit else none

/-- Whether a request of kind `kind` to some node other than `node` appears
among `requests`. -/
def asksOther (requests : ExtTreeMap NodeId Release) (node : NodeId) (kind : Release) : Bool :=
  requests.toList.any fun request => request.1 != node && request.2 == kind

/-- Grant `mode` to `node`. Every holder that conflicts moves from the holders
to the releasing nodes in the same step, so a key never has a writer beside
another holder. The requester keeps a stronger mode it already had. It is told
of the holders it displaces and of all other requests still outstanding. -/
def grant (entry : Entry) (node : NodeId) (mode : Mode) : Grant × Entry :=
  let lost := entry.displaced node mode
  let kept := entry.holders.filter fun holder held => !mode.displaces node holder held
  let conflicts : Conflicts :=
    { evict := asksOther entry.releasing node .evict || asksOther lost node .evict
      downgrade := asksOther entry.releasing node .downgrade || asksOther lost node .downgrade }
  ( { conflicts, releases := lost.toList },
    { holders := kept.insert node (max (entry.holders.getD node mode) mode)
      releasing := entry.releasing ∪
        lost.map fun holder kind => max (entry.releasing.getD holder kind) kind } )

/-- Turn `node`'s read access into write access. Only a current reader can be
upgraded; for any other node there is no outcome and nothing changes. -/
def upgrade (entry : Entry) (node : NodeId) : Option (Grant × Entry) :=
  match entry.holders[node]? with
  | some .read => some (entry.grant node .write)
  | _ => none

/-- Drop `node`'s access. The answer is whether it had any. -/
def release (entry : Entry) (node : NodeId) : Bool × Entry :=
  (entry.holders.contains node, { entry with holders := entry.holders.erase node })

/-- Record that `node` stopped using the key as it was asked to. The answer is
whether it had been asked. -/
def completeRelease (entry : Entry) (node : NodeId) : Bool × Entry :=
  (entry.releasing.contains node, { entry with releasing := entry.releasing.erase node })

/-- Whether `node` holds the key or is giving it up. -/
def involves (entry : Entry) (node : NodeId) : Bool :=
  entry.holders.contains node || entry.releasing.contains node

/-- Remove every trace of `node`. -/
def strip (entry : Entry) (node : NodeId) : Entry :=
  { holders := entry.holders.erase node, releasing := entry.releasing.erase node }

/-- Remove every trace of `node`. The answer is whether there was one. -/
def forceRelease (entry : Entry) (node : NodeId) : Bool × Entry :=
  (entry.involves node, entry.strip node)

/-- How `node` holds the key. -/
def holder (entry : Entry) (node : NodeId) : Option Mode :=
  entry.holders[node]?

/-- What `node` has been asked to give up and has not yet acknowledged. -/
def pendingRelease (entry : Entry) (node : NodeId) : Option Release :=
  entry.releasing[node]?

/-- Nobody holds the key or is giving it up, so it need not be tracked. -/
def isEmpty (entry : Entry) : Bool :=
  entry.holders.isEmpty && entry.releasing.isEmpty

/-- A writer is the only holder: either nobody writes, or the one holder
there is does. -/
def isConsistent (entry : Entry) : Bool :=
  let writers := entry.holders.toList.filter fun holding => holding.2.isWrite
  writers.isEmpty || entry.holders.size == 1

end Entry

end CacheDirectory
