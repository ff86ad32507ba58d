/-
Module: CacheDirectory.Directory.Objects
Purpose: Access to objects: read, write, upgrade, and the scan over all objects.
Trusted boundary: none
Main exports: ObjectRead, ObjectUpdate, NextObject, Action.getObject,
  Action.getObjectForUpdate, Action.upgradeObject, Action.nextObject
-/
import CacheDirectory.Directory.Action

namespace CacheDirectory

/-- An object read. `evict` tells that a writer has to drop, or still drops, a
copy that may differ. -/
structure ObjectRead where
  contents : Bytes
  evict : Bool
deriving DecidableEq, Repr, Inhabited

/-- An object obtained for writing. -/
structure ObjectUpdate where
  contents : Bytes
  conflicts : Conflicts
deriving DecidableEq, Repr, Inhabited

/-- The next object of a scan. -/
structure NextObject where
  oid : ObjectId
  contents : Bytes
  evict : Bool
deriving DecidableEq, Repr, Inhabited

namespace Action

variable {σ : Type} [Backing σ]

/-- Take access to an object that the store has. The access is granted only
after the store answered, and to nobody if there is no such object. -/
def takeObject (node : NodeId) (oid : ObjectId) (mode : Mode) :
    Action σ (Option (Bytes × Conflicts)) := do
  requireArgument (0 ≤ oid) (.negativeObject oid)
  requireLive node
  match ← lookup (Backing.object oid) with
  | none => return none
  | some contents =>
    let conflicts ← grant node (.object oid) mode
    return some (contents, conflicts)

/-- Read access to an object, or nothing if it does not exist. -/
def getObject (node : NodeId) (oid : ObjectId) : Action σ (Option ObjectRead) := do
  let taken ← takeObject node oid .read
  return taken.map fun (contents, conflicts) => ⟨contents, conflicts.evict⟩

/-- Write access to an object, or nothing if it does not exist. -/
def getObjectForUpdate (node : NodeId) (oid : ObjectId) : Action σ (Option ObjectUpdate) := do
  let taken ← takeObject node oid .write
  return taken.map fun (contents, conflicts) => ⟨contents, conflicts⟩

omit [Backing σ] in
/-- Turn read access to an object into write access. The answer is whether other
readers had to go. The store is not asked: a reader already has the contents. -/
def upgradeObject (node : NodeId) (oid : ObjectId) : Action σ Bool := do
  requireArgument (0 ≤ oid) (.negativeObject oid)
  requireLive node
  let conflicts ← upgrade node (.object oid)
  return conflicts.downgrade

/-- Read access to the first object after `oid`, or nothing if there is none.
`noObject` starts a scan. -/
def nextObject (node : NodeId) (oid : ObjectId) : Action σ (Option NextObject) := do
  requireArgument (noObject ≤ oid) (.scanBeforeStart oid)
  requireLive node
  match ← lookup (Backing.nextObject oid) with
  | none => return none
  | some (next, contents) =>
    let conflicts ← grant node (.object next) .read
    return some ⟨next, contents, conflicts.evict⟩

end Action

end CacheDirectory
