/-
Module: CacheDirectory.Directory.Bindings
Purpose: Access to the ordered namespace of bindings. A lookup takes access on
  the place where it ends, so whoever learned that no name is bound in a gap
  holds the place that closes the gap, and a name bound inside it must first
  displace that holder.
Trusted boundary: none
Main exports: Landing, BindingRead, BindingUpdate, BindingRemoval, NextName,
  Action.getBinding, Action.getBindingForUpdate, Action.getBindingForRemove,
  Action.nextBoundName
-/
import CacheDirectory.Directory.Action

namespace CacheDirectory

/-- Where a lookup of a name ends: at the name itself if it is bound, else at
the next bound name or at the ending. -/
structure Landing where
  found : Bool
  place : BindingKey
  oid : ObjectId
deriving DecidableEq, Repr, Inhabited

namespace Landing

/-- The end of a search for the next bound name. -/
def ofNext : Option (String × ObjectId) → Landing
  | some (name, oid) => ⟨false, .name name, oid⟩
  | none => ⟨false, .ending, noObject⟩

/-- The end of a lookup of a bound name. -/
def ofBound (name : String) (oid : ObjectId) : Landing :=
  ⟨true, .name name, oid⟩

/-- The name to report if the requested one is not bound. -/
def nextName (landing : Landing) : Option String :=
  if landing.found then none else landing.place.name?

end Landing

/-- A name read. If it is not bound, `nextName`, `oid` and `evict` describe the
next bound name. -/
structure BindingRead where
  found : Bool
  nextName : Option String
  oid : ObjectId
  evict : Bool
deriving DecidableEq, Repr, Inhabited

/-- A name obtained for writing. If it is not bound, the rest describes the next
bound name. -/
structure BindingUpdate where
  found : Bool
  nextName : Option String
  oid : ObjectId
  conflicts : Conflicts
deriving DecidableEq, Repr, Inhabited

/-- A name obtained for removal, together with the bound name after it. -/
structure BindingRemoval where
  found : Bool
  nextName : Option String
  oid : ObjectId
  conflicts : Conflicts
  nextOid : ObjectId
  nextConflicts : Conflicts
deriving DecidableEq, Repr, Inhabited

/-- The next name of a scan. -/
structure NextName where
  nextName : Option String
  oid : ObjectId
  evict : Bool
deriving DecidableEq, Repr, Inhabited

namespace Action

variable {σ : Type} [Backing σ]

/-- Where a lookup of `name` ends. -/
def resolve (name : String) : Action σ Landing := do
  match ← lookup (Backing.binding name) with
  | some oid => return .ofBound name oid
  | none => return .ofNext (← lookup (Backing.nextBinding (some name)))

/-- Read access to `name`, or to the next bound name if it is not bound. -/
def getBinding (node : NodeId) (name : String) : Action σ BindingRead := do
  requireLive node
  let landing ← resolve name
  let conflicts ← grant node (.binding landing.place) .read
  return ⟨landing.found, landing.nextName, landing.oid, conflicts.evict⟩

/-- Write access to `name`, or to the next bound name if it is not bound. -/
def getBindingForUpdate (node : NodeId) (name : String) : Action σ BindingUpdate := do
  requireLive node
  let landing ← resolve name
  let conflicts ← grant node (.binding landing.place) .write
  return ⟨landing.found, landing.nextName, landing.oid, conflicts⟩

/-- Write access to the bound name after `name`. -/
def takeNext (node : NodeId) (name : String) : Action σ (Landing × Conflicts) := do
  let landing := Landing.ofNext (← lookup (Backing.nextBinding (some name)))
  let conflicts ← grant node (.binding landing.place) .write
  return (landing, conflicts)

/-- The access needed to remove `name`: write access to the name, if it is
bound, and always to the bound name after it, because a removal changes where
lookups before that name end. If the second part fails, the node's access to
`name` is taken back; whom the first part displaced stays displaced. -/
def getBindingForRemove (node : NodeId) (name : String) : Action σ BindingRemoval := do
  requireLive node
  match ← lookup (Backing.binding name) with
  | none =>
    let (next, nextConflicts) ← takeNext node name
    return ⟨false, next.nextName, noObject, {}, next.oid, nextConflicts⟩
  | some oid =>
    let conflicts ← grant node (.binding (.name name)) .write
    let (next, nextConflicts) ← tryCatch (takeNext node name) fun cause => do
      let _ ← release node (.binding (.name name))
      throw cause
    return ⟨true, next.nextName, oid, conflicts, next.oid, nextConflicts⟩

/-- Read access to the first bound name after `name`, or to the very first one.
At the end of the namespace the access is to the ending. -/
def nextBoundName (node : NodeId) (name : Option String) : Action σ NextName := do
  requireLive node
  let landing := Landing.ofNext (← lookup (Backing.nextBinding name))
  let conflicts ← grant node (.binding landing.place) .read
  return ⟨landing.nextName, landing.oid, conflicts.evict⟩

end Action

end CacheDirectory
