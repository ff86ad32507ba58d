/-
Module: CacheDirectory.Directory.Action
Purpose: The steps that access operations are made of. An operation that fails
  keeps the effects of the steps before the failure unless it undoes them.
Trusted boundary: none
Main exports: World, Action, requireLive, lookup, grant, upgrade
-/
import CacheDirectory.Directory.Basic
import CacheDirectory.Store.Backing

namespace CacheDirectory

/-- A directory in front of a store. -/
structure World (σ : Type) where
  directory : Directory
  store : σ

/-- An operation on a directory and its store that may be refused. -/
abbrev Action (σ α : Type) :=
  ExceptT DirectoryError (StateM (World σ)) α

namespace Action

variable {σ α : Type}

/-- Perform an operation: its outcome, and the state after it. -/
def perform (action : Action σ α) (world : World σ) : Except DirectoryError α × World σ :=
  action.run.run world

/-- Only living nodes may ask for anything. -/
def requireLive (node : NodeId) : Action σ Unit := do
  let world ← get
  match world.directory.registry.check node with
  | .ok () => return ()
  | .error cause => throw cause

/-- Refuse a bad argument. -/
def requireArgument (acceptable : Bool) (cause : ArgumentError) : Action σ Unit :=
  unless acceptable do
    throw (.invalidArgument cause)

/-- Look something up in the store. Nodes that die during the lookup are dead
when it returns, whether it answers or fails. -/
def lookup (read : σ → Reading α × σ) : Action σ α := do
  let world ← get
  let (reading, store) := read world.store
  let registry := world.directory.registry.markAllDead reading.died
  set ({ directory := { world.directory with registry }, store } : World σ)
  match reading.outcome with
  | .ok answer => return answer
  | .error cause => throw (.store cause)

/-- Change the directory, whatever the store does. -/
def update (change : Directory → Directory) : Action σ Unit :=
  modify fun world => { world with directory := change world.directory }

/-- Grant `mode` on `key` to `node`. The key is tracked before the node is looked up
again, since it may have died since the operation began. A dead node displaces nobody;
then the key is tracked no longer unless somebody else is on it. -/
def grant (node : NodeId) (key : Key) (mode : Mode) : Action σ Conflicts := do
  update (·.track key)
  tryCatch (requireLive node) fun cause => do
    update (·.prune key)
    throw cause
  let world ← get
  let (conflicts, directory) := world.directory.grant node key mode
  set { world with directory }
  return conflicts

/-- Turn `node`'s read access to `key` into write access. The node is looked up again if
the key is tracked; if it is not, nobody can be upgraded. -/
def upgrade (node : NodeId) (key : Key) : Action σ Conflicts := do
  let world ← get
  if world.directory.table.tracks key then
    requireLive node
  match world.directory.upgrade node key with
  | none => throw (.upgradeWithoutRead node key)
  | some (conflicts, directory) =>
    set { world with directory }
    return conflicts

/-- Take back what `node` holds of `key`. -/
def release (node : NodeId) (key : Key) : Action σ Bool := do
  let world ← get
  let (released, directory) := world.directory.release node key
  set { world with directory }
  return released

end Action

end CacheDirectory
