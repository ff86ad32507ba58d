/-
Module: CacheDirectory.Directory.Basic
Purpose: The state of the directory: the registry, the access table and the
  release requests that wait for delivery.
Trusted boundary: none
Main exports: Sink, Directory, Directory.grant, Directory.nodeFailed
-/
import CacheDirectory.Access.Table
import CacheDirectory.Directory.Error

namespace CacheDirectory

/-- What becomes of the release requests that grants produce: they wait for
delivery, or, once nobody delivers any more, they are dropped. -/
inductive Sink where
  | collecting
  | closed
deriving DecidableEq, Repr, Inhabited

/-- State of the directory. A request is in `pending` from the grant that
displaced its target until a delivery takes it out. -/
structure Directory where
  registry : Registry
  table : Table := {}
  pending : List ReleaseRequest := []
  sink : Sink := .collecting

/-- Refuse a node that does not live. -/
def Registry.check (registry : Registry) (node : NodeId) : Except DirectoryError Unit :=
  if registry.isLive node then .ok () else .error (.unknownNode node)

namespace Directory

instance : Inhabited Directory := ⟨{ registry := default }⟩

/-- A directory in which nobody has registered yet. -/
def new (range : PortRange) (sink : Sink) : Directory :=
  { registry := Registry.new range, sink }

/-- Hand over what the holders of `key` that a grant displaced are asked to give
up. -/
def submit (directory : Directory) (key : Key) (releases : List (NodeId × Release)) :
    Directory :=
  match directory.sink with
  | .closed => directory
  | .collecting =>
    let requests := releases.map fun (target, release) => { target, key, release }
    { directory with pending := directory.pending ++ requests }

/-- Track `key` from now on. -/
def track (directory : Directory) (key : Key) : Directory :=
  { directory with table := directory.table.track key }

/-- Track `key` no longer if nobody is left on it. -/
def prune (directory : Directory) (key : Key) : Directory :=
  { directory with table := directory.table.prune key }

/-- Grant `mode` on `key` to `node` and ask whom that displaces to give it up. -/
def grant (directory : Directory) (node : NodeId) (key : Key) (mode : Mode) :
    Conflicts × Directory :=
  let (outcome, table) := directory.table.grant node key mode
  (outcome.conflicts, { directory with table }.submit key outcome.releases)

/-- Turn `node`'s read access to `key` into write access, if it has that. -/
def upgrade (directory : Directory) (node : NodeId) (key : Key) :
    Option (Conflicts × Directory) :=
  (directory.table.upgrade node key).map fun (outcome, table) =>
    (outcome.conflicts, { directory with table }.submit key outcome.releases)

/-- Drop `node`'s access to `key`. The answer is whether it had any. -/
def release (directory : Directory) (node : NodeId) (key : Key) : Bool × Directory :=
  let (released, table) := directory.table.release node key
  (released, { directory with table })

/-- Record that `node` gave up `key` as asked. The answer is whether it had been
asked. -/
def completeRelease (directory : Directory) (node : NodeId) (key : Key) : Bool × Directory :=
  let (completed, table) := directory.table.completeRelease node key
  (completed, { directory with table })

/-- Remove `node` from every key that satisfies `scope`. The answer is the number
of keys it was removed from. -/
def forceRelease (directory : Directory) (node : NodeId) (scope : Key → Bool) :
    Nat × Directory :=
  let (affected, table) := directory.table.forceRelease node scope
  (affected, { directory with table })

/-- Register the node behind `identity`. -/
def register (directory : Directory) (identity : String) :
    Except DirectoryError Registration × Directory :=
  let (outcome, registry) := directory.registry.register identity
  (outcome.mapError .registration, { directory with registry })

/-- Declare `node` dead without touching the access it holds. The answer is
whether it lived. -/
def markDead (directory : Directory) (node : NodeId) : Bool × Directory :=
  let (lived, registry) := directory.registry.markDead node
  (lived, { directory with registry })

/-- Declare `node` dead and remove it from every key, objects first. The answer
is whether it lived. -/
def nodeFailed (directory : Directory) (node : NodeId) : Bool × Directory :=
  let (lived, marked) := directory.markDead node
  let (_, withoutObjects) := marked.forceRelease node Key.isObject
  let (_, stripped) := withoutObjects.forceRelease node Key.isBinding
  (lived, stripped)

/-- The summary of the objects that are tracked, for logs. -/
def objectSummary (directory : Directory) : String :=
  "LockDirectory \x7b entries: " ++ toString (directory.table.count Key.isObject) ++ " \x7d"

/-- The summary of the bindings that are tracked, for logs. -/
def bindingSummary (directory : Directory) : String :=
  "BindingIndex \x7b entries: " ++ toString (directory.table.count Key.isBinding) ++ " \x7d"

end Directory

end CacheDirectory
