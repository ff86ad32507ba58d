/-
Module: CacheDirectory.Store.Backing
Purpose: What the directory may assume of the store behind it: next to nothing.
  A lookup may fail, and nodes may die while it runs.
Trusted boundary: none
Main exports: Reading, Backing, Fault, FaultyStore
-/
import CacheDirectory.Store.Basic

namespace CacheDirectory

/-- What came of one lookup in a store: its answer or its failure, and the nodes
that died before it returned. -/
structure Reading (α : Type) where
  outcome : Except StoreError α
  died : List NodeId := []

/-- The four lookups of a store. Each may change the store's own state, and
nothing ties the answers of one lookup to those of another: what the directory
guarantees, it guarantees over every such store. -/
class Backing (σ : Type) where
  object : ObjectId → σ → Reading (Option Bytes) × σ
  nextObject : ObjectId → σ → Reading (Option (ObjectId × Bytes)) × σ
  binding : String → σ → Reading (Option ObjectId) × σ
  nextBinding : Option String → σ → Reading (Option (String × ObjectId)) × σ

/-- A store in memory answers every lookup, at once and without change. -/
instance : Backing Store where
  object oid store := (⟨.ok (store.object? oid), []⟩, store)
  nextObject oid store := (⟨.ok (store.nextObject? oid), []⟩, store)
  binding name store := (⟨.ok (store.binding? name), []⟩, store)
  nextBinding name store := (⟨.ok (store.nextBinding? name), []⟩, store)

/-- The kinds of lookup. -/
inductive Lookup where
  | object
  | nextObject
  | binding
  | nextBinding
deriving DecidableEq, Repr, Inhabited

/-- What goes wrong during a lookup: a node dies and the lookup then succeeds,
or the lookup fails. -/
inductive Mishap where
  | kill (node : NodeId)
  | fail (error : StoreError)
deriving DecidableEq, Repr, Inhabited

/-- A mishap that awaits the next lookup of a kind. -/
structure Fault where
  on : Lookup
  mishap : Mishap
deriving DecidableEq, Repr, Inhabited

/-- A store in memory with at most one fault in waiting. -/
structure FaultyStore where
  store : Store := {}
  fault : Option Fault := none

namespace FaultyStore

/-- A lookup of kind `kind` with the answer `answer`. The fault in waiting
strikes if it awaits that kind, and strikes once. -/
def read {α : Type} (kind : Lookup) (answer : Store → α) (faulty : FaultyStore) :
    Reading α × FaultyStore :=
  match faulty.fault with
  | some fault =>
    if fault.on = kind then
      let spent := { faulty with fault := none }
      match fault.mishap with
      | .kill node => (⟨.ok (answer faulty.store), [node]⟩, spent)
      | .fail error => (⟨.error error, []⟩, spent)
    else (⟨.ok (answer faulty.store), []⟩, faulty)
  | none => (⟨.ok (answer faulty.store), []⟩, faulty)

instance : Backing FaultyStore where
  object oid := read .object (·.object? oid)
  nextObject oid := read .nextObject (·.nextObject? oid)
  binding name := read .binding (·.binding? name)
  nextBinding name := read .nextBinding (·.nextBinding? name)

end FaultyStore

end CacheDirectory
