/-
Module: CacheDirectory.Store.Basic
Purpose: The objects and name bindings that the directory guards, kept in memory
  in the order of their keys.
Trusted boundary: none
Main exports: StoreError, Store, Store.nextObject?, Store.nextBinding?
-/
import CacheDirectory.Key

namespace CacheDirectory

open Std

/-- Why a store refused or failed. -/
inductive StoreError where
  | invalidObjectId (oid : ObjectId)
  | lockPoisoned (detail : String)
  | backendFailure (detail : String)
deriving DecidableEq, Repr, Inhabited

/-- The wording of a store's failure. -/
def StoreError.message : StoreError → String
  | .invalidObjectId oid => "invalid object ID: " ++ toString oid.toInt
  | .lockPoisoned detail => "store lock poisoned: " ++ detail
  | .backendFailure detail => "backend failure: " ++ detail

/-- Objects by number and object numbers by name. -/
structure Store where
  objects : ExtTreeMap ObjectId Bytes := ∅
  bindings : ExtTreeMap String ObjectId := ∅

instance : Inhabited Store := ⟨{}⟩

namespace Store

/-- The first association of a map with a key after `key`. -/
def firstAfter? {α β : Type} [Ord α] [TransOrd α] (map : ExtTreeMap α β) (key : α) :
    Option (α × β) :=
  map.toList.find? fun association => (compare key association.1).isLT

/-- The contents of an object. -/
def object? (store : Store) (oid : ObjectId) : Option Bytes :=
  store.objects[oid]?

/-- The first object after `oid`, with its contents. -/
def nextObject? (store : Store) (oid : ObjectId) : Option (ObjectId × Bytes) :=
  firstAfter? store.objects oid

/-- The object bound to `name`. -/
def binding? (store : Store) (name : String) : Option ObjectId :=
  store.bindings[name]?

/-- The first bound name after `name`, or the very first one, with its
object. -/
def nextBinding? (store : Store) : Option String → Option (String × ObjectId)
  | some name => firstAfter? store.bindings name
  | none => store.bindings.toList.head?

/-- Stored numbers are not negative. -/
def checkStored (oid : ObjectId) : Except StoreError Unit :=
  if oid < 0 then .error (.invalidObjectId oid) else .ok ()

/-- Create an object or replace its contents. -/
def putObject (store : Store) (oid : ObjectId) (contents : Bytes) : Except StoreError Store := do
  checkStored oid
  return { store with objects := store.objects.insert oid contents }

/-- Remove an object. The answer is whether there was one. -/
def removeObject (store : Store) (oid : ObjectId) : Bool × Store :=
  (store.objects.contains oid, { store with objects := store.objects.erase oid })

/-- Bind `name` to an object, in place of what it was bound to. The object need
not exist. -/
def bind (store : Store) (name : String) (oid : ObjectId) : Except StoreError Store := do
  checkStored oid
  return { store with bindings := store.bindings.insert name oid }

/-- Remove the binding of `name`. The answer is whether it was bound. -/
def unbind (store : Store) (name : String) : Bool × Store :=
  (store.bindings.contains name, { store with bindings := store.bindings.erase name })

end Store

end CacheDirectory
