/-
Module: CacheDirectory.Proofs.Independence
Purpose: Operations on different keys do not disturb each other: in either order they answer
  the same, ask the same of the same nodes and leave the same behind.
Trusted boundary: none
Main exports: KeyOperation, KeyOperation.action, KeyOperation.keys, World.Steady,
  KeyOperation.Undisturbed, KeyOperation.commute
-/
import CacheDirectory.Proofs.Footprints
import CacheDirectory.Proofs.Laws

namespace CacheDirectory

open Std Wire

/-! ### The operations -/

/-- What can be done to keys on behalf of a node: it asks for access, it gives a key up, or
it is recorded to have given one up as it was asked to. A key is that of an object or of a
binding. -/
inductive KeyOperation where
  | access (node : NodeId) (what : Access)
  | release (node : NodeId) (key : Key)
  | completeRelease (node : NodeId) (key : Key)

/-- Record that `node` gave up `key` as asked. -/
def Action.completeRelease {σ : Type} (node : NodeId) (key : Key) : Action σ Bool := do
  let world ← get
  let (completed, directory) := world.directory.completeRelease node key
  set { world with directory }
  return completed

namespace KeyOperation

variable {σ : Type}

/-- What an operation yields. -/
abbrev Result : KeyOperation → Type
  | .access _ what => what.Result
  | .release _ _ | .completeRelease _ _ => Bool

variable [Backing σ]

/-- What is done to the directory and its store. -/
def action : (operation : KeyOperation) → Action σ operation.Result
  | .access node what => what.action node
  | .release node key => Action.release node key
  | .completeRelease node key => Action.completeRelease node key

/-- How the keys are found that an operation is about. -/
def resolution : KeyOperation → Action σ (List Key)
  | .access node what => what.resolution node
  | .release _ key | .completeRelease _ key => return [key]

/-- The keys that an operation is about if it is performed now. -/
def keys (operation : KeyOperation) (world : World σ) : List Key :=
  (operation.resolution : Action σ _).resolved world

/-- What an operation yields now. -/
def outcome (operation : KeyOperation) (world : World σ) :
    Except DirectoryError operation.Result :=
  ((operation.action : Action σ _).perform world).1

/-- The world after an operation. -/
def after (operation : KeyOperation) (world : World σ) : World σ :=
  ((operation.action : Action σ _).perform world).2

/-- Every operation is about its keys, and about no others. -/
theorem confined (operation : KeyOperation) (world : World σ) :
    (operation.action : Action σ _).ConfinedAt (operation.keys world) world := by
  cases operation with
  | access node what => exact (Action.confined_access node what).confinedAt world
  | release node key => exact Action.confinedAt_release node List.mem_cons_self
  | completeRelease node key =>
      exact Action.confinedAt_revise List.mem_cons_self (·.completeRelease node)
        (Entry.completeRelease_empty node) fun _ => rfl

end KeyOperation

/-! ### Two operations -/

/-- The same is stored, and the same nodes live, on the same ports. -/
structure World.Steady {σ : Type} (before after : World σ) : Prop where
  store : after.store = before.store
  registry : after.directory.registry = before.directory.registry

namespace KeyOperation

variable {σ : Type} [Backing σ]

/-- The operation does not notice that another one is performed before it: it yields the
same, and submits the same requests in the same order. -/
structure Undisturbed (operation before : KeyOperation) (world : World σ) : Prop where
  outcome : operation.outcome (before.after world) = operation.outcome world
  submitted : ∃ requests,
    (operation.after world).directory.pending = world.directory.pending ++ requests ∧
    (operation.after (before.after world)).directory.pending =
      (before.after world).directory.pending ++ requests

variable {one other : KeyOperation} {world : World σ}

theorem elsewhere_after (operation : KeyOperation) (world : World σ) {key : Key}
    (outside : key ∉ operation.keys world) :
    (operation.after world).directory.table.entries[key]? =
      world.directory.table.entries[key]? := by
  obtain ⟨-, -, requests, touches, -⟩ := operation.confined world world (.refl _ world)
  exact touches.elsewhere key outside

section

variable (apart : ∀ key ∈ one.keys world, key ∉ other.keys world)
  (steady : world.Steady (one.after world))

include apart steady

/-- Where the other operation looks, the first one leaves everything as it finds it. -/
theorem agreesOn_after : World.AgreesOn (other.keys world) world (one.after world) := by
  obtain ⟨-, -, requests, touches, -⟩ := one.confined world world (.refl _ world)
  refine ⟨steady.store.symm, steady.registry.symm, touches.sink.symm, fun key among => ?_⟩
  exact (one.elsewhere_after world fun inside => apart key inside among).symm

theorem undisturbed : other.Undisturbed one world := by
  obtain ⟨same, -, requests, touches, touches'⟩ :=
    other.confined world _ (agreesOn_after apart steady)
  exact ⟨same.symm, requests, touches.submitted, touches'.submitted⟩

/-- After both operations the keys of the second are as they are after the second alone, and
all others as they are after the first alone. -/
theorem tracked_after (key : Key) :
    (other.after (one.after world)).directory.table.entries[key]? =
      if key ∈ other.keys world then (other.after world).directory.table.entries[key]?
      else (one.after world).directory.table.entries[key]? := by
  obtain ⟨-, agrees, requests, -, touches⟩ :=
    other.confined world _ (agreesOn_after apart steady)
  split
  case isTrue among => exact (agrees.table key among).symm
  case isFalse outside => exact touches.elsewhere key outside

end

/-- A store in memory answers without change, and nobody dies while it does. -/
theorem steady_after (operation : KeyOperation) (world : World Store) :
    world.Steady (operation.after world) := by
  have looks {α : Type} {read : Store → Reading α × Store}
      (same : ∀ store, (read store).2 = store) (alive : ∀ store, (read store).1.died = []) :
      (Action.lookup read).Obeys World.Steady := by
    intro world
    rw [Action.perform_lookup, alive]
    exact ⟨same world.store, rfl⟩
  have law : Action.Law (World.Steady : World Store → World Store → Prop) :=
    { refl := fun _ => ⟨rfl, rfl⟩
      trans := fun first second =>
        ⟨second.store.trans first.store, second.registry.trans first.registry⟩
      object := fun _ => looks (fun _ => rfl) fun _ => rfl
      nextObject := fun _ => looks (fun _ => rfl) fun _ => rfl
      binding := fun _ => looks (fun _ => rfl) fun _ => rfl
      nextBinding := fun _ => looks (fun _ => rfl) fun _ => rfl
      granted := fun world node key mode => ⟨rfl, world.directory.registry_grant node key mode⟩
      forgone := fun _ _ => ⟨rfl, rfl⟩
      released := fun _ _ _ => ⟨rfl, rfl⟩ }
  cases operation with
  | access node what => exact law.access node what world
  | release | completeRelease => exact ⟨rfl, rfl⟩

/-- Two operations that are about different keys may change places, as long as neither
changes what is stored or who lives: each yields what it yields if it comes first, and submits
the same requests, and whichever comes first, in the end the same keys are tracked, with the
same holders and the same records of releases. It does not matter which nodes perform them,
whether they concern objects or bindings, and whether they are refused. -/
theorem commute (one other : KeyOperation) (world : World σ)
    (apart : ∀ key ∈ one.keys world, key ∉ other.keys world)
    (steady : world.Steady (one.after world)) (steady' : world.Steady (other.after world)) :
    one.Undisturbed other world ∧ other.Undisturbed one world ∧
      (other.after (one.after world)).directory.table =
        (one.after (other.after world)).directory.table := by
  have apart' : ∀ key ∈ other.keys world, key ∉ one.keys world :=
    fun key among inside => apart key inside among
  have tracked (key : Key) : (other.after (one.after world)).directory.table.entries[key]? =
      (one.after (other.after world)).directory.table.entries[key]? := by
    rw [tracked_after apart steady, tracked_after apart' steady']
    by_cases mine : key ∈ one.keys world
    case pos => rw [if_neg (apart key mine), if_pos mine]
    case neg =>
      rw [if_neg mine]
      split
      case isTrue => rfl
      case isFalse yours => rw [elsewhere_after one world mine, elsewhere_after other world yours]
  exact ⟨undisturbed apart' steady', undisturbed apart steady,
    congrArg Table.mk (ExtTreeMap.ext_getElem? fun {key} => tracked key)⟩

/-- One node removes a name and takes the next one with it, from two readers; another node
writes an object, and takes it from its reader before or after that. -/
theorem commute_removal_write :
    let removal : KeyOperation := .access 1 (.getBindingForRemove "a")
    let write : KeyOperation := .access 2 (.getObjectForUpdate 7)
    removal.keys sharedNames = [.binding (.name "a"), .binding (.name "b")] ∧
      write.keys sharedNames = [.object 7] ∧
      removal.Undisturbed write sharedNames ∧ write.Undisturbed removal sharedNames ∧
      (write.after (removal.after sharedNames)).directory.table =
        (removal.after (write.after sharedNames)).directory.table := by
  intro removal write
  have names : removal.keys sharedNames = [.binding (.name "a"), .binding (.name "b")] := by
    decide +kernel
  have object : write.keys sharedNames = [.object 7] := by decide +kernel
  have apart : ∀ key ∈ removal.keys sharedNames, key ∉ write.keys sharedNames := by
    rw [names, object]
    decide
  exact ⟨names, object, commute removal write sharedNames apart
    (removal.steady_after sharedNames) (write.steady_after sharedNames)⟩

/-- Of two nodes that write the same object the second one is told of the first. -/
example : ¬ Undisturbed (.access 2 (.getObjectForUpdate 7)) (.access 1 (.getObjectForUpdate 7))
    sharedNames := by
  intro undisturbed
  have told := undisturbed.outcome
  revert told
  decide +kernel

end KeyOperation

end CacheDirectory
