/-
Module: CacheDirectory.Proofs.StableLookups
Purpose: What a node learned from a lookup stays true while it holds the place where the
  lookup ended, as long as others change names only under write access to the place
  that such a change concerns.
Trusted boundary: none
Main exports: StoreChange, StoreChange.guard, Store.FirstPlace.apply, Cluster.Keeps,
  Cluster.lookups_stay_true
-/
import CacheDirectory.Proofs.Gaps
import CacheDirectory.Proofs.MutualExclusion
import CacheDirectory.Proofs.SteadyStore

namespace CacheDirectory

open Std Wire

/-! ### Changes of the store -/

/-- A change of what is stored. -/
inductive StoreChange where
  | putObject (oid : ObjectId) (contents : Bytes)
  | removeObject (oid : ObjectId)
  | bind (name : String) (oid : ObjectId)
  | unbind (name : String)
deriving DecidableEq, Repr, Inhabited

namespace StoreChange

/-- The store after a change. A change that the store refuses leaves it as it is. -/
def apply (store : Store) : StoreChange → Store
  | .putObject oid contents => (store.putObject oid contents).toOption.getD store
  | .removeObject oid => (store.removeObject oid).2
  | .bind name oid => (store.bind name oid).toOption.getD store
  | .unbind name => (store.unbind name).2

/-- The place that has to be held for writing while a change is made. For a name that is
about to be bound it is the place where lookups of the name end until then. -/
def guard (store : Store) : StoreChange → Option BindingKey
  | .putObject _ _ | .removeObject _ => none
  | .bind name _ => some (store.land (.lookup name)).place
  | .unbind name => some (.name name)

/-- A change concerns one name at most. -/
def name? : StoreChange → Option String
  | .putObject _ _ | .removeObject _ => none
  | .bind name _ | .unbind name => some name

theorem binding?_apply_of_ne {change : StoreChange} {name : String} (other : change.name? ≠ some name)
    (store : Store) : (change.apply store).binding? name = store.binding? name := by
  cases change with
  | removeObject oid => rfl
  | putObject oid contents =>
      simp only [apply, Store.putObject, Store.checkStored]
      split <;> rfl
  | bind changed oid =>
      have distinct : ¬ changed = name := fun same => other (congrArg some same)
      simp only [apply, Store.bind, Store.checkStored]
      split
      case isTrue => rfl
      case isFalse =>
        change (store.bindings.insert changed oid)[name]? = store.bindings[name]?
        simp [ExtTreeMap.getElem?_insert, distinct]
  | unbind changed =>
      have distinct : ¬ changed = name := fun same => other (congrArg some same)
      simp [apply, Store.unbind, Store.binding?, ExtTreeMap.getElem?_erase, distinct]

theorem binding?_apply_unbind (store : Store) (name : String) :
    ((unbind name).apply store).binding? name = none := by
  simp [apply, Store.unbind, Store.binding?]

end StoreChange

namespace Store

variable {store : Store} {inquiry : Inquiry} {place : BindingKey} {change : StoreChange}

/-- A change of another name leaves a place and its object alone. -/
theorem hasPlace_apply_iff (store : Store) (other : ∀ name, place = .name name → change.name? ≠ some name) :
    (change.apply store).HasPlace place ↔ store.HasPlace place := by
  cases place with
  | ending => exact Iff.rfl
  | name text => rw [HasPlace, HasPlace, StoreChange.binding?_apply_of_ne (other text rfl)]

theorem oidAt_apply (store : Store) (other : ∀ name, place = .name name → change.name? ≠ some name) :
    (change.apply store).oidAt place = store.oidAt place := by
  cases place with
  | ending => rfl
  | name text => rw [oidAt, oidAt, StoreChange.binding?_apply_of_ne (other text rfl)]

/-- A place that is not guarded against the change of a name is not that name. -/
theorem name?_ne_of_guard (present : store.HasPlace place) (unguarded : change.guard store ≠ some place) :
    ∀ name, place = .name name → change.name? ≠ some name := by
  rintro name rfl same
  cases change with
  | putObject | removeObject => cases same
  | unbind changed =>
      cases same
      exact unguarded rfl
  | bind changed oid =>
      cases same
      obtain ⟨bound, binds⟩ := Option.isSome_iff_exists.mp present
      apply unguarded
      simp only [StoreChange.guard, land, binds]
      rfl

/-- An inquiry still ends where it ended before a change that a different place guards:
the change neither removes that place nor binds a name in the gap before it. -/
theorem FirstPlace.apply (ends : store.FirstPlace inquiry place)
    (unguarded : change.guard store ≠ some place) :
    (change.apply store).FirstPlace inquiry place := by
  have apart := name?_ne_of_guard ends.present unguarded
  refine ⟨(store.hasPlace_apply_iff apart).mpr ends.present, ends.reached, ?_⟩
  intro other present reached
  by_cases concerned : ∃ name, other = .name name ∧ change.name? = some name
  case neg =>
    have kept : store.HasPlace other := by
      refine (store.hasPlace_apply_iff ?_).mp present
      exact fun name named same => concerned ⟨name, named, same⟩
    exact ends.least other kept reached
  case pos =>
    obtain ⟨name, rfl, named⟩ := concerned
    cases change with
    | putObject | removeObject => cases named
    | unbind changed =>
        cases named
        rw [HasPlace, StoreChange.binding?_apply_unbind] at present
        cases present
    | bind changed oid =>
        cases named
        -- A name bound in the gap would have ended here before, so this place guards it.
        rw [← Std.not_lt]
        intro inside
        apply unguarded
        have landed := (store.firstPlace_land (.lookup name)).1
        rw [StoreChange.guard, landed.unique (ends.lookup_inside reached inside)]

end Store

/-! ### Runs -/

theorem Cluster.step_exclusive {σ : Type} [Backing σ] {cluster : Cluster σ}
    (exclusive : cluster.directory.table.Exclusive) (step : Step σ) :
    (cluster.step step).2.directory.table.Exclusive := by
  have effects : Effects (Backing.Reliable σ) True cluster.view (cluster.step step).1
      (cluster.step step).2.view := cluster.step_effects step fun _ => trivial
  have kept := effects.preserve (fun _ view => view.directory.table.Exclusive)
    (fun exclusive effect => effect.exclusive exclusive) [] exclusive
  exact kept

namespace Cluster

/-- If the step changes the store, the change is one that some node other than `reader`
may make, because it holds the guarding place for writing. -/
def Orderly (cluster : Cluster Store) (reader : NodeId) : Step Store → Prop
  | .restock store => ∃ change : StoreChange, store = change.apply cluster.service.world.store ∧
    ∀ place ∈ change.guard cluster.service.world.store, ∃ writer, writer ≠ reader ∧
      cluster.directory.table.holder (.binding place) writer = some .write
  | _ => True

/-- In every state of the run `reader` holds the place, and every change of the store is
one that others may make. -/
def Keeps (cluster : Cluster Store) (reader : NodeId) (place : BindingKey) :
    List (Step Store) → Prop
  | [] => (cluster.directory.table.holder (.binding place) reader).isSome
  | step :: rest => (cluster.directory.table.holder (.binding place) reader).isSome ∧
    cluster.Orderly reader step ∧ (cluster.step step).2.Keeps reader place rest

variable {cluster : Cluster Store} {reader : NodeId} {inquiry : Inquiry} {place : BindingKey}

/-- Where a node holds the place, what others may change is guarded by another one. -/
theorem unguarded_of_holds (exclusive : cluster.directory.table.Exclusive)
    (holds : (cluster.directory.table.holder (.binding place) reader).isSome)
    {change : StoreChange}
    (allowed : ∀ guarded ∈ change.guard cluster.service.world.store, ∃ writer, writer ≠ reader ∧
      cluster.directory.table.holder (.binding guarded) writer = some .write) :
    change.guard cluster.service.world.store ≠ some place := by
  intro guarded
  obtain ⟨writer, distinct, writes⟩ := allowed place guarded
  exact distinct (exclusive _ writer writes reader holds).symm

/-- One step of such a run leaves the place first, and the object there as it was. -/
theorem Orderly.firstPlace (exclusive : cluster.directory.table.Exclusive)
    (holds : (cluster.directory.table.holder (.binding place) reader).isSome)
    {step : Step Store} (orderly : cluster.Orderly reader step)
    (ends : cluster.service.world.store.FirstPlace inquiry place) :
    (cluster.step step).2.service.world.store.FirstPlace inquiry place ∧
      (cluster.step step).2.service.world.store.oidAt place =
        cluster.service.world.store.oidAt place := by
  rw [store_step]
  cases step with
  | restock store =>
      obtain ⟨change, rfl, allowed⟩ := orderly
      have unguarded := unguarded_of_holds exclusive holds allowed
      exact ⟨ends.apply unguarded,
        Store.oidAt_apply _ (Store.name?_ne_of_guard ends.present unguarded)⟩
  | _ => exact ⟨ends, rfl⟩

theorem Keeps.firstPlace {steps : List (Step Store)} (keeps : cluster.Keeps reader place steps)
    (exclusive : cluster.directory.table.Exclusive)
    (ends : cluster.service.world.store.FirstPlace inquiry place) :
    (cluster.run steps).2.service.world.store.FirstPlace inquiry place ∧
      (cluster.run steps).2.service.world.store.oidAt place =
        cluster.service.world.store.oidAt place := by
  induction steps generalizing cluster with
  | nil => exact ⟨ends, rfl⟩
  | cons step rest ih =>
      obtain ⟨holds, orderly, later⟩ := keeps
      obtain ⟨kept, same⟩ := orderly.firstPlace exclusive holds ends
      obtain ⟨final, still⟩ := ih later (step_exclusive exclusive step) kept
      exact ⟨final, still.trans same⟩

/-- A node asked where a name leads or which name comes next, and since then it has held
the place where that ended, and whatever was stored has been changed under the write
access of others. Then the inquiry still ends at the same place, at the same object, and
the node gets the same answer if it asks again. -/
theorem lookups_stay_true (range : PortRange) (sink : Sink) (settings : DeliverySettings)
    (store : Store) (endpoints : Endpoints) (earlier since : List (Step Store)) (reader : NodeId)
    (what : Access) (result : what.Result) {inquiry : Inquiry} {mode : Mode} {landing : Landing}
    (asks : what.inquiry? = some (inquiry, mode)) (told : what.landing? result = some landing) :
    let met := ((start range sink settings store endpoints).run earlier).2
    ∀ answered, met.service.perform (.access reader what) = (.ok result, answered) →
    Keeps { met with service := answered } reader landing.place since →
    let now := ({ met with service := answered }.run since).2
    now.service.world.store.land inquiry = landing ∧
      (now.directory.registry.isLive reader = true →
        ∃ again later, now.service.perform (.access reader what) = (.ok again, later) ∧
          what.landing? again = some landing) := by
  intro met answered performed keeps now
  obtain ⟨rfl, rfl⟩ := Service.eq_of_perform_inquiry asks told performed
  have exclusive := step_exclusive (run_exclusive range sink settings store endpoints earlier)
    (.request (.access reader what))
  change (met.service.perform (.access reader what)).2.directory.table.Exclusive at exclusive
  rw [performed] at exclusive
  obtain ⟨ends, same⟩ := keeps.firstPlace exclusive (met.service.world.store.firstPlace_land inquiry).1
  have landed : now.service.world.store.land inquiry = met.service.world.store.land inquiry :=
    Store.land_eq_land ends same
  refine ⟨landed, fun live => ?_⟩
  obtain ⟨again, answers, performed⟩ := Service.perform_inquiry asks live
  exact ⟨again, _, performed, by rw [answers, landed]⟩

/-- The second node takes the place after the last name for writing and binds a name
there. -/
def bindsBehind : List (Step Store) :=
  [.request (.access 2 (.getBindingForUpdate "f")),
    .restock ((StoreChange.bind "f" 7).apply twoNames.service.world.store)]

/-- The first node looked for a name in a gap, which the new name does not concern. -/
theorem stays_true_bindsBehind :
    let met := (twoNames.run bothRegister).2
    let answered := (met.service.perform (.access 1 (.getBinding "c"))).2
    (Cluster.run { met with service := answered } bindsBehind).2.service.world.store.land
      (.lookup "c") = ⟨false, .name "e", 6⟩ := by
  intro met answered
  have orderly : Orderly (Cluster.step { met with service := answered }
      (.request (.access 2 (.getBindingForUpdate "f")))).2 1
      (.restock ((StoreChange.bind "f" 7).apply twoNames.service.world.store)) := by
    refine ⟨.bind "f" 7, by rw [store_step]; rfl, ?_⟩
    intro place guards
    have ending : StoreChange.guard twoNames.service.world.store (.bind "f" 7) = some .ending := by
      decide +kernel
    rw [store_step] at guards
    cases ending.symm.trans guards
    exact ⟨2, by decide, by decide +kernel⟩
  have keeps : Keeps { met with service := answered } 1 (.name "e") bindsBehind :=
    ⟨by decide +kernel, trivial, by decide +kernel, orderly,
      by rw [Keeps]; decide +kernel⟩
  have stays := lookups_stay_true ⟨41000, 41003⟩ .collecting {} twoNames.service.world.store ∅
    bothRegister bindsBehind 1 (.getBinding "c") ⟨false, some "e", 6, false⟩ rfl rfl answered
    (Prod.ext (by decide +kernel) rfl) keeps
  exact stays.1

end Cluster

end CacheDirectory
