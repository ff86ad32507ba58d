/-
Module: CacheDirectory.Proofs.SteadyStore
Purpose: A store in memory changes only when it is said to: no request does it, and of
  all that can happen only one step.
Trusted boundary: none
Main exports: SameStore, steady, Service.store_dispatch, Cluster.store_step
-/
import CacheDirectory.Proofs.Laws
import CacheDirectory.Proofs.Runs

namespace CacheDirectory

open Wire

/-- The store is as it was. -/
def SameStore (before after : World Store) : Prop :=
  after.store = before.store

/-- No step of an operation changes what is stored. -/
theorem steady : Action.Law SameStore :=
  have unchanged {α : Type} {read : Store → Reading α × Store}
      (same : ∀ store, (read store).2 = store) : (Action.lookup read).Obeys SameStore := by
    intro world
    rw [Action.perform_lookup]
    exact same world.store
  { refl := fun _ => rfl
    trans := fun first second => second.trans first
    object := fun _ => unchanged fun _ => rfl
    nextObject := fun _ => unchanged fun _ => rfl
    binding := fun _ => unchanged fun _ => rfl
    nextBinding := fun _ => unchanged fun _ => rfl
    granted := fun _ _ _ _ => rfl
    forgone := fun _ _ => rfl
    released := fun _ _ _ => rfl }

/-- No request changes what is stored. -/
theorem Service.store_perform (service : Service Store) (request : Request) :
    (service.perform request).2.world.store = service.world.store := by
  cases request with
  | registerNode => rfl
  | _ => exact service.perform_obeys steady nofun

theorem Service.store_dispatch (service : Service Store) (request : Request) :
    (service.dispatch request).2.world.store = service.world.store := by
  have same := service.store_perform request
  rw [dispatch]
  rcases ran : service.perform request with ⟨outcome, later⟩
  rw [ran] at same
  cases outcome <;> exact same

/-- Only where it is said that the store changes does it change. -/
theorem Cluster.store_step (cluster : Cluster Store) (step : Step Store) :
    (cluster.step step).2.service.world.store =
      match step with
      | .restock store => store
      | _ => cluster.service.world.store := by
  cases step with
  | request request => exact cluster.service.store_perform request
  | deliver index =>
      simp only [Cluster.step]
      split <;> rfl
  | depart index now =>
      simp only [Cluster.step]
      split <;> rfl
  | proceed index =>
      simp only [Cluster.step]
      split <;> rfl
  | _ => rfl

/-- Where it is never said that the store changes it stays as it is. -/
theorem Cluster.store_run {cluster : Cluster Store} {steps : List (Step Store)}
    (steady : ∀ store, .restock store ∉ steps) :
    (cluster.run steps).2.service.world.store = cluster.service.world.store := by
  induction steps generalizing cluster with
  | nil => rfl
  | cons step rest ih =>
      have later : (cluster.step step).2.service.world.store = cluster.service.world.store := by
        rw [store_step]
        cases step with
        | restock store => exact absurd List.mem_cons_self (steady store)
        | _ => rfl
      rw [← later]
      exact ih fun store among => steady store (List.mem_cons_of_mem step among)

end CacheDirectory
