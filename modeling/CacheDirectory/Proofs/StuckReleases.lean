/-
Module: CacheDirectory.Proofs.StuckReleases
Purpose: No record that a node is to release a key outlives the requests for it, so
  deliveries, in whatever order and however the nodes answer, leave no record.
Trusted boundary: none
Main exports: Directory.deliverAll, Directory.Backed, Cluster.no_stuck_release
-/
import CacheDirectory.Proofs.Outstanding

namespace CacheDirectory

open Std

namespace Directory

/-- Deliver requests in the order given, each to nodes that answer as they like
then. A request that is pending is taken out first. -/
def deliverAll (settings : DeliverySettings) :
    List (ReleaseRequest × Endpoints) → Directory → Directory
  | [], directory => directory
  | (request, endpoints) :: rest, directory =>
    let pending := directory.pending.erase request
    let site : Site := { directory := { directory with pending }, endpoints }
    deliverAll settings rest (site.deliver settings request).2.directory

/-- Every record is that of one of the requests. -/
def Backed (requests : List ReleaseRequest) (directory : Directory) : Prop :=
  ∀ key node kind, directory.table.pendingRelease key node = some kind →
    ⟨node, key, kind⟩ ∈ requests

/-- A delivery ends the record of its request and begins none. -/
theorem backed_deliver (settings : DeliverySettings) (site : Site) {request : ReleaseRequest}
    {rest : List ReleaseRequest} (backed : site.directory.Backed (request :: rest)) :
    (site.deliver settings request).2.directory.Backed rest := by
  rw [Site.deliver]
  obtain ⟨died, settled, -⟩ :=
    Site.deliverWithin_settle settings request settings.attempts site
  obtain ⟨scope, -, inScope, clears⟩ := (site.directory.bury died).clears_settle request
    (Site.deliverWithin settings request settings.attempts site).1
  rw [settled]
  intro key node kind recorded
  by_cases cleared : request.target = node ∧ scope key = true
  · rw [← cleared.1, clears.gone key cleared.2] at recorded
    cases recorded
  · rw [clears.kept node key cleared] at recorded
    rcases List.mem_cons.mp (backed key node kind recorded) with same | among
    · subst same
      exact absurd ⟨rfl, inScope⟩ cleared
    · exact among

theorem Backed.deliverAll {order : List (ReleaseRequest × Endpoints)} {directory : Directory}
    (settings : DeliverySettings) (backed : directory.Backed (order.map (·.1))) :
    (directory.deliverAll settings order).Backed [] := by
  induction order generalizing directory with
  | nil => exact backed
  | cons first rest ih =>
      apply ih
      exact backed_deliver settings ⟨_, first.2⟩ backed

/-- Without requests there is nothing to record. -/
theorem Backed.releasing_eq_empty {directory : Directory} (backed : directory.Backed [])
    (key : Key) : (directory.table.entry key).releasing = ∅ := by
  apply ExtTreeMap.ext_getElem?
  intro node
  rw [ExtTreeMap.getElem?_empty]
  cases recorded : (directory.table.entry key).releasing[node]? with
  | none => rfl
  | some kind => exact absurd (backed key node kind recorded) List.not_mem_nil

end Directory

namespace Cluster

/-- Every record of a release is that of a request that is still under way: pending,
or in delivery. So nothing is recorded once nothing is under way, and delivering all
that is under way, in any order and whatever the nodes answer, leaves no record. -/
theorem no_stuck_release {σ : Type} [Backing σ] (range : PortRange)
    (settings : DeliverySettings) (store : σ) (endpoints : Endpoints) (steps : List (Step σ)) :
    let cluster := ((start range .collecting settings store endpoints).run steps).2
    (∀ key node kind, cluster.directory.table.pendingRelease key node = some kind →
      ⟨node, key, kind⟩ ∈ cluster.outstanding) ∧
    (cluster.outstanding = [] → ∀ key, (cluster.directory.table.entry key).releasing = ∅) ∧
    ∀ order : List (ReleaseRequest × Endpoints),
      (order.map (·.1)).Perm cluster.outstanding →
      ∀ key, ((cluster.directory.deliverAll settings order).table.entry key).releasing = ∅ := by
  intro cluster
  have accounts := run_accounts range settings store endpoints steps
  have backed : cluster.directory.Backed cluster.outstanding := by
    intro key node kind recorded
    exact accounts.mem_outstanding recorded
  refine ⟨backed, ?_, ?_⟩
  · intro settled
    rw [settled] at backed
    exact backed.releasing_eq_empty
  · intro order all
    have listed : cluster.directory.Backed (order.map (·.1)) := by
      intro key node kind recorded
      exact all.mem_iff.mpr (backed key node kind recorded)
    have delivered := listed.deliverAll settings
    exact delivered.releasing_eq_empty

end Cluster

end CacheDirectory
