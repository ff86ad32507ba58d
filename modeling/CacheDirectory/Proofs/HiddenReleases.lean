/-
Module: CacheDirectory.Proofs.HiddenReleases
Purpose: When the directory still remembers a request that is under way, and tells
  others of it. The end of one delivery clears the record of all requests to the same
  node for the same key, so a request can be under way and remembered no more.
Trusted boundary: none
Main exports: Report.Warns, Grants.warns, Cluster.recalled_iff,
  Cluster.settled_delivery_hides_request
-/
import CacheDirectory.Proofs.Outstanding

namespace CacheDirectory

open Std Wire

/-- The report does not deny that somebody else is still to give the key up, by a
request of the kind or a stronger one. -/
def Report.Warns (report : Report) : Release → Prop
  | .evict => report.evict ≠ some false
  | .downgrade => ¬ (report.evict = some false ∧ report.downgrade = some false)

theorem Report.Tells.warns {report : Report} {key : Key} {mode : Mode} {conflicts : Conflicts}
    (told : report.Tells key mode conflicts) {kind bound : Release}
    (flagged : conflicts.flag kind = true) (strong : bound ≤ kind) : report.Warns bound := by
  have evicts : kind = .evict → report.evict ≠ some false := by
    rintro rfl denied
    have unflagged := told.evict false denied
    rw [Conflicts.flag, unflagged] at flagged
    cases flagged
  cases bound with
  | evict => exact evicts (Release.le_antisymm (by cases kind <;> decide) strong)
  | downgrade =>
      rintro ⟨first, second⟩
      cases kind with
      | evict => exact evicts rfl first
      | downgrade =>
          have unflagged := told.downgrade false second
          rw [Conflicts.flag, unflagged] at flagged
          cases flagged

/-- A grant ends no record, whatever becomes of the requests it submits. -/
theorem Directory.Recalls.grant {directory : Directory} {node : NodeId} {key : Key}
    {bound : Release} (recalls : directory.Recalls node key bound) (requester : NodeId)
    (taken : Key) (mode : Mode) :
    (directory.grant requester taken mode).2.Recalls node key bound := by
  obtain ⟨kind, recorded, strong⟩ := recalls
  rw [Table.pendingRelease_eq] at recorded
  rw [Directory.Recalls, Table.pendingRelease_eq, Directory.entry_grant]
  split
  case isFalse => exact ⟨kind, recorded, strong⟩
  case isTrue same =>
    subst same
    rw [Entry.pendingRelease_grant]
    split
    case h_1 => exact ⟨kind, recorded, strong⟩
    case h_2 =>
      rw [recorded]
      exact ⟨_, rfl, (Release.le_merge_iff _ _ _).mpr (Or.inl ⟨kind, rfl, strong⟩)⟩

/-- Whatever is recorded of another node when access is asked for is told in the
answer. -/
theorem Grants.warns {node other : NodeId} {directory later : Directory} {reports : List Report}
    (grants : Grants node directory reports later) {key : Key} {bound : Release}
    (recalls : directory.Recalls other key bound) (distinct : other ≠ node) :
    ∀ report ∈ reports, report.key = key → report.Warns bound := by
  induction grants with
  | nil => exact nofun
  | @cons directory later taken mode report rest died live told following ih =>
      intro answer among same
      rcases List.mem_cons.mp among with rfl | among
      · obtain ⟨kind, recorded, strong⟩ := recalls
        rw [← same, told.key, Table.pendingRelease_eq] at recorded
        exact told.warns (Entry.flag_grant_of_pendingRelease mode distinct recorded) strong
      · have stays : (directory.bury died).Recalls other key bound := recalls
        exact ih (stays.grant node taken mode) answer among same

namespace Cluster

/-- A request that is under way is remembered exactly if a request to its node for
its key, at least as strong, was submitted since the record of the two last ended;
and as long as it is remembered, every other node that obtains the key is told. -/
theorem recalled_iff {σ : Type} [Backing σ] (range : PortRange) (settings : DeliverySettings)
    (store : σ) (endpoints : Endpoints) (steps : List (Step σ)) :
    let history := ((start range .collecting settings store endpoints).run steps).1
    let cluster := ((start range .collecting settings store endpoints).run steps).2
    ∀ request ∈ cluster.outstanding,
      .submitted request ∈ history ∧
      (cluster.directory.Recalls request.target request.key request.release ↔
        Since (Event.Asks request.target request.key request.release)
          (Event.Clears request.target request.key) history) ∧
      (cluster.directory.Recalls request.target request.key request.release →
        ∀ (node : NodeId) (what : Access) (result : what.Result) (later : Service σ),
          request.target ≠ node →
          cluster.service.perform (.access node what) = (.ok result, later) →
          ∀ report ∈ what.reports result, report.key = request.key →
            report.Warns request.release) := by
  intro history cluster request among
  have accounts := run_accounts range settings store endpoints steps
  have asked : .submitted request ∈ history := accounts.submitted request among
  refine ⟨asked, accounts.recalls _ _ _, ?_⟩
  intro recalls node what result later distinct performed
  have grants := cluster.service.perform_concludes node what
  rw [performed] at grants
  exact grants.warns recalls distinct

theorem recalled_displacedTwice :
    ⟨1, .object 5, .evict⟩ ∈ (oneObject.run displacedTwice).2.outstanding ∧
      Since (Event.Asks 1 (.object 5) .evict) (Event.Clears 1 (.object 5))
        (oneObject.run displacedTwice).1 := by
  have outstanding : ⟨1, .object 5, .evict⟩ ∈ (oneObject.run displacedTwice).2.outstanding := by
    decide +kernel
  have recorded : (oneObject.run displacedTwice).2.directory.table.pendingRelease
      (.object 5) 1 = some .evict := by
    decide +kernel
  exact ⟨outstanding, ((recalled_iff _ _ _ _ displacedTwice _ outstanding).2.1).mp
    ⟨.evict, recorded, by decide⟩⟩

/-- After the delivery of one of two requests to a node the other is still under way,
but the directory does not remember it, and a third node is not told. -/
theorem settled_delivery_hides_request :
    let cluster := (oneObject.run (displacedTwice ++ [.deliver 0])).2
    ⟨1, .object 5, .evict⟩ ∈ cluster.outstanding ∧
      cluster.directory.registry.isLive 1 = true ∧
      cluster.directory.table.pendingRelease (.object 5) 1 = none ∧
      (cluster.service.perform (.access 3 (.getObject 5))).1 = .ok (some ⟨[1], false⟩) := by
  decide +kernel

end Cluster

end CacheDirectory
