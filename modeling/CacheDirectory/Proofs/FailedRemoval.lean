/-
Module: CacheDirectory.Proofs.FailedRemoval
Purpose: What a removal leaves behind that fails. It takes write access to the name
  before it looks for the place after it, and when the second part fails it gives only
  its own access back: whoever held the name has lost it.
Trusted boundary: none
Main exports: Directory.Untouched, Action.TakesName, Action.failed_removal,
  Action.failed_removal_revokes
-/
import CacheDirectory.Proofs.Runs
import Mathlib.Control.Monad.Basic

namespace CacheDirectory

open Std

/-- Nobody's access has changed, and nobody was asked to release anything. -/
structure Directory.Untouched (before after : Directory) : Prop where
  entries : ∀ key, after.table.entry key = before.table.entry key
  pending : after.pending = before.pending

theorem Directory.Lapses.untouched {before after : Directory} (lapses : before.Lapses after) :
    before.Untouched after :=
  ⟨lapses.entry, lapses.pending⟩

/-! ### A grant of write access that is given back -/

namespace Entry

/-- Write access is granted to `node` and given back at once. -/
def revoke (entry : Entry) (node : NodeId) : Entry :=
  ((entry.grant node .write).2.release node).2

/-- Nobody is left. -/
theorem holder_revoke (entry : Entry) (node other : NodeId) :
    (entry.revoke node).holder other = none := by
  rw [revoke, holder_release]
  split
  case isTrue => rfl
  case isFalse distinct =>
    rw [holder_grant, if_neg distinct, demand_write entry distinct]
    cases entry.holder other <;> rfl

/-- The others that were there have been asked to go. -/
theorem pendingRelease_revoke (entry : Entry) {node other : NodeId} (distinct : other ≠ node) :
    (entry.revoke node).pendingRelease other =
      match entry.holder other with
      | none => entry.pendingRelease other
      | some held => some (Release.merge (entry.pendingRelease other) held.forfeit) := by
  rw [revoke, pendingRelease_release, pendingRelease_grant, demand_write entry distinct]
  cases entry.holder other <;> rfl

theorem pendingRelease_revoke_self (entry : Entry) (node : NodeId) :
    (entry.revoke node).pendingRelease node = entry.pendingRelease node := by
  rw [revoke, pendingRelease_release, pendingRelease_grant, demand_self]

/-- Only where nobody was is everything as before. -/
theorem revoke_eq_self_iff (entry : Entry) (node : NodeId) :
    entry.revoke node = entry ↔ ∀ other, entry.holder other = none := by
  constructor
  · intro same other
    rw [← same, holder_revoke]
  · intro unheld
    apply ext_of_lookups
    · intro other
      rw [holder_revoke, unheld]
    · intro other
      by_cases same : other = node
      · rw [same, pendingRelease_revoke_self]
      · rw [pendingRelease_revoke entry same, unheld]

end Entry

namespace Directory

/-- Who is asked depends on who holds the key, not on who lives. -/
theorem asked_bury (directory : Directory) (died : List NodeId) (node : NodeId) (key : Key)
    (mode : Mode) : (directory.bury died).asked node key mode = directory.asked node key mode := by
  simp only [asked, grant, submit, bury]
  cases directory.sink <;> rfl

/-- Where nobody is, nobody is asked to go. -/
theorem asked_eq_nil {directory : Directory} {key : Key}
    (unheld : ∀ other, (directory.table.entry key).holder other = none) (node : NodeId)
    (mode : Mode) : directory.asked node key mode = [] := by
  cases sink : directory.sink with
  | closed =>
      simp only [asked, grant, submit, sink]
      exact List.drop_length
  | collecting =>
      apply List.eq_nil_iff_forall_not_mem.mpr
      intro request among
      obtain ⟨-, demanded⟩ := (mem_asked sink node key mode request).mp among
      rw [Entry.demand_eq, unheld, Option.bind_none] at demanded
      cases demanded

end Directory

/-! ### The removal -/

namespace Action

variable {σ : Type} [Backing σ]

/-- A removal gets as far as to take the name: the name is bound, and the node still
lives after that has been looked up. -/
def TakesName (node : NodeId) (name : String) (world : World σ) : Prop :=
  ∃ oid, (Backing.binding name world.store).1.outcome = .ok (some oid) ∧
    (world.directory.bury (Backing.binding name world.store).1.died).registry.isLive node = true

/-- The second part alone grants nothing if it fails. -/
theorem lapses_of_takeNext_error {node : NodeId} {name : String} {world later : World σ}
    {cause : DirectoryError}
    (failed : (takeNext node name : Action σ _).perform world = (.error cause, later)) :
    world.directory.Lapses later.directory := by
  have performs : Performs node (takeNext node name : Action σ _) fun taken => [reportNext taken] :=
    performs_takeNext name
  have performed := performs world
  rw [failed] at performed
  exact performed

/-- A removal that fails before it takes the name grants nothing. -/
theorem early_of_not_takesName {node : NodeId} {name : String} {world later : World σ}
    {cause : DirectoryError} (untaken : ¬ TakesName node name world)
    (failed : (getBindingForRemove node name).perform world = (.error cause, later)) :
    world.directory.Lapses later.directory := by
  rw [getBindingForRemove, perform_bind, perform_requireLive, Registry.check] at failed
  cases live : world.directory.registry.isLive node with
  | false =>
      rw [live] at failed
      cases failed
      exact .refl _
  | true =>
      simp only [live, if_true, perform_bind, perform_lookup] at failed
      cases looked : (Backing.binding name world.store).1.outcome with
      | error cause =>
          rw [looked] at failed
          cases failed
          exact .buried _
      | ok bound =>
          rw [looked] at failed
          cases bound with
          | none =>
              simp only [mapError_ok, perform_bind] at failed
              split at failed
              case h_1 => cases failed
              case h_2 refused =>
                cases failed
                exact (lapses_of_takeNext_error refused).of_bury
          | some oid =>
              have dead : ¬ _ = true := fun alive => untaken ⟨oid, looked, alive⟩
              simp only [mapError_ok, perform_bind, perform_grant, dead] at failed
              cases failed
              exact .forgone _ _

/-- A removal that fails after it took the name has revoked the name. -/
theorem late_of_takesName {node : NodeId} {name : String} {world later : World σ}
    {cause : DirectoryError} (takes : TakesName node name world)
    (failed : (getBindingForRemove node name).perform world = (.error cause, later)) :
    ∃ (died : List NodeId) (granted : Directory),
      ((world.directory.bury died).grant node (.binding (.name name)) .write).2.Lapses granted ∧
        later.directory = (granted.release node (.binding (.name name))).2 := by
  obtain ⟨oid, bound, live⟩ := takes
  have alive : world.directory.registry.isLive node = true :=
    Registry.isLive_of_isLive_markAllDead live
  simp only [getBindingForRemove, perform_bind, perform_requireLive, Registry.check, alive,
    if_true, perform_lookup, bound, mapError_ok, perform_grant, live, perform_tryCatch]
    at failed
  split at failed
  case h_1 => cases failed
  case h_2 undone =>
    cases failed
    split at undone
    case h_1 => cases undone
    case h_2 refused =>
      cases undone
      exact ⟨_, _, lapses_of_takeNext_error refused, rfl⟩

/-- A failed removal leaves no trace exactly if it did not get as far as to take the
name, or nobody held the name then. Otherwise everybody has lost the name, the node
itself included, and those others that held it are asked to release it, as if the
removal had succeeded. -/
theorem failed_removal {node : NodeId} {name : String} {world later : World σ}
    {cause : DirectoryError}
    (failed : (getBindingForRemove node name).perform world = (.error cause, later)) :
    let place := Key.binding (.name name)
    let before := world.directory
    let after := later.directory
    (before.Untouched after ↔
      (TakesName node name world → ∀ other, before.table.holder place other = none)) ∧
    (TakesName node name world →
      (∀ key, key ≠ place → after.table.entry key = before.table.entry key) ∧
      (∀ other, after.table.holder place other = none) ∧
      (∀ other held, other ≠ node → before.table.holder place other = some held →
        after.table.pendingRelease place other =
          some (Release.merge (before.table.pendingRelease place other) held.forfeit)) ∧
      after.pending = before.pending ++ before.asked node place .write) := by
  intro place before after
  by_cases takes : TakesName node name world
  case neg =>
    have lapses := early_of_not_takesName takes failed
    exact ⟨⟨fun _ taken => absurd taken takes, fun _ => lapses.untouched⟩,
      fun taken => absurd taken takes⟩
  case pos =>
    obtain ⟨died, granted, lapses, settled⟩ := late_of_takesName takes failed
    have taken : after.table.entry place = (before.table.entry place).revoke node := by
      change later.directory.table.entry place = _
      rw [settled, Directory.entry_release, if_pos rfl, lapses.entry, Directory.entry_grant,
        if_pos rfl]
      rfl
    have others : ∀ key, key ≠ place → after.table.entry key = before.table.entry key := by
      intro key distinct
      change later.directory.table.entry key = _
      rw [settled, Directory.entry_release, if_neg distinct, lapses.entry, Directory.entry_grant,
        if_neg distinct]
      rfl
    have pending : after.pending = before.pending ++ before.asked node place .write := by
      change later.directory.pending = _
      rw [settled]
      change granted.pending = _
      rw [lapses.pending, Directory.pending_grant, Directory.asked_bury]
      rfl
    refine ⟨⟨?_, ?_⟩, fun _ => ⟨others, ?_, ?_, pending⟩⟩
    · intro untouched _
      apply (Entry.revoke_eq_self_iff _ node).mp
      rw [← taken, untouched.entries]
    · intro unheld
      constructor
      case entries =>
        intro key
        by_cases here : key = place
        · subst here
          rw [taken]
          exact (Entry.revoke_eq_self_iff _ node).mpr (unheld takes)
        · exact others key here
      case pending => rw [pending, Directory.asked_eq_nil (unheld takes), List.append_nil]
    · intro other
      rw [Table.holder_eq, taken, Entry.holder_revoke]
    · intro other held distinct holds
      rw [Table.holder_eq] at holds
      rw [Table.pendingRelease_eq, taken, Entry.pendingRelease_revoke _ distinct, holds]
      rfl

end Action

/-! ### A run -/

/-- One name is bound, and two nodes will register. -/
def oneName : Cluster FaultyStore :=
  .start ⟨41000, 41003⟩ .collecting {}
    { store := { bindings := (∅ : ExtTreeMap String ObjectId).insert "a" 5 } } ∅

/-- Both nodes read the name. Then the store can no longer tell which name is next. -/
def readByBoth : List (Step FaultyStore) :=
  [.request (.registerNode "a"), .request (.registerNode "b"),
    .request (.access 1 (.getBinding "a")), .request (.access 2 (.getBinding "a")),
    .restock { oneName.service.world.store with
      fault := some ⟨.nextBinding, .fail (.backendFailure "disk")⟩ }]

/-- The removal that fails takes the name from both readers, of which only the other
one is asked to release it. -/
theorem failed_removal_revokes :
    let world := (oneName.run readByBoth).2.service.world
    let removal := (Action.getBindingForRemove 1 "a").perform world
    removal.1 = .error (.store (.backendFailure "disk")) ∧
      world.directory.table.holder (.binding (.name "a")) 1 = some .read ∧
      world.directory.table.holder (.binding (.name "a")) 2 = some .read ∧
      removal.2.directory.table.holder (.binding (.name "a")) 1 = none ∧
      removal.2.directory.table.holder (.binding (.name "a")) 2 = none ∧
      removal.2.directory.pending = [⟨2, .binding (.name "a"), .downgrade⟩] := by
  decide +kernel

theorem not_untouched_readByBoth :
    let world := (oneName.run readByBoth).2.service.world
    let removal := (Action.getBindingForRemove 1 "a").perform world
    removal.1 = .error (.store (.backendFailure "disk")) ∧
      ¬ world.directory.Untouched removal.2.directory := by
  intro world removal
  have failed : removal.1 = .error (.store (.backendFailure "disk")) := by decide +kernel
  have ran : (Action.getBindingForRemove 1 "a").perform world =
      (.error (.store (.backendFailure "disk")), removal.2) := by
    rw [← failed]
  have trace := Action.failed_removal ran
  refine ⟨failed, fun untouched => ?_⟩
  have takes : Action.TakesName 1 "a" world := ⟨5, by decide +kernel, by decide +kernel⟩
  have unheld := trace.1.mp untouched takes 1
  revert unheld
  decide +kernel

end CacheDirectory
