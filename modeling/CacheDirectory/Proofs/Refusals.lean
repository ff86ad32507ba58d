/-
Module: CacheDirectory.Proofs.Refusals
Purpose: What a request for one key leaves behind that is refused or finds nothing. It
  takes its access in the last of its steps, from which there is no way back, so before
  that nothing has happened but that nodes have died. If that step is refused, the key that
  was tracked for it vanishes again, unless it was tracked before.
Trusted boundary: none
Main exports: Access.takesOne, Access.findsNothing, Action.Decides,
  Action.access_decides, Directory.Lapses.table_eq, Cluster.refused_untouched
-/
import CacheDirectory.Proofs.FailedRemoval
import CacheDirectory.Proofs.TrackedKeys

namespace CacheDirectory

open Std Wire

namespace Wire.Access

/-- A removal takes two keys, every other request for access one at most. -/
def takesOne : Access → Bool
  | .getBindingForRemove _ => false
  | _ => true

/-- The answer is that there is no such object. -/
def findsNothing : (what : Access) → what.Result → Bool
  | .getObject _, result => result.isNone
  | .getObjectForUpdate _, result => result.isNone
  | .nextObjectId _, result => result.isNone
  | _, _ => false

end Wire.Access

namespace Action

variable {σ α β : Type} {node : NodeId}

/-! ### One grant at the end -/

/-- All that can come of an operation of `node` that takes one key at most. It is refused
before it is granted anything, or some nodes die, and it finds `nothing`, or else it makes
its one grant, to the node, which lives, and is over. -/
inductive Decision (node : NodeId) (nothing : α → Bool) (before : Directory) :
    Except DirectoryError α → Directory → Prop
  | refused {after : Directory} (lapses : before.Lapses after) (cause : DirectoryError) :
      Decision node nothing before (.error cause) after
  | vain (died : List NodeId) {result : α} (empty : nothing result = true) :
      Decision node nothing before (.ok result) (before.bury died)
  | granted (died : List NodeId) (key : Key) (mode : Mode) {result : α}
      (full : nothing result = false) (live : (before.bury died).registry.isLive node = true) :
      Decision node nothing before (.ok result) ((before.bury died).grant node key mode).2

theorem Decision.of_bury {nothing : α → Bool} {before after : Directory} {died : List NodeId}
    {outcome : Except DirectoryError α}
    (decision : Decision node nothing (before.bury died) outcome after) :
    Decision node nothing before outcome after := by
  cases decision with
  | refused lapses cause => exact .refused lapses.of_bury cause
  | vain more empty =>
      rw [Directory.bury_bury]
      exact .vain _ empty
  | granted more key mode full live =>
      rw [Directory.bury_bury] at live ⊢
      exact .granted _ key mode full live

/-- The operation comes to such a decision in every world. -/
def Decides (node : NodeId) (action : Action σ α) (nothing : α → Bool) : Prop :=
  ∀ world, Decision node nothing world.directory (action.perform world).1
    (action.perform world).2.directory

/-- Steps that grant nothing may come before. -/
theorem Inspects.decides {first : Action σ α} {next : α → Action σ β} {answer : α → Prop}
    {nothing : β → Bool} (inspects : Inspects first answer)
    (continues : ∀ result, answer result → Decides node (next result) nothing) :
    Decides node (first >>= next) nothing := by
  intro world
  obtain ⟨died, later, buried, ⟨cause, ran⟩ | ⟨result, answered, ran⟩⟩ :=
    inspects.perform_bind next world
  · rw [ran]
    change Decision node nothing world.directory (.error cause) later.directory
    rw [buried]
    exact .refused (.buried died) cause
  · have decision := continues result answered later
    rw [buried] at decision
    rw [ran]
    exact decision.of_bury

theorem decides_pure {nothing : α → Bool} {result : α} (empty : nothing result = true) :
    Decides node (pure result : Action σ α) nothing :=
  fun _ => .vain [] empty

/-- The grant is the last step, and finds its node alive or is refused. -/
theorem decides_grant {nothing : α → Bool} {key : Key} {mode : Mode} {answer : Conflicts → α}
    (full : ∀ conflicts, nothing (answer conflicts) = false) :
    Decides node (do return answer (← grant node key mode) : Action σ α) nothing := by
  intro world
  rw [perform_bind, perform_grant]
  cases live : world.directory.registry.isLive node with
  | false => exact .refused (.forgone [] key) (.unknownNode node)
  | true => exact .granted [] key mode (full _) live

/-- A node that does not read the key is refused; the grant to a reader is all that there is
to an upgrade. -/
theorem decides_upgrade {key : Key} :
    Decides node (upgrade node key : Action σ Conflicts) fun _ => false := by
  intro world
  rw [perform_upgrade]
  cases upgraded : world.directory.upgrade node key with
  | none =>
      cases world.directory.table.tracks key && !world.directory.registry.isLive node <;>
        exact .refused (.refl _) _
  | some outcome =>
      obtain ⟨reads, granted⟩ := Directory.upgrade_eq_some upgraded
      rw [Directory.tracks_of_holder reads, Bool.true_and]
      cases live : world.directory.registry.isLive node with
      | false => exact .refused (.refl _) (.unknownNode node)
      | true =>
          change Decision node _ world.directory (.ok outcome.1) outcome.2
          rw [← congrArg Prod.snd granted]
          exact .granted [] key .write rfl live

theorem Decides.map {action : Action σ α} {nothing : α → Bool} {later : β → Bool}
    (decides : Decides node action nothing) {answer : α → β}
    (same : ∀ result, later (answer result) = nothing result) :
    Decides node (do return answer (← action)) later := by
  intro world
  have decision := decides world
  rw [perform_bind]
  rcases ran : action.perform world with ⟨outcome, after⟩
  rw [ran] at decision
  generalize found : after.directory = directory at decision
  cases decision with
  | refused lapses cause =>
      change Decision node later world.directory (.error cause) after.directory
      rw [found]
      exact .refused lapses cause
  | @vain died result empty =>
      change Decision node later world.directory (.ok (answer result)) after.directory
      rw [found]
      exact .vain died (by rw [same, empty])
  | @granted died key mode result full live =>
      change Decision node later world.directory (.ok (answer result)) after.directory
      rw [found]
      exact .granted died key mode (by rw [same, full]) live

/-! ### The operations -/

variable [Backing σ]

theorem decides_takeObject (oid : ObjectId) (mode : Mode) :
    Decides node (takeObject node oid mode : Action σ _) Option.isNone := by
  apply (inspects_requireArgument _ _).decides
  intro _ _
  apply inspects_requireLive.decides
  intro _ _
  apply (inspects_lookup _).decides
  rintro (_ | contents) _
  · exact decides_pure rfl
  · exact decides_grant fun _ => rfl

omit [Backing σ] in
theorem decides_upgradeObject (oid : ObjectId) :
    Decides node (upgradeObject node oid : Action σ _) fun _ => false := by
  apply (inspects_requireArgument _ _).decides
  intro _ _
  apply inspects_requireLive.decides
  intro _ _
  exact decides_upgrade.map fun _ => rfl

/-- A lookup in the namespace always ends at some place, which is then granted. -/
theorem decides_resolve {name : String} {mode : Mode} {answer : Landing → Conflicts → α} :
    Decides node (do
      requireLive node
      let landing ← resolve name
      return answer landing (← grant node (.binding landing.place) mode) : Action σ α)
      fun _ => false := by
  apply inspects_requireLive.decides
  intro _ _
  apply (inspects_resolve name).decides
  intro landing _
  exact decides_grant fun _ => rfl

/-- Every request for access but the removal decides in its last step. -/
theorem access_decides {what : Access} (single : what.takesOne = true) :
    Decides node (what.action node : Action σ what.Result) what.findsNothing := by
  cases what with
  | getObject oid => exact (decides_takeObject oid .read).map fun taken => by cases taken <;> rfl
  | getObjectForUpdate oid =>
      exact (decides_takeObject oid .write).map fun taken => by cases taken <;> rfl
  | upgradeObject oid => exact decides_upgradeObject oid
  | nextObjectId after =>
      apply (inspects_requireArgument _ _).decides
      intro _ _
      apply inspects_requireLive.decides
      intro _ _
      apply (inspects_lookup _).decides
      rintro (_ | ⟨next, contents⟩) _
      · exact decides_pure rfl
      · exact decides_grant fun _ => rfl
  | getBinding name => exact decides_resolve
  | getBindingForUpdate name => exact decides_resolve
  | getBindingForRemove name => cases single
  | nextBoundName after =>
      apply inspects_requireLive.decides
      intro _ _
      apply (inspects_lookup _).decides
      intro next _
      exact decides_grant fun _ => rfl

end Action

/-! ### In a run -/

/-- Where no key is tracked for nobody's sake, a request that is refused before it is granted
anything leaves the same keys tracked, in the same states: if its key was tracked for it,
the key has vanished again, and if it was tracked before, it is still there. -/
theorem Directory.Lapses.table_eq {before after : Directory} (lapses : before.Lapses after)
    (tidy : before.table.Tidy) : after.table = before.table := by
  cases lapses with
  | buried died => rfl
  | forgone died key => exact tidy.prune_track key

/-- Whatever happened before, whatever the store answers and whoever dies meanwhile: a
request for one key that is refused, or answered that there is no such object, leaves every
key as it was, those that are tracked and those that are not, and asks nobody to release
anything. All that may have happened is that nodes died. So it is in particular if the node
is dead in the end: then it has been refused or has found nothing. -/
theorem Cluster.refused_untouched {σ : Type} [Backing σ] {what : Access}
    (single : what.takesOne = true) (node : NodeId) (range : PortRange) (sink : Sink)
    (settings : DeliverySettings) (store : σ) (endpoints : Endpoints) (steps : List (Step σ)) :
    let world := ((start range sink settings store endpoints).run steps).2.service.world
    let outcome := ((what.action node).perform world).1
    let before := world.directory
    let after := ((what.action node).perform world).2.directory
    ((∀ result, outcome = .ok result → what.findsNothing result = true) →
      after.table = before.table ∧ after.pending = before.pending ∧
        ∃ died, after.registry = before.registry.markAllDead died) ∧
    (after.registry.isLive node = false →
      (∀ result, outcome = .ok result → what.findsNothing result = true) ∧
        after.table = before.table ∧ after.pending = before.pending) := by
  intro world outcome before after
  have decision : Action.Decision node what.findsNothing before outcome after :=
    Action.access_decides single world
  have tidy : before.table.Tidy := tidy_run range sink settings store endpoints steps
  clear_value outcome after
  cases decision with
  | refused lapses cause =>
      exact ⟨fun _ => ⟨lapses.table_eq tidy, lapses.pending, lapses.registry⟩,
        fun _ => ⟨nofun, lapses.table_eq tidy, lapses.pending⟩⟩
  | @vain died result empty =>
      have found : ∀ other, (Except.ok result : Except DirectoryError _) = .ok other →
          what.findsNothing other = true := fun other same => Except.ok.inj same ▸ empty
      exact ⟨fun _ => ⟨rfl, rfl, died, rfl⟩, fun _ => ⟨found, rfl, rfl⟩⟩
  | @granted died key mode result full live =>
      constructor
      · intro vain
        rw [vain result rfl] at full
        cases full
      · intro dead
        rw [Directory.registry_grant, live] at dead
        cases dead

/-- One object is stored. -/
def oneStored : FaultyStore :=
  { store := { objects := (∅ : ExtTreeMap ObjectId Bytes).insert 5 [1] } }

/-- Two nodes write the object, one after the other. The first will die during the next
lookup of an object. -/
def writtenByBoth : List (Step FaultyStore) :=
  [.request (.registerNode "a"), .request (.registerNode "b"),
    .request (.access 1 (.getObjectForUpdate 5)), .request (.access 2 (.getObjectForUpdate 5)),
    .restock { oneStored with fault := some ⟨.object, .kill 1⟩ }]

/-- The node that dies while its request is under way does not take the object back from
the writer that displaced it. -/
theorem refused_untouched_dying :
    let world := ((Cluster.start ⟨41000, 41003⟩ .collecting {} oneStored ∅).run
      writtenByBoth).2.service.world
    let request := (Action.getObjectForUpdate 1 5).perform world
    (Access.getObjectForUpdate 5).takesOne = true ∧
      world.directory.registry.isLive 1 = true ∧
      request.2.directory.registry.isLive 1 = false ∧
      request.1 = .error (.unknownNode 1) ∧
      request.2.directory.table = world.directory.table ∧
      request.2.directory.pending = world.directory.pending ∧
      request.2.directory.table.holder (.object 5) 2 = some .write := by
  intro world request
  have dead : request.2.directory.registry.isLive 1 = false := by decide +kernel
  have single : (Access.getObjectForUpdate 5).takesOne = true := rfl
  have untouched := (Cluster.refused_untouched single 1 ⟨41000, 41003⟩ .collecting {} oneStored ∅
    writtenByBoth).2 dead
  exact ⟨single, by decide +kernel, dead, by decide +kernel, untouched.2.1, untouched.2.2,
    by decide +kernel⟩

end CacheDirectory
