/-
Module: CacheDirectory.Proofs.Laws
Purpose: Operations consist of lookups, grants, granted or refused, and releases. What holds
  between the worlds before and after each of these holds between those before and after
  each operation.
Trusted boundary: none
Main exports: Action.Obeys, Action.Law, Action.Law.access, Service.perform_obeys
-/
import CacheDirectory.Proofs.Operations
import CacheDirectory.Service.Basic

namespace CacheDirectory

open Wire

namespace Action

variable {σ α β : Type}

/-- The relation holds between the worlds before and after the operation. -/
def Obeys (action : Action σ α) (law : World σ → World σ → Prop) : Prop :=
  ∀ world, law world (action.perform world).2

/-- A relation that the single steps of operations obey. Nothing is asked of the nodes
that are granted or give up something, nor of what is looked up. -/
structure Law [Backing σ] (law : World σ → World σ → Prop) : Prop where
  refl (world : World σ) : law world world
  trans {first second third : World σ} : law first second → law second third → law first third
  object (oid : ObjectId) : (lookup (Backing.object oid)).Obeys law
  nextObject (after : ObjectId) : (lookup (Backing.nextObject after)).Obeys law
  binding (name : String) : (lookup (Backing.binding name)).Obeys law
  nextBinding (after : Option String) : (lookup (Backing.nextBinding after)).Obeys law
  granted (world : World σ) (node : NodeId) (key : Key) (mode : Mode) :
    law world { world with directory := (world.directory.grant node key mode).2 }
  forgone (world : World σ) (key : Key) :
    law world { world with directory := world.directory.forgo key }
  released (world : World σ) (node : NodeId) (key : Key) :
    law world { world with directory := (world.directory.release node key).2 }

namespace Law

variable [Backing σ] {law : World σ → World σ → Prop} (holds : Law law)

include holds

theorem bind {action : Action σ α} {next : α → Action σ β} (first : action.Obeys law)
    (continues : ∀ result, (next result).Obeys law) : (action >>= next).Obeys law := by
  intro world
  have before := first world
  rw [perform_bind]
  rcases ran : action.perform world with ⟨outcome, later⟩
  rw [ran] at before
  cases outcome with
  | ok result => exact holds.trans before (continues result later)
  | error cause => exact before

theorem tryCatch {action : Action σ α} {handler : DirectoryError → Action σ α}
    (first : action.Obeys law) (handles : ∀ cause, (handler cause).Obeys law) :
    (tryCatch action handler).Obeys law := by
  intro world
  have before := first world
  rw [perform_tryCatch]
  rcases ran : action.perform world with ⟨outcome, later⟩
  rw [ran] at before
  cases outcome with
  | ok result => exact before
  | error cause => exact holds.trans before (handles cause later)

theorem pure (result : α) : (Pure.pure result : Action σ α).Obeys law := holds.refl

theorem throw (cause : DirectoryError) : (MonadExcept.throw cause : Action σ α).Obeys law :=
  holds.refl

theorem requireLive (node : NodeId) : (Action.requireLive node : Action σ Unit).Obeys law := by
  intro world
  rw [perform_requireLive]
  exact holds.refl world

theorem requireArgument (acceptable : Bool) (cause : ArgumentError) :
    (Action.requireArgument acceptable cause : Action σ Unit).Obeys law := by
  intro world
  rw [perform_requireArgument]
  exact holds.refl world

theorem grant (node : NodeId) (key : Key) (mode : Mode) :
    (Action.grant node key mode : Action σ Conflicts).Obeys law := by
  intro world
  rw [perform_grant]
  split
  case isTrue => exact holds.granted world node key mode
  case isFalse => exact holds.forgone world key

/-- An upgrade is a grant. -/
theorem upgrade (node : NodeId) (key : Key) :
    (Action.upgrade node key : Action σ Conflicts).Obeys law := by
  intro world
  rw [perform_upgrade]
  split
  case isTrue => exact holds.refl world
  case isFalse =>
    cases upgraded : world.directory.upgrade node key with
    | none => exact holds.refl world
    | some outcome =>
        have granted := holds.granted world node key .write
        rw [(Directory.upgrade_eq_some upgraded).2] at granted
        exact granted

theorem release (node : NodeId) (key : Key) : (Action.release node key : Action σ Bool).Obeys law :=
  fun world => holds.released world node key

theorem takeObject (node : NodeId) (oid : ObjectId) (mode : Mode) :
    (Action.takeObject node oid mode : Action σ _).Obeys law := by
  apply holds.bind (holds.requireArgument _ _)
  intro _
  apply holds.bind (holds.requireLive node)
  intro _
  apply holds.bind (holds.object oid)
  rintro (_ | contents)
  · exact holds.pure none
  · exact holds.bind (holds.grant _ _ _) fun _ => holds.pure _

theorem upgradeObject (node : NodeId) (oid : ObjectId) :
    (Action.upgradeObject node oid : Action σ _).Obeys law := by
  apply holds.bind (holds.requireArgument _ _)
  intro _
  apply holds.bind (holds.requireLive node)
  intro _
  exact holds.bind (holds.upgrade node _) fun _ => holds.pure _

theorem resolve (name : String) : (Action.resolve name : Action σ _).Obeys law := by
  apply holds.bind (holds.binding name)
  rintro (_ | oid)
  · exact holds.bind (holds.nextBinding _) fun _ => holds.pure _
  · exact holds.pure _

theorem takeNext (node : NodeId) (name : String) :
    (Action.takeNext node name : Action σ _).Obeys law :=
  holds.bind (holds.nextBinding _) fun _ => holds.bind (holds.grant _ _ _) fun _ => holds.pure _

theorem getBindingForRemove (node : NodeId) (name : String) :
    (Action.getBindingForRemove node name : Action σ _).Obeys law := by
  apply holds.bind (holds.requireLive node)
  intro _
  apply holds.bind (holds.binding name)
  rintro (_ | oid)
  · exact holds.bind (holds.takeNext node name) fun _ => holds.pure _
  · apply holds.bind (holds.grant _ _ _)
    intro _
    refine holds.bind (holds.tryCatch (holds.takeNext node name) fun cause => ?_)
      fun _ => holds.pure _
    exact holds.bind (holds.release _ _) fun _ => holds.throw cause

/-- Every request for access obeys what its single steps obey. -/
theorem access (node : NodeId) (what : Access) :
    (what.action node : Action σ what.Result).Obeys law := by
  cases what with
  | getObject oid => exact holds.bind (holds.takeObject node oid .read) fun _ => holds.pure _
  | getObjectForUpdate oid =>
      exact holds.bind (holds.takeObject node oid .write) fun _ => holds.pure _
  | upgradeObject oid => exact holds.upgradeObject node oid
  | nextObjectId after =>
      apply holds.bind (holds.requireArgument _ _)
      intro _
      apply holds.bind (holds.requireLive node)
      intro _
      apply holds.bind (holds.nextObject after)
      rintro (_ | ⟨next, contents⟩)
      · exact holds.pure none
      · exact holds.bind (holds.grant _ _ _) fun _ => holds.pure _
  | getBinding name | getBindingForUpdate name =>
      apply holds.bind (holds.requireLive node)
      intro _
      exact holds.bind (holds.resolve name) fun _ =>
        holds.bind (holds.grant _ _ _) fun _ => holds.pure _
  | getBindingForRemove name => exact holds.getBindingForRemove node name
  | nextBoundName after =>
      apply holds.bind (holds.requireLive node)
      intro _
      exact holds.bind (holds.nextBinding _) fun _ =>
        holds.bind (holds.grant _ _ _) fun _ => holds.pure _

theorem giveUp (node : NodeId) (key : Key) : (Service.giveUp node key : Action σ Bool).Obeys law :=
  holds.bind (holds.requireLive node) fun _ => holds.release node key

end Law

end Action

/-- Of all requests only a registration does more to the world than its operation's
lookups, grants and releases. -/
theorem Service.perform_obeys {σ : Type} [Backing σ] {law : World σ → World σ → Prop}
    (holds : Action.Law law) (service : Service σ) {request : Request}
    (unregistered : ∀ address, request ≠ .registerNode address) :
    law service.world (service.perform request).2.world := by
  cases request with
  | registerNode address => exact absurd rfl (unregistered address)
  | newObjectIds | getClassId | getClassInfo => exact holds.refl service.world
  | access node what => exact holds.access node what service.world
  | releaseObject node oid =>
      have obeys : (do
          Action.requireArgument (0 ≤ oid) (.releaseOfNegativeObject oid)
          giveUp node (.object oid) : Action σ Bool).Obeys law :=
        holds.bind (holds.requireArgument _ _) fun _ => holds.giveUp node _
      exact obeys service.world
  | releaseBinding node place => exact holds.giveUp node (.binding place) service.world

end CacheDirectory
