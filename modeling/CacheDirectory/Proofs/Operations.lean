/-
Module: CacheDirectory.Proofs.Operations
Purpose: What each operation on a directory does to who lives, who holds what and
  what is pending, and how the steps of an access operation run one after the other.
Trusted boundary: none
Main exports: Directory.bury, Directory.asked, Directory.mem_asked,
  Action.perform_bind, Action.perform_lookup, Action.perform_grant,
  Action.perform_upgrade
-/
import CacheDirectory.Proofs.Holdings
import CacheDirectory.Directory.Action

namespace CacheDirectory

open Std

/-! ### Who lives -/

namespace Registry

/-- A death changes the liveness of one node only. -/
theorem isLive_markDead (registry : Registry) (victim node : NodeId) :
    (registry.markDead victim).2.isLive node = (registry.isLive node && node != victim) := by
  by_cases same : node = victim
  · subst same
    rw [bne_self_eq_false, Bool.and_false, markDead]
    split
    case h_1 unknown => simp [isLive, unknown]
    case h_2 info known =>
      split
      case isTrue => simp [isLive]
      case isFalse dead => simp [isLive, known, dead]
  · have other : ¬ victim = node := fun equal => same equal.symm
    rw [bne_iff_ne.mpr same, Bool.and_true, markDead]
    split
    case h_1 => rfl
    case h_2 info known =>
      split
      case isTrue => simp [isLive, ExtTreeMap.getElem?_insert, other]
      case isFalse => rfl

/-- Nobody comes back to life through deaths. -/
theorem isLive_of_isLive_markAllDead {registry : Registry} {died : List NodeId} {node : NodeId}
    (live : (registry.markAllDead died).isLive node = true) : registry.isLive node = true := by
  induction died generalizing registry with
  | nil => exact live
  | cons victim rest ih =>
      have before : (registry.markDead victim).2.isLive node = true := ih live
      rw [isLive_markDead, Bool.and_eq_true] at before
      exact before.1

theorem markAllDead_append (registry : Registry) (first second : List NodeId) :
    registry.markAllDead (first ++ second) =
      (registry.markAllDead first).markAllDead second :=
  List.foldl_append

theorem register_of_error {registry : Registry} {identity : String}
    {cause : RegistryError} (refused : (registry.register identity).1 = .error cause) :
    (registry.register identity).2 = registry := by
  revert refused
  rw [register]
  split
  case h_1 => exact fun _ => rfl
  case h_2 =>
    split
    case h_1 => exact fun _ => rfl
    case h_2 => exact nofun

/-- What a successful registration does: the next number and a free port are taken. -/
theorem register_eq {registry : Registry} {identity : String} {registration : Registration}
    (accepted : (registry.register identity).1 = .ok registration) :
    registration.node = ⟨registry.nextRaw⟩ ∧ registration.port ∈ registry.freePorts ∧
      (registry.register identity).2 =
        { registry with
          nextRaw := registry.nextRaw + 1
          nodes := registry.nodes.insert registration.node ⟨identity, registration.port, true⟩
          live := registry.live.insert identity registration.node
          freePorts := registry.freePorts.erase registration.port } := by
  revert accepted
  rw [register]
  split
  case h_1 => exact nofun
  case h_2 =>
    split
    case h_1 => exact nofun
    case h_2 port first =>
      intro accepted
      cases accepted
      exact ⟨rfl, ExtTreeSet.mem_toList.mp (List.mem_of_head? first), rfl⟩

theorem isLive_register {registry : Registry} {identity : String}
    {registration : Registration}
    (accepted : (registry.register identity).1 = .ok registration) {node : NodeId}
    (distinct : registration.node ≠ node) :
    (registry.register identity).2.isLive node = registry.isLive node := by
  obtain ⟨-, -, later⟩ := register_eq accepted
  simp [later, isLive, ExtTreeMap.getElem?_insert, distinct]

end Registry

/-! ### Operations on the directory -/

namespace Directory

/-- A refused registration changes nothing. -/
theorem register_of_error {directory : Directory} {identity : String}
    {cause : DirectoryError} (refused : (directory.register identity).1 = .error cause) :
    (directory.register identity).2 = directory := by
  change (directory.registry.register identity).1.mapError DirectoryError.registration = _
    at refused
  cases answer : (directory.registry.register identity).1 with
  | ok registration =>
      rw [answer] at refused
      cases refused
  | error cause =>
      change { directory with registry := (directory.registry.register identity).2 } = directory
      rw [Registry.register_of_error answer]

/-- A registration concerns the new node only. -/
theorem isLive_register {directory : Directory} {identity : String}
    {registration : Registration}
    (accepted : (directory.register identity).1 = .ok registration) {node : NodeId}
    (distinct : registration.node ≠ node) :
    (directory.register identity).2.registry.isLive node = directory.registry.isLive node := by
  change (directory.registry.register identity).1.mapError DirectoryError.registration = _
    at accepted
  cases answer : (directory.registry.register identity).1 with
  | error cause =>
      rw [answer] at accepted
      cases accepted
  | ok fresh =>
      rw [answer] at accepted
      cases accepted
      exact Registry.isLive_register answer distinct

/-- A node that has failed is dead, and no other node is dead for it. -/
theorem isLive_nodeFailed (directory : Directory) (victim node : NodeId) :
    (directory.nodeFailed victim).2.registry.isLive node =
      (directory.registry.isLive node && node != victim) :=
  directory.registry.isLive_markDead victim node

/-- The directory after some nodes died, one after the other. -/
def bury (directory : Directory) (died : List NodeId) : Directory :=
  { directory with registry := directory.registry.markAllDead died }

@[simp] theorem bury_nil (directory : Directory) : directory.bury [] = directory := rfl

theorem bury_bury (directory : Directory) (first second : List NodeId) :
    (directory.bury first).bury second = directory.bury (first ++ second) := by
  simp only [bury, Registry.markAllDead_append]

@[simp] theorem registry_submit (directory : Directory) (key : Key)
    (releases : List (NodeId × Release)) :
    (directory.submit key releases).registry = directory.registry := by
  rw [submit]
  split <;> rfl

@[simp] theorem table_submit (directory : Directory) (key : Key)
    (releases : List (NodeId × Release)) :
    (directory.submit key releases).table = directory.table := by
  rw [submit]
  split <;> rfl

@[simp] theorem sink_submit (directory : Directory) (key : Key)
    (releases : List (NodeId × Release)) :
    (directory.submit key releases).sink = directory.sink := by
  rw [submit]
  split <;> rfl

@[simp] theorem registry_grant (directory : Directory) (node : NodeId) (key : Key) (mode : Mode) :
    (directory.grant node key mode).2.registry = directory.registry := by
  simp [grant]

@[simp] theorem table_grant (directory : Directory) (node : NodeId) (key : Key) (mode : Mode) :
    (directory.grant node key mode).2.table = (directory.table.grant node key mode).2 := by
  simp [grant]

@[simp] theorem entry_grant (directory : Directory) (node : NodeId) (key other : Key)
    (mode : Mode) :
    (directory.grant node key mode).2.table.entry other =
      if other = key then ((directory.table.entry key).grant node mode).2
      else directory.table.entry other := by
  rw [table_grant, Table.entry_grant]

/-- The directory after a grant that was refused: the key was tracked for a moment. -/
def forgo (directory : Directory) (key : Key) : Directory :=
  (directory.track key).prune key

/-- That a key was tracked for a moment shows in no state. -/
@[simp] theorem entry_forgo (directory : Directory) (key other : Key) :
    (directory.forgo key).table.entry other = directory.table.entry other :=
  (Table.entry_prune (directory.table.track key) key other).trans
    (Table.entry_track directory.table key other)

theorem grant_track (directory : Directory) (node : NodeId) (key : Key) (mode : Mode) :
    (directory.track key).grant node key mode = directory.grant node key mode := by
  simp only [grant, track, Table.grant_track, submit]

@[simp] theorem entry_release (directory : Directory) (node : NodeId) (key other : Key) :
    (directory.release node key).2.table.entry other =
      if other = key then ((directory.table.entry key).release node).2
      else directory.table.entry other :=
  Table.entry_release directory.table node key other

@[simp] theorem entry_completeRelease (directory : Directory) (node : NodeId) (key other : Key) :
    (directory.completeRelease node key).2.table.entry other =
      if other = key then ((directory.table.entry key).completeRelease node).2
      else directory.table.entry other :=
  Table.entry_completeRelease directory.table node key other

@[simp] theorem entry_forceRelease (directory : Directory) (node : NodeId) (scope : Key → Bool)
    (key : Key) :
    (directory.forceRelease node scope).2.table.entry key =
      if scope key then (directory.table.entry key).strip node else directory.table.entry key :=
  Table.entry_forceRelease directory.table node scope key

/-- Every key is that of an object or of a binding, so a failed node is in none. -/
@[simp] theorem entry_nodeFailed (directory : Directory) (node : NodeId) (key : Key) :
    (directory.nodeFailed node).2.table.entry key = (directory.table.entry key).strip node := by
  change ((((directory.table).forceRelease node Key.isObject).2).forceRelease node
    Key.isBinding).2.entry key = _
  rw [Table.entry_forceRelease, Table.entry_forceRelease]
  cases key with
  | object oid => rfl
  | binding place => rfl

@[simp] theorem sink_grant (directory : Directory) (node : NodeId) (key : Key) (mode : Mode) :
    (directory.grant node key mode).2.sink = directory.sink := by
  simp [grant]

/-- The requests that a grant appends to the pending ones. -/
def asked (directory : Directory) (node : NodeId) (key : Key) (mode : Mode) :
    List ReleaseRequest :=
  (directory.grant node key mode).2.pending.drop directory.pending.length

/-- A grant appends to the pending requests and takes none away. -/
theorem pending_grant (directory : Directory) (node : NodeId) (key : Key) (mode : Mode) :
    (directory.grant node key mode).2.pending =
      directory.pending ++ directory.asked node key mode := by
  have appended : ∃ more, (directory.grant node key mode).2.pending =
      directory.pending ++ more := by
    simp only [grant, submit]
    split
    · exact ⟨[], (List.append_nil _).symm⟩
    · exact ⟨_, rfl⟩
  obtain ⟨more, same⟩ := appended
  rw [asked, same, List.drop_left]

/-- A grant asks exactly those that it displaces, as long as requests are
collected. -/
theorem mem_asked {directory : Directory} (collecting : directory.sink = .collecting)
    (node : NodeId) (key : Key) (mode : Mode) (request : ReleaseRequest) :
    request ∈ directory.asked node key mode ↔ request.key = key ∧
      (directory.table.entry key).demand node mode request.target = some request.release := by
  have appended : directory.asked node key mode =
      (directory.table.grant node key mode).1.releases.map
        fun release => ⟨release.1, key, release.2⟩ := by
    simp only [asked, grant, submit, collecting, List.drop_left]
  rw [appended, List.mem_map]
  constructor
  · rintro ⟨⟨target, release⟩, among, rfl⟩
    exact ⟨rfl, (Entry.mem_releases_grant _ node mode target release).mp among⟩
  · rintro ⟨rfl, demanded⟩
    exact ⟨(request.target, request.release),
      (Entry.mem_releases_grant _ node mode _ _).mpr demanded, rfl⟩

theorem pendingRelease_forgo (directory : Directory) (forgone key : Key) (node : NodeId) :
    (directory.forgo forgone).table.pendingRelease key node =
      directory.table.pendingRelease key node := by
  rw [Table.pendingRelease_eq, Table.pendingRelease_eq, entry_forgo]

theorem pendingRelease_release (directory : Directory) (holder : NodeId) (given key : Key)
    (node : NodeId) :
    (directory.release holder given).2.table.pendingRelease key node =
      directory.table.pendingRelease key node := by
  rw [Table.pendingRelease_eq, Table.pendingRelease_eq, entry_release]
  split
  case isTrue same => rw [same, Entry.pendingRelease_release]
  case isFalse => rfl

theorem release_fst (directory : Directory) (node : NodeId) (key : Key) :
    (directory.release node key).1 = (directory.table.holder key node).isSome := by
  change (directory.table.release node key).1 = _
  rw [Table.release_eq]
  exact ExtTreeMap.contains_eq_isSome_getElem?

/-- A key that a node holds is tracked. -/
theorem tracks_of_holder {directory : Directory} {key : Key} {node : NodeId} {mode : Mode}
    (holds : directory.table.holder key node = some mode) :
    directory.table.tracks key = true := by
  rw [Table.tracks, ExtTreeMap.contains_eq_isSome_getElem?]
  cases tracked : directory.table.entries[key]? with
  | some entry => rfl
  | none =>
      rw [Table.holder_eq, Table.entry_of_untracked tracked, Entry.holder_empty] at holds
      cases holds

/-- An upgrade is a grant of write access to a reader. -/
theorem upgrade_eq_some {directory later : Directory} {node : NodeId} {key : Key}
    {conflicts : Conflicts} (upgraded : directory.upgrade node key = some (conflicts, later)) :
    directory.table.holder key node = some .read ∧
      directory.grant node key .write = (conflicts, later) := by
  simp only [upgrade, Table.upgrade_eq, Entry.upgrade] at upgraded
  split at upgraded
  case h_1 held =>
    simp only [Option.map_some, Option.some.injEq] at upgraded
    exact ⟨held, upgraded⟩
  case h_2 => simp at upgraded

end Directory

/-! ### The steps of an operation -/

/-- Wording an error differently does not concern a result. -/
theorem mapError_ok {ε ε' α : Type} (reword : ε → ε') (result : α) :
    (Except.ok result : Except ε α).mapError reword = .ok result := rfl

namespace Action

variable {σ α β : Type}

theorem perform_pure (result : α) (world : World σ) :
    (pure result : Action σ α).perform world = (.ok result, world) := rfl

theorem perform_get (world : World σ) :
    (get : Action σ (World σ)).perform world = (.ok world, world) := rfl

theorem perform_set (later world : World σ) :
    (set later : Action σ PUnit).perform world = (.ok ⟨⟩, later) := rfl

theorem perform_bind (action : Action σ α) (next : α → Action σ β) (world : World σ) :
    (action >>= next).perform world =
      match action.perform world with
      | (.ok result, later) => (next result).perform later
      | (.error cause, later) => (.error cause, later) := by
  simp only [perform, ExceptT.run, StateT.run, bind, ExceptT.bind, ExceptT.mk, StateT.bind]
  cases action world with
  | mk result later => cases result <;> rfl

theorem perform_tryCatch (action : Action σ α) (handler : DirectoryError → Action σ α)
    (world : World σ) :
    (tryCatch action handler).perform world =
      match action.perform world with
      | (.ok result, later) => (.ok result, later)
      | (.error cause, later) => (handler cause).perform later := by
  simp only [perform, ExceptT.run, StateT.run, tryCatch, tryCatchThe, MonadExceptOf.tryCatch,
    ExceptT.tryCatch, ExceptT.mk, bind, StateT.bind]
  cases action world with
  | mk result later => cases result <;> rfl

theorem perform_requireLive (node : NodeId) (world : World σ) :
    (requireLive node : Action σ Unit).perform world =
      (world.directory.registry.check node, world) := by
  rw [requireLive, perform_bind, perform_get]
  dsimp only
  cases world.directory.registry.check node <;> rfl

theorem perform_requireArgument (acceptable : Bool) (cause : ArgumentError) (world : World σ) :
    (requireArgument acceptable cause : Action σ Unit).perform world =
      (if acceptable then .ok () else .error (.invalidArgument cause), world) := by
  cases acceptable <;> rfl

/-- A lookup is the store's affair: the directory sees its outcome and the deaths
during it. -/
theorem perform_lookup (read : σ → Reading α × σ) (world : World σ) :
    (lookup read : Action σ α).perform world =
      ((read world.store).1.outcome.mapError .store,
        { directory := world.directory.bury (read world.store).1.died
          store := (read world.store).2 }) := by
  cases answered : read world.store with
  | mk reading store =>
      cases outcome : reading.outcome <;>
        simp only [lookup, perform_bind, perform_get, perform_set, answered, outcome] <;> rfl

theorem perform_update (change : Directory → Directory) (world : World σ) :
    (update change : Action σ Unit).perform world =
      (.ok (), { world with directory := change world.directory }) := rfl

/-- A grant finds its node alive, or it is refused; then its key was tracked for a moment. -/
theorem perform_grant (node : NodeId) (key : Key) (mode : Mode) (world : World σ) :
    (grant node key mode : Action σ Conflicts).perform world =
      if world.directory.registry.isLive node then
        (.ok (world.directory.grant node key mode).1,
          { world with directory := (world.directory.grant node key mode).2 })
      else (.error (.unknownNode node), { world with directory := world.directory.forgo key }) := by
  simp only [grant, perform_bind, perform_update, perform_tryCatch, perform_requireLive,
    Registry.check]
  cases live : world.directory.registry.isLive node with
  | false =>
      simp only [Directory.track, live, Bool.false_eq_true, if_false]
      rfl
  | true =>
      simp only [Directory.track, live, if_true]
      rw [← Directory.grant_track]
      rfl

/-- An upgrade is refused to a dead node, or to one that does not read the key; which of
the two is said depends on whether the key is tracked. -/
theorem perform_upgrade (node : NodeId) (key : Key) (world : World σ) :
    (upgrade node key : Action σ Conflicts).perform world =
      if world.directory.table.tracks key && !world.directory.registry.isLive node then
        (.error (.unknownNode node), world)
      else
        match world.directory.upgrade node key with
        | none => (.error (.upgradeWithoutRead node key), world)
        | some (conflicts, directory) => (.ok conflicts, { world with directory }) := by
  simp only [upgrade, perform_bind, perform_get]
  cases world.directory.table.tracks key with
  | false =>
      rw [Bool.false_and, if_neg Bool.false_ne_true]
      cases world.directory.upgrade node key <;> rfl
  | true =>
      simp only [if_true, perform_bind, perform_requireLive, Registry.check, Bool.true_and]
      cases world.directory.registry.isLive node with
      | false => rfl
      | true => cases world.directory.upgrade node key <;> rfl

/-- To a node that lives the second look at the registry says nothing new. -/
theorem perform_upgrade_of_live {node : NodeId} {world : World σ}
    (live : world.directory.registry.isLive node = true) (key : Key) :
    (upgrade node key : Action σ Conflicts).perform world =
      match world.directory.upgrade node key with
      | none => (.error (.upgradeWithoutRead node key), world)
      | some (conflicts, directory) => (.ok conflicts, { world with directory }) := by
  rw [perform_upgrade, live, Bool.not_true, Bool.and_false, if_neg Bool.false_ne_true]

end Action

end CacheDirectory
