/-
Module: CacheDirectory.Proofs.Parallels
Purpose: The same operation in two worlds that differ only in who is still to give
  something up. It does the same in both, submits the same requests and is answered alike,
  but for the flags that tell of conflicts.
Trusted boundary: none
Main exports: Directory.Agrees, Alike, Action.Parallel, Access.withoutFlags,
  Action.parallel_access
-/
import CacheDirectory.Proofs.Operations
import CacheDirectory.Service.Basic

namespace CacheDirectory

open Wire

/-! ### Who holds a key decides what becomes of it -/

namespace Entry

variable {first second : Entry} (same : first.holders = second.holders)

include same

/-- Whom a grant displaces does not depend on who is still to give the key up. -/
theorem releases_grant_congr (node : NodeId) (mode : Mode) :
    (first.grant node mode).1.releases = (second.grant node mode).1.releases := by
  simp only [grant, displaced, same]

theorem holders_grant_congr (node : NodeId) (mode : Mode) :
    (first.grant node mode).2.holders = (second.grant node mode).2.holders := by
  simp only [grant, same]

theorem holders_release_congr (node : NodeId) :
    (first.release node).2.holders = (second.release node).2.holders := by
  simp only [release, same]

theorem holders_strip_congr (node : NodeId) :
    (first.strip node).holders = (second.strip node).holders := by
  simp only [strip, same]

end Entry

namespace Directory

/-- The same nodes live, and hold the same keys in the same modes. Who is still to give
something up may differ, and so may the requests that wait. -/
structure Agrees (first second : Directory) : Prop where
  registry : first.registry = second.registry
  sink : first.sink = second.sink
  holders : ∀ key, (first.table.entry key).holders = (second.table.entry key).holders

variable {first second third : Directory}

theorem Agrees.refl (directory : Directory) : directory.Agrees directory :=
  ⟨rfl, rfl, fun _ => rfl⟩

theorem Agrees.symm (agrees : first.Agrees second) : second.Agrees first :=
  ⟨agrees.registry.symm, agrees.sink.symm, fun key => (agrees.holders key).symm⟩

theorem Agrees.trans (one : first.Agrees second) (other : second.Agrees third) :
    first.Agrees third :=
  ⟨one.registry.trans other.registry, one.sink.trans other.sink,
    fun key => (one.holders key).trans (other.holders key)⟩

/-- What a record of a release says does not matter to who holds what. -/
theorem agrees_completeRelease (directory : Directory) (node : NodeId) (key : Key) :
    (directory.completeRelease node key).2.Agrees directory := by
  refine ⟨rfl, rfl, fun other => ?_⟩
  rw [entry_completeRelease]
  split
  case isTrue same => rw [same]; rfl
  case isFalse => rfl

variable (agrees : first.Agrees second)

include agrees

theorem Agrees.bury (died : List NodeId) : (first.bury died).Agrees (second.bury died) := by
  refine ⟨?_, agrees.sink, agrees.holders⟩
  simp only [Directory.bury, agrees.registry]

theorem Agrees.grant (node : NodeId) (key : Key) (mode : Mode) :
    (first.grant node key mode).2.Agrees (second.grant node key mode).2 := by
  refine ⟨?_, ?_, fun other => ?_⟩
  · rw [registry_grant, registry_grant, agrees.registry]
  · rw [sink_grant, sink_grant, agrees.sink]
  · rw [entry_grant, entry_grant]
    split
    case isTrue => exact Entry.holders_grant_congr (agrees.holders key) node mode
    case isFalse => exact agrees.holders other

/-- A grant asks the same nodes for the same, in the same order. -/
theorem Agrees.asked (node : NodeId) (key : Key) (mode : Mode) :
    first.asked node key mode = second.asked node key mode := by
  have releases := Entry.releases_grant_congr (agrees.holders key) node mode
  simp only [Directory.asked, Directory.grant, submit, Table.grant, agrees.sink, releases]
  cases second.sink with
  | closed => simp only [List.drop_length]
  | collecting => simp only [List.drop_left]

/-- That a key was tracked for a moment does not matter to who holds what. -/
theorem Agrees.forgo (key : Key) : (first.forgo key).Agrees (second.forgo key) :=
  ⟨agrees.registry, agrees.sink, fun other => by
    rw [entry_forgo, entry_forgo, agrees.holders]⟩

theorem Agrees.release (node : NodeId) (key : Key) :
    (first.release node key).2.Agrees (second.release node key).2 := by
  refine ⟨agrees.registry, agrees.sink, fun other => ?_⟩
  rw [entry_release, entry_release]
  split
  case isTrue => exact Entry.holders_release_congr (agrees.holders key) node
  case isFalse => exact agrees.holders other

theorem Agrees.holder (key : Key) (node : NodeId) :
    first.table.holder key node = second.table.holder key node := by
  simp only [Table.holder_eq, Entry.holder, agrees.holders]

/-- The same node may upgrade the same key. -/
theorem Agrees.upgrade (node : NodeId) (key : Key) :
    (first.upgrade node key).isSome = (second.upgrade node key).isSome := by
  have same := agrees.holders key
  simp only [Directory.upgrade, Table.upgrade_eq, Entry.upgrade, Option.isSome_map, same]
  split <;> rfl

theorem Agrees.register (identity : String) :
    (first.register identity).1 = (second.register identity).1 ∧
      (first.register identity).2.Agrees (second.register identity).2 := by
  have same := agrees.registry
  refine ⟨by simp only [Directory.register, same], ⟨?_, agrees.sink, agrees.holders⟩⟩
  simp only [Directory.register, same]

theorem Agrees.nodeFailed (node : NodeId) :
    (first.nodeFailed node).1 = (second.nodeFailed node).1 ∧
      (first.nodeFailed node).2.Agrees (second.nodeFailed node).2 := by
  have same := agrees.registry
  refine ⟨by simp only [Directory.nodeFailed, markDead, same], ⟨?_, agrees.sink, fun key => ?_⟩⟩
  · simp only [Directory.nodeFailed, forceRelease, markDead, same]
  · rw [entry_nodeFailed, entry_nodeFailed]
    exact Entry.holders_strip_congr (agrees.holders key) node

end Directory

/-! ### Operations in two worlds -/

/-- Worlds with the same store whose directories agree. Where requests waited `earlier`,
the same requests have been submitted since. -/
structure Alike {σ : Type} (earlier : List ReleaseRequest × List ReleaseRequest)
    (one other : World σ) : Prop where
  directory : one.directory.Agrees other.directory
  store : one.store = other.store
  submitted : ∃ requests, one.directory.pending = earlier.1 ++ requests ∧
    other.directory.pending = earlier.2 ++ requests

theorem Alike.start {σ : Type} {one other : World σ}
    (directory : one.directory.Agrees other.directory) (store : one.store = other.store) :
    Alike (one.directory.pending, other.directory.pending) one other :=
  ⟨directory, store, [], (List.append_nil _).symm, (List.append_nil _).symm⟩

theorem Alike.granted {σ : Type} {earlier : List ReleaseRequest × List ReleaseRequest}
    {one other : World σ} (alike : Alike earlier one other) (node : NodeId) (key : Key)
    (mode : Mode) :
    Alike earlier { one with directory := (one.directory.grant node key mode).2 }
      { other with directory := (other.directory.grant node key mode).2 } := by
  refine ⟨alike.directory.grant node key mode, alike.store, ?_⟩
  obtain ⟨requests, before, before'⟩ := alike.submitted
  refine ⟨requests ++ other.directory.asked node key mode, ?_, ?_⟩
  · rw [Directory.pending_grant, before, alike.directory.asked, List.append_assoc]
  · rw [Directory.pending_grant, before', List.append_assoc]

/-- Both succeed, and their results correspond, or both are refused for the same cause. -/
inductive Corresponds {ε α : Type} (same : α → α → Prop) : Except ε α → Except ε α → Prop
  | ok {one other : α} (results : same one other) : Corresponds same (.ok one) (.ok other)
  | error (cause : ε) : Corresponds same (.error cause) (.error cause)

namespace Corresponds

variable {ε α β : Type} {one other : Except ε α}

theorem eq (corresponds : Corresponds Eq one other) : one = other := by
  cases corresponds with
  | ok results => rw [results]
  | error cause => rfl

theorem map_eq {view : α → β}
    (corresponds : Corresponds (fun result result' => view result = view result') one other) :
    one.map view = other.map view := by
  cases corresponds with
  | ok results => exact congrArg Except.ok results
  | error cause => rfl

end Corresponds

namespace Action

variable {σ α β : Type}

/-- In worlds that are alike the two operations come to results that correspond, and the
worlds stay alike. -/
def Parallel (first second : Action σ α) (same : α → α → Prop) : Prop :=
  ∀ earlier one other, Alike earlier one other →
    Corresponds same (first.perform one).1 (second.perform other).1 ∧
      Alike earlier (first.perform one).2 (second.perform other).2

theorem parallel_pure {first second : α} {same : α → α → Prop} (corresponds : same first second) :
    Parallel (pure first : Action σ α) (pure second) same :=
  fun _ _ _ alike => ⟨.ok corresponds, alike⟩

theorem parallel_throw (cause : DirectoryError) {same : α → α → Prop} :
    Parallel (throw cause : Action σ α) (throw cause) same :=
  fun _ _ _ alike => ⟨.error cause, alike⟩

theorem Parallel.bind {first second : Action σ α} {next further : α → Action σ β}
    {same : α → α → Prop} {final : β → β → Prop} (parallel : Parallel first second same)
    (continues : ∀ one other, same one other → Parallel (next one) (further other) final) :
    Parallel (first >>= next) (second >>= further) final := by
  intro earlier one other alike
  have before := parallel earlier one other alike
  rw [perform_bind, perform_bind]
  rcases ran : first.perform one with ⟨outcome, one⟩
  rcases ran' : second.perform other with ⟨outcome', other⟩
  rw [ran, ran'] at before
  obtain ⟨corresponds, later⟩ := before
  cases corresponds with
  | ok results => exact continues _ _ results earlier one other later
  | error cause => exact ⟨.error cause, later⟩

theorem Parallel.tryCatch {first second : Action σ α} {handler : DirectoryError → Action σ α}
    {same : α → α → Prop} (parallel : Parallel first second same)
    (handles : ∀ cause, Parallel (handler cause) (handler cause) same) :
    Parallel (tryCatch first handler) (tryCatch second handler) same := by
  intro earlier one other alike
  have before := parallel earlier one other alike
  rw [perform_tryCatch, perform_tryCatch]
  rcases ran : first.perform one with ⟨outcome, one⟩
  rcases ran' : second.perform other with ⟨outcome', other⟩
  rw [ran, ran'] at before
  obtain ⟨corresponds, later⟩ := before
  cases corresponds with
  | ok results => exact ⟨.ok results, later⟩
  | error cause => exact handles cause earlier one other later

theorem parallel_requireLive (node : NodeId) :
    Parallel (requireLive node : Action σ Unit) (requireLive node) fun _ _ => True := by
  intro earlier one other alike
  rw [perform_requireLive, perform_requireLive, alike.directory.registry]
  cases other.directory.registry.check node with
  | ok => exact ⟨.ok trivial, alike⟩
  | error cause => exact ⟨.error cause, alike⟩

theorem parallel_requireArgument (acceptable : Bool) (cause : ArgumentError) :
    Parallel (requireArgument acceptable cause : Action σ Unit) (requireArgument acceptable cause)
      fun _ _ => True := by
  intro earlier one other alike
  rw [perform_requireArgument, perform_requireArgument]
  cases acceptable with
  | true => exact ⟨.ok trivial, alike⟩
  | false => exact ⟨.error _, alike⟩

/-- What is looked up is the store's affair, and so is who dies meanwhile. -/
theorem parallel_lookup (read : σ → Reading α × σ) :
    Parallel (lookup read : Action σ α) (lookup read) Eq := by
  intro earlier one other alike
  rw [perform_lookup, perform_lookup, alike.store]
  refine ⟨?_, alike.directory.bury _, rfl, alike.submitted⟩
  cases (read other.store).1.outcome with
  | ok answer => exact .ok rfl
  | error cause => exact .error _

/-- A grant finds the same conflicts with holders, if not with those that are still to
give the key up. -/
theorem parallel_grant (node : NodeId) (key : Key) (mode : Mode) :
    Parallel (grant node key mode : Action σ Conflicts) (grant node key mode)
      fun _ _ => True := by
  intro earlier one other alike
  rw [perform_grant, perform_grant, alike.directory.registry]
  cases other.directory.registry.isLive node with
  | false => exact ⟨.error _, alike.directory.forgo key, alike.store, alike.submitted⟩
  | true =>
      exact ⟨.ok trivial, alike.granted node key mode⟩

theorem parallel_release (node : NodeId) (key : Key) :
    Parallel (release node key : Action σ Bool) (release node key) Eq := by
  intro earlier one other alike
  refine ⟨.ok ?_, alike.directory.release node key, alike.store, alike.submitted⟩
  change (one.directory.release node key).1 = (other.directory.release node key).1
  rw [Directory.release_fst, Directory.release_fst, alike.directory.holder]

theorem parallel_giveUp (node : NodeId) (key : Key) :
    Parallel (Service.giveUp node key : Action σ Bool) (Service.giveUp node key) Eq :=
  (parallel_requireLive node).bind fun _ _ _ => parallel_release node key

end Action

/-! ### What does not depend on outstanding releases -/

/-- An answer without what it tells of conflicts. The answer to an upgrade tells nothing
else. -/
def Wire.Access.withoutFlags : (what : Access) → what.Result → what.Result
  | .getObject _, result => result.map fun read => { read with evict := false }
  | .getObjectForUpdate _, result => result.map fun update => { update with conflicts := {} }
  | .upgradeObject _, _ => false
  | .nextObjectId _, result => result.map fun next => { next with evict := false }
  | .getBinding _, result => { result with evict := false }
  | .getBindingForUpdate _, result => { result with conflicts := {} }
  | .getBindingForRemove _, result => { result with conflicts := {}, nextConflicts := {} }
  | .nextBoundName _, result => { result with evict := false }

/-- The results are the same but for what they tell of conflicts. -/
def Wire.Access.SameButFlags (what : Access) (one other : what.Result) : Prop :=
  what.withoutFlags one = what.withoutFlags other

namespace Action

variable {σ : Type} [Backing σ]

/-- The same contents are found, whatever conflicts are. -/
theorem parallel_takeObject (node : NodeId) (oid : ObjectId) (mode : Mode) :
    Parallel (takeObject node oid mode : Action σ _) (takeObject node oid mode)
      fun one other => one.map (·.1) = other.map (·.1) := by
  apply (parallel_requireArgument _ _).bind
  intro _ _ _
  apply (parallel_requireLive node).bind
  intro _ _ _
  apply (parallel_lookup _).bind
  rintro found _ rfl
  cases found with
  | none => exact parallel_pure rfl
  | some contents => exact (parallel_grant _ _ _).bind fun _ _ _ => parallel_pure rfl

theorem parallel_getObject (node : NodeId) (oid : ObjectId) :
    Parallel (getObject node oid : Action σ _) (getObject node oid)
      (Access.SameButFlags (.getObject oid)) := by
  apply (parallel_takeObject node oid .read).bind
  intro one other same
  have plain : ∀ taken : Option (Bytes × Conflicts),
      Access.withoutFlags (.getObject oid)
        (taken.map fun found => ⟨found.1, found.2.evict⟩) =
      (taken.map (·.1)).map fun contents => ⟨contents, false⟩ := by
    intro taken
    cases taken <;> rfl
  exact parallel_pure ((plain one).trans ((congrArg _ same).trans (plain other).symm))

theorem parallel_getObjectForUpdate (node : NodeId) (oid : ObjectId) :
    Parallel (getObjectForUpdate node oid : Action σ _) (getObjectForUpdate node oid)
      (Access.SameButFlags (.getObjectForUpdate oid)) := by
  apply (parallel_takeObject node oid .write).bind
  intro one other same
  have plain : ∀ taken : Option (Bytes × Conflicts),
      Access.withoutFlags (.getObjectForUpdate oid)
        (taken.map fun found => ⟨found.1, found.2⟩) =
      (taken.map (·.1)).map fun contents => ⟨contents, {}⟩ := by
    intro taken
    cases taken <;> rfl
  exact parallel_pure ((plain one).trans ((congrArg _ same).trans (plain other).symm))

omit [Backing σ] in
/-- An upgrade is a grant, to whoever has read access in both worlds. The key may be tracked
in one of them only, which a node that lives is not told. -/
theorem parallel_upgradeObject (node : NodeId) (oid : ObjectId) :
    Parallel (upgradeObject node oid : Action σ _) (upgradeObject node oid)
      (Access.SameButFlags (.upgradeObject oid)) := by
  apply (parallel_requireArgument _ _).bind
  intro _ _ _ earlier one other alike
  rw [perform_bind, perform_bind, perform_requireLive, perform_requireLive, Registry.check,
    Registry.check, alike.directory.registry]
  cases live : other.directory.registry.isLive node with
  | false => exact ⟨.error _, alike⟩
  | true =>
      have live' := live
      rw [← alike.directory.registry] at live'
      simp only [if_true, perform_bind, perform_upgrade_of_live live,
        perform_upgrade_of_live live']
      have upgrades := alike.directory.upgrade node (.object oid)
      cases upgraded : one.directory.upgrade node (.object oid) with
      | none =>
          rw [upgraded, Option.isSome_none, eq_comm, Option.isSome_eq_false_iff,
            Option.isNone_iff_eq_none] at upgrades
          rw [upgrades]
          exact ⟨.error _, alike⟩
      | some outcome =>
          rw [upgraded, Option.isSome_some] at upgrades
          obtain ⟨outcome', upgraded'⟩ := Option.isSome_iff_exists.mp upgrades.symm
          rw [upgraded']
          have granted := alike.granted node (.object oid) .write
          rw [(Directory.upgrade_eq_some upgraded).2,
            (Directory.upgrade_eq_some upgraded').2] at granted
          exact ⟨.ok rfl, granted⟩

theorem parallel_nextObject (node : NodeId) (after : ObjectId) :
    Parallel (nextObject node after : Action σ _) (nextObject node after)
      (Access.SameButFlags (.nextObjectId after)) := by
  apply (parallel_requireArgument _ _).bind
  intro _ _ _
  apply (parallel_requireLive node).bind
  intro _ _ _
  apply (parallel_lookup _).bind
  rintro found _ rfl
  cases found with
  | none => exact parallel_pure rfl
  | some next => exact (parallel_grant _ _ _).bind fun _ _ _ => parallel_pure rfl

theorem parallel_resolve (name : String) :
    Parallel (resolve name : Action σ _) (resolve name) Eq := by
  apply (parallel_lookup _).bind
  rintro bound _ rfl
  cases bound with
  | none =>
      apply (parallel_lookup _).bind
      rintro next _ rfl
      exact parallel_pure rfl
  | some oid => exact parallel_pure rfl

theorem parallel_getBinding (node : NodeId) (name : String) :
    Parallel (getBinding node name : Action σ _) (getBinding node name)
      (Access.SameButFlags (.getBinding name)) := by
  apply (parallel_requireLive node).bind
  intro _ _ _
  apply (parallel_resolve name).bind
  rintro landing _ rfl
  exact (parallel_grant _ _ _).bind fun _ _ _ => parallel_pure rfl

theorem parallel_getBindingForUpdate (node : NodeId) (name : String) :
    Parallel (getBindingForUpdate node name : Action σ _) (getBindingForUpdate node name)
      (Access.SameButFlags (.getBindingForUpdate name)) := by
  apply (parallel_requireLive node).bind
  intro _ _ _
  apply (parallel_resolve name).bind
  rintro landing _ rfl
  exact (parallel_grant _ _ _).bind fun _ _ _ => parallel_pure rfl

theorem parallel_nextBoundName (node : NodeId) (after : Option String) :
    Parallel (nextBoundName node after : Action σ _) (nextBoundName node after)
      (Access.SameButFlags (.nextBoundName after)) := by
  apply (parallel_requireLive node).bind
  intro _ _ _
  apply (parallel_lookup _).bind
  rintro next _ rfl
  exact (parallel_grant _ _ _).bind fun _ _ _ => parallel_pure rfl

theorem parallel_takeNext (node : NodeId) (name : String) :
    Parallel (takeNext node name : Action σ _) (takeNext node name)
      fun one other => one.1 = other.1 := by
  apply (parallel_lookup _).bind
  rintro next _ rfl
  exact (parallel_grant _ _ _).bind fun _ _ _ => parallel_pure rfl

/-- A removal that fails half-way gives its name back in both worlds. -/
theorem parallel_getBindingForRemove (node : NodeId) (name : String) :
    Parallel (getBindingForRemove node name : Action σ _) (getBindingForRemove node name)
      (Access.SameButFlags (.getBindingForRemove name)) := by
  apply (parallel_requireLive node).bind
  intro _ _ _
  apply (parallel_lookup _).bind
  rintro bound _ rfl
  cases bound with
  | none =>
      apply (parallel_takeNext node name).bind
      rintro ⟨next, conflicts⟩ ⟨_, conflicts'⟩ rfl
      exact parallel_pure rfl
  | some oid =>
      apply (parallel_grant _ _ _).bind
      intro _ _ _
      have gives : ∀ cause, Parallel (do
          let _ ← release node (.binding (.name name))
          throw cause : Action σ (Landing × Conflicts)) (do
          let _ ← release node (.binding (.name name))
          throw cause) fun one other => one.1 = other.1 :=
        fun cause => (parallel_release _ _).bind fun _ _ _ => parallel_throw cause
      apply ((parallel_takeNext node name).tryCatch gives).bind
      rintro ⟨next, conflicts⟩ ⟨_, conflicts'⟩ rfl
      exact parallel_pure rfl

/-- A request for access comes to the same in worlds that are alike, but for what it is
told of conflicts. -/
theorem parallel_access (node : NodeId) (what : Access) :
    Parallel (what.action node : Action σ what.Result) (what.action node) what.SameButFlags := by
  cases what with
  | getObject oid => exact parallel_getObject node oid
  | getObjectForUpdate oid => exact parallel_getObjectForUpdate node oid
  | upgradeObject oid => exact parallel_upgradeObject node oid
  | nextObjectId after => exact parallel_nextObject node after
  | getBinding name => exact parallel_getBinding node name
  | getBindingForUpdate name => exact parallel_getBindingForUpdate node name
  | getBindingForRemove name => exact parallel_getBindingForRemove node name
  | nextBoundName after => exact parallel_nextBoundName node after

end Action

end CacheDirectory
