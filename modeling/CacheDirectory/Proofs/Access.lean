/-
Module: CacheDirectory.Proofs.Access
Purpose: What a request for access can do to a directory, whatever the store answers
  and whoever dies meanwhile: it makes the grants that its answer reports, or it is
  refused before it makes any, or a removal takes its one grant back.
Trusted boundary: none
Main exports: Report, Access.reports, Backing.Reliable, Grants, Directory.Lapses, Aborts,
  Action.access_concludes, Grants.holds, Service.perform_concludes
-/
import CacheDirectory.Proofs.Operations
import CacheDirectory.Service.Basic

namespace CacheDirectory

open Wire

/-! ### What an answer says about access -/

/-- What an answer tells its node about one key: that the node now has access,
in which mode, and which conflicts there are, as far as the answer has room for
them. -/
structure Report where
  key : Key
  mode : Mode
  evict : Option Bool := none
  downgrade : Option Bool := none
deriving DecidableEq, Repr, Inhabited

/-- The report on a grant that withholds no flag. -/
def Conflicts.report (conflicts : Conflicts) (key : Key) (mode : Mode) : Report :=
  { key, mode, evict := some conflicts.evict, downgrade := some conflicts.downgrade }

/-- Everything that an answer tells about access, in the order of the grants. -/
def Wire.Access.reports : (what : Access) → what.Result → List Report
  | .getObject oid, result =>
    (result.map fun read => { key := .object oid, mode := .read, evict := some read.evict }).toList
  | .getObjectForUpdate oid, result =>
    (result.map fun update => update.conflicts.report (.object oid) .write).toList
  | .upgradeObject oid, downgrade =>
    [{ key := .object oid, mode := .write, downgrade := some downgrade }]
  | .nextObjectId _, result =>
    (result.map fun next =>
      { key := .object next.oid, mode := .read, evict := some next.evict }).toList
  | .getBinding name, result =>
    let place := if result.found then .name name else .ofNext result.nextName
    [{ key := .binding place, mode := .read, evict := some result.evict }]
  | .getBindingForUpdate name, result =>
    let place := if result.found then .name name else .ofNext result.nextName
    [result.conflicts.report (.binding place) .write]
  | .getBindingForRemove name, result =>
    let next := result.nextConflicts.report (.binding (.ofNext result.nextName)) .write
    if result.found then [result.conflicts.report (.binding (.name name)) .write, next]
    else [next]
  | .nextBoundName _, result =>
    [{ key := .binding (.ofNext result.nextName), mode := .read, evict := some result.evict }]

/-- A report on a grant of `mode` on `key`: the flags it passes on are those of
the grant. -/
structure Report.Tells (report : Report) (key : Key) (mode : Mode) (conflicts : Conflicts) :
    Prop where
  key : report.key = key
  mode : report.mode = mode
  evict : ∀ flag, report.evict = some flag → conflicts.evict = flag
  downgrade : ∀ flag, report.downgrade = some flag → conflicts.downgrade = flag

theorem Report.tells_evict (key : Key) (mode : Mode) (conflicts : Conflicts) :
    Report.Tells { key, mode, evict := some conflicts.evict } key mode conflicts :=
  ⟨rfl, rfl, fun _ same => Option.some.inj same, nofun⟩

theorem Report.tells_downgrade (key : Key) (mode : Mode) (conflicts : Conflicts) :
    Report.Tells { key, mode, downgrade := some conflicts.downgrade } key mode conflicts :=
  ⟨rfl, rfl, nofun, fun _ same => Option.some.inj same⟩

theorem Conflicts.report_tells (conflicts : Conflicts) (key : Key) (mode : Mode) :
    (conflicts.report key mode).Tells key mode conflicts :=
  ⟨rfl, rfl, fun _ same => Option.some.inj same, fun _ same => Option.some.inj same⟩

/-- A store that answers every lookup. Nodes may still die meanwhile. -/
structure Backing.Reliable (σ : Type) [Backing σ] : Prop where
  object : ∀ oid (store : σ), ∃ answer, (Backing.object oid store).1.outcome = .ok answer
  nextObject : ∀ oid (store : σ), ∃ answer, (Backing.nextObject oid store).1.outcome = .ok answer
  binding : ∀ name (store : σ), ∃ answer, (Backing.binding name store).1.outcome = .ok answer
  nextBinding : ∀ name (store : σ), ∃ answer,
    (Backing.nextBinding name store).1.outcome = .ok answer

/-! ### Outcomes of an operation -/

/-- The directory after grants to `node`, one for each report, with deaths before,
between and after them. Each grant finds `node` alive. -/
inductive Grants (node : NodeId) : Directory → List Report → Directory → Prop
  | nil (directory : Directory) (died : List NodeId) :
      Grants node directory [] (directory.bury died)
  | cons {directory later : Directory} {key : Key} {mode : Mode} {report : Report}
      {rest : List Report} (died : List NodeId)
      (live : (directory.bury died).registry.isLive node = true)
      (told : report.Tells key mode ((directory.bury died).grant node key mode).1)
      (following : Grants node ((directory.bury died).grant node key mode).2 rest later) :
      Grants node directory (report :: rest) later

/-- The directory after an operation that is refused before its first grant. Some nodes
have died; and if it is the grant that was refused, its key was tracked for a moment. -/
inductive Directory.Lapses (before : Directory) : Directory → Prop
  | buried (died : List NodeId) : Lapses before (before.bury died)
  | forgone (died : List NodeId) (key : Key) : Lapses before ((before.bury died).forgo key)

/-- The directory after an operation of `node` that was refused. Usually it was
refused before its first grant. A removal may have been granted its name before;
it gave the name back then, and unless the store had failed, `node` was dead. -/
inductive Aborts (σ : Type) [Backing σ] (node : NodeId) : Directory → Directory → Prop
  | early {directory later : Directory} (lapses : directory.Lapses later) :
      Aborts σ node directory later
  | late {directory granted : Directory} {key : Key} (before : List NodeId)
      (live : (directory.bury before).registry.isLive node = true)
      (lapses : ((directory.bury before).grant node key .write).2.Lapses granted)
      (dead : Backing.Reliable σ → granted.registry.isLive node = false) :
      Aborts σ node directory (granted.release node key).2

namespace Directory.Lapses

variable {before after : Directory}

theorem refl (directory : Directory) : directory.Lapses directory := .buried []

theorem of_bury {died : List NodeId} (lapses : (before.bury died).Lapses after) :
    before.Lapses after := by
  cases lapses with
  | buried more =>
      rw [bury_bury]
      exact .buried _
  | forgone more key =>
      rw [bury_bury]
      exact .forgone _ key

/-- Nobody's access has changed. -/
theorem entry (lapses : before.Lapses after) (key : Key) :
    after.table.entry key = before.table.entry key := by
  cases lapses with
  | buried died => rfl
  | forgone died other => exact entry_forgo (before.bury died) other key

theorem pending (lapses : before.Lapses after) : after.pending = before.pending := by
  cases lapses <;> rfl

theorem registry (lapses : before.Lapses after) :
    ∃ died, after.registry = before.registry.markAllDead died := by
  cases lapses with
  | buried died => exact ⟨died, rfl⟩
  | forgone died key => exact ⟨died, rfl⟩

end Directory.Lapses

theorem Grants.of_bury {node : NodeId} {directory later : Directory} {died : List NodeId}
    {reports : List Report} (grants : Grants node (directory.bury died) reports later) :
    Grants node directory reports later := by
  generalize start : directory.bury died = buried at grants
  cases grants with
  | nil _ more =>
      rw [← start, Directory.bury_bury]
      exact .nil directory _
  | cons more live told following =>
      subst start
      rw [Directory.bury_bury] at live told following
      exact .cons _ live told following

theorem Aborts.of_bury {σ : Type} [Backing σ] {node : NodeId} {directory later : Directory}
    {died : List NodeId} (aborts : Aborts σ node (directory.bury died) later) :
    Aborts σ node directory later := by
  generalize start : directory.bury died = buried at aborts
  cases aborts with
  | early lapses =>
      subst start
      exact .early lapses.of_bury
  | late before live lapses dead =>
      subst start
      rw [Directory.bury_bury] at live lapses
      exact .late _ live lapses dead

namespace Action

variable {σ α β : Type} {node : NodeId}

/-- An operation that grants nothing: only deaths happen, and what it yields
satisfies `answer`. -/
def Inspects (action : Action σ α) (answer : α → Prop) : Prop :=
  ∀ world, (∃ died, (action.perform world).2.directory = world.directory.bury died) ∧
    ∀ result, (action.perform world).1 = .ok result → answer result

/-- An operation of `node` that makes the grants it reports, or is refused before
its first grant. -/
def Performs (node : NodeId) (action : Action σ α) (reports : α → List Report) : Prop :=
  ∀ world, match action.perform world with
    | (.ok result, later) => Grants node world.directory (reports result) later.directory
    | (.error _, later) => world.directory.Lapses later.directory

theorem inspects_requireLive : Inspects (requireLive node : Action σ Unit) fun _ => True := by
  intro world
  rw [perform_requireLive]
  exact ⟨⟨[], rfl⟩, fun _ _ => trivial⟩

theorem inspects_requireArgument (acceptable : Bool) (cause : ArgumentError) :
    Inspects (requireArgument acceptable cause : Action σ Unit) fun _ => True := by
  intro world
  rw [perform_requireArgument]
  exact ⟨⟨[], rfl⟩, fun _ _ => trivial⟩

theorem inspects_lookup (read : σ → Reading α × σ) :
    Inspects (lookup read : Action σ α) fun _ => True := by
  intro world
  rw [perform_lookup]
  exact ⟨⟨_, rfl⟩, fun _ _ => trivial⟩

theorem inspects_pure {answer : α → Prop} {result : α} (holds : answer result) :
    Inspects (pure result : Action σ α) answer := by
  intro world
  rw [perform_pure]
  exact ⟨⟨[], rfl⟩, fun _ same => Except.ok.inj same ▸ holds⟩

/-- What comes before in an operation and grants nothing either refuses the whole
operation or leaves the rest of it to run, with more nodes dead. -/
theorem Inspects.perform_bind {first : Action σ α} {answer : α → Prop}
    (inspects : Inspects first answer) (next : α → Action σ β) (world : World σ) :
    ∃ died later, later.directory = world.directory.bury died ∧
      ((∃ cause, (first >>= next).perform world = (.error cause, later)) ∨
        ∃ result, answer result ∧
          (first >>= next).perform world = (next result).perform later) := by
  obtain ⟨⟨died, buried⟩, answers⟩ := inspects world
  refine ⟨died, (first.perform world).2, buried, ?_⟩
  rw [Action.perform_bind]
  rcases ran : first.perform world with ⟨outcome, later⟩
  rw [ran] at answers
  cases outcome with
  | error cause => exact Or.inl ⟨cause, rfl⟩
  | ok result => exact Or.inr ⟨result, answers result rfl, rfl⟩

theorem Inspects.bind {first : Action σ α} {next : α → Action σ β} {answer : α → Prop}
    {final : β → Prop} (inspects : Inspects first answer)
    (continues : ∀ result, answer result → Inspects (next result) final) :
    Inspects (first >>= next) final := by
  intro world
  obtain ⟨died, later, buried, ⟨cause, ran⟩ | ⟨result, answered, ran⟩⟩ :=
    inspects.perform_bind next world
  · rw [ran]
    exact ⟨⟨died, buried⟩, nofun⟩
  · obtain ⟨⟨more, reburied⟩, finals⟩ := continues result answered later
    rw [buried, Directory.bury_bury] at reburied
    rw [ran]
    exact ⟨⟨_, reburied⟩, finals⟩

theorem Inspects.performs {first : Action σ α} {next : α → Action σ β} {answer : α → Prop}
    {reports : β → List Report} (inspects : Inspects first answer)
    (continues : ∀ result, answer result → Performs node (next result) reports) :
    Performs node (first >>= next) reports := by
  intro world
  obtain ⟨died, later, buried, ⟨cause, ran⟩ | ⟨result, answered, ran⟩⟩ :=
    inspects.perform_bind next world
  · rw [ran]
    change world.directory.Lapses later.directory
    rw [buried]
    exact .buried died
  · have continued := continues result answered later
    rw [buried] at continued
    rw [ran]
    split at continued
    case h_1 => exact continued.of_bury
    case h_2 => exact continued.of_bury

theorem performs_pure {reports : α → List Report} {result : α} (silent : reports result = []) :
    Performs node (pure result : Action σ α) reports := by
  intro world
  rw [perform_pure]
  change Grants node world.directory (reports result) world.directory
  rw [silent]
  exact .nil world.directory []

/-- An operation that ends with a grant, and reports it. -/
theorem performs_grant {key : Key} {mode : Mode} {answer : Conflicts → α}
    {reports : α → List Report} {report : Conflicts → Report}
    (reported : ∀ conflicts, reports (answer conflicts) = [report conflicts])
    (told : ∀ conflicts, (report conflicts).Tells key mode conflicts) :
    Performs node (do return answer (← grant node key mode) : Action σ α) reports := by
  intro world
  rw [perform_bind, perform_grant]
  cases live : world.directory.registry.isLive node with
  | false => exact .forgone [] key
  | true =>
      change Grants node world.directory (reports (answer _)) _
      rw [reported]
      exact .cons [] live (told _) (.nil _ [])

theorem Performs.map {action : Action σ α} {answer : α → β} {reports : β → List Report}
    (performs : Performs node action fun result => reports (answer result)) :
    Performs node (do return answer (← action)) reports := by
  intro world
  have performed := performs world
  rw [perform_bind]
  rcases ran : action.perform world with ⟨outcome, later⟩
  rw [ran] at performed
  cases outcome with
  | ok result => exact performed
  | error cause => exact performed

variable [Backing σ]

/-- A lookup ends at the name if it is bound and else at the place of the next
bound name, which is all that its answer needs to tell of the place. -/
def Resolves (name : String) (landing : Landing) : Prop :=
  landing.place = if landing.found then .name name else .ofNext landing.nextName

theorem place_ofNext (next : Option (String × ObjectId)) :
    (Landing.ofNext next).place = .ofNext (Landing.ofNext next).nextName := by
  cases next <;> rfl

theorem inspects_resolve (name : String) :
    Inspects (resolve name : Action σ Landing) (Resolves name) := by
  apply (inspects_lookup _).bind
  intro bound _
  cases bound with
  | some oid => exact inspects_pure rfl
  | none =>
      refine (inspects_lookup _).bind fun next _ => inspects_pure ?_
      cases next <;> rfl

theorem performs_takeObject (oid : ObjectId) {mode : Mode} {report : Conflicts → Report}
    {reports : Option (Bytes × Conflicts) → List Report} (nothing : reports none = [])
    (reported : ∀ contents conflicts, reports (some (contents, conflicts)) = [report conflicts])
    (told : ∀ conflicts, (report conflicts).Tells (.object oid) mode conflicts) :
    Performs node (takeObject node oid mode : Action σ (Option (Bytes × Conflicts))) reports := by
  apply (inspects_requireArgument _ _).performs
  intro _ _
  apply inspects_requireLive.performs
  intro _ _
  apply (inspects_lookup _).performs
  intro found _
  cases found with
  | none => exact performs_pure nothing
  | some contents => exact performs_grant (reported contents) told

theorem performs_getObject (oid : ObjectId) :
    Performs node (getObject node oid : Action σ _) (Access.reports (.getObject oid)) :=
  (performs_takeObject oid rfl (fun _ _ => rfl) (Report.tells_evict (.object oid) .read)).map

theorem performs_getObjectForUpdate (oid : ObjectId) :
    Performs node (getObjectForUpdate node oid : Action σ _)
      (Access.reports (.getObjectForUpdate oid)) :=
  (performs_takeObject oid rfl (fun _ _ => rfl) fun conflicts =>
    conflicts.report_tells (.object oid) .write).map

theorem performs_nextObject (after : ObjectId) :
    Performs node (nextObject node after : Action σ _) (Access.reports (.nextObjectId after)) := by
  apply (inspects_requireArgument _ _).performs
  intro _ _
  apply inspects_requireLive.performs
  intro _ _
  apply (inspects_lookup _).performs
  intro found _
  cases found with
  | none => exact performs_pure rfl
  | some next => exact performs_grant (fun _ => rfl) (Report.tells_evict (.object next.1) .read)

omit [Backing σ] in
/-- An upgrade is a grant of write access, to a reader that lives. -/
theorem performs_upgrade {key : Key} :
    Performs node (upgrade node key : Action σ Conflicts) fun conflicts =>
      [{ key, mode := .write, downgrade := some conflicts.downgrade }] := by
  intro world
  rw [perform_upgrade]
  cases upgraded : world.directory.upgrade node key with
  | none =>
      cases world.directory.table.tracks key && !world.directory.registry.isLive node <;>
        exact .refl world.directory
  | some outcome =>
      obtain ⟨conflicts, directory⟩ := outcome
      obtain ⟨reads, granted⟩ := Directory.upgrade_eq_some upgraded
      rw [Directory.tracks_of_holder reads, Bool.true_and]
      cases live : world.directory.registry.isLive node with
      | false => exact .refl world.directory
      | true =>
          have told : Report.Tells
              { key, mode := .write, downgrade := some conflicts.downgrade }
              key .write (world.directory.grant node key .write).1 := by
            rw [granted]
            exact Report.tells_downgrade key .write conflicts
          have following : Grants node (world.directory.grant node key .write).2 []
              directory := by
            rw [granted]
            exact .nil directory []
          exact .cons [] live told following

omit [Backing σ] in
theorem performs_upgradeObject (oid : ObjectId) :
    Performs node (upgradeObject node oid : Action σ _) (Access.reports (.upgradeObject oid)) := by
  apply (inspects_requireArgument _ _).performs
  intro _ _
  apply inspects_requireLive.performs
  intro _ _
  exact performs_upgrade.map

theorem performs_getBinding (name : String) :
    Performs node (getBinding node name : Action σ _) (Access.reports (.getBinding name)) := by
  apply inspects_requireLive.performs
  intro _ _
  apply (inspects_resolve name).performs
  intro landing resolves
  refine performs_grant (fun conflicts => ?_) (Report.tells_evict (.binding landing.place) .read)
  rw [resolves]
  rfl

theorem performs_getBindingForUpdate (name : String) :
    Performs node (getBindingForUpdate node name : Action σ _)
      (Access.reports (.getBindingForUpdate name)) := by
  apply inspects_requireLive.performs
  intro _ _
  apply (inspects_resolve name).performs
  intro landing resolves
  refine performs_grant (fun conflicts => ?_)
    fun conflicts => conflicts.report_tells (.binding landing.place) .write
  rw [resolves]
  rfl

theorem performs_nextBoundName (after : Option String) :
    Performs node (nextBoundName node after : Action σ _)
      (Access.reports (.nextBoundName after)) := by
  apply inspects_requireLive.performs
  intro _ _
  apply (inspects_lookup _).performs
  intro next _
  refine performs_grant (fun conflicts => ?_)
    (Report.tells_evict (.binding (Landing.ofNext next).place) .read)
  rw [place_ofNext]
  rfl

/-! ### Removal -/

/-- What is told of the place after a name that is to be removed. -/
def reportNext (taken : Landing × Conflicts) : Report :=
  taken.2.report (.binding (.ofNext taken.1.nextName)) .write

theorem performs_takeNext (name : String) :
    Performs node (takeNext node name : Action σ _) fun taken => [reportNext taken] := by
  apply (inspects_lookup _).performs
  intro next _
  refine performs_grant (fun _ => rfl) fun conflicts => ?_
  rw [place_ofNext]
  exact conflicts.report_tells _ _

/-- Over a store that answers, the second half of a removal fails only if the
node is dead. -/
theorem not_live_of_takeNext_error (reliable : Backing.Reliable σ) {name : String}
    {world later : World σ} {cause : DirectoryError}
    (failed : (takeNext node name : Action σ _).perform world = (.error cause, later)) :
    later.directory.registry.isLive node = false := by
  obtain ⟨next, answered⟩ := reliable.nextBinding (some name) world.store
  simp only [takeNext, perform_bind, perform_lookup, answered, mapError_ok, perform_grant]
    at failed
  split at failed
  case h_1 granted =>
    split at granted
    case isTrue => cases failed
    case isFalse => cases granted
  case h_2 refused =>
    split at refused
    case isTrue => cases refused
    case isFalse dead =>
      cases refused
      cases failed
      exact Bool.eq_false_iff.mpr dead

/-- What an operation of `node` comes to: granted as reported, or refused. -/
def Concludes (node : NodeId) (action : Action σ α) (reports : α → List Report) : Prop :=
  ∀ world, match action.perform world with
    | (.ok result, later) => Grants node world.directory (reports result) later.directory
    | (.error _, later) => Aborts σ node world.directory later.directory

theorem Performs.concludes {action : Action σ α} {reports : α → List Report}
    (performs : Performs node action reports) : Concludes node action reports := by
  intro world
  have performed := performs world
  split at performed
  case h_1 => exact performed
  case h_2 => exact .early performed

theorem Inspects.concludes {first : Action σ α} {next : α → Action σ β} {answer : α → Prop}
    {reports : β → List Report} (inspects : Inspects first answer)
    (continues : ∀ result, answer result → Concludes node (next result) reports) :
    Concludes node (first >>= next) reports := by
  intro world
  obtain ⟨died, later, buried, ⟨cause, ran⟩ | ⟨result, answered, ran⟩⟩ :=
    inspects.perform_bind next world
  · rw [ran]
    change Aborts σ node world.directory later.directory
    rw [buried]
    exact .early (.buried died)
  · have continued := continues result answered later
    rw [buried] at continued
    rw [ran]
    split at continued
    case h_1 => exact continued.of_bury
    case h_2 => exact continued.of_bury

/-- The two halves of the removal of a bound name. Deaths before the first half
are those of its lookup. -/
theorem concludes_removeBound (name : String) (oid : ObjectId) :
    Concludes node (do
      let conflicts ← grant node (.binding (.name name)) .write
      let (next, nextConflicts) ← tryCatch (takeNext node name) fun cause => do
        let _ ← release node (.binding (.name name))
        throw cause
      return ⟨true, next.nextName, oid, conflicts, next.oid, nextConflicts⟩ :
        Action σ BindingRemoval) (Access.reports (.getBindingForRemove name)) := by
  intro world
  rw [perform_bind, perform_grant]
  cases live : world.directory.registry.isLive node with
  | false => exact .early (.forgone [] (.binding (.name name)))
  | true =>
      simp only [if_true, perform_bind, perform_tryCatch]
      have performs : Performs node (takeNext node name : Action σ _)
        fun taken => [reportNext taken] := performs_takeNext name
      have second := performs
        { world with
          directory := (world.directory.grant node (.binding (.name name)) .write).2 }
      rcases ran : (takeNext node name : Action σ _).perform
        { world with
          directory := (world.directory.grant node (.binding (.name name)) .write).2 }
        with ⟨outcome, later⟩
      rw [ran] at second
      cases outcome with
      | ok taken =>
          exact .cons [] live (Conflicts.report_tells _ _ _) second
      | error cause =>
          exact .late [] live second fun reliable => not_live_of_takeNext_error reliable ran

theorem concludes_getBindingForRemove (name : String) :
    Concludes node (getBindingForRemove node name : Action σ _)
      (Access.reports (.getBindingForRemove name)) := by
  apply inspects_requireLive.concludes
  intro _ _
  apply (inspects_lookup _).concludes
  intro bound _
  cases bound with
  | none => exact (performs_takeNext name).map.concludes
  | some oid => exact concludes_removeBound name oid

/-- Whatever the store answers and whoever dies meanwhile: a request for access
that succeeds makes exactly the grants that its answer reports, and one that is
refused leaves no grant behind. -/
theorem access_concludes (what : Access) :
    Concludes node (what.action node : Action σ what.Result) what.reports := by
  cases what with
  | getObject oid => exact (performs_getObject oid).concludes
  | getObjectForUpdate oid => exact (performs_getObjectForUpdate oid).concludes
  | upgradeObject oid => exact (performs_upgradeObject oid).concludes
  | nextObjectId after => exact (performs_nextObject after).concludes
  | getBinding name => exact (performs_getBinding name).concludes
  | getBindingForUpdate name => exact (performs_getBindingForUpdate name).concludes
  | getBindingForRemove name => exact concludes_getBindingForRemove name
  | nextBoundName after => exact (performs_nextBoundName after).concludes

end Action

/-! ### After the grants -/

/-- A key that a node holds it still holds, at least as strongly, after grants to
it. -/
theorem Grants.holds_of_holds {node : NodeId} {directory later : Directory}
    {reports : List Report} (grants : Grants node directory reports later) {key : Key}
    {mode : Mode} (before : ∃ held, directory.table.holder key node = some held ∧ mode ≤ held) :
    ∃ held, later.table.holder key node = some held ∧ mode ≤ held := by
  induction grants with
  | nil => exact before
  | @cons directory later other granted report rest died live told following ih =>
      refine ih ?_
      obtain ⟨held, holds, strong⟩ := before
      rw [Table.holder_eq] at holds
      rw [Table.holder_eq, Directory.entry_grant]
      split
      case isFalse => exact ⟨held, holds, strong⟩
      case isTrue same =>
        subst same
        refine ⟨_, by rw [Entry.holder_grant, if_pos rfl], ?_⟩
        change mode ≤ max (((directory.table.entry key).holder node).getD granted) granted
        rw [holds]
        exact Mode.le_trans strong (Mode.le_max_left held granted)

/-- After grants their node holds every reported key, at least as strongly as
reported. -/
theorem Grants.holds {node : NodeId} {directory later : Directory} {reports : List Report}
    (grants : Grants node directory reports later) :
    ∀ report ∈ reports,
      ∃ held, later.table.holder report.key node = some held ∧ report.mode ≤ held := by
  induction grants with
  | nil => exact nofun
  | @cons directory later key mode report rest died live told following ih =>
      intro other among
      rcases List.mem_cons.mp among with rfl | among
      · refine following.holds_of_holds ?_
        rw [told.key, told.mode, Table.holder_eq, Directory.entry_grant,
          if_pos rfl]
        exact Entry.holder_grant_self _ node mode
      · exact ih other among

/-- Grants leave alone the keys that they do not report. -/
theorem Grants.entry_of_not_reported {node : NodeId} {directory later : Directory}
    {reports : List Report} (grants : Grants node directory reports later) {key : Key}
    (unreported : ∀ report ∈ reports, report.key ≠ key) :
    later.table.entry key = directory.table.entry key := by
  induction grants with
  | nil => rfl
  | @cons directory later other mode report rest died live told following ih =>
      have distinct : ¬ key = other := by
        rw [← told.key]
        exact fun same => unreported report List.mem_cons_self same.symm
      rw [ih fun other among => unreported other (List.mem_cons_of_mem report among),
        Directory.entry_grant, if_neg distinct]
      rfl

theorem Service.perform_concludes {σ : Type} [Backing σ] (service : Service σ) (node : NodeId)
    (what : Access) :
    match service.perform (.access node what) with
    | (.ok result, later) => Grants node service.directory (what.reports result) later.directory
    | (.error _, later) => Aborts σ node service.directory later.directory := by
  have concludes : (what.action node : Action σ what.Result).Concludes node what.reports :=
    Action.access_concludes what
  have concluded := concludes service.world
  simp only [perform, act]
  rcases ran : (what.action node).perform service.world with ⟨outcome, world⟩
  rw [ran] at concluded
  cases outcome <;> exact concluded

end CacheDirectory
