/-
Module: CacheDirectory.Proofs.Gaps
Purpose: What keeps a gap between bound names as it was seen. Whoever learned that no
  name is bound in it holds the place that closes it, and a request to bind or to
  remove a name in it takes that place for writing.
Trusted boundary: none
Main exports: Directory.Displaces, Grants.displaces, Directory.grantAll, Service.TakesFrom,
  Cluster.gap_guarded
-/
import CacheDirectory.Proofs.Outstanding
import CacheDirectory.Proofs.Resolution

namespace CacheDirectory

open Std Wire

/-! ### A writer takes a key from its holder -/

namespace Entry

/-- Only the writer is left. -/
theorem holder_grant_write (entry : Entry) (node other : NodeId) :
    (entry.grant node .write).2.holder other = if other = node then some .write else none := by
  rw [holder_grant]
  split
  case isTrue => cases (entry.holder node).getD .write <;> rfl
  case isFalse distinct =>
    rw [demand_write entry distinct]
    cases entry.holder other <;> rfl

/-- A holder that a grant displaces is told to the requester. -/
theorem flag_grant_of_demand {entry : Entry} {node other : NodeId} {mode : Mode} {kind : Release}
    (demanded : entry.demand node mode other = some kind) :
    (entry.grant node mode).1.conflicts.flag kind = true := by
  have distinct : other ≠ node := by
    rintro rfl
    rw [demand_self] at demanded
    cases demanded
  exact flag_grant_iff.mpr ⟨other, distinct, .inr demanded⟩

/-- A grant asks each holder that it displaces once. -/
theorem releases_to (entry : Entry) (node : NodeId) (mode : Mode) {other : NodeId}
    {kind : Release} (demanded : entry.demand node mode other = some kind) :
    (entry.grant node mode).1.releases.filter (fun release => release.1 = other) =
      [(other, kind)] := by
  have listed : (other, kind) ∈ (entry.grant node mode).1.releases :=
    (entry.mem_releases_grant node mode other kind).mpr demanded
  have once : (entry.grant node mode).1.releases.Pairwise
      fun first second => ¬ compare first.1 second.1 = .eq := ExtTreeMap.distinct_keys_toList
  obtain ⟨before, behind, split⟩ := List.mem_iff_append.mp listed
  rw [split, List.pairwise_append, List.pairwise_cons] at once
  obtain ⟨-, ⟨apart, -⟩, crossing⟩ := once
  simp only [LawfulEqOrd.compare_eq_iff_eq] at apart crossing
  have noneBefore : before.filter (fun release => release.1 = other) = [] := by
    rw [List.filter_eq_nil_iff]
    intro release early
    simpa using crossing release early _ List.mem_cons_self
  have noneBehind : behind.filter (fun release => release.1 = other) = [] := by
    rw [List.filter_eq_nil_iff]
    intro release late
    simpa [eq_comm] using apart release late
  rw [split, List.filter_append, List.filter_cons, noneBefore, noneBehind]
  simp

end Entry

namespace Directory

/-- From one directory to a later one, `writer` took `key` from `holder`, who was asked
once to give up what it held. -/
structure Displaces (before after : Directory) (writer holder : NodeId) (key : Key)
    (held : Mode) : Prop where
  alone : ∀ other, after.table.holder key other = if other = writer then some .write else none
  recalled : after.Recalls holder key held.forfeit
  asked : ∃ submitted, after.pending = before.pending ++ submitted ∧
    submitted.filter (fun request => request.target = holder ∧ request.key = key) =
      [⟨holder, key, held.forfeit⟩]

variable {directory : Directory} {writer holder : NodeId} {key : Key} {held : Mode}

/-- The requests that a grant submits are about its key. -/
theorem key_of_mem_asked {node : NodeId} {mode : Mode} {request : ReleaseRequest}
    (among : request ∈ directory.asked node key mode) : request.key = key := by
  cases sink : directory.sink with
  | collecting => exact ((mem_asked sink node key mode request).mp among).1
  | closed =>
      simp only [asked, grant, submit, sink, List.drop_length] at among
      cases among

theorem displaces_grant (collecting : directory.sink = .collecting) (distinct : holder ≠ writer)
    (holds : directory.table.holder key holder = some held) :
    directory.Displaces (directory.grant writer key .write).2 writer holder key held := by
  rw [Table.holder_eq] at holds
  have demanded : (directory.table.entry key).demand writer .write holder = some held.forfeit := by
    rw [Entry.demand_write _ distinct, holds, Option.map_some]
  constructor
  case alone =>
    intro other
    rw [Table.holder_eq, entry_grant, if_pos rfl, Entry.holder_grant_write]
  case recalled =>
    rw [Recalls, Table.pendingRelease_eq, entry_grant, if_pos rfl, Entry.pendingRelease_grant,
      demanded]
    exact ⟨_, rfl, (Release.le_merge_iff _ _ _).mpr (Or.inr (Release.le_refl _))⟩
  case asked =>
    refine ⟨_, pending_grant directory writer key .write, ?_⟩
    have submitted : directory.asked writer key .write =
        (directory.table.grant writer key .write).1.releases.map
          fun release => ⟨release.1, key, release.2⟩ := by
      simp only [asked, grant, submit, collecting, List.drop_left]
    have once := Entry.releases_to _ writer .write demanded
    change (directory.table.grant writer key .write).1.releases.filter _ = _ at once
    rw [submitted, List.filter_map]
    simp only [Function.comp_def, and_true, once]
    rfl

end Directory

namespace Directory.Displaces

variable {before middle after : Directory} {writer holder : NodeId} {key : Key} {held : Mode}

/-- Deaths on the way concern nobody's access. -/
theorem of_bury {died more : List NodeId}
    (displaces : (before.bury died).Displaces after writer holder key held) :
    before.Displaces (after.bury more) writer holder key held :=
  ⟨displaces.alone, displaces.recalled, displaces.asked⟩

/-- What was asked before about other keys does not count. -/
theorem of_submitted (displaces : middle.Displaces after writer holder key held)
    {others : List ReleaseRequest} (appended : middle.pending = before.pending ++ others)
    (elsewhere : ∀ request ∈ others, request.key ≠ key) :
    before.Displaces after writer holder key held := by
  refine ⟨displaces.alone, displaces.recalled, ?_⟩
  obtain ⟨submitted, grown, once⟩ := displaces.asked
  refine ⟨others ++ submitted, by rw [grown, appended, List.append_assoc], ?_⟩
  have silent : others.filter (fun request => request.target = holder ∧ request.key = key) = [] := by
    rw [List.filter_eq_nil_iff]
    intro request among
    simp [elsewhere request among]
  rw [List.filter_append, silent, once, List.nil_append]

end Directory.Displaces

/-- Grants of which only the last is of the key, and that for writing, take the key from
whoever holds it, and their node is told that somebody had to go. -/
theorem Grants.displaces {writer holder : NodeId} {directory later : Directory} {key : Key}
    {earlier : List Report} {conflicts : Conflicts}
    (grants : Grants writer directory (earlier ++ [conflicts.report key .write]) later)
    (elsewhere : ∀ report ∈ earlier, report.key ≠ key)
    (collecting : directory.sink = .collecting) (distinct : holder ≠ writer) {held : Mode}
    (holds : directory.table.holder key holder = some held) :
    directory.Displaces later writer holder key held ∧ conflicts.flag held.forfeit = true := by
  induction earlier generalizing directory with
  | nil =>
      cases grants with
      | @cons _ _ taken mode _ _ died live told following =>
          cases following with
          | nil _ more =>
              obtain rfl : key = taken := told.key
              obtain rfl : Mode.write = mode := told.mode
              have displaces : (directory.bury died).Displaces _ writer holder key held :=
                Directory.displaces_grant collecting distinct holds
              refine ⟨displaces.of_bury, ?_⟩
              have same : conflicts = ((directory.bury died).grant writer key .write).1 := by
                have evict := told.evict _ rfl
                have downgrade := told.downgrade _ rfl
                generalize ((directory.bury died).grant writer key .write).1 = granted at *
                cases granted
                cases evict
                cases downgrade
                rfl
              have demanded : (directory.table.entry key).demand writer .write holder =
                  some held.forfeit := by
                rw [Table.holder_eq] at holds
                rw [Entry.demand_write _ distinct, holds, Option.map_some]
              rw [same]
              exact Entry.flag_grant_of_demand demanded
  | cons first rest ih =>
      cases grants with
      | @cons _ _ taken mode _ _ died live told following =>
          have apart : key ≠ taken := by
            rw [← told.key]
            exact (elsewhere first List.mem_cons_self).symm
          have kept : ((directory.bury died).grant writer taken mode).2.table.holder key holder =
              some held := by
            rw [Table.holder_eq, Directory.entry_grant, if_neg apart]
            exact holds
          obtain ⟨displaces, flagged⟩ := ih following
            (fun report among => elsewhere report (List.mem_cons_of_mem first among))
            ((Directory.sink_grant ..).trans collecting) kept
          refine ⟨displaces.of_submitted (Directory.pending_grant ..) ?_, flagged⟩
          intro request among
          rw [Directory.key_of_mem_asked among]
          exact apart.symm

/-! ### Requests to change the namespace -/

/-- Grant the node access to places, one after the other. -/
def Directory.grantAll (directory : Directory) (node : NodeId) (mode : Mode) :
    List BindingKey → Directory
  | [] => directory
  | place :: rest => grantAll (directory.grant node (.binding place) mode).2 node mode rest

namespace Action

variable {world : World Store} {node : NodeId}

theorem perform_takeNext (name : String) (live : world.directory.registry.isLive node = true) :
    let next := world.store.land (.next (some name))
    let granted := world.directory.grant node (.binding next.place) .write
    (takeNext node name : Action Store _).perform world =
      (.ok (next, granted.1), { world with directory := granted.2 }) := by
  intro next granted
  simp only [takeNext, perform_bind, perform_nextBinding, perform_grant, live, if_true]
  rfl

end Action

namespace Service

variable {service : Service Store} {writer holder : NodeId}

/-- A request to remove a name is granted the name, if that is bound, and the place that
comes next, and the answer tells of both. -/
theorem perform_removal (name : String)
    (live : service.directory.registry.isLive writer = true) :
    let bound := service.world.store.binding? name
    let next := service.world.store.land (.next (some name))
    let places := if bound.isSome then [.name name, next.place] else [next.place]
    ∃ result, service.perform (.access writer (.getBindingForRemove name)) =
        (.ok result, service.withDirectory (service.directory.grantAll writer .write places)) ∧
      result.found = bound.isSome ∧ result.oid = bound.getD noObject ∧
      .ofNext result.nextName = next.place ∧ result.nextOid = next.oid := by
  intro bound next places
  change service.world.directory.registry.isLive writer = true at live
  have told : .ofNext next.nextName = next.place := (Action.place_ofNext _).symm
  simp only [perform, act, Access.action, Action.getBindingForRemove, Action.perform_bind,
    Action.perform_requireLive, Registry.check, live, if_true, Action.perform_binding]
  cases known : service.world.store.binding? name with
  | none =>
      simp only [Action.perform_bind, Action.perform_takeNext name live, bound, places, known]
      exact ⟨_, rfl, rfl, rfl, told, rfl⟩
  | some oid =>
      -- The grant of the name leaves alone who lives.
      have later : ({ service.world with directory := (service.world.directory.grant writer
          (.binding (.name name)) .write).2 } : World Store).directory.registry.isLive writer =
            true := by
        rw [Directory.registry_grant, live]
      simp only [Action.perform_bind, Action.perform_grant, live, if_true, Action.perform_tryCatch,
        Action.perform_takeNext name later, bound, places, known]
      exact ⟨_, rfl, rfl, rfl, told, rfl⟩

/-- By the request the writer takes the place from its holder and is told of it. -/
def TakesFrom (service : Service Store) (writer : NodeId) (what : Access) (place : BindingKey)
    (holder : NodeId) (held : Mode) : Prop :=
  ∃ result later, service.perform (.access writer what) = (.ok result, later) ∧
    service.directory.Displaces later.directory writer holder (.binding place) held ∧
    ∃ conflicts : Conflicts, conflicts.report (.binding place) .write ∈ what.reports result ∧
      conflicts.flag held.forfeit = true

/-- A request whose last report is on writing the place takes it. -/
theorem takesFrom_of_reports {what : Access} {result : what.Result} {later : Service Store}
    {place : BindingKey} {earlier : List Report} {conflicts : Conflicts} {held : Mode}
    (performed : service.perform (.access writer what) = (.ok result, later))
    (reports : what.reports result = earlier ++ [conflicts.report (.binding place) .write])
    (elsewhere : ∀ report ∈ earlier, report.key ≠ .binding place)
    (collecting : service.directory.sink = .collecting) (distinct : holder ≠ writer)
    (holds : service.directory.table.holder (.binding place) holder = some held) :
    service.TakesFrom writer what place holder held := by
  have grants := service.perform_concludes writer what
  rw [performed] at grants
  change Grants writer service.directory (what.reports result) later.directory at grants
  rw [reports] at grants
  obtain ⟨displaces, flagged⟩ := Grants.displaces grants elsewhere collecting distinct holds
  refine ⟨result, later, performed, displaces, conflicts, ?_, flagged⟩
  rw [reports]
  exact List.mem_append_right _ List.mem_cons_self

/-- Whoever asks to bind a name takes the place where a lookup of the name ends. -/
theorem takesFrom_update {name : String} {place : BindingKey} {held : Mode}
    (ends : service.world.store.FirstPlace (.lookup name) place)
    (live : service.directory.registry.isLive writer = true)
    (collecting : service.directory.sink = .collecting) (distinct : holder ≠ writer)
    (holds : service.directory.table.holder (.binding place) holder = some held) :
    service.TakesFrom writer (.getBindingForUpdate name) place holder held := by
  have asks : Access.inquiry? (.getBindingForUpdate name) = some (.lookup name, .write) := rfl
  obtain ⟨result, told, performed⟩ := perform_inquiry asks live
  obtain rfl := ends.unique (service.world.store.firstPlace_land _).1
  have reports : Access.reports (.getBindingForUpdate name) result =
      [] ++ [result.conflicts.report (.binding
        (service.world.store.land (.lookup name)).place) .write] := by
    rw [← Option.some.inj told]
    rfl
  exact takesFrom_of_reports performed reports nofun collecting distinct holds

/-- Whoever asks to remove a name takes the place that comes after it. -/
theorem takesFrom_removal {name : String} {place : BindingKey} {held : Mode}
    (ends : service.world.store.FirstPlace (.next (some name)) place)
    (live : service.directory.registry.isLive writer = true)
    (collecting : service.directory.sink = .collecting) (distinct : holder ≠ writer)
    (holds : service.directory.table.holder (.binding place) holder = some held) :
    service.TakesFrom writer (.getBindingForRemove name) place holder held := by
  obtain ⟨result, performed, -, -, next, -⟩ := perform_removal name live
  obtain rfl := ends.unique (service.world.store.firstPlace_land _).1
  by_cases found : result.found
  · have reports : Access.reports (.getBindingForRemove name) result =
        [result.conflicts.report (.binding (.name name)) .write] ++
          [result.nextConflicts.report (.binding
            (service.world.store.land (.next (some name))).place) .write] := by
      simp only [Access.reports, next, found, if_true]
      rfl
    refine takesFrom_of_reports performed reports ?_ collecting distinct holds
    intro report among same
    rw [List.mem_singleton.mp among] at same
    have apart := ends.reached name rfl
    rw [← Key.binding.inj same] at apart
    exact Std.lt_irrefl apart
  · have reports : Access.reports (.getBindingForRemove name) result =
        [] ++ [result.nextConflicts.report (.binding
          (service.world.store.land (.next (some name))).place) .write] := by
      simp only [Access.reports, next, found]
      rfl
    exact takesFrom_of_reports performed reports (List.forall_mem_nil _) collecting distinct holds

end Service

/-! ### Gaps -/

namespace Cluster

/-- The requests of a run are collected as long as they were at its start. -/
theorem sink_run {σ : Type} [Backing σ] (cluster : Cluster σ) (steps : List (Step σ)) :
    (cluster.run steps).2.directory.sink = cluster.directory.sink := by
  have effects : Effects (Backing.Reliable σ) True cluster.view (cluster.run steps).1
      (cluster.run steps).2.view := cluster.run_effects steps fun _ _ _ => trivial
  exact effects.preserve (fun _ view => view.directory.sink = cluster.directory.sink)
    (fun same effect => effect.sink_eq.trans same) [] rfl

/-- Once a node has learned where a lookup of a name or a search for the next name
ends, and as long as it holds that place and the same names are bound: whoever else asks
for a name in the gap before the place, to bind or to remove it, takes the place for
writing. It is then the only holder; the node is asked once to give the place up, which
is on record, and the answer tells that somebody had to go. So does whoever asks to
remove the name after which the search began. -/
theorem gap_guarded (range : PortRange) (settings : DeliverySettings) (store : Store)
    (endpoints : Endpoints) (earlier between : List (Step Store)) (reader writer : NodeId)
    (distinct : reader ≠ writer) (what : Access) (result : what.Result) {inquiry : Inquiry}
    {mode : Mode} {gap : Landing} (asks : what.inquiry? = some (inquiry, mode))
    (told : what.landing? result = some gap) :
    let met := ((start range .collecting settings store endpoints).run earlier).2
    ∀ answered, met.service.perform (.access reader what) = (.ok result, answered) →
    let now := ({ met with service := answered }.run between).2
    (∀ name, (now.service.world.store.binding? name).isSome =
      (met.service.world.store.binding? name).isSome) →
    now.directory.registry.isLive writer = true →
    ∀ held, now.directory.table.holder (.binding gap.place) reader = some held →
    ∀ name,
      (inquiry.Reaches (.name name) → .name name < gap.place →
        now.service.TakesFrom writer (.getBindingForUpdate name) gap.place reader held) ∧
      (inquiry.Reaches (.name name) ∧ .name name < gap.place ∨ inquiry = .next (some name) →
        now.service.TakesFrom writer (.getBindingForRemove name) gap.place reader held) := by
  intro met answered performed now sameNames live held holds name
  obtain ⟨rfl, rfl⟩ := Service.eq_of_perform_inquiry asks told performed
  have ends : now.service.world.store.FirstPlace inquiry
      (met.service.world.store.land inquiry).place :=
    (met.service.world.store.firstPlace_land inquiry).1.of_same_names sameNames
  have collecting : now.service.directory.sink = .collecting := by
    change now.directory.sink = _
    rw [sink_run]
    refine (Directory.sink_grant ..).trans ?_
    exact sink_run _ earlier
  constructor
  case left =>
    intro reached inside
    exact Service.takesFrom_update (ends.lookup_inside reached inside) live collecting distinct holds
  case right =>
    rintro (⟨reached, inside⟩ | rfl)
    · exact Service.takesFrom_removal (ends.next_inside reached inside) live collecting distinct holds
    · exact Service.takesFrom_removal ends live collecting distinct holds

/-- Two names are bound, and two nodes will register. -/
def twoNames : Cluster Store :=
  start ⟨41000, 41003⟩ .collecting {}
    { bindings := ((∅ : ExtTreeMap String ObjectId).insert "b" 5).insert "e" 6 } ∅

def bothRegister : List (Step Store) :=
  [.request (.registerNode "a"), .request (.registerNode "b")]

/-- The first node looks for a name that is not bound, and the second asks to bind the
name behind it. -/
theorem takesFrom_twoNames :
    let met := (twoNames.run bothRegister).2
    let answered := (met.service.perform (.access 1 (.getBinding "c"))).2
    answered.TakesFrom 2 (.getBindingForUpdate "d") (.name "e") 1 .read := by
  intro met answered
  have guarded := gap_guarded ⟨41000, 41003⟩ {} twoNames.service.world.store ∅ bothRegister [] 1 2
    (by decide) (.getBinding "c") ⟨false, some "e", 6, false⟩ rfl rfl answered
    (Prod.ext (by decide +kernel) rfl)
  exact (guarded (fun _ => rfl) (by decide +kernel) .read (by decide +kernel) "d").1
    (by decide +kernel) (by decide +kernel)

end Cluster

end CacheDirectory
