/-
Module: CacheDirectory.Proofs.Displacement
Purpose: Who loses a key to a grant, what becomes of the records of the key, and who is
  asked to release it. A request for access that succeeds does this to the keys that its
  answer reports, and nothing to any other.
Trusted boundary: none
Main exports: Entry.Loses, Entry.GivesWay, Directory.Asks, Directory.Granted,
  Grants.granted, Action.displacement_exact
-/
import CacheDirectory.Proofs.FailedRemoval

namespace CacheDirectory

open Std Wire

/-! ### One key -/

namespace Entry

/-- The holder has the key in the mode `held` and loses it to a grant of `mode` to `node`:
it is another node, and one of the two writes. -/
def Loses (entry : Entry) (node : NodeId) (mode : Mode) (holder : NodeId) (held : Mode) : Prop :=
  entry.holder holder = some held ∧ holder ≠ node ∧ (mode = .write ∨ held = .write)

/-- What becomes of a key when `mode` is granted to `node`. -/
structure GivesWay (before after : Entry) (node : NodeId) (mode : Mode) : Prop where
  /-- The node has the key in the stronger of its old and its new mode. -/
  own : after.holder node = some (max ((before.holder node).getD mode) mode)
  lost_iff : ∀ holder held, before.holder holder = some held →
    (after.holder holder = none ↔ holder ≠ node ∧ (mode = .write ∨ held = .write))
  /-- Nobody else gains anything. -/
  kept : ∀ other, other ≠ node →
    after.holder other = none ∨ after.holder other = before.holder other
  recorded : ∀ holder held, before.Loses node mode holder held →
    after.pendingRelease holder =
      some (Release.merge (before.pendingRelease holder) held.forfeit)
  unrecorded : ∀ other, (∀ held, ¬ before.Loses node mode other held) →
    after.pendingRelease other = before.pendingRelease other

variable {entry : Entry} {node holder : NodeId} {mode held : Mode}

theorem displaces_iff : mode.displaces node holder held = true ↔
    holder ≠ node ∧ (mode = .write ∨ held = .write) := by
  have writes (mode : Mode) : mode.isWrite = true ↔ mode = .write := by cases mode <;> decide
  rw [Mode.displaces, Bool.and_eq_true, bne_iff_ne, Bool.or_eq_true, writes, writes]

/-- Those are asked who lose the key. -/
theorem demand_eq_some_iff {kind : Release} : entry.demand node mode holder = some kind ↔
    ∃ held, entry.Loses node mode holder held ∧ kind = held.forfeit := by
  simp only [demand_eq, Option.bind_eq_some_iff, Option.ite_none_right_eq_some,
    Option.some.injEq, displaces_iff, Loses, and_assoc, eq_comm (a := kind)]

theorem demand_of_loses (loses : entry.Loses node mode holder held) :
    entry.demand node mode holder = some held.forfeit :=
  demand_eq_some_iff.mpr ⟨held, loses, rfl⟩

theorem demand_of_not_loses (keeps : ∀ held, ¬ entry.Loses node mode holder held) :
    entry.demand node mode holder = none := by
  rw [Option.eq_none_iff_forall_ne_some]
  intro kind demanded
  obtain ⟨held, loses, -⟩ := demand_eq_some_iff.mp demanded
  exact keeps held loses

theorem givesWay_grant (entry : Entry) (node : NodeId) (mode : Mode) :
    entry.GivesWay (entry.grant node mode).2 node mode where
  own := by rw [holder_grant, if_pos rfl]
  lost_iff := by
    intro holder held holds
    rw [holder_grant]
    by_cases same : holder = node
    · simp [same]
    · by_cases conflict : mode = .write ∨ held = .write
      · simp [same, conflict, demand_of_loses ⟨holds, same, conflict⟩]
      · have keeps : ∀ other, ¬ entry.Loses node mode holder other := by
          rintro other ⟨holds', -, conflict'⟩
          rw [holds, Option.some.injEq] at holds'
          exact conflict (holds' ▸ conflict')
        simp [same, conflict, demand_of_not_loses keeps, holds]
  kept := by
    intro other distinct
    rw [holder_grant, if_neg distinct]
    split
    case isTrue => exact Or.inl rfl
    case isFalse => exact Or.inr rfl
  recorded := by
    intro holder held loses
    rw [pendingRelease_grant, demand_of_loses loses]
  unrecorded := by
    intro other keeps
    rw [pendingRelease_grant, demand_of_not_loses keeps]

end Entry

/-! ### The requests -/

namespace Directory

/-- The requests are those for `key` that a grant of `mode` to `node` makes: one to each
node that loses the key, in the order of the nodes, to a writer to drop its copy and to a
reader to stop reading. -/
structure Asks (directory : Directory) (node : NodeId) (key : Key) (mode : Mode)
    (requests : List ReleaseRequest) : Prop where
  ascending : requests.Pairwise fun first second => compare first.target second.target = .lt
  mem_iff : ∀ request, request ∈ requests ↔ request.key = key ∧
    ∃ held, (directory.table.entry key).Loses node mode request.target held ∧
      request.release = if held = .write then .evict else .downgrade

/-- The requests that a grant makes, whether or not anybody delivers them. -/
def requests (directory : Directory) (node : NodeId) (key : Key) (mode : Mode) :
    List ReleaseRequest :=
  ((directory.table.entry key).grant node mode).1.releases.map
    fun release => ⟨release.1, key, release.2⟩

theorem asks_requests (directory : Directory) (node : NodeId) (key : Key) (mode : Mode) :
    directory.Asks node key mode (directory.requests node key mode) where
  ascending := by
    rw [requests, List.pairwise_map]
    exact ExtTreeMap.ordered_keys_toList
  mem_iff := by
    intro request
    have forfeits (held : Mode) :
        held.forfeit = if held = .write then .evict else .downgrade := by cases held <;> rfl
    simp only [requests, List.mem_map, ← forfeits, ← Entry.demand_eq_some_iff]
    constructor
    · rintro ⟨⟨target, release⟩, among, rfl⟩
      exact ⟨rfl, (Entry.mem_releases_grant _ node mode target release).mp among⟩
    · rintro ⟨rfl, demanded⟩
      exact ⟨(request.target, request.release),
        (Entry.mem_releases_grant _ node mode _ _).mpr demanded, rfl⟩

theorem pending_grant_eq (directory : Directory) (node : NodeId) (key : Key) (mode : Mode) :
    (directory.grant node key mode).2.pending = directory.pending ++
      if directory.sink = .closed then [] else directory.requests node key mode := by
  simp only [grant, submit, requests]
  cases sink : directory.sink with
  | collecting => rfl
  | closed => exact (List.append_nil _).symm

/-! ### Grants of several keys -/

/-- From one directory to a later one `node` was granted what the reports tell of, each
key once, and nothing else happened to any key. -/
structure Granted (node : NodeId) (before : Directory) (reports : List Report)
    (after : Directory) : Prop where
  distinct : (reports.map (·.key)).Nodup
  entries : ∀ report ∈ reports, (before.table.entry report.key).GivesWay
    (after.table.entry report.key) node report.mode
  elsewhere : ∀ key, (∀ report ∈ reports, report.key ≠ key) →
    after.table.entry key = before.table.entry key
  submitted : ∃ requests : Report → List ReleaseRequest,
    (∀ report ∈ reports, before.Asks node report.key report.mode (requests report)) ∧
      after.pending =
        before.pending ++ if before.sink = .closed then [] else reports.flatMap requests

end Directory

namespace Grants

variable {node : NodeId} {before after : Directory} {reports : List Report}

/-- Of several keys each gives way to its own grant, whatever else is granted. -/
theorem givesWay (grants : Grants node before reports after)
    (distinct : (reports.map (·.key)).Nodup) :
    ∀ report ∈ reports, (before.table.entry report.key).GivesWay
      (after.table.entry report.key) node report.mode := by
  induction grants with
  | nil => exact nofun
  | @cons directory later key mode report rest died live told following ih =>
      rw [List.map_cons, List.nodup_cons, told.key] at distinct
      have apart : ∀ other ∈ rest, other.key ≠ key :=
        fun other among same => distinct.1 (same ▸ List.mem_map_of_mem among)
      intro other among
      rcases List.mem_cons.mp among with rfl | among
      · rw [told.key, told.mode, following.entry_of_not_reported apart, Directory.entry_grant,
          if_pos rfl]
        exact Entry.givesWay_grant _ node mode
      · have gives := ih distinct.2 other among
        rw [Directory.entry_grant, if_neg (apart other among)] at gives
        exact gives

/-- Each key's requests are those that its own grant makes. -/
theorem pending_eq (grants : Grants node before reports after)
    (distinct : (reports.map (·.key)).Nodup) :
    after.pending = before.pending ++ if before.sink = .closed then [] else
      reports.flatMap fun report => before.requests node report.key report.mode := by
  induction grants with
  | nil directory died => cases sink : directory.sink <;> simp [Directory.bury]
  | @cons directory later key mode report rest died live told following ih =>
      rw [List.map_cons, List.nodup_cons, told.key] at distinct
      -- The later grants are of other keys, so they ask the same of the directory as it was.
      have unchanged : ∀ other ∈ rest,
          ((directory.bury died).grant node key mode).2.requests node other.key other.mode =
            directory.requests node other.key other.mode := by
        intro other among
        have apart : other.key ≠ key :=
          fun same => distinct.1 (same ▸ List.mem_map_of_mem among)
        rw [Directory.requests, Directory.entry_grant, if_neg apart]
        rfl
      rw [ih distinct.2, Directory.pending_grant_eq, Directory.sink_grant, List.flatMap_cons,
        told.key, told.mode, List.flatMap_def, List.map_congr_left unchanged, ← List.flatMap_def,
        List.append_assoc]
      change directory.pending ++
        ((if directory.sink = .closed then [] else directory.requests node key mode) ++
          if directory.sink = .closed then [] else _) = _
      cases directory.sink <;> rfl

theorem granted (grants : Grants node before reports after)
    (distinct : (reports.map (·.key)).Nodup) : Directory.Granted node before reports after where
  distinct := distinct
  entries := grants.givesWay distinct
  elsewhere := fun _ unreported => grants.entry_of_not_reported unreported
  submitted := ⟨_, fun report _ => before.asks_requests node report.key report.mode,
    grants.pending_eq distinct⟩

end Grants

/-! ### The requests for access -/

/-- A store in which the next bound name after a name comes after it. -/
def Backing.Advances (σ : Type) [Backing σ] : Prop :=
  ∀ (name : String) (store : σ) (found : String) (oid : ObjectId),
    (Backing.nextBinding (some name) store).1.outcome = .ok (some (found, oid)) → name < found

namespace Action

variable {σ α β : Type} {node : NodeId}

/-- Whatever the operation yields satisfies `answer`. -/
def Returns (action : Action σ α) (answer : α → Prop) : Prop :=
  ∀ world result, (action.perform world).1 = .ok result → answer result

theorem Returns.bind {first : Action σ α} {next : α → Action σ β} {between : α → Prop}
    {answer : β → Prop} (returns : Returns first between)
    (continues : ∀ result, between result → Returns (next result) answer) :
    Returns (first >>= next) answer := by
  intro world result performed
  have before := returns world
  rw [perform_bind] at performed
  rcases ran : first.perform world with ⟨outcome, later⟩
  rw [ran] at before performed
  cases outcome with
  | ok passed => exact continues passed (before passed rfl) later result performed
  | error cause => cases performed

/-- What comes before need not be looked at. -/
theorem Returns.after {next : α → Action σ β} {answer : β → Prop}
    (returns : ∀ result, Returns (next result) answer) (first : Action σ α) :
    Returns (first >>= next) answer :=
  have anything : Returns first fun _ => True := fun _ _ _ => trivial
  anything.bind fun result _ => returns result

theorem returns_pure {answer : α → Prop} {result : α} (holds : answer result) :
    Returns (pure result : Action σ α) answer :=
  fun _ _ same => Except.ok.inj same ▸ holds

/-- An operation that is undone if it fails yields what it yields without that. -/
theorem Returns.tryCatch {action : Action σ α} {answer : α → Prop} (returns : Returns action answer)
    (undo : Action σ β) :
    Returns (tryCatch action fun cause => do let _ ← undo; throw cause) answer := by
  intro world result performed
  have before := returns world
  rw [perform_tryCatch] at performed
  rcases ran : action.perform world with ⟨outcome, later⟩
  rw [ran] at before performed
  cases outcome with
  | ok _ => exact before result performed
  | error cause =>
      dsimp only at performed
      rw [perform_bind] at performed
      split at performed <;> cases performed

variable [Backing σ]

/-- The second part of a removal takes another place than the name. -/
theorem returns_takeNext (advances : Backing.Advances σ) (name : String) :
    Returns (takeNext node name : Action σ _) fun taken => taken.1.nextName ≠ some name := by
  have behind : Returns (lookup (Backing.nextBinding (some name)) : Action σ _) fun next =>
      (Landing.ofNext next).nextName ≠ some name := by
    intro world next found same
    cases next with
    | none => cases same
    | some binding =>
        obtain ⟨following, oid⟩ := binding
        cases same
        rw [perform_lookup] at found
        cases looked : (Backing.nextBinding (some name) world.store).1.outcome with
        | error cause =>
            rw [looked] at found
            cases found
        | ok next =>
            rw [looked] at found
            cases found
            exact String.lt_irrefl _ (advances _ world.store _ oid looked)
  refine behind.bind fun next apart => ?_
  refine .after (fun conflicts => ?_) _
  exact returns_pure apart

theorem returns_getBindingForRemove (advances : Backing.Advances σ) (name : String) :
    Returns (getBindingForRemove node name : Action σ _)
      fun result => result.nextName ≠ some name := by
  refine .after (fun _ => .after ?_ _) _
  rintro (_ | oid)
  · exact (returns_takeNext advances name).bind fun _ apart => returns_pure apart
  · refine .after (fun _ => ?_) _
    exact ((returns_takeNext advances name).tryCatch _).bind fun _ apart => returns_pure apart

/-- The keys that the answer to a request for access reports are distinct. -/
theorem distinct_reports (advances : Backing.Advances σ) {what : Access} {world later : World σ}
    {result : what.Result} (performed : (what.action node).perform world = (.ok result, later)) :
    ((what.reports result).map (·.key)).Nodup := by
  cases what with
  | getObject | getObjectForUpdate | nextObjectId =>
      cases result <;> simp [Access.reports]
  | getBindingForRemove name =>
      have apart := returns_getBindingForRemove advances name world result
        (congrArg Prod.fst performed)
      have places : BindingKey.name name ≠ .ofNext result.nextName := by
        cases next : result.nextName with
        | none => exact nofun
        | some found => simpa [BindingKey.ofNext, next, eq_comm] using apart
      rw [Access.reports]
      cases result.found with
      | true => simpa [Conflicts.report] using places
      | false => simp
  | _ => exact List.pairwise_singleton _ _

/-- A removal that succeeds has taken its name exactly if the name is bound. -/
theorem found_of_removal {name : String} {world later : World σ} {result : BindingRemoval}
    (performed : (getBindingForRemove node name).perform world = (.ok result, later)) :
    result.found = true ↔
      ∃ oid, (Backing.binding name world.store).1.outcome = .ok (some oid) := by
  rw [getBindingForRemove, perform_bind, perform_requireLive, Registry.check] at performed
  cases live : world.directory.registry.isLive node with
  | false =>
      rw [live] at performed
      cases performed
  | true =>
      rw [live, if_pos rfl] at performed
      dsimp only at performed
      rw [perform_bind, perform_lookup] at performed
      cases looked : (Backing.binding name world.store).1.outcome with
      | error cause =>
          rw [looked] at performed
          cases performed
      | ok bound =>
          rw [looked, mapError_ok] at performed
          cases bound with
          | none =>
              have unbound : Returns (do
                  let taken ← takeNext node name
                  return ⟨false, taken.1.nextName, noObject, {}, taken.1.oid, taken.2⟩ :
                    Action σ BindingRemoval) fun result => result.found = false := by
                refine .after (fun _ => ?_) _
                exact returns_pure rfl
              have absent := unbound _ result (congrArg Prod.fst performed)
              simp [absent]
          | some oid =>
              have found : Returns (do
                  let conflicts ← grant node (.binding (.name name)) .write
                  let taken ← tryCatch (takeNext node name) fun cause => do
                    let _ ← release node (.binding (.name name))
                    throw cause
                  return ⟨true, taken.1.nextName, oid, conflicts, taken.1.oid, taken.2⟩ :
                    Action σ BindingRemoval) fun result => result.found = true := by
                refine .after (fun _ => .after (fun _ => ?_) _) _
                exact returns_pure rfl
              have present := found _ result (congrArg Prod.fst performed)
              simp [present]

/-- Two keys are reported exactly by the removal of a bound name. -/
theorem length_reports_eq_two_iff {what : Access} {world later : World σ} {result : what.Result}
    (performed : (what.action node).perform world = (.ok result, later)) :
    (what.reports result).length = 2 ↔ ∃ name oid, what = .getBindingForRemove name ∧
      (Backing.binding name world.store).1.outcome = .ok (some oid) := by
  cases what with
  | getObject | getObjectForUpdate | nextObjectId =>
      cases result <;> simp [Access.reports]
  | getBindingForRemove name =>
      have bound := found_of_removal performed
      rw [Access.reports]
      cases found : result.found with
      | true =>
          rw [found] at bound
          obtain ⟨oid, looked⟩ := bound.mp rfl
          simp [looked]
      | false =>
          rw [found] at bound
          simp [← bound]
  | _ => simp [Access.reports]

omit [Backing σ] in
/-- Of the living exactly the readers of an object can upgrade. -/
theorem upgradeObject_succeeds_iff {oid : ObjectId} {world : World σ} (acceptable : 0 ≤ oid)
    (live : world.directory.registry.isLive node = true) :
    (∃ downgrade later,
      (upgradeObject node oid : Action σ Bool).perform world = (.ok downgrade, later)) ↔
      world.directory.table.holder (.object oid) node = some .read := by
  cases upgraded : world.directory.upgrade node (.object oid) with
  | none =>
      have refused : (upgradeObject node oid : Action σ Bool).perform world =
          (.error (.upgradeWithoutRead node (.object oid)), world) := by
        simp only [upgradeObject, perform_bind, perform_requireArgument, acceptable, decide_true,
          if_true, perform_requireLive, Registry.check, live, perform_upgrade_of_live live,
          upgraded]
      rw [refused]
      refine iff_of_false (by rintro ⟨_, _, ⟨⟩⟩) fun reads => ?_
      rw [Table.holder_eq, Entry.holder] at reads
      simp [Directory.upgrade, Table.upgrade_eq, Entry.upgrade, reads] at upgraded
  | some outcome =>
      have granted : (upgradeObject node oid : Action σ Bool).perform world =
          (.ok outcome.1.downgrade, { world with directory := outcome.2 }) := by
        simp only [upgradeObject, perform_bind, perform_requireArgument, acceptable, decide_true,
          if_true, perform_requireLive, Registry.check, live, perform_upgrade_of_live live,
          upgraded]
        rfl
      rw [granted]
      exact iff_of_true ⟨_, _, rfl⟩ (Directory.upgrade_eq_some upgraded).1

/-- A request for access that succeeds takes each key that its answer reports from exactly
those that cannot share it, asks each of these to release it, records what it asked, and
leaves every other holding, record and key alone. It reports two keys exactly if it is the
removal of a bound name. A living node can upgrade an object exactly if it reads it. -/
theorem displacement_exact (advances : Backing.Advances σ) (node : NodeId) (world : World σ) :
    (∀ (what : Access) (result : what.Result) (later : World σ),
      (what.action node).perform world = (.ok result, later) →
        Directory.Granted node world.directory (what.reports result) later.directory ∧
        ((what.reports result).length = 2 ↔ ∃ name oid, what = .getBindingForRemove name ∧
          (Backing.binding name world.store).1.outcome = .ok (some oid))) ∧
    ∀ oid, 0 ≤ oid → world.directory.registry.isLive node = true →
      ((∃ downgrade later,
        (upgradeObject node oid : Action σ Bool).perform world = (.ok downgrade, later)) ↔
        world.directory.table.holder (.object oid) node = some .read) := by
  refine ⟨fun what result later performed => ⟨?_, ?_⟩, fun oid acceptable live =>
    upgradeObject_succeeds_iff acceptable live⟩
  · have concludes : Concludes node (what.action node : Action σ what.Result) what.reports :=
      access_concludes what
    have concluded := concludes world
    rw [performed] at concluded
    exact concluded.granted (distinct_reports advances performed)
  · exact length_reports_eq_two_iff performed

end Action

/-! ### A run -/

/-- The next bound name of a store in memory comes behind. -/
theorem Store.advances : Backing.Advances Store := by
  intro name store found oid looked
  have next : store.nextBinding? (some name) = some (found, oid) := Except.ok.inj looked
  have behind := List.find?_some next
  rw [Ordering.isLT_iff_eq_lt] at behind
  exact compareOfLessAndEq_eq_lt.mp behind

/-- Two names are bound and one object is stored. The first name is read by two nodes, one of
which wrote the second name, lost it to the third node, and reads it again beside that one.
The third node reads the object too. -/
def sharedNames : World Store :=
  let stocked : Store :=
    { objects := (∅ : ExtTreeMap ObjectId Bytes).insert 7 [1]
      bindings := ((∅ : ExtTreeMap String ObjectId).insert "a" 5).insert "b" 6 }
  let cluster := (Cluster.start ⟨41000, 41003⟩ .collecting {} stocked ∅).run
    [.request (.registerNode "a"), .request (.registerNode "b"), .request (.registerNode "c"),
      .request (.access 1 (.getBinding "a")), .request (.access 2 (.getBinding "a")),
      .request (.access 2 (.getBindingForUpdate "b")), .request (.access 3 (.getBinding "b")),
      .request (.access 2 (.getBinding "b")), .request (.access 3 (.getObject 7))]
  cluster.2.service.world

/-- The removal of the first name takes both names from all others, among them the node that
is still to drop the second name and is asked only to stop reading it now. -/
theorem displacement_exact_removal :
    Backing.Advances Store ∧
    (∃ answer later, (Action.getBindingForRemove 1 "a").perform sharedNames = (.ok answer, later) ∧
      answer.found = true ∧
      Directory.Granted 1 sharedNames.directory ((Access.getBindingForRemove "a").reports answer)
        later.directory ∧
      later.directory.pending.drop sharedNames.directory.pending.length =
        [⟨2, .binding (.name "a"), .downgrade⟩, ⟨2, .binding (.name "b"), .downgrade⟩,
          ⟨3, .binding (.name "b"), .downgrade⟩] ∧
      later.directory.table.pendingRelease (.binding (.name "b")) 2 = some .evict) ∧
    ∃ downgrade later,
      (Action.upgradeObject 3 7).perform sharedNames = (.ok downgrade, later) := by
  refine ⟨Store.advances, ?removal, ?upgrade⟩
  case removal =>
    have performed : ((Action.getBindingForRemove 1 "a").perform sharedNames).1 =
        .ok ⟨true, some "b", 5, ⟨false, true⟩, 6, ⟨true, true⟩⟩ := by decide +kernel
    have granted := (Action.displacement_exact Store.advances 1 sharedNames).1
      (.getBindingForRemove "a") _ _ (Prod.ext performed rfl)
    exact ⟨_, _, Prod.ext performed rfl, rfl, granted.1, by decide +kernel, by decide +kernel⟩
  case upgrade =>
    have live : sharedNames.directory.registry.isLive 3 = true := by decide +kernel
    have reads : sharedNames.directory.table.holder (.object 7) 3 = some .read := by
      decide +kernel
    exact ((Action.displacement_exact Store.advances 3 sharedNames).2 7 (by decide) live).mpr reads

end CacheDirectory
