/-
Module: CacheDirectory.Proofs.ConflictFlags
Purpose: What a node is told of conflicts when it is granted a key. A flag is set exactly if
  another node had the key before in the mode that the flag is about, or was still to give
  it up; what the node itself had, and what it was itself to give up, never sets one.
Trusted boundary: none
Main exports: Entry.Contested, Entry.flag_grant_forfeit, Report.Exact, Grants.exact,
  Action.conflict_flags_exact
-/
import CacheDirectory.Proofs.Displacement

namespace CacheDirectory

open Std Wire

/-! ### One grant -/

namespace Entry

/-- Some node other than `node` has the key in the mode `held`, or is asked for the release
`kind` and has not acknowledged it. -/
def Contested (entry : Entry) (node : NodeId) (held : Mode) (kind : Release) : Prop :=
  ∃ other, other ≠ node ∧
    (entry.holder other = some held ∨ entry.pendingRelease other = some kind)

/-- A holder that cannot share the key with the requester is asked for what its mode makes
it forfeit. -/
theorem demand_eq_some_forfeit_iff {entry : Entry} {node other : NodeId} {mode held : Mode}
    (conflict : mode = .write ∨ held = .write) :
    entry.demand node mode other = some held.forfeit ↔
      other ≠ node ∧ entry.holder other = some held := by
  rw [demand_eq_some_iff]
  constructor
  · rintro ⟨lost, ⟨holds, distinct, -⟩, same⟩
    obtain rfl : held = lost := by
      revert same
      cases held <;> cases lost <;> decide
    exact ⟨distinct, holds⟩
  · rintro ⟨distinct, holds⟩
    exact ⟨held, ⟨holds, distinct, conflict⟩, rfl⟩

/-- Where every other holder in the mode `held` has to go, the requester is told exactly of
these holders and of those who went before and have not acknowledged it. -/
theorem flag_grant_forfeit {entry : Entry} {node : NodeId} {mode held : Mode}
    (conflict : mode = .write ∨ held = .write) :
    (entry.grant node mode).1.conflicts.flag held.forfeit = true ↔
      entry.Contested node held held.forfeit := by
  simp only [flag_grant_iff, demand_eq_some_forfeit_iff conflict, Contested]
  constructor
  · rintro ⟨other, distinct, recorded | ⟨-, holds⟩⟩
    · exact ⟨other, distinct, .inr recorded⟩
    · exact ⟨other, distinct, .inl holds⟩
  · rintro ⟨other, distinct, holds | recorded⟩
    · exact ⟨other, distinct, .inr ⟨distinct, holds⟩⟩
    · exact ⟨other, distinct, .inl recorded⟩

end Entry

/-! ### What an answer tells -/

/-- The flags that the report passes on to `node` are those of the key as it was. -/
structure Report.Exact (report : Report) (before : Directory) (node : NodeId) : Prop where
  evict : ∀ flag, report.evict = some flag →
    (flag = true ↔ (before.table.entry report.key).Contested node .write .evict)
  downgrade : ∀ flag, report.downgrade = some flag →
    (flag = true ↔ (before.table.entry report.key).Contested node .read .downgrade)

/-- Only a grant of write access sends readers away, so only reports on such grants can
speak of readers. -/
theorem Report.Tells.exact {report : Report} {before : Directory} {node : NodeId}
    (told : report.Tells report.key report.mode (before.grant node report.key report.mode).1)
    (speaks : report.downgrade.isSome = true → report.mode = .write) :
    report.Exact before node := by
  constructor
  case evict =>
    intro flag passed
    have conflict : report.mode = .write ∨ Mode.write = .write := .inr rfl
    rw [← told.evict flag passed]
    exact Entry.flag_grant_forfeit conflict
  case downgrade =>
    intro flag passed
    have conflict : report.mode = .write ∨ Mode.read = .write := .inl (speaks (by rw [passed]; rfl))
    rw [← told.downgrade flag passed]
    exact Entry.flag_grant_forfeit conflict

/-- What is told of several keys is what the grant of each alone would tell. -/
theorem Grants.tells {node : NodeId} {before after : Directory} {reports : List Report}
    (grants : Grants node before reports after) (distinct : (reports.map (·.key)).Nodup) :
    ∀ report ∈ reports,
      report.Tells report.key report.mode (before.grant node report.key report.mode).1 := by
  induction grants with
  | nil => exact nofun
  | @cons directory later key mode report rest died live told following ih =>
      obtain rfl : report.key = key := told.key
      obtain rfl : report.mode = mode := told.mode
      rw [List.map_cons, List.nodup_cons] at distinct
      intro other among
      rcases List.mem_cons.mp among with rfl | among
      · exact told
      · have apart : other.key ≠ report.key :=
          fun same => distinct.1 (same ▸ List.mem_map_of_mem among)
        -- The earlier grant has left the key of the later one alone.
        have unchanged : (((directory.bury died).grant node report.key report.mode).2.grant
            node other.key other.mode).1 = (directory.grant node other.key other.mode).1 := by
          change ((Table.entry _ other.key).grant node other.mode).1.conflicts = _
          rw [Directory.entry_grant, if_neg apart]
          rfl
        rw [← unchanged]
        exact ih distinct.2 other among

/-- An answer speaks of writers to be evicted except after an upgrade, and of readers to be
sent away exactly if the grant was of write access. -/
theorem Wire.Access.flags_of_mem_reports (what : Access) (result : what.Result) :
    ∀ report ∈ what.reports result,
      (report.evict.isSome = true ↔ ∀ oid, what ≠ .upgradeObject oid) ∧
        (report.downgrade.isSome = true ↔ report.mode = .write) := by
  intro report among
  cases what with
  | getObject | getObjectForUpdate | nextObjectId =>
      cases result with
      | none => cases among
      | some =>
          obtain rfl := List.mem_singleton.mp among
          simp [Conflicts.report]
  | getBindingForRemove name =>
      rw [Access.reports] at among
      split at among
      case isTrue =>
        rcases List.mem_cons.mp among with rfl | among
        · simp [Conflicts.report]
        · obtain rfl := List.mem_singleton.mp among
          simp [Conflicts.report]
      case isFalse =>
        obtain rfl := List.mem_singleton.mp among
        simp [Conflicts.report]
  | _ =>
      obtain rfl := List.mem_singleton.mp among
      simp [Conflicts.report]

theorem Grants.exact {node : NodeId} {before after : Directory} {what : Access}
    {result : what.Result} (grants : Grants node before (what.reports result) after)
    (distinct : ((what.reports result).map (·.key)).Nodup) :
    ∀ report ∈ what.reports result, report.Exact before node := by
  intro report among
  have flags := what.flags_of_mem_reports result report among
  exact (grants.tells distinct report among).exact flags.2.mp

/-! ### The requests for access -/

namespace Action

variable {σ : Type} [Backing σ]

/-- A removal of a name that is not bound tells nothing of the name. -/
theorem conflicts_of_unbound {node : NodeId} {name : String} {world later : World σ}
    {result : BindingRemoval}
    (performed : (getBindingForRemove node name).perform world = (.ok result, later))
    (unbound : (Backing.binding name world.store).1.outcome = .ok none) :
    result.conflicts = {} := by
  have silent : Returns (do
      let taken ← takeNext node name
      return ⟨false, taken.1.nextName, noObject, {}, taken.1.oid, taken.2⟩ :
        Action σ BindingRemoval) fun result => result.conflicts = {} := by
    refine .after (fun _ => ?_) _
    exact returns_pure rfl
  rw [getBindingForRemove, perform_bind, perform_requireLive, Registry.check] at performed
  cases live : world.directory.registry.isLive node with
  | false =>
      rw [live] at performed
      cases performed
  | true =>
      rw [live, if_pos rfl] at performed
      dsimp only at performed
      rw [perform_bind, perform_lookup, unbound, mapError_ok] at performed
      exact silent _ result (congrArg Prod.fst performed)

/-- Whatever the key, the store and the state of the directory: of each key that an answer
reports, the flag for evictions is set exactly if another node wrote the key before or was
still to drop it, and the flag for downgrades exactly if another node read it or was still
to stop reading. The first is told of every key except by an upgrade, the second of every
key granted for writing. Of a name that is to be removed and is not bound neither is told. -/
theorem conflict_flags_exact (advances : Backing.Advances σ) (node : NodeId) (world : World σ) :
    (∀ (what : Access) (result : what.Result) (later : World σ),
      (what.action node).perform world = (.ok result, later) →
      ∀ report ∈ what.reports result,
        report.Exact world.directory node ∧
        (report.evict.isSome = true ↔ ∀ oid, what ≠ .upgradeObject oid) ∧
        (report.downgrade.isSome = true ↔ report.mode = .write)) ∧
    ∀ (name : String) (result : BindingRemoval) (later : World σ),
      (getBindingForRemove node name).perform world = (.ok result, later) →
      (Backing.binding name world.store).1.outcome = .ok none → result.conflicts = {} := by
  constructor
  case left =>
    intro what result later performed report among
    have concludes : Concludes node (what.action node : Action σ what.Result) what.reports :=
      access_concludes what
    have grants := concludes world
    rw [performed] at grants
    have exact := Grants.exact grants (distinct_reports advances performed)
    exact ⟨exact report among, what.flags_of_mem_reports result report among⟩
  case right =>
    intro name result later performed unbound
    exact conflicts_of_unbound performed unbound

end Action

/-! ### A run -/

/-- The second node asks to remove the first name. It reads both names itself and has yet to
drop the second one, but is only told that there were other readers. A name that is not bound
it is told nothing of. -/
theorem conflict_flags_own :
    Backing.Advances Store ∧
    (∃ answer later, (Action.getBindingForRemove 2 "a").perform sharedNames = (.ok answer, later) ∧
      answer = ⟨true, some "b", 5, ⟨false, true⟩, 6, ⟨false, true⟩⟩ ∧
      sharedNames.directory.table.pendingRelease (.binding (.name "b")) 2 = some .evict ∧
      ∀ report ∈ (Access.getBindingForRemove "a").reports answer,
        report.Exact sharedNames.directory 2) ∧
    ∃ answer later, (Action.getBindingForRemove 2 "aa").perform sharedNames = (.ok answer, later) ∧
      answer.nextConflicts = ⟨false, true⟩ ∧ answer.conflicts = {} := by
  obtain ⟨exact, silent⟩ := Action.conflict_flags_exact Store.advances 2 sharedNames
  refine ⟨Store.advances, ?bound, ?unbound⟩
  case bound =>
    have performed : ((Action.getBindingForRemove 2 "a").perform sharedNames).1 =
        .ok ⟨true, some "b", 5, ⟨false, true⟩, 6, ⟨false, true⟩⟩ := by decide +kernel
    have told := exact (.getBindingForRemove "a") _ _ (Prod.ext performed rfl)
    exact ⟨_, _, Prod.ext performed rfl, rfl, by decide +kernel,
      fun report among => (told report among).1⟩
  case unbound =>
    have performed : ((Action.getBindingForRemove 2 "aa").perform sharedNames).1 =
        .ok ⟨false, some "b", noObject, {}, 6, ⟨false, true⟩⟩ := by decide +kernel
    exact ⟨_, _, Prod.ext performed rfl, rfl,
      silent "aa" _ _ (Prod.ext performed rfl) (by decide +kernel)⟩

end CacheDirectory
