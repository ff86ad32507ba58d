/-
Module: CacheDirectory.Proofs.Repetition
Purpose: A request for access that is made twice. The second time the node has what it asks
  for and nobody is in its way any more, so nothing changes and nobody is asked to release
  anything. Whoever was in its way the first time is still told of, as a record now.
Trusted boundary: none
Main exports: Conflicts.Recur, Entry.Settled, Entry.Repeats, Directory.grant_of_settled,
  Grants.repeats, Action.Recurs, Access.Repeats, Action.repetition_harmless
-/
import CacheDirectory.Proofs.ConflictFlags
import CacheDirectory.Proofs.Registrations

namespace CacheDirectory

open Std Wire

/-! ### What is told again -/

/-- What is told of conflicts the second time, as compared to the first: the same of
evictions, and not nothing where there was something before. A reader that was sent away
may have to drop its copy anyway, and is then told of as such. -/
structure Conflicts.Recur (first again : Conflicts) : Prop where
  evict : again.evict = first.evict
  remains : first.evict = true ∨ first.downgrade = true →
    again.evict = true ∨ again.downgrade = true

theorem Conflicts.Recur.refl (conflicts : Conflicts) : conflicts.Recur conflicts :=
  ⟨rfl, id⟩

theorem Conflicts.Recur.trans {first second third : Conflicts} (early : first.Recur second)
    (late : second.Recur third) : first.Recur third :=
  ⟨late.evict.trans early.evict, fun told => late.remains (early.remains told)⟩

theorem Conflicts.exists_flag_iff {conflicts : Conflicts} :
    (∃ kind, conflicts.flag kind = true) ↔
      conflicts.evict = true ∨ conflicts.downgrade = true := by
  constructor
  · rintro ⟨_ | _, told⟩
    · exact .inr told
    · exact .inl told
  · rintro (told | told)
    · exact ⟨.evict, told⟩
    · exact ⟨.downgrade, told⟩

theorem Mode.max_eq_left_of_le {held mode : Mode} (strong : mode ≤ held) : max held mode = held := by
  revert strong
  cases held <;> cases mode <;> decide

/-! ### A key that is granted again -/

namespace Entry

variable {entry : Entry} {node other : NodeId} {mode granted : Mode} {told : Conflicts}

/-- The node has the key at least in this mode, and nobody has it beside the node who cannot
share it. -/
structure Settled (entry : Entry) (node : NodeId) (mode : Mode) : Prop where
  holds : ∃ held, entry.holder node = some held ∧ mode ≤ held
  clear : ∀ other, entry.demand node mode other = none

/-- Once a node has been granted a key, a further grant to it displaces no more than before,
and none of those that are gone. -/
theorem demand_grant (entry : Entry) (node : NodeId) (granted mode : Mode) (other : NodeId) :
    (entry.grant node granted).2.demand node mode other =
      if (entry.demand node granted other).isSome then none else entry.demand node mode other := by
  by_cases same : other = node
  · rw [same]
    simp only [demand_self, ite_self]
  · rw [demand_eq, holder_grant, if_neg same]
    split
    case isTrue => rfl
    case isFalse => rw [demand_eq]

theorem settled_grant (entry : Entry) (node : NodeId) (mode : Mode) :
    (entry.grant node mode).2.Settled node mode where
  holds := entry.holder_grant_self node mode
  clear := by
    intro other
    rw [demand_grant]
    cases entry.demand node mode other <;> rfl

theorem Settled.grant (settled : entry.Settled node mode) (granted : Mode) :
    (entry.grant node granted).2.Settled node mode where
  holds := by
    obtain ⟨held, holds, strong⟩ := settled.holds
    refine ⟨max held granted, ?_, Mode.le_trans strong (Mode.le_max_left held granted)⟩
    rw [holder_grant, if_pos rfl, holds]
    rfl
  clear := by
    intro other
    rw [demand_grant, settled.clear, ite_self]

/-- Where all is settled, a grant changes nothing. -/
theorem Settled.grant_eq (settled : entry.Settled node mode) : (entry.grant node mode).2 = entry := by
  apply ext_of_lookups
  · intro other
    rw [holder_grant, settled.clear]
    split
    case isTrue same =>
      obtain ⟨held, holds, strong⟩ := settled.holds
      rw [same, holds, Option.getD_some, Mode.max_eq_left_of_le strong]
    case isFalse => rfl
  · intro other
    rw [pendingRelease_grant, settled.clear]

theorem Settled.releases_eq (settled : entry.Settled node mode) :
    (entry.grant node mode).1.releases = [] := by
  rw [List.eq_nil_iff_forall_not_mem]
  rintro ⟨other, kind⟩ among
  rw [mem_releases_grant, settled.clear] at among
  cases among

/-- What others have to drop, or write, is the same after a grant: those that are displaced
are recorded. -/
theorem contested_grant (entry : Entry) (node : NodeId) (granted : Mode) :
    (entry.grant node granted).2.Contested node .write .evict ↔
      entry.Contested node .write .evict := by
  have displaced := entry.givesWay_grant node granted
  constructor
  · rintro ⟨other, distinct, writes | recorded⟩
    · rcases displaced.kept other distinct with lost | same
      · rw [lost] at writes
        cases writes
      · exact ⟨other, distinct, .inl (same ▸ writes)⟩
    · rw [pendingRelease_grant] at recorded
      split at recorded
      case h_1 => exact ⟨other, distinct, .inr recorded⟩
      case h_2 kind demanded =>
        obtain ⟨held, ⟨holds, -, -⟩, rfl⟩ := demand_eq_some_iff.mp demanded
        have strong : Release.evict ≤ Release.merge (entry.pendingRelease other) held.forfeit := by
          rw [Option.some.inj recorded]
          exact Release.le_refl _
        rcases (Release.le_merge_iff _ _ _).mp strong with ⟨kind, before, evicts⟩ | evicts
        · cases kind with
          | downgrade => cases evicts
          | evict => exact ⟨other, distinct, .inr before⟩
        · cases held with
          | read => cases evicts
          | write => exact ⟨other, distinct, .inl holds⟩
  · rintro ⟨other, distinct, writes | before⟩
    · have loses : entry.Loses node granted other .write := ⟨writes, distinct, .inr rfl⟩
      refine ⟨other, distinct, .inr ?_⟩
      rw [displaced.recorded other .write loses, Release.merge]
      cases (entry.pendingRelease other).getD Mode.write.forfeit <;> rfl
    · refine ⟨other, distinct, .inr ?_⟩
      rw [pendingRelease_grant]
      split
      case h_1 => exact before
      case h_2 => rw [before]; rfl

/-- Some other node is to be displaced, or has been and has not acknowledged it. -/
def Obstructed (entry : Entry) (node : NodeId) (mode : Mode) : Prop :=
  ∃ other, other ≠ node ∧
    ((entry.pendingRelease other).isSome ∨ (entry.demand node mode other).isSome)

/-- The requester is told of some conflict exactly if there is one. -/
theorem obstructed_iff : entry.Obstructed node mode ↔
    (entry.grant node mode).1.conflicts.evict = true ∨
      (entry.grant node mode).1.conflicts.downgrade = true := by
  rw [← Conflicts.exists_flag_iff]
  simp only [flag_grant_iff, Obstructed, Option.isSome_iff_exists]
  constructor
  · rintro ⟨other, distinct, ⟨kind, recorded⟩ | ⟨kind, demanded⟩⟩
    · exact ⟨kind, other, distinct, .inl recorded⟩
    · exact ⟨kind, other, distinct, .inr demanded⟩
  · rintro ⟨kind, other, distinct, recorded | demanded⟩
    · exact ⟨other, distinct, .inl ⟨kind, recorded⟩⟩
    · exact ⟨other, distinct, .inr ⟨kind, demanded⟩⟩

/-- A conflict stays one, if only as a record. -/
theorem Obstructed.grant (obstructed : entry.Obstructed node mode) (granted : Mode) :
    (entry.grant node granted).2.Obstructed node mode := by
  obtain ⟨other, distinct, conflict⟩ := obstructed
  refine ⟨other, distinct, ?_⟩
  rw [pendingRelease_grant, demand_grant]
  cases entry.demand node granted other with
  | none => exact conflict
  | some kind => exact .inl rfl

/-- Whatever is granted to the node in between, of the same conflicts it is told again. -/
theorem recur_grant (entry : Entry) (node : NodeId) (granted mode : Mode) :
    (entry.grant node mode).1.conflicts.Recur
      ((entry.grant node granted).2.grant node mode).1.conflicts where
  evict := by
    have flags (entry : Entry) : (entry.grant node mode).1.conflicts.evict = true ↔
        entry.Contested node .write .evict := flag_grant_forfeit (.inr rfl)
    rw [Bool.eq_iff_iff, flags, flags, contested_grant]
  remains := by
    rw [← obstructed_iff, ← obstructed_iff]
    exact fun obstructed => obstructed.grant granted

/-- The key is settled, and of the conflicts that the node was told when it was granted it, it
would be told again. -/
structure Repeats (entry : Entry) (node : NodeId) (mode : Mode) (told : Conflicts) : Prop where
  settled : entry.Settled node mode
  recur : told.Recur (entry.grant node mode).1.conflicts

theorem repeats_grant (entry : Entry) (node : NodeId) (mode : Mode) :
    (entry.grant node mode).2.Repeats node mode (entry.grant node mode).1.conflicts :=
  ⟨entry.settled_grant node mode, entry.recur_grant node mode mode⟩

theorem Repeats.grant (repeats : entry.Repeats node mode told) (granted : Mode) :
    (entry.grant node granted).2.Repeats node mode told :=
  ⟨repeats.settled.grant granted, repeats.recur.trans (entry.recur_grant node granted mode)⟩

end Entry

/-! ### A directory that is asked again -/

/-- To record a key that somebody holds as it is changes nothing. -/
theorem Table.write_entry {table : Table} {key : Key} {node : NodeId} {held : Mode}
    (holds : (table.entry key).holder node = some held) :
    table.write key (table.entry key) = table := by
  have occupied : ¬ (table.entry key).isEmpty = true := by
    intro empty
    rw [Entry.eq_empty_of_isEmpty empty, Entry.holder_empty] at holds
    cases holds
  apply ext_getElem?
  intro other
  rw [getElem?_write]
  split
  case isTrue same => rw [same, getElem?_of_not_isEmpty occupied]
  case isFalse => rfl

namespace Directory

variable {directory : Directory} {node : NodeId} {key : Key} {mode : Mode}

/-- Where nobody has to go, nobody is asked. -/
theorem submit_nil (directory : Directory) (key : Key) : directory.submit key [] = directory := by
  obtain ⟨registry, table, pending, sink⟩ := directory
  cases sink with
  | closed => rfl
  | collecting => simp only [submit, List.map_nil, List.append_nil]

/-- Where all is settled, a grant changes nothing and asks nobody. -/
theorem grant_of_settled (settled : (directory.table.entry key).Settled node mode) :
    (directory.grant node key mode).2 = directory := by
  obtain ⟨held, holds, -⟩ := settled.holds
  have table : (directory.table.grant node key mode).2 = directory.table := by
    change directory.table.write key ((directory.table.entry key).grant node mode).2 = _
    rw [settled.grant_eq]
    exact Table.write_entry holds
  have releases : (directory.table.grant node key mode).1.releases = [] := settled.releases_eq
  change ({ directory with table := (directory.table.grant node key mode).2 } : Directory).submit key
    (directory.table.grant node key mode).1.releases = directory
  rw [table, releases]
  exact directory.submit_nil key

/-- Those that are dead need not die again. -/
theorem bury_of_dead {died : List NodeId}
    (dead : ∀ node ∈ died, directory.registry.isLive node = false) :
    directory.bury died = directory := by
  have same : directory.registry.markAllDead died = directory.registry := by
    induction died with
    | nil => rfl
    | cons victim rest ih =>
        rw [Registry.markAllDead, List.foldl_cons,
          Registry.markDead_of_not_live (dead victim List.mem_cons_self)]
        exact ih fun node among => dead node (List.mem_cons_of_mem victim among)
  rw [bury, same]

end Directory

namespace Grants

variable {node : NodeId} {before between after : Directory} {reports more : List Report}

theorem trans (early : Grants node before reports between) (late : Grants node between more after) :
    Grants node before (reports ++ more) after := by
  induction early with
  | nil directory died => exact late.of_bury
  | cons died live told following ih => exact .cons died live told (ih late)

/-- Grants bring nobody back to life. -/
theorem live (grants : Grants node before reports after) {other : NodeId}
    (live : after.registry.isLive other = true) : before.registry.isLive other = true := by
  induction grants with
  | nil => exact Registry.isLive_of_isLive_markAllDead live
  | cons died _ _ _ ih =>
      have alive := ih live
      rw [Directory.registry_grant] at alive
      exact Registry.isLive_of_isLive_markAllDead alive

/-- Whatever else is granted to the node, a key that it was granted stays settled. -/
theorem repeats (grants : Grants node before reports after) {key : Key} {mode : Mode}
    {told : Conflicts} (repeats : (before.table.entry key).Repeats node mode told) :
    (after.table.entry key).Repeats node mode told := by
  induction grants with
  | nil => exact repeats
  | @cons directory later other granted report rest died _ _ _ ih =>
      refine ih ?_
      rw [Directory.entry_grant]
      split
      case isTrue same =>
        subst same
        exact repeats.grant granted
      case isFalse => exact repeats

end Grants

/-! ### Operations that are performed again -/

namespace Action

variable {σ α β : Type} {node : NodeId}

/-- Where `action` succeeds it only makes grants to the node; and from the directory after it,
whatever else the node has been granted since, and the store as it was before it, `again`
succeeds too, changes nothing in the directory, and yields a result that corresponds. -/
structure Recurs (node : NodeId) (action again : Action σ α) (same : α → α → Prop) : Prop where
  grants {world later : World σ} {result : α} (performed : action.perform world = (.ok result, later)) :
    ∃ reports, Grants node world.directory reports later.directory
  repeats {world later : World σ} {result : α} (performed : action.perform world = (.ok result, later))
    {reports : List Report} {final : Directory} (since : Grants node later.directory reports final)
    (live : final.registry.isLive node = true) :
    ∃ repeated, again.perform ⟨final, world.store⟩ = (.ok repeated, ⟨final, later.store⟩) ∧
      same result repeated

theorem recurs_pure {first again : α} {same : α → α → Prop} (corresponds : same first again) :
    Recurs node (pure first : Action σ α) (pure again) same where
  grants := by
    rintro world _ _ ⟨⟩
    exact ⟨[], .nil world.directory []⟩
  repeats := by
    rintro world _ _ ⟨⟩ _ final _ _
    exact ⟨again, rfl, corresponds⟩

/-- What the first part was granted is still settled after the second. -/
theorem Recurs.bind {first again : Action σ α} {next further : α → Action σ β}
    {same : α → α → Prop} {final : β → β → Prop} (recurs : Recurs node first again same)
    (refl : ∀ result, same result result)
    (continues : ∀ one other, same one other → Recurs node (next one) (further other) final) :
    Recurs node (first >>= next) (again >>= further) final := by
  -- Both parts have succeeded if the whole has.
  have parts {world later : World σ} {result : β}
      (performed : (first >>= next).perform world = (.ok result, later)) :
      ∃ one between, first.perform world = (.ok one, between) ∧
        (next one).perform between = (.ok result, later) := by
    rw [perform_bind] at performed
    rcases ran : first.perform world with ⟨outcome, between⟩
    rw [ran] at performed
    cases outcome with
    | ok one => exact ⟨one, between, rfl, performed⟩
    | error cause => cases performed
  constructor
  case grants =>
    intro world later result performed
    obtain ⟨one, between, ran, ended⟩ := parts performed
    obtain ⟨reports, early⟩ := recurs.grants ran
    obtain ⟨more, late⟩ := (continues one one (refl one)).grants ended
    exact ⟨_, early.trans late⟩
  case repeats =>
    intro world later result performed reports directory since live
    obtain ⟨one, between, ran, ended⟩ := parts performed
    obtain ⟨more, late⟩ := (continues one one (refl one)).grants ended
    obtain ⟨other, reran, corresponds⟩ := recurs.repeats ran (late.trans since) live
    obtain ⟨repeated, reended, results⟩ := (continues one other corresponds).repeats ended since live
    refine ⟨repeated, ?_, results⟩
    rw [perform_bind, reran]
    exact reended

theorem Recurs.map {first again : Action σ α} {answer : α → β} {same : α → α → Prop}
    {final : β → β → Prop} (recurs : Recurs node first again same)
    (refl : ∀ result, same result result)
    (corresponds : ∀ one other, same one other → final (answer one) (answer other)) :
    Recurs node (do return answer (← first)) (do return answer (← again)) final :=
  recurs.bind refl fun one other results => recurs_pure (corresponds one other results)

/-- An operation that is undone if it fails has not been undone if it has succeeded. -/
theorem Recurs.tryCatch {first again : Action σ α} {same : α → α → Prop}
    (recurs : Recurs node first again same) (undo : Action σ β) :
    Recurs node (tryCatch first fun cause => do let _ ← undo; throw cause)
      (tryCatch again fun cause => do let _ ← undo; throw cause) same := by
  have succeeded {world later : World σ} {result : α}
      (performed : (MonadExcept.tryCatch first fun cause => do let _ ← undo; throw cause).perform
        world = (.ok result, later)) : first.perform world = (.ok result, later) := by
    rw [perform_tryCatch] at performed
    rcases ran : first.perform world with ⟨outcome, between⟩
    rw [ran] at performed
    cases outcome with
    | ok one => exact performed
    | error cause =>
        dsimp only at performed
        rw [perform_bind] at performed
        split at performed <;> cases performed
  constructor
  case grants =>
    intro world later result performed
    exact recurs.grants (succeeded performed)
  case repeats =>
    intro world later result performed reports directory since live
    obtain ⟨repeated, reran, results⟩ := recurs.repeats (succeeded performed) since live
    refine ⟨repeated, ?_, results⟩
    rw [perform_tryCatch, reran]

theorem recurs_requireLive :
    Recurs node (requireLive node : Action σ Unit) (requireLive node) Eq where
  grants := by
    intro world later result performed
    rw [perform_requireLive] at performed
    obtain ⟨-, rfl⟩ := Prod.mk.inj performed
    exact ⟨[], .nil world.directory []⟩
  repeats := by
    intro world later result performed reports final since live
    rw [perform_requireLive] at performed
    obtain ⟨-, rfl⟩ := Prod.mk.inj performed
    refine ⟨(), ?_, rfl⟩
    rw [perform_requireLive, Registry.check, if_pos live]

theorem recurs_requireArgument (acceptable : Bool) (cause : ArgumentError) :
    Recurs node (requireArgument acceptable cause : Action σ Unit)
      (requireArgument acceptable cause) Eq where
  grants := by
    intro world later result performed
    rw [perform_requireArgument] at performed
    obtain ⟨-, rfl⟩ := Prod.mk.inj performed
    exact ⟨[], .nil world.directory []⟩
  repeats := by
    intro world later result performed reports final since live
    rw [perform_requireArgument] at performed
    obtain ⟨accepted, rfl⟩ := Prod.mk.inj performed
    refine ⟨(), ?_, rfl⟩
    rw [perform_requireArgument, accepted]

/-- The store answers as before, and those that die of it are dead already. -/
theorem recurs_lookup (read : σ → Reading α × σ) :
    Recurs node (lookup read : Action σ α) (lookup read) Eq where
  grants := by
    intro world later result performed
    rw [perform_lookup] at performed
    obtain ⟨-, rfl⟩ := Prod.mk.inj performed
    exact ⟨[], .nil world.directory _⟩
  repeats := by
    intro world later result performed reports final since live
    rw [perform_lookup] at performed
    obtain ⟨answered, rfl⟩ := Prod.mk.inj performed
    have dead : ∀ victim ∈ (read world.store).1.died, final.registry.isLive victim = false := by
      intro victim among
      rw [Bool.eq_false_iff]
      intro alive
      exact (Registry.isLive_markAllDead.mp (since.live alive)).2 among
    refine ⟨result, ?_, rfl⟩
    rw [perform_lookup, answered, Directory.bury_of_dead dead]

theorem recurs_grant (key : Key) (mode : Mode) :
    Recurs node (grant node key mode : Action σ Conflicts) (grant node key mode)
      Conflicts.Recur where
  grants := by
    intro world later result performed
    rw [perform_grant] at performed
    split at performed
    case isFalse => cases performed
    case isTrue live =>
      obtain ⟨-, rfl⟩ := Prod.mk.inj performed
      exact ⟨_, .cons [] live (Conflicts.report_tells _ _ _) (.nil _ [])⟩
  repeats := by
    intro world later result performed reports final since live
    rw [perform_grant] at performed
    split at performed
    case isFalse => cases performed
    case isTrue =>
      obtain ⟨same, rfl⟩ := Prod.mk.inj performed
      obtain rfl := Except.ok.inj same
      have repeats : (final.table.entry key).Repeats node mode
          (world.directory.grant node key mode).1 := by
        refine since.repeats ?_
        rw [Directory.entry_grant, if_pos rfl]
        exact Entry.repeats_grant _ node mode
      refine ⟨(final.grant node key mode).1, ?_, repeats.recur⟩
      rw [perform_grant, if_pos live, Directory.grant_of_settled repeats.settled]

end Action

/-! ### The requests for access -/

/-- An answer to a request that is made again, as compared to the first answer. Where only
evictions are told of it is the same; where both kinds of conflicts are, all but these is the
same and the conflicts recur. -/
def Wire.Access.Repeats : (what : Access) → what.Result → what.Result → Prop
  | .getObjectForUpdate _, first, again =>
    first.Rel (fun one other =>
      other.contents = one.contents ∧ one.conflicts.Recur other.conflicts) again
  | .getBindingForUpdate _, first, again =>
    again = { first with conflicts := again.conflicts } ∧ first.conflicts.Recur again.conflicts
  | .getBindingForRemove _, first, again =>
    again = { first with conflicts := again.conflicts, nextConflicts := again.nextConflicts } ∧
      first.conflicts.Recur again.conflicts ∧ first.nextConflicts.Recur again.nextConflicts
  | _, first, again => again = first

namespace Action

variable {σ : Type} [Backing σ] {node : NodeId}

/-- What is taken again is the same, and its conflicts recur. -/
def TakenAgain {α : Type} (first again : α × Conflicts) : Prop :=
  again.1 = first.1 ∧ first.2.Recur again.2

theorem TakenAgain.refl {α : Type} (taken : α × Conflicts) : TakenAgain taken taken :=
  ⟨rfl, .refl taken.2⟩

theorem recurs_takeObject (oid : ObjectId) (mode : Mode) :
    Recurs node (takeObject node oid mode : Action σ _) (takeObject node oid mode)
      (Option.Rel TakenAgain) := by
  apply (recurs_requireArgument _ _).bind fun _ => rfl
  intro _ _ _
  apply recurs_requireLive.bind fun _ => rfl
  intro _ _ _
  apply (recurs_lookup _).bind fun _ => rfl
  rintro found _ rfl
  cases found with
  | none => exact recurs_pure .none
  | some contents =>
      exact (recurs_grant _ mode).map .refl fun _ _ recur => .some ⟨rfl, recur⟩

theorem takenAgain_refl (taken : Option (Bytes × Conflicts)) :
    taken.Rel TakenAgain taken := by
  cases taken with
  | none => exact .none
  | some found => exact .some (.refl found)

theorem recurs_resolve (name : String) :
    Recurs node (resolve name : Action σ Landing) (resolve name) Eq := by
  apply (recurs_lookup _).bind fun _ => rfl
  rintro bound _ rfl
  cases bound with
  | some oid => exact recurs_pure rfl
  | none =>
      apply (recurs_lookup _).bind fun _ => rfl
      rintro next _ rfl
      exact recurs_pure rfl

theorem recurs_takeNext (name : String) :
    Recurs node (takeNext node name : Action σ _) (takeNext node name) TakenAgain := by
  apply (recurs_lookup _).bind fun _ => rfl
  rintro next _ rfl
  exact (recurs_grant _ .write).map .refl fun _ _ recur => ⟨rfl, recur⟩

theorem recurs_getBindingForRemove (name : String) :
    Recurs node (getBindingForRemove node name : Action σ _) (getBindingForRemove node name)
      (Access.Repeats (.getBindingForRemove name)) := by
  apply recurs_requireLive.bind fun _ => rfl
  intro _ _ _
  apply (recurs_lookup _).bind fun _ => rfl
  rintro bound _ rfl
  cases bound with
  | none =>
      refine (recurs_takeNext name).map .refl ?_
      rintro ⟨landing, _⟩ ⟨_, _⟩ ⟨rfl, next⟩
      exact ⟨rfl, .refl {}, next⟩
  | some oid =>
      apply (recurs_grant _ .write).bind .refl
      intro one other target
      have taken : Recurs node (takeNext node name : Action σ _) _ _ := recurs_takeNext name
      apply (taken.tryCatch (release node (.binding (.name name)))).bind .refl
      rintro ⟨landing, _⟩ ⟨_, _⟩ ⟨rfl, next⟩
      exact recurs_pure ⟨rfl, target, next⟩

/-- Every request for access but the upgrade can be made again. -/
theorem access_recurs {what : Access} (repeatable : ∀ oid, what ≠ .upgradeObject oid) :
    Recurs node (what.action node : Action σ what.Result) (what.action node) what.Repeats := by
  cases what with
  | getObject oid =>
      refine (recurs_takeObject oid .read).map takenAgain_refl ?_
      rintro _ _ (⟨same, recur⟩ | _)
      · simp only [Access.Repeats, Option.map_some, same, recur.evict]
      · rfl
  | getObjectForUpdate oid =>
      refine (recurs_takeObject oid .write).map takenAgain_refl ?_
      rintro _ _ (⟨same, recur⟩ | _)
      · exact .some ⟨same, recur⟩
      · exact .none
  | upgradeObject oid => exact absurd rfl (repeatable oid)
  | nextObjectId after =>
      apply (recurs_requireArgument _ _).bind fun _ => rfl
      intro _ _ _
      apply recurs_requireLive.bind fun _ => rfl
      intro _ _ _
      apply (recurs_lookup _).bind fun _ => rfl
      rintro found _ rfl
      cases found with
      | none => exact recurs_pure rfl
      | some next =>
          refine (recurs_grant _ .read).map .refl fun one other recur => ?_
          simp only [Access.Repeats, recur.evict]
  | getBinding name =>
      apply recurs_requireLive.bind fun _ => rfl
      intro _ _ _
      apply (recurs_resolve name).bind fun _ => rfl
      rintro landing _ rfl
      refine (recurs_grant _ .read).map .refl fun one other recur => ?_
      simp only [Access.Repeats, recur.evict]
  | getBindingForUpdate name =>
      apply recurs_requireLive.bind fun _ => rfl
      intro _ _ _
      apply (recurs_resolve name).bind fun _ => rfl
      rintro landing _ rfl
      exact (recurs_grant _ .write).map .refl fun one other recur => ⟨rfl, recur⟩
  | getBindingForRemove name => exact recurs_getBindingForRemove name
  | nextBoundName after =>
      apply recurs_requireLive.bind fun _ => rfl
      intro _ _ _
      apply (recurs_lookup _).bind fun _ => rfl
      rintro next _ rfl
      refine (recurs_grant _ .read).map .refl fun one other recur => ?_
      simp only [Access.Repeats, recur.evict]

/-- Whatever the state of the directory and the store: a request for access, other than an
upgrade, that has succeeded for a node that still lives succeeds again from the directory as
it has left it, with the store as it found it. The directory, the pending requests
included, stays as it is, the store is left as it was left before, and the answer is
repeated. -/
theorem repetition_harmless {what : Access} (repeatable : ∀ oid, what ≠ .upgradeObject oid)
    {node : NodeId} {world later : World σ} {result : what.Result}
    (performed : (what.action node).perform world = (.ok result, later))
    (live : later.directory.registry.isLive node = true) :
    ∃ again, (what.action node).perform { later with store := world.store } = (.ok again, later) ∧
      what.Repeats result again :=
  (access_recurs repeatable).repeats performed (.nil later.directory []) live

end Action

/-! ### A run -/

/-- The third node asks for the second name for writing, which the second node reads and has
yet to drop. The first time it is told of a reader and of a copy to be dropped. The second
time there is one record for both, the stronger one. -/
theorem repetition_harmless_merged :
    (∀ oid, Access.getBindingForUpdate "b" ≠ .upgradeObject oid) ∧
    ∃ (first again : BindingUpdate) (later : World Store),
      (Action.getBindingForUpdate 3 "b").perform sharedNames = (.ok first, later) ∧
      later.directory.registry.isLive 3 = true ∧
      (Action.getBindingForUpdate 3 "b").perform { later with store := sharedNames.store } =
        (.ok again, later) ∧
      first.conflicts = ⟨true, true⟩ ∧ again.conflicts = ⟨true, false⟩ := by
  have repeatable : ∀ oid, Access.getBindingForUpdate "b" ≠ .upgradeObject oid := nofun
  let request : Action Store BindingUpdate := (Access.getBindingForUpdate "b").action 3
  have first : (request.perform sharedNames).1 = .ok ⟨true, none, 6, ⟨true, true⟩⟩ := by
    decide +kernel
  have performed : request.perform sharedNames = (.ok _, _) := Prod.ext first rfl
  have live : (request.perform sharedNames).2.directory.registry.isLive 3 = true := by
    decide +kernel
  obtain ⟨again, repeated, -⟩ := Action.repetition_harmless repeatable performed live
  have second : (request.perform { (request.perform sharedNames).2 with
      store := sharedNames.store }).1 = .ok ⟨true, none, 6, ⟨true, false⟩⟩ := by decide +kernel
  have same := (congrArg Prod.fst repeated).symm.trans second
  refine ⟨repeatable, _, again, _, performed, live, repeated, rfl, ?_⟩
  rw [Except.ok.inj same]

end CacheDirectory
