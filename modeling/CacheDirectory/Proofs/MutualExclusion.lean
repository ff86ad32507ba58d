/-
Module: CacheDirectory.Proofs.MutualExclusion
Purpose: Nobody ever holds a key beside its writer, and whoever is told of access
  has it.
Trusted boundary: none
Main exports: Entry.isConsistent_iff, Entry.Exclusive.grant,
  Cluster.exclusive_and_granted
-/
import CacheDirectory.Proofs.Effects

namespace CacheDirectory

open Std Wire

/-! ### One entry -/

namespace Entry

/-- A writer is the only holder exactly if without it there is none. -/
theorem size_holders_eq_one_iff {entry : Entry} {writer : NodeId} {mode : Mode}
    (holds : entry.holder writer = some mode) :
    entry.holders.size = 1 ↔ ∀ other, (entry.holder other).isSome → other = writer := by
  have inhabited : writer ∈ entry.holders :=
    ExtTreeMap.mem_iff_isSome_getElem?.mpr (by rw [← holder, holds]; rfl)
  have emptied : entry.holders.erase writer = ∅ ↔ entry.holders.size = 1 := by
    rw [ExtTreeMap.erase_eq_empty_iff]
    constructor
    · rintro (empty | ⟨single, -⟩)
      · rw [empty] at inhabited
        exact absurd inhabited ExtTreeMap.not_mem_empty
      · exact single
    · exact fun single => Or.inr ⟨single, inhabited⟩
  rw [← emptied]
  constructor
  · intro empty other holding
    have left : (entry.release writer).2.holder other = none := by
      rw [holder, release, empty, ExtTreeMap.getElem?_empty]
    rw [holder_release] at left
    split at left
    case isTrue same => exact same
    case isFalse =>
      rw [left] at holding
      cases holding
  · intro alone
    apply ExtTreeMap.ext_getElem?
    intro other
    change (entry.release writer).2.holder other = _
    rw [holder_release, ExtTreeMap.getElem?_empty]
    split
    case isTrue => rfl
    case isFalse distinct =>
      cases holding : entry.holder other with
      | none => rfl
      | some held => exact absurd (alone other (by rw [holding]; rfl)) distinct

/-- The check that the program makes of an entry is the property that matters. -/
theorem isConsistent_iff (entry : Entry) : entry.isConsistent = true ↔ entry.Exclusive := by
  rw [isConsistent, Bool.or_eq_true, List.isEmpty_iff, List.filter_eq_nil_iff, beq_iff_eq]
  constructor
  · rintro (unwritten | single) writer writes other holds
    · have listed : (writer, Mode.write) ∈ entry.holders.toList :=
        ExtTreeMap.mem_toList_iff_getElem?_eq_some.mpr writes
      exact absurd rfl (unwritten _ listed)
    · exact (size_holders_eq_one_iff writes).mp single other holds
  · intro exclusive
    by_cases written : ∃ writer, entry.holder writer = some .write
    · obtain ⟨writer, writes⟩ := written
      exact Or.inr ((size_holders_eq_one_iff writes).mpr (exclusive writer writes))
    · left
      intro (writer, mode) listed writes
      refine written ⟨writer, ?_⟩
      cases mode with
      | read => cases writes
      | write => exact ExtTreeMap.mem_toList_iff_getElem?_eq_some.mp listed

/-- A grant asks something of a holder exactly if it displaces it. -/
theorem isSome_demand {entry : Entry} {other : NodeId} {held : Mode}
    (holds : entry.holder other = some held) (node : NodeId) (mode : Mode) :
    (entry.demand node mode other).isSome = mode.displaces node other held := by
  rw [demand_eq, holds, Option.bind_some]
  cases mode.displaces node other held <;> rfl

namespace Exclusive

variable {entry later : Entry}

/-- Holders that go leave a writer alone. -/
theorem of_holders_le (exclusive : entry.Exclusive)
    (fewer : ∀ node, later.holder node = none ∨ later.holder node = entry.holder node) :
    later.Exclusive := by
  intro writer writes other holds
  have before : entry.holder writer = some .write := by
    rcases fewer writer with gone | same
    · rw [gone] at writes
      cases writes
    · rw [← same, writes]
  rcases fewer other with gone | same
  · rw [gone] at holds
    cases holds
  · exact exclusive writer before other (same ▸ holds)

theorem empty : Exclusive {} := by
  intro writer writes
  rw [holder_empty] at writes
  cases writes

theorem release (exclusive : entry.Exclusive) (node : NodeId) :
    (entry.release node).2.Exclusive := by
  apply exclusive.of_holders_le
  intro other
  rw [holder_release]
  split
  case isTrue => exact Or.inl rfl
  case isFalse => exact Or.inr rfl

theorem strip (exclusive : entry.Exclusive) (node : NodeId) : (entry.strip node).Exclusive :=
  exclusive.release node

theorem completeRelease (exclusive : entry.Exclusive) (node : NodeId) :
    (entry.completeRelease node).2.Exclusive :=
  exclusive.of_holders_le fun _ => Or.inr rfl

/-- A grant displaces whoever conflicts with it: after a write all others, and after
a read the writer if there is one. -/
theorem grant (exclusive : entry.Exclusive) (node : NodeId) (mode : Mode) :
    (entry.grant node mode).2.Exclusive := by
  intro writer writes other holds
  rw [holder_grant] at writes holds
  by_cases requester : writer = node
  · by_cases same : other = node
    · rw [same, requester]
    · rw [if_neg same] at holds
      split at holds
      case isTrue => cases holds
      case isFalse kept =>
        obtain ⟨held, holding⟩ := Option.isSome_iff_exists.mp holds
        rw [isSome_demand holding] at kept
        cases mode with
        | write => simp [Mode.displaces, Mode.isWrite, same] at kept
        | read =>
            -- A reader that writes afterwards was the writer before.
            have wrote : entry.holder node = some .write := by
              rw [if_pos requester] at writes
              cases before : entry.holder node with
              | none =>
                  rw [before] at writes
                  cases writes
              | some previous =>
                  cases previous with
                  | read =>
                      rw [before] at writes
                      cases writes
                  | write => rfl
            exact absurd (exclusive node wrote other holds) same
  · rw [if_neg requester] at writes
    split at writes
    case isTrue => cases writes
    case isFalse kept =>
      rw [isSome_demand writes] at kept
      simp [Mode.displaces, Mode.isWrite, requester] at kept

end Exclusive

end Entry

/-! ### The table over a run -/

/-- Every key is held exclusively where it is held for writing. -/
def Table.Exclusive (table : Table) : Prop :=
  ∀ key, (table.entry key).Exclusive

/-- What can be done to an entry leaves a writer alone. -/
theorem Entry.Change.exclusive {live : NodeId → Prop} {before after : Entry}
    (change : Change live before after) (exclusive : before.Exclusive) : after.Exclusive := by
  cases change with
  | kept => exact exclusive
  | granted node mode => exact exclusive.grant node mode
  | released node => exact exclusive.release node
  | completed node => exact exclusive.completeRelease node
  | stripped node => exact exclusive.strip node

theorem Effect.exclusive {reliable forced : Prop} {before after : View} {events : List Event}
    (exclusive : before.directory.table.Exclusive)
    (effect : Effect reliable forced before events after) :
    after.directory.table.Exclusive := by
  intro key
  exact (effect.change key).exclusive (exclusive key)

namespace Cluster

variable {σ : Type} [Backing σ]

theorem run_exclusive (range : PortRange) (sink : Sink) (settings : DeliverySettings) (store : σ)
    (endpoints : Endpoints) (steps : List (Step σ)) :
    ((start range sink settings store endpoints).run steps).2.directory.table.Exclusive := by
  have anyway : ∀ step ∈ steps, step.isForced → True := fun _ _ _ => trivial
  have initially : ({} : Table).Exclusive := by
    intro key
    rw [Table.entry_empty]
    exact Entry.Exclusive.empty
  apply run_preserves anyway (fun _ view => view.directory.table.Exclusive) initially
  intro _ _ _ _ exclusive effect
  exact effect.exclusive exclusive

/-- However nodes register, die, ask, give up and are asked, in any order, and
whatever the store answers: no key is ever held beside its writer, and a node that
was just told of access to keys holds them as told, and no others than before. -/
theorem exclusive_and_granted (range : PortRange) (sink : Sink) (settings : DeliverySettings)
    (store : σ) (endpoints : Endpoints) (steps : List (Step σ)) :
    let cluster := ((start range sink settings store endpoints).run steps).2
    (∀ key, (cluster.directory.table.entry key).Exclusive ∧
      (cluster.directory.table.entry key).isConsistent = true) ∧
    ∀ (node : NodeId) (what : Access) (result : what.Result) (later : Service σ),
      cluster.service.perform (.access node what) = (.ok result, later) →
      (∀ report ∈ what.reports result, ∃ held,
        later.directory.table.holder report.key node = some held ∧ report.mode ≤ held) ∧
      ∀ key, (∀ report ∈ what.reports result, report.key ≠ key) →
        later.directory.table.entry key = cluster.directory.table.entry key := by
  intro cluster
  constructor
  · intro key
    have exclusive := run_exclusive range sink settings store endpoints steps key
    exact ⟨exclusive, (Entry.isConsistent_iff _).mpr exclusive⟩
  · intro node what result later performed
    have grants := cluster.service.perform_concludes node what
    rw [performed] at grants
    constructor
    · exact grants.holds
    · intro key unreported
      exact grants.entry_of_not_reported unreported

end Cluster

end CacheDirectory
