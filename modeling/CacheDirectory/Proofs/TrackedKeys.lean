/-
Module: CacheDirectory.Proofs.TrackedKeys
Purpose: A key is in the table only while somebody holds it or is giving it up. A key is
  tracked before its grant is decided, and may be empty after a release; however an operation
  ends, it leaves no empty state behind, so the counters count the keys in use.
Trusted boundary: none
Main exports: Entry.Occupied, Table.Tidy, Table.TidyBut, Table.TidyBut.prune,
  Table.Tidy.prune_track, Table.Tidy.encard_eq, Effect.tidy, Cluster.tracked_exactly
-/
import CacheDirectory.Proofs.Effects
import Mathlib.Data.Set.Card

namespace CacheDirectory

open Std Wire

/-! ### One key -/

namespace Entry

/-- Some node holds the key or is giving it up. -/
def Occupied (entry : Entry) : Prop :=
  ∃ node, (entry.holder node).isSome ∨ (entry.pendingRelease node).isSome

theorem not_occupied_empty : ¬ Occupied {} := by
  rintro ⟨node, holds | recorded⟩
  · rw [holder_empty] at holds
    cases holds
  · rw [pendingRelease_empty] at recorded
    cases recorded

/-- The node that was granted the key holds it. -/
theorem occupied_grant (entry : Entry) (node : NodeId) (mode : Mode) :
    (entry.grant node mode).2.Occupied := by
  obtain ⟨held, holds, -⟩ := entry.holder_grant_self node mode
  exact ⟨node, Or.inl (by rw [holds]; rfl)⟩

/-- Whom nobody looks for is not there: the check that the program makes finds everybody. -/
theorem isEmpty_iff_not_occupied (entry : Entry) : entry.isEmpty = true ↔ ¬ entry.Occupied := by
  constructor
  · intro empty
    rw [eq_empty_of_isEmpty empty]
    exact not_occupied_empty
  · intro vacant
    have nobody (node : NodeId) : entry.holder node = none ∧ entry.pendingRelease node = none := by
      rw [← Option.not_isSome_iff_eq_none, ← Option.not_isSome_iff_eq_none, ← not_or]
      exact fun somebody => vacant ⟨node, somebody⟩
    have same : entry = {} :=
      ext_of_lookups (fun node => (nobody node).1.trans (holder_empty node).symm)
        fun node => (nobody node).2.trans (pendingRelease_empty node).symm
    rw [same]
    rfl

end Entry

/-! ### The table -/

namespace Table

/-- Every key that is tracked is in use. -/
def Tidy (table : Table) : Prop :=
  ∀ (key : Key) (entry : Entry), table.entries[key]? = some entry → entry.Occupied

/-- Every key that is tracked is in use, but for one that may be tracked for nobody's sake. -/
def TidyBut (key : Key) (table : Table) : Prop :=
  ∀ (other : Key) (entry : Entry), other ≠ key →
    table.entries[other]? = some entry → entry.Occupied

theorem tidy_empty : Tidy {} := by
  intro key entry tracked
  rw [ExtTreeMap.getElem?_empty] at tracked
  cases tracked

variable {table : Table} {key : Key}

/-! Changes to a key begin where a table is tidy and go by way of one that is tidy but for the
key: it is tracked before it is granted, and what is taken from it may leave nobody on it. -/

theorem Tidy.track (tidy : table.Tidy) (key : Key) : (table.track key).TidyBut key := by
  intro other entry distinct tracked
  rw [getElem?_track, if_neg distinct] at tracked
  exact tidy other entry tracked

theorem Tidy.write (tidy : table.Tidy) (key : Key) (entry : Entry) :
    (table.write key entry).TidyBut key := by
  intro other found distinct tracked
  rw [getElem?_write, if_neg distinct] at tracked
  exact tidy other found tracked

/-- A grant leaves its requester on the key. -/
theorem TidyBut.grant (tidy : table.TidyBut key) (node : NodeId) (mode : Mode) :
    (table.grant node key mode).2.Tidy := by
  intro other entry tracked
  change (table.write key ((table.entry key).grant node mode).2).entries[other]? = _ at tracked
  rw [getElem?_write] at tracked
  split at tracked
  case isTrue =>
    cases tracked
    exact Entry.occupied_grant _ node mode
  case isFalse distinct => exact tidy other entry distinct tracked

/-- The key that may be tracked for nobody's sake is the one that is pruned. -/
theorem TidyBut.prune (tidy : table.TidyBut key) : (table.prune key).Tidy := by
  intro other entry tracked
  rw [getElem?_prune] at tracked
  split at tracked
  case isTrue => cases tracked
  case isFalse kept =>
    by_cases same : other = key
    · subst same
      rw [← entry_of_getElem? tracked]
      refine not_not.mp (mt (Entry.isEmpty_iff_not_occupied _).mpr ?_)
      exact fun empty => kept ⟨rfl, empty⟩
    · exact tidy other entry same tracked

namespace Tidy

/-- From one tidy table to the next: the key is tracked, and then it is granted. -/
theorem grant (tidy : table.Tidy) (node : NodeId) (key : Key) (mode : Mode) :
    (table.grant node key mode).2.Tidy := by
  rw [← grant_track]
  exact (tidy.track key).grant node mode

/-- Where no key is tracked for nobody's sake there is nothing to prune. -/
theorem prune_eq (tidy : table.Tidy) (key : Key) : table.prune key = table := by
  apply ext_getElem?
  intro other
  rw [getElem?_prune]
  split
  case isFalse => rfl
  case isTrue vacant =>
    obtain ⟨rfl, empty⟩ := vacant
    cases tracked : table.entries[other]? with
    | none => rfl
    | some entry =>
        rw [entry_of_getElem? tracked, Entry.isEmpty_iff_not_occupied] at empty
        exact absurd (tidy other entry tracked) empty

/-- The key is tracked, and the grant is refused: the key vanishes again, but only if it was
not there before. -/
theorem prune_track (tidy : table.Tidy) (key : Key) : (table.track key).prune key = table := by
  rw [Table.prune_track, tidy.prune_eq]

/-- Whatever becomes of a key that is revised: it is tracked no longer if nobody is left. -/
theorem revise (tidy : table.Tidy) (key : Key) {change : Entry → Bool × Entry}
    (idle : change {} = (false, {})) : (table.revise key change).2.Tidy := by
  rw [revise_eq table key idle]
  exact (tidy.write key _).prune

theorem release (tidy : table.Tidy) (node : NodeId) (key : Key) :
    (table.release node key).2.Tidy :=
  tidy.revise key (Entry.release_empty node)

theorem completeRelease (tidy : table.Tidy) (node : NodeId) (key : Key) :
    (table.completeRelease node key).2.Tidy :=
  tidy.revise key (Entry.completeRelease_empty node)

/-- A node that is removed from many keys at once may have been the last one on several. -/
theorem forceRelease (tidy : table.Tidy) (node : NodeId) (scope : Key → Bool) :
    (table.forceRelease node scope).2.Tidy := by
  intro key entry found
  simp only [Table.forceRelease, ExtTreeMap.getElem?_filterMap', Option.bind_eq_some_iff] at found
  obtain ⟨before, tracked, found⟩ := found
  split at found
  case isFalse =>
    cases found
    exact tidy key entry tracked
  case isTrue =>
    split at found
    case isTrue => cases found
    case isFalse occupied =>
      cases found
      exact not_not.mp (mt (Entry.isEmpty_iff_not_occupied _).mpr occupied)

/-- What is tracked is what is in use. -/
theorem exists_tracked_iff (tidy : table.Tidy) (key : Key) :
    (∃ entry, table.entries[key]? = some entry) ↔ (table.entry key).Occupied := by
  rw [Table.entry, ExtTreeMap.getD_eq_getD_getElem?]
  cases tracked : table.entries[key]? with
  | none =>
      refine iff_of_false ?_ Entry.not_occupied_empty
      rintro ⟨entry, found⟩
      cases found
  | some entry => exact iff_of_true ⟨entry, rfl⟩ (tidy key entry tracked)

/-- As many keys are counted as are in use. -/
theorem encard_eq (tidy : table.Tidy) (scope : Key → Bool) :
    (table.count scope : ℕ∞) = {key | scope key = true ∧ (table.entry key).Occupied}.encard := by
  have distinct : ((table.inUse scope).map (·.1)).Nodup := by
    have keys :
        table.entries.toList.Pairwise fun first second => ¬ compare first.1 second.1 = .eq :=
      ExtTreeMap.distinct_keys_toList
    refine List.pairwise_map.mpr ((keys.filter _).imp fun different same => different ?_)
    exact Std.compare_eq_iff_eq.mpr same
  have members : {key | scope key = true ∧ (table.entry key).Occupied} =
      (((table.inUse scope).map (·.1)).toFinset : Set Key) := by
    ext key
    rw [Set.mem_ofPred_eq, ← tidy.exists_tracked_iff, Finset.mem_coe, List.mem_toFinset]
    simp only [inUse, List.mem_map, List.mem_filter, Prod.exists,
      ExtTreeMap.mem_toList_iff_getElem?_eq_some]
    constructor
    · rintro ⟨inScope, entry, tracked⟩
      exact ⟨key, entry, ⟨tracked, inScope⟩, rfl⟩
    · rintro ⟨_, entry, ⟨tracked, inScope⟩, rfl⟩
      exact ⟨inScope, entry, tracked⟩
  rw [members, Set.encard_coe_eq_coe_finsetCard, List.toFinset_card_of_nodup distinct,
    List.length_map, count]

/-- Nothing is counted exactly if nothing is in use. -/
theorem count_eq_zero_iff (tidy : table.Tidy) (scope : Key → Bool) :
    table.count scope = 0 ↔ ∀ key, scope key = true → ¬ (table.entry key).Occupied := by
  rw [← Nat.cast_eq_zero (R := ℕ∞), tidy.encard_eq, Set.encard_eq_zero,
    Set.eq_empty_iff_forall_notMem]
  simp only [Set.mem_ofPred_eq, not_and]

end Tidy

end Table

/-! ### Every run -/

theorem Directory.tidy_nodeFailed {directory : Directory} (tidy : directory.table.Tidy)
    (node : NodeId) : (directory.nodeFailed node).2.table.Tidy :=
  (tidy.forceRelease node Key.isObject).forceRelease node Key.isBinding

/-- Whatever happens, no empty state stays. Each effect changes the table only by a grant, by
what it takes from one key and prunes, or by what it removes of one node. -/
theorem Effect.tidy {reliable forced : Prop} {before after : View} {events : List Event}
    (tidy : before.directory.table.Tidy) (effect : Effect reliable forced before events after) :
    after.directory.table.Tidy := by
  cases effect with
  | died | registered | told | departed | continued => exact tidy
  | forgone directory flights key => exact (tidy.track key).prune
  | granted key mode live =>
      rw [Directory.table_grant]
      exact tidy.grant _ key mode
  | @withdrawn directory flights node key dead => exact tidy.release node key
  | gaveUp directory flights node key => exact tidy.release node key
  | completed directory flights node key => exact tidy.completeRelease node key
  | stripped directory flights node scope allowed => exact tidy.forceRelease node scope
  | failed directory flights node => exact Directory.tidy_nodeFailed tidy node
  | @settled directory flights index flight flying gone =>
      cases flight.ending with
      | nodeFailed => exact Directory.tidy_nodeFailed tidy flight.request.target
      | acknowledged | targetGone => exact tidy.completeRelease _ flight.request.key

namespace Cluster

theorem tidy_run {σ : Type} [Backing σ] (range : PortRange) (sink : Sink)
    (settings : DeliverySettings) (store : σ) (endpoints : Endpoints) (steps : List (Step σ)) :
    ((start range sink settings store endpoints).run steps).2.directory.table.Tidy := by
  have anyway : ∀ step ∈ steps, step.isForced → True := fun _ _ _ => trivial
  apply run_preserves anyway (fun _ view => view.directory.table.Tidy) Table.tidy_empty
  intro _ _ _ _ tidy effect
  exact effect.tidy tidy

/-- However nodes register, die, ask, give up and are asked, in any order, and whatever the
store answers, be the operations granted or refused, half-way or at once: every key that is
tracked has a node that holds it or is giving it up. So the number of objects, of bindings or
of any other keys that are tracked is the number of those that are in use, and it is zero
exactly if none is. -/
theorem tracked_exactly {σ : Type} [Backing σ] (range : PortRange) (sink : Sink)
    (settings : DeliverySettings) (store : σ) (endpoints : Endpoints) (steps : List (Step σ)) :
    let table := ((start range sink settings store endpoints).run steps).2.directory.table
    (∀ (key : Key) (entry : Entry), table.entries[key]? = some entry → entry.Occupied) ∧
    ∀ scope : Key → Bool,
      (table.count scope : ℕ∞) =
        {key | scope key = true ∧ (table.entry key).Occupied}.encard ∧
      (table.count scope = 0 ↔ ∀ key, scope key = true → ¬ (table.entry key).Occupied) := by
  intro table
  have tidy : table.Tidy := tidy_run range sink settings store endpoints steps
  exact ⟨tidy, fun scope => ⟨tidy.encard_eq scope, tidy.count_eq_zero_iff scope⟩⟩

end Cluster

end CacheDirectory
