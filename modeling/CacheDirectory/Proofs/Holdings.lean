/-
Module: CacheDirectory.Proofs.Holdings
Purpose: What every operation on an entry and on the table does to the holding
  of one node, to its outstanding release and to which keys are tracked, so that
  no later proof opens the maps.
Trusted boundary: none
Main exports: Entry.Exclusive, Entry.holder_grant, Entry.pendingRelease_grant,
  Entry.flag_grant_iff, Table.prune_track, Table.revise_eq, Table.entry_grant,
  Table.entry_forceRelease
-/
import CacheDirectory.Access.Table

namespace CacheDirectory

open Std

/-- Modes are ordered by what they allow. -/
instance : LE Mode := leOfOrd

/-- Release requests are ordered by what they ask for. -/
instance : LE Release := leOfOrd

instance : DecidableLE Mode := fun a b => inferInstanceAs (Decidable ((compare a b).isLE = true))

instance : DecidableLE Release :=
  fun a b => inferInstanceAs (Decidable ((compare a b).isLE = true))

theorem Mode.le_max_left (first second : Mode) : first ≤ max first second := by
  cases first <;> cases second <;> decide

theorem Mode.le_max_right (first second : Mode) : second ≤ max first second := by
  cases first <;> cases second <;> decide

theorem Mode.le_trans {first second third : Mode} (lower : first ≤ second)
    (upper : second ≤ third) : first ≤ third := by
  revert lower upper
  cases first <;> cases second <;> cases third <;> decide

theorem Release.le_refl (release : Release) : release ≤ release := by
  cases release <;> decide

theorem Release.le_antisymm {first second : Release} (lower : first ≤ second)
    (upper : second ≤ first) : first = second := by
  revert lower upper
  cases first <;> cases second <;> decide

theorem Release.le_max_iff (bound first second : Release) :
    bound ≤ max first second ↔ bound ≤ first ∨ bound ≤ second := by
  cases bound <;> cases first <;> cases second <;> decide

/-- What a node is recorded to give up once it is asked again: the stronger of
what it was asked before and what it is asked now. -/
def Release.merge (previous : Option Release) (asked : Release) : Release :=
  max (previous.getD asked) asked

theorem Release.le_merge_iff (bound : Release) (previous : Option Release) (asked : Release) :
    bound ≤ merge previous asked ↔
      (∃ kind, previous = some kind ∧ bound ≤ kind) ∨ bound ≤ asked := by
  cases previous with
  | none => simp [merge, le_max_iff]
  | some kind => simp [merge, le_max_iff]

/-- What a grant tells of requests of one kind. -/
def Conflicts.flag (conflicts : Conflicts) : Release → Bool
  | .evict => conflicts.evict
  | .downgrade => conflicts.downgrade

namespace Entry

/-- Nobody holds the key beside a writer; in particular there is at most one
writer. -/
def Exclusive (entry : Entry) : Prop :=
  ∀ writer, entry.holder writer = some .write →
    ∀ other, (entry.holder other).isSome → other = writer

/-- What a grant of `mode` to `node` asks `other` to give up, if it displaces
it. -/
def demand (entry : Entry) (node : NodeId) (mode : Mode) (other : NodeId) : Option Release :=
  (entry.displaced node mode)[other]?

theorem demand_eq (entry : Entry) (node : NodeId) (mode : Mode) (other : NodeId) :
    entry.demand node mode other =
      (entry.holder other).bind fun held =>
        if mode.displaces node other held then some held.forfeit else none := by
  simp only [demand, displaced, holder, ExtTreeMap.getElem?_filterMap']

/-- A grant never displaces the node that it is made to. -/
@[simp] theorem demand_self (entry : Entry) (node : NodeId) (mode : Mode) :
    entry.demand node mode node = none := by
  rw [demand_eq]
  cases entry.holder node with
  | none => rfl
  | some held => simp [Mode.displaces]

/-- A grant of write access displaces every other holder. -/
theorem demand_write (entry : Entry) {node other : NodeId} (distinct : other ≠ node) :
    entry.demand node .write other = (entry.holder other).map Mode.forfeit := by
  rw [demand_eq]
  cases entry.holder other with
  | none => rfl
  | some held => simp [Mode.displaces, Mode.isWrite, distinct]

/-- After a grant the requester holds the key in the stronger of its old and its
new mode; of the others, exactly those that are asked to give it up have lost
it. -/
theorem holder_grant (entry : Entry) (node : NodeId) (mode : Mode) (other : NodeId) :
    (entry.grant node mode).2.holder other =
      if other = node then some (max ((entry.holder node).getD mode) mode)
      else if (entry.demand node mode other).isSome then none else entry.holder other := by
  simp only [grant, holder, ExtTreeMap.getElem?_insert, LawfulEqOrd.compare_eq_iff_eq,
    ExtTreeMap.getD_eq_getD_getElem?, eq_comm (a := node)]
  split
  case isTrue => rfl
  case isFalse =>
    rw [demand_eq, ExtTreeMap.getElem?_filter', holder]
    cases entry.holders[other]? with
    | none => rfl
    | some held => cases displaces : mode.displaces node other held <;> simp [displaces]

/-- The requester of a grant holds the key at least in the granted mode. -/
theorem holder_grant_self (entry : Entry) (node : NodeId) (mode : Mode) :
    ∃ held, (entry.grant node mode).2.holder node = some held ∧ mode ≤ held :=
  ⟨_, by rw [holder_grant, if_pos rfl], Mode.le_max_right _ _⟩

/-- After a grant those that it displaces are recorded with the stronger of the
new and of any earlier request; every other record is as it was. -/
theorem pendingRelease_grant (entry : Entry) (node : NodeId) (mode : Mode) (other : NodeId) :
    (entry.grant node mode).2.pendingRelease other =
      match entry.demand node mode other with
      | none => entry.pendingRelease other
      | some kind => some (Release.merge (entry.pendingRelease other) kind) := by
  simp only [grant, pendingRelease, demand, ExtTreeMap.getElem?_union, ExtTreeMap.getElem?_map,
    ExtTreeMap.getD_eq_getD_getElem?, Release.merge]
  cases (entry.displaced node mode)[other]? <;> rfl

/-- The requests that a grant produces are those to the displaced holders. -/
theorem mem_releases_grant (entry : Entry) (node : NodeId) (mode : Mode) (other : NodeId)
    (kind : Release) :
    (other, kind) ∈ (entry.grant node mode).1.releases ↔
      entry.demand node mode other = some kind :=
  ExtTreeMap.mem_toList_iff_getElem?_eq_some

theorem asksOther_iff {requests : ExtTreeMap NodeId Release} {node : NodeId} {kind : Release} :
    asksOther requests node kind = true ↔
      ∃ other, other ≠ node ∧ requests[other]? = some kind := by
  simp only [asksOther, List.any_eq_true, Bool.and_eq_true, bne_iff_ne, beq_iff_eq, Prod.exists,
    ExtTreeMap.mem_toList_iff_getElem?_eq_some]
  constructor
  · rintro ⟨other, found, listed, distinct, rfl⟩
    exact ⟨other, distinct, listed⟩
  · rintro ⟨other, distinct, listed⟩
    exact ⟨other, kind, listed, distinct, rfl⟩

/-- The requester of a grant is told of requests to others: of those that are outstanding
and of those that the grant makes. -/
theorem flag_grant_iff {entry : Entry} {node : NodeId} {mode : Mode} {kind : Release} :
    (entry.grant node mode).1.conflicts.flag kind = true ↔ ∃ other, other ≠ node ∧
      (entry.pendingRelease other = some kind ∨ entry.demand node mode other = some kind) := by
  have told : (entry.grant node mode).1.conflicts.flag kind =
      (asksOther entry.releasing node kind || asksOther (entry.displaced node mode) node kind) := by
    cases kind <;> rfl
  simp only [told, Bool.or_eq_true, asksOther_iff, ← exists_or, ← and_or_left]
  exact Iff.rfl

/-- A record of another node is told to the requester of a grant. -/
theorem flag_grant_of_pendingRelease {entry : Entry} {node other : NodeId} {kind : Release}
    (mode : Mode) (distinct : other ≠ node) (recorded : entry.pendingRelease other = some kind) :
    (entry.grant node mode).1.conflicts.flag kind = true :=
  flag_grant_iff.mpr ⟨other, distinct, .inl recorded⟩

@[simp] theorem holder_release (entry : Entry) (node other : NodeId) :
    (entry.release node).2.holder other = if other = node then none else entry.holder other := by
  simp only [release, holder, ExtTreeMap.getElem?_erase, LawfulEqOrd.compare_eq_iff_eq,
    eq_comm (a := node)]

@[simp] theorem pendingRelease_release (entry : Entry) (node other : NodeId) :
    (entry.release node).2.pendingRelease other = entry.pendingRelease other := rfl

@[simp] theorem holder_completeRelease (entry : Entry) (node other : NodeId) :
    (entry.completeRelease node).2.holder other = entry.holder other := rfl

@[simp] theorem pendingRelease_completeRelease (entry : Entry) (node other : NodeId) :
    (entry.completeRelease node).2.pendingRelease other =
      if other = node then none else entry.pendingRelease other := by
  simp only [completeRelease, pendingRelease, ExtTreeMap.getElem?_erase,
    LawfulEqOrd.compare_eq_iff_eq, eq_comm (a := node)]

@[simp] theorem holder_strip (entry : Entry) (node other : NodeId) :
    (entry.strip node).holder other = if other = node then none else entry.holder other :=
  holder_release entry node other

@[simp] theorem pendingRelease_strip (entry : Entry) (node other : NodeId) :
    (entry.strip node).pendingRelease other =
      if other = node then none else entry.pendingRelease other :=
  pendingRelease_completeRelease entry node other

@[simp] theorem holder_empty (node : NodeId) : holder {} node = none :=
  ExtTreeMap.getElem?_empty

@[simp] theorem pendingRelease_empty (node : NodeId) : pendingRelease {} node = none :=
  ExtTreeMap.getElem?_empty

/-- An entry is no more than what is looked up in it. -/
theorem ext_of_lookups {first second : Entry} (holders : ∀ node, first.holder node = second.holder node)
    (releasing : ∀ node, first.pendingRelease node = second.pendingRelease node) :
    first = second := by
  obtain ⟨holders₁, releasing₁⟩ := first
  obtain ⟨holders₂, releasing₂⟩ := second
  rw [mk.injEq]
  exact ⟨ExtTreeMap.ext_getElem? @holders, ExtTreeMap.ext_getElem? @releasing⟩

theorem eq_empty_of_isEmpty {entry : Entry} (empty : entry.isEmpty) : entry = {} := by
  obtain ⟨holders, releasing⟩ := entry
  rw [isEmpty, Bool.and_eq_true, ExtTreeMap.isEmpty_iff, ExtTreeMap.isEmpty_iff] at empty
  obtain ⟨rfl, rfl⟩ := empty
  rfl

end Entry

@[simp] theorem Entry.strip_empty (node : NodeId) : Entry.strip {} node = {} := by
  simp [Entry.strip]

@[simp] theorem Entry.release_empty (node : NodeId) : Entry.release {} node = (false, {}) := by
  simp [Entry.release]

@[simp] theorem Entry.completeRelease_empty (node : NodeId) :
    Entry.completeRelease {} node = (false, {}) := by
  simp [Entry.completeRelease]

@[simp] theorem Entry.upgrade_empty (node : NodeId) : Entry.upgrade {} node = none := by
  simp [Entry.upgrade]

namespace Table

theorem holder_eq (table : Table) (key : Key) (node : NodeId) :
    table.holder key node = (table.entry key).holder node := rfl

theorem pendingRelease_eq (table : Table) (key : Key) (node : NodeId) :
    table.pendingRelease key node = (table.entry key).pendingRelease node := rfl

/-! ### What is tracked -/

/-- A table is no more than which keys it tracks, and with which states. -/
theorem ext_getElem? {first second : Table}
    (same : ∀ key : Key, first.entries[key]? = second.entries[key]?) : first = second :=
  congrArg mk (ExtTreeMap.ext_getElem? @same)

theorem entry_of_getElem? {table : Table} {key : Key} {entry : Entry}
    (tracked : table.entries[key]? = some entry) : table.entry key = entry := by
  rw [Table.entry, ExtTreeMap.getD_eq_getD_getElem?, tracked, Option.getD_some]

theorem entry_of_untracked {table : Table} {key : Key} (untracked : table.entries[key]? = none) :
    table.entry key = {} := by
  rw [Table.entry, ExtTreeMap.getD_eq_getD_getElem?, untracked, Option.getD_none]

/-- A key that somebody is on is tracked. -/
theorem getElem?_of_not_isEmpty {table : Table} {key : Key}
    (occupied : ¬ (table.entry key).isEmpty = true) :
    table.entries[key]? = some (table.entry key) := by
  cases tracked : table.entries[key]? with
  | none =>
      rw [entry_of_untracked tracked] at occupied
      exact absurd rfl occupied
  | some entry => rw [entry_of_getElem? tracked]

theorem getElem?_track (table : Table) (key other : Key) :
    (table.track key).entries[other]? =
      if other = key then some (table.entry key) else table.entries[other]? := by
  simp only [track, ExtTreeMap.getElem?_insertIfNew, LawfulEqOrd.compare_eq_iff_eq,
    eq_comm (a := key), ExtTreeMap.mem_iff_isSome_getElem?]
  by_cases same : other = key
  · subst same
    cases tracked : table.entries[other]? with
    | none => simp [entry_of_untracked tracked]
    | some entry => simp [entry_of_getElem? tracked]
  · simp [same]

theorem getElem?_write (table : Table) (key other : Key) (entry : Entry) :
    (table.write key entry).entries[other]? =
      if other = key then some entry else table.entries[other]? := by
  simp only [write, ExtTreeMap.getElem?_insert, LawfulEqOrd.compare_eq_iff_eq,
    eq_comm (a := key)]

theorem getElem?_prune (table : Table) (key other : Key) :
    (table.prune key).entries[other]? =
      if other = key ∧ (table.entry key).isEmpty = true then none else table.entries[other]? := by
  rw [prune]
  by_cases empty : (table.entry key).isEmpty = true
  · simp only [empty, if_true, and_true, ExtTreeMap.getElem?_erase,
      LawfulEqOrd.compare_eq_iff_eq, eq_comm (a := key)]
  · simp only [empty, if_false, and_false, Bool.false_eq_true]

/-! ### The state of a key -/

@[simp] theorem entry_track (table : Table) (key other : Key) :
    (table.track key).entry other = table.entry other := by
  simp only [Table.entry, ExtTreeMap.getD_eq_getD_getElem?, getElem?_track]
  split
  case isTrue same => rw [same, Option.getD_some]
  case isFalse => rfl

@[simp] theorem entry_write (table : Table) (key other : Key) (entry : Entry) :
    (table.write key entry).entry other = if other = key then entry else table.entry other := by
  simp only [Table.entry, ExtTreeMap.getD_eq_getD_getElem?, getElem?_write]
  split <;> rfl

/-- That a key is pruned shows in no state. -/
@[simp] theorem entry_prune (table : Table) (key other : Key) :
    (table.prune key).entry other = table.entry other := by
  by_cases pruned : other = key ∧ (table.entry key).isEmpty = true
  · obtain ⟨rfl, empty⟩ := pruned
    rw [Entry.eq_empty_of_isEmpty empty, entry_of_untracked]
    rw [getElem?_prune, if_pos ⟨rfl, empty⟩]
  · have same : (table.prune key).entries[other]? = table.entries[other]? := by
      rw [getElem?_prune, if_neg pruned]
    simp only [Table.entry, ExtTreeMap.getD_eq_getD_getElem?, same]

/-! ### Tracking a key and pruning it -/

theorem track_eq_write (table : Table) (key : Key) :
    table.track key = table.write key (table.entry key) :=
  ext_getElem? fun other => by rw [getElem?_track, getElem?_write]

theorem write_track (table : Table) (key : Key) (entry : Entry) :
    (table.track key).write key entry = table.write key entry := by
  apply ext_getElem?
  intro other
  simp only [getElem?_write, getElem?_track]
  split <;> rfl

/-- A key that is tracked for nobody's sake vanishes when it is pruned, and one that somebody
is on stays: it is as if the key had not been tracked in between. -/
theorem prune_track (table : Table) (key : Key) : (table.track key).prune key = table.prune key := by
  apply ext_getElem?
  intro other
  rw [getElem?_prune, getElem?_prune, entry_track, getElem?_track]
  by_cases pruned : other = key ∧ (table.entry key).isEmpty = true
  · rw [if_pos pruned, if_pos pruned]
  · rw [if_neg pruned, if_neg pruned]
    split
    case isTrue same =>
      subst same
      exact (getElem?_of_not_isEmpty fun empty => pruned ⟨rfl, empty⟩).symm
    case isFalse => rfl

/-- A grant does not depend on whether its key was tracked. -/
theorem grant_track (table : Table) (node : NodeId) (key : Key) (mode : Mode) :
    (table.track key).grant node key mode = table.grant node key mode := by
  simp only [grant, entry_track, write_track]

@[simp] theorem entry_grant (table : Table) (node : NodeId) (key other : Key) (mode : Mode) :
    (table.grant node key mode).2.entry other =
      if other = key then ((table.entry key).grant node mode).2 else table.entry other :=
  entry_write table key other _

/-- Nobody is upgraded on a key that is not tracked. -/
theorem upgrade_eq (table : Table) (node : NodeId) (key : Key) :
    table.upgrade node key =
      ((table.entry key).upgrade node).map fun outcome =>
        (outcome.1, table.write key outcome.2) := by
  rw [upgrade]
  cases tracked : table.entries[key]? with
  | none => simp [entry_of_untracked tracked]
  | some entry => simp [entry_of_getElem? tracked]

/-- A change that leaves the empty state alone is written and pruned, whether or not its key
is tracked. -/
theorem revise_eq (table : Table) (key : Key) {change : Entry → Bool × Entry}
    (idle : change {} = (false, {})) :
    table.revise key change =
      ((change (table.entry key)).1,
        (table.write key (change (table.entry key)).2).prune key) := by
  rw [revise]
  cases tracked : table.entries[key]? with
  | none =>
      have vacant := entry_of_untracked tracked
      have pruned := table.prune_track key
      rw [track_eq_write, vacant] at pruned
      rw [vacant, idle, pruned]
  | some entry => rw [entry_of_getElem? tracked]

theorem release_eq (table : Table) (node : NodeId) (key : Key) :
    table.release node key =
      (((table.entry key).release node).1,
        (table.write key ((table.entry key).release node).2).prune key) :=
  table.revise_eq key (Entry.release_empty node)

theorem completeRelease_eq (table : Table) (node : NodeId) (key : Key) :
    table.completeRelease node key =
      (((table.entry key).completeRelease node).1,
        (table.write key ((table.entry key).completeRelease node).2).prune key) :=
  table.revise_eq key (Entry.completeRelease_empty node)

@[simp] theorem entry_release (table : Table) (node : NodeId) (key other : Key) :
    (table.release node key).2.entry other =
      if other = key then ((table.entry key).release node).2 else table.entry other := by
  rw [release_eq, entry_prune, entry_write]

@[simp] theorem entry_completeRelease (table : Table) (node : NodeId) (key other : Key) :
    (table.completeRelease node key).2.entry other =
      if other = key then ((table.entry key).completeRelease node).2 else table.entry other := by
  rw [completeRelease_eq, entry_prune, entry_write]

@[simp] theorem entry_forceRelease (table : Table) (node : NodeId) (scope : Key → Bool)
    (key : Key) :
    (table.forceRelease node scope).2.entry key =
      if scope key then (table.entry key).strip node else table.entry key := by
  simp only [forceRelease, Table.entry, ExtTreeMap.getD_eq_getD_getElem?,
    ExtTreeMap.getElem?_filterMap']
  cases table.entries[key]? with
  | none => simp
  | some entry =>
      cases scope key with
      | false => simp
      | true =>
          simp only [Option.bind_some, Option.getD_some, if_true]
          split
          case isTrue empty => exact (Entry.eq_empty_of_isEmpty empty).symm
          case isFalse => rfl

@[simp] theorem entry_empty (key : Key) : entry {} key = {} :=
  ExtTreeMap.getD_empty

end Table

end CacheDirectory
