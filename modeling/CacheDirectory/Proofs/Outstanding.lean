/-
Module: CacheDirectory.Proofs.Outstanding
Purpose: The requests under way against the directory's record of them. The record
  of a node and a key is the strongest request to the node for the key since that
  record was last cleared, and every record still has its request under way.
Trusted boundary: none
Main exports: Directory.Recalls, Effect.recalls, Effect.conserves, Accounts,
  Accounts.effect, Cluster.run_accounts
-/
import CacheDirectory.Proofs.Effects
import Mathlib.Data.List.Perm.Basic

namespace CacheDirectory

open Wire

/-- The requests of a view that were submitted and are not settled. -/
def View.outstanding (view : View) : List ReleaseRequest :=
  view.directory.pending ++ view.flights.map (·.request)

/-- The directory remembers that `node` is to release `key`, by a request at least
as strong as `bound`. -/
def Directory.Recalls (directory : Directory) (node : NodeId) (key : Key) (bound : Release) :
    Prop :=
  ∃ kind, directory.table.pendingRelease key node = some kind ∧ bound ≤ kind

namespace Event

/-- A request to `node` for `key`, at least as strong as `bound`. -/
def Asks (node : NodeId) (key : Key) (bound : Release) : Event → Prop
  | .submitted request => request.target = node ∧ request.key = key ∧ bound ≤ request.release
  | _ => False

/-- The end of the record that `node` is to release `key`. -/
def Clears (node : NodeId) (key : Key) : Event → Prop
  | .cleared target scope => target = node ∧ scope key = true
  | _ => False

end Event

/-! ### What each effect does to the records -/

/-- Some of the records about `target` end, and all other records stay. -/
structure Directory.Clears (before after : Directory) (target : NodeId) (scope : Key → Bool) :
    Prop where
  gone : ∀ key, scope key = true → after.table.pendingRelease key target = none
  kept : ∀ node key, ¬ (target = node ∧ scope key = true) →
    after.table.pendingRelease key node = before.table.pendingRelease key node

namespace Directory

theorem clears_completeRelease (directory : Directory) (node : NodeId) (key : Key) :
    directory.Clears (directory.completeRelease node key).2 node (· == key) := by
  constructor
  · intro place same
    rw [Table.pendingRelease_eq, entry_completeRelease, if_pos (beq_iff_eq.mp same),
      Entry.pendingRelease_completeRelease, if_pos rfl]
  · intro other place distinct
    rw [Table.pendingRelease_eq, Table.pendingRelease_eq, entry_completeRelease]
    split
    case isFalse => rfl
    case isTrue same =>
      subst same
      have another : ¬ other = node := fun equal => distinct ⟨equal.symm, beq_self_eq_true place⟩
      rw [Entry.pendingRelease_completeRelease, if_neg another]

theorem clears_forceRelease (directory : Directory) (node : NodeId) (scope : Key → Bool) :
    directory.Clears (directory.forceRelease node scope).2 node scope := by
  constructor
  · intro place inScope
    rw [Table.pendingRelease_eq, entry_forceRelease, if_pos inScope, Entry.pendingRelease_strip,
      if_pos rfl]
  · intro other place distinct
    rw [Table.pendingRelease_eq, Table.pendingRelease_eq, entry_forceRelease]
    split
    case isFalse => rfl
    case isTrue inScope =>
      have another : ¬ other = node := fun equal => distinct ⟨equal.symm, inScope⟩
      rw [Entry.pendingRelease_strip, if_neg another]

theorem clears_nodeFailed (directory : Directory) (node : NodeId) :
    directory.Clears (directory.nodeFailed node).2 node fun _ => true := by
  constructor
  · intro place _
    rw [Table.pendingRelease_eq, entry_nodeFailed, Entry.pendingRelease_strip, if_pos rfl]
  · intro other place distinct
    have another : ¬ other = node := fun equal => distinct ⟨equal.symm, rfl⟩
    rw [Table.pendingRelease_eq, Table.pendingRelease_eq, entry_nodeFailed,
      Entry.pendingRelease_strip, if_neg another]

/-- However a delivery ends, its request is recorded no more. -/
theorem clears_settle (directory : Directory) (request : ReleaseRequest)
    (outcome : DeliveryOutcome) :
    ∃ scope, outcome.clears request = .cleared request.target scope ∧
      scope request.key = true ∧
      directory.Clears (directory.settle request outcome) request.target scope := by
  cases outcome with
  | nodeFailed => exact ⟨_, rfl, rfl, directory.clears_nodeFailed request.target⟩
  | acknowledged | targetGone =>
      exact ⟨_, rfl, beq_self_eq_true request.key,
        directory.clears_completeRelease request.target request.key⟩

theorem recalls_grant {directory : Directory} (collecting : directory.sink = .collecting)
    (requester : NodeId) (taken : Key) (mode : Mode) (node : NodeId) (key : Key)
    (bound : Release) :
    (directory.grant requester taken mode).2.Recalls node key bound ↔
      directory.Recalls node key bound ∨
        ∃ request ∈ directory.asked requester taken mode,
          request.target = node ∧ request.key = key ∧ bound ≤ request.release := by
  simp only [Recalls, mem_asked collecting, Table.pendingRelease_eq, entry_grant]
  by_cases same : key = taken
  · subst same
    rw [if_pos rfl, Entry.pendingRelease_grant]
    cases demanded : (directory.table.entry key).demand requester mode node with
    | none =>
        refine ⟨Or.inl, ?_⟩
        rintro (recorded | ⟨request, ⟨-, asked⟩, rfl, -, -⟩)
        · exact recorded
        · rw [demanded] at asked
          cases asked
    | some kind =>
        simp only [Option.some.injEq, exists_eq_left', Release.le_merge_iff]
        refine or_congr Iff.rfl ⟨fun strong => ?_, ?_⟩
        · exact ⟨⟨node, key, kind⟩, ⟨rfl, demanded⟩, rfl, rfl, strong⟩
        · rintro ⟨request, ⟨-, asked⟩, rfl, -, strong⟩
          rw [demanded] at asked
          cases asked
          exact strong
  · rw [if_neg same]
    refine ⟨Or.inl, ?_⟩
    rintro (recorded | ⟨request, ⟨elsewhere, -⟩, -, here, -⟩)
    · exact recorded
    · exact absurd (here.symm.trans elsewhere) same

theorem Clears.recalls {before after : Directory} {target : NodeId} {scope : Key → Bool}
    (clears : before.Clears after target scope) (node : NodeId) (key : Key) (bound : Release) :
    after.Recalls node key bound ↔
      before.Recalls node key bound ∧ ¬ (Event.cleared target scope).Clears node key := by
  by_cases cleared : target = node ∧ scope key = true
  · refine ⟨?_, fun ⟨_, kept⟩ => absurd cleared kept⟩
    rintro ⟨kind, recorded, -⟩
    rw [← cleared.1, clears.gone key cleared.2] at recorded
    cases recorded
  · rw [Recalls, clears.kept node key cleared]
    exact (and_iff_left cleared).symm

end Directory

/-- Events that tell of no request and of no end of a record. -/
def Event.Unrelated : Event → Prop
  | .submitted _ | .cleared _ _ => False
  | _ => True

theorem Event.unrelated_ofRelease (node : NodeId) (key : Key)
    (answer : Except DirectoryError Bool) :
    ∀ event ∈ ofRelease node key answer, event.Unrelated := by
  intro event among
  unfold ofRelease at among
  split at among
  · rw [List.mem_singleton.mp among]
    trivial
  · cases among

section

variable {node : NodeId} {key : Key} {bound : Release} {events : List Event}

theorem Event.Unrelated.not_clears {event : Event} (unrelated : event.Unrelated) :
    ¬ event.Clears node key := by
  cases event <;> first | exact id | exact absurd unrelated id

theorem Event.Unrelated.not_asks {event : Event} (unrelated : event.Unrelated) :
    ¬ event.Asks node key bound := by
  cases event <;> first | exact id | exact absurd unrelated id

theorem Directory.recalls_of_unrelated {before after : Directory}
    (same : after.table.pendingRelease key node = before.table.pendingRelease key node)
    (unrelated : ∀ event ∈ events, event.Unrelated) :
    after.Recalls node key bound ↔
      (before.Recalls node key bound ∧ ∀ event ∈ events, ¬ event.Clears node key) ∨
        ∃ event ∈ events, event.Asks node key bound := by
  have kept : ∀ event ∈ events, ¬ event.Clears node key :=
    fun event among => (unrelated event among).not_clears
  have unasked : ¬ ∃ event ∈ events, event.Asks node key bound :=
    fun ⟨event, among, asks⟩ => (unrelated event among).not_asks asks
  rw [or_iff_left unasked, and_iff_left kept, Recalls, same]
  rfl

theorem Directory.Clears.recalls_append {before after : Directory} {target : NodeId}
    {scope : Key → Bool} (clears : before.Clears after target scope) :
    after.Recalls node key bound ↔
      (before.Recalls node key bound ∧
        ∀ event ∈ [Event.cleared target scope], ¬ event.Clears node key) ∨
        ∃ event ∈ [Event.cleared target scope], event.Asks node key bound := by
  simp [clears.recalls node key bound, Event.Asks]

end

section

variable {reliable forced : Prop} {before after : View} {events : List Event}

/-- What is recorded after an effect: what was recorded before and is not cleared,
and what is newly asked. -/
theorem Effect.recalls (effect : Effect reliable forced before events after)
    (collecting : before.directory.sink = .collecting) (node : NodeId) (key : Key)
    (bound : Release) :
    after.directory.Recalls node key bound ↔
      (before.directory.Recalls node key bound ∧ ∀ event ∈ events, ¬ event.Clears node key) ∨
        ∃ event ∈ events, event.Asks node key bound := by
  cases effect with
  | died => exact Directory.recalls_of_unrelated rfl nofun
  | forgone directory _ other =>
      exact Directory.recalls_of_unrelated (directory.pendingRelease_forgo other key node) nofun
  | registered => exact Directory.recalls_of_unrelated rfl (by simp [Event.Unrelated])
  | told => exact Directory.recalls_of_unrelated rfl (by simp [Event.Unrelated])
  | departed => exact Directory.recalls_of_unrelated rfl nofun
  | continued =>
      refine Directory.recalls_of_unrelated rfl ?_
      split <;> simp [Event.Unrelated]
  | @granted directory _ requester taken mode live =>
      have kept : ∀ event ∈ (directory.asked requester taken mode).map Event.submitted,
          ¬ event.Clears node key := by
        intro event among
        obtain ⟨request, -, rfl⟩ := List.mem_map.mp among
        exact id
      rw [and_iff_left kept]
      refine (Directory.recalls_grant collecting requester taken mode node key bound).trans ?_
      simp [Event.Asks]
  | @withdrawn directory _ holder other dead =>
      exact Directory.recalls_of_unrelated (directory.pendingRelease_release holder other key node)
        nofun
  | gaveUp directory _ holder other =>
      exact Directory.recalls_of_unrelated (directory.pendingRelease_release holder other key node)
        (Event.unrelated_ofRelease holder other _)
  | completed directory _ holder other =>
      exact (directory.clears_completeRelease holder other).recalls_append
  | stripped directory _ holder scope =>
      exact (directory.clears_forceRelease holder scope).recalls_append
  | failed directory _ holder =>
      exact (directory.clears_nodeFailed holder).recalls_append
  | @settled directory _ _ flight =>
      obtain ⟨scope, traced, -, clears⟩ := directory.clears_settle flight.request flight.ending
      rw [traced]
      exact clears.recalls_append

/-- A record ends by an effect that leaves no other trace. -/
theorem Effect.clears_alone (effect : Effect reliable forced before events after) {node : NodeId}
    {key : Key} : ∀ event ∈ events, event.Clears node key → events = [event] := by
  intro event among clears
  rcases effect.alone event among with ⟨request, rfl⟩ | alone
  · exact absurd clears id
  · exact alone

theorem Effect.sink_eq (effect : Effect reliable forced before events after) :
    after.directory.sink = before.directory.sink := by
  cases effect with
  | granted => exact Directory.sink_grant ..
  | @settled _ _ _ flight => cases flight.ending <;> rfl
  | _ => rfl

/-! ### What each effect does to the requests under way -/

/-- The request that an event is about the submission of. -/
def Event.submission? : Event → Option ReleaseRequest
  | .submitted request => some request
  | _ => none

theorem perm_eraseIdx {α : Type} {items : List α} {index : Nat} {item : α}
    (present : items[index]? = some item) : items.Perm (item :: items.eraseIdx index) := by
  obtain ⟨inside, rfl⟩ := List.getElem?_eq_some_iff.mp present
  exact (List.getElem_cons_eraseIdx_perm inside).symm

/-- Requests are conserved from `before` to `after`: those under way and those
submitted are those still under way and those whose record ended. -/
def Conserves (before after : View) (events : List Event) : Prop :=
  ∃ settled, (before.outstanding ++ events.filterMap Event.submission?).Perm
      (settled ++ after.outstanding) ∧
    ∀ request ∈ settled, ∃ event ∈ events, event.Clears request.target request.key

theorem Conserves.of_perm (same : before.outstanding.Perm after.outstanding)
    (silent : events.filterMap Event.submission? = []) : Conserves before after events := by
  refine ⟨[], ?_, nofun⟩
  rw [silent, List.append_nil]
  exact same

theorem Effect.conserves (effect : Effect reliable forced before events after) :
    Conserves before after events := by
  cases effect with
  | died | forgone | registered | told | withdrawn | completed | stripped | failed =>
      exact .of_perm (.refl _) rfl
  | gaveUp directory _ holder given =>
      refine .of_perm (.refl _) ?_
      rw [Event.ofRelease_ok]
      cases (directory.release holder given).1 <;> rfl
  | @granted directory flights requester taken mode live =>
      refine ⟨[], ?_, nofun⟩
      have submissions : ((directory.asked requester taken mode).map Event.submitted).filterMap
          Event.submission? = directory.asked requester taken mode := by
        rw [List.filterMap_map]
        exact List.filterMap_some
      simp only [View.outstanding, submissions, Directory.pending_grant, List.nil_append,
        List.append_assoc]
      exact List.perm_append_comm.append_left _
  | @departed directory flights index request due waiting =>
      refine .of_perm ?_ rfl
      have taken := (perm_eraseIdx waiting).append_right (flights.map (·.request))
      simp only [View.outstanding, List.map_append, List.map_cons, List.map_nil]
      rw [← List.append_assoc]
      exact taken.trans (List.perm_append_singleton request _).symm
  | @continued directory flights index flight later flying same =>
      refine .of_perm ?_ (by split <;> rfl)
      have unchanged : (flights.set index later).map (·.request) = flights.map (·.request) := by
        have present : (flights.map (·.request))[index]? = some later.request := by
          rw [List.getElem?_map, flying, same]
          rfl
        obtain ⟨inside, found⟩ := List.getElem?_eq_some_iff.mp present
        rw [List.map_set, ← found]
        exact List.set_getElem_self inside
      simp only [View.outstanding, unchanged]
      exact .refl _
  | @settled directory flights index flight flying gone =>
      obtain ⟨scope, traced, inScope, -⟩ := directory.clears_settle flight.request flight.ending
      refine ⟨[flight.request], ?_, ?_⟩
      · have taken := ((perm_eraseIdx flying).map (·.request)).append_left directory.pending
        have pending : (directory.settle flight.request flight.ending).pending =
            directory.pending := by
          cases flight.ending <;> rfl
        have silent : [Event.cleared flight.request.target scope].filterMap
            Event.submission? = [] := rfl
        rw [traced, silent, List.append_nil]
        simp only [View.outstanding, pending]
        exact taken.trans List.perm_middle
      · intro request among
        rw [List.mem_singleton.mp among, traced]
        exact ⟨_, List.mem_cons_self, rfl, inScope⟩

/-! ### The account that a run keeps -/

/-- The history and the state agree on requests: what is recorded is what was asked
since the record last ended, and so is, among the requests that were submitted,
still under way. -/
structure Accounts (history : List Event) (view : View) : Prop where
  collecting : view.directory.sink = .collecting
  recalls : ∀ node key bound, view.directory.Recalls node key bound ↔
    Since (Event.Asks node key bound) (Event.Clears node key) history
  kept : ∀ request, Since (· = .submitted request) (Event.Clears request.target request.key)
    history → request ∈ view.outstanding
  submitted : ∀ request ∈ view.outstanding, .submitted request ∈ history

theorem accounts_start (range : PortRange) :
    Accounts [] ⟨Directory.new range .collecting, []⟩ := by
  constructor
  case collecting => rfl
  case recalls =>
    intro node key bound
    apply iff_of_false
    · rintro ⟨kind, recorded, -⟩
      change (Table.entry {} key).pendingRelease node = _ at recorded
      rw [Table.entry_empty, Entry.pendingRelease_empty] at recorded
      cases recorded
    · exact not_since_nil
  case kept =>
    intro request opened
    exact absurd opened not_since_nil
  case submitted => exact nofun

theorem Event.submission?_eq_some {event : Event} {request : ReleaseRequest} :
    event.submission? = some request ↔ event = .submitted request := by
  cases event <;> simp [submission?]

theorem Event.Clears.not_submitted {event : Event} {node : NodeId} {key : Key}
    (clears : event.Clears node key) (request : ReleaseRequest) : event ≠ .submitted request := by
  rintro rfl
  exact clears

theorem Event.Clears.not_asks {event : Event} {node other : NodeId} {key place : Key}
    (clears : event.Clears node key) (bound : Release) : ¬ event.Asks other place bound := by
  cases event <;> first | exact id | exact absurd clears id

theorem Accounts.effect {history : List Event} (accounts : Accounts history before)
    (effect : Effect reliable forced before events after) :
    Accounts (history ++ events) after := by
  obtain ⟨settled, balance, ended⟩ := effect.conserves
  have stays : ∀ request ∈ before.outstanding ++ events.filterMap Event.submission?,
      (∀ event ∈ events, ¬ event.Clears request.target request.key) →
        request ∈ after.outstanding := by
    intro request among unended
    rcases List.mem_append.mp (balance.mem_iff.mp among) with gone | kept
    · obtain ⟨event, happened, clears⟩ := ended request gone
      exact absurd clears (unended event happened)
    · exact kept
  constructor
  case collecting => exact effect.sink_eq.trans accounts.collecting
  case recalls =>
    intro node key bound
    rw [effect.recalls accounts.collecting, accounts.recalls, since_append_of_alone]
    intro event among clears
    exact ⟨effect.clears_alone event among clears, clears.not_asks bound⟩
  case kept =>
    intro request since
    rw [since_append_of_alone fun event among clears =>
      ⟨effect.clears_alone event among clears, clears.not_submitted request⟩] at since
    rcases since with ⟨before, unended⟩ | ⟨event, among, rfl⟩
    · exact stays request (List.mem_append_left _ (accounts.kept request before)) unended
    · apply stays request
      · exact List.mem_append_right _ (List.mem_filterMap.mpr ⟨_, among, rfl⟩)
      · intro other happened clears
        rw [effect.clears_alone other happened clears, List.mem_singleton] at among
        exact clears.not_submitted request among.symm
  case submitted =>
    intro request among
    rcases List.mem_append.mp (balance.mem_iff.mpr (List.mem_append_right settled among)) with
      before | new
    · exact List.mem_append_left events (accounts.submitted request before)
    · obtain ⟨event, happened, is⟩ := List.mem_filterMap.mp new
      rw [Event.submission?_eq_some.mp is] at happened
      exact List.mem_append_right history happened

/-- A record is that of a request that is still under way. -/
theorem Accounts.mem_outstanding {history : List Event} {view : View}
    (accounts : Accounts history view) {node : NodeId} {key : Key} {kind : Release}
    (recorded : view.directory.table.pendingRelease key node = some kind) :
    (⟨node, key, kind⟩ : ReleaseRequest) ∈ view.outstanding := by
  obtain ⟨before, event, after, split, asks, unended⟩ :=
    (accounts.recalls node key kind).mp ⟨kind, recorded, Release.le_refl kind⟩
  cases event with
  | submitted request =>
      obtain ⟨rfl, rfl, strong⟩ := asks
      -- The record is the strongest request since it began, so it is this one.
      have recalled : view.directory.Recalls request.target request.key request.release :=
        (accounts.recalls _ _ _).mpr
          ⟨before, _, after, split, ⟨rfl, rfl, Release.le_refl _⟩, unended⟩
      obtain ⟨other, same, weak⟩ := recalled
      rw [recorded] at same
      cases same
      rw [Release.le_antisymm strong weak]
      exact accounts.kept request ⟨before, _, after, split, rfl, unended⟩
  | _ => cases asks

end

namespace Cluster

/-- Every run from the start keeps account, as long as requests are collected. -/
theorem run_accounts {σ : Type} [Backing σ] (range : PortRange) (settings : DeliverySettings)
    (store : σ) (endpoints : Endpoints) (steps : List (Step σ)) :
    Accounts ((start range .collecting settings store endpoints).run steps).1
      ((start range .collecting settings store endpoints).run steps).2.view := by
  have anyway : ∀ step ∈ steps, step.isForced → True := fun _ _ _ => trivial
  exact run_preserves anyway Accounts (accounts_start range)
    fun accounts effect => accounts.effect effect

end Cluster

end CacheDirectory
