/-
Module: CacheDirectory.Proofs.DeadNodes
Purpose: A node that died and was then removed from all keys is found at none of them
  ever again, whatever happened between its death and its removal and whatever happens
  afterwards.
Trusted boundary: none
Main exports: newcomers, Effect.registry, View.Retired, Effect.retired, Action.Stretch,
  Action.Stretch.effects, Numbered, Cluster.dead_nodes_hold_nothing
-/
import CacheDirectory.Proofs.Effects

namespace CacheDirectory

open Std

/-! ### One entry -/

namespace Entry

theorem involves_eq_false_iff {entry : Entry} {node : NodeId} :
    entry.involves node = false ↔
      entry.holder node = none ∧ entry.pendingRelease node = none := by
  rw [involves, Bool.or_eq_false_iff, ExtTreeMap.contains_eq_isSome_getElem?,
    ExtTreeMap.contains_eq_isSome_getElem?, Option.isSome_eq_false_iff,
    Option.isSome_eq_false_iff, Option.isNone_iff_eq_none, Option.isNone_iff_eq_none, holder,
    pendingRelease]

/-- A node that is at a key in no way is displaced from it by no grant. -/
theorem involves_grant_of_ne {entry : Entry} {node requester : NodeId} (mode : Mode)
    (distinct : node ≠ requester) (absent : entry.involves node = false) :
    (entry.grant requester mode).2.involves node = false := by
  rw [involves_eq_false_iff] at absent ⊢
  obtain ⟨unheld, unasked⟩ := absent
  have undemanded : entry.demand requester mode node = none := by
    rw [demand_eq, unheld, Option.bind_none]
  rw [holder_grant, if_neg distinct, pendingRelease_grant, undemanded]
  exact ⟨unheld, unasked⟩

theorem involves_strip_self (entry : Entry) (node : NodeId) :
    (entry.strip node).involves node = false := by
  rw [involves_eq_false_iff, holder_strip, if_pos rfl, pendingRelease_strip, if_pos rfl]
  exact ⟨rfl, rfl⟩

/-- Among all that can happen to an entry only a grant to a node brings it there. -/
theorem Change.involves {live : NodeId → Prop} {before after : Entry} {node : NodeId}
    (change : Change live before after) (dead : ¬ live node)
    (absent : before.involves node = false) : after.involves node = false := by
  cases change with
  | kept => exact absent
  | granted requester mode alive =>
      have distinct : node ≠ requester := by
        rintro rfl
        exact dead alive
      exact involves_grant_of_ne mode distinct absent
  | released other =>
      rw [involves_eq_false_iff] at absent ⊢
      rw [holder_release, pendingRelease_release, absent.1, ite_self]
      exact ⟨rfl, absent.2⟩
  | completed other =>
      rw [involves_eq_false_iff] at absent ⊢
      rw [holder_completeRelease, pendingRelease_completeRelease, absent.2, ite_self]
      exact ⟨absent.1, rfl⟩
  | stripped other =>
      rw [involves_eq_false_iff] at absent ⊢
      rw [holder_strip, pendingRelease_strip, absent.1, absent.2, ite_self]
      exact ⟨rfl, ite_self none⟩

end Entry

/-! ### The table of nodes -/

/-- The nodes that registered, in the order of their registration. -/
def newcomers (history : List Event) : List NodeId :=
  history.filterMap fun
    | .registered node => some node
    | _ => none

theorem newcomers_append (first second : List Event) :
    newcomers (first ++ second) = newcomers first ++ newcomers second :=
  List.filterMap_append

theorem mem_newcomers {history : List Event} {node : NodeId} :
    node ∈ newcomers history ↔ .registered node ∈ history := by
  rw [newcomers, List.mem_filterMap]
  constructor
  · rintro ⟨event, among, is⟩
    cases event <;> cases is
    exact among
  · exact fun among => ⟨_, among, rfl⟩

theorem newcomers_eq_nil {history : List Event} (silent : ∀ node, .registered node ∉ history) :
    newcomers history = [] :=
  List.eq_nil_iff_forall_not_mem.mpr fun node among => silent node (mem_newcomers.mp among)

theorem Event.newcomers_ofRelease (node : NodeId) (key : Key)
    (answer : Except DirectoryError Bool) : newcomers (ofRelease node key answer) = [] := by
  rcases answer with cause | (_ | _) <;> rfl

/-- Of all requests only a registration registers anybody. -/
theorem Wire.Request.newcomers_events {request : Request}
    (unregistered : ∀ address, request ≠ .registerNode address)
    (outcome : Except DirectoryError request.Result) : newcomers (request.events outcome) = [] := by
  cases request with
  | registerNode address => exact absurd rfl (unregistered address)
  | access node what =>
      cases outcome with
      | error cause => rfl
      | ok result =>
          rw [events]
          exact newcomers_eq_nil (by simp)
  | releaseObject node oid => exact Event.newcomers_ofRelease node _ outcome
  | releaseBinding node place => exact Event.newcomers_ofRelease node _ outcome
  | newObjectIds | getClassId | getClassInfo => cases outcome <;> rfl

/-- Of the table of nodes an effect sees no more than some deaths or one registration. -/
theorem Effect.registry {reliable forced : Prop} {before after : View} {events : List Event}
    (effect : Effect reliable forced before events after) :
    (∃ died, after.directory.registry = before.directory.registry.markAllDead died ∧
      newcomers events = []) ∨
    ∃ identity registration,
      (before.directory.registry.register identity).1 = .ok registration ∧
      after.directory.registry = (before.directory.registry.register identity).2 ∧
      newcomers events = [registration.node] := by
  cases effect with
  | died directory flights died => exact Or.inl ⟨died, rfl, rfl⟩
  | @registered directory flights identity registration accepted =>
      refine Or.inr ⟨identity, registration, ?_, rfl, rfl⟩
      change (directory.registry.register identity).1.mapError DirectoryError.registration = _
        at accepted
      cases answer : (directory.registry.register identity).1 with
      | error cause =>
          rw [answer] at accepted
          cases accepted
      | ok fresh =>
          rw [answer] at accepted
          cases accepted
          rfl
  | granted =>
      exact Or.inl ⟨[], Directory.registry_grant _ _ _ _, newcomers_eq_nil (by simp)⟩
  | gaveUp directory flights holder given =>
      exact Or.inl ⟨[], rfl, Event.newcomers_ofRelease holder given _⟩
  | continued => exact Or.inl ⟨[], rfl, by split <;> rfl⟩
  | failed directory flights victim => exact Or.inl ⟨[victim], rfl, rfl⟩
  | @settled directory flights index flight =>
      cases flight.ending with
      | nodeFailed => exact Or.inl ⟨[flight.request.target], rfl, rfl⟩
      | acknowledged | targetGone => exact Or.inl ⟨[], rfl, rfl⟩
  | forgone | told | withdrawn | completed | stripped | departed => exact Or.inl ⟨[], rfl, rfl⟩

/-! ### Dead and removed -/

/-- The node is dead, and at none of the keys in `scope`. -/
structure View.Retired (view : View) (node : NodeId) (scope : Key → Bool) : Prop where
  dead : view.directory.registry.isLive node = false
  absent : ∀ key, scope key = true → (view.directory.table.entry key).involves node = false

/-- What declares a node dead, and nothing else. -/
def View.markDead (view : View) (node : NodeId) : View :=
  { view with directory := (view.directory.markDead node).2 }

/-- What removes a node by force from some keys. -/
def View.strip (view : View) (node : NodeId) (scope : Key → Bool) : View :=
  { view with directory := (view.directory.forceRelease node scope).2 }

/-- A dead node need only be removed from further keys to be retired from these as
well. -/
theorem View.Retired.strip {view : View} {node : NodeId} {scope : Key → Bool}
    (retired : view.Retired node scope) (further : Key → Bool) :
    (view.strip node further).Retired node fun key => scope key || further key := by
  constructor
  case dead => exact retired.dead
  case absent =>
    intro key among
    change ((view.directory.forceRelease node further).2.table.entry key).involves node = false
    rw [Directory.entry_forceRelease]
    split
    case isTrue => exact Entry.involves_strip_self _ node
    case isFalse outside =>
      rw [Bool.or_eq_true, or_iff_left outside] at among
      exact retired.absent key among

section

variable {reliable forced : Prop} {before after : View} {events : List Event} {node : NodeId}

/-- The dead stay dead unless their number is given to a new node. -/
theorem Effect.dead (effect : Effect reliable forced before events after)
    (dead : before.directory.registry.isLive node = false)
    (unregistered : .registered node ∉ events) :
    after.directory.registry.isLive node = false := by
  rcases effect.registry with ⟨died, same, -⟩ | ⟨identity, registration, accepted, same, new⟩
  · rw [same]
    refine Bool.eq_false_iff.mpr fun alive => ?_
    exact Bool.eq_false_iff.mp dead (Registry.isLive_of_isLive_markAllDead alive)
  · have distinct : registration.node ≠ node := by
      rintro rfl
      exact unregistered (mem_newcomers.mp (by simp [new]))
    rw [same, Registry.isLive_register accepted distinct, dead]

/-- A dead node comes back to no key that it is not at: it is granted nothing, and a
key asks only its holders to release it. -/
theorem Effect.retired {scope : Key → Bool} (effect : Effect reliable forced before events after)
    (retired : before.Retired node scope) (unregistered : .registered node ∉ events) :
    after.Retired node scope := by
  constructor
  case dead => exact effect.dead retired.dead unregistered
  case absent =>
    intro key inScope
    exact (effect.change key).involves (Bool.eq_false_iff.mp retired.dead)
      (retired.absent key inScope)

theorem Effects.retired {scope : Key → Bool} (effects : Effects reliable forced before events after)
    (retired : before.Retired node scope) (unregistered : .registered node ∉ events) :
    after.Retired node scope := by
  induction effects with
  | none => exact retired
  | cons effect _ ih =>
      rw [List.mem_append, not_or] at unregistered
      exact ih (effect.retired retired unregistered.1) unregistered.2

end

/-! ### Requests in progress -/

namespace Action

/-- A stretch of a request of `node` that is not interrupted: one of its steps, or some of them
one after the other. What other requests do between two stretches of a request is not said
here, so the world in which a stretch begins may be any. -/
inductive Stretch {σ : Type} (node : NodeId) : {α : Type} → Action σ α → Prop
  | pure {α : Type} (result : α) : Stretch node (pure result)
  | throw {α : Type} (cause : DirectoryError) : Stretch node (throw cause : Action σ α)
  | requireArgument (acceptable : Bool) (cause : ArgumentError) :
      Stretch node (requireArgument acceptable cause)
  | requireLive : Stretch node (requireLive node)
  | lookup {α : Type} (read : σ → Reading α × σ) : Stretch node (lookup read)
  | grant (key : Key) (mode : Mode) : Stretch node (grant node key mode)
  | upgrade (key : Key) : Stretch node (upgrade node key)
  | release (key : Key) : Stretch node (release node key)
  | bind {α β : Type} {first : Action σ α} {next : α → Action σ β}
      (start : Stretch node first) (rest : ∀ result, Stretch node (next result)) :
      Stretch node (first >>= next)
  | handle {α : Type} {action : Action σ α} {handler : DirectoryError → Action σ α}
      (start : Stretch node action) (rest : ∀ cause, Stretch node (handler cause)) :
      Stretch node (tryCatch action handler)

namespace Stretch

variable {σ α : Type} {reliable forced : Prop} {node : NodeId} {action : Action σ α}

/-- In whatever world a stretch of a request runs, it is a sequence of effects that registers
nobody. So a request that is interrupted as often as one likes comes to such sequences, with
what the others do in between. -/
theorem effects (stretch : Stretch node action) (world : World σ) (flights : List Flight) :
    ∃ events, newcomers events = [] ∧
      Effects reliable forced ⟨world.directory, flights⟩ events
        ⟨(action.perform world).2.directory, flights⟩ := by
  induction stretch generalizing world with
  | pure | throw => exact ⟨[], rfl, .none _⟩
  | requireArgument acceptable cause =>
      rw [perform_requireArgument]
      exact ⟨[], rfl, .none _⟩
  | requireLive =>
      rw [perform_requireLive]
      exact ⟨[], rfl, .none _⟩
  | lookup read =>
      rw [perform_lookup]
      exact ⟨[], rfl, .single (.died world.directory flights _)⟩
  | grant key mode =>
      rw [perform_grant]
      split
      case isTrue live => exact ⟨_, newcomers_eq_nil (by simp), .single (.granted key mode live)⟩
      case isFalse => exact ⟨[], rfl, .single (.forgone world.directory flights key)⟩
  | upgrade key =>
      have performs : Performs node (Action.upgrade node key : Action σ Conflicts) _ :=
        performs_upgrade
      have performed := performs world
      split at performed
      case h_1 granted =>
        obtain ⟨submitted, -, effects⟩ := performed.effects flights
        rw [granted]
        exact ⟨_, newcomers_eq_nil (by simp), effects⟩
      case h_2 refused =>
        rw [refused]
        exact ⟨[], rfl, performed.effects flights⟩
  | release key =>
      exact ⟨_, Event.newcomers_ofRelease node key _,
        .single (.gaveUp world.directory flights node key)⟩
  | bind start rest begins continues =>
      obtain ⟨events, silent, effects⟩ := begins world
      rw [perform_bind]
      split
      case h_1 result later ran =>
        rw [ran] at effects
        obtain ⟨more, quiet, further⟩ := continues result later
        exact ⟨events ++ more, by rw [newcomers_append, silent, quiet]; rfl, effects.trans further⟩
      case h_2 cause later ran =>
        rw [ran] at effects
        exact ⟨events, silent, effects⟩
  | handle start rest begins continues =>
      obtain ⟨events, silent, effects⟩ := begins world
      rw [perform_tryCatch]
      split
      case h_1 result later ran =>
        rw [ran] at effects
        exact ⟨events, silent, effects⟩
      case h_2 cause later ran =>
        rw [ran] at effects
        obtain ⟨more, quiet, further⟩ := continues cause later
        exact ⟨events ++ more, by rw [newcomers_append, silent, quiet]; rfl, effects.trans further⟩

/-- Whenever a request of whichever node is continued, a node that is dead and was removed from
some keys stays so: it may be its own request, begun while it lived. -/
theorem retired {victim : NodeId} {scope : Key → Bool} (stretch : Stretch node action)
    {world : World σ} {flights : List Flight}
    (retired : View.Retired ⟨world.directory, flights⟩ victim scope) :
    View.Retired ⟨(action.perform world).2.directory, flights⟩ victim scope := by
  have affected : ∃ events, newcomers events = [] ∧ Effects False False _ events _ :=
    stretch.effects world flights
  obtain ⟨events, silent, effects⟩ := affected
  refine effects.retired retired fun registered => ?_
  rw [← mem_newcomers, silent] at registered
  cases registered

end Stretch

section

variable {σ : Type} [Backing σ] (node : NodeId)

theorem stretch_takeObject (oid : ObjectId) (mode : Mode) :
    Stretch node (takeObject node oid mode : Action σ (Option (Bytes × Conflicts))) := by
  refine .bind (.requireArgument _ _) fun _ => .bind .requireLive fun _ =>
    .bind (.lookup _) fun found => ?_
  cases found with
  | none => exact .pure none
  | some contents => exact .bind (.grant _ mode) fun conflicts => .pure _

theorem stretch_resolve (name : String) :
    Stretch node (resolve name : Action σ Landing) := by
  refine .bind (.lookup _) fun bound => ?_
  cases bound with
  | some oid => exact .pure _
  | none => exact .bind (.lookup _) fun next => .pure _

theorem stretch_takeNext (name : String) :
    Stretch node (takeNext node name : Action σ (Landing × Conflicts)) :=
  .bind (.lookup _) fun _ => .bind (.grant _ .write) fun _ => .pure _

theorem stretch_getBindingForRemove (name : String) :
    Stretch node (getBindingForRemove node name : Action σ BindingRemoval) := by
  refine .bind .requireLive fun _ => .bind (.lookup _) fun bound => ?_
  cases bound with
  | none => exact .bind (stretch_takeNext node name) fun next => .pure _
  | some oid =>
      refine .bind (.grant _ .write) fun conflicts => .bind ?_ fun next => .pure _
      exact .handle (stretch_takeNext node name) fun cause =>
        .bind (.release _) fun _ => .throw cause

/-- Stretches are all that a request for access consists of: it is one itself, if nobody
interrupts it. -/
theorem stretch_access (what : Wire.Access) :
    Stretch node (what.action node : Action σ what.Result) := by
  cases what with
  | getObject oid => exact .bind (stretch_takeObject node oid .read) fun taken => .pure _
  | getObjectForUpdate oid => exact .bind (stretch_takeObject node oid .write) fun taken => .pure _
  | upgradeObject oid =>
      exact .bind (.requireArgument _ _) fun _ => .bind .requireLive fun _ =>
        .bind (.upgrade _) fun conflicts => .pure _
  | nextObjectId after =>
      refine .bind (.requireArgument _ _) fun _ => .bind .requireLive fun _ =>
        .bind (.lookup _) fun found => ?_
      cases found with
      | none => exact .pure none
      | some next => exact .bind (.grant _ .read) fun conflicts => .pure _
  | getBinding name =>
      exact .bind .requireLive fun _ => .bind (stretch_resolve node name) fun landing =>
        .bind (.grant _ .read) fun conflicts => .pure _
  | getBindingForUpdate name =>
      exact .bind .requireLive fun _ => .bind (stretch_resolve node name) fun landing =>
        .bind (.grant _ .write) fun conflicts => .pure _
  | getBindingForRemove name => exact stretch_getBindingForRemove node name
  | nextBoundName after =>
      exact .bind .requireLive fun _ => .bind (.lookup _) fun next =>
        .bind (.grant _ .read) fun conflicts => .pure _

end

end Action

/-! ### Numbers of nodes -/

/-- The number that is given to the node which registers after `count` others. There
are only so many numbers: in the end they begin again. -/
def NodeId.nth (count : Nat) : NodeId :=
  ⟨UInt64.ofNat (count + 1)⟩

theorem NodeId.nth_inj {first second : Nat} (below : first < UInt64.size)
    (below' : second < UInt64.size) (same : nth first = nth second) : first = second := by
  have wrapped := congrArg (fun node => node.raw.toNat) same
  simp only [nth, UInt64.toNat_ofNat'] at wrapped
  have size : UInt64.size = 18446744073709551616 := rfl
  omega

/-- Nodes have received their numbers in their order, and the next one is due. -/
structure Numbered (history : List Event) (view : View) : Prop where
  next : (⟨view.directory.registry.nextRaw⟩ : NodeId) = .nth (newcomers history).length
  given : newcomers history = (List.range (newcomers history).length).map .nth

@[simp] theorem Registry.nextRaw_markDead (registry : Registry) (node : NodeId) :
    (registry.markDead node).2.nextRaw = registry.nextRaw := by
  rw [markDead]
  split
  case h_1 => rfl
  case h_2 => split <;> rfl

@[simp] theorem Registry.nextRaw_markAllDead (registry : Registry) (died : List NodeId) :
    (registry.markAllDead died).nextRaw = registry.nextRaw := by
  induction died generalizing registry with
  | nil => rfl
  | cons victim rest ih => exact (ih _).trans (registry.nextRaw_markDead victim)

section

variable {reliable forced : Prop} {before after : View} {events history : List Event}

/-- A registration takes the number that is due; nothing else takes one. -/
theorem Effect.numbers (effect : Effect reliable forced before events after) :
    (newcomers events = [⟨before.directory.registry.nextRaw⟩] ∧
      after.directory.registry.nextRaw = before.directory.registry.nextRaw + 1) ∨
    (newcomers events = [] ∧
      after.directory.registry.nextRaw = before.directory.registry.nextRaw) := by
  rcases effect.registry with ⟨died, same, nobody⟩ | ⟨identity, registration, accepted, same, new⟩
  · exact Or.inr ⟨nobody, by rw [same, Registry.nextRaw_markAllDead]⟩
  · obtain ⟨given, -, later⟩ := Registry.register_eq accepted
    exact Or.inl ⟨by rw [new, given], by rw [same, later]⟩

theorem Numbered.effect (numbered : Numbered history before)
    (effect : Effect reliable forced before events after) : Numbered (history ++ events) after := by
  rcases effect.numbers with ⟨registered, counted⟩ | ⟨silent, same⟩
  · have length : (newcomers (history ++ events)).length = (newcomers history).length + 1 := by
      rw [newcomers_append, registered, List.length_append, List.length_singleton]
    constructor
    case next =>
      rw [length, counted, NodeId.nth, UInt64.ofNat_add]
      exact congrArg (fun node : NodeId => (⟨node.raw + 1⟩ : NodeId)) numbered.next
    case given =>
      rw [length, List.range_succ, List.map_append, ← numbered.given, newcomers_append, registered,
        numbered.next]
      rfl
  · have unchanged : newcomers (history ++ events) = newcomers history := by
      rw [newcomers_append, silent, List.append_nil]
    constructor
    case next => rw [same, unchanged, numbered.next]
    case given => rw [unchanged, ← numbered.given]

/-- To give a number twice, all numbers have to be given in between. -/
theorem Numbered.lt_of_reused {earlier later : List Event} {view : View} {node : NodeId}
    (numbered : Numbered (earlier ++ later) view) (first : .registered node ∈ earlier)
    (second : .registered node ∈ later) : UInt64.size < (newcomers (earlier ++ later)).length := by
  refine Nat.lt_of_not_le fun few => ?_
  have distinct : (newcomers (earlier ++ later)).Nodup := by
    rw [numbered.given, List.Nodup, List.pairwise_map]
    refine List.nodup_range.imp_of_mem fun {one other} below below' different same => ?_
    rw [List.mem_range] at below below'
    exact different (NodeId.nth_inj (Nat.lt_of_lt_of_le below few)
      (Nat.lt_of_lt_of_le below' few) same)
  rw [newcomers_append, List.nodup_append] at distinct
  exact distinct.2.2 node (mem_newcomers.mpr first) node (mem_newcomers.mpr second) rfl

end

theorem numbered_start (range : PortRange) (sink : Sink) :
    Numbered [] ⟨Directory.new range sink, []⟩ :=
  ⟨rfl, rfl⟩

theorem Numbered.effects {reliable forced : Prop} {before after : View}
    {history events : List Event} (numbered : Numbered history before)
    (effects : Effects reliable forced before events after) : Numbered (history ++ events) after :=
  effects.preserve Numbered (fun numbered effect => numbered.effect effect) history numbered

/-! ### Runs -/

/-- The three parts of a failure, with anything in between, retire a node from all
keys, unless its number has been given to a new node since. -/
theorem Effects.retired_of_parts {reliable : Prop} {range : PortRange} {sink : Sink}
    {node : NodeId} {first second third fourth : List Event} {born doomed bare final : View}
    (before : Effects reliable True ⟨Directory.new range sink, []⟩ first born)
    (registered : .registered node ∈ first)
    (between : Effects reliable True (born.markDead node) second doomed)
    (meanwhile : Effects reliable True (doomed.strip node Key.isObject) third bare)
    (afterwards : Effects reliable True (bare.strip node Key.isBinding) fourth final) :
    final.Retired node (fun _ => true) ∨
      UInt64.size < (newcomers (first ++ (second ++ third ++ fourth))).length := by
  have death : Effect reliable True born [] (born.markDead node) :=
    .died born.directory born.flights [node]
  by_cases reused : .registered node ∈ second ++ third ++ fourth
  · right
    have stripped : ∀ (view : View) (scope : Key → Bool),
        Effect reliable True view [.cleared node scope] (view.strip node scope) :=
      fun view scope => .stripped view.directory view.flights node scope trivial
    let later := second ++ ([.cleared node Key.isObject] ++
      (third ++ ([.cleared node Key.isBinding] ++ fourth)))
    have numbered : Numbered (first ++ later) final :=
      (numbered_start range sink).effects (before.trans (.silent death
        (between.trans (.cons (stripped doomed Key.isObject)
          (meanwhile.trans (.cons (stripped bare Key.isBinding) afterwards))))))
    have among : .registered node ∈ later := by
      simpa [later] using reused
    have many := numbered.lt_of_reused registered among
    simpa [later, newcomers] using many
  · left
    rw [List.mem_append, List.mem_append, not_or, not_or] at reused
    have dead : (born.markDead node).Retired node fun _ => false := by
      constructor
      case dead =>
        change (born.directory.registry.markDead node).2.isLive node = false
        rw [Registry.isLive_markDead, bne_self_eq_false, Bool.and_false]
      case absent => exact nofun
    have noObject := (between.retired dead reused.1.1).strip Key.isObject
    have nothing := (meanwhile.retired noObject reused.1.2).strip Key.isBinding
    have retired := afterwards.retired nothing reused.2
    refine ⟨retired.dead, fun key _ => retired.absent key ?_⟩
    cases key <;> rfl

namespace Cluster

variable {σ : Type} [Backing σ]

/-- A registered node that is declared dead, then removed from all objects, then from
all bindings, is never found at any key again, be it as a holder or as one that is to
release the key. Anything may happen before, between and after the three parts: whole
requests during whose lookups nodes die, or only some stretches of requests of this or
another node, each of which is a sequence of effects in whatever state it runs
(`Action.Stretch.effects`). The one way back is that of a new node with the same number,
after all numbers have been used up. -/
theorem dead_nodes_hold_nothing (range : PortRange) (sink : Sink) (settings : DeliverySettings)
    (store : σ) (endpoints : Endpoints) (node : NodeId) :
    (∀ before between meanwhile afterwards : List (Step σ),
      let born := (start range sink settings store endpoints).run before
      let doomed := (born.2.step (.markDead node)).2.run between
      let bare := (doomed.2.step (.forceRelease node Key.isObject)).2.run meanwhile
      let final := (bare.2.step (.forceRelease node Key.isBinding)).2.run afterwards
      .registered node ∈ born.1 →
        final.2.view.Retired node (fun _ => true) ∨
          UInt64.size < (newcomers (born.1 ++ (doomed.1 ++ bare.1 ++ final.1))).length) ∧
    ∀ {reliable : Prop} {first second third fourth : List Event} {born doomed bare final : View},
      Effects reliable True ⟨Directory.new range sink, []⟩ first born →
      .registered node ∈ first →
      Effects reliable True (born.markDead node) second doomed →
      Effects reliable True (doomed.strip node Key.isObject) third bare →
      Effects reliable True (bare.strip node Key.isBinding) fourth final →
        final.Retired node (fun _ => true) ∨
          UInt64.size < (newcomers (first ++ (second ++ third ++ fourth))).length := by
  constructor
  · intro before between meanwhile afterwards born doomed bare final registered
    have effects : ∀ (cluster : Cluster σ) (steps : List (Step σ)),
        Effects (Backing.Reliable σ) True cluster.view (cluster.run steps).1
          (cluster.run steps).2.view :=
      fun cluster steps => cluster.run_effects steps fun _ _ _ => trivial
    have first : Effects (Backing.Reliable σ) True ⟨Directory.new range sink, []⟩ born.1
        born.2.view :=
      effects (start range sink settings store endpoints) before
    have second : Effects (Backing.Reliable σ) True (born.2.view.markDead node) doomed.1
        doomed.2.view :=
      effects (born.2.step (.markDead node)).2 between
    have third : Effects (Backing.Reliable σ) True (doomed.2.view.strip node Key.isObject) bare.1
        bare.2.view :=
      effects (doomed.2.step (.forceRelease node Key.isObject)).2 meanwhile
    have fourth : Effects (Backing.Reliable σ) True (bare.2.view.strip node Key.isBinding) final.1
        final.2.view :=
      effects (bare.2.step (.forceRelease node Key.isBinding)).2 afterwards
    exact Effects.retired_of_parts first registered second third fourth
  · exact Effects.retired_of_parts

/-- A writer dies, is displaced by a reader while it is dead, and is removed; what it
asks for afterwards is refused. -/
theorem retired_displaced :
    let born := oneObject.run (displacedTwice.take 4)
    let doomed := (born.2.step (.markDead 1)).2.run [.request (.access 2 (.getObject 5))]
    let bare := (doomed.2.step (.forceRelease 1 Key.isObject)).2.run []
    let final := (bare.2.step (.forceRelease 1 Key.isBinding)).2.run
      [.request (.access 1 (.getObject 5))]
    .registered 1 ∈ born.1 ∧
      (doomed.2.directory.table.entry (.object 5)).pendingRelease 1 = some .evict ∧
      final.2.view.Retired 1 fun _ => true := by
  intro born doomed bare final
  have registered : .registered 1 ∈ born.1 := mem_newcomers.mp (by decide +kernel)
  have retired := (dead_nodes_hold_nothing _ _ _ _ _ 1).1 (displacedTwice.take 4)
    [.request (.access 2 (.getObject 5))] [] [.request (.access 1 (.getObject 5))] registered
  refine ⟨registered, by decide +kernel, retired.resolve_right ?_⟩
  decide +kernel

end Cluster

end CacheDirectory
