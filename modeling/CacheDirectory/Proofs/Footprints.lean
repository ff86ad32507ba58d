/-
Module: CacheDirectory.Proofs.Footprints
Purpose: The keys that a request for access is about, and that it is about no others: what
  it answers, asks and does depends on the state of these keys only, and every other key
  stays as it is.
Trusted boundary: none
Main exports: Action.resolved, Wire.Access.resolution, World.AgreesOn, World.Touches,
  World.Alongside, Action.ConfinedAt, Action.Confined, Action.confined_access
-/
import CacheDirectory.Proofs.Displacement

namespace CacheDirectory

open Std Wire

/-! ### Tables that agree on some keys -/

namespace Table

/-- The tables track the same of the keys, with the same holders and the same records. -/
def AgreesOn (keys : List Key) (first second : Table) : Prop :=
  ∀ key ∈ keys, first.entries[key]? = second.entries[key]?

/-- A change of the table that concerns one key: what becomes of the key follows from what it
was, and nothing becomes of any other key. -/
structure Concerns (key : Key) (change : Table → Table) : Prop where
  here : ∀ {first second : Table}, first.entries[key]? = second.entries[key]? →
    (change first).entries[key]? = (change second).entries[key]?
  elsewhere : ∀ (table : Table) {other : Key}, other ≠ key →
    (change table).entries[other]? = table.entries[other]?

variable {keys : List Key} {first second : Table} {key : Key}

theorem entry_congr (same : first.entries[key]? = second.entries[key]?) :
    first.entry key = second.entry key := by
  simp only [Table.entry, ExtTreeMap.getD_eq_getD_getElem?, same]

theorem AgreesOn.entry (agrees : AgreesOn keys first second) (among : key ∈ keys) :
    first.entry key = second.entry key :=
  entry_congr (agrees key among)

theorem AgreesOn.tracks (agrees : AgreesOn keys first second) (among : key ∈ keys) :
    first.tracks key = second.tracks key := by
  simp only [Table.tracks, ExtTreeMap.contains_eq_isSome_getElem?, agrees key among]

theorem concerns_write (key : Key) (revised : Entry → Entry) :
    Concerns key fun table => table.write key (revised (table.entry key)) where
  here := by
    intro first second same
    rw [getElem?_write, getElem?_write, if_pos rfl, if_pos rfl, entry_congr same]
  elsewhere := by
    intro table other distinct
    rw [getElem?_write, if_neg distinct]

theorem concerns_prune (key : Key) : Concerns key (·.prune key) where
  here := by
    intro first second same
    rw [getElem?_prune, getElem?_prune, entry_congr same, same]
  elsewhere := by
    intro table other distinct
    rw [getElem?_prune, if_neg fun pruned => distinct pruned.1]

/-- Tracking a key and pruning it comes to pruning it. -/
theorem concerns_forgo (key : Key) : Concerns key fun table => (table.track key).prune key := by
  simp only [prune_track]
  exact concerns_prune key

theorem concerns_grant (node : NodeId) (key : Key) (mode : Mode) :
    Concerns key fun table => (table.grant node key mode).2 :=
  concerns_write key fun entry => (entry.grant node mode).2

/-- A key is revised by writing it and pruning it. -/
theorem concerns_revise (key : Key) {change : Entry → Bool × Entry}
    (idle : change {} = (false, {})) :
    Concerns key fun table => (table.revise key change).2 := by
  have written := concerns_write key fun entry => (change entry).2
  have pruned := concerns_prune key
  constructor
  case here =>
    intro first second same
    rw [revise_eq first key idle, revise_eq second key idle]
    exact pruned.here (written.here same)
  case elsewhere =>
    intro table other distinct
    rw [revise_eq table key idle]
    exact (pruned.elsewhere _ distinct).trans (written.elsewhere table distinct)

/-- Tables agree on what they agreed on if the same is done to one key in both. -/
theorem AgreesOn.changed (agrees : AgreesOn keys first second) {change : Table → Table}
    (concerns : Concerns key change) : AgreesOn keys (change first) (change second) := by
  intro other among
  by_cases same : other = key
  · subst same
    exact concerns.here (agrees other among)
  · rw [concerns.elsewhere first same, concerns.elsewhere second same, agrees other among]

end Table

/-! ### The keys of an operation -/

namespace Action

variable {σ α β : Type}

/-- The keys that a resolution ends at. One that is refused ends at none. -/
def resolved (resolution : Action σ (List Key)) (world : World σ) : List Key :=
  match (resolution.perform world).1 with
  | .ok keys => keys
  | .error _ => []

theorem resolved_bind (first : Action σ α) (next : α → Action σ (List Key)) (world : World σ) :
    (first >>= next).resolved world =
      match first.perform world with
      | (.ok result, later) => (next result).resolved later
      | (.error _, _) => [] := by
  rw [resolved, perform_bind]
  rcases first.perform world with ⟨_ | _, _⟩ <;> rfl

/-- The keys of an operation whose first key is known and whose other keys may be refused. -/
theorem resolved_cons (key : Key) (rest : Action σ (List Key)) (world : World σ) :
    (do return key :: (← tryCatch rest fun _ => return []) : Action σ (List Key)).resolved world =
      key :: rest.resolved world := by
  rw [resolved_bind, perform_tryCatch, resolved]
  rcases rest.perform world with ⟨_ | _, _⟩ <;> rfl

variable [Backing σ]

/-- The place where a search for the next bound name ends. -/
def nextPlace (name : Option String) : Action σ (List Key) := do
  let landing := Landing.ofNext (← lookup (Backing.nextBinding name))
  return [.binding landing.place]

/-- Where the search ends is for the store to say. -/
theorem resolved_nextPlace_congr (name : Option String) {one other : World σ}
    (same : one.store = other.store) :
    (nextPlace name : Action σ _).resolved one = (nextPlace name).resolved other := by
  rw [nextPlace, resolved_bind, resolved_bind, perform_lookup, perform_lookup, same]
  cases (Backing.nextBinding name other.store).1.outcome <;> rfl

end Action

/-- The keys that a request for access is about, found as the request finds them but not
taken. A request that is refused before it finds any, or that finds nothing, is about none;
a removal of a bound name is about two, or about the name alone if the search for the next
one fails. -/
def Wire.Access.resolution {σ : Type} [Backing σ] (node : NodeId) : Access → Action σ (List Key)
  | .getObject oid | .getObjectForUpdate oid => do
    Action.requireArgument (0 ≤ oid) (.negativeObject oid)
    Action.requireLive node
    match ← Action.lookup (Backing.object oid) with
    | none => return []
    | some _ => return [.object oid]
  | .upgradeObject oid => do
    Action.requireArgument (0 ≤ oid) (.negativeObject oid)
    Action.requireLive node
    return [.object oid]
  | .nextObjectId after => do
    Action.requireArgument (noObject ≤ after) (.scanBeforeStart after)
    Action.requireLive node
    match ← Action.lookup (Backing.nextObject after) with
    | none => return []
    | some (next, _) => return [.object next]
  | .getBinding name | .getBindingForUpdate name => do
    Action.requireLive node
    let landing ← Action.resolve name
    return [.binding landing.place]
  | .getBindingForRemove name => do
    Action.requireLive node
    match ← Action.lookup (Backing.binding name) with
    | none => Action.nextPlace (some name)
    | some _ =>
      return .binding (.name name) :: (← tryCatch (Action.nextPlace (some name)) fun _ => return [])
  | .nextBoundName after => do
    Action.requireLive node
    Action.nextPlace after

/-! ### Worlds that agree on some keys -/

namespace World

variable {σ : Type} {keys more : List Key} {one other before between after : World σ}
  {requests further : List ReleaseRequest}

/-- Worlds that cannot be told apart by who looks at these keys only: the same is stored, the
same nodes live, requests go the same way, and the keys are in the same state. -/
structure AgreesOn (keys : List Key) (one other : World σ) : Prop where
  store : one.store = other.store
  registry : one.directory.registry = other.directory.registry
  sink : one.directory.sink = other.directory.sink
  table : Table.AgreesOn keys one.directory.table other.directory.table

theorem AgreesOn.refl (keys : List Key) (world : World σ) : AgreesOn keys world world :=
  ⟨rfl, rfl, rfl, fun _ _ => rfl⟩

theorem AgreesOn.mono (agrees : AgreesOn more one other) (fewer : keys ⊆ more) :
    AgreesOn keys one other :=
  ⟨agrees.store, agrees.registry, agrees.sink, fun key among => agrees.table key (fewer among)⟩

/-- All that became of the keys of a directory and of the requests that wait: at most these
keys changed, and these requests were submitted. -/
structure Touches (keys : List Key) (requests : List ReleaseRequest) (before after : World σ) :
    Prop where
  sink : after.directory.sink = before.directory.sink
  elsewhere : ∀ key ∉ keys,
    after.directory.table.entries[key]? = before.directory.table.entries[key]?
  submitted : after.directory.pending = before.directory.pending ++ requests

theorem Touches.refl (keys : List Key) (world : World σ) : Touches keys [] world world :=
  ⟨rfl, fun _ _ => rfl, (List.append_nil _).symm⟩

theorem Touches.trans (first : Touches keys requests before between)
    (second : Touches keys further between after) :
    Touches keys (requests ++ further) before after where
  sink := second.sink.trans first.sink
  elsewhere := fun key outside => (second.elsewhere key outside).trans (first.elsewhere key outside)
  submitted := by rw [second.submitted, first.submitted, List.append_assoc]

theorem Touches.mono (touches : Touches keys requests before after) (fewer : keys ⊆ more) :
    Touches more requests before after :=
  ⟨touches.sink, fun key outside => touches.elsewhere key fun among => outside (fewer among),
    touches.submitted⟩

/-- Something was done that concerns one of the keys. -/
theorem Touches.of_concerns {key : Key} (among : key ∈ keys) {change : Table → Table}
    (concerns : Table.Concerns key change)
    (table : after.directory.table = change before.directory.table)
    (sink : after.directory.sink = before.directory.sink)
    (submitted : after.directory.pending = before.directory.pending ++ requests) :
    Touches keys requests before after := by
  refine ⟨sink, fun other outside => ?_, submitted⟩
  have apart : other ≠ key := fun same => outside (same ▸ among)
  rw [table, concerns.elsewhere _ apart]

/-- The same was done in two worlds, with these results and later worlds: the results are the
same, the worlds agree on the keys, the same requests were submitted, and no other key was
touched. -/
structure Alongside {ρ : Type} (keys : List Key) (one other : World σ) (ran ran' : ρ × World σ) :
    Prop where
  result : ran.1 = ran'.1
  agrees : AgreesOn keys ran.2 ran'.2
  touches : ∃ requests, Touches keys requests one ran.2 ∧ Touches keys requests other ran'.2

namespace Alongside

variable {ρ : Type} {ran ran' : ρ × World σ}

/-- Nothing was done. -/
theorem idle (agrees : AgreesOn keys one other) (result : ρ) :
    Alongside keys one other (result, one) (result, other) :=
  ⟨rfl, agrees, [], .refl keys one, .refl keys other⟩

theorem trans {middle middle' : World σ} {passed : ρ}
    (first : Alongside keys one other (passed, middle) (passed, middle')) {ρ' : Type}
    {ends ends' : ρ' × World σ} (second : Alongside keys middle middle' ends ends') :
    Alongside keys one other ends ends' := by
  obtain ⟨requests, touches, touches'⟩ := first.touches
  obtain ⟨further, following, following'⟩ := second.touches
  exact ⟨second.result, second.agrees, requests ++ further, touches.trans following,
    touches'.trans following'⟩

/-- What is answered may be seen in another way. -/
theorem answer (both : Alongside keys one other ran ran') {ρ' : Type} {given given' : ρ'}
    (same : ran.1 = ran'.1 → given = given') :
    Alongside keys one other (given, ran.2) (given', ran'.2) :=
  ⟨same both.result, both.agrees, both.touches⟩

end Alongside

/-- What is done to a key follows from the state it is in, so in worlds that agree on it the
same is granted, of the same conflicts the requester is told, and the same nodes are asked. -/
theorem AgreesOn.grant (agrees : AgreesOn keys one other) {key : Key} (among : key ∈ keys)
    (node : NodeId) (mode : Mode) :
    Alongside keys one other
      ((one.directory.grant node key mode).1,
        { one with directory := (one.directory.grant node key mode).2 })
      ((other.directory.grant node key mode).1,
        { other with directory := (other.directory.grant node key mode).2 }) := by
  have same : one.directory.table.entry key = other.directory.table.entry key :=
    agrees.table.entry among
  have asked : one.directory.requests node key mode = other.directory.requests node key mode := by
    rw [Directory.requests, same, Directory.requests]
  have concerns := Table.concerns_grant node key mode
  refine ⟨?result, ⟨agrees.store, ?registry, ?sink, ?table⟩, _,
    .of_concerns among concerns (Directory.table_grant _ node key mode)
      (Directory.sink_grant _ node key mode) (Directory.pending_grant_eq _ node key mode),
    .of_concerns among concerns (Directory.table_grant _ node key mode)
      (Directory.sink_grant _ node key mode) ?requests⟩
  case result =>
    change ((one.directory.table.entry key).grant node mode).1.conflicts = _
    rw [same]
    rfl
  case registry => simp only [Directory.registry_grant, agrees.registry]
  case sink => simp only [Directory.sink_grant, agrees.sink]
  case table =>
    change Table.AgreesOn keys (one.directory.grant node key mode).2.table
      (other.directory.grant node key mode).2.table
    rw [Directory.table_grant, Directory.table_grant]
    exact agrees.table.changed concerns
  case requests =>
    change (other.directory.grant node key mode).2.pending = _
    rw [Directory.pending_grant_eq, agrees.sink, asked]

end World

/-! ### Operations on some keys -/

namespace Action

variable {σ α β : Type} {keys more : List Key} {world : World σ}

/-- The operation is about these keys of the world only: in every world that agrees on them
it runs as it does in this one, and in neither does it touch another key. -/
def ConfinedAt (action : Action σ α) (keys : List Key) (world : World σ) : Prop :=
  ∀ other, World.AgreesOn keys world other →
    World.Alongside keys world other (action.perform world) (action.perform other)

theorem confinedAt_pure (result : α) : (pure result : Action σ α).ConfinedAt keys world :=
  fun _ agrees => .idle agrees _

theorem confinedAt_throw (cause : DirectoryError) :
    (throw cause : Action σ α).ConfinedAt keys world :=
  fun _ agrees => .idle agrees _

theorem ConfinedAt.bind {first : Action σ α} {next : α → Action σ β}
    (confined : first.ConfinedAt keys world)
    (continues : ∀ result later, first.perform world = (.ok result, later) →
      (next result).ConfinedAt keys later) :
    (first >>= next).ConfinedAt keys world := by
  intro other agrees
  have both := confined other agrees
  rw [perform_bind, perform_bind]
  rcases ran : first.perform world with ⟨outcome, later⟩
  rcases ran' : first.perform other with ⟨outcome', later'⟩
  rw [ran, ran'] at both
  obtain rfl : outcome = outcome' := both.result
  cases outcome with
  | error cause => exact both.answer fun _ => rfl
  | ok result => exact both.trans (continues result later ran later' both.agrees)

theorem ConfinedAt.tryCatch {action : Action σ α} {handler : DirectoryError → Action σ α}
    (confined : action.ConfinedAt keys world)
    (handles : ∀ cause later, (handler cause).ConfinedAt keys later) :
    (tryCatch action handler).ConfinedAt keys world := by
  intro other agrees
  have both := confined other agrees
  rw [perform_tryCatch, perform_tryCatch]
  rcases ran : action.perform world with ⟨outcome, later⟩
  rcases ran' : action.perform other with ⟨outcome', later'⟩
  rw [ran, ran'] at both
  obtain rfl : outcome = outcome' := both.result
  cases outcome with
  | error cause => exact both.trans (handles cause later later' both.agrees)
  | ok result => exact both

/-- What is about some keys is about more, as long as it does nothing to the rest. -/
theorem ConfinedAt.mono {action : Action σ α} (confined : action.ConfinedAt keys world)
    (fewer : keys ⊆ more) : action.ConfinedAt more world := by
  intro other agrees
  obtain ⟨same, later, requests, touches, touches'⟩ := confined other (agrees.mono fewer)
  refine ⟨same, ⟨later.store, later.registry, later.sink, fun key among => ?_⟩, requests,
    touches.mono fewer, touches'.mono fewer⟩
  by_cases inside : key ∈ keys
  · exact later.table key inside
  · rw [touches.elsewhere key inside, touches'.elsewhere key inside, agrees.table key among]

/-! ### The steps -/

theorem confinedAt_requireLive (node : NodeId) :
    (requireLive node : Action σ Unit).ConfinedAt keys world := by
  intro other agrees
  rw [perform_requireLive, perform_requireLive, agrees.registry]
  exact .idle agrees _

theorem confinedAt_requireArgument (acceptable : Bool) (cause : ArgumentError) :
    (requireArgument acceptable cause : Action σ Unit).ConfinedAt keys world := by
  intro other agrees
  rw [perform_requireArgument, perform_requireArgument]
  exact .idle agrees _

/-- A lookup looks at the store. Whoever dies meanwhile keeps what it holds for now. -/
theorem confinedAt_lookup (read : σ → Reading α × σ) :
    (lookup read : Action σ α).ConfinedAt keys world := by
  intro other agrees
  have untouched (world : World σ) (died : List NodeId) (store : σ) :
      World.Touches keys [] world ⟨world.directory.bury died, store⟩ :=
    ⟨rfl, fun _ _ => rfl, (List.append_nil _).symm⟩
  rw [perform_lookup, perform_lookup, agrees.store]
  refine ⟨rfl, ⟨rfl, ?registry, agrees.sink, agrees.table⟩, [], untouched .., untouched ..⟩
  case registry => simp only [Directory.bury, agrees.registry]

/-- Whatever is done to the table concerns one of the keys. -/
theorem confinedAt_change {ρ : Type} {key : Key} (among : key ∈ keys) {change : Table → Table}
    (concerns : Table.Concerns key change) {other : World σ}
    (agrees : World.AgreesOn keys world other) (result : ρ) :
    World.Alongside keys world other
      (result, { world with directory :=
        { world.directory with table := change world.directory.table } })
      (result, { other with directory :=
        { other.directory with table := change other.directory.table } }) :=
  have touches (world : World σ) : World.Touches keys [] world { world with directory :=
      { world.directory with table := change world.directory.table } } :=
    .of_concerns among concerns rfl rfl (List.append_nil _).symm
  ⟨rfl, ⟨agrees.store, agrees.registry, agrees.sink, agrees.table.changed concerns⟩, [],
    touches world, touches other⟩

/-- A grant of one key finds the conflicts there and displaces whom it finds there. If it is
refused, the key was tracked for a moment. -/
theorem confinedAt_grant (node : NodeId) {key : Key} (among : key ∈ keys) (mode : Mode) :
    (grant node key mode : Action σ Conflicts).ConfinedAt keys world := by
  intro other agrees
  rw [perform_grant, perform_grant, agrees.registry]
  cases other.directory.registry.isLive node with
  | false => exact confinedAt_change among (Table.concerns_forgo key) agrees _
  | true => exact (agrees.grant among node mode).answer (congrArg Except.ok)

/-- An upgrade is a grant to a reader, and who reads the key is part of its state, as is
whether it is tracked. -/
theorem confinedAt_upgrade (node : NodeId) {key : Key} (among : key ∈ keys) :
    (upgrade node key : Action σ Conflicts).ConfinedAt keys world := by
  intro other agrees
  have same : (world.directory.upgrade node key).isSome =
      (other.directory.upgrade node key).isSome := by
    simp only [Directory.upgrade, Table.upgrade_eq, Option.isSome_map,
      agrees.table.entry among]
  rw [perform_upgrade, perform_upgrade, agrees.registry, agrees.table.tracks among]
  cases other.directory.table.tracks key && !other.directory.registry.isLive node with
  | true => exact .idle agrees _
  | false =>
      cases upgraded : world.directory.upgrade node key with
      | none =>
          rw [upgraded, eq_comm, Option.isSome_none, Option.isSome_eq_false_iff,
            Option.isNone_iff_eq_none] at same
          rw [same]
          exact .idle agrees _
      | some outcome =>
          rw [upgraded, eq_comm, Option.isSome_some] at same
          obtain ⟨outcome', upgraded'⟩ := Option.isSome_iff_exists.mp same
          rw [upgraded']
          have both := agrees.grant among node .write
          rw [(Directory.upgrade_eq_some upgraded).2,
            (Directory.upgrade_eq_some upgraded').2] at both
          exact both.answer (congrArg Except.ok)

/-- Whatever is done to one of the keys on the strength of its state alone. -/
theorem confinedAt_revise {key : Key} (among : key ∈ keys) (change : Entry → Bool × Entry)
    (idle : change {} = (false, {})) {action : Action σ Bool}
    (performs : ∀ world, action.perform world =
      (.ok (world.directory.table.revise key change).1, { world with directory :=
        { world.directory with table := (world.directory.table.revise key change).2 } })) :
    action.ConfinedAt keys world := by
  intro other agrees
  have same : (world.directory.table.revise key change).1 =
      (other.directory.table.revise key change).1 := by
    rw [Table.revise_eq _ key idle, Table.revise_eq _ key idle, agrees.table.entry among]
  rw [performs, performs, same]
  exact confinedAt_change among (Table.concerns_revise key idle) agrees _

theorem confinedAt_release (node : NodeId) {key : Key} (among : key ∈ keys) :
    (release node key : Action σ Bool).ConfinedAt keys world :=
  confinedAt_revise among (·.release node) (Entry.release_empty node) fun _ => rfl

/-! ### Operations and their keys -/

/-- In every world the operation is about the keys that the resolution ends at, and if it
succeeds, these are the ones it reports. -/
structure Confined (action : Action σ α) (resolution : Action σ (List Key))
    (reported : α → List Key) : Prop where
  confinedAt : ∀ world, action.ConfinedAt (resolution.resolved world) world
  resolved : ∀ world result later, action.perform world = (.ok result, later) →
    resolution.resolved world = reported result

/-- The operation and the resolution begin alike, with a step that is about no key. -/
theorem confined_bind {first : Action σ α} {next : α → Action σ β}
    {resolution : α → Action σ (List Key)} {reported : β → List Key}
    (looks : ∀ keys world, first.ConfinedAt keys world)
    (continues : ∀ result, (∃ world, (first.perform world).1 = .ok result) →
      Confined (next result) (resolution result) reported) :
    Confined (first >>= next) (first >>= resolution) reported where
  confinedAt := by
    intro world
    rw [resolved_bind]
    refine (looks _ world).bind fun result later ran => ?_
    rw [ran]
    exact (continues result ⟨world, congrArg Prod.fst ran⟩).confinedAt later
  resolved := by
    intro world result later performed
    rw [perform_bind] at performed
    rw [resolved_bind]
    rcases ran : first.perform world with ⟨outcome, between⟩
    rw [ran] at performed
    cases outcome with
    | error cause => cases performed
    | ok passed =>
        exact (continues passed ⟨world, congrArg Prod.fst ran⟩).resolved between result later
          performed

/-- What an operation yields may be seen in another way, as long as it reports the same. -/
theorem Confined.map {action : Action σ α} {resolution : Action σ (List Key)}
    {keys : α → List Key} {reported : β → List Key} (confined : Confined action resolution keys)
    {view : α → β} (same : ∀ result, keys result = reported (view result)) :
    Confined (do return view (← action)) resolution reported where
  confinedAt := fun world => (confined.confinedAt world).bind fun _ _ _ => confinedAt_pure _
  resolved := by
    intro world result later performed
    have resolved := confined.resolved world
    rw [perform_bind] at performed
    rcases ran : action.perform world with ⟨outcome, between⟩
    rw [ran] at performed resolved
    cases outcome with
    | error cause => cases performed
    | ok passed =>
        cases performed
        exact (resolved passed _ rfl).trans (same passed)

theorem confined_pure (result : α) {reported : α → List Key} (nothing : reported result = []) :
    Confined (pure result : Action σ α) (pure []) reported where
  confinedAt := fun _ => confinedAt_pure result
  resolved := by
    intro world _ _ performed
    cases performed
    exact nothing.symm

theorem confined_grant (node : NodeId) (key : Key) (mode : Mode) :
    Confined (grant node key mode : Action σ Conflicts) (pure [key]) fun _ => [key] where
  confinedAt := fun _ => confinedAt_grant node List.mem_cons_self mode
  resolved := fun _ _ _ _ => rfl

theorem confined_upgrade (node : NodeId) (key : Key) :
    Confined (upgrade node key : Action σ Conflicts) (pure [key]) fun _ => [key] where
  confinedAt := fun _ => confinedAt_upgrade node List.mem_cons_self
  resolved := fun _ _ _ _ => rfl

variable [Backing σ]

theorem confinedAt_resolve (name : String) :
    (resolve name : Action σ Landing).ConfinedAt keys world := by
  apply (confinedAt_lookup _).bind
  rintro (_ | oid) _ _
  · exact (confinedAt_lookup _).bind fun _ _ _ => confinedAt_pure _
  · exact confinedAt_pure _

theorem confined_takeObject (node : NodeId) (oid : ObjectId) (mode : Mode) :
    Confined (takeObject node oid mode : Action σ _) (Access.resolution node (.getObject oid))
      fun taken => (taken.map fun _ => Key.object oid).toList := by
  apply confined_bind fun _ _ => confinedAt_requireArgument _ _
  intro _ _
  apply confined_bind fun _ _ => confinedAt_requireLive node
  intro _ _
  apply confined_bind fun _ _ => confinedAt_lookup _
  rintro (_ | contents) _
  · exact confined_pure none rfl
  · exact (confined_grant node _ mode).map fun _ => rfl

theorem confined_upgradeObject (node : NodeId) (oid : ObjectId) :
    Confined (upgradeObject node oid : Action σ _) (Access.resolution node (.upgradeObject oid))
      fun _ => [.object oid] := by
  apply confined_bind fun _ _ => confinedAt_requireArgument _ _
  intro _ _
  apply confined_bind fun _ _ => confinedAt_requireLive node
  intro _ _
  exact (confined_upgrade node (.object oid)).map fun _ => rfl

theorem confined_takeNext (node : NodeId) (name : String) :
    Confined (takeNext node name : Action σ _) (nextPlace (some name))
      fun taken => [.binding (.ofNext taken.1.nextName)] := by
  apply confined_bind fun _ _ => confinedAt_lookup _
  intro next _
  refine (confined_grant node _ .write).map fun _ => ?_
  rw [place_ofNext]

omit [Backing σ] in
theorem store_of_grant {node : NodeId} {key : Key} {mode : Mode} {later : World σ}
    {conflicts : Conflicts}
    (performed : (grant node key mode).perform world = (.ok conflicts, later)) :
    later.store = world.store := by
  rw [perform_grant] at performed
  split at performed <;> cases performed
  rfl

omit [Backing σ] in
/-- What is undone if it fails was done if it succeeds. -/
theorem perform_of_tryCatch {action : Action σ α} {undo : Action σ β} {result : α}
    {later : World σ}
    (performed : (tryCatch action fun cause => do let _ ← undo; throw cause).perform world =
      (.ok result, later)) : action.perform world = (.ok result, later) := by
  rw [perform_tryCatch] at performed
  rcases ran : action.perform world with ⟨outcome, between⟩
  rw [ran] at performed
  cases outcome with
  | ok passed => exact performed
  | error cause =>
      dsimp only at performed
      rw [perform_bind] at performed
      split at performed <;> cases performed

/-- A removal of a bound name is about the name even if the second part fails: it takes the
name before that, and gives it back. -/
theorem confined_removeBound (node : NodeId) (name : String) (oid : ObjectId) :
    Confined
      (do
        let conflicts ← grant node (.binding (.name name)) .write
        let (next, nextConflicts) ← tryCatch (takeNext node name) fun cause => do
          let _ ← release node (.binding (.name name))
          throw cause
        return ⟨true, next.nextName, oid, conflicts, next.oid, nextConflicts⟩ :
          Action σ BindingRemoval)
      (do
        return .binding (.name name) ::
          (← tryCatch (nextPlace (some name)) fun _ => return []))
      fun result => ((Access.getBindingForRemove name).reports result).map (·.key) where
  confinedAt := by
    intro world
    rw [resolved_cons]
    have first : Key.binding (.name name) ∈
        .binding (.name name) :: (nextPlace (some name)).resolved world := List.mem_cons_self
    apply (confinedAt_grant node first .write).bind
    intro conflicts granted ran
    -- The grant has left the store alone, so the second part ends where it would have.
    have next :
        (takeNext node name).ConfinedAt ((nextPlace (some name)).resolved world) granted := by
      rw [← resolved_nextPlace_congr (some name) (store_of_grant ran)]
      exact (confined_takeNext node name).confinedAt granted
    refine ConfinedAt.bind ?_ fun _ _ _ => confinedAt_pure _
    refine (next.mono (List.subset_cons_self _ _)).tryCatch fun cause _ => ?_
    exact (confinedAt_release node first).bind fun _ _ _ => confinedAt_throw cause
  resolved := by
    intro world result later performed
    rw [perform_bind] at performed
    rcases ran : (grant node (.binding (.name name)) .write).perform world with ⟨outcome, granted⟩
    rw [ran] at performed
    cases outcome with
    | error cause => cases performed
    | ok conflicts =>
        dsimp only at performed
        rw [perform_bind] at performed
        split at performed
        case h_2 => cases performed
        case h_1 taken between second =>
          cases performed
          have next := (confined_takeNext node name).resolved _ _ _ (perform_of_tryCatch second)
          rw [resolved_cons, ← resolved_nextPlace_congr (some name) (store_of_grant ran), next]
          rfl

theorem confined_getBindingForRemove (node : NodeId) (name : String) :
    Confined (getBindingForRemove node name : Action σ _)
      (Access.resolution node (.getBindingForRemove name))
      fun result => ((Access.getBindingForRemove name).reports result).map (·.key) := by
  apply confined_bind fun _ _ => confinedAt_requireLive node
  intro _ _
  apply confined_bind fun _ _ => confinedAt_lookup _
  rintro (_ | oid) _
  · exact (confined_takeNext node name).map fun _ => rfl
  · exact confined_removeBound node name oid

/-- Every request for access is about the keys that it resolves to, and about no others. If
it succeeds, these are the ones that its answer reports. -/
theorem confined_access (node : NodeId) (what : Access) :
    Confined (what.action node : Action σ what.Result) (what.resolution node)
      fun result => (what.reports result).map (·.key) := by
  cases what with
  | getObject oid =>
      refine (confined_takeObject node oid .read).map fun taken => ?_
      cases taken <;> rfl
  | getObjectForUpdate oid =>
      refine (confined_takeObject node oid .write).map fun taken => ?_
      cases taken <;> rfl
  | upgradeObject oid => exact confined_upgradeObject node oid
  | nextObjectId after =>
      apply confined_bind fun _ _ => confinedAt_requireArgument _ _
      intro _ _
      apply confined_bind fun _ _ => confinedAt_requireLive node
      intro _ _
      apply confined_bind fun _ _ => confinedAt_lookup _
      rintro (_ | ⟨next, contents⟩) _
      · exact confined_pure none rfl
      · exact (confined_grant node _ .read).map fun _ => rfl
  | getBinding name | getBindingForUpdate name =>
      apply confined_bind fun _ _ => confinedAt_requireLive node
      intro _ _
      apply confined_bind fun _ _ => confinedAt_resolve name
      rintro landing ⟨world, found⟩
      have place := (inspects_resolve name world).2 landing found
      refine (confined_grant node _ _).map fun _ => ?_
      exact congrArg (fun place => [Key.binding place]) place
  | getBindingForRemove name => exact confined_getBindingForRemove node name
  | nextBoundName after =>
      apply confined_bind fun _ _ => confinedAt_requireLive node
      intro _ _
      apply confined_bind fun _ _ => confinedAt_lookup _
      intro next _
      refine (confined_grant node _ .read).map fun _ => ?_
      rw [place_ofNext]
      rfl

end Action

end CacheDirectory
