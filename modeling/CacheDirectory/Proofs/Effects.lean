/-
Module: CacheDirectory.Proofs.Effects
Purpose: The few ways in which a directory and the deliveries under way ever change,
  each with its trace in the history, and the reduction of every run to them. A
  property of runs is then one closure proof over these effects.
Trusted boundary: none
Main exports: View, Effect, Effect.change, Effects, Cluster.run_effects,
  Effects.preserve
-/
import CacheDirectory.Proofs.Runs
import CacheDirectory.Proofs.Waits

namespace CacheDirectory

open Wire

/-! ### The effects -/

/-- The directory after a delivery of the request ended so. -/
def Directory.settle (directory : Directory) (request : ReleaseRequest) :
    DeliveryOutcome → Directory
  | .nodeFailed => (directory.nodeFailed request.target).2
  | _ => (directory.completeRelease request.target request.key).2

@[simp] theorem Directory.entry_settle (directory : Directory) (request : ReleaseRequest)
    (outcome : DeliveryOutcome) (key : Key) :
    (directory.settle request outcome).table.entry key =
      if outcome = .nodeFailed then (directory.table.entry key).strip request.target
      else if key = request.key then
        ((directory.table.entry key).completeRelease request.target).2
      else directory.table.entry key := by
  cases outcome with
  | nodeFailed => exact Directory.entry_nodeFailed directory request.target key
  | acknowledged | targetGone =>
      rw [if_neg nofun]
      refine (Directory.entry_completeRelease directory request.target request.key key).trans ?_
      split
      case isTrue same => rw [same]
      case isFalse => rfl

/-- The part of a cluster that the properties of runs speak of. -/
structure View where
  directory : Directory
  flights : List Flight := []

/-- One effect and its trace in the history. If the store is `reliable`, a grant is
withdrawn only from a dead node; access is taken by force only if that is
`forced`. -/
inductive Effect (reliable forced : Prop) : View → List Event → View → Prop
  | died (directory : Directory) (flights : List Flight) (died : List NodeId) :
      Effect reliable forced ⟨directory, flights⟩ [] ⟨directory.bury died, flights⟩
  | forgone (directory : Directory) (flights : List Flight) (key : Key) :
      Effect reliable forced ⟨directory, flights⟩ [] ⟨directory.forgo key, flights⟩
  | registered {directory : Directory} {flights : List Flight} {identity : String}
      {registration : Registration}
      (accepted : (directory.register identity).1 = .ok registration) :
      Effect reliable forced ⟨directory, flights⟩ [.registered registration.node]
        ⟨(directory.register identity).2, flights⟩
  | granted {directory : Directory} {flights : List Flight} {node : NodeId} (key : Key)
      (mode : Mode) (live : directory.registry.isLive node = true) :
      Effect reliable forced ⟨directory, flights⟩
        ((directory.asked node key mode).map .submitted)
        ⟨(directory.grant node key mode).2, flights⟩
  | told {directory : Directory} {flights : List Flight} {node : NodeId} {key : Key}
      {held mode : Mode} (holds : directory.table.holder key node = some held)
      (strong : mode ≤ held) :
      Effect reliable forced ⟨directory, flights⟩ [.granted node key mode] ⟨directory, flights⟩
  | withdrawn {directory : Directory} {flights : List Flight} {node : NodeId} (key : Key)
      (dead : reliable → directory.registry.isLive node = false) :
      Effect reliable forced ⟨directory, flights⟩ [] ⟨(directory.release node key).2, flights⟩
  | gaveUp (directory : Directory) (flights : List Flight) (node : NodeId) (key : Key) :
      Effect reliable forced ⟨directory, flights⟩
        (Event.ofRelease node key (.ok (directory.release node key).1))
        ⟨(directory.release node key).2, flights⟩
  | completed (directory : Directory) (flights : List Flight) (node : NodeId) (key : Key) :
      Effect reliable forced ⟨directory, flights⟩ [.cleared node (· == key)]
        ⟨(directory.completeRelease node key).2, flights⟩
  | stripped (directory : Directory) (flights : List Flight) (node : NodeId)
      (scope : Key → Bool) (allowed : forced) :
      Effect reliable forced ⟨directory, flights⟩ [.cleared node scope]
        ⟨(directory.forceRelease node scope).2, flights⟩
  | failed (directory : Directory) (flights : List Flight) (node : NodeId) :
      Effect reliable forced ⟨directory, flights⟩ [.cleared node fun _ => true]
        ⟨(directory.nodeFailed node).2, flights⟩
  | departed {directory : Directory} (flights : List Flight) {index : Nat}
      {request : ReleaseRequest} (due : Nat)
      (waiting : directory.pending[index]? = some request) :
      Effect reliable forced ⟨directory, flights⟩ []
        ⟨{ directory with pending := directory.pending.eraseIdx index },
          flights ++ [{ request, due := due }]⟩
  | continued (directory : Directory) {flights : List Flight} {index : Nat}
      {flight later : Flight} (flying : flights[index]? = some flight)
      (same : later.request = flight.request) :
      Effect reliable forced ⟨directory, flights⟩
        (if later.verdict = some true then
          [.acknowledged flight.request.target flight.request.key] else [])
        ⟨directory, flights.set index later⟩
  | settled {directory : Directory} {flights : List Flight} {index : Nat} {flight : Flight}
      (flying : flights[index]? = some flight)
      (gone : flight.verdict = none → directory.registry.isLive flight.request.target = false) :
      Effect reliable forced ⟨directory, flights⟩ [flight.ending.clears flight.request]
        ⟨directory.settle flight.request flight.ending, flights.eraseIdx index⟩

/-- All that an effect can do to one entry. Only a node that is `live` is granted
anything. -/
inductive Entry.Change (live : NodeId → Prop) (entry : Entry) : Entry → Prop
  | kept : Change live entry entry
  | granted (node : NodeId) (mode : Mode) (alive : live node) :
      Change live entry (entry.grant node mode).2
  | released (node : NodeId) : Change live entry (entry.release node).2
  | completed (node : NodeId) : Change live entry (entry.completeRelease node).2
  | stripped (node : NodeId) : Change live entry (entry.strip node)

/-- Every effect does one of these to each key, so that what holds of all entries is
proved once for each of them. -/
theorem Effect.change {reliable forced : Prop} {before after : View} {events : List Event}
    (effect : Effect reliable forced before events after) (key : Key) :
    Entry.Change (fun node => before.directory.registry.isLive node = true)
      (before.directory.table.entry key) (after.directory.table.entry key) := by
  cases effect with
  | died | registered | told | departed | continued => exact .kept
  | forgone directory _ other =>
      rw [Directory.entry_forgo]
      exact .kept
  | @granted directory _ node other mode live =>
      rw [Directory.entry_grant]
      split
      case isTrue same => exact same ▸ .granted node mode live
      case isFalse => exact .kept
  | @withdrawn directory _ node other dead =>
      rw [Directory.entry_release]
      split
      case isTrue same => exact same ▸ .released node
      case isFalse => exact .kept
  | gaveUp directory _ node other =>
      rw [Directory.entry_release]
      split
      case isTrue same => exact same ▸ .released node
      case isFalse => exact .kept
  | completed directory _ node other =>
      rw [Directory.entry_completeRelease]
      split
      case isTrue same => exact same ▸ .completed node
      case isFalse => exact .kept
  | stripped directory _ node scope =>
      rw [Directory.entry_forceRelease]
      split
      case isTrue => exact .stripped node
      case isFalse => exact .kept
  | failed directory _ node =>
      rw [Directory.entry_nodeFailed]
      exact .stripped node
  | @settled directory _ _ flight =>
      rw [Directory.entry_settle]
      split
      case isTrue => exact .stripped flight.request.target
      case isFalse =>
        split
        case isTrue => exact .completed flight.request.target
        case isFalse => exact .kept

/-- Apart from the requests of a grant, an effect leaves one trace at most. -/
theorem Effect.alone {reliable forced : Prop} {before after : View} {events : List Event}
    (effect : Effect reliable forced before events after) :
    ∀ event ∈ events, (∃ request, event = .submitted request) ∨ events = [event] := by
  intro event among
  cases effect with
  | died | forgone | withdrawn | departed => cases among
  | registered | told | completed | stripped | failed | settled =>
      exact Or.inr (by rw [List.mem_singleton.mp among])
  | granted =>
      obtain ⟨request, -, rfl⟩ := List.mem_map.mp among
      exact Or.inl ⟨request, rfl⟩
  | gaveUp directory _ holder given =>
      rw [Event.ofRelease_ok] at among ⊢
      split at among
      case isTrue had => exact Or.inr (by rw [if_pos had, List.mem_singleton.mp among])
      case isFalse => cases among
  | continued =>
      split at among
      case isTrue acknowledged =>
        exact Or.inr (by rw [if_pos acknowledged, List.mem_singleton.mp among])
      case isFalse => cases among

section

variable {reliable forced : Prop} (directory : Directory) (flights : List Flight)
  (flight : Flight)

theorem Effect.continued_last (verdict : Option Bool) :
    Effect reliable forced ⟨directory, flights ++ [flight]⟩
      (if verdict = some true then
        [.acknowledged flight.request.target flight.request.key] else [])
      ⟨directory, flights ++ [{ flight with verdict }]⟩ := by
  have flying : (flights ++ [flight])[flights.length]? = some flight := by simp
  have same : ({ flight with verdict } : Flight).request = flight.request := rfl
  have effect : Effect reliable forced _ _ _ := .continued directory flying same
  rw [List.set_append_right _ _ (Nat.le_refl _), Nat.sub_self] at effect
  exact effect

theorem Effect.settled_last
    (gone : flight.verdict = none → directory.registry.isLive flight.request.target = false) :
    Effect reliable forced ⟨directory, flights ++ [flight]⟩
      [flight.ending.clears flight.request]
      ⟨directory.settle flight.request flight.ending, flights⟩ := by
  have flying : (flights ++ [flight])[flights.length]? = some flight := by simp
  have effect : Effect reliable forced _ _ _ := .settled flying gone
  rw [List.eraseIdx_append_of_length_le (Nat.le_refl _), Nat.sub_self] at effect
  simpa using effect

end

/-- Effects one after the other, with the history they leave. -/
inductive Effects (reliable forced : Prop) : View → List Event → View → Prop
  | none (view : View) : Effects reliable forced view [] view
  | cons {before middle after : View} {events history : List Event}
      (effect : Effect reliable forced before events middle)
      (rest : Effects reliable forced middle history after) :
      Effects reliable forced before (events ++ history) after

namespace Effects

variable {reliable forced : Prop} {before middle after : View} {events history : List Event}

theorem single (effect : Effect reliable forced before events after) :
    Effects reliable forced before events after := by
  have alone : Effects reliable forced before (events ++ []) after := .cons effect (.none after)
  rwa [List.append_nil] at alone

/-- An effect that leaves no trace comes first. -/
theorem silent (effect : Effect reliable forced before [] middle)
    (rest : Effects reliable forced middle history after) :
    Effects reliable forced before history after := .cons effect rest

theorem trans (first : Effects reliable forced before events middle)
    (second : Effects reliable forced middle history after) :
    Effects reliable forced before (events ++ history) after := by
  induction first with
  | none => exact second
  | cons effect _ ih =>
      rw [List.append_assoc]
      exact .cons effect (ih second)

/-- What holds of the history and the view and survives each effect survives any
number of them. -/
theorem preserve (holds : List Event → View → Prop)
    (closed : ∀ {past before events after}, holds past before →
      Effect reliable forced before events after → holds (past ++ events) after)
    (past : List Event) (initially : holds past before)
    (effects : Effects reliable forced before events after) : holds (past ++ events) after := by
  induction effects generalizing past with
  | none => rwa [List.append_nil]
  | cons effect _ ih =>
      rw [← List.append_assoc]
      exact ih _ (closed initially effect)

end Effects

/-! ### Deliveries -/

namespace Site

/-- An attempt does no more to the directory than to find its target dead. -/
theorem attempt_bury (settings : DeliverySettings) (request : ReleaseRequest) (site : Site) :
    ∃ died, (site.attempt settings request).2.directory = site.directory.bury died ∧
      ((site.attempt settings request).1 = .gone →
        (site.directory.bury died).registry.isLive request.target = false) := by
  rw [attempt]
  split
  case isFalse gone => exact ⟨[], rfl, fun _ => Bool.eq_false_iff.mpr gone⟩
  case isTrue =>
    rcases site.endpoints.request request.target request.key request.release with
      ⟨behaviour, endpoints⟩
    cases behaviour with
    | acknowledge delay =>
        by_cases inTime : delay ≤ settings.requestTimeout.toNat
        · exact ⟨[], by simp [inTime], by simp [inTime]⟩
        · exact ⟨[], by simp [inTime], by simp [inTime]⟩
    | fail error => exact ⟨[], rfl, nofun⟩
    | die => exact ⟨[request.target], rfl, nofun⟩

/-- A whole delivery: some deaths, then its end. -/
theorem deliverWithin_settle (settings : DeliverySettings) (request : ReleaseRequest)
    (remaining : Nat) (site : Site) :
    ∃ died, (deliverWithin settings request remaining site).2.directory =
        (site.directory.bury died).settle request
          (deliverWithin settings request remaining site).1 ∧
      ((deliverWithin settings request remaining site).1 = .targetGone →
        (site.directory.bury died).registry.isLive request.target = false) := by
  induction remaining generalizing site with
  | zero => exact ⟨[], rfl, nofun⟩
  | succ remaining ih =>
      obtain ⟨died, buried, gone⟩ := attempt_bury settings request site
      rw [deliverWithin_succ]
      rcases ran : site.attempt settings request with ⟨attempt, later⟩
      rw [ran] at buried gone
      change later.directory = _ at buried
      cases attempt with
      | gone =>
          refine ⟨died, ?_, fun _ => gone rfl⟩
          rw [← buried]
          rfl
      | acknowledged elapsed =>
          refine ⟨died, ?_, nofun⟩
          rw [← buried]
          rfl
      | failed elapsed =>
          obtain ⟨more, settled, gone⟩ := ih later
          rw [buried, Directory.bury_bury] at settled gone
          exact ⟨died ++ more, settled, gone⟩

end Site

/-- The continuation of a delivery: some deaths, and then its end if it ends. -/
theorem Traffic.proceed_settle (settings : DeliverySettings) (flight : Flight) (site : Site)
    (draw : UInt64) :
    ∃ died, match proceed settings flight site draw with
      | (none, later) =>
        later.directory = (site.directory.bury died).settle flight.request flight.ending ∧
          (flight.verdict = none →
            (site.directory.bury died).registry.isLive flight.request.target = false)
      | (some continued, later) =>
        later.directory = site.directory.bury died ∧ continued.request = flight.request := by
  rw [proceed, Flight.ending]
  rcases flight.verdict with - | verdict
  · obtain ⟨died, buried, gone⟩ := Site.attempt_bury settings flight.request site
    refine ⟨died, ?_⟩
    rcases ran : site.attempt settings flight.request with ⟨attempt, later⟩
    rw [ran] at buried gone
    change later.directory = _ at buried
    cases attempt with
    | gone =>
        refine ⟨?_, fun _ => gone rfl⟩
        rw [← buried]
        rfl
    | acknowledged elapsed => exact ⟨buried, rfl⟩
    | failed elapsed => exact ⟨buried, rfl⟩
  · refine ⟨[], ?_⟩
    cases verdict with
    | true => exact ⟨rfl, nofun⟩
    | false =>
        by_cases further : flight.made + 1 < settings.attempts
        · simp [further]
        · simp only [further, if_false]
          exact ⟨rfl, nofun⟩

/-! ### Requests -/

/-- What an access operation appends to the pending requests and takes effect as:
every grant that its reports tell of. -/
theorem Grants.effects {reliable forced : Prop} {node : NodeId} {directory later : Directory}
    {reports : List Report} (grants : Grants node directory reports later)
    (flights : List Flight) :
    ∃ submitted, later.pending = directory.pending ++ submitted ∧
      Effects reliable forced ⟨directory, flights⟩ (submitted.map .submitted)
        ⟨later, flights⟩ := by
  induction grants with
  | nil directory died =>
      exact ⟨[], (List.append_nil _).symm, .single (.died directory flights died)⟩
  | @cons directory later key mode report rest died live told following ih =>
      obtain ⟨submitted, appended, effects⟩ := ih
      refine ⟨(directory.bury died).asked node key mode ++ submitted, ?_, ?_⟩
      · rw [appended, Directory.pending_grant, List.append_assoc]
        rfl
      · rw [List.map_append]
        exact .silent (.died directory flights died) (.cons (.granted key mode live) effects)

/-- An operation that is refused before its first grant submits nothing. -/
theorem Directory.Lapses.effects {reliable forced : Prop} {before after : Directory}
    (lapses : before.Lapses after) (flights : List Flight) :
    Effects reliable forced ⟨before, flights⟩ [] ⟨after, flights⟩ := by
  cases lapses with
  | buried died => exact .single (.died before flights died)
  | forgone died key =>
      exact .silent (.died before flights died) (.single (.forgone _ flights key))

/-- A refused access operation submits what the grant it withdrew displaced. -/
theorem Aborts.effects {σ : Type} [Backing σ] {forced : Prop} {node : NodeId}
    {directory later : Directory} (aborts : Aborts σ node directory later)
    (flights : List Flight) :
    ∃ submitted, later.pending = directory.pending ++ submitted ∧
      Effects (Backing.Reliable σ) forced ⟨directory, flights⟩ (submitted.map .submitted)
        ⟨later, flights⟩ := by
  cases aborts with
  | early lapses =>
      exact ⟨[], by rw [lapses.pending, List.append_nil], lapses.effects flights⟩
  | @late granted key before live lapses dead =>
      refine ⟨(directory.bury before).asked node key .write,
        lapses.pending.trans (Directory.pending_grant _ node key .write), ?_⟩
      have withdrawn := (lapses.effects flights).trans
        (.single (Effect.withdrawn key dead : Effect _ forced _ _ _))
      have granted := Effects.cons (.granted key .write live) withdrawn
      rw [List.append_nil, List.append_nil] at granted
      exact .silent (.died directory flights before) granted

/-- Telling a node of keys that it holds. -/
theorem Effects.told {reliable forced : Prop} {node : NodeId} {directory : Directory}
    (flights : List Flight) {reports : List Report}
    (holds : ∀ report ∈ reports,
      ∃ held, directory.table.holder report.key node = some held ∧ report.mode ≤ held) :
    Effects reliable forced ⟨directory, flights⟩
      (reports.map fun report => .granted node report.key report.mode)
      ⟨directory, flights⟩ := by
  induction reports with
  | nil => exact .none _
  | cons report rest ih =>
      obtain ⟨held, holding, strong⟩ := holds report List.mem_cons_self
      exact .cons (.told holding strong)
        (ih fun other among => holds other (List.mem_cons_of_mem report among))

theorem Service.perform_giveUp {σ : Type} (node : NodeId) (key : Key) (world : World σ) :
    (giveUp node key : Action σ Bool).perform world =
      if world.directory.registry.isLive node then
        (.ok (world.directory.release node key).1,
          { world with directory := (world.directory.release node key).2 })
      else (.error (.unknownNode node), world) := by
  simp only [giveUp, Action.perform_bind, Action.perform_requireLive, Registry.check]
  cases world.directory.registry.isLive node <;> rfl

theorem Service.pending_giveUp {σ : Type} (node : NodeId) (key : Key) (world : World σ) :
    ((giveUp node key : Action σ Bool).perform world).2.directory.pending =
      world.directory.pending := by
  rw [perform_giveUp]
  split <;> rfl

namespace Cluster

variable {σ : Type} {forced : Prop}

/-- The part of the cluster that its history is about. -/
def view (cluster : Cluster σ) : View where
  directory := cluster.directory
  flights := cluster.flights

variable [Backing σ]

/-- A request that submits nothing leaves the trace of its answer. -/
theorem step_request_of_pending {cluster : Cluster σ} {request : Request}
    (same : (cluster.service.perform request).2.directory.pending = cluster.directory.pending) :
    (cluster.step (.request request)).1 =
      request.events (cluster.service.perform request).1 := by
  simp only [step, same, List.drop_length, List.map_nil, List.nil_append]

theorem register_effects (cluster : Cluster σ) (address : String) :
    Effects (Backing.Reliable σ) forced cluster.view
      (cluster.step (.request (.registerNode address))).1
      (cluster.step (.request (.registerNode address))).2.view := by
  rw [step_request_of_pending rfl]
  change Effects _ _ ⟨cluster.directory, _⟩
    (Request.events (.registerNode address) (cluster.directory.register address).1)
    ⟨(cluster.directory.register address).2, _⟩
  cases answer : (cluster.directory.register address).1 with
  | ok registration => exact .single (.registered answer)
  | error cause =>
      rw [Directory.register_of_error answer]
      exact .none _

theorem access_effects (cluster : Cluster σ) (node : NodeId) (what : Access) :
    Effects (Backing.Reliable σ) forced cluster.view
      (cluster.step (.request (.access node what))).1
      (cluster.step (.request (.access node what))).2.view := by
  have concluded := cluster.service.perform_concludes node what
  simp only [step, view]
  rcases performed : cluster.service.perform (.access node what) with ⟨outcome, later⟩
  rw [performed] at concluded
  cases outcome with
  | ok result =>
      obtain ⟨submitted, appended, effects⟩ := concluded.effects cluster.flights
      change Effects _ _ _ (List.map _ (later.directory.pending.drop
        cluster.service.directory.pending.length) ++ _) _
      rw [appended, List.drop_left]
      exact effects.trans (.told cluster.flights concluded.holds)
  | error cause =>
      obtain ⟨submitted, appended, effects⟩ := concluded.effects cluster.flights
      change Effects _ _ _ (List.map _ (later.directory.pending.drop
        cluster.service.directory.pending.length) ++ []) _
      rw [appended, List.drop_left, List.append_nil]
      exact effects

/-- Giving a key up comes to the same for objects and bindings. -/
theorem giveUp_effects (cluster : Cluster σ) (node : NodeId) (key : Key) :
    Effects (Backing.Reliable σ) forced cluster.view
      (Event.ofRelease node key
        ((Service.giveUp node key : Action σ Bool).perform cluster.service.world).1)
      ⟨((Service.giveUp node key : Action σ Bool).perform cluster.service.world).2.directory,
        cluster.flights⟩ := by
  rw [Service.perform_giveUp]
  cases cluster.service.world.directory.registry.isLive node with
  | false => exact .none _
  | true => exact .single (.gaveUp cluster.directory cluster.flights node key)

theorem releaseObject_effects (cluster : Cluster σ) (node : NodeId) (oid : ObjectId) :
    Effects (Backing.Reliable σ) forced cluster.view
      (cluster.step (.request (.releaseObject node oid))).1
      (cluster.step (.request (.releaseObject node oid))).2.view := by
  have effects : Effects (Backing.Reliable σ) forced cluster.view _ _ :=
    cluster.giveUp_effects node (.object oid)
  have same := Service.pending_giveUp node (.object oid) cluster.service.world
  have performed : cluster.service.perform (.releaseObject node oid) =
      if 0 ≤ oid then cluster.service.act (Service.giveUp node (.object oid))
      else (.error (.invalidArgument (.releaseOfNegativeObject oid)), cluster.service) := by
    simp only [Service.perform, Service.act, Action.perform_bind, Action.perform_requireArgument]
    by_cases acceptable : 0 ≤ oid <;> simp [acceptable]
  by_cases acceptable : 0 ≤ oid
  · rw [if_pos acceptable] at performed
    rw [step_request_of_pending (by rw [performed]; exact same)]
    simp only [step, performed]
    exact effects
  · rw [if_neg acceptable] at performed
    rw [step_request_of_pending (by rw [performed]; rfl)]
    simp only [step, performed]
    exact .none _

theorem releaseBinding_effects (cluster : Cluster σ) (node : NodeId) (place : BindingKey) :
    Effects (Backing.Reliable σ) forced cluster.view
      (cluster.step (.request (.releaseBinding node place))).1
      (cluster.step (.request (.releaseBinding node place))).2.view := by
  have effects : Effects (Backing.Reliable σ) forced cluster.view _ _ :=
    cluster.giveUp_effects node (.binding place)
  have same : (cluster.service.perform (.releaseBinding node place)).2.directory.pending =
      cluster.directory.pending :=
    Service.pending_giveUp node (.binding place) cluster.service.world
  rw [step_request_of_pending same]
  exact effects

theorem request_effects (cluster : Cluster σ) (request : Request) :
    Effects (Backing.Reliable σ) forced cluster.view (cluster.step (.request request)).1
      (cluster.step (.request request)).2.view := by
  cases request with
  | registerNode address => exact cluster.register_effects address
  | access node what => exact cluster.access_effects node what
  | releaseObject node oid => exact cluster.releaseObject_effects node oid
  | releaseBinding node place => exact cluster.releaseBinding_effects node place
  | newObjectIds count =>
      rw [step_request_of_pending rfl]
      exact .none _
  | getClassId info =>
      rw [step_request_of_pending rfl]
      exact .none _
  | getClassInfo id =>
      rw [step_request_of_pending rfl]
      exact .none _

/-! ### Steps and runs -/

/-- A whole delivery is one that departs, learns its outcome and ends. -/
theorem deliver_effects (cluster : Cluster σ) (index : Nat) :
    Effects (Backing.Reliable σ) forced cluster.view (cluster.step (.deliver index)).1
      (cluster.step (.deliver index)).2.view := by
  simp only [step, Site.deliverPending, Site.deliver, site]
  cases waiting : cluster.directory.pending[index]? with
  | none => exact .none _
  | some request =>
      simp only [Option.map_some]
      generalize started : ({
        directory := { cluster.directory with
          pending := cluster.directory.pending.eraseIdx index }
        endpoints := cluster.endpoints } : Site) = site
      obtain ⟨died, settled, gone⟩ := Site.deliverWithin_settle cluster.service.settings request
        cluster.service.settings.attempts site
      rcases ran : Site.deliverWithin cluster.service.settings request
        cluster.service.settings.attempts site with ⟨outcome, later⟩
      rw [ran] at settled gone
      subst started
      change Effects _ _ _ (outcome.events request) ⟨later.directory, cluster.flights⟩
      rw [settled]
      refine .silent (.departed cluster.flights 0 waiting) (.silent (.died _ _ died) ?_)
      cases outcome with
      | acknowledged =>
          exact .cons (.continued_last _ cluster.flights _ (some true))
            (.single (.settled_last _ cluster.flights _ nofun))
      | targetGone =>
          exact .single (.settled_last _ cluster.flights _ fun _ => gone rfl)
      | nodeFailed =>
          exact .silent (.continued_last _ cluster.flights _ (some false))
            (.single (.settled_last _ cluster.flights _ nofun))

theorem proceed_effects (cluster : Cluster σ) (index : Nat) (draw : UInt64) :
    Effects (Backing.Reliable σ) forced cluster.view (cluster.step (.proceed index draw)).1
      (cluster.step (.proceed index draw)).2.view := by
  simp only [step]
  cases flying : cluster.flights[index]? with
  | none => exact .none _
  | some flight =>
      obtain ⟨died, proceeded⟩ :=
        Traffic.proceed_settle cluster.service.settings flight cluster.site draw
      rcases ran : Traffic.proceed cluster.service.settings flight cluster.site draw with
        ⟨continued, later⟩
      rw [ran] at proceeded
      refine .silent (.died cluster.directory cluster.flights died) ?_
      simp only [ran]
      cases continued with
      | none =>
          obtain ⟨settled, gone⟩ := proceeded
          change Effects _ _ _ _ ⟨later.directory, _⟩
          rw [settled]
          exact .single (.settled flying gone)
      | some continued =>
          obtain ⟨buried, same⟩ := proceeded
          change Effects _ _ _ _ ⟨later.directory, _⟩
          rw [buried]
          exact .single (.continued _ flying same)

/-- Every step is a sequence of effects. -/
theorem step_effects (cluster : Cluster σ) (step : Step σ) (allowed : step.isForced → forced) :
    Effects (Backing.Reliable σ) forced cluster.view (cluster.step step).1
      (cluster.step step).2.view := by
  cases step with
  | request request => exact cluster.request_effects request
  | markDead node => exact .single (.died cluster.directory cluster.flights [node])
  | nodeFailed node => exact .single (.failed cluster.directory cluster.flights node)
  | release node key => exact .single (.gaveUp cluster.directory cluster.flights node key)
  | completeRelease node key =>
      exact .single (.completed cluster.directory cluster.flights node key)
  | forceRelease node scope =>
      exact .single (.stripped cluster.directory cluster.flights node scope (allowed rfl))
  | deliver index => exact cluster.deliver_effects index
  | depart index now =>
      simp only [Cluster.step]
      cases waiting : cluster.directory.pending[index]? with
      | none => exact .none _
      | some request => exact .single (.departed cluster.flights now waiting)
  | proceed index draw => exact cluster.proceed_effects index draw
  | restock store => exact .none _
  | reroute endpoints => exact .none _

/-- Every run is a sequence of effects. -/
theorem run_effects (cluster : Cluster σ) (steps : List (Step σ))
    (allowed : ∀ step ∈ steps, step.isForced → forced) :
    Effects (Backing.Reliable σ) forced cluster.view (cluster.run steps).1
      (cluster.run steps).2.view := by
  induction steps generalizing cluster with
  | nil => exact .none _
  | cons step rest ih =>
      have first := cluster.step_effects step (allowed step List.mem_cons_self)
      exact first.trans (ih _ fun later among => allowed later (List.mem_cons_of_mem step among))

/-- What holds at the start and survives each effect holds after every run. -/
theorem run_preserves {range : PortRange} {sink : Sink} {settings : DeliverySettings}
    {store : σ} {endpoints : Endpoints} {steps : List (Step σ)}
    (allowed : ∀ step ∈ steps, step.isForced → forced) (holds : List Event → View → Prop)
    (initially : holds [] ⟨Directory.new range sink, []⟩)
    (closed : ∀ {past before events after}, holds past before →
      Effect (Backing.Reliable σ) forced before events after → holds (past ++ events) after) :
    holds ((start range sink settings store endpoints).run steps).1
      ((start range sink settings store endpoints).run steps).2.view :=
  Effects.preserve holds closed [] initially
    ((start range sink settings store endpoints).run_effects steps allowed)

end Cluster

end CacheDirectory
