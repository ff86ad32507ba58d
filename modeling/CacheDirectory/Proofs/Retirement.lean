/-
Module: CacheDirectory.Proofs.Retirement
Purpose: What is left of a connection when it has ended, whatever came over it: the nodes
  that registered over it are dead and at no key, all others live or not as before, and
  the ports are free that were free, apart from whom others declared dead meanwhile.
Trusted boundary: none
Main exports: Backing.Buries, Registry.Spares, Passage, Session.serve_tended,
  Conversation.FelledDuring, Conversation.retires_its_own
-/
import CacheDirectory.Proofs.Conversations
import CacheDirectory.Proofs.Laws
import CacheDirectory.Proofs.Registrations
import CacheDirectory.Proofs.Transparency
import Mathlib.Data.List.Induction

namespace CacheDirectory

open Std Wire

/-! ### Who dies -/

/-- Lookups report no deaths but those of nodes that are `gone`. -/
structure Backing.Buries (σ : Type) [Backing σ] (gone : NodeId → Prop) : Prop where
  object (oid : ObjectId) (store : σ) : ∀ node ∈ (Backing.object oid store).1.died, gone node
  nextObject (after : ObjectId) (store : σ) :
    ∀ node ∈ (Backing.nextObject after store).1.died, gone node
  binding (name : String) (store : σ) : ∀ node ∈ (Backing.binding name store).1.died, gone node
  nextBinding (after : Option String) (store : σ) :
    ∀ node ∈ (Backing.nextBinding after store).1.died, gone node

theorem Backing.Buries.mono {σ : Type} [Backing σ] {gone wider : NodeId → Prop}
    (buries : Backing.Buries σ gone) (weaker : ∀ node, gone node → wider node) :
    Backing.Buries σ wider where
  object oid store node died := weaker node (buries.object oid store node died)
  nextObject after store node died := weaker node (buries.nextObject after store node died)
  binding name store node died := weaker node (buries.binding name store node died)
  nextBinding after store node died := weaker node (buries.nextBinding after store node died)

/-- A store in memory reports no deaths. -/
theorem Store.buries (gone : NodeId → Prop) : Backing.Buries Store gone :=
  ⟨fun _ _ => nofun, fun _ _ => nofun, fun _ _ => nofun, fun _ _ => nofun⟩

/-- Whoever lived lives on, or is excused. -/
def Registry.Spares (before : Registry) (excused : NodeId → Prop) (after : Registry) : Prop :=
  ∀ node, before.isLive node = true → after.isLive node = true ∨ excused node

namespace Registry.Spares

variable {first second third : Registry} {excused wider : NodeId → Prop}

theorem refl (registry : Registry) : registry.Spares excused registry :=
  fun _ live => Or.inl live

theorem trans (early : first.Spares excused second) (late : second.Spares excused third) :
    first.Spares excused third := by
  intro node live
  rcases early node live with live | excuse
  · exact late node live
  · exact Or.inr excuse

theorem mono (spares : first.Spares excused second) (weaker : ∀ node, excused node → wider node) :
    first.Spares wider second :=
  fun node live => (spares node live).imp_right (weaker node)

/-- A registration kills nobody. -/
theorem register (registry : Registry) (identity : String) :
    registry.Spares excused (registry.register identity).2 := by
  intro node live
  left
  cases answer : (registry.register identity).1 with
  | error cause => rwa [register_of_error answer]
  | ok registration =>
      by_cases same : registration.node = node
      · rw [(register_eq answer).2.2]
        simp [isLive, same]
      · rwa [isLive_register answer same]

end Registry.Spares

section

variable {σ : Type} [Backing σ] {gone : NodeId → Prop}

/-- Operations kill nobody. Who dies while they run dies during lookups. -/
theorem Backing.Buries.law (buries : Backing.Buries σ gone) :
    Action.Law fun before after : World σ =>
      before.directory.registry.Spares gone after.directory.registry :=
  have looked {α : Type} {read : σ → Reading α × σ}
      (reported : ∀ store, ∀ node ∈ (read store).1.died, gone node) :
      (Action.lookup read).Obeys fun before after =>
        before.directory.registry.Spares gone after.directory.registry := by
    intro world node live
    rw [Action.perform_lookup]
    by_cases died : node ∈ (read world.store).1.died
    · exact Or.inr (reported world.store node died)
    · exact Or.inl (Registry.isLive_markAllDead.mpr ⟨live, died⟩)
  { refl := fun world => .refl world.directory.registry
    trans := .trans
    object := fun oid => looked (buries.object oid)
    nextObject := fun after => looked (buries.nextObject after)
    binding := fun name => looked (buries.binding name)
    nextBinding := fun after => looked (buries.nextBinding after)
    granted := fun world node key mode => by
      rw [Directory.registry_grant]
      exact .refl _
    forgone := fun world _ => .refl world.directory.registry
    released := fun world _ _ => .refl world.directory.registry }

theorem Service.perform_spares (buries : Backing.Buries σ gone) (service : Service σ)
    (request : Request) : service.directory.registry.Spares gone
      (service.perform request).2.directory.registry := by
  cases request with
  | registerNode address => exact .register service.directory.registry address
  | _ => exact service.perform_obeys buries.law nofun

end

/-! ### Who registers -/

theorem DeliveryOutcome.newcomers_clears (outcome : DeliveryOutcome) (request : ReleaseRequest) :
    newcomers [outcome.clears request] = [] := by
  cases outcome <;> rfl

theorem DeliveryOutcome.newcomers_events (outcome : DeliveryOutcome) (request : ReleaseRequest) :
    newcomers (outcome.events request) = [] := by
  cases outcome <;> rfl

theorem Flight.newcomers_events (flight : Flight) (continued : Option Flight) :
    newcomers (flight.events continued) = [] := by
  cases continued with
  | none => exact flight.ending.newcomers_clears flight.request
  | some later =>
      rw [events]
      split <;> rfl

section

variable {σ : Type} [Backing σ]

theorem Service.registered_dispatch (service : Service σ) (request : Request) :
    Session.registered (service.dispatch request).1 =
      newcomers (request.events (service.perform request).1) := by
  by_cases registers : ∃ address, request = .registerNode address
  · obtain ⟨address, rfl⟩ := registers
    rw [dispatch]
    rcases service.perform (.registerNode address) with ⟨cause | registration, later⟩ <;> rfl
  · have unregistered : ∀ address, request ≠ .registerNode address :=
      fun address same => registers ⟨address, same⟩
    rw [Request.newcomers_events unregistered, dispatch]
    rcases service.perform request with ⟨cause | result, later⟩
    · rfl
    · cases request with
      | registerNode address => exact absurd rfl (unregistered address)
      | access node what => cases what <;> rfl
      | _ => rfl

theorem Cluster.newcomers_request (cluster : Cluster σ) (request : Request) :
    newcomers (cluster.step (.request request)).1 =
      newcomers (request.events (cluster.service.perform request).1) := by
  rw [step]
  have silent (requests : List ReleaseRequest) : newcomers (requests.map .submitted) = [] :=
    newcomers_eq_nil (by simp)
  exact (newcomers_append _ _).trans (by rw [silent, List.nil_append])

/-- Nobody registers but by a request. -/
theorem Cluster.newcomers_step (cluster : Cluster σ) {step : Step σ}
    (unregistered : ∀ address, step ≠ .request (.registerNode address)) :
    newcomers (cluster.step step).1 = [] := by
  cases step with
  | request request =>
      rw [newcomers_request]
      exact Request.newcomers_events (fun address same => unregistered address (same ▸ rfl)) _
  | release node key => exact Event.newcomers_ofRelease node key _
  | deliver index =>
      rw [Cluster.step]
      split
      case h_1 => rfl
      case h_2 request outcome site _ => exact outcome.newcomers_events request
  | depart index now =>
      rw [Cluster.step]
      split <;> rfl
  | proceed index =>
      rw [Cluster.step]
      split
      case h_1 => rfl
      case h_2 flight _ => exact flight.newcomers_events _
  | _ => rfl

end

/-! ### One thing after another -/

/-- Something happened between the two views: the nodes that are `fresh` registered, in
this order, and nobody died who is not excused. -/
structure Passage (reliable : Prop) (excused : NodeId → Prop) (before : View)
    (fresh : List NodeId) (after : View) : Prop where
  happened : ∃ events, Effects reliable True before events after ∧ newcomers events = fresh
  spares : before.directory.registry.Spares excused after.directory.registry

namespace Passage

variable {reliable : Prop} {excused wider : NodeId → Prop} {first second third : View}
  {fresh fresher : List NodeId}

theorem refl (view : View) : Passage reliable excused view [] view :=
  ⟨⟨[], .none view, rfl⟩, .refl _⟩

theorem trans (early : Passage reliable excused first fresh second)
    (late : Passage reliable excused second fresher third) :
    Passage reliable excused first (fresh ++ fresher) third := by
  obtain ⟨events, effects, rfl⟩ := early.happened
  obtain ⟨later, further, rfl⟩ := late.happened
  exact ⟨⟨events ++ later, effects.trans further, newcomers_append events later⟩,
    early.spares.trans late.spares⟩

theorem mono (passage : Passage reliable excused first fresh second)
    (weaker : ∀ node, excused node → wider node) : Passage reliable wider first fresh second :=
  ⟨passage.happened, passage.spares.mono weaker⟩

/-- The retired stay retired unless their number is given to a new node. -/
theorem retired {scope : Key → Bool} {node : NodeId}
    (passage : Passage reliable excused first fresh second) (retired : first.Retired node scope)
    (old : node ∉ fresh) : second.Retired node scope := by
  obtain ⟨events, effects, rfl⟩ := passage.happened
  exact effects.retired retired fun registered => old (mem_newcomers.mpr registered)

end Passage

section

variable {σ : Type} (reliable : Prop)

/-- The directory of the service, with deliveries under way. -/
def Service.view (service : Service σ) (flights : List Flight) : View where
  directory := service.directory
  flights := flights

/-- A node that has failed is retired. -/
theorem Service.nodeFailed_passage (service : Service σ) (flights : List Flight) (victim : NodeId) :
    Passage reliable (· = victim) (service.view flights) []
        ((service.nodeFailed victim).2.view flights) ∧
      ((service.nodeFailed victim).2.view flights).Retired victim fun _ => true := by
  have failed : Effect reliable True (service.view flights) _
      ((service.nodeFailed victim).2.view flights) :=
    .failed service.directory flights victim
  have lives (node : NodeId) :
      ((service.nodeFailed victim).2.view flights).directory.registry.isLive node =
        (service.directory.registry.isLive node && node != victim) :=
    service.directory.isLive_nodeFailed victim node
  refine ⟨⟨⟨_, .single failed, rfl⟩, fun node live => ?_⟩, ?_, fun key _ => ?_⟩
  · by_cases same : node = victim
    · exact Or.inr same
    · left
      rw [lives, Bool.and_eq_true, bne_iff_ne]
      exact ⟨live, same⟩
  · rw [lives, bne_self_eq_false, Bool.and_false]
  · refine (congrArg (·.involves victim) (service.directory.entry_nodeFailed victim key)).trans ?_
    exact Entry.involves_strip_self _ victim

/-- All nodes that are declared dead one after the other are retired then, and nobody
else dies. -/
theorem Service.retire_passage (nodes : List NodeId) (service : Service σ) (flights : List Flight) :
    Passage reliable (· ∈ nodes) (service.view flights) [] ((service.retire nodes).view flights) ∧
      ∀ node ∈ nodes, ((service.retire nodes).view flights).Retired node fun _ => true := by
  induction nodes generalizing service with
  | nil => exact ⟨.refl _, nofun⟩
  | cons victim rest ih =>
      obtain ⟨first, retired⟩ := service.nodeFailed_passage reliable flights victim
      obtain ⟨later, others⟩ := ih (service.nodeFailed victim).2
      constructor
      · refine (first.mono ?_).trans (later.mono fun node => List.mem_cons_of_mem victim)
        rintro node rfl
        exact List.mem_cons_self
      · intro node among
        rcases List.mem_cons.mp among with rfl | among
        · exact later.retired retired List.not_mem_nil
        · exact others node among

end

section

variable {σ : Type} [Backing σ] {gone : NodeId → Prop}

/-- A request registers whom its answer says, and kills nobody. -/
theorem Service.dispatch_passage (buries : Backing.Buries σ gone) (service : Service σ)
    (flights : List Flight) (request : Request) :
    Passage (Backing.Reliable σ) gone (service.view flights)
      (Session.registered (service.dispatch request).1)
      ((service.dispatch request).2.view flights) := by
  have effects : Effects (Backing.Reliable σ) True _ _ _ :=
    Cluster.request_effects ⟨service, ∅, flights⟩ request
  have later : (service.dispatch request).2 = (service.perform request).2 := by
    rw [dispatch]
    rcases service.perform request with ⟨cause | result, later⟩ <;> rfl
  rw [later, service.registered_dispatch]
  exact ⟨⟨_, effects, Cluster.newcomers_request _ request⟩, service.perform_spares buries request⟩

/-! ### Serving a connection -/

namespace Session

/-- When everything that arrived has been answered, the other side may close. -/
theorem hangUp_of_answered {service : Service σ} {session : Session}
    (serving : session.condition = .serving) (answered : session.inbox = {}) :
    session.hangUp service =
      finish .ended service { session with inbox := { closed := true } } := by
  have going : session.isOver = false := bne_eq_false_iff_eq.mpr serving
  have read : ({ session.inbox with closed := true } : Inbox).take (M := Request) =
      (.ended, { closed := true }) := by
    rw [answered]
    rfl
  exact (if_neg (Bool.eq_false_iff.mp going)).trans (serve_of_ended read)

/-- What serving a connection comes to. Those who registered meanwhile are added to the
nodes of the connection. Nobody dies but those who are `gone`, unless the connection is
over: then its nodes are retired. -/
structure Tends (gone : NodeId → Prop) (flights : List Flight) (service : Service σ)
    (session : Session) (served : Served σ) : Prop where
  passage : ∃ fresh, served.session.nodes = session.nodes ++ fresh ∧
    Passage (Backing.Reliable σ) (fun node => gone node ∨ node ∈ served.session.nodes)
      (service.view flights) fresh (served.service.view flights)
  retired : served.session.isOver = true → ∀ node ∈ served.session.nodes,
    (served.service.view flights).Retired node fun _ => true

theorem finish_tends (gone : NodeId → Prop) (flights : List Flight) (condition : Condition)
    (service : Service σ) {session ending : Session} (same : ending.nodes = session.nodes) :
    Tends gone flights service session (finish condition service ending) := by
  obtain ⟨passage, retired⟩ :=
    Service.retire_passage (Backing.Reliable σ) ending.nodes service flights
  exact ⟨⟨[], same.trans (List.append_nil _).symm, passage.mono fun _ => Or.inr⟩, fun _ => retired⟩

/-- A request is dispatched before the rest is served. -/
theorem Tends.dispatch {flights : List Flight} {service answered : Service σ}
    {session rest : Session} {served : Served σ} (buries : Backing.Buries σ gone)
    {request : Request} {response : Response}
    (answer : service.dispatch request = (response, answered))
    (nodes : rest.nodes = session.nodes ++ registered response)
    (tends : Tends gone flights answered rest served) :
    Tends gone flights service session served := by
  obtain ⟨fresh, same, passage⟩ := tends.passage
  have first := service.dispatch_passage buries flights request
  rw [answer] at first
  refine ⟨⟨_, ?_, (first.mono fun _ => Or.inl).trans passage⟩, tends.retired⟩
  rw [same, nodes, List.append_assoc]

/-- By induction along the requests that are served. -/
theorem serve_tends (buries : Backing.Buries σ gone) (flights : List Flight)
    (service : Service σ) (session : Session) (serving : session.condition = .serving) :
    Tends gone flights service session (serve service session) := by
  induction service, session using Session.serve.induct with
  | case1 service session request inbox read response answered answer _ error unsent =>
    rw [serve_of_unsent read answer unsent]
    exact (finish_tends gone flights _ answered rfl).dispatch buries answer rfl
  | case2 service session request inbox read response answered answer _ frame rest sent ih =>
    rw [serve_of_sent read answer sent]
    have later := ih (by rw [condition_of_reply sent]; exact serving)
    have going : Tends gone flights answered rest
        { serve answered rest with replies := frame :: (serve answered rest).replies } :=
      ⟨later.passage, later.retired⟩
    exact going.dispatch buries answer (nodes_of_reply sent)
  | case3 service session inbox read =>
    rw [serve_of_nothingYet read]
    refine ⟨⟨[], (List.append_nil _).symm, .refl _⟩, fun ended => ?_⟩
    exact absurd serving (bne_iff_ne.mp ended)
  | case4 service session inbox read =>
    rw [serve_of_ended read]
    exact finish_tends gone flights _ service rfl
  | case5 service session error inbox read =>
    rw [serve_of_broken read]
    exact finish_tends gone flights _ service rfl

/-- A connection that is over is not served, and its nodes stay as they are. -/
theorem resume_tends (buries : Backing.Buries σ gone) (flights : List Flight)
    (service : Service σ) (session : Session)
    (retired : session.isOver = true →
      ∀ node ∈ session.nodes, (service.view flights).Retired node fun _ => true) :
    Tends gone flights service session (resume service session) := by
  rw [resume]
  split
  case isTrue ended => exact ⟨⟨[], (List.append_nil _).symm, .refl _⟩, fun _ => retired ended⟩
  case isFalse going =>
    rw [Bool.not_eq_true] at going
    exact serve_tends buries flights service session (bne_eq_false_iff_eq.mp going)

/-- A connection that the other side has closed is over when it has been served. -/
theorem isOver_serve (service : Service σ) (session : Session)
    (closed : session.inbox.closed = true) : (serve service session).session.isOver = true := by
  induction service, session using Session.serve.induct with
  | case1 service session request inbox read response answered answer _ error unsent =>
    rw [serve_of_unsent read answer unsent]
    rfl
  | case2 service session request inbox read response answered answer _ frame rest sent ih =>
    rw [serve_of_sent read answer sent]
    apply ih
    rw [inbox_of_reply sent]
    exact (Inbox.closed_of_take read).trans closed
  | case3 service session inbox read => exact absurd read (Inbox.take_ne_nothingYet closed)
  | case4 service session inbox read =>
    rw [serve_of_ended read]
    rfl
  | case5 service session error inbox read =>
    rw [serve_of_broken read]
    rfl

end Session

/-! ### The whole connection -/

namespace Conversation

/-- A step elsewhere is the death of the node. -/
def Fells (conversation : Conversation σ) (step : Step σ) (node : NodeId) : Prop :=
  conversation.directory.registry.isLive node = true ∧
    (conversation.meet (.elsewhere step)).directory.registry.isLive node = false

/-- One of the steps elsewhere was the death of the node. -/
def FelledDuring (opened : Conversation σ) (incidents : List (Incident σ)) (node : NodeId) : Prop :=
  ∃ earlier step later, incidents = earlier ++ .elsewhere step :: later ∧
    (opened.run earlier).Fells step node

theorem FelledDuring.append {opened : Conversation σ} {incidents : List (Incident σ)}
    {node : NodeId} (felled : opened.FelledDuring incidents node) (more : List (Incident σ)) :
    opened.FelledDuring (incidents ++ more) node := by
  obtain ⟨earlier, step, later, rfl, fells⟩ := felled
  exact ⟨earlier, step, later ++ more, by rw [List.append_assoc, List.cons_append], fells⟩

theorem FelledDuring.exists_step {opened : Conversation σ} {incidents : List (Incident σ)}
    {node : NodeId} (felled : opened.FelledDuring incidents node) :
    ∃ step, .elsewhere step ∈ incidents := by
  obtain ⟨earlier, step, later, rfl, -⟩ := felled
  exact ⟨step, List.mem_append_right earlier List.mem_cons_self⟩

/-- The state of a connection that was opened before: its nodes are those that have
registered since, only they and those who are `gone` have died since, and when it is over
its nodes are retired. -/
structure Tended (gone : NodeId → Prop) (opened now : Conversation σ) : Prop where
  passage : Passage (Backing.Reliable σ) (fun node => gone node ∨ node ∈ now.session.nodes)
    opened.cluster.view now.session.nodes now.cluster.view
  retired : now.session.isOver = true →
    ∀ node ∈ now.session.nodes, now.cluster.view.Retired node fun _ => true

namespace Tended

variable {wider : NodeId → Prop} {opened now : Conversation σ}

theorem mono (tended : Tended gone opened now) (weaker : ∀ node, gone node → wider node) :
    Tended wider opened now :=
  ⟨tended.passage.mono fun node => Or.imp_left (weaker node), tended.retired⟩

theorem start (fresh : opened.session.nodes = []) : Tended gone opened opened := by
  constructor
  · rw [fresh]
    exact .refl _
  · rw [fresh]
    exact fun _ => nofun

/-- The connection is served. -/
theorem serve {how : Service σ → Session → Served σ} {session : Session}
    (tended : Tended gone opened now) (same : session.nodes = now.session.nodes)
    (tends : Session.Tends gone now.cluster.flights now.cluster.service session
      (how now.cluster.service now.session)) : Tended gone opened (now.serve how) := by
  obtain ⟨fresh, nodes, passage⟩ := tends.passage
  have all : (now.serve how).session.nodes = now.session.nodes ++ fresh := by
    rw [← same]
    exact nodes
  have earlier : Passage (Backing.Reliable σ)
      (fun node => gone node ∨ node ∈ (now.serve how).session.nodes)
      opened.cluster.view now.session.nodes now.cluster.view := by
    refine tended.passage.mono fun node => Or.imp_right fun among => ?_
    rw [all]
    exact List.mem_append_left fresh among
  have joined := earlier.trans passage
  rw [← all] at joined
  exact ⟨joined, tends.retired⟩

/-- The connection is served, unless it is over, after something has arrived. -/
theorem resume (tended : Tended gone opened now) (buries : Backing.Buries σ gone)
    (arrived : Inbox → Inbox) :
    Tended gone opened (now.serve fun service session =>
      Session.resume service { session with inbox := arrived session.inbox }) := by
  have tends := Session.resume_tends buries now.cluster.flights now.cluster.service
    { now.session with inbox := arrived now.session.inbox } tended.retired
  refine tended.serve ?_ tends
  rfl

/-- Something else happens. -/
theorem elsewhere (tended : Tended gone opened now) {step : Step σ}
    (unregistered : ∀ address, step ≠ .request (.registerNode address)) :
    Tended (fun node => gone node ∨ now.Fells step node) opened (now.meet (.elsewhere step)) := by
  have effects : Effects (Backing.Reliable σ) True _ _ _ :=
    now.cluster.step_effects step fun _ => trivial
  have nobody := now.cluster.newcomers_step unregistered
  have passage : Passage (Backing.Reliable σ) (now.Fells step) now.cluster.view []
      (now.meet (.elsewhere step)).cluster.view := by
    refine ⟨⟨_, effects, nobody⟩, fun node live => ?_⟩
    cases lives : (now.meet (.elsewhere step)).directory.registry.isLive node with
    | true => exact Or.inl lives
    | false => exact Or.inr ⟨live, lives⟩
  constructor
  · have earlier : Passage (Backing.Reliable σ)
        (fun node => (gone node ∨ now.Fells step node) ∨ node ∈ now.session.nodes)
        opened.cluster.view now.session.nodes now.cluster.view :=
      tended.passage.mono fun node => Or.imp_left Or.inl
    have joined := earlier.trans (passage.mono fun node fells => Or.inl (Or.inr fells))
    rwa [List.append_nil] at joined
  · intro ended node among
    exact passage.retired (tended.retired ended node among) List.not_mem_nil

end Tended

/-- By induction on what has happened, from the last to the first. -/
theorem tended_run (buries : Backing.Buries σ gone) {opened : Conversation σ}
    (fresh : opened.session.nodes = []) {incidents : List (Incident σ)}
    (alone : ∀ address, .elsewhere (.request (.registerNode address)) ∉ incidents) :
    Tended (fun node => gone node ∨ opened.FelledDuring incidents node) opened
      (opened.run incidents) := by
  induction incidents using List.reverseRecOn with
  | nil => exact .start fresh
  | append_singleton earlier last ih =>
      have before := ih fun address among => alone address (List.mem_append_left _ among)
      rw [run_append]
      cases last with
      | arrives bytes =>
          have later := before.mono fun node => Or.imp_right fun felled =>
            felled.append [.arrives bytes]
          exact later.resume (buries.mono fun _ => Or.inl) fun inbox => inbox.receive bytes
      | elsewhere step =>
          have unregistered : ∀ address, step ≠ .request (.registerNode address) := by
            rintro address rfl
            exact alone address (List.mem_append_right _ List.mem_cons_self)
          refine (before.elsewhere unregistered).mono ?_
          rintro node ((is | felled) | fells)
          · exact Or.inl is
          · exact Or.inr (felled.append _)
          · exact Or.inr ⟨earlier, step, [], rfl, fells⟩

/-- A connection that the other side closes is over. -/
theorem isOver_hangUp (conversation : Conversation σ) :
    conversation.hangUp.session.isOver = true := by
  change (Session.resume _ _).session.isOver = true
  rw [Session.resume]
  split
  case isTrue ended => exact ended
  case isFalse => exact Session.isOver_serve _ _ rfl

/-- A connection ends, after whatever came over it: any bytes, cut off anywhere, and
replies that the other side did not take. Meanwhile anything else may happen, except that
others register. Then all who are new are the nodes of the connection; they are dead and
at no key. Nobody else lives than before, and everybody who lived does, except those whose
death was reported by a lookup or was a step elsewhere. The free ports are those that were
free, and the ports of the exceptions. This is so until all numbers have been used up. -/
theorem retires_its_own (range : PortRange) (sink : Sink) (settings : DeliverySettings)
    (store : σ) (endpoints : Endpoints) (past : List (Step σ)) (room : Option Nat)
    (incidents : List (Incident σ)) (buries : Backing.Buries σ gone)
    (alone : ∀ address, .elsewhere (.request (.registerNode address)) ∉ incidents) :
    let before := (Cluster.start range sink settings store endpoints).run past
    let opened : Conversation σ := { cluster := before.2, session := { room } }
    let closed := (opened.run incidents).hangUp
    let registry := before.2.directory.registry
    let later := closed.directory.registry
    closed.session.isOver = true ∧
    ((newcomers before.1).length + closed.session.nodes.length ≤ UInt64.size →
      (∀ node ∈ closed.session.nodes, closed.cluster.view.Retired node fun _ => true) ∧
      (∀ node, node ∈ later.nodes ↔ node ∈ registry.nodes ∨ node ∈ closed.session.nodes) ∧
      (∀ node, later.isLive node = true → registry.isLive node = true) ∧
      (∀ node, registry.isLive node = true →
        later.isLive node = true ∨ gone node ∨ opened.FelledDuring incidents node) ∧
      ∀ port, port ∈ later.freePorts ↔ port ∈ registry.freePorts ∨
        ∃ node, registry.Owns node port ∧ later.isLive node = false) := by
  intro before opened closed registry later
  have running : Tended _ opened (opened.run incidents) := tended_run buries rfl alone
  have tended : Tended _ opened closed :=
    running.resume (buries.mono fun _ => Or.inl) fun inbox => { inbox with closed := true }
  have ended : closed.session.isOver = true := isOver_hangUp _
  refine ⟨ended, fun few => ?_⟩
  have retired := tended.retired ended
  obtain ⟨events, effects, own⟩ := tended.passage.happened
  have early : Registered range before.1 before.2.view :=
    Cluster.run_registered range sink settings store endpoints past
  have late : Registered range (before.1 ++ events) closed.cluster.view := early.effects effects
  have follows : registry.Follows later closed.session.nodes := own ▸ effects.follows
  have many : (newcomers (before.1 ++ events)).length ≤ UInt64.size := by
    rw [newcomers_append, List.length_append, own]
    exact few
  have old (node : NodeId) (live : registry.isLive node = true) : node ∉ closed.session.nodes := by
    intro new
    have known := (early.known node).mp (Registry.mem_nodes_of_live live)
    rw [← own, mem_newcomers] at new
    exact Nat.not_lt_of_le many (late.numbered.lt_of_reused (mem_newcomers.mp known) new)
  refine ⟨retired, ?_, ?_, ?_, ?_⟩
  · intro node
    refine (late.known node).trans ?_
    rw [newcomers_append, List.mem_append, own, ← early.known]
    rfl
  · intro node live
    refine follows.live (fun new => ?_) live
    exact Bool.eq_false_iff.mp (retired node new).dead live
  · intro node live
    rcases tended.passage.spares node live with live | (excused | new)
    · exact Or.inl live
    · exact Or.inr excused
    · exact absurd new (old node live)
  · exact (early.balanced (by omega)).mem_freePorts_iff (late.balanced many) follows
      fun node new => (retired node new).dead

/-- A connection to a service with which three machines have registered. -/
def guest : Conversation Store where
  cluster := (Cluster.oneObject.run (Cluster.displacedTwice.take 4)).2

/-- A fourth machine registers over it. -/
theorem guest_registers {frame : Bytes}
    (asked : Frame.encode (Request.registerNode "d") = .ok frame) :
    let visiting := guest.run [.arrives frame]
    visiting.session.condition = .serving ∧ visiting.session.inbox = {} ∧
      visiting.session.nodes = [4] ∧ visiting.directory.registry.isLive 4 = true := by
  intro visiting
  have answer : (guest.cluster.service.dispatch (.registerNode "d")).1 = .registered ⟨4, 41003⟩ := by
    decide +kernel
  have fits : (Frame.payload (guest.cluster.service.dispatch (.registerNode "d")).1).length ≤
      maxPayload := by
    rw [answer]
    decide +kernel
  obtain ⟨sent, answered⟩ := Frame.exists_encode_iff.mpr fits
  have received : guest.session.receive frame guest.cluster.service = _ :=
    Session.receive_encode rfl rfl rfl asked answered
  have session : visiting.session = _ := congrArg (·.session) received
  have service : visiting.cluster.service =
      (guest.cluster.service.dispatch (.registerNode "d")).2 := congrArg (·.service) received
  refine ⟨by rw [session]; rfl, by rw [session]; rfl, ?_, ?_⟩
  · rw [session]
    exact congrArg ([] ++ Session.registered ·) answer
  · change visiting.cluster.service.directory.registry.isLive 4 = true
    rw [service]
    decide +kernel

/-- The fourth machine takes the last port. When its connection ends it is gone, the port
is free again and the others live on. -/
theorem guest_leaves :
    ∃ frame, Frame.encode (Request.registerNode "d") = .ok frame ∧
      let visiting := guest.run [.arrives frame]
      let left := visiting.hangUp
      visiting.session.nodes = [4] ∧ visiting.directory.registry.isLive 4 = true ∧
      left.cluster.view.Retired 4 (fun _ => true) ∧
      left.directory.registry.isLive 1 = true ∧ 41003 ∈ left.directory.registry.freePorts := by
  have asks : (Frame.payload (Request.registerNode "d")).length ≤ maxPayload := by decide +kernel
  obtain ⟨frame, asked⟩ := Frame.exists_encode_iff.mpr asks
  refine ⟨frame, asked, ?_⟩
  intro visiting left
  obtain ⟨serving, answered, registered, live⟩ := guest_registers asked
  have leaves : left.session.nodes = [4] := by
    have ended : visiting.session.hangUp visiting.cluster.service = _ :=
      Session.hangUp_of_answered serving answered
    exact (congrArg (·.session.nodes) ended).trans registered
  have few : (newcomers (Cluster.oneObject.run (Cluster.displacedTwice.take 4)).1).length +
      left.session.nodes.length ≤ UInt64.size := by
    rw [leaves]
    decide +kernel
  have course := retires_its_own ⟨41000, 41003⟩ .collecting {} Cluster.oneObject.service.world.store
    Cluster.oneObject.endpoints (Cluster.displacedTwice.take 4) none [.arrives frame]
    (Store.buries fun _ => False) (by simp)
  obtain ⟨retired, -, -, spared, ports⟩ := course.2 few
  have own : 4 ∈ left.session.nodes := by simp [leaves]
  refine ⟨registered, live, retired 4 own, ?_, (ports 41003).mpr (Or.inl (by decide +kernel))⟩
  rcases spared 1 (by decide +kernel) with live | (never | felled)
  · exact live
  · exact never.elim
  · obtain ⟨step, among⟩ := felled.exists_step
    simp at among

end Conversation

end

end CacheDirectory
