/-
Module: CacheDirectory.Proofs.Runs
Purpose: Everything that can happen to a service and the nodes around it, one step
  at a time and in any order, and the history that a run leaves: who was granted
  what, who said to be done with it, and which requests went out.
Trusted boundary: none
Main exports: Cluster, Step, Event, Cluster.run, Since, Cluster.outstanding
-/
import CacheDirectory.Proofs.Access

namespace CacheDirectory

open Std Wire

/-! ### What is observed of a run -/

/-- Something that the properties of runs speak of. -/
inductive Event where
  /-- A new node got this number. -/
  | registered (node : NodeId)
  /-- An answer told the node that it has this access. -/
  | granted (node : NodeId) (key : Key) (mode : Mode)
  /-- The node gave the key up of its own accord. -/
  | gaveUp (node : NodeId) (key : Key)
  /-- The node acknowledged a request to release the key. -/
  | acknowledged (node : NodeId) (key : Key)
  /-- A grant asked a holder that it displaced to release the key. -/
  | submitted (request : ReleaseRequest)
  /-- The directory no longer records that the node is to release the keys in
  `scope`. -/
  | cleared (node : NodeId) (scope : Key → Bool)

/-- Some event of the history satisfies `opens`, and none after it `closes`. -/
def Since (opens closes : Event → Prop) (history : List Event) : Prop :=
  ∃ before event after, history = before ++ event :: after ∧ opens event ∧
    ∀ later ∈ after, ¬ closes later

theorem not_since_nil {opens closes : Event → Prop} : ¬ Since opens closes [] := by
  rintro ⟨before, event, after, split, -, -⟩
  cases before <;> cases split

theorem since_cons {opens closes : Event → Prop} {first : Event} {rest : List Event} :
    Since opens closes (first :: rest) ↔
      (opens first ∧ ∀ later ∈ rest, ¬ closes later) ∨ Since opens closes rest := by
  constructor
  · rintro ⟨before, event, after, split, opened, kept⟩
    cases before with
    | nil =>
        cases split
        exact Or.inl ⟨opened, kept⟩
    | cons head tail =>
        cases split
        exact Or.inr ⟨tail, event, after, rfl, opened, kept⟩
  · rintro (⟨opened, kept⟩ | ⟨before, event, after, rfl, opened, kept⟩)
    · exact ⟨[], first, rest, rfl, opened, kept⟩
    · exact ⟨first :: before, event, after, rfl, opened, kept⟩

instance decidableSince {opens closes : Event → Prop} [DecidablePred opens]
    [DecidablePred closes] : (history : List Event) → Decidable (Since opens closes history)
  | [] => isFalse not_since_nil
  | _ :: rest =>
    have : Decidable (Since opens closes rest) := decidableSince rest
    decidable_of_iff _ since_cons.symm

/-- The last event either opens anew or leaves open what was open. -/
theorem since_snoc {opens closes : Event → Prop} {history : List Event} {last : Event} :
    Since opens closes (history ++ [last]) ↔
      opens last ∨ ¬ closes last ∧ Since opens closes history := by
  constructor
  · rintro ⟨before, event, after, split, opened, kept⟩
    rcases List.eq_nil_or_concat after with rfl | ⟨after, final, rfl⟩
    · obtain ⟨-, same⟩ := List.append_inj' split rfl
      cases same
      exact Or.inl opened
    · have regrouped : history ++ [last] = (before ++ event :: after) ++ [final] := by
        rw [split, List.concat_eq_append, List.append_assoc, List.cons_append]
      obtain ⟨rfl, same⟩ := List.append_inj' regrouped rfl
      cases same
      rw [List.concat_eq_append] at kept
      exact Or.inr ⟨kept last (List.mem_append_right after List.mem_cons_self),
        before, event, after, rfl, opened,
        fun later among => kept later (List.mem_append_left _ among)⟩
  · rintro (opened | ⟨open_, before, event, after, rfl, opened, kept⟩)
    · exact ⟨history, last, [], rfl, opened, nofun⟩
    · refine ⟨before, event, after ++ [last], by rw [List.append_assoc, List.cons_append],
        opened, fun later among => ?_⟩
      rcases List.mem_append.mp among with early | final
      · exact kept later early
      · rw [List.mem_singleton.mp final]
        exact open_

/-- Events that do not close anything leave open what was open, and open what one
of them opens. -/
theorem since_append {opens closes : Event → Prop} {history events : List Event}
    (kept : ∀ event ∈ events, ¬ closes event) :
    Since opens closes (history ++ events) ↔
      Since opens closes history ∨ ∃ event ∈ events, opens event := by
  induction events generalizing history with
  | nil => simp
  | cons event rest ih =>
      have stays := kept event List.mem_cons_self
      have later := @ih (history ++ [event]) fun next among =>
        kept next (List.mem_cons_of_mem event among)
      rw [List.append_assoc, List.singleton_append, since_snoc] at later
      simp only [later, stays, not_false_eq_true, true_and, List.mem_cons, exists_eq_or_imp]
      rw [or_comm (a := opens event), or_assoc]

/-- Events of which none closes anything unless it is the only one, and opens nothing
then, close as a whole what one of them closes. -/
theorem since_append_of_alone {opens closes : Event → Prop} {history events : List Event}
    (alone : ∀ event ∈ events, closes event → events = [event] ∧ ¬ opens event) :
    Since opens closes (history ++ events) ↔
      (Since opens closes history ∧ ∀ event ∈ events, ¬ closes event) ∨
        ∃ event ∈ events, opens event := by
  by_cases closed : ∃ event ∈ events, closes event
  · obtain ⟨event, among, closing⟩ := closed
    obtain ⟨rfl, idle⟩ := alone event among closing
    rw [since_snoc]
    simp [closing, idle]
  · have kept : ∀ event ∈ events, ¬ closes event :=
      fun event among closing => closed ⟨event, among, closing⟩
    rw [since_append kept, and_iff_left kept]

/-- What an answer to a node that gives a key up says of it: the node had the key,
or it did not. -/
def Event.ofRelease (node : NodeId) (key : Key) : Except DirectoryError Bool → List Event
  | .ok true => [.gaveUp node key]
  | _ => []

theorem Event.ofRelease_ok (node : NodeId) (key : Key) (had : Bool) :
    ofRelease node key (.ok had) = if had then [.gaveUp node key] else [] := by
  cases had <;> rfl

/-- What a request contributes to the history by its answer. -/
def Wire.Request.events :
    (request : Request) → Except DirectoryError request.Result → List Event
  | .registerNode _, .ok registration => [.registered registration.node]
  | .access node what, .ok result =>
    (what.reports result).map fun report => .granted node report.key report.mode
  | .releaseObject node oid, answer => Event.ofRelease node (.object oid) answer
  | .releaseBinding node place, answer => Event.ofRelease node (.binding place) answer
  | _, _ => []

/-- What the end of a delivery takes out of the directory's records. -/
def DeliveryOutcome.clears (outcome : DeliveryOutcome) (request : ReleaseRequest) : Event :=
  match outcome with
  | .nodeFailed => .cleared request.target fun _ => true
  | _ => .cleared request.target (· == request.key)

/-- What a whole delivery contributes to the history. -/
def DeliveryOutcome.events (outcome : DeliveryOutcome) (request : ReleaseRequest) : List Event :=
  match outcome with
  | .acknowledged => [.acknowledged request.target request.key, outcome.clears request]
  | _ => [outcome.clears request]

/-- How a delivery that has this verdict ends, if it ends now. -/
def Flight.ending (flight : Flight) : DeliveryOutcome :=
  match flight.verdict with
  | none => .targetGone
  | some true => .acknowledged
  | some false => .nodeFailed

/-- What the continuation of a delivery contributes to the history: its end, or the
acknowledgement if it just came. -/
def Flight.events (flight : Flight) : Option Flight → List Event
  | none => [flight.ending.clears flight.request]
  | some continued =>
    if continued.verdict = some true then
      [.acknowledged flight.request.target flight.request.key]
    else []

/-! ### Steps -/

/-- A service, the nodes it can reach, and the deliveries under way. -/
structure Cluster (σ : Type) where
  service : Service σ
  endpoints : Endpoints := ∅
  flights : List Flight := []

/-- One thing that can happen. Deliveries are made in one go, or begun and
continued one by one, with anything else in between. -/
inductive Step (σ : Type) where
  /-- A node asks something, be it for access, and is answered. -/
  | request (request : Request)
  | markDead (node : NodeId)
  | nodeFailed (node : NodeId)
  /-- Drop access in the directory, without asking whether its holder lives. -/
  | release (node : NodeId) (key : Key)
  | completeRelease (node : NodeId) (key : Key)
  | forceRelease (node : NodeId) (scope : Key → Bool)
  /-- Deliver the pending request at this position. -/
  | deliver (index : Nat)
  /-- Begin at the time `now` to deliver the pending request at this position. -/
  | depart (index now : Nat)
  /-- Continue the delivery at this position. If it has to wait, chance draws `draw`. -/
  | proceed (index : Nat) (draw : UInt64 := 0)
  /-- The store changes on its own. -/
  | restock (store : σ)
  /-- The nodes change how they will answer. -/
  | reroute (endpoints : Endpoints)

/-- Whether the step takes access from a node by force. Only the directory's own
interface can, not the service. -/
def Step.isForced {σ : Type} : Step σ → Bool
  | .forceRelease _ _ => true
  | _ => false

namespace Cluster

variable {σ : Type}

/-- A cluster in which nobody has registered yet. -/
def start (range : PortRange) (sink : Sink) (settings : DeliverySettings) (store : σ)
    (endpoints : Endpoints) : Cluster σ where
  service := { world := { directory := Directory.new range sink, store }, settings }
  endpoints

/-- The directory of the service. -/
def directory (cluster : Cluster σ) : Directory :=
  cluster.service.directory

/-- Replace the directory of the service. -/
def withDirectory (cluster : Cluster σ) (directory : Directory) : Cluster σ :=
  { cluster with service := cluster.service.withDirectory directory }

/-- What deliveries act on. -/
def site (cluster : Cluster σ) : Site where
  directory := cluster.directory
  endpoints := cluster.endpoints

/-- Replace what deliveries act on. -/
def withSite (cluster : Cluster σ) (site : Site) : Cluster σ :=
  { cluster.withDirectory site.directory with endpoints := site.endpoints }

/-- The requests that were submitted and are not settled, whether or not their
delivery has begun. -/
def outstanding (cluster : Cluster σ) : List ReleaseRequest :=
  cluster.directory.pending ++ cluster.flights.map (·.request)

/-- One step: what it contributes to the history, and the cluster after it. A
position at which there is nothing makes it do nothing. -/
def step [Backing σ] (cluster : Cluster σ) : Step σ → List Event × Cluster σ
  | .request request =>
    let (outcome, service) := cluster.service.perform request
    let submitted := service.directory.pending.drop cluster.directory.pending.length
    (submitted.map .submitted ++ request.events outcome, { cluster with service })
  | .markDead node => ([], cluster.withDirectory (cluster.directory.markDead node).2)
  | .nodeFailed node =>
    ([.cleared node fun _ => true], cluster.withDirectory (cluster.directory.nodeFailed node).2)
  | .release node key =>
    let (released, directory) := cluster.directory.release node key
    (Event.ofRelease node key (.ok released), cluster.withDirectory directory)
  | .completeRelease node key =>
    ([.cleared node (· == key)],
      cluster.withDirectory (cluster.directory.completeRelease node key).2)
  | .forceRelease node scope =>
    ([.cleared node scope], cluster.withDirectory (cluster.directory.forceRelease node scope).2)
  | .deliver index =>
    match cluster.site.deliverPending cluster.service.settings index with
    | none => ([], cluster)
    | some (request, outcome, site) => (outcome.events request, cluster.withSite site)
  | .depart index now =>
    match cluster.directory.pending[index]? with
    | none => ([], cluster)
    | some request =>
      let pending := cluster.directory.pending.eraseIdx index
      ([], { cluster.withDirectory { cluster.directory with pending } with
        flights := cluster.flights ++ [{ request, due := now }] })
  | .proceed index draw =>
    match cluster.flights[index]? with
    | none => ([], cluster)
    | some flight =>
      let (continued, site) := Traffic.proceed cluster.service.settings flight cluster.site draw
      let flights :=
        match continued with
        | some later => cluster.flights.set index later
        | none => cluster.flights.eraseIdx index
      (flight.events continued, { cluster.withSite site with flights })
  | .restock store =>
    ([], { cluster with service := { cluster.service with
      world := { cluster.service.world with store } } })
  | .reroute endpoints => ([], { cluster with endpoints })

/-- Steps one after the other: the history they leave, and the cluster after
them. -/
def run [Backing σ] (cluster : Cluster σ) : List (Step σ) → List Event × Cluster σ
  | [] => ([], cluster)
  | step :: rest =>
    let (events, later) := cluster.step step
    let (history, final) := later.run rest
    (events ++ history, final)

/-! ### A run -/

/-- Nobody has registered yet with a service over one object. Two nodes will
acknowledge at once whatever they are asked. -/
def oneObject : Cluster Store :=
  start ⟨41000, 41003⟩ .collecting {} { objects := (∅ : ExtTreeMap ObjectId Bytes).insert 5 [1] }
    (((∅ : Endpoints).insert 1 {}).insert 2 {})

/-- Three nodes register. The first writes the object and loses it to the second,
which reads it, and both once more: two requests to the first node are under way
then. -/
def displacedTwice : List (Step Store) :=
  [.request (.registerNode "a"), .request (.registerNode "b"), .request (.registerNode "c"),
    .request (.access 1 (.getObjectForUpdate 5)), .request (.access 2 (.getObject 5)),
    .request (.access 1 (.getObjectForUpdate 5)), .request (.access 2 (.getObject 5))]

end Cluster

end CacheDirectory
