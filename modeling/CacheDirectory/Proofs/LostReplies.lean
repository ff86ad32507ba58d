/-
Module: CacheDirectory.Proofs.LostReplies
Purpose: When a request over a connection gets its reply. Over a store that holds nothing
  each request gets exactly one, in order, until the answer to one is too large for a
  frame: that request gets none, and the connection ends.
Trusted boundary: none
Main exports: Turn, Conversation.turn, Conversation.answered_unless_overflows,
  Conversation.duplicate_unanswered
-/
import CacheDirectory.Proofs.Conversations
import CacheDirectory.Proofs.ReplySizes
import CacheDirectory.Proofs.Transparency

namespace CacheDirectory

open Std Wire

/-- A request whose answer has no frame ends the connection over which it came. -/
theorem Session.receive_unencodable {σ : Type} [Backing σ] {service : Service σ}
    {session : Session} (serving : session.condition = .serving) (empty : session.inbox = {})
    {request : Request} {frame : Bytes} {error : ProtocolError}
    (asked : Frame.encode request = .ok frame)
    (refused : Frame.encode (service.dispatch request).1 = .error error) :
    session.receive frame service =
      finish (.failed error) (service.dispatch request).2
        (session.answering {} (service.dispatch request).1) := by
  have read : (session.extended frame).inbox.take = (.message request, {}) := by
    simp only [extended, empty]
    exact Inbox.take_encode Request.faithful asked false
  have answer : service.dispatch request =
      ((service.dispatch request).1, (service.dispatch request).2) := rfl
  have unsent : reply (service.dispatch request).1
      ((session.extended frame).answering {} (service.dispatch request).1) = .error error := by
    simp only [reply, refused]
    rfl
  rw [receive_of_serving serving, serve_of_unsent read answer unsent]
  rfl

theorem Service.store_retire {σ : Type} (nodes : List NodeId) (service : Service σ) :
    (service.retire nodes).world.store = service.world.store := by
  induction nodes generalizing service with
  | nil => rfl
  | cons node rest ih => exact ih (service.nodeFailed node).2

/-! ### Conversations -/

/-- One request over a connection: what else happens before it arrives, over other
connections and by itself, and how the connection cuts it. -/
structure Turn where
  meanwhile : List (Step Store) := []
  request : Request
  there : Transport

/-- What happens in a turn. A request that has no frame is not sent. -/
def Turn.incidents (turn : Turn) : List (Incident Store) :=
  turn.meanwhile.map .elsewhere ++
    match Frame.encode turn.request with
    | .error _ => []
    | .ok frame => (turn.there.pieces frame).map .arrives

/-- The store never changes on its own, and the request has a frame. -/
def Turn.Admissible (turn : Turn) : Prop :=
  (∀ store, .restock store ∉ turn.meanwhile) ∧ (Frame.payload turn.request).length ≤ maxPayload

/-- A connection that does not cut what is sent. -/
def Transport.whole : Transport :=
  ⟨fun sent => [sent], fun sent => List.append_nil sent⟩

/-- A machine registers with an address. -/
def Turn.registration (address : String) : Turn where
  request := .registerNode address
  there := .whole

theorem Turn.admissible_registration {address : String}
    (fits : address.utf8ByteSize + 12 ≤ maxPayload) : (registration address).Admissible := by
  refine ⟨nofun, ?_⟩
  change (littleEndian 4 0 ++ Layout.text.write address).length ≤ maxPayload
  rw [List.length_append, length_littleEndian, Layout.length_text]
  omega

namespace Conversation

/-- A new connection to a service over a store that holds nothing, in which nobody has
registered yet. -/
def begin (range : PortRange) (sink : Sink) (settings : DeliverySettings)
    (endpoints : Endpoints) : Conversation Store where
  cluster := .start range sink settings {} endpoints

/-- A connection to a service with four ports. -/
def fourPorts : Conversation Store :=
  begin ⟨41000, 41003⟩ .collecting {} ∅

/-- The service when the request of a turn arrives. -/
def met (conversation : Conversation Store) (turn : Turn) : Service Store :=
  (conversation.cluster.run turn.meanwhile).2.service

/-- A request arrives and is served. -/
def turn (conversation : Conversation Store) (turn : Turn) : Conversation Store :=
  conversation.run turn.incidents

/-- Turns one after the other. -/
def exchange (conversation : Conversation Store) (turns : List Turn) : Conversation Store :=
  turns.foldl (·.turn ·) conversation

/-- Between two turns of a connection that is served everything that arrived has been
answered, `count` requests so far. -/
structure AtRest (conversation : Conversation Store) (count : Nat) : Prop where
  empty : conversation.cluster.service.world.store = {}
  closed : conversation.session.inbox.closed = false
  inbox : conversation.session.condition = .serving → conversation.session.inbox = {}
  room : conversation.session.room = none
  replies : conversation.session.condition = .serving → conversation.replies.length = count

theorem atRest_begin (range : PortRange) (sink : Sink) (settings : DeliverySettings)
    (endpoints : Endpoints) : (begin range sink settings endpoints).AtRest 0 :=
  ⟨rfl, rfl, fun _ => rfl, rfl, fun _ => rfl⟩

variable {conversation : Conversation Store} {turn : Turn}

/-- A request that has a frame is served as if it arrived in one piece. -/
theorem turn_of_asked {frame : Bytes} {served : Served Store}
    (opened : conversation.session.inbox.closed = false)
    (asked : Frame.encode turn.request = .ok frame)
    (received : conversation.session.receive frame (conversation.met turn) = served) :
    conversation.turn turn =
      { cluster := { (conversation.cluster.run turn.meanwhile).2 with service := served.service }
        session := served.session
        replies := conversation.replies ++ served.replies } := by
  subst received
  simp only [Conversation.turn, Turn.incidents, asked, run_append, run_elsewhere, run_arrives, serve,
    Session.receiveAll_pieces _ opened (Frame.encode_ne_nil asked)]
  rfl

/-- A request that is answered in a frame gets it. -/
theorem turn_of_encoded {count : Nat} (rests : conversation.AtRest count)
    (serving : conversation.session.condition = .serving) {frame sent : Bytes}
    (asked : Frame.encode turn.request = .ok frame)
    (answered : Frame.encode ((conversation.met turn).dispatch turn.request).1 = .ok sent) :
    conversation.turn turn =
      { cluster := { (conversation.cluster.run turn.meanwhile).2 with
          service := ((conversation.met turn).dispatch turn.request).2 }
        session := conversation.session.answering {} ((conversation.met turn).dispatch turn.request).1
        replies := conversation.replies ++ [sent] } :=
  turn_of_asked rests.closed asked
    (Session.receive_encode serving rests.room (rests.inbox serving) asked answered)

/-- A request whose answer has no frame gets none, and the connection ends. -/
theorem turn_of_unencodable {count : Nat} (rests : conversation.AtRest count)
    (serving : conversation.session.condition = .serving) {frame : Bytes} {error : ProtocolError}
    (asked : Frame.encode turn.request = .ok frame)
    (refused : Frame.encode ((conversation.met turn).dispatch turn.request).1 = .error error) :
    conversation.turn turn =
      { cluster := { (conversation.cluster.run turn.meanwhile).2 with
          service := ((conversation.met turn).dispatch turn.request).2.retire
            (conversation.session.nodes ++
              Session.registered ((conversation.met turn).dispatch turn.request).1) }
        session := { conversation.session.answering {}
          ((conversation.met turn).dispatch turn.request).1 with condition := .failed error }
        replies := conversation.replies } := by
  rw [turn_of_asked rests.closed asked
    (Session.receive_unencodable serving (rests.inbox serving) asked refused), Session.finish,
    List.append_nil]
  rfl

/-- Over a connection that is over nothing is served. -/
theorem turn_of_over {count : Nat} (rests : conversation.AtRest count)
    (ended : conversation.session.condition ≠ .serving) {frame : Bytes}
    (asked : Frame.encode turn.request = .ok frame) :
    conversation.turn turn =
      { cluster := (conversation.cluster.run turn.meanwhile).2
        session := conversation.session.extended frame
        replies := conversation.replies } := by
  rw [turn_of_asked rests.closed asked (Session.receive_of_ended ended), List.append_nil]
  rfl

theorem met_empty {count : Nat} (rests : conversation.AtRest count) (admissible : turn.Admissible) :
    (conversation.met turn).world.store = {} := by
  rw [met, Cluster.store_run admissible.1, rests.empty]

/-- A connection at rest is at rest again after each turn. -/
theorem AtRest.after_turn {count : Nat} (rests : conversation.AtRest count)
    (admissible : turn.Admissible) : (conversation.turn turn).AtRest (count + 1) := by
  obtain ⟨frame, asked⟩ := Frame.exists_encode_iff.mpr admissible.2
  have empty := met_empty rests admissible
  have still : ((conversation.met turn).dispatch turn.request).2.world.store = {} := by
    rw [Service.store_dispatch, empty]
  by_cases serving : conversation.session.condition = .serving
  case neg =>
    rw [turn_of_over rests serving asked]
    exact ⟨empty, rests.closed, fun again => absurd again serving, rests.room,
      fun again => absurd again serving⟩
  case pos =>
    cases answered : Frame.encode ((conversation.met turn).dispatch turn.request).1 with
    | ok sent =>
        rw [turn_of_encoded rests serving asked answered]
        refine ⟨still, rfl, fun _ => rfl, rests.room, fun _ => ?_⟩
        rw [List.length_append, rests.replies serving]
        rfl
    | error error =>
        rw [turn_of_unencodable rests serving asked answered]
        refine ⟨?_, rfl, nofun, rests.room, nofun⟩
        exact (Service.store_retire _ _).trans still

/-- A connection that was at rest still is after any turns. -/
theorem AtRest.after_run {turns : List Turn} {count : Nat} (rests : conversation.AtRest count)
    (admissible : ∀ turn ∈ turns, turn.Admissible) :
    (conversation.exchange turns).AtRest (count + turns.length) := by
  induction turns generalizing conversation count with
  | nil => exact rests
  | cons turn later ih =>
      have next := ih (rests.after_turn (admissible turn List.mem_cons_self))
        fun other among => admissible other (List.mem_cons_of_mem turn among)
      rw [Nat.add_right_comm] at next
      exact next

/-- A connection that is still served after some requests, all of which have frames, has
had one reply for each. The next request gets one too, which is the frame of the answer,
and the connection goes on, unless the request is one of the two whose answer has no
frame: a registration that is refused with too long an address, or the contents of a
class that just fit in a request. That gets no reply, the connection ends, and the nodes
that registered over it die. -/
theorem answered_unless_overflows (range : PortRange) (sink : Sink) (settings : DeliverySettings)
    (endpoints : Endpoints) (turns : List Turn) (admissible : ∀ turn ∈ turns, turn.Admissible) :
    let before := (begin range sink settings endpoints).exchange turns
    before.session.condition = .serving →
    before.replies.length = turns.length ∧
    ∀ turn : Turn, turn.Admissible →
      let met := before.met turn
      let response := (met.dispatch turn.request).1
      let after := before.turn turn
      (¬ met.Overflows turn.request → ∃ frame, Frame.encode response = .ok frame ∧
        after.replies = before.replies ++ [frame] ∧ after.session.condition = .serving) ∧
      (met.Overflows turn.request → ∃ size, maxPayload < size ∧
        Frame.encode response = .error (.messageTooLarge size) ∧
        after.replies = before.replies ∧
        after.session.condition = .failed (.messageTooLarge size) ∧
        after.cluster.service = (met.dispatch turn.request).2.retire before.session.nodes) := by
  intro before serving
  have rests : before.AtRest (0 + turns.length) :=
    (atRest_begin range sink settings endpoints).after_run admissible
  refine ⟨by rw [rests.replies serving, Nat.zero_add], ?_⟩
  intro turn fits met response after
  obtain ⟨frame, asked⟩ := Frame.exists_encode_iff.mpr fits.2
  have sized := Service.fits_iff_not_overflows (met_empty rests fits) turn.request
  constructor
  case left =>
    intro brief
    obtain ⟨sent, answered⟩ := Frame.exists_encode_iff.mpr (sized.mpr brief)
    refine ⟨sent, answered, ?_⟩
    change (before.turn turn).replies = _ ∧ (before.turn turn).session.condition = _
    rw [turn_of_encoded rests serving asked answered]
    exact ⟨rfl, serving⟩
  case right =>
    intro overflows
    have large : maxPayload < (Frame.payload response).length :=
      Nat.lt_of_not_le fun small => sized.mp small overflows
    have refused : Frame.encode response =
        .error (.messageTooLarge (Frame.payload response).length) := if_pos large
    refine ⟨_, large, refused, ?_⟩
    change (before.turn turn).replies = _ ∧ (before.turn turn).session.condition = _ ∧
      (before.turn turn).cluster.service = _
    rw [turn_of_unencodable rests serving asked refused, Service.registered_of_overflows overflows,
      List.append_nil]
    exact ⟨rfl, rfl, rfl⟩

/-- Two machines register, and each is told of it. -/
theorem both_registrations_answered :
    ((fourPorts.turn (.registration "a")).turn (.registration "b")).replies.length = 2 ∧
      ((fourPorts.turn (.registration "a")).turn (.registration "b")).session.condition =
        .serving := by
  have admissible (address : String) (short : address.utf8ByteSize ≤ 1) :
      (Turn.registration address).Admissible :=
    Turn.admissible_registration (Nat.le_trans (Nat.add_le_add_right short 12) (by decide))
  have brief (address : String) (short : address.utf8ByteSize ≤ 1) (service : Service Store) :
      ¬ service.Overflows (.registerNode address) := by
    rintro ⟨existing, -, large⟩
    have name := existing.utf8ByteSize_text_le
    exact absurd (Nat.add_le_add_right (Nat.add_le_add short name) 44)
      (Nat.not_le_of_lt (Nat.lt_trans (by decide) large))
  have first := (answered_unless_overflows ⟨41000, 41003⟩ .collecting {} ∅ [] nofun rfl).2
    (.registration "a") (admissible "a" (by decide +kernel))
  obtain ⟨_, -, -, serving⟩ := first.1 (brief "a" (by decide +kernel) _)
  have second := answered_unless_overflows ⟨41000, 41003⟩ .collecting {} ∅ [.registration "a"]
    (fun turn among => List.mem_singleton.mp among ▸ admissible "a" (by decide +kernel)) serving
  have next := second.2 (.registration "b") (admissible "b" (by decide +kernel))
  obtain ⟨frame, -, replies, still⟩ := next.1 (brief "b" (by decide +kernel) _)
  refine ⟨?_, still⟩
  change ((fourPorts.exchange [.registration "a"]).turn _).replies.length = _
  rw [fourPorts, replies, List.length_append, second.1]
  rfl

end Conversation

/-! ### A registration that is refused in too many words -/

/-- A text several times over. -/
def Text.repeated (text : String) : Nat → String
  | 0 => ""
  | count + 1 => text ++ repeated text count

theorem Text.utf8ByteSize_repeated (text : String) (count : Nat) :
    (repeated text count).utf8ByteSize = count * text.utf8ByteSize := by
  induction count with
  | zero => rw [repeated, Nat.zero_mul]; rfl
  | succ count ih => rw [repeated, String.utf8ByteSize_append, ih, Nat.succ_mul, Nat.add_comm]

theorem Text.repeated_append (text : String) (count : Nat) :
    repeated text count ++ text = text ++ repeated text count := by
  induction count with
  | zero => rw [repeated, String.empty_append, String.append_empty]
  | succ count ih => rw [repeated, String.append_assoc, ih]

/-- What stands between two texts when both together are repeated. -/
def Text.between (first second : String) (count : Nat) : String :=
  second ++ repeated (first ++ second) count ++ first

theorem Text.around_between (first second : String) (count : Nat) :
    first ++ between first second count ++ second = repeated (first ++ second) (count + 2) := by
  have turned := repeated_append (first ++ second) count
  calc first ++ (second ++ repeated (first ++ second) count ++ first) ++ second
      = (first ++ second) ++ (repeated (first ++ second) count ++ (first ++ second)) := by
        simp only [String.append_assoc]
    _ = repeated (first ++ second) (count + 2) := by rw [turned]; rfl

theorem Text.utf8ByteSize_between (first second : String) (count : Nat) :
    (between first second count).utf8ByteSize =
      (count + 1) * (first.utf8ByteSize + second.utf8ByteSize) := by
  rw [between, String.utf8ByteSize_append, String.utf8ByteSize_append, utf8ByteSize_repeated,
    String.utf8ByteSize_append, Nat.succ_mul]
  omega

namespace Conversation

/-- The first registration succeeds. -/
theorem dispatch_fourPorts (address : String) :
    (fourPorts.cluster.service.dispatch (.registerNode address)).1 = .registered ⟨1, 41000⟩ ∧
      (fourPorts.cluster.service.dispatch (.registerNode address)).2.directory.registry =
        { fourPorts.cluster.directory.registry with
          nextRaw := 2
          nodes := fourPorts.cluster.directory.registry.nodes.insert 1 ⟨address, 41000, true⟩
          live := fourPorts.cluster.directory.registry.live.insert address 1
          freePorts := fourPorts.cluster.directory.registry.freePorts.erase 41000 } := by
  have unknown : fourPorts.cluster.service.directory.registry.live[address]? = none :=
    ExtTreeMap.getElem?_empty
  have port : fourPorts.cluster.service.directory.registry.freePorts.toList.head? = some 41000 := by
    decide +kernel
  simp only [Service.dispatch, Service.perform, Directory.register, Registry.register, unknown, port]
  exact ⟨rfl, rfl⟩

/-- The machine that registers first is node 1, and alive. -/
theorem turn_fourPorts {address : String} (fits : address.utf8ByteSize + 12 ≤ maxPayload) :
    let first := fourPorts.turn (.registration address)
    first.AtRest 1 ∧ first.session.condition = .serving ∧ first.session.nodes = [1] ∧
      first.cluster.directory.registry.live[address]? = some 1 ∧
      first.cluster.directory.registry.isLive 1 = true := by
  intro first
  obtain ⟨answer, registry⟩ := dispatch_fourPorts address
  have starts : fourPorts.AtRest 0 := atRest_begin _ _ _ _
  have admissible := Turn.admissible_registration fits
  obtain ⟨frame, asked⟩ := Frame.exists_encode_iff.mpr admissible.2
  have brief : (Frame.payload (fourPorts.cluster.service.dispatch (.registerNode address)).1).length ≤
      maxPayload := by
    rw [answer]
    exact Response.fits_of_brief (Response.brief_registered _)
  obtain ⟨sent, answered⟩ := Frame.exists_encode_iff.mpr brief
  have begins : first = _ := turn_of_encoded starts rfl asked answered
  have registered : first.cluster.directory.registry =
      (fourPorts.cluster.service.dispatch (.registerNode address)).2.directory.registry := by
    rw [begins]
    rfl
  rw [registry] at registered
  refine ⟨starts.after_turn admissible, ?_, ?_, ?_, ?_⟩
  · rw [begins]
    rfl
  · rw [begins]
    change [] ++ Session.registered (fourPorts.cluster.service.dispatch (.registerNode address)).1 = _
    rw [answer]
    rfl
  · rw [registered]
    exact ExtTreeMap.getElem?_insert_self
  · rw [registered]
    simp [Registry.isLive]

/-- The refusal of the second registration repeats the address. -/
theorem dispatch_again {service : Service Store} {address : String}
    (known : service.directory.registry.live[address]? = some 1) :
    service.dispatch (.registerNode address) = (.error ⟨.duplicateRegistration,
        "node " ++ address ++ " already registered as node-1"⟩, service) ∧
      (Frame.payload (service.dispatch (.registerNode address)).1).length =
        address.utf8ByteSize + 50 := by
  have refusal := Service.dispatch_duplicate known
  constructor
  case left =>
    have last : " already registered as " ++ NodeId.text 1 = " already registered as node-1" := by
      decide +kernel
    have text : "node " ++ address ++ " already registered as " ++ NodeId.text 1 =
        "node " ++ address ++ " already registered as node-1" := by
      rw [String.append_assoc, last]
    exact refusal.trans (congrArg (fun text => (Response.error ⟨_, text⟩, service)) text)
  case right =>
    have name : (1 : NodeId).text.utf8ByteSize = 6 := by decide +kernel
    rw [congrArg Prod.fst refusal, Response.length_payload_error,
      DirectoryError.utf8ByteSize_duplicate, name]

/-- The second registration of a machine whose address just fits in a request gets no
reply, and the machine dies for it. -/
theorem unanswered_of_long {address : String} (fits : address.utf8ByteSize + 12 ≤ maxPayload)
    (long : maxPayload < address.utf8ByteSize + 50) :
    let turn := Turn.registration address
    let first := fourPorts.turn turn
    let second := first.turn turn
    (first.session.condition = .serving ∧ first.replies.length = 1 ∧
      first.cluster.directory.registry.isLive 1 = true) ∧
    ((first.met turn).dispatch turn.request).1 =
      .error ⟨.duplicateRegistration, "node " ++ address ++ " already registered as node-1"⟩ ∧
    second.replies.length = 1 ∧
    second.session.condition = .failed (.messageTooLarge (address.utf8ByteSize + 50)) ∧
    second.cluster.directory.registry.isLive 1 = false := by
  intro turn first second
  obtain ⟨rests, serving, nodes, known, live⟩ := turn_fourPorts fits
  obtain ⟨frame, asked⟩ := Frame.exists_encode_iff.mpr (Turn.admissible_registration fits).2
  have known : (first.met turn).directory.registry.live[address]? = some 1 := known
  obtain ⟨refusal, length⟩ := dispatch_again known
  have refused : Frame.encode ((first.met turn).dispatch turn.request).1 =
      .error (.messageTooLarge (address.utf8ByteSize + 50)) := by
    rw [← length] at long ⊢
    exact if_pos long
  have ends : second = _ := turn_of_unencodable rests serving asked refused
  refine ⟨⟨serving, rests.replies serving, live⟩, congrArg Prod.fst refusal, ?_, ?_, ?_⟩
  · rw [ends]
    exact rests.replies serving
  · rw [ends]
  · have again : (first.met turn).dispatch turn.request = _ := refusal
    rw [ends, nodes, again]
    exact (Directory.isLive_nodeFailed _ 1 1).trans (by simp)

/-- A machine registers twice over one connection, with an address of almost the size of
a frame. Both requests have frames, but the second gets no reply, and the machine is dead
then. -/
theorem duplicate_unanswered :
    let address := Text.between "node " " already registered as node-1" 493446
    let turn := Turn.registration address
    let first := fourPorts.turn turn
    let second := first.turn turn
    turn.Admissible ∧
    (first.session.condition = .serving ∧ first.replies.length = 1 ∧
      first.cluster.directory.registry.isLive 1 = true) ∧
    ((first.met turn).dispatch turn.request).1 = .error ⟨.duplicateRegistration,
      Text.repeated ("node " ++ " already registered as node-1") 493448⟩ ∧
    second.replies.length = 1 ∧ second.session.condition = .failed (.messageTooLarge 16777248) ∧
    second.cluster.directory.registry.isLive 1 = false := by
  have before : "node ".utf8ByteSize = 5 := by decide +kernel
  have behind : " already registered as node-1".utf8ByteSize = 29 := by decide +kernel
  have size := Text.utf8ByteSize_between "node " " already registered as node-1" 493446
  have refusal := Text.around_between "node " " already registered as node-1" 493446
  rw [before, behind] at size
  -- The texts are far too long to be computed, so nothing looks into them from here on.
  generalize Text.between "node " " already registered as node-1" 493446 = address
    at size refusal ⊢
  have fits : address.utf8ByteSize + 12 ≤ maxPayload := by
    rw [size]
    decide
  have long : maxPayload < address.utf8ByteSize + 50 := by
    rw [size]
    decide
  obtain ⟨begins, answer, ends⟩ := unanswered_of_long fits long
  rw [size] at ends
  rw [refusal] at answer
  exact ⟨Turn.admissible_registration fits, begins, answer, ends⟩

end Conversation

end CacheDirectory
