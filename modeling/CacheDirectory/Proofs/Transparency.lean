/-
Module: CacheDirectory.Proofs.Transparency
Purpose: A node that performs requests over a connection finds what it would find in
  the same place as the service: the same results and refusals, and the same service
  afterwards.
Trusted boundary: none
Main exports: Service.call, Call, Service.callAll, Service.Fits, Remote.callAll,
  Remote.transparent
-/
import CacheDirectory.Proofs.Runs
import CacheDirectory.Proofs.Streams

namespace CacheDirectory

open Wire

/-! ### Requests and their responses -/

namespace Wire.Request

/-- The response that carries a result yields this result. -/
theorem resultOf_response (request : Request) (result : request.Result) :
    request.resultOf (request.response result) = .ok result := by
  cases request with
  | access node what => cases what <;> rfl
  | _ => rfl

/-- A response that carries a result is taken for no refusal. -/
theorem reply_response (request : Request) (result : request.Result) :
    request.reply (.message (request.response result)) = some (.ok (request.response result)) := by
  cases request with
  | access node what => cases what <;> rfl
  | _ => rfl

end Wire.Request

/-- What a caller in the same place as the service finds. -/
def Service.call {σ : Type} [Backing σ] (service : Service σ) (request : Request) :
    Except ProtocolError request.Result × Service σ :=
  let (outcome, service) := service.perform request
  (outcome.mapError fun cause => .remote (RemoteError.ofDirectory cause), service)

namespace Service

variable {σ : Type} [Backing σ]

theorem dispatch_service (service : Service σ) (request : Request) :
    (service.dispatch request).2 = (service.call request).2 := by
  unfold dispatch call
  cases service.perform request with
  | mk outcome after => cases outcome <;> rfl

/-- What a node makes of the answer to its request is what a caller in the same place
finds. -/
theorem reply_dispatch (service : Service σ) (request : Request) :
    (request.reply (.message (service.dispatch request).1)).map
        (fun outcome => outcome.bind request.resultOf) =
      some (service.call request).1 := by
  unfold dispatch call
  cases service.perform request with
  | mk outcome after =>
    cases outcome with
    | error cause => rfl
    | ok result =>
      simp only [Request.reply_response, Option.map_some, Except.bind,
        Request.resultOf_response, mapError_ok]

end Service

/-! ### One request over a connection -/

/-- A frame that has arrived alone is read, and nothing is left. -/
theorem Inbox.take_encode {M : Type} [Message M] (faithful : (Message.layout (M := M)).Faithful)
    {found : M} {frame : Bytes} (written : Frame.encode found = .ok frame) (closed : Bool) :
    Inbox.take ⟨frame, closed⟩ = (.message found, ⟨[], closed⟩) := by
  have front := Frame.next_of_encode faithful written []
  rw [List.append_nil] at front
  simp only [take, front]

/-- A request that arrives alone is answered by one frame, and nothing is left to
read. -/
theorem Session.receive_encode {σ : Type} [Backing σ] {service : Service σ} {session : Session}
    (serving : session.condition = .serving) (unlimited : session.room = none)
    (empty : session.inbox = {}) {request : Request} {frame sent : Bytes}
    (asked : Frame.encode request = .ok frame)
    (answered : Frame.encode (service.dispatch request).1 = .ok sent) :
    session.receive frame service =
      { service := (service.dispatch request).2
        session := session.answering {} (service.dispatch request).1
        replies := [sent] } := by
  have read : (session.extended frame).inbox.take = (.message request, {}) := by
    simp only [extended, empty]
    exact Inbox.take_encode Request.faithful asked false
  have replied : reply (service.dispatch request).1
      ((session.extended frame).answering {} (service.dispatch request).1) =
        .ok (sent, session.answering {} (service.dispatch request).1) := by
    simp only [reply, answered, extended, answering, unlimited]
    rfl
  have done : (session.answering {} (service.dispatch request).1).inbox.take (M := Request) =
      (.nothingYet, {}) := rfl
  have answer : service.dispatch request =
      ((service.dispatch request).1, (service.dispatch request).2) := rfl
  rw [receive_of_serving serving, serve_of_sent read answer replied, serve_of_nothingYet done]

namespace Remote

variable {σ : Type} [Backing σ]

/-- Both ends of the connection have read all that was sent, and the server takes
further requests. -/
structure InStep (remote : Remote σ) : Prop where
  serving : remote.session.condition = .serving
  unlimited : remote.session.room = none
  requests : remote.session.inbox = {}
  responses : remote.inbox = {}

omit [Backing σ] in
theorem inStep_fresh (service : Service σ) : InStep { service } :=
  ⟨rfl, rfl, rfl, rfl⟩

/-- A call over a connection in step comes to what the service makes of the request,
and the connection stays in step: no reply is left over for the next request. -/
theorem call_of_inStep {remote : Remote σ} (inStep : remote.InStep) {request : Request}
    (asks : (Frame.payload request).length ≤ maxPayload)
    (answers : (Frame.payload (remote.service.dispatch request).1).length ≤ maxPayload) :
    (remote.call request).1 = request.reply (.message (remote.service.dispatch request).1) ∧
      (remote.call request).2.service = (remote.service.dispatch request).2 ∧
      (remote.call request).2.InStep := by
  obtain ⟨frame, asked⟩ := Frame.exists_encode_iff.mpr asks
  obtain ⟨sent, answered⟩ := Frame.exists_encode_iff.mpr answers
  have served := Session.receive_encode inStep.serving inStep.unlimited inStep.requests asked answered
  have going : (remote.session.answering {} (remote.service.dispatch request).1).isOver = false :=
    bne_eq_false_iff_eq.mpr inStep.serving
  have arrived : Inbox.take (M := Response)
      { remote.inbox.receive [sent].flatten with closed := false } =
        (.message (remote.service.dispatch request).1, {}) := by
    simp only [inStep.responses, Inbox.receive, List.flatten_cons, List.flatten_nil,
      List.append_nil, List.nil_append]
    exact Inbox.take_encode Response.faithful answered false
  have outcome : remote.call request =
      (request.reply (.message (remote.service.dispatch request).1),
        { service := (remote.service.dispatch request).2
          session := remote.session.answering {} (remote.service.dispatch request).1
          inbox := {} }) := by
    simp only [call, asked, served, going, arrived]
  rw [outcome]
  exact ⟨rfl, rfl, ⟨inStep.serving, inStep.unlimited, rfl, rfl⟩⟩

end Remote

/-! ### Many requests, and what happens in between -/

/-- One request of a node: what others do to the service before the request reaches it,
the request, and how the connection cuts the bytes in both directions. -/
structure Call (σ : Type) where
  meanwhile : Service σ → Service σ := id
  request : Request
  there : Transport
  back : Transport

/-- What a request came to. -/
structure Outcome where
  request : Request
  result : Except ProtocolError request.Result

/-- A caller in the same place as the service performs the requests of calls. -/
def Service.callAll {σ : Type} [Backing σ] (service : Service σ) :
    List (Call σ) → List Outcome × Service σ
  | [] => ([], service)
  | call :: later =>
    let (result, service) := (call.meanwhile service).call call.request
    let (outcomes, service) := callAll service later
    (⟨call.request, result⟩ :: outcomes, service)

/-- A caller in the same place gets no response at all, so none that it did not
expect. -/
theorem Service.expected_of_mem_callAll {σ : Type} [Backing σ] {service : Service σ}
    {calls : List (Call σ)} {outcome : Outcome} (listed : outcome ∈ (service.callAll calls).1)
    (expected got : String) : outcome.result ≠ .error (.unexpectedResponse expected got) := by
  induction calls generalizing service with
  | nil => cases listed
  | cons call later ih =>
    cases listed with
    | tail _ listed => exact ih listed
    | head =>
      show ((call.meanwhile service).call call.request).1 ≠ _
      unfold Service.call
      cases (call.meanwhile service).perform call.request with
      | mk result after =>
        cases result with
        | ok result => exact nofun
        | error cause => exact nofun

/-- No request of the calls and no response to one is too large for a frame. -/
def Service.Fits {σ : Type} [Backing σ] (service : Service σ) : List (Call σ) → Prop
  | [] => True
  | call :: later =>
    let met := call.meanwhile service
    (Frame.payload call.request).length ≤ maxPayload ∧
      (Frame.payload (met.dispatch call.request).1).length ≤ maxPayload ∧
      Fits (met.dispatch call.request).2 later

namespace Remote

variable {σ : Type} [Backing σ]

/-- Perform a request through a connection that cuts what is sent. -/
def performOver (there back : Transport) (request : Request) (remote : Remote σ) :
    Option (Except ProtocolError request.Result) × Remote σ :=
  let (response, remote) := remote.callOver there back request
  (response.map fun outcome => outcome.bind request.resultOf, remote)

/-- A node performs the requests of calls over a connection; nothing where it still
waits for a response. -/
def callAll (remote : Remote σ) : List (Call σ) → List (Option Outcome) × Remote σ
  | [] => ([], remote)
  | call :: later =>
    let met := { remote with service := call.meanwhile remote.service }
    let (result, remote) := met.performOver call.there call.back call.request
    let (outcomes, remote) := callAll remote later
    (result.map (Outcome.mk call.request) :: outcomes, remote)

theorem performOver_eq_perform {remote : Remote σ} (inStep : remote.InStep) (there back : Transport)
    (request : Request) : remote.performOver there back request = remote.perform request := by
  have sessionOpen : remote.session.inbox.closed = false := by rw [inStep.requests]
  have inboxOpen : remote.inbox.closed = false := by rw [inStep.responses]
  rw [performOver, callOver_eq_call sessionOpen inboxOpen]
  rfl

/-- One request over a connection in step. -/
theorem perform_of_inStep {remote : Remote σ} (inStep : remote.InStep) {request : Request}
    (asks : (Frame.payload request).length ≤ maxPayload)
    (answers : (Frame.payload (remote.service.dispatch request).1).length ≤ maxPayload) :
    (remote.perform request).1 = some (remote.service.call request).1 ∧
      (remote.perform request).2.service = (remote.service.call request).2 ∧
      (remote.perform request).2.InStep := by
  obtain ⟨response, service, still⟩ := call_of_inStep inStep asks answers
  refine ⟨?_, ?_, still⟩
  · show (remote.call request).1.map _ = _
    rw [response, Service.reply_dispatch]
  · show (remote.call request).2.service = _
    rw [service, Service.dispatch_service]

/-- Requests over a connection in step, by induction on the calls: each leaves the
connection in step. -/
theorem callAll_of_inStep {remote : Remote σ} (inStep : remote.InStep) {calls : List (Call σ)}
    (fits : remote.service.Fits calls) :
    (remote.callAll calls).1 = (remote.service.callAll calls).1.map some ∧
      (remote.callAll calls).2.service = (remote.service.callAll calls).2 := by
  induction calls generalizing remote with
  | nil => exact ⟨rfl, rfl⟩
  | cons call later ih =>
    obtain ⟨asks, answers, rest⟩ := fits
    have met : InStep { remote with service := call.meanwhile remote.service } :=
      ⟨inStep.serving, inStep.unlimited, inStep.requests, inStep.responses⟩
    obtain ⟨result, service, still⟩ := perform_of_inStep met asks answers
    rw [Service.dispatch_service, ← service] at rest
    obtain ⟨outcomes, after⟩ := ih still rest
    simp only [callAll, Service.callAll, performOver_eq_perform met, result, outcomes, after, service,
      Option.map_some, List.map_cons]
    exact ⟨trivial, trivial⟩

/-- Whatever the service is like at first, a node that performs requests over a fresh
connection finds what a caller in the same place finds, request by request: the same
results, and the same refusals with their texts. The service becomes the same, and no
response is ever taken for that of another request. -/
theorem transparent (service : Service σ) (calls : List (Call σ)) (fits : service.Fits calls) :
    (callAll { service } calls).1 = (service.callAll calls).1.map some ∧
      (callAll { service } calls).2.service = (service.callAll calls).2 ∧
      ∀ outcome, some outcome ∈ (callAll { service } calls).1 →
        ∀ expected got, outcome.result ≠ .error (.unexpectedResponse expected got) := by
  obtain ⟨outcomes, after⟩ := callAll_of_inStep (inStep_fresh service) fits
  refine ⟨outcomes, after, fun outcome found => ?_⟩
  rw [outcomes] at found
  obtain ⟨met, listed, same⟩ := List.mem_map.mp found
  cases same
  exact Service.expected_of_mem_callAll listed

end Remote

/-- Every byte arrives alone. -/
def Transport.bytewise : Transport where
  pieces sent := sent.map fun byte => [byte]
  in_order sent := by
    induction sent with
    | nil => rfl
    | cons byte rest ih => rw [List.map_cons, List.flatten_cons, ih, List.singleton_append]

/-- A node registers and takes an object, then asks for it by a number that no node
has. -/
def registerAndAsk : List (Call Store) :=
  [.registerNode "a", .access 1 (.getObjectForUpdate 5), .access 2 (.getObject 5)].map
    fun request => { request, there := .bytewise, back := .bytewise }

theorem fits_registerAndAsk :
    Cluster.oneObject.service.Fits registerAndAsk ∧
      (Remote.callAll { service := Cluster.oneObject.service } registerAndAsk).1 =
        (Cluster.oneObject.service.callAll registerAndAsk).1.map some := by
  have fits : Cluster.oneObject.service.Fits registerAndAsk := by
    refine ⟨?_, ?_, ?_, ?_, ?_, ?_, trivial⟩ <;> decide +kernel
  exact ⟨fits, (Remote.transparent _ registerAndAsk fits).1⟩

end CacheDirectory
