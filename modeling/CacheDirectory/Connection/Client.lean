/-
Module: CacheDirectory.Connection.Client
Purpose: The node's end of a connection: a request is sent, its reply awaited and
  taken for what the request yields.
Trusted boundary: none
Main exports: Request.result?, Request.resultOf, Request.reply, Remote.call,
  Remote.perform
-/
import CacheDirectory.Connection.Session
import CacheDirectory.Network.Host

namespace CacheDirectory

open Wire

/-- What a response carries for a request, if it is of the kind that the request
asks for. -/
def Wire.Request.result? : (request : Request) → Response → Option request.Result
  | .registerNode _, .registered result => some result
  | .newObjectIds _, .objectIds result => some result
  | .access _ (.getObject _), .object result => some result
  | .access _ (.getObjectForUpdate _), .objectForUpdate result => some result
  | .access _ (.upgradeObject _), .upgraded result => some result
  | .access _ (.nextObjectId _), .nextObject result => some result
  | .access _ (.getBinding _), .binding result => some result
  | .access _ (.getBindingForUpdate _), .bindingForUpdate result => some result
  | .access _ (.getBindingForRemove _), .bindingForRemove result => some result
  | .access _ (.nextBoundName _), .nextBoundName result => some result
  | .getClassId _, .classId result => some result
  | .getClassInfo _, .classInfo result => some result
  | .releaseObject _ _, .released result => some result
  | .releaseBinding _ _, .released result => some result
  | _, _ => none

/-- The name of the response that a request asks for. -/
def Wire.Request.responseName : Request → String
  | .registerNode _ => "Registered"
  | .newObjectIds _ => "ObjectIds"
  | .access _ (.getObject _) => "Object"
  | .access _ (.getObjectForUpdate _) => "ObjectForUpdate"
  | .access _ (.upgradeObject _) => "Upgraded"
  | .access _ (.nextObjectId _) => "NextObject"
  | .access _ (.getBinding _) => "Binding"
  | .access _ (.getBindingForUpdate _) => "BindingForUpdate"
  | .access _ (.getBindingForRemove _) => "BindingForRemove"
  | .access _ (.nextBoundName _) => "NextBoundName"
  | .getClassId _ => "ClassId"
  | .getClassInfo _ => "ClassInfo"
  | .releaseObject _ _ => "Released"
  | .releaseBinding _ _ => "Released"

namespace Wire.Request

/-- What a request yields by a response that is no refusal. -/
def resultOf (request : Request) (response : Response) : Except ProtocolError request.Result :=
  match request.result? response with
  | some result => .ok result
  | none => .error (.unexpectedResponse request.responseName response.typeName)

/-- The response to a request by what arrives after it; none while nothing has
arrived. -/
def reply (request : Request) : Arrival Response → Option (Except ProtocolError Response)
  | .message (.error cause) => some (.error (.remote cause))
  | .message response => some (.ok response)
  | .nothingYet => none
  | .ended => some (.error (.framing (.closedAwaitingReply request.typeName)))
  | .broken error => some (.error error)

/-- Send a request over a connection and await its response. `peer` is what the
other side does when it has received the frame of the request. The frame that was
sent is part of the answer. -/
def exchange (request : Request) (peer : Bytes → Inbox → Inbox) (inbox : Inbox) :
    Option (Except ProtocolError Response) × Bytes × Inbox :=
  match Frame.encode request with
  | .error error => (some (.error error), [], inbox)
  | .ok frame =>
    let (arrival, inbox) := (peer frame inbox).take
    (request.reply arrival, frame, inbox)

end Wire.Request

/-- Connect to a server. -/
def Wire.connect (host : Host) (address : String) : Except ProtocolError Inbox :=
  match host.dial address with
  | .ok () => .ok {}
  | .error failure => .error (.connection failure)

/-- A service as a node sees it over a connection: the server's end, and what has
arrived at the node's. -/
structure Remote (σ : Type) where
  service : Service σ
  session : Session := {}
  inbox : Inbox := {}

namespace Remote

variable {σ : Type} [Backing σ]

/-- Send a request and await its response. -/
def call (request : Request) (remote : Remote σ) :
    Option (Except ProtocolError Response) × Remote σ :=
  match Frame.encode request with
  | .error error => (some (.error error), remote)
  | .ok frame =>
    let served := remote.session.receive frame remote.service
    let arrived := { remote.inbox.receive served.replies.flatten with
      closed := served.session.isOver }
    let (arrival, inbox) := arrived.take (M := Response)
    (request.reply arrival, { service := served.service, session := served.session, inbox })

/-- Perform a request through a connection. -/
def perform (request : Request) (remote : Remote σ) :
    Option (Except ProtocolError request.Result) × Remote σ :=
  let (response, remote) := remote.call request
  (response.map fun outcome => outcome.bind request.resultOf, remote)

end Remote

end CacheDirectory
