/-
Module: CacheDirectory.Connection.Callback
Purpose: Release requests over connections: how the server asks a node, what it
  makes of the reply, and how a node answers.
Trusted boundary: none
Main exports: CallbackError.ofExchange, releaseVerdict, requestRelease, Releases,
  answerReleases
-/
import CacheDirectory.Delivery.Endpoint
import CacheDirectory.Network.Host
import CacheDirectory.Wire.Frame

namespace CacheDirectory

open Wire

/-! ### The server's side -/

/-- What a reply to a release request means. -/
def Wire.CallbackMessage.verdict : CallbackMessage → Except CallbackError Unit
  | .ack => .ok ()
  | .refused reason => .error (.refused reason)
  | other => .error (.malformed ("unexpected " ++ Message.typeName other ++ " reply"))

/-- What a failed exchange with a node means. Without the node's own word it counts
as out of reach. -/
def CallbackError.ofExchange (error : ProtocolError) : CallbackError :=
  if error.isTransport then .unreachable error.message else .malformed error.message

/-- What the bytes that a node sends before it closes the connection mean as an
answer to a release request. -/
def releaseVerdict (answer : Bytes) : Except CallbackError Unit :=
  match Frame.nextAtEnd (M := CallbackMessage) answer with
  | .ok (some (reply, _)) => reply.verdict
  | .ok none => .error (.ofExchange (.framing .closedBeforeReply))
  | .error error => .error (.ofExchange error)

/-- Ask the node at an address to release a key, over a connection of its own.
`peer` is all that the node sends when it has received the frame of the request. The
frame that was sent is part of the answer. -/
def requestRelease (host : Host) (address : String) (key : Key) (kind : Release)
    (peer : Bytes → Bytes) : Except CallbackError Unit × Bytes :=
  match host.dial address with
  | .error failure => (.error (.ofExchange (.connection failure)), [])
  | .ok () =>
    match Frame.encode (CallbackMessage.release key kind) with
    | .error error => (.error (.ofExchange error), [])
    | .ok frame => (releaseVerdict (peer frame), frame)

/-! ### The node's side -/

/-- What a node does when it is asked to release a key. -/
abbrev ReleaseHandler (H : Type) := H → Key → Release → Except CallbackError Unit × H

/-- What became of a connection over which a node was asked to release keys: the
replies that were written, why it ended unless the other side just closed it, and the
node. -/
structure Releases (H : Type) where
  replies : List CallbackMessage := []
  failure : Option ProtocolError := none
  node : H

/-- A node's reply to one message. -/
def releaseReply {H : Type} (handle : ReleaseHandler H) (node : H) :
    CallbackMessage → CallbackMessage × H
  | .release key kind =>
    match handle node key kind with
    | (.ok (), node) => (.ack, node)
    | (.error error, node) => (.refused error.message, node)
  | other => (.refused ("unexpected " ++ Message.typeName other), node)

/-- Answer the messages of a connection that holds these bytes and then ends, one
reply to each, up to the first message that is malformed or reply that cannot be
sent. -/
def answerReleases {H : Type} (handle : ReleaseHandler H) (node : H) (stream : Bytes) :
    Releases H :=
  match _read : Frame.next (M := CallbackMessage) stream with
  | .message message rest =>
    let (reply, node) := releaseReply handle node message
    match Frame.encode reply with
    | .error error => { node, failure := some error }
    | .ok _ =>
      let later := answerReleases handle node rest
      { later with replies := reply :: later.replies }
  | .betweenFrames => { node }
  | .withinFrame => { node, failure := some (.connection .earlyEnd) }
  | .broken error _ => { node, failure := some error }
termination_by stream.length
decreasing_by exact Frame.length_lt_of_next _read

/-- A scripted node asked to release a key: it acknowledges in the end or fails. -/
def Endpoint.handle : ReleaseHandler Endpoint := fun endpoint key kind =>
  match endpoint.request key kind with
  | (.acknowledge _, endpoint) => (.ok (), endpoint)
  | (.fail error, endpoint) => (.error error, endpoint)
  | (.die, endpoint) => (.error (.unreachable "node died"), endpoint)

end CacheDirectory
