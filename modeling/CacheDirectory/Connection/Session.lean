/-
Module: CacheDirectory.Connection.Session
Purpose: The server's end of a connection: each request that arrives is answered in
  turn, and the nodes that registered over the connection die with it.
Trusted boundary: none
Main exports: Session, Served, Session.serve, Session.receive, Session.hangUp
-/
import CacheDirectory.Connection.Inbox
import CacheDirectory.Service.Basic

namespace CacheDirectory

open Wire

/-- Whether a connection is still served, and if not, what ended it. -/
inductive Condition where
  | serving
  /-- The other side closed it. -/
  | ended
  | failed (error : ProtocolError)
deriving DecidableEq, Repr, Inhabited

/-- The server's end of a connection. `nodes` registered over it, `room` is how
many more replies the other side takes if there is a limit. -/
structure Session where
  inbox : Inbox := {}
  nodes : List NodeId := []
  room : Option Nat := none
  condition : Condition := .serving
deriving DecidableEq, Repr, Inhabited

/-- A service and one of its connections after it has been served, and the frames
of the replies. -/
structure Served (σ : Type) where
  service : Service σ
  session : Session
  replies : List Bytes := []

/-- Declare nodes dead, one after the other. -/
def Service.retire {σ : Type} (nodes : List NodeId) (service : Service σ) : Service σ :=
  nodes.foldl (fun service node => (service.nodeFailed node).2) service

namespace Session

/-- Whether the connection is served no longer. -/
def isOver (session : Session) : Bool :=
  session.condition != .serving

/-- The node that a response registers. -/
def registered : Response → List NodeId
  | .registered registration => [registration.node]
  | _ => []

/-- The frame of a reply, if it has one and the other side takes it. -/
def reply (response : Response) (session : Session) : Except ProtocolError (Bytes × Session) := do
  let frame ← Frame.encode response
  match session.room with
  | none => return (frame, session)
  | some 0 => throw (.connection .brokenPipe)
  | some (room + 1) => return (frame, { session with room := some room })

/-- Replying reads nothing. -/
theorem inbox_of_reply {response : Response} {session rest : Session} {frame : Bytes}
    (sent : reply response session = .ok (frame, rest)) : rest.inbox = session.inbox := by
  unfold reply at sent
  cases encoded : Frame.encode response with
  | error error => rw [encoded] at sent; cases sent
  | ok bytes =>
    rw [encoded] at sent
    simp only [bind, Except.bind] at sent
    split at sent <;> cases sent <;> rfl

/-- Stop serving a connection. Its nodes die. -/
def finish {σ : Type} (condition : Condition) (service : Service σ) (session : Session) :
    Served σ where
  service := service.retire session.nodes
  session := { session with condition }

/-- Answer the requests that have arrived. The connection ends with the first that
is malformed or whose reply cannot be sent. -/
def serve {σ : Type} [Backing σ] (service : Service σ) (session : Session) : Served σ :=
  match _read : session.inbox.take (M := Request) with
  | (.message request, inbox) =>
    let (response, service) := service.dispatch request
    let session := { session with inbox, nodes := session.nodes ++ registered response }
    match _sent : reply response session with
    | .error error => finish (.failed error) service session
    | .ok (frame, rest) =>
      let later := serve service rest
      { later with replies := frame :: later.replies }
  | (.nothingYet, _) => { service, session }
  | (.ended, inbox) => finish .ended service { session with inbox }
  | (.broken error, inbox) => finish (.failed error) service { session with inbox }
termination_by session.inbox.unread.length
decreasing_by
  rw [inbox_of_reply _sent]
  exact Inbox.length_lt_of_take _read

/-- Serve a connection unless it is over. -/
def resume {σ : Type} [Backing σ] (service : Service σ) (session : Session) : Served σ :=
  if session.isOver then { service, session } else serve service session

/-- Bytes arrive. -/
def receive {σ : Type} [Backing σ] (bytes : Bytes) (service : Service σ) (session : Session) :
    Served σ :=
  resume service { session with inbox := session.inbox.receive bytes }

/-- The other side closes the connection. -/
def hangUp {σ : Type} [Backing σ] (service : Service σ) (session : Session) : Served σ :=
  resume service { session with inbox := { session.inbox with closed := true } }

end Session

end CacheDirectory
