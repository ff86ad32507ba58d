/-
Module: CacheDirectory.Connection.Listener
Purpose: Many connections to one service, of which only so many are served at one
  time; the others wait, in the order in which they were opened.
Trusted boundary: none
Main exports: Line, Listener, Listener.connect, Listener.send, Listener.close,
  Listener.read
-/
import CacheDirectory.Connection.Session

namespace CacheDirectory

open Wire

/-- A connection as both sides see it: the server's end, whether the server has
accepted it, and the replies that the other side has not read. -/
structure Line where
  session : Session := {}
  accepted : Bool := false
  replies : Bytes := []
deriving DecidableEq, Repr, Inhabited

namespace Line

/-- Whether the connection is being served. -/
def isActive (line : Line) : Bool :=
  line.accepted && !line.session.isOver

/-- What the side of the node has yet to read. -/
def inbox (line : Line) : Inbox :=
  ⟨line.replies, line.session.isOver⟩

end Line

/-- A service, and the connections to it in the order in which they were opened.
At least one of them is served. -/
structure Listener (σ : Type) where
  service : Service σ
  limit : Nat
  lines : List Line := []

namespace Listener

variable {σ : Type} [Backing σ]

/-- Go through connections in their order and serve those that are accepted or can
be, given how many may still be accepted. -/
def serveLines (service : Service σ) : (free : Nat) → List Line → Service σ × List Line
  | _, [] => (service, [])
  | free, line :: rest =>
    if !line.accepted && free = 0 then
      let (service, rest) := serveLines service free rest
      (service, line :: rest)
    else
      let served := Session.resume service line.session
      let ended := !line.session.isOver && served.session.isOver
      let free := free - (if line.accepted then 0 else 1) + (if ended then 1 else 0)
      let replies := line.replies ++ served.replies.flatten
      let (service, rest) := serveLines served.service free rest
      (service, { session := served.session, accepted := true, replies } :: rest)

/-- Serve all connections that can be served. -/
def advance (listener : Listener σ) : Listener σ :=
  let free := max 1 listener.limit - listener.lines.countP Line.isActive
  let (service, lines) := serveLines listener.service free listener.lines
  { listener with service, lines }

/-- A new connection. -/
def connect (listener : Listener σ) : Listener σ :=
  advance { listener with lines := listener.lines ++ [{}] }

/-- Change the server's end of a connection. -/
def change (number : Nat) (edit : Inbox → Inbox) (listener : Listener σ) : Listener σ :=
  advance { listener with
    lines := listener.lines.modify number fun line =>
      { line with session := { line.session with inbox := edit line.session.inbox } } }

/-- Send bytes over a connection. -/
def send (number : Nat) (bytes : Bytes) : Listener σ → Listener σ :=
  change number fun inbox => inbox.receive bytes

/-- Close a connection. -/
def close (number : Nat) : Listener σ → Listener σ :=
  change number fun inbox => { inbox with closed := true }

omit [Backing σ] in
/-- Read a reply from a connection. -/
def read (number : Nat) (listener : Listener σ) : Arrival Response × Listener σ :=
  match listener.lines[number]? with
  | none => (.nothingYet, listener)
  | some line =>
    let (arrival, inbox) := line.inbox.take (M := Response)
    (arrival, { listener with
      lines := listener.lines.set number { line with replies := inbox.unread } })

end Listener

end CacheDirectory
