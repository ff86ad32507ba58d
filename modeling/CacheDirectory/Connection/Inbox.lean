/-
Module: CacheDirectory.Connection.Inbox
Purpose: What has arrived over a connection and has not been read.
Trusted boundary: none
Main exports: Inbox, Arrival, Inbox.take
-/
import CacheDirectory.Wire.Frame

namespace CacheDirectory

open Wire

/-- The unread bytes of a connection, and whether the other side has closed it
behind them. -/
structure Inbox where
  unread : Bytes := []
  closed : Bool := false
deriving DecidableEq, Repr, Inhabited

/-- What a reader of a connection finds. -/
inductive Arrival (M : Type) where
  | message (found : M)
  /-- Too little for a message, but more may come. -/
  | nothingYet
  /-- The other side has closed the connection between two messages. -/
  | ended
  | broken (error : ProtocolError)
deriving DecidableEq, Repr, Inhabited

namespace Inbox

variable {M : Type} [Message M]

/-- The inbox after further bytes. -/
def receive (bytes : Bytes) (inbox : Inbox) : Inbox :=
  { inbox with unread := inbox.unread ++ bytes }

/-- Read the next message. A length that is cut off by the end counts as no
message at all. -/
def take (inbox : Inbox) : Arrival M × Inbox :=
  match Frame.next inbox.unread with
  | .message found rest => (.message found, { inbox with unread := rest })
  | .broken error rest => (.broken error, { inbox with unread := rest })
  | .betweenFrames =>
    if inbox.closed then (.ended, { inbox with unread := [] }) else (.nothingYet, inbox)
  | .withinFrame =>
    if inbox.closed then (.broken (.connection .earlyEnd), { inbox with unread := [] })
    else (.nothingYet, inbox)

/-- Reading a message leaves less to read. -/
theorem length_lt_of_take {inbox left : Inbox} {found : M}
    (read : inbox.take = (.message found, left)) :
    left.unread.length < inbox.unread.length := by
  unfold take at read
  split at read
  next found' rest frame =>
    obtain ⟨-, rfl⟩ := Prod.mk.inj read
    exact Frame.length_lt_of_next frame
  next => cases read
  next => split at read <;> cases read
  next => split at read <;> cases read

end Inbox

end CacheDirectory
