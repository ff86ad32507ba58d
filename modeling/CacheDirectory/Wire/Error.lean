/-
Module: CacheDirectory.Wire.Error
Purpose: What can go wrong between a node and the server: the server refuses, or
  the exchange of messages itself breaks down.
Trusted boundary: none
Main exports: Refusal, RemoteError, FramingFault, ProtocolError
-/
import CacheDirectory.Directory.Error
import CacheDirectory.Network.Failure
import CacheDirectory.Wire.Layout

namespace CacheDirectory.Wire

/-- The categories of refusal that a node can tell apart. -/
inductive Refusal where
  | unknownNode
  | invalidArgument
  | cacheConsistency
  | duplicateRegistration
  /-- The server cannot take the request now, for want of a free port. -/
  | unavailable
  | internal
deriving DecidableEq, Repr, Inhabited

namespace Refusal

/-- All categories, in the order of their numbers on the wire. -/
def all : List Refusal :=
  [.unknownNode, .invalidArgument, .cacheConsistency, .duplicateRegistration, .unavailable,
    .internal]

/-- The number of a category on the wire. -/
def index : Refusal → Nat
  | .unknownNode => 0
  | .invalidArgument => 1
  | .cacheConsistency => 2
  | .duplicateRegistration => 3
  | .unavailable => 4
  | .internal => 5

/-- The words for a category. -/
def text : Refusal → String
  | .unknownNode => "unknown node"
  | .invalidArgument => "invalid argument"
  | .cacheConsistency => "cache consistency"
  | .duplicateRegistration => "duplicate registration"
  | .unavailable => "unavailable"
  | .internal => "internal"

/-- The category of a refusal by the directory. -/
def ofDirectory : DirectoryError → Refusal
  | .unknownNode _ => .unknownNode
  | .invalidArgument _ => .invalidArgument
  | .upgradeWithoutRead _ _ => .cacheConsistency
  | .registration (.duplicate _ _) => .duplicateRegistration
  | .registration (.portsExhausted _) => .unavailable
  | .store _ => .internal

end Refusal

/-- A refusal as a node sees it. -/
structure RemoteError where
  refusal : Refusal
  message : String
deriving DecidableEq, Repr, Inhabited

namespace RemoteError

/-- The words for a refusal. -/
def text (error : RemoteError) : String :=
  error.refusal.text ++ ": " ++ error.message

/-- What a node is told of a refusal by the directory. -/
def ofDirectory (error : DirectoryError) : RemoteError :=
  ⟨Refusal.ofDirectory error, error.message⟩

end RemoteError

/-- Why bytes are not a frame. -/
inductive FramingFault where
  | tooShort
  | zeroLength
  | incomplete (present need : Nat)
  | wrongTag (tag : UInt8) (message : String) (expected : UInt8)
  | closedAwaitingReply (request : String)
  | closedBeforeReply
deriving DecidableEq, Repr, Inhabited

/-- The wording of a framing fault. -/
def FramingFault.message : FramingFault → String
  | .tooShort => "too short"
  | .zeroLength => "zero-length frame"
  | .incomplete present need =>
    "incomplete: have " ++ toString present ++ ", need " ++ toString need
  | .wrongTag tag name expected =>
    "tag " ++ toString tag.toNat ++ " does not match " ++ name ++ " (" ++
      toString expected.toNat ++ ")"
  | .closedAwaitingReply request => "connection closed awaiting reply to " ++ request
  | .closedBeforeReply => "connection closed before reply"

/-- Why an exchange failed. -/
inductive ProtocolError where
  | remote (error : RemoteError)
  | messageTooLarge (size : Nat)
  | framing (fault : FramingFault)
  | payload (fault : PayloadFault)
  | unexpectedResponse (expected got : String)
  | connection (failure : ConnectionFailure)
deriving DecidableEq, Repr, Inhabited

/-- The size in bytes of the greatest payload that is sent or accepted. -/
def maxPayload : Nat :=
  16 * 1024 * 1024

namespace ProtocolError

/-- The wording of a failed exchange. -/
def message : ProtocolError → String
  | .remote error => error.text
  | .messageTooLarge size =>
    "message too large: " ++ toString size ++ " bytes (max " ++ toString maxPayload ++ ")"
  | .framing fault => "framing error: " ++ fault.message
  | .payload fault => "deserialization error: " ++ fault.message
  | .unexpectedResponse expected got =>
    "unexpected response: expected " ++ expected ++ ", got " ++ got
  | .connection failure => "I/O error: " ++ failure.message

/-- The category of a refusal by the server; an exchange that broke down has
none. -/
def refusal? : ProtocolError → Option Refusal
  | .remote error => some error.refusal
  | _ => none

/-- Whether the exchange broke down, so that it may be repeated over a new
connection. -/
def isTransport (error : ProtocolError) : Bool :=
  error.refusal?.isNone

end ProtocolError

end CacheDirectory.Wire
