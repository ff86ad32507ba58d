/-
Module: CacheDirectory.Network.Failure
Purpose: Failures of connections, and how failures of the operating system are
  worded.
Trusted boundary: none
Main exports: numberedFailure, ConnectionFailure, ConnectionFailure.message
-/

namespace CacheDirectory

/-- A failure that the operating system reports under a number. -/
def numberedFailure (detail : String) (code : Nat) : String :=
  detail ++ " (os error " ++ toString code ++ ")"

/-- Why there is no connection, or why it moves no bytes. -/
inductive ConnectionFailure where
  /-- The stream ended inside a frame. -/
  | earlyEnd
  /-- An address without a port. -/
  | invalidAddress
  /-- An address whose port is not a number below 65536. -/
  | invalidPort
  | permissionDenied
  | networkUnreachable
  | brokenPipe
deriving DecidableEq, Repr, Inhabited

/-- The wording of a failure. -/
def ConnectionFailure.message : ConnectionFailure → String
  | .earlyEnd => "early eof"
  | .invalidAddress => "invalid socket address"
  | .invalidPort => "invalid port value"
  | .permissionDenied => numberedFailure "Permission denied" 13
  | .networkUnreachable => numberedFailure "Network is unreachable" 101
  | .brokenPipe => numberedFailure "Broken pipe" 32

end CacheDirectory
