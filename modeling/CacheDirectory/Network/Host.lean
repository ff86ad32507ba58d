/-
Module: CacheDirectory.Network.Host
Purpose: What a machine lets its programs do on the network.
Trusted boundary: none
Main exports: Host, Host.isolated, Host.dial, Host.listen
-/
import CacheDirectory.Network.Address

namespace CacheDirectory

/-- The network of a machine: why a dialled port cannot be reached, and why an
address cannot be listened on, if they cannot. -/
structure Host where
  unreachable : String → Option ConnectionFailure := fun _ => none
  unavailable : SocketAddress → Option ConnectionFailure := fun _ => none

namespace Host

/-- A machine without a network, whose programs may not listen either. -/
def isolated : Host where
  unreachable _ := some .networkUnreachable
  unavailable _ := some .permissionDenied

instance : Inhabited Host := ⟨isolated⟩

/-- Dial an address. One that names no port is not even tried. -/
def dial (host : Host) (address : String) : Except ConnectionFailure Unit :=
  match dialledPort address, host.unreachable address with
  | .error failure, _ => .error failure
  | .ok _, some failure => .error failure
  | .ok _, none => .ok ()

/-- Listen on an address. -/
def listen (host : Host) (address : SocketAddress) : Except ConnectionFailure Unit :=
  match host.unavailable address with
  | some failure => .error failure
  | none => .ok ()

end Host

end CacheDirectory
