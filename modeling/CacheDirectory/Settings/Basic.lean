/-
Module: CacheDirectory.Settings.Basic
Purpose: The settings of a server and which of them are sensible.
Trusted boundary: none
Main exports: Settings, SettingsError, Settings.check
-/
import CacheDirectory.Delivery.Settings
import CacheDirectory.Network.Address
import CacheDirectory.Registry

namespace CacheDirectory

/-- The settings of a server. -/
structure Settings where
  /-- Where nodes connect. -/
  requests : SocketAddress := ⟨.loopback, 44530⟩
  /-- Where the admin interface is. -/
  admin : SocketAddress := ⟨.loopback, 44531⟩
  /-- Connections of nodes served at one time. -/
  maxConnections : UInt64 := 256
  /-- The update-queue ports that nodes receive. -/
  ports : PortRange := ⟨44540, 44739⟩
  delivery : DeliverySettings := {}
deriving DecidableEq, Repr, Inhabited

/-- Why a text does not give settings, or settings have no text. -/
inductive SettingsError where
  /-- The text is no document, or one with values of the wrong kind. -/
  | malformed
  | noPorts (range : PortRange)
  | noConnections
  /-- A number that documents cannot hold. -/
  | outOfRange
deriving DecidableEq, Repr, Inhabited

/-- The wording of an error in settings. -/
def SettingsError.message : SettingsError → String
  | .malformed => "configuration error: TOML parse error"
  | .noPorts range =>
    "configuration error: update_queue_ports: first " ++ toString range.first.toNat ++
      " is after last " ++ toString range.last.toNat
  | .noConnections => "configuration error: max_connections must be positive"
  | .outOfRange => "configuration error: out-of-range value for u64 type"

/-- Sensible settings have a port to give away and serve a connection. -/
def Settings.check (settings : Settings) : Except SettingsError Unit :=
  if settings.ports.last < settings.ports.first then .error (.noPorts settings.ports)
  else if settings.maxConnections = 0 then .error .noConnections
  else .ok ()

end CacheDirectory
