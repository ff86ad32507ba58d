/-
Module: CacheDirectory.Settings.Document
Purpose: Settings as documents: how they are read, with defaults for what is left
  out, and how they are written.
Trusted boundary: none
Main exports: Settings.ofText, Settings.text
-/
import CacheDirectory.Settings.Basic
import CacheDirectory.Toml.Document

namespace CacheDirectory

open Toml

/-! ### Values -/

/-- A number below a bound. -/
def Toml.Value.natural? (bound : Nat) : Value → Option Nat
  | .integer value => if 0 ≤ value && value < bound then some value.toNat else none
  | _ => none

/-- A number below 2^16. -/
def Toml.Value.word16? (value : Value) : Option UInt16 :=
  (value.natural? UInt16.size).map UInt16.ofNat

/-- A number below 2^32. -/
def Toml.Value.word32? (value : Value) : Option UInt32 :=
  (value.natural? UInt32.size).map UInt32.ofNat

/-- A number below 2^64. -/
def Toml.Value.word64? (value : Value) : Option UInt64 :=
  (value.natural? UInt64.size).map UInt64.ofNat

/-- An address, which is written as a text. -/
def Toml.Value.address? : Value → Option SocketAddress
  | .text content => SocketAddress.parse? content
  | _ => none

/-- The parts of a record: by their names, or in the order of the record. -/
inductive Toml.Parts where
  | named (fields : Fields)
  | inOrder (items : List Value)
deriving Inhabited

/-- The parts of a value that can be a record. A date can, but none of its parts
has a name. -/
def Toml.Value.parts? : Value → Option Parts
  | .table _ fields => some (.named fields)
  | .array items => some (.inOrder items)
  | .tables items => some (.inOrder (items.reverse.map (.table .header)))
  | .date _ => some (.named [])
  | _ => none

namespace Toml.Parts

/-- The part of a record with a position and a name. -/
def get? (parts : Parts) (position : Nat) (name : String) : Option Value :=
  match parts with
  | .named fields => fields.get? name
  | .inOrder items => items[position]?

/-- What a part denotes, or a default if the part is left out. -/
def read {α : Type} (parts : Parts) (position : Nat) (name : String)
    (denoted : Value → Option α) (default : α) : Option α :=
  match parts.get? position name with
  | none => some default
  | some value => denoted value

end Toml.Parts

/-! ### Reading -/

namespace PortRange

/-- The range that a value denotes; both its ends are required. -/
def ofValue? (value : Value) : Option PortRange := do
  let parts ← value.parts?
  let first ← parts.get? 0 "first"
  let first ← first.word16?
  let last ← parts.get? 1 "last"
  let last ← last.word16?
  return ⟨first, last⟩

end PortRange

namespace DeliverySettings

/-- The limits on deliveries that a value denotes. -/
def ofValue? (value : Value) : Option DeliverySettings := do
  let parts ← value.parts?
  let start : DeliverySettings := {}
  return {
    maxAttempts := ← parts.read 0 "max_attempts" Value.word32? start.maxAttempts
    retryBackoff := ← parts.read 1 "retry_backoff_ms" Value.word64? start.retryBackoff
    requestTimeout := ← parts.read 2 "request_timeout_ms" Value.word64? start.requestTimeout
    maxInFlight := ← parts.read 3 "max_in_flight" Value.word64? start.maxInFlight }

end DeliverySettings

namespace Settings

/-- The settings that the fields of a document denote. Fields of other names mean
nothing. -/
def ofFields? (fields : Fields) : Option Settings := do
  let parts := Parts.named fields
  let start : Settings := {}
  return {
    requests := ← parts.read 0 "bind_addr" Value.address? start.requests
    admin := ← parts.read 1 "admin_addr" Value.address? start.admin
    maxConnections := ← parts.read 2 "max_connections" Value.word64? start.maxConnections
    ports := ← parts.read 3 "update_queue_ports" PortRange.ofValue? start.ports
    delivery := ← parts.read 4 "callbacks" DeliverySettings.ofValue? start.delivery }

/-- The settings in a text, if they are sensible. -/
def ofText (text : String) : Except SettingsError Settings := do
  match Toml.document? text >>= ofFields? with
  | none => throw .malformed
  | some settings =>
    settings.check
    return settings

/-! ### Writing -/

/-- A line that defines a key. -/
def line (key content : String) : String :=
  key ++ " = " ++ content ++ "\n"

/-- A line that defines a number. -/
def numberLine (key : String) (value : Nat) : Except SettingsError String :=
  if Nat.pow 2 63 ≤ value then .error .outOfRange else .ok (line key (toString value))

/-- A line that defines an address, whose notation needs no escapes. -/
def addressLine (key : String) (address : SocketAddress) : String :=
  line key ("\"" ++ address.text ++ "\"")

/-- The settings as the text of a document that leaves nothing out. -/
def text (settings : Settings) : Except SettingsError String := do
  let delivery := settings.delivery
  return addressLine "bind_addr" settings.requests ++
    addressLine "admin_addr" settings.admin ++
    (← numberLine "max_connections" settings.maxConnections.toNat) ++
    "\n[update_queue_ports]\n" ++
    (← numberLine "first" settings.ports.first.toNat) ++
    (← numberLine "last" settings.ports.last.toNat) ++
    "\n[callbacks]\n" ++
    (← numberLine "max_attempts" delivery.maxAttempts.toNat) ++
    (← numberLine "retry_backoff_ms" delivery.retryBackoff.toNat) ++
    (← numberLine "request_timeout_ms" delivery.requestTimeout.toNat) ++
    (← numberLine "max_in_flight" delivery.maxInFlight.toNat)

end Settings

end CacheDirectory
