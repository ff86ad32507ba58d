/-
Module: CacheDirectory.Delivery.Settings
Purpose: How stubbornly release requests are delivered, and how long a delivery waits
  between two attempts.
Trusted boundary: none
Main exports: wrappingAdd, checkedAdd, DeliverySettings, DeliverySettings.backoff
-/

namespace CacheDirectory

/-- A sum of two numbers of 64 bits as the shipped build forms it: a carry is lost. -/
def wrappingAdd (first second : UInt64) : Id UInt64 :=
  return first + second

/-- The limits on deliveries. Times are in milliseconds. -/
structure DeliverySettings where
  /-- Attempts before the target is declared dead; none counts as one. -/
  maxAttempts : UInt32 := 5
  /-- Delay after the first failed attempt, but for chance; it grows by as much with
  each further one. -/
  retryBackoff : UInt64 := 200
  /-- How long one attempt waits for the acknowledgement. -/
  requestTimeout : UInt64 := 10000
  /-- Deliveries under way at one time; none counts as one. -/
  maxInFlight : UInt64 := 256
deriving DecidableEq, Repr, Inhabited

namespace DeliverySettings

/-- The number of attempts that are made. -/
def attempts (settings : DeliverySettings) : Nat :=
  max 1 settings.maxAttempts.toNat

/-- The number of deliveries that may be under way. -/
def permits (settings : DeliverySettings) : Nat :=
  max 1 settings.maxInFlight.toNat

/-- The delay after the failed attempt of this number, but for chance. It stops growing at
the largest number of 64 bits. -/
def grownBackoff (settings : DeliverySettings) (attempt : Nat) : UInt64 :=
  .ofNat (min (settings.retryBackoff.toNat * attempt) (UInt64.size - 1))

/-- What chance adds to a delay, if it draws this number: up to half of the base delay. -/
def jitter (settings : DeliverySettings) (draw : UInt64) : UInt64 :=
  if 1 < settings.retryBackoff then draw % (settings.retryBackoff / 2 + 1) else 0

/-- The delay after the failed attempt of this number. The sum may be more than a number of
64 bits, and what happens then is up to the build, that is, to `add`. -/
def backoff {m : Type → Type} (add : UInt64 → UInt64 → m UInt64) (settings : DeliverySettings)
    (attempt : Nat) (draw : UInt64) : m UInt64 :=
  add (settings.grownBackoff attempt) (settings.jitter draw)

/-- The summary of the party that delivers, for logs. -/
def summary (settings : DeliverySettings) : String :=
  "CallbackCoordinator \x7b config: CallbackConfig \x7b max_attempts: " ++
    toString settings.maxAttempts.toNat ++
    ", retry_backoff_ms: " ++ toString settings.retryBackoff.toNat ++
    ", request_timeout_ms: " ++ toString settings.requestTimeout.toNat ++
    ", max_in_flight: " ++ toString settings.maxInFlight.toNat ++ " \x7d \x7d"

end DeliverySettings

end CacheDirectory
