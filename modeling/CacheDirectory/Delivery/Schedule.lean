/-
Module: CacheDirectory.Delivery.Schedule
Purpose: Delivery of all pending requests at once, as time goes by: each delivery
  waits for acknowledgements and between attempts without holding up others.
Trusted boundary: none
Main exports: Flight, Traffic, Site.settle
-/
import CacheDirectory.Delivery.Basic

namespace CacheDirectory

/-- A delivery under way. It continues at the time `due`: with its next attempt,
or, if `verdict` holds one, with the outcome of the last. -/
structure Flight where
  request : ReleaseRequest
  made : Nat := 0
  due : Nat
  verdict : Option Bool := none
deriving Repr, Inhabited

/-- The deliveries under way, in the order in which they began. -/
structure Traffic where
  site : Site
  flights : List Flight := []
  now : Nat := 0

namespace Traffic

/-- Begin the deliveries of the oldest pending requests, as many as may be under
way. -/
def fill (settings : DeliverySettings) (traffic : Traffic) : Traffic :=
  let directory := traffic.site.directory
  let free := settings.permits - traffic.flights.length
  let begun : List Flight :=
    (directory.pending.take free).map fun request => { request, due := traffic.now }
  { traffic with
    site := { traffic.site with
      directory := { directory with pending := directory.pending.drop free } }
    flights := traffic.flights ++ begun }

/-- The position of the delivery that continues first, the oldest of those that
continue at the same time. -/
def first? (flights : List Flight) : Option Nat :=
  (flights.map (·.due)).min?.bind fun due => flights.findIdx? fun flight => flight.due == due

/-- Continue a delivery: the state of the site after it, and the delivery unless
it has ended. If it has to wait, `draw` is the number that chance draws for the wait. -/
def proceed (settings : DeliverySettings) (flight : Flight) (site : Site)
    (draw : UInt64 := 0) : Option Flight × Site :=
  match flight.verdict with
  | none =>
    match site.attempt settings flight.request with
    | (.gone, site) => (none, site.complete flight.request)
    | (.acknowledged elapsed, site) =>
      (some { flight with due := flight.due + elapsed, verdict := some true }, site)
    | (.failed elapsed, site) =>
      (some { flight with due := flight.due + elapsed, verdict := some false }, site)
  | some true => (none, site.complete flight.request)
  | some false =>
    let made := flight.made + 1
    if made < settings.attempts then
      let delay := (settings.backoff wrappingAdd made draw).run
      (some { flight with made, due := flight.due + delay.toNat, verdict := none }, site)
    else (none, site.abandon flight.request)

/-- Continue the delivery that is first; nothing if none is under way. -/
def step (settings : DeliverySettings) (traffic : Traffic) (draw : UInt64 := 0) :
    Option Traffic :=
  let traffic := traffic.fill settings
  match first? traffic.flights with
  | none => none
  | some index =>
    match traffic.flights[index]? with
    | none => none
    | some flight =>
      let (continued, site) := proceed settings flight traffic.site draw
      let flights :=
        match continued with
        | some flight => traffic.flights.set index flight
        | none => traffic.flights.eraseIdx index
      some { site, flights, now := flight.due }

/-- Continue deliveries for at most so many steps. Chance draws `draws steps` with that
many steps to go. -/
def run (settings : DeliverySettings) (draws : Nat → UInt64) : Nat → Traffic → Traffic
  | 0, traffic => traffic
  | steps + 1, traffic =>
    match traffic.step settings (draws steps) with
    | none => traffic
    | some later => run settings draws steps later

end Traffic

/-- Deliver everything that is pending. Each delivery takes at most two steps for
each attempt, one to ask and one to learn the outcome. -/
def Site.settle (settings : DeliverySettings) (site : Site)
    (draws : Nat → UInt64 := fun _ => 0) : Site :=
  let steps := site.directory.pending.length * (2 * settings.attempts)
  (Traffic.run settings draws steps { site }).site

end CacheDirectory
