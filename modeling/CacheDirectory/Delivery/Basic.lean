/-
Module: CacheDirectory.Delivery.Basic
Purpose: Delivery of one release request: ask the target until it acknowledges,
  is found dead, or has failed too often; then settle the directory.
Trusted boundary: none
Main exports: DeliveryOutcome, Site, Site.attempt, Site.deliverBy, Site.deliver
-/
import CacheDirectory.Delivery.Endpoint
import CacheDirectory.Delivery.Settings
import CacheDirectory.Directory.Basic

namespace CacheDirectory

/-- How the delivery of a request ended. -/
inductive DeliveryOutcome where
  /-- The target acknowledged. -/
  | acknowledged
  /-- The target was found dead before an attempt. -/
  | targetGone
  /-- Every attempt failed, and the target has been declared dead. -/
  | nodeFailed
deriving DecidableEq, Repr, Inhabited

/-- A directory together with the nodes it can reach. -/
structure Site where
  directory : Directory
  endpoints : Endpoints := ∅

instance : Inhabited Site := ⟨⟨default, ∅⟩⟩

/-- What came of one attempt. A node that does not answer costs as much time as
an attempt may take. -/
inductive Attempt where
  | gone
  | acknowledged (elapsed : Nat)
  | failed (elapsed : Nat)
deriving DecidableEq, Repr, Inhabited

namespace Site

/-- Ask the target once, if it lives. An acknowledgement counts if it arrives
within the time allowed, the last moment included. -/
def attempt (settings : DeliverySettings) (request : ReleaseRequest) (site : Site) :
    Attempt × Site :=
  if site.directory.registry.isLive request.target then
    let (behaviour, endpoints) :=
      site.endpoints.request request.target request.key request.release
    match behaviour with
    | .acknowledge after =>
      if after ≤ settings.requestTimeout.toNat then
        (.acknowledged after, { site with endpoints })
      else (.failed settings.requestTimeout.toNat, { site with endpoints })
    | .fail _ => (.failed 0, { site with endpoints })
    | .die =>
      (.failed 0, { directory := (site.directory.markDead request.target).2, endpoints })
  else (.gone, site)

/-- Record that the target gave up the key. -/
def complete (request : ReleaseRequest) (site : Site) : Site :=
  { site with directory := (site.directory.completeRelease request.target request.key).2 }

/-- Give the target up as dead. -/
def abandon (request : ReleaseRequest) (site : Site) : Site :=
  { site with directory := (site.directory.nodeFailed request.target).2 }

/-- Deliver a request with at most `remaining` further attempts, in a build that adds with
`add`. Between a failed attempt and the next the delivery waits; `draws` are the numbers
that chance draws for the waits, by the number of the attempt that failed. -/
def deliverBy {m : Type → Type} [Monad m] (add : UInt64 → UInt64 → m UInt64)
    (settings : DeliverySettings) (draws : Nat → UInt64) (request : ReleaseRequest) :
    Nat → Site → m (DeliveryOutcome × Site)
  | 0, site => return (.nodeFailed, site.abandon request)
  | remaining + 1, site =>
    match site.attempt settings request with
    | (.gone, site) => return (.targetGone, site.complete request)
    | (.acknowledged _, site) => return (.acknowledged, site.complete request)
    | (.failed _, site) => do
      if 0 < remaining then
        let attempt := settings.attempts - remaining
        let _delay ← settings.backoff add attempt (draws attempt)
      deliverBy add settings draws request remaining site

/-- Deliver a request with at most `remaining` further attempts, in the shipped build. -/
def deliverWithin (settings : DeliverySettings) (request : ReleaseRequest) (remaining : Nat)
    (site : Site) (draws : Nat → UInt64 := fun _ => 0) : DeliveryOutcome × Site :=
  (deliverBy wrappingAdd settings draws request remaining site).run

/-- Deliver a request. Either way the target is afterwards no longer recorded as
giving up the key. -/
def deliver (settings : DeliverySettings) (request : ReleaseRequest) (site : Site)
    (draws : Nat → UInt64 := fun _ => 0) : DeliveryOutcome × Site :=
  deliverWithin settings request settings.attempts site draws

/-- Take the request at a position out of the pending ones and deliver it. -/
def deliverPending (settings : DeliverySettings) (index : Nat) (site : Site) :
    Option (ReleaseRequest × DeliveryOutcome × Site) :=
  site.directory.pending[index]?.map fun request =>
    let pending := site.directory.pending.eraseIdx index
    (request, deliver settings request { site with directory := { site.directory with pending } })

end Site

end CacheDirectory
