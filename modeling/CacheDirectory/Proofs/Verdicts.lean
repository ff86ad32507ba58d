/-
Module: CacheDirectory.Proofs.Verdicts
Purpose: What a delivery did to the directory follows from its outcome alone, however many
  attempts it took.
Trusted boundary: none
Main exports: Site.Attempted, Site.attempted, Directory.conclude, Site.deliver_conclude,
  Site.deliver_of_dead
-/
import CacheDirectory.Proofs.Registrations

namespace CacheDirectory

/-! ### One attempt -/

/-- All that can come of asking the target once, and the directory after it. Only an
attempt that fails can be the death of the target. -/
inductive Site.Attempted (request : ReleaseRequest) (directory : Directory) :
    Attempt → Directory → Prop
  | gone (dead : directory.registry.isLive request.target = false) :
      Attempted request directory .gone directory
  | acknowledged (live : directory.registry.isLive request.target = true) (elapsed : Nat) :
      Attempted request directory (.acknowledged elapsed) directory
  | failed (live : directory.registry.isLive request.target = true) (elapsed : Nat) :
      Attempted request directory (.failed elapsed) directory
  | died (live : directory.registry.isLive request.target = true) (elapsed : Nat) :
      Attempted request directory (.failed elapsed) (directory.markDead request.target).2

theorem Site.attempted (settings : DeliverySettings) (request : ReleaseRequest) (site : Site) :
    Attempted request site.directory (site.attempt settings request).1
      (site.attempt settings request).2.directory := by
  rw [attempt]
  split
  case isFalse gone => exact .gone (Bool.eq_false_iff.mpr gone)
  case isTrue live =>
    rcases site.endpoints.request request.target request.key request.release with
      ⟨behaviour, endpoints⟩
    cases behaviour with
    | acknowledge delay =>
        by_cases inTime : delay ≤ settings.requestTimeout.toNat
        · simp only [inTime, if_true]
          exact .acknowledged live delay
        · simp only [inTime, if_false]
          exact .failed live settings.requestTimeout.toNat
    | fail error => exact .failed live 0
    | die => exact .died live 0

/-! ### A whole delivery -/

namespace Directory

theorem markDead_of_dead {directory : Directory} {node : NodeId}
    (dead : directory.registry.isLive node = false) : (directory.markDead node).2 = directory :=
  congrArg (fun registry => { directory with registry }) (Registry.markDead_of_not_live dead)

theorem isLive_markDead_self (directory : Directory) (node : NodeId) :
    (directory.markDead node).2.registry.isLive node = false := by
  change (directory.registry.markDead node).2.isLive node = false
  rw [Registry.isLive_markDead, bne_self_eq_false, Bool.and_false]

/-- Nobody dies twice. -/
theorem nodeFailed_markDead (directory : Directory) (node : NodeId) :
    ((directory.markDead node).2.nodeFailed node).2 = (directory.nodeFailed node).2 := by
  have once := markDead_of_dead (directory.isLive_markDead_self node)
  simp only [nodeFailed, once]

/-- The directory after a delivery with this outcome. A target that was found gone may
have died of an attempt. -/
def conclude (directory : Directory) (request : ReleaseRequest) : DeliveryOutcome → Directory
  | .acknowledged => (directory.completeRelease request.target request.key).2
  | .targetGone =>
    ((directory.markDead request.target).2.completeRelease request.target request.key).2
  | .nodeFailed => (directory.nodeFailed request.target).2

/-- For a target that has died already nothing is different. -/
theorem conclude_markDead (directory : Directory) (request : ReleaseRequest)
    {outcome : DeliveryOutcome} (silent : outcome ≠ .acknowledged) :
    (directory.markDead request.target).2.conclude request outcome =
      directory.conclude request outcome := by
  cases outcome with
  | acknowledged => exact absurd rfl silent
  | targetGone =>
      have once := markDead_of_dead (directory.isLive_markDead_self request.target)
      simp only [conclude, once]
  | nodeFailed => exact nodeFailed_markDead directory request.target

theorem conclude_targetGone {directory : Directory} {request : ReleaseRequest}
    (dead : directory.registry.isLive request.target = false) :
    directory.conclude request .targetGone =
      (directory.completeRelease request.target request.key).2 := by
  rw [conclude, markDead_of_dead dead]

end Directory

namespace Site

/-- As long as its target does not die of it, an attempt changes nothing. -/
theorem directory_attempt (settings : DeliverySettings) (request : ReleaseRequest) (site : Site)
    (spared : (site.attempt settings request).1 = .gone ∨
      (site.attempt settings request).2.directory.registry.isLive request.target =
        site.directory.registry.isLive request.target) :
    (site.attempt settings request).2.directory = site.directory := by
  have attempted := site.attempted settings request
  generalize (site.attempt settings request).1 = attempt at attempted spared
  generalize (site.attempt settings request).2.directory = later at attempted spared ⊢
  cases attempted with
  | gone dead => rfl
  | acknowledged live elapsed => rfl
  | failed live elapsed => rfl
  | died live elapsed =>
      rw [Directory.isLive_markDead_self, live] at spared
      exact absurd spared (by simp)

/-- With an attempt left, a dead target is found gone. -/
theorem deliverWithin_of_dead (settings : DeliverySettings) {request : ReleaseRequest} {site : Site}
    (dead : site.directory.registry.isLive request.target = false) (remaining : Nat) :
    deliverWithin settings request (remaining + 1) site = (.targetGone, site.complete request) := by
  have gone : site.attempt settings request = (.gone, site) := by
    rw [attempt, if_neg (Bool.eq_false_iff.mp dead)]
  rw [deliverWithin_succ, gone]

theorem deliver_of_dead (settings : DeliverySettings) {request : ReleaseRequest} {site : Site}
    (dead : site.directory.registry.isLive request.target = false) :
    deliver settings request site = (.targetGone, site.complete request) := by
  obtain ⟨remaining, enough⟩ : ∃ remaining, settings.attempts = remaining + 1 :=
    Nat.exists_eq_add_of_le' (Nat.le_max_left 1 _)
  rw [deliver, enough, deliverWithin_of_dead settings dead]

/-- A dead target acknowledges nothing. -/
theorem deliverWithin_dead_ne (settings : DeliverySettings) {request : ReleaseRequest} {site : Site}
    (dead : site.directory.registry.isLive request.target = false) (remaining : Nat) :
    (deliverWithin settings request remaining site).1 ≠ .acknowledged := by
  cases remaining with
  | zero => exact nofun
  | succ remaining =>
      rw [deliverWithin_of_dead settings dead]
      exact nofun

theorem deliverWithin_conclude (settings : DeliverySettings) (request : ReleaseRequest)
    (remaining : Nat) (site : Site) :
    (deliverWithin settings request remaining site).2.directory =
      site.directory.conclude request (deliverWithin settings request remaining site).1 := by
  induction remaining generalizing site with
  | zero => rfl
  | succ remaining ih =>
      have attempted := site.attempted settings request
      rw [deliverWithin_succ]
      rcases ran : site.attempt settings request with ⟨attempt, later⟩
      rw [ran] at attempted
      dsimp only at attempted
      generalize same : later.directory = directory at attempted
      cases attempted with
      | gone dead =>
          rw [Directory.conclude_targetGone dead, ← same]
          rfl
      | acknowledged live elapsed =>
          rw [← same]
          rfl
      | failed live elapsed =>
          rw [← same]
          exact ih later
      | died live elapsed =>
          have dead : later.directory.registry.isLive request.target = false := by
            rw [same]
            exact site.directory.isLive_markDead_self request.target
          refine (ih later).trans ?_
          rw [same]
          exact Directory.conclude_markDead _ _ (deliverWithin_dead_ne settings dead remaining)

theorem deliver_conclude (settings : DeliverySettings) (request : ReleaseRequest) (site : Site) :
    (deliver settings request site).2.directory =
      site.directory.conclude request (deliver settings request site).1 :=
  deliverWithin_conclude settings request settings.attempts site

end Site

end CacheDirectory
