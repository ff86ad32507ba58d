/-
Module: CacheDirectory.Proofs.Timing
Purpose: When the requests to release something are delivered makes no difference to what
  operations do and answer, but for the flags that tell of conflicts, as long as no
  delivery fails.
Trusted boundary: none
Main exports: Operation, Service.operate, Service.Agrees, Service.operatesAlike,
  Cluster.Smooth, Cluster.observe, Cluster.timing_invisible
-/
import CacheDirectory.Proofs.Parallels
import CacheDirectory.Proofs.Runs
import CacheDirectory.Proofs.Verdicts

namespace CacheDirectory

open Wire

/-! ### Operations of the service -/

/-- An operation of the service: a request, or the news that the connection of a node is
gone. -/
inductive Operation where
  | request (request : Request)
  | disconnect (node : NodeId)

/-- What an operation is answered with. -/
abbrev Operation.Answer : Operation → Type
  | .request asked => Except DirectoryError asked.Result
  | .disconnect _ => Bool

/-- An answer without what it tells of conflicts. -/
def Operation.withoutFlags : (operation : Operation) → operation.Answer → operation.Answer
  | .request (.access _ what), answer => answer.map what.withoutFlags
  | _, answer => answer

/-- Perform an operation. -/
def Service.operate {σ : Type} [Backing σ] (service : Service σ) :
    (operation : Operation) → operation.Answer × Service σ
  | .request asked => service.perform asked
  | .disconnect node => service.nodeFailed node

/-- The same nodes live, and hold the same keys in the same modes; what is stored, the
object numbers and the classes are the same. -/
structure Service.Agrees {σ : Type} (first second : Service σ) : Prop where
  directory : first.directory.Agrees second.directory
  store : first.world.store = second.world.store
  ids : first.ids = second.ids
  classes : first.classes = second.classes

namespace Service.Agrees

variable {σ : Type} {first second third : Service σ}

theorem refl (service : Service σ) : service.Agrees service :=
  ⟨.refl _, rfl, rfl, rfl⟩

theorem symm (agrees : first.Agrees second) : second.Agrees first :=
  ⟨agrees.directory.symm, agrees.store.symm, agrees.ids.symm, agrees.classes.symm⟩

theorem trans (one : first.Agrees second) (other : second.Agrees third) : first.Agrees third :=
  ⟨one.directory.trans other.directory, one.store.trans other.store, one.ids.trans other.ids,
    one.classes.trans other.classes⟩

end Service.Agrees

namespace Service

section

variable {σ α : Type} {first second : Service σ}

/-- What an operation on the directory comes to in both services. -/
theorem act_agrees {action : Action σ α} {same : α → α → Prop}
    (parallel : action.Parallel action same) (agrees : first.Agrees second) :
    Corresponds same (first.act action).1 (second.act action).1 ∧
      (first.act action).2.directory.pending.drop first.directory.pending.length =
        (second.act action).2.directory.pending.drop second.directory.pending.length ∧
      (first.act action).2.Agrees (second.act action).2 := by
  obtain ⟨corresponds, later⟩ := parallel _ _ _ (.start agrees.directory agrees.store)
  obtain ⟨requests, submitted, submitted'⟩ := later.submitted
  refine ⟨corresponds, ?_, ⟨later.directory, later.store, agrees.ids, agrees.classes⟩⟩
  refine (congrArg _ submitted).trans (Eq.trans ?_ (congrArg _ submitted').symm)
  exact List.drop_left.trans List.drop_left.symm

end

variable {σ : Type} [Backing σ] {first second : Service σ}

/-- The requests that an operation submits. -/
def submits (service : Service σ) (operation : Operation) : List ReleaseRequest :=
  (service.operate operation).2.directory.pending.drop service.directory.pending.length

/-- The operation does the same to both services, submits the same requests, and is
answered alike but for what the answers tell of conflicts. -/
structure OperatesAlike (first second : Service σ) (operation : Operation) : Prop where
  answer : operation.withoutFlags (first.operate operation).1 =
    operation.withoutFlags (second.operate operation).1
  submits : first.submits operation = second.submits operation
  agrees : (first.operate operation).2.Agrees (second.operate operation).2

/-- Of all operations only requests for access submit anything or tell of conflicts. -/
theorem operatesAlike (agrees : first.Agrees second) (operation : Operation) :
    first.OperatesAlike second operation := by
  have silent (directory : Directory) :
      directory.pending.drop directory.pending.length = [] := List.drop_length
  cases operation with
  | disconnect node =>
      obtain ⟨answer, later⟩ := agrees.directory.nodeFailed node
      exact ⟨answer, (silent _).trans (silent _).symm,
        later, agrees.store, agrees.ids, agrees.classes⟩
  | request asked =>
      cases asked with
      | registerNode address =>
          obtain ⟨answer, later⟩ := agrees.directory.register address
          exact ⟨answer, (silent _).trans (silent _).symm,
            later, agrees.store, agrees.ids, agrees.classes⟩
      | newObjectIds count =>
          have same := agrees.ids
          refine ⟨?_, (silent _).trans (silent _).symm,
            ⟨agrees.directory, agrees.store, ?_, agrees.classes⟩⟩
          · simp only [operate, perform, Operation.withoutFlags, same]
          · simp only [operate, perform, same]
      | access node what =>
          obtain ⟨corresponds, submits, later⟩ := act_agrees (Action.parallel_access node what) agrees
          exact ⟨corresponds.map_eq, submits, later⟩
      | getClassId info =>
          have same := agrees.classes
          refine ⟨?_, (silent _).trans (silent _).symm,
            ⟨agrees.directory, agrees.store, agrees.ids, ?_⟩⟩
          · simp only [operate, perform, Operation.withoutFlags, same]
          · simp only [operate, perform, same]
      | getClassInfo id =>
          have same := agrees.classes
          refine ⟨?_, (silent _).trans (silent _).symm, agrees⟩
          simp only [operate, perform, Operation.withoutFlags, same]
      | releaseObject node oid =>
          have parallel := (Action.parallel_requireArgument (σ := σ) (0 ≤ oid)
            (.releaseOfNegativeObject oid)).bind fun _ _ _ => Action.parallel_giveUp node (.object oid)
          obtain ⟨corresponds, submits, later⟩ := act_agrees parallel agrees
          exact ⟨corresponds.eq, submits, later⟩
      | releaseBinding node place =>
          obtain ⟨corresponds, submits, later⟩ :=
            act_agrees (Action.parallel_giveUp node (.binding place)) agrees
          exact ⟨corresponds.eq, submits, later⟩

end Service

/-! ### What is observed of operations -/

/-- An operation, its answer, and the requests that it submitted. -/
structure Observation where
  operation : Operation
  answer : operation.Answer
  submitted : List ReleaseRequest

/-- What was observed, without what the answer tells of conflicts. -/
def Observation.withoutFlags (observed : Observation) : Observation where
  operation := observed.operation
  answer := observed.operation.withoutFlags observed.answer
  submitted := observed.submitted

namespace Service

variable {σ : Type} [Backing σ] {first second : Service σ}

/-- What is observed of an operation. -/
def observation (service : Service σ) (operation : Operation) : Observation where
  operation := operation
  answer := (service.operate operation).1
  submitted := service.submits operation

theorem OperatesAlike.observation {operation : Operation}
    (alike : first.OperatesAlike second operation) :
    (first.observation operation).withoutFlags = (second.observation operation).withoutFlags := by
  simp only [Observation.withoutFlags, Service.observation, alike.answer, alike.submits]

/-- Operations one after the other, with nothing delivered in between. -/
def operateAll (service : Service σ) : List Operation → List Observation × Service σ
  | [] => ([], service)
  | operation :: rest =>
    let (observed, final) := (service.operate operation).2.operateAll rest
    (service.observation operation :: observed, final)

end Service

/-! ### Runs in which no delivery fails -/

/-- The operation that a step performs, if it performs one. -/
def Step.operation? {σ : Type} : Step σ → Option Operation
  | .request asked => some (.request asked)
  | .nodeFailed node => some (.disconnect node)
  | _ => none

/-- A delivery that does not fail changes nothing but who is still to give something up. -/
theorem Site.agrees_deliver (settings : DeliverySettings) {request : ReleaseRequest} {site : Site}
    (smooth : (deliver settings request site).1 = .acknowledged ∨
      site.directory.registry.isLive request.target = false) :
    (deliver settings request site).2.directory.Agrees site.directory := by
  have completed := Directory.agrees_completeRelease site.directory request.target request.key
  rcases smooth with acknowledged | dead
  · rw [deliver_conclude, acknowledged]
    exact completed
  · rw [deliver_of_dead settings dead]
    exact completed

/-- A delivery that is continued does not fail if it ends, and does not cost its target the
life if it goes on. -/
def Flight.Spared (flight : Flight) (live : Bool) : Option Flight × Site → Prop
  | (none, _) => flight.ending ≠ .nodeFailed
  | (some _, later) => later.directory.registry.isLive flight.request.target = live

instance (flight : Flight) (live : Bool) : (continued : Option Flight × Site) →
    Decidable (flight.Spared live continued)
  | (none, _) => inferInstanceAs (Decidable (flight.ending ≠ .nodeFailed))
  | (some _, later) =>
    inferInstanceAs (Decidable (later.directory.registry.isLive flight.request.target = live))

/-- Then it changes nothing but who is still to give something up. -/
theorem Traffic.agrees_proceed (settings : DeliverySettings) {flight : Flight} {site : Site}
    {draw : UInt64} (smooth : flight.Spared (site.directory.registry.isLive flight.request.target)
      (proceed settings flight site draw)) :
    (proceed settings flight site draw).2.directory.Agrees site.directory := by
  obtain ⟨request, made, due, verdict⟩ := flight
  have completed := Directory.agrees_completeRelease site.directory request.target request.key
  cases verdict with
  | none =>
      have unchanged := site.directory_attempt settings request
      simp only [Flight.Spared, proceed] at smooth ⊢
      rcases ran : site.attempt settings request with ⟨attempt, later⟩
      simp only [ran] at smooth unchanged ⊢
      cases attempt with
      | gone =>
          change (later.directory.completeRelease request.target request.key).2.Agrees site.directory
          rw [unchanged (Or.inl rfl)]
          exact completed
      | acknowledged elapsed | failed elapsed =>
          change later.directory.Agrees site.directory
          rw [unchanged (Or.inr smooth)]
          exact .refl _
  | some verdict =>
      cases verdict with
      | true => exact completed
      | false =>
          by_cases further : made + 1 < settings.attempts
          · simp only [proceed, further, if_true]
            exact .refl _
          · simp only [Flight.Spared, proceed, further, if_false] at smooth
            exact absurd rfl smooth

namespace Cluster

variable {σ : Type}

theorem agrees_withDirectory (cluster : Cluster σ) {directory : Directory}
    (agrees : directory.Agrees cluster.directory) :
    (cluster.withDirectory directory).service.Agrees cluster.service :=
  ⟨agrees, rfl, rfl, rfl⟩

variable [Backing σ]

/-- What is observed of the operations in the course of a run. -/
def observe (cluster : Cluster σ) : List (Step σ) → List Observation
  | [] => []
  | step :: rest =>
    (step.operation?.map cluster.service.observation).toList ++ (cluster.step step).2.observe rest

/-- The step is an operation, or a delivery is begun or continued, and does not fail: it is
acknowledged, or finds its target dead already. One that goes on does not cost its target
the life. -/
def Smooth (cluster : Cluster σ) : Step σ → Prop
  | .request _ | .nodeFailed _ | .depart _ _ | .reroute _ => True
  | .deliver index =>
    ∀ delivery ∈ cluster.site.deliverPending cluster.service.settings index,
      delivery.2.1 = .acknowledged ∨
        cluster.directory.registry.isLive delivery.1.target = false
  | .proceed index draw =>
    ∀ flight ∈ cluster.flights[index]?,
      flight.Spared (cluster.directory.registry.isLive flight.request.target)
        (Traffic.proceed cluster.service.settings flight cluster.site draw)
  | _ => False

/-- Every step of the run is smooth. -/
def SmoothRun (cluster : Cluster σ) : List (Step σ) → Prop
  | [] => True
  | step :: rest => cluster.Smooth step ∧ (cluster.step step).2.SmoothRun rest

instance (cluster : Cluster σ) : (step : Step σ) → Decidable (cluster.Smooth step)
  | .request _ | .nodeFailed _ | .depart _ _ | .reroute _ => isTrue trivial
  | .deliver index =>
    inferInstanceAs (Decidable
      (∀ delivery ∈ cluster.site.deliverPending cluster.service.settings index,
        delivery.2.1 = .acknowledged ∨
          cluster.directory.registry.isLive delivery.1.target = false))
  | .proceed index draw =>
    inferInstanceAs (Decidable
      (∀ flight ∈ cluster.flights[index]?,
        flight.Spared (cluster.directory.registry.isLive flight.request.target)
          (Traffic.proceed cluster.service.settings flight cluster.site draw)))
  | .markDead _ | .release _ _ | .completeRelease _ _ | .forceRelease _ _ | .restock _ =>
    isFalse not_false

instance decidableSmoothRun (cluster : Cluster σ) :
    (steps : List (Step σ)) → Decidable (cluster.SmoothRun steps)
  | [] => isTrue trivial
  | step :: rest =>
    have : Decidable ((cluster.step step).2.SmoothRun rest) := decidableSmoothRun _ rest
    inferInstanceAs (Decidable (cluster.Smooth step ∧ (cluster.step step).2.SmoothRun rest))

/-- A step that performs an operation does nothing else. -/
theorem service_step_of_operation {cluster : Cluster σ} {step : Step σ} {operation : Operation}
    (performs : step.operation? = some operation) :
    (cluster.step step).2.service = (cluster.service.operate operation).2 := by
  cases step with
  | request asked | nodeFailed node =>
      cases performs
      rfl
  | _ => cases performs

theorem agrees_deliver {cluster : Cluster σ} {index : Nat}
    (smooth : cluster.Smooth (.deliver index)) :
    (cluster.step (.deliver index)).2.service.Agrees cluster.service := by
  simp only [Smooth, Site.deliverPending] at smooth
  simp only [step, Site.deliverPending]
  revert smooth
  cases cluster.site.directory.pending[index]? with
  | none => exact fun _ => .refl _
  | some request =>
      intro smooth
      refine cluster.agrees_withDirectory ((Site.agrees_deliver _ (smooth _ rfl)).trans ?_)
      exact ⟨rfl, rfl, fun _ => rfl⟩

theorem agrees_proceed {cluster : Cluster σ} {index : Nat} {draw : UInt64}
    (smooth : cluster.Smooth (.proceed index draw)) :
    (cluster.step (.proceed index draw)).2.service.Agrees cluster.service := by
  simp only [Smooth] at smooth
  simp only [step]
  revert smooth
  cases cluster.flights[index]? with
  | none => exact fun _ => .refl _
  | some flight =>
      intro smooth
      exact cluster.agrees_withDirectory (Traffic.agrees_proceed _ (smooth flight rfl))

/-- Of the smooth steps only operations change who holds what. -/
theorem agrees_step {cluster : Cluster σ} {step : Step σ} (smooth : cluster.Smooth step)
    (idle : step.operation? = none) : (cluster.step step).2.service.Agrees cluster.service := by
  cases step with
  | request | nodeFailed => cases idle
  | deliver index => exact agrees_deliver smooth
  | proceed index draw => exact agrees_proceed smooth
  | depart index now =>
      simp only [Cluster.step]
      cases cluster.directory.pending[index]? with
      | none => exact .refl _
      | some request => exact ⟨⟨rfl, rfl, fun _ => rfl⟩, rfl, rfl, rfl⟩
  | reroute endpoints => exact .refl _
  | _ => exact smooth.elim

/-- A smooth run is observed, and ends, as if nothing had been delivered in it. -/
theorem SmoothRun.undelivered {cluster : Cluster σ} {service : Service σ} {steps : List (Step σ)}
    (smooth : cluster.SmoothRun steps) (agrees : cluster.service.Agrees service) :
    (cluster.observe steps).map Observation.withoutFlags =
        (service.operateAll (steps.filterMap Step.operation?)).1.map Observation.withoutFlags ∧
      (cluster.run steps).2.service.Agrees
        (service.operateAll (steps.filterMap Step.operation?)).2 := by
  induction steps generalizing cluster service with
  | nil => exact ⟨rfl, agrees⟩
  | cons step rest ih =>
      obtain ⟨now, later⟩ := smooth
      cases performs : step.operation? with
      | none =>
          rw [List.filterMap_cons_none performs]
          simp only [observe, performs, Option.map_none, Option.toList_none, List.nil_append]
          exact ih later ((agrees_step now performs).trans agrees)
      | some operation =>
          rw [List.filterMap_cons_some performs]
          have alike := Service.operatesAlike agrees operation
          have next := alike.agrees
          rw [← service_step_of_operation performs] at next
          obtain ⟨observed, ends⟩ := ih later next
          refine ⟨?_, ends⟩
          simp only [observe, performs, Option.map_some, Option.toList_some, List.singleton_append,
            Service.operateAll, List.map_cons, alike.observation, observed]

/-- When deliveries are made, and which and in which order, does not matter as long as none
fails. The same operations submit the same requests and are answered alike but for the flags
that tell of conflicts, and in the end the same nodes live and hold the same keys, and the
object numbers and the classes are the same. -/
theorem timing_invisible (cluster : Cluster σ) {first second : List (Step σ)}
    (smooth : cluster.SmoothRun first) (smooth' : cluster.SmoothRun second)
    (same : first.filterMap Step.operation? = second.filterMap Step.operation?) :
    (cluster.observe first).map Observation.withoutFlags =
        (cluster.observe second).map Observation.withoutFlags ∧
      (cluster.run first).2.service.Agrees (cluster.run second).2.service := by
  obtain ⟨observed, ends⟩ := smooth.undelivered (.refl _)
  obtain ⟨observed', ends'⟩ := smooth'.undelivered (.refl _)
  rw [same] at observed ends
  exact ⟨observed.trans observed'.symm, ends.trans ends'.symm⟩

/-- The first two of the requests that are under way are delivered, the first in one go and
the second step by step, and then the third node reads the object. -/
def deliversFirst : List (Step Store) :=
  displacedTwice ++ [.deliver 0, .depart 0 0, .proceed 0, .proceed 0,
    .request (.access 3 (.getObject 5))]

/-- The third node reads the object before anything is delivered. -/
def deliversNothing : List (Step Store) :=
  displacedTwice ++ [.request (.access 3 (.getObject 5))]

theorem timing_invisible_oneObject :
    oneObject.SmoothRun deliversFirst ∧ oneObject.SmoothRun deliversNothing ∧
      deliversFirst.filterMap Step.operation? = deliversNothing.filterMap Step.operation? ∧
      (oneObject.observe deliversFirst).map Observation.withoutFlags =
        (oneObject.observe deliversNothing).map Observation.withoutFlags ∧
      (oneObject.run deliversFirst).2.service.Agrees (oneObject.run deliversNothing).2.service := by
  have smooth : oneObject.SmoothRun deliversFirst := by decide +kernel
  have smooth' : oneObject.SmoothRun deliversNothing := by decide +kernel
  exact ⟨smooth, smooth', rfl, oneObject.timing_invisible smooth smooth' rfl⟩

end Cluster

end CacheDirectory
