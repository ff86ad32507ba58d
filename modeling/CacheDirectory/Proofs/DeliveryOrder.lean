/-
Module: CacheDirectory.Proofs.DeliveryOrder
Purpose: In whichever order release requests are delivered, the same nodes live in the end,
  the same ports are free, and every key has the same holders and the same records of
  releases.
Trusted boundary: none
Main exports: Site.standing, Directory.Matches, Site.deliverAll, Site.deliver_swap,
  Site.deliverAll_perm
-/
import CacheDirectory.Proofs.Verdicts
import CacheDirectory.Proofs.Runs

namespace CacheDirectory

open Std

/-! ### What one delivery does to the directory -/

section

variable {α β : Type} {cmp : α → α → Ordering} [TransCmp cmp] [LawfulEqCmp cmp]

theorem insert_insert_comm (map : ExtTreeMap α β cmp) {first second : α}
    (distinct : first ≠ second) (one other : β) :
    (map.insert first one).insert second other = (map.insert second other).insert first one := by
  apply ExtTreeMap.ext_getElem?
  intro key
  simp only [ExtTreeMap.getElem?_insert, LawfulEqCmp.compare_eq_iff_eq]
  by_cases same : first = key
  · subst same
    simp [Ne.symm distinct]
  · simp [same]

theorem erase_erase_comm (map : ExtTreeMap α β cmp) (first second : α) :
    (map.erase first).erase second = (map.erase second).erase first := by
  apply ExtTreeMap.ext_getElem?
  intro key
  simp only [ExtTreeMap.getElem?_erase]
  split <;> split <;> rfl

theorem set_insert_insert_comm (set : ExtTreeSet α cmp) (first second : α) :
    (set.insert first).insert second = (set.insert second).insert first := by
  apply ExtTreeSet.ext_mem
  intro key
  simp only [ExtTreeSet.mem_insert, or_left_comm]

end

/-- Two nodes may die in either order. -/
theorem Registry.markDead_comm (registry : Registry) (first second : NodeId) :
    ((registry.markDead first).2.markDead second).2 =
      ((registry.markDead second).2.markDead first).2 := by
  by_cases same : first = second
  · rw [same]
  have still {node : NodeId} (other : NodeId) (dead : registry.isLive node = false) :
      (registry.markDead other).2.isLive node = false := by
    rw [isLive_markDead, dead, Bool.false_and]
  cases one : registry.isLive first with
  | false => rw [markDead_of_not_live one, markDead_of_not_live (still second one)]
  | true =>
      cases other : registry.isLive second with
      | false => rw [markDead_of_not_live other, markDead_of_not_live (still first other)]
      | true =>
          obtain ⟨info, known, alive⟩ := exists_of_live one
          obtain ⟨info', known', alive'⟩ := exists_of_live other
          have after (changed : NodeInfo) :
              (registry.nodes.insert first changed)[second]? = some info' := by
            rw [ExtTreeMap.getElem?_insert, if_neg (by simpa using same), known']
          have after' (changed : NodeInfo) :
              (registry.nodes.insert second changed)[first]? = some info := by
            rw [ExtTreeMap.getElem?_insert, if_neg (by simpa using Ne.symm same), known]
          rw [markDead_of_live known alive, markDead_of_live known' alive',
            markDead_of_live (after _) alive', markDead_of_live (after' _) alive]
          rw [insert_insert_comm _ same, erase_erase_comm, set_insert_insert_comm]

namespace Directory

variable (directory : Directory) (request : ReleaseRequest) (outcome : DeliveryOutcome)

theorem registry_conclude :
    (directory.conclude request outcome).registry =
      if outcome = .acknowledged then directory.registry
      else (directory.registry.markDead request.target).2 := by
  cases outcome <;> rfl

theorem entry_conclude (key : Key) :
    (directory.conclude request outcome).table.entry key =
      if outcome = .nodeFailed then (directory.table.entry key).strip request.target
      else if key = request.key then
        ((directory.table.entry key).completeRelease request.target).2
      else directory.table.entry key := by
  have completed (before : Directory) :
      (before.completeRelease request.target request.key).2.table.entry key =
        if key = request.key then ((before.table.entry key).completeRelease request.target).2
        else before.table.entry key := by
    rw [entry_completeRelease]
    split
    case isTrue same => rw [same]
    case isFalse => rfl
  cases outcome with
  | nodeFailed => exact entry_nodeFailed directory request.target key
  | acknowledged => exact completed directory
  | targetGone => exact completed (directory.markDead request.target).2

/-- Only a failed delivery takes a key from its holder. -/
theorem holder_conclude (key : Key) (node : NodeId) :
    ((directory.conclude request outcome).table.entry key).holder node =
      if outcome = .nodeFailed ∧ node = request.target then none
      else (directory.table.entry key).holder node := by
  rw [entry_conclude]
  split
  case isTrue failed => simp [failed]
  case isFalse other =>
    simp only [other, false_and, if_false]
    split <;> rfl

theorem pendingRelease_conclude (key : Key) (node : NodeId) :
    ((directory.conclude request outcome).table.entry key).pendingRelease node =
      if node = request.target ∧ (outcome = .nodeFailed ∨ key = request.key) then none
      else (directory.table.entry key).pendingRelease node := by
  rw [entry_conclude]
  split
  case isTrue failed => simp [failed]
  case isFalse other =>
    simp only [other, false_or]
    split
    case isTrue same => simp [same]
    case isFalse => simp [*]

end Directory

/-! ### Two deliveries in either order -/

namespace Directory

/-- The same nodes live and the same ports are free, and every key has the same holders and
the same records of releases. -/
structure Matches (first second : Directory) : Prop where
  registry : first.registry = second.registry
  entry : ∀ key, first.table.entry key = second.table.entry key

theorem Matches.refl (directory : Directory) : directory.Matches directory :=
  ⟨rfl, fun _ => rfl⟩

theorem Matches.trans {first second third : Directory} (one : first.Matches second)
    (other : second.Matches third) : first.Matches third :=
  ⟨one.registry.trans other.registry, fun key => (one.entry key).trans (other.entry key)⟩

theorem Matches.conclude {first second : Directory} (same : first.Matches second)
    (request : ReleaseRequest) (outcome : DeliveryOutcome) :
    (first.conclude request outcome).Matches (second.conclude request outcome) := by
  refine ⟨?_, fun key => ?_⟩
  · rw [registry_conclude, registry_conclude, same.registry]
  · rw [entry_conclude, entry_conclude, same.entry]

variable (directory : Directory) (first second : ReleaseRequest)

/-- What deliveries do does not depend on which of them does it first. -/
theorem conclude_comm (one other : DeliveryOutcome) :
    ((directory.conclude first one).conclude second other).Matches
      ((directory.conclude second other).conclude first one) := by
  refine ⟨?_, fun key => Entry.ext_of_lookups (fun node => ?_) (fun node => ?_)⟩
  · simp only [registry_conclude]
    split
    case isTrue => rfl
    case isFalse =>
      split
      case isTrue => rfl
      case isFalse => exact directory.registry.markDead_comm first.target second.target
  · simp only [holder_conclude]
    split <;> split <;> rfl
  · simp only [pendingRelease_conclude]
    split <;> split <;> rfl

/-- Of two requests to the same node either may be the one to be delivered first: once the
node has failed, nothing is left to complete. -/
theorem conclude_exchange (same : first.target = second.target) (one other : DeliveryOutcome) :
    ((directory.conclude first one).conclude second other).Matches
      ((directory.conclude second one).conclude first other) := by
  refine ⟨?_, fun key => Entry.ext_of_lookups (fun node => ?_) (fun node => ?_)⟩
  · simp only [registry_conclude, same]
  · simp only [holder_conclude, same]
  · simp only [pendingRelease_conclude, same]
    grind

end Directory

/-! ### How a node fares when it is asked -/

/-- What the node will do when it is asked: on the next requests and on all later ones. -/
def Endpoint.plan (endpoint : Endpoint) : List Behaviour × Behaviour :=
  (endpoint.script, endpoint.afterwards)

/-- How a node responds does not depend on what it is asked, nor on what it was asked
before. -/
theorem Endpoint.request_congr {first second : Endpoint} (same : first.plan = second.plan)
    (key other : Key) (release kind : Release) :
    (first.request key release).1 = (second.request other kind).1 ∧
      (first.request key release).2.plan = (second.request other kind).2.plan := by
  obtain ⟨script, afterwards, received⟩ := first
  obtain ⟨script', afterwards', received'⟩ := second
  cases same
  cases script <;> exact ⟨rfl, rfl⟩

namespace Endpoints

theorem request_congr {first second : Endpoints} {node : NodeId}
    (same : first[node]?.map Endpoint.plan = second[node]?.map Endpoint.plan)
    (key other : Key) (release kind : Release) :
    (first.request node key release).1 = (second.request node other kind).1 ∧
      (first.request node key release).2[node]?.map Endpoint.plan =
        (second.request node other kind).2[node]?.map Endpoint.plan := by
  cases known : first[node]? with
  | none =>
      cases known' : second[node]? with
      | none => simp [request, known, known']
      | some endpoint' => simp [known, known'] at same
  | some endpoint =>
      cases known' : second[node]? with
      | none => simp [known, known'] at same
      | some endpoint' =>
          have plans : endpoint.plan = endpoint'.plan := by simpa [known, known'] using same
          have responds := Endpoint.request_congr plans key other release kind
          simpa [request, known, known'] using responds

theorem request_of_ne (endpoints : Endpoints) {node other : NodeId} (elsewhere : other ≠ node)
    (key : Key) (release : Release) :
    (endpoints.request node key release).2[other]? = endpoints[other]? := by
  rw [request]
  cases endpoints[node]? with
  | none => rfl
  | some endpoint =>
      exact ExtTreeMap.getElem?_insert.trans (if_neg (by simpa using Ne.symm elsewhere))

end Endpoints

namespace Site

/-- All that decides how a delivery to the node ends: whether it lives, and what it will do
when it is asked. -/
def standing (site : Site) (node : NodeId) : Bool × Option (List Behaviour × Behaviour) :=
  (site.directory.registry.isLive node, site.endpoints[node]?.map Endpoint.plan)

/-- Deliveries to two sites, of requests to one node, that fare alike. -/
theorem attempt_congr (settings : DeliverySettings) {first second : Site}
    {one other : ReleaseRequest} (target : one.target = other.target)
    (same : first.standing one.target = second.standing other.target) :
    (first.attempt settings one).1 = (second.attempt settings other).1 ∧
      (first.attempt settings one).2.standing one.target =
        (second.attempt settings other).2.standing other.target := by
  obtain ⟨live, plans⟩ := Prod.mk.inj same
  rw [target] at live plans
  simp only [attempt, target, live]
  split
  case isFalse => exact ⟨rfl, Prod.ext live plans⟩
  case isTrue =>
    have responds := Endpoints.request_congr plans one.key other.key one.release other.release
    generalize first.endpoints.request other.target one.key one.release = response at responds ⊢
    generalize second.endpoints.request other.target other.key other.release = response'
      at responds ⊢
    obtain ⟨behaviour, endpoints⟩ := response
    obtain ⟨behaviour', endpoints'⟩ := response'
    obtain ⟨rfl, later⟩ := responds
    cases behaviour with
    | acknowledge delay =>
        simp only
        split <;> exact ⟨rfl, Prod.ext live later⟩
    | fail error => exact ⟨rfl, Prod.ext live later⟩
    | die =>
        refine ⟨rfl, Prod.ext ?_ later⟩
        exact (Directory.isLive_markDead_self _ _).trans (Directory.isLive_markDead_self _ _).symm

/-- Nobody but its target is concerned by an attempt. -/
theorem standing_attempt_of_ne (settings : DeliverySettings) (request : ReleaseRequest)
    (site : Site) {node : NodeId} (elsewhere : node ≠ request.target) :
    (site.attempt settings request).2.standing node = site.standing node := by
  rw [attempt]
  split
  case isFalse => rfl
  case isTrue =>
    have unasked := site.endpoints.request_of_ne elsewhere request.key request.release
    generalize site.endpoints.request request.target request.key request.release = response
      at unasked ⊢
    obtain ⟨behaviour, endpoints⟩ := response
    have plan : endpoints[node]?.map Endpoint.plan = site.endpoints[node]?.map Endpoint.plan :=
      congrArg _ unasked
    cases behaviour with
    | acknowledge delay =>
        simp only
        split <;> exact Prod.ext rfl plan
    | fail error => exact Prod.ext rfl plan
    | die =>
        refine Prod.ext ?_ plan
        change (site.directory.registry.markDead request.target).2.isLive node = _
        rw [Registry.isLive_markDead, bne_iff_ne.mpr elsewhere, Bool.and_true]
        rfl

theorem deliverWithin_congr (settings : DeliverySettings) {first second : Site}
    {one other : ReleaseRequest} (target : one.target = other.target)
    (same : first.standing one.target = second.standing other.target) (remaining : Nat) :
    (deliverWithin settings one remaining first).1 =
        (deliverWithin settings other remaining second).1 ∧
      (deliverWithin settings one remaining first).2.standing one.target =
        (deliverWithin settings other remaining second).2.standing other.target := by
  induction remaining generalizing first second with
  | zero =>
      obtain ⟨-, plans⟩ := Prod.mk.inj same
      refine ⟨rfl, Prod.ext ?_ plans⟩
      change (first.directory.nodeFailed one.target).2.registry.isLive one.target =
        (second.directory.nodeFailed other.target).2.registry.isLive other.target
      rw [Directory.isLive_nodeFailed, Directory.isLive_nodeFailed, bne_self_eq_false,
        bne_self_eq_false, Bool.and_false, Bool.and_false]
  | succ remaining ih =>
      obtain ⟨answers, later⟩ := attempt_congr settings target same
      rw [deliverWithin_succ, deliverWithin_succ]
      generalize first.attempt settings one = answer at answers later ⊢
      generalize second.attempt settings other = answer' at answers later ⊢
      obtain ⟨attempt, first⟩ := answer
      obtain ⟨attempt', second⟩ := answer'
      obtain rfl : attempt = attempt' := answers
      cases attempt with
      | gone | acknowledged elapsed => exact ⟨rfl, later⟩
      | failed elapsed => exact ih later

theorem standing_deliverWithin_of_ne (settings : DeliverySettings) (request : ReleaseRequest)
    (site : Site) {node : NodeId} (elsewhere : node ≠ request.target) (remaining : Nat) :
    (deliverWithin settings request remaining site).2.standing node = site.standing node := by
  induction remaining generalizing site with
  | zero =>
      refine Prod.ext ?_ rfl
      change (site.directory.nodeFailed request.target).2.registry.isLive node = _
      rw [Directory.isLive_nodeFailed, bne_iff_ne.mpr elsewhere, Bool.and_true]
      rfl
  | succ remaining ih =>
      have unconcerned := site.standing_attempt_of_ne settings request elsewhere
      rw [deliverWithin_succ]
      generalize site.attempt settings request = answer at unconcerned ⊢
      obtain ⟨attempt, later⟩ := answer
      cases attempt with
      | gone | acknowledged elapsed => exact unconcerned
      | failed elapsed => exact (ih later).trans unconcerned

/-! ### Deliveries in any order -/

/-- Directories that match, and nodes that will fare alike. -/
structure Matches (first second : Site) : Prop where
  directory : first.directory.Matches second.directory
  standing : ∀ node, first.standing node = second.standing node

theorem Matches.refl (site : Site) : site.Matches site :=
  ⟨.refl _, fun _ => rfl⟩

theorem Matches.trans {first second third : Site} (one : first.Matches second)
    (other : second.Matches third) : first.Matches third :=
  ⟨one.directory.trans other.directory, fun node => (one.standing node).trans (other.standing node)⟩

theorem deliver_congr (settings : DeliverySettings) {first second : Site}
    {one other : ReleaseRequest} (target : one.target = other.target)
    (same : first.standing one.target = second.standing other.target) :
    (first.deliver settings one).1 = (second.deliver settings other).1 ∧
      (first.deliver settings one).2.standing one.target =
        (second.deliver settings other).2.standing other.target :=
  deliverWithin_congr settings target same settings.attempts

theorem standing_deliver_of_ne (settings : DeliverySettings) (request : ReleaseRequest)
    (site : Site) {node : NodeId} (elsewhere : node ≠ request.target) :
    (site.deliver settings request).2.standing node = site.standing node :=
  standing_deliverWithin_of_ne settings request site elsewhere settings.attempts

theorem Matches.deliver {first second : Site} (same : first.Matches second)
    (settings : DeliverySettings) (request : ReleaseRequest) :
    (first.deliver settings request).2.Matches (second.deliver settings request).2 := by
  obtain ⟨outcome, standing⟩ := deliver_congr settings rfl (same.standing request.target)
  constructor
  · rw [deliver_conclude, deliver_conclude, outcome]
    exact same.directory.conclude request _
  · intro node
    by_cases concerned : node = request.target
    · rw [concerned]
      exact standing
    · rw [standing_deliver_of_ne settings request _ concerned,
        standing_deliver_of_ne settings request _ concerned]
      exact same.standing node

variable (settings : DeliverySettings) (site : Site) {first second : ReleaseRequest}

/-- Deliveries to different nodes do not concern each other. -/
theorem deliver_comm (different : first.target ≠ second.target) :
    ((site.deliver settings first).2.deliver settings second).2.Matches
      ((site.deliver settings second).2.deliver settings first).2 := by
  obtain ⟨outcome, standing⟩ := deliver_congr settings (rfl : second.target = second.target)
    (site.standing_deliver_of_ne settings first different.symm)
  obtain ⟨outcome', standing'⟩ := deliver_congr settings (rfl : first.target = first.target)
    (site.standing_deliver_of_ne settings second different)
  constructor
  · simp only [deliver_conclude, outcome, outcome']
    exact site.directory.conclude_comm first second _ _
  · intro node
    by_cases one : node = first.target
    · subst one
      rw [standing_deliver_of_ne settings second _ different, standing']
    · rw [standing_deliver_of_ne settings first _ one]
      by_cases other : node = second.target
      · rw [other, standing]
      · rw [standing_deliver_of_ne settings second _ other,
          standing_deliver_of_ne settings first _ one,
          standing_deliver_of_ne settings second _ other]

/-- Of two deliveries to one node the first ends the same way whichever it is, and so does
the second. -/
theorem deliver_exchange (same : first.target = second.target) :
    ((site.deliver settings first).2.deliver settings second).2.Matches
      ((site.deliver settings second).2.deliver settings first).2 := by
  obtain ⟨outcome, standing⟩ := deliver_congr settings same
    (congrArg site.standing same)
  obtain ⟨outcome', standing'⟩ := deliver_congr settings same.symm
    ((congrArg _ same.symm).trans (standing.trans (congrArg _ same.symm)))
  constructor
  · simp only [deliver_conclude, outcome, outcome']
    exact site.directory.conclude_exchange first second same _ _
  · intro node
    by_cases concerned : node = first.target
    · rw [concerned, ← standing', same]
    · have concerned' : node ≠ second.target := same ▸ concerned
      simp only [standing_deliver_of_ne settings _ _ concerned,
        standing_deliver_of_ne settings _ _ concerned']

theorem deliver_swap (first second : ReleaseRequest) :
    ((site.deliver settings first).2.deliver settings second).2.Matches
      ((site.deliver settings second).2.deliver settings first).2 := by
  by_cases same : first.target = second.target
  · exact site.deliver_exchange settings same
  · exact site.deliver_comm settings same

/-- Deliver requests one after the other. -/
def deliverAll (settings : DeliverySettings) : List ReleaseRequest → Site → Site
  | [], site => site
  | request :: rest, site => deliverAll settings rest (site.deliver settings request).2

theorem Matches.deliverAll {first second : Site} (same : first.Matches second)
    (settings : DeliverySettings) (requests : List ReleaseRequest) :
    (first.deliverAll settings requests).Matches (second.deliverAll settings requests) := by
  induction requests generalizing first second with
  | nil => exact same
  | cons request rest ih => exact ih (same.deliver settings request)

theorem matches_deliverAll {first second : List ReleaseRequest} (same : first.Perm second) :
    (site.deliverAll settings first).Matches (site.deliverAll settings second) := by
  induction same generalizing site with
  | nil => exact .refl site
  | cons request _ ih => exact ih (site.deliver settings request).2
  | swap one other rest => exact (site.deliver_swap settings other one).deliverAll settings rest
  | trans _ _ ih ih' => exact (ih site).trans (ih' site)

/-- In whichever order requests are delivered, and whether the nodes acknowledge, refuse, keep
silent or die, the same nodes live in the end and the same ports are free, and every key has
the same holders and the same records of releases. -/
theorem deliverAll_perm {first second : List ReleaseRequest} (same : first.Perm second) :
    let one := (site.deliverAll settings first).directory
    let other := (site.deliverAll settings second).directory
    one.registry = other.registry ∧
      ∀ key, one.table.entry key = other.table.entry key :=
  have delivered := site.matches_deliverAll settings same
  ⟨delivered.directory.registry, delivered.directory.entry⟩

/-- Three requests are under way, two of them to a node that refuses whatever it is asked.
The other node acknowledges. -/
def refusing : Site where
  directory := (Cluster.oneObject.run Cluster.displacedTwice).2.directory
  endpoints := ((∅ : Endpoints).insert 1 { afterwards := .fail (.refused "busy") }).insert 2 {}

theorem deliverAll_perm_refusing :
    let requests := refusing.directory.pending
    requests.length = 3 ∧ requests.reverse.Perm requests ∧
      let one := (refusing.deliverAll {} requests.reverse).directory
      let other := (refusing.deliverAll {} requests).directory
      one.registry = other.registry ∧
        ∀ key, one.table.entry key = other.table.entry key :=
  have reversed := List.reverse_perm refusing.directory.pending
  ⟨by decide +kernel, reversed, refusing.deliverAll_perm {} reversed⟩

end Site

end CacheDirectory
