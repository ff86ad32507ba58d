/-
Module: CacheDirectory.Proofs.Schedule
Purpose: The service's own schedule of deliveries, which begins as many as may be
  under way and continues the one that is due first, is one of the runs. So what
  holds of every run holds of a service that delivers in the background.
Trusted boundary: none
Main exports: Cluster.withTraffic, Cluster.run_of_traffic, Cluster.run_of_settle
-/
import CacheDirectory.Proofs.Runs

namespace CacheDirectory

namespace Cluster

variable {σ : Type}

/-- A cluster whose deliveries are those of the schedule. -/
def withTraffic (cluster : Cluster σ) (traffic : Traffic) : Cluster σ :=
  { cluster.withSite traffic.site with flights := traffic.flights }

variable [Backing σ]

theorem run_append (cluster : Cluster σ) (first second : List (Step σ)) :
    (cluster.run (first ++ second)).2 = ((cluster.run first).2.run second).2 := by
  induction first generalizing cluster with
  | nil => rfl
  | cons step rest ih => exact ih (cluster.step step).2

/-- The oldest pending requests depart one after the other. -/
theorem run_departs (cluster : Cluster σ) (count : Nat) (traffic : Traffic) :
    ((cluster.withTraffic traffic).run (List.replicate count (.depart 0 traffic.now))).2 =
      cluster.withTraffic { traffic with
        site := { traffic.site with
          directory := { traffic.site.directory with
            pending := traffic.site.directory.pending.drop count } }
        flights := traffic.flights ++ (traffic.site.directory.pending.take count).map
          fun request => { request, due := traffic.now } } := by
  induction count generalizing traffic with
  | zero => simp [run]
  | succ count ih =>
      obtain ⟨⟨⟨registry, table, pending, sink⟩, endpoints⟩, flights, now⟩ := traffic
      cases pending with
      | nil =>
          have stayed := ih ⟨⟨⟨registry, table, [], sink⟩, endpoints⟩, flights, now⟩
          rw [List.drop_nil, List.take_nil] at stayed
          exact stayed
      | cons request rest =>
          have departed := ih ⟨⟨⟨registry, table, rest, sink⟩, endpoints⟩,
            flights ++ [{ request, due := now }], now⟩
          rw [List.append_assoc] at departed
          exact departed

/-- What one step of the schedule does is a run: as many departures as there is room
for, and then the continuation of the delivery that is due first. -/
theorem run_of_traffic_step (cluster : Cluster σ) {traffic later : Traffic} {draw : UInt64}
    (stepped : traffic.step cluster.service.settings draw = some later) :
    ∃ steps : List (Step σ), ((cluster.withTraffic traffic).run steps).2 =
      cluster.withTraffic later := by
  obtain ⟨departures, filled⟩ : ∃ departures : List (Step σ),
      ((cluster.withTraffic traffic).run departures).2 =
        cluster.withTraffic (traffic.fill cluster.service.settings) :=
    ⟨_, cluster.run_departs _ traffic⟩
  rw [Traffic.step] at stepped
  generalize traffic.fill cluster.service.settings = full at filled stepped
  split at stepped
  case h_1 => cases stepped
  case h_2 index _ =>
    split at stepped
    case h_1 => cases stepped
    case h_2 flight flying =>
      refine ⟨departures ++ [.proceed index draw], ?_⟩
      rw [run_append, filled]
      rcases ran : Traffic.proceed cluster.service.settings flight full.site draw with
        ⟨continued, site⟩
      rw [ran] at stepped
      cases stepped
      have aloft : (cluster.withTraffic full).flights[index]? = some flight := flying
      have proceeded : Traffic.proceed (cluster.withTraffic full).service.settings flight
          (cluster.withTraffic full).site draw = (continued, site) := ran
      change ((cluster.withTraffic full).step (.proceed index draw)).2 = _
      simp only [step, aloft, proceeded]
      rfl

/-- The schedule, for any number of steps and whatever chance draws, is a run. -/
theorem run_of_traffic (cluster : Cluster σ) (draws : Nat → UInt64) (count : Nat)
    (traffic : Traffic) :
    ∃ steps : List (Step σ), ((cluster.withTraffic traffic).run steps).2 =
      cluster.withTraffic (Traffic.run cluster.service.settings draws count traffic) := by
  induction count generalizing traffic with
  | zero => exact ⟨[], rfl⟩
  | succ count ih =>
      rw [Traffic.run]
      split
      case h_1 => exact ⟨[], rfl⟩
      case h_2 later stepped =>
        obtain ⟨first, reached⟩ := cluster.run_of_traffic_step stepped
        obtain ⟨rest, finished⟩ := ih later
        refine ⟨first ++ rest, ?_⟩
        rw [run_append, reached, finished]

/-- Delivering everything that is pending in the background is a run. -/
theorem run_of_settle (cluster : Cluster σ) (draws : Nat → UInt64)
    (landed : cluster.flights = []) :
    ∃ (steps : List (Step σ)) (flights : List Flight), (cluster.run steps).2 =
      { service := (cluster.service.settle cluster.endpoints draws).1
        endpoints := (cluster.service.settle cluster.endpoints draws).2
        flights } := by
  have same : cluster.withTraffic { site := cluster.site } = cluster := by
    obtain ⟨service, endpoints, flights⟩ := cluster
    cases landed
    rfl
  obtain ⟨steps, reached⟩ := cluster.run_of_traffic draws
    (cluster.directory.pending.length * (2 * cluster.service.settings.attempts))
    { site := cluster.site }
  rw [same] at reached
  exact ⟨steps, _, reached⟩

end Cluster

end CacheDirectory
