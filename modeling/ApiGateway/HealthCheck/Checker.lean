import Mathlib.Data.List.Infix
import ApiGateway.Go

/-!
The health `Checker` of `internal/healthcheck/checker.go`. The outcome of a
target's HTTP probe is taken as given: the request could not be built or
sent, or the target answered with a status code. A round is `checkAll`: one
probe per listed target, each goroutine recording its outcome under the
checker's lock, the records landing in any order, then
`updateHealthyTargets`. The status map is partial, and reading the status of
a target it lacks dereferences nil; the model answers that with `none`.

The times a status keeps (`LastCheck`, `LastSuccess`, `LastFailure`) and the
ticker loop of `Start` and `Stop` are left out: nothing modelled reads them.
-/

namespace ApiGateway.HealthCheck

structure Config where
  targets : List String
  endpoint : String
  interval : Int
  timeout : Int
  maxFailures : Int

structure Status where
  target : String
  isHealthy : Bool
  failureCount : Int
  deriving DecidableEq, Repr

inductive HealthStatus where
  | healthy
  | degraded
  | unhealthy
  deriving DecidableEq, Repr

/-- `String` of `status.go`; its `"unknown"` is for values no checker returns. -/
def HealthStatus.toString : HealthStatus → String
  | .healthy => "healthy"
  | .degraded => "degraded"
  | .unhealthy => "unhealthy"

structure Checker where
  targets : List String
  healthStatus : String → Option Status
  healthyTargets : List String
  endpoint : String
  interval : Int
  timeout : Int
  maxFailures : Int

/-- What a probe of `target + endpoint` came back with. -/
inductive Probe where
  | failed
  | responded (statusCode : Int)
  deriving DecidableEq, Repr

/-- 2xx and 3xx responses count as healthy. -/
def Probe.healthy : Probe → Bool
  | .failed => false
  | .responded statusCode => decide (200 ≤ statusCode ∧ statusCode < 400)

/-- `NewChecker`: the defaults for missing settings, and every target
assumed healthy. -/
def newChecker (cfg : Config) : Checker where
  targets := cfg.targets
  healthStatus := cfg.targets.foldl
    (fun statuses target => Function.update statuses target (some ⟨target, true, 0⟩)) fun _ => none
  healthyTargets := []
  endpoint := if cfg.endpoint = "" then "/health" else cfg.endpoint
  interval := if cfg.interval ≤ 0 then 10 * Go.second else cfg.interval
  timeout := if cfg.timeout ≤ 0 then 5 * Go.second else cfg.timeout
  maxFailures := if cfg.maxFailures ≤ 0 then 3 else cfg.maxFailures

namespace Checker

def setStatus (c : Checker) (target : String) (status : Status) : Checker :=
  { c with healthStatus := Function.update c.healthStatus target (some status) }

def recordSuccess (c : Checker) (target : String) : Option Checker :=
  (c.healthStatus target).map fun status =>
    c.setStatus target { status with failureCount := 0, isHealthy := true }

def recordFailure (c : Checker) (target : String) : Option Checker :=
  (c.healthStatus target).map fun status =>
    let failureCount := status.failureCount + 1
    c.setStatus target { status with
      failureCount := failureCount
      isHealthy := if status.isHealthy && decide (c.maxFailures ≤ failureCount) then false
        else status.isHealthy }

def checkTarget (c : Checker) (target : String) : Probe → Option Checker
  | .failed => c.recordFailure target
  | .responded statusCode =>
      if 200 ≤ statusCode ∧ statusCode < 400 then c.recordSuccess target
      else c.recordFailure target

/-- One pass of the loop of `updateHealthyTargets`. -/
def collectStep (healthStatus : String → Option Status) (healthy : List String)
    (target : String) : Option (List String) := do
  let status ← healthStatus target
  pure (if status.isHealthy then healthy ++ [target] else healthy)

/-- The loop of `updateHealthyTargets`: the listed targets whose status is
healthy, in list order. -/
def collectHealthy (healthStatus : String → Option Status) (targets : List String) :
    Option (List String) :=
  targets.foldlM (collectStep healthStatus) []

def updateHealthyTargets (c : Checker) : Option Checker := do
  let healthy ← collectHealthy c.healthStatus c.targets
  pure { c with healthyTargets := healthy }

def getHealthyTargets (c : Checker) : List String := c.healthyTargets

def getAllTargets (c : Checker) : List String := c.targets

def getStatus (c : Checker) (target : String) : Option Status := c.healthStatus target

def overallHealth (c : Checker) : HealthStatus :=
  let totalTargets := c.targets.length
  let healthyCount := c.healthyTargets.length
  if healthyCount = 0 then .unhealthy
  else if healthyCount < totalTargets then .degraded
  else .healthy

end Checker

/-- What the checker does between two of its own reads: one goroutine's
record of a probe, or the update that ends a round. -/
inductive Event where
  | check (target : String) (probe : Probe)
  | update
  deriving DecidableEq, Repr

namespace Checker

def step (c : Checker) : Event → Option Checker
  | .check target probe => c.checkTarget target probe
  | .update => c.updateHealthyTargets

def run (c : Checker) (events : List Event) : Option Checker :=
  events.foldlM step c

end Checker

/-- `checkAll`, its records landing in the order of `probes`. -/
def checkAllEvents (probes : List (String × Probe)) : List Event :=
  probes.map (fun probe => .check probe.1 probe.2) ++ [.update]

/-- The outcomes recorded along a run, target by target, healthy or not. -/
def records (events : List Event) : List (String × Bool) :=
  events.filterMap fun
    | .check target probe => some (target, probe.healthy)
    | .update => none

/-- The failed checks of `target` recorded since its last successful one, or
since the start. -/
def failuresSince (target : String) (log : List (String × Bool)) : Nat :=
  log.foldl (fun n r => if r.1 = target then (if r.2 then 0 else n + 1) else n) 0

theorem failuresSince_concat (target : String) (log : List (String × Bool)) (r : String × Bool) :
    failuresSince target (log ++ [r]) =
      if r.1 = target then (if r.2 then 0 else failuresSince target log + 1)
      else failuresSince target log := by
  simp [failuresSince, List.foldl_append]

theorem records_append (events events' : List Event) :
    records (events ++ events') = records events ++ records events' := by
  simp [records, List.filterMap_append]

namespace Checker

/-- Each listed target has its status, which counts as `FailureCount` the
failures recorded since its last success and is healthy exactly while that
count is below `maxFailures`. -/
def Tracks (c : Checker) (log : List (String × Bool)) : Prop :=
  ∀ target ∈ c.targets, ∃ status, c.healthStatus target = some status ∧
    status.target = target ∧ status.failureCount = failuresSince target log ∧
    (status.isHealthy = true ↔ status.failureCount < c.maxFailures)

section Steps

variable {c : Checker} {log : List (String × Bool)} {target : String}

/-- Recording an outcome for one target keeps the others' statuses in step
with the log. -/
theorem Tracks.setStatus (h : Tracks c log) (healthy : Bool) {status : Status}
    (htarget : status.target = target)
    (hcount : status.failureCount = failuresSince target (log ++ [(target, healthy)]))
    (hhealthy : status.isHealthy = true ↔ status.failureCount < c.maxFailures) :
    Tracks (c.setStatus target status) (log ++ [(target, healthy)]) := by
  intro other hother
  by_cases hsame : other = target
  · subst hsame
    exact ⟨status, by simp [Checker.setStatus], htarget, hcount, hhealthy⟩
  · obtain ⟨old, hold, holdTarget, holdCount, holdHealthy⟩ := h other hother
    have hne : target ≠ other := Ne.symm hsame
    refine ⟨old, by simp [Checker.setStatus, hsame, hold], holdTarget, ?_, holdHealthy⟩
    rw [holdCount, failuresSince_concat]
    simp [hne]

theorem recordSuccess_tracks (h : Tracks c log) (hpos : 0 < c.maxFailures)
    (hmem : target ∈ c.targets) :
    ∃ c', c.recordSuccess target = some c' ∧ Tracks c' (log ++ [(target, true)]) ∧
      c'.targets = c.targets ∧ c'.maxFailures = c.maxFailures := by
  obtain ⟨status, hstatus, htarget, -, -⟩ := h target hmem
  refine ⟨c.setStatus target { status with failureCount := 0, isHealthy := true },
    by simp [recordSuccess, hstatus], ?_, rfl, rfl⟩
  refine h.setStatus true ?_ ?_ ?_
  · exact htarget
  · simp [failuresSince_concat]
  · simpa using hpos

theorem recordFailure_tracks (h : Tracks c log) (hmem : target ∈ c.targets) :
    ∃ c', c.recordFailure target = some c' ∧ Tracks c' (log ++ [(target, false)]) ∧
      c'.targets = c.targets ∧ c'.maxFailures = c.maxFailures := by
  obtain ⟨status, hstatus, htarget, hcount, hhealthy⟩ := h target hmem
  refine ⟨c.setStatus target { status with
      failureCount := status.failureCount + 1
      isHealthy :=
        if status.isHealthy && decide (c.maxFailures ≤ status.failureCount + 1) then false
        else status.isHealthy },
    by simp [recordFailure, hstatus], ?_, rfl, rfl⟩
  refine h.setStatus false ?_ ?_ ?_
  · exact htarget
  · simp [failuresSince_concat, hcount]
  · cases hwas : status.isHealthy
    · have hover : c.maxFailures ≤ status.failureCount := by
        by_contra hlt
        exact absurd (hhealthy.mpr (lt_of_not_ge hlt)) (by simp [hwas])
      simp only [Bool.false_and, Bool.false_eq_true, ite_false, false_iff]
      omega
    · have hunder := hhealthy.mp hwas
      by_cases hreached : c.maxFailures ≤ status.failureCount + 1
      · simp [hreached]
      · simp only [hreached, decide_false, Bool.and_false, Bool.false_eq_true, ite_false,
          true_iff]
        omega

theorem checkTarget_tracks (h : Tracks c log) (hpos : 0 < c.maxFailures)
    (hmem : target ∈ c.targets) (probe : Probe) :
    ∃ c', c.checkTarget target probe = some c' ∧ Tracks c' (log ++ [(target, probe.healthy)]) ∧
      c'.targets = c.targets ∧ c'.maxFailures = c.maxFailures := by
  cases probe with
  | failed => exact recordFailure_tracks h hmem
  | responded statusCode =>
      by_cases hok : 200 ≤ statusCode ∧ statusCode < 400
      · simpa [checkTarget, Probe.healthy, hok] using recordSuccess_tracks h hpos hmem
      · simpa [checkTarget, Probe.healthy, hok] using recordFailure_tracks h hmem

end Steps

/-- The loop of `updateHealthyTargets` filters the listed targets by their
statuses when every one of them has a status. -/
theorem foldlM_collectStep (healthStatus : String → Option Status) (healthy : String → Bool)
    (targets acc : List String)
    (h : ∀ target ∈ targets, ∃ status, healthStatus target = some status ∧
      status.isHealthy = healthy target) :
    targets.foldlM (collectStep healthStatus) acc = some (acc ++ targets.filter healthy) := by
  induction targets generalizing acc with
  | nil => simp
  | cons target rest ih =>
      obtain ⟨status, hstatus, hhealthy⟩ := h target (by simp)
      have hstep : collectStep healthStatus acc target =
          some (if healthy target then acc ++ [target] else acc) := by
        simp [collectStep, hstatus, hhealthy]
      rw [List.foldlM_cons, hstep, Option.bind_eq_bind, Option.bind_some,
        ih _ (fun t ht => h t (by simp [ht]))]
      cases hhealthy' : healthy target <;> simp [hhealthy']

/-- Whatever the loop of `updateHealthyTargets` returns is the listed
targets filtered by their statuses' health. -/
theorem foldlM_collectStep_of_some {healthStatus : String → Option Status}
    {targets acc healthy : List String}
    (h : targets.foldlM (collectStep healthStatus) acc = some healthy) :
    healthy = acc ++ targets.filter fun target => (healthStatus target).any (·.isHealthy) := by
  induction targets generalizing acc with
  | nil =>
      simp only [List.foldlM_nil, Option.pure_def, Option.some.injEq] at h
      simp [h]
  | cons target rest ih =>
      rw [List.foldlM_cons] at h
      cases hstatus : healthStatus target with
      | none => simp [collectStep, hstatus] at h
      | some status =>
          have hstep : collectStep healthStatus acc target =
              some (if status.isHealthy then acc ++ [target] else acc) := by
            simp [collectStep, hstatus]
          rw [hstep, Option.bind_eq_bind, Option.bind_some] at h
          rw [ih h]
          cases hhealthy : status.isHealthy <;> simp [hstatus, hhealthy]

theorem updateHealthyTargets_healthyTargets {c c' : Checker}
    (h : c.updateHealthyTargets = some c') :
    c'.healthyTargets =
      c'.targets.filter fun target => (c'.getStatus target).any (·.isHealthy) := by
  simp only [updateHealthyTargets, collectHealthy, Option.bind_eq_bind, Option.pure_def] at h
  cases hcollect : List.foldlM (collectStep c.healthStatus) [] c.targets with
  | none => simp [hcollect] at h
  | some healthy =>
      simp only [hcollect, Option.bind_some, Option.some.injEq] at h
      subst h
      simpa [getStatus] using foldlM_collectStep_of_some hcollect

theorem run_concat (c : Checker) (events : List Event) (e : Event) :
    c.run (events ++ [e]) = (c.run events).bind fun c => c.step e := by
  simp [run, List.foldlM_append]

theorem updateHealthyTargets_tracks {c : Checker} {log : List (String × Bool)}
    (h : Tracks c log) :
    ∃ c', c.updateHealthyTargets = some c' ∧ Tracks c' log ∧ c'.targets = c.targets ∧
      c'.maxFailures = c.maxFailures ∧ c'.healthStatus = c.healthStatus ∧
      c'.healthyTargets =
        c.targets.filter fun target => (c.healthStatus target).any (·.isHealthy) := by
  have hcollect := foldlM_collectStep c.healthStatus
    (fun target => (c.healthStatus target).any (·.isHealthy)) c.targets [] (fun target hmem => by
      obtain ⟨status, hstatus, -⟩ := h target hmem
      exact ⟨status, hstatus, by simp [hstatus]⟩)
  refine ⟨{ c with healthyTargets := c.targets.filter fun target =>
      (c.healthStatus target).any (·.isHealthy) },
    by simp [updateHealthyTargets, collectHealthy, hcollect], h, rfl, rfl, rfl, rfl⟩

theorem step_tracks {c : Checker} {log : List (String × Bool)} (h : Tracks c log)
    (hpos : 0 < c.maxFailures) (e : Event) (hlisted : ∀ target probe, e = .check target probe →
      target ∈ c.targets) :
    ∃ c', c.step e = some c' ∧ Tracks c' (log ++ records [e]) ∧ c'.targets = c.targets ∧
      c'.maxFailures = c.maxFailures := by
  cases e with
  | check target probe =>
      simpa [step, records] using checkTarget_tracks h hpos (hlisted target probe rfl) probe
  | update =>
      obtain ⟨c', hc', htracks, htargets, hmax, -⟩ := updateHealthyTargets_tracks h
      exact ⟨c', hc', by simpa [records] using htracks, htargets, hmax⟩

/-- A record changes a status and nothing else of the checker. -/
theorem checkTarget_eq_setStatus {c c' : Checker} {target : String} {probe : Probe}
    (h : c.checkTarget target probe = some c') : ∃ status, c' = c.setStatus target status := by
  have hrecord : ∀ {f : Status → Status},
      (c.healthStatus target).map (fun status => c.setStatus target (f status)) = some c' →
        ∃ status, c' = c.setStatus target status := by
    intro f hmap
    obtain ⟨status, -, rfl⟩ := Option.map_eq_some_iff.mp hmap
    exact ⟨f status, rfl⟩
  cases probe with
  | failed => exact hrecord h
  | responded statusCode =>
      simp only [checkTarget] at h
      split_ifs at h
      · exact hrecord h
      · exact hrecord h

/-- Records leave the healthy list as it is and an update lists the targets
that pass a test, so the healthy list stays a sublist of the targets. -/
theorem step_healthyTargets_sublist {c c' : Checker} (h : c.healthyTargets.Sublist c.targets)
    {e : Event} (hstep : c.step e = some c') : c'.healthyTargets.Sublist c'.targets := by
  cases e with
  | check target probe =>
      obtain ⟨status, rfl⟩ := checkTarget_eq_setStatus hstep
      exact h
  | update =>
      rw [updateHealthyTargets_healthyTargets hstep]
      exact List.filter_sublist

/-- Over every run whose records are all of listed targets, the checker
never dereferences a missing status and stays in step with the log. -/
theorem run_tracks {c : Checker} {log : List (String × Bool)} (h : Tracks c log)
    (hpos : 0 < c.maxFailures) (events : List Event)
    (hlisted : ∀ target probe, Event.check target probe ∈ events → target ∈ c.targets) :
    ∃ c', c.run events = some c' ∧ Tracks c' (log ++ records events) ∧ c'.targets = c.targets ∧
      c'.maxFailures = c.maxFailures := by
  induction events generalizing c log with
  | nil => exact ⟨c, rfl, by simpa [records] using h, rfl, rfl⟩
  | cons e rest ih =>
      obtain ⟨c₁, hc₁, htracks₁, htargets₁, hmax₁⟩ :=
        step_tracks h hpos e (fun target probe he => hlisted target probe (by simp [he]))
      obtain ⟨c₂, hc₂, htracks₂, htargets₂, hmax₂⟩ := ih htracks₁ (by rw [hmax₁]; exact hpos)
        (fun target probe hmem => by
          rw [htargets₁]
          exact hlisted target probe (by simp [hmem]))
      refine ⟨c₂, ?_, ?_, htargets₂.trans htargets₁, hmax₂.trans hmax₁⟩
      · simp only [run, List.foldlM_cons, hc₁, Option.bind_eq_bind, Option.bind_some]
        exact hc₂
      · rw [show e :: rest = [e] ++ rest from rfl, records_append, ← List.append_assoc]
        exact htracks₂

end Checker

theorem foldl_update_of_not_mem (g : String → Status) (targets : List String)
    (statuses : String → Option Status) {target : String} (hmem : target ∉ targets) :
    targets.foldl (fun statuses t => Function.update statuses t (some (g t))) statuses target =
      statuses target := by
  induction targets generalizing statuses with
  | nil => rfl
  | cons t rest ih =>
      simp only [List.mem_cons, not_or] at hmem
      rw [List.foldl_cons, ih _ hmem.2, Function.update_of_ne hmem.1]

theorem foldl_update_of_mem (g : String → Status) (targets : List String)
    (statuses : String → Option Status) {target : String} (hmem : target ∈ targets) :
    targets.foldl (fun statuses t => Function.update statuses t (some (g t))) statuses target =
      some (g target) := by
  induction targets generalizing statuses with
  | nil => simp at hmem
  | cons t rest ih =>
      rw [List.foldl_cons]
      by_cases hrest : target ∈ rest
      · exact ih _ hrest
      · have hsame : target = t := by simpa [hrest] using hmem
        rw [foldl_update_of_not_mem g rest _ hrest, hsame, Function.update_self]

/-- Every setting `NewChecker` defaults passes the check that triggers its default. -/
theorem newChecker_defaults (cfg : Config) :
    (newChecker cfg).endpoint ≠ "" ∧ 0 < (newChecker cfg).interval ∧
      0 < (newChecker cfg).timeout ∧ 0 < (newChecker cfg).maxFailures := by
  refine ⟨?_, ?_, ?_, ?_⟩
  · simp only [newChecker]
    split
    · decide
    · assumption
  · simp only [newChecker]
    split
    · decide
    · omega
  · simp only [newChecker]
    split
    · decide
    · omega
  · simp only [newChecker]
    split <;> omega

theorem newChecker_tracks (cfg : Config) : (newChecker cfg).Tracks [] := by
  intro target hmem
  refine ⟨⟨target, true, 0⟩, foldl_update_of_mem (fun t => ⟨t, true, 0⟩) cfg.targets _ hmem,
    rfl, rfl, ?_⟩
  simpa using (newChecker_defaults cfg).2.2.2

/-- `OverallHealth` over a healthy list that is the listed targets filtered
by a predicate: healthy when all pass, unhealthy when none does. -/
theorem overallHealth_of_filter (c : Checker) (healthy : String → Bool) (hne : c.targets ≠ [])
    (hhealthy : c.healthyTargets = c.targets.filter healthy) :
    (c.overallHealth = .healthy ↔ ∀ target ∈ c.targets, healthy target = true) ∧
      (c.overallHealth = .unhealthy ↔ ∀ target ∈ c.targets, healthy target = false) ∧
      (c.overallHealth = .degraded ↔
        (∃ target ∈ c.targets, healthy target = true) ∧
          ∃ target ∈ c.targets, healthy target = false) := by
  have hnone : c.healthyTargets.length = 0 ↔ ∀ target ∈ c.targets, healthy target = false := by
    rw [hhealthy, List.length_eq_zero_iff, List.filter_eq_nil_iff]
    simp
  have hsome : c.healthyTargets.length < c.targets.length ↔
      ∃ target ∈ c.targets, healthy target = false := by
    rw [hhealthy, List.length_filter_lt_length_iff_exists]
    simp
  have hpos : 0 < c.targets.length := List.length_pos_iff.mpr hne
  unfold Checker.overallHealth
  by_cases h0 : c.healthyTargets.length = 0
  · have hall := hnone.mp h0
    obtain ⟨target, hmem⟩ := List.exists_mem_of_ne_nil _ hne
    simp only [h0, ite_true, reduceCtorEq, false_iff, true_iff, not_forall, not_and]
    refine ⟨⟨target, hmem, by simp [hall target hmem]⟩, hall, ?_⟩
    rintro ⟨target', hmem', hhealthy'⟩ -
    simp [hall target' hmem'] at hhealthy'
  · by_cases hlt : c.healthyTargets.length < c.targets.length
    · obtain ⟨target, hmem, hbad⟩ := hsome.mp hlt
      have hany : ∃ target ∈ c.targets, healthy target = true := by
        by_contra hno
        apply h0
        apply hnone.mpr
        intro t ht
        cases hbad : healthy t
        · rfl
        · exact absurd ⟨t, ht, hbad⟩ hno
      simp only [h0, hlt, ite_false, ite_true, reduceCtorEq, false_iff, true_iff]
      refine ⟨fun hall => by simp [hall target hmem] at hbad, fun hall => h0 (hnone.mpr hall),
        hany, target, hmem, hbad⟩
    · have hall : ∀ target ∈ c.targets, healthy target = true := by
        intro target hmem
        by_contra hbad
        exact hlt (hsome.mpr ⟨target, hmem, by simpa using hbad⟩)
      simp only [h0, hlt, ite_false, reduceCtorEq, true_iff, false_iff]
      refine ⟨hall, fun hnot => h0 (hnone.mpr hnot), ?_⟩
      rintro ⟨-, target, hmem, hbad⟩
      simp [hall target hmem] at hbad

/-- A run of rounds records only listed targets, in every prefix. -/
theorem listed_of_rounds {targets : List String} {rounds : List (List (String × Probe))}
    (hrounds : ∀ probes ∈ rounds, (probes.map Prod.fst).Perm targets) {events : List Event}
    (hreach : events <+: rounds.flatMap checkAllEvents) :
    ∀ target probe, Event.check target probe ∈ events → target ∈ targets := by
  intro target probe hmem
  obtain ⟨probes, hprobes, hin⟩ := List.mem_flatMap.mp (hreach.subset hmem)
  have hpair : (target, probe) ∈ probes := by
    simpa [checkAllEvents] using hin
  exact (hrounds probes hprobes).subset (List.mem_map_of_mem hpair)

/-- The events of rounds that are not none end with the update. -/
theorem flatMap_checkAllEvents_concat {rounds : List (List (String × Probe))} (hne : rounds ≠ []) :
    ∃ events, rounds.flatMap checkAllEvents = events ++ [.update] := by
  obtain ⟨first, last, rfl⟩ := List.eq_nil_or_concat rounds |>.resolve_left hne
  exact ⟨first.flatMap checkAllEvents ++ last.map (fun probe => .check probe.1 probe.2),
    by simp [checkAllEvents]⟩

/-- A checker built by `NewChecker` over a non-empty target list, run over
any rounds of `checkAll` with the records of each round landing in any
order, and stopped anywhere: it never dereferences a missing status, each
listed target's `FailureCount` is the number of failed checks recorded since
its last successful one, and it is healthy exactly while that count is below
`maxFailures`. At the end of a round, `GetHealthyTargets` is the listed
targets whose status is healthy, in list order with multiplicity, and
`OverallHealth` is healthy when all of them are, unhealthy when none is, and
degraded otherwise. -/
theorem checker_tracks_rounds (cfg : Config) (hne : cfg.targets ≠ [])
    (rounds : List (List (String × Probe)))
    (hrounds : ∀ probes ∈ rounds, (probes.map Prod.fst).Perm cfg.targets)
    (events : List Event) (hreach : events <+: rounds.flatMap checkAllEvents) :
    ∃ c, (newChecker cfg).run events = some c ∧
      (∀ target ∈ cfg.targets, ∃ status, c.getStatus target = some status ∧
        status.failureCount = failuresSince target (records events) ∧
        (status.isHealthy = true ↔ status.failureCount < (newChecker cfg).maxFailures)) ∧
      (rounds ≠ [] → events = rounds.flatMap checkAllEvents →
        c.getHealthyTargets =
            cfg.targets.filter (fun target => (c.getStatus target).any (·.isHealthy)) ∧
          (c.overallHealth = .healthy ↔
            ∀ target ∈ cfg.targets, (c.getStatus target).any (·.isHealthy) = true) ∧
          (c.overallHealth = .unhealthy ↔
            ∀ target ∈ cfg.targets, (c.getStatus target).any (·.isHealthy) = false) ∧
          (c.overallHealth = .degraded ↔
            (∃ target ∈ cfg.targets, (c.getStatus target).any (·.isHealthy) = true) ∧
              ∃ target ∈ cfg.targets, (c.getStatus target).any (·.isHealthy) = false)) := by
  obtain ⟨c, hrun, htracks, htargets, hmax⟩ :=
    Checker.run_tracks (newChecker_tracks cfg) (newChecker_defaults cfg).2.2.2 events
      (listed_of_rounds hrounds hreach)
  have htargets' : c.targets = cfg.targets := htargets
  refine ⟨c, hrun, fun target hmem => ?_, fun hrounds_ne hevents => ?_⟩
  · obtain ⟨status, hstatus, -, hcount, hhealthy⟩ := htracks target (by rw [htargets']; exact hmem)
    exact ⟨status, hstatus, by simpa using hcount, by rw [← hmax]; exact hhealthy⟩
  · obtain ⟨pre, hpre⟩ := flatMap_checkAllEvents_concat hrounds_ne
    rw [hevents, hpre, Checker.run_concat] at hrun
    obtain ⟨c₀, -, hupdate⟩ := Option.bind_eq_some_iff.mp hrun
    have hhealthy := Checker.updateHealthyTargets_healthyTargets hupdate
    rw [htargets'] at hhealthy
    have hoverall := overallHealth_of_filter c _ (by rw [htargets']; exact hne)
      (by rw [htargets']; exact hhealthy)
    rw [htargets'] at hoverall
    exact ⟨hhealthy, hoverall⟩

theorem checker_tracks_two_targets :
    ["http://a:8080", "http://b:8080"] ≠ [] ∧
      (∀ probes ∈ [[("http://b:8080", Probe.failed), ("http://a:8080", .responded 200)]],
        (probes.map Prod.fst).Perm ["http://a:8080", "http://b:8080"]) ∧
      ∃ c, (newChecker ⟨["http://a:8080", "http://b:8080"], "", 0, 0, 0⟩).run
        (checkAllEvents [("http://b:8080", .failed), ("http://a:8080", .responded 200)]) = some c :=
  ⟨by decide, by decide,
    (checker_tracks_rounds ⟨["http://a:8080", "http://b:8080"], "", 0, 0, 0⟩ (by decide)
      [[("http://b:8080", .failed), ("http://a:8080", .responded 200)]] (by decide) _
      (by simp)).imp fun _ hc => hc.1⟩

end ApiGateway.HealthCheck
