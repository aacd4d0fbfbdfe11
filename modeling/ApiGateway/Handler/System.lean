import ApiGateway.Proxy
import ApiGateway.Interleave

/-!
The admin routes over the gateway's proxies: `CircuitBreakerStatus`,
`ResetCircuitBreaker` and `ServiceHealthStatus` of
`internal/handler/systemHandler.go`, over the map `initializeProxies`
registers.

The proxies change in place while the handlers read them: the two critical
sections of each Call of a proxy's breaker, and the records and updates of
each proxy's health checker, run on other goroutines. A checker goroutine
runs rounds of `checkAll`: the records of a round land one at a time, in
any order, and its update follows them. Each accessor of a proxy takes its
own lock, so `ServiceHealthStatus`, which reads a proxy's healthy targets,
then all its targets, then its overall health, can see rounds of the
checker land between two of its reads. Every goroutine is a thread of
`Interleave` over the map. Over any schedule from the registered proxies, a
path has a proxy exactly when it had one at the start, no checker
dereferences a missing status, every breaker stays valid and every checker
lists as healthy a sublist of its targets. So every entry of
`CircuitBreakerStatus` has non-negative counts, a reset answers 404 exactly
for a path without a proxy, and an entry of `ServiceHealthStatus` read with
nothing between its reads is consistent; one read across an update can
report a proxy `degraded` with all of its targets healthy.

The first round of a checker goroutine is the one `Start` runs before
`NewWithConfig` returns. The `target_status` list of `ServiceHealthStatus`,
which ranges over a Go map in an order the language leaves open, is left
out.
-/

namespace ApiGateway

/-- The map from path to proxy that `SystemHandler` shares with the server;
a proxy is changed in place. -/
structure SystemHandler where
  proxies : String → Option Proxy

def newSystemHandler (proxies : String → Option Proxy) : SystemHandler := ⟨proxies⟩

structure BreakerStatus where
  state : String
  failureCount : Int
  successCount : Int
  lastFailureTime : Int
  lastStateChange : Int
  deriving DecidableEq, Repr

structure HealthReport where
  overallHealth : String
  healthyCount : Nat
  totalCount : Nat
  healthyTargets : List String
  allTargets : List String
  deriving DecidableEq, Repr

/-- What an entry of `ServiceHealthStatus` says of a proxy holds together. -/
structure HealthReport.Consistent (r : HealthReport) : Prop where
  counts : r.healthyCount ≤ r.totalCount
  listed : ∀ target ∈ r.healthyTargets, target ∈ r.allTargets
  unhealthy : r.overallHealth = "unhealthy" ↔ r.healthyCount = 0
  degraded : r.overallHealth = "degraded" ↔ 0 < r.healthyCount ∧ r.healthyCount < r.totalCount
  healthy : r.overallHealth = "healthy" ↔ 0 < r.healthyCount ∧ r.healthyCount = r.totalCount

/-- An answer whose `gin.H` holds strings only. -/
structure Reply where
  status : Nat
  body : List (String × String)
  deriving DecidableEq, Repr

namespace SystemHandler

def setProxy (h : SystemHandler) (path : String) (p : Proxy) : SystemHandler :=
  ⟨Function.update h.proxies path (some p)⟩

@[simp] theorem setProxy_self (h : SystemHandler) (path : String) (p : Proxy) :
    (h.setProxy path p).proxies path = some p := by
  simp [setProxy]

@[simp] theorem setProxy_of_ne (h : SystemHandler) {path other : String} (p : Proxy)
    (hne : other ≠ path) : (h.setProxy path p).proxies other = h.proxies other := by
  simp [setProxy, hne]

def breakerStatus (metrics : CircuitBreaker.Metrics) : BreakerStatus :=
  ⟨metrics.state.toString, metrics.failureCount, metrics.successCount, metrics.lastFailureTime,
    metrics.lastStateChange⟩

/-- `CircuitBreakerStatus`: a 200 whose object has an entry for each
registered path, each read under one lock. -/
def circuitBreakerStatus (h : SystemHandler) (path : String) : Option BreakerStatus :=
  (h.proxies path).map fun p => breakerStatus p.circuitBreakerMetrics

/-- `ResetCircuitBreaker` of the `service` its route's wildcard binds, the
breaker reset at the reading `resetAt`. -/
def resetCircuitBreaker (h : SystemHandler) (resetAt : Int) (service : String) :
    Reply × SystemHandler :=
  match h.proxies service with
  | none => (⟨404, [("error", "Service not found")]⟩, h)
  | some p =>
      (⟨200, [("message", "Circuit breaker reset successfully"), ("service", service)]⟩,
        h.setProxy service (p.resetCircuitBreaker resetAt))

/-- The entry `ServiceHealthStatus` makes of its three reads of a proxy. -/
def healthReport (healthyTargets allTargets : List String)
    (overallHealth : HealthCheck.HealthStatus) : HealthReport :=
  ⟨overallHealth.toString, healthyTargets.length, allTargets.length, healthyTargets, allTargets⟩

/-- `ServiceHealthStatus` with no other goroutine between its reads. -/
def serviceHealthStatus (h : SystemHandler) (path : String) : Option HealthReport :=
  (h.proxies path).map fun p => healthReport p.getHealthyTargets p.getAllTargets p.overallHealth

/-- Where the loop of `ServiceHealthStatus` is in its reads of a proxy. -/
inductive Reads where
  | start
  | healthy (healthyTargets : List String)
  | all (healthyTargets allTargets : List String)
  deriving DecidableEq, Repr

/-- `ServiceHealthStatus` as the goroutine that runs it: the paths still to
range over, the current one first, and the entries made so far. -/
structure HealthRead where
  pending : List String
  reads : Reads
  statuses : List (String × HealthReport)
  deriving DecidableEq, Repr

/-- One read of the loop, under its own lock. -/
def HealthRead.act (r : HealthRead) (h : SystemHandler) : Option HealthRead :=
  match r.pending with
  | [] => none
  | path :: rest =>
      match h.proxies path, r.reads with
      | none, _ => some ⟨rest, .start, r.statuses⟩
      | some p, .start => some ⟨r.pending, .healthy p.getHealthyTargets, r.statuses⟩
      | some p, .healthy healthyTargets =>
          some ⟨r.pending, .all healthyTargets p.getAllTargets, r.statuses⟩
      | some p, .all healthyTargets allTargets =>
          some ⟨rest, .start,
            r.statuses ++ [(path, healthReport healthyTargets allTargets p.overallHealth)]⟩

/-- A goroutine that reads or changes the proxies: a Call of a proxy's
breaker before and after its admission, a health checker in a round of
`checkAll` with the records of the round still to land, in the order they
land, then the round's update, then its later rounds, an admin reset, and
`ServiceHealthStatus`. -/
inductive Worker where
  | call (path : String) (admitAt doneAt : Int) (outcome : CircuitBreaker.Outcome)
  | completing (path : String) (doneAt : Int) (outcome : CircuitBreaker.Outcome)
  | checker (path : String) (records : List (String × HealthCheck.Probe))
      (rounds : List (List (String × HealthCheck.Probe)))
  | reset (service : String) (resetAt : Int)
  | healthStatus (read : HealthRead)
  | done
  deriving DecidableEq, Repr

/-- A checker goroutine once the update that ends a round has run: in its
next round, or stopped. -/
def Worker.nextRound (path : String) : List (List (String × HealthCheck.Probe)) → Worker
  | [] => .done
  | round :: rounds => .checker path round rounds

/-- The next critical section of a goroutine. A checker that dereferences a
missing status stops, as its panic would stop the gateway. -/
def Worker.act : Worker → SystemHandler → Option (Worker × SystemHandler)
  | .call path admitAt doneAt outcome, h =>
      (h.proxies path).map fun p =>
        (if (p.circuitBreaker.admission admitAt).1 then .completing path doneAt outcome else .done,
          h.setProxy path { p with circuitBreaker := (p.circuitBreaker.admission admitAt).2 })
  | .completing path doneAt outcome, h =>
      (h.proxies path).map fun p =>
        (.done, h.setProxy path
          { p with circuitBreaker := p.circuitBreaker.complete doneAt outcome })
  | .checker path ((target, probe) :: records) rounds, h =>
      (h.proxies path).bind fun p =>
        (p.healthChecker.step (.check target probe)).map fun c =>
          (.checker path records rounds, h.setProxy path { p with healthChecker := c })
  | .checker path [] rounds, h =>
      (h.proxies path).bind fun p =>
        (p.healthChecker.step .update).map fun c =>
          (Worker.nextRound path rounds, h.setProxy path { p with healthChecker := c })
  | .reset service resetAt, h => some (.done, (h.resetCircuitBreaker resetAt service).2)
  | .healthStatus r, h => (r.act h).map fun r' => (.healthStatus r', h)
  | .done, _ => none

/-- What a registered proxy keeps while the gateway runs: a valid breaker,
and a checker over the proxy's targets with a positive `maxFailures`, its
statuses in step with some log of records and its healthy list a sublist of
its targets. -/
structure Serving (p : Proxy) : Prop where
  breaker : CircuitBreaker.Valid p.circuitBreaker
  checkerTargets : p.healthChecker.targets = p.targets
  maxFailures_pos : 0 < p.healthChecker.maxFailures
  tracks : ∃ log, p.healthChecker.Tracks log
  healthySublist : p.healthChecker.healthyTargets.Sublist p.healthChecker.targets

/-- Each path has a proxy exactly when it had one in `init`, over the same
targets, and serving. -/
def Keeps (init : String → Option Proxy) (h : SystemHandler) : Prop :=
  ∀ path, Option.Rel (fun p₀ p => p.targets = p₀.targets ∧ Serving p) (init path) (h.proxies path)

/-- A checker goroutine records only targets its proxy lists. -/
def Worker.Listed (init : String → Option Proxy) : Worker → Prop
  | .checker path records rounds => ∀ target probe, (target, probe) ∈ records ++ rounds.flatten →
      ∀ p₀, init path = some p₀ → target ∈ p₀.targets
  | _ => True

/-- A checker goroutine as `Start` runs it: each of its rounds records each
target of its proxy once. -/
def Worker.Rounds (init : String → Option Proxy) : Worker → Prop
  | .checker path records rounds =>
      ∀ p₀ ∈ init path, ∀ round ∈ records :: rounds, (round.map Prod.fst).Perm p₀.targets
  | _ => True

instance (init : String → Option Proxy) : DecidablePred (Worker.Rounds init) := by
  intro w
  cases w <;> unfold Worker.Rounds <;> infer_instance

theorem Worker.Rounds.listed {init : String → Option Proxy} {w : Worker} (h : w.Rounds init) :
    w.Listed init := by
  cases w
  case checker path records rounds =>
    intro target probe hmem p₀ hinit
    obtain ⟨round, hround, hin⟩ : ∃ round ∈ records :: rounds, (target, probe) ∈ round := by
      simpa [List.mem_flatten] using hmem
    exact (h p₀ hinit round hround).subset (List.mem_map_of_mem hin)
  all_goals trivial

theorem Worker.listed_nextRound {init : String → Option Proxy} {path : String}
    {rounds : List (List (String × HealthCheck.Probe))}
    (h : ∀ target probe, (target, probe) ∈ rounds.flatten →
      ∀ p₀, init path = some p₀ → target ∈ p₀.targets) :
    (Worker.nextRound path rounds).Listed init := by
  cases rounds with
  | nil => trivial
  | cons round rounds =>
      intro target probe hmem
      exact h target probe (by simpa using hmem)

section Serving

variable {p : Proxy}

theorem Serving.of_sound (hs : Proxy.Sound p) (hhealthy : p.healthChecker.healthyTargets = []) :
    Serving p :=
  ⟨hs.breaker, hs.checkerTargets, hs.checkerSettings.2.2.2, ⟨[], hs.checkerTracks⟩,
    hhealthy ▸ List.nil_sublist _⟩

theorem Serving.admission (hs : Serving p) (now : Int) :
    Serving { p with circuitBreaker := (p.circuitBreaker.admission now).2 } :=
  ⟨hs.breaker.admission now, hs.checkerTargets, hs.maxFailures_pos, hs.tracks, hs.healthySublist⟩

theorem Serving.complete (hs : Serving p) (now : Int) (outcome : CircuitBreaker.Outcome) :
    Serving { p with circuitBreaker := p.circuitBreaker.complete now outcome } :=
  ⟨hs.breaker.complete now outcome, hs.checkerTargets, hs.maxFailures_pos, hs.tracks,
    hs.healthySublist⟩

theorem Serving.reset (hs : Serving p) (resetAt : Int) : Serving (p.resetCircuitBreaker resetAt) :=
  ⟨hs.breaker.reset resetAt, hs.checkerTargets, hs.maxFailures_pos, hs.tracks, hs.healthySublist⟩

/-- A record of a listed target, or an update, never dereferences a missing
status, and the proxy stays serving. -/
theorem Serving.step (hs : Serving p) (e : HealthCheck.Event)
    (hlisted : ∀ target probe, e = .check target probe → target ∈ p.targets) :
    ∃ c, p.healthChecker.step e = some c ∧ Serving { p with healthChecker := c } := by
  obtain ⟨log, htracks⟩ := hs.tracks
  obtain ⟨c, hc, htracks', htargets, hmax⟩ :=
    HealthCheck.Checker.step_tracks htracks hs.maxFailures_pos e fun target probe he => by
      rw [hs.checkerTargets]
      exact hlisted target probe he
  refine ⟨c, hc, hs.breaker, htargets.trans hs.checkerTargets, hmax ▸ hs.maxFailures_pos,
    ⟨_, htracks'⟩, ?_⟩
  exact HealthCheck.Checker.step_healthyTargets_sublist hs.healthySublist hc

/-- The entry made of a healthy list that is a sublist of the targets, and of
the overall health `OverallHealth` computes from the two lengths, is
consistent. -/
theorem healthReport_consistent {healthyTargets allTargets : List String}
    (hsub : healthyTargets.Sublist allTargets) :
    (healthReport healthyTargets allTargets
      (if healthyTargets.length = 0 then .unhealthy
        else if healthyTargets.length < allTargets.length then .degraded
        else .healthy)).Consistent := by
  have hle := hsub.length_le
  have hlisted : ∀ target ∈ healthyTargets, target ∈ allTargets := fun _ hmem => hsub.subset hmem
  by_cases h0 : healthyTargets.length = 0
  · rw [if_pos h0]
    refine ⟨hle, hlisted, ?_, ?_, ?_⟩ <;> simp [healthReport, h0, HealthCheck.HealthStatus.toString]
  · have hne : healthyTargets ≠ [] := by
      rintro rfl
      exact h0 rfl
    by_cases hlt : healthyTargets.length < allTargets.length
    · rw [if_neg h0, if_pos hlt]
      refine ⟨hle, hlisted, ?_, ?_, ?_⟩ <;>
        simp [healthReport, HealthCheck.HealthStatus.toString, hne] <;> omega
    · rw [if_neg h0, if_neg hlt]
      refine ⟨hle, hlisted, ?_, ?_, ?_⟩ <;>
        simp [healthReport, HealthCheck.HealthStatus.toString, hne] <;> omega

/-- Read with nothing between its reads, the entry of a serving proxy is
consistent. -/
theorem Serving.consistent (hs : Serving p) :
    (healthReport p.getHealthyTargets p.getAllTargets p.overallHealth).Consistent :=
  healthReport_consistent hs.healthySublist

end Serving

section Keeps

variable {init : String → Option Proxy} {h : SystemHandler}

theorem Keeps.lookup (hk : Keeps init h) {path : String} {p : Proxy}
    (hp : h.proxies path = some p) :
    ∃ p₀, init path = some p₀ ∧ p.targets = p₀.targets ∧ Serving p := by
  have hrel := hk path
  rw [hp] at hrel
  cases hinit : init path with
  | none =>
      rw [hinit] at hrel
      cases hrel
  | some p₀ =>
      rw [hinit] at hrel
      cases hrel with
      | some hserving => exact ⟨p₀, rfl, hserving⟩

theorem Keeps.isSome (hk : Keeps init h) (path : String) :
    (h.proxies path).isSome = (init path).isSome := by
  cases hp : h.proxies path with
  | none =>
      cases hinit : init path with
      | none => rfl
      | some p₀ =>
          have hrel := hk path
          rw [hp, hinit] at hrel
          cases hrel
  | some p =>
      obtain ⟨p₀, hinit, -⟩ := hk.lookup hp
      rw [hinit]
      rfl

theorem Keeps.setProxy (hk : Keeps init h) {path : String} {p p' : Proxy}
    (hp : h.proxies path = some p) (htargets : p'.targets = p.targets) (hs : Serving p') :
    Keeps init (h.setProxy path p') := by
  intro other
  by_cases hother : other = path
  · subst hother
    obtain ⟨p₀, hinit, htargets₀, -⟩ := hk.lookup hp
    rw [hinit, setProxy_self]
    exact .some ⟨htargets.trans htargets₀, hs⟩
  · rw [setProxy_of_ne _ _ hother]
    exact hk other

theorem Keeps.resetCircuitBreaker (hk : Keeps init h) (resetAt : Int) (service : String) :
    Keeps init (h.resetCircuitBreaker resetAt service).2 := by
  unfold SystemHandler.resetCircuitBreaker
  split
  · exact hk
  · rename_i p hp
    obtain ⟨-, -, -, hs⟩ := hk.lookup hp
    exact hk.setProxy hp rfl (hs.reset resetAt)

/-- A record of a listed target, or an update, by the checker of a path's
proxy keeps every path's proxy serving. -/
theorem Keeps.checkerStep (hk : Keeps init h) {path : String} {p : Proxy}
    {e : HealthCheck.Event} {c : HealthCheck.Checker} (hp : h.proxies path = some p)
    (hc : p.healthChecker.step e = some c)
    (hlisted : ∀ target probe, e = .check target probe →
      ∀ p₀, init path = some p₀ → target ∈ p₀.targets) :
    Keeps init (h.setProxy path { p with healthChecker := c }) := by
  obtain ⟨p₀, hinit, htargets, hs⟩ := hk.lookup hp
  obtain ⟨c', hc', hs'⟩ := hs.step e fun target probe he => by
    rw [htargets]
    exact hlisted target probe he p₀ hinit
  rw [hc] at hc'
  cases hc'
  exact hk.setProxy hp rfl hs'

/-- Every critical section of a goroutine keeps every path's proxy serving. -/
theorem Keeps.act (hk : Keeps init h) {w w' : Worker} {h' : SystemHandler}
    (hw : w.Listed init) (hact : w.act h = some (w', h')) : Keeps init h' ∧ w'.Listed init := by
  cases w with
  | call path admitAt doneAt outcome =>
      obtain ⟨p, hp, hpair⟩ := Option.map_eq_some_iff.mp hact
      cases hpair
      obtain ⟨-, -, -, hs⟩ := hk.lookup hp
      refine ⟨hk.setProxy hp rfl (hs.admission admitAt), ?_⟩
      split <;> trivial
  | completing path doneAt outcome =>
      obtain ⟨p, hp, hpair⟩ := Option.map_eq_some_iff.mp hact
      cases hpair
      obtain ⟨-, -, -, hs⟩ := hk.lookup hp
      exact ⟨hk.setProxy hp rfl (hs.complete doneAt outcome), trivial⟩
  | checker path records rounds =>
      cases records with
      | cons record records =>
          obtain ⟨target, probe⟩ := record
          obtain ⟨p, hp, hmap⟩ := Option.bind_eq_some_iff.mp hact
          obtain ⟨c, hc, hpair⟩ := Option.map_eq_some_iff.mp hmap
          cases hpair
          refine ⟨hk.checkerStep hp hc ?_,
            fun target' probe' hmem => hw target' probe' (List.mem_cons_of_mem _ hmem)⟩
          rintro target' probe' ⟨⟩
          exact hw target probe List.mem_cons_self
      | nil =>
          obtain ⟨p, hp, hmap⟩ := Option.bind_eq_some_iff.mp hact
          obtain ⟨c, hc, hpair⟩ := Option.map_eq_some_iff.mp hmap
          cases hpair
          exact ⟨hk.checkerStep hp hc (fun _ _ he => by cases he),
            Worker.listed_nextRound fun target probe hmem => hw target probe (by simpa using hmem)⟩
  | reset service resetAt =>
      cases hact
      exact ⟨hk.resetCircuitBreaker resetAt service, trivial⟩
  | healthStatus r =>
      obtain ⟨r', -, hpair⟩ := Option.map_eq_some_iff.mp hact
      cases hpair
      exact ⟨hk, trivial⟩
  | done => cases hact

/-- A checker goroutine whose round records listed targets always takes its
next step, a record or the update. -/
theorem Keeps.checker_act (hk : Keeps init h) {path : String} {p₀ : Proxy}
    (hinit : init path = some p₀) (records : List (String × HealthCheck.Probe))
    (rounds : List (List (String × HealthCheck.Probe)))
    (hlisted : ∀ target probe, (target, probe) ∈ records → target ∈ p₀.targets) :
    (Worker.checker path records rounds).act h ≠ none := by
  cases hp : h.proxies path with
  | none =>
      have hsome := hk.isSome path
      rw [hp, hinit] at hsome
      cases hsome
  | some p =>
      obtain ⟨p₀', hinit', htargets, hs⟩ := hk.lookup hp
      rw [hinit] at hinit'
      cases hinit'
      cases records with
      | nil =>
          obtain ⟨c, hc, -⟩ := hs.step .update fun _ _ he => by cases he
          simp [Worker.act, hp, hc]
      | cons record records =>
          obtain ⟨target, probe⟩ := record
          obtain ⟨c, hc, -⟩ := hs.step (.check target probe) fun target' probe' he => by
            cases he
            rw [htargets]
            exact hlisted target probe List.mem_cons_self
          simp [Worker.act, hp, hc]

theorem Keeps.circuitBreakerStatus (hk : Keeps init h) (path : String) :
    ∀ status, h.circuitBreakerStatus path = some status →
      0 ≤ status.failureCount ∧ 0 ≤ status.successCount := by
  intro status hstatus
  obtain ⟨p, hp, rfl⟩ := Option.map_eq_some_iff.mp hstatus
  obtain ⟨-, -, -, hs⟩ := hk.lookup hp
  exact ⟨hs.breaker.failureCount_nonneg, hs.breaker.successCount_nonneg⟩

theorem Keeps.resetCircuitBreaker_status (hk : Keeps init h) (resetAt : Int) (service : String) :
    (h.resetCircuitBreaker resetAt service).1.status = 404 ↔ init service = none := by
  unfold SystemHandler.resetCircuitBreaker
  split
  · rename_i hp
    have hsome := hk.isSome service
    rw [hp] at hsome
    cases hinit : init service with
    | none => simp
    | some p₀ =>
        rw [hinit] at hsome
        cases hsome
  · rename_i p hp
    obtain ⟨p₀, hinit, -⟩ := hk.lookup hp
    simp [hinit]

theorem Keeps.serviceHealthStatus (hk : Keeps init h) (path : String) :
    ∀ report, h.serviceHealthStatus path = some report → report.Consistent := by
  intro report hreport
  obtain ⟨p, hp, rfl⟩ := Option.map_eq_some_iff.mp hreport
  obtain ⟨-, -, -, hs⟩ := hk.lookup hp
  exact hs.consistent

end Keeps

variable (parseURL : String → Option String) (now : Int)

theorem keeps_initializeProxies (services : List Config.ServiceConfig) :
    Keeps (Proxy.initializeProxies parseURL now services)
      (newSystemHandler (Proxy.initializeProxies parseURL now services)) := by
  intro path
  change Option.Rel _ (Proxy.initializeProxies parseURL now services path)
    (Proxy.initializeProxies parseURL now services path)
  cases hp : Proxy.initializeProxies parseURL now services path with
  | none => exact .none
  | some p =>
      obtain ⟨hsound, svc, -, -, hbuild⟩ := Proxy.route_sound hp
      exact .some ⟨rfl, Serving.of_sound hsound (Proxy.healthyTargets_of_build hbuild)⟩

/-- From the proxies `initializeProxies` registers, under any goroutines of
breaker Calls, health checkers whose rounds record only their proxy's
targets, admin resets and `ServiceHealthStatus` reads, in any schedule: each
path has a proxy exactly when it had one at the start; a checker can always
take its next record or update, never dereferencing a missing status;
every entry of `CircuitBreakerStatus` has non-negative counts; a reset
answers 404 exactly for a path without a proxy; and every entry of
`ServiceHealthStatus` read with nothing between its reads is consistent. -/
theorem gateway_keeps_proxies (services : List Config.ServiceConfig) (workers : List Worker)
    (hlisted : ∀ w ∈ workers, w.Listed (Proxy.initializeProxies parseURL now services))
    (order : List Nat) :
    ∀ path,
      ((Interleave.interleave Worker.act
          (newSystemHandler (Proxy.initializeProxies parseURL now services), workers)
          order).1.proxies path).isSome =
        (Proxy.initializeProxies parseURL now services path).isSome ∧
      (∀ p₀ records rounds, Proxy.initializeProxies parseURL now services path = some p₀ →
        (∀ target probe, (target, probe) ∈ records → target ∈ p₀.targets) →
        (Worker.checker path records rounds).act (Interleave.interleave Worker.act
          (newSystemHandler (Proxy.initializeProxies parseURL now services), workers)
          order).1 ≠ none) ∧
      (∀ status, (Interleave.interleave Worker.act
          (newSystemHandler (Proxy.initializeProxies parseURL now services), workers)
          order).1.circuitBreakerStatus path = some status →
        0 ≤ status.failureCount ∧ 0 ≤ status.successCount) ∧
      (∀ resetAt, ((Interleave.interleave Worker.act
          (newSystemHandler (Proxy.initializeProxies parseURL now services), workers)
          order).1.resetCircuitBreaker resetAt path).1.status = 404 ↔
        Proxy.initializeProxies parseURL now services path = none) ∧
      (∀ report, (Interleave.interleave Worker.act
          (newSystemHandler (Proxy.initializeProxies parseURL now services), workers)
          order).1.serviceHealthStatus path = some report → report.Consistent) := by
  have hkeeps := (@Interleave.interleave_preserves SystemHandler Worker Worker.act
    (Keeps (Proxy.initializeProxies parseURL now services))
    (Worker.Listed (Proxy.initializeProxies parseURL now services))
    (fun w h w' h' hk hw hact => hk.act hw hact)
    (newSystemHandler (Proxy.initializeProxies parseURL now services), workers)
    ⟨keeps_initializeProxies parseURL now services, hlisted⟩ order).1
  intro path
  exact ⟨hkeeps.isSome path,
    fun p₀ records rounds hinit hlisted => hkeeps.checker_act hinit records rounds hlisted,
    hkeeps.circuitBreakerStatus path, fun resetAt => hkeeps.resetCircuitBreaker_status resetAt path,
    hkeeps.serviceHealthStatus path⟩

theorem gateway_keeps_proxies_api :
    (∀ w ∈ [Worker.call "/api" 0 1 .failure, .checker "/api" [("http://a:8080", .failed)] [],
        .reset "/api" 5],
      w.Listed (Proxy.initializeProxies (fun _ => none) 0
        [⟨"/api", ["http://a:8080"], "round_robin", none, none⟩])) ∧
    ((Interleave.interleave Worker.act
        (newSystemHandler (Proxy.initializeProxies (fun _ => none) 0
          [⟨"/api", ["http://a:8080"], "round_robin", none, none⟩]),
          [.call "/api" 0 1 .failure, .checker "/api" [("http://a:8080", .failed)] [],
            .reset "/api" 5])
        [0, 1, 2, 1, 0]).1.proxies "/api").isSome =
      (Proxy.initializeProxies (fun _ => none) 0
        [⟨"/api", ["http://a:8080"], "round_robin", none, none⟩] "/api").isSome := by
  have hrounds : ∀ w ∈ [Worker.call "/api" 0 1 .failure,
      .checker "/api" [("http://a:8080", .failed)] [], .reset "/api" 5],
      w.Rounds (Proxy.initializeProxies (fun _ => none) 0
        [⟨"/api", ["http://a:8080"], "round_robin", none, none⟩]) := by
    decide
  have hlisted := fun w hw => Worker.Rounds.listed (hrounds w hw)
  exact ⟨hlisted, (gateway_keeps_proxies (fun _ => none) 0 _ _ hlisted [0, 1, 2, 1, 0] "/api").1⟩

end SystemHandler

end ApiGateway
