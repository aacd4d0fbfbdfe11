import ApiGateway.Config
import ApiGateway.CircuitBreaker.Breaker
import ApiGateway.HealthCheck.Checker
import ApiGateway.LoadBalancer

/-!
How the gateway builds its backends: `NewWithConfig` of
`internal/proxy/proxy.go`, and `initializeProxies` of
`internal/server/server.go`, which builds one proxy per configured service
and registers it under the service's path. A proxy is its targets, its
circuit breaker, its load-balancing strategy and its health checker; the
reverse proxy it keeps per target is left out, and so is the goroutine
`Start` launches. `url.Parse` is given as `parseURL`, the error it reports
for a target it rejects. Every circuit breaker is created at one clock
reading `now`, which only its `lastStateChange` keeps.

A service with no target, with a strategy name `NewStrategy` does not know,
or with a target that does not parse gets no proxy, and a later service with
the same path replaces an earlier one: the proxy under a path is the one
built for the last service with that path whose proxy could be built.
-/

namespace ApiGateway

namespace Proxy

structure Config where
  targets : List String
  loadBalancerStrategy : String
  circuitBreaker : CircuitBreaker.Config
  healthCheck : HealthCheck.Config

end Proxy

structure Proxy where
  targets : List String
  circuitBreaker : CircuitBreaker
  loadBalancer : LoadBalancer.Strategy
  healthChecker : HealthCheck.Checker

namespace Proxy

variable (parseURL : String → Option String) (now : Int)

/-- `NewWithConfig`: refused without targets, with an unknown strategy, or
with the error of the first target that does not parse. A health-check
configuration without targets takes the proxy's. -/
def newWithConfig (cfg : Config) : Except String Proxy :=
  if cfg.targets = [] then .error "at least one target is required"
  else
    let cb := CircuitBreaker.new cfg.circuitBreaker now
    match LoadBalancer.newStrategy cfg.loadBalancerStrategy with
    | .error e => .error e
    | .ok lb =>
        match cfg.targets.findSome? parseURL with
        | some e => .error e
        | none =>
            let healthCheck :=
              if cfg.healthCheck.targets = [] then { cfg.healthCheck with targets := cfg.targets }
              else cfg.healthCheck
            .ok ⟨cfg.targets, cb, lb, HealthCheck.newChecker healthCheck⟩

/-- The proxy configuration `initializeProxies` makes of a service: its own
breaker and health-check settings converted to durations, or the defaults
when the file has none. -/
def serviceConfig (svc : Config.ServiceConfig) : Config where
  targets := svc.targets
  loadBalancerStrategy := svc.loadBalancer
  circuitBreaker :=
    match svc.circuitBreaker with
    | some cb => ⟨cb.maxFailures, cb.timeoutSeconds * Go.second, cb.halfOpenSuccess⟩
    | none => ⟨5, 30 * Go.second, 1⟩
  healthCheck :=
    match svc.healthCheck with
    | some hc =>
        ⟨svc.targets, hc.endpoint, hc.intervalSeconds * Go.second, hc.timeoutSeconds * Go.second,
          hc.maxFailures⟩
    | none => ⟨svc.targets, "/health", 10 * Go.second, 5 * Go.second, 3⟩

/-- One pass of the loop of `initializeProxies`: a service without targets, or
whose proxy cannot be built, is skipped. -/
def register (proxies : String → Option Proxy) (svc : Config.ServiceConfig) :
    String → Option Proxy :=
  if svc.targets = [] then proxies
  else
    match newWithConfig parseURL now (serviceConfig svc) with
    | .error _ => proxies
    | .ok p => Function.update proxies svc.path (some p)

/-- `initializeProxies`: the proxy registered under each path. -/
def initializeProxies (services : List Config.ServiceConfig) : String → Option Proxy :=
  services.foldl (register parseURL now) fun _ => none

/-- The proxy built for a service, if one can be. -/
def build (svc : Config.ServiceConfig) : Option Proxy :=
  if svc.targets = [] then none else (newWithConfig parseURL now (serviceConfig svc)).toOption

/-- What a proxy is built with: a valid breaker, and a health checker over
its targets with positive settings, holding every target healthy. -/
structure Sound (p : Proxy) : Prop where
  targets : p.targets ≠ []
  breaker : CircuitBreaker.Valid p.circuitBreaker
  checkerTargets : p.healthChecker.targets = p.targets
  checkerSettings : p.healthChecker.endpoint ≠ "" ∧ 0 < p.healthChecker.interval ∧
    0 < p.healthChecker.timeout ∧ 0 < p.healthChecker.maxFailures
  checkerTracks : p.healthChecker.Tracks []

variable {parseURL now}

theorem newWithConfig_eq_ok {cfg : Config} {p : Proxy} :
    newWithConfig parseURL now cfg = .ok p ↔ cfg.targets ≠ [] ∧
      ∃ lb, LoadBalancer.newStrategy cfg.loadBalancerStrategy = .ok lb ∧
        (∀ target ∈ cfg.targets, parseURL target = none) ∧
        p = ⟨cfg.targets, CircuitBreaker.new cfg.circuitBreaker now, lb,
          HealthCheck.newChecker (if cfg.healthCheck.targets = [] then
            { cfg.healthCheck with targets := cfg.targets } else cfg.healthCheck)⟩ := by
  unfold newWithConfig
  by_cases htargets : cfg.targets = []
  · simp [htargets]
  · rw [if_neg htargets]
    cases hlb : LoadBalancer.newStrategy cfg.loadBalancerStrategy with
    | error e => simp
    | ok lb =>
        dsimp only
        cases hparse : cfg.targets.findSome? parseURL with
        | some e =>
            obtain ⟨target, hmem, hbad⟩ := List.exists_of_findSome?_eq_some hparse
            constructor
            · intro h
              cases h
            · rintro ⟨-, lb', -, hgood, -⟩
              rw [hgood target hmem] at hbad
              cases hbad
        | none =>
            have hgood := List.findSome?_eq_none_iff.mp hparse
            constructor
            · intro h
              cases h
              exact ⟨htargets, lb, rfl, hgood, rfl⟩
            · rintro ⟨-, lb', hlb', -, rfl⟩
              cases hlb'
              rfl

/-- Every proxy `NewWithConfig` builds for the configuration of a service is
sound. -/
theorem sound_of_build {svc : Config.ServiceConfig} {p : Proxy}
    (h : build parseURL now svc = some p) :
    Sound p := by
  unfold build at h
  split at h
  · cases h
  · have hok : newWithConfig parseURL now (serviceConfig svc) = .ok p := by
      cases hnew : newWithConfig parseURL now (serviceConfig svc) with
      | error e => simp [hnew, Except.toOption] at h
      | ok p' => simpa [hnew, Except.toOption] using h
    obtain ⟨hne, lb, -, -, rfl⟩ := newWithConfig_eq_ok.mp hok
    have hcheck : (serviceConfig svc).healthCheck.targets = (serviceConfig svc).targets := by
      cases hhc : svc.healthCheck <;> simp [serviceConfig, hhc]
    have hlisted : (if (serviceConfig svc).healthCheck.targets = [] then
        { (serviceConfig svc).healthCheck with targets := (serviceConfig svc).targets }
        else (serviceConfig svc).healthCheck).targets = (serviceConfig svc).targets := by
      split
      · rfl
      · exact hcheck
    exact ⟨hne, CircuitBreaker.valid_new _ now, hlisted, HealthCheck.newChecker_defaults _,
      HealthCheck.newChecker_tracks _⟩

/-- A proxy is built with a checker that has not yet listed a healthy target. -/
theorem healthyTargets_of_build {svc : Config.ServiceConfig} {p : Proxy}
    (h : build parseURL now svc = some p) : p.healthChecker.healthyTargets = [] := by
  unfold build at h
  split at h
  · cases h
  · cases hnew : newWithConfig parseURL now (serviceConfig svc) with
    | error e => simp [hnew, Except.toOption] at h
    | ok p' =>
        simp only [hnew, Except.toOption, Option.some.injEq] at h
        subst h
        obtain ⟨-, lb, -, -, rfl⟩ := newWithConfig_eq_ok.mp hnew
        rfl

theorem register_eq (proxies : String → Option Proxy) (svc : Config.ServiceConfig) :
    register parseURL now proxies svc =
      match build parseURL now svc with
      | some p => Function.update proxies svc.path (some p)
      | none => proxies := by
  unfold register build
  split
  · rfl
  · cases newWithConfig parseURL now (serviceConfig svc) <;> rfl

/-- The loop from any map: a path keeps what it had unless a service with
that path is registered, the last such one winning. -/
theorem foldl_register (acc : String → Option Proxy) (services : List Config.ServiceConfig)
    (path : String) :
    services.foldl (register parseURL now) acc path =
      (((services.filter fun svc => svc.path = path).filterMap (build parseURL now)).getLast? <|>
        acc path) := by
  induction services using List.reverseRecOn with
  | nil => simp
  | append_singleton services svc ih =>
      rw [List.foldl_append, List.foldl_cons, List.foldl_nil, register_eq]
      by_cases hpath : svc.path = path
      · cases hbuild : build parseURL now svc with
        | none => simpa [hpath, hbuild] using ih
        | some p => simp [hpath, hbuild]
      · have hskip : ((services ++ [svc]).filter fun svc => svc.path = path) =
            services.filter fun svc => svc.path = path := by
          simp [hpath]
        rw [hskip, ← ih]
        cases build parseURL now svc with
        | none => rfl
        | some p => exact Function.update_of_ne (Ne.symm hpath) _ _

/-- The proxy the gateway registers under a path is the one built for the
last service with that path whose proxy can be built, and there is none when
no such service can be built. -/
theorem initializeProxies_route (services : List Config.ServiceConfig) (path : String) :
    initializeProxies parseURL now services path =
      ((services.filter fun svc => svc.path = path).filterMap (build parseURL now)).getLast? := by
  rw [initializeProxies, foldl_register]
  cases ((services.filter fun svc => svc.path = path).filterMap (build parseURL now)).getLast? <;>
    rfl

/-- Every registered proxy is sound, and built from a service with its path
and its targets. -/
theorem route_sound {services : List Config.ServiceConfig} {path : String} {p : Proxy}
    (h : initializeProxies parseURL now services path = some p) :
    Sound p ∧ ∃ svc ∈ services, svc.path = path ∧ build parseURL now svc = some p := by
  rw [initializeProxies, foldl_register] at h
  simp only [Option.orElse_eq_orElse, Option.orElse_eq_or, Option.or_none] at h
  obtain ⟨svc, hsvc, hbuild⟩ := List.mem_filterMap.mp (List.mem_of_getLast? h)
  obtain ⟨hmem, hpath⟩ := List.mem_filter.mp hsvc
  exact ⟨sound_of_build hbuild, svc, hmem, by simpa using hpath, hbuild⟩

theorem build_isSome_iff (svc : Config.ServiceConfig) :
    (build parseURL now svc).isSome ↔ svc.targets ≠ [] ∧
      (∃ lb, LoadBalancer.newStrategy svc.loadBalancer = .ok lb) ∧
        ∀ target ∈ svc.targets, parseURL target = none := by
  unfold build
  by_cases htargets : svc.targets = []
  · simp [htargets]
  · rw [if_neg htargets]
    cases hnew : newWithConfig parseURL now (serviceConfig svc) with
    | error e =>
        have hfail : ¬((∃ lb, LoadBalancer.newStrategy svc.loadBalancer = .ok lb) ∧
            ∀ target ∈ svc.targets, parseURL target = none) := by
          rintro ⟨⟨lb, hlb⟩, hparse⟩
          have hok := (@newWithConfig_eq_ok parseURL now (serviceConfig svc) _).mpr
            ⟨htargets, lb, hlb, hparse, rfl⟩
          rw [hnew] at hok
          cases hok
        simpa [Except.toOption, htargets] using hfail
    | ok p =>
        obtain ⟨-, lb, hlb, hparse, -⟩ := newWithConfig_eq_ok.mp hnew
        simp only [Except.toOption, Option.isSome_some, true_iff]
        exact ⟨htargets, ⟨lb, hlb⟩, hparse⟩

/-- A path gets a proxy exactly when some service with that path has a
target, names a strategy `NewStrategy` knows, and has only targets that
parse. -/
theorem route_isSome_iff (services : List Config.ServiceConfig) (path : String) :
    (initializeProxies parseURL now services path).isSome ↔
      ∃ svc ∈ services, svc.path = path ∧ svc.targets ≠ [] ∧
        (∃ lb, LoadBalancer.newStrategy svc.loadBalancer = .ok lb) ∧
          ∀ target ∈ svc.targets, parseURL target = none := by
  rw [initializeProxies, foldl_register]
  simp only [Option.orElse_eq_orElse, Option.orElse_eq_or, Option.or_none]
  rw [List.getLast?_isSome, ne_eq, List.filterMap_eq_nil_iff]
  simp only [List.mem_filter, decide_eq_true_eq, not_forall,
    Option.ne_none_iff_isSome, build_isSome_iff]
  constructor
  · rintro ⟨svc, ⟨hmem, hpath⟩, hbuild⟩
    exact ⟨svc, hmem, hpath, hbuild⟩
  · rintro ⟨svc, hmem, hpath, hbuild⟩
    exact ⟨svc, ⟨hmem, hpath⟩, hbuild⟩

/-! The accessors the admin routes read a proxy through. -/

def circuitBreakerMetrics (p : Proxy) : CircuitBreaker.Metrics := p.circuitBreaker.metrics

/-- `ResetCircuitBreaker`, at the clock reading of its critical section. -/
def resetCircuitBreaker (p : Proxy) (resetAt : Int) : Proxy :=
  { p with circuitBreaker := p.circuitBreaker.reset resetAt }

def getHealthyTargets (p : Proxy) : List String := p.healthChecker.getHealthyTargets

def getAllTargets (p : Proxy) : List String := p.healthChecker.getAllTargets

def overallHealth (p : Proxy) : HealthCheck.HealthStatus := p.healthChecker.overallHealth

end Proxy

end ApiGateway
