import ApiGateway.Middleware.RateLimit

set_option linter.dupNamespace false

/-!
`Load` of `internal/config/config.go` from the point where the file has
been read and its JSON decoded: the environment overrides, then `validate`,
which checks the required settings in order, reports the first that is
missing, and defaults a non-positive JWT expiry to 24 hours. The environment
is a function from a variable's name to its value, the empty string when it
is unset. Of the settings, those that `applyEnvOverrides` and `validate`
touch are kept, with the services as the server builds its proxies from
them and the rate-limit tiers the middleware reads; the others (the
analytics settings, the Redis and database ports, the Redis DB and the SSL
mode) are left out.
-/

namespace ApiGateway.Config

structure ServerConfig where
  port : String
  environment : String
  deriving DecidableEq, Repr

structure RedisConfig where
  host : String
  password : String
  deriving DecidableEq, Repr

structure DatabaseConfig where
  host : String
  user : String
  password : String
  dbName : String
  deriving DecidableEq, Repr

structure JWTConfig where
  secret : String
  expiryHours : Int
  deriving DecidableEq, Repr

structure CircuitBreakerConfig where
  maxFailures : Int
  timeoutSeconds : Int
  halfOpenSuccess : Int
  deriving DecidableEq, Repr

structure HealthCheckConfig where
  endpoint : String
  intervalSeconds : Int
  timeoutSeconds : Int
  maxFailures : Int
  deriving DecidableEq, Repr

/-- A backend service; `circuit_breaker` and `health_check` may be absent. -/
structure ServiceConfig where
  path : String
  targets : List String
  loadBalancer : String
  circuitBreaker : Option CircuitBreakerConfig
  healthCheck : Option HealthCheckConfig
  deriving DecidableEq, Repr

structure Config where
  server : ServerConfig
  redis : RedisConfig
  database : DatabaseConfig
  jwt : JWTConfig
  services : List ServiceConfig
  rateLimitTiers : List Middleware.RateLimiterTier

/-- A variable that is set replaces the setting. -/
def override (env : String → String) (name current : String) : String :=
  if env name ≠ "" then env name else current

def applyEnvOverrides (env : String → String) (cfg : Config) : Config :=
  { cfg with
    server := { cfg.server with
      port := override env "PORT" cfg.server.port
      environment := override env "ENVIRONMENT" cfg.server.environment }
    redis := { cfg.redis with
      host := override env "REDIS_HOST" cfg.redis.host
      password := override env "REDIS_PASSWORD" cfg.redis.password }
    database := { cfg.database with
      host := override env "DB_HOST" cfg.database.host
      user := override env "DB_USER" cfg.database.user
      password := override env "DB_PASSWORD" cfg.database.password
      dbName := override env "DB_NAME" cfg.database.dbName }
    jwt := { cfg.jwt with secret := override env "JWT_SECRET" cfg.jwt.secret } }

/-- The loop of `validate` over the services, the `i`-th first. -/
def validateServices : List ServiceConfig → Nat → Except String Unit
  | [], _ => .ok ()
  | svc :: rest, i =>
      if svc.path = "" then .error ("service " ++ toString i ++ ": path is required")
      else if svc.targets = [] then
        .error ("service " ++ toString i ++ ": at least one target is required")
      else validateServices rest (i + 1)

/-- `validate`, which returns the configuration with its default expiry. -/
def validate (cfg : Config) : Except String Config :=
  if cfg.server.port = "" then .error "server port is required"
  else if cfg.redis.host = "" then .error "redis host is required"
  else if cfg.database.host = "" then .error "database host is required"
  else if cfg.database.dbName = "" then .error "database name is required"
  else if cfg.services = [] then .error "at least one service must be configured"
  else
    match validateServices cfg.services 0 with
    | .error e => .error e
    | .ok () =>
        if cfg.jwt.secret = "" then .error "JWT secret is required"
        else if cfg.jwt.expiryHours ≤ 0 then
          .ok { cfg with jwt := { cfg.jwt with expiryHours := 24 } }
        else .ok cfg

/-- `Load` of a decoded file. -/
def load (env : String → String) (cfg : Config) : Except String Config :=
  match validate (applyEnvOverrides env cfg) with
  | .error e => .error ("invalid configuration: " ++ e)
  | .ok cfg => .ok cfg

/-- The settings `validate` requires. -/
structure Required (cfg : Config) : Prop where
  port : cfg.server.port ≠ ""
  redisHost : cfg.redis.host ≠ ""
  databaseHost : cfg.database.host ≠ ""
  databaseName : cfg.database.dbName ≠ ""
  services : cfg.services ≠ []
  paths : ∀ svc ∈ cfg.services, svc.path ≠ ""
  targets : ∀ svc ∈ cfg.services, svc.targets ≠ []
  secret : cfg.jwt.secret ≠ ""

/-- What holds of every configuration `Load` returns. -/
structure Valid (cfg : Config) : Prop where
  required : Required cfg
  expiry : 0 < cfg.jwt.expiryHours

/-- A configuration the rest of the gateway can be built from. -/
def ValidConfig : Type := { cfg : Config // Valid cfg }

theorem validateServices_ok_iff :
    ∀ (services : List ServiceConfig) (i : Nat), validateServices services i = .ok () ↔
      ∀ svc ∈ services, svc.path ≠ "" ∧ svc.targets ≠ []
  | [], _ => by simp [validateServices]
  | svc :: rest, i => by
      rw [validateServices, List.forall_mem_cons, ← validateServices_ok_iff rest (i + 1)]
      by_cases hpath : svc.path = ""
      · simp [hpath]
      · by_cases htargets : svc.targets = []
        · simp [hpath, htargets]
        · simp [hpath, htargets]

/-- An error of the loop names a service by its position and the setting
that it lacks. -/
theorem validateServices_error :
    ∀ (services : List ServiceConfig) (i : Nat) (e : String),
      validateServices services i = .error e →
      ∃ (j : Nat) (svc : ServiceConfig), services[j]? = some svc ∧
        (e = "service " ++ toString (i + j) ++ ": path is required" ∧ svc.path = "" ∨
          e = "service " ++ toString (i + j) ++ ": at least one target is required" ∧
            svc.targets = [])
  | [], _, _, h => by simp [validateServices] at h
  | svc :: rest, i, e, h => by
      rw [validateServices] at h
      by_cases hpath : svc.path = ""
      · rw [if_pos hpath] at h
        cases h
        exact ⟨0, svc, rfl, .inl ⟨rfl, hpath⟩⟩
      · rw [if_neg hpath] at h
        by_cases htargets : svc.targets = []
        · rw [if_pos htargets] at h
          cases h
          exact ⟨0, svc, rfl, .inr ⟨rfl, htargets⟩⟩
        · rw [if_neg htargets] at h
          obtain ⟨j, svc', hj, he⟩ := validateServices_error rest (i + 1) e h
          refine ⟨j + 1, svc', by simpa using hj, ?_⟩
          rwa [show i + (j + 1) = i + 1 + j by omega]

/-- `validate` accepts exactly the configurations with every required
setting, and then only defaults the expiry. -/
theorem validate_eq_ok_iff (cfg cfg' : Config) :
    validate cfg = .ok cfg' ↔ Required cfg ∧
      cfg' = if cfg.jwt.expiryHours ≤ 0 then { cfg with jwt := { cfg.jwt with expiryHours := 24 } }
        else cfg := by
  have hloop := validateServices_ok_iff cfg.services 0
  constructor
  · intro h
    have hport : cfg.server.port ≠ "" := fun hport => by simp [validate, hport] at h
    have hredis : cfg.redis.host ≠ "" := fun hredis => by simp [validate, hport, hredis] at h
    have hhost : cfg.database.host ≠ "" := fun hhost => by
      simp [validate, hport, hredis, hhost] at h
    have hname : cfg.database.dbName ≠ "" := fun hname => by
      simp [validate, hport, hredis, hhost, hname] at h
    have hservices : cfg.services ≠ [] := fun hservices => by
      simp [validate, hport, hredis, hhost, hname, hservices] at h
    have hcheck : validateServices cfg.services 0 = .ok () := by
      cases hc : validateServices cfg.services 0 with
      | error e => simp [validate, hport, hredis, hhost, hname, hservices, hc] at h
      | ok u => rfl
    have hsecret : cfg.jwt.secret ≠ "" := fun hsecret => by
      simp [validate, hport, hredis, hhost, hname, hservices, hcheck, hsecret] at h
    have hall := hloop.mp hcheck
    refine ⟨⟨hport, hredis, hhost, hname, hservices, fun svc hsvc => (hall svc hsvc).1,
      fun svc hsvc => (hall svc hsvc).2, hsecret⟩, ?_⟩
    simp only [validate, hport, hredis, hhost, hname, hservices, hcheck, hsecret, if_false] at h
    by_cases hexpiry : cfg.jwt.expiryHours ≤ 0
    · simp only [hexpiry, if_true, Except.ok.injEq] at h
      simp [hexpiry, h]
    · simp only [hexpiry, if_false, Except.ok.injEq] at h
      subst h
      simp [hexpiry]
  · rintro ⟨hreq, rfl⟩
    have hcheck : validateServices cfg.services 0 = .ok () :=
      hloop.mpr fun svc hsvc => ⟨hreq.paths svc hsvc, hreq.targets svc hsvc⟩
    simp only [validate, if_neg hreq.port, if_neg hreq.redisHost, if_neg hreq.databaseHost,
      if_neg hreq.databaseName, if_neg hreq.services, hcheck, if_neg hreq.secret]
    by_cases hexpiry : cfg.jwt.expiryHours ≤ 0
    · simp [hexpiry]
    · simp [hexpiry]

/-- What `validate` returns is valid: the default expiry passes the check
that triggers it. -/
theorem valid_of_validate {cfg cfg' : Config} (h : validate cfg = .ok cfg') : Valid cfg' := by
  obtain ⟨hreq, rfl⟩ := (validate_eq_ok_iff cfg cfg').mp h
  by_cases hexpiry : cfg.jwt.expiryHours ≤ 0
  · rw [if_pos hexpiry]
    exact ⟨⟨hreq.port, hreq.redisHost, hreq.databaseHost, hreq.databaseName, hreq.services,
      hreq.paths, hreq.targets, hreq.secret⟩, show (0 : Int) < 24 by decide⟩
  · rw [if_neg hexpiry]
    exact ⟨hreq, by omega⟩

/-- Every error of `validate` is the message of a check that failed, and
names the setting that the check reads. -/
theorem validate_error {cfg : Config} {e : String} (h : validate cfg = .error e) :
    e = "server port is required" ∧ cfg.server.port = "" ∨
      e = "redis host is required" ∧ cfg.redis.host = "" ∨
      e = "database host is required" ∧ cfg.database.host = "" ∨
      e = "database name is required" ∧ cfg.database.dbName = "" ∨
      e = "at least one service must be configured" ∧ cfg.services = [] ∨
      (∃ (j : Nat) (svc : ServiceConfig), cfg.services[j]? = some svc ∧
        (e = "service " ++ toString j ++ ": path is required" ∧ svc.path = "" ∨
          e = "service " ++ toString j ++ ": at least one target is required" ∧
            svc.targets = [])) ∨
      e = "JWT secret is required" ∧ cfg.jwt.secret = "" := by
  by_cases hport : cfg.server.port = ""
  · simp [validate, hport] at h
    exact .inl ⟨h.symm, hport⟩
  by_cases hredis : cfg.redis.host = ""
  · simp [validate, hport, hredis] at h
    exact .inr (.inl ⟨h.symm, hredis⟩)
  by_cases hhost : cfg.database.host = ""
  · simp [validate, hport, hredis, hhost] at h
    exact .inr (.inr (.inl ⟨h.symm, hhost⟩))
  by_cases hname : cfg.database.dbName = ""
  · simp [validate, hport, hredis, hhost, hname] at h
    exact .inr (.inr (.inr (.inl ⟨h.symm, hname⟩)))
  by_cases hservices : cfg.services = []
  · simp [validate, hport, hredis, hhost, hname, hservices] at h
    exact .inr (.inr (.inr (.inr (.inl ⟨h.symm, hservices⟩))))
  cases hcheck : validateServices cfg.services 0 with
  | error e' =>
      simp [validate, hport, hredis, hhost, hname, hservices, hcheck] at h
      subst h
      obtain ⟨j, svc, hj, he⟩ := validateServices_error cfg.services 0 e' hcheck
      simp only [Nat.zero_add] at he
      exact .inr (.inr (.inr (.inr (.inr (.inl ⟨j, svc, hj, he⟩)))))
  | ok u =>
      by_cases hsecret : cfg.jwt.secret = ""
      · simp [validate, hport, hredis, hhost, hname, hservices, hcheck, hsecret] at h
        exact .inr (.inr (.inr (.inr (.inr (.inr ⟨h.symm, hsecret⟩)))))
      · simp only [validate, hport, hredis, hhost, hname, hservices, hcheck, hsecret, if_false] at h
        split at h <;> cases h

example : validate ⟨⟨"8080", ""⟩, ⟨"localhost", ""⟩, ⟨"localhost", "", "", "gateway"⟩,
    ⟨"secret", 0⟩,
    [⟨"/api/users", ["http://localhost:3001"], "round-robin", none, none⟩,
      ⟨"/api/orders", [], "least_connections", none, none⟩], []⟩ =
      .error "service 1: at least one target is required" := by
  rfl

/-- A setting an override leaves non-empty was non-empty, or its variable is
set. -/
theorem override_ne_empty (env : String → String) (name : String) {current : String}
    (h : current ≠ "") : override env name current ≠ "" := by
  unfold override
  split
  · assumption
  · exact h

/-- The environment can only supply required settings: a configuration
that has them keeps them under any overrides. -/
theorem Required.applyEnvOverrides {cfg : Config} (h : Required cfg) (env : String → String) :
    Required (applyEnvOverrides env cfg) :=
  ⟨override_ne_empty env "PORT" h.port, override_ne_empty env "REDIS_HOST" h.redisHost,
    override_ne_empty env "DB_HOST" h.databaseHost, override_ne_empty env "DB_NAME" h.databaseName,
    h.services, h.paths, h.targets, override_ne_empty env "JWT_SECRET" h.secret⟩

theorem load_eq_ok {env : String → String} {cfg cfg' : Config} :
    load env cfg = .ok cfg' ↔ validate (applyEnvOverrides env cfg) = .ok cfg' := by
  unfold load
  cases validate (applyEnvOverrides env cfg) with
  | error e => simp
  | ok validated => rfl

/-- `Load` returns only valid configurations, and it accepts every decoded
file that has the required settings, whatever the environment. -/
theorem load_spec (env : String → String) (cfg : Config) :
    (∀ cfg', load env cfg = .ok cfg' → Valid cfg') ∧
      (Required cfg → ∃ cfg', load env cfg = .ok cfg') := by
  refine ⟨fun cfg' h => valid_of_validate (load_eq_ok.mp h), fun hreq => ?_⟩
  have hvalid := (validate_eq_ok_iff (applyEnvOverrides env cfg) _).mpr
    ⟨hreq.applyEnvOverrides env, rfl⟩
  exact ⟨_, load_eq_ok.mpr hvalid⟩

/-- `Load` with the validity of its result attached. -/
def loadValid (env : String → String) (cfg : Config) : Except String ValidConfig :=
  match h : load env cfg with
  | .error e => .error e
  | .ok cfg' => .ok ⟨cfg', valid_of_validate (load_eq_ok.mp h)⟩

theorem loadValid_val (env : String → String) (cfg : Config) :
    (loadValid env cfg).map Subtype.val = load env cfg := by
  unfold loadValid
  split
  · rename_i e hload
    exact hload.symm
  · rename_i cfg' hload
    exact hload.symm

/-- A second `validate` of what the first returned returns it unchanged. -/
theorem validate_validate {cfg cfg' : Config} (h : validate cfg = .ok cfg') :
    validate cfg' = .ok cfg' := by
  have hvalid := valid_of_validate h
  rw [validate_eq_ok_iff]
  exact ⟨hvalid.required, by rw [if_neg (by have := hvalid.expiry; omega)]⟩

end ApiGateway.Config
