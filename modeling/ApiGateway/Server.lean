import ApiGateway.Gin
import ApiGateway.Middleware.Auth
import ApiGateway.Middleware.RequestLogger
import ApiGateway.Service.Auth
import ApiGateway.Service.Lifecycle

/-!
The gateway's answer to one request, as `internal/server/server.go` wires
it: the global middleware of `setupMiddleware` in its order, the `/auth`
routes, the API-key routes of the `/admin` group, whose group adds
`RequireAuth`, and gin's 404 for a request that no route matches. Recovery
and Logger are left out of the chain: no modelled handler panics, and Logger
only writes the process log. The rate-limit counters and the API-key cache
live in one Redis under distinct key prefixes, and are two stores here. The
proxied routes, `/health` and the other admin routes are not modelled.

A request comes with the route gin's router matched for its method and
path, its body already bound, and with the clock readings and random values
its handlers take. A run of the server interleaves requests with the steps
of the request log's worker and with the `UpdateLastUsed` goroutines that
the API-key validator starts.
-/

namespace ApiGateway

/-- The values the gateway's handlers store with `c.Set`. -/
inductive Value where
  | str (s : String)
  | uuid (id : String)
  | apiKey (k : APIKey)
  | claim (v : Option Middleware.Json)

/-- The route gin's router matched, with its bound body or path parameter. -/
inductive Route where
  | register (email password name : String)
  | login (email password : String)
  | me
  | apiKey (call : APIKeyHandler.Call)

structure Request where
  method : String
  path : String
  header : String → String
  clientIP : String
  userAgent : String
  route : Option Route

/-- A request with the clock readings and the random values its handlers
take: the two readings of `RequestLogger`, those of the API-key cache, of
the rate limiter, of `jwt.Parse` and of the route's handler, Login's second
reading for `iat`, the `uuid.New()` of RequestID and of `BeforeCreate`, and
bcrypt's salt. -/
structure Arrival where
  request : Request
  start : Int
  validateAt : Int
  limitAt : Middleware.Readings
  authAt : Int
  handlerAt : Int
  iatAt : Int
  doneAt : Int
  requestID : String
  userID : String
  salt : String

inductive Body where
  | fields (fields : List (String × Middleware.Json))
  | apiKey (k : APIKey)
  | user (u : User)
  | empty
  | text (s : String)
  deriving DecidableEq, Repr

structure Answer where
  status : Nat
  body : Body
  deriving DecidableEq, Repr

/-- The gateway's state: the stores, the request log, and the ids of the
`UpdateLastUsed` goroutines started and not yet run. -/
structure Server where
  apiKeys : APIKeyService
  limits : Redis.Store RateLimit.BucketState
  auth : AuthService
  requestLog : Middleware.RequestLogger.State Middleware.RequestLog
  lastUsed : List String

namespace Server

abbrev Stage := Gin.Stage Arrival Server Value Answer

abbrev Handler := Gin.Handler Arrival Server Value Answer

/-- A handler that does not call `c.Next()`: nothing of it runs after the
rest of the chain. -/
def pre (before : Arrival → Gin.Context Value → Server → Gin.Outcome Value Answer × Server) :
    Stage :=
  ⟨before, fun _ _ _ s => s⟩

@[simp] theorem pre_before (before : Arrival → Gin.Context Value → Server →
    Gin.Outcome Value Answer × Server) : (pre before).before = before := rfl

@[simp] theorem pre_after (before : Arrival → Gin.Context Value → Server →
    Gin.Outcome Value Answer × Server) (a : Arrival) (c : Gin.Context Value) (answer : Answer)
    (s : Server) : (pre before).after a c answer s = s := rfl

/-- The request's `X-Request-ID`, or a fresh one when it has none. -/
def requestIDOf (a : Arrival) : String :=
  if a.request.header "X-Request-ID" = "" then a.requestID else a.request.header "X-Request-ID"

/-- `RequestID()`. -/
def requestID : Stage := pre fun a c s =>
  (.next ((c.set "request_id" (.str (requestIDOf a))).header "X-Request-ID" (requestIDOf a)), s)

/-- What `RequestLogger` reads once the rest of the chain has answered; the
`api_key_id` it finds is a UUID only when the validator stored one. -/
def requestInfo (a : Arrival) (c : Gin.Context Value) (answer : Answer) :
    Middleware.RequestInfo where
  method := a.request.method
  path := a.request.path
  statusCode := answer.status
  clientIP := a.request.clientIP
  userAgent := a.request.userAgent
  apiKeyID := match c.get "api_key_id" with
    | some (.uuid id) => some id
    | _ => none
  header := a.request.header

/-- The entry `RequestLogger()` offers for a request. -/
def requestEntry (a : Arrival) (c : Gin.Context Value) (answer : Answer) :
    Middleware.RequestLog :=
  Middleware.logEntry (requestInfo a c answer) a.start a.doneAt

/-- `RequestLogger()`: after the rest of the chain, the request's entry is
offered to the log channel. -/
def requestLogger : Stage where
  before _ c s := (.next c, s)
  after a c answer s :=
    { s with requestLog :=
        Middleware.RequestLogger.step s.requestLog (.log (requestEntry a c answer)) }

/-- The five headers `CORS()` sets. -/
def corsHeaders (c : Gin.Context Value) : Gin.Context Value :=
  c.setHeaders
    [("Access-Control-Allow-Origin", "*"),
      ("Access-Control-Allow-Methods", "GET, POST, PUT, DELETE, OPTIONS"),
      ("Access-Control-Allow-Headers", "Origin, Content-Type, Content-Length, Accept-Encoding, " ++
        "X-CSRF-Token, Authorization, X-API-Key"),
      ("Access-Control-Expose-Headers", "Content-Length, X-RateLimit-Limit, " ++
        "X-RateLimit-Remaining, X-RateLimit-Reset"),
      ("Access-Control-Allow-Credentials", "true")]

/-- `CORS()`: a preflight `OPTIONS` is answered 204 at once. -/
def cors : Stage := pre fun a c s =>
  if a.request.method = "OPTIONS" then (.abort (corsHeaders c) ⟨204, .empty⟩, s)
  else (.next (corsHeaders c), s)

/-- What `APIKeyValidator` stores for a key that validates. -/
def setAPIKey (c : Gin.Context Value) (apiKey : APIKey) : Gin.Context Value :=
  ((c.set "api_key" (.apiKey apiKey)).set "api_key_id" (.uuid apiKey.id)).set "api_key_tier"
    (.str apiKey.tier)

/-- `APIKeyValidator(apiKeyService)`. The `UpdateLastUsed` it starts for a key
that validates joins the goroutines pending. -/
def apiKeyValidator (sha256Hex : String → String) : Stage := pre fun a c s =>
  match ApiGateway.apiKeyValidator sha256Hex s.apiKeys a.validateAt
      (a.request.header "X-API-Key") with
  | (.abort status _ body, _, apiKeys) => (.abort c ⟨status, .fields body⟩, { s with apiKeys })
  | (.next _, none, apiKeys) => (.next c, { s with apiKeys })
  | (.next _, some apiKey, apiKeys) =>
      (.next (setAPIKey c apiKey), { s with apiKeys, lastUsed := s.lastUsed ++ [apiKey.id] })

/-- `c.Get("api_key")` asserted to a key. -/
def apiKeyOf (c : Gin.Context Value) : Option APIKey :=
  match c.get "api_key" with
  | some (.apiKey k) => some k
  | _ => none

/-- `RateLimitWithTier(redis, cfg)`. -/
def rateLimitWithTier (cfg : Middleware.Config) : Stage := pre fun a c s =>
  match Middleware.rateLimitWithTier cfg s.limits (apiKeyOf c) a.request.clientIP a.limitAt with
  | (.next headers, limits) => (.next (c.setHeaders headers), { s with limits })
  | (.abort status headers body, limits) =>
      (.abort (c.setHeaders headers) ⟨status, .fields body⟩, { s with limits })

/-- What `RequireAuth` stores from the token's claims; a claim the token
lacks is stored as nil. -/
def setClaims (c : Gin.Context Value) (claims : List (String × Middleware.Json)) :
    Gin.Context Value :=
  ((c.set "user_id" (.claim (claims.lookup "user_id"))).set "email"
    (.claim (claims.lookup "email"))).set "role" (.claim (claims.lookup "role"))

/-- `RequireAuth(authService)`. -/
def requireAuth (crypto : Crypto) : Stage := pre fun a c s =>
  match Middleware.requireAuth (s.auth.validateToken crypto a.authAt)
      (a.request.header "Authorization") with
  | .error message => (.abort c ⟨401, .fields [("error", .str message)]⟩, s)
  | .ok claims => (.next (setClaims c claims), s)

/-- `setupMiddleware`, without Recovery and Logger. -/
def setupMiddleware (sha256Hex : String → String) (cfg : Middleware.Config) : List Stage :=
  [requestID, requestLogger, cors, apiKeyValidator sha256Hex, rateLimitWithTier cfg]

section Frames

variable {a : Arrival} {c c' : Gin.Context Value} {s s' : Server}

@[simp] theorem requestID_before (a : Arrival) (c : Gin.Context Value) (s : Server) :
    requestID.before a c s =
      (.next ((c.set "request_id" (.str (requestIDOf a))).header "X-Request-ID" (requestIDOf a)),
        s) := rfl

@[simp] theorem requestLogger_before (a : Arrival) (c : Gin.Context Value) (s : Server) :
    requestLogger.before a c s = (.next c, s) := rfl

@[simp] theorem requestLogger_after (a : Arrival) (c : Gin.Context Value) (answer : Answer)
    (s : Server) :
    requestLogger.after a c answer s =
      { s with requestLog :=
          Middleware.RequestLogger.step s.requestLog (.log (requestEntry a c answer)) } := rfl

@[simp] theorem get_corsHeaders (c : Gin.Context Value) (key : String) :
    (corsHeaders c).get key = c.get key := by
  simp [corsHeaders]

theorem cors_before_of_options (h : a.request.method = "OPTIONS") (c : Gin.Context Value)
    (s : Server) : cors.before a c s = (.abort (corsHeaders c) ⟨204, .empty⟩, s) := by
  simp [cors, h]

theorem cors_before_of_ne (h : a.request.method ≠ "OPTIONS") (c : Gin.Context Value)
    (s : Server) : cors.before a c s = (.next (corsHeaders c), s) := by
  simp [cors, h]

theorem get_setAPIKey_of_not_mem (c : Gin.Context Value) (apiKey : APIKey) {key : String}
    (h : key ∉ ["api_key", "api_key_id", "api_key_tier"]) :
    (setAPIKey c apiKey).get key = c.get key := by
  simp only [List.mem_cons, List.not_mem_nil, or_false, not_or] at h
  simp [setAPIKey, Ne.symm h.1, Ne.symm h.2.1, Ne.symm h.2.2]

/-- The validator changes the API-key service and starts goroutines, and
changes nothing else. -/
theorem apiKeyValidator_state (sha256Hex : String → String) (a : Arrival)
    (c : Gin.Context Value) (s : Server) :
    ∃ started, ((apiKeyValidator sha256Hex).before a c s).2 =
      { s with
        apiKeys := (ApiGateway.apiKeyValidator sha256Hex s.apiKeys a.validateAt
          (a.request.header "X-API-Key")).2.2
        lastUsed := s.lastUsed ++ started } := by
  simp only [apiKeyValidator, pre_before]
  split
  · rename_i hvalidate
    exact ⟨[], by simp [hvalidate]⟩
  · rename_i hvalidate
    exact ⟨[], by simp [hvalidate]⟩
  · rename_i apiKey _ hvalidate
    exact ⟨[apiKey.id], by rw [hvalidate]⟩

theorem apiKeyValidator_next {sha256Hex : String → String}
    (h : (apiKeyValidator sha256Hex).before a c s = (.next c', s')) :
    c' = c ∨ ∃ apiKey, c' = setAPIKey c apiKey := by
  simp only [apiKeyValidator, pre_before] at h
  split at h
  · cases h
  · cases h
    exact Or.inl rfl
  · rename_i apiKey _ _
    cases h
    exact Or.inr ⟨apiKey, rfl⟩

/-- The rate limiter changes its counters only. -/
theorem rateLimitWithTier_state (cfg : Middleware.Config) (a : Arrival) (c : Gin.Context Value)
    (s : Server) :
    ((rateLimitWithTier cfg).before a c s).2 =
      { s with limits := (Middleware.rateLimitWithTier cfg s.limits (apiKeyOf c)
          a.request.clientIP a.limitAt).2 } := by
  simp only [rateLimitWithTier, pre_before]
  split <;> rename_i hlimit <;> rw [hlimit]

theorem rateLimitWithTier_next {cfg : Middleware.Config}
    (h : (rateLimitWithTier cfg).before a c s = (.next c', s')) :
    ∃ headers, c' = c.setHeaders headers := by
  simp only [rateLimitWithTier, pre_before] at h
  split at h
  · rename_i headers _ _
    cases h
    exact ⟨headers, rfl⟩
  · cases h

@[simp] theorem requireAuth_state (crypto : Crypto) (a : Arrival) (c : Gin.Context Value)
    (s : Server) : ((requireAuth crypto).before a c s).2 = s := by
  simp only [requireAuth, pre_before]
  split <;> rfl

theorem requireAuth_next {crypto : Crypto}
    (h : (requireAuth crypto).before a c s = (.next c', s')) :
    ∃ claims, Middleware.requireAuth (s.auth.validateToken crypto a.authAt)
      (a.request.header "Authorization") = .ok claims ∧ c' = setClaims c claims := by
  simp only [requireAuth, pre_before] at h
  split at h
  · cases h
  · rename_i claims hclaims
    cases h
    exact ⟨claims, hclaims, rfl⟩

theorem requestID_setsOnly : requestID.SetsOnly ["request_id"] := by
  intro a c s c' s' h key hkey
  simp only [requestID_before, Prod.mk.injEq, Gin.Outcome.next.injEq] at h
  have hne : "request_id" ≠ key := by
    rintro rfl
    exact hkey (List.mem_singleton_self _)
  rw [← h.1, Gin.Context.get_header, Gin.Context.get_set_of_ne _ _ hne]

theorem requestLogger_setsOnly : requestLogger.SetsOnly [] := by
  intro a c s c' s' h key _
  simp only [requestLogger_before, Prod.mk.injEq, Gin.Outcome.next.injEq] at h
  rw [← h.1]

theorem cors_setsOnly : cors.SetsOnly [] := by
  intro a c s c' s' h key _
  by_cases hoptions : a.request.method = "OPTIONS"
  · rw [cors_before_of_options hoptions] at h
    cases h
  · rw [cors_before_of_ne hoptions] at h
    cases h
    exact get_corsHeaders c key

theorem apiKeyValidator_setsOnly (sha256Hex : String → String) :
    (apiKeyValidator sha256Hex).SetsOnly ["api_key", "api_key_id", "api_key_tier"] := by
  intro a c s c' s' h key hkey
  rcases apiKeyValidator_next h with rfl | ⟨apiKey, rfl⟩
  · rfl
  · exact get_setAPIKey_of_not_mem c apiKey hkey

theorem rateLimitWithTier_setsOnly (cfg : Middleware.Config) :
    (rateLimitWithTier cfg).SetsOnly [] := by
  intro a c s c' s' h key _
  obtain ⟨headers, rfl⟩ := rateLimitWithTier_next h
  exact Gin.Context.get_setHeaders c headers key

/-- The stage leaves the request log as it is, before and after the rest. -/
def KeepsLog (stage : Stage) : Prop :=
  (∀ a c s, (stage.before a c s).2.requestLog = s.requestLog) ∧
    ∀ a c answer s, (stage.after a c answer s).requestLog = s.requestLog

theorem keepsLog_cors : KeepsLog cors := by
  refine ⟨fun a c s => ?_, fun _ _ _ _ => rfl⟩
  by_cases hoptions : a.request.method = "OPTIONS"
  · rw [cors_before_of_options hoptions]
  · rw [cors_before_of_ne hoptions]

theorem keepsLog_apiKeyValidator (sha256Hex : String → String) :
    KeepsLog (apiKeyValidator sha256Hex) := by
  refine ⟨fun a c s => ?_, fun _ _ _ _ => rfl⟩
  obtain ⟨started, hstate⟩ := apiKeyValidator_state sha256Hex a c s
  rw [hstate]

theorem keepsLog_rateLimitWithTier (cfg : Middleware.Config) :
    KeepsLog (rateLimitWithTier cfg) :=
  ⟨fun a c s => by rw [rateLimitWithTier_state], fun _ _ _ _ => rfl⟩

theorem keepsLog_requireAuth (crypto : Crypto) : KeepsLog (requireAuth crypto) :=
  ⟨fun a c s => by rw [requireAuth_state], fun _ _ _ _ => rfl⟩

end Frames

end Server

namespace AuthHandler

open Server

/-- `Register`. -/
def register (crypto : Crypto) (email password name : String) : Handler := fun a c s =>
  match s.auth.register crypto a.userID a.salt email password name with
  | .error e => ⟨c, ⟨400, .fields [("error", .str e)]⟩, s⟩
  | .ok auth =>
      ⟨c, ⟨201, .fields [("message", .str "User registered successfully")]⟩, { s with auth }⟩

/-- `Login`. -/
def login (crypto : Crypto) (email password : String) : Handler := fun a c s =>
  match s.auth.login crypto email password a.handlerAt a.iatAt with
  | .error e => ⟨c, ⟨401, .fields [("error", .str e)]⟩, s⟩
  | .ok tokenString =>
      ⟨c, ⟨200, .fields [("token", .str tokenString), ("type", .str "Bearer")]⟩, s⟩

/-- `userID.(string)`: the string a value holds, or nothing when the
assertion panics. -/
def asString : Value → Option String
  | .str s => some s
  | .claim (some (.str s)) => some s
  | _ => none

/-- `Me`. A failed assertion panics, and Recovery answers 500. -/
def me : Handler := fun _ c s =>
  match c.get "user_id" with
  | none => ⟨c, ⟨401, .fields [("error", .str "Unauthorized")]⟩, s⟩
  | some userID =>
      match asString userID with
      | none => ⟨c, ⟨500, .fields [("error", .str "Internal Server Error")]⟩, s⟩
      | some id =>
          match s.auth.getUserByID id with
          | none => ⟨c, ⟨404, .fields [("error", .str "User not found")]⟩, s⟩
          | some user => ⟨c, ⟨200, .user user⟩, s⟩

end AuthHandler

namespace Server

/-- The reply of an API-key handler, as the gateway writes it. -/
def answerOf : APIKeyHandler.Reply → Answer
  | ⟨status, .fields fields⟩ => ⟨status, .fields fields⟩
  | ⟨status, .apiKey k⟩ => ⟨status, .apiKey k⟩

/-- The handlers of `/admin/keys/:id`. -/
def apiKeyRoute (call : APIKeyHandler.Call) : Handler := fun a c s =>
  let (reply, apiKeys) := APIKeyHandler.handle s.apiKeys a.handlerAt call
  ⟨c, answerOf reply, { s with apiKeys }⟩

/-- gin's answer when no route matches. -/
def notFound : Handler := fun _ c s => ⟨c, ⟨404, .text "404 page not found"⟩, s⟩

variable (crypto : Crypto) (sha256Hex : String → String) (cfg : Middleware.Config)

/-- The group middleware of a route: `RequireAuth` for the admin routes. -/
def groupStages : Option Route → List Stage
  | some (.apiKey _) => [requireAuth crypto]
  | _ => []

def routeHandler : Option Route → Handler
  | none => notFound
  | some (.register email password name) => AuthHandler.register crypto email password name
  | some (.login email password) => AuthHandler.login crypto email password
  | some .me => AuthHandler.me
  | some (.apiKey call) => apiKeyRoute call

theorem keepsLog_groupStages (route : Option Route) :
    ∀ stage ∈ groupStages crypto route, KeepsLog stage := by
  intro stage hstage
  rcases route with _ | (_ | _ | _ | call)
  all_goals simp only [groupStages, List.not_mem_nil, List.mem_singleton] at hstage
  subst hstage
  exact keepsLog_requireAuth crypto

/-- No handler writes the request log. -/
theorem routeHandler_requestLog (route : Option Route) (a : Arrival) (c : Gin.Context Value)
    (s : Server) : (routeHandler crypto route a c s).state.requestLog = s.requestLog := by
  rcases route with _ | (⟨email, password, name⟩ | ⟨email, password⟩ | _ | call)
  · rfl
  · simp only [routeHandler, AuthHandler.register]
    split <;> rfl
  · simp only [routeHandler, AuthHandler.login]
    split <;> rfl
  · simp only [routeHandler, AuthHandler.me]
    repeat' split
    all_goals rfl
  · rfl

/-- One request through the global chain, its group's and its handler. -/
def serve (s : Server) (a : Arrival) : Gin.Served Value Answer Server :=
  Gin.chain (setupMiddleware sha256Hex cfg ++ groupStages crypto a.request.route)
    (routeHandler crypto a.request.route) a Gin.Context.empty s

/-- `New`, with the request logger as `InitRequestLogger(postgres, 1000)`
starts it: the tables and Redis as they are, an empty log channel, and no
goroutine started. -/
def new (apiKeys : APIKeyService) (limits : Redis.Store RateLimit.BucketState)
    (users : AuthRepository) (secret : String) (expiryHours : Int) : Server where
  apiKeys := apiKeys
  limits := limits
  auth := newAuthService users secret expiryHours
  requestLog := Middleware.RequestLogger.init 1000
  lastUsed := []

/-- A request arriving, a step of the log worker, or the `i`-th pending
`UpdateLastUsed` goroutine running at its reading, whose UPDATE is written
or fails, as it does once the request's context is canceled. -/
inductive Event where
  | arrive (a : Arrival)
  | receive (insertOK : Bool)
  | tick (insertOK : Bool)
  | lastUsed (i : Nat) (now : Int) (written : Bool)

/-- One event of a run: a request answered, a step of the log worker, or a
goroutine's write. -/
def step (s : Server) : Event → Option Answer × Server
  | .arrive a =>
      let served := serve crypto sha256Hex cfg s a
      (some served.answer, served.state)
  | .receive insertOK =>
      (none,
        { s with requestLog := Middleware.RequestLogger.step s.requestLog (.receive insertOK) })
  | .tick insertOK =>
      (none, { s with requestLog := Middleware.RequestLogger.step s.requestLog (.tick insertOK) })
  | .lastUsed i now written =>
      match s.lastUsed[i]? with
      | none => (none, s)
      | some id =>
          (none,
            { s with
              apiKeys := if written then s.apiKeys.updateLastUsed now id else s.apiKeys
              lastUsed := s.lastUsed.eraseIdx i })

end Server

end ApiGateway
