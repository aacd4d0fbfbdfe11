import ApiGateway.Server
import Mathlib.Data.List.ReduceOption

/-!
What the server's wiring guarantees, for every request and every run.
`GET /auth/me` is outside the `/admin` group, so no middleware in front of it
stores a `user_id`, and it answers 401 to every request that reaches it.
The API-key handlers run only on requests with a bearer token that the auth
service validates. A preflight is answered 204 before the API key is checked
or the rate limiter counts it. Every request answered adds exactly one entry,
with its status, to the request log, queued or dropped, so a run of the
server projects onto a run of the log's worker.
-/

namespace ApiGateway.Server

variable (crypto : Crypto) (sha256Hex : String → String) (cfg : Middleware.Config)

/-- The context RequestID leaves on the empty one. -/
def startContext (a : Arrival) : Gin.Context Value :=
  (Gin.Context.empty.set "request_id" (.str (requestIDOf a))).header "X-Request-ID" (requestIDOf a)

/-- The chain behind RequestID and RequestLogger. -/
def innerServe (s : Server) (a : Arrival) : Gin.Served Value Answer Server :=
  Gin.chain ([cors, apiKeyValidator sha256Hex, rateLimitWithTier cfg] ++
    groupStages crypto a.request.route) (routeHandler crypto a.request.route) a (startContext a) s

/-- RequestID and RequestLogger always go on; RequestLogger's entry is
offered once the rest has answered. -/
theorem serve_eq (s : Server) (a : Arrival) :
    serve crypto sha256Hex cfg s a =
      { innerServe crypto sha256Hex cfg s a with
        state := requestLogger.after a (innerServe crypto sha256Hex cfg s a).context
          (innerServe crypto sha256Hex cfg s a).answer
          (innerServe crypto sha256Hex cfg s a).state } := by
  simp only [serve, setupMiddleware, List.cons_append]
  rw [Gin.chain_cons_of_next (requestID_before a Gin.Context.empty s),
    Gin.chain_cons_of_next (requestLogger_before a _ s)]
  rfl

/-- A preflight `OPTIONS` is answered 204 on every route, whatever API key or
token it carries, and changes nothing but the request log: not the API keys
or their cache, not the rate-limit counters, not the users. -/
theorem preflight_answered (s : Server) (a : Arrival) (hoptions : a.request.method = "OPTIONS") :
    (serve crypto sha256Hex cfg s a).answer = ⟨204, .empty⟩ ∧
      (serve crypto sha256Hex cfg s a).state =
        { s with requestLog := (serve crypto sha256Hex cfg s a).state.requestLog } := by
  have hinner : innerServe crypto sha256Hex cfg s a =
      ⟨corsHeaders (startContext a), ⟨204, .empty⟩, s⟩ :=
    Gin.chain_cons_of_abort (cors_before_of_options hoptions _ s) _ _
  rw [serve_eq, hinner]
  simp

theorem preflight_answered_unknown_key :
    (⟨⟨"OPTIONS", "/admin/keys/k1", fun h => if h = "X-API-Key" then "gw_unknown" else "",
        "203.0.113.7", "curl", some (.apiKey (.delete "k1"))⟩,
        0, 0, ⟨0, 0, 0, 0⟩, 0, 0, 0, 0, "r", "u", "salt"⟩ : Arrival).request.method =
        "OPTIONS" ∧
      (serve ⟨fun _ p => .ok p, fun h p => h == p, fun _ _ => .ok "token",
          fun _ _ _ => .error "token is malformed"⟩ id ⟨[]⟩
        (new ⟨⟨[], List.nodup_nil, List.nodup_nil⟩, Redis.empty⟩ Redis.empty
          AuthRepository.empty "secret" 24)
        ⟨⟨"OPTIONS", "/admin/keys/k1", fun h => if h = "X-API-Key" then "gw_unknown" else "",
          "203.0.113.7", "curl", some (.apiKey (.delete "k1"))⟩,
          0, 0, ⟨0, 0, 0, 0⟩, 0, 0, 0, 0, "r", "u", "salt"⟩).answer = ⟨204, .empty⟩ ∧
      (serve ⟨fun _ p => .ok p, fun h p => h == p, fun _ _ => .ok "token",
          fun _ _ _ => .error "token is malformed"⟩ id ⟨[]⟩
        (new ⟨⟨[], List.nodup_nil, List.nodup_nil⟩, Redis.empty⟩ Redis.empty
          AuthRepository.empty "secret" 24)
        ⟨⟨"OPTIONS", "/admin/keys/k1", fun h => if h = "X-API-Key" then "gw_unknown" else "",
          "203.0.113.7", "curl", some (.apiKey (.delete "k1"))⟩,
          0, 0, ⟨0, 0, 0, 0⟩, 0, 0, 0, 0, "r", "u", "salt"⟩).state =
        { new ⟨⟨[], List.nodup_nil, List.nodup_nil⟩, Redis.empty⟩ Redis.empty
            AuthRepository.empty "secret" 24 with
          requestLog := (serve ⟨fun _ p => .ok p, fun h p => h == p, fun _ _ => .ok "token",
              fun _ _ _ => .error "token is malformed"⟩ id ⟨[]⟩
            (new ⟨⟨[], List.nodup_nil, List.nodup_nil⟩, Redis.empty⟩ Redis.empty
              AuthRepository.empty "secret" 24)
            ⟨⟨"OPTIONS", "/admin/keys/k1", fun h => if h = "X-API-Key" then "gw_unknown" else "",
              "203.0.113.7", "curl", some (.apiKey (.delete "k1"))⟩,
              0, 0, ⟨0, 0, 0, 0⟩, 0, 0, 0, 0, "r", "u", "salt"⟩).state.requestLog } :=
  ⟨rfl, preflight_answered _ _ _ _ _ rfl⟩

/-- No global middleware stores a `user_id`. -/
theorem setupMiddleware_unset (stage : Stage) (hstage : stage ∈ setupMiddleware sha256Hex cfg) :
    ∃ keys, "user_id" ∉ keys ∧ stage.SetsOnly keys := by
  simp only [setupMiddleware, List.mem_cons, List.not_mem_nil, or_false] at hstage
  rcases hstage with rfl | rfl | rfl | rfl | rfl
  · exact ⟨_, by simp, requestID_setsOnly⟩
  · exact ⟨_, by simp, requestLogger_setsOnly⟩
  · exact ⟨_, by simp, cors_setsOnly⟩
  · exact ⟨_, by simp, apiKeyValidator_setsOnly sha256Hex⟩
  · exact ⟨_, by simp, rateLimitWithTier_setsOnly cfg⟩

/-- `GET /auth/me` answers every request as a handler that only ever answers
401 `Unauthorized` would: whatever the request carries, Me finds no
`user_id`, since `RequireAuth` runs only in the `/admin` group. -/
theorem me_unauthorized (s : Server) (a : Arrival) (hroute : a.request.route = some .me) :
    serve crypto sha256Hex cfg s a =
      Gin.chain (setupMiddleware sha256Hex cfg)
        (fun _ c s => ⟨c, ⟨401, .fields [("error", .str "Unauthorized")]⟩, s⟩)
        a Gin.Context.empty s := by
  unfold serve
  rw [hroute]
  simp only [groupStages, routeHandler, List.append_nil]
  refine Gin.chain_congr_of_unset (setupMiddleware_unset sha256Hex cfg) ?_ a Gin.Context.empty s
    (Gin.Context.get_empty "user_id")
  intro a c s hunset
  simp [AuthHandler.me, hunset]

theorem me_unauthorized_with_token :
    (⟨⟨"GET", "/auth/me", fun _ => "Bearer token", "203.0.113.7", "curl", some .me⟩,
        0, 0, ⟨0, 0, 0, 0⟩, 0, 0, 0, 0, "r", "u", "salt"⟩ : Arrival).request.route = some .me ∧
      serve ⟨fun _ p => .ok p, fun h p => h == p, fun _ _ => .ok "token",
          fun _ _ _ => .ok ⟨true, [("user_id", .str "u")]⟩⟩ id ⟨[]⟩
        (new ⟨⟨[], List.nodup_nil, List.nodup_nil⟩, Redis.empty⟩ Redis.empty
          AuthRepository.empty "secret" 24)
        ⟨⟨"GET", "/auth/me", fun _ => "Bearer token", "203.0.113.7", "curl", some .me⟩,
          0, 0, ⟨0, 0, 0, 0⟩, 0, 0, 0, 0, "r", "u", "salt"⟩ =
      Gin.chain (setupMiddleware id ⟨[]⟩)
        (fun _ c s => ⟨c, ⟨401, .fields [("error", .str "Unauthorized")]⟩, s⟩)
        ⟨⟨"GET", "/auth/me", fun _ => "Bearer token", "203.0.113.7", "curl", some .me⟩,
          0, 0, ⟨0, 0, 0, 0⟩, 0, 0, 0, 0, "r", "u", "salt"⟩ Gin.Context.empty
        (new ⟨⟨[], List.nodup_nil, List.nodup_nil⟩, Redis.empty⟩ Redis.empty
          AuthRepository.empty "secret" 24) :=
  ⟨rfl, me_unauthorized _ _ _ _ _ rfl⟩

/-- The request carries `Bearer <token>` with a token the auth service
validates, and the context holds the token's `user_id` claim. -/
def Authenticated (a : Arrival) (c : Gin.Context Value) (s : Server) : Prop :=
  ∃ tokenString claims, a.request.header "Authorization" = "Bearer " ++ tokenString ∧
    ' ' ∉ tokenString.toList ∧ s.auth.validateToken crypto a.authAt tokenString = .ok claims ∧
    c.get "user_id" = some (.claim (claims.lookup "user_id"))

theorem requireAuth_guards (a : Arrival) (c : Gin.Context Value) (s : Server)
    (c' : Gin.Context Value) (s' : Server)
    (h : (requireAuth crypto).before a c s = (.next c', s')) : Authenticated crypto a c' s' := by
  have hs : s' = s := by
    have hstate := requireAuth_state crypto a c s
    rwa [h] at hstate
  obtain ⟨claims, hclaims, rfl⟩ := requireAuth_next h
  obtain ⟨tokenString, hheader, hspace, hvalid⟩ := Middleware.bearer_of_requireAuth_ok hclaims
  subst hs
  exact ⟨tokenString, claims, hheader, hspace, hvalid, by simp [setClaims]⟩

/-- The API-key handlers are never run on a request without a bearer token
that the auth service validates: any handler that agrees with them on
authenticated requests serves every request on their routes alike. -/
theorem admin_requires_token (s : Server) (a : Arrival) {call : APIKeyHandler.Call}
    (hroute : a.request.route = some (.apiKey call)) (handler : Handler)
    (hagree : ∀ a c s, Authenticated crypto a c s → handler a c s = apiKeyRoute call a c s) :
    serve crypto sha256Hex cfg s a =
      Gin.chain (setupMiddleware sha256Hex cfg ++ [requireAuth crypto]) handler
        a Gin.Context.empty s := by
  unfold serve
  rw [hroute]
  simp only [groupStages, routeHandler]
  rw [Gin.chain_guarded (setupMiddleware sha256Hex cfg) (requireAuth_guards crypto)
    (fun a c s h => (hagree a c s h).symm)]

/-- The handler of `DELETE /admin/keys/k1` with a guard of its own: without a
`user_id` it answers 418 instead. -/
def guardedDelete : Handler := fun a c s =>
  match c.get "user_id" with
  | none => ⟨c, ⟨418, .empty⟩, s⟩
  | some _ => apiKeyRoute (.delete "k1") a c s

theorem admin_requires_token_delete :
    (⟨⟨"DELETE", "/admin/keys/k1", fun _ => "", "203.0.113.7", "curl",
        some (.apiKey (.delete "k1"))⟩,
        0, 0, ⟨0, 0, 0, 0⟩, 0, 0, 0, 0, "r", "u", "salt"⟩ : Arrival).request.route =
        some (.apiKey (.delete "k1")) ∧
      (∀ a c s, Authenticated ⟨fun _ p => .ok p, fun h p => h == p, fun _ _ => .ok "token",
          fun _ _ _ => .error "token is malformed"⟩ a c s →
        guardedDelete a c s = apiKeyRoute (.delete "k1") a c s) ∧
      serve ⟨fun _ p => .ok p, fun h p => h == p, fun _ _ => .ok "token",
          fun _ _ _ => .error "token is malformed"⟩ id ⟨[]⟩
        (new ⟨⟨[], List.nodup_nil, List.nodup_nil⟩, Redis.empty⟩ Redis.empty
          AuthRepository.empty "secret" 24)
        ⟨⟨"DELETE", "/admin/keys/k1", fun _ => "", "203.0.113.7", "curl",
          some (.apiKey (.delete "k1"))⟩, 0, 0, ⟨0, 0, 0, 0⟩, 0, 0, 0, 0, "r", "u", "salt"⟩ =
      Gin.chain (setupMiddleware id ⟨[]⟩ ++ [requireAuth ⟨fun _ p => .ok p, fun h p => h == p,
          fun _ _ => .ok "token", fun _ _ _ => .error "token is malformed"⟩])
        guardedDelete
        ⟨⟨"DELETE", "/admin/keys/k1", fun _ => "", "203.0.113.7", "curl",
          some (.apiKey (.delete "k1"))⟩, 0, 0, ⟨0, 0, 0, 0⟩, 0, 0, 0, 0, "r", "u", "salt"⟩
        Gin.Context.empty
        (new ⟨⟨[], List.nodup_nil, List.nodup_nil⟩, Redis.empty⟩ Redis.empty
          AuthRepository.empty "secret" 24) := by
  have hagree : ∀ a c s, Authenticated ⟨fun _ p => .ok p, fun h p => h == p,
      fun _ _ => .ok "token", fun _ _ _ => .error "token is malformed"⟩ a c s →
      guardedDelete a c s = apiKeyRoute (.delete "k1") a c s := by
    rintro a c s ⟨tokenString, claims, -, -, -, huser⟩
    simp [guardedDelete, huser]
  exact ⟨rfl, hagree, admin_requires_token _ _ _ _ _ rfl _ hagree⟩

/-- Each request answered offers one entry to the request log, with the
answer's status, and changes the log in no other way. -/
theorem serve_requestLog (s : Server) (a : Arrival) :
    ∃ entry : Middleware.RequestLog,
      entry.statusCode = ((serve crypto sha256Hex cfg s a).answer.status : Int) ∧
      (serve crypto sha256Hex cfg s a).state.requestLog =
        Middleware.RequestLogger.step s.requestLog (.log entry) := by
  have hinner : (innerServe crypto sha256Hex cfg s a).state.requestLog = s.requestLog := by
    refine Gin.chain_preserves (P := fun s' => s'.requestLog = s.requestLog) ?_ ?_ a _ s rfl
    · intro stage hstage
      have hkeeps : KeepsLog stage := by
        simp only [List.cons_append, List.nil_append, List.mem_cons] at hstage
        rcases hstage with rfl | rfl | rfl | hgroup
        · exact keepsLog_cors
        · exact keepsLog_apiKeyValidator sha256Hex
        · exact keepsLog_rateLimitWithTier cfg
        · exact keepsLog_groupStages crypto _ stage hgroup
      exact ⟨fun a c s hs => (hkeeps.1 a c s).trans hs,
        fun a c r s hs => (hkeeps.2 a c r s).trans hs⟩
    · intro a c s hs
      exact (routeHandler_requestLog crypto _ a c s).trans hs
  refine ⟨requestEntry a (innerServe crypto sha256Hex cfg s a).context
    (innerServe crypto sha256Hex cfg s a).answer, ?_, ?_⟩
  · rw [serve_eq]
    rfl
  · rw [serve_eq]
    simp [hinner]

/-- Each event of a run takes at most one step of the request log: the
answered request's entry offered with the answer's status, a step of the
worker, or none for a goroutine's write. -/
theorem step_requestLog (s : Server) (e : Event) :
    ∃ logEvents, (step crypto sha256Hex cfg s e).2.requestLog =
        Transition.run Middleware.RequestLogger.step s.requestLog logEvents ∧
      (Middleware.RequestLogger.offered logEvents).map Middleware.RequestLog.statusCode =
        ((step crypto sha256Hex cfg s e).1.map fun answer => (answer.status : Int)).toList := by
  cases e with
  | arrive a =>
      obtain ⟨entry, hstatus, hlog⟩ := serve_requestLog crypto sha256Hex cfg s a
      exact ⟨[.log entry], hlog, by simp [step, Middleware.RequestLogger.offered, hstatus]⟩
  | receive insertOK => exact ⟨[.receive insertOK], rfl, rfl⟩
  | tick insertOK => exact ⟨[.tick insertOK], rfl, rfl⟩
  | lastUsed i now written =>
      refine ⟨[], ?_, ?_⟩ <;> simp only [step] <;> split <;> rfl

theorem map_reduceOption_cons {α β : Type*} (f : α → β) (o : Option α) (l : List (Option α)) :
    (o :: l).reduceOption.map f = (o.map f).toList ++ l.reduceOption.map f := by
  cases o <;> simp

/-- A run of the server projects onto a run of the request log, whose entries
offered are those of the requests answered, with their statuses, in order. -/
theorem run_requestLog (s : Server) (events : List Event) :
    ∃ logEvents, (Transition.after (step crypto sha256Hex cfg) s events).requestLog =
        Transition.run Middleware.RequestLogger.step s.requestLog logEvents ∧
      (Middleware.RequestLogger.offered logEvents).map Middleware.RequestLog.statusCode =
        (Transition.outputs (step crypto sha256Hex cfg) s events).reduceOption.map
          fun answer => (answer.status : Int) := by
  induction events generalizing s with
  | nil => exact ⟨[], rfl, rfl⟩
  | cons e rest ih =>
      obtain ⟨first, hlog, hoffered⟩ := step_requestLog crypto sha256Hex cfg s e
      obtain ⟨logEvents, hrun, hrest⟩ := ih (step crypto sha256Hex cfg s e).2
      refine ⟨first ++ logEvents, ?_, ?_⟩
      · rw [Transition.after_cons, hrun, hlog, Transition.run_append]
      · have houtputs : Transition.outputs (step crypto sha256Hex cfg) s (e :: rest) =
            (step crypto sha256Hex cfg s e).1 ::
              Transition.outputs (step crypto sha256Hex cfg)
                (step crypto sha256Hex cfg s e).2 rest :=
          rfl
        rw [houtputs, map_reduceOption_cons, Middleware.RequestLogger.offered_append, List.map_append,
          hoffered, hrest]

/-- Along any run of the server from its start, the request log keeps its
accounting, and the entries queued or dropped are one for each request
answered, with its status. -/
theorem requests_logged_once (apiKeys : APIKeyService) (limits : Redis.Store RateLimit.BucketState)
    (users : AuthRepository) (secret : String) (expiryHours : Int) (events : List Event) :
    Middleware.RequestLogger.Accounted (Transition.after (step crypto sha256Hex cfg)
        (new apiKeys limits users secret expiryHours) events).requestLog ∧
      (((Transition.after (step crypto sha256Hex cfg)
          (new apiKeys limits users secret expiryHours) events).requestLog.accepted ++
        (Transition.after (step crypto sha256Hex cfg)
          (new apiKeys limits users secret expiryHours) events).requestLog.skipped).map
          Middleware.RequestLog.statusCode).Perm
        ((Transition.outputs (step crypto sha256Hex cfg)
          (new apiKeys limits users secret expiryHours) events).reduceOption.map
          fun answer => (answer.status : Int)) := by
  obtain ⟨logEvents, hrun, hoffered⟩ :=
    run_requestLog crypto sha256Hex cfg (new apiKeys limits users secret expiryHours) events
  have hpreserves : Transition.Preserves Middleware.RequestLogger.step
      (@Middleware.RequestLogger.Accounted Middleware.RequestLog) := fun _ e h => h.step e
  rw [hrun, ← hoffered]
  refine ⟨hpreserves.run (Middleware.RequestLogger.accounted_init 1000) logEvents, ?_⟩
  have hperm := Middleware.RequestLogger.run_offered
    (new apiKeys limits users secret expiryHours).requestLog logEvents
  simpa [new, Middleware.RequestLogger.init] using hperm.map Middleware.RequestLog.statusCode

end ApiGateway.Server
