import ApiGateway.Gin
import ApiGateway.Strconv
import ApiGateway.Service.Analytics

/-!
The handlers of `internal/handler/analytics.go` over a request's query
string. The parsers of the libraries they call are given:
`time.Parse(time.RFC3339, ·)` as the reading it gives, `uuid.Parse` as the
canonical text of the id it gives, and `strconv.Quote`, which escapes by
Unicode's tables. `parseTimeRange` reads each bound as RFC 3339 and else as
Unix seconds; when both fail, the error it returns is the one of
`ParseInt`, which shadows that of `time.Parse` in its scope. It never
compares the bounds. `GetLogs` reads `limit`, `offset` and `status` with
`Atoi` and drops each value it does not accept, silently. The handlers that
run a query take the `QueryEngine` it sees.
-/

namespace ApiGateway

open Go.Strconv Middleware

/-- The library parsers the handlers call. -/
structure Parsers where
  parseRFC3339 : String → Option Int
  parseUUID : String → Option String
  quote : String → String

namespace AnalyticsHandler

/-- The body of a reply: `gin.H{"error": ...}`, a summary, a series, or
`gin.H{"logs": ..., "limit": ..., "offset": ...}`. -/
inductive Body where
  | error (message : String)
  | summary (summary : AnalyticsSummary)
  | timeSeries (series : List AnalyticsService.TimeSeriesData)
  | logs (logs : List RequestLog) (limit offset : Int)
  deriving Repr

structure Reply where
  status : Nat
  body : Body
  deriving Repr

/-- One of the two blocks of `parseTimeRange`: the parameter's text read as
RFC 3339 and else as Unix seconds, or `default` when it is absent. -/
def parseBound (parseRFC3339 : String → Option Int) (text : String) (default : Int) :
    Except NumError Int :=
  if text = "" then .ok default
  else
    match parseRFC3339 text with
    | some t => .ok t
    | none =>
        match parseInt text with
        | .ok timestamp => .ok (timestamp * Go.second)
        | .error err => .error err

/-- `parseTimeRange`, at the reading `now` of its `time.Now()`. -/
def parseTimeRange (parseRFC3339 : String → Option Int) (now : Int)
    (params : List (String × String)) : Except NumError (Int × Int) := do
  let fromAt ← parseBound parseRFC3339 (Gin.query params "from") (now - 24 * Go.hour)
  let toAt ← parseBound parseRFC3339 (Gin.query params "to") now
  pure (fromAt, toAt)

/-- The reply to a time range that does not parse. -/
def badRange (quote : String → String) (err : NumError) : Reply :=
  ⟨400, .error (err.error quote)⟩

def getSummary (p : Parsers) (e : QueryEngine) (r : RequestLogRepository) (now : Int)
    (params : List (String × String)) : Reply :=
  match parseTimeRange p.parseRFC3339 now params with
  | .error err => badRange p.quote err
  | .ok (fromAt, toAt) => ⟨200, .summary (AnalyticsService.getSummary e r fromAt toAt)⟩

def getTimeSeries (p : Parsers) (e : QueryEngine) (r : RequestLogRepository) (now : Int)
    (params : List (String × String)) : Reply :=
  match parseTimeRange p.parseRFC3339 now params with
  | .error err => badRange p.quote err
  | .ok (fromAt, toAt) =>
      ⟨200, .timeSeries (AnalyticsService.getTimeSeriesData e r fromAt toAt)⟩

/-- `GetAPIKeyStats`, for the path parameter `idStr`. -/
def getAPIKeyStats (p : Parsers) (r : RequestLogRepository) (now : Int) (idStr : String)
    (params : List (String × String)) : Reply :=
  match p.parseUUID idStr with
  | none => ⟨400, .error "Invalid API key ID"⟩
  | some apiKeyID =>
      match parseTimeRange p.parseRFC3339 now params with
      | .error err => badRange p.quote err
      | .ok (fromAt, toAt) =>
          ⟨200, .summary (AnalyticsService.getAPIKeyStats r apiKeyID fromAt toAt)⟩

/-- How `GetLogs` reads each of its numbers: the parameter's value when it
is present, `Atoi` accepts it and it passes `accept`. -/
def queryInt (text : String) (accept : Int → Bool) : Option Int :=
  if text = "" then none
  else
    match atoi text with
    | .ok n => if accept n then some n else none
    | .error _ => none

def pageLimit (params : List (String × String)) : Int :=
  (queryInt (Gin.query params "limit") fun l => decide (l > 0 ∧ l ≤ 1000)).getD 100

def pageOffset (params : List (String × String)) : Int :=
  (queryInt (Gin.query params "offset") fun o => decide (o ≥ 0)).getD 0

def statusFilter (params : List (String × String)) : Option Int :=
  queryInt (Gin.query params "status") fun _ => true

/-- `GetLogs`. The repository's `Limit` and `Offset` get the two numbers as
the counts they are, never negative. -/
def getLogs (p : Parsers) (e : QueryEngine) (r : RequestLogRepository) (now : Int)
    (params : List (String × String)) : Reply :=
  match parseTimeRange p.parseRFC3339 now params with
  | .error err => badRange p.quote err
  | .ok (fromAt, toAt) =>
      ⟨200, .logs (AnalyticsService.getLogs e r fromAt toAt (statusFilter params)
        (pageLimit params).toNat (pageOffset params).toNat) (pageLimit params) (pageOffset params)⟩

section Parsing

theorem queryInt_accept {text : String} {accept : Int → Bool} {n : Int}
    (h : queryInt text accept = some n) : accept n = true := by
  unfold queryInt at h
  split_ifs at h
  split at h
  · split_ifs at h with haccept
    cases h
    exact haccept
  · cases h

/-- The page `GetLogs` asks for is within its bounds, whatever the query
string holds. -/
theorem pageLimit_bounds (params : List (String × String)) :
    1 ≤ pageLimit params ∧ pageLimit params ≤ 1000 := by
  unfold pageLimit
  cases h : queryInt (Gin.query params "limit") fun l => decide (l > 0 ∧ l ≤ 1000) with
  | none => decide
  | some l =>
      have hl := queryInt_accept h
      simp only [decide_eq_true_eq] at hl
      simp only [Option.getD_some]
      omega

theorem pageOffset_nonneg (params : List (String × String)) : 0 ≤ pageOffset params := by
  unfold pageOffset
  cases h : queryInt (Gin.query params "offset") fun o => decide (o ≥ 0) with
  | none => decide
  | some o =>
      have ho := queryInt_accept h
      simp only [decide_eq_true_eq] at ho
      simpa using ho

theorem parseBound_error {parseRFC3339 : String → Option Int} {text : String} {default : Int}
    {err : NumError} (h : parseBound parseRFC3339 text default = .error err) :
    err.func = "ParseInt" ∧ err.num = text := by
  unfold parseBound at h
  split_ifs at h
  split at h
  · cases h
  · split at h
    · cases h
    · rename_i herr
      cases h
      exact parseIntAs_error herr

/-- Every error of `parseTimeRange` is one of `ParseInt`, for the text of
one of the two bounds. -/
theorem parseTimeRange_error {parseRFC3339 : String → Option Int} {now : Int}
    {params : List (String × String)} {err : NumError}
    (h : parseTimeRange parseRFC3339 now params = .error err) :
    err.func = "ParseInt" ∧
      (err.num = Gin.query params "from" ∨ err.num = Gin.query params "to") := by
  unfold parseTimeRange at h
  cases hfrom : parseBound parseRFC3339 (Gin.query params "from") (now - 24 * Go.hour) with
  | error e =>
      simp only [hfrom, bind, Except.bind, Except.error.injEq] at h
      subst h
      obtain ⟨hfunc, hnum⟩ := parseBound_error hfrom
      exact ⟨hfunc, .inl hnum⟩
  | ok fromAt =>
      cases hto : parseBound parseRFC3339 (Gin.query params "to") now with
      | error e =>
          simp only [hfrom, hto, bind, Except.bind, Except.error.injEq] at h
          subst h
          obtain ⟨hfunc, hnum⟩ := parseBound_error hto
          exact ⟨hfunc, .inr hnum⟩
      | ok toAt => simp [hfrom, hto, bind, Except.bind, pure, Except.pure] at h

end Parsing

end AnalyticsHandler

end ApiGateway
