import ApiGateway.Go
import ApiGateway.Middleware.RequestLogger
import Mathlib.Algebra.BigOperators.Group.List.Basic
import Mathlib.Data.List.Dedup
import Mathlib.Data.List.Sort

/-!
The request-log queries of `internal/repository/requestLogRepository.go` that
`internal/service/analytics.go` runs, over the `request_logs` table as the list
of its rows, and the service's `GetSummary` and `GetAPIKeyStats`. `BETWEEN` is
inclusive at both ends. Rows of equal timestamp leave `ORDER BY timestamp DESC`
in the order they were inserted, one of the orders Postgres may give them.
Go's `float64` arithmetic is Lean's binary64 `Float`. What Postgres computes
and Go reads back, the averages and percentiles, and the orders that no
`ORDER BY` fixes are the fields of a `QueryEngine`; each call may see another
engine, so what holds for every engine holds for every value and order the
database may give. A query that fails returns its error, which this model,
without a connection to lose, never does.
-/

namespace ApiGateway

open Middleware

structure RequestLogRepository where
  logs : List RequestLog

/-- What the database computes that this model takes as given. -/
structure QueryEngine where
  /-- `AVG(response_time_ms)` of the selected response times, a `numeric`, as
  `Scan` reads it into a `float64`. -/
  avg : List Int → Float
  /-- `PERCENTILE_CONT(p) WITHIN GROUP (ORDER BY response_time_ms)` of the
  selected response times, a `double precision`, as `Scan` reads it into an
  `int`; a Scan that fails leaves the `0` it started from. -/
  percentile : Float → List Int → Int
  /-- The order in which the rows of a query without `ORDER BY` come. -/
  arrange : List RequestLog → List RequestLog
  arrange_perm : ∀ rows, (arrange rows).Perm rows
  /-- The order in which `GROUP BY path` gives its groups, which
  `ORDER BY count DESC` keeps among groups of equal count. -/
  arrangeGroups : List (String × Int) → List (String × Int)
  arrangeGroups_perm : ∀ groups, (arrangeGroups groups).Perm groups

/-- An engine that gives every aggregate zero and every row in table order. -/
def QueryEngine.zero : QueryEngine :=
  ⟨fun _ => 0, fun _ _ => 0, id, fun _ => List.Perm.refl _, id, fun _ => List.Perm.refl _⟩

namespace RequestLogRepository

variable (r : RequestLogRepository)

/-- `timestamp BETWEEN ? AND ?`. -/
def between (fromAt toAt : Int) (log : RequestLog) : Bool :=
  decide (fromAt ≤ log.timestamp ∧ log.timestamp ≤ toAt)

/-- The rows of `api_key_id = ? AND timestamp BETWEEN ? AND ?`. -/
def keyLogs (apiKeyID : String) (fromAt toAt : Int) : List RequestLog :=
  r.logs.filter fun log => log.apiKeyID = some apiKeyID && between fromAt toAt log

/-- `FindByAPIKey`: the key's rows in the range, newest first, from `offset`
on and at most `limit` of them. -/
def findByAPIKey (apiKeyID : String) (fromAt toAt : Int) (limit offset : Nat) :
    List RequestLog :=
  (((r.keyLogs apiKeyID fromAt toAt).mergeSort
    fun a b => decide (b.timestamp ≤ a.timestamp)).drop offset).take limit

def countByTimeRange (fromAt toAt : Int) : Nat :=
  r.logs.countP (between fromAt toAt)

/-- `status_code BETWEEN ? AND ?`. -/
def statusBetween (minStatusCode maxStatusCode : Int) (log : RequestLog) : Bool :=
  decide (minStatusCode ≤ log.statusCode ∧ log.statusCode ≤ maxStatusCode)

def countByStatusCodeRange (minStatusCode maxStatusCode fromAt toAt : Int) : Nat :=
  r.logs.countP fun log => statusBetween minStatusCode maxStatusCode log && between fromAt toAt log

/-- The response times of the range's rows, which the aggregates read. -/
def responseTimes (fromAt toAt : Int) : List Int :=
  (r.logs.filter (between fromAt toAt)).map (·.responseTimeMs)

/-- `AVG(response_time_ms)` over the range, which `GetSummary` reads only for
a range with rows. -/
def getAverageResponseTime (e : QueryEngine) (fromAt toAt : Int) : Float :=
  e.avg (r.responseTimes fromAt toAt)

/-- `GetPercentile`. -/
def getPercentile (e : QueryEngine) (fromAt toAt : Int) (percentile : Float) : Int :=
  e.percentile percentile (r.responseTimes fromAt toAt)

/-- `Select("path, COUNT(*) as count").Group("path")` over the range: each
path of its rows once, with the number of them. -/
def pathCounts (fromAt toAt : Int) : List (String × Int) :=
  ((r.logs.filter (between fromAt toAt)).map (·.path)).dedup.map fun path =>
    (path, ((r.logs.filter (between fromAt toAt)).countP fun log => log.path = path : Int))

/-- `GetTopEndpoints`: the groups by `ORDER BY count DESC`, at most `limit`. -/
def getTopEndpoints (e : QueryEngine) (fromAt toAt : Int) (limit : Nat) : List (String × Int) :=
  ((e.arrangeGroups (r.pathCounts fromAt toAt)).mergeSort fun a b => decide (b.2 ≤ a.2)).take limit

/-- The first page holds all of the key's rows when they fit in it, in some order. -/
theorem findByAPIKey_perm (apiKeyID : String) (fromAt toAt : Int) {limit : Nat}
    (hfit : (r.keyLogs apiKeyID fromAt toAt).length ≤ limit) :
    (r.findByAPIKey apiKeyID fromAt toAt limit 0).Perm (r.keyLogs apiKeyID fromAt toAt) := by
  have hsorted := List.mergeSort_perm (r.keyLogs apiKeyID fromAt toAt)
    fun a b => decide (b.timestamp ≤ a.timestamp)
  rw [findByAPIKey, List.drop_zero,
    List.take_of_length_le (by rw [List.length_mergeSort]; exact hfit)]
  exact hsorted

theorem length_findByAPIKey (apiKeyID : String) (fromAt toAt : Int) (limit : Nat) :
    (r.findByAPIKey apiKeyID fromAt toAt limit 0).length =
      min limit (r.keyLogs apiKeyID fromAt toAt).length := by
  rw [findByAPIKey, List.drop_zero, List.length_take, List.length_mergeSort]

/-- When every row of the range is the key's, the key's rows are the range's. -/
theorem keyLogs_of_all {apiKeyID : String} {fromAt toAt : Int}
    (hall : ∀ log ∈ r.logs, between fromAt toAt log → log.apiKeyID = some apiKeyID) :
    r.keyLogs apiKeyID fromAt toAt = r.logs.filter (between fromAt toAt) := by
  refine List.filter_congr fun log hlog => ?_
  by_cases hin : between fromAt toAt log
  · simp [hin, hall log hlog hin]
  · simp [hin]

theorem countByStatusCodeRange_eq (minStatusCode maxStatusCode fromAt toAt : Int) :
    r.countByStatusCodeRange minStatusCode maxStatusCode fromAt toAt =
      (r.logs.filter (between fromAt toAt)).countP (statusBetween minStatusCode maxStatusCode) := by
  rw [countByStatusCodeRange, List.countP_filter]

/-- `ORDER BY timestamp DESC`, then `OFFSET` and `LIMIT`, over the rows a
query selects: the page both `FindByTimeRange` and `FindByAPIKey` return. -/
def newestPage (rows : List RequestLog) (limit offset : Nat) : List RequestLog :=
  ((rows.mergeSort fun a b => decide (b.timestamp ≤ a.timestamp)).drop offset).take limit

theorem findByAPIKey_eq_newestPage (apiKeyID : String) (fromAt toAt : Int) (limit offset : Nat) :
    r.findByAPIKey apiKeyID fromAt toAt limit offset =
      newestPage (r.keyLogs apiKeyID fromAt toAt) limit offset := rfl

/-- `FindByTimeRange`. -/
def findByTimeRange (fromAt toAt : Int) (limit offset : Nat) : List RequestLog :=
  newestPage (r.logs.filter (between fromAt toAt)) limit offset

/-- `FindByStatusCode`. Its query, unlike the other two finders', has no
`ORDER BY`: its rows come in the engine's order. -/
def findByStatusCode (e : QueryEngine) (statusCode fromAt toAt : Int) (limit offset : Nat) :
    List RequestLog :=
  ((e.arrange (r.logs.filter fun log =>
    decide (log.statusCode = statusCode) && between fromAt toAt log)).drop offset).take limit

/-- `DATE_TRUNC('hour', timestamp)`, in a session whose time zone is UTC. -/
def truncHour (t : Int) : Int := t - t % Go.hour

/-- A row of `GetHourlyStatus`. -/
structure HourlyStatus where
  hour : Int
  count : Nat
  avgResponseTime : Float
  deriving Repr

/-- The rows of the range in the hour `hour`: one group of `GROUP BY hour`. -/
def hourGroup (fromAt toAt hour : Int) : List RequestLog :=
  (r.logs.filter (between fromAt toAt)).filter fun log => truncHour log.timestamp = hour

/-- `GetHourlyStatus`: each hour with rows in the range, in `ORDER BY hour
ASC`, with `COUNT(*)` and `AVG(response_time_ms)` of its group. -/
def getHourlyStatus (e : QueryEngine) (fromAt toAt : Int) : List HourlyStatus :=
  let hours := ((r.logs.filter (between fromAt toAt)).map fun log => truncHour log.timestamp).dedup
  (hours.mergeSort fun a b => decide (a ≤ b)).map fun hour =>
    ⟨hour, (r.hourGroup fromAt toAt hour).length,
      e.avg ((r.hourGroup fromAt toAt hour).map (·.responseTimeMs))⟩

/-- `DeleteOldLogs`: the table without its rows before `before`, and the
number of rows deleted. -/
def deleteOldLogs (before : Int) : RequestLogRepository × Nat :=
  (⟨r.logs.filter fun log => !decide (log.timestamp < before)⟩,
    r.logs.countP fun log => decide (log.timestamp < before))

end RequestLogRepository

structure AnalyticsSummary where
  totalRequests : Int
  avgResponseTime : Float
  p50ResponseTime : Int
  p95ResponseTime : Int
  p99ResponseTime : Int
  errorRate : Float
  successRate : Float
  clientErrorRate : Float
  serverErrorRate : Float
  topEndpoints : List (String × Int)
  deriving Repr

/-- `&AnalyticsSummary{}`. -/
def emptySummary : AnalyticsSummary := ⟨0, 0, 0, 0, 0, 0, 0, 0, 0, []⟩

/-- The figures both summaries compute alike: the count, the mean, and the
rates of "Calculate rates" in `GetSummary`. -/
def summarize (totalRequests : Int) (avgResponseTime : Float) (clientErrors serverErrors : Int) :
    AnalyticsSummary :=
  let totalErrors := clientErrors + serverErrors
  let errorRate := (Float.ofInt totalErrors / Float.ofInt totalRequests) * 100
  { emptySummary with
    totalRequests := totalRequests
    avgResponseTime := avgResponseTime
    errorRate := errorRate
    successRate := 100 - errorRate
    clientErrorRate := (Float.ofInt clientErrors / Float.ofInt totalRequests) * 100
    serverErrorRate := (Float.ofInt serverErrors / Float.ofInt totalRequests) * 100 }

@[simp] theorem summarize_totalRequests (totalRequests : Int) (avgResponseTime : Float)
    (clientErrors serverErrors : Int) :
    (summarize totalRequests avgResponseTime clientErrors serverErrors).totalRequests =
      totalRequests := rfl

/-- The figures of a summary computed from counts alone: the number of
requests and the four rates. -/
def AnalyticsSummary.countAndRates (a : AnalyticsSummary) : Int × Float × Float × Float × Float :=
  (a.totalRequests, a.errorRate, a.successRate, a.clientErrorRate, a.serverErrorRate)

namespace AnalyticsService

open RequestLogRepository

def getSummary (e : QueryEngine) (r : RequestLogRepository) (fromAt toAt : Int) :
    AnalyticsSummary :=
  let totalRequests := r.countByTimeRange fromAt toAt
  if totalRequests = 0 then { emptySummary with totalRequests := totalRequests }
  else
    { summarize totalRequests (r.getAverageResponseTime e fromAt toAt)
        (r.countByStatusCodeRange 400 499 fromAt toAt)
        (r.countByStatusCodeRange 500 599 fromAt toAt) with
      p50ResponseTime := r.getPercentile e fromAt toAt 0.50
      p95ResponseTime := r.getPercentile e fromAt toAt 0.95
      p99ResponseTime := r.getPercentile e fromAt toAt 0.99
      topEndpoints := r.getTopEndpoints e fromAt toAt 10 }

/-- The accumulators of the loop of `GetAPIKeyStats`. -/
structure Tally where
  totalResponseTime : Int
  clientErrors : Int
  serverErrors : Int

/-- One pass of the loop of `GetAPIKeyStats`. -/
def Tally.add (t : Tally) (log : RequestLog) : Tally where
  totalResponseTime := t.totalResponseTime + log.responseTimeMs
  clientErrors :=
    if log.statusCode ≥ 400 ∧ log.statusCode ≤ 499 then t.clientErrors + 1 else t.clientErrors
  serverErrors :=
    if log.statusCode ≥ 500 ∧ log.statusCode ≤ 599 then t.serverErrors + 1 else t.serverErrors

def getAPIKeyStats (r : RequestLogRepository) (apiKeyID : String) (fromAt toAt : Int) :
    AnalyticsSummary :=
  let logs := r.findByAPIKey apiKeyID fromAt toAt 10000 0
  if logs.length = 0 then emptySummary
  else
    let tally := logs.foldl Tally.add ⟨0, 0, 0⟩
    summarize logs.length (Float.ofInt tally.totalResponseTime / Float.ofInt logs.length)
      tally.clientErrors tally.serverErrors

/-- The loop of `GetAPIKeyStats` sums the response times and counts the
client and server errors of the rows it is given. -/
theorem foldl_add (logs : List RequestLog) (t : Tally) :
    logs.foldl Tally.add t =
      ⟨t.totalResponseTime + (logs.map (·.responseTimeMs)).sum,
        t.clientErrors + logs.countP (statusBetween 400 499),
        t.serverErrors + logs.countP (statusBetween 500 599)⟩ := by
  induction logs generalizing t with
  | nil => simp
  | cons log rest ih =>
      rw [List.foldl_cons, ih]
      by_cases hclient : 400 ≤ log.statusCode ∧ log.statusCode ≤ 499 <;>
        by_cases hserver : 500 ≤ log.statusCode ∧ log.statusCode ≤ 599 <;>
        simp [Tally.add, statusBetween, hclient, hserver, ge_iff_le] <;> omega

/-- With at most a page of the key's rows in the range, `GetAPIKeyStats`
summarizes exactly those rows, whatever their order. -/
theorem getAPIKeyStats_of_le {r : RequestLogRepository} {apiKeyID : String} {fromAt toAt : Int}
    (hfew : (r.keyLogs apiKeyID fromAt toAt).length ≤ 10000) :
    getAPIKeyStats r apiKeyID fromAt toAt =
      if (r.keyLogs apiKeyID fromAt toAt).length = 0 then emptySummary
      else summarize (r.keyLogs apiKeyID fromAt toAt).length
        (Float.ofInt ((r.keyLogs apiKeyID fromAt toAt).map (·.responseTimeMs)).sum /
          Float.ofInt (r.keyLogs apiKeyID fromAt toAt).length)
        ((r.keyLogs apiKeyID fromAt toAt).countP (statusBetween 400 499))
        ((r.keyLogs apiKeyID fromAt toAt).countP (statusBetween 500 599)) := by
  have hperm := r.findByAPIKey_perm apiKeyID fromAt toAt hfew
  have hlength := hperm.length_eq
  have hsum := (hperm.map (·.responseTimeMs)).sum_eq
  simp only [getAPIKeyStats, hlength, foldl_add, hsum, hperm.countP_eq]
  simp

/-- When every row of the range is the key's, `GetSummary` counts the key's
rows and their client and server errors. -/
theorem getSummary_counts_of_all {r : RequestLogRepository} {apiKeyID : String}
    {fromAt toAt : Int}
    (hall : ∀ log ∈ r.logs, between fromAt toAt log → log.apiKeyID = some apiKeyID) :
    r.countByTimeRange fromAt toAt = (r.keyLogs apiKeyID fromAt toAt).length ∧
      r.countByStatusCodeRange 400 499 fromAt toAt =
        (r.keyLogs apiKeyID fromAt toAt).countP (statusBetween 400 499) ∧
      r.countByStatusCodeRange 500 599 fromAt toAt =
        (r.keyLogs apiKeyID fromAt toAt).countP (statusBetween 500 599) := by
  rw [countByTimeRange, List.countP_eq_length_filter, countByStatusCodeRange_eq,
    countByStatusCodeRange_eq, r.keyLogs_of_all hall]
  exact ⟨rfl, rfl, rfl⟩

/-- With at most a page of the key's rows in the range, `GetAPIKeyStats`
reports their count, the float64 mean of their response times and the rates
of their client and server errors; and when every row of the range is the
key's, it reports the count and the rates that `GetSummary` computes through
its SQL counts. The means differ in how they are computed, Postgres' `AVG`
against Go's float64 division, and the percentiles and top endpoints, which
`GetAPIKeyStats` leaves at zero. -/
theorem apiKeyStats_within_page (e : QueryEngine) (r : RequestLogRepository) (apiKeyID : String)
    (fromAt toAt : Int) (hfew : (r.keyLogs apiKeyID fromAt toAt).length ≤ 10000) :
    (0 < (r.keyLogs apiKeyID fromAt toAt).length →
      getAPIKeyStats r apiKeyID fromAt toAt =
        summarize (r.keyLogs apiKeyID fromAt toAt).length
          (Float.ofInt ((r.keyLogs apiKeyID fromAt toAt).map (·.responseTimeMs)).sum /
            Float.ofInt (r.keyLogs apiKeyID fromAt toAt).length)
          ((r.keyLogs apiKeyID fromAt toAt).countP (statusBetween 400 499))
          ((r.keyLogs apiKeyID fromAt toAt).countP (statusBetween 500 599))) ∧
      ((∀ log ∈ r.logs, between fromAt toAt log → log.apiKeyID = some apiKeyID) →
        (getAPIKeyStats r apiKeyID fromAt toAt).countAndRates =
          (getSummary e r fromAt toAt).countAndRates) := by
  refine ⟨fun hpos => ?_, fun hall => ?_⟩
  · rw [getAPIKeyStats_of_le hfew, if_neg (Nat.pos_iff_ne_zero.mp hpos)]
  · obtain ⟨hcount, hclient, hserver⟩ := getSummary_counts_of_all hall
    rw [getAPIKeyStats_of_le hfew, getSummary, hcount, hclient, hserver]
    split_ifs with hzero
    · rw [hzero]
      rfl
    · rfl

/-- A request of key `k` answered 200 in 12 ms. -/
def keyedLog : RequestLog :=
  ⟨1700000000000000000, some "k", "GET", "/api/users", 200, 12, "203.0.113.7", "curl/8.4.0", ""⟩

theorem apiKeyStats_within_page_one :
    (RequestLogRepository.keyLogs ⟨[keyedLog]⟩ "k" 1700000000000000000
        1700000000000000000).length ≤ 10000 ∧
      ((∀ log ∈ [keyedLog], between 1700000000000000000 1700000000000000000 log →
          log.apiKeyID = some "k") →
        (getAPIKeyStats ⟨[keyedLog]⟩ "k" 1700000000000000000 1700000000000000000).countAndRates =
          (getSummary .zero ⟨[keyedLog]⟩ 1700000000000000000
            1700000000000000000).countAndRates) :=
  ⟨by decide, (apiKeyStats_within_page .zero ⟨[keyedLog]⟩ "k" 1700000000000000000
    1700000000000000000 (by decide)).2⟩

/-- `GetAPIKeyStats` reads one page of at most 10000 rows. Of 10001 rows of
the key in the range it counts 10000, where `GetSummary` counts all 10001.
With no rows it reports the zero summary, whose success rate is 0 where
`100 - ErrorRate` is 100. -/
theorem apiKeyStats_capped_at_page (e : QueryEngine) :
    (getAPIKeyStats ⟨List.replicate 10001 keyedLog⟩ "k" 1700000000000000000
        1700000000000000000).totalRequests = 10000 ∧
      (RequestLogRepository.keyLogs ⟨List.replicate 10001 keyedLog⟩ "k" 1700000000000000000
        1700000000000000000).length = 10001 ∧
      (getSummary e ⟨List.replicate 10001 keyedLog⟩ 1700000000000000000
        1700000000000000000).totalRequests = 10001 ∧
      (getAPIKeyStats ⟨[]⟩ "k" 1700000000000000000 1700000000000000000).successRate = 0 ∧
      (getAPIKeyStats ⟨[]⟩ "k" 1700000000000000000 1700000000000000000).errorRate = 0 := by
  have hkey : RequestLogRepository.keyLogs ⟨List.replicate 10001 keyedLog⟩ "k"
      1700000000000000000 1700000000000000000 = List.replicate 10001 keyedLog := by
    show (List.replicate 10001 keyedLog).filter _ = _
    rw [List.filter_replicate, if_pos (by decide)]
  have hsorted : (List.replicate 10001 keyedLog).mergeSort
      (fun a b => decide (b.timestamp ≤ a.timestamp)) = List.replicate 10001 keyedLog :=
    List.perm_replicate.mp (List.mergeSort_perm _ _)
  have hpage : RequestLogRepository.findByAPIKey ⟨List.replicate 10001 keyedLog⟩ "k"
      1700000000000000000 1700000000000000000 10000 0 = List.replicate 10000 keyedLog := by
    rw [findByAPIKey, hkey, hsorted, List.drop_zero, List.take_replicate]
    rfl
  have hcount : RequestLogRepository.countByTimeRange ⟨List.replicate 10001 keyedLog⟩
      1700000000000000000 1700000000000000000 = 10001 := by
    show (List.replicate 10001 keyedLog).countP _ = 10001
    rw [List.countP_replicate, if_pos (by decide)]
  have hempty : getAPIKeyStats ⟨[]⟩ "k" 1700000000000000000 1700000000000000000 =
      emptySummary := by
    simp [getAPIKeyStats, findByAPIKey, keyLogs]
  refine ⟨?_, by rw [hkey, List.length_replicate], ?_, ?_, ?_⟩
  · simp only [getAPIKeyStats, hpage, List.length_replicate]
    rw [if_neg (by decide), summarize_totalRequests]
    rfl
  · simp only [getSummary, hcount]
    rw [if_neg (by decide)]
    rfl
  · rw [hempty]
    rfl
  · rw [hempty]
    rfl

/-- `GetLogs`: the status's rows when a status is given, else the range's. -/
def getLogs (e : QueryEngine) (r : RequestLogRepository) (fromAt toAt : Int)
    (statusCode : Option Int) (limit offset : Nat) : List RequestLog :=
  match statusCode with
  | some code => r.findByStatusCode e code fromAt toAt limit offset
  | none => r.findByTimeRange fromAt toAt limit offset

/-- A point of `GetTimeSeriesData`. -/
structure TimeSeriesData where
  hour : Int
  count : Int
  avgResponseTime : Float
  deriving Repr

/-- `GetTimeSeriesData`: the hourly rows read back as points; the type
assertions of the loop hold of every row `GetHourlyStatus` returns. -/
def getTimeSeriesData (e : QueryEngine) (r : RequestLogRepository) (fromAt toAt : Int) :
    List TimeSeriesData :=
  (r.getHourlyStatus e fromAt toAt).map fun stat => ⟨stat.hour, stat.count, stat.avgResponseTime⟩

/-- `CleanupOldLogs` at the reading `now` of its `time.Now()`, in UTC, where
`AddDate(0, 0, -d)` goes back `d` days of 24 hours. -/
def cleanupOldLogs (r : RequestLogRepository) (now retentionDays : Int) :
    RequestLogRepository × Nat :=
  r.deleteOldLogs (now - retentionDays * 24 * Go.hour)

end AnalyticsService

end ApiGateway
