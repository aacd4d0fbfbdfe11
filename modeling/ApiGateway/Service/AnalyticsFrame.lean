import ApiGateway.Service.Analytics

/-!
Every query of the analytics service over a range `[from, to]` reads only
the rows of `request_logs` whose timestamp lies in the range, in the
table's order, so two tables that agree there answer every such query
alike, under every query engine. From this, `CleanupOldLogs` changes no
answer over a range that starts at or after its cut-off.
-/

namespace ApiGateway

open Middleware

namespace RequestLogRepository

/-- Two tables with the same rows in `[fromAt, toAt]`, in the same order. -/
def SameRange (r r' : RequestLogRepository) (fromAt toAt : Int) : Prop :=
  r.logs.filter (between fromAt toAt) = r'.logs.filter (between fromAt toAt)

section SameRange

variable {r r' : RequestLogRepository} {fromAt toAt : Int} (h : SameRange r r' fromAt toAt)
include h

/-- A query that also asks for the range sees the same rows in both tables. -/
theorem SameRange.filter (p : RequestLog → Bool) :
    r.logs.filter (fun log => p log && between fromAt toAt log) =
      r'.logs.filter (fun log => p log && between fromAt toAt log) := by
  rw [← List.filter_filter, ← List.filter_filter, h]

theorem SameRange.keyLogs (apiKeyID : String) :
    r.keyLogs apiKeyID fromAt toAt = r'.keyLogs apiKeyID fromAt toAt :=
  h.filter _

theorem SameRange.countByTimeRange :
    r.countByTimeRange fromAt toAt = r'.countByTimeRange fromAt toAt := by
  rw [RequestLogRepository.countByTimeRange, RequestLogRepository.countByTimeRange,
    List.countP_eq_length_filter, List.countP_eq_length_filter, h]

theorem SameRange.responseTimes :
    r.responseTimes fromAt toAt = r'.responseTimes fromAt toAt := by
  rw [RequestLogRepository.responseTimes, RequestLogRepository.responseTimes, h]

theorem SameRange.getAverageResponseTime (e : QueryEngine) :
    r.getAverageResponseTime e fromAt toAt = r'.getAverageResponseTime e fromAt toAt := by
  rw [RequestLogRepository.getAverageResponseTime, RequestLogRepository.getAverageResponseTime,
    h.responseTimes]

theorem SameRange.getPercentile (e : QueryEngine) (percentile : Float) :
    r.getPercentile e fromAt toAt percentile = r'.getPercentile e fromAt toAt percentile := by
  rw [RequestLogRepository.getPercentile, RequestLogRepository.getPercentile, h.responseTimes]

theorem SameRange.getTopEndpoints (e : QueryEngine) (limit : Nat) :
    r.getTopEndpoints e fromAt toAt limit = r'.getTopEndpoints e fromAt toAt limit := by
  have hrows : r.logs.filter (between fromAt toAt) = r'.logs.filter (between fromAt toAt) := h
  simp only [RequestLogRepository.getTopEndpoints, RequestLogRepository.pathCounts, hrows]

theorem SameRange.countByStatusCodeRange (minStatusCode maxStatusCode : Int) :
    r.countByStatusCodeRange minStatusCode maxStatusCode fromAt toAt =
      r'.countByStatusCodeRange minStatusCode maxStatusCode fromAt toAt := by
  rw [countByStatusCodeRange_eq, countByStatusCodeRange_eq, h]

theorem SameRange.findByAPIKey (apiKeyID : String) (limit offset : Nat) :
    r.findByAPIKey apiKeyID fromAt toAt limit offset =
      r'.findByAPIKey apiKeyID fromAt toAt limit offset := by
  rw [findByAPIKey_eq_newestPage, findByAPIKey_eq_newestPage, h.keyLogs]

theorem SameRange.findByTimeRange (limit offset : Nat) :
    r.findByTimeRange fromAt toAt limit offset = r'.findByTimeRange fromAt toAt limit offset := by
  rw [RequestLogRepository.findByTimeRange, RequestLogRepository.findByTimeRange, h]

theorem SameRange.findByStatusCode (e : QueryEngine) (statusCode : Int) (limit offset : Nat) :
    r.findByStatusCode e statusCode fromAt toAt limit offset =
      r'.findByStatusCode e statusCode fromAt toAt limit offset := by
  rw [RequestLogRepository.findByStatusCode, RequestLogRepository.findByStatusCode,
    h.filter]

theorem SameRange.hourGroup (hour : Int) :
    r.hourGroup fromAt toAt hour = r'.hourGroup fromAt toAt hour := by
  rw [RequestLogRepository.hourGroup, RequestLogRepository.hourGroup, h]

theorem SameRange.getHourlyStatus (e : QueryEngine) :
    r.getHourlyStatus e fromAt toAt = r'.getHourlyStatus e fromAt toAt := by
  have hrows : r.logs.filter (between fromAt toAt) = r'.logs.filter (between fromAt toAt) := h
  simp only [RequestLogRepository.getHourlyStatus, h.hourGroup, hrows]

theorem SameRange.getSummary (e : QueryEngine) :
    AnalyticsService.getSummary e r fromAt toAt = AnalyticsService.getSummary e r' fromAt toAt := by
  simp only [AnalyticsService.getSummary, h.countByTimeRange, h.getAverageResponseTime,
    h.countByStatusCodeRange, h.getPercentile, h.getTopEndpoints]

theorem SameRange.getAPIKeyStats (apiKeyID : String) :
    AnalyticsService.getAPIKeyStats r apiKeyID fromAt toAt =
      AnalyticsService.getAPIKeyStats r' apiKeyID fromAt toAt := by
  simp only [AnalyticsService.getAPIKeyStats, h.findByAPIKey]

theorem SameRange.getLogs (e : QueryEngine) (statusCode : Option Int) (limit offset : Nat) :
    AnalyticsService.getLogs e r fromAt toAt statusCode limit offset =
      AnalyticsService.getLogs e r' fromAt toAt statusCode limit offset := by
  cases statusCode with
  | some code => exact h.findByStatusCode e code limit offset
  | none => exact h.findByTimeRange limit offset

theorem SameRange.getTimeSeriesData (e : QueryEngine) :
    AnalyticsService.getTimeSeriesData e r fromAt toAt =
      AnalyticsService.getTimeSeriesData e r' fromAt toAt := by
  rw [AnalyticsService.getTimeSeriesData, AnalyticsService.getTimeSeriesData,
    h.getHourlyStatus e]

end SameRange

/-- Deleting the rows before `before` keeps every row of a range that
starts at or after it. -/
theorem sameRange_deleteOldLogs (r : RequestLogRepository) {before fromAt : Int}
    (hcut : before ≤ fromAt) (toAt : Int) : SameRange (r.deleteOldLogs before).1 r fromAt toAt := by
  rw [SameRange, deleteOldLogs, List.filter_filter]
  refine List.filter_congr fun log _ => ?_
  by_cases hin : between fromAt toAt log
  · have hkept : ¬ log.timestamp < before := by
      simp only [between, decide_eq_true_eq] at hin
      omega
    simp [hin, hkept]
  · simp [hin]

/-- `DeleteOldLogs` deletes as many rows as it reports, and leaves none
before its cut-off. -/
theorem deleteOldLogs_counts (r : RequestLogRepository) (before : Int) :
    (r.deleteOldLogs before).2 + (r.deleteOldLogs before).1.logs.length = r.logs.length ∧
      ∀ log ∈ (r.deleteOldLogs before).1.logs, before ≤ log.timestamp := by
  constructor
  · simp only [deleteOldLogs]
    rw [← List.countP_eq_length_filter,
      List.length_eq_countP_add_countP (fun log : RequestLog => decide (log.timestamp < before))]
    simp only [decide_not, decide_eq_true_eq]
  · intro log hlog
    simp only [deleteOldLogs, List.mem_filter, Bool.not_eq_true', decide_eq_false_iff_not] at hlog
    omega

end RequestLogRepository

namespace AnalyticsService

open RequestLogRepository

/-- `CleanupOldLogs` changes no answer over a range that starts at or after
its cut-off, `retentionDays` days before `now`: under every query engine,
so for every value of the aggregates and every order of rows the database
may give, the summary, with its percentiles and top endpoints, the key's
statistics, every page of logs and the hourly series are as they were. It
reports as deleted every row it removes, and leaves none before the
cut-off. -/
theorem cleanup_keeps_recent_ranges (e : QueryEngine) (r : RequestLogRepository)
    (now retentionDays fromAt toAt : Int) (hrecent : now - retentionDays * 24 * Go.hour ≤ fromAt) :
    getSummary e (cleanupOldLogs r now retentionDays).1 fromAt toAt = getSummary e r fromAt toAt ∧
      (∀ apiKeyID, getAPIKeyStats (cleanupOldLogs r now retentionDays).1 apiKeyID fromAt toAt =
        getAPIKeyStats r apiKeyID fromAt toAt) ∧
      (∀ statusCode limit offset,
        getLogs e (cleanupOldLogs r now retentionDays).1 fromAt toAt statusCode limit offset =
          getLogs e r fromAt toAt statusCode limit offset) ∧
      getTimeSeriesData e (cleanupOldLogs r now retentionDays).1 fromAt toAt =
        getTimeSeriesData e r fromAt toAt ∧
      (cleanupOldLogs r now retentionDays).2 + (cleanupOldLogs r now retentionDays).1.logs.length =
        r.logs.length ∧
      ∀ log ∈ (cleanupOldLogs r now retentionDays).1.logs,
        now - retentionDays * 24 * Go.hour ≤ log.timestamp := by
  have hsame : SameRange (cleanupOldLogs r now retentionDays).1 r fromAt toAt :=
    sameRange_deleteOldLogs r hrecent toAt
  obtain ⟨hcount, hkept⟩ := deleteOldLogs_counts r (now - retentionDays * 24 * Go.hour)
  exact ⟨hsame.getSummary e, hsame.getAPIKeyStats, hsame.getLogs e, hsame.getTimeSeriesData e,
    hcount, hkept⟩

theorem cleanup_keeps_recent_ranges_keyed :
    (1700000000000000000 + Go.hour) - 1 * 24 * Go.hour ≤ 1700000000000000000 ∧
      getSummary .zero (cleanupOldLogs ⟨[keyedLog]⟩ (1700000000000000000 + Go.hour) 1).1
        1700000000000000000 1700000000000000000 =
        getSummary .zero ⟨[keyedLog]⟩ 1700000000000000000 1700000000000000000 :=
  ⟨by norm_num [Go.hour, Go.minute, Go.second],
    (cleanup_keeps_recent_ranges .zero ⟨[keyedLog]⟩ (1700000000000000000 + Go.hour) 1
      1700000000000000000 1700000000000000000 (by norm_num [Go.hour, Go.minute, Go.second])).1⟩

end AnalyticsService

end ApiGateway
