import ApiGateway.Transition
import ApiGateway.Repository
import ApiGateway.RateLimit.Limiter

/-!
The middleware `RateLimitWithTier` of `internal/middleware/ratelimit.go`,
for one request. The limiter is built anew for each request, from the tier
that the request's API key names, or from the first configured tier when the
request carries no key. Its Allow, Remaining and Reset each read the clock,
and `time.Until` reads it a fourth time. The request is then passed on with
four rate-limit headers, or aborted with a status, those headers and a JSON
body. Of a tier only `name`, `requests_per_minute` and `algorithm` are read;
`requests_per_hour` is left out.
-/

namespace ApiGateway.Middleware

open Redis RateLimit

structure RateLimiterTier where
  name : String
  requestsPerMinute : Int
  algorithm : String

/-- The part of `config.Config` the middleware reads. -/
structure Config where
  rateLimitTiers : List RateLimiterTier

def findTierConfig (cfg : Config) (tierName : String) : Option RateLimiterTier :=
  cfg.rateLimitTiers.find? fun tier => tier.name == tierName

/-- The four clock readings of one request, in the order they are taken. -/
structure Readings where
  allowAt : Int
  remainingAt : Int
  resetAt : Int
  untilAt : Int

inductive Json where
  | str (s : String)
  | int (n : Int)
  deriving DecidableEq, Repr

inductive Response where
  | next (headers : List (String × String))
  | abort (status : Nat) (headers : List (String × String)) (body : List (String × Json))
  deriving DecidableEq, Repr

/-- The tier, limit, algorithm and rate-limit key picked for a request. -/
structure Selection where
  tier : String
  limit : Int
  algorithm : String
  key : String

/-- The choice at the head of `RateLimitWithTier`: the API key's id and its
tier's settings, the defaults when the tier is not configured, or the client
IP with the first tier's settings for a request without a key. -/
def selection (cfg : Config) (apiKey : Option APIKey) (clientIP : String) : Selection :=
  match apiKey with
  | some apiKey =>
      match findTierConfig cfg apiKey.tier with
      | some tierConfig =>
          ⟨apiKey.tier, tierConfig.requestsPerMinute, tierConfig.algorithm, apiKey.id⟩
      | none => ⟨apiKey.tier, 60, "fixed_window", apiKey.id⟩
  | none =>
      match cfg.rateLimitTiers with
      | first :: _ => ⟨"basic", first.requestsPerMinute, first.algorithm, clientIP⟩
      | [] => ⟨"basic", 60, "fixed_window", clientIP⟩

/-- `int(time.Until(resetTime).Seconds())`, raised to zero when negative. -/
def retryAfter (resetTime untilAt : Int) : Int :=
  let retryAfter := Go.truncate (Go.seconds (resetTime - untilAt))
  if retryAfter < 0 then 0 else retryAfter

/-- `RateLimitWithTier` for one request. The error of Remaining is dropped
and its zero kept, as `remaining, _ :=` does. -/
def rateLimitWithTier (cfg : Config) (db : Store BucketState) (apiKey : Option APIKey)
    (clientIP : String) (clock : Readings) : Response × Store BucketState :=
  let sel := selection cfg apiKey clientIP
  let limiter := newLimiter sel.algorithm sel.limit Go.minute
  match limiter.allow db clock.allowAt sel.key with
  | (.error _, db) => (.abort 500 [] [("error", .str "Rate limit check failed")], db)
  | (.ok allowed, db) =>
      let remaining := match limiter.remaining db clock.remainingAt sel.key with
        | .ok remaining => remaining
        | .error _ => 0
      let resetTime := limiter.reset db clock.resetAt sel.key
      let headers := [("X-RateLimit-Limit", toString limiter.limit),
        ("X-RateLimit-Remaining", toString remaining),
        ("X-RateLimit-Reset", toString (Go.unix resetTime)),
        ("X-RateLimit-Tier", sel.tier)]
      if allowed then (.next headers, db)
      else
        (.abort 429 (headers ++ [("Retry-After", toString (retryAfter resetTime clock.untilAt))])
          [("error", .str "Rate limit exceeded"), ("tier", .str sel.tier),
            ("limit", .int sel.limit), ("retry_after", .int (Go.unix resetTime))], db)

/-- Successive requests from one client, as a step over the database. -/
def serve (cfg : Config) (apiKey : Option APIKey) (clientIP : String)
    (db : Store BucketState) (clock : Readings) : Response × Store BucketState :=
  rateLimitWithTier cfg db apiKey clientIP clock

/-- The advertised wait falls short of the reset time by less than a second:
a request `retryAfter + 1` seconds after the fourth reading comes after the
reset time. -/
theorem lt_retryAfter_add_one (resetTime untilAt : Int) :
    resetTime < untilAt + (retryAfter resetTime untilAt + 1) * Go.second := by
  have hwait : Go.truncate (Go.seconds (resetTime - untilAt)) ≤ retryAfter resetTime untilAt := by
    simp only [retryAfter]
    split <;> omega
  have hsec : (0 : ℚ) < Go.second := by norm_num [Go.second]
  have hlt : Go.seconds (resetTime - untilAt) < retryAfter resetTime untilAt + 1 := by
    have hcast : (Go.truncate (Go.seconds (resetTime - untilAt)) : ℚ) ≤
        retryAfter resetTime untilAt := by
      exact_mod_cast hwait
    linarith [Go.lt_truncate_add_one (Go.seconds (resetTime - untilAt))]
  rw [Go.seconds, div_lt_iff₀ hsec] at hlt
  have hq : (resetTime : ℚ) < untilAt + (retryAfter resetTime untilAt + 1) * Go.second := by
    push_cast at hlt
    linarith
  exact_mod_cast hq

/-- A fixed window and a token bucket, each with one request a minute, send
a `Retry-After` and an `X-RateLimit-Reset` after which the next request is
still refused. The fixed window, after admitting a request 10 s into its
window and refusing one at 10.5 s, advertises `Retry-After: 29` and refuses
the request 29 s later, which falls in the same window. The token bucket,
refilled one token a second, refuses a request half a second after admitting
one and advertises `Retry-After: 0` and a reset time half a second in the
past, and refuses the request that follows at once. -/
theorem advertised_retry_refused :
    Transition.outputs (serve ⟨[⟨"basic", 1, "fixed_window"⟩]⟩ none "203.0.113.7") empty
        [⟨1700000010000000000, 1700000010000000001, 1700000010000000002, 1700000010000000003⟩,
          ⟨1700000010500000000, 1700000010500000001, 1700000010500000002, 1700000010500000003⟩,
          ⟨1700000039500000000, 1700000039500000001, 1700000039500000002, 1700000039500000003⟩] =
      [.next [("X-RateLimit-Limit", "1"), ("X-RateLimit-Remaining", "1"),
          ("X-RateLimit-Reset", "1700000040"), ("X-RateLimit-Tier", "basic")],
        .abort 429 [("X-RateLimit-Limit", "1"), ("X-RateLimit-Remaining", "1"),
            ("X-RateLimit-Reset", "1700000040"), ("X-RateLimit-Tier", "basic"),
            ("Retry-After", "29")]
          [("error", .str "Rate limit exceeded"), ("tier", .str "basic"), ("limit", .int 1),
            ("retry_after", .int 1700000040)],
        .abort 429 [("X-RateLimit-Limit", "1"), ("X-RateLimit-Remaining", "1"),
            ("X-RateLimit-Reset", "1700000040"), ("X-RateLimit-Tier", "basic"),
            ("Retry-After", "0")]
          [("error", .str "Rate limit exceeded"), ("tier", .str "basic"), ("limit", .int 1),
            ("retry_after", .int 1700000040)]] ∧
    Transition.outputs (serve ⟨[⟨"basic", 1, "token_bucket"⟩]⟩ none "203.0.113.7") empty
        [⟨1700000010000000000, 1700000010000000001, 1700000010000000002, 1700000010000000003⟩,
          ⟨1700000010500000000, 1700000010500000001, 1700000010500000002, 1700000010500000003⟩,
          ⟨1700000010500000004, 1700000010500000005, 1700000010500000006, 1700000010500000007⟩] =
      [.next [("X-RateLimit-Limit", "1"), ("X-RateLimit-Remaining", "0"),
          ("X-RateLimit-Reset", "1700000011"), ("X-RateLimit-Tier", "basic")],
        .abort 429 [("X-RateLimit-Limit", "1"), ("X-RateLimit-Remaining", "0"),
            ("X-RateLimit-Reset", "1700000010"), ("X-RateLimit-Tier", "basic"),
            ("Retry-After", "0")]
          [("error", .str "Rate limit exceeded"), ("tier", .str "basic"), ("limit", .int 1),
            ("retry_after", .int 1700000010)],
        .abort 429 [("X-RateLimit-Limit", "1"), ("X-RateLimit-Remaining", "0"),
            ("X-RateLimit-Reset", "1700000010"), ("X-RateLimit-Tier", "basic"),
            ("Retry-After", "0")]
          [("error", .str "Rate limit exceeded"), ("tier", .str "basic"), ("limit", .int 1),
            ("retry_after", .int 1700000010)]] := by
  refine ⟨?_, ?_⟩
  · decide +kernel
  · decide +kernel

end ApiGateway.Middleware
