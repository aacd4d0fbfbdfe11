import ApiGateway.RateLimit.FixedWindow
import ApiGateway.RateLimit.SlidingWindow
import ApiGateway.RateLimit.TokenBucket

/-!
The `Limiter` interface of `internal/ratelimit/interface.go` over its three
implementations, and the factory `NewLimiter` of `factory.go`. All three
limiters share one Redis database; their keys carry distinct prefixes, and
the only strings any of them stores are INCR counters and bucket states.
-/

namespace ApiGateway.RateLimit

open Redis

inductive Limiter where
  | fixedWindow (f : FixedWindowLimiter)
  | slidingWindow (s : SlidingWindowLimiter)
  | tokenBucket (t : TokenBucket)

/-- `NewLimiter`. Go's integer division by `int(window.Seconds())` panics for
a window under a second; every caller passes `time.Minute`. -/
def newLimiter (algorithm : String) (limit window : Int) : Limiter :=
  match algorithm with
  | "sliding_window" => .slidingWindow (newSlidingWindowLimiter limit window)
  | "token_bucket" =>
      let refillRate := limit.tdiv (Go.truncate (Go.seconds window))
      .tokenBucket (newTokenBucket limit (if refillRate = 0 then 1 else refillRate))
  | "fixed_window" => .fixedWindow (newFixedWindow limit window)
  | _ => .fixedWindow (newFixedWindow limit window)

namespace Limiter

def allow : Limiter → Store BucketState → Int → String → Except Error Bool × Store BucketState
  | .fixedWindow f => f.allow
  | .slidingWindow s => s.allow
  | .tokenBucket t => t.allow

def remaining : Limiter → Store BucketState → Int → String → Except Error Int
  | .fixedWindow f => f.remaining
  | .slidingWindow s => s.remaining
  | .tokenBucket t => t.remaining

def limit : Limiter → Int
  | .fixedWindow f => f.limit
  | .slidingWindow s => s.limit
  | .tokenBucket t => t.capacity

def window : Limiter → Int
  | .fixedWindow f => f.window
  | .slidingWindow s => s.window
  | .tokenBucket t => t.window

/-- `Reset`, without its error result: the token bucket returns an error,
with the zero time, when its GET fails, and the one caller,
`RateLimitWithTier`, drops the error and keeps the time. -/
def reset : Limiter → Store BucketState → Int → String → Int
  | .fixedWindow f => fun _ now _ => f.reset now
  | .slidingWindow s => s.reset
  | .tokenBucket t => t.reset

end Limiter

end ApiGateway.RateLimit
