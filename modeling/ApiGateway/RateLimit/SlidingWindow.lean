import ApiGateway.Go
import ApiGateway.Redis

/-!
`SlidingWindowLimiter` of `internal/ratelimit/sliding_window.go`. A key's
requests are the members of one sorted set, each member the decimal of the
request's nanosecond reading and its score that reading as a `float64`. The
range bounds Allow and Remaining pass as decimal strings are parsed by Redis
as doubles, so they go through the same rounding. Allow is split into its
pipelined trim-and-count and the ZADD and EXPIRE that record an admitted
request; the pipeline runs as one step, as it does in the claims about it.
-/

namespace ApiGateway.RateLimit

open Redis

variable {β : Type}

structure SlidingWindowLimiter where
  limit : Int
  window : Int

def newSlidingWindowLimiter (limit window : Int) : SlidingWindowLimiter := ⟨limit, window⟩

namespace SlidingWindowLimiter

/-- `ratelimit:sliding:<key>`. -/
def redisKey (key : String) : String := "ratelimit:sliding:" ++ key

/-- The pipeline of Allow: ZREMRANGEBYSCORE from `0` to the window start,
then ZCARD. Exec fails if either command does, and the first one failing
changes nothing. -/
def trim (s : SlidingWindowLimiter) (db : Store β) (now : Int) (key : String) :
    Except Error (Nat × Store β) :=
  let windowStart := now - s.window
  match zremRangeByScore db now (redisKey key) 0 (Go.float64OfInt windowStart) with
  | .error e => .error e
  | .ok (_, db) =>
      match zcard db now (redisKey key) with
      | .error e => .error e
      | .ok count => .ok (count, db)

/-- Adding the current request: member the decimal reading, score its
double; the ZADD's error is ignored, as is the EXPIRE's answer. -/
def record (s : SlidingWindowLimiter) (db : Store β) (now : Int) (key : String) : Store β :=
  let added := match zadd db now (redisKey key) (Go.float64OfInt now) (toString now) with
    | .ok db => db
    | .error _ => db
  (expire added now (redisKey key) s.window).2

def allow (s : SlidingWindowLimiter) (db : Store β) (now : Int) (key : String) :
    Except Error Bool × Store β :=
  match s.trim db now key with
  | .error e => (.error e, db)
  | .ok (count, db) =>
      if (count : Int) < s.limit then (.ok true, s.record db now key) else (.ok false, db)

/-- `Remaining`: ZCOUNT over the closed range from the window start to now. -/
def remaining (s : SlidingWindowLimiter) (db : Store β) (now : Int) (key : String) :
    Except Error Int :=
  let windowStart := now - s.window
  match zcount db now (redisKey key) (Go.float64OfInt windowStart) (Go.float64OfInt now) with
  | .error e => .error e
  | .ok count =>
      let remaining := s.limit - count
      .ok (if remaining < 0 then 0 else remaining)

/-- `fmt.Sscanf(member, "%d", &oldestNano)`: a member that is no decimal
leaves the zero it started from. -/
def scanDecimal (member : String) : Int := member.toInt?.getD 0

/-- `Reset`: the oldest member's reading plus the window, or now when the
set is empty or cannot be read. -/
def reset (s : SlidingWindowLimiter) (db : Store β) (now : Int) (key : String) : Int :=
  match zrange db now (redisKey key) 0 0 with
  | .ok (oldest :: _) => scanDecimal oldest + s.window
  | .ok [] => now
  | .error _ => now

end SlidingWindowLimiter

end ApiGateway.RateLimit
