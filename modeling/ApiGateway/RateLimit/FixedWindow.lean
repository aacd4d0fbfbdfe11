import ApiGateway.Go
import ApiGateway.Redis

/-!
`FixedWindowLimiter` of `internal/ratelimit/fixed_window.go`. The limiter's
Redis client is not a field here: every operation takes the database and the
clock reading it runs at, and returns the database it leaves. Allow is split
into its two round trips, the INCR and the EXPIRE that follows the first
increment of a window, so that the concurrent model can interleave them.
-/

namespace ApiGateway.RateLimit

open Redis

variable {β : Type}

structure FixedWindowLimiter where
  limit : Int
  window : Int

def newFixedWindow (limit window : Int) : FixedWindowLimiter := ⟨limit, window⟩

namespace FixedWindowLimiter

/-- `time.Now().Unix() / int64(f.window.Seconds())`, Go's truncating division. -/
def currentWindow (f : FixedWindowLimiter) (now : Int) : Int :=
  (Go.unix now).tdiv (Go.truncate (Go.seconds f.window))

/-- The counter key Allow uses: `ratelimit:fixed:<key>:<window>`. -/
def allowKey (key : String) (window : Int) : String :=
  "ratelimit:fixed:" ++ key ++ ":" ++ toString window

/-- The key Remaining reads: `ratelimit:<key>:<window>`. -/
def remainingKey (key : String) (window : Int) : String :=
  "ratelimit:" ++ key ++ ":" ++ toString window

/-- Allow's first round trip: INCR of the window's counter. -/
def increment (f : FixedWindowLimiter) (db : Store β) (now : Int) (key : String) :
    Except Error (Int × Store β) :=
  incr db now (allowKey key (f.currentWindow now))

/-- Allow's second round trip: the first increment of a window sets its TTL.
The EXPIRE's answer is ignored. -/
def expireFirst (f : FixedWindowLimiter) (db : Store β) (now : Int) (key : String)
    (count : Int) : Store β :=
  if count = 1 then (expire db now (allowKey key (f.currentWindow now)) f.window).2 else db

def allow (f : FixedWindowLimiter) (db : Store β) (now : Int) (key : String) :
    Except Error Bool × Store β :=
  match f.increment db now key with
  | .error e => (.error e, db)
  | .ok (count, db) => (.ok (decide (count ≤ f.limit)), f.expireFirst db now key count)

/-- `strconv.Atoi` of a stored string: the value of a decimal, and `0` with
an error for anything else; Remaining keeps the `0`. -/
def atoi : Str β → Int
  | .int n => n
  | .text _ => 0

def remaining (f : FixedWindowLimiter) (db : Store β) (now : Int) (key : String) :
    Except Error Int :=
  match get db now (remainingKey key (f.currentWindow now)) with
  | .ok none => .ok f.limit
  | .error e => .error e
  | .ok (some val) =>
      let remaining := f.limit - atoi val
      .ok (if remaining < 0 then 0 else remaining)

/-- `Reset`: the start of the next window, `time.Unix(nextWindow, 0)`. -/
def reset (f : FixedWindowLimiter) (now : Int) : Int :=
  (f.currentWindow now + 1) * Go.truncate (Go.seconds f.window) * Go.second

end FixedWindowLimiter

end ApiGateway.RateLimit
