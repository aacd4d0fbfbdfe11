import ApiGateway.Go
import ApiGateway.Redis

/-!
`TokenBucket` of `internal/ratelimit/token_bucket.go`. The bucket's state is
stored as the JSON of `bucketState` with a one-hour TTL; JSON encoding of a
float and of a `time.Time` reads back the same value, so the database keeps
the state itself, and a string that is not such a document decodes to the
zero state, as `json.Unmarshal` leaves it. Token counts are exact rationals.
Allow is split into its GET and the SET that follows it.
-/

namespace ApiGateway.RateLimit

open Redis

structure TokenBucket where
  capacity : Int
  refillRate : Int
  refillEvery : Int

structure BucketState where
  tokens : ℚ
  lastRefill : Int
  deriving DecidableEq

/-- `NewTokenBucket`; `refillEvery` is fixed to one second. -/
def newTokenBucket (capacity refillRate : Int) : TokenBucket := ⟨capacity, refillRate, Go.second⟩

namespace TokenBucket

/-- `ratelimit:bucket:<key>`. -/
def redisKey (key : String) : String := "ratelimit:bucket:" ++ key

/-- `json.Unmarshal` of a stored string into a zero `bucketState`. -/
def decode : Str BucketState → BucketState
  | .text state => state
  | .int _ => ⟨0, Go.zeroTime⟩

/-- Allow's first round trip: the stored state, or a full bucket refilled now
when the key is missing. -/
def load (t : TokenBucket) (db : Store BucketState) (now : Int) (key : String) :
    Except Error BucketState :=
  match get db now (redisKey key) with
  | .ok none => .ok ⟨t.capacity, now⟩
  | .error e => .error e
  | .ok (some data) => .ok (decode data)

/-- The refill for the time elapsed since the last one, capped at the capacity. -/
def refill (t : TokenBucket) (state : BucketState) (now : Int) : BucketState :=
  ⟨min (state.tokens + Go.seconds (now - state.lastRefill) * t.refillRate) t.capacity, now⟩

/-- Allow's second round trip: a token is taken if there is one, and the
state is saved for an hour either way. -/
def consume (db : Store BucketState) (now : Int) (key : String) (state : BucketState) :
    Bool × Store BucketState :=
  if 1 ≤ state.tokens then
    (true, set db now (redisKey key) (.text { state with tokens := state.tokens - 1 }) Go.hour)
  else (false, set db now (redisKey key) (.text state) Go.hour)

def allow (t : TokenBucket) (db : Store BucketState) (now : Int) (key : String) :
    Except Error Bool × Store BucketState :=
  match t.load db now key with
  | .error e => (.error e, db)
  | .ok state =>
      let (allowed, db) := consume db now key (t.refill state now)
      (.ok allowed, db)

/-- `Remaining`: the refilled count, truncated by `int(...)`. -/
def remaining (t : TokenBucket) (db : Store BucketState) (now : Int) (key : String) :
    Except Error Int :=
  match get db now (redisKey key) with
  | .ok none => .ok t.capacity
  | .error e => .error e
  | .ok (some data) =>
      let state := decode data
      let tokensToAdd := Go.seconds (now - state.lastRefill) * t.refillRate
      let currentTokens := min (state.tokens + tokensToAdd) t.capacity
      .ok (Go.truncate currentTokens)

/-- `Window`: the time to fill an empty bucket, in whole seconds. -/
def window (t : TokenBucket) : Int := t.capacity.tdiv t.refillRate * Go.second

/-- `Reset`: now plus the whole seconds the stored tokens need to reach the
capacity; the zero time on an error. -/
def reset (t : TokenBucket) (db : Store BucketState) (now : Int) (key : String) : Int :=
  match get db now (redisKey key) with
  | .ok none => now
  | .error _ => Go.zeroTime
  | .ok (some data) =>
      let state := decode data
      let tokensNeeded := (t.capacity : ℚ) - state.tokens
      let secondsToFull := tokensNeeded / t.refillRate
      now + Go.truncate secondsToFull * Go.second

end TokenBucket

end ApiGateway.RateLimit
