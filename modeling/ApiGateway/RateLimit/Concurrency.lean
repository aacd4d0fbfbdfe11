import ApiGateway.Interleave
import ApiGateway.RateLimit.Limiter

/-!
Concurrent Allow calls on one key. Each call is a goroutine that reads its
clock once and then issues Allow's Redis round trips one at a time; other
calls' commands may run between them. Every single command, and the sliding
window's pipeline, is atomic. A call's first action is the INCR, the
pipeline or the GET; its second is what Allow does with the answer, which is
the EXPIRE of a new window, the ZADD and EXPIRE of an admitted request, or
the SET of the refilled bucket.
-/

namespace ApiGateway.RateLimit

open Redis Interleave

/-- Where a concurrent call of Allow stands. -/
inductive Phase where
  | start
  | counted (count : Int)
  | loaded (state : BucketState)
  | done (result : Except Error Bool)

/-- A concurrent Allow call: its clock reading and where it stands. -/
structure Call where
  now : Int
  phase : Phase

namespace Limiter

/-- The next atomic action of a call of Allow on `key`. -/
def act (l : Limiter) (key : String) (c : Call) (db : Store BucketState) :
    Option (Call × Store BucketState) :=
  match l, c.phase with
  | .fixedWindow f, .start =>
      match f.increment db c.now key with
      | .error e => some (⟨c.now, .done (.error e)⟩, db)
      | .ok (count, db) => some (⟨c.now, .counted count⟩, db)
  | .fixedWindow f, .counted count =>
      some (⟨c.now, .done (.ok (decide (count ≤ f.limit)))⟩, f.expireFirst db c.now key count)
  | .slidingWindow s, .start =>
      match s.trim db c.now key with
      | .error e => some (⟨c.now, .done (.error e)⟩, db)
      | .ok (count, db) => some (⟨c.now, .counted count⟩, db)
  | .slidingWindow s, .counted count =>
      if count < s.limit then some (⟨c.now, .done (.ok true)⟩, s.record db c.now key)
      else some (⟨c.now, .done (.ok false)⟩, db)
  | .tokenBucket t, .start =>
      match t.load db c.now key with
      | .error e => some (⟨c.now, .done (.error e)⟩, db)
      | .ok state => some (⟨c.now, .loaded state⟩, db)
  | .tokenBucket t, .loaded state =>
      let (allowed, db) := TokenBucket.consume db c.now key (t.refill state c.now)
      some (⟨c.now, .done (.ok allowed)⟩, db)
  | _, _ => none

/-- Allow as a sequential operation on the database, for one call's clock
reading. -/
def allowOp (l : Limiter) (key : String) (db : Store BucketState) (now : Int) :
    Except Error Bool × Store BucketState :=
  l.allow db now key

end Limiter

/-- The calls that have finished, with their clock readings and results. -/
def history (calls : List Call) : List (Int × Except Error Bool) :=
  calls.filterMap fun c =>
    match c.phase with
    | .done result => some (c.now, result)
    | _ => none

/-- Calls that have not started, one per clock reading. -/
def fresh (readings : List Int) : List Call := readings.map fun now => ⟨now, .start⟩

/-- A call that runs alone takes exactly Allow's round trips: its two actions
end in Allow's result and database. -/
theorem interleave_alone (l : Limiter) (key : String) (db : Store BucketState) (now : Int) :
    interleave (l.act key) (db, fresh [now]) [0, 0] =
      ((l.allow db now key).2, [⟨now, .done (l.allow db now key).1⟩]) := by
  cases l with
  | fixedWindow f =>
      cases h : f.increment db now key with
      | error e => simp [interleave, fresh, schedule, Limiter.act, Limiter.allow,
          FixedWindowLimiter.allow, h]
      | ok r => simp [interleave, fresh, schedule, Limiter.act, Limiter.allow,
          FixedWindowLimiter.allow, h]
  | slidingWindow s =>
      cases h : s.trim db now key with
      | error e => simp [interleave, fresh, schedule, Limiter.act, Limiter.allow,
          SlidingWindowLimiter.allow, h]
      | ok r =>
          by_cases hlimit : (r.1 : Int) < s.limit
          · simp [interleave, fresh, schedule, Limiter.act, Limiter.allow,
              SlidingWindowLimiter.allow, h, hlimit]
          · simp [interleave, fresh, schedule, Limiter.act, Limiter.allow,
              SlidingWindowLimiter.allow, h, hlimit]
  | tokenBucket t =>
      cases h : t.load db now key with
      | error e => simp [interleave, fresh, schedule, Limiter.act, Limiter.allow,
          TokenBucket.allow, h]
      | ok state => simp [interleave, fresh, schedule, Limiter.act, Limiter.allow,
          TokenBucket.allow, h]

/-- Two calls at one clock reading on a fresh key, each taking its first
round trip before either takes its second. -/
def racingPair (l : Limiter) (key : String) (now : Int) : List (Int × Except Error Bool) :=
  history (interleave (l.act key) (Redis.empty, fresh [now, now]) [0, 1, 0, 1]).2

theorem not_linearizable_of_replicate {l : Limiter} {key : String} {now : Int}
    (hlegal : legal (l.allowOp key) Redis.empty (List.replicate 2 (now, .ok true)) = false) :
    ¬ Linearizable (l.allowOp key) Redis.empty [(now, .ok true), (now, .ok true)] := by
  rw [show [(now, (Except.ok true : Except Error Bool)), (now, .ok true)] =
    List.replicate 2 (now, .ok true) from rfl, linearizable_replicate_iff, hlegal]
  decide

/-- A token bucket, or a sliding window, with one admission left: when two
calls at one reading both read Redis before either writes, both are
admitted, which no one-at-a-time order of the two calls allows. -/
theorem racing_calls_both_admitted :
    racingPair (newLimiter "token_bucket" 1 Go.minute) "k" 1700000000000000000 =
        [(1700000000000000000, .ok true), (1700000000000000000, .ok true)] ∧
      ¬ Linearizable ((newLimiter "token_bucket" 1 Go.minute).allowOp "k") Redis.empty
        [(1700000000000000000, .ok true), (1700000000000000000, .ok true)] ∧
      racingPair (newLimiter "sliding_window" 1 Go.minute) "k" 1700000000000000000 =
        [(1700000000000000000, .ok true), (1700000000000000000, .ok true)] ∧
      ¬ Linearizable ((newLimiter "sliding_window" 1 Go.minute).allowOp "k") Redis.empty
        [(1700000000000000000, .ok true), (1700000000000000000, .ok true)] := by
  refine ⟨by decide +kernel, not_linearizable_of_replicate ?_, by decide +kernel,
    not_linearizable_of_replicate ?_⟩
  · decide +kernel
  · decide +kernel

end ApiGateway.RateLimit
