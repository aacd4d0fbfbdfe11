import ApiGateway.RateLimit.Concurrency

/-!
The fixed window's Allow when its round trips reach Redis after the clock
reading that chose the window. Allow reads `time.Now()` once, to name the
window's counter; its INCR and the EXPIRE of a new counter then run at
whatever time Redis executes them, on Redis's clock. The counter's TTL is
set by the first INCR of the window, to one window length from then, so an
INCR that reaches Redis later than that, still for the old window, finds the
counter gone and starts it again.
-/

namespace ApiGateway.RateLimit

open Redis Interleave

/-- A concurrent call of the fixed window's Allow: its clock reading, the
times its INCR and its EXPIRE run at, and where it stands. -/
structure TimedCall where
  reading : Int
  incrAt : Int
  expireAt : Int
  phase : Phase

/-- The call as the untimed model sees it. -/
def TimedCall.call (c : TimedCall) : Call := ⟨c.reading, c.phase⟩

namespace FixedWindowLimiter

variable {β : Type}

/-- The next atomic action of a timed call of Allow on `key`: the counter is
the reading's window's, and each command runs at its own time. -/
def timedAct (f : FixedWindowLimiter) (key : String) (c : TimedCall) (db : Store β) :
    Option (TimedCall × Store β) :=
  match c.phase with
  | .start =>
      match incr db c.incrAt (allowKey key (f.currentWindow c.reading)) with
      | .error e => some ({ c with phase := .done (.error e) }, db)
      | .ok (count, db) => some ({ c with phase := .counted count }, db)
  | .counted count =>
      some ({ c with phase := .done (.ok (decide (count ≤ f.limit))) },
        if count = 1 then
          (expire db c.expireAt (allowKey key (f.currentWindow c.reading)) f.window).2
        else db)
  | _ => none

/-- A call whose commands run at its reading takes the actions of the
untimed model. -/
theorem timedAct_at_reading (f : FixedWindowLimiter) (key : String) (now : Int) (phase : Phase)
    (db : Store BucketState) :
    (f.timedAct key ⟨now, now, now, phase⟩ db).map (fun next => (next.1.call, next.2)) =
      (Limiter.fixedWindow f).act key ⟨now, phase⟩ db := by
  cases phase with
  | start =>
      cases h : incr db now (allowKey key (f.currentWindow now)) with
      | error e => simp [timedAct, Limiter.act, increment, h, TimedCall.call]
      | ok r => simp [timedAct, Limiter.act, increment, h, TimedCall.call]
  | counted count => simp [timedAct, Limiter.act, expireFirst, TimedCall.call]
  | loaded state => rfl
  | done result => rfl

end FixedWindowLimiter

/-- Two calls of a limit of one in one window. The first reads the clock at
the window's start and runs its INCR and EXPIRE then, so the counter lives
until the window's end. The second reads the clock a second before the
window ends and its INCR reaches Redis two seconds later, within a window's
length of its reading but after the counter has expired: it counts one again
and both calls are admitted. -/
theorem late_increment_admitted_twice :
    (newFixedWindow 1 Go.minute).currentWindow 1700000040000000000 =
        (newFixedWindow 1 Go.minute).currentWindow 1700000099000000000 ∧
      (1700000101000000000 : Int) - 1700000099000000000 ≤ Go.minute ∧
      history ((interleave ((newFixedWindow 1 Go.minute).timedAct "k")
          ((empty : Store BucketState),
            [⟨1700000040000000000, 1700000040000000000, 1700000040000000000, .start⟩,
              ⟨1700000099000000000, 1700000101000000000, 1700000101000000000, .start⟩])
          [0, 0, 1, 1]).2.map TimedCall.call) =
        [(1700000040000000000, .ok true), (1700000099000000000, .ok true)] := by
  refine ⟨by decide +kernel, by decide, by decide +kernel⟩

end ApiGateway.RateLimit
