import ApiGateway.Transition
import ApiGateway.RateLimit.Limiter

/-!
Remaining as a second reading of the state Allow keeps. The token bucket's
agrees with its Allow at every state and instant: it is at least one exactly
when Allow admits, and one less once Allow has admitted. The fixed window's
reads `ratelimit:<key>:<window>`, a key no Allow call writes, so it reports
the whole limit in every state Allow calls reach. The sliding window's counts
the closed range `[now - window, now]`, where Allow keeps only the scores
above `now - window`.
-/

namespace ApiGateway.RateLimit

open Redis

/-- The database that Allow calls for `key`, taken one at a time at
`readings`, leave behind them from an empty one. -/
def Limiter.afterAllows (l : Limiter) (key : String) (readings : List Int) : Store BucketState :=
  Transition.after (fun db now => l.allow db now key) empty readings

namespace TokenBucket

section Agreement

variable (t : TokenBucket) (db : Store BucketState) (now : Int) (key : String)

/-- Remaining computes the count Allow's refill gives the loaded state. -/
theorem remaining_of_load {st : BucketState} (h : t.load db now key = .ok st) :
    t.remaining db now key = .ok (Go.truncate (t.refill st now).tokens) := by
  unfold load at h
  unfold remaining
  cases hget : get db now (redisKey key) with
  | error e => simp [hget] at h
  | ok v =>
      cases v with
      | none =>
          simp only [hget, Except.ok.injEq] at h
          subst h
          simp [refill, Go.seconds]
      | some data =>
          simp only [hget, Except.ok.injEq] at h
          subst h
          rfl

theorem remaining_of_load_error {e : Error} (h : t.load db now key = .error e) :
    t.remaining db now key = .error e := by
  unfold load at h
  unfold remaining
  cases hget : get db now (redisKey key) with
  | error e' =>
      simp only [hget, Except.error.injEq] at h
      rw [h]
  | ok v =>
      cases v <;> simp [hget] at h

/-- The state Allow saves is what the next call at the same reading loads. -/
theorem load_set (st : BucketState) :
    t.load (set db now (redisKey key) (.text st) Go.hour) now key = .ok st := by
  have hlive :
      Entry.live (β := BucketState) ⟨.str (.text st), some (now + Go.hour)⟩ now = true := by
    simp [Entry.live, Go.hour, Go.minute, Go.second]
  have hpos : (0 : Int) < Go.hour := by decide
  simp [load, Redis.get, Redis.set, if_pos hpos, lookup_update_live _ _ _ hlive, decode]

theorem refill_tokens_le (st : BucketState) : (t.refill st now).tokens ≤ t.capacity :=
  min_le_right _ _

/-- Allow takes one of the refilled tokens when there is one. -/
theorem allow_of_load {st : BucketState} (h : t.load db now key = .ok st)
    (hone : 1 ≤ (t.refill st now).tokens) :
    t.allow db now key = (.ok true, set db now (redisKey key)
      (.text { t.refill st now with tokens := (t.refill st now).tokens - 1 }) Go.hour) := by
  simp [allow, h, consume, hone]

theorem allow_of_load_empty {st : BucketState} (h : t.load db now key = .ok st)
    (hnone : ¬ 1 ≤ (t.refill st now).tokens) : (t.allow db now key).1 = .ok false := by
  simp [allow, h, consume, hnone]

/-- Taking a token at the reading of the refill leaves one fewer whole token. -/
theorem remaining_after_take (st : BucketState) (hone : 1 ≤ (t.refill st now).tokens) :
    t.remaining (set db now (redisKey key)
        (.text { t.refill st now with tokens := (t.refill st now).tokens - 1 }) Go.hour) now key =
      .ok (Go.truncate (t.refill st now).tokens - 1) := by
  rw [t.remaining_of_load _ now key (t.load_set db now key _)]
  have hle : (t.refill st now).tokens - 1 ≤ t.capacity := by
    have := t.refill_tokens_le now st
    linarith
  have htokens :
      (t.refill { t.refill st now with tokens := (t.refill st now).tokens - 1 } now).tokens =
      (t.refill st now).tokens - 1 := by
    simp only [refill, sub_self, Go.seconds, Int.cast_zero, zero_div, zero_mul, add_zero]
    exact min_eq_left hle
  rw [htokens, Go.truncate_sub_one hone]

/-- The token bucket's Remaining agrees with its Allow at every state and
instant: it is at least one exactly when Allow admits, it is one less on the
state an admitting Allow leaves, and it fails exactly when Allow does. -/
theorem remaining_agrees_with_allow :
    (∀ r, t.remaining db now key = .ok r →
      (1 ≤ r ↔ (t.allow db now key).1 = .ok true) ∧
        ((t.allow db now key).1 = .ok true →
          t.remaining (t.allow db now key).2 now key = .ok (r - 1))) ∧
      (∀ e, t.remaining db now key = .error e → (t.allow db now key).1 = .error e) := by
  cases hload : t.load db now key with
  | error e =>
      have hrem := t.remaining_of_load_error db now key hload
      refine ⟨fun r hr => (by rw [hrem] at hr; cases hr), fun e' he' => ?_⟩
      rw [hrem] at he'
      cases he'
      simp [allow, hload]
  | ok st =>
      have hrem := t.remaining_of_load db now key hload
      refine ⟨fun r hr => ?_, fun e he => (by rw [hrem] at he; cases he)⟩
      rw [hrem] at hr
      cases hr
      by_cases hone : 1 ≤ (t.refill st now).tokens
      · rw [t.allow_of_load db now key hload hone]
        refine ⟨by simpa using (Go.one_le_truncate_iff _).mpr hone, fun _ => ?_⟩
        exact t.remaining_after_take db now key st hone
      · rw [t.allow_of_load_empty db now key hload hone]
        have hlt : ¬ 1 ≤ Go.truncate (t.refill st now).tokens := by
          rw [Go.one_le_truncate_iff]
          exact hone
        simp [hlt]

end Agreement

end TokenBucket

namespace FixedWindowLimiter

variable {β : Type}

theorem remainingKey_ne_allowKey (key : String) (window window' : Int) :
    remainingKey key window ≠ allowKey key window' :=
  key_ne_of_colon_count "ratelimit:" "ratelimit:fixed:" key window window' (by decide)

/-- Allow writes no key but its window's counter. -/
theorem allow_other (f : FixedWindowLimiter) (db : Store β) (now : Int) (key : String)
    {other : String} (hother : ∀ window, other ≠ allowKey key window) :
    (f.allow db now key).2 other = db other := by
  unfold allow
  cases hinc : f.increment db now key with
  | error e => rfl
  | ok res =>
      obtain ⟨count, db'⟩ := res
      have hframe : db' other = db other := incr_other hinc (hother _)
      simp only [expireFirst]
      split
      · rw [expire_other _ _ _ (hother _), hframe]
      · exact hframe

/-- The fixed window's Remaining reports the whole limit on every state that
Allow calls for the same key reach, at any readings. -/
theorem remaining_after_allows (f : FixedWindowLimiter) (key : String) (readings : List Int)
    (now : Int) :
    f.remaining (Transition.after (fun db now => f.allow db now key) (empty : Store β) readings)
      now key = .ok f.limit := by
  have hstep : Transition.Preserves (fun db now => (f.allow db now key).2)
      (fun db : Store β => ∀ window, db (remainingKey key window) = none) := by
    intro db now' hdb window
    show (f.allow db now' key).2 (remainingKey key window) = none
    rw [f.allow_other db now' key (fun window' => remainingKey_ne_allowKey key window window')]
    exact hdb window
  have hempty : ∀ window, (empty : Store β) (remainingKey key window) = none := fun _ => rfl
  have hnone := hstep.run hempty readings (f.currentWindow now)
  simp [remaining, Redis.get, lookup, Transition.after, hnone]

end FixedWindowLimiter

/-- Remaining disagrees with Allow on states one Allow call reaches. For the
fixed window with limit one, after an admitted call it still reports one
admission left while the next Allow at the same reading refuses. For the
sliding window with limit one, one minute after an admitted call it reports
none left while Allow admits, the old entry lying on the window's start. -/
theorem remaining_misreports_admissions :
    (newLimiter "fixed_window" 1 Go.minute).remaining
        ((newLimiter "fixed_window" 1 Go.minute).afterAllows "k" [1700000000000000000])
        1700000000000000000 "k" = .ok 1 ∧
      ((newLimiter "fixed_window" 1 Go.minute).allow
        ((newLimiter "fixed_window" 1 Go.minute).afterAllows "k" [1700000000000000000])
        1700000000000000000 "k").1 = .ok false ∧
      (newLimiter "sliding_window" 1 Go.minute).remaining
        ((newLimiter "sliding_window" 1 Go.minute).afterAllows "k" [1700000000000000000])
        1700000060000000000 "k" = .ok 0 ∧
      ((newLimiter "sliding_window" 1 Go.minute).allow
        ((newLimiter "sliding_window" 1 Go.minute).afterAllows "k" [1700000000000000000])
        1700000060000000000 "k").1 = .ok true := by
  refine ⟨?_, ?_, ?_, ?_⟩
  · decide +kernel
  · decide +kernel
  · decide +kernel
  · decide +kernel

end ApiGateway.RateLimit
