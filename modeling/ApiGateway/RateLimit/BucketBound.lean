import ApiGateway.Bucket
import ApiGateway.RateLimit.Limiter

/-!
The Redis token bucket refines the ideal bucket of `Bucket` and so keeps its
bound. Along Allow calls for one key taken one at a time at non-decreasing
readings, the key holds the ideal bucket's state, saved with a one-hour TTL
from its refill. Once the TTL has run out Allow starts again from a full
bucket; the ideal bucket is full by then too provided an hour's refill fills
an empty one, that is provided the capacity is at most 3600 times the rate.
Every bucket `NewLimiter` builds for a one-minute window is such a bucket.
-/

namespace ApiGateway.RateLimit

open Redis

/-- A saved bucket state as an ideal bucket, its time in seconds. -/
def BucketState.ideal (st : BucketState) : Bucket.State ℚ :=
  ⟨st.tokens, Go.seconds st.lastRefill⟩

namespace TokenBucket

variable (t : TokenBucket) (key : String)

/-- The bucket key holds the ideal bucket `s`: it is missing and `s` is full,
or it holds the state `s` as the last Allow saved it, with its TTL. -/
def Stores (db : Store BucketState) (s : Bucket.State ℚ) : Prop :=
  (db (redisKey key) = none ∧ s.level = t.capacity) ∨
    ∃ st : BucketState,
      db (redisKey key) = some ⟨.str (.text st), some (st.lastRefill + Go.hour)⟩ ∧ s = st.ideal

theorem refill_ideal (st : BucketState) (now : Int) :
    (t.refill st now).ideal =
      Bucket.refill (t.capacity : ℚ) t.refillRate st.ideal (Go.seconds now) := by
  simp [refill, BucketState.ideal, Bucket.refill, Go.seconds_sub]

/-- Consume answers as the ideal take and saves the state it leaves. -/
theorem consume_ideal (db : Store BucketState) (now : Int) (st : BucketState) :
    ∃ st' : BucketState,
      consume db now key st =
          ((Bucket.take st.ideal).1, set db now (redisKey key) (.text st') Go.hour) ∧
        st'.ideal = (Bucket.take st.ideal).2 ∧ st'.lastRefill = st.lastRefill := by
  by_cases hone : 1 ≤ st.tokens
  · refine ⟨{ st with tokens := st.tokens - 1 }, ?_, ?_, rfl⟩
    · simp [consume, Bucket.take, BucketState.ideal, hone]
    · simp [Bucket.take, BucketState.ideal, hone]
  · refine ⟨st, ?_, ?_, rfl⟩
    · simp [consume, Bucket.take, BucketState.ideal, hone]
    · simp [Bucket.take, BucketState.ideal, hone]

/-- The state Allow saves is stored with the TTL `Stores` asks for. -/
theorem stores_set (db : Store BucketState) (now : Int) (st : BucketState)
    (hlast : st.lastRefill = now) :
    t.Stores key (set db now (redisKey key) (.text st) Go.hour) st.ideal := by
  have hpos : (0 : Int) < Go.hour := by decide
  refine .inr ⟨st, ?_, rfl⟩
  simp [Redis.set, hpos, hlast]

variable {t key}

/-- Every state saved under the key is a state of the ideal bucket, so in range. -/
theorem Stores.tokens_mem {db : Store BucketState} {s : Bucket.State ℚ}
    (hstores : t.Stores key db s) (hs : Bucket.Bounded (t.capacity : ℚ) s) {st : BucketState}
    {deadline : Option Int} (hkey : db (redisKey key) = some ⟨.str (.text st), deadline⟩) :
    0 ≤ st.tokens ∧ st.tokens ≤ t.capacity := by
  rcases hstores with ⟨hnone, -⟩ | ⟨st', hsome, rfl⟩
  · rw [hnone] at hkey
    cases hkey
  · rw [hsome] at hkey
    cases hkey
    exact hs

section Refines

variable (hrate : 0 ≤ t.refillRate) (hfull : t.capacity ≤ t.refillRate * 3600)
include hrate hfull

/-- Allow's load and refill give the ideal bucket's refill: the stored
state when it is live, and a full bucket when it is missing or expired,
which the ideal bucket is too by then. -/
theorem load_refill {db : Store BucketState} {s : Bucket.State ℚ} {now : Int}
    (hstores : t.Stores key db s) (hs : Bucket.Bounded (t.capacity : ℚ) s)
    (hnow : s.last ≤ Go.seconds now) :
    ∃ st, t.load db now key = .ok st ∧
      (t.refill st now).ideal = Bucket.refill (t.capacity : ℚ) t.refillRate s (Go.seconds now) := by
  have hgain : (0 : ℚ) ≤ (Go.seconds now - s.last) * t.refillRate :=
    mul_nonneg (by linarith) (by exact_mod_cast hrate)
  have hfresh : (t.refill ⟨t.capacity, now⟩ now).ideal = ⟨t.capacity, Go.seconds now⟩ := by
    simp [refill, BucketState.ideal]
  rcases hstores with ⟨hnone, hlevel⟩ | ⟨st, hsome, rfl⟩
  · have hfill : (t.capacity : ℚ) ≤ s.level + (Go.seconds now - s.last) * t.refillRate := by
      linarith
    refine ⟨⟨t.capacity, now⟩, by simp [load, get_of_none hnone], ?_⟩
    rw [hfresh, Bucket.refill_eq_full _ _ hfill]
  · by_cases hlive : now ≤ st.lastRefill + Go.hour
    · refine ⟨st, ?_, refill_ideal t st now⟩
      simp [load, get_of_deadline hsome, hlive, decode]
    · have hhour : (3600 : ℚ) ≤ Go.seconds now - Go.seconds st.lastRefill := by
        rw [← Go.seconds_sub, ← Go.seconds_hour, Go.seconds_le_seconds]
        omega
      have hfull' : (t.capacity : ℚ) ≤ t.refillRate * 3600 := by exact_mod_cast hfull
      have hrate' : (0 : ℚ) ≤ t.refillRate := by exact_mod_cast hrate
      have hfill : (t.capacity : ℚ) ≤
          st.tokens + (Go.seconds now - Go.seconds st.lastRefill) * t.refillRate :=
        Bucket.full_of_elapsed (t.capacity : ℚ) t.refillRate (s := st.ideal) hrate' hs.1 hfull'
          hhour
      refine ⟨⟨t.capacity, now⟩, ?_, ?_⟩
      · simp [load, get_of_deadline hsome, hlive]
      · rw [hfresh, Bucket.refill_eq_full _ _ hfill]

/-- One Allow call at a reading no earlier than the ideal bucket's last
refill answers as the ideal step does and leaves the key holding its state. -/
theorem allow_refines {db : Store BucketState} {s : Bucket.State ℚ} {now : Int}
    (hstores : t.Stores key db s) (hs : Bucket.Bounded (t.capacity : ℚ) s)
    (hnow : s.last ≤ Go.seconds now) :
    (t.allow db now key).1 =
        .ok (Bucket.step (t.capacity : ℚ) t.refillRate s (Go.seconds now)).1 ∧
      t.Stores key (t.allow db now key).2
        (Bucket.step (t.capacity : ℚ) t.refillRate s (Go.seconds now)).2 := by
  obtain ⟨st, hload, hrefill⟩ := load_refill hrate hfull hstores hs hnow
  obtain ⟨st', hconsume, hideal, hlast⟩ := consume_ideal key db now (t.refill st now)
  have hstep : Bucket.step (t.capacity : ℚ) t.refillRate s (Go.seconds now) =
      Bucket.take (t.refill st now).ideal := by
    rw [hrefill]
    rfl
  rw [hstep]
  simp only [allow, hload, hconsume]
  exact ⟨trivial, hideal ▸ stores_set t key db now st' hlast⟩

variable (hcapacity : 0 ≤ t.capacity)
include hcapacity

/-- Along Allow calls at non-decreasing readings, the Redis bucket answers
as the ideal bucket run at the same times in seconds, and its key holds the
ideal bucket's state at the end. -/
theorem allows_refine (readings : List Int) :
    ∀ {db : Store BucketState} {s : Bucket.State ℚ}, t.Stores key db s →
      Bucket.Bounded (t.capacity : ℚ) s → (∀ now ∈ readings, s.last ≤ Go.seconds now) →
      readings.Pairwise (· ≤ ·) →
      Transition.outputs (fun db now => t.allow db now key) db readings =
          (Transition.outputs (Bucket.step (t.capacity : ℚ) t.refillRate) s
            (readings.map Go.seconds)).map .ok ∧
        t.Stores key (Transition.after (fun db now => t.allow db now key) db readings)
          (Transition.after (Bucket.step (t.capacity : ℚ) t.refillRate) s
            (readings.map Go.seconds)) := by
  induction readings with
  | nil => intro db s hstores _ _ _; exact ⟨rfl, hstores⟩
  | cons now rest ih =>
      intro db s hstores hs hlater hsorted
      rw [List.pairwise_cons] at hsorted
      have hnow := hlater now List.mem_cons_self
      obtain ⟨hanswer, hstores'⟩ := allow_refines hrate hfull hstores hs hnow
      have hrate' : (0 : ℚ) ≤ t.refillRate := by exact_mod_cast hrate
      have hs' := Bucket.step_bounded (by exact_mod_cast hcapacity) hrate' hs hnow
      have hlater' : ∀ now' ∈ rest,
          (Bucket.step (t.capacity : ℚ) t.refillRate s (Go.seconds now)).2.last ≤
            Go.seconds now' := by
        intro now' hmem
        rw [Bucket.step_last, Go.seconds_le_seconds]
        exact hsorted.1 now' hmem
      obtain ⟨hrest, hend⟩ := ih hstores' hs' hlater' hsorted.2
      refine ⟨?_, hend⟩
      simp only [Transition.outputs, List.map_cons, hanswer, hrest]

end Refines

/-- The admitted calls of the Redis run with readings in `[a, b]` are the
ideal run's admissions in the same interval, in seconds. -/
theorem countP_admitted (readings : List Int) (answers : List Bool) (a b : Int) :
    (readings.zip (answers.map .ok)).countP
        (fun p : Int × Except Error Bool => decide (p.2 = .ok true ∧ a ≤ p.1 ∧ p.1 ≤ b)) =
      Bucket.admittedIn (Go.seconds a) (Go.seconds b) (readings.map Go.seconds) answers := by
  rw [Bucket.admittedIn, List.zip_map_left, List.zip_map_right, List.countP_map, List.countP_map]
  apply List.countP_congr
  rintro ⟨now, answer⟩ -
  cases answer <;> simp [Bucket.admitsIn, Go.seconds_le_seconds]

/-- The bound of the Redis token bucket whose capacity an hour's refill
reaches. Along Allow calls for one key at non-decreasing readings, from a
database without the bucket's key, every state saved holds between none and
`capacity` tokens, and at most `capacity + refillRate * (b - a)` of the calls
with readings in `[a, b]` are admitted, the interval's length in seconds. -/
theorem allows_bounded (hcapacity : 0 ≤ t.capacity) (hrate : 0 ≤ t.refillRate)
    (hfull : t.capacity ≤ t.refillRate * 3600) (db : Store BucketState)
    (hdb : db (redisKey key) = none) (readings : List Int) (hsorted : readings.Pairwise (· ≤ ·)) :
    (∀ n st deadline, Transition.after (fun db now => t.allow db now key) db (readings.take n)
        (redisKey key) = some ⟨.str (.text st), deadline⟩ →
        0 ≤ st.tokens ∧ st.tokens ≤ t.capacity) ∧
      ∀ a b, a ≤ b →
        (((readings.zip (Transition.outputs (fun db now => t.allow db now key) db readings)).countP
          fun p => decide (p.2 = .ok true ∧ a ≤ p.1 ∧ p.1 ≤ b) : ℕ) : ℚ) ≤
          t.capacity + t.refillRate * Go.seconds (b - a) := by
  let start : Bucket.State ℚ := ⟨t.capacity, Go.seconds (readings.headD 0)⟩
  have hcapacity' : (0 : ℚ) ≤ t.capacity := by exact_mod_cast hcapacity
  have hrate' : (0 : ℚ) ≤ t.refillRate := by exact_mod_cast hrate
  have hstart : t.Stores key db start := .inl ⟨hdb, rfl⟩
  have hbounded : Bucket.Bounded (t.capacity : ℚ) start := ⟨hcapacity', le_rfl⟩
  have hlater : ∀ now ∈ readings, start.last ≤ Go.seconds now := by
    intro now hmem
    cases readings with
    | nil => cases hmem
    | cons first rest =>
        rw [Go.seconds_le_seconds]
        rcases List.mem_cons.mp hmem with rfl | hrest
        · exact le_rfl
        · exact (List.pairwise_cons.mp hsorted).1 now hrest
  have hseconds : (readings.map Go.seconds).Pairwise (· ≤ ·) :=
    hsorted.map Go.seconds fun _ _ h => Go.seconds_le_seconds.mpr h
  refine ⟨fun n st deadline hkey => ?_, fun a b hab => ?_⟩
  · have hprefix := hsorted.sublist (List.take_sublist n readings)
    have hlater' : ∀ now ∈ readings.take n, start.last ≤ Go.seconds now :=
      fun now hmem => hlater now (List.mem_of_mem_take hmem)
    have hend := (allows_refine hrate hfull hcapacity (readings.take n) hstart hbounded hlater'
      hprefix).2
    have hlaterSeconds : ∀ q ∈ (readings.take n).map Go.seconds, start.last ≤ q := by
      intro q hq
      obtain ⟨now, hmem, rfl⟩ := List.mem_map.mp hq
      exact hlater' now hmem
    have hendBounded := Bucket.bounded_after hcapacity' hrate' hbounded ((readings.take n).map
      Go.seconds) hlaterSeconds (hseconds.sublist ((List.take_sublist n _).map _))
    exact hend.tokens_mem hendBounded hkey
  · rw [(allows_refine hrate hfull hcapacity readings hstart hbounded hlater hsorted).1,
      countP_admitted, Go.seconds_sub]
    exact Bucket.admittedIn_le hcapacity' hrate' (Go.seconds_le_seconds.mpr hab) hbounded _
      (by simpa using hlater) hseconds

end TokenBucket

/-- The bucket `NewLimiter` builds for a one-minute window: `limit` tokens,
refilled at `limit / 60` a second but at least one. -/
theorem newLimiter_tokenBucket {limit : Int} (hlimit : 0 ≤ limit) :
    newLimiter "token_bucket" limit Go.minute =
      .tokenBucket ⟨limit, max 1 (limit / 60), Go.second⟩ := by
  have hsixty : Go.truncate (Go.seconds Go.minute) = 60 := by
    rw [Go.seconds_minute]
    exact Go.truncate_intCast 60
  have hrate : limit.tdiv 60 = limit / 60 := Int.tdiv_eq_ediv_of_nonneg hlimit
  simp only [newLimiter, hsixty, hrate, newTokenBucket]
  congr 2
  split_ifs with hzero <;> omega

/-- An hour's refill fills every bucket `NewLimiter` builds for a one-minute window. -/
theorem capacity_le_hour_refill (limit : Int) : limit ≤ max 1 (limit / 60) * 3600 := by
  omega

theorem tokenBucket_minute_bound (limit : Int) (hlimit : 1 ≤ limit) (key : String)
    (db : Store BucketState) (hdb : db (TokenBucket.redisKey key) = none) (readings : List Int)
    (hsorted : readings.Pairwise (· ≤ ·)) :
    (∀ n st deadline, Transition.after
        (fun db now => (newLimiter "token_bucket" limit Go.minute).allow db now key) db
        (readings.take n) (TokenBucket.redisKey key) = some ⟨.str (.text st), deadline⟩ →
        0 ≤ st.tokens ∧ st.tokens ≤ limit) ∧
      ∀ a b, a ≤ b →
        (((readings.zip (Transition.outputs
            (fun db now => (newLimiter "token_bucket" limit Go.minute).allow db now key) db
            readings)).countP fun p => decide (p.2 = .ok true ∧ a ≤ p.1 ∧ p.1 ≤ b) : ℕ) : ℚ) ≤
          (limit : ℚ) + ((max 1 (limit / 60) : Int) : ℚ) * Go.seconds (b - a) := by
  rw [newLimiter_tokenBucket (by omega)]
  exact TokenBucket.allows_bounded (t := ⟨limit, max 1 (limit / 60), Go.second⟩)
    (by simp only; omega) (by simp only; omega) (capacity_le_hour_refill limit) db hdb readings
    hsorted

theorem tokenBucket_minute_bound_fresh :
    (1 : Int) ≤ 1 ∧ (empty : Store BucketState) (TokenBucket.redisKey "k") = none ∧
      ([1700000000000000000, 1700000001000000000] : List Int).Pairwise (· ≤ ·) ∧
      ∀ a b, a ≤ b →
        (((([1700000000000000000, 1700000001000000000] : List Int).zip (Transition.outputs
            (fun db now => (newLimiter "token_bucket" 1 Go.minute).allow db now "k") empty
            [1700000000000000000, 1700000001000000000])).countP fun p =>
              decide (p.2 = .ok true ∧ a ≤ p.1 ∧ p.1 ≤ b) : ℕ) : ℚ) ≤
          ((1 : Int) : ℚ) + ((max 1 (1 / 60) : Int) : ℚ) * Go.seconds (b - a) :=
  ⟨by decide, rfl, by decide,
    (tokenBucket_minute_bound 1 (by decide) "k" empty rfl
      [1700000000000000000, 1700000001000000000] (by decide)).2⟩

/-- A tier of one request a minute gets a bucket refilled at one token a
second: from an empty database, two calls one second apart are both
admitted, where the tier allows `1 + 1/60` in that second. -/
theorem tokenBucket_one_per_minute_admits_two :
    (((([1700000000000000000, 1700000001000000000] : List Int).zip (Transition.outputs
        (fun db now => (newLimiter "token_bucket" 1 Go.minute).allow db now "k") empty
        [1700000000000000000, 1700000001000000000])).countP fun p =>
          decide (p.2 = .ok true ∧ 1700000000000000000 ≤ p.1 ∧ p.1 ≤ 1700000001000000000) :
        ℕ) : ℚ) = 2 ∧
      (1 : ℚ) + 1 * Go.seconds (1700000001000000000 - 1700000000000000000) / 60 < 2 := by
  have hcount : (([1700000000000000000, 1700000001000000000] : List Int).zip (Transition.outputs
      (fun db now => (newLimiter "token_bucket" 1 Go.minute).allow db now "k") empty
      [1700000000000000000, 1700000001000000000])).countP (fun p =>
        decide (p.2 = .ok true ∧ 1700000000000000000 ≤ p.1 ∧ p.1 ≤ 1700000001000000000)) = 2 := by
    decide +kernel
  rw [hcount]
  norm_num [Go.seconds, Go.second]

/-- From sixty requests a minute on, the floor of `limit / 60` is the rate,
and the tier's rate bounds the bucket's admissions. -/
theorem tokenBucket_tier_rate (limit : Int) (hlimit : 60 ≤ limit) (key : String)
    (db : Store BucketState) (hdb : db (TokenBucket.redisKey key) = none) (readings : List Int)
    (hsorted : readings.Pairwise (· ≤ ·)) (a b : Int) (hab : a ≤ b) :
    (((readings.zip (Transition.outputs
        (fun db now => (newLimiter "token_bucket" limit Go.minute).allow db now key) db
        readings)).countP fun p => decide (p.2 = .ok true ∧ a ≤ p.1 ∧ p.1 ≤ b) : ℕ) : ℚ) ≤
      (limit : ℚ) + limit * Go.seconds (b - a) / 60 := by
  rw [newLimiter_tokenBucket (by omega)]
  have hbound := (TokenBucket.allows_bounded (t := ⟨limit, max 1 (limit / 60), Go.second⟩)
    (by simp only; omega) (by simp only; omega) (capacity_le_hour_refill limit) db hdb readings
    hsorted).2 a b hab
  have hrate : ((max 1 (limit / 60) : Int) : ℚ) ≤ (limit : ℚ) / 60 := by
    have hfloor : max 1 (limit / 60) * 60 ≤ limit := by omega
    rw [le_div_iff₀ (by norm_num)]
    exact_mod_cast hfloor
  have hlength : 0 ≤ Go.seconds (b - a) := by
    rw [← Go.seconds_zero, Go.seconds_le_seconds]
    omega
  calc _ ≤ (limit : ℚ) + ((max 1 (limit / 60) : Int) : ℚ) * Go.seconds (b - a) := hbound
    _ ≤ (limit : ℚ) + (limit : ℚ) / 60 * Go.seconds (b - a) := by gcongr
    _ = (limit : ℚ) + limit * Go.seconds (b - a) / 60 := by ring

theorem tokenBucket_tier_rate_sixty :
    (60 : Int) ≤ 60 ∧ (empty : Store BucketState) (TokenBucket.redisKey "k") = none ∧
      ([1700000000000000000, 1700000001000000000] : List Int).Pairwise (· ≤ ·) ∧
      (1700000000000000000 : Int) ≤ 1700000001000000000 ∧
      (((([1700000000000000000, 1700000001000000000] : List Int).zip (Transition.outputs
          (fun db now => (newLimiter "token_bucket" 60 Go.minute).allow db now "k") empty
          [1700000000000000000, 1700000001000000000])).countP fun p =>
            decide (p.2 = .ok true ∧ 1700000000000000000 ≤ p.1 ∧ p.1 ≤ 1700000001000000000) :
          ℕ) : ℚ) ≤
        ((60 : Int) : ℚ) + ((60 : Int) : ℚ) *
          Go.seconds (1700000001000000000 - 1700000000000000000) / 60 :=
  ⟨by decide, rfl, by decide, by decide,
    tokenBucket_tier_rate 60 (by decide) "k" empty rfl [1700000000000000000, 1700000001000000000]
      (by decide) 1700000000000000000 1700000001000000000 (by decide)⟩

end ApiGateway.RateLimit
