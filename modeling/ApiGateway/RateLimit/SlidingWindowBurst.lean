import ApiGateway.Transition
import ApiGateway.RateLimit.SlidingWindow
import ApiGateway.RateLimit.TokenBucket

/-!
Allow calls of a sliding window taken one at a time. An admitted request is
recorded as the member `toString now`, so requests with one clock reading
share one member and ZCARD counts them once. While the window's set holds no
member but that one, ZCARD answers at most one, and with a limit of two or
more every call at that reading is admitted, however many there are.
-/

namespace ApiGateway.RateLimit.SlidingWindowLimiter

open Redis

variable {β : Type}

/-- The answers of Allow calls on `key` taken one at a time, from `db`, at
the given clock readings. -/
def answers (s : SlidingWindowLimiter) (db : Store β) (key : String) (readings : List Int) :
    List (Except Error Bool) :=
  Transition.outputs (fun db now => s.allow db now key) db readings

/-- How many of the calls with a reading in `(t - window, t]` were admitted. -/
def admittedWithin (s : SlidingWindowLimiter) (t : Int) (calls : List (Int × Except Error Bool)) :
    Nat :=
  (calls.filter fun c => decide (t - s.window < c.1 ∧ c.1 ≤ t ∧ c.2 = .ok true)).length

/-- The key is missing or a sorted set whose only member can be `member`. -/
def HoldsOnly (db : Store β) (now : Int) (key member : String) : Prop :=
  ∀ e, lookup db now key = some e → ∃ z, e.value = .zset z ∧ ∀ x ∈ z.entries, x.1 = member

theorem card_le_one_of_members {z : ZSet} {member : String}
    (hall : ∀ x ∈ z.entries, x.1 = member) : z.card ≤ 1 := by
  have hrep : z.entries.map Prod.fst = List.replicate z.entries.length member := by
    rw [List.eq_replicate_iff]
    exact ⟨List.length_map _, by simpa using hall⟩
  have hnodup := z.nodup
  rw [hrep, List.nodup_replicate] at hnodup
  exact hnodup

theorem trim_of_holdsOnly (s : SlidingWindowLimiter) {db : Store β} {now : Int}
    {key member : String} (h : HoldsOnly db now (redisKey key) member) :
    ∃ count db', s.trim db now key = .ok (count, db') ∧ count ≤ 1 ∧
      HoldsOnly db' now (redisKey key) member := by
  cases hl : lookup db now (redisKey key) with
  | none =>
      refine ⟨0, db, ?_, Nat.zero_le _, h⟩
      simp [trim, zremRangeByScore, zcard, hl]
  | some e =>
      obtain ⟨z, hz, hall⟩ := h e hl
      have hlive : e.live now = true := (lookup_eq_some.mp hl).2
      let rest := z.removeRange 0 (Go.float64OfInt (now - s.window))
      have hrest : ∀ x ∈ rest.entries, x.1 = member := fun x hx =>
        hall x (List.mem_of_mem_filter hx)
      obtain ⟨value, deadline⟩ := e
      simp only at hz
      subst hz
      by_cases hempty : rest.card = 0
      · refine ⟨0, Function.update db (redisKey key) none, ?_, Nat.zero_le _, ?_⟩
        · simp [trim, zremRangeByScore, zcard, hl, rest, hempty]
        · intro e he
          simp at he
      · refine ⟨rest.card, Function.update db (redisKey key) (some ⟨.zset rest, deadline⟩),
          ?_, card_le_one_of_members hrest, ?_⟩
        · have hlive' : (⟨.zset rest, deadline⟩ : Entry β).live now = true := hlive
          simp [trim, zremRangeByScore, zcard, hl, rest, hempty, lookup_update_live _ _ _ hlive']
        · intro e he
          have hlive' : (⟨.zset rest, deadline⟩ : Entry β).live now = true := hlive
          rw [lookup_update_live _ _ _ hlive', Option.some.injEq] at he
          subst he
          exact ⟨rest, rfl, hrest⟩

theorem add_members {z : ZSet} {member : String} (score : Int)
    (hall : ∀ x ∈ z.entries, x.1 = member) : ∀ x ∈ (z.add member score).entries, x.1 = member := by
  intro x hx
  simp only [ZSet.add, List.mem_cons, List.mem_filter, decide_eq_true_eq] at hx
  rcases hx with rfl | ⟨hmem, hne⟩
  · rfl
  · exact absurd (hall x hmem) hne

theorem zadd_holdsOnly {db : Store β} {now : Int} {key member : String} (score : Int)
    (h : HoldsOnly db now key member) :
    ∃ db', zadd db now key score member = .ok db' ∧ HoldsOnly db' now key member := by
  cases hl : lookup db now key with
  | none =>
      refine ⟨Function.update db key (some ⟨.zset (ZSet.nil.add member score), none⟩),
        by simp [zadd, hl], ?_⟩
      intro e he
      simp only [lookup_update_self, Option.filter_eq_some_iff, Option.some.injEq] at he
      obtain ⟨rfl, -⟩ := he
      exact ⟨_, rfl, add_members score (by simp [ZSet.nil])⟩
  | some e =>
      obtain ⟨z, hz, hall⟩ := h e hl
      obtain ⟨value, deadline⟩ := e
      simp only at hz
      subst hz
      refine ⟨Function.update db key (some ⟨.zset (z.add member score), deadline⟩),
        by simp [zadd, hl], ?_⟩
      intro e he
      simp only [lookup_update_self, Option.filter_eq_some_iff, Option.some.injEq] at he
      obtain ⟨rfl, -⟩ := he
      exact ⟨_, rfl, add_members score hall⟩

theorem expire_holdsOnly {db : Store β} {now : Int} {key member : String} (ttl : Int)
    (h : HoldsOnly db now key member) : HoldsOnly (expire db now key ttl).2 now key member := by
  cases hl : lookup db now key with
  | none => simpa [expire, hl] using h
  | some e =>
      obtain ⟨z, hz, hall⟩ := h e hl
      intro e' he'
      by_cases httl : 0 < ttl
      · simp only [expire, hl, if_pos httl, lookup_update_self, Option.filter_eq_some_iff,
          Option.some.injEq] at he'
        obtain ⟨rfl, -⟩ := he'
        exact ⟨z, hz, hall⟩
      · simp [expire, hl, httl] at he'

theorem record_holdsOnly (s : SlidingWindowLimiter) {db : Store β} {now : Int} {key : String}
    (h : HoldsOnly db now (redisKey key) (toString now)) :
    HoldsOnly (s.record db now key) now (redisKey key) (toString now) := by
  obtain ⟨added, hadd, hadded⟩ := zadd_holdsOnly (Go.float64OfInt now) h
  simp only [record, hadd]
  exact expire_holdsOnly s.window hadded

/-- One call at the reading the set was built at is admitted, and the set
still holds only that reading's member. -/
theorem allow_of_holdsOnly (s : SlidingWindowLimiter) (hlimit : 2 ≤ s.limit) {db : Store β}
    {now : Int} {key : String} (h : HoldsOnly db now (redisKey key) (toString now)) :
    (s.allow db now key).1 = .ok true ∧
      HoldsOnly (s.allow db now key).2 now (redisKey key) (toString now) := by
  obtain ⟨count, db', htrim, hcount, hdb'⟩ := s.trim_of_holdsOnly h
  have hadmit : (count : Int) < s.limit := by omega
  simp only [allow, htrim, if_pos hadmit]
  exact ⟨trivial, s.record_holdsOnly hdb'⟩

/-- With a limit of at least two, every one of any number of calls at one
clock reading is admitted. -/
theorem answers_replicate (s : SlidingWindowLimiter) (hlimit : 2 ≤ s.limit) {db : Store β}
    {key : String} {now : Int} (h : HoldsOnly db now (redisKey key) (toString now)) (n : Nat) :
    s.answers db key (List.replicate n now) = List.replicate n (.ok true) := by
  induction n generalizing db with
  | zero => rfl
  | succ n ih =>
      obtain ⟨hanswer, hnext⟩ := s.allow_of_holdsOnly hlimit h
      simp only [answers, List.replicate_succ, Transition.outputs] at ih ⊢
      rw [hanswer, ih hnext]

theorem holdsOnly_empty (now : Int) (key member : String) :
    HoldsOnly (Redis.empty : Store β) now key member := by
  intro e he
  simp at he

/-- Three calls at one reading on a sliding window of limit two, all inside
the window that ends at that reading, are all admitted. -/
theorem same_reading_burst_exceeds_limit :
    (newSlidingWindowLimiter 2 Go.minute).answers (Redis.empty : Store BucketState) "k"
        (List.replicate 3 1700000000000000000) = List.replicate 3 (.ok true) ∧
      (newSlidingWindowLimiter 2 Go.minute).limit <
        (newSlidingWindowLimiter 2 Go.minute).admittedWithin 1700000000000000000
          ((List.replicate 3 1700000000000000000).zip
            ((newSlidingWindowLimiter 2 Go.minute).answers (Redis.empty : Store BucketState) "k"
              (List.replicate 3 1700000000000000000))) := by
  have hlimit : 2 ≤ (newSlidingWindowLimiter 2 Go.minute).limit := by decide
  have hanswers := (newSlidingWindowLimiter 2 Go.minute).answers_replicate hlimit
    (holdsOnly_empty (β := BucketState) 1700000000000000000 (redisKey "k")
      (toString (1700000000000000000 : Int))) 3
  refine ⟨hanswers, ?_⟩
  rw [hanswers]
  decide

end ApiGateway.RateLimit.SlidingWindowLimiter
