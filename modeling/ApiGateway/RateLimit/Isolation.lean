import ApiGateway.Footprint
import ApiGateway.RateLimit.Concurrency
import ApiGateway.Middleware.RateLimit

/-!
Clients of the rate limiter do not interfere. RateLimitWithTier limits each
request by one client key, the API key's id or the client's IP, and every
Redis command its limiter issues for the request names a key built from that
client key: the fixed window's counters and the keys its Remaining reads,
the sliding window's sorted set and the token bucket's state. Each command
reads and writes its own key only, so a request is local to its client's
keys; and the keys of two clients whose identifiers are written as UUIDs and
IP addresses are, never the same key. By the unwinding rule, in every run of
the middleware over the requests of many clients, under any algorithms and
tiers, each client gets the answers its own requests get alone.
-/

namespace Redis

section Glue

/-! Each command reads and writes its own key only: run on a glued database
whose part holding the key comes from `a`, it acts as on `a`. -/

open Classical

variable {β : Type} {S : Set String} {key : String}

theorem lookup_piecewise (hkey : key ∈ S) (a b : Store β) (now : Int) :
    lookup (S.piecewise a b) now key = lookup a now key := by
  rw [lookup, lookup, Set.piecewise_eq_of_mem S a b hkey]

theorem get_piecewise (hkey : key ∈ S) (a b : Store β) (now : Int) :
    get (S.piecewise a b) now key = get a now key := by
  rw [get, get, lookup_piecewise hkey]

theorem zcard_piecewise (hkey : key ∈ S) (a b : Store β) (now : Int) :
    zcard (S.piecewise a b) now key = zcard a now key := by
  rw [zcard, zcard, lookup_piecewise hkey]

theorem zcount_piecewise (hkey : key ∈ S) (a b : Store β) (now lo hi : Int) :
    zcount (S.piecewise a b) now key lo hi = zcount a now key lo hi := by
  rw [zcount, zcount, lookup_piecewise hkey]

theorem zrange_piecewise (hkey : key ∈ S) (a b : Store β) (now start stop : Int) :
    zrange (S.piecewise a b) now key start stop = zrange a now key start stop := by
  rw [zrange, zrange, lookup_piecewise hkey]

theorem set_piecewise (hkey : key ∈ S) (a b : Store β) (now : Int) (s : Str β) (ttl : Int) :
    set (S.piecewise a b) now key s ttl = S.piecewise (set a now key s ttl) b :=
  Footprint.update_piecewise hkey a b _

theorem incr_piecewise (hkey : key ∈ S) (a b : Store β) (now : Int) :
    incr (S.piecewise a b) now key = (incr a now key).map fun r => (r.1, S.piecewise r.2 b) := by
  rw [incr, incr, lookup_piecewise hkey]
  rcases lookup a now key with _ | ⟨(n | p) | z, d⟩ <;>
    simp [Except.map, Footprint.update_piecewise hkey]

theorem expire_piecewise (hkey : key ∈ S) (a b : Store β) (now ttl : Int) :
    expire (S.piecewise a b) now key ttl =
      ((expire a now key ttl).1, S.piecewise (expire a now key ttl).2 b) := by
  rw [expire, expire, lookup_piecewise hkey]
  rcases lookup a now key with _ | e <;> simp [Footprint.update_piecewise hkey]

theorem zadd_piecewise (hkey : key ∈ S) (a b : Store β) (now score : Int) (member : String) :
    zadd (S.piecewise a b) now key score member =
      (zadd a now key score member).map (S.piecewise · b) := by
  rw [zadd, zadd, lookup_piecewise hkey]
  rcases lookup a now key with _ | ⟨s | z, d⟩ <;>
    simp [Except.map, Footprint.update_piecewise hkey]

theorem zremRangeByScore_piecewise (hkey : key ∈ S) (a b : Store β) (now lo hi : Int) :
    zremRangeByScore (S.piecewise a b) now key lo hi =
      (zremRangeByScore a now key lo hi).map fun r => (r.1, S.piecewise r.2 b) := by
  rw [zremRangeByScore, zremRangeByScore, lookup_piecewise hkey]
  rcases lookup a now key with _ | ⟨s | z, d⟩ <;>
    simp [Except.map, Footprint.update_piecewise hkey]

end Glue

end Redis

namespace ApiGateway.RateLimit

open Redis

/-- The Redis keys the limiters keep for the client key `key`: the fixed
window's counters, the keys its Remaining reads, the sliding window's sorted
set and the token bucket's state. -/
def footprint (key : String) : Set String :=
  {x | (∃ window, x = FixedWindowLimiter.allowKey key window) ∨
    (∃ window, x = FixedWindowLimiter.remainingKey key window) ∨
    x = SlidingWindowLimiter.redisKey key ∨ x = TokenBucket.redisKey key}

theorem allowKey_mem_footprint (key : String) (window : Int) :
    FixedWindowLimiter.allowKey key window ∈ footprint key :=
  .inl ⟨window, rfl⟩

theorem remainingKey_mem_footprint (key : String) (window : Int) :
    FixedWindowLimiter.remainingKey key window ∈ footprint key :=
  .inr (.inl ⟨window, rfl⟩)

theorem slidingKey_mem_footprint (key : String) :
    SlidingWindowLimiter.redisKey key ∈ footprint key :=
  .inr (.inr (.inl rfl))

theorem bucketKey_mem_footprint (key : String) : TokenBucket.redisKey key ∈ footprint key :=
  .inr (.inr (.inr rfl))

section Locality

/-! Every operation of the three limiters for a client key reads and writes
that key's footprint only. -/

open Classical Footprint

variable {β : Type} (now : Int) (key : String)

theorem FixedWindowLimiter.increment_piecewise (f : FixedWindowLimiter) (a b : Store β) :
    f.increment ((footprint key).piecewise a b) now key =
      (f.increment a now key).map fun r => (r.1, (footprint key).piecewise r.2 b) :=
  incr_piecewise (allowKey_mem_footprint key _) a b now

theorem FixedWindowLimiter.expireFirst_piecewise (f : FixedWindowLimiter) (a b : Store β)
    (count : Int) :
    f.expireFirst ((footprint key).piecewise a b) now key count =
      (footprint key).piecewise (f.expireFirst a now key count) b := by
  unfold FixedWindowLimiter.expireFirst
  split
  · rw [expire_piecewise (allowKey_mem_footprint key _)]
  · rfl

theorem FixedWindowLimiter.allow_local (f : FixedWindowLimiter) :
    Local (footprint key) (fun db : Store β => f.allow db now key) := by
  intro a b
  simp only [FixedWindowLimiter.allow, f.increment_piecewise]
  cases f.increment a now key with
  | error e => rfl
  | ok r => simp only [Except.map, f.expireFirst_piecewise]

theorem FixedWindowLimiter.remaining_piecewise (f : FixedWindowLimiter) (a b : Store β) :
    f.remaining ((footprint key).piecewise a b) now key = f.remaining a now key := by
  rw [FixedWindowLimiter.remaining, FixedWindowLimiter.remaining,
    get_piecewise (remainingKey_mem_footprint key _)]

theorem SlidingWindowLimiter.trim_piecewise (s : SlidingWindowLimiter) (a b : Store β) :
    s.trim ((footprint key).piecewise a b) now key =
      (s.trim a now key).map fun r => (r.1, (footprint key).piecewise r.2 b) := by
  have hkey := slidingKey_mem_footprint key
  rw [SlidingWindowLimiter.trim, SlidingWindowLimiter.trim, zremRangeByScore_piecewise hkey]
  cases zremRangeByScore a now (SlidingWindowLimiter.redisKey key) 0
      (Go.float64OfInt (now - s.window)) with
  | error e => rfl
  | ok r =>
      obtain ⟨removed, db⟩ := r
      simp only [Except.map, zcard_piecewise hkey]
      cases zcard db now (SlidingWindowLimiter.redisKey key) <;> rfl

theorem SlidingWindowLimiter.record_piecewise (s : SlidingWindowLimiter) (a b : Store β) :
    s.record ((footprint key).piecewise a b) now key =
      (footprint key).piecewise (s.record a now key) b := by
  have hkey := slidingKey_mem_footprint key
  rw [SlidingWindowLimiter.record, SlidingWindowLimiter.record, zadd_piecewise hkey]
  cases zadd a now (SlidingWindowLimiter.redisKey key) (Go.float64OfInt now) (toString now) <;>
    simp only [Except.map, expire_piecewise hkey]

theorem SlidingWindowLimiter.allow_local (s : SlidingWindowLimiter) :
    Local (footprint key) (fun db : Store β => s.allow db now key) := by
  intro a b
  simp only [SlidingWindowLimiter.allow, SlidingWindowLimiter.trim_piecewise]
  cases s.trim a now key with
  | error e => rfl
  | ok r =>
      obtain ⟨count, db⟩ := r
      simp only [Except.map]
      split
      · rw [SlidingWindowLimiter.record_piecewise]
      · rfl

theorem SlidingWindowLimiter.remaining_piecewise (s : SlidingWindowLimiter) (a b : Store β) :
    s.remaining ((footprint key).piecewise a b) now key = s.remaining a now key := by
  rw [SlidingWindowLimiter.remaining, SlidingWindowLimiter.remaining,
    zcount_piecewise (slidingKey_mem_footprint key)]

theorem SlidingWindowLimiter.reset_piecewise (s : SlidingWindowLimiter) (a b : Store β) :
    s.reset ((footprint key).piecewise a b) now key = s.reset a now key := by
  rw [SlidingWindowLimiter.reset, SlidingWindowLimiter.reset,
    zrange_piecewise (slidingKey_mem_footprint key)]

theorem TokenBucket.load_piecewise (t : TokenBucket) (a b : Store BucketState) :
    t.load ((footprint key).piecewise a b) now key = t.load a now key := by
  rw [TokenBucket.load, TokenBucket.load, get_piecewise (bucketKey_mem_footprint key)]

theorem TokenBucket.consume_piecewise (a b : Store BucketState) (state : BucketState) :
    TokenBucket.consume ((footprint key).piecewise a b) now key state =
      ((TokenBucket.consume a now key state).1,
        (footprint key).piecewise (TokenBucket.consume a now key state).2 b) := by
  unfold TokenBucket.consume
  split <;> simp only [set_piecewise (bucketKey_mem_footprint key)]

theorem TokenBucket.allow_local (t : TokenBucket) :
    Local (footprint key) (fun db => t.allow db now key) := by
  intro a b
  simp only [TokenBucket.allow, TokenBucket.load_piecewise]
  cases t.load a now key with
  | error e => rfl
  | ok state => simp only [TokenBucket.consume_piecewise]

theorem TokenBucket.remaining_piecewise (t : TokenBucket) (a b : Store BucketState) :
    t.remaining ((footprint key).piecewise a b) now key = t.remaining a now key := by
  rw [TokenBucket.remaining, TokenBucket.remaining, get_piecewise (bucketKey_mem_footprint key)]

theorem TokenBucket.reset_piecewise (t : TokenBucket) (a b : Store BucketState) :
    t.reset ((footprint key).piecewise a b) now key = t.reset a now key := by
  rw [TokenBucket.reset, TokenBucket.reset, get_piecewise (bucketKey_mem_footprint key)]

theorem Limiter.allow_local (l : Limiter) :
    Local (footprint key) (fun db => l.allow db now key) := by
  cases l with
  | fixedWindow f => exact f.allow_local now key
  | slidingWindow s => exact s.allow_local now key
  | tokenBucket t => exact t.allow_local now key

theorem Limiter.remaining_piecewise (l : Limiter) (a b : Store BucketState) :
    l.remaining ((footprint key).piecewise a b) now key = l.remaining a now key := by
  cases l with
  | fixedWindow f => exact f.remaining_piecewise now key a b
  | slidingWindow s => exact s.remaining_piecewise now key a b
  | tokenBucket t => exact t.remaining_piecewise now key a b

/-- Each atomic action of a concurrent Allow call reads and writes its key's
footprint only. -/
theorem Limiter.act_piecewise (l : Limiter) (c : Call) (a b : Store BucketState) :
    l.act key c ((footprint key).piecewise a b) =
      (l.act key c a).map fun r => (r.1, (footprint key).piecewise r.2 b) := by
  obtain ⟨now, phase⟩ := c
  cases l with
  | fixedWindow f =>
      cases phase with
      | start =>
          simp only [Limiter.act, f.increment_piecewise]
          cases f.increment a now key <;> rfl
      | counted count => simp only [Limiter.act, f.expireFirst_piecewise, Option.map_some]
      | loaded state => rfl
      | done result => rfl
  | slidingWindow s =>
      cases phase with
      | start =>
          simp only [Limiter.act, s.trim_piecewise]
          cases s.trim a now key <;> rfl
      | counted count =>
          simp only [Limiter.act]
          split <;> simp only [s.record_piecewise, Option.map_some]
      | loaded state => rfl
      | done result => rfl
  | tokenBucket t =>
      cases phase with
      | start =>
          simp only [Limiter.act, t.load_piecewise]
          cases t.load a now key <;> rfl
      | counted count => rfl
      | loaded state => simp only [Limiter.act, TokenBucket.consume_piecewise, Option.map_some]
      | done result => rfl

theorem Limiter.reset_piecewise (l : Limiter) (a b : Store BucketState) :
    l.reset ((footprint key).piecewise a b) now key = l.reset a now key := by
  cases l with
  | fixedWindow f => rfl
  | slidingWindow s => exact s.reset_piecewise now key a b
  | tokenBucket t => exact t.reset_piecewise now key a b

end Locality

section Keys

/-! Client keys are the strings of UUIDs and IP addresses. Every character
of such a key is one of the identifiers' characters, and so is every
character of a decimal; only the limiters' prefixes hold others, a different
number for each kind of key. So a Redis key of one client is never one of
another's. -/

/-- The characters of the identifiers RateLimitWithTier limits by: the
hexadecimal digits and hyphens of an API key's UUID, and the digits, dots
and colons of a client's IPv4 or IPv6 address. -/
def identChar (c : Char) : Bool :=
  c.isDigit || ('a' ≤ c && c ≤ 'f') || ('A' ≤ c && c ≤ 'F') || c == '-' || c == '.' || c == ':'

/-- A client key written in the identifiers' characters. -/
def PlainKey (key : String) : Prop := key.toList.all identChar = true

instance : DecidablePred PlainKey := fun key =>
  inferInstanceAs (Decidable (key.toList.all identChar = true))

/-- The characters of a key outside the identifiers' alphabet. -/
def foreignCount (x : String) : Nat := x.toList.countP fun c => !identChar c

theorem foreignCount_append (x y : String) :
    foreignCount (x ++ y) = foreignCount x + foreignCount y := by
  rw [foreignCount, foreignCount, foreignCount, String.toList_append, List.countP_append]

theorem foreignCount_plain {key : String} (hkey : PlainKey key) : foreignCount key = 0 := by
  rw [foreignCount, List.countP_eq_zero]
  intro c hc
  simp [List.all_eq_true.mp hkey c hc]

theorem foreignCount_toString (n : Int) : foreignCount (toString n) = 0 := by
  have hdigits : ∀ m : Nat, foreignCount (Nat.repr m) = 0 := by
    intro m
    rw [foreignCount, List.countP_eq_zero]
    intro c hc
    rw [Nat.toList_repr] at hc
    simp [identChar, Nat.isDigit_of_mem_toDigits (by decide) (by decide) hc]
  cases n with
  | ofNat m => exact hdigits m
  | negSucc m =>
      show foreignCount ("-" ++ Nat.repr (m + 1)) = 0
      rw [foreignCount_append, hdigits (m + 1)]
      decide

/-- A key of a window, `<prefix><key>:<window>`, holds the foreign characters
of its prefix only. -/
theorem foreignCount_windowKey (p : String) {key : String} (hkey : PlainKey key) (w : Int) :
    foreignCount (p ++ key ++ ":" ++ toString w) = foreignCount p := by
  have hcolon : foreignCount ":" = 0 := by decide
  rw [foreignCount_append, foreignCount_append, foreignCount_append, foreignCount_plain hkey,
    foreignCount_toString, hcolon, Nat.add_zero]

theorem foreignCount_allowKey {key : String} (hkey : PlainKey key) (window : Int) :
    foreignCount (FixedWindowLimiter.allowKey key window) = 9 := by
  unfold FixedWindowLimiter.allowKey
  rw [foreignCount_windowKey _ hkey]
  decide

theorem foreignCount_remainingKey {key : String} (hkey : PlainKey key) (window : Int) :
    foreignCount (FixedWindowLimiter.remainingKey key window) = 7 := by
  unfold FixedWindowLimiter.remainingKey
  rw [foreignCount_windowKey _ hkey]
  decide

theorem foreignCount_slidingKey {key : String} (hkey : PlainKey key) :
    foreignCount (SlidingWindowLimiter.redisKey key) = 13 := by
  unfold SlidingWindowLimiter.redisKey
  rw [foreignCount_append, foreignCount_plain hkey]
  decide

theorem foreignCount_bucketKey {key : String} (hkey : PlainKey key) :
    foreignCount (TokenBucket.redisKey key) = 10 := by
  unfold TokenBucket.redisKey
  rw [foreignCount_append, foreignCount_plain hkey]
  decide

/-- A key splits at most one way at the last colon before a decimal. -/
theorem eq_of_append_colon {k k' w w' : List Char} (hw : ':' ∉ w) (hw' : ':' ∉ w')
    (h : k ++ ':' :: w = k' ++ ':' :: w') : k = k' := by
  have hrev : w.reverse ++ ':' :: k.reverse = w'.reverse ++ ':' :: k'.reverse := by
    simpa using congrArg List.reverse h
  have hfirst : ∀ {l l' r r' : List Char}, ':' ∉ l → ':' ∉ l' →
      l ++ ':' :: r = l' ++ ':' :: r' → r = r' := by
    intro l l' r r' hl hl' heq
    rcases List.append_eq_append_iff.mp heq with ⟨a, rfl, ha⟩ | ⟨c, rfl, hc⟩
    · cases a with
      | nil => simpa using ha
      | cons x a =>
          obtain ⟨rfl, -⟩ := List.cons.inj ha
          exact absurd (by simp) hl'
    · cases c with
      | nil => simpa using hc.symm
      | cons x c =>
          obtain ⟨rfl, -⟩ := List.cons.inj hc
          exact absurd (by simp) hl
  exact List.reverse_inj.mp (hfirst (by simpa using hw) (by simpa using hw') hrev)

/-- A key of a window determines the client key: the window's decimal holds
no colon. -/
theorem eq_of_windowKey (p : String) {k k' : String} {w w' : Int}
    (h : p ++ k ++ ":" ++ toString w = p ++ k' ++ ":" ++ toString w') : k = k' := by
  rw [String.append_assoc, String.append_assoc, String.append_assoc, String.append_assoc,
    String.append_right_inj, ← String.append_assoc, ← String.append_assoc] at h
  have hlist : (k ++ ":" ++ toString w).toList = (k' ++ ":" ++ toString w').toList := by rw [h]
  simp only [String.toList_append] at hlist
  simp only [List.append_assoc] at hlist
  exact String.toList_inj.mp
    (eq_of_append_colon (colon_not_mem_toString w) (colon_not_mem_toString w') hlist)

theorem allowKey_inj {k k' : String} {w w' : Int}
    (h : FixedWindowLimiter.allowKey k w = FixedWindowLimiter.allowKey k' w') : k = k' := by
  unfold FixedWindowLimiter.allowKey at h
  exact eq_of_windowKey _ h

theorem remainingKey_inj {k k' : String} {w w' : Int}
    (h : FixedWindowLimiter.remainingKey k w = FixedWindowLimiter.remainingKey k' w') :
    k = k' := by
  unfold FixedWindowLimiter.remainingKey at h
  exact eq_of_windowKey _ h

theorem slidingKey_inj {k k' : String}
    (h : SlidingWindowLimiter.redisKey k = SlidingWindowLimiter.redisKey k') : k = k' := by
  unfold SlidingWindowLimiter.redisKey at h
  exact (String.append_right_inj _).mp h

theorem bucketKey_inj {k k' : String}
    (h : TokenBucket.redisKey k = TokenBucket.redisKey k') : k = k' := by
  unfold TokenBucket.redisKey at h
  exact (String.append_right_inj _).mp h

/-- A Redis key in the footprints of two plain client keys belongs to one
client. -/
theorem eq_of_mem_footprint {k k' x : String} (hk : PlainKey k) (hk' : PlainKey k')
    (h : x ∈ footprint k) (h' : x ∈ footprint k') : k = k' := by
  rcases h with ⟨w, rfl⟩ | ⟨w, rfl⟩ | rfl | rfl <;>
    rcases h' with ⟨w', h'⟩ | ⟨w', h'⟩ | h' | h' <;>
    first
      | exact allowKey_inj h'
      | exact remainingKey_inj h'
      | exact slidingKey_inj h'
      | exact bucketKey_inj h'
      | (have hcount := congrArg foreignCount h'
         simp only [foreignCount_allowKey, foreignCount_remainingKey, foreignCount_slidingKey,
           foreignCount_bucketKey, hk, hk'] at hcount
         omega)

theorem footprint_disjoint {k k' : String} (hk : PlainKey k) (hk' : PlainKey k') (hne : k ≠ k') :
    Disjoint (footprint k) (footprint k') :=
  Set.disjoint_left.mpr fun _ hx hx' => hne (eq_of_mem_footprint hk hk' hx hx')

end Keys

section Concurrent

/-! Concurrent Allow calls of many clients, as RateLimitWithTier's
goroutines issue them: each call carries the limiter its tier built and its
client key, and its Redis round trips interleave with every other call's. -/

open Classical Footprint Interleave

/-- A goroutine's call of Allow for one client. -/
structure ClientCall where
  limiter : Limiter
  key : String
  call : Call

/-- The next atomic action of a client's call of Allow. -/
def ClientCall.act (c : ClientCall) (db : Store BucketState) :
    Option (ClientCall × Store BucketState) :=
  (c.limiter.act c.key c.call db).map fun r => ({ c with call := r.1 }, r.2)

theorem ClientCall.act_key {c c' : ClientCall} {db db' : Store BucketState}
    (h : c.act db = some (c', db')) : c'.key = c.key := by
  obtain ⟨r, -, hr⟩ := Option.map_eq_some_iff.mp h
  cases hr
  rfl

theorem ClientCall.act_local (c : ClientCall) :
    Local (footprint c.key) (actCommand ClientCall.act c) := by
  intro a b
  simp only [actCommand, ClientCall.act, c.limiter.act_piecewise]
  cases c.limiter.act c.key c.call a <;> rfl

/-- Concurrent Allow calls of different clients never interfere. Under every
schedule of the round trips of concurrent Allow calls, each with its own
limiter and client key, from any Redis, when every client key is written in
the characters of UUIDs and IP addresses: the calls of one client end
exactly as they end when the schedule takes only that client's steps, and the
two schedules leave the same entries at the client's Redis keys. The races
between calls of one key therefore stay within that key. -/
theorem concurrent_clients_isolated (db : Store BucketState) (calls : List ClientCall)
    (order : List Nat) (key : String) (hkey : PlainKey key)
    (hplain : ∀ c ∈ calls, PlainKey c.key) :
    Set.EqOn (interleave ClientCall.act (db, calls) order).1
        (interleave ClientCall.act (db, calls)
          (order.filter (ownedAt ClientCall.key key calls))).1 (footprint key) ∧
      ∀ i, ownedAt ClientCall.key key calls i = true →
        (interleave ClientCall.act (db, calls) order).2[i]? =
          (interleave ClientCall.act (db, calls)
            (order.filter (ownedAt ClientCall.key key calls))).2[i]? :=
  interleave_unwinding (fun c => c.act_local) (fun _ _ _ _ h => ClientCall.act_key h)
    (fun c hc hne => footprint_disjoint (hplain c hc) hkey hne) db order

theorem concurrent_clients_isolated_two_addresses :
    PlainKey "203.0.113.7" ∧
      (∀ c ∈ [ClientCall.mk (newLimiter "token_bucket" 1 Go.minute) "198.51.100.4" ⟨1, .start⟩,
          ClientCall.mk (newLimiter "sliding_window" 1 Go.minute) "203.0.113.7" ⟨2, .start⟩],
        PlainKey c.key) ∧
      (Set.EqOn
          (interleave ClientCall.act (empty,
            [ClientCall.mk (newLimiter "token_bucket" 1 Go.minute) "198.51.100.4" ⟨1, .start⟩,
              ClientCall.mk (newLimiter "sliding_window" 1 Go.minute) "203.0.113.7" ⟨2, .start⟩])
            [0, 1, 1, 0]).1
          (interleave ClientCall.act (empty,
            [ClientCall.mk (newLimiter "token_bucket" 1 Go.minute) "198.51.100.4" ⟨1, .start⟩,
              ClientCall.mk (newLimiter "sliding_window" 1 Go.minute) "203.0.113.7" ⟨2, .start⟩])
            ([0, 1, 1, 0].filter (ownedAt ClientCall.key "203.0.113.7"
              [ClientCall.mk (newLimiter "token_bucket" 1 Go.minute) "198.51.100.4" ⟨1, .start⟩,
                ClientCall.mk (newLimiter "sliding_window" 1 Go.minute) "203.0.113.7"
                  ⟨2, .start⟩]))).1
          (footprint "203.0.113.7") ∧
        ∀ i, ownedAt ClientCall.key "203.0.113.7"
            [ClientCall.mk (newLimiter "token_bucket" 1 Go.minute) "198.51.100.4" ⟨1, .start⟩,
              ClientCall.mk (newLimiter "sliding_window" 1 Go.minute) "203.0.113.7" ⟨2, .start⟩]
            i = true →
          (interleave ClientCall.act (empty,
            [ClientCall.mk (newLimiter "token_bucket" 1 Go.minute) "198.51.100.4" ⟨1, .start⟩,
              ClientCall.mk (newLimiter "sliding_window" 1 Go.minute) "203.0.113.7" ⟨2, .start⟩])
            [0, 1, 1, 0]).2[i]? =
          (interleave ClientCall.act (empty,
            [ClientCall.mk (newLimiter "token_bucket" 1 Go.minute) "198.51.100.4" ⟨1, .start⟩,
              ClientCall.mk (newLimiter "sliding_window" 1 Go.minute) "203.0.113.7" ⟨2, .start⟩])
            ([0, 1, 1, 0].filter (ownedAt ClientCall.key "203.0.113.7"
              [ClientCall.mk (newLimiter "token_bucket" 1 Go.minute) "198.51.100.4" ⟨1, .start⟩,
                ClientCall.mk (newLimiter "sliding_window" 1 Go.minute) "203.0.113.7"
                  ⟨2, .start⟩]))).2[i]?) :=
  ⟨by decide, by decide, concurrent_clients_isolated empty _ _ "203.0.113.7" (by decide)
    (by decide)⟩

end Concurrent

end ApiGateway.RateLimit

namespace ApiGateway.Middleware

open Redis RateLimit Footprint

/-- A request as RateLimitWithTier sees it: the API key the validator
stored, the client's IP and the limiter's clock readings. -/
structure LimitRequest where
  apiKey : Option APIKey
  clientIP : String
  clock : Readings

/-- The client key RateLimitWithTier limits a request by. -/
def clientKey (cfg : Config) (r : LimitRequest) : String := (selection cfg r.apiKey r.clientIP).key

/-- RateLimitWithTier on one request of any client, as a step over the Redis
all requests share. -/
def limitStep (cfg : Config) (db : Store BucketState) (r : LimitRequest) :
    Response × Store BucketState :=
  rateLimitWithTier cfg db r.apiKey r.clientIP r.clock

section Locality

open Classical

/-- A request reads and writes its client's footprint only: the limiter is
built afresh, and Allow, Remaining and Reset all run on the client key. -/
theorem limitStep_local (cfg : Config) (r : LimitRequest) :
    Local (footprint (selection cfg r.apiKey r.clientIP).key) (fun db => limitStep cfg db r) := by
  intro a b
  have hallow := (newLimiter (selection cfg r.apiKey r.clientIP).algorithm
    (selection cfg r.apiKey r.clientIP).limit Go.minute).allow_local r.clock.allowAt
    (selection cfg r.apiKey r.clientIP).key a b
  dsimp only at hallow
  simp only [limitStep, rateLimitWithTier]
  rw [hallow]
  rcases (newLimiter (selection cfg r.apiKey r.clientIP).algorithm
    (selection cfg r.apiKey r.clientIP).limit Go.minute).allow a r.clock.allowAt
    (selection cfg r.apiKey r.clientIP).key with ⟨_ | allowed, db⟩
  · rfl
  · simp only [Limiter.remaining_piecewise, Limiter.reset_piecewise]
    split <;> rfl

end Locality

/-- Clients of RateLimitWithTier do not interfere. In every run of the
middleware from any Redis over the requests of any clients, whatever their
API keys, tiers and algorithms, when every client key is written in the
characters of UUIDs and IP addresses: the answers the client `key` gets are
the answers its own requests get run alone from the same Redis, and the two
runs leave the same entries at the client's Redis keys. -/
theorem clients_isolated (cfg : Config) (db : Store BucketState) (requests : List LimitRequest)
    (key : String) (hkey : PlainKey key) (hplain : ∀ r ∈ requests, PlainKey (clientKey cfg r)) :
    ownAnswers (limitStep cfg) (clientKey cfg) key db requests =
        Transition.outputs (limitStep cfg) db (requests.filter (clientKey cfg · = key)) ∧
      Set.EqOn (Transition.after (limitStep cfg) db requests)
        (Transition.after (limitStep cfg) db (requests.filter (clientKey cfg · = key)))
        (footprint key) :=
  local_unwinding (fun r _ => limitStep_local cfg r)
    (fun r hr hne => footprint_disjoint (hplain r hr) hkey hne) (Set.eqOn_refl _ _)

theorem clients_isolated_two_addresses :
    PlainKey "203.0.113.7" ∧
      (∀ r ∈ [⟨none, "198.51.100.4", ⟨1, 2, 3, 4⟩⟩, ⟨none, "203.0.113.7", ⟨5, 6, 7, 8⟩⟩,
          ⟨none, "2001:db8::1", ⟨9, 10, 11, 12⟩⟩],
        PlainKey (clientKey ⟨[⟨"basic", 1, "fixed_window"⟩]⟩ r)) ∧
      (ownAnswers (limitStep ⟨[⟨"basic", 1, "fixed_window"⟩]⟩)
          (clientKey ⟨[⟨"basic", 1, "fixed_window"⟩]⟩) "203.0.113.7" empty
          [⟨none, "198.51.100.4", ⟨1, 2, 3, 4⟩⟩, ⟨none, "203.0.113.7", ⟨5, 6, 7, 8⟩⟩,
            ⟨none, "2001:db8::1", ⟨9, 10, 11, 12⟩⟩] =
        Transition.outputs (limitStep ⟨[⟨"basic", 1, "fixed_window"⟩]⟩) empty
          ([⟨none, "198.51.100.4", ⟨1, 2, 3, 4⟩⟩, ⟨none, "203.0.113.7", ⟨5, 6, 7, 8⟩⟩,
            ⟨none, "2001:db8::1", ⟨9, 10, 11, 12⟩⟩].filter
            (clientKey ⟨[⟨"basic", 1, "fixed_window"⟩]⟩ · = "203.0.113.7")) ∧
      Set.EqOn
        (Transition.after (limitStep ⟨[⟨"basic", 1, "fixed_window"⟩]⟩) empty
          [⟨none, "198.51.100.4", ⟨1, 2, 3, 4⟩⟩, ⟨none, "203.0.113.7", ⟨5, 6, 7, 8⟩⟩,
            ⟨none, "2001:db8::1", ⟨9, 10, 11, 12⟩⟩])
        (Transition.after (limitStep ⟨[⟨"basic", 1, "fixed_window"⟩]⟩) empty
          ([⟨none, "198.51.100.4", ⟨1, 2, 3, 4⟩⟩, ⟨none, "203.0.113.7", ⟨5, 6, 7, 8⟩⟩,
            ⟨none, "2001:db8::1", ⟨9, 10, 11, 12⟩⟩].filter
            (clientKey ⟨[⟨"basic", 1, "fixed_window"⟩]⟩ · = "203.0.113.7")))
        (footprint "203.0.113.7")) :=
  ⟨by decide, by decide, clients_isolated _ empty _ "203.0.113.7" (by decide) (by decide)⟩

end ApiGateway.Middleware
