import Mathlib.Data.List.Sort
import Mathlib.Order.Basic

/-!
The Redis commands this gateway issues, as the Redis command reference
documents them. A database maps string keys to strings or sorted sets, each
with an optional deadline after which the key is gone (Redis expires a key
once its clock is past the deadline). Every command takes the server's clock
reading and acts atomically. A command applied to a key of the wrong type
fails as the `WRONGTYPE` reply does and INCR of a non-integer fails as its
error reply does; lost connections are outside this model.

Strings are kept in the form they were written in: a string holding a
decimal integer in integer form, which is also how Redis encodes it and what
INCR reads, and any other string as the payload the client serialised, of a
type `β` chosen by the client. Sorted-set scores are doubles; the scores
this gateway writes are integral, so a score is kept as the integer value of
its double.
-/

namespace Redis

inductive Error where
  | wrongType
  | notInteger
  deriving DecidableEq, Repr

inductive Str (β : Type) where
  | int (n : Int)
  | text (payload : β)
  deriving DecidableEq, Repr

/-- A sorted set as its (member, score) pairs; a member occurs once. -/
structure ZSet where
  entries : List (String × Int)
  nodup : (entries.map Prod.fst).Nodup

inductive Value (β : Type) where
  | str (s : Str β)
  | zset (z : ZSet)

structure Entry (β : Type) where
  value : Value β
  deadline : Option Int

abbrev Store (β : Type) := String → Option (Entry β)

def empty {β : Type} : Store β := fun _ => none

namespace ZSet

def nil : ZSet := ⟨[], List.nodup_nil⟩

/-- ZADD of one member: its score is set, and it is added if absent. -/
def add (z : ZSet) (member : String) (score : Int) : ZSet where
  entries := (member, score) :: z.entries.filter (fun e => e.1 ≠ member)
  nodup := by
    rw [List.map_cons, List.nodup_cons]
    refine ⟨by simp, ?_⟩
    exact z.nodup.sublist (List.filter_sublist.map Prod.fst)

/-- The entries whose score lies in `[lo, hi]` removed. -/
def removeRange (z : ZSet) (lo hi : Int) : ZSet where
  entries := z.entries.filter (fun e => ¬(lo ≤ e.2 ∧ e.2 ≤ hi))
  nodup := z.nodup.sublist (List.filter_sublist.map Prod.fst)

def card (z : ZSet) : Nat := z.entries.length

/-- The number of entries whose score lies in `[lo, hi]`. -/
def count (z : ZSet) (lo hi : Int) : Nat :=
  (z.entries.filter (fun e => lo ≤ e.2 ∧ e.2 ≤ hi)).length

/-- Redis's order on entries: by score, ties broken by member. -/
def precedes (a b : String × Int) : Bool :=
  a.2 < b.2 || (a.2 = b.2 && decide (a.1 ≤ b.1))

/-- The members from lowest to highest rank. -/
def ranked (z : ZSet) : List String :=
  (z.entries.mergeSort precedes).map Prod.fst

/-- ZRANGE by rank with Redis's index rules: a negative index counts from
the end and both ends are inclusive. -/
def range (z : ZSet) (start stop : Int) : List String :=
  let n : Int := z.card
  let first := if start < 0 then max 0 (start + n) else start
  let last := if stop < 0 then stop + n else min stop (n - 1)
  if last < first then [] else (z.ranked.drop first.toNat).take (last - first + 1).toNat

end ZSet

variable {β : Type}

def Entry.live (e : Entry β) (now : Int) : Bool :=
  match e.deadline with
  | none => true
  | some d => decide (now ≤ d)

/-- The key's entry if it has one that has not expired. -/
def lookup (db : Store β) (now : Int) (key : String) : Option (Entry β) :=
  (db key).filter (fun e => e.live now)

theorem lookup_eq_some {db : Store β} {now : Int} {key : String} {e : Entry β} :
    lookup db now key = some e ↔ db key = some e ∧ e.live now = true := by
  simp [lookup, Option.filter_eq_some_iff]

@[simp] theorem lookup_empty (now : Int) (key : String) : lookup (empty : Store β) now key = none :=
  rfl

@[simp] theorem lookup_update_self (db : Store β) (now : Int) (key : String)
    (e : Option (Entry β)) :
    lookup (Function.update db key e) now key = e.filter (fun e => e.live now) := by
  simp [lookup]

theorem lookup_update_live (db : Store β) (now : Int) (key : String) {e : Entry β}
    (hlive : e.live now = true) : lookup (Function.update db key (some e)) now key = some e := by
  simp [lookup, hlive]

@[simp] theorem lookup_update_ne (db : Store β) (now : Int) {key other : String}
    (e : Option (Entry β)) (hne : other ≠ key) :
    lookup (Function.update db key e) now other = lookup db now other := by
  simp [lookup, Function.update_of_ne hne]

def get (db : Store β) (now : Int) (key : String) : Except Error (Option (Str β)) :=
  match lookup db now key with
  | none => .ok none
  | some ⟨.str s, _⟩ => .ok (some s)
  | some ⟨.zset _, _⟩ => .error .wrongType

theorem get_of_none {db : Store β} {now : Int} {key : String} (h : db key = none) :
    get db now key = .ok none := by
  simp [get, lookup, h]

/-- A string with a deadline reads back until the deadline has passed. -/
theorem get_of_deadline {db : Store β} {now d : Int} {key : String} {s : Str β}
    (h : db key = some ⟨.str s, some d⟩) :
    get db now key = .ok (if now ≤ d then some s else none) := by
  by_cases hlive : now ≤ d <;> simp [get, lookup, h, Entry.live, Option.filter_some, hlive]

/-- SET with an expiry of `ttl` when positive and none otherwise, as go-redis
sends it. The key's old deadline is dropped. -/
def set (db : Store β) (now : Int) (key : String) (s : Str β) (ttl : Int) : Store β :=
  Function.update db key (some ⟨.str s, if 0 < ttl then some (now + ttl) else none⟩)

/-- A key that was SET reads back its string until its expiry has passed. -/
theorem get_set_self (db : Store β) (now now' : Int) (key : String) (s : Str β) (ttl : Int) :
    get (set db now key s ttl) now' key =
      .ok (if 0 < ttl ∧ now + ttl < now' then none else some s) := by
  by_cases hexpired : 0 < ttl ∧ now + ttl < now'
  · have hdead : ¬ now' ≤ now + ttl := by omega
    simp [get, set, Entry.live, Option.filter_some, hexpired.1, hdead]
  · rw [if_neg hexpired]
    by_cases httl : 0 < ttl
    · have hlive : now' ≤ now + ttl := by omega
      simp [get, set, Entry.live, Option.filter_some, httl, hlive]
    · simp [get, set, Entry.live, Option.filter_some, httl]

theorem get_set_ne (db : Store β) (now now' : Int) {key other : String} (s : Str β) (ttl : Int)
    (hne : other ≠ key) : get (set db now key s ttl) now' other = get db now' other := by
  simp [get, set, hne]

/-- INCR: a missing key counts from zero; the deadline is kept. -/
def incr (db : Store β) (now : Int) (key : String) : Except Error (Int × Store β) :=
  match lookup db now key with
  | none => .ok (1, Function.update db key (some ⟨.str (.int 1), none⟩))
  | some ⟨.str (.int n), d⟩ => .ok (n + 1, Function.update db key (some ⟨.str (.int (n + 1)), d⟩))
  | some ⟨.str (.text _), _⟩ => .error .notInteger
  | some ⟨.zset _, _⟩ => .error .wrongType

/-- EXPIRE: a live key gets the deadline `now + ttl`, or is deleted when
`ttl` is not positive. The answer says whether the key existed. -/
def expire (db : Store β) (now : Int) (key : String) (ttl : Int) : Bool × Store β :=
  match lookup db now key with
  | none => (false, db)
  | some e =>
      (true, Function.update db key
        (if 0 < ttl then some { e with deadline := some (now + ttl) } else none))

/-- A command writes its own key and no other. -/
theorem incr_other {db db' : Store β} {now n : Int} {key other : String}
    (h : incr db now key = .ok (n, db')) (hne : other ≠ key) : db' other = db other := by
  unfold incr at h
  split at h
  · cases h
    exact Function.update_of_ne hne _ _
  · cases h
    exact Function.update_of_ne hne _ _
  · cases h
  · cases h

theorem expire_other (db : Store β) (now : Int) {key other : String} (ttl : Int)
    (hne : other ≠ key) : (expire db now key ttl).2 other = db other := by
  unfold expire
  split
  · rfl
  · exact Function.update_of_ne hne _ _

/-- ZADD of one member: a missing key becomes a new sorted set. -/
def zadd (db : Store β) (now : Int) (key : String) (score : Int) (member : String) :
    Except Error (Store β) :=
  match lookup db now key with
  | none => .ok (Function.update db key (some ⟨.zset (ZSet.nil.add member score), none⟩))
  | some ⟨.zset z, d⟩ => .ok (Function.update db key (some ⟨.zset (z.add member score), d⟩))
  | some ⟨.str _, _⟩ => .error .wrongType

/-- ZREMRANGEBYSCORE: answers how many entries went; a set left empty is
deleted with its key. -/
def zremRangeByScore (db : Store β) (now : Int) (key : String) (lo hi : Int) :
    Except Error (Nat × Store β) :=
  match lookup db now key with
  | none => .ok (0, db)
  | some ⟨.zset z, d⟩ =>
      let rest := z.removeRange lo hi
      .ok (z.card - rest.card,
        Function.update db key (if rest.card = 0 then none else some ⟨.zset rest, d⟩))
  | some ⟨.str _, _⟩ => .error .wrongType

def zcard (db : Store β) (now : Int) (key : String) : Except Error Nat :=
  match lookup db now key with
  | none => .ok 0
  | some ⟨.zset z, _⟩ => .ok z.card
  | some ⟨.str _, _⟩ => .error .wrongType

/-- ZCOUNT over the closed score range `[lo, hi]`. -/
def zcount (db : Store β) (now : Int) (key : String) (lo hi : Int) : Except Error Nat :=
  match lookup db now key with
  | none => .ok 0
  | some ⟨.zset z, _⟩ => .ok (z.count lo hi)
  | some ⟨.str _, _⟩ => .error .wrongType

def zrange (db : Store β) (now : Int) (key : String) (start stop : Int) :
    Except Error (List String) :=
  match lookup db now key with
  | none => .ok []
  | some ⟨.zset z, _⟩ => .ok (z.range start stop)
  | some ⟨.str _, _⟩ => .error .wrongType

section Keys

/-! Keys are built by joining parts with colons; the decimal of an integer
holds none, so keys whose prefixes hold different numbers of colons differ. -/

theorem colon_not_mem_toString (n : Int) : ':' ∉ (toString n).toList := by
  have hdigits : ∀ m : Nat, ':' ∉ (Nat.repr m).toList := by
    intro m hmem
    rw [Nat.toList_repr] at hmem
    have hdigit := Nat.isDigit_of_mem_toDigits (by decide) (by decide) hmem
    exact absurd hdigit (by decide)
  cases n with
  | ofNat m => exact hdigits m
  | negSucc m =>
      show ':' ∉ ("-" ++ Nat.repr (m + 1)).toList
      rw [String.toList_append]
      simpa using hdigits (m + 1)

theorem colon_count_key (pre key : String) (n : Int) :
    (pre ++ key ++ ":" ++ toString n).toList.count ':' =
      pre.toList.count ':' + key.toList.count ':' + 1 := by
  have hsep : (":" : String).toList.count ':' = 1 := by decide
  rw [String.toList_append, String.toList_append, String.toList_append, List.count_append,
    List.count_append, List.count_append, hsep, List.count_eq_zero.mpr (colon_not_mem_toString n)]

theorem key_ne_of_colon_count (pre pre' key : String) (n n' : Int)
    (hpre : pre.toList.count ':' ≠ pre'.toList.count ':') :
    pre ++ key ++ ":" ++ toString n ≠ pre' ++ key ++ ":" ++ toString n' := by
  intro h
  have hcount := congrArg (fun s : String => s.toList.count ':') h
  simp only [colon_count_key] at hcount
  omega

end Keys

end Redis
