import ApiGateway.Interleave
import ApiGateway.Redis
import ApiGateway.Repository
import ApiGateway.Middleware.RateLimit

/-!
`APIKeyService` of `internal/service/apikey.go` and the middleware
`APIKeyValidator` of `internal/middleware/apikey.go`. The service keeps the
`api_keys` table and a Redis cache of validated keys, under
`apikey:cache:<hash>` for five minutes. SHA-256 is not modelled: every
definition takes the hex digest as a function `sha256Hex`, and the results
hold for every such function. The JSON the cache holds is the key itself
with `KeyHash` emptied, as the `json:"-"` tag drops it. For a key that
validates, the validator starts `UpdateLastUsed` in a goroutine, a call of
its own: its write lands at a later reading, or never once the request's
context is canceled.

Validate takes three round trips, the cache GET, `FindByHash` and the cache
SET, and an invalidation two, `FindByID` and the SET of the empty string,
before Update or Delete writes the table. Concurrent calls are threads of
`Interleave` whose actions are those round trips.
-/

namespace ApiGateway

open Redis

/-- What the service stores under a cache key: the JSON of a key, or the
empty string an invalidation writes. -/
inductive Cached where
  | apiKey (k : APIKey)
  | empty
  deriving DecidableEq, Repr

/-- `json.Marshal` of a key, as `json.Unmarshal` reads it back. -/
def APIKey.cached (k : APIKey) : APIKey := { k with keyHash := "" }

structure APIKeyService where
  repository : APIKeyRepository
  redis : Store Cached

namespace APIKeyService

/-- `apikey:cache:<hash>`. -/
def cacheKey (keyHash : String) : String := "apikey:cache:" ++ keyHash

/-- Validate's cache read: a hit is a stored key. A missing key, the empty
string, a value `json.Unmarshal` rejects and a failed GET all miss. -/
def cacheHit (s : APIKeyService) (now : Int) (keyHash : String) : Option APIKey :=
  match get s.redis now (cacheKey keyHash) with
  | .ok (some (.text (.apiKey k))) => some k
  | _ => none

/-- Validate's cache write: the key found, for five minutes. -/
def cacheSet (s : APIKeyService) (now : Int) (keyHash : String) (apiKey : APIKey) :
    APIKeyService :=
  { s with
    redis := set s.redis now (cacheKey keyHash) (.text (.apiKey apiKey.cached)) (5 * Go.minute) }

/-- The write of `invalidateCache`: the empty string, with no expiry. -/
def cacheClear (s : APIKeyService) (now : Int) (keyHash : String) : APIKeyService :=
  { s with redis := set s.redis now (cacheKey keyHash) (.text .empty) 0 }

@[simp] theorem cacheSet_repository (s : APIKeyService) (now : Int) (keyHash : String)
    (apiKey : APIKey) : (s.cacheSet now keyHash apiKey).repository = s.repository := rfl

@[simp] theorem cacheClear_repository (s : APIKeyService) (now : Int) (keyHash : String) :
    (s.cacheClear now keyHash).repository = s.repository := rfl

@[simp] theorem cacheHit_empty (r : APIKeyRepository) (now : Int) (keyHash : String) :
    cacheHit ⟨r, empty⟩ now keyHash = none := rfl

theorem cacheKey_injective {keyHash keyHash' : String} (h : cacheKey keyHash = cacheKey keyHash') :
    keyHash = keyHash' :=
  (String.append_right_inj _).mp h

/-- What Validate's SET leaves under its key: a hit for five minutes. -/
theorem cacheHit_cacheSet (s : APIKeyService) (now now' : Int) (keyHash : String)
    (apiKey : APIKey) :
    (s.cacheSet now keyHash apiKey).cacheHit now' keyHash =
      if now + 5 * Go.minute < now' then none else some apiKey.cached := by
  have hpos : (0 : Int) < 5 * Go.minute := by decide
  by_cases hexpired : now + 5 * Go.minute < now'
  · simp [cacheHit, cacheSet, get_set_self, hpos, hexpired]
  · simp [cacheHit, cacheSet, get_set_self, hexpired]

@[simp] theorem cacheHit_cacheClear (s : APIKeyService) (now now' : Int) (keyHash : String) :
    (s.cacheClear now keyHash).cacheHit now' keyHash = none := by
  simp [cacheHit, cacheClear, get_set_self]

theorem cacheHit_cacheSet_ne (s : APIKeyService) (now now' : Int) {keyHash other : String}
    (apiKey : APIKey) (hne : other ≠ keyHash) :
    (s.cacheSet now keyHash apiKey).cacheHit now' other = s.cacheHit now' other := by
  have hkey : cacheKey other ≠ cacheKey keyHash := fun h => hne (cacheKey_injective h)
  simp [cacheHit, cacheSet, get_set_ne _ _ _ _ _ hkey]

theorem cacheHit_cacheClear_ne (s : APIKeyService) (now now' : Int) {keyHash other : String}
    (hne : other ≠ keyHash) :
    (s.cacheClear now keyHash).cacheHit now' other = s.cacheHit now' other := by
  have hkey : cacheKey other ≠ cacheKey keyHash := fun h => hne (cacheKey_injective h)
  simp [cacheHit, cacheClear, get_set_ne _ _ _ _ _ hkey]

variable (sha256Hex : String → String)

def validate (s : APIKeyService) (now : Int) (key : String) : Option APIKey × APIKeyService :=
  let keyHash := sha256Hex key
  match s.cacheHit now keyHash with
  | some apiKey => (some apiKey, s)
  | none =>
      match s.repository.findByHash keyHash with
      | none => (none, s)
      | some apiKey => (some apiKey, s.cacheSet now keyHash apiKey)

theorem validate_of_hit {s : APIKeyService} {now : Int} {key : String} {apiKey : APIKey}
    (hhit : s.cacheHit now (sha256Hex key) = some apiKey) :
    s.validate sha256Hex now key = (some apiKey, s) := by
  simp [validate, hhit]

theorem validate_of_absent {s : APIKeyService} {now : Int} {key : String}
    (hhit : s.cacheHit now (sha256Hex key) = none)
    (hfound : s.repository.findByHash (sha256Hex key) = none) :
    s.validate sha256Hex now key = (none, s) := by
  simp [validate, hhit, hfound]

theorem validate_of_found {s : APIKeyService} {now : Int} {key : String} {apiKey : APIKey}
    (hhit : s.cacheHit now (sha256Hex key) = none)
    (hfound : s.repository.findByHash (sha256Hex key) = some apiKey) :
    s.validate sha256Hex now key = (some apiKey, s.cacheSet now (sha256Hex key) apiKey) := by
  simp [validate, hhit, hfound]

/-- `invalidateCache`: the cache entry of the key the id names is cleared. -/
def invalidateCache (s : APIKeyService) (now : Int) (id : String) : APIKeyService :=
  match s.repository.findByID id with
  | none => s
  | some apiKey => s.cacheClear now apiKey.keyHash

/-- `Update`: one invalidation for each of `tier` and `is_active` present. -/
def update (s : APIKeyService) (now : Int) (id : String) (updates : Updates) : APIKeyService :=
  let s := if updates.tier.isSome then s.invalidateCache now id else s
  let s := if updates.isActive.isSome then s.invalidateCache now id else s
  { s with repository := s.repository.update id updates }

def delete (s : APIKeyService) (now : Int) (id : String) : APIKeyService :=
  let s := s.invalidateCache now id
  { s with repository := s.repository.delete id }

/-- `UpdateLastUsed`: the table write alone, at the reading of the goroutine
that runs it; the cache keeps the `LastUsedAt` it holds. -/
def updateLastUsed (s : APIKeyService) (now : Int) (id : String) : APIKeyService :=
  { s with repository := s.repository.updateLastUsed id now }

end APIKeyService

/-- `strings.TrimSpace` on the ASCII white space a header value carries. -/
def trimSpace (header : String) : String := header.trimAscii.copy

/-- `APIKeyValidator`: a request without the header passes without a key; one
whose key does not validate is refused with 401. For the key returned, the
caller starts `UpdateLastUsed` of its id. -/
def apiKeyValidator (sha256Hex : String → String) (s : APIKeyService) (now : Int)
    (header : String) : Middleware.Response × Option APIKey × APIKeyService :=
  if header = "" then (.next [], none, s)
  else
    match s.validate sha256Hex now (trimSpace header) with
    | (none, s) => (.abort 401 [] [("error", .str "Invalid API key")], none, s)
    | (some apiKey, s) => (.next [], some apiKey, s)

theorem apiKeyValidator_rejects_iff (sha256Hex : String → String) (s : APIKeyService) (now : Int)
    {header : String} (hheader : header ≠ "") :
    (apiKeyValidator sha256Hex s now header).1 = .abort 401 [] [("error", .str "Invalid API key")] ↔
      (s.validate sha256Hex now (trimSpace header)).1 = none := by
  unfold apiKeyValidator
  rw [if_neg hheader]
  obtain ⟨result, s'⟩ := s.validate sha256Hex now (trimSpace header)
  cases result <;> simp

/-- The table writes that end Update and Delete. -/
inductive Write where
  | update (id : String) (updates : Updates)
  | delete (id : String)
  deriving DecidableEq, Repr

namespace Write

def id : Write → String
  | .update id _ => id
  | .delete id => id

/-- How many invalidations run before the table is written. -/
def invalidations : Write → Nat
  | .update _ updates =>
      (if updates.tier.isSome then 1 else 0) + (if updates.isActive.isSome then 1 else 0)
  | .delete _ => 1

def apply (op : Write) (r : APIKeyRepository) : APIKeyRepository :=
  match op with
  | .update id updates => r.update id updates
  | .delete id => r.delete id

end Write

inductive ValidatePhase where
  | start
  | missed
  | found (apiKey : APIKey)
  | done (result : Option APIKey)
  deriving DecidableEq, Repr

/-- Where an Update or Delete stands: about to look up the key for one of
`pending + 1` invalidations, about to clear the entry it found with
`pending` to follow, about to write the table, or returned. -/
inductive WritePhase where
  | invalidate (pending : Nat)
  | clear (pending : Nat) (keyHash : String)
  | write
  | done
  deriving DecidableEq, Repr

/-- The phase after an invalidation with `pending` more to come. -/
def WritePhase.after : Nat → WritePhase
  | 0 => .write
  | pending + 1 => .invalidate pending

/-- A call of Validate, of Update or Delete, or of `UpdateLastUsed`, whose
one round trip is its table write. -/
inductive Thread where
  | validate (key : String) (now : Int) (phase : ValidatePhase)
  | write (op : Write) (now : Int) (phase : WritePhase)
  | updateLastUsed (id : String) (now : Int) (done : Bool)
  deriving DecidableEq, Repr

/-- A call of Update or Delete that has not started. -/
def Thread.revoke (op : Write) (now : Int) : Thread :=
  .write op now (WritePhase.after op.invalidations)

/-- An Update that deactivates the key with the id, or its Delete. -/
def Write.Revokes (op : Write) (id : String) : Prop :=
  op = .delete id ∨ ∃ tier, op = .update id ⟨tier, some false⟩

/-- An Update or Delete that never sets `is_active` to true. -/
def Write.KeepsInactive : Write → Prop
  | .update _ updates => updates.isActive ≠ some true
  | .delete _ => True

namespace APIKeyService

/-- Update or Delete, run to completion. -/
def write (s : APIKeyService) (now : Int) : Write → APIKeyService
  | .update id updates => s.update now id updates
  | .delete id => s.delete now id

variable (sha256Hex : String → String)

/-- The next round trip of a call of Validate, Update, Delete or
`UpdateLastUsed`. -/
def act : Thread → APIKeyService → Option (Thread × APIKeyService)
  | .validate key now .start, s =>
      match s.cacheHit now (sha256Hex key) with
      | some apiKey => some (.validate key now (.done (some apiKey)), s)
      | none => some (.validate key now .missed, s)
  | .validate key now .missed, s =>
      match s.repository.findByHash (sha256Hex key) with
      | none => some (.validate key now (.done none), s)
      | some apiKey => some (.validate key now (.found apiKey), s)
  | .validate key now (.found apiKey), s =>
      some (.validate key now (.done (some apiKey)), s.cacheSet now (sha256Hex key) apiKey)
  | .validate _ _ (.done _), _ => none
  | .write op now (.invalidate pending), s =>
      match s.repository.findByID op.id with
      | none => some (.write op now (WritePhase.after pending), s)
      | some apiKey => some (.write op now (.clear pending apiKey.keyHash), s)
  | .write op now (.clear pending keyHash), s =>
      some (.write op now (WritePhase.after pending), s.cacheClear now keyHash)
  | .write op now .write, s =>
      some (.write op now .done, { s with repository := op.apply s.repository })
  | .write _ _ .done, _ => none
  | .updateLastUsed id now false, s => some (.updateLastUsed id now true, s.updateLastUsed now id)
  | .updateLastUsed _ _ true, _ => none

end APIKeyService

/-- The key `gw_secret` with id `k1`, active, as the only row of the table. -/
def APIKeyService.oneKey (sha256Hex : String → String) : APIKeyService where
  repository := ⟨[⟨"k1", sha256Hex "gw_secret", "ci", "admin", "basic", true, 0, none⟩], by simp, by simp⟩
  redis := empty

/-- A Validate that reads the table before an Update deactivating the key
writes it, and caches the key after that Update has cleared the cache,
makes the revocation ineffective: a Validate started after the Update has
returned, one second later, finds the active key in the cache, although the
table holds it inactive. This holds for every digest function. -/
theorem revoked_key_still_validates (sha256Hex : String → String) :
    (Interleave.interleave (APIKeyService.act sha256Hex)
        (APIKeyService.oneKey sha256Hex,
          [.validate "gw_secret" 0 .start, .revoke (.update "k1" ⟨none, some false⟩) 0,
            .validate "gw_secret" Go.second .start])
        [0, 0, 1, 1, 1, 0, 2]).2 =
      [.validate "gw_secret" 0
          (.done (some ⟨"k1", sha256Hex "gw_secret", "ci", "admin", "basic", true, 0, none⟩)),
        .write (.update "k1" ⟨none, some false⟩) 0 .done,
        .validate "gw_secret" Go.second (.done (some ⟨"k1", "", "ci", "admin", "basic", true, 0, none⟩))] ∧
    (Interleave.interleave (APIKeyService.act sha256Hex)
        (APIKeyService.oneKey sha256Hex,
          [.validate "gw_secret" 0 .start, .revoke (.update "k1" ⟨none, some false⟩) 0,
            .validate "gw_secret" Go.second .start])
        [0, 0, 1, 1, 1, 0, 2]).1.repository.findByHash (sha256Hex "gw_secret") = none := by
  simp [Interleave.interleave, Interleave.schedule, APIKeyService.act, APIKeyService.oneKey,
    Thread.revoke, Write.invalidations, WritePhase.after, Write.id, Write.apply,
    APIKeyRepository.findByHash, APIKeyRepository.findByID, APIKeyRepository.update,
    APIKeyRepository.updateRow, Updates.apply, APIKey.cached, APIKeyService.cacheHit_cacheSet,
    Go.minute, Go.second]

namespace APIKeyService

section Sequential

variable (sha256Hex : String → String)

/-- A call that runs alone takes exactly Validate's round trips. -/
theorem validate_alone (s : APIKeyService) (now : Int) (key : String) :
    Interleave.interleave (act sha256Hex) (s, [.validate key now .start]) [0, 0, 0] =
      ((s.validate sha256Hex now key).2,
        [.validate key now (.done (s.validate sha256Hex now key).1)]) := by
  cases hhit : s.cacheHit now (sha256Hex key) with
  | some apiKey =>
      rw [validate_of_hit sha256Hex hhit]
      simp [Interleave.interleave, Interleave.schedule, act, hhit]
  | none =>
      cases hfound : s.repository.findByHash (sha256Hex key) with
      | none =>
          rw [validate_of_absent sha256Hex hhit hfound]
          simp [Interleave.interleave, Interleave.schedule, act, hhit, hfound]
      | some apiKey =>
          rw [validate_of_found sha256Hex hhit hfound]
          simp [Interleave.interleave, Interleave.schedule, act, hhit, hfound]

@[simp] theorem invalidateCache_repository (s : APIKeyService) (now : Int) (id : String) :
    (s.invalidateCache now id).repository = s.repository := by
  unfold invalidateCache
  split <;> rfl

theorem invalidateCache_of_findByID {s : APIKeyService} {id : String} {k : APIKey}
    (h : s.repository.findByID id = some k) (now : Int) :
    s.invalidateCache now id = s.cacheClear now k.keyHash := by
  simp [invalidateCache, h]

theorem invalidateCache_of_findByID_none {s : APIKeyService} {id : String}
    (h : s.repository.findByID id = none) (now : Int) : s.invalidateCache now id = s := by
  simp [invalidateCache, h]

/-- A call of Update or Delete that runs alone takes exactly its round trips. -/
theorem write_alone (s : APIKeyService) (now : Int) (op : Write) :
    Interleave.interleave (act sha256Hex) (s, [.revoke op now]) (List.replicate 5 0) =
      (s.write now op, [.write op now .done]) := by
  cases op with
  | delete id =>
      cases hfind : s.repository.findByID id with
      | none =>
          simp [Interleave.interleave, Interleave.schedule, act, Thread.revoke, Write.invalidations,
            WritePhase.after, Write.id, Write.apply, write, delete, invalidateCache, hfind]
      | some k =>
          simp [Interleave.interleave, Interleave.schedule, act, Thread.revoke, Write.invalidations,
            WritePhase.after, Write.id, Write.apply, write, delete, invalidateCache, hfind]
  | update id updates =>
      obtain ⟨tier, active⟩ := updates
      cases hfind : s.repository.findByID id with
      | none =>
          cases tier <;> cases active <;>
            simp [Interleave.interleave, Interleave.schedule, act, Thread.revoke,
              Write.invalidations, WritePhase.after, Write.id, Write.apply, write, update,
              invalidateCache, hfind]
      | some k =>
          cases tier <;> cases active <;>
            simp [Interleave.interleave, Interleave.schedule, act, Thread.revoke,
              Write.invalidations, WritePhase.after, Write.id, Write.apply, write, update,
              invalidateCache, hfind]

/-- No live cache entry holds the key and no active row has its hash. -/
def Revoked (s : APIKeyService) (keyHash : String) : Prop :=
  (∀ now, s.cacheHit now keyHash = none) ∧ s.repository.findByHash keyHash = none

@[simp] theorem cacheHit_with_repository (s : APIKeyService) (r : APIKeyRepository) (now : Int)
    (keyHash : String) : ({ s with repository := r } : APIKeyService).cacheHit now keyHash =
      s.cacheHit now keyHash := rfl

/-- An Update that deactivates a key, or its Delete, run on its own, leaves
the key revoked: its last invalidation clears the cache entry and its table
write removes the active row. -/
theorem write_revokes (s : APIKeyService) (now : Int) {id : String} {k : APIKey}
    (hrow : s.repository.findByID id = some k) {op : Write} (hop : op.Revokes id) :
    (s.write now op).Revoked k.keyHash := by
  have hrows := APIKeyRepository.rows_of_findByID hrow
  rcases hop with rfl | ⟨tier, rfl⟩
  · have hdelete : s.write now (.delete id) =
        { s.cacheClear now k.keyHash with repository := s.repository.delete id } := by
      simp [write, delete, invalidateCache_of_findByID hrow]
    rw [hdelete]
    exact ⟨fun now' => by simp, APIKeyRepository.findByHash_deleted _ hrows⟩
  · have hfirst :
        (if tier.isSome then s.invalidateCache now id else s).repository = s.repository := by
      split <;> simp
    have hrow' : (if tier.isSome then s.invalidateCache now id else s).repository.findByID id =
        some k := by
      rw [hfirst]
      exact hrow
    have hupdate : s.write now (.update id ⟨tier, some false⟩) =
        { (if tier.isSome then s.invalidateCache now id else s).cacheClear now k.keyHash with
          repository := s.repository.update id ⟨tier, some false⟩ } := by
      simp only [write, update, Option.isSome_some, if_true, invalidateCache_of_findByID hrow',
        cacheClear_repository, hfirst]
    rw [hupdate]
    exact ⟨fun now' => by simp, APIKeyRepository.findByHash_deactivated _ tier hrows⟩

theorem validate_of_revoked {s : APIKeyService} {key : String}
    (hrev : s.Revoked (sha256Hex key)) (now : Int) : s.validate sha256Hex now key = (none, s) :=
  validate_of_absent sha256Hex (hrev.1 now) hrev.2

/-- A Validate of any key keeps a revoked key revoked: it writes the cache
only under the hash of a key with an active row. -/
theorem Revoked.validate {s : APIKeyService} {keyHash : String} (hrev : s.Revoked keyHash)
    (now : Int) (key : String) : (s.validate sha256Hex now key).2.Revoked keyHash := by
  cases hhit : s.cacheHit now (sha256Hex key) with
  | some apiKey =>
      rw [validate_of_hit sha256Hex hhit]
      exact hrev
  | none =>
      cases hfound : s.repository.findByHash (sha256Hex key) with
      | none =>
          rw [validate_of_absent sha256Hex hhit hfound]
          exact hrev
      | some apiKey =>
          have hne : keyHash ≠ sha256Hex key := by
            intro heq
            rw [← heq, hrev.2] at hfound
            cases hfound
          rw [validate_of_found sha256Hex hhit hfound]
          refine ⟨fun now' => ?_, hrev.2⟩
          rw [cacheHit_cacheSet_ne _ _ _ _ hne]
          exact hrev.1 now'

theorem outputs_of_revoked {s : APIKeyService} {keyHash : String} (hrev : s.Revoked keyHash)
    (calls : List (Int × String)) :
    ∀ call ∈ calls.zip (Transition.outputs (fun s (call : Int × String) =>
        s.validate sha256Hex call.1 call.2) s calls),
      sha256Hex call.1.2 = keyHash → call.2 = none := by
  induction calls generalizing s with
  | nil => simp [Transition.outputs]
  | cons call rest ih =>
      intro entry hentry hkey
      simp only [Transition.outputs, List.zip_cons_cons, List.mem_cons] at hentry
      rcases hentry with rfl | hentry
      · rw [← hkey] at hrev
        simp [validate_of_revoked sha256Hex hrev]
      · exact ih (hrev.validate sha256Hex call.1 call.2) entry hentry hkey

/-- Run one at a time, an Update that deactivates a key, or its Delete, is
effective: every later Validate of the key returns no key, whatever other
keys are validated in between and whenever. -/
theorem validates_after_revocation (s : APIKeyService) (now : Int) {id : String} {k : APIKey}
    (hrow : s.repository.findByID id = some k) {op : Write} (hop : op.Revokes id)
    (calls : List (Int × String)) :
    ∀ call ∈ calls.zip (Transition.outputs (fun s (call : Int × String) =>
        s.validate sha256Hex call.1 call.2) (s.write now op) calls),
      sha256Hex call.1.2 = k.keyHash → call.2 = none :=
  outputs_of_revoked sha256Hex (write_revokes s now hrow hop) calls

theorem validates_after_revocation_oneKey :
    (oneKey id).repository.findByID "k1" = some ⟨"k1", "gw_secret", "ci", "admin", "basic", true, 0, none⟩ ∧
      Write.Revokes (.update "k1" ⟨none, some false⟩) "k1" ∧
      ∀ call ∈ [((60 : Int), "gw_secret")].zip (Transition.outputs (fun s (call : Int × String) =>
          s.validate id call.1 call.2) ((oneKey id).write 0 (.update "k1" ⟨none, some false⟩))
          [((60 : Int), "gw_secret")]),
        id call.1.2 = "gw_secret" → call.2 = none :=
  ⟨by decide, Or.inr ⟨none, rfl⟩,
    @validates_after_revocation id (oneKey id) 0 "k1"
      ⟨"k1", "gw_secret", "ci", "admin", "basic", true, 0, none⟩ (by decide)
      (.update "k1" ⟨none, some false⟩) (Or.inr ⟨none, rfl⟩) [((60 : Int), "gw_secret")]⟩

end Sequential

section Staleness

variable (sha256Hex : String → String) (keyHash : String) (T : Int)

/-- The table has no active row with the hash, and no cache entry holds the
key later than five minutes past `T`. -/
def CacheBound (s : APIKeyService) : Prop :=
  s.repository.findByHash keyHash = none ∧
    ∀ now, T + 5 * Go.minute < now → s.cacheHit now keyHash = none

/-- A call that cannot return the key later than five minutes past `T`: a
Validate of the key that has found its active row read the clock by `T`, one
that read it later than five minutes past `T` has not returned the key, an
Update never sets `is_active` to true, and `UpdateLastUsed` writes only
`LastUsedAt`. -/
def Bounded : Thread → Prop
  | .validate key now phase =>
      sha256Hex key = keyHash →
        (∀ apiKey, phase = .found apiKey → now ≤ T) ∧
          (T + 5 * Go.minute < now → ∀ apiKey, phase ≠ .done (some apiKey))
  | .write op _ _ => op.KeepsInactive
  | .updateLastUsed _ _ _ => True

theorem act_bounded {t t' : Thread} {s s' : APIKeyService} (hs : CacheBound keyHash T s)
    (ht : Bounded sha256Hex keyHash T t) (hact : act sha256Hex t s = some (t', s')) :
    CacheBound keyHash T s' ∧ Bounded sha256Hex keyHash T t' := by
  cases t with
  | validate key now phase =>
      cases phase with
      | start =>
          cases hhit : s.cacheHit now (sha256Hex key) with
          | none =>
              simp only [act, hhit, Option.some.injEq, Prod.mk.injEq] at hact
              obtain ⟨rfl, rfl⟩ := hact
              exact ⟨hs, fun _ => ⟨by simp, by simp⟩⟩
          | some apiKey =>
              simp only [act, hhit, Option.some.injEq, Prod.mk.injEq] at hact
              obtain ⟨rfl, rfl⟩ := hact
              refine ⟨hs, fun hkey => ⟨by simp, fun hlate apiKey' => ?_⟩⟩
              rw [hkey, hs.2 now hlate] at hhit
              cases hhit
      | missed =>
          cases hfound : s.repository.findByHash (sha256Hex key) with
          | none =>
              simp only [act, hfound, Option.some.injEq, Prod.mk.injEq] at hact
              obtain ⟨rfl, rfl⟩ := hact
              exact ⟨hs, fun _ => ⟨by simp, by simp⟩⟩
          | some apiKey =>
              simp only [act, hfound, Option.some.injEq, Prod.mk.injEq] at hact
              obtain ⟨rfl, rfl⟩ := hact
              refine ⟨hs, fun hkey => ?_⟩
              rw [hkey, hs.1] at hfound
              cases hfound
      | found apiKey =>
          simp only [act, Option.some.injEq, Prod.mk.injEq] at hact
          obtain ⟨rfl, rfl⟩ := hact
          refine ⟨⟨hs.1, fun now' hlate => ?_⟩, fun hkey => ⟨by simp, fun hlate => ?_⟩⟩
          · by_cases hkey : sha256Hex key = keyHash
            · have hearly := (ht hkey).1 apiKey rfl
              rw [← hkey, cacheHit_cacheSet, if_pos (by omega)]
            · rw [cacheHit_cacheSet_ne _ _ _ _ (Ne.symm hkey)]
              exact hs.2 now' hlate
          · have hearly := (ht hkey).1 apiKey rfl
            have hminute : (0 : Int) < Go.minute := by decide
            omega
      | done result => simp [act] at hact
  | write op now phase =>
      cases phase with
      | invalidate pending =>
          cases hfind : s.repository.findByID op.id with
          | none =>
              simp only [act, hfind, Option.some.injEq, Prod.mk.injEq] at hact
              obtain ⟨rfl, rfl⟩ := hact
              exact ⟨hs, ht⟩
          | some apiKey =>
              simp only [act, hfind, Option.some.injEq, Prod.mk.injEq] at hact
              obtain ⟨rfl, rfl⟩ := hact
              exact ⟨hs, ht⟩
      | clear pending cleared =>
          simp only [act, Option.some.injEq, Prod.mk.injEq] at hact
          obtain ⟨rfl, rfl⟩ := hact
          refine ⟨⟨hs.1, fun now' hlate => ?_⟩, ht⟩
          by_cases hsame : cleared = keyHash
          · rw [hsame, cacheHit_cacheClear]
          · rw [cacheHit_cacheClear_ne _ _ _ (Ne.symm hsame)]
            exact hs.2 now' hlate
      | write =>
          simp only [act, Option.some.injEq, Prod.mk.injEq] at hact
          obtain ⟨rfl, rfl⟩ := hact
          refine ⟨⟨?_, fun now' hlate => hs.2 now' hlate⟩, ht⟩
          cases op with
          | update id updates => exact APIKeyRepository.findByHash_update_of_none _ id hs.1 ht
          | delete id => exact APIKeyRepository.findByHash_delete_of_none _ id hs.1
      | done => simp [act] at hact
  | updateLastUsed id now done =>
      cases done with
      | false =>
          simp only [act, Option.some.injEq, Prod.mk.injEq] at hact
          obtain ⟨rfl, rfl⟩ := hact
          refine ⟨⟨?_, fun now' hlate => hs.2 now' hlate⟩, trivial⟩
          simp [updateLastUsed, APIKeyRepository.findByHash_updateLastUsed, hs.1]
      | true => simp [act] at hact

/-- Once the table has no active row for a key, every Validate of the key
that returns it, in any interleaving of calls none of which reactivates the
key, read the clock no later than five minutes past `T`, where `T` bounds the
readings of the Validates that had already read the active row and of the
cache entries holding the key: a revocation takes effect at the latest when
the entries that those Validates write have expired. -/
theorem revocation_bounded_by_ttl (c : APIKeyService × List Thread)
    (hs : CacheBound keyHash T c.1) (hthreads : ∀ t ∈ c.2, Bounded sha256Hex keyHash T t)
    (order : List Nat) :
    ∀ t ∈ (Interleave.interleave (act sha256Hex) c order).2, ∀ key now apiKey,
      t = .validate key now (.done (some apiKey)) → sha256Hex key = keyHash →
        now ≤ T + 5 * Go.minute := by
  have hinv := Interleave.interleave_preserves
    (fun t s t' s' hs ht hact => act_bounded sha256Hex keyHash T hs ht hact) ⟨hs, hthreads⟩ order
  intro t ht key now apiKey hdone hkey
  subst hdone
  by_contra hlate
  exact ((hinv.2 _ ht) hkey).2 (lt_of_not_ge hlate) apiKey rfl

theorem revocation_bounded_one_validate :
    CacheBound "gw_secret" 0
        (⟨(oneKey id).repository.update "k1" ⟨none, some false⟩, empty⟩ : APIKeyService) ∧
      (∀ t ∈ [Thread.validate "gw_secret" 0
          (.found ⟨"k1", "gw_secret", "ci", "admin", "basic", true, 0, none⟩)],
        Bounded id "gw_secret" 0 t) ∧
      ∀ t ∈ (Interleave.interleave (act id)
          (⟨(oneKey id).repository.update "k1" ⟨none, some false⟩, empty⟩,
            [Thread.validate "gw_secret" 0
              (.found ⟨"k1", "gw_secret", "ci", "admin", "basic", true, 0, none⟩)])
          [0]).2,
        ∀ key now apiKey, t = .validate key now (.done (some apiKey)) → id key = "gw_secret" →
          now ≤ 0 + 5 * Go.minute := by
  have hs : CacheBound "gw_secret" 0
      (⟨(oneKey id).repository.update "k1" ⟨none, some false⟩, empty⟩ : APIKeyService) :=
    ⟨by decide, fun _ _ => rfl⟩
  have hthreads : ∀ t ∈ [Thread.validate "gw_secret" 0
      (.found ⟨"k1", "gw_secret", "ci", "admin", "basic", true, 0, none⟩)], Bounded id "gw_secret" 0 t := by
    intro t ht
    simp only [List.mem_singleton] at ht
    subst ht
    intro _
    exact ⟨fun _ _ => le_refl 0, fun hlate => absurd hlate (by decide)⟩
  exact ⟨hs, hthreads, revocation_bounded_by_ttl id "gw_secret" 0 _ hs hthreads [0]⟩

end Staleness

end APIKeyService

end ApiGateway
