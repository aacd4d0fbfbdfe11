import ApiGateway.Service.APIKey

/-!
API keys under requests served one at a time: `Create`, `Update` and
`Delete` of `APIKeyService`, the Validate of each request's key, the
`UpdateLastUsed` that a validation starts, and the handlers of
`internal/handler/apikey.go` that call them. The JSON of a key, which is
what leaves the service, omits its hash; `APIKey.cached` is that view.

`UpdateLastUsed` writes the table without an invalidation, so a key read
from the cache may carry an older `LastUsedAt`. In every other field,
served one at a time, the cache is invisible: from an empty cache, every
answer is the one the table alone gives, Validate being a lookup of the
key's hash among the active rows. The invariant that carries this is that
every live cache entry holds the active row with its hash, but for its
`LastUsedAt`; each request keeps it, because Validate caches only the row it
found, Update and Delete clear the entry of the row they write before
writing it, and `UpdateLastUsed` changes `LastUsedAt` alone.
-/

namespace ApiGateway

/-- A key's JSON with its `LastUsedAt` forgotten. -/
def APIKey.withoutLastUsed (k : APIKey) : APIKey := { k.cached with lastUsedAt := none }

namespace APIKeyService

section Create

variable (sha256Hex : String → String)

/-- `Create` at a clock reading, given the text `encoded` that URL-safe base64
makes of the 32 random bytes, and the id that `BeforeCreate` draws from
`uuid.New`. The key it builds leaves `CreatedAt` zero and `LastUsedAt` nil.
It returns the key when the table takes the row; `none` is the error return,
whose text wraps the database's. -/
def create (s : APIKeyService) (now : Int) (encoded id name createdBy tier : String) :
    Option (String × APIKeyService) :=
  let key := "gw_" ++ encoded
  let keyHash := sha256Hex key
  match s.repository.create now ⟨id, keyHash, name, createdBy, tier, true, Go.zeroTime, none⟩ with
  | none => none
  | some r => some (key, { s with repository := r })

end Create

/-- A request served one at a time: an admin call, a request through the
gateway whose key the validator checks, or the write of an `UpdateLastUsed`
goroutine at its own reading. -/
inductive Request where
  | create (encoded id name createdBy tier : String)
  | update (id : String) (updates : Updates)
  | delete (id : String)
  | validate (key : String)
  | updateLastUsed (id : String)
  deriving DecidableEq, Repr

/-- The key `Create` returns, that an Update or Delete returned, or the key
Validate found. -/
inductive Answer where
  | created (key : Option String)
  | written
  | validated (apiKey : Option APIKey)
  deriving DecidableEq, Repr

/-- What a caller sees of an answer, but for `LastUsedAt`: a key as its
JSON. -/
def Answer.view : Answer → Answer
  | .validated apiKey => .validated (apiKey.map APIKey.withoutLastUsed)
  | answer => answer

variable (sha256Hex : String → String)

/-- The service serving one request at its clock reading. -/
def serve (s : APIKeyService) : Int × Request → Answer × APIKeyService
  | (now, .create encoded id name createdBy tier) =>
      match s.create sha256Hex now encoded id name createdBy tier with
      | some (key, s') => (.created (some key), s')
      | none => (.created none, s)
  | (now, .update id updates) => (.written, s.update now id updates)
  | (now, .delete id) => (.written, s.delete now id)
  | (now, .validate key) =>
      (.validated (s.validate sha256Hex now key).1, (s.validate sha256Hex now key).2)
  | (now, .updateLastUsed id) => (.written, s.updateLastUsed now id)

/-- The table alone serving the same request, as the service's view. -/
def tableServe (r : APIKeyRepository) : Int × Request → Answer × APIKeyRepository
  | (now, .create encoded id name createdBy tier) =>
      match r.create now
          ⟨id, sha256Hex ("gw_" ++ encoded), name, createdBy, tier, true, Go.zeroTime, none⟩ with
      | some r' => (.created (some ("gw_" ++ encoded)), r')
      | none => (.created none, r)
  | (_, .update id updates) => (.written, r.update id updates)
  | (_, .delete id) => (.written, r.delete id)
  | (_, .validate key) =>
      (.validated ((r.findByHash (sha256Hex key)).map APIKey.withoutLastUsed), r)
  | (now, .updateLastUsed id) => (.written, r.updateLastUsed id now)

section Repository

variable {sha256Hex}

theorem validate_repository (s : APIKeyService) (now : Int) (key : String) :
    (s.validate sha256Hex now key).2.repository = s.repository := by
  cases hhit : s.cacheHit now (sha256Hex key) with
  | some apiKey => rw [validate_of_hit sha256Hex hhit]
  | none =>
      cases hfound : s.repository.findByHash (sha256Hex key) with
      | none => rw [validate_of_absent sha256Hex hhit hfound]
      | some row =>
          rw [validate_of_found sha256Hex hhit hfound]
          rfl

theorem update_repository (s : APIKeyService) (now : Int) (id : String) (updates : Updates) :
    (s.update now id updates).repository = s.repository.update id updates := by
  simp only [update]
  split <;> split <;> simp

theorem delete_repository (s : APIKeyService) (now : Int) (id : String) :
    (s.delete now id).repository = s.repository.delete id := by
  simp [delete]

theorem create_eq {s s' : APIKeyService} {now : Int} {encoded id name createdBy tier key : String}
    (h : s.create sha256Hex now encoded id name createdBy tier = some (key, s')) :
    key = "gw_" ++ encoded ∧ s'.redis = s.redis ∧
      s.repository.create now ⟨id, sha256Hex key, name, createdBy, tier, true, Go.zeroTime, none⟩ =
        some s'.repository := by
  simp only [create] at h
  split at h
  · cases h
  · rename_i r hcreate
    cases h
    exact ⟨rfl, rfl, hcreate⟩

theorem create_none {s : APIKeyService} {now : Int} {encoded id name createdBy tier : String}
    (h : s.create sha256Hex now encoded id name createdBy tier = none) :
    s.repository.create now
      ⟨id, sha256Hex ("gw_" ++ encoded), name, createdBy, tier, true, Go.zeroTime, none⟩ =
        none := by
  simp only [create] at h
  split at h
  · assumption
  · cases h

end Repository

section Coherence

/-- Every live cache entry holds the active row with its hash, but for its
`LastUsedAt`. -/
def Coherent (s : APIKeyService) : Prop :=
  ∀ now keyHash apiKey, s.cacheHit now keyHash = some apiKey →
    ∃ row, s.repository.findByHash keyHash = some row ∧
      apiKey.withoutLastUsed = row.withoutLastUsed

/-- No live cache entry has the hash of a row with the id. -/
def Separated (s : APIKeyService) (id : String) : Prop :=
  ∀ now keyHash apiKey, s.cacheHit now keyHash = some apiKey →
    ∀ k ∈ s.repository.rows, k.id = id → k.keyHash ≠ keyHash

theorem coherent_empty (r : APIKeyRepository) : Coherent ⟨r, Redis.empty⟩ := by
  intro now keyHash apiKey hhit
  simp at hhit

@[simp] theorem withoutLastUsed_lastUsedRow (id : String) (now : Int) (k : APIKey) :
    (APIKeyRepository.lastUsedRow id now k).withoutLastUsed = k.withoutLastUsed := by
  unfold APIKeyRepository.lastUsedRow
  split <;> rfl

variable {sha256Hex} {s : APIKeyService}

/-- Validate answers with the view of what the table finds. -/
theorem Coherent.validate_view (h : Coherent s) (now : Int) (key : String) :
    (s.validate sha256Hex now key).1.map APIKey.withoutLastUsed =
      (s.repository.findByHash (sha256Hex key)).map APIKey.withoutLastUsed := by
  cases hhit : s.cacheHit now (sha256Hex key) with
  | some apiKey =>
      obtain ⟨row, hfound, hview⟩ := h now _ apiKey hhit
      rw [validate_of_hit sha256Hex hhit, hfound, Option.map_some, Option.map_some, hview]
  | none =>
      cases hfound : s.repository.findByHash (sha256Hex key) with
      | none => rw [validate_of_absent sha256Hex hhit hfound]
      | some row => rw [validate_of_found sha256Hex hhit hfound]

theorem Coherent.validate (h : Coherent s) (now : Int) (key : String) :
    Coherent (s.validate sha256Hex now key).2 := by
  cases hhit : s.cacheHit now (sha256Hex key) with
  | some apiKey =>
      rw [validate_of_hit sha256Hex hhit]
      exact h
  | none =>
      cases hfound : s.repository.findByHash (sha256Hex key) with
      | none =>
          rw [validate_of_absent sha256Hex hhit hfound]
          exact h
      | some row =>
          rw [validate_of_found sha256Hex hhit hfound]
          intro now' keyHash apiKey hhit'
          by_cases hsame : keyHash = sha256Hex key
          · subst hsame
            rw [cacheHit_cacheSet] at hhit'
            split at hhit'
            · cases hhit'
            · cases hhit'
              exact ⟨row, hfound, rfl⟩
          · rw [cacheHit_cacheSet_ne _ _ _ _ hsame] at hhit'
            exact h now' keyHash apiKey hhit'

theorem Coherent.cacheClear (h : Coherent s) (now : Int) (cleared : String) :
    Coherent (s.cacheClear now cleared) := by
  intro now' keyHash apiKey hhit
  by_cases hsame : keyHash = cleared
  · subst hsame
    simp at hhit
  · rw [cacheHit_cacheClear_ne _ _ _ hsame] at hhit
    exact h now' keyHash apiKey hhit

theorem Coherent.invalidateCache (h : Coherent s) (now : Int) (id : String) :
    Coherent (s.invalidateCache now id) := by
  unfold APIKeyService.invalidateCache
  split
  · exact h
  · exact h.cacheClear now _

/-- An invalidation clears the entry of the row with the id, if there is one. -/
theorem separated_invalidateCache (s : APIKeyService) (now : Int) (id : String) :
    Separated (s.invalidateCache now id) id := by
  intro now' keyHash apiKey hhit k hk hid
  cases hfind : s.repository.findByID id with
  | none =>
      exact absurd hid (APIKeyRepository.findByID_none hfind k (by simpa using hk))
  | some row =>
      rw [invalidateCache_of_findByID hfind] at hhit hk
      have hhash := APIKeyRepository.keyHash_of_findByID hfind k (by simpa using hk) hid
      intro hsame
      rw [← hsame, hhash] at hhit
      simp at hhit

/-- A further invalidation only clears entries. -/
theorem Separated.invalidateCache {id : String} (h : Separated s id) (now : Int) (id' : String) :
    Separated (s.invalidateCache now id') id := by
  intro now' keyHash apiKey hhit k hk
  rw [invalidateCache_repository] at hk
  unfold APIKeyService.invalidateCache at hhit
  split at hhit
  · exact h now' keyHash apiKey hhit k hk
  · rename_i cleared _
    by_cases hsame : keyHash = cleared.keyHash
    · subst hsame
      simp at hhit
    · rw [cacheHit_cacheClear_ne _ _ _ hsame] at hhit
      exact h now' keyHash apiKey hhit k hk

/-- Writing the table keeps the cache coherent when no live entry has the hash
of a row the write changes, and the write leaves the lookups of the others. -/
theorem Coherent.write {id : String} (h : Coherent s) (hsep : Separated s id)
    (r : APIKeyRepository)
    (hr : ∀ hash, (∀ k ∈ s.repository.rows, k.id = id → k.keyHash ≠ hash) →
      r.findByHash hash = s.repository.findByHash hash) :
    Coherent { s with repository := r } := by
  intro now keyHash apiKey hhit
  rw [cacheHit_with_repository] at hhit
  obtain ⟨row, hfound, hview⟩ := h now keyHash apiKey hhit
  exact ⟨row, (hr keyHash (hsep now keyHash apiKey hhit)).trans hfound, hview⟩

theorem Coherent.update (h : Coherent s) (now : Int) (id : String) (updates : Updates) :
    Coherent (s.update now id updates) := by
  obtain ⟨tier, active⟩ := updates
  have hwrite : ∀ s' : APIKeyService, Coherent s' → Separated s' id →
      Coherent { s' with repository := s'.repository.update id ⟨tier, active⟩ } :=
    fun s' hs' hsep =>
      hs'.write hsep _ fun _ hrows => APIKeyRepository.findByHash_update_of_ne _ _ hrows
  cases tier with
  | some tier =>
      cases active with
      | some active =>
          simp only [APIKeyService.update, Option.isSome_some, if_true]
          exact hwrite _ ((h.invalidateCache now id).invalidateCache now id)
            ((separated_invalidateCache s now id).invalidateCache now id)
      | none =>
          simp only [APIKeyService.update, Option.isSome_some, Option.isSome_none, if_true,
            Bool.false_eq_true, if_false]
          exact hwrite _ (h.invalidateCache now id) (separated_invalidateCache s now id)
  | none =>
      cases active with
      | some active =>
          simp only [APIKeyService.update, Option.isSome_some, Option.isSome_none, if_true,
            Bool.false_eq_true, if_false]
          exact hwrite _ (h.invalidateCache now id) (separated_invalidateCache s now id)
      | none =>
          simp only [APIKeyService.update, Option.isSome_none, Bool.false_eq_true, if_false]
          intro now' keyHash apiKey hhit
          obtain ⟨row, hfound, hview⟩ := h now' keyHash apiKey hhit
          refine ⟨row, ?_, hview⟩
          rw [APIKeyRepository.findByHash, APIKeyRepository.update_none]
          exact hfound

theorem Coherent.delete (h : Coherent s) (now : Int) (id : String) :
    Coherent (s.delete now id) :=
  (h.invalidateCache now id).write (separated_invalidateCache s now id) _ fun hash hrows => by
    rw [invalidateCache_repository] at hrows ⊢
    exact APIKeyRepository.findByHash_delete_of_ne _ hrows

/-- `UpdateLastUsed` keeps the cache coherent: it changes no lookup by hash
but in the `LastUsedAt` of the row found. -/
theorem Coherent.updateLastUsed (h : Coherent s) (now : Int) (id : String) :
    Coherent (s.updateLastUsed now id) := by
  intro now' keyHash apiKey hhit
  obtain ⟨row, hfound, hview⟩ := h now' keyHash apiKey hhit
  refine ⟨APIKeyRepository.lastUsedRow id now row, ?_, ?_⟩
  · simp [APIKeyService.updateLastUsed, APIKeyRepository.findByHash_updateLastUsed, hfound]
  · rw [hview, withoutLastUsed_lastUsedRow]

theorem Coherent.create (h : Coherent s) {now : Int} {encoded id name createdBy tier key : String}
    {s' : APIKeyService}
    (hcreate : s.create sha256Hex now encoded id name createdBy tier = some (key, s')) :
    Coherent s' := by
  obtain ⟨-, hredis, hrows⟩ := create_eq hcreate
  intro now keyHash apiKey hhit
  have hhit' : s.cacheHit now keyHash = some apiKey := by
    simpa [cacheHit, hredis] using hhit
  obtain ⟨row, hfound, hview⟩ := h now keyHash apiKey hhit'
  exact ⟨row, APIKeyRepository.findByHash_create hrows hfound, hview⟩

end Coherence

section Refinement

variable {sha256Hex}

/-- The service stands for the table it holds, with a coherent cache. -/
def Represents (s : APIKeyService) (r : APIKeyRepository) : Prop :=
  s.repository = r ∧ Coherent s

/-- One request: the service's view of its answer is the table's answer, and
the service still stands for the table. -/
theorem serve_simulates :
    Transition.Simulation (fun s e => ((serve sha256Hex s e).1.view, (serve sha256Hex s e).2))
      (tableServe sha256Hex) Represents := by
  rintro s r ⟨now, request⟩ ⟨rfl, hcoherent⟩
  cases request with
  | create encoded id name createdBy tier =>
      cases hcreate : s.create sha256Hex now encoded id name createdBy tier with
      | none =>
          simp [serve, tableServe, hcreate, create_none hcreate, Answer.view, Represents, hcoherent]
      | some result =>
          obtain ⟨key, s'⟩ := result
          obtain ⟨rfl, -, hrows⟩ := create_eq hcreate
          simp [serve, tableServe, hcreate, hrows, Answer.view, Represents,
            hcoherent.create hcreate]
  | update id updates =>
      exact ⟨rfl, update_repository s now id updates, hcoherent.update now id updates⟩
  | delete id =>
      exact ⟨rfl, delete_repository s now id, hcoherent.delete now id⟩
  | validate key =>
      refine ⟨?_, validate_repository s now key, hcoherent.validate now key⟩
      simp only [serve, tableServe, Answer.view, hcoherent.validate_view now key]
  | updateLastUsed id => exact ⟨rfl, rfl, hcoherent.updateLastUsed now id⟩

/-- Served one at a time from an empty cache, the service gives every request
the answer the table alone gives, as far as a caller sees it but for
`LastUsedAt`, and ends with the table the table alone ends with: the cache
changes no answer in any other field. -/
theorem cache_invisible (r : APIKeyRepository) (requests : List (Int × Request)) :
    (Transition.outputs (serve sha256Hex) ⟨r, Redis.empty⟩ requests).map Answer.view =
        Transition.outputs (tableServe sha256Hex) r requests ∧
      (Transition.after (serve sha256Hex) ⟨r, Redis.empty⟩ requests).repository =
        Transition.after (tableServe sha256Hex) r requests := by
  have hstart : Represents ⟨r, Redis.empty⟩ r := ⟨rfl, coherent_empty r⟩
  refine ⟨?_, ?_⟩
  · rw [Transition.outputs_map]
    exact serve_simulates.outputs_eq hstart requests
  · exact (serve_simulates.after_rel hstart requests).1

/-- `LastUsedAt` is where the cache shows: a Validate served from the cache
after an `UpdateLastUsed` has landed answers with the `LastUsedAt` of
before, while the table holds the new one. -/
example :
    Transition.outputs (serve id) (oneKey id)
        [(0, .validate "gw_secret"), (Go.second, .updateLastUsed "k1"),
          (2 * Go.second, .validate "gw_secret")] =
      [.validated (some ⟨"k1", "gw_secret", "ci", "admin", "basic", true, 0, none⟩), .written,
        .validated (some ⟨"k1", "", "ci", "admin", "basic", true, 0, none⟩)] ∧
    (Transition.after (serve id) (oneKey id)
        [(0, .validate "gw_secret"), (Go.second, .updateLastUsed "k1"),
          (2 * Go.second, .validate "gw_secret")]).repository.findByID "k1" =
      some ⟨"k1", "gw_secret", "ci", "admin", "basic", true, 0, some Go.second⟩ := by
  decide

end Refinement

end APIKeyService

/-! The handlers of `internal/handler/apikey.go` that read or write a key by
its id, with their request bodies already bound. -/

namespace APIKeyHandler

/-- A reply's JSON body: fields, or a key. -/
inductive Body where
  | fields (fields : List (String × Middleware.Json))
  | apiKey (k : APIKey)
  deriving DecidableEq, Repr

structure Reply where
  status : Nat
  body : Body
  deriving DecidableEq, Repr

/-- The body of a PUT: `tier` and `is_active`, each present or not. -/
structure UpdateRequest where
  tier : Option String
  isActive : Option Bool
  deriving DecidableEq, Repr

/-- `Get`: the key's JSON, or 404. -/
def get (s : APIKeyService) (id : String) : Reply × APIKeyService :=
  match s.repository.findByID id with
  | none => (⟨404, .fields [("error", .str "API key not found")]⟩, s)
  | some apiKey => (⟨200, .apiKey apiKey.cached⟩, s)

/-- `Update`: the map of the fields present, refused when it is empty. -/
def update (s : APIKeyService) (now : Int) (id : String) (req : UpdateRequest) :
    Reply × APIKeyService :=
  let updates : Updates := ⟨req.tier, req.isActive⟩
  if updates.tier.isNone ∧ updates.isActive.isNone then
    (⟨400, .fields [("error", .str "No fields to update")]⟩, s)
  else
    (⟨200, .fields [("message", .str "API key updated successfully")]⟩, s.update now id updates)

def delete (s : APIKeyService) (now : Int) (id : String) : Reply × APIKeyService :=
  (⟨200, .fields [("message", .str "API key deleted successfully")]⟩, s.delete now id)

/-- A call of one of the handlers. -/
inductive Call where
  | get (id : String)
  | update (id : String) (req : UpdateRequest)
  | delete (id : String)
  deriving DecidableEq, Repr

def handle (s : APIKeyService) (now : Int) : Call → Reply × APIKeyService
  | .get id => get s id
  | .update id req => update s now id req
  | .delete id => delete s now id

/-- A refused call leaves the service as it was. -/
theorem handle_refused (s : APIKeyService) (now : Int) (call : Call)
    (hrefused : 400 ≤ (handle s now call).1.status) : (handle s now call).2 = s := by
  cases call with
  | get id =>
      simp only [handle, get] at hrefused ⊢
      split <;> rfl
  | update id req =>
      simp only [handle, update] at hrefused ⊢
      split
      · rfl
      · rename_i hfields
        rw [if_neg hfields] at hrefused
        simp at hrefused
  | delete id => simp [handle, delete] at hrefused

end APIKeyHandler

end ApiGateway
