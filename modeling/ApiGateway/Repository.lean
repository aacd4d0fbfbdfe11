import Mathlib.Data.List.Nodup
import ApiGateway.Go

/-!
`models.APIKey` and the `APIKeyRepository` of `internal/repository/apikey.go`,
the repository as the rows of its `api_keys` table. The table has one row
per id, its primary key, and one per key hash, as the `uniqueIndex` on
`KeyHash` has it; both are fields of the structure, so no table without them
can be built. Every query succeeds: lost database connections are outside
this model. `CreatedAt` and `LastUsedAt` are clock readings, the second nil
until the first `UpdateLastUsed`; the microsecond rounding of Postgres
timestamps is left out.
-/

namespace ApiGateway

structure APIKey where
  id : String
  keyHash : String
  name : String
  createdBy : String
  tier : String
  isActive : Bool
  createdAt : Int
  lastUsedAt : Option Int
  deriving DecidableEq, Repr

/-- The columns an Update sets: the keys `tier` and `is_active` of the map
the handler builds, each present or not. -/
structure Updates where
  tier : Option String
  isActive : Option Bool
  deriving DecidableEq, Repr

/-- GORM's `Updates` of one row with the map's columns. -/
def Updates.apply (updates : Updates) (k : APIKey) : APIKey :=
  { k with tier := updates.tier.getD k.tier, isActive := updates.isActive.getD k.isActive }

structure APIKeyRepository where
  rows : List APIKey
  ids_nodup : (rows.map APIKey.id).Nodup
  hashes_nodup : (rows.map APIKey.keyHash).Nodup

namespace APIKeyRepository

/-- `Where("key_hash = ? AND is_active = ?", hash, true).First`. -/
def findByHash (r : APIKeyRepository) (hash : String) : Option APIKey :=
  r.rows.find? fun k => k.keyHash == hash && k.isActive

/-- `Where("id = ?", id).First`. -/
def findByID (r : APIKeyRepository) (id : String) : Option APIKey :=
  r.rows.find? fun k => k.id == id

/-- The row an Update leaves: the updated columns of the row with the id. -/
def updateRow (id : String) (updates : Updates) (k : APIKey) : APIKey :=
  if k.id = id then updates.apply k else k

@[simp] theorem updateRow_id (id : String) (updates : Updates) (k : APIKey) :
    (updateRow id updates k).id = k.id := by
  unfold updateRow
  split <;> rfl

@[simp] theorem updateRow_keyHash (id : String) (updates : Updates) (k : APIKey) :
    (updateRow id updates k).keyHash = k.keyHash := by
  unfold updateRow
  split <;> rfl

/-- `Model(&models.APIKey{}).Where("id = ?", id).Updates(updates)`. -/
def update (r : APIKeyRepository) (id : String) (updates : Updates) : APIKeyRepository where
  rows := r.rows.map (updateRow id updates)
  ids_nodup := by
    rw [List.map_map]
    simpa [Function.comp_def] using r.ids_nodup
  hashes_nodup := by
    rw [List.map_map]
    simpa [Function.comp_def] using r.hashes_nodup

/-- The row `UpdateLastUsed` leaves: the row with the id has `last_used_at`
set to the reading. -/
def lastUsedRow (id : String) (now : Int) (k : APIKey) : APIKey :=
  if k.id = id then { k with lastUsedAt := some now } else k

@[simp] theorem lastUsedRow_id (id : String) (now : Int) (k : APIKey) :
    (lastUsedRow id now k).id = k.id := by
  unfold lastUsedRow
  split <;> rfl

@[simp] theorem lastUsedRow_keyHash (id : String) (now : Int) (k : APIKey) :
    (lastUsedRow id now k).keyHash = k.keyHash := by
  unfold lastUsedRow
  split <;> rfl

@[simp] theorem lastUsedRow_isActive (id : String) (now : Int) (k : APIKey) :
    (lastUsedRow id now k).isActive = k.isActive := by
  unfold lastUsedRow
  split <;> rfl

/-- `Model(&models.APIKey{}).Where("id = ?", id).Update("last_used_at",
time.Now())`, at the goroutine's reading. -/
def updateLastUsed (r : APIKeyRepository) (id : String) (now : Int) : APIKeyRepository where
  rows := r.rows.map (lastUsedRow id now)
  ids_nodup := by
    rw [List.map_map]
    simpa [Function.comp_def] using r.ids_nodup
  hashes_nodup := by
    rw [List.map_map]
    simpa [Function.comp_def] using r.hashes_nodup

/-- `Where("id = ?", id).Delete(&models.APIKey{})`. -/
def delete (r : APIKeyRepository) (id : String) : APIKeyRepository where
  rows := r.rows.filter fun k => k.id ≠ id
  ids_nodup := r.ids_nodup.sublist (List.filter_sublist.map _)
  hashes_nodup := r.hashes_nodup.sublist (List.filter_sublist.map _)

/-- The row GORM inserts for a key at a clock reading: a zero `Tier` takes
the column default `'basic'`, a zero `IsActive` the default true, and a zero
`CreatedAt` the reading, as GORM's create-time tracking sets it. -/
def withDefaults (now : Int) (k : APIKey) : APIKey :=
  { k with
    tier := if k.tier = "" then "basic" else k.tier
    isActive := true
    createdAt := if k.createdAt = Go.zeroTime then now else k.createdAt }

/-- `Create(apiKey)`: the row with its defaults, refused when the primary key
already has its id or the unique index its hash. -/
def create (r : APIKeyRepository) (now : Int) (k : APIKey) : Option APIKeyRepository :=
  if h : k.id ∉ r.rows.map APIKey.id ∧ k.keyHash ∉ r.rows.map APIKey.keyHash then
    some
      { rows := r.rows ++ [withDefaults now k]
        ids_nodup := by
          rw [List.map_append]
          exact r.ids_nodup.append (List.nodup_singleton _) (by simpa [withDefaults] using h.1)
        hashes_nodup := by
          rw [List.map_append]
          exact r.hashes_nodup.append (List.nodup_singleton _)
            (by simpa [withDefaults] using h.2) }
  else none

theorem findByID_mem {r : APIKeyRepository} {id : String} {k : APIKey}
    (h : r.findByID id = some k) : k ∈ r.rows ∧ k.id = id := by
  have hfound := List.find?_some h
  exact ⟨List.mem_of_find?_eq_some h, by simpa using hfound⟩

/-- A key hash names at most one row. -/
theorem eq_of_keyHash_eq {r : APIKeyRepository} {k k' : APIKey} (hk : k ∈ r.rows)
    (hk' : k' ∈ r.rows) (hhash : k.keyHash = k'.keyHash) : k = k' :=
  List.inj_on_of_nodup_map r.hashes_nodup hk hk' hhash

/-- Every row with the key hash of the row found by id has that id. -/
theorem rows_of_findByID {r : APIKeyRepository} {id : String} {k : APIKey}
    (h : r.findByID id = some k) : ∀ k' ∈ r.rows, k'.keyHash = k.keyHash → k'.id = id := by
  intro k' hk' hhash
  obtain ⟨hk, hid⟩ := findByID_mem h
  rw [eq_of_keyHash_eq hk' hk hhash, hid]

/-- Once the rows with a hash are deactivated, no active row has it. -/
theorem findByHash_deactivated (r : APIKeyRepository) {id hash : String} (tier : Option String)
    (hrows : ∀ k ∈ r.rows, k.keyHash = hash → k.id = id) :
    (r.update id ⟨tier, some false⟩).findByHash hash = none := by
  rw [findByHash, List.find?_eq_none]
  intro k' hk'
  obtain ⟨k, hk, rfl⟩ := List.mem_map.mp hk'
  by_cases hid : k.id = id
  · simp [updateRow, hid, Updates.apply]
  · have hhash : k.keyHash ≠ hash := fun hhash => hid (hrows k hk hhash)
    simp [updateRow, hid, hhash]

/-- Once the rows with a hash are deleted, no row has it. -/
theorem findByHash_deleted (r : APIKeyRepository) {id hash : String}
    (hrows : ∀ k ∈ r.rows, k.keyHash = hash → k.id = id) :
    (r.delete id).findByHash hash = none := by
  rw [findByHash, List.find?_eq_none]
  intro k hk
  obtain ⟨hmem, hid⟩ := List.mem_filter.mp hk
  have hhash : k.keyHash ≠ hash := fun hhash => by simp [hrows k hmem hhash] at hid
  simp [hhash]

/-- A hash that no active row has keeps none through an Update that does not
set `is_active` to true, and through a Delete. -/
theorem findByHash_update_of_none (r : APIKeyRepository) (id : String) {updates : Updates}
    {hash : String} (hnone : r.findByHash hash = none) (hactive : updates.isActive ≠ some true) :
    (r.update id updates).findByHash hash = none := by
  rw [findByHash, List.find?_eq_none] at hnone ⊢
  intro k' hk'
  obtain ⟨k, hk, rfl⟩ := List.mem_map.mp hk'
  have hold := hnone k hk
  by_cases hid : k.id = id
  · cases hisActive : updates.isActive with
    | none => simpa [updateRow, hid, Updates.apply, hisActive] using hold
    | some active =>
        have hfalse : active = false := by
          cases active
          · rfl
          · exact absurd hisActive hactive
        simp [updateRow, hid, Updates.apply, hisActive, hfalse]
  · simpa [updateRow, hid] using hold

theorem findByHash_delete_of_none (r : APIKeyRepository) (id : String) {hash : String}
    (hnone : r.findByHash hash = none) : (r.delete id).findByHash hash = none := by
  rw [findByHash, List.find?_eq_none] at hnone ⊢
  intro k hk
  exact hnone k (List.mem_filter.mp hk).1

/-- Every row with the id of the row found by id has its hash. -/
theorem keyHash_of_findByID {r : APIKeyRepository} {id : String} {k : APIKey}
    (h : r.findByID id = some k) : ∀ k' ∈ r.rows, k'.id = id → k'.keyHash = k.keyHash := by
  intro k' hk' hid
  obtain ⟨hk, hkid⟩ := findByID_mem h
  rw [List.inj_on_of_nodup_map r.ids_nodup hk' hk (hid.trans hkid.symm)]

theorem findByID_none {r : APIKeyRepository} {id : String} (h : r.findByID id = none) :
    ∀ k ∈ r.rows, k.id ≠ id := by
  rw [findByID, List.find?_eq_none] at h
  intro k hk hid
  simpa [hid] using h k hk

private theorem find?_map_updateRow {id hash : String} (updates : Updates) :
    ∀ rows : List APIKey, (∀ k ∈ rows, k.id = id → k.keyHash ≠ hash) →
      (rows.map (updateRow id updates)).find? (fun k => k.keyHash == hash && k.isActive) =
        rows.find? (fun k => k.keyHash == hash && k.isActive)
  | [], _ => rfl
  | k :: rest, hrows => by
      have ih := find?_map_updateRow updates rest
        (fun k' hk' => hrows k' (List.mem_cons_of_mem k hk'))
      by_cases hid : k.id = id
      · have hhash : k.keyHash ≠ hash := hrows k List.mem_cons_self hid
        simp [updateRow, Updates.apply, hid, hhash, ih]
      · simp [List.find?_cons, updateRow, hid, ih]

private theorem find?_filter_id {id hash : String} :
    ∀ rows : List APIKey, (∀ k ∈ rows, k.id = id → k.keyHash ≠ hash) →
      (rows.filter fun k => k.id ≠ id).find? (fun k => k.keyHash == hash && k.isActive) =
        rows.find? (fun k => k.keyHash == hash && k.isActive)
  | [], _ => rfl
  | k :: rest, hrows => by
      have ih := find?_filter_id rest (fun k' hk' => hrows k' (List.mem_cons_of_mem k hk'))
      by_cases hid : k.id = id
      · have hhash : k.keyHash ≠ hash := hrows k List.mem_cons_self hid
        rw [List.filter_cons_of_neg (by simpa using hid),
          List.find?_cons_of_neg (by simp [hhash]), ih]
      · rw [List.filter_cons_of_pos (by simpa using hid), List.find?_cons, List.find?_cons, ih]

/-- An Update of the rows with an id leaves the lookup of a hash that none
of them has. -/
theorem findByHash_update_of_ne (r : APIKeyRepository) {id hash : String} (updates : Updates)
    (hrows : ∀ k ∈ r.rows, k.id = id → k.keyHash ≠ hash) :
    (r.update id updates).findByHash hash = r.findByHash hash :=
  find?_map_updateRow updates r.rows hrows

theorem findByHash_delete_of_ne (r : APIKeyRepository) {id hash : String}
    (hrows : ∀ k ∈ r.rows, k.id = id → k.keyHash ≠ hash) :
    (r.delete id).findByHash hash = r.findByHash hash :=
  find?_filter_id r.rows hrows

/-- An Update that sets neither column leaves every row as it is. -/
theorem update_none (r : APIKeyRepository) (id : String) :
    (r.update id ⟨none, none⟩).rows = r.rows := by
  simp only [update]
  conv_rhs => rw [← List.map_id r.rows]
  apply List.map_congr_left
  intro k _
  unfold updateRow
  split <;> rfl

/-- A row the table finds by hash is found after any Create: the new row
comes last. -/
theorem findByHash_create {r r' : APIKeyRepository} {now : Int} {k row : APIKey}
    (h : r.create now k = some r')
    {hash : String} (hfound : r.findByHash hash = some row) : r'.findByHash hash = some row := by
  unfold create at h
  split at h
  · cases h
    simp only [findByHash] at hfound ⊢
    rw [List.find?_append, hfound]
    rfl
  · cases h

/-- `UpdateLastUsed` changes no lookup by hash but in the `LastUsedAt` of the
row found. -/
theorem findByHash_updateLastUsed (r : APIKeyRepository) (id : String) (now : Int)
    (hash : String) :
    (r.updateLastUsed id now).findByHash hash = (r.findByHash hash).map (lastUsedRow id now) := by
  simp only [findByHash, updateLastUsed, List.find?_map]
  congr 2
  funext k
  simp

end APIKeyRepository

end ApiGateway
