import ApiGateway.Go
import ApiGateway.Interleave
import ApiGateway.Middleware.RateLimit

/-!
`models.User`, the `AuthRepository` of `internal/repository/authRepository.go`
as the rows of its `users` table, and the `AuthService` of
`internal/service/authService.go`. The table has one row per id, its primary
key, and one per email, as the `uniqueIndex` on `Email` has it; both are
fields of the structure. `CreatedAt` is left out: only the JSON that `Me`
answers with shows it, and no request reaches that answer.

bcrypt and the JWT library are given as functions, and every result holds
for all of them: `generateFromPassword` hashes a password with the salt it
is given, `compareHashAndPassword` checks a password against a hash,
`signedString` signs a claims map with the secret, and `parse` reads a token
with the secret at a clock reading, checking its signing method, signature
and expiry. Where a result needs one of their laws, it takes it as a
hypothesis about the values at hand.

Register checks that no user has the email and then inserts one. Two
registrations for one email can both pass the check; the unique index then
refuses the second insert, so no email is ever registered twice.
-/

namespace ApiGateway

open Middleware

structure User where
  id : String
  email : String
  passwordHash : String
  name : String
  role : String
  deriving DecidableEq, Repr

structure AuthRepository where
  users : List User
  ids_nodup : (users.map User.id).Nodup
  emails_nodup : (users.map User.email).Nodup

namespace AuthRepository

def empty : AuthRepository := ⟨[], List.nodup_nil, List.nodup_nil⟩

/-- `Where("email = ?", email).First`. -/
def findByEmail (r : AuthRepository) (email : String) : Option User :=
  r.users.find? fun u => u.email == email

/-- `Where("id = ?", id).First`. -/
def findById (r : AuthRepository) (id : String) : Option User :=
  r.users.find? fun u => u.id == id

/-- `Create(user)`: the row, refused when the primary key already has its id
or the unique index its email. -/
def create (r : AuthRepository) (user : User) : Option AuthRepository :=
  if h : user.id ∉ r.users.map User.id ∧ user.email ∉ r.users.map User.email then
    some
      { users := r.users ++ [user]
        ids_nodup := by
          rw [List.map_append]
          exact r.ids_nodup.append (List.nodup_singleton _) (by simpa using h.1)
        emails_nodup := by
          rw [List.map_append]
          exact r.emails_nodup.append (List.nodup_singleton _) (by simpa using h.2) }
  else none

theorem findByEmail_eq_none_iff {r : AuthRepository} {email : String} :
    r.findByEmail email = none ↔ email ∉ r.users.map User.email := by
  simp [findByEmail, List.find?_eq_none]

theorem create_users {r r' : AuthRepository} {user : User} (h : r.create user = some r') :
    r'.users = r.users ++ [user] := by
  unfold create at h
  split at h
  · cases h
    rfl
  · cases h

theorem create_eq_none_iff {r : AuthRepository} {user : User} :
    r.create user = none ↔ user.id ∈ r.users.map User.id ∨ user.email ∈ r.users.map User.email := by
  unfold create
  split
  · rename_i h
    simp only [reduceCtorEq, false_iff, not_or]
    exact h
  · rename_i h
    simp only [true_iff]
    by_contra hboth
    exact h (not_or.mp hboth)

/-- After an insert, the new row is the one with its email. -/
theorem findByEmail_create {r r' : AuthRepository} {user : User} (h : r.create user = some r') :
    r'.findByEmail user.email = some user := by
  have hfresh : r.findByEmail user.email = none := by
    rw [findByEmail_eq_none_iff]
    intro hmem
    rw [create_eq_none_iff.mpr (Or.inr hmem)] at h
    cases h
  simp only [findByEmail, create_users h, List.find?_append] at hfresh ⊢
  simp [hfresh]

/-- After an insert, the new row is the one with its id. -/
theorem findById_create {r r' : AuthRepository} {user : User} (h : r.create user = some r') :
    r'.findById user.id = some user := by
  have hfresh : r.findById user.id = none := by
    simp only [findById, List.find?_eq_none, beq_iff_eq]
    intro u hu hid
    rw [create_eq_none_iff.mpr (Or.inl (hid ▸ List.mem_map_of_mem hu))] at h
    cases h
  simp only [findById, create_users h, List.find?_append] at hfresh ⊢
  simp [hfresh]

end AuthRepository

/-- A token as `jwt.Parse` returns it without an error. -/
structure Token where
  valid : Bool
  claims : List (String × Json)

/-- The library calls of the auth service. -/
structure Crypto where
  generateFromPassword : String → String → Except String String
  compareHashAndPassword : String → String → Bool
  signedString : List (String × Json) → String → Except String String
  parse : String → String → Int → Except String Token

structure AuthService where
  repo : AuthRepository
  jwtSecret : String
  jwtExpiry : Int

/-- `NewAuthService`. -/
def newAuthService (repo : AuthRepository) (secret : String) (expiryHours : Int) : AuthService :=
  ⟨repo, secret, expiryHours * Go.hour⟩

/-- The error of an insert that the primary key or the unique index refuses,
as the database driver words it. -/
def duplicateKey : String := "duplicate key value violates unique constraint"

namespace AuthService

variable (crypto : Crypto)

/-- `Register`: refused when a user has the email; otherwise the password is
hashed with the salt and a user with role `admin` and the id `BeforeCreate`
draws is inserted. -/
def register (s : AuthService) (id salt email password name : String) :
    Except String AuthService :=
  match s.repo.findByEmail email with
  | some _ => .error "user with this email already exists"
  | none =>
      match crypto.generateFromPassword salt password with
      | .error e => .error ("failed to hash password: " ++ e)
      | .ok hashedPassword =>
          match s.repo.create ⟨id, email, hashedPassword, name, "admin"⟩ with
          | none => .error duplicateKey
          | some repo => .ok { s with repo := repo }

/-- The claims Login signs, with the two clock readings it takes for `exp`
and `iat`. -/
def loginClaims (user : User) (jwtExpiry expAt iatAt : Int) : List (String × Json) :=
  [("user_id", .str user.id), ("email", .str user.email), ("role", .str user.role),
    ("exp", .int (Go.unix (expAt + jwtExpiry))), ("iat", .int (Go.unix iatAt))]

/-- The end of Login, once the password has matched: the signed claims. -/
def issueToken (s : AuthService) (user : User) (expAt iatAt : Int) : Except String String :=
  match crypto.signedString (loginClaims user s.jwtExpiry expAt iatAt) s.jwtSecret with
  | .error e => .error ("failed to generate token: " ++ e)
  | .ok tokenString => .ok tokenString

/-- `Login`: one answer for an unknown email and a wrong password. -/
def login (s : AuthService) (email password : String) (expAt iatAt : Int) :
    Except String String :=
  match s.repo.findByEmail email with
  | none => .error "invalid credentials"
  | some user =>
      if crypto.compareHashAndPassword user.passwordHash password = false then
        .error "invalid credentials"
      else s.issueToken crypto user expAt iatAt

/-- `ValidateToken`: the token's claims, when it parses and is valid. -/
def validateToken (s : AuthService) (now : Int) (tokenString : String) :
    Except String (List (String × Json)) :=
  match crypto.parse tokenString s.jwtSecret now with
  | .error e => .error e
  | .ok token => if token.valid then .ok token.claims else .error "invalid token"

def getUserByID (s : AuthService) (id : String) : Option User := s.repo.findById id

/-- No stored user has the email and a hash that the password matches. -/
def NoAccount (s : AuthService) (email password : String) : Prop :=
  ∀ user, s.repo.findByEmail email = some user →
    crypto.compareHashAndPassword user.passwordHash password = false

theorem issueToken_ne_invalid (s : AuthService) (user : User) (expAt iatAt : Int) :
    s.issueToken crypto user expAt iatAt ≠ .error "invalid credentials" := by
  unfold issueToken
  split
  · rename_i e _
    intro h
    have hhead := congrArg (fun m => m.toList.head?) (Except.error.inj h)
    simp at hhead
  · exact fun h => by cases h

/-- Login refuses with `invalid credentials` exactly when no stored account
matches, so the answer does not tell an unknown email from a wrong
password. -/
theorem login_eq_invalid_iff (s : AuthService) (email password : String) (expAt iatAt : Int) :
    s.login crypto email password expAt iatAt = .error "invalid credentials" ↔
      s.NoAccount crypto email password := by
  unfold login NoAccount
  cases hfound : s.repo.findByEmail email with
  | none => simp
  | some user =>
      cases hmatch : crypto.compareHashAndPassword user.passwordHash password with
      | false => simp [hmatch]
      | true => simp [hmatch, issueToken_ne_invalid]

theorem register_repo {s s' : AuthService} {id salt email password name : String}
    (h : s.register crypto id salt email password name = .ok s') :
    ∃ hashedPassword, crypto.generateFromPassword salt password = .ok hashedPassword ∧
      s.repo.create ⟨id, email, hashedPassword, name, "admin"⟩ = some s'.repo ∧
      s'.jwtSecret = s.jwtSecret ∧ s'.jwtExpiry = s.jwtExpiry := by
  unfold register at h
  split at h
  · cases h
  · split at h
    · cases h
    · rename_i hashedPassword hhash
      split at h
      · cases h
      · rename_i repo hcreate
        cases h
        exact ⟨hashedPassword, hhash, hcreate, rfl, rfl⟩

/-- A user who has registered logs in with the same email and password, and
is given the token of the row inserted, when bcrypt matches the password
against the hash it made of it. -/
theorem login_after_register {s s' : AuthService} {id salt email password name : String}
    (hregister : s.register crypto id salt email password name = .ok s')
    {hashedPassword : String}
    (hhash : crypto.generateFromPassword salt password = .ok hashedPassword)
    (hmatch : crypto.compareHashAndPassword hashedPassword password = true) (expAt iatAt : Int) :
    s'.login crypto email password expAt iatAt =
      s'.issueToken crypto ⟨id, email, hashedPassword, name, "admin"⟩ expAt iatAt ∧
    s'.getUserByID id = some ⟨id, email, hashedPassword, name, "admin"⟩ := by
  obtain ⟨hashed', hhash', hcreate, -, -⟩ := register_repo crypto hregister
  rw [hhash] at hhash'
  cases hhash'
  refine ⟨?_, AuthRepository.findById_create hcreate⟩
  have hfound := AuthRepository.findByEmail_create hcreate
  simp [login, hfound, hmatch]

end AuthService

/-- A call of `Register` as a thread: its FindByEmail, then its Create. The
hash is computed by the thread alone, so it is taken with the check. -/
inductive Registration where
  | checking (id salt email password name : String)
  | creating (user : User)
  | finished (result : Except String User)

namespace Registration

variable (crypto : Crypto)

def act : Registration → AuthRepository → Option (Registration × AuthRepository)
  | .checking id salt email password name, r =>
      match r.findByEmail email with
      | some _ => some (.finished (.error "user with this email already exists"), r)
      | none =>
          match crypto.generateFromPassword salt password with
          | .error e => some (.finished (.error ("failed to hash password: " ++ e)), r)
          | .ok hashedPassword => some (.creating ⟨id, email, hashedPassword, name, "admin"⟩, r)
  | .creating user, r =>
      match r.create user with
      | none => some (.finished (.error duplicateKey), r)
      | some r' => some (.finished (.ok user), r')
  | .finished _, _ => none

/-- The row a registration inserted, once it has finished with success. -/
def inserted : Registration → Option User
  | .finished (.ok user) => some user
  | _ => none

/-- One action: the table and what the thread inserted move together; an
action that inserts nothing leaves the table as it was. -/
theorem act_inserted {t t' : Registration} {r r' : AuthRepository}
    (h : act crypto t r = some (t', r')) :
    inserted t = none ∧ r'.users = r.users ++ (inserted t').toList := by
  cases t with
  | checking id salt email password name =>
      simp only [act] at h
      split at h
      · cases h
        exact ⟨rfl, by simp [inserted]⟩
      · split at h <;> cases h <;> exact ⟨rfl, by simp [inserted]⟩
  | creating user =>
      simp only [act] at h
      split at h
      · cases h
        exact ⟨rfl, by simp [inserted]⟩
      · rename_i r'' hcreate
        cases h
        exact ⟨rfl, by simp [inserted, AuthRepository.create_users hcreate]⟩
  | finished result => cases h

/-- The table holds the rows it started with and one for each registration
that has finished with success, and no others. -/
def Accounts (r₀ : AuthRepository) (c : AuthRepository × List Registration) : Prop :=
  c.1.users.Perm (r₀.users ++ c.2.filterMap inserted)

theorem accounts_interleave (r₀ : AuthRepository) {threads : List Registration}
    (hpending : ∀ t ∈ threads, inserted t = none) (order : List Nat) :
    Accounts r₀ (Interleave.interleave (act crypto) (r₀, threads) order) := by
  apply Interleave.interleave_induction
  · intro r threads' i t t' r' hi hact haccounts
    obtain ⟨hnone, hrows⟩ := act_inserted crypto hact
    have hset := @Interleave.filterMap_set_perm Registration User inserted threads' i t t' hi hnone
    unfold Accounts at haccounts ⊢
    rw [hrows]
    refine (haccounts.append_right _).trans ?_
    rw [List.append_assoc]
    exact hset.symm.append_left _
  · have hempty : threads.filterMap inserted = [] := List.filterMap_eq_nil_iff.mpr hpending
    simp [Accounts, hempty]

/-- Under any interleaving of registrations, the emails of the users there
at the start and of the registrations that succeeded are pairwise distinct:
of the registrations for one email at most one succeeds, and none when the
email was already registered. -/
theorem registrations_unique (r₀ : AuthRepository) (threads : List Registration)
    (hpending : ∀ t ∈ threads, inserted t = none) (order : List Nat) :
    ((r₀.users ++ (Interleave.interleave (act crypto) (r₀, threads) order).2.filterMap
      inserted).map User.email).Nodup :=
  (accounts_interleave crypto r₀ hpending order).map User.email
    |>.nodup_iff.mp (Interleave.interleave (act crypto) (r₀, threads) order).1.emails_nodup

theorem registrations_unique_race :
    (∀ t ∈ [Registration.checking "u1" "s1" "a@example.com" "password1" "A",
        .checking "u2" "s2" "a@example.com" "password2" "B"], inserted t = none) ∧
      ((AuthRepository.empty.users ++
        (Interleave.interleave (act ⟨fun s p => .ok (s ++ p), fun h p => h == p,
            fun _ _ => .ok "token", fun _ _ _ => .error "token is malformed"⟩)
          (AuthRepository.empty, [.checking "u1" "s1" "a@example.com" "password1" "A",
            .checking "u2" "s2" "a@example.com" "password2" "B"]) [0, 1, 0, 1]).2.filterMap
          inserted).map User.email).Nodup :=
  ⟨by decide, registrations_unique _ _ _ (by decide) _⟩

/-- Both registrations pass the check before either inserts; the unique
index refuses the second. -/
example :
    ((Interleave.interleave (act ⟨fun s p => .ok (s ++ p), fun h p => h == p,
        fun _ _ => .ok "token", fun _ _ _ => .error "token is malformed"⟩)
      (AuthRepository.empty, [.checking "u1" "s1" "a@example.com" "password1" "A",
        .checking "u2" "s2" "a@example.com" "password2" "B"]) [0, 1, 0, 1]).2.map inserted) =
      [some ⟨"u1", "a@example.com", "s1password1", "A", "admin"⟩, none] := by
  decide

end Registration

end ApiGateway
