import ApiGateway.Service.Auth
import ApiGateway.Transition

/-!
What the auth service is for, stated as a table of accounts that keeps each
password itself: registration refuses an email the table has, and a login
succeeds exactly for an account's email with its password, answering the
signed claims of the account. The users table keeps bcrypt hashes in place
of the passwords. bcrypt matches a hash it made against the password it
hashed (`BcryptComplete`), but not against that password alone, so the
service answers every run of registrations and logins as the plain table
does, but for the logins the table refuses.
-/

namespace ApiGateway

open Middleware

structure Account where
  id : String
  email : String
  password : String
  name : String
  role : String

/-- The claims the table signs for an account that logs in. -/
def Account.claims (acc : Account) (jwtExpiry expAt iatAt : Int) : List (String × Json) :=
  [("user_id", .str acc.id), ("email", .str acc.email), ("role", .str acc.role),
    ("exp", .int (Go.unix (expAt + jwtExpiry))), ("iat", .int (Go.unix iatAt))]

structure Accounts where
  accounts : List Account
  jwtSecret : String
  jwtExpiry : Int

inductive AuthRequest where
  | register (id salt email password name : String)
  | login (email password : String) (expAt iatAt : Int)

inductive AuthAnswer where
  | registered (result : Except String Unit)
  | loggedIn (result : Except String String)

/-- The service's answer against the plain table's: the same, or any answer
to a login the table refuses. -/
def AuthAnswer.Admits (answer expected : AuthAnswer) : Prop :=
  answer = expected ∨ expected = .loggedIn (.error "invalid credentials")

variable (crypto : Crypto)

namespace Accounts

def register (t : Accounts) (id salt email password name : String) : Except String Accounts :=
  if t.accounts.any (·.email == email) then .error "user with this email already exists"
  else
    match crypto.generateFromPassword salt password with
    | .error e => .error ("failed to hash password: " ++ e)
    | .ok _ =>
        if t.accounts.any (·.id == id) then .error duplicateKey
        else .ok { t with accounts := t.accounts ++ [⟨id, email, password, name, "admin"⟩] }

def login (t : Accounts) (email password : String) (expAt iatAt : Int) : Except String String :=
  match t.accounts.find? (·.email == email) with
  | none => .error "invalid credentials"
  | some acc =>
      if acc.password ≠ password then .error "invalid credentials"
      else
        match crypto.signedString (acc.claims t.jwtExpiry expAt iatAt) t.jwtSecret with
        | .error e => .error ("failed to generate token: " ++ e)
        | .ok tokenString => .ok tokenString

def serve (t : Accounts) : AuthRequest → AuthAnswer × Accounts
  | .register id salt email password name =>
      match t.register crypto id salt email password name with
      | .error e => (.registered (.error e), t)
      | .ok t' => (.registered (.ok ()), t')
  | .login email password expAt iatAt => (.loggedIn (t.login crypto email password expAt iatAt), t)

end Accounts

namespace AuthService

/-- Register and Login, one request at a time. -/
def serve (s : AuthService) : AuthRequest → AuthAnswer × AuthService
  | .register id salt email password name =>
      match s.register crypto id salt email password name with
      | .error e => (.registered (.error e), s)
      | .ok s' => (.registered (.ok ()), s')
  | .login email password expAt iatAt => (.loggedIn (s.login crypto email password expAt iatAt), s)

/-- What bcrypt guarantees of a hash it makes: it makes one only of a
password of at most 72 bytes, and that password matches it. Other passwords
may match it too, such as any that extends a password of 72 bytes, since
bcrypt reads no byte past the 72nd. -/
def BcryptComplete : Prop :=
  ∀ salt password hash, crypto.generateFromPassword salt password = .ok hash →
    password.utf8ByteSize ≤ 72 ∧ crypto.compareHashAndPassword hash password = true

/-- Registering a password over 72 bytes fails: the email is taken, or bcrypt
refuses to hash it. -/
theorem register_long_password (hbcrypt : BcryptComplete crypto) (s : AuthService)
    {password : String} (hlong : 72 < password.utf8ByteSize) (id salt email name : String) :
    ∃ e, s.register crypto id salt email password name = .error e := by
  unfold register
  split
  · exact ⟨_, rfl⟩
  · cases hhash : crypto.generateFromPassword salt password with
    | error e => exact ⟨_, rfl⟩
    | ok hash => exact absurd (hbcrypt salt password hash hhash).1 (by omega)

/-- A row stores an account: the same fields, and a hash that bcrypt made of
the account's password. -/
def Stores (u : User) (acc : Account) : Prop :=
  u.id = acc.id ∧ u.email = acc.email ∧ u.name = acc.name ∧ u.role = acc.role ∧
    ∃ salt, crypto.generateFromPassword salt acc.password = .ok u.passwordHash

def Represents (s : AuthService) (t : Accounts) : Prop :=
  s.jwtSecret = t.jwtSecret ∧ s.jwtExpiry = t.jwtExpiry ∧
    List.Forall₂ (Stores crypto) s.repo.users t.accounts

section Refinement

variable {crypto} {s : AuthService} {t : Accounts}

theorem loginClaims_of_stores {u : User} {acc : Account} (h : Stores crypto u acc)
    (jwtExpiry expAt iatAt : Int) :
    loginClaims u jwtExpiry expAt iatAt = acc.claims jwtExpiry expAt iatAt := by
  obtain ⟨hid, hemail, -, hrole, -⟩ := h
  simp [loginClaims, Account.claims, hid, hemail, hrole]

theorem Represents.emails (h : Represents crypto s t) :
    s.repo.users.map User.email = t.accounts.map Account.email :=
  Transition.map_eq_of_forall₂ h.2.2 fun _ _ hrow => hrow.2.1

theorem Represents.ids (h : Represents crypto s t) :
    s.repo.users.map User.id = t.accounts.map Account.id :=
  Transition.map_eq_of_forall₂ h.2.2 fun _ _ hrow => hrow.1

theorem Represents.findByEmail (h : Represents crypto s t) (email : String) :
    Option.Rel (Stores crypto) (s.repo.findByEmail email) (t.accounts.find? (·.email == email)) :=
  Transition.find?_rel h.2.2 fun _ _ hrow => by rw [hrow.2.1]

theorem any_email_iff (t : Accounts) (email : String) :
    t.accounts.any (·.email == email) = true ↔ email ∈ t.accounts.map Account.email := by
  simp only [List.any_eq_true, beq_iff_eq, List.mem_map]

theorem any_id_iff (t : Accounts) (id : String) :
    t.accounts.any (·.id == id) = true ↔ id ∈ t.accounts.map Account.id := by
  simp only [List.any_eq_true, beq_iff_eq, List.mem_map]

/-- A login the plain table does not refuse gets the table's answer: the
account's password matches the hash that bcrypt made of it. -/
theorem Represents.login (hbcrypt : BcryptComplete crypto) (h : Represents crypto s t)
    (email password : String) (expAt iatAt : Int)
    (hkept : t.login crypto email password expAt iatAt ≠ .error "invalid credentials") :
    s.login crypto email password expAt iatAt = t.login crypto email password expAt iatAt := by
  have hsecret := h.1
  have hexpiry := h.2.1
  unfold AuthService.login Accounts.login at *
  have hrel := h.findByEmail email
  revert hrel hkept
  generalize s.repo.findByEmail email = found
  generalize t.accounts.find? (·.email == email) = found'
  intro hkept hrel
  cases hrel with
  | none => rfl
  | @some u acc hrow =>
    by_cases hpassword : acc.password = password
    · obtain ⟨salt, hhash⟩ := hrow.2.2.2.2
      have hcompare : crypto.compareHashAndPassword u.passwordHash password = true :=
        hpassword ▸ (hbcrypt salt acc.password u.passwordHash hhash).2
      cases hsign : crypto.signedString (acc.claims t.jwtExpiry expAt iatAt) t.jwtSecret <;>
        simp [issueToken, hcompare, hpassword, loginClaims_of_stores hrow, hsecret, hexpiry,
          hsign]
    · simp [hpassword] at hkept

/-- Register gives the plain table's answer and keeps the tables related,
the new row's hash being one that bcrypt made of the password. -/
theorem Represents.register (h : Represents crypto s t)
    (id salt email password name : String) :
    (s.serve crypto (.register id salt email password name)).1 =
        (t.serve crypto (.register id salt email password name)).1 ∧
      Represents crypto (s.serve crypto (.register id salt email password name)).2
        (t.serve crypto (.register id salt email password name)).2 := by
  by_cases htaken : email ∈ t.accounts.map Account.email
  · have hfound : s.repo.findByEmail email ≠ none := by
      rw [ne_eq, AuthRepository.findByEmail_eq_none_iff, h.emails]
      exact not_not.mpr htaken
    obtain ⟨u, hu⟩ := Option.ne_none_iff_exists'.mp hfound
    simp [serve, AuthService.register, Accounts.serve, Accounts.register, hu,
      (any_email_iff t email).mpr htaken, h]
  have hfree : s.repo.findByEmail email = none := by
    rw [AuthRepository.findByEmail_eq_none_iff, h.emails]
    exact htaken
  have hnotany : t.accounts.any (·.email == email) = false := by
    rw [← Bool.not_eq_true, any_email_iff]
    exact htaken
  cases hhash : crypto.generateFromPassword salt password with
  | error e =>
      simp [serve, AuthService.register, Accounts.serve, Accounts.register, hfree, hnotany,
        hhash, h]
  | ok hashedPassword =>
      by_cases hid : id ∈ t.accounts.map Account.id
      · have hrefused : s.repo.create ⟨id, email, hashedPassword, name, "admin"⟩ = none :=
          AuthRepository.create_eq_none_iff.mpr (Or.inl (by rw [h.ids]; exact hid))
        simp [serve, AuthService.register, Accounts.serve, Accounts.register, hfree, hnotany,
          hhash, hrefused, (any_id_iff t id).mpr hid, h]
      · have hnotid : t.accounts.any (·.id == id) = false := by
          rw [← Bool.not_eq_true, any_id_iff]
          exact hid
        have hfresh : ¬(id ∈ s.repo.users.map User.id ∨ email ∈ s.repo.users.map User.email) := by
          rw [h.ids, h.emails]
          exact not_or.mpr ⟨hid, htaken⟩
        have hinserted : s.repo.create ⟨id, email, hashedPassword, name, "admin"⟩ ≠ none :=
          fun hnone => hfresh (AuthRepository.create_eq_none_iff.mp hnone)
        obtain ⟨repo, hcreate⟩ := Option.ne_none_iff_exists'.mp hinserted
        have hrow : Stores crypto ⟨id, email, hashedPassword, name, "admin"⟩
            ⟨id, email, password, name, "admin"⟩ :=
          ⟨rfl, rfl, rfl, rfl, salt, hhash⟩
        have hrows : List.Forall₂ (Stores crypto) repo.users
            (t.accounts ++ [⟨id, email, password, name, "admin"⟩]) := by
          rw [AuthRepository.create_users hcreate]
          exact List.rel_append h.2.2 (List.Forall₂.cons hrow List.Forall₂.nil)
        simp only [serve, AuthService.register, Accounts.serve, Accounts.register, hfree,
          hnotany, hhash, hcreate, hnotid, Bool.false_eq_true, if_false, true_and]
        exact ⟨h.1, h.2.1, hrows⟩

theorem serve_simulates (hbcrypt : BcryptComplete crypto) :
    Transition.SimulationUpTo AuthAnswer.Admits (AuthService.serve crypto)
      (Accounts.serve crypto) (Represents crypto) := by
  intro s t request h
  cases request with
  | register id salt email password name =>
      obtain ⟨hanswer, hnext⟩ := h.register id salt email password name
      exact ⟨Or.inl hanswer, hnext⟩
  | login email password expAt iatAt =>
      refine ⟨?_, h⟩
      by_cases hrefused : t.login crypto email password expAt iatAt = .error "invalid credentials"
      · exact Or.inr (by simp [Accounts.serve, hrefused])
      · exact Or.inl (by simp [serve, Accounts.serve, h.login hbcrypt email password expAt iatAt
          hrefused])

/-- Keeping bcrypt hashes in place of the passwords changes no answer but
that of a login the plain table refuses: from an empty users table, the
service answers every registration as the table of accounts that keeps the
passwords themselves, and every login the table lets pass or refuses with
another error, with the table's token or error. -/
theorem hashing_keeps_table_answers (hbcrypt : BcryptComplete crypto) (secret : String)
    (expiryHours : Int) (requests : List AuthRequest) :
    List.Forall₂ AuthAnswer.Admits
      (Transition.outputs (AuthService.serve crypto)
        (newAuthService AuthRepository.empty secret expiryHours) requests)
      (Transition.outputs (Accounts.serve crypto) ⟨[], secret, expiryHours * Go.hour⟩ requests) :=
  (serve_simulates hbcrypt).outputs_forall₂ ⟨rfl, rfl, List.Forall₂.nil⟩ requests

end Refinement

/-- bcrypt as the identity on passwords of at most 72 bytes, refusing longer
ones as `bcrypt.ErrPasswordTooLong` does, with a signer that gives one
token. -/
def plainCrypto : Crypto :=
  ⟨fun _ p => if p.utf8ByteSize ≤ 72 then .ok p
    else .error "bcrypt: password length exceeds 72 bytes",
    fun h p => decide (p = h), fun _ _ => .ok "token", fun _ _ _ => .error "token is malformed"⟩

theorem hashing_keeps_table_answers_plain :
    BcryptComplete plainCrypto ∧
    List.Forall₂ AuthAnswer.Admits
      (Transition.outputs (AuthService.serve plainCrypto)
        (newAuthService AuthRepository.empty "secret" 24)
        [.register "u1" "salt" "a@example.com" "password1" "A",
          .login "a@example.com" "password1" 0 0])
      (Transition.outputs (Accounts.serve plainCrypto) ⟨[], "secret", 24 * Go.hour⟩
        [.register "u1" "salt" "a@example.com" "password1" "A",
          .login "a@example.com" "password1" 0 0]) := by
  have hbcrypt : BcryptComplete plainCrypto := by
    intro salt password hash hhash
    simp only [plainCrypto] at hhash
    split at hhash
    · rename_i hshort
      cases hhash
      exact ⟨hshort, by simp [plainCrypto]⟩
    · cases hhash
  exact ⟨hbcrypt, hashing_keeps_table_answers hbcrypt "secret" 24 _⟩

end AuthService

end ApiGateway
