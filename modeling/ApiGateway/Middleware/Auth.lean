import ApiGateway.Go

/-!
The check that the middleware `RequireAuth` of
`internal/middleware/authMiddleware.go` makes of the `Authorization` header.
The header is split at every space, as `strings.Split` splits it, and passes
only when it splits into the word `Bearer` and one more piece, the token,
which the auth service must then validate. Each refusal is a 401 whose
`error` text says which of the three steps failed. What a request that
passes stores in its context is the server's part.
-/

namespace ApiGateway.Middleware

variable {κ : Type*}

def requireAuth (validateToken : String → Except String κ) (authHeader : String) :
    Except String κ :=
  if authHeader = "" then .error "Authorization header required"
  else
    match Go.split authHeader ' ' with
    | [scheme, tokenString] =>
        if scheme ≠ "Bearer" then .error "Invalid authorized header format. Use: Bearer <token>"
        else
          match validateToken tokenString with
          | .error _ => .error "Invalid or expired token"
          | .ok claims => .ok claims
    | _ => .error "Invalid authorized header format. Use: Bearer <token>"

/-- A header splits into `Bearer` and a token exactly when it is `Bearer`, one
space and a token without spaces. -/
theorem split_eq_bearer_iff {authHeader tokenString : String} :
    Go.split authHeader ' ' = ["Bearer", tokenString] ↔
      authHeader = "Bearer " ++ tokenString ∧ ' ' ∉ tokenString.toList := by
  rw [Go.split_eq_pair_iff, ← String.toList_inj]
  simp

theorem bearer_ne_empty (tokenString : String) : "Bearer " ++ tokenString ≠ "" := by
  intro h
  have hlen := congrArg String.length h
  simp at hlen

theorem bearer_injective {tokenString tokenString' : String}
    (h : "Bearer " ++ tokenString = "Bearer " ++ tokenString') : tokenString = tokenString' := by
  have hlist := congrArg String.toList h
  simp only [String.toList_append, List.append_cancel_left_eq] at hlist
  exact String.toList_inj.mp hlist

/-! What `RequireAuth` answers for each of the three forms a header can
take: empty, `Bearer` with one space and a token without one, or anything
else. -/

section Forms

variable {validateToken : String → Except String κ}

theorem requireAuth_empty :
    requireAuth validateToken "" = .error "Authorization header required" :=
  if_pos rfl

theorem requireAuth_bearer {tokenString : String} (hspace : ' ' ∉ tokenString.toList) :
    requireAuth validateToken ("Bearer " ++ tokenString) =
      match validateToken tokenString with
      | .error _ => .error "Invalid or expired token"
      | .ok claims => .ok claims := by
  have hsplit := split_eq_bearer_iff.mpr ⟨rfl, hspace⟩
  simp only [requireAuth, bearer_ne_empty, if_false, hsplit, ne_eq, not_true_eq_false]

theorem requireAuth_malformed {authHeader : String} (hempty : authHeader ≠ "")
    (hform : ¬∃ tokenString, authHeader = "Bearer " ++ tokenString ∧ ' ' ∉ tokenString.toList) :
    requireAuth validateToken authHeader =
      .error "Invalid authorized header format. Use: Bearer <token>" := by
  unfold requireAuth
  rw [if_neg hempty]
  split
  · rename_i scheme tokenString hsplit
    by_cases hscheme : scheme = "Bearer"
    · subst hscheme
      exact absurd ⟨tokenString, split_eq_bearer_iff.mp hsplit⟩ hform
    · rw [if_pos hscheme]
  · rfl

/-- A header `RequireAuth` passes is `Bearer`, one space and a token without
one, and the token validates to the claims it passes on. -/
theorem bearer_of_requireAuth_ok {authHeader : String} {claims : κ}
    (hok : requireAuth validateToken authHeader = .ok claims) :
    ∃ tokenString, authHeader = "Bearer " ++ tokenString ∧ ' ' ∉ tokenString.toList ∧
      validateToken tokenString = .ok claims := by
  by_cases hempty : authHeader = ""
  · rw [hempty, requireAuth_empty] at hok
    cases hok
  by_cases hform : ∃ tokenString, authHeader = "Bearer " ++ tokenString ∧
      ' ' ∉ tokenString.toList
  · obtain ⟨tokenString, rfl, hspace⟩ := hform
    rw [requireAuth_bearer hspace] at hok
    refine ⟨tokenString, rfl, hspace, ?_⟩
    cases hvalid : validateToken tokenString with
    | error failure =>
        rw [hvalid] at hok
        cases hok
    | ok claims' =>
        rw [hvalid] at hok
        cases hok
        rfl
  · rw [requireAuth_malformed hempty hform] at hok
    cases hok

end Forms

/-- The headers `RequireAuth` passes are those of the form `Bearer <token>`,
with one space and a token without one, whose token validates; it passes on
the token's claims. -/
theorem requireAuth_eq_ok_iff {validateToken : String → Except String κ} {authHeader : String}
    {claims : κ} :
    requireAuth validateToken authHeader = .ok claims ↔
      ∃ tokenString, authHeader = "Bearer " ++ tokenString ∧ ' ' ∉ tokenString.toList ∧
        validateToken tokenString = .ok claims := by
  constructor
  · exact bearer_of_requireAuth_ok
  · rintro ⟨tokenString, rfl, hspace, hvalid⟩
    rw [requireAuth_bearer hspace, hvalid]

/-- Every refusal of `RequireAuth`, with the text it answers: an empty header,
a header of any other form than `Bearer <token>`, or a token that does not
validate. -/
theorem requireAuth_eq_error_iff {validateToken : String → Except String κ}
    {authHeader message : String} :
    requireAuth validateToken authHeader = .error message ↔
      (authHeader = "" ∧ message = "Authorization header required") ∨
      (authHeader ≠ "" ∧
        (∀ tokenString, authHeader = "Bearer " ++ tokenString → ' ' ∈ tokenString.toList) ∧
        message = "Invalid authorized header format. Use: Bearer <token>") ∨
      (∃ tokenString failure, authHeader = "Bearer " ++ tokenString ∧
        ' ' ∉ tokenString.toList ∧ validateToken tokenString = .error failure ∧
        message = "Invalid or expired token") := by
  by_cases hempty : authHeader = ""
  · subst hempty
    rw [requireAuth_empty]
    constructor
    · intro h
      cases h
      exact Or.inl ⟨rfl, rfl⟩
    · rintro (⟨-, rfl⟩ | ⟨h, -⟩ | ⟨t, -, h, -⟩)
      · rfl
      · exact absurd rfl h
      · exact absurd h.symm (bearer_ne_empty t)
  by_cases hform : ∃ tokenString, authHeader = "Bearer " ++ tokenString ∧
      ' ' ∉ tokenString.toList
  · obtain ⟨tokenString, rfl, hspace⟩ := hform
    have hother : ∀ t failure, "Bearer " ++ tokenString = "Bearer " ++ t →
        validateToken t = .error failure → validateToken tokenString = .error failure := by
      intro t failure ht hfail
      rwa [bearer_injective ht]
    rw [requireAuth_bearer hspace]
    cases hvalid : validateToken tokenString with
    | error failure =>
        constructor
        · intro h
          cases h
          exact Or.inr (Or.inr ⟨tokenString, failure, rfl, hspace, hvalid, rfl⟩)
        · rintro (⟨h, -⟩ | ⟨-, hmalformed, -⟩ | ⟨-, -, -, -, -, rfl⟩)
          · exact absurd h (bearer_ne_empty _)
          · exact absurd (hmalformed tokenString rfl) hspace
          · rfl
    | ok claims =>
        constructor
        · intro h
          cases h
        · rintro (⟨h, -⟩ | ⟨-, hmalformed, -⟩ | ⟨t, failure, ht, -, hfail, -⟩)
          · exact absurd h (bearer_ne_empty _)
          · exact absurd (hmalformed tokenString rfl) hspace
          · rw [hother t failure ht hfail] at hvalid
            cases hvalid
  · have hmalformed : ∀ t, authHeader = "Bearer " ++ t → ' ' ∈ t.toList :=
      fun t ht => by_contra fun hspace => hform ⟨t, ht, hspace⟩
    rw [requireAuth_malformed hempty hform]
    constructor
    · intro hmessage
      cases hmessage
      exact Or.inr (Or.inl ⟨hempty, hmalformed, rfl⟩)
    · rintro (⟨h, -⟩ | ⟨-, -, rfl⟩ | ⟨t, failure, ht, hspace, -⟩)
      · exact absurd h hempty
      · rfl
      · exact absurd ⟨t, ht, hspace⟩ hform

example : requireAuth (fun t => if t = "abc" then .ok t else .error "bad") "Bearer  abc" =
    (.error "Invalid authorized header format. Use: Bearer <token>" : Except String String) := by
  decide

end ApiGateway.Middleware
