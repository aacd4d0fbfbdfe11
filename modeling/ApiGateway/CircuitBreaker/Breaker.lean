import ApiGateway.Go

/-!
`CircuitBreaker` of `internal/circuitbreaker/breaker.go` and `state.go`. The
mutex is not a field: a Call is two critical sections, its admission (lines
57-70), which may move an Open breaker to HalfOpen and lets the call through
or refuses it, and its completion (lines 75-84), which applies `onFailure` or
`onSuccess` after `fn` has returned. Each section reads the clock once, and
`setState` takes the same reading as the section it is called from. Counters
are Go `int`s without the wrap-around at `2^63`.
-/

namespace ApiGateway

namespace CircuitBreaker

inductive State where
  | closed
  | open
  | halfOpen
  deriving DecidableEq, Repr

/-- `String` of `state.go`; its `"unknown"` is for values no breaker takes. -/
def State.toString : State → String
  | .closed => "closed"
  | .open => "open"
  | .halfOpen => "half-open"

structure Config where
  maxFailures : Int
  timeout : Int
  halfOpenSuccess : Int

/-- Whether `fn` returned `nil`. -/
inductive Outcome where
  | success
  | failure
  deriving DecidableEq, Repr

/-- What `Call` returns: `nil`, the error of `fn`, or `ErrCircuitOpen`. -/
inductive Result where
  | ok
  | failed
  | circuitOpen
  deriving DecidableEq, Repr

end CircuitBreaker

structure CircuitBreaker where
  state : CircuitBreaker.State
  failureCount : Int
  successCount : Int
  lastFailureTime : Int
  lastStateChange : Int
  maxFailures : Int
  timeout : Int
  halfOpenSuccess : Int
  deriving DecidableEq, Repr

namespace CircuitBreaker

/-- `New`: non-positive settings take their defaults. -/
def new (cfg : Config) (now : Int) : CircuitBreaker where
  state := .closed
  failureCount := 0
  successCount := 0
  lastFailureTime := Go.zeroTime
  lastStateChange := now
  maxFailures := if cfg.maxFailures ≤ 0 then 5 else cfg.maxFailures
  timeout := if cfg.timeout ≤ 0 then 30 * Go.second else cfg.timeout
  halfOpenSuccess := if cfg.halfOpenSuccess ≤ 0 then 1 else cfg.halfOpenSuccess

def setState (cb : CircuitBreaker) (newState : State) (now : Int) : CircuitBreaker :=
  if cb.state ≠ newState then { cb with state := newState, lastStateChange := now } else cb

/-- The admission section of `Call`: whether `fn` runs, and the breaker. -/
def admission (cb : CircuitBreaker) (now : Int) : Bool × CircuitBreaker :=
  if cb.state = .open then
    if now - cb.lastFailureTime > cb.timeout then
      (true, { cb.setState .halfOpen now with successCount := 0 })
    else (false, cb)
  else (true, cb)

def onFailure (cb : CircuitBreaker) (now : Int) : CircuitBreaker :=
  let cb := { cb with failureCount := cb.failureCount + 1, lastFailureTime := now }
  if cb.state = .halfOpen then { cb.setState .open now with successCount := 0 }
  else if cb.failureCount ≥ cb.maxFailures then cb.setState .open now
  else cb

def onSuccess (cb : CircuitBreaker) (now : Int) : CircuitBreaker :=
  match cb.state with
  | .halfOpen =>
      let cb := { cb with successCount := cb.successCount + 1 }
      if cb.successCount ≥ cb.halfOpenSuccess then
        { cb.setState .closed now with failureCount := 0 }
      else cb
  | .closed => { cb with failureCount := 0 }
  | .open => cb

/-- The completion section of `Call`. -/
def complete (cb : CircuitBreaker) (now : Int) : Outcome → CircuitBreaker
  | .failure => cb.onFailure now
  | .success => cb.onSuccess now

/-- A Call run with nothing between its two sections, or a Reset. -/
inductive Event where
  | call (admitAt doneAt : Int) (outcome : Outcome)
  | reset (now : Int)

/-- `Call` with nothing between its two sections: admitted at `admitAt`,
with `fn` returning at `doneAt`. -/
def call (cb : CircuitBreaker) (admitAt doneAt : Int) (outcome : Outcome) :
    Result × CircuitBreaker :=
  match cb.admission admitAt with
  | (false, cb) => (.circuitOpen, cb)
  | (true, cb) =>
      (match outcome with
        | .success => .ok
        | .failure => .failed, cb.complete doneAt outcome)

def reset (cb : CircuitBreaker) (now : Int) : CircuitBreaker :=
  { cb with state := .closed, failureCount := 0, successCount := 0, lastStateChange := now }

structure Metrics where
  state : State
  failureCount : Int
  successCount : Int
  lastFailureTime : Int
  lastStateChange : Int
  deriving DecidableEq, Repr

/-- `Metrics`, copied out under the read lock. -/
def metrics (cb : CircuitBreaker) : Metrics :=
  ⟨cb.state, cb.failureCount, cb.successCount, cb.lastFailureTime, cb.lastStateChange⟩

/-- What `Call` answers for an admitted call. -/
def resultOf : Outcome → Result
  | .success => .ok
  | .failure => .failed

/-- One step of a run in which Calls execute one at a time, interleaved with
Resets; a Reset answers nothing. -/
def step (cb : CircuitBreaker) : Event → Option Result × CircuitBreaker
  | .call admitAt doneAt outcome =>
      let (result, cb) := cb.call admitAt doneAt outcome
      (some result, cb)
  | .reset now => (none, cb.reset now)

/-! Each section's effect, field by field. -/

section Fields

variable (cb : CircuitBreaker) (now : Int)

@[simp] theorem setState_state (newState : State) :
    (cb.setState newState now).state = newState := by
  unfold setState
  split
  · rfl
  · rename_i hsame
    exact not_not.mp hsame

@[simp] theorem setState_fields (newState : State) :
    (cb.setState newState now).failureCount = cb.failureCount ∧
      (cb.setState newState now).successCount = cb.successCount ∧
      (cb.setState newState now).lastFailureTime = cb.lastFailureTime ∧
      (cb.setState newState now).maxFailures = cb.maxFailures ∧
      (cb.setState newState now).timeout = cb.timeout ∧
      (cb.setState newState now).halfOpenSuccess = cb.halfOpenSuccess := by
  unfold setState
  split <;> simp

@[simp] theorem admission_fst :
    (cb.admission now).1 = decide (cb.state ≠ .open ∨ cb.timeout < now - cb.lastFailureTime) := by
  unfold admission
  by_cases hopen : cb.state = .open
  · by_cases hexpired : cb.timeout < now - cb.lastFailureTime
    · simp [hopen, hexpired]
    · simp [hopen, hexpired]
  · simp [hopen]

@[simp] theorem admission_state :
    (cb.admission now).2.state =
      if cb.state = .open ∧ cb.timeout < now - cb.lastFailureTime then .halfOpen else cb.state := by
  unfold admission
  by_cases hopen : cb.state = .open
  · by_cases hexpired : cb.timeout < now - cb.lastFailureTime
    · simp [hopen, hexpired]
    · simp [hopen, hexpired]
  · simp [hopen]

@[simp] theorem admission_fields :
    (cb.admission now).2.failureCount = cb.failureCount ∧
      (cb.admission now).2.successCount =
        (if cb.state = .open ∧ cb.timeout < now - cb.lastFailureTime then 0 else cb.successCount) ∧
      (cb.admission now).2.lastFailureTime = cb.lastFailureTime ∧
      (cb.admission now).2.maxFailures = cb.maxFailures ∧
      (cb.admission now).2.timeout = cb.timeout ∧
      (cb.admission now).2.halfOpenSuccess = cb.halfOpenSuccess := by
  unfold admission
  by_cases hopen : cb.state = .open
  · by_cases hexpired : cb.timeout < now - cb.lastFailureTime
    · simp [hopen, hexpired]
    · simp [hopen, hexpired]
  · simp [hopen]

@[simp] theorem onFailure_state :
    (cb.onFailure now).state =
      if cb.state = .halfOpen ∨ cb.maxFailures ≤ cb.failureCount + 1 then .open else cb.state := by
  unfold onFailure
  by_cases hhalf : cb.state = .halfOpen
  · simp [hhalf]
  · by_cases hmax : cb.maxFailures ≤ cb.failureCount + 1
    · simp [hhalf, hmax]
    · simp [hhalf, hmax]

@[simp] theorem onFailure_fields :
    (cb.onFailure now).failureCount = cb.failureCount + 1 ∧
      (cb.onFailure now).successCount =
        (if cb.state = .halfOpen then 0 else cb.successCount) ∧
      (cb.onFailure now).lastFailureTime = now ∧
      (cb.onFailure now).maxFailures = cb.maxFailures ∧
      (cb.onFailure now).timeout = cb.timeout ∧
      (cb.onFailure now).halfOpenSuccess = cb.halfOpenSuccess := by
  unfold onFailure
  by_cases hhalf : cb.state = .halfOpen
  · simp [hhalf]
  · by_cases hmax : cb.maxFailures ≤ cb.failureCount + 1
    · simp [hhalf, hmax]
    · simp [hhalf, hmax]

@[simp] theorem onSuccess_state :
    (cb.onSuccess now).state =
      if cb.state = .halfOpen ∧ cb.halfOpenSuccess ≤ cb.successCount + 1 then .closed
      else cb.state := by
  unfold onSuccess
  cases hstate : cb.state with
  | closed => simp
  | «open» => simp [hstate]
  | halfOpen =>
      by_cases hdone : cb.halfOpenSuccess ≤ cb.successCount + 1
      · simp [hdone]
      · simp [hdone]

@[simp] theorem onSuccess_fields :
    (cb.onSuccess now).failureCount =
        (if cb.state = .closed ∨ (cb.state = .halfOpen ∧ cb.halfOpenSuccess ≤ cb.successCount + 1)
          then 0 else cb.failureCount) ∧
      (cb.onSuccess now).successCount =
        (if cb.state = .halfOpen then cb.successCount + 1 else cb.successCount) ∧
      (cb.onSuccess now).lastFailureTime = cb.lastFailureTime ∧
      (cb.onSuccess now).maxFailures = cb.maxFailures ∧
      (cb.onSuccess now).timeout = cb.timeout ∧
      (cb.onSuccess now).halfOpenSuccess = cb.halfOpenSuccess := by
  unfold onSuccess
  cases hstate : cb.state with
  | closed => simp
  | «open» => simp
  | halfOpen =>
      by_cases hdone : cb.halfOpenSuccess ≤ cb.successCount + 1
      · simp [hdone]
      · simp [hdone]

@[simp] theorem reset_fields :
    (cb.reset now).state = .closed ∧ (cb.reset now).failureCount = 0 ∧
      (cb.reset now).successCount = 0 ∧
      (cb.reset now).lastFailureTime = cb.lastFailureTime ∧
      (cb.reset now).maxFailures = cb.maxFailures ∧
      (cb.reset now).timeout = cb.timeout ∧
      (cb.reset now).halfOpenSuccess = cb.halfOpenSuccess := by
  simp [reset]

@[simp] theorem complete_failure : cb.complete now .failure = cb.onFailure now := rfl

@[simp] theorem complete_success : cb.complete now .success = cb.onSuccess now := rfl

theorem admission_of_ne_open (hstate : cb.state ≠ .open) : cb.admission now = (true, cb) := by
  simp [admission, hstate]

theorem admission_of_expired (hstate : cb.state = .open)
    (hexpired : cb.timeout < now - cb.lastFailureTime) :
    cb.admission now =
      (true, { cb with state := .halfOpen, lastStateChange := now, successCount := 0 }) := by
  simp [admission, hstate, hexpired, setState]

theorem admission_of_within (hstate : cb.state = .open)
    (hwithin : now - cb.lastFailureTime ≤ cb.timeout) : cb.admission now = (false, cb) := by
  simp [admission, hstate, not_lt.mpr hwithin]

theorem call_eq (admitAt doneAt : Int) (outcome : Outcome) :
    cb.call admitAt doneAt outcome =
      if (cb.admission admitAt).1 then
        (resultOf outcome, (cb.admission admitAt).2.complete doneAt outcome)
      else (.circuitOpen, (cb.admission admitAt).2) := by
  unfold call
  rcases cb.admission admitAt with ⟨_ | _, cb'⟩
  · rfl
  · cases outcome <;> rfl

end Fields

/-- What holds of the breaker in every reachable state, under any
interleaving of admissions, completions and Resets. -/
structure Valid (cb : CircuitBreaker) : Prop where
  maxFailures_pos : 1 ≤ cb.maxFailures
  halfOpenSuccess_pos : 1 ≤ cb.halfOpenSuccess
  failureCount_nonneg : 0 ≤ cb.failureCount
  successCount_nonneg : 0 ≤ cb.successCount
  closed_below : cb.state = .closed → cb.failureCount < cb.maxFailures
  halfOpen_below : cb.state = .halfOpen → cb.successCount < cb.halfOpenSuccess

section Valid

variable {cb : CircuitBreaker} (h : Valid cb) (now : Int)
include h

theorem Valid.admission : Valid (cb.admission now).2 := by
  obtain ⟨hmax, hhalf, hfail, hsucc, hclosed, hhalfOpen⟩ := h
  by_cases hexpired : cb.state = .open ∧ cb.timeout < now - cb.lastFailureTime
  · refine ⟨?_, ?_, ?_, ?_, ?_, ?_⟩ <;> simp [hexpired] <;> omega
  · refine ⟨?_, ?_, ?_, ?_, ?_, ?_⟩ <;> simp [hexpired] <;> assumption

theorem Valid.onFailure : Valid (cb.onFailure now) := by
  obtain ⟨hmax, hhalf, hfail, hsucc, hclosed, hhalfOpen⟩ := h
  refine ⟨?_, ?_, ?_, ?_, ?_, ?_⟩
  · simpa using hmax
  · simpa using hhalf
  · simp
    omega
  · simp only [onFailure_fields]
    split <;> omega
  · intro hstate
    simp only [onFailure_state] at hstate
    split at hstate
    · cases hstate
    · simp only [onFailure_fields]
      omega
  · intro hstate
    simp only [onFailure_state] at hstate
    split at hstate
    · cases hstate
    · rename_i hstays
      exact absurd (Or.inl hstate) hstays

theorem Valid.onSuccess : Valid (cb.onSuccess now) := by
  obtain ⟨hmax, hhalf, hfail, hsucc, hclosed, hhalfOpen⟩ := h
  refine ⟨?_, ?_, ?_, ?_, ?_, ?_⟩
  · simpa using hmax
  · simpa using hhalf
  · simp only [onSuccess_fields]
    split <;> omega
  · simp only [onSuccess_fields]
    split <;> omega
  · intro hstate
    simp only [onSuccess_state] at hstate
    simp only [onSuccess_fields]
    split
    · omega
    · split at hstate
      · rename_i hkept hdone
        exact absurd (Or.inr hdone) hkept
      · exact hclosed hstate
  · intro hstate
    simp only [onSuccess_state] at hstate
    split at hstate
    · cases hstate
    · rename_i hstays
      have hbelow : ¬cb.halfOpenSuccess ≤ cb.successCount + 1 := fun hle => hstays ⟨hstate, hle⟩
      simp only [onSuccess_fields, hstate, if_true]
      omega

theorem Valid.complete (outcome : Outcome) : Valid (cb.complete now outcome) := by
  cases outcome with
  | failure => exact h.onFailure now
  | success => exact h.onSuccess now

theorem Valid.reset : Valid (cb.reset now) := by
  obtain ⟨hmax, hhalf, -, -, -, -⟩ := h
  refine ⟨?_, ?_, ?_, ?_, ?_, ?_⟩ <;> simp <;> omega

end Valid

theorem valid_new (cfg : Config) (created : Int) : Valid (new cfg created) := by
  refine ⟨?_, ?_, le_rfl, le_rfl, ?_, ?_⟩
  · simp only [new]
    split <;> omega
  · simp only [new]
    split <;> omega
  · intro _
    simp only [new]
    split <;> omega
  · intro hstate
    cases hstate

/-- An admission either leaves the breaker as it is or starts a trial. -/
theorem admission_cases (cb : CircuitBreaker) (now : Int) :
    (cb.admission now).2 = cb ∨
      (cb.state = .open ∧ (cb.admission now).2.state = .halfOpen ∧
        (cb.admission now).2.successCount = 0 ∧
        (cb.admission now).2.lastFailureTime = cb.lastFailureTime) := by
  by_cases hopen : cb.state = .open
  · by_cases hexpired : cb.timeout < now - cb.lastFailureTime
    · exact .inr ⟨hopen, by simp [hopen, hexpired]⟩
    · exact .inl (by rw [cb.admission_of_within now hopen (not_lt.mp hexpired)])
  · exact .inl (by rw [cb.admission_of_ne_open now hopen])

theorem onSuccess_open (cb : CircuitBreaker) (now : Int) (hopen : cb.state = .open) :
    cb.onSuccess now = cb := by
  simp [onSuccess, hopen]

theorem complete_open (cb : CircuitBreaker) (now : Int) (outcome : Outcome)
    (hopen : cb.state = .open) : (cb.complete now outcome).state = .open := by
  cases outcome with
  | failure => simp [hopen]
  | success => simp [hopen]

/-- An admission takes the breaker out of Open only after the timeout. -/
theorem admission_leaves_open (cb : CircuitBreaker) (now : Int) (hopen : cb.state = .open)
    (hleft : (cb.admission now).2.state ≠ .open) : cb.timeout < now - cb.lastFailureTime := by
  by_contra hwithin
  rw [cb.admission_of_within now hopen (not_lt.mp hwithin)] at hleft
  exact hleft hopen

end CircuitBreaker

end ApiGateway
