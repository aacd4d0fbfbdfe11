import ApiGateway.Transition
import ApiGateway.CircuitBreaker.Breaker

/-!
The behaviour a circuit breaker is documented to have, as an automaton over
three modes: Closed with the number of consecutive failures, Open with the
time of the latest failure, and HalfOpen with the number of trial successes.
Over every run of Calls taken one at a time and Resets, at any clock
readings, the breaker built by `New` answers as the automaton does and its
state and counters track the automaton's mode.
-/

namespace ApiGateway.CircuitBreaker

inductive Mode where
  | closed (failures : Nat)
  | open (failedAt : Int)
  | halfOpen (successes : Nat)
  deriving DecidableEq, Repr

/-- The automaton's parameters: `maxFailures`, `timeout`, `halfOpenSuccess`,
the two thresholds positive. -/
structure Reference where
  maxFailures : Nat
  timeout : Int
  halfOpenSuccess : Nat
  maxFailures_pos : 0 < maxFailures
  halfOpenSuccess_pos : 0 < halfOpenSuccess

namespace Reference

/-- A call that runs `fn` in a closed or half-open mode. -/
def finish (r : Reference) : Mode → Int → Outcome → Result × Mode
  | .closed k, doneAt, .failure =>
      (.failed, if k + 1 = r.maxFailures then .open doneAt else .closed (k + 1))
  | .closed _, _, .success => (.ok, .closed 0)
  | .halfOpen _, doneAt, .failure => (.failed, .open doneAt)
  | .halfOpen j, _, .success =>
      (.ok, if j + 1 = r.halfOpenSuccess then .closed 0 else .halfOpen (j + 1))
  | .open failedAt, _, _ => (.circuitOpen, .open failedAt)

def step (r : Reference) : Mode → Event → Option Result × Mode
  | .open failedAt, .call admitAt doneAt outcome =>
      if admitAt - failedAt ≤ r.timeout then (some .circuitOpen, .open failedAt)
      else
        let (result, m) := r.finish (.halfOpen 0) doneAt outcome
        (some result, m)
  | m, .call _ doneAt outcome =>
      let (result, m) := r.finish m doneAt outcome
      (some result, m)
  | _, .reset _ => (none, .closed 0)

theorem new_maxFailures_toNat_pos (cfg : Config) (created : Int) :
    0 < (new cfg created).maxFailures.toNat := by
  simp only [new]
  split <;> omega

theorem new_halfOpenSuccess_toNat_pos (cfg : Config) (created : Int) :
    0 < (new cfg created).halfOpenSuccess.toNat := by
  simp only [new]
  split <;> omega

/-- The automaton with the settings `New` gives a breaker. -/
def ofNew (cfg : Config) (created : Int) : Reference where
  maxFailures := (new cfg created).maxFailures.toNat
  timeout := (new cfg created).timeout
  halfOpenSuccess := (new cfg created).halfOpenSuccess.toNat
  maxFailures_pos := new_maxFailures_toNat_pos cfg created
  halfOpenSuccess_pos := new_halfOpenSuccess_toNat_pos cfg created

end Reference

def Mode.state : Mode → State
  | .closed _ => .closed
  | .open _ => .open
  | .halfOpen _ => .halfOpen

/-- The breaker carries the automaton's settings. -/
def Configured (r : Reference) (cb : CircuitBreaker) : Prop :=
  cb.maxFailures = r.maxFailures ∧ cb.timeout = r.timeout ∧
    cb.halfOpenSuccess = r.halfOpenSuccess

/-- The breaker is in the automaton's mode: the same state, `failureCount`
the failures of a closed mode, `lastFailureTime` the failure of an open one,
`successCount` the successes of a half-open one. -/
def Tracks (r : Reference) (cb : CircuitBreaker) : Mode → Prop
  | .closed k => cb.state = .closed ∧ cb.failureCount = k ∧ k < r.maxFailures
  | .open failedAt => cb.state = .open ∧ cb.lastFailureTime = failedAt
  | .halfOpen j => cb.state = .halfOpen ∧ cb.successCount = j ∧ j < r.halfOpenSuccess

def Refines (r : Reference) (cb : CircuitBreaker) (m : Mode) : Prop :=
  Configured r cb ∧ Tracks r cb m

theorem Tracks.state {r : Reference} {cb : CircuitBreaker} {m : Mode} (h : Tracks r cb m) :
    cb.state = m.state := by
  cases m with
  | closed k => exact h.1
  | «open» failedAt => exact h.1
  | halfOpen j => exact h.1

section Simulation

variable {r : Reference} {cb : CircuitBreaker}

theorem finish_closed {k : Nat} (hc : Configured r cb) (ht : Tracks r cb (.closed k))
    (doneAt : Int) (outcome : Outcome) :
    resultOf outcome = (r.finish (.closed k) doneAt outcome).1 ∧
      Refines r (cb.complete doneAt outcome) (r.finish (.closed k) doneAt outcome).2 := by
  obtain ⟨hmax, htimeout, hhalf⟩ := hc
  obtain ⟨hstate, hcount, hk⟩ := ht
  cases outcome with
  | failure =>
      refine ⟨rfl, ?_⟩
      by_cases hopens : k + 1 = r.maxFailures
      · simp only [Reference.finish, if_pos hopens]
        refine ⟨by simp [Configured, hmax, htimeout, hhalf], ?_⟩
        simp [Tracks, hstate, hcount, hmax]
        omega
      · simp only [Reference.finish, if_neg hopens]
        refine ⟨by simp [Configured, hmax, htimeout, hhalf], ?_⟩
        simp [Tracks, hstate, hcount, hmax]
        omega
  | success =>
      refine ⟨rfl, by simp [Configured, hmax, htimeout, hhalf], ?_⟩
      simp [Reference.finish, Tracks, hstate]
      omega

theorem finish_halfOpen {j : Nat} (hc : Configured r cb) (ht : Tracks r cb (.halfOpen j))
    (doneAt : Int) (outcome : Outcome) :
    resultOf outcome = (r.finish (.halfOpen j) doneAt outcome).1 ∧
      Refines r (cb.complete doneAt outcome) (r.finish (.halfOpen j) doneAt outcome).2 := by
  obtain ⟨hmax, htimeout, hhalf⟩ := hc
  obtain ⟨hstate, hcount, hj⟩ := ht
  cases outcome with
  | failure =>
      refine ⟨rfl, by simp [Configured, hmax, htimeout, hhalf], ?_⟩
      simp [Reference.finish, Tracks, hstate]
  | success =>
      refine ⟨rfl, ?_⟩
      by_cases hcloses : j + 1 = r.halfOpenSuccess
      · simp only [Reference.finish, if_pos hcloses]
        refine ⟨by simp [Configured, hmax, htimeout, hhalf], ?_⟩
        have hreached : (r.halfOpenSuccess : Int) ≤ j + 1 := by omega
        simp [Tracks, hstate, hcount, hhalf, hreached, r.maxFailures_pos]
      · simp only [Reference.finish, if_neg hcloses]
        refine ⟨by simp [Configured, hmax, htimeout, hhalf], ?_⟩
        simp [Tracks, hstate, hcount, hhalf]
        omega

theorem reset_refines (hc : Configured r cb) (now : Int) :
    Refines r (cb.reset now) (.closed 0) := by
  obtain ⟨hmax, htimeout, hhalf⟩ := hc
  exact ⟨by simp [Configured, hmax, htimeout, hhalf], by simp [Tracks, r.maxFailures_pos]⟩

/-- A Call admitted by an Open breaker after the timeout starts the half-open
mode with no successes. -/
theorem admission_expired_refines (hc : Configured r cb) {failedAt : Int}
    (ht : Tracks r cb (.open failedAt)) {admitAt : Int}
    (hexpired : r.timeout < admitAt - failedAt) :
    Configured r (cb.admission admitAt).2 ∧ Tracks r (cb.admission admitAt).2 (.halfOpen 0) := by
  obtain ⟨hmax, htimeout, hhalf⟩ := hc
  obtain ⟨hstate, hfailed⟩ := ht
  have hexpired' : cb.timeout < admitAt - cb.lastFailureTime := by
    rw [htimeout, hfailed]
    exact hexpired
  rw [cb.admission_of_expired admitAt hstate hexpired']
  exact ⟨⟨hmax, htimeout, hhalf⟩, rfl, rfl, r.halfOpenSuccess_pos⟩

/-- One step of the breaker answers as the automaton does and keeps it in
the automaton's mode. -/
theorem step_simulates : Transition.Simulation CircuitBreaker.step r.step (Refines r) := by
  intro cb m e hrel
  obtain ⟨hc, ht⟩ := hrel
  cases e with
  | reset now => cases m <;> exact ⟨rfl, reset_refines hc now⟩
  | call admitAt doneAt outcome =>
      cases m with
      | closed k =>
          have hadmission := cb.admission_of_ne_open admitAt (by rw [ht.1]; decide)
          obtain ⟨hresult, hrefines⟩ := finish_closed hc ht doneAt outcome
          simp only [CircuitBreaker.step, call_eq, hadmission, if_true]
          exact ⟨by rw [hresult]; rfl, hrefines⟩
      | halfOpen j =>
          have hadmission := cb.admission_of_ne_open admitAt (by rw [ht.1]; decide)
          obtain ⟨hresult, hrefines⟩ := finish_halfOpen hc ht doneAt outcome
          simp only [CircuitBreaker.step, call_eq, hadmission, if_true]
          exact ⟨by rw [hresult]; rfl, hrefines⟩
      | «open» failedAt =>
          by_cases hwithin : admitAt - failedAt ≤ r.timeout
          · have hwithin' : admitAt - cb.lastFailureTime ≤ cb.timeout := by
              rw [hc.2.1, ht.2]
              exact hwithin
            simp only [CircuitBreaker.step, call_eq, cb.admission_of_within admitAt ht.1 hwithin',
              Reference.step, if_pos hwithin]
            exact ⟨rfl, hc, ht⟩
          · have hexpired : r.timeout < admitAt - failedAt := lt_of_not_ge hwithin
            obtain ⟨hc', ht'⟩ := admission_expired_refines hc ht hexpired
            have hadmissionted : (cb.admission admitAt).1 = true := by
              simp [ht.1, hc.2.1, ht.2, hexpired]
            obtain ⟨hresult, hrefines⟩ := finish_halfOpen hc' ht' doneAt outcome
            simp only [CircuitBreaker.step, call_eq, hadmissionted, if_true, Reference.step,
              if_neg hwithin]
            exact ⟨by rw [hresult], hrefines⟩

end Simulation

theorem new_refines (cfg : Config) (created : Int) :
    Refines (Reference.ofNew cfg created) (new cfg created) (.closed 0) := by
  have hmax := (Reference.ofNew cfg created).maxFailures_pos
  have hhalf := (Reference.ofNew cfg created).halfOpenSuccess_pos
  simp only [Reference.ofNew] at hmax hhalf
  refine ⟨⟨?_, rfl, ?_⟩, rfl, rfl, hmax⟩
  · simp only [Reference.ofNew]
    omega
  · simp only [Reference.ofNew]
    omega

/-- Over every run of Calls taken one at a time and Resets, at any clock
readings, a breaker built by `New` answers every Call as the reference
automaton does and stays in the automaton's mode: `State()` is the mode's
state, `failureCount` the closed mode's failures and `successCount` the
half-open mode's successes. -/
theorem new_simulates_reference (cfg : Config) (created : Int) (events : List Event) :
    let r := Reference.ofNew cfg created
    let cb := Transition.after CircuitBreaker.step (new cfg created) events
    let m := Transition.after r.step (.closed 0) events
    Transition.outputs CircuitBreaker.step (new cfg created) events =
        Transition.outputs r.step (.closed 0) events ∧
      Refines r cb m ∧ cb.state = m.state := by
  intro r cb m
  have hrefines : Refines r cb m := step_simulates.after_rel (new_refines cfg created) events
  exact ⟨step_simulates.outputs_eq (new_refines cfg created) events, hrefines,
    hrefines.2.state⟩

example : Transition.outputs CircuitBreaker.step (new ⟨2, 10, 1⟩ 0)
    [.call 1 1 .failure, .call 2 2 .failure, .call 5 5 .success, .call 13 13 .success] =
      [some .failed, some .failed, some .circuitOpen, some .ok] := by
  decide

end ApiGateway.CircuitBreaker
