import ApiGateway.Transition
import ApiGateway.CircuitBreaker.Breaker

/-!
Concurrent Calls on one breaker. `Call` releases the lock while `fn` runs,
so the admissions and completions of any number of Calls, and Resets,
interleave; each section is atomic. A configuration is the breaker and the
Calls whose `fn` is running. Each running Call also carries ghost data that
no section reads: the state it was admitted in and the breaker's period when
it was, a period being the time between two state changes or Resets. A ghost
log keeps the trial admissions, completions and Resets so far.
-/

namespace ApiGateway.CircuitBreaker

structure Running where
  admittedIn : State
  period : Nat
  deriving DecidableEq, Repr

inductive Record where
  | trial (now : Int)
  | done (outcome : Outcome) (now : Int)
  | reset (now : Int)
  deriving DecidableEq, Repr

structure System where
  breaker : CircuitBreaker
  running : List Running
  period : Nat
  log : List Record
  deriving DecidableEq, Repr

/-- An atomic step: a new Call's admission, the completion of the `i`-th
running Call, or a Reset. -/
inductive Action where
  | enter (now : Int)
  | complete (i : Nat) (now : Int) (outcome : Outcome)
  | reset (now : Int)

namespace System

/-- The breaker built by `New`, with nothing running. -/
def start (cfg : Config) (created : Int) : System := ⟨new cfg created, [], 0, []⟩

/-- The period after a section that leaves the breaker `b`. -/
def nextPeriod (s : System) (b : CircuitBreaker) : Nat :=
  if b.state = s.breaker.state then s.period else s.period + 1

def step (s : System) : Action → System
  | .enter now =>
      let (admitted, b) := s.breaker.admission now
      { breaker := b
        running := if admitted then s.running ++ [⟨b.state, s.nextPeriod b⟩] else s.running
        period := s.nextPeriod b
        log := if b.state = s.breaker.state then s.log else s.log ++ [.trial now] }
  | .complete i now outcome =>
      if i < s.running.length then
        let b := s.breaker.complete now outcome
        { breaker := b
          running := s.running.eraseIdx i
          period := s.nextPeriod b
          log := s.log ++ [.done outcome now] }
      else s
  | .reset now =>
      { breaker := s.breaker.reset now
        running := s.running
        period := s.period + 1
        log := s.log ++ [.reset now] }

/-- The configuration after the actions, from `New`. -/
def after (cfg : Config) (created : Int) (actions : List Action) : System :=
  Transition.run step (start cfg created) actions

/-- The running Calls that were admitted while the breaker was HalfOpen. -/
def trials (s : System) : Nat := (s.running.filter fun c => c.admittedIn = .halfOpen).length

/-- Each action leaves the breaker as the section it runs leaves it. -/
theorem step_breaker (s : System) (a : Action) :
    (s.step a).breaker = s.breaker ∨ (∃ now, (s.step a).breaker = (s.breaker.admission now).2) ∨
      (∃ now outcome, (s.step a).breaker = s.breaker.complete now outcome) ∨
      (∃ now, (s.step a).breaker = s.breaker.reset now) := by
  cases a with
  | enter now => exact .inr (.inl ⟨now, rfl⟩)
  | complete i now outcome =>
      by_cases hi : i < s.running.length
      · exact .inr (.inr (.inl ⟨now, outcome, by simp [step, hi]⟩))
      · exact .inl (by simp [step, hi])
  | reset now => exact .inr (.inr (.inr ⟨now, rfl⟩))

theorem step_valid (s : System) (a : Action) (h : Valid s.breaker) : Valid (s.step a).breaker := by
  rcases s.step_breaker a with hsame | ⟨now, hadmission⟩ | ⟨now, outcome, hcomplete⟩ | ⟨now, hreset⟩
  · rwa [hsame]
  · rw [hadmission]
    exact h.admission now
  · rw [hcomplete]
    exact h.complete now outcome
  · rw [hreset]
    exact h.reset now

theorem step_complete_open (s : System) (i : Nat) (now : Int) (outcome : Outcome)
    (hopen : s.breaker.state = .open) :
    (s.step (.complete i now outcome)).breaker.state = .open := by
  by_cases hi : i < s.running.length
  · simp only [step, if_pos hi]
    exact s.breaker.complete_open now outcome hopen
  · simpa [step, hi] using hopen

/-- A HalfOpen breaker admits every Call, each as a trial. -/
theorem step_enter_halfOpen (s : System) (now : Int) (hhalf : s.breaker.state = .halfOpen) :
    s.step (.enter now) = { s with running := s.running ++ [⟨.halfOpen, s.period⟩] } := by
  have hadmission := s.breaker.admission_of_ne_open now (by rw [hhalf]; decide)
  simp [step, hadmission, nextPeriod, hhalf]

theorem trials_entries (s : System) (now : Int) (hhalf : s.breaker.state = .halfOpen) (n : Nat) :
    (Transition.run step s (List.replicate n (.enter now))).trials = s.trials + n ∧
      (Transition.run step s (List.replicate n (.enter now))).breaker.state = .halfOpen := by
  induction n generalizing s with
  | zero => exact ⟨rfl, hhalf⟩
  | succ n ih =>
      rw [List.replicate_succ, Transition.run_cons, s.step_enter_halfOpen now hhalf]
      obtain ⟨htrials, hstate⟩ :=
        ih { s with running := s.running ++ [⟨.halfOpen, s.period⟩] } hhalf
      refine ⟨?_, hstate⟩
      rw [htrials]
      simp [trials]
      omega

end System

/-- The breaker settings `proxy.New` uses. -/
def proxyDefaults : Config := ⟨5, 30 * Go.second, 1⟩

/-- Five Calls that fail one second in, opening the breaker. -/
def fiveFailures : List Action :=
  (List.replicate 5 [Action.enter 0, .complete 0 Go.second .failure]).flatten

/-- After the five failures and the timeout, a HalfOpen breaker whose
`halfOpenSuccess` is one lets through every concurrent Call as a trial: any
number of trial Calls can be running at once. -/
theorem halfOpen_trials_unbounded (n : Nat) :
    (System.after proxyDefaults 0
      (fiveFailures ++ List.replicate (n + 1) (.enter (32 * Go.second)))).trials = n + 1 := by
  have hfirst :
      (System.after proxyDefaults 0 (fiveFailures ++ [.enter (32 * Go.second)])).breaker.state =
      .halfOpen ∧
      (System.after proxyDefaults 0 (fiveFailures ++ [.enter (32 * Go.second)])).trials = 1 := by
    decide
  obtain ⟨htrials, -⟩ := System.trials_entries _ (32 * Go.second) hfirst.1 n
  rw [List.replicate_succ, List.append_cons, System.after, Transition.run_append]
  rw [System.after] at htrials hfirst
  rw [htrials, hfirst.2]
  omega

/-- Two Calls admitted Closed; one fails and opens the breaker; the other
fails later, after the state changed, and moves the open timeout. A third
Call admitted after the timeout makes it HalfOpen, and a success of the
first period then closes it. -/
theorem stale_completions_change_breaker :
    let cfg : Config := ⟨1, 30 * Go.second, 1⟩
    let opened := System.after cfg 0 [.enter 0, .enter 0, .complete 1 Go.second .failure]
    let late := opened.step (.complete 0 (20 * Go.second) .failure)
    let trial := opened.step (.enter (40 * Go.second))
    opened.running = [⟨.closed, 0⟩] ∧ opened.period = 1 ∧
      late.breaker.lastFailureTime ≠ opened.breaker.lastFailureTime ∧
      trial.breaker.state = .halfOpen ∧
      (late.step (.enter (40 * Go.second))).breaker.state = .open ∧
      trial.running = [⟨.closed, 0⟩, ⟨.halfOpen, 2⟩] ∧
      (trial.step (.complete 0 (41 * Go.second) .success)).breaker.state = .closed := by
  decide

/-- The completion time of the latest failed Call in the log. -/
def latestFailure (log : List Record) : Option Int :=
  log.foldl (fun latest r =>
    match r with
    | .done .failure now => some now
    | _ => latest) none

/-- The successful completions logged since the last trial admission. -/
def successesSinceTrial (log : List Record) : Nat :=
  log.foldl (fun n r =>
    match r with
    | .trial _ => 0
    | .done .success _ => n + 1
    | _ => n) 0

/-- How the breaker's failure time and trial successes follow from the log. -/
structure Accounts (s : System) : Prop where
  lastFailure : s.breaker.lastFailureTime = (latestFailure s.log).getD Go.zeroTime
  trialSuccesses : s.breaker.state = .halfOpen → s.breaker.successCount = successesSinceTrial s.log

@[simp] theorem latestFailure_nil : latestFailure [] = none := rfl

@[simp] theorem latestFailure_concat (log : List Record) (r : Record) :
    latestFailure (log ++ [r]) =
      match r with
      | .done .failure now => some now
      | _ => latestFailure log := by
  simp only [latestFailure, List.foldl_append, List.foldl_cons, List.foldl_nil]

@[simp] theorem successesSinceTrial_concat (log : List Record) (r : Record) :
    successesSinceTrial (log ++ [r]) =
      match r with
      | .trial _ => 0
      | .done .success _ => successesSinceTrial log + 1
      | _ => successesSinceTrial log := by
  simp only [successesSinceTrial, List.foldl_append, List.foldl_cons, List.foldl_nil]

theorem accounts_start (cfg : Config) (created : Int) : Accounts (System.start cfg created) :=
  ⟨rfl, fun hstate => by cases hstate⟩

theorem Accounts.enter {s : System} (h : Accounts s) (now : Int) :
    Accounts (s.step (.enter now)) := by
  rcases s.breaker.admission_cases now with hsame | ⟨hopen, hhalf, hzero, hfailure⟩
  · have hstate : (s.breaker.admission now).2.state = s.breaker.state := by rw [hsame]
    simp only [System.step, hstate, if_true]
    rw [hsame]
    exact ⟨h.lastFailure, h.trialSuccesses⟩
  · have hchanged : (s.breaker.admission now).2.state ≠ s.breaker.state := by
      rw [hhalf, hopen]
      decide
    refine ⟨?_, fun _ => ?_⟩
    · simp only [System.step, if_neg hchanged, latestFailure_concat, hfailure]
      exact h.lastFailure
    · simp only [System.step, if_neg hchanged, successesSinceTrial_concat, hzero]
      rfl

theorem Accounts.complete {s : System} (h : Accounts s) (i : Nat) (now : Int) (outcome : Outcome) :
    Accounts (s.step (.complete i now outcome)) := by
  by_cases hi : i < s.running.length
  · cases outcome with
    | failure =>
        refine ⟨by simp [System.step, hi], fun hhalf => ?_⟩
        simp only [System.step, if_pos hi, complete_failure, onFailure_state] at hhalf
        split at hhalf
        · cases hhalf
        · rename_i hstays
          exact absurd (Or.inl hhalf) hstays
    | success =>
        refine ⟨?_, fun hhalf => ?_⟩
        · simp only [System.step, if_pos hi, complete_success, latestFailure_concat,
            onSuccess_fields]
          exact h.lastFailure
        · simp only [System.step, if_pos hi, complete_success, onSuccess_state] at hhalf
          split at hhalf
          · cases hhalf
          · simp only [System.step, if_pos hi, complete_success, successesSinceTrial_concat,
              onSuccess_fields, hhalf, if_true, h.trialSuccesses hhalf]
            push_cast
            rfl
  · simpa [System.step, hi] using h

theorem Accounts.reset {s : System} (h : Accounts s) (now : Int) :
    Accounts (s.step (.reset now)) := by
  refine ⟨?_, fun hstate => ?_⟩
  · simp only [System.step, latestFailure_concat, reset_fields]
    exact h.lastFailure
  · simp [System.step] at hstate

theorem Accounts.step {s : System} (h : Accounts s) (a : Action) : Accounts (s.step a) := by
  cases a with
  | enter now => exact h.enter now
  | complete i now outcome => exact h.complete i now outcome
  | reset now => exact h.reset now

/-- In every interleaving of concurrent Calls and Resets from `New`, a
completion acts on the breaker as it is when `fn` returns, whenever the Call
was admitted: `lastFailureTime` is the completion time of the latest failed
Call of the run; while HalfOpen, `successCount` counts the successful
completions since the latest trial admission, of Calls admitted before it as
well as after; and a success completing while Open leaves the breaker as it
is. -/
theorem completions_act_on_current_state (cfg : Config) (created : Int) (actions : List Action) :
    let s := System.after cfg created actions
    s.breaker.lastFailureTime = (latestFailure s.log).getD Go.zeroTime ∧
      (s.breaker.state = .halfOpen → s.breaker.successCount = successesSinceTrial s.log) ∧
      (s.breaker.state = .open →
        ∀ i now, (s.step (.complete i now .success)).breaker = s.breaker) := by
  intro s
  have haccounts : Accounts s := by
    have hpreserves : Transition.Preserves System.step Accounts := fun _ a h => h.step a
    exact hpreserves.run (accounts_start cfg created) actions
  refine ⟨haccounts.lastFailure, haccounts.trialSuccesses, fun hopen i now => ?_⟩
  by_cases hi : i < s.running.length
  · simp [System.step, hi, s.breaker.onSuccess_open now hopen]
  · simp [System.step, hi]

/-- In every interleaving of the admissions and completions of concurrent
Calls with Resets, from `New`: both counters are non-negative, a Closed
breaker has fewer failures than `maxFailures` and a HalfOpen one fewer
successes than `halfOpenSuccess`; and while it is Open, no completion takes
it out of Open and an admission does only after the timeout. -/
theorem interleaving_invariant (cfg : Config) (created : Int) (actions : List Action) :
    let s := System.after cfg created actions
    Valid s.breaker ∧
      (s.breaker.state = .open →
        (∀ i now outcome, (s.step (.complete i now outcome)).breaker.state = .open) ∧
        ∀ now, (s.step (.enter now)).breaker.state ≠ .open →
          s.breaker.timeout < now - s.breaker.lastFailureTime) := by
  intro s
  have hvalid : Valid s.breaker := by
    have hpreserves : Transition.Preserves System.step (fun s => Valid s.breaker) :=
      fun s a h => s.step_valid a h
    exact hpreserves.run (valid_new cfg created) actions
  refine ⟨hvalid, fun hopen => ⟨fun i now outcome => s.step_complete_open i now outcome hopen, ?_⟩⟩
  intro now hleft
  exact s.breaker.admission_leaves_open now hopen hleft

end ApiGateway.CircuitBreaker
