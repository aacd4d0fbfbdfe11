import ApiGateway.Interleave
import ApiGateway.Handler.System

/-!
`Proxy.Handle` of `internal/proxy/proxy.go` as a thread over the proxy, with
concurrent calls interleaved by `Interleave`. Each critical section is one
atomic action: the read of the healthy targets under the checker's lock, the
strategy's `Next`, the least-connections `Increment` (together with the lookup
of the target's reverse proxy, a map nothing writes, so that a target has one
exactly when it is one of the proxy's targets), the breaker's admission, its
completion, and the deferred `Decrement`, which runs on every path after the
`Increment`, a panic of the reverse proxy included. The reverse proxy's
`ServeHTTP` touches none of the proxy's state; how it ends is given per call.
-/

namespace ApiGateway

namespace Proxy

open Interleave

/-- How the reverse proxy's `ServeHTTP` ends: with the status the recorder
saw (the backend's, or the 502 of the proxy's error handler), or a panic. -/
inductive Backend where
  | responds (status : Nat)
  | panics
  deriving DecidableEq, Repr

/-- How a Handle call ends: a JSON error Handle writes, the backend's
response passed through, or a panic unwinding Handle. -/
inductive Handled where
  | replied (reply : Reply)
  | forwarded (status : Nat)
  | panicked
  deriving DecidableEq, Repr

inductive HandlePhase where
  | start
  | balancing (healthyTargets : List String)
  | selected (selectedTarget : String)
  | admitting (selectedTarget : String)
  | completing (selectedTarget : String) (status : Nat)
  | leaving (selectedTarget : String) (handled : Handled)
  | done (handled : Handled)
  deriving DecidableEq, Repr

/-- A concurrent Handle call: the answers of Random's generator, the clock
readings of the breaker's two sections, how `ServeHTTP` ends, and where the
call stands. -/
structure HandleCall where
  intn : Nat → Nat
  admitAt : Int
  doneAt : Int
  backend : Backend
  phase : HandlePhase

def HandleCall.moveTo (c : HandleCall) (phase : HandlePhase) : HandleCall :=
  { c with phase := phase }

@[simp] theorem HandleCall.moveTo_phase (c : HandleCall) (phase : HandlePhase) :
    (c.moveTo phase).phase = phase := rfl

/-- The target whose connection a call holds, from its Increment to its Decrement. -/
def HandlePhase.holding : HandlePhase → Option String
  | .admitting target | .completing target _ | .leaving target _ => some target
  | _ => none

/-- The 503 answers of Handle. -/
def unavailable (message : String) : Reply := ⟨503, [("error", message)]⟩

/-- The next atomic action of a Handle call. -/
def handleAct (c : HandleCall) (p : Proxy) : Option (HandleCall × Proxy) :=
  match c.phase with
  | .start =>
      let healthyTargets := p.getHealthyTargets
      if healthyTargets = [] then
        some (c.moveTo (.done (.replied (unavailable "No healthy backend servers available"))), p)
      else some (c.moveTo (.balancing healthyTargets), p)
  | .balancing healthyTargets =>
      let p' := { p with loadBalancer := (p.loadBalancer.next c.intn healthyTargets).2 }
      let selectedTarget := (p.loadBalancer.next c.intn healthyTargets).1
      if selectedTarget = "" then
        some (c.moveTo (.done (.replied (unavailable "Failed to select backend server"))), p')
      else some (c.moveTo (.selected selectedTarget), p')
  | .selected selectedTarget =>
      if selectedTarget ∈ p.targets then
        some (c.moveTo (.admitting selectedTarget),
          { p with loadBalancer := p.loadBalancer.increment selectedTarget })
      else some (c.moveTo (.done (.replied (unavailable "Internal server error"))), p)
  | .admitting selectedTarget =>
      let p' := { p with circuitBreaker := (p.circuitBreaker.admission c.admitAt).2 }
      if (p.circuitBreaker.admission c.admitAt).1 then
        match c.backend with
        | .responds status => some (c.moveTo (.completing selectedTarget status), p')
        | .panics => some (c.moveTo (.leaving selectedTarget .panicked), p')
      else
        some (c.moveTo (.leaving selectedTarget
          (.replied (unavailable "Service temporarily unavailable"))), p')
  | .completing selectedTarget status =>
      -- the function Call runs reports an error for a 5xx status
      let outcome := if 500 ≤ status then CircuitBreaker.Outcome.failure else .success
      some (c.moveTo (.leaving selectedTarget (.forwarded status)),
        { p with circuitBreaker := p.circuitBreaker.complete c.doneAt outcome })
  | .leaving selectedTarget handled =>
      some (c.moveTo (.done handled),
        { p with loadBalancer := p.loadBalancer.decrement selectedTarget })
  | .done _ => none

/-- The steps of Handle, one rule for each path through a critical section. -/
inductive HandleStep (c : HandleCall) (p : Proxy) : HandleCall → Proxy → Prop where
  | noHealthy (hphase : c.phase = .start) (hempty : p.getHealthyTargets = []) :
      HandleStep c p
        (c.moveTo (.done (.replied (unavailable "No healthy backend servers available")))) p
  | read (hphase : c.phase = .start) (hhealthy : p.getHealthyTargets ≠ []) :
      HandleStep c p (c.moveTo (.balancing p.getHealthyTargets)) p
  | noneSelected {healthyTargets : List String} (hphase : c.phase = .balancing healthyTargets)
      (hempty : (p.loadBalancer.next c.intn healthyTargets).1 = "") :
      HandleStep c p (c.moveTo (.done (.replied (unavailable "Failed to select backend server"))))
        { p with loadBalancer := (p.loadBalancer.next c.intn healthyTargets).2 }
  | select {healthyTargets : List String} (hphase : c.phase = .balancing healthyTargets)
      (hselected : (p.loadBalancer.next c.intn healthyTargets).1 ≠ "") :
      HandleStep c p (c.moveTo (.selected (p.loadBalancer.next c.intn healthyTargets).1))
        { p with loadBalancer := (p.loadBalancer.next c.intn healthyTargets).2 }
  | notFound {target : String} (hphase : c.phase = .selected target)
      (hmissing : target ∉ p.targets) :
      HandleStep c p (c.moveTo (.done (.replied (unavailable "Internal server error")))) p
  | increment {target : String} (hphase : c.phase = .selected target)
      (hfound : target ∈ p.targets) :
      HandleStep c p (c.moveTo (.admitting target))
        { p with loadBalancer := p.loadBalancer.increment target }
  | refused {target : String} (hphase : c.phase = .admitting target)
      (hopen : (p.circuitBreaker.admission c.admitAt).1 = false) :
      HandleStep c p
        (c.moveTo (.leaving target (.replied (unavailable "Service temporarily unavailable"))))
        { p with circuitBreaker := (p.circuitBreaker.admission c.admitAt).2 }
  | forward {target : String} {status : Nat} (hphase : c.phase = .admitting target)
      (hadmitted : (p.circuitBreaker.admission c.admitAt).1 = true)
      (hbackend : c.backend = .responds status) :
      HandleStep c p (c.moveTo (.completing target status))
        { p with circuitBreaker := (p.circuitBreaker.admission c.admitAt).2 }
  | panic {target : String} (hphase : c.phase = .admitting target)
      (hadmitted : (p.circuitBreaker.admission c.admitAt).1 = true)
      (hbackend : c.backend = .panics) :
      HandleStep c p (c.moveTo (.leaving target .panicked))
        { p with circuitBreaker := (p.circuitBreaker.admission c.admitAt).2 }
  | complete {target : String} {status : Nat} (hphase : c.phase = .completing target status) :
      HandleStep c p (c.moveTo (.leaving target (.forwarded status)))
        { p with circuitBreaker :=
            p.circuitBreaker.complete c.doneAt (if 500 ≤ status then .failure else .success) }
  | decrement {target : String} {handled : Handled} (hphase : c.phase = .leaving target handled) :
      HandleStep c p (c.moveTo (.done handled))
        { p with loadBalancer := p.loadBalancer.decrement target }

/-- Every action Handle takes is one of its rules. -/
theorem handleAct_step {c c' : HandleCall} {p p' : Proxy} (h : handleAct c p = some (c', p')) :
    HandleStep c p c' p' := by
  cases hphase : c.phase with
  | start =>
      simp only [handleAct, hphase] at h
      split_ifs at h with hempty
      · cases h
        exact .noHealthy hphase hempty
      · cases h
        exact .read hphase hempty
  | balancing healthyTargets =>
      simp only [handleAct, hphase] at h
      split_ifs at h with hempty
      · cases h
        exact .noneSelected hphase hempty
      · cases h
        exact .select hphase hempty
  | selected target =>
      simp only [handleAct, hphase] at h
      split_ifs at h with hfound
      · cases h
        exact .increment hphase hfound
      · cases h
        exact .notFound hphase hfound
  | admitting target =>
      simp only [handleAct, hphase] at h
      cases hadmitted : (p.circuitBreaker.admission c.admitAt).1 with
      | false =>
          simp only [hadmitted] at h
          cases h
          exact .refused hphase hadmitted
      | true =>
          cases hbackend : c.backend with
          | responds status =>
              simp only [hadmitted, hbackend, if_true] at h
              cases h
              exact .forward hphase hadmitted hbackend
          | panics =>
              simp only [hadmitted, hbackend, if_true] at h
              cases h
              exact .panic hphase hadmitted hbackend
  | completing target status =>
      simp only [handleAct, hphase] at h
      cases h
      exact .complete hphase
  | leaving target handled =>
      simp only [handleAct, hphase] at h
      cases h
      exact .decrement hphase
  | done handled => simp [handleAct, hphase] at h

section Steps

variable {c c' : HandleCall} {p p' : Proxy}

/-- No step of Handle writes the proxy's targets or its health checker. -/
theorem HandleStep.frame (h : HandleStep c p c' p') :
    p'.targets = p.targets ∧ p'.healthChecker = p.healthChecker := by
  cases h <;> exact ⟨rfl, rfl⟩

/-- A call is balancing only after its first step, over the healthy targets
that step read, which are some. -/
theorem HandleStep.balancing {healthyTargets : List String} (h : HandleStep c p c' p')
    (hphase' : c'.phase = .balancing healthyTargets) :
    healthyTargets = p.getHealthyTargets ∧ healthyTargets ≠ [] := by
  cases h with
  | read _ hhealthy =>
      simp only [HandleCall.moveTo_phase, HandlePhase.balancing.injEq] at hphase'
      exact ⟨hphase'.symm, hphase' ▸ hhealthy⟩
  | _ => simp at hphase'

/-- The counts balance when the balancer is left alone and the thread's
holding stays as it was. -/
theorem counts_of_holding_eq {l : LoadBalancer.LeastConnections}
    (hlb : p'.loadBalancer = .leastConnections l) (hsame : c'.phase.holding = c.phase.holding) :
    ∃ l', p'.loadBalancer = .leastConnections l' ∧ ∀ t,
      l'.connections t + (if c.phase.holding = some t then 1 else 0) =
        l.connections t + (if c'.phase.holding = some t then 1 else 0) :=
  ⟨l, hlb, fun t => by rw [hsame]⟩

/-- The Increment of the target a thread starts holding balances the counts. -/
theorem counts_of_take (l : LoadBalancer.LeastConnections) {target : String}
    (hbefore : c.phase.holding = none) (hafter : c'.phase.holding = some target) (t : String) :
    (l.increment target).connections t + (if c.phase.holding = some t then 1 else 0) =
      l.connections t + (if c'.phase.holding = some t then 1 else 0) := by
  rw [LoadBalancer.LeastConnections.increment_connections, hbefore, hafter]
  by_cases ht : t = target
  · simp [ht]
  · simp [ht, Ne.symm ht]

/-- The Decrement of the target a thread stops holding balances the counts. -/
theorem counts_of_release {l : LoadBalancer.LeastConnections} {target : String}
    (hpos : 0 < l.connections target) (hbefore : c.phase.holding = some target)
    (hafter : c'.phase.holding = none) (t : String) :
    (l.decrement target).connections t + (if c.phase.holding = some t then 1 else 0) =
      l.connections t + (if c'.phase.holding = some t then 1 else 0) := by
  rw [LoadBalancer.LeastConnections.decrement_connections hpos, hbefore, hafter]
  by_cases ht : t = target
  · subst ht
    simp only [reduceCtorEq, if_false]
    omega
  · simp [ht, Ne.symm ht]

/-- A step moves a least-connections count exactly as the calling thread
starts or stops holding it: up at the Increment, down at the Decrement,
whose guard holds as long as the count covers the thread. -/
theorem HandleStep.connections {l : LoadBalancer.LeastConnections} (h : HandleStep c p c' p')
    (hlb : p.loadBalancer = .leastConnections l)
    (hheld : ∀ t, c.phase.holding = some t → 0 < l.connections t) :
    ∃ l', p'.loadBalancer = .leastConnections l' ∧ ∀ t,
      l'.connections t + (if c.phase.holding = some t then 1 else 0) =
        l.connections t + (if c'.phase.holding = some t then 1 else 0) := by
  cases h with
  | noHealthy hphase _ => exact counts_of_holding_eq hlb (by simp [hphase, HandlePhase.holding])
  | read hphase _ => exact counts_of_holding_eq hlb (by simp [hphase, HandlePhase.holding])
  | noneSelected hphase _ =>
      exact counts_of_holding_eq (by simp [hlb, LoadBalancer.Strategy.next])
        (by simp [hphase, HandlePhase.holding])
  | select hphase _ =>
      exact counts_of_holding_eq (by simp [hlb, LoadBalancer.Strategy.next])
        (by simp [hphase, HandlePhase.holding])
  | notFound hphase _ => exact counts_of_holding_eq hlb (by simp [hphase, HandlePhase.holding])
  | @increment target hphase _ =>
      exact ⟨l.increment target, by simp [hlb, LoadBalancer.Strategy.increment],
        counts_of_take l (by simp [hphase, HandlePhase.holding]) (by simp [HandlePhase.holding])⟩
  | refused hphase _ => exact counts_of_holding_eq hlb (by simp [hphase, HandlePhase.holding])
  | forward hphase _ _ => exact counts_of_holding_eq hlb (by simp [hphase, HandlePhase.holding])
  | panic hphase _ _ => exact counts_of_holding_eq hlb (by simp [hphase, HandlePhase.holding])
  | complete hphase => exact counts_of_holding_eq hlb (by simp [hphase, HandlePhase.holding])
  | @decrement target handled hphase =>
      have hholds : c.phase.holding = some target := by simp [hphase, HandlePhase.holding]
      exact ⟨l.decrement target, by simp [hlb, LoadBalancer.Strategy.decrement],
        counts_of_release (hheld target hholds) hholds (by simp [HandlePhase.holding])⟩

end Steps

/-- The calls that hold a connection of `target`. -/
def holders (calls : List HandleCall) (target : String) : Nat :=
  calls.countP fun c => c.phase.holding = some target

/-- What every configuration of Handle calls on a least-connections proxy
keeps, from the proxy `p₀` they started on. -/
structure Handling (p₀ : Proxy) (config : Proxy × List HandleCall) : Prop where
  targets : config.1.targets = p₀.targets
  checker : config.1.healthChecker = p₀.healthChecker
  counts : ∃ l, config.1.loadBalancer = .leastConnections l ∧
    ∀ t, l.connections t = holders config.2 t
  balancing : ∀ c ∈ config.2, ∀ healthyTargets, c.phase = .balancing healthyTargets →
    healthyTargets = p₀.getHealthyTargets ∧ healthyTargets ≠ []

theorem holders_pos {calls : List HandleCall} {c : HandleCall} {target : String} (hc : c ∈ calls)
    (hholds : c.phase.holding = some target) : 0 < holders calls target :=
  List.countP_pos_iff.mpr ⟨c, hc, by simpa using hholds⟩

/-- The holders change, when one thread takes a step, by that thread's part. -/
theorem holders_set {threads : List HandleCall} {i : Nat} {c c' : HandleCall}
    (hi : threads[i]? = some c) (target : String) :
    holders (threads.set i c') target + (if c.phase.holding = some target then 1 else 0) =
      holders threads target + (if c'.phase.holding = some target then 1 else 0) := by
  have h : (threads.set i c').countP (fun c => decide (c.phase.holding = some target)) +
      (if decide (c.phase.holding = some target) then 1 else 0) =
        threads.countP (fun c => decide (c.phase.holding = some target)) +
          (if decide (c'.phase.holding = some target) then 1 else 0) :=
    countP_set_add hi
  simpa only [holders, decide_eq_true_eq] using h

/-- One step of one thread keeps `Handling`. -/
theorem Handling.step {p₀ s s' : Proxy} {threads : List HandleCall} {i : Nat}
    {c c' : HandleCall} (hi : threads[i]? = some c) (hact : handleAct c s = some (c', s'))
    (hinv : Handling p₀ (s, threads)) : Handling p₀ (s', threads.set i c') := by
  have hstep := handleAct_step hact
  have hmem : c ∈ threads := List.mem_of_getElem? hi
  obtain ⟨htargets, hchecker⟩ := hstep.frame
  obtain ⟨l, hlb, hcounts⟩ := hinv.counts
  have hheld : ∀ t, c.phase.holding = some t → 0 < l.connections t := by
    intro t ht
    rw [hcounts t]
    exact_mod_cast holders_pos hmem ht
  obtain ⟨l', hlb', hmove⟩ := hstep.connections hlb hheld
  refine ⟨htargets.trans hinv.targets, hchecker.trans hinv.checker, ⟨l', hlb', fun t => ?_⟩, ?_⟩
  · show l'.connections t = holders (threads.set i c') t
    have hcount : l.connections t = holders threads t := hcounts t
    have hset : ((holders (threads.set i c') t : Nat) : Int) +
        (if c.phase.holding = some t then 1 else 0) =
          holders threads t + (if c'.phase.holding = some t then 1 else 0) := by
      exact_mod_cast holders_set hi t
    have hmove' := hmove t
    rw [hcount] at hmove'
    omega
  · intro u hu healthyTargets hphase
    rcases List.mem_or_eq_of_mem_set hu with hu | rfl
    · exact hinv.balancing u hu healthyTargets hphase
    · obtain ⟨heq, hne⟩ := hstep.balancing hphase
      have hcheck : s.healthChecker = p₀.healthChecker := hinv.checker
      refine ⟨heq.trans ?_, hne⟩
      simp only [getHealthyTargets, hcheck]

/-- Fresh calls on a least-connections proxy without connections. -/
theorem handling_start {p : Proxy}
    (hlb : p.loadBalancer = .leastConnections LoadBalancer.newLeastConnections)
    {calls : List HandleCall} (hfresh : ∀ c ∈ calls, c.phase = .start) : Handling p (p, calls) := by
  refine ⟨rfl, rfl, ⟨_, hlb, fun t => ?_⟩, fun c hc healthyTargets hphase => ?_⟩
  · have hnone : holders calls t = 0 := by
      refine List.countP_eq_zero.mpr fun c hc => ?_
      simp [hfresh c hc, HandlePhase.holding]
    rw [hnone]
    rfl
  · rw [hfresh c hc] at hphase
    cases hphase

/-- `Handling` holds after any schedule of the calls. -/
theorem handling_interleave {p : Proxy}
    (hlb : p.loadBalancer = .leastConnections LoadBalancer.newLeastConnections)
    {calls : List HandleCall} (hfresh : ∀ c ∈ calls, c.phase = .start) (order : List Nat) :
    Handling p (interleave handleAct (p, calls) order) :=
  interleave_induction (fun _ _ _ _ _ _ hi hact hinv => hinv.step hi hact)
    (handling_start hlb hfresh) order

/-- Least connections under concurrent Handle calls, on a proxy whose
targets are non-empty strings, in any schedule: each target's count is the
number of calls past their Increment of it and not yet past their
Decrement, so no count is negative, no Decrement finds its guard false, and
every count is zero once every call has returned. A call selects its target
with `Next` on these counts, and so on the first target, in list order,
with the least of them. -/
theorem handle_connections_count_holders (p : Proxy)
    (hlb : p.loadBalancer = .leastConnections LoadBalancer.newLeastConnections)
    (hhealthy : p.getHealthyTargets.Sublist p.targets) (hnames : "" ∉ p.targets)
    (calls : List HandleCall) (hfresh : ∀ c ∈ calls, c.phase = .start) (order : List Nat) :
    ∃ l, (interleave handleAct (p, calls) order).1.loadBalancer = .leastConnections l ∧
      (∀ t, l.connections t = holders (interleave handleAct (p, calls) order).2 t) ∧
      (∀ t, 0 ≤ l.connections t) ∧
      (∀ c ∈ (interleave handleAct (p, calls) order).2, ∀ t handled,
        c.phase = .leaving t handled → 0 < l.connections t) ∧
      ((∀ c ∈ (interleave handleAct (p, calls) order).2, ∃ handled, c.phase = .done handled) →
        ∀ t, l.connections t = 0) ∧
      (calls.length < LoadBalancer.maxInt →
        ∀ c ∈ (interleave handleAct (p, calls) order).2, ∀ healthyTargets,
          c.phase = .balancing healthyTargets →
            healthyTargets.argmin l.connections = some (l.next healthyTargets)) := by
  have hinv := handling_interleave hlb hfresh order
  obtain ⟨l, hlb', hcounts⟩ := hinv.counts
  refine ⟨l, hlb', hcounts, fun t => ?_, fun c hc t handled hphase => ?_, fun hdone t => ?_,
    fun hbound c hc healthyTargets hphase => ?_⟩
  · rw [hcounts t]
    exact Int.natCast_nonneg _
  · rw [hcounts t]
    exact_mod_cast holders_pos hc (by simp [hphase, HandlePhase.holding])
  · have hnone : holders (interleave handleAct (p, calls) order).2 t = 0 := by
      refine List.countP_eq_zero.mpr fun c hc => ?_
      obtain ⟨handled, hphase⟩ := hdone c hc
      simp [hphase, HandlePhase.holding]
    rw [hcounts t, hnone]
    rfl
  · obtain ⟨heq, hne⟩ := hinv.balancing c hc healthyTargets hphase
    have hnames' : "" ∉ healthyTargets := fun hmem => hnames (hhealthy.subset (heq ▸ hmem))
    have hcount : ∀ t ∈ healthyTargets, l.connections t < LoadBalancer.maxInt := by
      intro t _
      have hle : holders (interleave handleAct (p, calls) order).2 t ≤ calls.length := by
        rw [← length_interleave handleAct (p, calls) order]
        exact List.countP_le_length
      rw [hcounts t]
      omega
    exact l.next_eq_argmin hne hnames' hcount

/-- A least-connections proxy over two targets that its checker holds healthy. -/
def twoTargetProxy : Proxy where
  targets := ["http://a:8080", "http://b:8080"]
  circuitBreaker := CircuitBreaker.new ⟨5, 30 * Go.second, 1⟩ 0
  loadBalancer := .leastConnections LoadBalancer.newLeastConnections
  healthChecker :=
    { HealthCheck.newChecker ⟨["http://a:8080", "http://b:8080"], "/health", 10 * Go.second,
        5 * Go.second, 3⟩ with healthyTargets := ["http://a:8080", "http://b:8080"] }

/-- A call to a backend that answers 200. -/
def okCall : HandleCall := ⟨fun _ => 0, 0, 0, .responds 200, .start⟩

theorem handle_connections_two_calls :
    twoTargetProxy.loadBalancer = .leastConnections LoadBalancer.newLeastConnections ∧
      twoTargetProxy.getHealthyTargets.Sublist twoTargetProxy.targets ∧
      "" ∉ twoTargetProxy.targets ∧ (∀ c ∈ [okCall, okCall], c.phase = .start) ∧
      ∃ l, (interleave handleAct (twoTargetProxy, [okCall, okCall])
          [0, 0, 1, 1, 0, 0]).1.loadBalancer = .leastConnections l ∧
        ∀ t, l.connections t = holders (interleave handleAct (twoTargetProxy, [okCall, okCall])
          [0, 0, 1, 1, 0, 0]).2 t :=
  ⟨rfl, by decide, by decide, by decide,
    (handle_connections_count_holders twoTargetProxy rfl (by decide) (by decide) [okCall, okCall]
      (by decide) [0, 0, 1, 1, 0, 0]).imp fun _ h => ⟨h.1, h.2.1⟩⟩

/-- `Next` and `Increment` are separate critical sections. Two calls that
both run `Next` before either runs its `Increment` both select the first
target, the second while the first is already bound for it and the other
target has no call; both have selected it and neither has returned, yet its
count is still zero. -/
theorem next_before_increment_uncounted :
    (interleave handleAct (twoTargetProxy, [okCall, okCall]) [0, 0, 1, 1]).2.map (·.phase) =
        [.selected "http://a:8080", .selected "http://a:8080"] ∧
      (interleave handleAct (twoTargetProxy, [okCall, okCall]) [0, 0, 1, 1]).1.loadBalancer =
        .leastConnections LoadBalancer.newLeastConnections :=
  ⟨by decide +kernel, rfl⟩

end Proxy

end ApiGateway
