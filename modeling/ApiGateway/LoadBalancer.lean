import Mathlib
import ApiGateway.Transition

/-!
The load-balancing strategies of `internal/loadbalancer` and `NewStrategy`,
which picks one by name. `Next` is given the targets to choose among, which
the proxy takes from the health checker's healthy list at each request.
Round robin's counter is a Go `int` taken unbounded: it only grows, by one a
call. `Random` is given the answers of its generator's `Intn`.
-/

namespace ApiGateway.LoadBalancer

structure RoundRobin where
  current : Nat

def newRoundRobin : RoundRobin := ⟨0⟩

def RoundRobin.next (r : RoundRobin) (targets : List String) : String × RoundRobin :=
  if h : targets.length = 0 then ("", r)
  else (targets.get ⟨r.current % targets.length, Nat.mod_lt _ (Nat.pos_of_ne_zero h)⟩,
    ⟨r.current + 1⟩)

/-- `Random.Next`, `intn n` being the generator's `Intn(n)`. -/
def Random.next (intn : Nat → Nat) (targets : List String) : String :=
  if targets.length = 0 then "" else targets.getD (intn targets.length) ""

/-- The in-flight counts of `LeastConnections`, a missing target counting zero. -/
structure LeastConnections where
  connections : String → Int

def newLeastConnections : LeastConnections := ⟨fun _ => 0⟩

/-- `int(^uint(0) >> 1)`, the largest `int`. -/
def maxInt : Int := 2 ^ 63 - 1

namespace LeastConnections

/-- The loop of `Next`: a target replaces the one selected when its count is
strictly below the least seen so far. -/
def scan (connections : String → Int) : List String → String × Int → String × Int
  | [], acc => acc
  | target :: rest, (selected, minConn) =>
      let conn := connections target
      scan connections rest (if conn < minConn then (target, conn) else (selected, minConn))

/-- `LeastConnections.Next`: the first target with the least count, or the
first target when the scan selected none. -/
def next (l : LeastConnections) : List String → String
  | [] => ""
  | first :: rest =>
      let selected := (scan l.connections (first :: rest) ("", maxInt)).1
      if selected = "" then first else selected

def increment (l : LeastConnections) (target : String) : LeastConnections :=
  ⟨Function.update l.connections target (l.connections target + 1)⟩

def decrement (l : LeastConnections) (target : String) : LeastConnections :=
  if l.connections target > 0 then
    ⟨Function.update l.connections target (l.connections target - 1)⟩
  else l

end LeastConnections

inductive Strategy where
  | roundRobin (r : RoundRobin)
  | random
  | leastConnections (l : LeastConnections)

namespace Strategy

/-- `Next` of the strategy; Random is given its generator's answers `intn`. -/
def next (intn : Nat → Nat) : Strategy → List String → String × Strategy
  | .roundRobin r, targets => ((r.next targets).1, .roundRobin (r.next targets).2)
  | .random, targets => (Random.next intn targets, .random)
  | .leastConnections l, targets => (l.next targets, .leastConnections l)

/-- The `Increment` Handle makes when the strategy is least connections. -/
def increment : Strategy → String → Strategy
  | .leastConnections l, target => .leastConnections (l.increment target)
  | s, _ => s

/-- The deferred `Decrement` of Handle. -/
def decrement : Strategy → String → Strategy
  | .leastConnections l, target => .leastConnections (l.decrement target)
  | s, _ => s

end Strategy

def Strategy.name : Strategy → String
  | .roundRobin _ => "round_robin"
  | .random => "random"
  | .leastConnections _ => "least_connections"

def newStrategy (strategyName : String) : Except String Strategy :=
  match strategyName with
  | "round-robin" | "round_robin" | "" => .ok (.roundRobin newRoundRobin)
  | "random" => .ok .random
  | "least-connection" | "least_connections" => .ok (.leastConnections newLeastConnections)
  | _ => .error ("unknown load balancing strategy: " ++ strategyName)

namespace LeastConnections

theorem increment_connections (l : LeastConnections) (target other : String) :
    (l.increment target).connections other =
      l.connections other + if other = target then 1 else 0 := by
  by_cases h : other = target
  · subst h
    simp [increment]
  · simp [increment, h]

/-- A Decrement of a target that holds a connection takes exactly one off it. -/
theorem decrement_connections {l : LeastConnections} {target : String}
    (hpos : 0 < l.connections target) (other : String) :
    (l.decrement target).connections other =
      l.connections other - if other = target then 1 else 0 := by
  by_cases h : other = target
  · subst h
    simp [decrement, hpos]
  · simp [decrement, hpos, h]

/-- The accumulator of the scan for the target `argmin` has chosen so far:
none yet, or a target with its count. -/
def accOf (connections : String → Int) : Option String → String × Int
  | none => ("", maxInt)
  | some target => (target, connections target)

/-- The scan is Mathlib's `argmin` fold, as long as every count is below the
largest `int` it starts from. -/
theorem scan_accOf (connections : String → Int) (targets : List String)
    (hbound : ∀ t ∈ targets, connections t < maxInt) (chosen : Option String) :
    scan connections targets (accOf connections chosen) =
      accOf connections (targets.foldl (List.argAux fun b c => connections b < connections c)
        chosen) := by
  induction targets generalizing chosen with
  | nil => rfl
  | cons target rest ih =>
      have hrest : ∀ t ∈ rest, connections t < maxInt :=
        fun t ht => hbound t (List.mem_cons_of_mem target ht)
      have htarget := hbound target List.mem_cons_self
      cases chosen with
      | none =>
          show scan connections rest
              (if connections target < maxInt then (target, connections target) else ("", maxInt)) =
            accOf connections (rest.foldl _ (some target))
          rw [if_pos htarget]
          exact ih hrest (some target)
      | some current =>
          show scan connections rest
              (if connections target < connections current then (target, connections target)
                else (current, connections current)) =
            accOf connections (rest.foldl _
              (if connections target < connections current then some target else some current))
          by_cases hless : connections target < connections current
          · rw [if_pos hless, if_pos hless]
            exact ih hrest (some target)
          · rw [if_neg hless, if_neg hless]
            exact ih hrest (some current)

/-- `Next` returns the first target, in list order, with the least count:
Mathlib's `argmin`, when no target is the empty string and every count is
below the largest `int`. -/
theorem next_eq_argmin (l : LeastConnections) {targets : List String} (hne : targets ≠ [])
    (hnames : "" ∉ targets) (hbound : ∀ t ∈ targets, l.connections t < maxInt) :
    targets.argmin l.connections = some (l.next targets) := by
  obtain ⟨first, rest, rfl⟩ := List.exists_cons_of_ne_nil hne
  have hsome : (first :: rest).argmin l.connections ≠ none :=
    fun h => List.cons_ne_nil first rest (List.argmin_eq_none.mp h)
  obtain ⟨chosen, hchosen⟩ := Option.ne_none_iff_exists'.mp hsome
  have hscan := scan_accOf l.connections (first :: rest) hbound none
  have hselected : (scan l.connections (first :: rest) ("", maxInt)).1 = chosen := by
    rw [show ("", maxInt) = accOf l.connections none from rfl, hscan]
    rw [show List.foldl (List.argAux fun b c => l.connections b < l.connections c) none
        (first :: rest) = List.argmin l.connections (first :: rest) from rfl, hchosen]
    rfl
  have hnonempty : chosen ≠ "" := fun h => hnames (h ▸ List.argmin_mem hchosen)
  simp only [next, hselected, if_neg hnonempty, hchosen]

end LeastConnections

namespace RoundRobin

theorem next_of_ne_nil (r : RoundRobin) {targets : List String} (h : targets ≠ []) :
    r.next targets = (targets.get ⟨r.current % targets.length,
      Nat.mod_lt _ (List.length_pos_iff.mpr h)⟩, ⟨r.current + 1⟩) := by
  have hlen : targets.length ≠ 0 := by simpa using h
  simp [next, hlen]

/-- `k` calls over the same targets return the targets from the counter on,
cyclically. -/
theorem outputs_replicate (r : RoundRobin) {targets : List String} (h : targets ≠ []) (k : Nat) :
    Transition.outputs (fun r targets => r.next targets) r (List.replicate k targets) =
      (List.range k).map fun j => targets.get ⟨(r.current + j) % targets.length,
        Nat.mod_lt _ (List.length_pos_iff.mpr h)⟩ := by
  induction k generalizing r with
  | zero => rfl
  | succ k ih =>
      rw [List.replicate_succ, Transition.outputs, next_of_ne_nil r h, ih, List.range_succ_eq_map,
        List.map_cons, List.map_map]
      congr 1
      apply List.map_congr_left
      intro j _
      have hidx : r.current + 1 + j = r.current + (j + 1) := by omega
      simp only [Function.comp_apply, Nat.succ_eq_add_one, hidx]

/-- Round robin is fair over every full cycle: as many consecutive calls over
the same targets as there are targets return the list rotated to the
counter, every target as often as it is listed. -/
theorem outputs_cycle (r : RoundRobin) (targets : List String) :
    Transition.outputs (fun r targets => r.next targets) r
        (List.replicate targets.length targets) =
      targets.rotate (r.current % targets.length) := by
  by_cases h : targets = []
  · subst h
    rfl
  · rw [outputs_replicate r h]
    apply List.ext_getElem
    · simp
    · intro j h₁ h₂
      simp only [List.getElem_map, List.getElem_range, List.get_eq_getElem, List.getElem_rotate]
      congr 1
      rw [Nat.add_mod_mod, Nat.add_comm]

example : Transition.outputs (fun (r : RoundRobin) targets => r.next targets) ⟨4⟩
    (List.replicate 3 ["a", "b", "c"]) = ["b", "c", "a"] := by decide

end RoundRobin

end ApiGateway.LoadBalancer
