import ApiGateway.Transition
import Mathlib.Data.List.Permutation

/-!
Threads that share a state and take atomic actions in an order chosen by a
scheduler. A thread is its local state; `act` gives its next action, which
reads and writes the shared state and moves the thread on, or nothing once
the thread has finished. A schedule is the list of the threads to run, one
action each, in order. A history of calls and their answers is linearizable
for a sequential operation when some order of the same calls, run one at a
time, gives every call the answer it got.
-/

namespace Interleave

variable {σ τ α ρ : Type*}

/-- Thread `i` takes its next action; a finished or absent thread leaves the
configuration as it is. -/
def schedule (act : τ → σ → Option (τ × σ)) (c : σ × List τ) (i : Nat) : σ × List τ :=
  match c.2[i]? with
  | none => c
  | some t =>
      match act t c.1 with
      | none => c
      | some (t', s') => (s', c.2.set i t')

/-- The configuration after the scheduled actions, in order. -/
def interleave (act : τ → σ → Option (τ × σ)) (c : σ × List τ) (order : List Nat) :
    σ × List τ :=
  Transition.run (schedule act) c order

/-- The invariant rule for interleavings: a property of the whole
configuration, kept by every action a listed thread takes, holds after any
schedule. -/
theorem interleave_induction {act : τ → σ → Option (τ × σ)} {inv : σ × List τ → Prop}
    (hact : ∀ s threads i t t' s', threads[i]? = some t → act t s = some (t', s') →
      inv (s, threads) → inv (s', threads.set i t'))
    {c : σ × List τ} (hc : inv c) (order : List Nat) : inv (interleave act c order) := by
  have hstep : Transition.Preserves (schedule act) inv := by
    rintro ⟨s, threads⟩ i hinv
    cases hi : threads[i]? with
    | none => simpa only [schedule, hi] using hinv
    | some t =>
        cases hat : act t s with
        | none => simpa only [schedule, hi, hat] using hinv
        | some next =>
            obtain ⟨t', s'⟩ := next
            simpa only [schedule, hi, hat] using hact s threads i t t' s' hi hat hinv
  exact hstep.run hc order

/-- The rule for a property of the shared state and one of each thread: kept
by every action of a thread that has it, they hold after any schedule. -/
theorem interleave_preserves {act : τ → σ → Option (τ × σ)} {shared : σ → Prop}
    {thread : τ → Prop}
    (hact : ∀ t s t' s', shared s → thread t → act t s = some (t', s') → shared s' ∧ thread t')
    {c : σ × List τ} (hc : shared c.1 ∧ ∀ t ∈ c.2, thread t) (order : List Nat) :
    shared (interleave act c order).1 ∧ ∀ t ∈ (interleave act c order).2, thread t := by
  refine @interleave_induction σ τ act (fun c => shared c.1 ∧ ∀ t ∈ c.2, thread t) ?_ c hc order
  rintro s threads i t t' s' hi hat ⟨hs, hthreads⟩
  obtain ⟨hs', ht'⟩ := hact t s t' s' hs (hthreads t (List.mem_of_getElem? hi)) hat
  refine ⟨hs', fun u hu => ?_⟩
  rcases List.mem_or_eq_of_mem_set hu with hu | rfl
  · exact hthreads u hu
  · exact ht'

/-- What the threads contribute to a list, when one thread that contributed
nothing takes a step: at most the new thread's part, added at the end up to
order. -/
theorem filterMap_set_perm {f : τ → Option α} {threads : List τ} {i : Nat} {t t' : τ}
    (hi : threads[i]? = some t) (ht : f t = none) :
    ((threads.set i t').filterMap f).Perm (threads.filterMap f ++ (f t').toList) := by
  obtain ⟨hlt, rfl⟩ := List.getElem?_eq_some_iff.mp hi
  have hthreads : threads = threads.take i ++ threads[i] :: threads.drop (i + 1) := by
    rw [← List.drop_eq_getElem_cons hlt, List.take_append_drop]
  have hset : threads.set i t' = threads.take i ++ t' :: threads.drop (i + 1) := by
    rw [List.set_eq_take_append_cons_drop, if_pos hlt]
  rw [hset]
  conv => rhs; rw [hthreads]
  simp only [List.filterMap_append, List.filterMap_cons, ht]
  cases hnew : f t' with
  | none => simp only [Option.toList_none, List.append_nil, List.Perm.refl]
  | some u =>
      simp only [Option.toList_some]
      exact List.perm_middle.trans (@List.perm_append_comm _ [u] _)

/-- No schedule adds or removes a thread. -/
theorem length_interleave (act : τ → σ → Option (τ × σ)) (c : σ × List τ) (order : List Nat) :
    (interleave act c order).2.length = c.2.length := by
  refine @interleave_induction σ τ act (fun c' => c'.2.length = c.2.length) ?_ c rfl order
  intro s threads i t t' s' _ _ hlength
  rw [List.length_set]
  exact hlength

/-- A count of the threads changes, when one thread takes a step, by that
thread's part only. -/
theorem countP_set_add {p : τ → Bool} {threads : List τ} {i : Nat} {t t' : τ}
    (hi : threads[i]? = some t) :
    (threads.set i t').countP p + (if p t then 1 else 0) =
      threads.countP p + (if p t' then 1 else 0) := by
  obtain ⟨hlt, rfl⟩ := List.getElem?_eq_some_iff.mp hi
  have hpart : (if p threads[i] then 1 else 0) ≤ threads.countP p := by
    split
    · exact List.countP_pos_iff.mpr ⟨_, List.getElem_mem hlt, by assumption⟩
    · exact Nat.zero_le _
  rw [List.countP_set hlt]
  omega

/-- Whether running the calls one at a time from `s`, in the order listed,
gives each the answer recorded with it. -/
def legal [DecidableEq ρ] (op : σ → α → ρ × σ) : σ → List (α × ρ) → Bool
  | _, [] => true
  | s, (a, r) :: rest => decide ((op s a).1 = r) && legal op (op s a).2 rest

/-- Some order of the calls of `history`, run one at a time from `s`, gives
every call the answer it got. -/
def Linearizable [DecidableEq ρ] (op : σ → α → ρ × σ) (s : σ) (history : List (α × ρ)) :
    Prop :=
  ∃ order, order.Perm history ∧ legal op s order = true

instance [DecidableEq α] [DecidableEq ρ] (op : σ → α → ρ × σ) (s : σ)
    (history : List (α × ρ)) : Decidable (Linearizable op s history) :=
  decidable_of_iff (∃ order ∈ history.permutations, legal op s order = true)
    (by simp only [Linearizable, List.mem_permutations])

/-- Calls that are all the same call with the same answer can only be
ordered one way. -/
theorem linearizable_replicate_iff [DecidableEq ρ] (op : σ → α → ρ × σ) (s : σ) (n : Nat)
    (x : α × ρ) :
    Linearizable op s (List.replicate n x) ↔ legal op s (List.replicate n x) = true := by
  constructor
  · rintro ⟨order, hperm, hlegal⟩
    rwa [List.perm_replicate.mp hperm] at hlegal
  · intro hlegal
    exact ⟨_, List.Perm.refl _, hlegal⟩

end Interleave
