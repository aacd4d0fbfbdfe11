import Mathlib.Data.List.Basic

/-!
A buffered Go channel as the FIFO list of the values it holds, never more
than its capacity. A send that is one case of a `select` with a `default`
case queues the value when there is room and otherwise leaves the channel
as it is; a receive takes the oldest value. Sends and receives on one
channel are atomic, so a run of them from any number of goroutines is a
sequence of these steps. The hand-off of an unbuffered channel to a waiting
receiver is not modelled: the capacity is meant to be positive.
-/

namespace Channel

variable {α : Type*}

structure Chan (α : Type*) where
  capacity : Nat
  buffer : List α
  bounded : buffer.length ≤ capacity

/-- `make(chan α, capacity)`. -/
def make (capacity : Nat) : Chan α := ⟨capacity, [], Nat.zero_le _⟩

namespace Chan

/-- `select { case c <- a: … default: … }`: whether the value was queued. -/
def trySend (c : Chan α) (a : α) : Bool × Chan α :=
  if h : c.buffer.length < c.capacity then
    (true, ⟨c.capacity, c.buffer ++ [a], by
      simp only [List.length_append, List.length_singleton]
      omega⟩)
  else (false, c)

/-- A receive that finds a value: the oldest one, and the channel without it. -/
def recv? (c : Chan α) : Option (α × Chan α) :=
  match h : c.buffer with
  | [] => none
  | a :: rest => some (a, ⟨c.capacity, rest, by
      have hlen := c.bounded
      rw [h, List.length_cons] at hlen
      omega⟩)

theorem trySend_of_lt {c : Chan α} (h : c.buffer.length < c.capacity) (a : α) :
    (c.trySend a).1 = true ∧ (c.trySend a).2.buffer = c.buffer ++ [a] := by
  simp [trySend, h]

theorem trySend_of_full {c : Chan α} (h : c.buffer.length = c.capacity) (a : α) :
    c.trySend a = (false, c) := by
  simp [trySend, h]

@[simp] theorem trySend_capacity (c : Chan α) (a : α) :
    (c.trySend a).2.capacity = c.capacity := by
  unfold trySend
  split <;> rfl

theorem recv?_eq_some {c : Chan α} {a : α} {c' : Chan α} (h : c.recv? = some (a, c')) :
    c.buffer = a :: c'.buffer := by
  unfold recv? at h
  split at h
  · cases h
  · rename_i a' rest hbuffer
    cases h
    exact hbuffer

theorem recv?_eq_none {c : Chan α} : c.recv? = none ↔ c.buffer = [] := by
  unfold recv?
  split
  · rename_i hbuffer
    simp [hbuffer]
  · rename_i a rest hbuffer
    simp [hbuffer]

end Chan

end Channel
