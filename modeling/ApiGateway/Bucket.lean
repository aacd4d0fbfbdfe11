import ApiGateway.Transition
import Mathlib.Algebra.Order.Field.Basic
import Mathlib.Tactic.Linarith
import Mathlib.Tactic.Ring

/-!
The token bucket as an ideal algorithm over an ordered field. A bucket
holds at most `capacity` tokens and gains `rate` tokens per unit of time up
to that cap; a request at time `t` first refills the bucket for the time
since the last one and is admitted when a whole token can be taken. Along
any run at non-decreasing times from a bucket holding between none and
`capacity` tokens, the level stays in that range and the requests admitted
at times in an interval `[a, b]` number at most `capacity + rate * (b - a)`.
-/

namespace Bucket

@[ext] structure State (α : Type*) where
  level : α
  last : α

variable {α : Type*} [Field α] [LinearOrder α]

section Step

variable (capacity rate : α)

def refill (s : State α) (t : α) : State α :=
  ⟨min (s.level + (t - s.last) * rate) capacity, t⟩

def take (s : State α) : Bool × State α :=
  if 1 ≤ s.level then (true, ⟨s.level - 1, s.last⟩) else (false, s)

def step (s : State α) (t : α) : Bool × State α :=
  take (refill capacity rate s t)

/-- The level lies between empty and full. -/
def Bounded (s : State α) : Prop :=
  0 ≤ s.level ∧ s.level ≤ capacity

@[simp] theorem refill_last (s : State α) (t : α) : (refill capacity rate s t).last = t := rfl

theorem refill_level_le (s : State α) (t : α) : (refill capacity rate s t).level ≤ capacity :=
  min_le_right _ _

theorem refill_level_le_add (s : State α) (t : α) :
    (refill capacity rate s t).level ≤ s.level + (t - s.last) * rate :=
  min_le_left _ _

/-- A bucket whose refill reaches the capacity is full. -/
theorem refill_eq_full {s : State α} {t : α} (hfill : capacity ≤ s.level + (t - s.last) * rate) :
    refill capacity rate s t = ⟨capacity, t⟩ :=
  State.ext (min_eq_right hfill) rfl

@[simp] theorem take_last (s : State α) : (take s).2.last = s.last := by
  unfold take
  split <;> rfl

@[simp] theorem step_last (s : State α) (t : α) : (step capacity rate s t).2.last = t := by
  simp [step]

/-- A take admits exactly when there is a whole token, and then removes it. -/
theorem take_cases (s : State α) :
    (1 ≤ s.level ∧ take s = (true, ⟨s.level - 1, s.last⟩)) ∨
      (s.level < 1 ∧ take s = (false, s)) := by
  by_cases hone : 1 ≤ s.level
  · exact .inl ⟨hone, if_pos hone⟩
  · exact .inr ⟨lt_of_not_ge hone, if_neg hone⟩

/-- The admitted token and the tokens left add up to the tokens before. -/
theorem take_conserves (s : State α) :
    ((take s).1.toNat : α) + (take s).2.level = s.level := by
  rcases take_cases s with ⟨-, h⟩ | ⟨-, h⟩ <;> simp [h]

theorem step_conserves (s : State α) (t : α) :
    ((step capacity rate s t).1.toNat : α) + (step capacity rate s t).2.level =
      (refill capacity rate s t).level :=
  take_conserves _

variable [IsStrictOrderedRing α]

theorem take_level_nonneg {s : State α} (hs : 0 ≤ s.level) : 0 ≤ (take s).2.level := by
  rcases take_cases s with ⟨hone, h⟩ | ⟨-, h⟩ <;> rw [h]
  · simp only
    linarith
  · exact hs

theorem take_level_le (s : State α) : (take s).2.level ≤ s.level := by
  have h := take_conserves s
  have hnonneg : (0 : α) ≤ ((take s).1.toNat : α) := Nat.cast_nonneg _
  linarith

/-- A time `d` in which the rate makes up the whole capacity, once elapsed,
fills any bucket that is not in debt. -/
theorem full_of_elapsed {s : State α} {t d : α} (hrate : 0 ≤ rate)
    (hlevel : 0 ≤ s.level) (hcapacity : capacity ≤ rate * d) (hd : d ≤ t - s.last) :
    capacity ≤ s.level + (t - s.last) * rate := by
  have hgrow : rate * d ≤ (t - s.last) * rate := by
    rw [mul_comm]
    exact mul_le_mul_of_nonneg_right hd hrate
  linarith

end Step

section Bounds

variable [IsStrictOrderedRing α] {capacity rate : α} (hcapacity : 0 ≤ capacity)
  (hrate : 0 ≤ rate)
include hcapacity hrate

theorem refill_bounded {s : State α} {t : α} (hs : Bounded capacity s) (ht : s.last ≤ t) :
    Bounded capacity (refill capacity rate s t) := by
  have hgain : 0 ≤ (t - s.last) * rate := mul_nonneg (by linarith) hrate
  exact ⟨le_min (by linarith [hs.1]) hcapacity, refill_level_le capacity rate s t⟩

/-- A step at a time no earlier than the last keeps the level in range. -/
theorem step_bounded {s : State α} {t : α} (hs : Bounded capacity s) (ht : s.last ≤ t) :
    Bounded capacity (step capacity rate s t).2 := by
  have hrefill := refill_bounded hcapacity hrate hs ht
  exact ⟨take_level_nonneg hrefill.1, (take_level_le _).trans hrefill.2⟩

/-- The level stays in range along every run at non-decreasing times that
start no earlier than the last refill. -/
theorem bounded_after {s : State α} (hs : Bounded capacity s) (times : List α)
    (hlater : ∀ t ∈ times, s.last ≤ t) (hsorted : times.Pairwise (· ≤ ·)) :
    Bounded capacity (Transition.after (step capacity rate) s times) := by
  induction times generalizing s with
  | nil => exact hs
  | cons t rest ih =>
      rw [List.pairwise_cons] at hsorted
      have hstep := step_bounded hcapacity hrate hs (hlater t List.mem_cons_self)
      exact ih hstep (fun t' ht' => by rw [step_last]; exact hsorted.1 t' ht') hsorted.2

end Bounds

section Window

/-! The admission bound. For a window `[a, b]`, the count `n` of requests
admitted in it so far is tied to the state by `WindowInv`: nothing is
counted before the window opens; while it is open, the count and the level
together are at most the capacity plus what has flowed in since `a`; once it
has closed, the count alone is within the bound. -/

variable (capacity rate : α) (a b : α)

/-- Whether an answer at a time is an admission within `[a, b]`. -/
def admitsIn (p : α × Bool) : Bool :=
  p.2 && decide (a ≤ p.1 ∧ p.1 ≤ b)

/-- The requests at the given times, answered in order, admitted within `[a, b]`. -/
def admittedIn (times : List α) (answers : List Bool) : ℕ :=
  (times.zip answers).countP (admitsIn a b)

def WindowInv (n : ℕ) (s : State α) : Prop :=
  (s.last < a → n = 0) ∧
    (a ≤ s.last → s.last ≤ b → (n : α) + s.level ≤ capacity + rate * (s.last - a)) ∧
    (b < s.last → (n : α) ≤ capacity + rate * (b - a))

variable [IsStrictOrderedRing α] {capacity rate a b} (hcapacity : 0 ≤ capacity)
  (hrate : 0 ≤ rate) (hab : a ≤ b)
include hcapacity hrate hab

theorem windowInv_start {s : State α} (hs : Bounded capacity s) :
    WindowInv capacity rate a b 0 s := by
  refine ⟨fun _ => rfl, fun hlast _ => ?_, fun _ => ?_⟩
  · have hgain : 0 ≤ rate * (s.last - a) := mul_nonneg hrate (by linarith)
    simp only [Nat.cast_zero, zero_add]
    linarith [hs.2]
  · have hgain : 0 ≤ rate * (b - a) := mul_nonneg hrate (by linarith)
    simp only [Nat.cast_zero]
    linarith

/-- The count is within the bound, whatever side of the window the state is on. -/
theorem WindowInv.count_le {n : ℕ} {s : State α} (hs : Bounded capacity s)
    (hinv : WindowInv capacity rate a b n s) : (n : α) ≤ capacity + rate * (b - a) := by
  have hgain : 0 ≤ rate * (b - a) := mul_nonneg hrate (by linarith)
  rcases lt_or_ge s.last a with hbefore | hafter
  · rw [hinv.1 hbefore, Nat.cast_zero]
    linarith
  rcases le_or_gt s.last b with hopen | hclosed
  · have hsum := hinv.2.1 hafter hopen
    have hless : rate * (s.last - a) ≤ rate * (b - a) :=
      mul_le_mul_of_nonneg_left (by linarith) hrate
    linarith [hs.1]
  · exact hinv.2.2 hclosed

omit hcapacity hab in
/-- One step at a time `t` inside the window: the count and the level after
it are at most what the window allows at `t`. -/
theorem windowInv_step_open {n : ℕ} {s : State α} {t : α}
    (hinv : WindowInv capacity rate a b n s) (ht : s.last ≤ t) (hta : a ≤ t) (htb : t ≤ b) :
    (n : α) + (refill capacity rate s t).level ≤ capacity + rate * (t - a) := by
  rcases lt_or_ge s.last a with hbefore | hafter
  · have hgain : 0 ≤ rate * (t - a) := mul_nonneg hrate (by linarith)
    rw [hinv.1 hbefore, Nat.cast_zero, zero_add]
    linarith [refill_level_le capacity rate s t]
  · have hsum := hinv.2.1 hafter (by linarith)
    have hflow := refill_level_le_add capacity rate s t
    calc (n : α) + (refill capacity rate s t).level
        ≤ (n : α) + s.level + (t - s.last) * rate := by linarith
      _ ≤ capacity + rate * (s.last - a) + (t - s.last) * rate := by linarith
      _ = capacity + rate * (t - a) := by ring

theorem windowInv_step {n : ℕ} {s : State α} {t : α} (hs : Bounded capacity s)
    (hinv : WindowInv capacity rate a b n s) (ht : s.last ≤ t) :
    WindowInv capacity rate a b (n + if admitsIn a b (t, (step capacity rate s t).1) then 1 else 0)
      (step capacity rate s t).2 := by
  have hconserve := step_conserves capacity rate s t
  unfold WindowInv
  rw [step_last]
  by_cases hin : a ≤ t ∧ t ≤ b
  · have hcount : ((if admitsIn a b (t, (step capacity rate s t).1) then 1 else 0 : ℕ) : α) =
        ((step capacity rate s t).1.toNat : α) := by
      cases (step capacity rate s t).1 <;> simp [admitsIn, hin]
    have hopen := windowInv_step_open hrate hinv ht hin.1 hin.2
    refine ⟨fun h => absurd hin.1 (not_le.mpr h), fun _ _ => ?_,
      fun h => absurd hin.2 (not_le.mpr h)⟩
    rw [Nat.cast_add, hcount]
    linarith
  · have hcount : (if admitsIn a b (t, (step capacity rate s t).1) then 1 else 0) = 0 := by
      simp [admitsIn, hin]
    rw [hcount, Nat.add_zero]
    rcases lt_or_ge t a with hbefore | hafter
    · exact ⟨fun _ => hinv.1 (lt_of_le_of_lt ht hbefore), fun h => absurd h (not_le.mpr hbefore),
        fun h => absurd (lt_of_le_of_lt hab h) (not_lt.mpr hbefore.le)⟩
    · have hclosed : b < t := lt_of_not_ge fun h => hin ⟨hafter, h⟩
      exact ⟨fun h => absurd hafter (not_le.mpr h), fun _ h => absurd hclosed (not_lt.mpr h),
        fun _ => hinv.count_le hcapacity hrate hab hs⟩

/-- The window invariant along a whole run at non-decreasing times that
start no earlier than the state's last refill. -/
theorem windowInv_run (times : List α) :
    ∀ {n : ℕ} {s : State α}, Bounded capacity s → WindowInv capacity rate a b n s →
      (∀ t ∈ times, s.last ≤ t) → times.Pairwise (· ≤ ·) →
      WindowInv capacity rate a b
        (n + admittedIn a b times (Transition.outputs (step capacity rate) s times))
        (Transition.after (step capacity rate) s times) := by
  induction times with
  | nil => intro n s _ hinv _ _; exact hinv
  | cons t rest ih =>
      intro n s hs hinv hlater hsorted
      rw [List.pairwise_cons] at hsorted
      have hstep := windowInv_step hcapacity hrate hab hs hinv (hlater t List.mem_cons_self)
      have hrest := ih (step_bounded hcapacity hrate hs (hlater t List.mem_cons_self)) hstep
        (fun t' ht' => by rw [step_last]; exact hsorted.1 t' ht') hsorted.2
      simp only [Transition.outputs, Transition.after_cons, admittedIn, List.zip_cons_cons,
        List.countP_cons] at hrest ⊢
      rwa [Nat.add_comm (List.countP _ _), ← Nat.add_assoc]

/-- The token-bucket bound: along any run at non-decreasing times from a
bucket in range, at most `capacity + rate * (b - a)` requests at times in
`[a, b]` are admitted. -/
theorem admittedIn_le {s : State α} (hs : Bounded capacity s) (times : List α)
    (hlater : ∀ t ∈ times, s.last ≤ t) (hsorted : times.Pairwise (· ≤ ·)) :
    (admittedIn a b times (Transition.outputs (step capacity rate) s times) : α) ≤
      capacity + rate * (b - a) := by
  have hinv := windowInv_run hcapacity hrate hab times hs
    (windowInv_start hcapacity hrate hab hs) hlater hsorted
  rw [Nat.zero_add] at hinv
  exact hinv.count_le hcapacity hrate hab (bounded_after hcapacity hrate hs times hlater hsorted)

end Window

end Bucket
