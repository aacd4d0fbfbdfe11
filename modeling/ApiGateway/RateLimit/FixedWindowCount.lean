import Mathlib
import ApiGateway.RateLimit.Concurrency

/-!
The fixed window keeps its limit under concurrency. Allow's INCR is atomic,
so the calls that count in one window's counter get distinct counts, and
only those that count at most the limit are admitted. The counter is not
reset within its window: its TTL is set after the window's first INCR, to
one window length from that call's reading, and every reading of the same
window comes before that. So when each call's INCR and EXPIRE run at its
reading, under every schedule of concurrent calls at most `limit` of the
calls with readings in one window are admitted. Readings are taken from the
Unix epoch on, and the window is at least a second, as every caller of
NewLimiter passes a minute. An INCR that reaches Redis later than its
reading can find the counter gone, as `late_increment_admitted_twice` shows.
-/

namespace ApiGateway.RateLimit

open Redis Interleave

namespace FixedWindowLimiter

/-- `int(d.Seconds())` of a duration of at least zero: its whole seconds. -/
theorem truncate_seconds {d : Int} (hd : 0 ≤ d) : Go.truncate (Go.seconds d) = d / Go.second := by
  have hnonneg : 0 ≤ Go.seconds d := by
    unfold Go.seconds
    exact div_nonneg (by exact_mod_cast hd) (by norm_num [Go.second])
  rw [Go.truncate_of_nonneg hnonneg, Go.seconds]
  have hfloor := Rat.floor_intCast_div_natCast d 1000000000
  push_cast at hfloor ⊢
  exact hfloor

variable (f : FixedWindowLimiter)

/-- Two readings from the epoch on in one window lie less than a window
apart. -/
theorem le_add_window {r r₁ : Int} (hwindow : Go.second ≤ f.window) (hr : 0 ≤ r) (hr₁ : 0 ≤ r₁)
    (h : f.currentWindow r = f.currentWindow r₁) : r ≤ r₁ + f.window := by
  unfold currentWindow Go.unix at h
  rw [truncate_seconds (by unfold Go.second at hwindow; omega),
    Int.tdiv_eq_ediv_of_nonneg (Int.ediv_nonneg hr (by decide)),
    Int.tdiv_eq_ediv_of_nonneg (Int.ediv_nonneg hr₁ (by decide))] at h
  unfold Go.second at hwindow h
  have hlen : 1 ≤ f.window / 1000000000 := Int.le_ediv_of_mul_le (by decide) (by omega)
  have hr := Int.mul_ediv_add_emod r 1000000000
  have hr₁ := Int.mul_ediv_add_emod r₁ 1000000000
  have hq := Int.mul_ediv_add_emod (r / 1000000000) (f.window / 1000000000)
  have hq₁ := Int.mul_ediv_add_emod (r₁ / 1000000000) (f.window / 1000000000)
  have hw := Int.mul_ediv_add_emod f.window 1000000000
  have hmod := Int.emod_lt_of_pos (r / 1000000000) (show 0 < f.window / 1000000000 by omega)
  have hmod₁ := Int.emod_nonneg (r₁ / 1000000000) (show f.window / 1000000000 ≠ 0 by omega)
  have hsmall := Int.emod_lt_of_pos r (show (0 : Int) < 1000000000 by decide)
  have hsmall₁ := Int.emod_nonneg r₁ (show (1000000000 : Int) ≠ 0 by decide)
  have hwmod := Int.emod_nonneg f.window (show (1000000000 : Int) ≠ 0 by decide)
  rw [h] at hq
  generalize f.window / 1000000000 * (r₁ / 1000000000 / (f.window / 1000000000)) = start at hq hq₁
  omega

variable (key : String) (window : Int)

/-- A call of the window that holds an admission or is on its way to one:
its INCR counted at most the limit, or it has been admitted. -/
def holdsAdmission (c : Call) : Bool :=
  decide (f.currentWindow c.now = window) &&
    match c.phase with
    | .counted count => decide (count ≤ f.limit)
    | .done (.ok true) => true
    | _ => false

/-- The count the window's counter holds, and zero when it holds none. -/
def counter (db : Store BucketState) : Int :=
  match db (allowKey key window) with
  | some ⟨.str (.int n), _⟩ => n
  | _ => 0

/-- The counter's deadline, if it has one, comes after every reading of its
window. -/
def Outlasts (d : Option Int) : Prop :=
  ∀ d₀, d = some d₀ → ∀ r, 0 ≤ r → f.currentWindow r = window → r ≤ d₀

/-- The window's counter is missing, or an integer that lives through the
window. -/
def CounterLive (db : Store BucketState) : Prop :=
  db (allowKey key window) = none ∨
    ∃ n d, db (allowKey key window) = some ⟨.str (.int n), d⟩ ∧ f.Outlasts window d

/-- What every schedule of Allow calls on `key` keeps of the window `window`:
the counter lives through the window, and the calls holding an admission are
no more than its count, nor than the limit. -/
structure Counting (c : Store BucketState × List Call) : Prop where
  readings : ∀ t ∈ c.2, 0 ≤ t.now
  live : f.CounterLive key window c.1
  le_counter : (c.2.countP (f.holdsAdmission window) : Int) ≤ counter key window c.1
  le_limit : c.2.countP (f.holdsAdmission window) ≤ f.limit.toNat

variable {f key window}

/-- At a reading of its window, the counter is found as it is stored. -/
theorem lookup_in_window {db : Store BucketState} {r : Int} (hr : 0 ≤ r)
    (hw : f.currentWindow r = window) (hlive : f.CounterLive key window db) :
    lookup db r (allowKey key window) = db (allowKey key window) := by
  rcases hlive with hnone | ⟨n, d, hentry, hd⟩
  · simp [lookup, hnone]
  · rw [hentry, lookup_eq_some]
    refine ⟨hentry, ?_⟩
    cases d with
    | none => rfl
    | some d₀ => simpa [Entry.live] using hd d₀ rfl r hr hw

/-- The INCR of a call of the window counts one more on the counter, which
keeps its deadline. -/
theorem increment_in_window {db : Store BucketState} {r : Int} (hr : 0 ≤ r)
    (hw : f.currentWindow r = window) (hlive : f.CounterLive key window db) :
    ∃ d, f.Outlasts window d ∧ f.increment db r key =
      .ok (counter key window db + 1, Function.update db (allowKey key window)
        (some ⟨.str (.int (counter key window db + 1)), d⟩)) := by
  have hlookup := lookup_in_window hr hw hlive
  unfold increment incr
  rw [hw, hlookup]
  rcases hlive with hnone | ⟨n, d, hentry, hd⟩
  · refine ⟨none, (by intro d₀ h; cases h), ?_⟩
    simp [hnone, counter]
  · exact ⟨d, hd, by simp [hentry, counter]⟩

/-- The EXPIRE of a window's first call gives the counter a deadline one
window after the call's reading, which the window's readings all precede. -/
theorem expireFirst_in_window (hwindow : Go.second ≤ f.window) {db : Store BucketState}
    {r count : Int} (hr : 0 ≤ r) (hw : f.currentWindow r = window)
    (hlive : f.CounterLive key window db) :
    f.CounterLive key window (f.expireFirst db r key count) ∧
      counter key window (f.expireFirst db r key count) = counter key window db := by
  have hlookup := lookup_in_window hr hw hlive
  unfold expireFirst
  split
  · rw [hw]
    unfold expire
    rw [hlookup]
    rcases hlive with hnone | ⟨n, d, hentry, -⟩
    · simp [hnone, CounterLive]
    · have hpos : 0 < f.window := by unfold Go.second at hwindow; omega
      have houtlasts : f.Outlasts window (some (r + f.window)) := by
        rintro d₀ hd₀ r' hr' hw'
        cases hd₀
        exact f.le_add_window hwindow hr' hr (hw'.trans hw.symm)
      simp only [hentry, if_pos hpos]
      exact ⟨.inr ⟨n, some (r + f.window), by simp, houtlasts⟩, by simp [counter, hentry]⟩
  · exact ⟨hlive, rfl⟩

/-- A call of another window counts on another key. -/
theorem allowKey_ne_of_window {w w' : Int} (h : w ≠ w') : allowKey key w ≠ allowKey key w' := by
  intro heq
  have hlist : (allowKey key w).toList = (allowKey key w').toList := by rw [heq]
  unfold allowKey at hlist
  simp only [String.toList_append] at hlist
  simp at hlist
  exact h (Int.repr_inj.mp (String.toList_inj.mp hlist))

theorem counterLive_of_eq {db db' : Store BucketState}
    (h : db' (allowKey key window) = db (allowKey key window)) :
    f.CounterLive key window db' ↔ f.CounterLive key window db := by
  unfold CounterLive
  rw [h]

theorem counter_of_eq {db db' : Store BucketState}
    (h : db' (allowKey key window) = db (allowKey key window)) :
    counter key window db' = counter key window db := by
  unfold counter
  rw [h]

/-- The EXPIRE of a call of another window leaves this window's counter. -/
theorem expireFirst_other {db : Store BucketState} {r count : Int}
    (hw : f.currentWindow r ≠ window) :
    f.expireFirst db r key count (allowKey key window) = db (allowKey key window) := by
  unfold expireFirst
  split
  · exact expire_other _ _ _ (allowKey_ne_of_window (Ne.symm hw))
  · rfl

/-- The calls listed after a step of one call read the clock as before. -/
theorem readings_set {threads : List Call} {i : Nat} {t t' : Call}
    (hreadings : ∀ u ∈ threads, 0 ≤ u.now) (hi : threads[i]? = some t) (hnow : t'.now = t.now) :
    ∀ u ∈ threads.set i t', 0 ≤ u.now := by
  intro u hu
  rcases List.mem_or_eq_of_mem_set hu with hu | rfl
  · exact hreadings u hu
  · rw [hnow]
    exact hreadings t (List.mem_of_getElem? hi)

/-- Every action of an Allow call keeps `Counting`: an INCR of the window
adds at most one admission and one count, an EXPIRE keeps the counter alive
through the window, and the actions of other windows' calls touch neither. -/
theorem Counting.step (hwindow : Go.second ≤ f.window) {db db' : Store BucketState}
    {threads : List Call} {i : Nat} {t t' : Call} (hi : threads[i]? = some t)
    (hact : (Limiter.fixedWindow f).act key t db = some (t', db'))
    (hc : f.Counting key window (db, threads)) :
    f.Counting key window (db', threads.set i t') := by
  have hcount : (threads.set i t').countP (f.holdsAdmission window) +
      (if f.holdsAdmission window t then 1 else 0) =
      threads.countP (f.holdsAdmission window) +
        (if f.holdsAdmission window t' then 1 else 0) := countP_set_add hi
  have hold : (threads.countP (f.holdsAdmission window) : Int) ≤ counter key window db :=
    hc.le_counter
  have hlimit : threads.countP (f.holdsAdmission window) ≤ f.limit.toNat := hc.le_limit
  obtain ⟨now, phase⟩ := t
  have hnow : 0 ≤ now := hc.readings _ (List.mem_of_getElem? hi)
  cases phase with
  | start =>
      by_cases hw : f.currentWindow now = window
      · obtain ⟨d, hd, hinc⟩ := increment_in_window hnow hw hc.live
        simp only [Limiter.act, hinc, Option.some.injEq, Prod.mk.injEq] at hact
        obtain ⟨rfl, rfl⟩ := hact
        have hnew : counter key window (Function.update db (allowKey key window)
            (some ⟨.str (.int (counter key window db + 1)), d⟩)) = counter key window db + 1 := by
          simp [counter]
        simp only [holdsAdmission, hw, decide_true, Bool.true_and, Bool.false_eq_true,
          if_false, add_zero] at hcount
        refine ⟨readings_set hc.readings hi rfl,
          .inr ⟨counter key window db + 1, d, by simp, hd⟩, ?_, ?_⟩
        · dsimp only
          rw [hnew, hcount]
          split <;> omega
        · dsimp only
          rw [hcount]
          split
          · rename_i hle
            rw [decide_eq_true_eq] at hle
            omega
          · omega
      · have hne : allowKey key window ≠ allowKey key (f.currentWindow now) :=
          allowKey_ne_of_window (Ne.symm hw)
        cases hinc : f.increment db now key with
        | error e =>
            simp only [Limiter.act, hinc, Option.some.injEq, Prod.mk.injEq] at hact
            obtain ⟨rfl, rfl⟩ := hact
            simp only [holdsAdmission, hw, decide_false, Bool.false_and, Bool.false_eq_true,
              if_false, add_zero] at hcount
            exact ⟨readings_set hc.readings hi rfl, hc.live, by dsimp only; omega,
              by dsimp only; omega⟩
        | ok r =>
            obtain ⟨count, db₁⟩ := r
            simp only [Limiter.act, hinc, Option.some.injEq, Prod.mk.injEq] at hact
            obtain ⟨rfl, rfl⟩ := hact
            have hkey : db₁ (allowKey key window) = db (allowKey key window) :=
              incr_other hinc hne
            simp only [holdsAdmission, hw, decide_false, Bool.false_and, Bool.false_eq_true,
              if_false, add_zero] at hcount
            refine ⟨readings_set hc.readings hi rfl, (counterLive_of_eq hkey).mpr hc.live, ?_,
              by dsimp only; omega⟩
            dsimp only
            rw [counter_of_eq hkey]
            omega
  | counted count =>
      simp only [Limiter.act, Option.some.injEq, Prod.mk.injEq] at hact
      obtain ⟨rfl, rfl⟩ := hact
      have hsame : f.holdsAdmission window ⟨now, .done (.ok (decide (count ≤ f.limit)))⟩ =
          f.holdsAdmission window ⟨now, .counted count⟩ := by
        by_cases hle : count ≤ f.limit <;> simp [holdsAdmission, hle]
      rw [hsame, Nat.add_right_cancel_iff] at hcount
      by_cases hw : f.currentWindow now = window
      · obtain ⟨hlive, hcounter⟩ : f.CounterLive key window (f.expireFirst db now key count) ∧
            counter key window (f.expireFirst db now key count) = counter key window db :=
          expireFirst_in_window hwindow hnow hw hc.live
        exact ⟨readings_set hc.readings hi rfl, hlive, by rw [hcounter, hcount]; exact hold,
          by rw [hcount]; exact hlimit⟩
      · have hkey : f.expireFirst db now key count (allowKey key window) =
            db (allowKey key window) := expireFirst_other hw
        exact ⟨readings_set hc.readings hi rfl, (counterLive_of_eq hkey).mpr hc.live,
          by rw [counter_of_eq hkey, hcount]; exact hold, by rw [hcount]; exact hlimit⟩
  | loaded state => simp [Limiter.act] at hact
  | done result => simp [Limiter.act] at hact

/-- Fresh calls from the epoch on, on a Redis without the window's counter. -/
theorem counting_fresh {db : Store BucketState} {readings : List Int}
    (hreadings : ∀ r ∈ readings, 0 ≤ r) (hdb : db (allowKey key window) = none) :
    f.Counting key window (db, fresh readings) := by
  have hnone : (fresh readings).countP (f.holdsAdmission window) = 0 := by
    rw [List.countP_eq_zero]
    intro c hc
    obtain ⟨r, -, rfl⟩ := List.mem_map.mp hc
    simp [holdsAdmission]
  refine ⟨?_, .inl hdb, ?_, ?_⟩
  · intro c hc
    obtain ⟨r, hr, rfl⟩ := List.mem_map.mp hc
    exact hreadings r hr
  · simp [hnone, counter, hdb]
  · simp [hnone]

/-- The admitted calls of the window that have finished all hold an
admission. -/
theorem admitted_le_countP (calls : List Call) :
    ((history calls).filter fun r => decide (f.currentWindow r.1 = window ∧ r.2 = .ok true)).length
      ≤ calls.countP (f.holdsAdmission window) := by
  induction calls with
  | nil => simp [history]
  | cons c calls ih =>
      obtain ⟨now, phase⟩ := c
      cases phase with
      | done result =>
          by_cases hadmit : f.currentWindow now = window ∧ result = .ok true
          · obtain ⟨hw, rfl⟩ := hadmit
            simp [history, holdsAdmission, hw] at ih ⊢
            omega
          · have hdrop : ((history (⟨now, .done result⟩ :: calls)).filter fun r =>
                decide (f.currentWindow r.1 = window ∧ r.2 = .ok true)) =
                (history calls).filter fun r =>
                  decide (f.currentWindow r.1 = window ∧ r.2 = .ok true) := by
              simp [history, hadmit]
            rw [hdrop, List.countP_cons]
            omega
      | start | counted _ | loaded _ =>
          simp only [history, List.filterMap_cons, List.countP_cons] at ih ⊢
          omega

end FixedWindowLimiter

/-- The fixed window keeps its limit under concurrency. Under every schedule
of concurrent Allow calls on one key, each running its INCR and EXPIRE at its
own clock reading, from a Redis without the counter of a window: at most
`limit` of the calls with readings in that window are admitted, when the
readings are from the Unix epoch on and the window is at least a second. -/
theorem fixedWindow_keeps_limit (f : FixedWindowLimiter) (key : String) (db : Store BucketState)
    (readings : List Int) (order : List Nat) (window : Int) (hwindow : Go.second ≤ f.window)
    (hreadings : ∀ r ∈ readings, 0 ≤ r)
    (hdb : db (FixedWindowLimiter.allowKey key window) = none) :
    ((history (interleave ((Limiter.fixedWindow f).act key) (db, fresh readings) order).2).filter
        fun r => decide (f.currentWindow r.1 = window ∧ r.2 = .ok true)).length ≤
      f.limit.toNat := by
  have hend : f.Counting key window
      (interleave ((Limiter.fixedWindow f).act key) (db, fresh readings) order) :=
    interleave_induction (fun _ _ _ _ _ _ hi hact hc => hc.step hwindow hi hact)
      (FixedWindowLimiter.counting_fresh hreadings hdb) order
  exact (FixedWindowLimiter.admitted_le_countP _).trans hend.le_limit

theorem fixedWindow_keeps_limit_racing :
    Go.second ≤ (newFixedWindow 1 Go.minute).window ∧
      (∀ r ∈ [1700000010000000000, 1700000020000000000], (0 : Int) ≤ r) ∧
      (empty : Store BucketState) (FixedWindowLimiter.allowKey "k" 28333333) = none ∧
      ((history (interleave ((Limiter.fixedWindow (newFixedWindow 1 Go.minute)).act "k")
          (empty, fresh [1700000010000000000, 1700000020000000000]) [0, 1, 0, 1]).2).filter
          fun r => decide ((newFixedWindow 1 Go.minute).currentWindow r.1 = 28333333 ∧
            r.2 = .ok true)).length ≤ (newFixedWindow 1 Go.minute).limit.toNat :=
  ⟨by decide, by decide, rfl, fixedWindow_keeps_limit _ "k" empty _ [0, 1, 0, 1] 28333333
    (by decide) (by decide) rfl⟩

end ApiGateway.RateLimit
