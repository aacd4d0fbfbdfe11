import Mathlib.Data.Rat.Floor

/-!
The parts of Go's runtime semantics the gateway's arithmetic rests on. A
`time.Time` is its reading in nanoseconds since the Unix epoch and a
`time.Duration` a signed count of nanoseconds, both as integers, so the
int64 saturation of `Sub` is not modelled (it needs readings 292 years
apart). Float arithmetic on durations and token counts is taken as exact
rational arithmetic; the one place where a double's rounding is visible in
those, an integer nanosecond count converted to `float64`, is modelled
exactly by `float64OfInt`. The averages and rates of the analytics are
Lean's binary64 `Float`.
-/

namespace Go

/-- `time.Second`, in nanoseconds. -/
def second : Int := 1000000000

def minute : Int := 60 * second

def hour : Int := 60 * minute

/-- The zero `time.Time`, January 1 of year 1, as a reading. -/
def zeroTime : Int := -62135596800 * second

/-- `t.Unix()`: whole seconds since the epoch, rounded down. -/
def unix (t : Int) : Int := t / second

/-- `d.Seconds()`, taken exactly. -/
def seconds (d : Int) : ℚ := (d : ℚ) / (second : ℚ)

/-- Conversion of a float to an integer type, which truncates toward zero. -/
def truncate (q : ℚ) : Int := if 0 ≤ q then ⌊q⌋ else ⌈q⌉

/-- The value of the double nearest to `n`, ties to even: what `float64(n)`
gives for an `int64` and what `strtod` gives for the decimal of `n`.
Integers below `2^53` in magnitude are exact; above, the spacing is the
power of two `2^(log2 |n| - 52)`. -/
def float64OfInt (n : Int) : Int :=
  let m := n.natAbs
  if m < 2 ^ 53 then n
  else
    let ulp := 2 ^ (Nat.log2 m - 52)
    let q := m / ulp
    let r := m % ulp
    let rounded := if 2 * r < ulp ∨ (2 * r = ulp ∧ q % 2 = 0) then q else q + 1
    n.sign * ((rounded * ulp : Nat) : Int)

@[simp] theorem truncate_of_nonneg {q : ℚ} (hq : 0 ≤ q) : truncate q = ⌊q⌋ := by
  simp [truncate, hq]

@[simp] theorem truncate_intCast (n : Int) : truncate n = n := by
  by_cases hn : 0 ≤ n
  · simp [truncate, hn]
  · simp [truncate, hn]

theorem one_le_truncate_iff (q : ℚ) : 1 ≤ truncate q ↔ 1 ≤ q := by
  by_cases hq : 0 ≤ q
  · rw [truncate_of_nonneg hq]
    exact Int.le_floor
  · have hceil : ⌈q⌉ ≤ 0 := Int.ceil_le.mpr (by exact_mod_cast (lt_of_not_ge hq).le)
    simp only [truncate, if_neg hq]
    constructor
    · intro h
      omega
    · intro h
      linarith

theorem lt_truncate_add_one (q : ℚ) : q < truncate q + 1 := by
  by_cases hq : 0 ≤ q
  · rw [truncate_of_nonneg hq]
    exact Int.lt_floor_add_one q
  · simp only [truncate, if_neg hq]
    linarith [Int.le_ceil q]

theorem truncate_sub_one {q : ℚ} (hq : 1 ≤ q) : truncate (q - 1) = truncate q - 1 := by
  rw [truncate_of_nonneg (by linarith), truncate_of_nonneg (by linarith), Int.floor_sub_one]

@[simp] theorem seconds_zero : seconds 0 = 0 := by
  simp [seconds]

theorem seconds_sub (d d' : Int) : seconds (d - d') = seconds d - seconds d' := by
  simp [seconds, sub_div]

theorem seconds_le_seconds {d d' : Int} : seconds d ≤ seconds d' ↔ d ≤ d' := by
  have hpos : (0 : ℚ) < second := by norm_num [second]
  rw [seconds, seconds, div_le_div_iff_of_pos_right hpos, Int.cast_le]

@[simp] theorem seconds_minute : seconds minute = 60 := by
  norm_num [seconds, minute, second]

@[simp] theorem seconds_hour : seconds hour = 3600 := by
  norm_num [seconds, hour, minute, second]

theorem float64OfInt_of_small {n : Int} (hn : n.natAbs < 2 ^ 53) : float64OfInt n = n := by
  simp only [float64OfInt]
  rw [if_pos hn]

example : float64OfInt 1700000000000000001 = 1700000000000000000 := by decide

example : float64OfInt 1700000000000000200 = 1700000000000000256 := by decide

/-- `strings.Split(s, sep)` for a separator of one character: the pieces
between its occurrences, one more than there are occurrences. An ASCII
separator splits the UTF-8 bytes where it splits the characters. -/
def split (s : String) (sep : Char) : List String :=
  (s.toList.splitOn sep).map String.ofList

section Split

variable {α : Type*} [BEq α] [LawfulBEq α]

theorem not_mem_of_mem_splitOn {x : α} {l w : List α} (hw : w ∈ l.splitOn x) : x ∉ w := by
  induction l generalizing w with
  | nil =>
      rw [List.splitOn_nil, List.mem_singleton] at hw
      simp [hw]
  | cons a t ih =>
      rw [List.splitOn_cons_eq_if_modifyHead] at hw
      obtain ⟨hd, tl, hsplit⟩ := List.exists_cons_of_ne_nil (List.splitOn_ne_nil x t)
      rw [hsplit] at hw ih
      split at hw
      · rcases List.mem_cons.mp hw with rfl | hw
        · simp
        · exact ih hw
      · rename_i hax
        rw [List.modifyHead_cons, List.mem_cons] at hw
        rcases hw with rfl | hw
        · have hne : a ≠ x := fun h => hax (beq_iff_eq.mpr h)
          simpa [Ne.symm hne] using ih List.mem_cons_self
        · exact ih (List.mem_cons_of_mem hd hw)

/-- A list splits into exactly two pieces when the separator occurs in it
once, between them. -/
theorem splitOn_eq_pair_iff {x : α} {l a b : List α} :
    l.splitOn x = [a, b] ↔ l = a ++ x :: b ∧ x ∉ a ∧ x ∉ b := by
  constructor
  · intro h
    have hl : l = [x].intercalate [a, b] := by rw [← h, List.intercalate_splitOn]
    refine ⟨by simpa using hl, not_mem_of_mem_splitOn (l := l) ?_,
      not_mem_of_mem_splitOn (l := l) ?_⟩
    · simp [h]
    · simp [h]
  · rintro ⟨rfl, ha, hb⟩
    rw [List.splitOn_append_cons_self_of_not_mem ha, List.splitOn_eq_singleton hb]

end Split

theorem split_eq_pair_iff {s a b : String} {sep : Char} :
    split s sep = [a, b] ↔
      s.toList = a.toList ++ sep :: b.toList ∧ sep ∉ a.toList ∧ sep ∉ b.toList := by
  have hpieces : (s.toList.splitOn sep).map String.ofList = [a, b] ↔
      s.toList.splitOn sep = [a.toList, b.toList] := by
    constructor
    · intro h
      simpa [List.map_map, Function.comp_def] using congrArg (List.map String.toList) h
    · intro h
      simp [h]
  rw [split, hpieces, splitOn_eq_pair_iff]

example : split "Bearer  abc" ' ' = ["Bearer", "", "abc"] := by decide

end Go
