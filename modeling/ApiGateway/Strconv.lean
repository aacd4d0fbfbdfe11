import Mathlib

/-!
The integer parsers of Go's `strconv` at base 10, as `ParseInt(s, 10, 64)`
and `Atoi` on a 64-bit platform run them. An optional sign, then the
digits, read left to right into a `uint64`: the first character that is not
a digit stops the scan with a syntax error, and the first digit that takes
the value past `2^64 - 1` with a range error, whatever follows. `ParseInt`
then checks the range of `int64`. `Atoi`'s fast path, taken for strings of
fewer than 19 bytes, gives the results of this path on them, since no such
string overflows; only the name of the function in its error differs, and
that is a parameter here. The value a failing call also returns is not
modelled: the callers read it only when there is no error.
-/

namespace Go.Strconv

/-- `ErrSyntax` and `ErrRange`. -/
inductive NumErr where
  | invalidSyntax
  | outOfRange
  deriving DecidableEq, Repr

def NumErr.text : NumErr → String
  | .invalidSyntax => "invalid syntax"
  | .outOfRange => "value out of range"

/-- `*NumError`: the function that failed, its input and the failure. -/
structure NumError where
  func : String
  num : String
  err : NumErr
  deriving DecidableEq, Repr

/-- `e.Error()`, with `strconv.Quote` given: it escapes by Unicode's tables
of printable characters. -/
def NumError.error (quote : String → String) (e : NumError) : String :=
  "strconv." ++ e.func ++ ": parsing " ++ quote e.num ++ ": " ++ e.err.text

/-- `1<<64 - 1`. -/
def maxUint64 : Nat := 18446744073709551615

/-- `maxUint64/10 + 1`, the least value whose tenfold overflows. -/
def cutoff : Nat := maxUint64 / 10 + 1

def digitValue (c : Char) : Nat := c.toNat - '0'.toNat

/-- The loop of `ParseUint` over the bytes of its input, from the value `n`
read so far. A byte of a multi-byte character is not a digit, as the
character is not. -/
def scanDigits (n : Nat) : List Char → Except NumErr Nat
  | [] => .ok n
  | c :: cs =>
      if c.isDigit then
        if n ≥ cutoff then .error .outOfRange
        else
          let n1 := n * 10 + digitValue c
          if n1 > maxUint64 then .error .outOfRange else scanDigits n1 cs
      else .error .invalidSyntax

/-- `ParseUint(s, 10, 64)`, before its error is given a function and input. -/
def parseUint (s : List Char) : Except NumErr Nat :=
  if s = [] then .error .invalidSyntax else scanDigits 0 s

/-- `ParseInt`'s leading sign: whether it is a minus, and the rest. -/
def splitSign : List Char → Bool × List Char
  | '+' :: cs => (false, cs)
  | '-' :: cs => (true, cs)
  | cs => (false, cs)

def signed (neg : Bool) (un : Nat) : Int := if neg then -(un : Int) else un

/-- `ParseInt(s, 10, 64)`, its error reported as the function `func`'s. -/
def parseIntAs (func s : String) : Except NumError Int :=
  if s = "" then .error ⟨func, s, .invalidSyntax⟩
  else
    match parseUint (splitSign s.toList).2 with
    | .error err => .error ⟨func, s, err⟩
    | .ok un =>
        let neg := (splitSign s.toList).1
        if !neg && un ≥ 2 ^ 63 then .error ⟨func, s, .outOfRange⟩
        else if neg && un > 2 ^ 63 then .error ⟨func, s, .outOfRange⟩
        else .ok (signed neg un)

def parseInt (s : String) : Except NumError Int := parseIntAs "ParseInt" s

def atoi (s : String) : Except NumError Int := parseIntAs "Atoi" s

/-- The value of the digits `cs` read after the value `n`, as the loop
accumulates it: `n = n*10 + d` for each digit. -/
def decimal (n : Nat) (cs : List Char) : Nat := cs.foldl (fun n c => n * 10 + digitValue c) n

@[simp] theorem decimal_nil (n : Nat) : decimal n [] = n := rfl

@[simp] theorem decimal_cons (n : Nat) (c : Char) (cs : List Char) :
    decimal n (c :: cs) = decimal (n * 10 + digitValue c) cs :=
  List.foldl_cons ..

/-- Reading more digits never lowers the value. -/
theorem le_decimal (n : Nat) (cs : List Char) : n ≤ decimal n cs := by
  induction cs generalizing n with
  | nil => exact Nat.le_refl n
  | cons c cs ih =>
      rw [decimal_cons]
      have hstep := ih (n * 10 + digitValue c)
      omega

/-- The scan accepts exactly the digit strings whose value fits in a `uint64`. -/
theorem scanDigits_eq_ok_iff {n : Nat} (hn : n ≤ maxUint64) {cs : List Char} {v : Nat} :
    scanDigits n cs = .ok v ↔
      (∀ c ∈ cs, c.isDigit) ∧ decimal n cs ≤ maxUint64 ∧ v = decimal n cs := by
  induction cs generalizing n with
  | nil =>
      simp only [scanDigits, Except.ok.injEq, List.not_mem_nil, decimal_nil]
      exact ⟨fun h => ⟨fun _ h => h.elim, hn, h.symm⟩, fun h => h.2.2.symm⟩
  | cons c cs ih =>
      have hgrow := le_decimal (n * 10 + digitValue c) cs
      by_cases hc : c.isDigit
      · by_cases hcut : n ≥ cutoff
        · have hover : maxUint64 < decimal (n * 10 + digitValue c) cs := by
            simp only [cutoff, maxUint64] at hcut ⊢
            omega
          simp [scanDigits, hc, hcut, Nat.not_le.mpr hover]
        · by_cases hn1 : n * 10 + digitValue c > maxUint64
          · have hover : maxUint64 < decimal (n * 10 + digitValue c) cs := by omega
            simp [scanDigits, hc, hcut, hn1, Nat.not_le.mpr hover]
          · rw [scanDigits, if_pos hc, if_neg hcut, if_neg hn1, ih (Nat.le_of_not_gt hn1),
              decimal_cons]
            simp [hc]
      · simp [scanDigits, hc]

theorem parseUint_eq_ok_iff {cs : List Char} {v : Nat} :
    parseUint cs = .ok v ↔
      cs ≠ [] ∧ (∀ c ∈ cs, c.isDigit) ∧ decimal 0 cs ≤ maxUint64 ∧ v = decimal 0 cs := by
  by_cases hcs : cs = []
  · simp [parseUint, hcs]
  · rw [parseUint, if_neg hcs, scanDigits_eq_ok_iff (by simp [maxUint64])]
    simp [hcs]

@[simp] theorem splitSign_nil : splitSign [] = (false, []) := rfl

theorem splitSign_of_isDigit {c : Char} (hc : c.isDigit) (cs : List Char) :
    splitSign (c :: cs) = (false, c :: cs) := by
  have hplus : c ≠ '+' := by
    rintro rfl
    exact absurd hc (by decide)
  have hminus : c ≠ '-' := by
    rintro rfl
    exact absurd hc (by decide)
  simp [splitSign, hplus, hminus]

/-- The range check of `ParseInt` passes exactly the values of `int64`. -/
theorem int64Range_eq_ok_iff (func s : String) (neg : Bool) (un : Nat) (v : Int) :
    (if !neg && un ≥ 2 ^ 63 then (.error ⟨func, s, .outOfRange⟩ : Except NumError Int)
      else if neg && un > 2 ^ 63 then .error ⟨func, s, .outOfRange⟩
      else .ok (signed neg un)) = .ok v ↔
      v = signed neg un ∧ -2 ^ 63 ≤ v ∧ v < 2 ^ 63 := by
  cases neg with
  | false =>
      by_cases hrange : un ≥ 2 ^ 63
      · simp only [hrange, signed]
        simp
        omega
      · simp only [hrange, signed]
        simp
        omega
  | true =>
      by_cases hedge : un > 2 ^ 63
      · simp only [hedge, signed]
        simp
        omega
      · simp only [hedge, signed]
        simp
        omega

/-- What `ParseInt` accepts: a sign, then digits, of a value in `int64`'s
range, which is what it returns. -/
theorem parseIntAs_eq_ok_iff {func s : String} {v : Int} :
    parseIntAs func s = .ok v ↔
      (splitSign s.toList).2 ≠ [] ∧ (∀ c ∈ (splitSign s.toList).2, c.isDigit) ∧
        v = signed (splitSign s.toList).1 (decimal 0 (splitSign s.toList).2) ∧
        -2 ^ 63 ≤ v ∧ v < 2 ^ 63 := by
  by_cases hs : s = ""
  · subst hs
    simp [parseIntAs]
  · rw [parseIntAs, if_neg hs]
    cases hparse : parseUint (splitSign s.toList).2 with
    | error err =>
        simp only [reduceCtorEq, false_iff]
        rintro ⟨hne, hdigits, rfl, hlow, hhigh⟩
        have hfits : decimal 0 (splitSign s.toList).2 ≤ maxUint64 := by
          cases (splitSign s.toList).1 <;> simp only [signed] at hlow hhigh <;>
            simp only [maxUint64] <;> omega
        have hok := parseUint_eq_ok_iff.mpr ⟨hne, hdigits, hfits, rfl⟩
        rw [hparse] at hok
        cases hok
    | ok un =>
        obtain ⟨hne, hdigits, -, rfl⟩ := parseUint_eq_ok_iff.mp hparse
        simp only
        rw [int64Range_eq_ok_iff]
        exact ⟨fun h => ⟨hne, hdigits, h⟩, fun h => h.2.2⟩

example : parseInt "+42" = .ok 42 := by rfl

example : parseInt "9223372036854775808" =
    .error ⟨"ParseInt", "9223372036854775808", .outOfRange⟩ := by rfl

theorem parseIntAs_error {func s : String} {e : NumError} (h : parseIntAs func s = .error e) :
    e.func = func ∧ e.num = s := by
  unfold parseIntAs at h
  split_ifs at h with hs
  · cases h
    exact ⟨rfl, rfl⟩
  · split at h
    · cases h
      exact ⟨rfl, rfl⟩
    · simp only at h
      split_ifs at h <;> cases h <;> exact ⟨rfl, rfl⟩

/-- A digit string of a value below `2^63` parses to that value, and after
a minus to its negation. -/
theorem parseIntAs_digits (func : String) {ds : List Char} (hne : ds ≠ [])
    (hdigits : ∀ c ∈ ds, c.isDigit) (hfits : decimal 0 ds < 2 ^ 63) :
    parseIntAs func (String.ofList ds) = .ok (decimal 0 ds) ∧
      parseIntAs func (String.ofList ('-' :: ds)) = .ok (-(decimal 0 ds : Int)) := by
  obtain ⟨c, cs, rfl⟩ := List.exists_cons_of_ne_nil hne
  have hsplit := splitSign_of_isDigit (hdigits c List.mem_cons_self) cs
  constructor
  · rw [parseIntAs_eq_ok_iff, String.toList_ofList, hsplit]
    simp only [signed]
    refine ⟨List.cons_ne_nil c cs, hdigits, rfl, by omega, by exact_mod_cast hfits⟩
  · rw [parseIntAs_eq_ok_iff, String.toList_ofList]
    simp only [splitSign, signed]
    refine ⟨List.cons_ne_nil c cs, hdigits, rfl, by omega, by omega⟩

end Go.Strconv
