import Mathlib.Data.Rat.Floor
import Mathlib.Algebra.Order.Floor
import Mathlib.Tactic.Linarith

/-!
# C arithmetic of the audio engine

`audio.c` keeps its clock estimates in `double` and stores them back into
`int` and `int64_t` with `round` and `llrint`. The model reads a `double` as
the rational it stands for and evaluates a `double` expression without
intermediate rounding; decimal literals (`0.2`, `1.0e-9`, `1.1`) are read as
the decimal they spell, and `M_PI`, `M_SQRT2` as the exact values of their
`double` constants. The two conversions to integers are exact:

- `round` rounds halfway cases away from zero,
- `llrint`, in the default rounding mode, rounds halfway cases to even.

`int` and `int64_t` values are unbounded integers in the model. A store into a
32-bit `int` of a value outside `[INT_MIN, INT_MAX]` is undefined behaviour in
C; `fitsInt` names that range, so that overflow is a statement about the model
rather than a wrap-around built into it.
-/

namespace SpicyKvm

/-- C99 `round`: the nearest integer, halfway cases away from zero. -/
def cRound (x : ℚ) : Int :=
  if x < 0 then -⌊-x + 1 / 2⌋ else ⌊x + 1 / 2⌋

/-- `llrint` in the default rounding mode: the nearest integer, halfway cases
to the even neighbour. -/
def llrint (x : ℚ) : Int :=
  if x - ⌊x⌋ < 1 / 2 then ⌊x⌋
  else if 1 / 2 < x - ⌊x⌋ then ⌊x⌋ + 1
  else if ⌊x⌋ % 2 = 0 then ⌊x⌋ else ⌊x⌋ + 1

/-- The range of a 32-bit `int`. -/
def fitsInt (x : Int) : Prop := -2 ^ 31 ≤ x ∧ x < 2 ^ 31

instance : DecidablePred fitsInt := fun _ => inferInstanceAs (Decidable (_ ∧ _))

/-- `INT64_MIN`, the sentinel `audio.c` stores in `devLastTime` and
`devNextTime` before the first device tick arrives. -/
def int64Min : Int := -2 ^ 63

/-- `M_PI`: the `double` nearest to π, as an exact rational. -/
def mPi : ℚ := 884279719003555 / 281474976710656

/-- `M_SQRT2`: the `double` nearest to √2, as an exact rational. -/
def mSqrt2 : ℚ := 6369051672525773 / 4503599627370496

/-! ## `round` stays within half a unit -/

theorem cRound_bounds (x : ℚ) : x - 1 / 2 ≤ cRound x ∧ (cRound x : ℚ) ≤ x + 1 / 2 := by
  unfold cRound
  split_ifs
  · have h1 := Int.floor_le (-x + 1 / 2)
    have h2 := Int.lt_floor_add_one (-x + 1 / 2)
    push_cast
    constructor <;> linarith
  · have h1 := Int.floor_le (x + 1 / 2)
    have h2 := Int.lt_floor_add_one (x + 1 / 2)
    constructor <;> linarith

/-- `round` never goes below an integer the value is at least. -/
theorem le_cRound {n : Int} {x : ℚ} (h : (n : ℚ) ≤ x) : n ≤ cRound x := by
  have h : ((n - 1 : Int) : ℚ) < cRound x := by
    have := (cRound_bounds x).1
    push_cast
    linarith
  have : n - 1 < cRound x := by exact_mod_cast h
  omega

end SpicyKvm
