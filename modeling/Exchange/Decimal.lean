import Exchange.Failure
import Exchange.SignificantDigits

/-! The two number types money passes through. `Prisma.Decimal` is decimal.js
with its defaults: every arithmetic result is rounded to 20 significant
digits, half up; parsing, printing and rounding to decimal places are not
limited. A `NUMERIC(38,18)` column rounds what is stored to 18 places, ties
away from zero, and refuses what needs more than 20 integer digits. -/
namespace Exchange
open SignificantDigits

/-- A decimal value; the operations in this namespace are decimal.js's. -/
abbrev Decimal := ℚ

namespace Decimal

/-- `Decimal.precision`. -/
def precision : ℕ := 20

def add (x y : Decimal) : Decimal := significant precision (x + y)

def sub (x y : Decimal) : Decimal := significant precision (x - y)

def mul (x y : Decimal) : Decimal := significant precision (x * y)

/-- Division by a nonzero value. (decimal.js answers an infinity for a zero
divisor, the model zero; each caller says why the two end the same.) -/
def div (x y : Decimal) : Decimal := significant precision (x / y)

/-- Remainder of truncated division by a nonzero value. -/
def mod (x y : Decimal) : Decimal := significant precision (x - y * towardZero (x / y))

/-- `x.mod(y).isZero()`; a zero divisor gives NaN, which is not zero. -/
def isMultipleOf (x y : Decimal) : Bool := y ≠ 0 ∧ mod x y = 0

/-- `toFixed(places)`: half up, and a no-op on values with no more places. -/
def toFixed (places : ℕ) (x : Decimal) : Decimal := atPlaces halfUp places x

theorem toFixed_of_onGrid {places : ℕ} (grid : OnGrid places x) : toFixed places x = x :=
  atPlaces_of_onGrid halfUp_mode grid

/-- Every sum that 20 digits can hold is exact. -/
theorem add_exact (hx : OnGrid places x) (hy : OnGrid places y)
    (small : |x + y| < 10 ^ (20 - places)) : add x y = x + y :=
  significant_of_onGrid (hx.add hy) small

theorem sub_exact (hx : OnGrid places x) (hy : OnGrid places y)
    (small : |x - y| < 10 ^ (20 - places)) : sub x y = x - y :=
  significant_of_onGrid (hx.sub hy) small

/-- A running total of nonnegative grid values is exact as long as the sum has
few enough digits. -/
theorem foldl_add_exact {values : List Decimal} (start : OnGrid places total) (nonneg : 0 ≤ total)
    (each : ∀ x ∈ values, OnGrid places x ∧ 0 ≤ x)
    (small : total + values.sum < 10 ^ (20 - places)) :
    values.foldl add total = total + values.sum := by
  induction values generalizing total with
  | nil => simp
  | cons x values ih =>
    obtain ⟨grid, positive⟩ := each x (by simp)
    have rest : ∀ y ∈ values, OnGrid places y ∧ 0 ≤ y := fun y member => each y (by simp [member])
    have restNonneg : 0 ≤ values.sum := List.sum_nonneg fun y member => (rest y member).2
    rw [List.sum_cons] at small
    have next : add total x = total + x :=
      add_exact start grid (by rw [abs_of_nonneg (by positivity)]; linarith)
    rw [List.foldl_cons, next, List.sum_cons, ← add_assoc]
    exact ih (start.add grid) (by positivity) rest (by rw [add_assoc]; exact small)

theorem mul_mono_right (nonneg : 0 ≤ x) (le : y ≤ z) : mul x y ≤ mul x z :=
  significant_mono (by decide) (mul_le_mul_of_nonneg_left le nonneg)

theorem mul_mono_left (nonneg : 0 ≤ z) (le : x ≤ y) : mul x z ≤ mul y z :=
  significant_mono (by decide) (mul_le_mul_of_nonneg_right le nonneg)

theorem nonneg_mul (hx : 0 ≤ x) (hy : 0 ≤ y) : 0 ≤ mul x y :=
  significant_nonneg (mul_nonneg hx hy)

/-- The sign of a difference survives the rounding, so a comparison with zero
does not see it. -/
theorem sub_nonpos : sub x y ≤ 0 ↔ x ≤ y := by
  rw [← not_lt, ← not_lt]
  refine not_congr ⟨fun positive => ?_, fun lt => significant_pos (by decide) (by linarith)⟩
  by_contra le
  have flipped : significant precision (x - y) ≤ significant precision 0 :=
    significant_mono (by decide) (by linarith)
  rw [significant_zero] at flipped
  exact absurd positive flipped.not_gt

theorem sub_pos : 0 < sub x y ↔ y < x := by
  rw [← not_le, sub_nonpos, not_le]

/-- The remainder is zero exactly for the multiples. -/
theorem isMultipleOf_iff : isMultipleOf x y ↔ y ≠ 0 ∧ ∃ n : ℤ, x = y * n := by
  simp only [isMultipleOf, Bool.decide_and, Bool.and_eq_true, decide_eq_true_eq, mod,
    significant_eq_zero (show 1 ≤ precision by decide)]
  refine and_congr_right fun nonzero => ⟨fun zero => ⟨_, sub_eq_zero.mp zero⟩, ?_⟩
  rintro ⟨n, rfl⟩
  rw [mul_div_cancel_left₀ _ nonzero, towardZero_mode.intCast, sub_self]

end Decimal

namespace Numeric

/-- Decimal places of a money column. -/
def scale : ℕ := 18

/-- A value as the column holds it. -/
def rounded (x : ℚ) : ℚ := atPlaces halfUp scale x

/-- Storing a value into `NUMERIC(38,18)`. -/
def store (x : ℚ) : Except Failure ℚ :=
  if |rounded x| < 10 ^ 20 then .ok (rounded x) else .error (.database "numeric field overflow")

/-- The value lies half way between two storable ones. -/
def IsTie (x : ℚ) : Prop := ∃ n : ℤ, x * 10 ^ (scale : ℤ) = n + 1 / 2

theorem store_ok (stored : store x = .ok y) : y = rounded x ∧ |y| < 10 ^ 20 := by
  unfold store at stored
  split at stored
  · rename_i small
    cases stored
    exact ⟨rfl, small⟩
  · cases stored

theorem rounded_onGrid (x : ℚ) : OnGrid scale (rounded x) := atPlaces_onGrid halfUp scale x

/-- A value with no more than 18 places is stored as it is. -/
theorem rounded_of_onGrid (grid : OnGrid scale x) : rounded x = x :=
  atPlaces_of_onGrid halfUp_mode grid

theorem rounded_neg (x : ℚ) : rounded (-x) = -rounded x := atPlaces_neg halfUp_mode scale x

theorem rounded_nonneg (nonneg : 0 ≤ x) : 0 ≤ rounded x := atPlaces_nonneg halfUp_mode nonneg

theorem not_isTie_of_onGrid (grid : OnGrid scale x) : ¬IsTie x := by
  rintro ⟨n, tie⟩
  obtain ⟨m, exact⟩ := grid
  rw [exact] at tie
  have doubled : (2 * m : ℤ) = 2 * n + 1 := by
    exact_mod_cast (by rw [tie]; ring : (2 : ℚ) * m = 2 * n + 1)
  omega

/-- A change to a stored value is rounded as if it stood alone, unless it is a
tie that crosses or meets zero from the other side. -/
theorem rounded_add (grid : OnGrid scale x) (outward : IsTie y → 0 < y * (x + y)) :
    rounded (x + y) = x + rounded y := by
  obtain ⟨n, exact⟩ := grid
  have scaled := ten_zpow_pos scale
  have sum : (x + y) * 10 ^ (scale : ℤ) = n + y * 10 ^ (scale : ℤ) := by rw [add_mul, exact]
  have shifted : halfUp (n + y * 10 ^ (scale : ℤ)) = n + halfUp (y * 10 ^ (scale : ℤ)) := by
    refine halfUp_intCast_add fun m tie => ?_
    have signs := outward ⟨m, tie⟩
    have := mul_pos signs (mul_pos scaled scaled)
    rw [← exact]
    linarith
  rw [rounded, atPlaces, sum, shifted]
  push_cast
  rw [add_div, ← exact, mul_div_cancel_right₀ _ scaled.ne']
  rfl

/-- A sum of grid values that is stored within a bound of few enough digits was
added up exactly. -/
theorem rounded_add_of_le {places : ℕ} (hx : OnGrid places x) (hy : OnGrid places y) (nonneg : 0 ≤ x + y)
    (storable : places ≤ 18) (small : limit < 10 ^ (20 - (places : ℤ)))
    (within : rounded (Decimal.add x y) ≤ limit) : rounded (Decimal.add x y) = x + y := by
  have coarse : OnGrid ((places : ℤ) - 20) ((10 : ℚ) ^ (20 - (places : ℤ))) :=
    ⟨1, by rw [← zpow_add₀ (by norm_num)]; norm_num⟩
  have sum : x + y < 10 ^ (20 - (places : ℤ)) := by
    by_contra large
    have power : significant Decimal.precision ((10 : ℚ) ^ (20 - (places : ℤ))) =
        10 ^ (20 - (places : ℤ)) := by
      apply significant_of_onGrid coarse
      rw [abs_of_pos (by positivity)]
      exact zpow_lt_zpow_right₀ (by norm_num) (by simp only [Decimal.precision]; omega)
    have added := @significant_mono Decimal.precision (by decide) _ _ (not_lt.mp large)
    rw [power] at added
    have stored : (10 : ℚ) ^ (20 - (places : ℤ)) ≤ rounded (Decimal.add x y) :=
      le_atPlaces halfUp_mode (coarse.mono (by simp only [scale]; omega)) added
    linarith
  rw [Decimal.add_exact hx hy (by rwa [abs_of_nonneg nonneg])]
  exact rounded_of_onGrid ((hx.add hy).mono (by simp only [scale]; omega))

end Numeric
end Exchange
