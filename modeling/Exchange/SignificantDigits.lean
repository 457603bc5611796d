import Mathlib.Algebra.Order.Floor.Ring
import Mathlib.Data.Int.Log
import Mathlib.Data.Rat.Floor
import Mathlib.Tactic

/-! Decimal rounding of rational numbers: to a number of decimal places in
one of three modes, and to a number of significant digits with ties away from
zero. A value is *on the grid* of a number of places when it needs no more of
them; rounding fixes the grid, and significant digits fix every grid value
that is small enough. -/
namespace Exchange.SignificantDigits

/-! ## Rounding to an integer -/

/-- Nearest integer, ties away from zero. -/
def halfUp (x : ℚ) : ℤ := if 0 ≤ x then ⌊x + 1 / 2⌋ else -⌊-x + 1 / 2⌋

/-- The integer part. -/
def towardZero (x : ℚ) : ℤ := if 0 ≤ x then ⌊x⌋ else -⌊-x⌋

/-- The next integer in absolute value. -/
def awayFromZero (x : ℚ) : ℤ := if 0 ≤ x then ⌈x⌉ else -⌈-x⌉

/-- What every rounding mode shares: integers stay, order is kept, and the
result does not depend on the sign. -/
structure RoundingMode (round : ℚ → ℤ) : Prop where
  intCast : ∀ n : ℤ, round n = n
  mono : Monotone round
  neg : ∀ x, round (-x) = -round x

private theorem odd_extension {half : ℚ → ℤ} (zero : half 0 = 0) (x : ℚ) :
    (if 0 ≤ -x then half (-x) else -half (- -x)) = -(if 0 ≤ x then half x else -half (-x)) := by
  rcases lt_trichotomy x 0 with negative | rfl | positive
  · simp [negative.not_ge, negative.le]
  · simp [zero]
  · simp [positive.not_ge, positive.le]

private theorem odd_extension_mono {half : ℚ → ℤ} (zero : half 0 = 0)
    (mono : ∀ x y, 0 ≤ x → x ≤ y → half x ≤ half y) :
    Monotone fun x => if 0 ≤ x then half x else -half (-x) := by
  intro x y le
  have positive : ∀ z, 0 ≤ z → 0 ≤ half z := fun z hz => zero ▸ mono 0 z le_rfl hz
  by_cases hx : 0 ≤ x
  · simpa [hx, hx.trans le] using mono x y hx le
  · by_cases hy : 0 ≤ y
    · have low := positive (-x) (by linarith)
      have high := positive y hy
      simp only [hx, hy, ↓reduceIte]
      omega
    · simpa [hx, hy] using mono (-y) (-x) (by linarith) (by linarith)

theorem halfUp_mode : RoundingMode halfUp where
  intCast n := by
    have half : ∀ m : ℤ, ⌊(m : ℚ) + 1 / 2⌋ = m := fun m => by
      rw [Int.floor_intCast_add, show ⌊(1 / 2 : ℚ)⌋ = 0 from by norm_num, add_zero]
    unfold halfUp
    split
    · exact half n
    · rw [← Int.cast_neg, half, neg_neg]
  mono := @odd_extension_mono (fun x => ⌊x + 1 / 2⌋) (by norm_num)
    fun _ _ _ le => Int.floor_le_floor (by linarith)
  neg := @odd_extension (fun x => ⌊x + 1 / 2⌋) (by norm_num)

theorem towardZero_mode : RoundingMode towardZero where
  intCast n := by
    unfold towardZero
    split
    · exact Int.floor_intCast n
    · rw [← Int.cast_neg, Int.floor_intCast, neg_neg]
  mono := odd_extension_mono Int.floor_zero fun _ _ _ le => Int.floor_le_floor le
  neg := odd_extension Int.floor_zero

theorem awayFromZero_mode : RoundingMode awayFromZero where
  intCast n := by
    unfold awayFromZero
    split
    · exact Int.ceil_intCast n
    · rw [← Int.cast_neg, Int.ceil_intCast, neg_neg]
  mono := odd_extension_mono Int.ceil_zero fun _ _ _ le => Int.ceil_le_ceil le
  neg := odd_extension Int.ceil_zero

theorem halfUp_error (x : ℚ) : |halfUp x - x| ≤ 1 / 2 := by
  have nonneg : ∀ y : ℚ, |(⌊y + 1 / 2⌋ : ℚ) - y| ≤ 1 / 2 := by
    intro y
    have low := Int.lt_floor_add_one (y + 1 / 2)
    have high := Int.floor_le (y + 1 / 2)
    rw [abs_le]
    constructor <;> linarith
  unfold halfUp
  split
  · exact nonneg x
  · have bound := nonneg (-x)
    rw [← abs_neg] at bound
    convert bound using 2
    push_cast
    ring

/-- Away from ties, half up is rounding to the floor of the value and a half. -/
private theorem halfUp_eq_floor {x : ℚ} (side : 0 ≤ x ∨ ∀ m : ℤ, x ≠ m + 1 / 2) :
    halfUp x = ⌊x + 1 / 2⌋ := by
  unfold halfUp
  split
  · rfl
  · rename_i negative
    have noTie := side.resolve_left negative
    have low := Int.floor_le (x + 1 / 2)
    have high := Int.lt_floor_add_one (x + 1 / 2)
    have apart : x ≠ (⌊x + 1 / 2⌋ - 1 : ℤ) + 1 / 2 := noTie _
    have strict : (⌊x + 1 / 2⌋ : ℚ) < x + 1 / 2 :=
      low.lt_of_ne fun same => apart (by push_cast; linarith)
    have flipped : ⌊-x + 1 / 2⌋ = -⌊x + 1 / 2⌋ := by
      rw [Int.floor_eq_iff]
      push_cast
      constructor <;> linarith
    rw [flipped, neg_neg]

/-- Half up commutes with adding an integer, unless a tie changes sign. -/
theorem halfUp_intCast_add {n : ℤ} {y : ℚ}
    (sameSide : ∀ m : ℤ, y = m + 1 / 2 → 0 < y * (n + y)) : halfUp (n + y) = n + halfUp y := by
  by_cases tie : ∃ m : ℤ, y = m + 1 / 2
  · obtain ⟨m, rfl⟩ := tie
    have signs := sameSide m rfl
    rcases pos_and_pos_or_neg_and_neg_of_mul_pos signs with ⟨hy, hsum⟩ | ⟨hy, hsum⟩
    · rw [halfUp, if_pos hsum.le, halfUp, if_pos hy.le, add_assoc, Int.floor_intCast_add]
    · rw [halfUp, if_neg hsum.not_ge, halfUp, if_neg hy.not_ge,
        show -((n : ℚ) + (m + 1 / 2)) + 1 / 2 = (-n : ℤ) + (-(m + 1 / 2) + 1 / 2) by
          push_cast; ring, Int.floor_intCast_add]
      ring
  · have noTie : ∀ m : ℤ, y ≠ m + 1 / 2 := fun m same => tie ⟨m, same⟩
    have noTie' : ∀ m : ℤ, (n : ℚ) + y ≠ m + 1 / 2 := fun m same =>
      noTie (m - n) (by push_cast; linarith)
    rw [halfUp_eq_floor (.inr noTie), halfUp_eq_floor (.inr noTie'), add_assoc,
      Int.floor_intCast_add]

/-! ## Decimal grids -/

/-- The value needs at most this many decimal places (a negative number of
places is a coarser grid than the integers). -/
def OnGrid (places : ℤ) (x : ℚ) : Prop := ∃ n : ℤ, x * 10 ^ places = n

theorem ten_zpow_pos (places : ℤ) : (0 : ℚ) < 10 ^ places := by positivity

@[simp] theorem onGrid_zero (places : ℤ) : OnGrid places 0 := ⟨0, by simp⟩

theorem onGrid_div (places n : ℤ) : OnGrid places (n / 10 ^ places) :=
  ⟨n, div_mul_cancel₀ _ (ten_zpow_pos places).ne'⟩

theorem OnGrid.add (hx : OnGrid places x) (hy : OnGrid places y) : OnGrid places (x + y) := by
  obtain ⟨m, hm⟩ := hx
  obtain ⟨n, hn⟩ := hy
  exact ⟨m + n, by rw [add_mul, hm, hn]; push_cast; rfl⟩

theorem OnGrid.neg (hx : OnGrid places x) : OnGrid places (-x) := by
  obtain ⟨m, hm⟩ := hx
  exact ⟨-m, by rw [neg_mul, hm]; push_cast; rfl⟩

theorem OnGrid.sub (hx : OnGrid places x) (hy : OnGrid places y) : OnGrid places (x - y) :=
  sub_eq_add_neg x y ▸ hx.add hy.neg

theorem OnGrid.mul (hx : OnGrid places x) (hy : OnGrid places' y) :
    OnGrid (places + places') (x * y) := by
  obtain ⟨m, hm⟩ := hx
  obtain ⟨n, hn⟩ := hy
  refine ⟨m * n, ?_⟩
  rw [zpow_add₀ (by norm_num)]
  push_cast
  rw [← hm, ← hn]
  ring

/-- A finer grid contains every coarser one. -/
theorem OnGrid.mono (hx : OnGrid places x) (le : places ≤ places') : OnGrid places' x := by
  obtain ⟨n, hn⟩ := hx
  obtain ⟨extra, rfl⟩ := Int.le.dest le
  refine ⟨n * 10 ^ extra, ?_⟩
  rw [zpow_add₀ (by norm_num), ← mul_assoc, hn, zpow_natCast]
  push_cast
  rfl

/-- Two grid values that differ, differ by a whole unit of the grid. -/
theorem OnGrid.add_unit_le (hx : OnGrid places x) (hy : OnGrid places y) (lt : x < y) :
    x + 10 ^ (-places) ≤ y := by
  obtain ⟨m, hm⟩ := hx
  obtain ⟨n, hn⟩ := hy
  have scale := ten_zpow_pos places
  have step : (m : ℚ) + 1 ≤ n := by
    have : (m : ℚ) < n := by rw [← hm, ← hn]; exact mul_lt_mul_of_pos_right lt scale
    exact_mod_cast this
  rw [← mul_le_mul_iff_left₀ scale, add_mul, hm, hn, ← zpow_add₀ (by norm_num)]
  simpa using step

theorem OnGrid.le_of_lt_add_unit (hx : OnGrid places x) (hy : OnGrid places y)
    (lt : x < y + 10 ^ (-places)) : x ≤ y :=
  not_lt.mp fun above => (hy.add_unit_le hx above).not_gt lt

theorem OnGrid.sum {values : List ℚ} (each : ∀ x ∈ values, OnGrid places x) :
    OnGrid places values.sum := by
  induction values with
  | nil => simp
  | cons head rest ih =>
    rw [List.sum_cons]
    exact (each head (by simp)).add (ih fun x member => each x (by simp [member]))

/-! ## Rounding to decimal places -/

/-- Rounding to a number of decimal places. -/
def atPlaces (round : ℚ → ℤ) (places : ℤ) (x : ℚ) : ℚ := round (x * 10 ^ places) / 10 ^ places

theorem atPlaces_onGrid (round : ℚ → ℤ) (places : ℤ) (x : ℚ) :
    OnGrid places (atPlaces round places x) := onGrid_div places _

section Mode
variable {round : ℚ → ℤ} (mode : RoundingMode round)
include mode

theorem atPlaces_of_onGrid (hx : OnGrid places x) : atPlaces round places x = x := by
  obtain ⟨n, hn⟩ := hx
  rw [atPlaces, hn, mode.intCast, ← hn, mul_div_cancel_right₀ _ (ten_zpow_pos places).ne']

theorem atPlaces_mono (le : x ≤ y) : atPlaces round places x ≤ atPlaces round places y := by
  have scale := (ten_zpow_pos places).le
  unfold atPlaces
  exact div_le_div_of_nonneg_right
    (by exact_mod_cast mode.mono (mul_le_mul_of_nonneg_right le scale)) scale

theorem atPlaces_neg (places : ℤ) (x : ℚ) :
    atPlaces round places (-x) = -atPlaces round places x := by
  rw [atPlaces, neg_mul, mode.neg, atPlaces]
  push_cast
  ring

theorem atPlaces_nonneg (nonneg : 0 ≤ x) : 0 ≤ atPlaces round places x := by
  have ordered : atPlaces round places 0 ≤ atPlaces round places x := atPlaces_mono mode nonneg
  rwa [atPlaces_of_onGrid mode (onGrid_zero places)] at ordered

/-- Rounding never passes a grid value. -/
theorem le_atPlaces (grid : OnGrid places g) (le : g ≤ x) : g ≤ atPlaces round places x :=
  (atPlaces_of_onGrid mode grid).symm.le.trans (atPlaces_mono mode le)

theorem atPlaces_le (grid : OnGrid places g) (le : x ≤ g) : atPlaces round places x ≤ g :=
  (atPlaces_mono mode le).trans (atPlaces_of_onGrid mode grid).le

end Mode

/-- Truncation of a nonnegative value: the grid value below it. -/
theorem truncate_le (nonneg : 0 ≤ x) : atPlaces towardZero places x ≤ x := by
  have scale := ten_zpow_pos places
  rw [atPlaces, div_le_iff₀ scale, towardZero, if_pos (mul_nonneg nonneg scale.le)]
  exact Int.floor_le _

/-- Truncation stays within a bound that no grid value above it is reached from. -/
theorem truncate_le_iff (nonneg : 0 ≤ x) :
    atPlaces towardZero places x ≤ y ↔ ∀ g, OnGrid places g → y < g → x < g := by
  constructor
  · intro le g grid above
    by_contra reached
    have passed := le_atPlaces towardZero_mode grid (not_lt.mp reached)
    linarith
  · intro within
    by_contra above
    have below := within _ (atPlaces_onGrid towardZero places x) (not_le.mp above)
    exact absurd (truncate_le nonneg) (not_le.mpr below)

/-- Rounding a nonnegative value away from zero: the grid value above it. -/
theorem le_roundAway (nonneg : 0 ≤ x) : x ≤ atPlaces awayFromZero places x := by
  have scale := ten_zpow_pos places
  rw [atPlaces, le_div_iff₀ scale, awayFromZero, if_pos (mul_nonneg nonneg scale.le)]
  exact Int.le_ceil _

/-- Rounding half up moves by at most half a unit. -/
theorem nearest_error (places : ℤ) (x : ℚ) :
    |atPlaces halfUp places x - x| ≤ 10 ^ (-places) / 2 := by
  have scale := ten_zpow_pos places
  have error := halfUp_error (x * 10 ^ places)
  have rewritten : atPlaces halfUp places x - x =
      (halfUp (x * 10 ^ places) - x * 10 ^ places) * 10 ^ (-places) := by
    rw [atPlaces, zpow_neg, sub_mul, mul_assoc, mul_inv_cancel₀ scale.ne', mul_one,
      div_eq_mul_inv]
  rw [rewritten, abs_mul, abs_of_pos (ten_zpow_pos (-places))]
  linarith [mul_le_mul_of_nonneg_right error (ten_zpow_pos (-places)).le]

/-! ## Rounding to significant digits -/

/-- The first `digits` decimal digits, ties away from zero. The last digit
kept stands at the place that the value's own magnitude determines. -/
def significant (digits : ℕ) (x : ℚ) : ℚ := atPlaces halfUp (digits - 1 - Int.log 10 |x|) x

variable {digits : ℕ}

theorem significant_neg (digits : ℕ) (x : ℚ) : significant digits (-x) = -significant digits x := by
  rw [significant, abs_neg, atPlaces_neg halfUp_mode, significant]

@[simp] theorem significant_zero (digits : ℕ) : significant digits 0 = 0 :=
  atPlaces_of_onGrid halfUp_mode (onGrid_zero _)

theorem significant_nonneg (nonneg : 0 ≤ x) : 0 ≤ significant digits x :=
  atPlaces_nonneg halfUp_mode nonneg

/-- A grid value with few enough digits is kept as it is. -/
theorem significant_of_onGrid (grid : OnGrid places x) (small : |x| < 10 ^ (digits - places)) :
    significant digits x = x := by
  by_cases zero : x = 0
  · rw [zero, significant_zero]
  · have positive : 0 < |x| := abs_pos.mpr zero
    have magnitude : Int.log 10 |x| < digits - places :=
      (Int.lt_zpow_iff_log_lt (by norm_num) positive).mp (by exact_mod_cast small)
    exact atPlaces_of_onGrid halfUp_mode (grid.mono (by omega))

/-- Rounding to significant digits stays on every grid: it either changes
nothing or goes to a coarser one. -/
theorem significant_onGrid (grid : OnGrid places x) : OnGrid places (significant digits x) := by
  rcases le_or_gt places (digits - 1 - Int.log 10 |x|) with fine | coarse
  · rwa [significant, atPlaces_of_onGrid halfUp_mode (grid.mono fine)]
  · exact (atPlaces_onGrid halfUp _ x).mono coarse.le

theorem log_scale (positive : 0 < x) (places : ℤ) : Int.log 10 (x * 10 ^ places : ℚ) = Int.log 10 x + places := by
  have scaled : (0 : ℚ) < x * 10 ^ places := mul_pos positive (ten_zpow_pos places)
  have low : (10 : ℚ) ^ (Int.log 10 x + places) ≤ x * 10 ^ places := by
    rw [zpow_add₀ (by norm_num)]
    exact mul_le_mul_of_nonneg_right (by exact_mod_cast Int.zpow_log_le_self (b := 10) (by norm_num) positive)
      (ten_zpow_pos places).le
  have high : x * 10 ^ places < (10 : ℚ) ^ (Int.log 10 x + places + 1) := by
    rw [show Int.log 10 x + places + 1 = Int.log 10 x + 1 + places by ring, zpow_add₀ (by norm_num)]
    exact mul_lt_mul_of_pos_right (by exact_mod_cast Int.lt_zpow_succ_log_self (b := 10) (by norm_num) x)
      (ten_zpow_pos places)
  refine le_antisymm (Int.lt_add_one_iff.mp ?_) ?_
  · exact (Int.lt_zpow_iff_log_lt (by norm_num) scaled).mp (by exact_mod_cast high)
  · exact (Int.zpow_le_iff_le_log (by norm_num) scaled).mp (by exact_mod_cast low)

/-- Moving the point does not change which digits are kept. -/
theorem significant_scale (digits : ℕ) (x : ℚ) (places : ℤ) :
    significant digits (x * 10 ^ places) = significant digits x * 10 ^ places := by
  by_cases zero : x = 0
  · simp [zero]
  · have scale := ten_zpow_pos places
    have magnitude : Int.log 10 |x * 10 ^ places| = Int.log 10 |x| + places := by
      rw [abs_mul, abs_of_pos scale, log_scale (abs_pos.mpr zero)]
    have shifted : x * 10 ^ places * 10 ^ ((digits : ℤ) - 1 - (Int.log 10 |x| + places)) =
        x * 10 ^ ((digits : ℤ) - 1 - Int.log 10 |x|) := by
      rw [mul_assoc, ← zpow_add₀ (by norm_num)]
      congr 2
      ring
    rw [significant, magnitude, atPlaces, shifted, significant, atPlaces, div_mul_eq_mul_div, div_eq_div_iff
      (ten_zpow_pos _).ne' (ten_zpow_pos _).ne', mul_assoc, ← zpow_add₀ (by norm_num)]
    congr 2
    ring

/-- The relative error is at most half a unit of the last digit kept. -/
theorem significant_error (digits : ℕ) (x : ℚ) :
    |significant digits x - x| ≤ 5 * 10 ^ (-(digits : ℤ)) * |x| := by
  by_cases zero : x = 0
  · simp [zero]
  · have magnitude : (10 : ℚ) ^ Int.log 10 |x| ≤ |x| := by
      exact_mod_cast Int.zpow_log_le_self (b := 10) (by norm_num) (abs_pos.mpr zero)
    refine (nearest_error _ x).trans ?_
    have split : (10 : ℚ) ^ (-((digits : ℤ) - 1 - Int.log 10 |x|)) =
        10 * 10 ^ (-(digits : ℤ)) * 10 ^ Int.log 10 |x| := by
      rw [show -((digits : ℤ) - 1 - Int.log 10 |x|) = 1 + (-(digits : ℤ)) + Int.log 10 |x| by ring,
        zpow_add₀ (by norm_num), zpow_add₀ (by norm_num), zpow_one]
    rw [split]
    have scaled := mul_le_mul_of_nonneg_left magnitude (ten_zpow_pos (-(digits : ℤ))).le
    linarith

theorem significant_le (nonneg : 0 ≤ x) :
    significant digits x ≤ (1 + 5 * 10 ^ (-(digits : ℤ))) * x := by
  have error := (abs_le.mp (significant_error digits x)).2
  rw [abs_of_nonneg nonneg] at error
  linarith

theorem le_significant (nonneg : 0 ≤ x) :
    (1 - 5 * 10 ^ (-(digits : ℤ))) * x ≤ significant digits x := by
  have error := (abs_le.mp (significant_error digits x)).1
  rw [abs_of_nonneg nonneg] at error
  linarith

private theorem significant_between (room : 1 ≤ digits) (positive : 0 < x) :
    (10 : ℚ) ^ Int.log 10 x ≤ significant digits x ∧
      significant digits x ≤ 10 ^ (Int.log 10 x + 1) := by
  have low : (10 : ℚ) ^ Int.log 10 x ≤ x := by
    exact_mod_cast Int.zpow_log_le_self (b := 10) (by norm_num) positive
  have high : x ≤ (10 : ℚ) ^ (Int.log 10 x + 1) := by
    exact_mod_cast (Int.lt_zpow_succ_log_self (b := 10) (by norm_num) x).le
  have power : ∀ e : ℤ, Int.log 10 x ≤ e →
      OnGrid ((digits : ℤ) - 1 - Int.log 10 |x|) ((10 : ℚ) ^ e) := by
    intro e le
    rw [abs_of_pos positive]
    have coarse : OnGrid (-e) ((10 : ℚ) ^ e) := ⟨1, by rw [← zpow_add₀ (by norm_num)]; simp⟩
    exact coarse.mono (by omega)
  exact ⟨le_atPlaces halfUp_mode (power _ le_rfl) low,
    atPlaces_le halfUp_mode (power _ (by omega)) high⟩

private theorem significant_mono_pos (room : 1 ≤ digits) (positive : 0 < x) (le : x ≤ y) :
    significant digits x ≤ significant digits y := by
  have magnitude : Int.log 10 x ≤ Int.log 10 y := Int.log_mono_right positive le
  rcases magnitude.eq_or_lt with same | smaller
  · unfold significant
    rw [abs_of_pos positive, abs_of_pos (positive.trans_le le), same]
    exact atPlaces_mono halfUp_mode le
  · calc significant digits x
        ≤ 10 ^ (Int.log 10 x + 1) := (significant_between room positive).2
      _ ≤ (10 : ℚ) ^ Int.log 10 y := zpow_le_zpow_right₀ (by norm_num) smaller
      _ ≤ significant digits y := (significant_between room (positive.trans_le le)).1

/-- Rounding to significant digits keeps order, across changes of magnitude. -/
theorem significant_mono (room : 1 ≤ digits) : Monotone (significant digits) := by
  intro x y le
  rcases lt_trichotomy x 0 with negative | rfl | positive
  · rcases lt_or_ge y 0 with negative' | nonneg
    · have flipped := significant_mono_pos room (neg_pos.mpr negative') (neg_le_neg le)
      rw [significant_neg, significant_neg] at flipped
      exact neg_le_neg_iff.mp flipped
    · have below : 0 ≤ significant digits (-x) := significant_nonneg (by linarith)
      rw [significant_neg] at below
      exact (by linarith : significant digits x ≤ 0).trans (significant_nonneg nonneg)
  · rw [significant_zero]
    exact significant_nonneg le
  · exact significant_mono_pos room positive le

/-- A positive value never rounds to zero. -/
theorem significant_pos (room : 1 ≤ digits) (positive : 0 < x) : 0 < significant digits x :=
  (ten_zpow_pos _).trans_le (significant_between room positive).1

theorem significant_pos_iff (room : 1 ≤ digits) : 0 < significant digits x ↔ 0 < x := by
  refine ⟨fun positive => ?_, significant_pos room⟩
  by_contra nonpositive
  have below : significant digits x ≤ significant digits 0 := significant_mono room (not_lt.mp nonpositive)
  rw [significant_zero] at below
  exact absurd positive below.not_gt

theorem significant_eq_zero (room : 1 ≤ digits) : significant digits x = 0 ↔ x = 0 := by
  refine ⟨fun zero => ?_, fun zero => zero ▸ significant_zero digits⟩
  rcases lt_trichotomy x 0 with negative | rfl | positive
  · have flipped := significant_pos room (neg_pos.mpr negative)
    rw [significant_neg, zero] at flipped
    simp at flipped
  · rfl
  · exact absurd zero (significant_pos room positive).ne'

/-! ## Values with few digits -/

/-- A value that has at most so many significant digits. -/
def Short (digits : ℕ) (x : ℚ) : Prop := significant digits x = x

theorem short_of_onGrid (room : 1 ≤ digits) (grid : OnGrid places x) (small : |x| ≤ 10 ^ (digits - places)) :
    Short digits x := by
  rcases small.lt_or_eq with lt | power
  · exact significant_of_onGrid grid lt
  · -- a power of ten is on a coarser grid
    have coarse : OnGrid (places - digits) |x| := ⟨1, by rw [power, ← zpow_add₀ (by norm_num)]; simp⟩
    have grid' : OnGrid (places - digits) x := by
      rcases abs_choice x with same | opposite
      · rwa [same] at coarse
      · rw [opposite] at coarse
        simpa using coarse.neg
    refine significant_of_onGrid grid' ?_
    rw [power]
    exact zpow_lt_zpow_right₀ (by norm_num) (by omega)

/-- The grid that a rounded value is on, and how large it is in its units. -/
theorem significant_grid (room : 1 ≤ digits) (nonneg : 0 ≤ x) :
    ∃ places : ℤ, OnGrid places (significant digits x) ∧ significant digits x ≤ 10 ^ (digits - places) := by
  rcases nonneg.eq_or_lt with rfl | positive
  · exact ⟨0, by simp, by simp⟩
  · refine ⟨digits - 1 - Int.log 10 |x|, atPlaces_onGrid _ _ _, ?_⟩
    rw [abs_of_pos positive, show (digits : ℤ) - (digits - 1 - Int.log 10 x) = Int.log 10 x + 1 by ring]
    exact (significant_between room positive).2

theorem short_significant (room : 1 ≤ digits) (nonneg : 0 ≤ x) : Short digits (significant digits x) := by
  obtain ⟨places, grid, small⟩ := significant_grid room nonneg
  exact short_of_onGrid room grid (by rwa [abs_of_nonneg (significant_nonneg nonneg)])

end Exchange.SignificantDigits
