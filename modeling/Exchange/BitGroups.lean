import Mathlib.Data.List.Induction
import Mathlib.Data.Nat.Basic
import Mathlib.Tactic.Common
import Mathlib.Tactic.Ring

/-! Bits regrouped: numbers written with a width, the highest bit first, and a
string of bits cut into pieces of another width. -/
namespace Exchange.BitGroups

/-- The binary digits of a number, padded to a width. -/
def bits (width n : ℕ) : List Bool :=
  match width with
  | 0 => []
  | width + 1 => bits width (n / 2) ++ [decide (n % 2 = 1)]

/-- The number with these binary digits. -/
def value (digits : List Bool) : ℕ := digits.foldl (fun n digit => 2 * n + digit.toNat) 0

/-- The pieces of a width, one after the other; what is left is dropped. -/
def pieces (width : ℕ) (digits : List Bool) : List (List Bool) :=
  (List.range (digits.length / width)).map fun i => (digits.drop (i * width)).take width

/-- What is left behind the pieces. -/
def remainder (width : ℕ) (digits : List Bool) : List Bool := digits.drop (digits.length - digits.length % width)

@[simp] theorem length_bits (width n : ℕ) : (bits width n).length = width := by
  induction width generalizing n with
  | zero => rfl
  | succ width ih => rw [bits, List.length_append, ih, List.length_singleton]

theorem value_append (digits : List Bool) (digit : Bool) :
    value (digits ++ [digit]) = 2 * value digits + digit.toNat := by
  rw [value, List.foldl_append]
  rfl

theorem value_bits (small : n < 2 ^ width) : value (bits width n) = n := by
  induction width generalizing n with
  | zero =>
    rw [Nat.lt_one_iff.mp small]
    rfl
  | succ width ih =>
    rw [bits, value_append, ih (by omega)]
    rcases Nat.mod_two_eq_zero_or_one n with even | odd
    · simp only [even, zero_ne_one, decide_false, Bool.toNat_false]
      omega
    · simp only [odd, decide_true, Bool.toNat_true]
      omega

theorem value_lt (digits : List Bool) : value digits < 2 ^ digits.length := by
  induction digits using List.reverseRecOn with
  | nil => exact Nat.one_pos
  | append_singleton digits digit ih =>
    rw [value_append, List.length_append, List.length_singleton, pow_succ]
    have := digit.toNat_lt
    omega

theorem bits_value (digits : List Bool) : bits digits.length (value digits) = digits := by
  induction digits using List.reverseRecOn with
  | nil => rfl
  | append_singleton digits digit ih =>
    rw [List.length_append, List.length_singleton, bits, value_append]
    have half : (2 * value digits + digit.toNat) / 2 = value digits := by
      have := digit.toNat_lt
      omega
    have last : decide ((2 * value digits + digit.toNat) % 2 = 1) = digit := by
      cases digit <;> simp
    rw [half, ih, last]

theorem length_piece (member : piece ∈ pieces width digits) : piece.length = width := by
  obtain ⟨i, inRange, rfl⟩ := List.mem_map.mp member
  rw [List.mem_range] at inRange
  have enough : (i + 1) * width ≤ digits.length := (Nat.mul_le_mul_right width inRange).trans (Nat.div_mul_le_self _ _)
  rw [List.length_take, List.length_drop]
  rw [Nat.succ_mul] at enough
  omega

theorem length_remainder (width : ℕ) (digits : List Bool) : (remainder width digits).length = digits.length % width := by
  have least := Nat.mod_le digits.length width
  rw [remainder, List.length_drop]
  omega

/-- The first piece, and those of the rest. -/
theorem pieces_append (positive : 0 < width) (isPiece : piece.length = width) (rest : List Bool) :
    pieces width (piece ++ rest) = piece :: pieces width rest := by
  have count : (piece ++ rest).length / width = rest.length / width + 1 := by
    rw [List.length_append, isPiece, Nat.add_div_left _ positive]
  rw [pieces, count, List.range_succ_eq_map, List.map_cons, List.map_map, Nat.zero_mul, List.drop_zero,
    List.take_left' isPiece]
  refine congrArg _ (List.map_congr_left fun i _ => ?_)
  rw [Function.comp_apply, Nat.succ_mul, Nat.add_comm, ← isPiece, List.drop_length_add_append]

theorem pieces_short (short : digits.length < width) : pieces width digits = [] := by
  rw [pieces, Nat.div_eq_of_lt short]
  rfl

/-- Pieces put together are found again, whatever shorter follows. -/
theorem pieces_flatten (positive : 0 < width) (groups : List (List Bool)) (isPiece : ∀ piece ∈ groups, piece.length = width)
    (short : rest.length < width) : pieces width (groups.flatten ++ rest) = groups := by
  induction groups with
  | nil => exact pieces_short short
  | cons piece groups ih =>
    obtain ⟨isFirst, later⟩ := List.forall_mem_cons.mp isPiece
    rw [List.flatten_cons, List.append_assoc, pieces_append positive isFirst, ih later]

/-- Nothing is lost between the pieces and what is left. -/
theorem flatten_pieces (positive : 0 < width) (digits : List Bool) :
    (pieces width digits).flatten ++ remainder width digits = digits := by
  induction isLength : digits.length using Nat.strong_induction_on generalizing digits with
  | _ length ih =>
    subst isLength
    by_cases short : digits.length < width
    · rw [pieces_short short, remainder, Nat.mod_eq_of_lt short, Nat.sub_self]
      rfl
    · have long := not_lt.mp short
      have isPiece : (digits.take width).length = width := List.length_take_of_le long
      have split := List.take_append_drop width digits
      have fewer : (digits.drop width).length < digits.length := by
        rw [List.length_drop]
        omega
      have rest := ih _ fewer (digits.drop width) rfl
      have left : remainder width (digits.drop width) = remainder width digits := by
        have sameRest : (digits.length - width) % width = digits.length % width := (Nat.mod_eq_sub_mod long).symm
        have least := Nat.mod_le (digits.length - width) width
        rw [remainder, List.length_drop, sameRest, List.drop_drop, remainder]
        congr 1
        omega
      rw [left] at rest
      rw [← split, pieces_append positive isPiece, split, List.flatten_cons, List.append_assoc, rest, split]

end Exchange.BitGroups
