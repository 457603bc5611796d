import Mathlib.Data.List.DropRight
import Mathlib.Data.Rat.Cast.Order
import Mathlib.Tactic

/-! Decimal numerals as text: digits padded in front and stripped of zeros at
the end, and the value of a numeral with a sign and a point. -/
namespace Exchange.Numerals

/-- `digits.padStart(length, '0')` -/
def padStart (length : ℕ) (digits : List Char) : List Char :=
  List.replicate (length - digits.length) '0' ++ digits

/-- `digits.replace(/0+$/, '')` -/
def stripZeros (digits : List Char) : List Char := digits.rdropWhile (· = '0')

/-- A numeral with a point, unless there is nothing behind it. -/
def numeral (whole frac : List Char) : List Char := whole ++ if frac = [] then [] else '.' :: frac

/-- The value of a numeral without a sign. -/
def unsignedValue (text : List Char) : ℚ :=
  let whole := text.takeWhile (· ≠ '.')
  let frac := (text.dropWhile (· ≠ '.')).drop 1
  Nat.ofDigitChars 10 (whole ++ frac) 0 / 10 ^ frac.length

/-- The value of a numeral. -/
def decimalValue : List Char → ℚ
  | '-' :: text => -unsignedValue text
  | text => unsignedValue text

@[simp] theorem length_padStart (length : ℕ) (digits : List Char) :
    (padStart length digits).length = max length digits.length := by
  simp only [padStart, List.length_append, List.length_replicate]
  omega

theorem ofDigitChars_padStart (length : ℕ) (digits : List Char) :
    Nat.ofDigitChars 10 (padStart length digits) 0 = Nat.ofDigitChars 10 digits 0 := by
  rw [padStart, Nat.ofDigitChars_append, Nat.ofDigitChars_replicate_zero, mul_zero]

theorem isDigit_padStart (digits : ∀ c ∈ text, c.isDigit) : ∀ c ∈ padStart length text, c.isDigit := by
  intro c member
  rcases List.mem_append.mp member with zero | digit
  · rw [List.eq_of_mem_replicate zero]
    rfl
  · exact digits c digit

/-- What is stripped are zeros. -/
theorem stripZeros_append (digits : List Char) :
    ∃ zeros, digits = stripZeros digits ++ List.replicate zeros '0' := by
  refine ⟨(digits.rtakeWhile (· = '0')).length, ?_⟩
  have zeros : digits.rtakeWhile (· = '0') = List.replicate (digits.rtakeWhile (· = '0')).length '0' :=
    List.eq_replicate_of_mem fun c member => by simpa using List.mem_rtakeWhile_imp member
  rw [← zeros]
  simp only [stripZeros, List.rdropWhile, List.rtakeWhile]
  rw [← List.reverse_append, List.takeWhile_append_dropWhile, List.reverse_reverse]

theorem unsignedValue_numeral (digits : ∀ c ∈ whole, c.isDigit) :
    unsignedValue (numeral whole frac) = Nat.ofDigitChars 10 (whole ++ frac) 0 / 10 ^ frac.length := by
  have noPoint : ∀ c ∈ whole, (decide (c ≠ '.')) = true := by
    intro c member
    have digit := digits c member
    rw [decide_eq_true_eq]
    rintro rfl
    cases digit
  unfold unsignedValue numeral
  rw [List.takeWhile_append_of_pos noPoint, List.dropWhile_append_of_pos noPoint]
  by_cases nothing : frac = []
  · simp [nothing]
  · simp [nothing]

theorem decimalValue_numeral (digits : ∀ c ∈ whole, c.isDigit) :
    decimalValue (numeral whole frac) = Nat.ofDigitChars 10 (whole ++ frac) 0 / 10 ^ frac.length := by
  rw [← unsignedValue_numeral digits]
  unfold decimalValue
  split
  · rename_i text isText
    -- a digit is no sign, and neither is the point
    cases whole with
    | nil =>
      unfold numeral at isText
      split at isText <;> cases isText
    | cons first rest =>
      have digit := digits first List.mem_cons_self
      cases isText
      cases digit
  · rfl

/-- Setting the point so many digits from the end divides by that power of ten,
and the zeros stripped behind it do not count. -/
theorem ofDigitChars_pointed {digits : List Char} {places : ℕ} (enough : places ≤ digits.length) :
    (Nat.ofDigitChars 10 (digits.take (digits.length - places) ++
        stripZeros (digits.drop (digits.length - places))) 0 : ℚ) /
      10 ^ (stripZeros (digits.drop (digits.length - places))).length =
        Nat.ofDigitChars 10 digits 0 / 10 ^ places := by
  obtain ⟨zeros, split⟩ := stripZeros_append (digits.drop (digits.length - places))
  have length : places = (stripZeros (digits.drop (digits.length - places))).length + zeros := by
    have counted := congrArg List.length split
    rw [List.length_append, List.length_drop, List.length_replicate] at counted
    omega
  have whole : Nat.ofDigitChars 10 digits 0 = 10 ^ zeros * Nat.ofDigitChars 10
      (digits.take (digits.length - places) ++ stripZeros (digits.drop (digits.length - places))) 0 := by
    rw [← Nat.ofDigitChars_replicate_zero, ← Nat.ofDigitChars_append, List.append_assoc, ← split,
      List.take_append_drop]
  have scale : (10 : ℚ) ^ places = 10 ^ (stripZeros (digits.drop (digits.length - places))).length * 10 ^ zeros := by
    rw [← pow_add, ← length]
  rw [whole, scale]
  push_cast
  field_simp

theorem decimalValue_pointed {digits : List Char} {places : ℕ} (isDigits : ∀ c ∈ digits, c.isDigit)
    (enough : places ≤ digits.length) :
    decimalValue (numeral (digits.take (digits.length - places))
      (stripZeros (digits.drop (digits.length - places)))) = Nat.ofDigitChars 10 digits 0 / 10 ^ places := by
  rw [decimalValue_numeral fun c member => isDigits c (List.mem_of_mem_take member), ofDigitChars_pointed enough]

theorem decimalValue_neg_pointed {digits : List Char} {places : ℕ} (isDigits : ∀ c ∈ digits, c.isDigit)
    (enough : places ≤ digits.length) :
    decimalValue ('-' :: numeral (digits.take (digits.length - places))
      (stripZeros (digits.drop (digits.length - places)))) = -(Nat.ofDigitChars 10 digits 0 / 10 ^ places) := by
  rw [decimalValue, unsignedValue_numeral fun c member => isDigits c (List.mem_of_mem_take member),
    ofDigitChars_pointed enough]

end Exchange.Numerals
