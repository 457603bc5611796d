import Exchange.EvmVerifier
import Exchange.ScannerService
import Exchange.WithdrawalService

/-! On-chain amounts between base units and decimals: the scanner divides, a
withdrawal multiplies, and the verifier of master-wallet deposits sets the
point in the text. The first two round to 20 digits, the last does not. -/
namespace Exchange.BaseUnits
open SignificantDigits Numerals
open Scanner.Service (baseToHuman)
open Withdrawal.Service (humanToBase)
open EvmVerifier (formatUnits decimalValue_formatUnits)

/-- The three conversions say the same of an amount. -/
structure ConvertsExactly (amountBase decimals : ℕ) : Prop where
  scaled : baseToHuman amountBase decimals * 10 ^ decimals = amountBase
  inverted : humanToBase (baseToHuman amountBase decimals) decimals = .ok amountBase
  formatted : baseToHuman amountBase decimals = decimalValue (formatUnits amountBase decimals)

/-- An amount with more decimals than the asset has is refused. -/
def RejectsFiner (amount : Decimal) (decimals : ℕ) : Prop :=
  ¬OnGrid decimals amount → ∃ failure, humanToBase amount decimals = .error failure

theorem baseToHuman_eq (amountBase decimals : ℕ) :
    baseToHuman amountBase decimals = significant Decimal.precision amountBase / 10 ^ decimals := by
  have moved := significant_scale Decimal.precision amountBase (-(decimals : ℤ))
  rwa [zpow_neg, zpow_natCast, ← div_eq_mul_inv, ← div_eq_mul_inv] at moved

theorem onGrid_zero_iff : OnGrid 0 x ↔ x.den = 1 := by
  simp only [OnGrid, zpow_zero, mul_one]
  constructor
  · rintro ⟨n, rfl⟩
    rfl
  · exact fun whole => ⟨x.num, (Rat.coe_int_num_of_den_eq_one whole).symm⟩

/-- It gives whole base units, or is refused. -/
theorem humanToBase_eq_ok (amount : Decimal) (decimals : ℕ) (base : ℤ) :
    humanToBase amount decimals = .ok base ↔ significant Decimal.precision (amount * 10 ^ decimals) = base := by
  unfold humanToBase Decimal.mul
  dsimp only
  split
  · rename_i whole
    rw [Except.ok.injEq]
    refine ⟨?_, fun isBase => by rw [isBase, Rat.num_intCast]⟩
    rintro rfl
    exact (Rat.coe_int_num_of_den_eq_one whole).symm
  · rename_i broken
    refine ⟨nofun, fun isBase => absurd ?_ broken⟩
    rw [isBase]
    rfl

theorem humanToBase_error (amount : Decimal) (decimals : ℕ) :
    (∃ failure, humanToBase amount decimals = .error failure) ↔
      ¬OnGrid 0 (significant Decimal.precision (amount * 10 ^ decimals)) := by
  rw [onGrid_zero_iff]
  unfold humanToBase Decimal.mul
  dsimp only
  split
  · rename_i whole
    exact ⟨nofun, fun broken => absurd whole broken⟩
  · rename_i broken
    exact ⟨fun _ => broken, fun _ => ⟨_, rfl⟩⟩

theorem convertsExactly_iff (amountBase decimals : ℕ) :
    ConvertsExactly amountBase decimals ↔ Short Decimal.precision (amountBase : ℚ) := by
  have scale : (10 : ℚ) ^ decimals ≠ 0 := by positivity
  constructor
  · intro converts
    have scaled := converts.scaled
    rwa [baseToHuman_eq, div_mul_cancel₀ _ scale] at scaled
  · intro short
    have exact : baseToHuman amountBase decimals = amountBase / 10 ^ decimals := by
      rw [baseToHuman_eq, short]
    refine ⟨by rw [exact, div_mul_cancel₀ _ scale], (humanToBase_eq_ok _ _ _).mpr ?_, ?_⟩
    · rw [exact, div_mul_cancel₀ _ scale, short, Int.cast_natCast]
    · rw [exact, decimalValue_formatUnits, Int.cast_natCast]

/-- Exactly the base amounts of 20 digits or less are converted exactly, and
what is finer than the asset is refused unless rounding hides it. -/
theorem conversions_exact_iff (amountBase decimals : ℕ) (amount : Decimal) :
    (ConvertsExactly amountBase decimals ∧ RejectsFiner amount decimals) ↔
      Short Decimal.precision (amountBase : ℚ) ∧
        (OnGrid decimals amount ∨ ¬OnGrid 0 (significant Decimal.precision (amount * 10 ^ decimals))) := by
  rw [convertsExactly_iff, RejectsFiner, humanToBase_error, ← or_iff_not_imp_left]

/-- 123.456789012345678901 of an asset with 18 decimals. -/
theorem wei_lost : ¬∀ (amountBase decimals : ℕ) (amount : Decimal), amountBase < 10 ^ 78 → decimals ≤ 18 →
    ConvertsExactly amountBase decimals ∧ RejectsFiner amount decimals := by
  intro always
  have scaled := (always 123456789012345678901 18 0 (by norm_num) le_rfl).1.scaled
  revert scaled
  decide +kernel

end Exchange.BaseUnits
