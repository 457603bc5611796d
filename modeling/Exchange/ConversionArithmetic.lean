import Exchange.ConversionPlan
import Exchange.LedgerBalanceCheck

/-! What the amounts of a conversion plan add up to. The plan truncates what it
multiplies and divides, and takes the rest as differences, so it reconciles as
long as rounding to 20 digits keeps the differences and does not carry a
product or a quotient past the next place. -/
namespace Exchange.Conversions
open Ledger SignificantDigits

/-- The charge on a value, truncated to paise. -/
def chargeOn (value : Decimal) (bps : ℕ) : Decimal := dp (bpsOf value bps) 2

/-- The INR that is left of the gross amount. -/
def ConversionPlan.netInr (plan : ConversionPlan) : Decimal :=
  match plan.side with
  | .inrToUsdt => Decimal.toFixed 2 (Decimal.sub plan.inrAmount plan.feeInr)
  | .usdtToInr => plan.inrAmount

/-- What `createQuote` does not refuse as too small. -/
def ConversionPlan.Quotable (plan : ConversionPlan) : Prop := ¬(plan.usdtAmount ≤ 0 ∨ plan.inrAmount ≤ 0)

/-- The plan gives nothing away, and its posting balances. -/
structure ConversionPlan.Reconciles (plan : ConversionPlan) (amount rate : Decimal) : Prop where
  parts : plan.netInr + plan.feeInr + plan.tdsAmount = plan.grossInr
  gross : match plan.side with
    | .inrToUsdt => plan.grossInr ≤ amount
    | .usdtToInr => plan.grossInr ≤ amount * rate
  usdt : plan.side = .inrToUsdt → plan.usdtAmount * rate ≤ plan.netInr
  positive : ∀ userId, ∀ line ∈ buildLines userId plan, 0 < line.amount
  balanced : ∀ userId asset, exactSum (buildLines userId plan) asset = 0

/-! ## The lines -/

@[simp] theorem exactSum_nil (asset : String) : exactSum [] asset = 0 := rfl

@[simp] theorem exactSum_cons (line : LedgerPostingLine) (lines : List LedgerPostingLine) (asset : String) :
    exactSum (line :: lines) asset = (if line.asset = asset then line.signed else 0) + exactSum lines asset := by
  rw [exactSum, List.map_cons, List.sum_cons, exactSum]

@[simp] theorem exactSum_append (earlier later : List LedgerPostingLine) (asset : String) :
    exactSum (earlier ++ later) asset = exactSum earlier asset + exactSum later asset := by
  rw [exactSum, List.map_append, List.sum_append, exactSum, exactSum]

theorem exactSum_feeLine (nonneg : 0 ≤ amount) (kind : AccountKind) (asset : String) :
    exactSum (feeLine kind amount) asset = if INR = asset then amount else 0 := by
  unfold feeLine
  split
  · simp [LedgerPostingLine.signed, EntryDirection.signed]
  · rename_i free
    simp [le_antisymm (not_lt.mp free) nonneg]

theorem feeLine_positive (member : line ∈ feeLine kind amount) : 0 < line.amount := by
  unfold feeLine at member
  split at member
  · rename_i positive
    cases List.mem_singleton.mp member
    exact positive
  · cases member

/-- What the lines leave open in INR; in USDT they are a debit and a credit of
one amount. -/
theorem exactSum_buildLines {plan : ConversionPlan} (fee : 0 ≤ plan.feeInr) (tds : 0 ≤ plan.tdsAmount)
    (userId : UserId) (asset : String) (buys : plan.side = .inrToUsdt → plan.tdsAmount = 0 ∧ plan.grossInr = plan.inrAmount) :
    exactSum (buildLines userId plan) asset =
      if INR = asset then plan.netInr + plan.feeInr + plan.tdsAmount - plan.grossInr else 0 := by
  unfold buildLines ConversionPlan.netInr
  cases side : plan.side with
  | inrToUsdt =>
    obtain ⟨untaxed, whole⟩ := buys side
    by_cases inr : INR = asset <;> by_cases usdt : USDT = asset <;>
      simp [exactSum_feeLine fee, LedgerPostingLine.signed, EntryDirection.signed, inr, usdt, untaxed, whole] <;> ring
  | usdtToInr =>
    by_cases inr : INR = asset <;> by_cases usdt : USDT = asset <;>
      simp [exactSum_feeLine fee, exactSum_feeLine tds, LedgerPostingLine.signed, EntryDirection.signed, inr, usdt] <;> ring

theorem buildLines_positive {plan : ConversionPlan} (inr : 0 < plan.inrAmount) (usdt : 0 < plan.usdtAmount)
    (net : 0 < plan.netInr) (gross : 0 < plan.grossInr) (userId : UserId) :
    ∀ line ∈ buildLines userId plan, 0 < line.amount := by
  unfold ConversionPlan.netInr at net
  unfold buildLines
  cases side : plan.side with
  | inrToUsdt =>
    rw [side] at net
    simp only [List.forall_mem_append, List.forall_mem_cons]
    exact ⟨⟨⟨inr, net, nofun⟩, fun _ => feeLine_positive⟩, usdt, usdt, nofun⟩
  | usdtToInr =>
    simp only [List.forall_mem_append, List.forall_mem_cons]
    exact ⟨⟨⟨usdt, usdt, gross, inr, nofun⟩, fun _ => feeLine_positive⟩, fun _ => feeLine_positive⟩

/-- Of a plan with positive amounts, the sums decide. -/
theorem reconciles_iff_sums {plan : ConversionPlan} {amount rate : Decimal} (inr : 0 < plan.inrAmount)
    (usdt : 0 < plan.usdtAmount) (net : 0 < plan.netInr) (gross : 0 < plan.grossInr) (fee : 0 ≤ plan.feeInr) (tds : 0 ≤ plan.tdsAmount)
    (buys : plan.side = .inrToUsdt → plan.tdsAmount = 0 ∧ plan.grossInr = plan.inrAmount) :
    plan.Reconciles amount rate ↔ plan.netInr + plan.feeInr + plan.tdsAmount = plan.grossInr ∧
      (match plan.side with
        | .inrToUsdt => plan.grossInr ≤ amount
        | .usdtToInr => plan.grossInr ≤ amount * rate) ∧
      (plan.side = .inrToUsdt → plan.usdtAmount * rate ≤ plan.netInr) := by
  constructor
  · intro reconciles
    exact ⟨reconciles.parts, reconciles.gross, reconciles.usdt⟩
  · rintro ⟨parts, within, below⟩
    refine ⟨parts, within, below, buildLines_positive inr usdt net gross, fun userId asset => ?_⟩
    rw [exactSum_buildLines fee tds userId asset buys, parts, sub_self, ite_self]

/-! ## The plan -/

theorem dp_onGrid (value : Decimal) (places : ℕ) : OnGrid places (dp value places) := atPlaces_onGrid _ _ _

@[simp] theorem toFixed_dp (value : Decimal) (places : ℕ) : Decimal.toFixed places (dp value places) = dp value places :=
  Decimal.toFixed_of_onGrid (dp_onGrid value places)

theorem dp_nonneg (nonneg : 0 ≤ value) : 0 ≤ dp value places := atPlaces_nonneg towardZero_mode nonneg

/-- Truncation keeps the sign. -/
theorem pos_of_dp_pos (positive : 0 < dp value places) : 0 < value := by
  by_contra nonpositive
  have below : dp value places ≤ 0 := atPlaces_le towardZero_mode (onGrid_zero _) (not_lt.mp nonpositive)
  exact absurd positive below.not_gt

theorem chargeOn_nonneg (nonneg : 0 ≤ value) : 0 ≤ chargeOn value bps := by
  have product : 0 ≤ Decimal.mul value bps := Decimal.nonneg_mul nonneg (Nat.cast_nonneg bps)
  exact dp_nonneg (significant_nonneg (div_nonneg product (by norm_num)))

theorem chargeOn_onGrid (value : Decimal) (bps : ℕ) : OnGrid 2 (chargeOn value bps) := dp_onGrid _ 2

theorem sub_onGrid (hx : OnGrid places x) (hy : OnGrid places y) : OnGrid places (Decimal.sub x y) :=
  significant_onGrid (hx.sub hy)

/-! The plan's own rounding to places adds nothing: all its amounts are on
their grids. -/

section Buy
variable (amount rate : Decimal) (feeBps tdsBps : ℕ)

theorem buy_inrAmount : (computePlan .inrToUsdt amount rate feeBps tdsBps).inrAmount = dp amount 2 :=
  toFixed_dp amount 2

theorem buy_feeInr : (computePlan .inrToUsdt amount rate feeBps tdsBps).feeInr = chargeOn (dp amount 2) feeBps :=
  toFixed_dp _ 2

theorem buy_netInr : (computePlan .inrToUsdt amount rate feeBps tdsBps).netInr =
    Decimal.sub (dp amount 2) (chargeOn (dp amount 2) feeBps) := by
  simp only [ConversionPlan.netInr, buy_inrAmount, buy_feeInr]
  exact Decimal.toFixed_of_onGrid (sub_onGrid (dp_onGrid _ 2) (chargeOn_onGrid _ _))

theorem buy_usdtAmount : (computePlan .inrToUsdt amount rate feeBps tdsBps).usdtAmount =
    dp (Decimal.div (Decimal.sub (dp amount 2) (chargeOn (dp amount 2) feeBps)) rate) 6 :=
  toFixed_dp _ 6

end Buy

def sellGross (amount rate : Decimal) : Decimal := dp (Decimal.mul (dp amount 6) rate) 2

section Sell
variable (amount rate : Decimal) (feeBps tdsBps : ℕ)

theorem sell_usdtAmount : (computePlan .usdtToInr amount rate feeBps tdsBps).usdtAmount = dp amount 6 :=
  toFixed_dp amount 6

theorem sell_grossInr : (computePlan .usdtToInr amount rate feeBps tdsBps).grossInr = sellGross amount rate :=
  toFixed_dp _ 2

theorem sell_feeInr : (computePlan .usdtToInr amount rate feeBps tdsBps).feeInr =
    chargeOn (sellGross amount rate) feeBps :=
  toFixed_dp _ 2

theorem sell_tdsAmount : (computePlan .usdtToInr amount rate feeBps tdsBps).tdsAmount =
    chargeOn (sellGross amount rate) tdsBps :=
  toFixed_dp _ 2

theorem sell_inrAmount : (computePlan .usdtToInr amount rate feeBps tdsBps).inrAmount =
    Decimal.sub (Decimal.sub (sellGross amount rate) (chargeOn (sellGross amount rate) feeBps))
      (chargeOn (sellGross amount rate) tdsBps) :=
  Decimal.toFixed_of_onGrid (sub_onGrid (sub_onGrid (dp_onGrid _ 2) (chargeOn_onGrid _ _)) (chargeOn_onGrid _ _))

end Sell

/-- The INR left of a purchase have at most 20 digits, and their quotient by
the rate is not rounded up to the next millionth. -/
def BuyKept (amount rate : Decimal) (feeBps : ℕ) : Prop :=
  let net := dp amount 2 - chargeOn (dp amount 2) feeBps
  Short Decimal.precision net ∧ ∀ g, OnGrid 6 g → net / rate < g → significant Decimal.precision (net / rate) < g

/-- The product of a sale is not rounded up to the next paisa, and the INR left
of it have at most 20 digits, in which what the first subtraction loses does
not show. -/
def SellKept (amount rate : Decimal) (feeBps tdsBps : ℕ) : Prop :=
  let gross := sellGross amount rate
  let lost := Decimal.sub gross (chargeOn gross feeBps) - (gross - chargeOn gross feeBps)
  let net := gross - chargeOn gross feeBps - chargeOn gross tdsBps
  (∀ g, OnGrid 2 g → amount * rate < g → Decimal.mul (dp amount 6) rate < g) ∧
    Short Decimal.precision net ∧ significant Decimal.precision (net + lost) = significant Decimal.precision net

theorem buy_reconciles_iff (positiveRate : 0 < rate)
    (quotable : (computePlan .inrToUsdt amount rate feeBps tdsBps).Quotable) :
    (computePlan .inrToUsdt amount rate feeBps tdsBps).Reconciles amount rate ↔ BuyKept amount rate feeBps := by
  simp only [ConversionPlan.Quotable, not_or, not_le] at quotable
  obtain ⟨usdt, inr⟩ := quotable
  have spent := buy_inrAmount amount rate feeBps tdsBps
  have fee := buy_feeInr amount rate feeBps tdsBps
  have net := buy_netInr amount rate feeBps tdsBps
  have bought := buy_usdtAmount amount rate feeBps tdsBps
  have spentPos : 0 < dp amount 2 := spent ▸ inr
  have feeNonneg : 0 ≤ chargeOn (dp amount 2) feeBps := chargeOn_nonneg spentPos.le
  have netPos : 0 < Decimal.sub (dp amount 2) (chargeOn (dp amount 2) feeBps) := by
    rw [bought] at usdt
    have quotient := (significant_pos_iff (by decide)).mp (pos_of_dp_pos usdt)
    exact (div_pos_iff_of_pos_right positiveRate).mp quotient
  have whole : (computePlan .inrToUsdt amount rate feeBps tdsBps).grossInr = dp amount 2 := spent
  rw [reconciles_iff_sums inr usdt (net ▸ netPos) (whole ▸ spentPos) (fee ▸ feeNonneg) le_rfl
    fun _ => ⟨rfl, rfl⟩, whole, net, fee, bought]
  have within : dp amount 2 ≤ amount := truncate_le (pos_of_dp_pos spentPos).le
  have quotient : 0 ≤ Decimal.div (Decimal.sub (dp amount 2) (chargeOn (dp amount 2) feeBps)) rate :=
    significant_nonneg (div_nonneg netPos.le positiveRate.le)
  have below := @truncate_le_iff _ 6 (Decimal.sub (dp amount 2) (chargeOn (dp amount 2) feeBps) / rate) quotient
  rw [le_div_iff₀ positiveRate] at below
  have parts : Decimal.sub (dp amount 2) (chargeOn (dp amount 2) feeBps) + chargeOn (dp amount 2) feeBps +
      (computePlan .inrToUsdt amount rate feeBps tdsBps).tdsAmount = dp amount 2 ↔
        Decimal.sub (dp amount 2) (chargeOn (dp amount 2) feeBps) = dp amount 2 - chargeOn (dp amount 2) feeBps := by
    rw [show (computePlan .inrToUsdt amount rate feeBps tdsBps).tdsAmount = 0 from rfl, add_zero, eq_sub_iff_add_eq]
  rw [parts, BuyKept]
  refine and_congr_right fun exact => ?_
  rw [exact] at below
  exact ⟨fun both => below.mp (exact ▸ both.2 rfl), fun kept => ⟨within, fun _ => exact ▸ below.mpr kept⟩⟩

/-- Two subtractions lose nothing when the result has at most 20 digits and
what the first one loses does not show in them. -/
theorem sub_sub_exact_iff (positive : 0 < Decimal.sub (Decimal.sub x y) z) :
    Decimal.sub (Decimal.sub x y) z = x - y - z ↔ Short Decimal.precision (x - y - z) ∧
      significant Decimal.precision (x - y - z + (Decimal.sub x y - (x - y))) =
        significant Decimal.precision (x - y - z) := by
  have reached : x - y - z + (Decimal.sub x y - (x - y)) = Decimal.sub x y - z := by ring
  rw [reached]
  constructor
  · intro exact
    have nonneg : 0 ≤ Decimal.sub x y - z := ((significant_pos_iff (by decide)).mp positive).le
    have short : Short Decimal.precision (Decimal.sub (Decimal.sub x y) z) := short_significant (by decide) nonneg
    rw [exact] at short
    exact ⟨short, exact.trans short.symm⟩
  · rintro ⟨short, same⟩
    exact same.trans short

theorem sell_reconciles_iff (positiveRate : 0 < rate)
    (quotable : (computePlan .usdtToInr amount rate feeBps tdsBps).Quotable) :
    (computePlan .usdtToInr amount rate feeBps tdsBps).Reconciles amount rate ↔
      SellKept amount rate feeBps tdsBps := by
  simp only [ConversionPlan.Quotable, not_or, not_le] at quotable
  obtain ⟨usdt, inr⟩ := quotable
  have sold := sell_usdtAmount amount rate feeBps tdsBps
  have whole := sell_grossInr amount rate feeBps tdsBps
  have fee := sell_feeInr amount rate feeBps tdsBps
  have tds := sell_tdsAmount amount rate feeBps tdsBps
  have received := sell_inrAmount amount rate feeBps tdsBps
  have product : 0 ≤ Decimal.mul (dp amount 6) rate := Decimal.nonneg_mul (sold ▸ usdt).le positiveRate.le
  have grossNonneg : 0 ≤ sellGross amount rate := dp_nonneg product
  have feeNonneg := @chargeOn_nonneg _ feeBps grossNonneg
  have tdsNonneg := @chargeOn_nonneg _ tdsBps grossNonneg
  have receivedPos := received ▸ inr
  have grossPos : 0 < sellGross amount rate := by
    have afterFee := tdsNonneg.trans_lt (Decimal.sub_pos.mp receivedPos)
    exact feeNonneg.trans_lt (Decimal.sub_pos.mp afterFee)
  have isNet : (computePlan .usdtToInr amount rate feeBps tdsBps).netInr =
      (computePlan .usdtToInr amount rate feeBps tdsBps).inrAmount := rfl
  rw [reconciles_iff_sums inr usdt (isNet ▸ inr) (whole ▸ grossPos) (fee ▸ feeNonneg) (tds ▸ tdsNonneg)
    nofun, isNet, whole, fee, tds, received]
  have within : sellGross amount rate ≤ amount * rate ↔
      ∀ g, OnGrid 2 g → amount * rate < g → Decimal.mul (dp amount 6) rate < g := truncate_le_iff product
  rw [SellKept, ← within, ← sub_sub_exact_iff receivedPos, eq_sub_iff_add_eq, eq_sub_iff_add_eq, add_right_comm]
  exact ⟨fun ⟨parts, below, _⟩ => ⟨below, parts⟩, fun ⟨below, parts⟩ => ⟨parts, below, nofun⟩⟩

/-! ## Both directions -/

def Kept (side : ConversionSide) (amount rate : Decimal) (feeBps tdsBps : ℕ) : Prop :=
  match side with
  | .inrToUsdt => BuyKept amount rate feeBps
  | .usdtToInr => SellKept amount rate feeBps tdsBps

theorem reconciles_iff (side : ConversionSide) (amount rate : Decimal) (feeBps tdsBps : ℕ)
    (positiveRate : 0 < rate) (quotable : (computePlan side amount rate feeBps tdsBps).Quotable) :
    (computePlan side amount rate feeBps tdsBps).Reconciles amount rate ↔
      Kept side amount rate feeBps tdsBps := by
  cases side with
  | inrToUsdt => exact buy_reconciles_iff positiveRate quotable
  | usdtToInr => exact sell_reconciles_iff positiveRate quotable

instance (plan : ConversionPlan) : Decidable plan.Quotable := inferInstanceAs (Decidable (¬_))

theorem reconciles_iff_ten_usdt :
    (computePlan .usdtToInr 10 (8955 / 100) 20 100).Reconciles 10 (8955 / 100) ↔
      Kept .usdtToInr 10 (8955 / 100) 20 100 :=
  reconciles_iff .usdtToInr 10 (8955 / 100) 20 100 (by norm_num) (by decide +kernel)

/-- 27064.516129 USDT at 90.00000031 are sold for 2435806.46 INR, which is more
than they are worth. -/
theorem sold_above_rate : ¬∀ (side : ConversionSide) (amount rate : Decimal) (feeBps tdsBps : ℕ), 0 < rate →
    feeBps + tdsBps ≤ 10000 → (computePlan side amount rate feeBps tdsBps).Quotable →
    (computePlan side amount rate feeBps tdsBps).Reconciles amount rate := by
  intro always
  have reconciles := always .usdtToInr (27064516129 / 10 ^ 6) (9000000031 / 10 ^ 8) 20 100 (by norm_num)
    (by norm_num) (by decide +kernel)
  have gross : sellGross (27064516129 / 10 ^ 6) (9000000031 / 10 ^ 8) ≤
      27064516129 / 10 ^ 6 * (9000000031 / 10 ^ 8) := by
    rw [← sell_grossInr (27064516129 / 10 ^ 6) (9000000031 / 10 ^ 8) 20 100]
    exact reconciles.gross
  revert gross
  decide +kernel

end Exchange.Conversions
