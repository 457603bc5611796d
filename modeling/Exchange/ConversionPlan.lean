import Exchange.Ledger

/-! The economics of a conversion between INR and USDT: the price a quote names,
what each leg amounts to, and the lines of the posting that settles it. -/
namespace Exchange.Conversions
open Ledger SignificantDigits

def INR : String := "INR"

def USDT : String := "USDT"

def LEDGER_KIND : String := "CONVERSION"

def REFERENCE_TYPE : String := "conversion"

inductive ConversionSide where
  | inrToUsdt
  | usdtToInr
  deriving DecidableEq, Repr

/-- `config.conversion`, with the price of the mock provider. -/
structure Config where
  mockUsdtInr : Decimal
  spreadBps : ℕ
  feeBps : ℕ
  tdsBps : ℕ
  quoteTtlMs : ℕ

structure ConversionPlan where
  side : ConversionSide
  rate : Decimal
  inrAmount : Decimal
  usdtAmount : Decimal
  feeInr : Decimal
  tdsAmount : Decimal
  grossInr : Decimal
  liquidityAsset : String
  liquidityNeed : Decimal
  deriving DecidableEq, Repr

/-- Rounded down to decimal places. -/
def dp (value : Decimal) (places : ℕ) : Decimal := atPlaces towardZero places value

def bpsOf (value : Decimal) (bps : ℕ) : Decimal := Decimal.div (Decimal.mul value bps) 10000

/-- At a rate of zero the source has an infinite amount, which no treasury
covers; here it is zero, which is too small to be quoted. -/
def computePlan (side : ConversionSide) (amount rate : Decimal) (feeBps tdsBps : ℕ) : ConversionPlan :=
  match side with
  | .inrToUsdt =>
    let inrAmount := dp amount 2
    let feeInr := dp (bpsOf inrAmount feeBps) 2
    let netInr := Decimal.sub inrAmount feeInr
    let usdtAmount := dp (Decimal.div netInr rate) 6
    { side, rate
      inrAmount := Decimal.toFixed 2 inrAmount
      usdtAmount := Decimal.toFixed 6 usdtAmount
      feeInr := Decimal.toFixed 2 feeInr
      tdsAmount := 0
      grossInr := Decimal.toFixed 2 inrAmount
      liquidityAsset := USDT
      liquidityNeed := Decimal.toFixed 6 usdtAmount }
  | .usdtToInr =>
    let usdtAmount := dp amount 6
    let grossInr := dp (Decimal.mul usdtAmount rate) 2
    let feeInr := dp (bpsOf grossInr feeBps) 2
    let tdsAmount := dp (bpsOf grossInr tdsBps) 2
    let inrAmount := Decimal.sub (Decimal.sub grossInr feeInr) tdsAmount
    { side, rate
      inrAmount := Decimal.toFixed 2 inrAmount
      usdtAmount := Decimal.toFixed 6 usdtAmount
      feeInr := Decimal.toFixed 2 feeInr
      tdsAmount := Decimal.toFixed 2 tdsAmount
      grossInr := Decimal.toFixed 2 grossInr
      liquidityAsset := INR
      liquidityNeed := Decimal.toFixed 2 grossInr }

/-- The platform spread on a mid price: a buyer of USDT pays more INR, a seller
gets less. -/
def applySpread (mid : Decimal) (side : ConversionSide) (spreadBps : ℕ) : Decimal :=
  let factor := Decimal.div spreadBps 10000
  let rate := match side with
    | .inrToUsdt => Decimal.mul mid (Decimal.add 1 factor)
    | .usdtToInr => Decimal.mul mid (Decimal.sub 1 factor)
  Decimal.toFixed 8 (dp rate 8)

/-- The leg is left out if it is nothing. -/
def feeLine (kind : AccountKind) (amount : Decimal) : List LedgerPostingLine :=
  if 0 < amount then [⟨none, kind, INR, .credit, amount⟩] else []

/-- The balanced double-entry legs of a conversion. -/
def buildLines (userId : UserId) (plan : ConversionPlan) : List LedgerPostingLine :=
  match plan.side with
  | .inrToUsdt =>
    let netInr := Decimal.toFixed 2 (Decimal.sub plan.inrAmount plan.feeInr)
    [⟨some userId, .userAvailable, INR, .debit, plan.inrAmount⟩, ⟨none, .liquidity, INR, .credit, netInr⟩] ++
      feeLine .feeRevenue plan.feeInr ++
      [⟨none, .liquidity, USDT, .debit, plan.usdtAmount⟩,
        ⟨some userId, .userAvailable, USDT, .credit, plan.usdtAmount⟩]
  | .usdtToInr =>
    [⟨some userId, .userAvailable, USDT, .debit, plan.usdtAmount⟩,
      ⟨none, .liquidity, USDT, .credit, plan.usdtAmount⟩,
      ⟨none, .liquidity, INR, .debit, plan.grossInr⟩,
      ⟨some userId, .userAvailable, INR, .credit, plan.inrAmount⟩] ++
      feeLine .feeRevenue plan.feeInr ++ feeLine .tdsPayable plan.tdsAmount

/-! ## The treasury -/

/-- The account of the platform that holds an asset. -/
def treasury (asset : String) : Account := ⟨none, citext asset, .liquidity⟩

/-- A plan says what its posting takes from the treasury. -/
structure ConversionPlan.Sound (plan : ConversionPlan) : Prop where
  buys : plan.side = .inrToUsdt → plan.liquidityAsset = USDT ∧ plan.liquidityNeed = plan.usdtAmount
  sells : plan.side = .usdtToInr → plan.liquidityAsset = INR ∧ plan.liquidityNeed = plan.grossInr

theorem computePlan_sound (side : ConversionSide) (amount rate : Decimal) (feeBps tdsBps : ℕ) :
    (computePlan side amount rate feeBps tdsBps).Sound := by
  cases side with
  | inrToUsdt => exact ⟨fun _ => ⟨rfl, rfl⟩, nofun⟩
  | usdtToInr => exact ⟨nofun, fun _ => ⟨rfl, rfl⟩⟩

end Exchange.Conversions
