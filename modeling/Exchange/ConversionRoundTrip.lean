import Exchange.ConversionArithmetic
import Exchange.ConversionService

/-! Converting there and back at one mid rate. The trip pays charges twice and
the spread between the two rates; what rounding to 20 digits may add is kept
apart, as the surplus of each plan: what goes out and into charges beyond what
comes in, in INR at the plan's own rate. -/
namespace Exchange.Conversions
open SignificantDigits Service

def ConversionSide.opposite : ConversionSide → ConversionSide
  | .inrToUsdt => .usdtToInr
  | .usdtToInr => .inrToUsdt

/-- The rate at which a side is quoted. -/
def Config.rate (config : Config) (side : ConversionSide) : Decimal :=
  applySpread config.mockUsdtInr side config.spreadBps

/-! ## What a trip costs, and what rounding adds -/

def ConversionPlan.charges (plan : ConversionPlan) : Decimal := plan.feeInr + plan.tdsAmount

def ConversionPlan.surplus (plan : ConversionPlan) : ℚ :=
  match plan.side with
  | .inrToUsdt => plan.usdtAmount * plan.rate + plan.charges - plan.inrAmount
  | .usdtToInr => plan.inrAmount + plan.charges - plan.usdtAmount * plan.rate

section Trip
variable {config : Config} {amount : Decimal} (rate : 0 < config.rate .inrToUsdt)
  (spread : config.spreadBps ≤ 10000)
include rate spread

end Trip

/-- The configuration's defaults. -/
def defaultConfig : Config := ⟨90, 50, 20, 100, 30000⟩

end Exchange.Conversions
