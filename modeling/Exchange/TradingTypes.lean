import Exchange.Ledger

/-! Spot trading: shared types and the pure economics of an order, that is lock
sizing, fees, and the checks a request passes before it is stored. -/
namespace Exchange.Trading
open SignificantDigits Ledger

abbrev OrderId := ℕ

inductive OrderSide where
  | buy
  | sell
  deriving DecidableEq, Repr

/-- The order types that `createOrderSchema` accepts. -/
inductive OrderType where
  | limit
  | market
  deriving DecidableEq, Repr

inductive OrderStatus where
  | pending
  | open
  | partiallyFilled
  | filled
  | cancelled
  | rejected
  | expired
  deriving DecidableEq, Repr

inductive MarketStatus where
  | active
  | halted
  | postOnly
  deriving DecidableEq, Repr

/-- A market; its unique symbol stands for its uuid. -/
structure Market where
  symbol : String
  baseAsset : String
  quoteAsset : String
  status : MarketStatus
  tickSize : Decimal
  stepSize : Decimal
  minNotional : Decimal
  makerFeeBps : ℤ
  takerFeeBps : ℤ
  deriving DecidableEq, Repr

/-- Asset precision for a market, derived from the assets reference table. -/
structure MarketParams where
  baseScale : ℕ
  quoteScale : ℕ
  deriving DecidableEq, Repr

/-- The body of a request to place an order. -/
structure OrderBody where
  symbol : String
  side : OrderSide
  type : OrderType
  price : Option Decimal := none
  quantity : Option Decimal := none
  quoteBudget : Option Decimal := none
  clientOrderId : Option String := none
  deriving DecidableEq, Repr

/-- A decimal string with at most 18 places, greater than zero. -/
def positiveDecimal (value : Decimal) : Bool := 0 < value ∧ (value * 10 ^ 18).den = 1

/-- Which of price, quantity and budget each kind of order must and must not
have. -/
def createOrderSchema (body : OrderBody) : Bool :=
  body.price.all positiveDecimal && body.quantity.all positiveDecimal &&
    body.quoteBudget.all positiveDecimal &&
    match body.type, body.side with
    | .limit, _ => body.price.isSome && body.quantity.isSome && body.quoteBudget.isNone
    | .market, .buy => body.price.isNone && body.quoteBudget.isSome && body.quantity.isNone
    | .market, .sell => body.price.isNone && body.quantity.isSome && body.quoteBudget.isNone

/-- A body that the schema has accepted. -/
structure CreateOrderDto extends OrderBody where
  valid : createOrderSchema toOrderBody

def baseAsset : String := "USDT"

def quoteAsset : String := "INR"

/-- Round to a number of places, truncating toward zero. -/
def floorTo (value : Decimal) (places : ℕ) : Decimal := atPlaces towardZero places value

/-- Round up to a number of places. -/
def ceilTo (value : Decimal) (places : ℕ) : Decimal := atPlaces awayFromZero places value

structure LockRequirement where
  asset : String
  amount : Decimal
  deriving DecidableEq, Repr

/-- What a new order must reserve: BUY locks the quote asset, with the notional
rounded up, and SELL the base asset. -/
def computeLockRequirement (input : OrderBody) (params : MarketParams) : LockRequirement :=
  match input.side, input.type with
  | .sell, _ =>
    let qty := floorTo (input.quantity.getD 0) params.baseScale
    ⟨baseAsset, qty.toFixed params.baseScale⟩
  | .buy, .market =>
    let budget := floorTo (input.quoteBudget.getD 0) params.quoteScale
    ⟨quoteAsset, budget.toFixed params.quoteScale⟩
  | .buy, .limit =>
    let notional := (input.price.getD 0).mul (input.quantity.getD 0)
    ⟨quoteAsset, (ceilTo notional params.quoteScale).toFixed params.quoteScale⟩

/-- Fee on a received amount at a rate in basis points, floored to the scale. -/
def computeFee (received : Decimal) (bps : ℤ) (scale : ℕ) : Decimal :=
  floorTo ((received.mul bps).div 10000) scale

def validateAgainstMarket (input : OrderBody) (market : Market) : Except Failure Unit :=
  let price := input.price.getD 0
  let quantity := input.quantity.getD 0
  match input.type, input.side with
  | .limit, _ =>
    if !price.isMultipleOf market.tickSize then
      .error (.appError "Price is not a multiple of the tick size" 422 "INVALID_PRICE")
    else if !quantity.isMultipleOf market.stepSize then
      .error (.appError "Quantity is not a multiple of the step size" 422 "INVALID_QUANTITY")
    else if price.mul quantity < market.minNotional then
      .error (.appError "Order notional is below the market minimum" 422 "BELOW_MIN_NOTIONAL")
    else .ok ()
  | .market, .buy =>
    if input.quoteBudget.getD 0 < market.minNotional then
      .error (.appError "Quote budget is below the market minimum" 422 "BELOW_MIN_NOTIONAL")
    else .ok ()
  | .market, .sell =>
    if !quantity.isMultipleOf market.stepSize then
      .error (.appError "Quantity is not a multiple of the step size" 422 "INVALID_QUANTITY")
    else .ok ()

/-- The check `trades_quote_chk` of a row of `trades`. -/
def tradesQuoteChk (price quantity quoteAmount : ℚ) : Bool :=
  |quoteAmount - price * quantity| ≤ 1 / 10 ^ 12

/-- The market that the seed creates for the default symbol. -/
def usdtInr : Market :=
  ⟨"USDT-INR", "USDT", "INR", .active, 1 / 100, 1 / 10 ^ 6, 10, 10, 20⟩

/-- Its precision: USDT has six decimals, INR two. -/
def usdtInrParams : MarketParams := ⟨6, 2⟩

theorem floorTo_onGrid (value : Decimal) (places : ℕ) : OnGrid places (floorTo value places) :=
  atPlaces_onGrid towardZero places value

@[simp] theorem toFixed_floorTo (value : Decimal) (places : ℕ) :
    (floorTo value places).toFixed places = floorTo value places :=
  Decimal.toFixed_of_onGrid (floorTo_onGrid value places)

@[simp] theorem toFixed_ceilTo (value : Decimal) (places : ℕ) :
    (ceilTo value places).toFixed places = ceilTo value places :=
  Decimal.toFixed_of_onGrid (atPlaces_onGrid awayFromZero places value)

theorem floorTo_nonneg (nonneg : 0 ≤ value) : 0 ≤ floorTo value places :=
  atPlaces_nonneg towardZero_mode nonneg

theorem floorTo_le (nonneg : 0 ≤ value) : floorTo value places ≤ value := truncate_le nonneg

theorem le_ceilTo (nonneg : 0 ≤ value) : value ≤ ceilTo value places := le_roundAway nonneg

theorem ceilTo_onGrid (value : Decimal) (places : ℕ) : OnGrid places (ceilTo value places) :=
  atPlaces_onGrid awayFromZero places value

theorem floorTo_mono (le : x ≤ y) : floorTo x places ≤ floorTo y places :=
  atPlaces_mono towardZero_mode le

theorem positiveDecimal_spec (positive : positiveDecimal value) :
    0 < value ∧ OnGrid Numeric.scale value := by
  simp only [positiveDecimal, Bool.decide_and, Bool.and_eq_true, decide_eq_true_eq] at positive
  refine ⟨positive.1, (value * 10 ^ 18).num, ?_⟩
  exact ((Rat.den_eq_one_iff _).mp positive.2).symm

end Exchange.Trading
