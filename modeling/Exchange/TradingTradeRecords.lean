import Exchange.TradingEngine

/-! Which fills can be written to `trades`. The engine floors the quote amount
to the quote scale; the table wants it within 1e-12 of price × quantity. -/
namespace Exchange.Trading
open SignificantDigits Ledger

/-- The row of `trades` for the fill passes its check, on the values as the
columns hold them. -/
def EngineFill.recordable (fill : EngineFill) : Bool :=
  tradesQuoteChk (Numeric.rounded fill.price) (Numeric.rounded fill.quantity)
    (Numeric.rounded fill.quoteAmount)

/-- The taker that a request becomes. -/
def OrderBody.taker (body : OrderBody) : TakerInput :=
  ⟨body.side, body.type, body.price, body.quantity, body.quoteBudget⟩

/-- Best price first, as the opposite side of the book is loaded. -/
def BestFirst (takerSide : OrderSide) (book : List RestingOrder) : Prop :=
  book.Pairwise fun before after => match takerSide with
    | .buy => before.price ≤ after.price
    | .sell => before.price ≥ after.price

/-- What flooring to the quote scale cuts off the product of price and
quantity, which decimal.js holds with 20 digits. -/
def cutOff (params : MarketParams) (price quantity : Decimal) : ℚ :=
  quantity.mul price - floorTo (quantity.mul price) params.quoteScale

/-- The digits of price × quantity past the quote scale are worth at most
1e-12; `error` is what rounding, to 20 digits and to columns, adds to them. -/
def DigitsFit (params : MarketParams) (price quantity : Decimal) : Prop :=
  let product := Numeric.rounded price * Numeric.rounded quantity
  let error := quantity.mul price - product + (Numeric.rounded (floorTo (quantity.mul price)
    params.quoteScale) - floorTo (quantity.mul price) params.quoteScale)
  |cutOff params price quantity - error| ≤ 1 / 10 ^ 12

/-- The quantity that the remaining capacity trades with a maker. -/
def tradable (taker : TakerInput) (params : MarketParams) (remaining : Decimal)
    (maker : RestingOrder) : Decimal :=
  min (floorTo maker.remaining params.baseScale) (affordable taker params remaining maker.price)

/-- Where no rounding happens but the floor, the digits fit if what the floor
cuts off is at most 1e-12. -/
theorem digitsFit_iff {price quantity : Decimal} (nonneg : 0 ≤ price * quantity)
    (exact : quantity.mul price = price * quantity) (priceGrid : OnGrid Numeric.scale price)
    (quantityGrid : OnGrid Numeric.scale quantity) (storable : params.quoteScale ≤ 18) :
    DigitsFit params price quantity ↔
      price * quantity - floorTo (price * quantity) params.quoteScale ≤ 1 / 10 ^ 12 := by
  have floorGrid : OnGrid Numeric.scale (floorTo (price * quantity) params.quoteScale) :=
    (floorTo_onGrid _ _).mono (by exact_mod_cast storable)
  simp only [DigitsFit, cutOff, exact, Numeric.rounded_of_onGrid priceGrid,
    Numeric.rounded_of_onGrid quantityGrid, Numeric.rounded_of_onGrid floorGrid, sub_self,
    add_zero, sub_zero]
  rw [abs_of_nonneg (sub_nonneg.mpr (floorTo_le nonneg))]

/-- On a market whose price and base grids together are no finer than its quote
grid, every trade that 20 digits hold fits. -/
theorem digitsFit_of_grid (priceGrid : OnGrid tickPlaces price)
    (quantityGrid : OnGrid params.baseScale quantity)
    (coarse : tickPlaces + params.baseScale ≤ params.quoteScale) (tick : 0 ≤ tickPlaces)
    (storable : params.quoteScale ≤ 18) (nonneg : 0 ≤ price * quantity)
    (exact : Decimal.mul quantity price = price * quantity) : DigitsFit params price quantity := by
  have productGrid : OnGrid params.quoteScale (price * quantity) :=
    (priceGrid.mul quantityGrid).mono coarse
  have whole : floorTo (price * quantity) params.quoteScale = price * quantity :=
    atPlaces_of_onGrid towardZero_mode productGrid
  have scale : (params.quoteScale : ℤ) ≤ Numeric.scale := by exact_mod_cast storable
  refine (digitsFit_iff nonneg exact (priceGrid.mono ?_) (quantityGrid.mono ?_) storable).mpr ?_
  · omega
  · omega
  · rw [whole, sub_self]
    norm_num

end Exchange.Trading
