import Exchange.TradingTypes

/-! The matching engine: a pure loop over the opposite side of the book, sorted
by price-time priority. Every fill executes at the maker's price, with the
quantity floored to the base scale and the quote amount to the quote scale. -/
namespace Exchange.Trading
open SignificantDigits Ledger

structure RestingOrder where
  id : OrderId
  userId : UserId
  price : Decimal
  /-- Open base quantity: quantity − filledQuantity. -/
  remaining : Decimal
  deriving DecidableEq, Repr

structure TakerInput where
  side : OrderSide
  type : OrderType
  price : Option Decimal := none
  quantity : Option Decimal := none
  quoteBudget : Option Decimal := none
  deriving DecidableEq, Repr

structure EngineFill where
  makerOrderId : OrderId
  makerUserId : UserId
  price : Decimal
  quantity : Decimal
  quoteAmount : Decimal
  deriving DecidableEq, Repr

structure EngineResult where
  fills : List EngineFill
  /-- Total base quantity filled for the taker. -/
  filledQuantity : Decimal
  /-- Total quote amount the taker spent or received. -/
  quoteTotal : Decimal
  deriving DecidableEq, Repr

/-- Does the taker's limit price cross a resting maker's? -/
def crosses (takerSide : OrderSide) (takerPrice makerPrice : Decimal) : Bool :=
  match takerSide with
  | .buy => makerPrice ≤ takerPrice
  | .sell => makerPrice ≥ takerPrice

def TakerInput.isBudgetDriven (taker : TakerInput) : Bool :=
  taker.type = .market && taker.side = .buy

/-- The limit price, unless the order is a market order. -/
def TakerInput.limit (taker : TakerInput) : Option Decimal :=
  if taker.type = .market then none else taker.price

/-- Remaining capacity in the taker's native unit: `remainingBudget` of a
budget-driven order, `remainingQty` of any other. -/
def initialCapacity (taker : TakerInput) (params : MarketParams) : Decimal :=
  if taker.isBudgetDriven then floorTo (taker.quoteBudget.getD 0) params.quoteScale
  else floorTo (taker.quantity.getD 0) params.baseScale

/-- The base quantity that the remaining capacity buys. A maker without a price
comes with the price zero: the source then gets an infinite quantity worth
nothing, the model none, and the loop stops on both. -/
def affordable (taker : TakerInput) (params : MarketParams) (remaining makerPrice : Decimal) :
    Decimal :=
  if taker.isBudgetDriven then floorTo (remaining.div makerPrice) params.baseScale else remaining

/-- What the body of the loop does at one maker. -/
inductive Turn where
  /-- `break` -/
  | stop
  /-- `continue` -/
  | skip
  | fill (quantity quoteAmount : Decimal)
  deriving DecidableEq, Repr

def turn (taker : TakerInput) (params : MarketParams) (remaining : Decimal)
    (maker : RestingOrder) : Turn :=
  if taker.limit.any fun price => !crosses taker.side price maker.price then .stop
  else
    let makerRemaining := floorTo maker.remaining params.baseScale
    if makerRemaining ≤ 0 then .skip
    else if remaining ≤ 0 then .stop
    else
      let fillQty : Decimal := min makerRemaining (affordable taker params remaining maker.price)
      if fillQty ≤ 0 then .stop
      else
        let quoteAmount := floorTo (fillQty.mul maker.price) params.quoteScale
        -- dust below one quote unit cannot settle
        if quoteAmount ≤ 0 then .stop else .fill fillQty quoteAmount

/-- The loop's variables. -/
structure MatchState where
  remaining : Decimal
  filledQuantity : Decimal
  quoteTotal : Decimal
  fills : List EngineFill
  deriving DecidableEq, Repr

/-- The capacity left after a fill. -/
def spend (taker : TakerInput) (remaining quantity quoteAmount : Decimal) : Decimal :=
  if taker.isBudgetDriven then remaining.sub quoteAmount else remaining.sub quantity

def MatchState.push (taker : TakerInput) (params : MarketParams) (state : MatchState)
    (maker : RestingOrder) (quantity quoteAmount : Decimal) : MatchState where
  remaining := spend taker state.remaining quantity quoteAmount
  filledQuantity := state.filledQuantity.add quantity
  quoteTotal := state.quoteTotal.add quoteAmount
  fills := state.fills ++ [⟨maker.id, maker.userId, maker.price,
    quantity.toFixed params.baseScale, quoteAmount.toFixed params.quoteScale⟩]

def matchBook (taker : TakerInput) (params : MarketParams) :
    List RestingOrder → MatchState → MatchState
  | [], state => state
  | maker :: book, state =>
    match turn taker params state.remaining maker with
    | .stop => state
    | .skip => matchBook taker params book state
    | .fill quantity quoteAmount =>
      matchBook taker params book (state.push taker params maker quantity quoteAmount)

def matchOrder (taker : TakerInput) (book : List RestingOrder) (params : MarketParams) :
    EngineResult :=
  let final := matchBook taker params book ⟨initialCapacity taker params, 0, 0, []⟩
  ⟨final.fills, final.filledQuantity.toFixed params.baseScale,
    final.quoteTotal.toFixed params.quoteScale⟩

/-! ## The fills, one by one -/

/-- The makers that the loop trades with and what it trades with each, from a
remaining capacity. -/
def trades (taker : TakerInput) (params : MarketParams) :
    Decimal → List RestingOrder → List (RestingOrder × Decimal × Decimal)
  | _, [] => []
  | remaining, maker :: book =>
    match turn taker params remaining maker with
    | .stop => []
    | .skip => trades taker params remaining book
    | .fill quantity quoteAmount =>
      (maker, quantity, quoteAmount) ::
        trades taker params (spend taker remaining quantity quoteAmount) book

/-- What a turn that fills says about the fill. -/
structure Fills (taker : TakerInput) (params : MarketParams) (remaining : Decimal)
    (maker : RestingOrder) (quantity quoteAmount : Decimal) : Prop where
  crossing : ∀ price ∈ taker.limit, crosses taker.side price maker.price
  available : quantity ≤ floorTo maker.remaining params.baseScale
  afforded : quantity ≤ affordable taker params remaining maker.price
  maximal : quantity = min (floorTo maker.remaining params.baseScale)
    (affordable taker params remaining maker.price)
  capacity : 0 < remaining
  quantity_pos : 0 < quantity
  quote : quoteAmount = floorTo (quantity.mul maker.price) params.quoteScale
  quote_pos : 0 < quoteAmount

theorem turn_fill (filled : turn taker params remaining maker = .fill quantity quoteAmount) :
    Fills taker params remaining maker quantity quoteAmount := by
  simp only [turn] at filled
  split at filled
  · cases filled
  rename_i crossing
  split at filled
  · cases filled
  split at filled
  · cases filled
  rename_i capacity
  split at filled
  · cases filled
  rename_i positive
  split at filled
  · cases filled
  rename_i worth
  cases filled
  refine ⟨fun price isLimit => ?_, min_le_left _ _, min_le_right _ _, rfl, not_le.mp capacity,
    not_le.mp positive, rfl, not_le.mp worth⟩
  rw [Option.mem_def.mp isLimit] at crossing
  simpa using crossing

theorem matchBook_fills (taker : TakerInput) (params : MarketParams) (book : List RestingOrder)
    (state : MatchState) :
    (matchBook taker params book state).fills = state.fills ++
      (trades taker params state.remaining book).map fun (maker, quantity, quoteAmount) =>
        ⟨maker.id, maker.userId, maker.price, quantity.toFixed params.baseScale,
          quoteAmount.toFixed params.quoteScale⟩ := by
  induction book generalizing state with
  | nil => simp [matchBook, trades]
  | cons maker book ih =>
    simp only [matchBook, trades]
    cases turn taker params state.remaining maker with
    | stop => simp
    | skip => exact ih state
    | fill quantity quoteAmount =>
      rw [ih]
      simp [MatchState.push]

theorem matchBook_filledQuantity (taker : TakerInput) (params : MarketParams)
    (book : List RestingOrder) (state : MatchState) :
    (matchBook taker params book state).filledQuantity =
      (trades taker params state.remaining book).foldl
        (fun total (_, quantity, _) => Decimal.add total quantity) state.filledQuantity := by
  induction book generalizing state with
  | nil => rfl
  | cons maker book ih =>
    simp only [matchBook, trades]
    cases turn taker params state.remaining maker with
    | stop => rfl
    | skip => exact ih state
    | fill quantity quoteAmount => exact ih _

theorem matchBook_quoteTotal (taker : TakerInput) (params : MarketParams)
    (book : List RestingOrder) (state : MatchState) :
    (matchBook taker params book state).quoteTotal =
      (trades taker params state.remaining book).foldl
        (fun total (_, _, quoteAmount) => Decimal.add total quoteAmount) state.quoteTotal := by
  induction book generalizing state with
  | nil => rfl
  | cons maker book ih =>
    simp only [matchBook, trades]
    cases turn taker params state.remaining maker with
    | stop => rfl
    | skip => exact ih state
    | fill quantity quoteAmount => exact ih _

/-- Whatever the loop trades comes from a turn that fills. -/
theorem trades_fills (traded : (maker, quantity, quoteAmount) ∈ trades taker params remaining book) :
    maker ∈ book ∧ ∃ left, Fills taker params left maker quantity quoteAmount := by
  induction book generalizing remaining with
  | nil => simp [trades] at traded
  | cons next book ih =>
    simp only [trades] at traded
    cases step : turn taker params remaining next with
    | stop => simp [step] at traded
    | skip =>
      obtain ⟨member, fills⟩ := ih (by simpa [step] using traded)
      exact ⟨List.mem_cons_of_mem _ member, fills⟩
    | fill quantity' quoteAmount' =>
      simp only [step, List.mem_cons] at traded
      rcases traded with same | later
      · cases same
        exact ⟨List.mem_cons_self, _, turn_fill step⟩
      · obtain ⟨member, fills⟩ := ih later
        exact ⟨List.mem_cons_of_mem _ member, fills⟩

/-- The makers of the fills are a subsequence of the book. -/
theorem trades_makers_sublist (taker : TakerInput) (params : MarketParams) (remaining : Decimal)
    (book : List RestingOrder) :
    ((trades taker params remaining book).map fun trade => trade.1).Sublist book := by
  induction book generalizing remaining with
  | nil => simp [trades]
  | cons maker book ih =>
    simp only [trades]
    cases turn taker params remaining maker with
    | stop => simp
    | skip => exact (ih remaining).cons _
    | fill quantity quoteAmount => exact (ih _).cons_cons _

/-! ## Capacity -/

variable {taker : TakerInput} {params : MarketParams} {maker : RestingOrder} {book : List RestingOrder}
  {remaining quantity quoteAmount : Decimal}

/-- The places of the taker's native unit. -/
def unitScale (taker : TakerInput) (params : MarketParams) : ℕ :=
  if taker.isBudgetDriven then params.quoteScale else params.baseScale

/-- What a trade takes of the capacity. -/
def taken (taker : TakerInput) (quantity quoteAmount : Decimal) : Decimal :=
  if taker.isBudgetDriven then quoteAmount else quantity

theorem spend_eq : spend taker remaining quantity quoteAmount = remaining.sub (taken taker quantity quoteAmount) := by
  unfold spend taken
  split <;> rfl

theorem initialCapacity_grid : OnGrid (unitScale taker params) (initialCapacity taker params) := by
  unfold unitScale initialCapacity
  split <;> exact floorTo_onGrid _ _

section Fills
variable (fills : Fills taker params remaining maker quantity quoteAmount)
  (grid : OnGrid (unitScale taker params) remaining)
include fills

theorem Fills.taken_pos : 0 < taken taker quantity quoteAmount := by
  unfold taken
  split
  · exact fills.quote_pos
  · exact fills.quantity_pos

/-- What a maker trades, it had. -/
theorem Fills.le_remaining : quantity ≤ maker.remaining := by
  refine fills.available.trans (truncate_le ?_)
  by_contra negative
  have none : floorTo maker.remaining params.baseScale ≤ 0 :=
    atPlaces_le towardZero_mode (onGrid_zero _) (not_le.mp negative).le
  linarith [fills.available, fills.quantity_pos]

include grid

theorem Fills.quantity_grid : OnGrid params.baseScale quantity := by
  rw [fills.maximal]
  rcases min_choice (floorTo maker.remaining params.baseScale) (affordable taker params remaining maker.price) with
    least | least <;> rw [least]
  · exact floorTo_onGrid _ _
  · unfold affordable
    unfold unitScale at grid
    split
    · exact floorTo_onGrid _ _
    · simpa [‹¬taker.isBudgetDriven = true›] using grid

theorem Fills.taken_grid : OnGrid (unitScale taker params) (taken taker quantity quoteAmount) := by
  have base := fills.quantity_grid grid
  unfold unitScale taken
  split
  · exact fills.quote ▸ floorTo_onGrid _ _
  · exact base

theorem Fills.spend_grid : OnGrid (unitScale taker params) (spend taker remaining quantity quoteAmount) := by
  rw [spend_eq]
  exact significant_onGrid (grid.sub (fills.taken_grid grid))

end Fills

/-- Each trade comes from a turn that fills, with a capacity in whole units. -/
theorem trades_grid (grid : OnGrid (unitScale taker params) remaining)
    (traded : (maker, quantity, quoteAmount) ∈ trades taker params remaining book) :
    ∃ left, OnGrid (unitScale taker params) left ∧ Fills taker params left maker quantity quoteAmount := by
  induction book generalizing remaining with
  | nil => simp [trades] at traded
  | cons next book ih =>
    simp only [trades] at traded
    cases step : turn taker params remaining next with
    | stop => simp [step] at traded
    | skip => exact ih grid (by simpa [step] using traded)
    | fill quantity' quoteAmount' =>
      simp only [step, List.mem_cons] at traded
      rcases traded with same | later
      · cases same
        exact ⟨remaining, grid, turn_fill step⟩
      · exact ih ((turn_fill step).spend_grid grid) later

theorem trades_quantity_grid
    (traded : (maker, quantity, quoteAmount) ∈ trades taker params (initialCapacity taker params) book) :
    OnGrid params.baseScale quantity := by
  obtain ⟨left, grid, fills⟩ := trades_grid initialCapacity_grid traded
  exact fills.quantity_grid grid

/-- A pass takes no more than the capacity, if no single fill does and 20 digits
hold it. -/
theorem sum_taken_le {limit : ℚ} (digits : limit ≤ 10 ^ (20 - (unitScale taker params : ℤ)))
    (fits : ∀ maker left quantity quoteAmount, OnGrid (unitScale taker params) left → left < limit →
      Fills taker params left maker quantity quoteAmount → taken taker quantity quoteAmount ≤ left)
    (grid : OnGrid (unitScale taker params) remaining) (nonneg : 0 ≤ remaining) (small : remaining < limit) :
    ((trades taker params remaining book).map fun trade => taken taker trade.2.1 trade.2.2).sum ≤ remaining := by
  induction book generalizing remaining with
  | nil => simpa [trades] using nonneg
  | cons maker book ih =>
    simp only [trades]
    cases step : turn taker params remaining maker with
    | stop => simpa using nonneg
    | skip => exact ih grid nonneg small
    | fill quantity quoteAmount =>
      have fills := turn_fill step
      have cost := fits maker remaining quantity quoteAmount grid small fills
      have positive := fills.taken_pos
      have left : spend taker remaining quantity quoteAmount = remaining - taken taker quantity quoteAmount := by
        rw [spend_eq]
        refine Decimal.sub_exact grid (fills.taken_grid grid) ?_
        rw [abs_of_nonneg (sub_nonneg.mpr cost)]
        linarith
      have rest := ih (fills.spend_grid grid) (left ▸ sub_nonneg.mpr cost) (left ▸ (by linarith))
      rw [List.map_cons, List.sum_cons]
      linarith

/-! ## One trade after another -/

/-- The capacity left after some trades. -/
def leftAfter (taker : TakerInput) : Decimal → List (RestingOrder × Decimal × Decimal) → Decimal :=
  List.foldl fun left trade => spend taker left trade.2.1 trade.2.2

theorem trades_nil (nothing : remaining ≤ 0) : trades taker params remaining book = [] := by
  induction book with
  | nil => rfl
  | cons maker book ih =>
    simp only [trades]
    cases step : turn taker params remaining maker with
    | stop => rfl
    | skip => exact ih
    | fill quantity quoteAmount => exact absurd (turn_fill step).capacity nothing.not_gt

/-- Each trade is made with what the trades before it left, and the ones after it
with what it leaves. -/
theorem trades_split (split : trades taker params remaining book = before ++ (maker, quantity, quoteAmount) :: after) :
    Fills taker params (leftAfter taker remaining before) maker quantity quoteAmount ∧
      ∃ rest, after = trades taker params (spend taker (leftAfter taker remaining before) quantity quoteAmount) rest := by
  induction book generalizing remaining before with
  | nil => simp [trades] at split
  | cons next book ih =>
    simp only [trades] at split
    cases step : turn taker params remaining next with
    | stop => simp [step] at split
    | skip => exact ih (by simpa [step] using split)
    | fill quantity' quoteAmount' =>
      simp only [step] at split
      cases before with
      | nil =>
        cases split
        exact ⟨turn_fill step, book, rfl⟩
      | cons earlier before =>
        obtain ⟨rfl, later⟩ := List.cons.inj split
        have next := ih later
        exact next

end Exchange.Trading
