import Exchange.TradingTradeRecords

/-! An order's own lock pays for its fills. The quote amounts are products
rounded to 20 digits and floored, each by itself; the lock is one such product,
rounded up. Below 19 digits in quote units the roundings cannot add up to a
unit. -/
namespace Exchange.Trading
open SignificantDigits Ledger

variable {fills : List EngineFill} {params : MarketParams} {price quantity : Decimal}

/-- The relative error of one rounding to 20 digits. -/
private abbrev ε : ℚ := 5 * 10 ^ (-(20 : ℤ))

private theorem mul_le_error (nonneg : 0 ≤ x * y) : Decimal.mul x y ≤ (1 + ε) * (x * y) :=
  significant_le nonneg

private theorem le_mul_error (nonneg : 0 ≤ x * y) : (1 - ε) * (x * y) ≤ Decimal.mul x y :=
  le_significant nonneg

private theorem div_le_error (nonneg : 0 ≤ x / y) : Decimal.div x y ≤ (1 + ε) * (x / y) :=
  significant_le nonneg

/-- A fill as the engine computes it from a price and a quantity. -/
structure Executed (params : MarketParams) (fill : EngineFill) : Prop where
  price_pos : 0 < fill.price
  quantity_pos : 0 < fill.quantity
  quantity_grid : OnGrid params.baseScale fill.quantity
  quote : fill.quoteAmount = floorTo (fill.quantity.mul fill.price) params.quoteScale

/-- The fills an order can receive over its life. A budget-driven order never
rests, so its fills are those of one pass. Any other order receives fills at
prices that cross its own, as taker and later as maker, up to its quantity. -/
def Receivable (input : OrderBody) (params : MarketParams) (fills : List EngineFill) : Prop :=
  if input.taker.isBudgetDriven then
    ∃ book, fills = (matchOrder input.taker book params).fills
  else
    (∀ fill ∈ fills, Executed params fill ∧
      ∀ limit ∈ input.taker.limit, crosses input.side limit fill.price) ∧
    (fills.map fun fill => fill.quantity).sum ≤ input.quantity.getD 0

/-- What a fill takes out of the order's lock. -/
def debit (side : OrderSide) (fill : EngineFill) : Decimal :=
  match side with
  | .buy => fill.quoteAmount
  | .sell => fill.quantity

/-- The notional of a LIMIT BUY, or the budget of a MARKET BUY, has at most 19
digits in quote units; the quantity of a SELL has at most 20 in base units. -/
def DigitsSuffice (input : OrderBody) (params : MarketParams) : Prop :=
  match input.side, input.type with
  | .buy, .limit =>
    input.price.getD 0 * input.quantity.getD 0 < 10 ^ (19 - (params.quoteScale : ℤ))
  | .buy, .market => input.quoteBudget.getD 0 < 10 ^ (19 - (params.quoteScale : ℤ))
  | .sell, _ => input.quantity.getD 0 < 10 ^ (20 - (params.baseScale : ℤ))

private theorem unit_eq (places : ℕ) :
    (10 : ℚ) ^ (-(places : ℤ)) = 10 ^ (-(19 : ℤ)) * 10 ^ (19 - (places : ℤ)) := by
  rw [← zpow_add₀ (by norm_num)]
  congr 1
  ring

theorem Executed.quote_nonneg (executed : Executed params fill) : 0 ≤ fill.quoteAmount := by
  rw [executed.quote]
  exact floorTo_nonneg (Decimal.nonneg_mul executed.quantity_pos.le executed.price_pos.le)

theorem Executed.quote_grid (executed : Executed params fill) :
    OnGrid params.quoteScale fill.quoteAmount := by
  rw [executed.quote]
  exact floorTo_onGrid _ _

private theorem quote_sum_le
    (executed : ∀ fill ∈ fills, Executed params fill ∧ fill.price ≤ price) :
    (fills.map fun fill => fill.quoteAmount).sum ≤
      (1 + ε) * (price * (fills.map fun fill => fill.quantity).sum) := by
  induction fills with
  | nil => simp
  | cons fill fills ih =>
    obtain ⟨this, within⟩ := executed fill (by simp)
    have rest := ih fun other member => executed other (by simp [member])
    have quantity := this.quantity_pos.le
    have here : fill.quoteAmount ≤ (1 + ε) * (price * fill.quantity) := by
      have product : 0 ≤ fill.quantity * fill.price := mul_nonneg quantity this.price_pos.le
      have higher : fill.quantity * fill.price ≤ fill.quantity * price :=
        mul_le_mul_of_nonneg_left within quantity
      calc fill.quoteAmount
          ≤ fill.quantity.mul fill.price := by
            rw [this.quote]
            exact floorTo_le (Decimal.nonneg_mul quantity this.price_pos.le)
        _ ≤ (1 + ε) * (fill.quantity * fill.price) := mul_le_error product
        _ ≤ (1 + ε) * (price * fill.quantity) := by
            rw [mul_comm price]
            exact mul_le_mul_of_nonneg_left higher (by norm_num [ε])
    simp only [List.map_cons, List.sum_cons]
    linarith

/-- A notional of at most 19 digits in quote units locks no more than that. -/
theorem ceilTo_mul_le (small : price * quantity < 10 ^ (19 - (params.quoteScale : ℤ))) :
    ceilTo (Decimal.mul price quantity) params.quoteScale ≤ 10 ^ (19 - (params.quoteScale : ℤ)) := by
  have power : OnGrid (-(19 - (params.quoteScale : ℤ))) ((10 : ℚ) ^ (19 - (params.quoteScale : ℤ))) :=
    ⟨1, by rw [← zpow_add₀ (by norm_num)]; norm_num⟩
  have below : Decimal.mul price quantity ≤ 10 ^ (19 - (params.quoteScale : ℤ)) := by
    have rounded := @significant_mono Decimal.precision (by decide) _ _ small.le
    rwa [significant_of_onGrid power] at rounded
    rw [abs_of_pos (by positivity)]
    exact zpow_lt_zpow_right₀ (by norm_num) (by simp only [Decimal.precision]; omega)
  exact atPlaces_le awayFromZero_mode (power.mono (by omega)) below

/-- LIMIT BUY: fills at or below the price, up to the quantity. -/
private theorem limitBuy_covered
    (executed : ∀ fill ∈ fills, Executed params fill ∧ fill.price ≤ price)
    (priceNonneg : 0 ≤ price) (total : (fills.map fun fill => fill.quantity).sum ≤ quantity)
    (quantityNonneg : 0 ≤ quantity)
    (small : price * quantity < 10 ^ (19 - (params.quoteScale : ℤ))) :
    (fills.map fun fill => fill.quoteAmount).sum ≤
      ceilTo (Decimal.mul price quantity) params.quoteScale := by
  have grid : OnGrid params.quoteScale (fills.map fun fill => fill.quoteAmount).sum :=
    OnGrid.sum fun x member => by
      obtain ⟨fill, present, rfl⟩ := List.mem_map.mp member
      exact (executed fill present).1.quote_grid
  have product : 0 ≤ price * quantity := mul_nonneg priceNonneg quantityNonneg
  refine grid.le_of_lt_add_unit (ceilTo_onGrid _ _) ?_
  have spent : (fills.map fun fill => fill.quoteAmount).sum ≤ (1 + ε) * (price * quantity) :=
    (quote_sum_le executed).trans
      (mul_le_mul_of_nonneg_left (mul_le_mul_of_nonneg_left total priceNonneg) (by norm_num [ε]))
  have locked : (1 - ε) * (price * quantity) ≤ ceilTo (Decimal.mul price quantity) params.quoteScale :=
    (le_mul_error product).trans (le_ceilTo (Decimal.nonneg_mul priceNonneg quantityNonneg))
  have errors : 2 * ε * (price * quantity) < 10 ^ (-(params.quoteScale : ℤ)) := by
    rw [unit_eq, show 2 * ε = 10 ^ (-(19 : ℤ)) by norm_num [ε]]
    exact mul_lt_mul_of_pos_left small (by norm_num)
  linarith

/-- What a maker without a price offers is worth nothing, so nobody buys it. -/
theorem Fills.price_pos (fills : Fills taker params remaining maker quantity quoteAmount) :
    0 < maker.price := by
  by_contra nonpositive
  have product : Decimal.mul quantity maker.price ≤ Decimal.mul quantity 0 :=
    Decimal.mul_mono_right fills.quantity_pos.le (not_lt.mp nonpositive)
  have worthless : quoteAmount ≤ floorTo 0 params.quoteScale := by
    rw [fills.quote]
    refine floorTo_mono (product.trans ?_)
    simp [Decimal.mul]
  have zero : floorTo 0 params.quoteScale = 0 := by simp [floorTo, atPlaces, towardZero]
  linarith [fills.quote_pos]

/-- One fill of a budget-driven order costs no more than what is left. -/
private theorem quote_le_budget (fills : Fills taker params remaining maker quantity quoteAmount)
    (budgetDriven : taker.isBudgetDriven) (grid : OnGrid params.quoteScale remaining)
    (small : remaining < 10 ^ (19 - (params.quoteScale : ℤ))) : quoteAmount ≤ remaining := by
  have positive := fills.capacity
  have quoteGrid : OnGrid params.quoteScale quoteAmount := fills.quote ▸ floorTo_onGrid _ _
  have limitGrid : OnGrid params.quoteScale ((10 : ℚ) ^ (19 - (params.quoteScale : ℤ))) :=
    OnGrid.mono ⟨1, by rw [← zpow_add₀ (by norm_num)]; norm_num⟩
      (show -(19 - (params.quoteScale : ℤ)) ≤ params.quoteScale by omega)
  have room := grid.add_unit_le limitGrid small
  have price := fills.price_pos
  have bought : quantity ≤ (1 + ε) * (remaining / maker.price) := by
    have ratio : 0 ≤ remaining / maker.price := by positivity
    have afforded := fills.afforded
    rw [affordable, if_pos budgetDriven] at afforded
    exact (afforded.trans (floorTo_le (significant_nonneg ratio))).trans (div_le_error ratio)
  have cost : quoteAmount ≤ (1 + ε) * ((1 + ε) * remaining) := by
    have product : 0 ≤ quantity * maker.price := mul_nonneg fills.quantity_pos.le price.le
    calc quoteAmount
        ≤ Decimal.mul quantity maker.price := by
          rw [fills.quote]
          exact floorTo_le (significant_nonneg product)
      _ ≤ (1 + ε) * (quantity * maker.price) := mul_le_error product
      _ ≤ (1 + ε) * ((1 + ε) * remaining) := by
          refine mul_le_mul_of_nonneg_left ?_ (by norm_num [ε])
          have scaled := mul_le_mul_of_nonneg_right bought price.le
          rwa [mul_assoc, div_mul_cancel₀ _ price.ne'] at scaled
  refine quoteGrid.le_of_lt_add_unit grid (cost.trans_lt ?_)
  have unit := unit_eq params.quoteScale
  have positiveUnit : (0 : ℚ) < 10 ^ (-(params.quoteScale : ℤ)) := by positivity
  have scale : (10 : ℚ) ^ (19 - (params.quoteScale : ℤ)) =
      10 ^ (19 : ℤ) * 10 ^ (-(params.quoteScale : ℤ)) := by
    rw [← zpow_add₀ (by norm_num)]
    rfl
  rw [scale] at room
  norm_num [ε] at room ⊢
  linarith

/-- MARKET BUY: what one pass spends of the budget. -/
theorem budget_covered (budgetDriven : taker.isBudgetDriven)
    (grid : OnGrid params.quoteScale remaining) (nonneg : 0 ≤ remaining)
    (small : remaining < 10 ^ (19 - (params.quoteScale : ℤ))) :
    ((trades taker params remaining book).map fun trade => trade.2.2).sum ≤ remaining := by
  have scale : unitScale taker params = params.quoteScale := if_pos budgetDriven
  have cost : ∀ quantity quoteAmount, taken taker quantity quoteAmount = quoteAmount := fun _ _ => if_pos budgetDriven
  have digits : (10 : ℚ) ^ (19 - (params.quoteScale : ℤ)) ≤ 10 ^ (20 - (params.quoteScale : ℤ)) :=
    zpow_le_zpow_right₀ (by norm_num) (by omega)
  have covered := @sum_taken_le taker params book remaining (10 ^ (19 - (params.quoteScale : ℤ)))
  simp only [scale, cost] at covered
  exact covered digits (fun _ _ _ _ leftGrid leftSmall fills => quote_le_budget fills budgetDriven leftGrid leftSmall)
    grid nonneg small

/-- What `releaseSurplus` finds left of a lock after the fills, whose debits the
order's row has added up. -/
def surplusAfter (input : OrderBody) (params : MarketParams) (fills : List EngineFill) : Decimal :=
  (computeLockRequirement input params).amount.sub
    ((fills.map (debit input.side)).foldl Decimal.add 0)

/-- A total that stays within the lock is summed up exactly in the row, and the
surplus is not negative. -/
private theorem surplus_nonneg (places : ℕ) {debits : List Decimal} {amount : Decimal}
    (each : ∀ x ∈ debits, OnGrid places x ∧ 0 ≤ x) (covered : debits.sum ≤ amount)
    (small : amount < 10 ^ (20 - (places : ℤ))) :
    0 ≤ Decimal.sub amount (debits.foldl Decimal.add 0) := by
  have exact : debits.foldl Decimal.add 0 = debits.sum := by
    rw [Decimal.foldl_add_exact (onGrid_zero places) le_rfl each (by linarith), zero_add]
  rw [exact]
  exact significant_nonneg (sub_nonneg.mpr covered)

/-- A market order that buys has a budget, any other order a quantity, and a
limit order a price. -/
theorem accepted_nonneg (input : CreateOrderDto) :
    0 ≤ input.price.getD 0 ∧ 0 ≤ input.quantity.getD 0 ∧ 0 ≤ input.quoteBudget.getD 0 := by
  have valid := input.valid
  simp only [createOrderSchema, Bool.and_eq_true] at valid
  have nonneg : ∀ value : Option Decimal, value.all positiveDecimal → 0 ≤ value.getD 0 := by
    intro value positive
    cases value with
    | none => exact le_rfl
    | some amount => exact (positiveDecimal_spec (by simpa using positive)).1.le
  exact ⟨nonneg _ valid.1.1.1, nonneg _ valid.1.1.2, nonneg _ valid.1.2⟩

private theorem limit_price (input : CreateOrderDto) (isLimit : input.type = .limit) :
    input.taker.limit = some (input.price.getD 0) := by
  have valid := input.valid
  simp only [createOrderSchema, Bool.and_eq_true, isLimit] at valid
  obtain ⟨price, priced⟩ := Option.isSome_iff_exists.mp valid.2.1.1
  simp [TakerInput.limit, OrderBody.taker, isLimit, priced]

private theorem limitBuy_case (input : CreateOrderDto) (isBuy : input.side = .buy)
    (isLimit : input.type = .limit) (suffice : DigitsSuffice input.toOrderBody params)
    (received : Receivable input.toOrderBody params fills) :
    (fills.map (debit input.side)).sum ≤
      (computeLockRequirement input.toOrderBody params).amount ∧
    0 ≤ surplusAfter input.toOrderBody params fills := by
  obtain ⟨priceNonneg, quantityNonneg, -⟩ := accepted_nonneg input
  have product : 0 ≤ input.price.getD 0 * input.quantity.getD 0 :=
    mul_nonneg priceNonneg quantityNonneg
  simp only [DigitsSuffice, isBuy, isLimit] at suffice
  have resting : input.toOrderBody.taker.isBudgetDriven = false := by
    simp [TakerInput.isBudgetDriven, OrderBody.taker, isLimit]
  simp only [Receivable, resting, Bool.false_eq_true, ↓reduceIte, limit_price input isLimit, isBuy,
    Option.mem_def, Option.some.injEq, forall_eq', crosses, decide_eq_true_eq] at received
  obtain ⟨executed, total⟩ := received
  have amount : (computeLockRequirement input.toOrderBody params).amount =
      ceilTo (Decimal.mul (input.price.getD 0) (input.quantity.getD 0)) params.quoteScale := by
    simp only [computeLockRequirement, isBuy, isLimit, toFixed_ceilTo]
  have covered := limitBuy_covered executed priceNonneg total quantityNonneg suffice
  have debits : fills.map (debit input.side) = fills.map fun fill => fill.quoteAmount := by
    rw [isBuy]
    rfl
  have bound := ceilTo_mul_le suffice
  refine ⟨by rw [debits, amount]; exact covered, ?_⟩
  rw [surplusAfter, debits, amount]
  refine surplus_nonneg params.quoteScale (fun x member => ?_) covered ?_
  · obtain ⟨fill, present, rfl⟩ := List.mem_map.mp member
    exact ⟨(executed fill present).1.quote_grid, (executed fill present).1.quote_nonneg⟩
  · exact bound.trans_lt (zpow_lt_zpow_right₀ (by norm_num) (by omega))

private theorem marketBuy_case (input : CreateOrderDto) (isBuy : input.side = .buy)
    (isMarket : input.type = .market) (suffice : DigitsSuffice input.toOrderBody params)
    (received : Receivable input.toOrderBody params fills) :
    (fills.map (debit input.side)).sum ≤
      (computeLockRequirement input.toOrderBody params).amount ∧
    0 ≤ surplusAfter input.toOrderBody params fills := by
  obtain ⟨-, -, budgetNonneg⟩ := accepted_nonneg input
  simp only [DigitsSuffice, isBuy, isMarket] at suffice
  have budgetDriven : input.toOrderBody.taker.isBudgetDriven := by
    simp [TakerInput.isBudgetDriven, OrderBody.taker, isMarket, isBuy]
  simp only [Receivable, budgetDriven, ↓reduceIte] at received
  obtain ⟨book, rfl⟩ := received
  have budget : floorTo (input.quoteBudget.getD 0) params.quoteScale ≤ input.quoteBudget.getD 0 :=
    floorTo_le budgetNonneg
  have amount : (computeLockRequirement input.toOrderBody params).amount =
      floorTo (input.quoteBudget.getD 0) params.quoteScale := by
    simp only [computeLockRequirement, isBuy, isMarket, toFixed_floorTo]
  have capacity : initialCapacity input.toOrderBody.taker params =
      floorTo (input.quoteBudget.getD 0) params.quoteScale := by
    rw [initialCapacity, if_pos budgetDriven]
    rfl
  have covered : ((trades input.toOrderBody.taker params
      (floorTo (input.quoteBudget.getD 0) params.quoteScale) book).map fun trade => trade.2.2).sum ≤
        floorTo (input.quoteBudget.getD 0) params.quoteScale :=
    budget_covered budgetDriven (floorTo_onGrid _ _) (floorTo_nonneg budgetNonneg)
      (budget.trans_lt suffice)
  have quotes : ∀ trade ∈ trades input.toOrderBody.taker params
      (initialCapacity input.toOrderBody.taker params) book,
      OnGrid params.quoteScale trade.2.2 ∧ 0 < trade.2.2 := by
    rintro ⟨maker, quantity, quoteAmount⟩ traded
    obtain ⟨-, left, fills⟩ := trades_fills traded
    exact ⟨fills.quote ▸ floorTo_onGrid _ _, fills.quote_pos⟩
  have debits : (matchOrder input.toOrderBody.taker book params).fills.map (debit input.side) =
      (trades input.toOrderBody.taker params
        (floorTo (input.quoteBudget.getD 0) params.quoteScale) book).map fun trade => trade.2.2 := by
    rw [← capacity, matchOrder, matchBook_fills, List.nil_append, List.map_map, isBuy]
    exact List.map_congr_left fun trade traded => Decimal.toFixed_of_onGrid (quotes trade traded).1
  rw [capacity] at quotes
  refine ⟨by rw [debits, amount]; exact covered, ?_⟩
  rw [surplusAfter, debits, amount]
  refine surplus_nonneg params.quoteScale (fun x member => ?_) covered ?_
  · obtain ⟨trade, traded, rfl⟩ := List.mem_map.mp member
    exact ⟨(quotes trade traded).1, (quotes trade traded).2.le⟩
  · exact (budget.trans_lt suffice).trans (zpow_lt_zpow_right₀ (by norm_num) (by omega))

private theorem sell_case (input : CreateOrderDto) (isSell : input.side = .sell)
    (suffice : DigitsSuffice input.toOrderBody params)
    (received : Receivable input.toOrderBody params fills) :
    (fills.map (debit input.side)).sum ≤
      (computeLockRequirement input.toOrderBody params).amount ∧
    0 ≤ surplusAfter input.toOrderBody params fills := by
  obtain ⟨-, quantityNonneg, -⟩ := accepted_nonneg input
  simp only [DigitsSuffice, isSell] at suffice
  have resting : input.toOrderBody.taker.isBudgetDriven = false := by
    simp [TakerInput.isBudgetDriven, OrderBody.taker, isSell]
  simp only [Receivable, resting, Bool.false_eq_true, ↓reduceIte] at received
  obtain ⟨executed, total⟩ := received
  have amount : (computeLockRequirement input.toOrderBody params).amount =
      floorTo (input.quantity.getD 0) params.baseScale := by
    simp only [computeLockRequirement, isSell, toFixed_floorTo]
  have debits : fills.map (debit input.side) = fills.map fun fill => fill.quantity := by
    rw [isSell]
    rfl
  have each : ∀ x ∈ fills.map fun fill => fill.quantity, OnGrid params.baseScale x ∧ 0 ≤ x := by
    intro x member
    obtain ⟨fill, present, rfl⟩ := List.mem_map.mp member
    exact ⟨(executed fill present).1.quantity_grid, (executed fill present).1.quantity_pos.le⟩
  -- the total is on the base grid, so flooring the quantity stays above it
  have covered : (fills.map fun fill => fill.quantity).sum ≤
      floorTo (input.quantity.getD 0) params.baseScale :=
    le_atPlaces towardZero_mode (OnGrid.sum fun x member => (each x member).1) total
  refine ⟨by rw [debits, amount]; exact covered, ?_⟩
  rw [surplusAfter, debits, amount]
  exact surplus_nonneg params.baseScale each covered ((floorTo_le quantityNonneg).trans_lt suffice)

/-- The debits of whatever fills an order receives stay within its lock. -/
theorem fills_covered (input : CreateOrderDto) (suffice : DigitsSuffice input.toOrderBody params)
    (received : Receivable input.toOrderBody params fills) :
    (fills.map (debit input.side)).sum ≤
      (computeLockRequirement input.toOrderBody params).amount ∧
    0 ≤ surplusAfter input.toOrderBody params fills := by
  cases isSide : input.side with
  | sell => exact isSide ▸ sell_case input isSide suffice received
  | buy =>
    cases isType : input.type with
    | limit => exact isSide ▸ limitBuy_case input isSide isType suffice received
    | market => exact isSide ▸ marketBuy_case input isSide isType suffice received

end Exchange.Trading
