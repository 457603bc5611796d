import Exchange.TradingLockPostings
import Exchange.TradingMatchSoundness

/-! What an order's row says of its fills. The row adds up what the fills took
of the lock; where 20 digits hold the order, these sums are exact, and so is
what the row leaves of the lock. -/
namespace Exchange.Trading.LockAccounting
open SignificantDigits Ledger Service MatchSoundness

/-! ## Orders and their locks -/

/-- The columns hold the asset's decimals, and 20 digits what the order locks and
what it can be filled. -/
structure DigitsFit (params : MarketParams) (input : OrderBody) : Prop where
  base : params.baseScale ≤ 18
  quote : params.quoteScale ≤ 18
  lock : DigitsSuffice input params
  quantity : ∀ quantity ∈ input.quantity, ∃ places : ℕ, params.baseScale ≤ places ∧ OnGrid places quantity ∧
    quantity < 10 ^ (20 - (places : ℤ))

/-- The row of an order that was placed with this input. -/
structure Placed (params : MarketParams) (input : CreateOrderDto) (order : Order) : Prop where
  side : order.side = input.side
  type : order.type = input.type
  price : order.price = input.price
  quantity : order.quantity = input.quantity
  quoteBudget : order.quoteBudget = input.quoteBudget
  lockedAsset : order.lockedAsset = some (lockAsset input.side)
  lockedAmount : order.lockedAmount = some (computeLockRequirement input.toOrderBody params).amount
  fit : DigitsFit params input.toOrderBody

variable {params : MarketParams} {input : CreateOrderDto} {order row taker maker : Order} {s s' : Store}
  {id pid : OrderId} {asset : String} {fills : List EngineFill} {fill : EngineFill} {posted : Postings}
  {loaded rows : List Order} {market : Market} {done todo : List EngineFill} {body : OrderBody}

theorem Placed.takerInput (placed : Placed params input order) : takerInput order = input.toOrderBody.taker := by
  simp only [Service.takerInput, OrderBody.taker, placed.side, placed.type, placed.price, placed.quantity,
    placed.quoteBudget]

/-- Filling an order changes nothing of what was placed. -/
theorem Placed.progress (placed : Placed params input order) (filledQuantity quoteSpent : Decimal)
    (status : OrderStatus) (lockTxnId : Option ℕ) :
    Placed params input { order with filledQuantity, quoteSpent, status, lockTxnId } :=
  ⟨placed.side, placed.type, placed.price, placed.quantity, placed.quoteBudget, placed.lockedAsset,
    placed.lockedAmount, placed.fit⟩

/-- The places of the asset that an order locks. -/
def lockScale (side : OrderSide) (params : MarketParams) : ℕ :=
  match side with
  | .buy => params.quoteScale
  | .sell => params.baseScale

theorem DigitsFit.lockScale_le (fit : DigitsFit params body) (side : OrderSide) : lockScale side params ≤ 18 := by
  cases side with
  | buy => exact fit.quote
  | sell => exact fit.base

/-- A lock is an amount of whole units that 20 digits hold. -/
theorem DigitsFit.lock_spec (input : CreateOrderDto) (fit : DigitsFit params input.toOrderBody) :
    0 ≤ (computeLockRequirement input.toOrderBody params).amount ∧
      OnGrid (lockScale input.side params) (computeLockRequirement input.toOrderBody params).amount ∧
      (computeLockRequirement input.toOrderBody params).amount < 10 ^ (20 - (lockScale input.side params : ℤ)) := by
  obtain ⟨price, quantity, budget⟩ := accepted_nonneg input
  have suffice := fit.lock
  have digit : (10 : ℚ) ^ (19 - (params.quoteScale : ℤ)) < 10 ^ (20 - (params.quoteScale : ℤ)) :=
    zpow_lt_zpow_right₀ (by norm_num) (by omega)
  cases isSide : input.side with
  | sell =>
    simp only [DigitsSuffice, isSide] at suffice
    simp only [computeLockRequirement, isSide, toFixed_floorTo, lockScale]
    exact ⟨floorTo_nonneg quantity, floorTo_onGrid _ _, (floorTo_le quantity).trans_lt suffice⟩
  | buy =>
    cases isType : input.type with
    | limit =>
      simp only [DigitsSuffice, isSide, isType] at suffice
      simp only [computeLockRequirement, isSide, isType, toFixed_ceilTo, lockScale]
      exact ⟨(Decimal.nonneg_mul price quantity).trans (le_ceilTo (Decimal.nonneg_mul price quantity)),
        ceilTo_onGrid _ _, (ceilTo_mul_le suffice).trans_lt digit⟩
    | market =>
      simp only [DigitsSuffice, isSide, isType] at suffice
      simp only [computeLockRequirement, isSide, isType, toFixed_floorTo, lockScale]
      exact ⟨floorTo_nonneg budget, floorTo_onGrid _ _, ((floorTo_le budget).trans_lt suffice).trans digit⟩

/-- An order for a quantity spends no budget. -/
theorem quantity_driven (input : CreateOrderDto) (isSome : input.quantity.isSome) :
    input.toOrderBody.taker.isBudgetDriven = false := by
  have valid := input.valid
  simp only [createOrderSchema, Bool.and_eq_true] at valid
  cases isType : input.type with
  | limit => simp [TakerInput.isBudgetDriven, OrderBody.taker, isType]
  | market =>
    cases isSide : input.side with
    | sell => simp [TakerInput.isBudgetDriven, OrderBody.taker, isSide]
    | buy =>
      simp only [isType, isSide, Bool.and_eq_true, Option.isNone_iff_eq_none] at valid
      simp [valid.2.2] at isSome

/-! ## The fills of an order -/

/-- Fills that an order can have received so far. -/
def Received (params : MarketParams) (input : OrderBody) (fills : List EngineFill) : Prop :=
  ∃ rest, Receivable input params (fills ++ rest)

theorem matchOrder_executed {book : List RestingOrder} {taker : TakerInput}
    (member : fill ∈ (matchOrder taker book params).fills) : Executed params fill := by
  rw [matchOrder_fills] at member
  obtain ⟨trade, traded, rfl⟩ := List.mem_map.mp member
  rw [printed_eq traded]
  obtain ⟨maker, quantity, quoteAmount⟩ := trade
  obtain ⟨-, left, fills⟩ := trades_fills traded
  exact ⟨fills.price_pos, fills.quantity_pos, trades_quantity_grid traded, fills.quote⟩

theorem receivable_executed (received : Receivable body params fills) (member : fill ∈ fills) :
    Executed params fill := by
  unfold Receivable at received
  split at received
  · obtain ⟨book, rfl⟩ := received
    exact matchOrder_executed member
  · exact (received.1 fill member).1

theorem Received.executed (received : Received params body fills) (member : fill ∈ fills) : Executed params fill := by
  obtain ⟨rest, receivable⟩ := received
  exact receivable_executed receivable (List.mem_append_left rest member)

/-- What fills take from a lock is in whole units of the asset. -/
theorem executed_debits (side : OrderSide) (executed : ∀ fill ∈ fills, Executed params fill) {value : Decimal}
    (member : value ∈ fills.map (debit side)) : OnGrid (lockScale side params) value ∧ 0 ≤ value := by
  obtain ⟨fill, isFill, rfl⟩ := List.mem_map.mp member
  cases side with
  | buy => exact ⟨(executed fill isFill).quote_grid, (executed fill isFill).quote_nonneg⟩
  | sell => exact ⟨(executed fill isFill).quantity_grid, (executed fill isFill).quantity_pos.le⟩

theorem executed_quantities (executed : ∀ fill ∈ fills, Executed params fill) {value : Decimal}
    (member : value ∈ fills.map EngineFill.quantity) : OnGrid params.baseScale value ∧ 0 ≤ value :=
  executed_debits .sell executed member

/-- The fills so far cost no more than the lock. -/
theorem Received.covered (received : Received params input.toOrderBody fills)
    (fit : DigitsFit params input.toOrderBody) :
    (fills.map (debit input.side)).sum ≤ (computeLockRequirement input.toOrderBody params).amount := by
  obtain ⟨rest, receivable⟩ := received
  have all := (fills_covered input fit.lock receivable).1
  have later : 0 ≤ (rest.map (debit input.side)).sum := List.sum_nonneg fun amount member =>
    (executed_debits _ (fun fill isLater => receivable_executed receivable (List.mem_append_right fills isLater))
      member).2
  rw [List.map_append, List.sum_append] at all
  linarith

/-- An order for a quantity is filled no further. -/
theorem Received.within (received : Received params input.toOrderBody fills)
    (byQuantity : input.toOrderBody.taker.isBudgetDriven = false) :
    (fills.map EngineFill.quantity).sum ≤ input.quantity.getD 0 := by
  obtain ⟨rest, receivable⟩ := received
  have later : 0 ≤ (rest.map EngineFill.quantity).sum := List.sum_nonneg fun quantity member =>
    (executed_quantities (fun fill isLater => receivable_executed receivable (List.mem_append_right fills isLater))
      member).2
  simp only [Receivable, byQuantity, Bool.false_eq_true, ↓reduceIte, List.map_append, List.sum_append] at receivable
  exact (le_add_of_nonneg_right later).trans receivable.2

theorem received_nil (input : CreateOrderDto) : Received params input.toOrderBody [] := by
  refine ⟨[], ?_⟩
  unfold Receivable
  split
  · exact ⟨[], rfl⟩
  · exact ⟨fun fill member => (List.not_mem_nil member).elim, (accepted_nonneg input).2.1⟩

/-- One more fill of an order for a quantity. -/
theorem Received.concat (received : Received params input.toOrderBody fills)
    (byQuantity : input.toOrderBody.taker.isBudgetDriven = false) (executed : Executed params fill)
    (crossing : ∀ limit ∈ input.toOrderBody.taker.limit, crosses input.side limit fill.price)
    (room : (fills.map EngineFill.quantity).sum + fill.quantity ≤ input.quantity.getD 0) :
    Received params input.toOrderBody (fills ++ [fill]) := by
  obtain ⟨rest, receivable⟩ := received
  simp only [Receivable, byQuantity, Bool.false_eq_true, ↓reduceIte] at receivable
  refine ⟨[], ?_⟩
  simp only [Receivable, byQuantity, Bool.false_eq_true, ↓reduceIte, List.append_nil]
  refine ⟨fun other member => ?_, by simpa using room⟩
  rcases List.mem_append.mp member with before | last
  · exact receivable.1 other (List.mem_append_left rest before)
  · obtain rfl := List.mem_singleton.mp last
    exact ⟨executed, crossing⟩

/-! ## What a row says of the fills -/

/-- The row has added up the fills: their quantities, if the order is for a
quantity, and what they took of its lock. -/
structure AddedUp (input : CreateOrderDto) (fills : List EngineFill) (order : Order) : Prop where
  filled : input.toOrderBody.taker.isBudgetDriven = false →
    order.filledQuantity = (fills.map EngineFill.quantity).sum
  spent : spent order = (fills.map (debit input.side)).sum

/-- The sum of the quantities is exact. -/
theorem Placed.quantities_small (placed : Placed params input order)
    (received : Received params input.toOrderBody fills)
    (byQuantity : input.toOrderBody.taker.isBudgetDriven = false) :
    (fills.map EngineFill.quantity).sum < 10 ^ (20 - (params.baseScale : ℤ)) := by
  have within := received.within byQuantity
  cases isQuantity : input.quantity with
  | none =>
    rw [isQuantity, Option.getD_none] at within
    exact within.trans_lt (by positivity)
  | some quantity =>
    obtain ⟨places, fine, -, small⟩ := placed.fit.quantity quantity isQuantity
    rw [isQuantity, Option.getD_some] at within
    exact (within.trans_lt small).trans_le (zpow_le_zpow_right₀ (by norm_num) (by omega))

theorem Placed.debits_small (placed : Placed params input order)
    (received : Received params input.toOrderBody fills) :
    (fills.map (debit input.side)).sum < 10 ^ (20 - (lockScale input.side params : ℤ)) :=
  (received.covered placed.fit).trans_lt (placed.fit.lock_spec input).2.2

/-- The columns hold the sums as they are. -/
theorem AddedUp.stored (addedUp : AddedUp input fills order) (placed : Placed params input order)
    (received : Received params input.toOrderBody fills) (side : row.side = order.side)
    (filled : row.filledQuantity = Numeric.rounded order.filledQuantity)
    (quote : row.quoteSpent = Numeric.rounded order.quoteSpent) : AddedUp input fills row := by
  have executed : ∀ fill ∈ fills, Executed params fill := fun _ => received.executed
  have quantities : OnGrid Numeric.scale (fills.map EngineFill.quantity).sum :=
    (OnGrid.sum fun _ member => (executed_quantities executed member).1).mono (by exact_mod_cast placed.fit.base)
  have debits : OnGrid Numeric.scale (fills.map (debit input.side)).sum :=
    (OnGrid.sum fun _ member => (executed_debits _ executed member).1).mono
      (by exact_mod_cast placed.fit.lockScale_le input.side)
  refine ⟨fun byQuantity => ?_, ?_⟩
  · rw [filled, addedUp.filled byQuantity, Numeric.rounded_of_onGrid quantities]
  · have spends := addedUp.spent
    rw [← Numeric.rounded_of_onGrid debits, ← spends]
    unfold Service.spent
    rw [side, filled, quote]
    cases order.side <;> rfl

/-- What is left of a row's lock is computed exactly. -/
theorem AddedUp.surplus (addedUp : AddedUp input fills order) (placed : Placed params input order)
    (received : Received params input.toOrderBody fills) :
    (computeLockRequirement input.toOrderBody params).amount.sub (Service.spent order) =
      (computeLockRequirement input.toOrderBody params).amount - (fills.map (debit input.side)).sum := by
  have executed : ∀ fill ∈ fills, Executed params fill := fun _ => received.executed
  obtain ⟨nonneg, grid, small⟩ := placed.fit.lock_spec input
  have covered := received.covered placed.fit
  have taken : 0 ≤ (fills.map (debit input.side)).sum :=
    List.sum_nonneg fun _ member => (executed_debits _ executed member).2
  rw [addedUp.spent]
  refine Decimal.sub_exact grid (OnGrid.sum fun _ member => (executed_debits _ executed member).1) ?_
  rw [abs_of_nonneg (by linarith)]
  linarith

/-- A maker's row after one more fill. -/
theorem AddedUp.advance (addedUp : AddedUp input fills maker) (placed : Placed params input maker)
    (received : Received params input.toOrderBody (fills ++ [fill]))
    (byQuantity : input.toOrderBody.taker.isBudgetDriven = false) :
    AddedUp input (fills ++ [fill]) (advanced maker fill) := by
  have executed : ∀ other ∈ fills ++ [fill], Executed params other := fun _ => received.executed
  have exact (side : OrderSide)
      (small : ((fills ++ [fill]).map (debit side)).sum < 10 ^ (20 - (lockScale side params : ℤ))) :
      Decimal.add (fills.map (debit side)).sum (debit side fill) = ((fills ++ [fill]).map (debit side)).sum := by
    have each : ∀ value ∈ (fills ++ [fill]).map (debit side), OnGrid (lockScale side params) value ∧ 0 ≤ value :=
      fun _ => executed_debits side executed
    have nonneg := List.sum_nonneg fun value member => (each value member).2
    simp only [List.map_append, List.sum_append, List.map_singleton, List.sum_singleton] at each nonneg small ⊢
    refine Decimal.add_exact (OnGrid.sum fun value member => (each value (by simp_all)).1)
      (each (debit side fill) (by simp)).1 ?_
    rwa [abs_of_nonneg nonneg]
  have filled : (advanced maker fill).filledQuantity = ((fills ++ [fill]).map EngineFill.quantity).sum := by
    rw [show (advanced maker fill).filledQuantity = maker.filledQuantity.add fill.quantity from rfl,
      addedUp.filled byQuantity]
    exact exact .sell (placed.quantities_small received byQuantity)
  refine ⟨fun _ => filled, ?_⟩
  have small := placed.debits_small received
  have spends := addedUp.spent
  unfold Service.spent at spends ⊢
  rw [placed.side] at spends
  rw [show (advanced maker fill).side = input.side from placed.side]
  cases isSide : input.side with
  | sell => exact filled
  | buy =>
    rw [isSide] at spends small
    have spent : maker.quoteSpent = (fills.map (debit .buy)).sum := spends
    rw [show (advanced maker fill).quoteSpent = maker.quoteSpent.add fill.quoteAmount from rfl, spent]
    exact exact .buy small

/-- A maker that offers a fill has the quantity left. -/
theorem AddedUp.room (addedUp : AddedUp input fills maker) (placed : Placed params input maker)
    (received : Received params input.toOrderBody fills)
    (byQuantity : input.toOrderBody.taker.isBudgetDriven = false) (positive : 0 < fill.quantity)
    (available : fill.quantity ≤ (restingOrder maker).remaining) :
    (fills.map EngineFill.quantity).sum + fill.quantity ≤ input.quantity.getD 0 := by
  unfold restingOrder at available
  rw [placed.quantity, addedUp.filled byQuantity] at available
  have within := received.within byQuantity
  cases isQuantity : input.quantity with
  | none =>
    simp only [isQuantity] at available
    exact absurd available (not_le.mpr positive)
  | some quantity =>
    simp only [isQuantity, Option.getD_some] at available within ⊢
    obtain ⟨places, fine, grid, small⟩ := placed.fit.quantity quantity isQuantity
    have executed : ∀ fill ∈ fills, Executed params fill := fun _ => received.executed
    have filled : OnGrid places (fills.map EngineFill.quantity).sum :=
      (OnGrid.sum fun _ member => (executed_quantities executed member).1).mono (by exact_mod_cast fine)
    have nonneg : 0 ≤ (fills.map EngineFill.quantity).sum :=
      List.sum_nonneg fun _ member => (executed_quantities executed member).2
    rw [Decimal.sub_exact grid filled (by rw [abs_of_nonneg (by linarith)]; linarith)] at available
    linarith

/-! ## The fills of a pass -/

/-- The columns store the numbers of an accepted order as they are. -/
theorem stored_as_accepted (input : CreateOrderDto) : input.price.map Numeric.rounded = input.price ∧
    input.quantity.map Numeric.rounded = input.quantity ∧
    input.quoteBudget.map Numeric.rounded = input.quoteBudget := by
  have valid := input.valid
  simp only [createOrderSchema, Bool.and_eq_true] at valid
  have same : ∀ value : Option Decimal, value.all positiveDecimal → value.map Numeric.rounded = value := by
    intro value positive
    cases value with
    | none => rfl
    | some amount =>
      rw [Option.map_some, Numeric.rounded_of_onGrid (positiveDecimal_spec (by simpa using positive)).2]
  exact ⟨same _ valid.1.1.1, same _ valid.1.1.2, same _ valid.1.2⟩

/-- A new row is placed with its input. -/
theorem placed_newRow (market : Market) (fit : DigitsFit params input.toOrderBody)
    (pid : OrderId) (now : ℕ) (userId : UserId) :
    Placed params input (newRow pid now (newOrder userId market input.toOrderBody
      (computeLockRequirement input.toOrderBody params))) := by
  obtain ⟨price, quantity, budget⟩ := stored_as_accepted input
  have grid : OnGrid Numeric.scale (computeLockRequirement input.toOrderBody params).amount :=
    (fit.lock_spec input).2.1.mono (by exact_mod_cast fit.lockScale_le input.side)
  refine ⟨rfl, rfl, price, quantity, budget, ?_, ?_, fit⟩
  · exact congrArg some (lock_asset _ _)
  · exact congrArg some (Numeric.rounded_of_onGrid grid)

theorem Placed.result_eq (placed : Placed params input taker) (loaded : List Order) :
    matched taker params loaded = matchOrder input.toOrderBody.taker (loaded.map restingOrder) params := by
  rw [matched, placed.takerInput]

/-- A fill is within what the row of its maker has open. -/
theorem matched_available (member : fill ∈ (matched taker params loaded).fills) :
    ∃ row ∈ loaded, row.id = fill.makerOrderId ∧ fill.quantity ≤ (restingOrder row).remaining := by
  simp only [matchOrder, matchBook_fills, List.nil_append, List.mem_map] at member
  obtain ⟨⟨maker, quantity, quoteAmount⟩, traded, rfl⟩ := member
  obtain ⟨onBook, left, fills⟩ := trades_fills traded
  obtain ⟨row, isLoaded, rfl⟩ := List.mem_map.mp onBook
  refine ⟨row, isLoaded, rfl, ?_⟩
  rw [Decimal.toFixed_of_onGrid (trades_quantity_grid traded)]
  exact fills.le_remaining

/-- A pass takes no more than the order is for. -/
theorem Placed.pass_within (placed : Placed params input taker)
    (byQuantity : input.toOrderBody.taker.isBudgetDriven = false) :
    (((matched taker params loaded).fills).map EngineFill.quantity).sum ≤ input.quantity.getD 0 := by
  have nonneg := (accepted_nonneg input).2.1
  have capacity : initialCapacity input.toOrderBody.taker params =
      floorTo (input.quantity.getD 0) params.baseScale := by
    rw [initialCapacity, byQuantity]
    rfl
  have floored : initialCapacity input.toOrderBody.taker params ≤ input.quantity.getD 0 :=
    capacity ▸ floorTo_le nonneg
  have small : input.quantity.getD 0 < 10 ^ (20 - (params.baseScale : ℤ)) := by
    cases isQuantity : input.quantity with
    | none => exact (by positivity : (0 : ℚ) < 10 ^ (20 - (params.baseScale : ℤ)))
    | some quantity =>
      obtain ⟨places, fine, -, small⟩ := placed.fit.quantity quantity isQuantity
      exact small.trans_le (zpow_le_zpow_right₀ (by norm_num) (by omega))
  have scale : unitScale input.toOrderBody.taker params = params.baseScale := by simp [unitScale, byQuantity]
  have cost : ∀ quantity quoteAmount, taken input.toOrderBody.taker quantity quoteAmount = quantity := by
    simp [taken, byQuantity]
  have covered := @sum_taken_le input.toOrderBody.taker params (loaded.map restingOrder)
    (initialCapacity input.toOrderBody.taker params) (10 ^ (20 - (params.baseScale : ℤ)))
  simp only [scale, cost] at covered
  rw [placed.result_eq, fills_quantities]
  refine (covered le_rfl (fun maker left quantity quoteAmount _ _ fills => ?_) (scale ▸ initialCapacity_grid)
    (capacity ▸ floorTo_nonneg nonneg) (floored.trans_lt small)).trans floored
  simpa [affordable, byQuantity] using fills.afforded

/-- What the pass of an order gives it, as far as the loop has got. -/
theorem Placed.received (placed : Placed params input taker)
    (split : (matched taker params loaded).fills = done ++ todo) : Received params input.toOrderBody done := by
  refine ⟨todo, ?_⟩
  unfold Receivable
  split
  · exact ⟨loaded.map restingOrder, by rw [← split, placed.result_eq]⟩
  · rename_i byQuantity
    rw [← split]
    refine ⟨fun fill member => ?_, placed.pass_within (by simpa using byQuantity)⟩
    obtain ⟨executed, row, -, isFrom⟩ := matched_fill member
    have crossing := isFrom.crossing
    rw [placed.takerInput, placed.side] at crossing
    exact ⟨executed, crossing⟩

/-- The row of an order after its own pass, before the columns round it. -/
def passed (taker : Order) (params : MarketParams) (loaded : List Order) : Order :=
  { taker with
    filledQuantity := (matched taker params loaded).filledQuantity
    quoteSpent := (matched taker params loaded).quoteTotal }

theorem matched_quoteTotal : (matched taker params loaded).quoteTotal =
    (((matched taker params loaded).fills.map EngineFill.quoteAmount).foldl Decimal.add 0).toFixed
      params.quoteScale := by
  have total : (matchOrder (takerInput taker) (loaded.map restingOrder) params).quoteTotal =
      (((trades (takerInput taker) params (initialCapacity (takerInput taker) params) (loaded.map restingOrder)).map
        fun trade => trade.2.2).foldl Decimal.add 0).toFixed params.quoteScale := by
    rw [matchOrder, matchBook_quoteTotal, List.foldl_map]
  rw [total, ← fills_quotes]

/-- The pass adds up its fills. -/
theorem Placed.passed_addedUp (placed : Placed params input taker) :
    AddedUp input (matched taker params loaded).fills (passed taker params loaded) := by
  have received : Received params input.toOrderBody (matched taker params loaded).fills :=
    placed.received (List.append_nil _).symm
  have executed : ∀ fill ∈ (matched taker params loaded).fills, Executed params fill := fun _ => received.executed
  refine ⟨fun byQuantity => ?_, ?_⟩
  · refine matched_filledQuantity.trans (printed_total (fun _ => executed_quantities executed) ?_)
    exact placed.quantities_small received byQuantity
  · have small := placed.debits_small received
    unfold Service.spent
    rw [show (passed taker params loaded).side = input.side from placed.side]
    cases isSide : input.side with
    | sell =>
      rw [isSide] at small
      exact matched_filledQuantity.trans (printed_total (fun _ => executed_quantities executed) small)
    | buy =>
      rw [isSide] at small
      exact matched_quoteTotal.trans (printed_total (fun _ => executed_debits .buy executed) small)

end Exchange.Trading.LockAccounting
