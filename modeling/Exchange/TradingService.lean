import Exchange.TradingRepository

/-! The trading service: placing an order (create, lock, open, match, settle)
and cancelling one. Auditing and live updates never throw and touch none of
the tables here, so they are no calls. -/
namespace Exchange.Trading
open Ledger

def bookScanLimit : ℕ := 500

namespace Service

def liftExcept : Except Failure α → TradingM α := .done

def assertKycApproved (userId : UserId) : TradingM Unit := do
  let user ← ask (.findUserKyc userId)
  match user with
  | none => throw (.notFoundError "User not found")
  | some user =>
    if user.status ≠ .active then throw (.forbiddenError "Account is not active" "ACCOUNT_INACTIVE")
    else if user.kycStatus ≠ .approved || user.kycTier < 1 then
      throw (.forbiddenError "KYC approval is required to trade" "KYC_REQUIRED")
    else pure ()

def marketParams (market : Market) (decimals : List (String × ℕ)) : MarketParams :=
  ⟨(decimals.lookup market.baseAsset.toUpper).getD 6,
    (decimals.lookup market.quoteAsset.toUpper).getD 2⟩

def resolveMarket (symbol : String) : TradingM (Market × MarketParams) := do
  let market ← ask (.findMarketBySymbol symbol)
  match market with
  | none => throw (.notFoundError "Market not found" "MARKET_NOT_FOUND")
  | some market =>
    let decimals ← ask (.assetDecimals [market.baseAsset, market.quoteAsset])
    pure (market, marketParams market decimals)

/-- Sections of one market run one after another; a section that throws lets
the next one in as well. -/
def withMarketLock (key : String) (section' : TradingM α) : TradingM α := do
  ask (.acquire key)
  let result ← section'.settled
  ask (.release key)
  liftExcept result

/-- A transfer between the two accounts of a user's balance. -/
def transferLines (userId : UserId) (source target : AccountKind) (asset : String)
    (amount : Decimal) : List LedgerPostingLine :=
  [⟨some userId, source, asset, .debit, amount⟩, ⟨some userId, target, asset, .credit, amount⟩]

def orderLock (order : Order) (lock : LockRequirement) : LedgerPostingInput Reference where
  kind := "ORDER_LOCK"
  referenceType := some "order_lock"
  referenceId := some (.order order.id)
  lines := transferLines order.userId .userAvailable .userLocked lock.asset lock.amount

def orderUnlock (order : Order) (asset : String) (amount : Decimal) :
    LedgerPostingInput Reference where
  kind := "ORDER_UNLOCK"
  referenceType := some "order_unlock"
  referenceId := some (.order order.id)
  lines := transferLines order.userId .userLocked .userAvailable asset amount

/-- What an order has used of its lock: BUY locks the quote asset, SELL the base
asset. -/
def spent (order : Order) : Decimal :=
  match order.side with
  | .buy => order.quoteSpent
  | .sell => order.filledQuantity

/-- Release the unspent remainder of an order's lock back to USER_AVAILABLE. -/
def releaseSurplus (order : Order) : TradingM Unit :=
  match order.lockedAsset, order.lockedAmount with
  | some asset, some lockedAmount =>
    let surplus := lockedAmount.sub (spent order)
    if surplus ≤ 0 then pure ()
    else do
      let _ ← ask (.post (orderUnlock order asset surplus))
      pure ()
  | _, _ => pure ()

/-- The two parties' fees and the posting that settles one fill. -/
structure Settlement where
  buyerFee : Decimal
  sellerFee : Decimal
  input : LedgerPostingInput Reference

/-- Debit both LOCKED accounts, credit nets and fees. The buyer receives the
base asset and pays a fee in it, the seller the quote asset. -/
def settlement (taker maker : Order) (fill : EngineFill) (market : Market)
    (params : MarketParams) : Settlement :=
  let buyerIsTaker := taker.side = .buy
  let buyerUserId := if buyerIsTaker then taker.userId else maker.userId
  let sellerUserId := if buyerIsTaker then maker.userId else taker.userId
  let buyerBps := if buyerIsTaker then market.takerFeeBps else market.makerFeeBps
  let sellerBps := if buyerIsTaker then market.makerFeeBps else market.takerFeeBps
  let buyerFee := computeFee fill.quantity buyerBps params.baseScale
  let sellerFee := computeFee fill.quoteAmount sellerBps params.quoteScale
  let buyerNet := fill.quantity.sub buyerFee
  let sellerNet := fill.quoteAmount.sub sellerFee
  let lines : List LedgerPostingLine :=
    [⟨some buyerUserId, .userLocked, quoteAsset, .debit, fill.quoteAmount.toFixed params.quoteScale⟩,
     ⟨some sellerUserId, .userAvailable, quoteAsset, .credit, sellerNet.toFixed params.quoteScale⟩,
     ⟨some sellerUserId, .userLocked, baseAsset, .debit, fill.quantity.toFixed params.baseScale⟩,
     ⟨some buyerUserId, .userAvailable, baseAsset, .credit, buyerNet.toFixed params.baseScale⟩]
  let sellerFeeLines : List LedgerPostingLine :=
    if 0 < sellerFee then
      [⟨none, .feeRevenue, quoteAsset, .credit, sellerFee.toFixed params.quoteScale⟩]
    else []
  let buyerFeeLines : List LedgerPostingLine :=
    if 0 < buyerFee then
      [⟨none, .feeRevenue, baseAsset, .credit, buyerFee.toFixed params.baseScale⟩]
    else []
  ⟨buyerFee, sellerFee,
    { kind := "TRADE_SETTLE"
      referenceType := some "trade"
      referenceId := some (.trade (taker.id, maker.id))
      lines := lines ++ sellerFeeLines ++ buyerFeeLines }⟩

def tradeRow (taker maker : Order) (fill : EngineFill) (market : Market) (settle : Settlement)
    (settleTxnId : ℕ) : Trade where
  fillId := (taker.id, maker.id)
  marketId := market.symbol
  makerUserId := maker.userId
  takerUserId := taker.userId
  price := fill.price
  quantity := fill.quantity
  quoteAmount := fill.quoteAmount
  makerFee := if maker.side = .buy then settle.buyerFee else settle.sellerFee
  takerFee := if maker.side = .buy then settle.sellerFee else settle.buyerFee
  makerSide := maker.side
  settleTxnId := settleTxnId

/-- The trade row, or the one that already records the fill. -/
def recordTrade (trade : Trade) : TradingM Trade :=
  tryCatch (ask (.createTrade trade)) fun failure =>
    if failure = .uniqueViolation then do
      let existing ← ask (.findTradeByFillId trade.fillId)
      match existing with
      | some existing => pure existing
      | none => throw failure
    else throw failure

/-- Settle one fill. -/
def settleFill (taker maker : Order) (fill : EngineFill) (market : Market)
    (params : MarketParams) : TradingM Trade := do
  let settle := settlement taker maker fill market params
  let txn ← ask (.post settle.input)
  recordTrade (tradeRow taker maker fill market settle txn.id)

/-- The maker's row after a fill. -/
def advanced (maker : Order) (fill : EngineFill) : Order :=
  { maker with
    filledQuantity := maker.filledQuantity.add fill.quantity
    quoteSpent := maker.quoteSpent.add fill.quoteAmount }

/-- Nothing of the order remains open. -/
def isClosed (order : Order) : Bool := (order.quantity.getD 0).sub order.filledQuantity ≤ 0

def makerPatch (maker : Order) (fill : EngineFill) : OrderPatch where
  filledQuantity := some (advanced maker fill).filledQuantity
  quoteSpent := some (advanced maker fill).quoteSpent
  status := some (if isClosed (advanced maker fill) then .filled else .partiallyFilled)

/-- Advance the maker's fill state and release any surplus when it closes. -/
def advanceMaker (maker : Order) (fill : EngineFill) : TradingM Unit := do
  let _ ← ask (.updateOrder maker.id (makerPatch maker fill))
  if isClosed (advanced maker fill) then releaseSurplus (advanced maker fill) else pure ()

/-- The loop over the engine's fills. `restingById` are the rows the book was
loaded from, each kept current. -/
def settleFills (taker : Order) (market : Market) (params : MarketParams) :
    List Order → List EngineFill → TradingM (List EngineFill)
  | _, [] => pure []
  | restingById, fill :: fills =>
    match restingById.find? fun order => order.id = fill.makerOrderId with
    | none => settleFills taker market params restingById fills
    | some maker => do
      let _ ← settleFill taker maker fill market params
      advanceMaker maker fill
      let created ← settleFills taker market params
        (restingById.map fun order => if order.id = maker.id then advanced maker fill else order)
        fills
      pure (fill :: created)

def restingOrder (order : Order) : RestingOrder where
  id := order.id
  userId := order.userId
  price := order.price.getD 0
  remaining := match order.quantity with
    | some quantity => quantity.sub order.filledQuantity
    | none => 0

def takerInput (taker : Order) : TakerInput :=
  ⟨taker.side, taker.type, taker.price, taker.quantity, taker.quoteBudget⟩

/-- The taker's status after its pass; a market order never rests. -/
def takerStatus (taker : Order) (takerFilled : Decimal) : OrderStatus :=
  match taker.type with
  | .limit =>
    if takerFilled ≥ taker.quantity.getD 0 then .filled
    else if 0 < takerFilled then .partiallyFilled else .open
  | .market => if 0 < takerFilled then .filled else .cancelled

def takerPatch (taker : Order) (result : EngineResult) : OrderPatch where
  filledQuantity := some result.filledQuantity
  quoteSpent := some result.quoteTotal
  status := some (takerStatus taker result.filledQuantity)

/-- Finalize the taker order. -/
def finalizeTaker (taker : Order) (result : EngineResult) : TradingM Unit := do
  let updated ← ask (.updateOrder taker.id (takerPatch taker result))
  if takerStatus taker result.filledQuantity ∈ [OrderStatus.filled, .cancelled] then
    releaseSurplus updated
  else pure ()

/-- Run the engine against the live book and settle each fill through the
ledger. Runs inside `withMarketLock`. -/
def matchAndSettle (taker : Order) (market : Market) (params : MarketParams) :
    TradingM (List EngineFill) := do
  let restingRows ← ask
    (.loadRestingBook market.symbol taker.side taker.userId bookScanLimit)
  let result := matchOrder (takerInput taker) (restingRows.map restingOrder) params
  let created ← settleFills taker market params restingRows result.fills
  finalizeTaker taker result
  pure created

def newOrder (userId : UserId) (market : Market) (input : OrderBody) (lock : LockRequirement) :
    NewOrder :=
  ⟨userId, market.symbol, input.clientOrderId, input.side, input.type, input.price, input.quantity,
    input.quoteBudget, lock.asset, lock.amount⟩

/-- Reserve the funds and open the order. Without the funds the order is
rejected. -/
def lockAndOpen (order : Order) (lock : LockRequirement) : TradingM Order :=
  tryCatch
    (do
      let lockTxn ← ask (.post (orderLock order lock))
      ask (.updateOrder order.id { status := some .open, lockTxn := some lockTxn.id }))
    fun failure =>
      if failure.isConflictError && failure.errorCode = some "INSUFFICIENT_BALANCE" then do
        let _ ← ask (.updateOrder order.id { status := some .rejected })
        throw (.appError s!"Insufficient {lock.asset} balance to place this order" 422
          "INSUFFICIENT_BALANCE")
      else throw failure

/-- The order of this client order id, if the request has one. -/
def findDuplicate (userId : UserId) (clientOrderId : Option String) : TradingM (Option Order) :=
  match clientOrderId with
  | some clientOrderId => ask (.findOrderByClientId userId clientOrderId)
  | none => pure none

/-- From the stored PENDING order to the answer. -/
def executeOrder (order : Order) (lock : LockRequirement) (market : Market)
    (params : MarketParams) : TradingM (Order × List EngineFill) := do
  let order ← lockAndOpen order lock
  let fills ← withMarketLock market.symbol (matchAndSettle order market params)
  let found ← ask (.findOrderById order.id)
  pure (found.getD order, fills)

def placeOrder (userId : UserId) (input : CreateOrderDto) :
    TradingM (Order × List EngineFill) := do
  assertKycApproved userId
  let (market, params) ← resolveMarket input.symbol
  if market.status ≠ .active then
    throw (.appError "Market is not active for trading" 422 "MARKET_NOT_ACTIVE")
  else do
    liftExcept (validateAgainstMarket input.toOrderBody market)
    let duplicate ← findDuplicate userId input.clientOrderId
    match duplicate with
    | some duplicate => pure (duplicate, [])
    | none => do
      let lock := computeLockRequirement input.toOrderBody params
      let created ←
        (ask (.createOrder (newOrder userId market input.toOrderBody lock))).settled
      match created with
      | .ok order => executeOrder order lock market params
      | .error failure =>
        if failure = .uniqueViolation then do
          let duplicate ← findDuplicate userId input.clientOrderId
          match duplicate with
          | some duplicate => pure (duplicate, [])
          | none => throw failure
        else throw failure

/-- The section of a cancellation that holds the market's lock. -/
def cancelSection (orderId : OrderId) : TradingM Order := do
  let current ← ask (.findOrderById orderId)
  match current with
  | none => throw (.notFoundError "Order not found" "ORDER_NOT_FOUND")
  | some current =>
    if current.status ∈ [OrderStatus.pending, .open, .partiallyFilled] then do
      let updated ← ask (.updateOrder orderId { status := some .cancelled })
      releaseSurplus updated
      pure updated
    else throw (.conflictError "Order can no longer be cancelled" "ORDER_NOT_CANCELLABLE")

def cancelOrder (userId : UserId) (orderId : OrderId) : TradingM Order := do
  let order ← ask (.findOrderById orderId)
  match order with
  | none => throw (.notFoundError "Order not found" "ORDER_NOT_FOUND")
  | some order =>
    if order.userId ≠ userId then throw (.notFoundError "Order not found" "ORDER_NOT_FOUND")
    else withMarketLock order.marketId (cancelSection orderId)

/-- The requests of this service that change orders. -/
inductive Request where
  | placeOrder (userId : UserId) (input : CreateOrderDto)
  | cancelOrder (userId : UserId) (orderId : OrderId)

def Request.program : Request → TradingM Unit
  | .placeOrder userId input => do
    let _ ← Service.placeOrder userId input
    pure ()
  | .cancelOrder userId orderId => do
    let _ ← Service.cancelOrder userId orderId
    pure ()

/-- The programs of requests, under any number. -/
def IsRequest (_ : OrderId) (program : TradingM Unit) : Prop := ∃ request, program = Request.program request

end Service
end Exchange.Trading
