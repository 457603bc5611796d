import Exchange.TradingEngine
import Exchange.AsyncPool
import Exchange.Users
import Mathlib.Data.List.Sort

/-! The tables behind spot trading and the calls the service awaits: the
repository's queries and writes with the checks of the schema, ledger
postings, and the per-market lock. A request's number stands for the uuid of
the order it creates. -/
namespace Exchange.Trading
open Ledger

structure UserKyc where
  status : UserStatus
  kycStatus : KycStatus
  kycTier : ℤ
  deriving DecidableEq, Repr

structure Order where
  id : OrderId
  userId : UserId
  marketId : String
  clientOrderId : Option String
  side : OrderSide
  type : OrderType
  price : Option Decimal
  quantity : Option Decimal
  quoteBudget : Option Decimal
  filledQuantity : Decimal
  quoteSpent : Decimal
  lockedAmount : Option Decimal
  lockedAsset : Option String
  status : OrderStatus
  lockTxnId : Option ℕ
  createdAt : ℕ
  deriving DecidableEq, Repr

/-- A fill is identified by its taker and maker orders. -/
abbrev FillId := OrderId × OrderId

structure Trade where
  fillId : FillId
  marketId : String
  makerUserId : UserId
  takerUserId : UserId
  price : Decimal
  quantity : Decimal
  quoteAmount : Decimal
  makerFee : Decimal
  takerFee : Decimal
  makerSide : OrderSide
  settleTxnId : ℕ
  deriving DecidableEq, Repr

/-- Reference ids of trading's postings: an order's id, and the trade id that
`deterministicUuid` derives from the fill id and nothing else. -/
inductive Reference where
  | order (id : OrderId)
  | trade (fillId : FillId)
  deriving DecidableEq, Repr

structure NewOrder where
  userId : UserId
  marketId : String
  clientOrderId : Option String
  side : OrderSide
  type : OrderType
  price : Option Decimal
  quantity : Option Decimal
  quoteBudget : Option Decimal
  lockedAsset : String
  lockedAmount : Decimal
  deriving DecidableEq, Repr

/-- The columns an update sets. -/
structure OrderPatch where
  status : Option OrderStatus := none
  filledQuantity : Option Decimal := none
  quoteSpent : Option Decimal := none
  lockTxn : Option ℕ := none
  deriving DecidableEq, Repr

structure Store where
  users : UserId → Option UserKyc
  /-- By symbol, which is unique. -/
  markets : String → Option Market
  marketsKeyed : ∀ symbol market, markets symbol = some market → market.symbol = symbol
  /-- Symbols and decimals of the assets. -/
  assets : List (String × ℕ)
  orders : Table OrderId Order
  trades : Table FillId Trade
  ledger : Ledger.Store Reference
  /-- The request whose section `withMarketLock` runs, by market. -/
  locks : String → Option OrderId

inductive TradingCall where
  | findUserKyc (userId : UserId)
  | findMarketBySymbol (symbol : String)
  | assetDecimals (symbols : List String)
  | findOrderById (id : OrderId)
  | findOrderByClientId (userId : UserId) (clientOrderId : String)
  | createOrder (data : NewOrder)
  | updateOrder (id : OrderId) (data : OrderPatch)
  | loadRestingBook (marketId : String) (takerSide : OrderSide) (excludeUserId : UserId) (take : ℕ)
  | findTradeByFillId (fillId : FillId)
  | createTrade (data : Trade)
  /-- `ledgerService.post` under `postWithRetry`. An attempt lost to a write
  conflict changes nothing, so the call is its last attempt. -/
  | post (input : LedgerPostingInput Reference)
  | acquire (marketId : String)
  | release (marketId : String)
  deriving DecidableEq, Repr

abbrev TradingCall.Reply : TradingCall → Type
  | .findUserKyc _ => Option UserKyc
  | .findMarketBySymbol _ => Option Market
  | .assetDecimals _ => List (String × ℕ)
  | .findOrderById _ => Option Order
  | .findOrderByClientId _ _ => Option Order
  | .createOrder _ => Order
  | .updateOrder _ _ => Order
  | .loadRestingBook _ _ _ _ => List Order
  | .findTradeByFillId _ => Option Trade
  | .createTrade _ => Trade
  | .post _ => LedgerTransaction Reference
  | .acquire _ => Unit
  | .release _ => Unit

/-! ## Queries -/

/-- Asset decimals for base/quote, keyed by symbol (citext, case-insensitive). -/
def assetDecimals (s : Store) (symbols : List String) : List (String × ℕ) :=
  (s.assets.filter fun (symbol, _) => citext symbol ∈ symbols.map citext).map
    fun (symbol, decimals) => (symbol.toUpper, decimals)

/-- Ascending order of a nullable price: NULL is larger than every price. -/
def priceLe : Option Decimal → Option Decimal → Bool
  | _, none => true
  | none, some _ => false
  | some p, some q => p ≤ q

/-- Price-time priority among makers: price first, by the taker's side, then
`createdAt`, then `id`. -/
def comesBefore (takerSide : OrderSide) (a b : Order) : Bool :=
  if a.price = b.price then a.createdAt < b.createdAt ∨ a.createdAt = b.createdAt ∧ a.id ≤ b.id
  else match takerSide with
    | .buy => priceLe a.price b.price
    | .sell => priceLe b.price a.price

def OrderSide.opposite : OrderSide → OrderSide
  | .buy => .sell
  | .sell => .buy

def OrderStatus.isResting (status : OrderStatus) : Bool := status ∈ [.open, .partiallyFilled]

/-- An order's row is on the book that a taker of this side and user meets. -/
def isResting (marketId : String) (takerSide : OrderSide) (excludeUserId : UserId)
    (order : Order) : Bool :=
  order.marketId = marketId && order.side = takerSide.opposite && order.status.isResting &&
    order.userId ≠ excludeUserId

def loadRestingBook (s : Store) (marketId : String) (takerSide : OrderSide)
    (excludeUserId : UserId) (take : ℕ) : List Order :=
  (((s.orders.rows.map Prod.snd).filter (isResting marketId takerSide excludeUserId)).insertionSort
    fun a b => comesBefore takerSide a b).take take

def findOrderByClientId (s : Store) (userId : UserId) (clientOrderId : String) : Option Order :=
  (s.orders.rows.map Prod.snd).find? fun order =>
    order.userId = userId && order.clientOrderId = some clientOrderId

/-! ## Writes -/

/-- Storing a column that may be NULL. -/
def storeNullable : Option Decimal → Except Failure (Option Decimal)
  | none => .ok none
  | some value => (Numeric.store value).map some

/-- Storing a column if the update sets it. -/
def storeIfSet (current : Decimal) : Option Decimal → Except Failure Decimal
  | none => .ok current
  | some value => Numeric.store value

def ordersFilledChk (order : Order) : Bool :=
  order.quantity.all fun quantity => order.filledQuantity ≤ quantity

/-- `orders_limit_price_chk` and `orders_market_lock_chk`. -/
def ordersTypeChk (order : Order) : Bool :=
  match order.type with
  | .limit => order.price.isSome
  | .market => order.quantity.isSome || order.quoteBudget.isSome

/-- The new row; a client order id is unique among a user's orders. -/
def createOrder (id : OrderId) (now : ℕ) (data : NewOrder) (s : Store) :
    Except Failure (Order × Store) := do
  let price ← storeNullable data.price
  let quantity ← storeNullable data.quantity
  let quoteBudget ← storeNullable data.quoteBudget
  let lockedAmount ← Numeric.store data.lockedAmount
  let order : Order := ⟨id, data.userId, data.marketId, data.clientOrderId, data.side, data.type,
    price, quantity, quoteBudget, 0, 0, some lockedAmount, some data.lockedAsset, .pending, none, now⟩
  if !ordersTypeChk order || !ordersFilledChk order then
    .error (.database "orders check constraint")
  else if (s.orders.lookup id).isSome ||
      data.clientOrderId.any fun clientOrderId =>
        (findOrderByClientId s data.userId clientOrderId).isSome then
    .error .uniqueViolation
  else .ok (order, { s with orders := s.orders.insert id order })

def updateOrder (id : OrderId) (data : OrderPatch) (s : Store) : Except Failure (Order × Store) :=
  match s.orders.lookup id with
  | none => .error (.prisma "P2025")
  | some order => do
    let filledQuantity ← storeIfSet order.filledQuantity data.filledQuantity
    let quoteSpent ← storeIfSet order.quoteSpent data.quoteSpent
    let updated := { order with
      filledQuantity, quoteSpent, status := data.status.getD order.status,
      lockTxnId := data.lockTxn.or order.lockTxnId }
    if !ordersFilledChk updated then .error (.database "orders_filled_chk")
    else .ok (updated, { s with orders := s.orders.insert id updated })

def createTrade (data : Trade) (s : Store) : Except Failure (Trade × Store) := do
  let price ← Numeric.store data.price
  let quantity ← Numeric.store data.quantity
  let quoteAmount ← Numeric.store data.quoteAmount
  let makerFee ← Numeric.store data.makerFee
  let takerFee ← Numeric.store data.takerFee
  let trade := { data with price, quantity, quoteAmount, makerFee, takerFee }
  if !(0 < quantity ∧ 0 < price : Bool) then .error (.database "trades_qty_price_chk")
  else if !tradesQuoteChk price quantity quoteAmount then .error (.database "trades_quote_chk")
  else if (s.trades.lookup data.fillId).isSome then .error .uniqueViolation
  else .ok (trade, { s with trades := s.trades.insert data.fillId trade })

/-! ## Calls -/

/-- A write's answer, and the tables it leaves: a failed write changes none. -/
def written (s : Store) : Except Failure (α × Store) → Except Failure α × Store
  | .ok (value, s') => (.ok value, s')
  | .error failure => (.error failure, s)

/-- What a call of request `pid` does at time `now`. Only a lock that is held
blocks. -/
def perform (pid : OrderId) (now : ℕ) :
    (call : TradingCall) → Store → Option (Except Failure call.Reply × Store)
  | .findUserKyc userId, s => some (.ok (s.users userId), s)
  | .findMarketBySymbol symbol, s => some (.ok (s.markets symbol), s)
  | .assetDecimals symbols, s => some (.ok (assetDecimals s symbols), s)
  | .findOrderById id, s => some (.ok (s.orders.lookup id), s)
  | .findOrderByClientId userId clientOrderId, s =>
    some (.ok (findOrderByClientId s userId clientOrderId), s)
  | .createOrder data, s => some (written s (createOrder pid now data s))
  | .updateOrder id data, s => some (written s (updateOrder id data s))
  | .loadRestingBook marketId takerSide excludeUserId take, s =>
    some (.ok (loadRestingBook s marketId takerSide excludeUserId take), s)
  | .findTradeByFillId fillId, s => some (.ok (s.trades.lookup fillId), s)
  | .createTrade data, s => some (written s (createTrade data s))
  | .post input, s =>
    let (outcome, ledger) := Ledger.post input s.ledger
    some (outcome, { s with ledger })
  | .acquire marketId, s =>
    if (s.locks marketId).isNone then
      some (.ok (), { s with locks := Function.update s.locks marketId (some pid) })
    else none
  | .release marketId, s =>
    some (.ok (), { s with locks := Function.update s.locks marketId none })

/-- The lock lives in the process; everything else goes to the database. -/
def TradingCall.isLocal : TradingCall → Bool
  | .acquire _ => true
  | .release _ => true
  | _ => false

def isDatabaseFailure : Failure → Bool
  | .app _ _ _ _ => false
  | _ => true

/-- A call as a request may see it: it runs at some time, or the database
rejects it for a reason outside the code and nothing happens. -/
def Makes (pid : OrderId) (call : TradingCall) (s : Store) (reply : Except Failure call.Reply)
    (s' : Store) : Prop :=
  (∃ now, perform pid now call s = some (reply, s')) ∨
    call.isLocal = false ∧ (∃ failure, isDatabaseFailure failure ∧ reply = .error failure) ∧ s' = s

abbrev TradingM := Async TradingCall TradingCall.Reply Failure

abbrev ask (call : TradingCall) : TradingM call.Reply := Async.call call

end Exchange.Trading
