import Exchange.TradingLockSpending
import Exchange.TradingFillConservation

/-! Where the lock of every order stands. An order is not locked yet, or its
lock backs the fills it can still get, or nothing of the lock is left. So what
trading holds in the locked balances is what the resting orders hold. -/
namespace Exchange.Trading.LockAccounting
open SignificantDigits Ledger Service
open FillConservation (paramsAt)

/-- What trading holds is accounted for by the orders that rest. -/
structure Accounted (s : Store) : Prop where
  balance : ∀ userId asset, tradingLocked s userId asset = s.orders.total fun id order =>
    if locksFor userId asset order ∧ order.status.isResting then
      (postings s id).locked asset - (postings s id).settled asset
    else 0
  lockFirst : LockFirst s
  within : ∀ id order, s.orders.lookup id = some order → ∀ asset ∈ order.lockedAsset,
    (postings s id).settled asset + (postings s id).unlocked asset ≤ (postings s id).locked asset

/-- The lock of an order is posted, these fills are settled, and nothing is
released. -/
structure Holding (s : Store) (id : OrderId) (params : MarketParams) (input : CreateOrderDto)
    (fills : List EngineFill) : Prop where
  locks : (postings s id).locks ≠ []
  locked : (postings s id).locked (lockAsset input.side) = (computeLockRequirement input.toOrderBody params).amount
  unlocks : (postings s id).unlocks = []
  settled : ∀ side, (postings s id).settled (lockAsset side) = (fills.map (debit side)).sum
  each : (postings s id).settlements.length = fills.length
  received : Received params input.toOrderBody fills

/-- No request can change the order any more. -/
def isFinal (status : OrderStatus) : Bool := status ∉ [.pending, .open, .partiallyFilled]

inductive Standing (s : Store) (id : OrderId) (order : Order) : Prop where
  | unlocked (never : postings s id = .none) (unset : order.lockTxnId = none)
      (rests : order.status.isResting = false)
  | backed {input : CreateOrderDto} {fills : List EngineFill} (rests : order.status.isResting)
      (set : order.lockTxnId.isSome) (placed : Placed (paramsAt s order.marketId) input order)
      (holding : Holding s id (paramsAt s order.marketId) input fills) (addedUp : AddedUp input fills order)
  | closed (final : isFinal order.status) (account : ∀ asset ∈ order.lockedAsset,
      (postings s id).settled asset + (postings s id).unlocked asset = (postings s id).locked asset)

/-- Every order stands, but for the ones a request is busy with. -/
structure Orderly (busy : List OrderId) (s : Store) : Prop where
  booked : Booked s
  standing : ∀ id ∉ busy, ∀ order, s.orders.lookup id = some order → Standing s id order

variable {s s' : Store} {id : OrderId} {order row taker maker : Order} {params : MarketParams}
  {input : CreateOrderDto} {fills : List EngineFill} {fill : EngineFill} {busy : List OrderId} {asset : String}

/-! ## Orders in order -/

theorem final_not_resting (final : isFinal status) : status.isResting = false := by
  cases status <;> first | rfl | cases final

theorem lockedDebit_congr {asset other : String} (same : citext asset = citext other) :
    lockedDebit asset = lockedDebit other := by
  funext txn
  simp only [lockedDebit, same]

theorem Standing.share {userId : UserId} (standing : Standing s id order) : share s userId asset id order =
    if locksFor userId asset order ∧ order.status.isResting then
      (postings s id).locked asset - (postings s id).settled asset
    else 0 := by
  unfold LockAccounting.share
  cases standing with
  | unlocked never unset rests => simp [never, rests]
  | backed rests set placed holding addedUp => simp [rests, Postings.held, Postings.unlocked, holding.unlocks]
  | closed final account =>
    simp only [final_not_resting final, Bool.false_eq_true, and_false, if_false, ite_eq_right_iff]
    intro locks
    simp only [locksFor, Bool.and_eq_true, decide_eq_true_eq, Option.map_eq_some_iff] at locks
    obtain ⟨-, own, isOwn, same⟩ := locks
    have account := account own isOwn
    simp only [Postings.held, Postings.locked, Postings.settled, Postings.unlocked,
      lockedDebit_congr same] at account ⊢
    linarith

theorem Standing.within (standing : Standing s id order) (isLocked : asset ∈ order.lockedAsset) :
    (postings s id).settled asset + (postings s id).unlocked asset ≤ (postings s id).locked asset := by
  cases standing with
  | unlocked never unset rests => simp [never, Postings.none, Postings.settled, Postings.unlocked, Postings.locked]
  | backed rests set placed holding addedUp =>
    obtain rfl := Option.some.inj (placed.lockedAsset.symm.trans isLocked)
    rw [holding.settled, holding.locked, Postings.unlocked, holding.unlocks]
    simpa using holding.received.covered placed.fit
  | closed final account => exact (account asset isLocked).le

theorem Orderly.accounted (orderly : Orderly [] s) : Accounted s where
  balance userId asset := (orderly.booked.balance userId asset).trans <| Table.total_congr fun id order found =>
    (orderly.standing id List.not_mem_nil order found).share
  lockFirst := orderly.booked.lockFirst
  within id order found _ isLocked := (orderly.standing id List.not_mem_nil order found).within isLocked

theorem Orderly.begin (orderly : Orderly busy s) (id : OrderId) : Orderly (id :: busy) s :=
  ⟨orderly.booked, fun other free => orderly.standing other fun isBusy => free (List.mem_cons_of_mem _ isBusy)⟩

theorem Orderly.finish (orderly : Orderly (id :: busy) s)
    (standing : ∀ order, s.orders.lookup id = some order → Standing s id order) : Orderly busy s := by
  refine ⟨orderly.booked, fun other free order found => ?_⟩
  by_cases same : other = id
  · exact same ▸ standing order (same ▸ found)
  · exact orderly.standing other (by simp [same, free]) order found

theorem Holding.congr (holding : Holding s id params input fills) (same : postings s' id = postings s id) :
    Holding s' id params input fills := by
  refine ⟨?_, ?_, ?_, ?_, ?_, holding.received⟩ <;> rw [same]
  · exact holding.locks
  · exact holding.locked
  · exact holding.unlocks
  · exact holding.settled
  · exact holding.each

theorem Standing.congr (standing : Standing s id order) (same : postings s' id = postings s id)
    (catalog : paramsAt s' = paramsAt s) : Standing s' id order := by
  cases standing with
  | unlocked never unset rests => exact .unlocked (same.trans never) unset rests
  | backed rests set placed holding addedUp =>
    exact .backed rests set (catalog ▸ placed) (catalog ▸ holding.congr same) addedUp
  | closed final account => exact .closed final (by rwa [same])

/-! ## What the writes keep -/

variable {input' : LedgerPostingInput Reference} {txn : LedgerTransaction Reference} {ledger : Ledger.Store Reference}
  {required : LockRequirement} {amount : Decimal} {market : Market} {pid : OrderId}

theorem Orderly.locks (orderly : Orderly busy s) (locks : String → Option OrderId) : Orderly busy { s with locks } :=
  ⟨⟨orderly.booked.keyed, orderly.booked.absent, orderly.booked.balance, orderly.booked.lockFirst⟩,
    fun id free order found => (orderly.standing id free order found).congr rfl rfl⟩

theorem Orderly.trades (orderly : Orderly busy s) (trades : Table FillId Trade) : Orderly busy { s with trades } :=
  ⟨⟨orderly.booked.keyed, orderly.booked.absent, orderly.booked.balance, orderly.booked.lockFirst⟩,
    fun id free order found => (orderly.standing id free order found).congr rfl rfl⟩

/-- A row that a request is busy with changes. -/
theorem Orderly.insert (orderly : Orderly busy s) (isBusy : id ∈ busy)
    (booked : Booked { s with orders := s.orders.insert id row }) :
    Orderly busy { s with orders := s.orders.insert id row } := by
  refine ⟨booked, fun other free order found => ?_⟩
  have differ : other ≠ id := fun same => free (same ▸ isBusy)
  rw [AList.lookup_insert_ne differ] at found
  exact (orderly.standing other free order found).congr rfl rfl

theorem Orderly.update (orderly : Orderly busy s) (isBusy : id ∈ busy) (found : s.orders.lookup id = some order)
    (data : OrderPatch) : Orderly busy { s with orders := s.orders.insert id (patched data order) } :=
  orderly.insert isBusy (orderly.booked.update found ⟨rfl, rfl, rfl⟩)

/-- A posting for orders that a request is busy with. -/
theorem Orderly.posted (orderly : Orderly busy s) (booked : Booked { s with ledger })
    (others : ∀ id ∉ busy, postings { s with ledger } id = postings s id) : Orderly busy { s with ledger } :=
  ⟨booked, fun id free order found => (orderly.standing id free order found).congr (others id free) rfl⟩

theorem Orderly.lock (orderly : Orderly busy s) (isBusy : order.id ∈ busy)
    (recorded : Recorded s.ledger (orderLock order required) txn ledger)
    (found : s.orders.lookup order.id = some row) (user : row.userId = order.userId)
    (isLocked : row.lockedAsset = some required.asset) : Orderly busy { s with ledger } := by
  refine orderly.posted (orderly.booked.lock recorded found user isLocked) fun id free => ?_
  rw [postings_lock recorded, if_neg (ne_of_mem_of_not_mem isBusy free).symm]

theorem Orderly.unlock (orderly : Orderly busy s) (isBusy : order.id ∈ busy)
    (recorded : Recorded s.ledger (orderUnlock order asset amount) txn ledger)
    (found : s.orders.lookup order.id = some row) (user : row.userId = order.userId)
    (isLocked : row.lockedAsset = some asset) (locked : (postings s order.id).locks ≠ []) :
    Orderly busy { s with ledger } := by
  refine orderly.posted (orderly.booked.unlock recorded found user isLocked locked) fun id free => ?_
  rw [postings_unlock recorded, if_neg (ne_of_mem_of_not_mem isBusy free).symm]

theorem Orderly.settle (orderly : Orderly busy s) (isTaker : taker.id ∈ busy) (isMaker : maker.id ∈ busy)
    (opposed : Opposed taker maker)
    (recorded : Recorded s.ledger (settlement taker maker fill market params).input txn ledger)
    (takerRow : s.orders.lookup taker.id = some taker) (makerRow : s.orders.lookup maker.id = some maker) :
    Orderly busy { s with ledger } := by
  refine orderly.posted (orderly.booked.settle opposed recorded takerRow makerRow) fun id free => ?_
  rw [postings_settlement recorded, if_neg]
  rintro (rfl | rfl)
  · exact free isTaker
  · exact free isMaker

/-! ## What the postings hold -/

/-- The lock of an order that has none. -/
theorem holding_lock (fit : DigitsFit params input.toOrderBody) (never : postings s order.id = .none)
    (recorded : Recorded s.ledger (orderLock order (computeLockRequirement input.toOrderBody params)) txn ledger) :
    Holding { s with ledger } order.id params input [] := by
  obtain ⟨-, grid, -⟩ := fit.lock_spec input
  have storable : OnGrid Numeric.scale (computeLockRequirement input.toOrderBody params).amount :=
    grid.mono (by exact_mod_cast fit.lockScale_le input.side)
  have posted := postings_lock recorded order.id
  rw [if_pos rfl, never] at posted
  refine ⟨?_, ?_, ?_, fun side => ?_, ?_, received_nil input⟩
  · simp [posted]
  · simp [posted, Postings.none, Postings.locked, lockedDebit_lock recorded, lock_asset,
      Numeric.rounded_of_onGrid storable]
  · simp [posted, Postings.none]
  · simp [posted, Postings.none, Postings.settled]
  · simp [posted, Postings.none]

/-- What a settlement takes from the lock of either side. -/
theorem lockedDebit_settlement (executed : Executed params fill) (base : params.baseScale ≤ 18)
    (quote : params.quoteScale ≤ 18)
    (recorded : Recorded s.ledger (settlement taker maker fill market params).input txn ledger) (side : OrderSide) :
    lockedDebit (lockAsset side) txn = debit side fill := by
  have baseGrid : OnGrid Numeric.scale fill.quantity := executed.quantity_grid.mono (by exact_mod_cast base)
  have quoteGrid : OnGrid Numeric.scale fill.quoteAmount := executed.quote_grid.mono (by exact_mod_cast quote)
  cases side with
  | sell =>
    rw [lockAsset, lockedDebit_base recorded, Decimal.toFixed_of_onGrid executed.quantity_grid,
      Numeric.rounded_of_onGrid baseGrid, debit]
  | buy =>
    rw [lockAsset, lockedDebit_quote recorded, Decimal.toFixed_of_onGrid executed.quote_grid,
      Numeric.rounded_of_onGrid quoteGrid, debit]

theorem Holding.settle (holding : Holding s id params input fills)
    (received : Received params input.toOrderBody (fills ++ [fill])) (base : params.baseScale ≤ 18)
    (quote : params.quoteScale ≤ 18) (party : taker.id = id ∨ maker.id = id)
    (recorded : Recorded s.ledger (settlement taker maker fill market params).input txn ledger) :
    Holding { s with ledger } id params input (fills ++ [fill]) := by
  have posted := postings_settlement recorded id
  rw [if_pos party] at posted
  refine ⟨?_, ?_, ?_, fun side => ?_, ?_, received⟩
  · rw [posted]
    exact holding.locks
  · rw [posted]
    exact holding.locked
  · rw [posted]
    exact holding.unlocks
  · have last := lockedDebit_settlement (received.executed (by simp)) base quote recorded side
    have before := holding.settled side
    simp only [Postings.settled, posted, List.map_append, List.sum_append, List.map_singleton,
      List.sum_singleton] at before ⊢
    rw [before, last]
  · rw [posted, List.length_append, List.length_append, holding.each]
    rfl

end Exchange.Trading.LockAccounting
