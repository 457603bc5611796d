import Exchange.TradingService
import Exchange.LedgerInvariants

/-! What a call can do to the tables, one lemma per call. Later proofs use
these and never unfold a write. -/
namespace Exchange.Trading
open Ledger

variable {id : OrderId} {s s' : Store}

/-- A row with the columns of an update set, as the columns hold them. -/
def patched (data : OrderPatch) (order : Order) : Order :=
  { order with
    filledQuantity := (data.filledQuantity.map Numeric.rounded).getD order.filledQuantity
    quoteSpent := (data.quoteSpent.map Numeric.rounded).getD order.quoteSpent
    status := data.status.getD order.status
    lockTxnId := data.lockTxn.or order.lockTxnId }

theorem storeIfSet_ok (stored : storeIfSet current value = .ok result) :
    result = (value.map Numeric.rounded).getD current := by
  cases value with
  | none =>
    cases stored
    rfl
  | some value => exact (Numeric.store_ok stored).1

theorem storeNullable_ok (stored : storeNullable value = .ok result) :
    result = value.map Numeric.rounded := by
  cases value with
  | none =>
    cases stored
    rfl
  | some value =>
    cases found : Numeric.store value with
    | error failure => simp [storeNullable, found, Except.map] at stored
    | ok rounded =>
      simp only [storeNullable, found, Except.map, Except.ok.injEq] at stored
      rw [← stored, (Numeric.store_ok found).1]
      rfl

theorem updateOrder_ok (ok : updateOrder id data s = .ok (updated, s')) :
    ∃ order, s.orders.lookup id = some order ∧ updated = patched data order ∧
      ordersFilledChk updated ∧ s' = { s with orders := s.orders.insert id updated } := by
  unfold updateOrder at ok
  split at ok
  · cases ok
  · rename_i order found
    simp only [except_bind_ok] at ok
    obtain ⟨filled, storedFilled, quote, storedQuote, ok⟩ := ok
    split at ok
    · cases ok
    · rename_i chk
      cases ok
      refine ⟨order, found, ?_, by simpa using chk, rfl⟩
      rw [patched, ← storeIfSet_ok storedFilled, ← storeIfSet_ok storedQuote]

/-- The row that a request creates. -/
def newRow (id : OrderId) (now : ℕ) (data : NewOrder) : Order :=
  ⟨id, data.userId, data.marketId, data.clientOrderId, data.side, data.type,
    data.price.map Numeric.rounded, data.quantity.map Numeric.rounded,
    data.quoteBudget.map Numeric.rounded, 0, 0, some (Numeric.rounded data.lockedAmount),
    some data.lockedAsset, .pending, none, now⟩

theorem createOrder_ok (ok : createOrder id now data s = .ok (order, s')) :
    order = newRow id now data ∧ s.orders.lookup id = none ∧ ordersFilledChk order ∧
      s' = { s with orders := s.orders.insert id order } := by
  simp only [createOrder, except_bind_ok] at ok
  obtain ⟨price, hprice, quantity, hquantity, budget, hbudget, locked, hlocked, ok⟩ := ok
  split at ok
  · cases ok
  rename_i checks
  split at ok
  · cases ok
  rename_i fresh
  cases ok
  simp only [Bool.or_eq_true, not_or, Bool.not_eq_true', Bool.not_eq_false,
    Option.isSome_iff_ne_none, ne_eq, not_not] at checks fresh
  refine ⟨?_, fresh.1, checks.2, rfl⟩
  rw [newRow, ← storeNullable_ok hprice, ← storeNullable_ok hquantity, ← storeNullable_ok hbudget,
    (Numeric.store_ok hlocked).1]

theorem createTrade_ok (ok : createTrade data s = .ok (trade, s')) :
    s' = { s with trades := s.trades.insert data.fillId trade } := by
  simp only [createTrade, except_bind_ok] at ok
  obtain ⟨_, _, _, _, _, _, _, _, _, _, ok⟩ := ok
  split at ok
  · cases ok
  split at ok
  · cases ok
  split at ok
  · cases ok
  · cases ok
    rfl

/-- Rows are kept under their own ids. -/
def Keyed (s : Store) : Prop := ∀ id order, s.orders.lookup id = some order → order.id = id

theorem Keyed.insert (keyed : Keyed s) (same : order.id = id) :
    Keyed { s with orders := s.orders.insert id order } := by
  intro other row found
  by_cases here : other = id
  · subst here
    rw [AList.lookup_insert] at found
    cases found
    exact same
  · rw [AList.lookup_insert_ne here] at found
    exact keyed other row found

theorem isResting_iff {order : Order} : isResting marketId takerSide excludeUserId order ↔ order.marketId = marketId ∧
    order.side = takerSide.opposite ∧ order.status.isResting ∧ order.userId ≠ excludeUserId := by
  simp only [isResting, Bool.and_eq_true, decide_eq_true_eq, and_assoc]

theorem mem_loadRestingBook
    (member : row ∈ loadRestingBook s marketId takerSide excludeUserId take) :
    (∃ id, s.orders.lookup id = some row) ∧
      isResting marketId takerSide excludeUserId row := by
  have sorted := (List.perm_insertionSort _ _).subset (List.mem_of_mem_take member)
  obtain ⟨isRow, resting⟩ := List.mem_filter.mp sorted
  obtain ⟨⟨id, order⟩, present, rfl⟩ := List.mem_map.mp isRow
  exact ⟨⟨id, Table.mem_rows.mp present⟩, resting⟩

theorem loadRestingBook_ids_nodup (keyed : Keyed s) :
    ((loadRestingBook s marketId takerSide excludeUserId take).map Order.id).Nodup := by
  have ids : (s.orders.rows.map Prod.snd).map Order.id = s.orders.rows.map Prod.fst := by
    rw [List.map_map]
    apply List.map_congr_left
    rintro ⟨id, order⟩ member
    exact keyed id order (Table.mem_rows.mp member)
  have all : ((s.orders.rows.map Prod.snd).map Order.id).Nodup := ids ▸ Table.rows_keys_nodup _
  apply List.Nodup.sublist ((List.take_sublist _ _).map Order.id)
  apply ((List.perm_insertionSort _ _).map Order.id).nodup_iff.mpr
  exact all.sublist (List.filter_sublist.map Order.id)

/-- The fills of a pass have different makers, all from the book. -/
theorem fills_makers_sublist (taker : TakerInput) (rows : List Order) (params : MarketParams) :
    ((matchOrder taker (rows.map Service.restingOrder) params).fills.map
      EngineFill.makerOrderId).Sublist (rows.map Order.id) := by
  have makers := (trades_makers_sublist taker params (initialCapacity taker params)
    (rows.map Service.restingOrder)).map RestingOrder.id
  simp only [List.map_map, matchOrder, matchBook_fills, List.nil_append] at makers ⊢
  exact makers

/-! ## Settlements in the ledger -/

/-- The transaction settles a fill of the order, as taker or as maker. -/
def settles (id : OrderId) (txn : LedgerTransaction Reference) : Bool :=
  txn.referenceType = some "trade" && match txn.referenceId with
    | some (.trade fillId) => fillId.1 = id || fillId.2 = id
    | _ => false

/-- The posted settlements of an order's fills. -/
def settlements (s : Store) (id : OrderId) : List (LedgerTransaction Reference) :=
  s.ledger.transactions.filter (settles id)

theorem settlements_recorded {ledger : Ledger.Store Reference}
    (recorded : Recorded s.ledger input txn ledger) (id : OrderId) :
    settlements { s with ledger } id =
      settlements s id ++ if settles id txn then [txn] else [] := by
  rw [settlements, recorded.transactions, List.filter_append, List.filter_singleton]
  cases settles id txn <;> rfl

theorem settles_settlement {taker maker : Order} {fill : EngineFill} {ledger : Ledger.Store Reference}
    {market : Market} {params : MarketParams}
    (recorded : Recorded s.ledger (Service.settlement taker maker fill market params).input txn
      ledger) (id : OrderId) : settles id txn = (taker.id = id ∨ maker.id = id : Bool) := by
  obtain ⟨kind, reference⟩ := recorded.reference
  simp [settles, kind, reference, Service.settlement]

/-- Locking and unlocking settle nothing. -/
theorem not_settles {ledger : Ledger.Store Reference} (recorded : Recorded s.ledger input txn ledger)
    (other : input.referenceType ≠ some "trade") (id : OrderId) : settles id txn = false := by
  simp [settles, recorded.reference.1, other]

/-- The market trades under these parameters. -/
structure Listed (s : Store) (market : Market) (params : MarketParams) : Prop where
  found : s.markets market.symbol = some market
  precision : params = Service.marketParams market
    (assetDecimals s [market.baseAsset, market.quoteAsset])

section Makes
variable {pid : OrderId} {failure : Failure}

private theorem written_cases {result : Except Failure (α × Store)}
    (made : some (written s result) = some (reply, s')) :
    (∃ value, reply = .ok value ∧ result = .ok (value, s')) ∨
      (∃ failure, reply = .error failure) ∧ s' = s := by
  cases result with
  | error failure =>
    cases made
    exact .inr ⟨⟨failure, rfl⟩, rfl⟩
  | ok pair =>
    cases made
    exact .inl ⟨_, rfl, rfl⟩

/-- A query answers from the tables and changes none. -/
theorem Makes.findOrderById {reply : Except Failure (Option Order)}
    (made : Makes pid (.findOrderById id) s reply s') :
    s' = s ∧ ∀ found, reply = .ok found → found = s.orders.lookup id := by
  rcases made with ⟨now, made⟩ | ⟨-, ⟨failure, -, rfl⟩, rfl⟩
  · simp only [perform, Option.some.injEq, Prod.mk.injEq] at made
    obtain ⟨rfl, rfl⟩ := made
    exact ⟨rfl, fun _ same => (Except.ok.inj same).symm⟩
  · exact ⟨rfl, fun _ same => by cases same⟩

theorem Makes.loadRestingBook {reply : Except Failure (List Order)}
    (made : Makes pid (.loadRestingBook marketId takerSide excludeUserId take) s reply s') :
    s' = s ∧ ∀ rows, reply = .ok rows →
      rows = Trading.loadRestingBook s marketId takerSide excludeUserId take := by
  rcases made with ⟨now, made⟩ | ⟨-, ⟨failure, -, rfl⟩, rfl⟩
  · simp only [perform, Option.some.injEq, Prod.mk.injEq] at made
    obtain ⟨rfl, rfl⟩ := made
    exact ⟨rfl, fun _ same => (Except.ok.inj same).symm⟩
  · exact ⟨rfl, fun _ same => by cases same⟩

theorem Makes.findMarketBySymbol {reply : Except Failure (Option Market)}
    (made : Makes pid (.findMarketBySymbol symbol) s reply s') :
    s' = s ∧ ∀ found, reply = .ok found → found = s.markets symbol := by
  rcases made with ⟨now, made⟩ | ⟨-, ⟨failure, -, rfl⟩, rfl⟩
  · simp only [perform, Option.some.injEq, Prod.mk.injEq] at made
    obtain ⟨rfl, rfl⟩ := made
    exact ⟨rfl, fun _ same => (Except.ok.inj same).symm⟩
  · exact ⟨rfl, fun _ same => by cases same⟩

theorem Makes.findTradeByFillId {reply : Except Failure (Option Trade)}
    (made : Makes pid (.findTradeByFillId fillId) s reply s') :
    s' = s ∧ ∀ found, reply = .ok found → found = s.trades.lookup fillId := by
  rcases made with ⟨now, made⟩ | ⟨-, ⟨failure, -, rfl⟩, rfl⟩
  · simp only [perform, Option.some.injEq, Prod.mk.injEq] at made
    obtain ⟨rfl, rfl⟩ := made
    exact ⟨rfl, fun _ same => (Except.ok.inj same).symm⟩
  · exact ⟨rfl, fun _ same => by cases same⟩

theorem Makes.assetDecimals {reply : Except Failure (List (String × ℕ))}
    (made : Makes pid (.assetDecimals symbols) s reply s') :
    s' = s ∧ ∀ found, reply = .ok found → found = Trading.assetDecimals s symbols := by
  rcases made with ⟨now, made⟩ | ⟨-, ⟨failure, -, rfl⟩, rfl⟩
  · simp only [perform, Option.some.injEq, Prod.mk.injEq] at made
    obtain ⟨rfl, rfl⟩ := made
    exact ⟨rfl, fun _ same => (Except.ok.inj same).symm⟩
  · exact ⟨rfl, fun _ same => by cases same⟩

/-- The calls that only read. -/
def TradingCall.isQuery : TradingCall → Bool
  | .createOrder _ => false
  | .updateOrder _ _ => false
  | .createTrade _ => false
  | .post _ => false
  | .acquire _ => false
  | .release _ => false
  | _ => true

theorem Makes.query {call : TradingCall} {reply : Except Failure call.Reply}
    (isQuery : call.isQuery) (made : Makes pid call s reply s') : s' = s := by
  rcases made with ⟨now, made⟩ | ⟨-, -, same⟩
  · cases call with
    | createOrder | updateOrder | createTrade | post | acquire | release => cases isQuery
    | findUserKyc | findMarketBySymbol | assetDecimals | findOrderById | findOrderByClientId
    | loadRestingBook | findTradeByFillId =>
      cases made
      rfl
  · exact same

theorem Makes.createOrder {reply : Except Failure Order}
    (made : Makes pid (.createOrder data) s reply s') :
    (∃ now, reply = .ok (newRow pid now data) ∧ s.orders.lookup pid = none ∧
      ordersFilledChk (newRow pid now data) ∧
      s' = { s with orders := s.orders.insert pid (newRow pid now data) }) ∨
    (∃ failure, reply = .error failure) ∧ s' = s := by
  rcases made with ⟨now, made⟩ | ⟨-, ⟨failure, -, rfl⟩, rfl⟩
  · rcases written_cases made with ⟨order, rfl, created⟩ | failed
    · obtain ⟨rfl, fresh, chk, rfl⟩ := createOrder_ok created
      exact .inl ⟨now, rfl, fresh, chk, rfl⟩
    · exact .inr failed
  · exact .inr ⟨⟨failure, rfl⟩, rfl⟩

theorem Makes.updateOrder {reply : Except Failure Order}
    (made : Makes pid (.updateOrder id data) s reply s') :
    (∃ order, s.orders.lookup id = some order ∧ reply = .ok (patched data order) ∧
      ordersFilledChk (patched data order) ∧
      s' = { s with orders := s.orders.insert id (patched data order) }) ∨
    (∃ failure, reply = .error failure) ∧ s' = s := by
  rcases made with ⟨now, made⟩ | ⟨-, ⟨failure, -, rfl⟩, rfl⟩
  · rcases written_cases made with ⟨updated, rfl, changed⟩ | failed
    · obtain ⟨order, found, rfl, chk, rfl⟩ := updateOrder_ok changed
      exact .inl ⟨order, found, rfl, chk, rfl⟩
    · exact .inr failed
  · exact .inr ⟨⟨failure, rfl⟩, rfl⟩

private theorem store_failure (failed : Numeric.store x = .error failure) :
    isDatabaseFailure failure := by
  unfold Numeric.store at failed
  split at failed
  · cases failed
  · cases failed
    rfl

private theorem storeIfSet_failure (failed : storeIfSet current value = .error failure) :
    isDatabaseFailure failure := by
  cases value with
  | none => cases failed
  | some value => exact store_failure failed

/-- What an update throws comes from the database. -/
theorem Makes.updateOrder_failure
    (made : Makes pid (.updateOrder id data) s (.error failure) s') :
    isDatabaseFailure failure := by
  rcases made with ⟨now, made⟩ | ⟨-, ⟨thrown, database, same⟩, -⟩
  · simp only [perform, Option.some.injEq, Trading.updateOrder] at made
    split at made
    · cases made
      rfl
    · rename_i order _
      cases filled : storeIfSet order.filledQuantity data.filledQuantity with
      | error thrown =>
        rw [filled] at made
        cases made
        exact storeIfSet_failure filled
      | ok filledQuantity =>
        cases quote : storeIfSet order.quoteSpent data.quoteSpent with
        | error thrown =>
          rw [filled, quote] at made
          cases made
          exact storeIfSet_failure quote
        | ok quoteSpent =>
          rw [filled, quote] at made
          dsimp only [bind, Except.bind] at made
          split at made
          · cases made
            rfl
          · cases made
  · cases same
    exact database

theorem Makes.createTrade {reply : Except Failure Trade}
    (made : Makes pid (.createTrade data) s reply s') :
    (∃ trade, reply = .ok trade ∧ s' = { s with trades := s.trades.insert data.fillId trade }) ∨
    (∃ failure, reply = .error failure) ∧ s' = s := by
  rcases made with ⟨now, made⟩ | ⟨-, ⟨failure, -, rfl⟩, rfl⟩
  · rcases written_cases made with ⟨trade, rfl, created⟩ | failed
    · exact .inl ⟨trade, rfl, createTrade_ok created⟩
    · exact .inr failed
  · exact .inr ⟨⟨failure, rfl⟩, rfl⟩

theorem not_conflict (database : isDatabaseFailure failure) :
    failure.isConflictError = false := by
  cases failure with
  | app => cases database
  | prisma => rfl
  | database => rfl
  | error => rfl

/-- A posting throws, or finds itself posted, or adds one transaction. -/
theorem Makes.post {reply : Except Failure (LedgerTransaction Reference)}
    (made : Makes pid (.post input) s reply s') :
    (∃ failure, reply = .error failure) ∧ s' = s ∨
    (∃ txn, reply = .ok txn ∧ s' = s ∧
      findExistingPosting s.ledger input.referenceType input.referenceId = some txn) ∨
    ∃ txn ledger, reply = .ok txn ∧ Recorded s.ledger input txn ledger ∧
      findExistingPosting s.ledger input.referenceType input.referenceId = none ∧
      s' = { s with ledger } := by
  rcases made with ⟨now, made⟩ | ⟨-, ⟨failure, -, rfl⟩, rfl⟩
  · cases posted : Ledger.post input s.ledger with
    | mk outcome ledger =>
      simp only [perform, posted, Option.some.injEq, Prod.mk.injEq] at made
      obtain ⟨rfl, rfl⟩ := made
      rcases post_cases posted with ⟨failure, rfl, rfl⟩ | ⟨txn, rfl, rfl, found⟩ |
        ⟨txn, rfl, recorded, fresh⟩
      · exact .inl ⟨⟨failure, rfl⟩, rfl⟩
      · exact .inr (.inl ⟨txn, rfl, rfl, found⟩)
      · exact .inr (.inr ⟨txn, ledger, rfl, recorded, fresh, rfl⟩)
  · exact .inl ⟨⟨failure, rfl⟩, rfl⟩

theorem Makes.acquire {reply : Except Failure Unit}
    (made : Makes pid (.acquire marketId) s reply s') :
    reply = .ok () ∧ s.locks marketId = none ∧
      s' = { s with locks := Function.update s.locks marketId (some pid) } := by
  rcases made with ⟨now, made⟩ | ⟨remote, -⟩
  · simp only [perform] at made
    split at made
    · rename_i free
      cases made
      exact ⟨rfl, by simpa using free, rfl⟩
    · cases made
  · cases remote

theorem Makes.release {reply : Except Failure Unit}
    (made : Makes pid (.release marketId) s reply s') :
    reply = .ok () ∧ s' = { s with locks := Function.update s.locks marketId none } := by
  rcases made with ⟨now, made⟩ | ⟨remote, -⟩
  · cases made
    exact ⟨rfl, rfl⟩
  · cases remote

end Makes
end Exchange.Trading
