import Exchange.TradingMatched
import Exchange.TradingServiceRules

/-! What a row of `trades` says about the two orders behind it. Both rows change
while a pass is under way, and any write may fail, so the agreement rests on
what no update touches: the terms of an order. -/
namespace Exchange.Trading.TradeTerms
open SignificantDigits Ledger Service Protocol

/-- An order without the columns that updates set. -/
def terms (order : Order) : Order :=
  { order with filledQuantity := 0, quoteSpent := 0, status := .pending, lockTxnId := none }

/-- The two orders have agreed to this trade: in one market, on opposite sides,
between different users, at the maker's price and within the taker's limit. -/
structure Agreed (taker maker : Order) (trade : Trade) : Prop where
  markets : taker.marketId = trade.marketId ∧ maker.marketId = trade.marketId
  users : taker.userId = trade.takerUserId ∧ maker.userId = trade.makerUserId
  different : maker.userId ≠ taker.userId
  sides : maker.side = trade.makerSide ∧ maker.side = taker.side.opposite
  price : maker.price = some trade.price
  limit : ∀ limit ∈ (takerInput taker).limit, crosses taker.side limit trade.price

/-- The ledger holds a settlement of the fill. -/
def Posted (s : Store) (fillId : FillId) : Prop :=
  ∃ txn ∈ s.ledger.transactions,
    txn.referenceType = some "trade" ∧ txn.referenceId = some (.trade fillId)

/-- The trade of this fill names its two orders, which agreed to it, and its
settlement has been posted. -/
structure Honoured (s : Store) (fillId : FillId) (trade : Trade) : Prop where
  fill : trade.fillId = fillId
  agreed : ∃ taker maker, s.orders.lookup fillId.1 = some taker ∧
    s.orders.lookup fillId.2 = some maker ∧ Agreed taker maker trade
  posted : Posted s fillId

structure Invariant (s : Store) : Prop where
  keyed : Keyed s
  prices : ∀ id order, s.orders.lookup id = some order →
    ∀ price ∈ order.price, OnGrid Numeric.scale price
  honoured : ∀ fillId trade, s.trades.lookup fillId = some trade → Honoured s fillId trade

/-- What every call leaves: the catalog, the terms of the orders, and what has
been posted. -/
structure Kept (s s' : Store) : Prop where
  catalog : s'.markets = s.markets ∧ s'.assets = s.assets
  rows : ∀ id order, s.orders.lookup id = some order →
    ∃ order', s'.orders.lookup id = some order' ∧ terms order' = terms order
  posted : ∀ txn ∈ s.ledger.transactions, txn ∈ s'.ledger.transactions

def protocol : TradingProtocol where
  step := Makes
  inv := Invariant
  rely _ := Kept
  guarantee _ := Kept

variable {pid id : OrderId} {s s' : Store} {order taker maker : Order} {data : OrderPatch}
  {trade : Trade} {fillId : FillId}

theorem terms_patched : terms (patched data order) = terms order := rfl

theorem terms_advanced (fill : EngineFill) : terms (advanced maker fill) = terms maker := rfl

/-- An agreement depends on the terms only. -/
theorem Agreed.of_terms {taker' maker' : Order} (agreed : Agreed taker maker trade)
    (sameTaker : terms taker' = terms taker) (sameMaker : terms maker' = terms maker) :
    Agreed taker' maker' trade := by
  simp only [terms, Order.mk.injEq] at sameTaker sameMaker
  obtain ⟨-, takerUser, takerMarket, -, takerSide, takerType, takerPrice, -⟩ := sameTaker
  obtain ⟨-, makerUser, makerMarket, -, makerSide, -, makerPrice, -⟩ := sameMaker
  refine ⟨⟨takerMarket.trans agreed.markets.1, makerMarket.trans agreed.markets.2⟩,
    ⟨takerUser.trans agreed.users.1, makerUser.trans agreed.users.2⟩, ?_,
    ⟨makerSide.trans agreed.sides.1, ?_⟩, makerPrice.trans agreed.price, ?_⟩
  · rw [makerUser, takerUser]
    exact agreed.different
  · rw [makerSide, takerSide]
    exact agreed.sides.2
  · have same : (takerInput taker').limit = (takerInput taker).limit := by
      unfold TakerInput.limit takerInput
      rw [takerType, takerPrice]
    rw [takerSide, same]
    exact agreed.limit

theorem Posted.kept (posted : Posted s fillId) (kept : Kept s s') : Posted s' fillId := by
  obtain ⟨txn, member, reference⟩ := posted
  exact ⟨txn, kept.posted txn member, reference⟩

theorem Honoured.kept (honoured : Honoured s fillId trade) (kept : Kept s s') :
    Honoured s' fillId trade := by
  obtain ⟨taker, maker, isTaker, isMaker, agreed⟩ := honoured.agreed
  obtain ⟨taker', isTaker', sameTaker⟩ := kept.rows _ taker isTaker
  obtain ⟨maker', isMaker', sameMaker⟩ := kept.rows _ maker isMaker
  exact ⟨honoured.fill, ⟨taker', maker', isTaker', isMaker', agreed.of_terms sameTaker sameMaker⟩,
    honoured.posted.kept kept⟩

/-! ## The calls -/

theorem Kept.refl (s : Store) : Kept s s :=
  ⟨⟨rfl, rfl⟩, fun _ order found => ⟨order, found, rfl⟩, fun _ member => member⟩

/-- A new row, or one with the terms of the row it replaces. -/
theorem Kept.insert (same : ∀ before, s.orders.lookup id = some before → terms order = terms before) :
    Kept s { s with orders := s.orders.insert id order } := by
  refine ⟨⟨rfl, rfl⟩, fun other row isRow => ?_, fun _ member => member⟩
  by_cases here : other = id
  · subst here
    exact ⟨order, AList.lookup_insert _, same row isRow⟩
  · exact ⟨row, by rw [AList.lookup_insert_ne here]; exact isRow, rfl⟩

/-- No call touches the terms of an order or takes a posting back. -/
theorem kept_of_makes {call : TradingCall} {reply : Except Failure call.Reply}
    (made : Makes pid call s reply s') : Kept s s' := by
  cases call with
  | findUserKyc | findMarketBySymbol | assetDecimals | findOrderById | findOrderByClientId
  | loadRestingBook | findTradeByFillId =>
    rw [made.query rfl]
    exact Kept.refl s
  | createOrder data =>
    rcases made.createOrder with ⟨now, -, fresh, -, rfl⟩ | ⟨-, rfl⟩
    · exact Kept.insert fun before found => by cases fresh.symm.trans found
    · exact Kept.refl _
  | updateOrder id data =>
    rcases made.updateOrder with ⟨row, found, -, -, rfl⟩ | ⟨-, rfl⟩
    · refine Kept.insert fun before isBefore => ?_
      rw [found] at isBefore
      cases isBefore
      exact terms_patched
    · exact Kept.refl _
  | createTrade data =>
    rcases made.createTrade with ⟨trade, -, rfl⟩ | ⟨-, rfl⟩
    · exact ⟨⟨rfl, rfl⟩, fun _ row found => ⟨row, found, rfl⟩, fun _ member => member⟩
    · exact Kept.refl _
  | post input =>
    rcases made.post with ⟨-, rfl⟩ | ⟨txn, -, rfl, -⟩ | ⟨txn, ledger, -, recorded, -, rfl⟩
    · exact Kept.refl _
    · exact Kept.refl _
    · refine ⟨⟨rfl, rfl⟩, fun _ row found => ⟨row, found, rfl⟩, fun before member => ?_⟩
      rw [recorded.transactions]
      exact List.mem_append_left _ member
  | acquire marketId =>
    obtain ⟨-, -, rfl⟩ := made.acquire
    exact ⟨⟨rfl, rfl⟩, fun _ row found => ⟨row, found, rfl⟩, fun _ member => member⟩
  | release marketId =>
    obtain ⟨-, rfl⟩ := made.release
    exact ⟨⟨rfl, rfl⟩, fun _ row found => ⟨row, found, rfl⟩, fun _ member => member⟩

theorem serves : Serves protocol pid where
  makes _ _ _ _ step := step
  idle s _ := Kept.refl s
  catalog _ _ kept := kept.catalog

theorem Invariant.insert (inv : Invariant s)
    (same : ∀ before, s.orders.lookup id = some before → terms order = terms before)
    (isId : order.id = id) (price : ∀ price ∈ order.price, OnGrid Numeric.scale price) :
    Invariant { s with orders := s.orders.insert id order } := by
  refine ⟨inv.keyed.insert isId, fun other row isRow => ?_,
    fun fillId trade found => (inv.honoured fillId trade found).kept (Kept.insert same)⟩
  by_cases here : other = id
  · subst here
    rw [AList.lookup_insert] at isRow
    cases isRow
    exact price
  · rw [AList.lookup_insert_ne here] at isRow
    exact inv.prices other row isRow

/-- Writing trades apart, every call keeps the invariant. -/
theorem Invariant.makes {call : TradingCall} {reply : Except Failure call.Reply}
    (inv : Invariant s) (made : Makes pid call s reply s')
    (other : ∀ trade, call ≠ .createTrade trade) : Invariant s' := by
  have kept := kept_of_makes made
  cases call with
  | findUserKyc | findMarketBySymbol | assetDecimals | findOrderById | findOrderByClientId
  | loadRestingBook | findTradeByFillId =>
    rw [made.query rfl]
    exact inv
  | createOrder data =>
    rcases made.createOrder with ⟨now, -, fresh, -, rfl⟩ | ⟨-, rfl⟩
    · refine inv.insert (fun before found => by cases fresh.symm.trans found) rfl fun price isPrice => ?_
      obtain ⟨given, -, rfl⟩ := Option.mem_map.mp isPrice
      exact Numeric.rounded_onGrid given
    · exact inv
  | updateOrder id data =>
    rcases made.updateOrder with ⟨row, found, -, -, rfl⟩ | ⟨-, rfl⟩
    · refine inv.insert (fun before isBefore => ?_) (inv.keyed id row found) (inv.prices id row found)
      rw [found] at isBefore
      cases isBefore
      exact terms_patched
    · exact inv
  | createTrade data => exact (other data rfl).elim
  | post input =>
    rcases made.post with ⟨-, rfl⟩ | ⟨txn, -, rfl, -⟩ | ⟨txn, ledger, -, recorded, -, rfl⟩
    · exact inv
    · exact inv
    · exact ⟨inv.keyed, inv.prices,
        fun fillId trade found => (inv.honoured fillId trade found).kept kept⟩
  | acquire marketId =>
    obtain ⟨-, -, rfl⟩ := made.acquire
    exact ⟨inv.keyed, inv.prices,
      fun fillId trade found => (inv.honoured fillId trade found).kept kept⟩
  | release marketId =>
    obtain ⟨-, rfl⟩ := made.release
    exact ⟨inv.keyed, inv.prices,
      fun fillId trade found => (inv.honoured fillId trade found).kept kept⟩

variable {A : Assertion} {market : Market} {params : MarketParams}

/-- A call that writes no trade, from an assertion that only what is kept
matters to. -/
theorem call_triple {call : TradingCall} {post : Except Failure call.Reply → Assertion}
    (other : ∀ trade, call ≠ .createTrade trade) (stable : protocol.Stable pid A)
    (after : ∀ s reply s', Invariant s → Makes pid call s reply s' → A s → A s' → post reply s') :
    protocol.Triple pid A (ask call) post := by
  apply Triple.call stable
  intro s reply s' inv holds made
  have inv' := inv.makes made other
  have kept := kept_of_makes made
  exact ⟨inv', kept, after s reply s' inv made holds (stable s s' inv holds kept inv')⟩

theorem call_keeps {call : TradingCall} (other : ∀ trade, call ≠ .createTrade trade)
    (stable : protocol.Stable pid A) :
    protocol.Triple pid A (ask call) (ends (fun _ => A) fun _ => A) := by
  refine call_triple other stable fun s reply s' _ _ _ holds => ?_
  cases reply with
  | error => exact holds
  | ok => exact holds

theorem releaseSurplus_keeps (stable : protocol.Stable pid A) (order : Order) :
    protocol.Triple pid A (releaseSurplus order) (ends (fun _ => A) fun _ => A) := by
  apply releaseSurplus_triple
  · exact fun _ _ holds _ => holds
  · exact fun _ _ _ _ _ => call_keeps (fun _ same => by cases same) stable

/-! ## A matching pass -/

/-- The order's row has the order's terms. -/
def Known (order : Order) (s : Store) : Prop :=
  ∃ row, s.orders.lookup order.id = some row ∧ terms row = terms order

theorem Known.kept (known : Known order s) (kept : Kept s s') : Known order s' := by
  obtain ⟨row, found, same⟩ := known
  obtain ⟨row', found', same'⟩ := kept.rows _ row found
  exact ⟨row', found', same'.trans same⟩

/-- The order faces the taker on this market's book. -/
structure Faces (marketId : String) (taker order : Order) : Prop where
  market : order.marketId = marketId
  side : order.side = taker.side.opposite
  user : order.userId ≠ taker.userId

/-- The taker and the rows in hand are known, and the rows face the taker. -/
structure Facing (marketId : String) (taker : Order) (rows : List Order) (s : Store) : Prop where
  own : Known taker s
  market : taker.marketId = marketId
  rows : ∀ row ∈ rows, Known row s ∧ Faces marketId taker row

theorem facing_stable (marketId : String) (taker : Order) (rows : List Order) :
    protocol.Stable pid (Facing marketId taker rows) := fun _ _ _ facing kept _ =>
  ⟨facing.own.kept kept, facing.market, fun row member =>
    ⟨(facing.rows row member).1.kept kept, (facing.rows row member).2⟩⟩

/-- A row that is made current keeps its terms. -/
theorem mem_refreshed_terms {fill : EngineFill} {rows : List Order} (isMaker : maker ∈ rows)
    (member : order ∈ refreshed maker fill rows) : ∃ before ∈ rows, terms order = terms before := by
  obtain ⟨before, isRow, rfl⟩ := List.mem_map.mp member
  split
  · exact ⟨maker, isMaker, terms_advanced fill⟩
  · exact ⟨before, isRow, rfl⟩

theorem Facing.refreshed {fill : EngineFill} {rows : List Order} (isMaker : maker ∈ rows)
    (facing : Facing marketId taker rows s) :
    Facing marketId taker (refreshed maker fill rows) s := by
  refine ⟨facing.own, facing.market, fun row member => ?_⟩
  obtain ⟨before, isRow, same⟩ := mem_refreshed_terms isMaker member
  obtain ⟨⟨stored, found, known⟩, faces⟩ := facing.rows before isRow
  have fields := same
  simp only [terms, Order.mk.injEq] at fields
  obtain ⟨id, user, here, -, side, -⟩ := fields
  exact ⟨⟨stored, id ▸ found, known.trans same.symm⟩, here.trans faces.market,
    side.trans faces.side, fun isTaker => faces.user (user.symm.trans isTaker)⟩

/-- The fills are at the prices of the rows in hand, within the taker's limit. -/
def Priced (taker : Order) (rows : List Order) (todo : List EngineFill) : Prop :=
  ∀ fill ∈ todo, (∀ row ∈ rows, row.id = fill.makerOrderId → row.price = some fill.price) ∧
    ∀ limit ∈ (takerInput taker).limit, crosses taker.side limit fill.price

theorem Priced.refreshed {fill : EngineFill} {rows : List Order} {todo : List EngineFill}
    (isMaker : maker ∈ rows) (priced : Priced taker rows todo) :
    Priced taker (refreshed maker fill rows) todo := by
  refine fun later member => ⟨fun row inRows isLater => ?_, (priced later member).2⟩
  obtain ⟨before, isRow, same⟩ := mem_refreshed_terms isMaker inRows
  simp only [terms, Order.mk.injEq] at same
  obtain ⟨id, -, -, -, -, -, price, -⟩ := same
  rw [price]
  exact (priced later member).1 before isRow (id.symm.trans isLater)

theorem priced_matched {loaded : List Order} (ids : (loaded.map Order.id).Nodup) :
    Priced taker loaded (matched taker params loaded).fills := by
  intro fill member
  obtain ⟨executed, row, isRow, source⟩ := matched_fill member
  refine ⟨fun other isOther isMaker => ?_, source.crossing⟩
  obtain rfl := List.inj_on_of_nodup_map ids isOther isRow (isMaker.trans source.id.symm)
  have positive := executed.price_pos
  rw [source.price] at positive ⊢
  cases price : other.price with
  | none =>
    rw [price] at positive
    exact (lt_irrefl _ positive).elim
  | some price => rfl

theorem load_triple :
    protocol.Triple pid (Facing market.symbol taker [])
      (ask (.loadRestingBook market.symbol taker.side taker.userId bookScanLimit))
      (ends (fun loaded s => Facing market.symbol taker loaded s ∧
        Priced taker loaded (matched taker params loaded).fills) fun _ _ => True) := by
  refine call_triple (fun _ same => by cases same) (facing_stable _ _ _) fun s reply s' inv made _ facing => ?_
  obtain ⟨rfl, answer⟩ := made.loadRestingBook
  cases reply with
  | error => trivial
  | ok loaded =>
    obtain rfl := answer loaded rfl
    refine ⟨⟨facing.own, facing.market, fun row onBook => ?_⟩,
      priced_matched (loadRestingBook_ids_nodup inv.keyed)⟩
    obtain ⟨⟨key, found⟩, rests⟩ := mem_loadRestingBook onBook
    obtain ⟨here, side, -, user⟩ := isResting_iff.mp rests
    exact ⟨⟨row, (inv.keyed key row found) ▸ found, rfl⟩, here, side, user⟩

/-- What the posting of a fill leaves in the ledger. -/
theorem posted_of_makes {fill : EngineFill} {txn : LedgerTransaction Reference}
    (made : Makes pid (.post (settlement taker maker fill market params).input) s (.ok txn) s') :
    Posted s' (taker.id, maker.id) := by
  rcases made.post with ⟨⟨failure, failed⟩, -⟩ | ⟨txn, -, rfl, found⟩ | ⟨txn, ledger, -, recorded, -, rfl⟩
  · cases failed
  · have reference := List.find?_some found
    exact ⟨txn, List.mem_of_find?_eq_some found, of_decide_eq_true reference⟩
  · refine ⟨txn, ?_, recorded.reference.1, recorded.reference.2⟩
    rw [recorded.transactions]
    exact List.mem_append_right _ (List.mem_singleton_self txn)

/-- A row that is written holds the values it was given, as the columns do. -/
theorem createTrade_row {trade : Trade} (ok : createTrade trade s = .ok (row, s')) :
    row = { trade with
      price := Numeric.rounded trade.price, quantity := Numeric.rounded trade.quantity
      quoteAmount := Numeric.rounded trade.quoteAmount, makerFee := Numeric.rounded trade.makerFee
      takerFee := Numeric.rounded trade.takerFee } := by
  simp only [createTrade, except_bind_ok] at ok
  obtain ⟨price, isPrice, quantity, isQuantity, quote, isQuote, makerFee, isMakerFee, takerFee,
    isTakerFee, ok⟩ := ok
  rw [← (Numeric.store_ok isPrice).1, ← (Numeric.store_ok isQuantity).1,
    ← (Numeric.store_ok isQuote).1, ← (Numeric.store_ok isMakerFee).1,
    ← (Numeric.store_ok isTakerFee).1]
  split at ok
  · cases ok
  split at ok
  · cases ok
  split at ok
  · cases ok
  · cases ok
    rfl

theorem makes_createTrade {reply : Except Failure Trade} (made : Makes pid (.createTrade trade) s reply s') :
    (∃ row, createTrade trade s = .ok (row, s') ∧ reply = .ok row) ∨ s' = s := by
  rcases made with ⟨now, made⟩ | ⟨-, -, same⟩
  · simp only [perform, Option.some.injEq] at made
    cases created : createTrade trade s with
    | error failure =>
      rw [created] at made
      cases made
      exact .inr rfl
    | ok pair =>
      rw [created] at made
      cases made
      exact .inl ⟨_, rfl, rfl⟩
  · exact .inr same

/-- The trade of a fill at this maker's price, as it is about to be written. -/
structure Due (marketId : String) (taker maker : Order) (fill : EngineFill) (s : Store) : Prop where
  own : Known taker s
  market : taker.marketId = marketId
  known : Known maker s
  faces : Faces marketId taker maker
  price : maker.price = some fill.price
  limit : ∀ limit ∈ (takerInput taker).limit, crosses taker.side limit fill.price
  posted : Posted s (taker.id, maker.id)

theorem due_stable (marketId : String) (taker maker : Order) (fill : EngineFill) :
    protocol.Stable pid (Due marketId taker maker fill) := fun _ _ _ due kept _ =>
  ⟨due.own.kept kept, due.market, due.known.kept kept, due.faces, due.price, due.limit,
    due.posted.kept kept⟩

theorem Due.agreed {fill : EngineFill} {settle : Settlement} {settleTxnId : ℕ} {row : Trade}
    (inv : Invariant s) (due : Due market.symbol taker maker fill s)
    (created : createTrade (tradeRow taker maker fill market settle settleTxnId) s = .ok (row, s')) :
    Honoured s (taker.id, maker.id) row := by
  obtain ⟨taker', isTaker, sameTaker⟩ := due.own
  obtain ⟨maker', isMaker, sameMaker⟩ := due.known
  have grid : OnGrid Numeric.scale fill.price := by
    apply inv.prices _ maker' isMaker
    simp only [terms, Order.mk.injEq] at sameMaker
    obtain ⟨-, -, -, -, -, -, price, -⟩ := sameMaker
    exact price.trans due.price
  have written := createTrade_row created
  have price : row.price = fill.price := by
    rw [written]
    exact Numeric.rounded_of_onGrid grid
  have agreed : Agreed taker maker row := by
    refine ⟨?_, ?_, due.faces.user, ?_, by rw [price]; exact due.price, by rw [price]; exact due.limit⟩
    · rw [written]
      exact ⟨due.market, due.faces.market⟩
    · rw [written]
      exact ⟨rfl, rfl⟩
    · rw [written]
      exact ⟨rfl, due.faces.side⟩
  exact ⟨by rw [written]; rfl, ⟨taker', maker', isTaker, isMaker, agreed.of_terms sameTaker sameMaker⟩, due.posted⟩

theorem record_triple {fill : EngineFill} {settle : Settlement} {settleTxnId : ℕ}
    (stable : protocol.Stable pid A)
    (due : ∀ s, A s → Due market.symbol taker maker fill s) :
    protocol.Triple pid A (recordTrade (tradeRow taker maker fill market settle settleTxnId))
      (ends (fun _ => A) fun _ _ => True) := by
  apply recordTrade_triple (C := A)
  · apply Triple.call stable
    intro s reply s' inv holds made
    have kept := kept_of_makes made
    rcases makes_createTrade made with ⟨row, created, rfl⟩ | rfl
    · have honoured := (due s holds).agreed inv created
      obtain rfl := createTrade_ok created
      have inv' : Invariant { s with trades := s.trades.insert (taker.id, maker.id) row } := by
        refine ⟨inv.keyed, inv.prices, fun fillId trade found => ?_⟩
        by_cases same : fillId = (taker.id, maker.id)
        · subst same
          rw [AList.lookup_insert] at found
          cases found
          exact honoured.kept kept
        · rw [AList.lookup_insert_ne same] at found
          exact (inv.honoured fillId trade found).kept kept
      exact ⟨inv', kept, stable _ _ inv holds kept inv'⟩
    · refine ⟨inv, kept, ?_⟩
      cases reply with
      | error => exact holds
      | ok => exact holds
  · exact fun _ _ _ => trivial
  · refine (call_keeps (fun _ same => by cases same) stable).imp (fun _ _ holds => holds) ?_
    rintro (failure | existing) s _ holds
    · trivial
    · cases existing with
      | none => trivial
      | some existing => exact holds

/-- Where a pass stands: the rows in hand face the taker, and the fills to come
are at their prices. -/
def Standing (marketId : String) (taker : Order) (rows : List Order) (todo : List EngineFill)
    (s : Store) : Prop :=
  Facing marketId taker rows s ∧ Priced taker rows todo

theorem standing_stable (marketId : String) (taker : Order) (rows : List Order)
    (todo : List EngineFill) : protocol.Stable pid (Standing marketId taker rows todo) :=
  fun s s' inv holds kept inv' =>
    ⟨facing_stable marketId taker rows s s' inv holds.1 kept inv', holds.2⟩

theorem Standing.tail {fill : EngineFill} {rows : List Order} {todo : List EngineFill}
    (standing : Standing marketId taker rows (fill :: todo) s) : Standing marketId taker rows todo s :=
  ⟨standing.1, fun later member => standing.2 later (List.mem_cons_of_mem _ member)⟩

theorem Standing.refreshed {fill : EngineFill} {rows : List Order} {todo : List EngineFill}
    (isMaker : maker ∈ rows) (standing : Standing marketId taker rows todo s) :
    Standing marketId taker (Service.refreshed maker fill rows) todo s :=
  ⟨standing.1.refreshed isMaker, standing.2.refreshed isMaker⟩

/-- The pass has posted this maker's fill and goes on with the rest. -/
def Posting (marketId : String) (taker : Order) (rows : List Order) (maker : Order)
    (fill : EngineFill) (todo : List EngineFill) (s : Store) : Prop :=
  Due marketId taker maker fill s ∧ maker ∈ rows ∧ Standing marketId taker rows todo s

theorem posting_stable (marketId : String) (taker : Order) (rows : List Order) (maker : Order)
    (fill : EngineFill) (todo : List EngineFill) :
    protocol.Stable pid (Posting marketId taker rows maker fill todo) :=
  fun s s' inv holds kept inv' =>
    ⟨due_stable _ _ _ _ s s' inv holds.1 kept inv', holds.2.1,
      standing_stable _ _ _ _ s s' inv holds.2.2 kept inv'⟩

theorem settle_triple {fill : EngineFill} {rows : List Order} {todo : List EngineFill}
    (found : (rows.find? fun order => order.id = fill.makerOrderId) = some maker) :
    protocol.Triple pid (Standing market.symbol taker rows (fill :: todo))
      (ask (.post (settlement taker maker fill market params).input))
      (ends (fun _ => Posting market.symbol taker rows maker fill todo) fun _ _ => True) := by
  refine call_triple (fun _ same => by cases same) (standing_stable _ _ _ _)
    fun s reply s' _ made _ standing => ?_
  cases reply with
  | error => trivial
  | ok txn =>
    have isRow := List.mem_of_find?_eq_some found
    have isMaker : maker.id = fill.makerOrderId := by simpa using List.find?_some found
    obtain ⟨known, faces⟩ := standing.1.rows maker isRow
    obtain ⟨price, limit⟩ := standing.2 fill List.mem_cons_self
    exact ⟨⟨standing.1.own, standing.1.market, known, faces, price maker isRow isMaker, limit,
      posted_of_makes made⟩, isRow, standing.tail⟩

def pass (pid : OrderId) (market : Market) (params : MarketParams) (taker : Order) :
    Pass protocol pid taker market params where
  start := Facing market.symbol taker []
  next _ rows todo := Standing market.symbol taker rows todo
  settled _ rows maker fill todo := Posting market.symbol taker rows maker fill todo
  traded _ rows maker fill todo := Posting market.symbol taker rows maker fill todo
  advanced _ rows maker fill todo := Posting market.symbol taker rows maker fill todo
  finalized _ _ _ := True
  done _ := True
  aborted _ := True
  load := load_triple
  skip _ _ _ _ _ _ standing _ := standing.tail
  settle _ _ _ _ _ found := settle_triple found
  record _ _ _ _ _ _ := record_triple (posting_stable _ _ _ _ _ _) fun _ posting => posting.1
  advance _ _ _ _ _ := by
    apply (call_keeps (fun _ same => by cases same) (posting_stable _ _ _ _ _ _)).imp
      (fun _ _ holds => holds)
    rintro (failure | updated) s _ holds
    · trivial
    · exact holds
  release _ _ _ _ _ _ := by
    apply (releaseSurplus_keeps (posting_stable _ _ _ _ _ _) _).imp (fun _ _ holds => holds)
    rintro (failure | _) s _ holds
    · trivial
    · exact holds.2.2.refreshed holds.2.1
  keep _ _ _ _ _ _ _ _ holds := holds.2.2.refreshed holds.2.1
  finalize _ _ := by
    refine call_triple (fun _ same => by cases same) (standing_stable _ _ _ _)
      fun s reply s' _ _ _ _ => ?_
    cases reply with
    | error => trivial
    | ok => trivial
  close _ _ _ := releaseSurplus_keeps stable_true _
  rest _ _ _ _ _ _ := trivial

/-! ## Requests -/

/-- A stored order of this market. -/
def Stored (marketId : String) (order : Order) (s : Store) : Prop :=
  Known order s ∧ order.marketId = marketId

theorem stored_stable (marketId : String) (order : Order) :
    protocol.Stable pid (Stored marketId order) := fun _ _ _ stored kept _ =>
  ⟨stored.1.kept kept, stored.2⟩

theorem create_triple {userId : UserId} {input : OrderBody} {lock : LockRequirement} :
    protocol.Triple pid (fun s => True ∧ Listed s market params)
      (ask (.createOrder (newOrder userId market input lock)))
      (ends (Stored market.symbol) fun _ _ => True) := by
  refine call_triple (fun _ same => by cases same) (stable_true.and (Listed.stable serves))
    fun s reply s' _ made _ _ => ?_
  rcases made.createOrder with ⟨now, rfl, -, -, rfl⟩ | ⟨⟨failure, rfl⟩, -⟩
  · exact ⟨⟨_, AList.lookup_insert _, rfl⟩, rfl⟩
  · trivial

theorem open_triple :
    protocol.Triple pid (Stored market.symbol order) (ask (.updateOrder order.id data))
      (ends (fun taker => Facing market.symbol taker []) fun _ _ => True) := by
  refine call_triple (fun _ same => by cases same) (stored_stable _ _)
    fun s reply s' inv made stored _ => ?_
  rcases made.updateOrder with ⟨row, found, rfl, -, rfl⟩ | ⟨⟨failure, rfl⟩, -⟩
  · obtain ⟨⟨row', found', same⟩, here⟩ := stored
    rw [found] at found'
    cases found'
    have isId : (patched data row).id = order.id := inv.keyed order.id row found
    simp only [terms, Order.mk.injEq] at same
    refine ⟨⟨_, ?_, rfl⟩, same.2.2.1.trans here, fun _ member => by simp at member⟩
    rw [isId]
    exact AList.lookup_insert _
  · trivial

def placement (pid : OrderId) (userId : UserId) (input : CreateOrderDto) :
    Placement protocol pid userId input where
  unused _ := True
  placed market _ := Stored market.symbol
  locked market _ order _ := Stored market.symbol order
  opened market _ taker := Facing market.symbol taker []
  closed _ _ := True
  ended _ := True
  unused_stable := stable_true
  ended_stable := stable_true
  unused_ended _ _ _ := trivial
  placed_ended _ _ _ _ _ _ := trivial
  create _ _ _ _ := create_triple
  lock _ _ _ := call_keeps (fun _ same => by cases same) (stored_stable _ _)
  «open» _ _ _ _ := open_triple
  reject _ _ _ := call_triple (fun _ same => by cases same) (stored_stable _ _)
    fun _ _ _ _ _ _ _ => trivial
  pass market params taker := pass pid market params taker
  acquire _ _ _ := (call_keeps (fun _ same => by cases same) (facing_stable _ _ _)).imp
    (fun _ _ holds => holds) (by
      rintro (failure | _) s _ holds
      · trivial
      · exact holds)
  done_closed _ _ _ _ _ _ := trivial
  aborted_closed _ _ _ _ _ _ := trivial
  release _ := call_triple (fun _ same => by cases same) stable_true fun _ _ _ _ _ _ _ => trivial

/-- A cancellation has nothing to keep track of. -/
def cancellation (pid orderId : OrderId) : Cancellation protocol pid orderId where
  unused _ := True
  targeted _ _ := True
  entered _ _ := True
  seen _ _ _ := True
  cancelled _ _ _ := True
  closed _ _ := True
  ended _ := True
  unused_ended _ _ _ := trivial
  targeted_ended _ _ _ _ := trivial
  seen_closed _ _ _ _ _ := trivial
  find := call_triple (fun _ same => by cases same) stable_true fun _ reply _ _ _ _ _ => by
    cases reply with
    | error => trivial
    | ok found => cases found <;> trivial
  acquire _ := call_keeps (fun _ same => by cases same) stable_true
  read _ := call_triple (fun _ same => by cases same) stable_true fun _ reply _ _ _ _ _ => by
    cases reply with
    | error => trivial
    | ok found => cases found <;> trivial
  cancel _ _ _ := call_keeps (fun _ same => by cases same) stable_true
  surplus _ updated := releaseSurplus_keeps stable_true updated
  release _ := call_triple (fun _ same => by cases same) stable_true fun _ _ _ _ _ _ _ => trivial

theorem proved : Pool.Proved protocol IsRequest Untraded (fun _ _ => True) fun _ _ _ => True where
  initial s untraded := by
    have empty : ∀ id, s.orders.lookup id = none := fun id => by
      rw [untraded.orders]
      exact AList.lookup_empty id
    refine ⟨⟨fun id order found => ?_, fun id order found => ?_, fun fillId trade found => ?_⟩,
      fun _ => trivial⟩
    · cases (empty id).symm.trans found
    · cases (empty id).symm.trans found
    · rw [untraded.trades, AList.lookup_empty] at found
      cases found
  noninterference _ _ _ _ _ _ _ kept := kept
  unused_stable _ := stable_true
  ended_stable _ _ := stable_true
  triple pid := isRequest_triple serves (fun userId input => ⟨placement pid userId input, rfl, rfl⟩)
    fun orderId => ⟨cancellation pid orderId, rfl, rfl⟩

/-- Calls are made alike under every protocol whose steps are the calls. -/
theorem run_interleaved {P : TradingProtocol} {Initial : Store → Prop} {pool : TradingPool}
    (steps : ∀ pid call s reply s', Makes pid call s reply s' → P.step pid call s reply s')
    (run : Pool.Run interleaved IsRequest Initial pool) : Pool.Run P IsRequest Initial pool := by
  induction run with
  | start initial => exact .start initial
  | step _ step ih =>
    refine ih.step ?_
    cases step with
    | arrive fresh request => exact .arrive fresh request
    | resume waiting made => exact .resume waiting (steps _ _ _ _ _ made)

/-- Whatever is interleaved and whatever fails, every row of `trades` is one its
two orders agreed to: they are in its market, on opposite sides, of different
users, the price is the maker's and within the taker's limit; and its
settlement is in the ledger. -/
theorem trades_agreed {pool : TradingPool} (run : Pool.Run interleaved IsRequest Untraded pool)
    (found : pool.store.trades.lookup fillId = some trade) : Honoured pool.store fillId trade :=
  ((run_interleaved (P := protocol) (fun _ _ _ _ _ made => made) run).inv proved).honoured fillId
    trade found

/-- Order 2 buys from order 1 at 90, and both of their writes are under way when
order 3 arrives to cancel. -/
theorem trades_agreed_sold : ∃ s : Store, ∃ trade, s.trades.lookup (2, 1) = some trade ∧
    Honoured s (2, 1) trade := by
  have played : (schedule (fun _ _ _ _ => true) [.arrive 1 (.placeOrder 1 sellOne), .calls 1 100,
      .arrive 2 (.placeOrder 2 buyOne), .calls 2 9, .arrive 3 (.cancelOrder 1 1), .calls 3 1,
      .calls 2 100, .calls 3 100] ⟨smallExchange, ∅⟩).map (fun pool =>
        (pool.store.trades.lookup (2, 1)).map Trade.price) = some (some 90) := by
    decide +kernel
  obtain ⟨pool, scheduled, traded⟩ := Option.map_eq_some_iff.mp played
  obtain ⟨trade, found, -⟩ := Option.map_eq_some_iff.mp traded
  have sound : ∀ pid call s reply s', true → Makes pid call s reply s' →
      interleaved.step pid call s reply s' := fun _ _ _ _ _ _ made => made
  exact ⟨pool.store, trade, found, trades_agreed
    ((Pool.Run.start smallExchange_untraded).steps (schedule_steps sound scheduled)) found⟩

end Exchange.Trading.TradeTerms
