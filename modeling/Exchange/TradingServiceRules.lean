import Exchange.TradingMatched

/-! Proof outlines of the trading service: which assertion holds at which of a
request's calls. Each outline turns what the single calls do into a triple of
the whole request, whatever the protocol of the calls is. -/
namespace Exchange.Trading.Service
open Ledger Protocol

abbrev TradingProtocol := Protocol OrderId TradingCall TradingCall.Reply Failure Store

abbrev Assertion := Store → Prop

/-- Calls do no more than the tables allow, a call that changes nothing is
always allowed, and others leave the catalog alone. -/
structure Serves (P : TradingProtocol) (pid : OrderId) : Prop where
  makes : ∀ call s reply s', P.step pid call s reply s' → Makes pid call s reply s'
  idle : ∀ s, P.inv s → P.guarantee pid s s
  catalog : ∀ s s', P.rely pid s s' → s'.markets = s.markets ∧ s'.assets = s.assets

variable {P : TradingProtocol} {pid : OrderId} {A B C ended failed : Assertion}

theorem Listed.stable (serves : Serves P pid) :
    P.Stable pid fun s => Listed s market params := by
  intro s s' _ listed rely _
  obtain ⟨markets, assets⟩ := serves.catalog s s' rely
  exact ⟨by rw [markets]; exact listed.found, by
    rw [listed.precision, assetDecimals, assetDecimals, assets]⟩

/-- A query changes nothing and answers as the tables do. -/
theorem Triple.query {call : TradingCall} {F : Except Failure call.Reply → Store → Prop}
    (serves : Serves P pid) (isQuery : call.isQuery) (stable : P.Stable pid A)
    (answers : ∀ s reply, A s → Makes pid call s reply s → F reply s) :
    P.Triple pid A (ask call) fun reply s => A s ∧ F reply s := by
  apply Triple.call stable
  intro s reply s' inv holds step
  have made := serves.makes call s reply s' step
  obtain rfl := made.query isQuery
  exact ⟨inv, serves.idle s' inv, holds, answers s' reply holds made⟩

/-- What is known of a call's answer is known after it. -/
theorem Triple.answered {call : TradingCall} {post : Except Failure call.Reply → Store → Prop}
    {F : Except Failure call.Reply → Prop} (serves : Serves P pid)
    (triple : P.Triple pid A (ask call) post)
    (answers : ∀ s reply s', Makes pid call s reply s' → F reply) :
    P.Triple pid A (ask call) fun reply s => post reply s ∧ F reply := by
  intro s inv holds s' others reply s'' step
  obtain ⟨kept, guaranteed, after⟩ := triple s inv holds s' others reply s'' step
  exact ⟨kept, guaranteed, after, answers s' reply s'' (serves.makes _ s' reply s'' step)⟩

theorem Triple.query_keeps {call : TradingCall} (serves : Serves P pid) (isQuery : call.isQuery)
    (stable : P.Stable pid A) : P.Triple pid A (ask call) (ends (fun _ => A) fun _ => A) := by
  refine (Triple.query (F := fun _ _ => True) serves isQuery stable fun _ _ _ _ => trivial).imp
    (fun _ _ holds => holds) ?_
  intro result s _ holds
  cases result with
  | ok value => exact holds.1
  | error failure => exact holds.1

theorem Triple.liftExcept {result : Except Failure α} {ok : α → Store → Prop}
    (holds : ∀ value s, result = .ok value → A s → ok value s)
    (throws : ∀ s, A s → failed s) :
    P.Triple pid A (liftExcept result) (ends ok fun _ => failed) := by
  intro s _ before
  cases result with
  | ok value => exact holds value s rfl before
  | error failure => exact throws s before

/-! ## Before the order exists -/

theorem assertKycApproved_triple (serves : Serves P pid) (stable : P.Stable pid A) :
    P.Triple pid A (assertKycApproved userId) (ends (fun _ => A) fun _ => A) := by
  unfold assertKycApproved
  apply Triple.seq (Triple.query_keeps serves rfl stable)
  intro user
  cases user with
  | none => exact Triple.throw fun _ _ holds => holds
  | some user =>
    dsimp only
    split
    · exact Triple.throw fun _ _ holds => holds
    · split
      · exact Triple.throw fun _ _ holds => holds
      · exact Triple.returns fun _ _ holds => holds

theorem resolveMarket_triple (serves : Serves P pid) (stable : P.Stable pid A) :
    P.Triple pid A (resolveMarket symbol)
      (ends (fun found s => A s ∧ Listed s found.1 found.2) fun _ => A) := by
  unfold resolveMarket
  have marketStable (market : Market) :
      P.Stable pid fun s => A s ∧ s.markets market.symbol = some market := by
    intro s s' inv holds rely inv'
    exact ⟨stable s s' inv holds.1 rely inv', by rw [(serves.catalog s s' rely).1]; exact holds.2⟩
  apply Triple.seq (M := fun found s => A s ∧ ∀ market, found = some market →
    s.markets market.symbol = some market)
  · refine (Triple.query (F := fun reply s => ∀ found, reply = .ok found →
      found = s.markets symbol) serves rfl stable ?_).imp (fun _ _ holds => holds) ?_
    · intro s reply _ made
      exact made.findMarketBySymbol.2
    · intro result s _ holds
      cases result with
      | error failure => exact holds.1
      | ok found =>
        refine ⟨holds.1, fun market isFound => ?_⟩
        have read := holds.2 found rfl
        rw [isFound] at read
        rw [s.marketsKeyed symbol market read.symm]
        exact read.symm
  intro found
  cases found with
  | none => exact Triple.throw fun _ _ holds => holds.1
  | some market =>
    apply Triple.seq (M := fun decimals s => A s ∧ s.markets market.symbol = some market ∧
      decimals = assetDecimals s [market.baseAsset, market.quoteAsset])
    · refine (Triple.query (F := fun reply s => ∀ found, reply = .ok found →
        found = assetDecimals s [market.baseAsset, market.quoteAsset]) serves rfl
        (marketStable market) ?_).imp (fun _ _ holds => ⟨holds.1, holds.2 market rfl⟩) ?_
      · intro s reply _ made
        exact made.assetDecimals.2
      · intro result s _ holds
        cases result with
        | error failure => exact holds.1.1
        | ok decimals => exact ⟨holds.1.1, holds.1.2, holds.2 decimals rfl⟩
    · intro decimals
      apply Triple.returns
      rintro s _ ⟨holds, isListed, rfl⟩
      exact ⟨holds, isListed, rfl⟩

theorem findDuplicate_triple (serves : Serves P pid) (stable : P.Stable pid A) :
    P.Triple pid A (findDuplicate userId clientOrderId) (ends (fun _ => A) fun _ => A) := by
  cases clientOrderId with
  | none => exact Triple.returns fun _ _ holds => holds
  | some clientOrderId => exact Triple.query_keeps serves rfl stable

/-! ## Under the market's lock -/

theorem withMarketLock_triple {section' : TradingM α} {entered closed : Assertion}
    (acquire : P.Triple pid A (ask (.acquire key)) (ends (fun _ => entered) fun _ => ended))
    (body : P.Triple pid entered section' fun _ => closed)
    (release : P.Triple pid closed (ask (.release key)) fun _ => ended) :
    P.Triple pid A (withMarketLock key section') fun _ => ended := by
  unfold withMarketLock
  apply Triple.bind acquire
  · intro _
    apply Triple.bind (M := ends (fun _ => closed) fun _ _ => False)
    · exact body.settled fun _ _ _ holds => holds
    · intro result
      apply Triple.bind release
      · intro _ s _ holds
        cases result with
        | ok value => exact holds
        | error failure => exact holds
      · exact fun _ _ _ holds => holds
    · exact fun _ _ _ never => never.elim
  · exact fun _ _ _ holds => holds

theorem releaseSurplus_triple {order : Order}
    (nothing : ∀ s, P.inv s → A s → (∀ asset amount, order.lockedAsset = some asset →
      order.lockedAmount = some amount → amount.sub (spent order) ≤ 0) → B s)
    (post : ∀ asset amount, order.lockedAsset = some asset → order.lockedAmount = some amount →
      0 < amount.sub (spent order) →
      P.Triple pid A (ask (.post (orderUnlock order asset (amount.sub (spent order)))))
        (ends (fun _ => B) fun _ => failed)) :
    P.Triple pid A (releaseSurplus order) (ends (fun _ => B) fun _ => failed) := by
  unfold releaseSurplus
  cases isAsset : order.lockedAsset with
  | none => exact Triple.returns fun s inv holds => nothing s inv holds (by simp [isAsset])
  | some asset =>
    cases isAmount : order.lockedAmount with
    | none => exact Triple.returns fun s inv holds => nothing s inv holds (by simp [isAmount])
    | some amount =>
      dsimp only
      split
      · rename_i empty
        exact Triple.returns fun s inv holds => nothing s inv holds (by simpa [isAsset, isAmount])
      · rename_i surplus
        apply Triple.seq (post asset amount isAsset isAmount (not_le.mp surplus))
        exact fun _ => Triple.returns fun _ _ holds => holds

/-- The trade row is written, or found when it cannot be. -/
theorem recordTrade_triple {trade : Trade}
    (create : P.Triple pid A (ask (.createTrade trade)) (ends (fun _ => B) fun _ => C))
    (threw : ∀ s, P.inv s → C s → failed s)
    (find : P.Triple pid C (ask (.findTradeByFillId trade.fillId))
      (ends (fun existing s => existing.elim (failed s) fun _ => B s) fun _ => failed)) :
    P.Triple pid A (recordTrade trade) (ends (fun _ => B) fun _ => failed) := by
  unfold recordTrade
  apply Triple.tryCatch create
  · exact fun _ _ _ holds => holds
  intro failure
  split
  · apply find.bind
    · intro existing
      cases existing with
      | none => exact Triple.throw fun _ _ holds => holds
      | some existing => exact Triple.returns fun _ _ holds => holds
    · exact fun _ _ _ holds => holds
  · exact Triple.throw threw

/-- What holds along a pass of `matchAndSettle`. The book was read as `loaded`;
the loop has got to the fills `todo` and holds `rows`. -/
structure Pass (P : TradingProtocol) (pid : OrderId) (taker : Order) (market : Market)
    (params : MarketParams) where
  start : Assertion
  next (loaded rows : List Order) (todo : List EngineFill) : Assertion
  settled (loaded rows : List Order) (maker : Order) (fill : EngineFill) (todo : List EngineFill) :
    Assertion
  traded (loaded rows : List Order) (maker : Order) (fill : EngineFill) (todo : List EngineFill) :
    Assertion
  advanced (loaded rows : List Order) (maker : Order) (fill : EngineFill) (todo : List EngineFill) :
    Assertion
  finalized (loaded : List Order) (updated : Order) : Assertion
  done : Assertion
  aborted : Assertion
  load : P.Triple pid start
    (ask (.loadRestingBook market.symbol taker.side taker.userId bookScanLimit))
    (ends (fun loaded => next loaded loaded (matched taker params loaded).fills) fun _ => aborted)
  skip : ∀ loaded rows fill todo s, P.inv s → next loaded rows (fill :: todo) s →
    (rows.find? fun order => order.id = fill.makerOrderId) = none → next loaded rows todo s
  settle : ∀ loaded rows maker fill todo,
    (rows.find? fun order => order.id = fill.makerOrderId) = some maker →
    P.Triple pid (next loaded rows (fill :: todo))
      (ask (.post (settlement taker maker fill market params).input))
      (ends (fun _ => settled loaded rows maker fill todo) fun _ => aborted)
  record : ∀ loaded rows maker fill todo txnId,
    P.Triple pid (settled loaded rows maker fill todo)
      (recordTrade (tradeRow taker maker fill market (settlement taker maker fill market params)
        txnId))
      (ends (fun _ => traded loaded rows maker fill todo) fun _ => aborted)
  advance : ∀ loaded rows maker fill todo,
    P.Triple pid (traded loaded rows maker fill todo)
      (ask (.updateOrder maker.id (makerPatch maker fill)))
      (ends (fun _ => advanced loaded rows maker fill todo) fun _ => aborted)
  release : ∀ loaded rows maker fill todo, isClosed (Service.advanced maker fill) →
    P.Triple pid (advanced loaded rows maker fill todo)
      (releaseSurplus (Service.advanced maker fill))
      (ends (fun _ => next loaded (refreshed maker fill rows) todo) fun _ => aborted)
  keep : ∀ loaded rows maker fill todo s, isClosed (Service.advanced maker fill) = false →
    P.inv s → advanced loaded rows maker fill todo s →
    next loaded (refreshed maker fill rows) todo s
  finalize : ∀ loaded rows,
    P.Triple pid (next loaded rows [])
      (ask (.updateOrder taker.id (takerPatch taker (matched taker params loaded))))
      (ends (finalized loaded) fun _ => aborted)
  close : ∀ loaded updated,
    takerStatus taker (matched taker params loaded).filledQuantity ∈ [.filled, .cancelled] →
    P.Triple pid (finalized loaded updated) (releaseSurplus updated)
      (ends (fun _ => done) fun _ => aborted)
  rest : ∀ loaded updated s,
    takerStatus taker (matched taker params loaded).filledQuantity ∉ [.filled, .cancelled] →
    P.inv s → finalized loaded updated s → done s

variable {taker : Order} {market : Market} {params : MarketParams}

theorem Pass.settleFills (pass : Pass P pid taker market params) (loaded rows : List Order)
    (todo : List EngineFill) : P.Triple pid (pass.next loaded rows todo)
      (settleFills taker market params rows todo)
      (ends (fun _ s => ∃ rows, pass.next loaded rows [] s) fun _ => pass.aborted) := by
  induction todo generalizing rows with
  | nil => exact Triple.returns fun _ _ holds => ⟨rows, holds⟩
  | cons fill todo ih =>
    unfold Service.settleFills
    cases found : rows.find? fun order => order.id = fill.makerOrderId with
    | none =>
      exact (ih rows).imp (fun s inv holds => pass.skip loaded rows fill todo s inv holds found)
        fun _ _ _ holds => holds
    | some maker =>
      apply Triple.seq (M := fun _ => pass.traded loaded rows maker fill todo)
      · exact Triple.seq (pass.settle loaded rows maker fill todo found)
          fun txn => pass.record loaded rows maker fill todo txn.id
      intro trade
      apply Triple.seq (M := fun _ => pass.next loaded (refreshed maker fill rows) todo)
      · apply Triple.seq (pass.advance loaded rows maker fill todo)
        intro _
        split
        · rename_i closed
          exact pass.release loaded rows maker fill todo closed
        · rename_i closed
          exact Triple.returns fun s inv holds =>
            pass.keep loaded rows maker fill todo s (by simpa using closed) inv holds
      · intro _
        exact Triple.seq (ih (refreshed maker fill rows))
          fun _ => Triple.returns fun _ _ holds => holds

theorem Pass.matchAndSettle (pass : Pass P pid taker market params) :
    P.Triple pid pass.start (matchAndSettle taker market params)
      (ends (fun _ => pass.done) fun _ => pass.aborted) := by
  unfold Service.matchAndSettle
  apply Triple.seq pass.load
  intro loaded
  apply Triple.seq (pass.settleFills loaded loaded _)
  intro created
  apply Triple.seq (M := fun _ => pass.done)
  · apply Triple.exists
    intro rows
    apply Triple.seq (pass.finalize loaded rows)
    intro updated
    split
    · rename_i closed
      exact pass.close loaded updated closed
    · rename_i rests
      exact Triple.returns fun s => pass.rest loaded updated s rests
  · exact fun _ => Triple.returns fun _ _ holds => holds

/-! ## Requests -/

/-- What holds along a placement of this input. -/
structure Placement (P : TradingProtocol) (pid : OrderId) (userId : UserId)
    (input : CreateOrderDto) where
  unused : Assertion
  placed (market : Market) (params : MarketParams) (order : Order) : Assertion
  locked (market : Market) (params : MarketParams) (order : Order)
    (lockTxn : LedgerTransaction Reference) : Assertion
  opened (market : Market) (params : MarketParams) (taker : Order) : Assertion
  closed (marketId : String) : Assertion
  ended : Assertion
  unused_stable : P.Stable pid unused
  ended_stable : P.Stable pid ended
  unused_ended : ∀ s, P.inv s → unused s → ended s
  placed_ended : ∀ market params order s, P.inv s → placed market params order s → ended s
  create : ∀ market params, market.status = .active →
    validateAgainstMarket input.toOrderBody market = .ok () →
    P.Triple pid (fun s => unused s ∧ Listed s market params)
      (ask (.createOrder (newOrder userId market input.toOrderBody
        (computeLockRequirement input.toOrderBody params))))
      (ends (placed market params) fun _ => unused)
  lock : ∀ market params order,
    P.Triple pid (placed market params order)
      (ask (.post (orderLock order (computeLockRequirement input.toOrderBody params))))
      (ends (locked market params order) fun _ => placed market params order)
  «open» : ∀ market params order lockTxn,
    P.Triple pid (locked market params order lockTxn)
      (ask (.updateOrder order.id { status := some .open, lockTxn := some lockTxn.id }))
      (ends (opened market params) fun _ => ended)
  reject : ∀ market params order,
    P.Triple pid (placed market params order)
      (ask (.updateOrder order.id { status := some .rejected })) fun _ => ended
  pass : ∀ market params taker, Pass P pid taker market params
  acquire : ∀ market params taker,
    P.Triple pid (opened market params taker) (ask (.acquire market.symbol))
      (ends (fun _ => (pass market params taker).start) fun _ => ended)
  done_closed : ∀ market params taker s, P.inv s → (pass market params taker).done s →
    closed market.symbol s
  aborted_closed : ∀ market params taker s, P.inv s → (pass market params taker).aborted s →
    closed market.symbol s
  release : ∀ marketId, P.Triple pid (closed marketId) (ask (.release marketId)) fun _ => ended

section Placement
variable {userId : UserId} {input : CreateOrderDto}

theorem Placement.lockAndOpen (outline : Placement P pid userId input) (serves : Serves P pid)
    (order : Order) :
    P.Triple pid (outline.placed market params order)
      (lockAndOpen order (computeLockRequirement input.toOrderBody params))
      (ends (outline.opened market params) fun _ => outline.ended) := by
  unfold Service.lockAndOpen
  -- a conflict comes from the lock posting, which then has not been made
  apply Triple.tryCatch (M := ends (outline.opened market params) fun failure s =>
    outline.placed market params order s ∨ outline.ended s ∧ failure.isConflictError = false)
  · apply Triple.bind (outline.lock market params order)
    · intro lockTxn
      refine (Triple.answered (F := fun reply => ∀ failure, reply = .error failure →
        failure.isConflictError = false) serves
        (outline.open market params order lockTxn) ?_).imp (fun _ _ holds => holds) ?_
      · rintro s reply s' made failure rfl
        exact not_conflict made.updateOrder_failure
      · rintro (failure | taker) s _ ⟨holds, answer⟩
        · exact .inr ⟨holds, answer failure rfl⟩
        · exact holds
    · exact fun _ _ _ holds => .inl holds
  · exact fun _ _ _ holds => holds
  · intro failure
    split
    · rename_i insufficient
      have conflict : failure.isConflictError = true := (Bool.and_eq_true_iff.mp insufficient).1
      have rejected (thrown : Failure) : P.Triple pid (outline.placed market params order)
          (do
            let _ ← ask (.updateOrder order.id { status := some .rejected })
            throw thrown)
          (ends (outline.opened market params) fun _ => outline.ended) := by
        apply Triple.bind (outline.reject market params order)
        · exact fun _ => Triple.throw fun _ _ holds => holds
        · exact fun _ _ _ holds => holds
      apply (rejected _).imp
      · rintro s _ (placed | ⟨-, other⟩)
        · exact placed
        · cases conflict.symm.trans other
      · exact fun _ _ _ holds => holds
    · apply Triple.throw
      rintro s inv (placed | ⟨ended, -⟩)
      · exact outline.placed_ended market params order s inv placed
      · exact ended

theorem Placement.executeOrder (outline : Placement P pid userId input) (serves : Serves P pid)
    (order : Order) :
    P.Triple pid (outline.placed market params order)
      (executeOrder order (computeLockRequirement input.toOrderBody params) market params)
      fun _ => outline.ended := by
  unfold Service.executeOrder
  apply Triple.bind (outline.lockAndOpen serves order)
  · intro taker
    apply Triple.bind (M := fun _ => outline.ended)
    · apply withMarketLock_triple (outline.acquire market params taker)
      · apply (outline.pass market params taker).matchAndSettle.imp (fun _ _ holds => holds)
        rintro (failure | fills) s inv holds
        · exact outline.aborted_closed market params taker s inv holds
        · exact outline.done_closed market params taker s inv holds
      · exact outline.release market.symbol
    · intro fills
      apply (Triple.query_keeps serves rfl outline.ended_stable).bind
      · exact fun _ => Triple.pure fun _ _ holds => holds
      · exact fun _ _ _ holds => holds
    · exact fun _ _ _ holds => holds
  · exact fun _ _ _ holds => holds

theorem Placement.placeOrder (outline : Placement P pid userId input) (serves : Serves P pid) :
    P.Triple pid outline.unused (placeOrder userId input) fun _ => outline.ended := by
  have stable := outline.unused_stable
  have stops (result : Except Failure (Order × List EngineFill)) :
      P.Triple pid outline.unused (.done result) fun _ => outline.ended :=
    Triple.done outline.unused_ended
  have threw : ∀ (_ : Failure) s, P.inv s → outline.unused s → outline.ended s :=
    fun _ => outline.unused_ended
  unfold Service.placeOrder
  refine (assertKycApproved_triple serves stable).ending ?_ threw
  intro _
  refine (resolveMarket_triple serves stable).ending ?_ threw
  rintro ⟨market, params⟩
  dsimp only
  split
  · exact Triple.throw fun s inv holds => outline.unused_ended s inv holds.1
  rename_i active
  have listed : P.Stable pid fun s => outline.unused s ∧ Listed s market params :=
    stable.and (Listed.stable serves)
  have dropped : ∀ (_ : Failure) s, P.inv s → outline.unused s ∧ Listed s market params →
      outline.ended s := fun _ s inv holds => outline.unused_ended s inv holds.1
  refine Triple.ending (M := fun _ s => (outline.unused s ∧ Listed s market params) ∧
    validateAgainstMarket input.toOrderBody market = .ok ())
    (T := fun _ s => outline.unused s ∧ Listed s market params) ?_ ?_ dropped
  · exact Triple.liftExcept (fun _ _ valid holds => ⟨holds, valid⟩) fun _ holds => holds
  intro _
  by_cases valid : validateAgainstMarket input.toOrderBody market = .ok ()
  swap
  · exact Triple.absurd fun _ _ holds => valid holds.2
  apply Triple.imp (A := fun s => outline.unused s ∧ Listed s market params) _
    (fun _ _ holds => holds.1) (fun _ _ _ holds => holds)
  refine (findDuplicate_triple serves listed).ending ?_ dropped
  intro duplicate
  cases duplicate with
  | some duplicate => exact Triple.pure fun s inv holds => outline.unused_ended s inv holds.1
  | none =>
    dsimp only
    apply Triple.bind (M := ends
      (fun created s => ends (outline.placed market params) (fun _ => outline.unused) created s)
      fun _ _ => False)
    · exact (outline.create market params (not_not.mp active) valid).settled
        fun _ _ _ holds => holds
    · intro created
      cases created with
      | ok order => exact outline.executeOrder serves order
      | error failure =>
        dsimp only
        split
        · refine (findDuplicate_triple serves stable).ending ?_ threw
          intro found
          cases found with
          | some found => exact stops _
          | none => exact stops _
        · exact stops _
    · exact fun _ _ _ never => never.elim

end Placement

/-- What holds along a cancellation of one order. -/
structure Cancellation (P : TradingProtocol) (pid : OrderId) (orderId : OrderId) where
  unused : Assertion
  targeted (order : Order) : Assertion
  entered (order : Order) : Assertion
  seen (order current : Order) : Assertion
  cancelled (order updated : Order) : Assertion
  closed (marketId : String) : Assertion
  ended : Assertion
  unused_ended : ∀ s, P.inv s → unused s → ended s
  targeted_ended : ∀ order s, P.inv s → targeted order s → ended s
  seen_closed : ∀ order current s, P.inv s → seen order current s → closed order.marketId s
  find : P.Triple pid unused (ask (.findOrderById orderId))
    (ends (fun found s => found.elim (ended s) fun order => targeted order s) fun _ => ended)
  acquire : ∀ order, P.Triple pid (targeted order) (ask (.acquire order.marketId))
    (ends (fun _ => entered order) fun _ => ended)
  read : ∀ order, P.Triple pid (entered order) (ask (.findOrderById orderId))
    (ends (fun found s => found.elim (closed order.marketId s) fun current =>
      seen order current s) fun _ => closed order.marketId)
  cancel : ∀ order current, current.status ∈ [OrderStatus.pending, .open, .partiallyFilled] →
    P.Triple pid (seen order current)
      (ask (.updateOrder orderId { status := some .cancelled }))
      (ends (cancelled order) fun _ => closed order.marketId)
  surplus : ∀ order updated, P.Triple pid (cancelled order updated) (releaseSurplus updated)
    (ends (fun _ => closed order.marketId) fun _ => closed order.marketId)
  release : ∀ marketId, P.Triple pid (closed marketId) (ask (.release marketId)) fun _ => ended

theorem Cancellation.cancelSection (outline : Cancellation P pid orderId) (order : Order) :
    P.Triple pid (outline.entered order) (cancelSection orderId)
      fun _ => outline.closed order.marketId := by
  unfold Service.cancelSection
  apply (outline.read order).bind
  · intro found
    cases found with
    | none => exact Triple.throw fun _ _ holds => holds
    | some current =>
      dsimp only
      split
      · rename_i live
        apply (outline.cancel order current live).bind
        · intro updated
          apply (outline.surplus order updated).bind
          · exact fun _ => Triple.pure fun _ _ holds => holds
          · exact fun _ _ _ holds => holds
        · exact fun _ _ _ holds => holds
      · exact Triple.throw (outline.seen_closed order current)
  · exact fun _ _ _ holds => holds

theorem Cancellation.cancelOrder (outline : Cancellation P pid orderId) (userId : UserId) :
    P.Triple pid outline.unused (cancelOrder userId orderId) fun _ => outline.ended := by
  unfold Service.cancelOrder
  apply outline.find.bind
  · intro found
    cases found with
    | none => exact Triple.throw fun _ _ holds => holds
    | some order =>
      dsimp only
      split
      · exact Triple.throw (outline.targeted_ended order)
      · exact withMarketLock_triple (outline.acquire order) (outline.cancelSection order)
          (outline.release order.marketId)
  · exact fun _ _ _ holds => holds

/-- Outlines of both requests are triples of every program of the service. -/
theorem isRequest_triple {unused ended : Assertion} (serves : Serves P pid)
    (place : ∀ userId input, ∃ outline : Placement P pid userId input,
      outline.unused = unused ∧ outline.ended = ended)
    (cancel : ∀ orderId, ∃ outline : Cancellation P pid orderId,
      outline.unused = unused ∧ outline.ended = ended)
    (program : TradingM Unit) (request : IsRequest pid program) :
    P.Triple pid unused program fun _ => ended := by
  obtain ⟨request, rfl⟩ := request
  cases request with
  | placeOrder userId input =>
    obtain ⟨outline, rfl, rfl⟩ := place userId input
    apply (outline.placeOrder serves).bind
    · exact fun _ => Triple.pure fun _ _ holds => holds
    · exact fun _ _ _ holds => holds
  | cancelOrder userId orderId =>
    obtain ⟨outline, rfl, rfl⟩ := cancel orderId
    apply (outline.cancelOrder userId).bind
    · exact fun _ => Triple.pure fun _ _ holds => holds
    · exact fun _ _ _ holds => holds

/-! ## Runs -/

/-- Every interleaving that respects the market locks. -/
def interleaved : TradingProtocol where
  step := Makes
  inv _ := True
  rely _ _ _ := True
  guarantee _ _ _ := True

/-- Nothing has been traded: no orders, no trades, no settlements, no section
under way. -/
structure Untraded (s : Store) : Prop where
  orders : s.orders = ∅
  trades : s.trades = ∅
  settlements : ∀ txn ∈ s.ledger.transactions, txn.referenceType ≠ some "trade"
  locks : ∀ marketId, s.locks marketId = none

def deposit (userId : UserId) (asset : String) (amount : Decimal) :
    LedgerPostingInput Reference where
  kind := "DEPOSIT"
  lines := [⟨none, .manualBankClearing, asset, .debit, amount⟩,
    ⟨some userId, .userAvailable, asset, .credit, amount⟩]

/-- The seeded market; user 1 has deposited 10 USDT, user 2 1000 INR. -/
def smallExchange : Store where
  users _ := some ⟨.active, .approved, 1⟩
  markets symbol := if symbol = "USDT-INR" then some usdtInr else none
  marketsKeyed symbol market found := by
    split at found
    · rename_i isSymbol
      cases found
      exact isSymbol.symm
    · cases found
  assets := [("USDT", 6), ("INR", 2)]
  orders := ∅
  trades := ∅
  ledger := (Ledger.post (deposit 2 "INR" 1000) (Ledger.post (deposit 1 "USDT" 10) ∅).2).2
  locks _ := none

theorem smallExchange_untraded : Untraded smallExchange where
  orders := rfl
  trades := rfl
  settlements := by decide +kernel
  locks _ := rfl

private theorem one_valid (side : OrderSide) :
    createOrderSchema ⟨"USDT-INR", side, .limit, some 90, some 1, none, none⟩ := by
  cases side <;> decide +kernel

def sellOne : CreateOrderDto :=
  ⟨⟨"USDT-INR", .sell, .limit, some 90, some 1, none, none⟩, one_valid .sell⟩

def buyOne : CreateOrderDto :=
  ⟨⟨"USDT-INR", .buy, .limit, some 90, some 1, none, none⟩, one_valid .buy⟩

abbrev TradingPool := Pool OrderId TradingCall TradingCall.Reply Failure Unit Store

/-- A request arrives, or one makes up to a number of its calls. -/
inductive Event where
  | arrive (pid : OrderId) (request : Request)
  | calls (pid : OrderId) (n : ℕ)

def Event.move : Event → Pool.Move OrderId TradingCall TradingCall.Reply Failure Unit
  | .arrive pid request => .arrive pid request.program
  | .calls pid n => .calls pid n

/-- A schedule in which only certain calls may be made, with certain replies. -/
def schedule (allows : OrderId → (call : TradingCall) → Store → Except Failure call.Reply → Bool)
    (events : List Event) : TradingPool → Option TradingPool :=
  Pool.play
    (fun pid call s => (perform pid 0 call s).filter fun (reply, _) => allows pid call s reply)
    (events.map Event.move)

theorem schedule_steps
    {allows : OrderId → (call : TradingCall) → Store → Except Failure call.Reply → Bool}
    {pool pool' : TradingPool}
    (sound : ∀ pid call s reply s', allows pid call s reply → Makes pid call s reply s' →
      P.step pid call s reply s') (played : schedule allows events pool = some pool') :
    Relation.ReflTransGen (Pool.Step P IsRequest) pool pool' := by
  refine Pool.play_steps ?_ ?_ played
  · intro pid call s reply s' made
    obtain ⟨performed, allowed⟩ := Option.filter_eq_some_iff.mp made
    exact sound pid call s reply s' allowed (.inl ⟨0, performed⟩)
  · intro pid program member
    obtain ⟨event, -, same⟩ := List.mem_map.mp member
    cases event with
    | arrive _ request =>
      cases same
      exact ⟨request, rfl⟩
    | calls => cases same

/-- Requests run one after another. Some calls throw, and only some are allowed. -/
def runAll (throws : OrderId → ℕ → Bool)
    (allows : (call : TradingCall) → Store → Except Failure call.Reply → Bool) :
    List (OrderId × Request) → Store → Option Store
  | [], s => some s
  | (pid, request) :: rest, s =>
    (Async.execute (fun n call s =>
      (if throws pid n && !call.isLocal then some (.error (.error "connection lost"), s)
        else perform pid 0 call s).filter fun (reply, _) => allows call s reply) 0 request.program s).bind
      fun (_, s') => runAll throws allows rest s'

theorem runAll_sequential {throws : OrderId → ℕ → Bool}
    {allows : (call : TradingCall) → Store → Except Failure call.Reply → Bool}
    {step : OrderId → (call : TradingCall) → Store → Except Failure call.Reply → Store → Prop}
    {Initial : Store → Prop} {requests : List (OrderId × Request)} {used : List OrderId}
    (sound : ∀ pid call s reply s', allows call s reply → Makes pid call s reply s' → step pid call s reply s')
    (distinct : (requests.map Prod.fst ++ used).Nodup) (before : Sequential step IsRequest Initial used s)
    (ran : runAll throws allows requests s = some s') :
    Sequential step IsRequest Initial ((requests.map Prod.fst).reverse ++ used) s' := by
  induction requests generalizing s used with
  | nil =>
    cases ran
    exact before
  | cons next rest ih =>
    obtain ⟨pid, request⟩ := next
    simp only [runAll, Option.bind_eq_some_iff] at ran
    obtain ⟨⟨result, s₁⟩, executed, later⟩ := ran
    obtain ⟨new, others⟩ := List.nodup_cons.mp distinct
    have unused : pid ∉ used := fun isUsed => new (List.mem_append_right _ isUsed)
    have longer : (rest.map Prod.fst ++ pid :: used).Nodup := List.nodup_middle.mpr distinct
    rw [List.map_cons, List.reverse_cons, List.append_assoc, List.singleton_append]
    refine ih longer (before.request unused ⟨request, rfl⟩
      (Async.exec_of_execute (fun n call s reply s' made => ?_) executed)) later
    obtain ⟨performed, allowed⟩ := Option.filter_eq_some_iff.mp made
    refine sound pid call s reply s' allowed ?_
    split at performed
    · rename_i thrown
      cases performed
      exact .inr ⟨by simpa using (Bool.and_eq_true_iff.mp thrown).2, ⟨_, rfl, rfl⟩, rfl⟩
    · exact .inl ⟨0, performed⟩

end Exchange.Trading.Service
