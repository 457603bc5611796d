import Exchange.TradingLockAccounting

/-! An order's way from its row to its lock, through its matching pass, and to
the release of what is left, when no other request interferes. At each call the
orders stand, but for those that the request is busy with. -/
namespace Exchange.Trading.LockAccounting
open SignificantDigits Ledger Service Protocol
open FillConservation (paramsAt paramsAt_listed FailsEarly Agrees)

/-- The body of the request that creates this row. -/
def bodyOf (data : NewOrder) : OrderBody :=
  ⟨data.marketId, data.side, data.type, data.price, data.quantity, data.quoteBudget, data.clientOrderId⟩

/-- The order's row records the posting of its lock. -/
def recordsLock (s : Store) (id : OrderId) : Bool := (s.orders.lookup id).any fun row => row.lockTxnId.isSome

/-- Twenty digits hold an order that is created. The write that records a lock
does not fail. A release fails if and only if the order has recorded no lock. -/
def Careful (call : TradingCall) (s : Store) (reply : Except Failure call.Reply) : Prop :=
  match call, reply with
  | .createOrder data, _ => DigitsFit (paramsAt s data.marketId) (bodyOf data)
  | .updateOrder _ data, .error _ => data.lockTxn = none
  | .post input, reply => ∀ id, input.referenceType = some "order_unlock" →
      input.referenceId = some (.order id) → (reply.isOk ↔ recordsLock s id)
  | _, _ => True

/-- Executions without interference. -/
def protocol : TradingProtocol where
  step pid call s reply s' := Makes pid call s reply s' ∧ Careful call s reply ∧ FailsEarly pid call s reply
  inv _ := True
  rely _ s s' := s' = s
  guarantee _ _ _ := True

variable {s s' : Store} {pid id : OrderId} {order row taker maker : Order} {params : MarketParams} {market : Market}
  {input : CreateOrderDto} {fills done todo : List EngineFill} {fill : EngineFill} {busy : List OrderId}
  {asset : String} {txn : LedgerTransaction Reference} {ledger : Ledger.Store Reference} {amount : Decimal}
  {A F : Assertion} {loaded rows : List Order} {userId : UserId}

theorem alone : protocol.Stable pid A := inTurn_stable

theorem serves : Serves protocol pid where
  makes _ _ _ _ step := step.1
  idle _ _ := trivial
  catalog s s' rely := by
    obtain rfl : s' = s := rely
    exact ⟨rfl, rfl⟩

/-- A call that runs alone. -/
theorem call_triple {call : TradingCall} {post : Except Failure call.Reply → Store → Prop}
    (effect : ∀ s reply s', A s → Makes pid call s reply s' → Careful call s reply → FailsEarly pid call s reply →
      post reply s') : protocol.Triple pid A (ask call) post :=
  Triple.call_inTurn fun s reply s' holds step => effect s reply s' holds step.1 step.2.1 step.2.2

/-! ## The request's own order -/

/-- The row of the request's order, as it was placed. -/
structure Own (pid : OrderId) (market : Market) (params : MarketParams) (input : CreateOrderDto) (order : Order)
    (s : Store) : Prop where
  isPid : order.id = pid
  found : s.orders.lookup pid = some order
  here : order.marketId = market.symbol
  listed : Listed s market params
  placed : Placed params input order
  filled : order.filledQuantity = 0
  unspent : order.quoteSpent = 0

theorem Own.addedUp (own : Own pid market params input order s) : AddedUp input [] order := by
  refine ⟨fun _ => own.filled, ?_⟩
  unfold Service.spent
  split
  · exact own.unspent
  · exact own.filled

theorem Own.params_eq (own : Own pid market params input order s) : paramsAt s order.marketId = params := by
  rw [own.here, paramsAt_listed own.listed]

theorem Own.frame (own : Own pid market params input order s) (found : s'.orders.lookup pid = s.orders.lookup pid)
    (markets : s'.markets = s.markets) (assets : s'.assets = s.assets) : Own pid market params input order s' :=
  ⟨own.isPid, found.trans own.found, own.here, ⟨markets ▸ own.listed.found, by
    rw [own.listed.precision, assetDecimals, assetDecimals, assets]⟩, own.placed, own.filled, own.unspent⟩

theorem Placed.patched (placed : Placed params input order) (data : OrderPatch) :
    Placed params input (patched data order) := placed.progress ..

/-- The order is stored and not locked. -/
structure Placing (pid : OrderId) (market : Market) (params : MarketParams) (input : CreateOrderDto) (order : Order)
    (s : Store) : Prop where
  orderly : Orderly [] s
  own : Own pid market params input order s
  pending : order.status = .pending
  unset : order.lockTxnId = none

/-- The order is open, and nothing is filled. -/
structure Opened (pid : OrderId) (market : Market) (params : MarketParams) (input : CreateOrderDto) (taker : Order)
    (s : Store) : Prop where
  orderly : Orderly [pid] s
  own : Own pid market params input taker s
  set : taker.lockTxnId.isSome
  rests : taker.status.isResting
  holding : Holding s pid params input []

/-- An order that has received nothing and holds its lock stands. -/
theorem Own.stands (own : Own pid market params input taker s) (set : taker.lockTxnId.isSome)
    (rests : taker.status.isResting) (holding : Holding s pid params input []) (orderly : Orderly [pid] s) :
    Orderly [] s := by
  refine orderly.finish fun order found => ?_
  cases own.found.symm.trans found
  exact .backed rests set (own.params_eq ▸ own.placed) (own.params_eq ▸ holding) own.addedUp

theorem Opened.stands (opened : Opened pid market params input taker s) : Orderly [] s :=
  opened.own.stands opened.set opened.rests opened.holding opened.orderly

/-- Before its lock is posted, nothing is posted for an order. -/
theorem Placing.never (placing : Placing pid market params input order s) : postings s pid = .none := by
  cases placing.orderly.standing pid List.not_mem_nil order placing.own.found with
  | unlocked never => exact never
  | backed rests =>
    rw [placing.pending] at rests
    cases rests
  | closed final =>
    rw [placing.pending] at final
    cases final

/-- A posting that is found is one of the order's. -/
theorem found_refers {kind : String} (nonempty : kind ≠ "")
    (found : findExistingPosting s.ledger (some kind) (some (.order id)) = some txn) :
    txn ∈ s.ledger.transactions.filter (refersTo kind id) := by
  simp only [findExistingPosting, reduceCtorEq, Option.some.injEq, nonempty, or_self, if_false] at found
  refine List.mem_filter.mpr ⟨List.mem_of_find?_eq_some found, ?_⟩
  simpa [refersTo] using List.find?_some found

theorem create_triple : protocol.Triple pid
    (fun s => (Orderly [] s ∧ s.orders.lookup pid = none) ∧ Listed s market params)
    (ask (.createOrder (newOrder userId market input.toOrderBody (computeLockRequirement input.toOrderBody params))))
    (ends (Placing pid market params input) fun _ s => Orderly [] s ∧ s.orders.lookup pid = none) := by
  refine call_triple fun s reply s' => ?_
  rintro ⟨⟨orderly, missing⟩, listed⟩ made fits -
  rcases made.createOrder with ⟨now, rfl, -, -, rfl⟩ | ⟨⟨failure, rfl⟩, rfl⟩
  · have fit : DigitsFit (paramsAt s market.symbol) _ := fits
    rw [paramsAt_listed listed] at fit
    have placed := placed_newRow market ⟨fit.base, fit.quote, fit.lock, fit.quantity⟩ pid now userId
    refine ⟨((orderly.begin pid).insert List.mem_cons_self (orderly.booked.create missing rfl)).finish
      fun order found => ?_, ⟨rfl, AList.lookup_insert _, rfl, ⟨listed.found, listed.precision⟩, placed, rfl, rfl⟩,
      rfl, rfl⟩
    cases (AList.lookup_insert _).symm.trans found
    exact .unlocked (orderly.booked.absent pid missing) rfl rfl
  · exact ⟨orderly, missing⟩

theorem lock_triple : protocol.Triple pid (Placing pid market params input order)
    (ask (.post (orderLock order (computeLockRequirement input.toOrderBody params))))
    (ends (fun _ s => Orderly [pid] s ∧ Own pid market params input order s ∧ Holding s pid params input [])
      fun _ => Placing pid market params input order) := by
  refine call_triple fun s reply s' placing made _ _ => ?_
  obtain rfl := placing.own.isPid
  rcases made.post with ⟨⟨failure, rfl⟩, rfl⟩ | ⟨txn, rfl, rfl, posted⟩ | ⟨txn, ledger, rfl, recorded, -, rfl⟩
  · exact placing
  · have member : txn ∈ (postings s' order.id).locks := found_refers (by decide) posted
    rw [placing.never] at member
    cases member
  · refine ⟨(placing.orderly.begin order.id).lock List.mem_cons_self recorded placing.own.found rfl ?_,
      placing.own.frame rfl rfl rfl, holding_lock placing.own.placed.fit placing.never recorded⟩
    rw [placing.own.placed.lockedAsset, lock_asset]

theorem open_triple : protocol.Triple pid
    (fun s => Orderly [pid] s ∧ Own pid market params input order s ∧ Holding s pid params input [])
    (ask (.updateOrder order.id { status := some .open, lockTxn := some txn.id }))
    (ends (Opened pid market params input) fun _ => Orderly []) := by
  refine call_triple fun s reply s' => ?_
  rintro ⟨orderly, own, holding⟩ made careful -
  obtain rfl := own.isPid
  rcases made.updateOrder with ⟨row, found, rfl, -, rfl⟩ | ⟨⟨failure, rfl⟩, rfl⟩
  · cases own.found.symm.trans found
    exact ⟨orderly.update List.mem_cons_self found _, ⟨rfl, AList.lookup_insert _, own.here,
      ⟨own.listed.found, own.listed.precision⟩, own.placed.patched _, own.filled, own.unspent⟩, rfl, rfl,
      holding.congr rfl⟩
  · cases careful

theorem reject_triple : protocol.Triple pid (Placing pid market params input order)
    (ask (.updateOrder order.id { status := some .rejected })) fun _ => Orderly [] := by
  refine call_triple fun s reply s' placing made _ _ => ?_
  obtain rfl := placing.own.isPid
  rcases made.updateOrder with ⟨row, found, rfl, -, rfl⟩ | ⟨⟨failure, rfl⟩, rfl⟩
  · cases placing.own.found.symm.trans found
    refine ((placing.orderly.begin order.id).update List.mem_cons_self found _).finish fun row isRow => ?_
    cases (AList.lookup_insert _).symm.trans isRow
    exact .unlocked placing.never placing.unset rfl
  · exact placing.orderly

/-! ## Releasing what is left -/

/-- The order is final in its row, and nothing of its lock is released. -/
structure Freed (params : MarketParams) (input : CreateOrderDto) (fills : List EngineFill) (order : Order)
    (s : Store) : Prop where
  row : ∃ row, s.orders.lookup order.id = some row ∧ row.userId = order.userId ∧ row.lockedAsset = order.lockedAsset ∧
    row.lockTxnId.isSome ∧ isFinal row.status
  placed : Placed params input order
  holding : Holding s order.id params input fills
  addedUp : AddedUp input fills order

/-- What is left of the lock is nothing. -/
theorem Freed.closed (freed : Freed params input fills order s) (orderly : Orderly (order.id :: busy) s)
    (nothing : ∀ asset amount, order.lockedAsset = some asset → order.lockedAmount = some amount →
      amount.sub (spent order) ≤ 0) : Orderly busy s := by
  refine orderly.finish fun row found => ?_
  obtain ⟨row', found', -, lockedAsset, -, final⟩ := freed.row
  cases found.symm.trans found'
  refine .closed final fun asset isLocked => ?_
  rw [lockedAsset, freed.placed.lockedAsset] at isLocked
  cases isLocked
  have empty := nothing _ _ freed.placed.lockedAsset freed.placed.lockedAmount
  rw [freed.addedUp.surplus freed.placed freed.holding.received] at empty
  have covered := freed.holding.received.covered freed.placed.fit
  rw [freed.holding.settled, freed.holding.locked, Postings.unlocked, freed.holding.unlocks]
  simp only [List.map_nil, List.sum_nil, add_zero]
  linarith

/-- What is left of the lock is released. -/
theorem Freed.released (freed : Freed params input fills order s) (orderly : Orderly (order.id :: busy) s)
    (recorded : Recorded s.ledger (orderUnlock order (lockAsset input.side)
      ((computeLockRequirement input.toOrderBody params).amount.sub (spent order))) txn ledger) :
    Orderly busy { s with ledger } := by
  obtain ⟨row, found, user, lockedAsset, -, final⟩ := freed.row
  have kept := orderly.unlock List.mem_cons_self recorded found user (lockedAsset.trans freed.placed.lockedAsset)
    freed.holding.locks
  refine kept.finish fun row' found' => ?_
  cases found.symm.trans found'
  refine .closed final fun asset isLocked => ?_
  rw [lockedAsset, freed.placed.lockedAsset] at isLocked
  cases isLocked
  have received := freed.holding.received
  have executed : ∀ fill ∈ fills, Executed params fill := fun _ => received.executed
  have grid : OnGrid (lockScale input.side params) ((computeLockRequirement input.toOrderBody params).amount -
      (fills.map (debit input.side)).sum) :=
    (freed.placed.fit.lock_spec input).2.1.sub (OnGrid.sum fun _ member => (executed_debits _ executed member).1)
  have storable : OnGrid Numeric.scale ((computeLockRequirement input.toOrderBody params).amount -
      (fills.map (debit input.side)).sum) := grid.mono (by exact_mod_cast freed.placed.fit.lockScale_le input.side)
  have posted := postings_unlock recorded order.id
  rw [if_pos rfl] at posted
  have settled := freed.holding.settled input.side
  have locked := freed.holding.locked
  have last := lockedDebit_unlock recorded (lockAsset input.side)
  rw [if_pos rfl, freed.addedUp.surplus freed.placed received, Numeric.rounded_of_onGrid storable] at last
  simp only [Postings.settled, Postings.locked, Postings.unlocked] at settled locked ⊢
  simp only [posted, freed.holding.unlocks, List.nil_append, List.map_singleton, List.sum_singleton, last, settled,
    locked]
  ring

/-- A release under any frame that release postings keep. -/
theorem release_triple (order : Order) (busy : List OrderId) (frame : ∀ s asset amount txn ledger, F s →
      Recorded s.ledger (orderUnlock order asset amount) txn ledger → F { s with ledger }) :
    protocol.Triple pid
      (fun s => Orderly (order.id :: busy) s ∧ (∃ params input fills, Freed params input fills order s) ∧ F s)
      (releaseSurplus order) (ends (fun _ s => Orderly busy s ∧ F s) fun _ _ => False) := by
  apply releaseSurplus_triple
  · rintro s - ⟨orderly, ⟨params, input, fills, freed⟩, framed⟩ nothing
    exact ⟨freed.closed orderly nothing, framed⟩
  intro asset amount isAsset isAmount surplus
  refine call_triple fun s reply s' => ?_
  rintro ⟨orderly, ⟨params, input, fills, freed⟩, framed⟩ made careful -
  cases isAsset.symm.trans freed.placed.lockedAsset
  cases isAmount.symm.trans freed.placed.lockedAmount
  obtain ⟨row, found, -, -, set, -⟩ := freed.row
  have isOk : reply.isOk := (careful order.id rfl rfl).mpr (by simpa [recordsLock, found] using set)
  rcases made.post with ⟨⟨failure, rfl⟩, rfl⟩ | ⟨txn, rfl, rfl, posted⟩ | ⟨txn, ledger, rfl, recorded, -, rfl⟩
  · cases isOk
  · have member : txn ∈ (postings s' order.id).unlocks := found_refers (by decide) posted
    rw [freed.holding.unlocks] at member
    cases member
  · exact ⟨freed.released orderly recorded, frame s _ _ txn ledger framed recorded⟩

/-- A release with which the request is done. -/
theorem release_free (order : Order) : protocol.Triple pid
    (fun s => Orderly [order.id] s ∧ (∃ params input fills, Freed params input fills order s) ∧ True)
    (releaseSurplus order) (ends (fun _ => Orderly []) fun _ => Orderly []) := by
  apply (release_triple order [] (F := fun _ => True) fun _ _ _ _ _ _ _ => trivial).imp fun _ _ holds => holds
  rintro (failure | value) s - holds
  · exact holds.elim
  · exact holds.1

/-! ## A matching pass -/

/-- How far the loop has got with the fills of the rows it loaded. The rows in
hand are those of the database, as far as the fills ahead go. -/
structure Loop (pid : OrderId) (market : Market) (params : MarketParams) (input : CreateOrderDto) (taker : Order)
    (loaded rows : List Order) (done todo : List EngineFill) (s : Store) : Prop where
  own : Own pid market params input taker s
  set : taker.lockTxnId.isSome
  rests : taker.status.isResting
  held : s.locks market.symbol = some pid
  holding : Holding s pid params input done
  split : (matched taker params loaded).fills = done ++ todo
  ids : (loaded.map Order.id).Nodup
  distinct : (pid :: todo.map EngineFill.makerOrderId).Nodup
  present : ∀ fill ∈ todo, ∃ order ∈ rows, order.id = fill.makerOrderId
  current : ∀ fill ∈ todo, ∀ order ∈ rows, order.id = fill.makerOrderId → order ∈ loaded ∧
    s.orders.lookup order.id = some order ∧ isResting market.symbol taker.side taker.userId order
  fresh : ∀ fill ∈ todo, Fresh s (pid, fill.makerOrderId)

/-- The maker's lock pays for one more fill, which its row does not say. -/
structure Charged (params : MarketParams) (maker : Order) (fill : EngineFill) (s : Store) : Prop where
  found : s.orders.lookup maker.id = some maker
  here : paramsAt s maker.marketId = params
  set : maker.lockTxnId.isSome
  charge : ∃ input fills, Placed params input maker ∧ Holding s maker.id params input (fills ++ [fill]) ∧
    AddedUp input fills maker ∧ input.toOrderBody.taker.isBudgetDriven = false

/-- The maker's row says so too. -/
structure Written (params : MarketParams) (maker : Order) (fill : EngineFill) (s : Store) : Prop where
  found : s.orders.lookup maker.id = some (patched (makerPatch maker fill) maker)
  here : paramsAt s maker.marketId = params
  set : maker.lockTxnId.isSome
  charge : ∃ input fills, Placed params input maker ∧ Holding s maker.id params input (fills ++ [fill]) ∧
    AddedUp input (fills ++ [fill]) (advanced maker fill)

theorem Opened.load (opened : Opened pid market params input taker s) (held : s.locks market.symbol = some pid)
    (isLoaded : loaded = loadRestingBook s market.symbol taker.side taker.userId bookScanLimit) :
    Loop pid market params input taker loaded loaded [] (matched taker params loaded).fills s := by
  have keyed := opened.orderly.booked.keyed
  have loadedRow : ∀ order ∈ loaded, s.orders.lookup order.id = some order ∧
      isResting market.symbol taker.side taker.userId order := by
    intro order member
    obtain ⟨⟨id, found⟩, rests⟩ := mem_loadRestingBook (isLoaded ▸ member)
    exact ⟨(keyed id order found).symm ▸ found, rests⟩
  have ids : (loaded.map Order.id).Nodup := isLoaded ▸ loadRestingBook_ids_nodup keyed
  have makers := fills_makers_sublist (takerInput taker) loaded params
  have untaken : ∀ maker, Fresh s (pid, maker) := by
    intro maker txn member trade reference
    have none : (postings s pid).settlements = [] := List.length_eq_zero_iff.mp opened.holding.each
    have settled : txn ∈ (postings s pid).settlements :=
      List.mem_filter.mpr ⟨member, by simp [settles, trade, reference]⟩
    rw [none] at settled
    cases settled
  refine ⟨opened.own, opened.set, opened.rests, held, opened.holding, rfl, ids,
    List.nodup_cons.mpr ⟨fun member => ?_, ids.sublist makers⟩, fun fill member => ?_, fun fill _ order inRows _ =>
      ⟨inRows, loadedRow order inRows⟩, fun fill _ => untaken _⟩
  · obtain ⟨order, onBook, isPid⟩ := List.mem_map.mp (makers.subset member)
    obtain ⟨found, rests⟩ := loadedRow order onBook
    rw [isPid, opened.own.found] at found
    cases found
    simp [isResting] at rests
  · obtain ⟨-, row, isLoaded, isFrom⟩ := matched_fill member
    exact ⟨row, isLoaded, isFrom.id⟩

/-- A call of the pass that fails has settled nothing before. -/
theorem Loop.early (loop : Loop pid market params input taker loaded rows done todo s)
    (early : (∃ marketId, s.locks marketId = some pid) → Agrees s pid) : done = [] := by
  have agrees := early ⟨market.symbol, loop.held⟩ taker loop.own.found
  have settled : settledQuantity s pid = (done.map EngineFill.quantity).sum := loop.holding.settled .sell
  rw [loop.own.filled, settled] at agrees
  have executed : ∀ fill ∈ done, Executed params fill := fun _ => loop.holding.received.executed
  cases done with
  | nil => rfl
  | cons fill later =>
    have first := (executed fill List.mem_cons_self).quantity_pos
    have rest : 0 ≤ (later.map EngineFill.quantity).sum := List.sum_nonneg fun _ member =>
      (executed_quantities (fun fill isLater => executed fill (List.mem_cons_of_mem _ isLater)) member).2
    rw [List.map_cons, List.sum_cons] at agrees
    linarith

theorem Loop.aborted (loop : Loop pid market params input taker loaded rows done todo s) (orderly : Orderly [pid] s)
    (early : (∃ marketId, s.locks marketId = some pid) → Agrees s pid) : Orderly [] s := by
  obtain rfl := loop.early early
  exact loop.own.stands loop.set loop.rests loop.holding orderly

/-- The fill ahead is the maker's whose row the loop has found. -/
theorem Loop.source (loop : Loop pid market params input taker loaded rows done (fill :: todo) s)
    (inRows : maker ∈ rows) (isMaker : maker.id = fill.makerOrderId) : Executed params fill ∧
      FillFrom taker maker fill ∧ fill.quantity ≤ (restingOrder maker).remaining := by
  have member : fill ∈ (matched taker params loaded).fills :=
    loop.split ▸ List.mem_append_right done List.mem_cons_self
  obtain ⟨isLoaded, -, -⟩ := loop.current fill List.mem_cons_self maker inRows isMaker
  obtain ⟨executed, source, fromLoaded, isFrom⟩ := matched_fill member
  obtain ⟨row, rowLoaded, isRow, available⟩ := matched_available member
  obtain rfl : source = maker := List.inj_on_of_nodup_map loop.ids fromLoaded isLoaded (isFrom.id.trans isMaker.symm)
  obtain rfl : row = source := List.inj_on_of_nodup_map loop.ids rowLoaded isLoaded (isRow.trans isMaker.symm)
  exact ⟨executed, isFrom, available⟩

/-- The maker of the fill ahead can pay for it. -/
theorem Loop.maker_backed (loop : Loop pid market params input taker loaded rows done (fill :: todo) s)
    (orderly : Orderly [pid] s) (inRows : maker ∈ rows) (isMaker : maker.id = fill.makerOrderId) :
    maker.lockTxnId.isSome ∧ paramsAt s maker.marketId = params ∧ ∃ input fills, Placed params input maker ∧
      Holding s maker.id params input fills ∧ AddedUp input fills maker ∧
      input.toOrderBody.taker.isBudgetDriven = false ∧ Received params input.toOrderBody (fills ++ [fill]) := by
  obtain ⟨executed, isFrom, available⟩ := loop.source inRows isMaker
  obtain ⟨-, found, rests⟩ := loop.current fill List.mem_cons_self maker inRows isMaker
  simp only [isResting, Bool.and_eq_true, decide_eq_true_eq] at rests
  have other : maker.id ∉ [pid] := by
    have different := (List.nodup_cons.mp loop.distinct).1
    simp only [List.map_cons, List.mem_cons, not_or] at different
    simpa [isMaker] using Ne.symm different.1
  have here : paramsAt s maker.marketId = params := by rw [rests.1.1.1, paramsAt_listed loop.own.listed]
  cases orderly.standing maker.id other maker found with
  | unlocked never unset rests' => cases rests'.symm.trans rests.1.2
  | closed final => cases (final_not_resting final).symm.trans rests.1.2
  | @backed input fills _ set placed holding addedUp =>
    rw [here] at placed holding
    have byQuantity := quantity_driven input (placed.quantity ▸ isFrom.quantity)
    refine ⟨set, here, input, fills, placed, holding, addedUp, byQuantity,
      holding.received.concat byQuantity executed (fun limit isLimit => ?_)
        (addedUp.room placed holding.received byQuantity executed.quantity_pos available)⟩
    -- a fill executes at its maker's price
    have isPrice : maker.price = some limit := by
      rw [placed.price]
      unfold TakerInput.limit OrderBody.taker at isLimit
      split at isLimit
      · cases isLimit
      · exact isLimit
    rw [isFrom.price, isPrice, Option.getD_some]
    cases input.side <;> simp [crosses]

theorem Loop.settled (loop : Loop pid market params input taker loaded rows done (fill :: todo) s)
    (orderly : Orderly [pid] s) (inRows : maker ∈ rows) (isMaker : maker.id = fill.makerOrderId)
    (recorded : Recorded s.ledger (settlement taker maker fill market params).input txn ledger) :
    Orderly [maker.id, pid] { s with ledger } ∧
      Loop pid market params input taker loaded rows (done ++ [fill]) todo { s with ledger } ∧
      Charged params maker fill { s with ledger } ∧ maker.id ∉ pid :: todo.map EngineFill.makerOrderId := by
  obtain ⟨set, here, minput, fills, placed, holding, addedUp, byQuantity, received⟩ :=
    loop.maker_backed orderly inRows isMaker
  obtain ⟨-, found, rests⟩ := loop.current fill List.mem_cons_self maker inRows isMaker
  simp only [isResting, Bool.and_eq_true, decide_eq_true_eq] at rests
  obtain ⟨ownNew, rest⟩ := List.nodup_cons.mp loop.distinct
  obtain ⟨makerNew, nodup⟩ := List.nodup_cons.mp rest
  simp only [List.map_cons, List.mem_cons, not_or] at ownNew
  have isPid := loop.own.isPid
  have own := loop.own.placed
  have differ : taker.id ≠ maker.id := by
    rw [isPid, isMaker]
    exact ownNew.1
  have opposed : Opposed taker maker :=
    ⟨differ, rests.1.1.2, own.side ▸ own.lockedAsset, placed.side ▸ placed.lockedAsset⟩
  have split : (matched taker params loaded).fills = (done ++ [fill]) ++ todo := by simpa using loop.split
  refine ⟨(orderly.begin maker.id).settle (by simp [isPid]) List.mem_cons_self opposed recorded
      (isPid ▸ loop.own.found) found,
    ⟨loop.own.frame rfl rfl rfl, loop.set, loop.rests, loop.held,
      loop.holding.settle (own.received split) own.fit.base own.fit.quote (.inl isPid) recorded, split, loop.ids,
      List.nodup_cons.mpr ⟨ownNew.2, nodup⟩, fun later member => loop.present later (List.mem_cons_of_mem _ member),
      fun later member => loop.current later (List.mem_cons_of_mem _ member), fun later member => ?_⟩,
    ⟨found, here, set, minput, fills, placed,
      holding.settle received own.fit.base own.fit.quote (.inr rfl) recorded, addedUp, byQuantity⟩, ?_⟩
  · have fresh := loop.fresh later (List.mem_cons_of_mem _ member)
    rw [← isPid] at fresh ⊢
    refine fresh.settled recorded fun same => makerNew ?_
    exact List.mem_map.mpr ⟨later, member, same.symm.trans isMaker⟩
  · rw [isMaker]
    simp only [List.mem_cons, not_or]
    exact ⟨Ne.symm ownNew.1, makerNew⟩

theorem settle_triple (found : (rows.find? fun order => order.id = fill.makerOrderId) = some maker) :
    protocol.Triple pid
      (fun s => ∃ done, Orderly [pid] s ∧ Loop pid market params input taker loaded rows done (fill :: todo) s)
      (ask (.post (settlement taker maker fill market params).input))
      (ends (fun _ s => ∃ done, Orderly [maker.id, pid] s ∧
          Loop pid market params input taker loaded rows (done ++ [fill]) todo s ∧ Charged params maker fill s ∧
          maker.id ∉ pid :: todo.map EngineFill.makerOrderId)
        fun _ => Orderly []) := by
  have inRows := List.mem_of_find?_eq_some found
  have isMaker : maker.id = fill.makerOrderId := by simpa using List.find?_some found
  apply Triple.exists
  intro done
  refine call_triple fun s reply s' => ?_
  rintro ⟨orderly, loop⟩ made - early
  have fresh := loop.fresh fill List.mem_cons_self
  rcases made.post with ⟨⟨failure, rfl⟩, rfl⟩ | ⟨txn, rfl, rfl, posted⟩ | ⟨txn, ledger, rfl, recorded, -, rfl⟩
  · exact loop.aborted orderly (early ⟨failure, rfl⟩)
  · rw [← isMaker, ← loop.own.isPid] at fresh
    cases fresh.notFound.symm.trans posted
  · exact ⟨done, loop.settled orderly inRows isMaker recorded⟩

theorem record_triple (trade : Trade) : protocol.Triple pid
      (fun s => ∃ done, Orderly [maker.id, pid] s ∧
        Loop pid market params input taker loaded rows (done ++ [fill]) todo s ∧ Charged params maker fill s ∧
        maker.id ∉ pid :: todo.map EngineFill.makerOrderId)
      (recordTrade trade)
      (ends (fun _ s => ∃ done, Orderly [maker.id, pid] s ∧
          Loop pid market params input taker loaded rows (done ++ [fill]) todo s ∧ Charged params maker fill s ∧
          maker.id ∉ pid :: todo.map EngineFill.makerOrderId)
        fun _ => Orderly []) := by
  apply recordTrade_triple (C := fun _ => False)
  · apply Triple.exists
    intro done
    refine call_triple fun s reply s' => ?_
    rintro ⟨orderly, loop, charged, new⟩ made - early
    rcases made.createTrade with ⟨row, rfl, rfl⟩ | ⟨⟨failure, rfl⟩, rfl⟩
    · obtain ⟨input, fills, placed, holding, addedUp, byQuantity⟩ := charged.charge
      exact ⟨done, orderly.trades _, ⟨loop.own.frame rfl rfl rfl,
        loop.set, loop.rests, loop.held, loop.holding.congr rfl, loop.split, loop.ids, loop.distinct, loop.present,
        loop.current, loop.fresh⟩, ⟨charged.found, charged.here, charged.set, input, fills, placed,
        holding.congr rfl, addedUp, byQuantity⟩, new⟩
    · cases List.append_ne_nil_of_right_ne_nil done (List.cons_ne_nil fill []) (loop.early (early ⟨failure, rfl⟩))
  · exact fun _ _ never => never.elim
  · exact Triple.absurd fun _ _ never => never

/-- The rows that the loop goes on with are those of the database. -/
theorem Loop.refresh (loop : Loop pid market params input taker loaded rows done todo s)
    (new : maker.id ∉ pid :: todo.map EngineFill.makerOrderId) : Loop pid market params input taker loaded
      (refreshed maker fill rows) done todo { s with orders := s.orders.insert maker.id row } := by
  simp only [List.mem_cons, not_or] at new
  have kept : ∀ id ≠ maker.id, (s.orders.insert maker.id row).lookup id = s.orders.lookup id :=
    fun id ne => AList.lookup_insert_ne ne
  refine ⟨loop.own.frame (kept pid (Ne.symm new.1)) rfl rfl, loop.set, loop.rests, loop.held,
    loop.holding.congr rfl, loop.split, loop.ids, loop.distinct, present_refreshed loop.present,
    fun later member order isRefreshed isLater => ?_, loop.fresh⟩
  have other : order.id ≠ maker.id := fun same =>
    new.2 (List.mem_map.mpr ⟨later, member, isLater.symm.trans same⟩)
  obtain ⟨isLoaded, found, rests⟩ := loop.current later member order (mem_refreshed isRefreshed other) isLater
  exact ⟨isLoaded, (kept order.id other).trans found, rests⟩

theorem advance_triple : protocol.Triple pid
      (fun s => ∃ done, Orderly [maker.id, pid] s ∧
        Loop pid market params input taker loaded rows (done ++ [fill]) todo s ∧ Charged params maker fill s ∧
        maker.id ∉ pid :: todo.map EngineFill.makerOrderId)
      (ask (.updateOrder maker.id (makerPatch maker fill)))
      (ends (fun _ s => ∃ done, Orderly [maker.id, pid] s ∧ Written params maker fill s ∧
          (Loop pid market params input taker loaded (refreshed maker fill rows) (done ++ [fill]) todo s ∧
            maker.id ≠ pid))
        fun _ => Orderly []) := by
  apply Triple.exists
  intro done
  refine call_triple fun s reply s' => ?_
  rintro ⟨orderly, loop, charged, new⟩ made - early
  rcases made.updateOrder with ⟨row, found, rfl, -, rfl⟩ | ⟨⟨failure, rfl⟩, rfl⟩
  · cases charged.found.symm.trans found
    obtain ⟨input, fills, placed, holding, addedUp, byQuantity⟩ := charged.charge
    exact ⟨done, orderly.update List.mem_cons_self found _, ⟨AList.lookup_insert _, charged.here, charged.set, input,
      fills, placed, holding.congr rfl, addedUp.advance placed holding.received byQuantity⟩, loop.refresh new,
      fun same => new (same ▸ List.mem_cons_self)⟩
  · cases List.append_ne_nil_of_right_ne_nil done (List.cons_ne_nil fill []) (loop.early (early ⟨failure, rfl⟩))

theorem Placed.advanced (placed : Placed params input maker) : Placed params input (advanced maker fill) :=
  placed.progress ..

/-- A maker that is not filled rests on. -/
theorem Written.stands (written : Written params maker fill s) (orderly : Orderly [maker.id, pid] s)
    (isOpen : isClosed (advanced maker fill) = false) : Orderly [pid] s := by
  obtain ⟨input, fills, placed, holding, addedUp⟩ := written.charge
  refine orderly.finish fun row found => ?_
  cases written.found.symm.trans found
  have here : paramsAt s (patched (makerPatch maker fill) maker).marketId = params := written.here
  refine .backed ?_ written.set (here ▸ placed.patched _) (here ▸ holding)
    (addedUp.stored placed.advanced holding.received rfl rfl rfl)
  simp [patched, makerPatch, isOpen, OrderStatus.isResting]

theorem Loop.unlocked (loop : Loop pid market params input taker loaded rows done todo s) (other : order.id ≠ pid)
    (recorded : Recorded s.ledger (orderUnlock order asset amount) txn ledger) :
    Loop pid market params input taker loaded rows done todo { s with ledger } := by
  have kept : postings { s with ledger } pid = postings s pid := by
    rw [postings_unlock recorded, if_neg (Ne.symm other)]
  exact ⟨loop.own.frame rfl rfl rfl, loop.set, loop.rests, loop.held, loop.holding.congr kept, loop.split, loop.ids,
    loop.distinct, loop.present, loop.current, fun fill member =>
      (loop.fresh fill member).ledger recorded (by simp [orderUnlock])⟩

/-- What is left of a filled maker's lock is released. -/
theorem release_maker (closed : isClosed (advanced maker fill)) : protocol.Triple pid
      (fun s => ∃ done, Orderly [maker.id, pid] s ∧ Written params maker fill s ∧
        (Loop pid market params input taker loaded rows (done ++ [fill]) todo s ∧ maker.id ≠ pid))
      (releaseSurplus (advanced maker fill))
      (ends (fun _ s => ∃ done, Orderly [pid] s ∧ Loop pid market params input taker loaded rows done todo s)
        fun _ => Orderly []) := by
  apply Triple.exists
  intro done
  have frame : ∀ s asset amount txn ledger,
      Loop pid market params input taker loaded rows (done ++ [fill]) todo s ∧ maker.id ≠ pid →
      Recorded s.ledger (orderUnlock (advanced maker fill) asset amount) txn ledger →
      Loop pid market params input taker loaded rows (done ++ [fill]) todo { s with ledger } ∧ maker.id ≠ pid := by
    rintro s asset amount txn ledger ⟨loop, other⟩ recorded
    exact ⟨loop.unlocked other recorded, other⟩
  apply (release_triple (advanced maker fill) [pid] frame).imp
  · rintro s - ⟨orderly, written, framed⟩
    obtain ⟨input, fills, placed, holding, addedUp⟩ := written.charge
    refine ⟨orderly, ⟨_, input, fills ++ [fill], ⟨_, written.found, rfl, rfl, written.set, ?_⟩, placed.advanced,
      holding, addedUp⟩, framed⟩
    simp [patched, makerPatch, closed, isFinal]
  · rintro (failure | value) s - holds
    · exact holds.elim
    · exact ⟨done ++ [fill], holds.1, holds.2.1⟩

/-- The taker's row after the pass. -/
structure Finalized (pid : OrderId) (market : Market) (params : MarketParams) (input : CreateOrderDto) (taker : Order)
    (loaded : List Order) (updated : Order) (s : Store) : Prop where
  orderly : Orderly [pid] s
  isPid : updated.id = pid
  found : s.orders.lookup pid = some updated
  here : paramsAt s updated.marketId = params
  set : updated.lockTxnId.isSome
  status : updated.status = takerStatus taker (matched taker params loaded).filledQuantity
  placed : Placed params input updated
  holding : Holding s pid params input (matched taker params loaded).fills
  addedUp : AddedUp input (matched taker params loaded).fills updated

theorem finalize_triple : protocol.Triple pid
      (fun s => ∃ done, Orderly [pid] s ∧ Loop pid market params input taker loaded rows done [] s)
      (ask (.updateOrder taker.id (takerPatch taker (matched taker params loaded))))
      (ends (Finalized pid market params input taker loaded) fun _ => Orderly []) := by
  apply Triple.exists
  intro done
  refine call_triple fun s reply s' => ?_
  rintro ⟨orderly, loop⟩ made - early
  obtain rfl := loop.own.isPid
  rcases made.updateOrder with ⟨row, found, rfl, -, rfl⟩ | ⟨⟨failure, rfl⟩, rfl⟩
  · cases loop.own.found.symm.trans found
    have placed := loop.own.placed
    have all : done = (matched taker params loaded).fills := by rw [loop.split, List.append_nil]
    have received := loop.holding.received
    rw [all] at received
    exact ⟨orderly.update List.mem_cons_self found _, rfl, AList.lookup_insert _, loop.own.params_eq, loop.set, rfl,
      placed.patched _, all ▸ loop.holding.congr rfl,
      placed.passed_addedUp.stored (placed.progress ..) received rfl rfl rfl⟩
  · exact loop.aborted orderly (early ⟨failure, rfl⟩)

theorem close_triple {updated : Order}
    (final : takerStatus taker (matched taker params loaded).filledQuantity ∈ [.filled, .cancelled]) :
    protocol.Triple pid (Finalized pid market params input taker loaded updated) (releaseSurplus updated)
      (ends (fun _ => Orderly []) fun _ => Orderly []) := by
  apply (release_free updated).imp
  · rintro s - finalized
    obtain rfl := finalized.isPid
    refine ⟨finalized.orderly, ⟨_, _, _, ⟨_, finalized.found, rfl, rfl, finalized.set, ?_⟩, finalized.placed,
      finalized.holding, finalized.addedUp⟩, trivial⟩
    rw [finalized.status]
    rcases List.mem_pair.mp final with isStatus | isStatus <;> rw [isStatus] <;> rfl
  · exact fun _ _ _ holds => holds

/-- A status that releases nothing rests. -/
theorem takerStatus_rests {filled : Decimal} (rests : takerStatus taker filled ∉ [.filled, .cancelled]) :
    (takerStatus taker filled).isResting := by
  revert rests
  unfold takerStatus
  cases taker.type with
  | limit =>
    dsimp only
    split
    · simp
    · split <;> simp [OrderStatus.isResting]
  | market =>
    dsimp only
    split <;> simp

theorem Finalized.stands {updated : Order} (finalized : Finalized pid market params input taker loaded updated s)
    (rests : takerStatus taker (matched taker params loaded).filledQuantity ∉ [.filled, .cancelled]) :
    Orderly [] s := by
  refine finalized.orderly.finish fun order found => ?_
  cases finalized.found.symm.trans found
  refine .backed ?_ finalized.set (finalized.here ▸ finalized.placed) (finalized.here ▸ finalized.holding)
    finalized.addedUp
  rw [finalized.status]
  exact takerStatus_rests rests

theorem load_triple : protocol.Triple pid
      (fun s => Opened pid market params input taker s ∧ s.locks market.symbol = some pid)
      (ask (.loadRestingBook market.symbol taker.side taker.userId bookScanLimit))
      (ends (fun loaded s => ∃ done, Orderly [pid] s ∧
          Loop pid market params input taker loaded loaded done (matched taker params loaded).fills s)
        fun _ => Orderly []) := by
  refine call_triple fun s reply s' => ?_
  rintro ⟨opened, held⟩ made - -
  obtain ⟨rfl, answer⟩ := made.loadRestingBook
  cases reply with
  | error failure => exact opened.stands
  | ok loaded => exact ⟨[], opened.orderly, opened.load held (answer loaded rfl)⟩

def pass (pid : OrderId) (input : CreateOrderDto) (market : Market) (params : MarketParams) (taker : Order) :
    Pass protocol pid taker market params where
  start s := Opened pid market params input taker s ∧ s.locks market.symbol = some pid
  next loaded rows todo s := ∃ done, Orderly [pid] s ∧ Loop pid market params input taker loaded rows done todo s
  settled loaded rows maker fill todo s := ∃ done, Orderly [maker.id, pid] s ∧
    Loop pid market params input taker loaded rows (done ++ [fill]) todo s ∧ Charged params maker fill s ∧
      maker.id ∉ pid :: todo.map EngineFill.makerOrderId
  traded loaded rows maker fill todo s := ∃ done, Orderly [maker.id, pid] s ∧
    Loop pid market params input taker loaded rows (done ++ [fill]) todo s ∧ Charged params maker fill s ∧
      maker.id ∉ pid :: todo.map EngineFill.makerOrderId
  advanced loaded rows maker fill todo s := ∃ done, Orderly [maker.id, pid] s ∧ Written params maker fill s ∧
    (Loop pid market params input taker loaded (refreshed maker fill rows) (done ++ [fill]) todo s ∧ maker.id ≠ pid)
  finalized := Finalized pid market params input taker
  done := Orderly []
  aborted := Orderly []
  load := load_triple
  skip loaded rows fill todo s _ next missing := by
    obtain ⟨done, -, loop⟩ := next
    obtain ⟨order, inRows, isMaker⟩ := loop.present fill List.mem_cons_self
    have none := List.find?_eq_none.mp missing order inRows
    simp [isMaker] at none
  settle _ _ _ _ _ found := settle_triple found
  record _ _ _ _ _ _ := record_triple _
  advance _ _ _ _ _ := advance_triple
  release _ _ _ _ _ closed := release_maker closed
  keep _ _ _ fill _ _ isOpen _ onward := by
    obtain ⟨done, orderly, written, loop, -⟩ := onward
    exact ⟨done ++ [fill], written.stands orderly isOpen, loop⟩
  finalize _ _ := finalize_triple
  close _ _ final := close_triple final
  rest _ _ _ rests _ finalized := finalized.stands rests

end Exchange.Trading.LockAccounting
