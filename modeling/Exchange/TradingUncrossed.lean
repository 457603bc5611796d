import Exchange.TradingBookLeft
import Exchange.TradingFillConservation
import Exchange.TradingLockSpending

/-! Orders that do not cross, and what keeps them from it. A pass that misses
nothing leaves no maker that its order could still trade with, and whatever comes
later only takes from the orders that rest. -/
namespace Exchange.Trading.UncrossedBook
open SignificantDigits Ledger Service Protocol MatchSoundness MatchMaximality
open FillConservation (paramsAt paramsAt_listed)

/-- The two orders, of which one was placed later, do not cross. -/
def Apart (s : Store) (later earlier : OrderId) : Prop := ∀ taker maker, s.orders.lookup later = some taker →
  s.orders.lookup earlier = some maker → ¬Crossing (paramsAt s taker.marketId) taker maker

/-- Every order was placed by one of the requests, which stand here with the last
one first, and no two orders cross. -/
structure Uncrossed (used : List OrderId) (s : Store) : Prop where
  known : ∀ id order, s.orders.lookup id = some order → id ∈ used
  apart : used.Pairwise (Apart s)

/-- Twenty digits hold the quantity of a limit order that is created, and no pass
of one stops at dust, or at the end of its scan, in front of a maker that could
trade. Nothing fails under a market's lock. -/
def Careful (pid : OrderId) (call : TradingCall) (s : Store) (reply : Except Failure call.Reply) : Prop :=
  ((∃ marketId, s.locks marketId = some pid) → reply.isOk) ∧
    match call with
    | .createOrder data => data.type = .limit → Fits (paramsAt s data.marketId) (data.quantity.getD 0)
    | .loadRestingBook marketId takerSide excludeUserId take => ∀ taker, s.orders.lookup pid = some taker →
        taker.type = .limit → NothingMissed (takerInput taker) (paramsAt s marketId) take
          (initialCapacity (takerInput taker) (paramsAt s marketId))
          ((wholeBook s marketId takerSide excludeUserId).map restingOrder)
    | _ => True

def protocol : TradingProtocol :=
  .inTurn fun pid call s reply s' => Makes pid call s reply s' ∧ Careful pid call s reply

/-- The row that an order is after it has been filled further or closed. -/
structure Lessens (params : MarketParams) (order order' : Order) : Prop where
  marketId : order'.marketId = order.marketId
  side : order'.side = order.side
  userId : order'.userId = order.userId
  type : order'.type = order.type
  price : order'.price = order.price
  rests : order'.status.isResting → order.status.isResting ∧ (Sized params order → Sized params order') ∧
    offered params (restingOrder order') ≤ offered params (restingOrder order)

/-- The orders that these requests have placed do not cross. -/
structure Quiet (used : List OrderId) (s : Store) : Prop where
  keyed : Keyed s
  sized : ∀ id ∈ used, ∀ order, s.orders.lookup id = some order → order.status.isResting →
    Sized (paramsAt s order.marketId) order
  apart : used.Pairwise (Apart s)

/-- No order of another number exists. -/
def Known (used : List OrderId) (s : Store) : Prop := ∀ id order, s.orders.lookup id = some order → id ∈ used

variable {s s' : Store} {pid id : OrderId} {order order' row taker maker maker' : Order} {params : MarketParams}
  {market : Market} {used : List OrderId} {input : CreateOrderDto} {fill : EngineFill} {A : Assertion}

/-! ## What takes from orders -/

theorem Lessens.refl (params : MarketParams) (order : Order) : Lessens params order order :=
  ⟨rfl, rfl, rfl, rfl, rfl, fun rests => ⟨rests, id, le_rfl⟩⟩

/-- An order that is closed. -/
theorem Lessens.closed (params : MarketParams) (order : Order) (data : OrderPatch)
    (final : (patched data order).status.isResting = false) : Lessens params order (patched data order) := by
  refine ⟨rfl, rfl, rfl, rfl, rfl, fun rests => ?_⟩
  cases final.symm.trans rests

/-- Orders that cross crossed before something of them was taken. -/
theorem Crossing.before (crossing : Crossing params taker' maker') (first : Lessens params taker taker')
    (second : Lessens params maker maker') : Crossing params taker maker := by
  obtain ⟨here, side, makerOpen, other⟩ := isResting_iff.mp crossing.makerOnBook
  rw [second.marketId, first.marketId] at here
  rw [second.side, first.side] at side
  rw [second.userId, first.userId] at other
  obtain ⟨takerRests, -, takerOffers⟩ := first.rests crossing.takerRests
  obtain ⟨makerRests, -, makerOffers⟩ := second.rests makerOpen
  have more : common params taker' maker' ≤ common params taker maker := min_le_min takerOffers makerOffers
  have limits : (takerInput taker').limit = (takerInput taker).limit := by
    cases isType : taker.type <;> simp [takerInput, TakerInput.limit, first.type, first.price, isType]
  refine ⟨takerRests, isResting_iff.mpr ⟨here, side, makerRests, other⟩, fun price isLimit => ?_,
    crossing.quantity_pos.trans_le more, ?_⟩
  · have cross := crossing.crossing price (limits ▸ isLimit)
    rwa [first.side, second.price] at cross
  · have price : 0 ≤ maker.price.getD 0 := by
      by_contra negative
      have worth := crossing.worth
      rw [second.price] at worth
      have product := mul_nonpos_of_nonneg_of_nonpos crossing.quantity_pos.le (not_le.mp negative).le
      linarith [quoteUnit_pos params]
    calc quoteUnit params
        ≤ common params taker' maker' * maker.price.getD 0 := second.price ▸ crossing.worth
      _ ≤ common params taker maker * maker.price.getD 0 := mul_le_mul_of_nonneg_right more price

theorem Quiet.lessen (quiet : Quiet used s) (keyed : Keyed s') (catalog : paramsAt s' = paramsAt s)
    (each : ∀ id ∈ used, ∀ order', s'.orders.lookup id = some order' → ∃ order,
      s.orders.lookup id = some order ∧ Lessens (paramsAt s order.marketId) order order') : Quiet used s' := by
  refine ⟨keyed, fun id isUsed order' found rests => ?_, ?_⟩
  · obtain ⟨order, found, lessens⟩ := each id isUsed order' found
    obtain ⟨rested, sized, -⟩ := lessens.rests rests
    rw [catalog, lessens.marketId]
    exact sized (quiet.sized id isUsed order found rested)
  · refine quiet.apart.imp_of_mem fun {later earlier} isLater isEarlier apart => ?_
    intro taker' maker' foundTaker foundMaker crossing
    obtain ⟨taker, isTaker, first⟩ := each later isLater taker' foundTaker
    obtain ⟨maker, isMaker, second⟩ := each earlier isEarlier maker' foundMaker
    have here : maker.marketId = taker.marketId :=
      second.marketId.symm.trans ((isResting_iff.mp crossing.makerOnBook).1.trans first.marketId)
    rw [catalog, first.marketId] at crossing
    rw [here] at second
    exact apart taker maker isTaker isMaker (crossing.before first second)

/-- What changes no order and no market. -/
structure Aside (s s' : Store) : Prop where
  orders : s'.orders = s.orders
  markets : s'.markets = s.markets
  assets : s'.assets = s.assets

theorem Aside.paramsAt (aside : Aside s s') : paramsAt s' = paramsAt s := by
  funext marketId
  simp only [FillConservation.paramsAt, aside.markets, assetDecimals, aside.assets]

theorem Quiet.frame (quiet : Quiet used s) (aside : Aside s s') : Quiet used s' := by
  refine quiet.lessen ?_ aside.paramsAt fun id _ order found => ⟨order, aside.orders ▸ found, .refl _ _⟩
  unfold Keyed
  rw [aside.orders]
  exact quiet.keyed

theorem Known.frame (known : Known used s) (aside : Aside s s') : Known used s' :=
  fun id order found => known id order (aside.orders ▸ found)

theorem Quiet.update (quiet : Quiet used s) (found : s.orders.lookup id = some order) (same : order'.id = order.id)
    (lessens : Lessens (paramsAt s order.marketId) order order') :
    Quiet used { s with orders := s.orders.insert id order' } := by
  refine quiet.lessen (quiet.keyed.insert (same.trans (quiet.keyed id order found))) rfl fun other _ row isRow => ?_
  by_cases here : other = id
  · subst here
    rw [AList.lookup_insert] at isRow
    cases isRow
    exact ⟨order, found, lessens⟩
  · rw [AList.lookup_insert_ne here] at isRow
    exact ⟨row, isRow, .refl _ _⟩

/-- Another request's order is none of these. -/
theorem Quiet.insert (quiet : Quiet used s) (fresh : pid ∉ used) (isPid : order.id = pid) :
    Quiet used { s with orders := s.orders.insert pid order } := by
  refine quiet.lessen (quiet.keyed.insert isPid) rfl fun id isUsed row isRow => ?_
  rw [AList.lookup_insert_ne (ne_of_mem_of_not_mem isUsed fresh)] at isRow
  exact ⟨row, isRow, .refl _ _⟩

theorem Known.insert (known : Known used s) (isUsed : id ∈ used) :
    Known used { s with orders := s.orders.insert id order } := by
  intro other row isRow
  by_cases here : other = id
  · exact here ▸ isUsed
  · rw [AList.lookup_insert_ne here] at isRow
    exact known other row isRow

/-- The request's own order joins the others. -/
theorem Quiet.join (quiet : Quiet used s) (stands : ∀ order, s.orders.lookup pid = some order →
    order.status.isResting → Sized (paramsAt s order.marketId) order ∧ ∀ id ∈ used, ∀ maker,
      s.orders.lookup id = some maker → ¬Crossing (paramsAt s order.marketId) order maker) :
    Quiet (pid :: used) s := by
  refine ⟨quiet.keyed, fun id isUsed order found rests => ?_,
    List.pairwise_cons.mpr ⟨fun earlier isUsed => ?_, quiet.apart⟩⟩
  · rcases List.mem_cons.mp isUsed with rfl | before
    · exact (stands order found rests).1
    · exact quiet.sized id before order found rests
  · intro taker maker isTaker isMaker crossing
    exact (stands taker isTaker crossing.takerRests).2 earlier isUsed maker isMaker crossing

/-! ## Calls -/

/-- What one request passes on to the next. -/
def Idle (used : List OrderId) (s : Store) : Prop := Quiet used s ∧ Known used s

theorem serves : Serves protocol pid where
  makes _ _ _ _ step := step.1
  idle _ _ := trivial
  catalog s s' rely := by
    obtain rfl : s' = s := rely
    exact ⟨rfl, rfl⟩

theorem call_triple {call : TradingCall} {post : Except Failure call.Reply → Store → Prop}
    (effect : ∀ s reply s', A s → Makes pid call s reply s' → Careful pid call s reply → post reply s') :
    protocol.Triple pid A (ask call) post :=
  Triple.call_inTurn fun s reply s' holds step => effect s reply s' holds step.1 step.2

/-- Under a lock, every call answers. -/
theorem Careful.answers {call : TradingCall} {reply : Except Failure call.Reply} {failure : Failure}
    (careful : Careful pid call s reply) (held : s.locks marketId = some pid) (failed : reply = .error failure) :
    False := by
  subst failed
  cases careful.1 ⟨_, held⟩

theorem idle_triple {call : TradingCall} (aside : ∀ s reply s', Makes pid call s reply s' → Aside s s') :
    protocol.Triple pid (Idle used) (ask call) (ends (fun _ => Idle used) fun _ => Idle used) := by
  refine call_triple fun s reply s' => ?_
  rintro ⟨quiet, known⟩ made -
  have same := aside s reply s' made
  cases reply with
  | ok value => exact ⟨quiet.frame same, known.frame same⟩
  | error failure => exact ⟨quiet.frame same, known.frame same⟩

/-! ## The request's own order -/

/-- The row of the request's order, of which nothing is filled. -/
structure Own (pid : OrderId) (market : Market) (params : MarketParams) (order : Order) (s : Store) : Prop where
  isPid : order.id = pid
  found : s.orders.lookup pid = some order
  here : order.marketId = market.symbol
  listed : Listed s market params
  sized : order.type = .limit → Sized params order
  unfilled : order.filledQuantity = 0

/-- The request has stored its order beside those of the others. -/
structure Busy (used : List OrderId) (pid : OrderId) (market : Market) (params : MarketParams) (order : Order)
    (s : Store) : Prop where
  quiet : Quiet used s
  known : Known (pid :: used) s
  own : Own pid market params order s

theorem Own.frame (own : Own pid market params order s) (found : s'.orders.lookup pid = s.orders.lookup pid)
    (markets : s'.markets = s.markets) (assets : s'.assets = s.assets) : Own pid market params order s' :=
  ⟨own.isPid, found.trans own.found, own.here, ⟨markets ▸ own.listed.found, by
    rw [own.listed.precision, assetDecimals, assetDecimals, assets]⟩, own.sized, own.unfilled⟩

theorem Own.params_eq (own : Own pid market params order s) : paramsAt s order.marketId = params := by
  rw [own.here, paramsAt_listed own.listed]

theorem Busy.frame (busy : Busy used pid market params order s) (aside : Aside s s') :
    Busy used pid market params order s' :=
  ⟨busy.quiet.frame aside, busy.known.frame aside,
    busy.own.frame (by rw [aside.orders]) aside.markets aside.assets⟩

/-- Before it is open, the order crosses nothing. -/
theorem Busy.idle (busy : Busy used pid market params order s) (closed : order.status.isResting = false) :
    Idle (pid :: used) s := by
  refine ⟨busy.quiet.join fun row found rests => ?_, busy.known⟩
  cases busy.own.found.symm.trans found
  cases closed.symm.trans rests

/-- The request's order changes its status. -/
theorem Busy.status (busy : Busy used pid market params order s) (fresh : pid ∉ used) {data : OrderPatch}
    (same : data.filledQuantity = none) :
    Busy used pid market params (patched data order)
      { s with orders := s.orders.insert pid (patched data order) } := by
  obtain ⟨quiet, known, own⟩ := busy
  have unfilled : (patched data order).filledQuantity = order.filledQuantity := by simp [patched, same]
  refine ⟨quiet.insert fresh own.isPid, known.insert List.mem_cons_self, own.isPid, AList.lookup_insert _, own.here,
    ⟨own.listed.found, own.listed.precision⟩, fun isLimit => ?_, unfilled.trans own.unfilled⟩
  have sized := own.sized isLimit
  exact sized.refilled rfl rfl rfl (unfilled ▸ sized.grid) (unfilled ▸ sized.nonneg) (unfilled ▸ sized.within)

theorem sized_newRow (input : CreateOrderDto) (isLimit : input.type = .limit)
    (fits : Fits params (input.quantity.getD 0)) (now : ℕ) (userId : UserId) (lock : LockRequirement) :
    Sized params (newRow pid now (newOrder userId market input.toOrderBody lock)) := by
  have valid := input.valid
  obtain ⟨samePrice, sameQuantity, -⟩ := LockAccounting.stored_as_accepted input
  simp only [createOrderSchema, isLimit, Bool.and_eq_true, Option.isSome_iff_exists] at valid
  obtain ⟨⟨⟨positivePrice, positiveQuantity⟩, -⟩, ⟨⟨price, isPrice⟩, quantity, isQuantity⟩, -⟩ := valid
  rw [isPrice, Option.all_some] at positivePrice
  rw [isQuantity, Option.all_some] at positiveQuantity
  have nonneg := (positiveDecimal_spec positiveQuantity).1.le
  have row : (newRow pid now (newOrder userId market input.toOrderBody lock)).quantity = some quantity :=
    sameQuantity.trans isQuantity
  refine ⟨isLimit, ?_, by rw [row]; rfl, ?_, onGrid_zero _, le_rfl, ?_⟩
  · change 0 < (input.price.map Numeric.rounded).getD 0
    rw [samePrice, isPrice]
    exact (positiveDecimal_spec positivePrice).1
  · rw [row]
    rwa [isQuantity] at fits
  · rw [row]
    exact nonneg

variable (fresh : pid ∉ used)
include fresh

theorem create_triple {userId : UserId} {lock : LockRequirement} : protocol.Triple pid
    (fun s => Idle used s ∧ Listed s market params)
    (ask (.createOrder (newOrder userId market input.toOrderBody lock)))
    (ends (fun order s => Busy used pid market params order s ∧ order.status.isResting = false)
      fun _ => Idle used) := by
  refine call_triple fun s reply s' => ?_
  rintro ⟨⟨quiet, known⟩, listed⟩ made ⟨-, fits⟩
  rcases made.createOrder with ⟨now, rfl, -, -, rfl⟩ | ⟨⟨failure, rfl⟩, rfl⟩
  · have digits : input.type = .limit → Fits (paramsAt s market.symbol) (input.quantity.getD 0) := fits
    rw [paramsAt_listed listed] at digits
    have joined : Known (pid :: used) s := fun id row found => List.mem_cons_of_mem _ (known id row found)
    exact ⟨⟨quiet.insert fresh rfl, joined.insert List.mem_cons_self, rfl, AList.lookup_insert _, rfl,
      ⟨listed.found, listed.precision⟩, fun isLimit => sized_newRow input isLimit (digits isLimit) now userId lock,
      rfl⟩, rfl⟩
  · exact ⟨quiet, known⟩

theorem status_triple {status : OrderStatus} {lockTxn : Option ℕ} : protocol.Triple pid
    (fun s => Busy used pid market params order s ∧ order.status.isResting = false)
    (ask (.updateOrder order.id { status := some status, lockTxn := lockTxn }))
    (ends (fun updated s => Busy used pid market params updated s ∧ updated.status = status)
      fun _ => Idle (pid :: used)) := by
  refine call_triple fun s reply s' => ?_
  rintro ⟨busy, closed⟩ made -
  obtain rfl := busy.own.isPid
  rcases made.updateOrder with ⟨row, found, rfl, -, rfl⟩ | ⟨⟨failure, rfl⟩, rfl⟩
  · cases busy.own.found.symm.trans found
    exact ⟨busy.status fresh rfl, rfl⟩
  · exact busy.idle closed

omit fresh

/-! ## A matching pass -/

/-- The whole book that an order found when it read the first makers of it. -/
structure Read (taker : Order) (params : MarketParams) (book : List Order) : Prop where
  sorted : BestFirst taker.side (book.map restingOrder)
  priced : ∀ maker ∈ book, 0 < maker.price.getD 0
  ids : (book.map Order.id).Nodup
  others : ∀ maker ∈ book, maker.userId ≠ taker.userId
  nothing : taker.type = .limit → NothingMissed (takerInput taker) params bookScanLimit
    (initialCapacity (takerInput taker) params) (book.map restingOrder)

/-- Of every maker on the book, the fills so far leave what its row still offers. -/
def Behind (market : Market) (params : MarketParams) (taker : Order) (book : List Order) (done : List EngineFill)
    (s : Store) : Prop :=
  ∀ id maker, s.orders.lookup id = some maker → isResting market.symbol taker.side taker.userId maker →
    ∃ order ∈ book, order.id = id ∧ order.price = maker.price ∧
      offered params (restingOrder maker) ≤ restOf params done (restingOrder order)

/-- How far the loop has got with the fills. The rows in hand are those of the
database, as far as the fills ahead go. -/
structure Loop (used : List OrderId) (pid : OrderId) (market : Market) (params : MarketParams) (taker : Order)
    (book rows : List Order) (done todo : List EngineFill) (s : Store) : Prop where
  busy : Busy used pid market params taker s
  held : s.locks market.symbol = some pid
  read : Read taker params book
  split : (matched taker params (book.take bookScanLimit)).fills = done ++ todo
  distinct : (pid :: todo.map EngineFill.makerOrderId).Nodup
  present : ∀ fill ∈ todo, ∃ order ∈ rows, order.id = fill.makerOrderId
  current : ∀ fill ∈ todo, ∀ order ∈ rows, order.id = fill.makerOrderId → order ∈ book.take bookScanLimit ∧
    s.orders.lookup order.id = some order ∧ isResting market.symbol taker.side taker.userId order
  behind : Behind market params taker book done s

variable {book loaded rows : List Order} {done todo : List EngineFill}

/-- A maker on the book is an order of an earlier request, in the market. -/
theorem Busy.onOffer (busy : Busy used pid market params taker s) (found : s.orders.lookup id = some maker)
    (rests : isResting market.symbol taker.side taker.userId maker) : id ∈ used ∧ Sized params maker := by
  obtain ⟨here, -, isOpen, other⟩ := isResting_iff.mp rests
  have notOwn : id ≠ pid := by
    rintro rfl
    cases busy.own.found.symm.trans found
    exact other rfl
  have isUsed : id ∈ used := (List.mem_cons.mp (busy.known id maker found)).resolve_left notOwn
  have sized := busy.quiet.sized id isUsed maker found isOpen
  rw [here, paramsAt_listed busy.own.listed] at sized
  exact ⟨isUsed, sized⟩

theorem Busy.onBook (busy : Busy used pid market params taker s)
    (member : order ∈ wholeBook s market.symbol taker.side taker.userId) :
    s.orders.lookup order.id = some order ∧ isResting market.symbol taker.side taker.userId order := by
  rw [wholeBook_eq] at member
  obtain ⟨⟨id, found⟩, rests⟩ := mem_loadRestingBook member
  exact ⟨(busy.quiet.keyed id order found).symm ▸ found, rests⟩

theorem Busy.read (busy : Busy used pid market params taker s) (nothing : taker.type = .limit →
      NothingMissed (takerInput taker) params bookScanLimit (initialCapacity (takerInput taker) params)
        ((wholeBook s market.symbol taker.side taker.userId).map restingOrder)) :
    Read taker params (wholeBook s market.symbol taker.side taker.userId) := by
  have priced : ∀ order ∈ wholeBook s market.symbol taker.side taker.userId, 0 < order.price.getD 0 := by
    intro order member
    obtain ⟨found, rests⟩ := busy.onBook member
    exact (busy.onOffer found rests).2.price_pos
  refine ⟨wholeBook_bestFirst priced, priced, ?_, fun order member => ?_, nothing⟩
  · rw [wholeBook_eq]
    exact loadRestingBook_ids_nodup busy.quiet.keyed
  · exact (isResting_iff.mp (busy.onBook member).2).2.2.2

theorem Busy.load (busy : Busy used pid market params taker s) (held : s.locks market.symbol = some pid)
    (nothing : taker.type = .limit →
      NothingMissed (takerInput taker) params bookScanLimit (initialCapacity (takerInput taker) params)
        ((wholeBook s market.symbol taker.side taker.userId).map restingOrder))
    (isLoaded : loaded = (wholeBook s market.symbol taker.side taker.userId).take bookScanLimit) :
    Loop used pid market params taker (wholeBook s market.symbol taker.side taker.userId) loaded []
      (matched taker params loaded).fills s := by
  have read := busy.read nothing
  have onBook : ∀ order ∈ loaded, order ∈ wholeBook s market.symbol taker.side taker.userId :=
    fun order member => List.mem_of_mem_take (isLoaded ▸ member)
  have makers := fills_makers_sublist (takerInput taker) loaded params
  have ids : (loaded.map Order.id).Nodup := isLoaded ▸ read.ids.sublist ((List.take_sublist _ _).map _)
  refine ⟨busy, held, read, by rw [← isLoaded]; rfl, List.nodup_cons.mpr ⟨fun member => ?_, ids.sublist makers⟩,
    fun fill member => ?_, fun fill _ order inRows _ => ⟨isLoaded ▸ inRows, busy.onBook (onBook order inRows)⟩,
    fun id maker found rests => ⟨maker, mem_wholeBook found rests, busy.quiet.keyed id maker found, rfl, ?_⟩⟩
  · obtain ⟨order, inRows, isPid⟩ := List.mem_map.mp (makers.subset member)
    obtain ⟨found, rests⟩ := busy.onBook (onBook order inRows)
    rw [isPid, busy.own.found] at found
    cases found
    exact (isResting_iff.mp rests).2.2.2 rfl
  · obtain ⟨-, row, inRows, isFrom⟩ := matched_fill member
    exact ⟨row, inRows, isFrom.id⟩
  · simp [restOf]

theorem Loop.frame (loop : Loop used pid market params taker book rows done todo s) (aside : Aside s s')
    (locks : s'.locks = s.locks) : Loop used pid market params taker book rows done todo s' := by
  refine ⟨loop.busy.frame aside, locks ▸ loop.held, loop.read, loop.split, loop.distinct, loop.present, ?_, ?_⟩
  · rw [aside.orders]
    exact loop.current
  · unfold Behind
    rw [aside.orders]
    exact loop.behind

/-- The maker of the fill ahead. -/
theorem Loop.source (loop : Loop used pid market params taker book rows done (fill :: todo) s)
    (inRows : maker ∈ rows) (isMaker : maker.id = fill.makerOrderId) :
    Executed params fill ∧ fill.quantity ≤ (restingOrder maker).remaining := by
  have member : fill ∈ (matched taker params (book.take bookScanLimit)).fills :=
    loop.split ▸ List.mem_append_right done List.mem_cons_self
  obtain ⟨isScanned, -⟩ := loop.current fill List.mem_cons_self maker inRows isMaker
  obtain ⟨executed, -⟩ := matched_fill member
  obtain ⟨row, rowScanned, isRow, available⟩ := LockAccounting.matched_available member
  have ids : ((book.take bookScanLimit).map Order.id).Nodup :=
    loop.read.ids.sublist ((List.take_sublist _ _).map _)
  obtain rfl : row = maker := List.inj_on_of_nodup_map ids rowScanned isScanned (isRow.trans isMaker.symm)
  exact ⟨executed, available⟩

theorem restOf_concat (done : List EngineFill) (fill : EngineFill) (maker : RestingOrder) :
    restOf params (done ++ [fill]) maker =
      restOf params done maker - if fill.makerOrderId = maker.id then fill.quantity else 0 := by
  simp only [restOf, List.filter_append, List.map_append, List.sum_append]
  by_cases same : fill.makerOrderId = maker.id
  · simp [same]
    ring
  · simp [same]

/-- What the fill takes of its maker, its row does not offer any more. -/
theorem Behind.advance (behind : Behind market params taker book done s)
    (found : s.orders.lookup maker.id = some maker) (rests : isResting market.symbol taker.side taker.userId maker)
    (isMaker : maker.id = fill.makerOrderId)
    (offers : offered params (restingOrder (makerAfter maker fill)) ≤
      offered params (restingOrder maker) - fill.quantity) :
    Behind market params taker book (done ++ [fill])
      { s with orders := s.orders.insert maker.id (makerAfter maker fill) } := by
  intro id row isRow rowRests
  by_cases same : id = maker.id
  · subst same
    rw [AList.lookup_insert] at isRow
    cases isRow
    obtain ⟨order, member, isOrder, price, left⟩ := behind maker.id maker found rests
    have isFilled : fill.makerOrderId = (restingOrder order).id := (isOrder.trans isMaker).symm
    refine ⟨order, member, isOrder, price, ?_⟩
    rw [restOf_concat, if_pos isFilled]
    linarith
  · rw [AList.lookup_insert_ne same] at isRow
    obtain ⟨order, member, isOrder, price, left⟩ := behind id row isRow rowRests
    have notFilled : fill.makerOrderId ≠ (restingOrder order).id := fun filled =>
      same (isOrder.symm.trans (filled.symm.trans isMaker.symm))
    refine ⟨order, member, isOrder, price, ?_⟩
    rwa [restOf_concat, if_neg notFilled, sub_zero]

theorem Busy.advance (busy : Busy used pid market params taker s) (found : s.orders.lookup maker.id = some maker)
    (rests : isResting market.symbol taker.side taker.userId maker) (executed : Executed params fill)
    (available : fill.quantity ≤ (restingOrder maker).remaining) :
    Busy used pid market params taker { s with orders := s.orders.insert maker.id (makerAfter maker fill) } := by
  obtain ⟨here, -, isOpen, other⟩ := isResting_iff.mp rests
  obtain ⟨isUsed, sized⟩ := busy.onOffer found rests
  obtain ⟨sized', offers⟩ := sized.advance executed available
  have notOwn : pid ≠ maker.id := by
    intro same
    rw [← same, busy.own.found] at found
    cases found
    exact other rfl
  have lessens : Lessens (paramsAt s maker.marketId) maker (makerAfter maker fill) := by
    rw [here, paramsAt_listed busy.own.listed]
    exact ⟨rfl, rfl, rfl, rfl, rfl, fun _ => ⟨isOpen, fun _ => sized', by linarith [executed.quantity_pos]⟩⟩
  exact ⟨busy.quiet.update found rfl lessens, busy.known.insert (List.mem_cons_of_mem _ isUsed),
    busy.own.frame (AList.lookup_insert_ne notOwn) rfl rfl⟩

theorem Loop.advance (loop : Loop used pid market params taker book rows done (fill :: todo) s)
    (inRows : maker ∈ rows) (isMaker : maker.id = fill.makerOrderId) :
    Loop used pid market params taker book (refreshed maker fill rows) (done ++ [fill]) todo
      { s with orders := s.orders.insert maker.id (makerAfter maker fill) } := by
  obtain ⟨executed, available⟩ := loop.source inRows isMaker
  obtain ⟨-, found, rests⟩ := loop.current fill List.mem_cons_self maker inRows isMaker
  obtain ⟨-, offers⟩ := (loop.busy.onOffer found rests).2.advance executed available
  obtain ⟨ownNew, rest⟩ := List.nodup_cons.mp loop.distinct
  obtain ⟨makerNew, nodup⟩ := List.nodup_cons.mp rest
  refine ⟨loop.busy.advance found rests executed available, loop.held, loop.read, by simpa using loop.split,
    List.nodup_cons.mpr ⟨fun member => ownNew (List.mem_cons_of_mem _ member), nodup⟩,
    present_refreshed fun later member => loop.present later (List.mem_cons_of_mem _ member),
    fun later member order isRefreshed isLater => ?_, loop.behind.advance found rests isMaker offers⟩
  have other : order.id ≠ maker.id := fun same =>
    makerNew (List.mem_map.mpr ⟨later, member, isLater.symm.trans (same.trans isMaker)⟩)
  obtain ⟨isScanned, isRow, orderRests⟩ :=
    loop.current later (List.mem_cons_of_mem _ member) order (mem_refreshed isRefreshed other) isLater
  exact ⟨isScanned, (AList.lookup_insert_ne other).trans isRow, orderRests⟩

theorem limit_of_rests {filled : Decimal} (rests : (takerStatus taker filled).isResting) : taker.type = .limit := by
  cases isType : taker.type with
  | limit => rfl
  | market =>
    simp only [takerStatus, isType] at rests
    split at rests <;> cases rests

/-- What is left of the order of a pass crosses nothing. -/
theorem Loop.uncrossed (loop : Loop used pid market params taker book rows done [] s) (isLimit : taker.type = .limit)
    (found : s.orders.lookup id = some maker) :
    ¬Crossing params (takerAfter taker params (book.take bookScanLimit)) maker := by
  intro crossing
  have own := loop.busy.own
  have all : done = (matched taker params (book.take bookScanLimit)).fills := by rw [loop.split, List.append_nil]
  obtain ⟨-, offers⟩ := @Sized.passed params taker (book.take bookScanLimit) (own.sized isLimit) own.unfilled
  obtain ⟨order, member, -, price, left⟩ := loop.behind id maker found (own.here ▸ crossing.makerOnBook)
  have byQuantity := (own.sized isLimit).byQuantity
  rw [all, restOf_matchOrder] at left
  have could : CouldTrade (takerInput taker) params _ (restingOrder order) _ :=
    crossing.couldTrade byQuantity offers left (congrArg (fun price => Option.getD price 0) price)
  rw [List.map_take] at could
  refine (loop.read.nothing isLimit).nothingTrades byQuantity loop.read.sorted
    (List.forall_mem_map.mpr loop.read.priced) ?_ (List.forall_mem_map.mpr loop.read.others)
    (List.mem_map_of_mem member) could
  rw [List.map_map]
  exact loop.read.ids

theorem Loop.finalize (loop : Loop used pid market params taker book rows done [] s) (fresh : pid ∉ used) :
    Idle (pid :: used)
      { s with orders := s.orders.insert pid (takerAfter taker params (book.take bookScanLimit)) } := by
  obtain ⟨quiet, known, own⟩ := loop.busy
  refine ⟨Quiet.join (quiet.insert fresh ?_) fun row found rests => ?_, known.insert List.mem_cons_self⟩
  · exact own.isPid
  rw [AList.lookup_insert] at found
  cases found
  have isLimit : taker.type = .limit := limit_of_rests rests
  have here : paramsAt s taker.marketId = params := own.params_eq
  refine ⟨here ▸ ((own.sized isLimit).passed own.unfilled).1, fun id isUsed maker found => ?_⟩
  rw [AList.lookup_insert_ne (ne_of_mem_of_not_mem isUsed fresh)] at found
  exact here ▸ loop.uncrossed isLimit found

end Exchange.Trading.UncrossedBook
