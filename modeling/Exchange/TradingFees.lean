import Exchange.AsyncPairs
import Exchange.Reports
import Exchange.TradingServiceRules

/-! The fees of trades. The posting that settles a fill credits them, and the row
that records it holds them; the row is the next thing a request writes. -/
namespace Exchange.Trading.Fees
open Ledger Async Service

abbrev Past := List (Answered TradingCall TradingCall.Reply Failure)

abbrev History := Logged OrderId TradingCall TradingCall.Reply Failure Store

/-- What a trade's row says it has charged. -/
def chargesOf (trade : Trade) : Charges :=
  (⟨trade.makerFee, trade.takerFee, trade.makerSide⟩ : Reports.TradeFeeRow).charges

/-! ## What a request does -/

/-- The request has created and opened the order. -/
def Own (taker : Order) (past : Past) : Prop :=
  ∃ data order patch, ⟨.createOrder data, .ok order⟩ ∈ past ∧ ⟨.updateOrder order.id patch, .ok taker⟩ ∈ past

/-- The calls a request may make while no fill waits for its row. -/
inductive May (past : Past) : TradingCall → Prop
  | query {call : TradingCall} (isQuery : call.isQuery) : May past call
  | createOrder {data : NewOrder} : May past (.createOrder data)
  | updateOrder {id : OrderId} {data : OrderPatch} : May past (.updateOrder id data)
  | acquire {marketId : String} : May past (.acquire marketId)
  | release {marketId : String} : May past (.release marketId)
  | transfer {input : LedgerPostingInput Reference} (isOther : input.referenceType ≠ some "trade")
      (free : input.fees = []) : May past (.post input)
  | settle {taker maker : Order} {fill : EngineFill} {market : Market} {params : MarketParams} (own : Own taker past) :
      May past (.post (settlement taker maker fill market params).input)

/-- The posting of a fill is followed by its row. -/
def pairing : Pairing TradingCall TradingCall.Reply Failure where
  may := May
  opens call _ := match call with
    | .post input => input.referenceType = some "trade"
    | _ => False
  closes call _ second := match call with
    | .post input => ∃ taker maker fill market params txnId,
        input = (settlement taker maker fill market params).input ∧
        second = .createTrade (tradeRow taker maker fill market (settlement taker maker fill market params) txnId)
    | _ => False

variable {past later : Past} {taker maker order : Order} {fill : EngineFill} {market : Market} {params : MarketParams}

theorem Own.grow (own : Own taker past) (grown : past <:+ later) : Own taker later := by
  obtain ⟨data, order, patch, created, updated⟩ := own
  exact ⟨data, order, patch, grown.subset created, grown.subset updated⟩

theorem whole_query {call : TradingCall} (isQuery : call.isQuery) (free : ¬pairing.Midway past) :
    pairing.Whole past (ask call) := by
  refine Pairing.whole_ask (.free free (.query isQuery)) fun value => ?_
  cases call with
  | post => cases isQuery
  | _ => exact not_false

theorem whole_updateOrder {id : OrderId} {data : OrderPatch} (free : ¬pairing.Midway past) :
    pairing.Whole past (ask (.updateOrder id data)) :=
  Pairing.whole_ask (.free free .updateOrder) fun _ => not_false

theorem transfer_fees {userId : UserId} {asset : String} {amount : Decimal} {kind : String}
    {referenceType : Option String} {referenceId : Option Reference} (source target : AccountKind)
    (isSource : source ≠ .feeRevenue) (isTarget : target ≠ .feeRevenue) :
    LedgerPostingInput.fees ⟨kind, referenceType, referenceId, transferLines userId source target asset amount⟩ = [] := by
  simp [LedgerPostingInput.fees, transferLines, LedgerPostingLine.isFee, isSource, isTarget]

theorem may_lock {lock : LockRequirement} : May past (.post (orderLock order lock)) :=
  .transfer (by simp [orderLock]) (transfer_fees _ _ nofun nofun)

theorem may_unlock {asset : String} {amount : Decimal} : May past (.post (orderUnlock order asset amount)) :=
  .transfer (by simp [orderUnlock]) (transfer_fees _ _ nofun nofun)

theorem not_opened_lock {lock : LockRequirement} (txn : LedgerTransaction Reference) :
    ¬pairing.opens (.post (orderLock order lock)) txn := by simp [pairing, orderLock]

theorem not_opened_unlock {asset : String} {amount : Decimal} (txn : LedgerTransaction Reference) :
    ¬pairing.opens (.post (orderUnlock order asset amount)) txn := by simp [pairing, orderUnlock]

theorem releaseSurplus_whole (free : ¬pairing.Midway past) : pairing.Whole past (releaseSurplus order) := by
  unfold releaseSurplus
  split
  · dsimp only
    split
    · exact Pairing.whole_pure free
    · exact Pairing.whole_call (.free free may_unlock) fun txn => Pairing.whole_pure (not_opened_unlock txn)
  · exact Pairing.whole_pure free

theorem settleFill_whole (free : ¬pairing.Midway past) (own : Own taker past) :
    pairing.Whole past (settleFill taker maker fill market params) := by
  unfold settleFill
  refine Pairing.whole_call (.free free (.settle own)) fun txn => ?_
  unfold recordTrade
  refine Pairing.whole_catch (Pairing.whole_ask (.close rfl ⟨_, _, _, _, _, _, rfl, rfl⟩) fun _ => not_false) ?_
  intro failure later _ free
  split
  · refine Pairing.whole_bind (whole_query rfl free) fun existing later _ free => ?_
    cases existing with
    | none => exact Pairing.whole_throw free
    | some trade => exact Pairing.whole_pure free
  · exact Pairing.whole_throw free

theorem advanceMaker_whole (free : ¬pairing.Midway past) : pairing.Whole past (advanceMaker maker fill) := by
  unfold advanceMaker
  refine Pairing.whole_bind (whole_updateOrder free) fun _ later _ free => ?_
  split
  · exact releaseSurplus_whole free
  · exact Pairing.whole_pure free

theorem settleFills_whole (rows : List Order) (fills : List EngineFill) (free : ¬pairing.Midway past)
    (own : Own taker past) : pairing.Whole past (settleFills taker market params rows fills) := by
  induction fills generalizing rows past with
  | nil => exact Pairing.whole_pure free
  | cons fill fills ih =>
    unfold settleFills
    split
    · exact ih rows free own
    · refine Pairing.whole_bind (settleFill_whole free own) fun _ past grown free => ?_
      have own := own.grow grown
      refine Pairing.whole_bind (advanceMaker_whole free) fun _ past grown free => ?_
      refine Pairing.whole_bind (ih _ free (own.grow grown)) fun _ past _ free => ?_
      exact Pairing.whole_pure free

theorem finalizeTaker_whole {result : EngineResult} (free : ¬pairing.Midway past) :
    pairing.Whole past (finalizeTaker taker result) := by
  unfold finalizeTaker
  refine Pairing.whole_bind (whole_updateOrder free) fun updated later _ free => ?_
  split
  · exact releaseSurplus_whole free
  · exact Pairing.whole_pure free

theorem matchAndSettle_whole (free : ¬pairing.Midway past) (own : Own taker past) :
    pairing.Whole past (matchAndSettle taker market params) := by
  unfold matchAndSettle
  refine Pairing.whole_bind (whole_query rfl free) fun rows past grown free => ?_
  refine Pairing.whole_bind (settleFills_whole rows _ free (own.grow grown)) fun _ past _ free => ?_
  refine Pairing.whole_bind (finalizeTaker_whole free) fun _ past _ free => ?_
  exact Pairing.whole_pure free

theorem withMarketLock_whole {α : Type} {key : String} {section' : TradingM α} (free : ¬pairing.Midway past)
    (body : ∀ later, past <:+ later → ¬pairing.Midway later → pairing.Whole later section') :
    pairing.Whole past (withMarketLock key section') := by
  unfold withMarketLock
  refine Pairing.whole_bind (Pairing.whole_ask (.free free .acquire) fun _ => not_false) fun _ later grown free => ?_
  refine Pairing.whole_bind (Pairing.whole_settled (body later grown free)) fun result later _ free => ?_
  refine Pairing.whole_bind (Pairing.whole_ask (.free free .release) fun _ => not_false) fun _ later _ free => ?_
  cases result with
  | error failure => exact Pairing.whole_throw free
  | ok value => exact Pairing.whole_pure free

/-- An order that was opened is the request's own. -/
theorem lockAndOpen_obeys {lock : LockRequirement} {data : NewOrder} (free : ¬pairing.Midway past)
    (created : ⟨.createOrder data, .ok order⟩ ∈ past) :
    (lockAndOpen order lock).Obeys pairing.Keeps (EndsWith (fun later => ¬pairing.Midway later)
      fun opened later => ¬pairing.Midway later ∧ Own opened later) past := by
  unfold lockAndOpen
  refine @Obeys.catch _ _ _ _ _ _ _ _ (fun later => ¬pairing.Midway later) _ _ ?_ ?_
  · refine obeys_bind.mpr (obeys_call.mpr ⟨.free free may_lock, ?_⟩)
    rintro (failure | txn)
    · exact not_false
    refine obeys_call.mpr ⟨.free (not_opened_lock txn) .updateOrder, ?_⟩
    rintro (failure | opened)
    · exact not_false
    · exact ⟨not_false, data, order, _, by simp [created], List.mem_cons_self⟩
  · intro failure later _ free
    split
    · refine obeys_bind.mpr ((whole_updateOrder free).imp fun later result free => ?_)
      cases result <;> exact free
    · exact free

theorem executeOrder_whole {lock : LockRequirement} {data : NewOrder} (free : ¬pairing.Midway past)
    (created : ⟨.createOrder data, .ok order⟩ ∈ past) : pairing.Whole past (executeOrder order lock market params) := by
  unfold executeOrder
  refine Pairing.whole_seq (lockAndOpen_obeys free created) fun opened past _ free own => ?_
  refine Pairing.whole_bind (withMarketLock_whole free fun later grown free =>
    matchAndSettle_whole free (own.grow grown)) fun _ past _ free => ?_
  exact Pairing.whole_bind (whole_query rfl free) fun _ past _ free => Pairing.whole_pure free

theorem assertKycApproved_whole {userId : UserId} (free : ¬pairing.Midway past) :
    pairing.Whole past (assertKycApproved userId) := by
  unfold assertKycApproved
  refine Pairing.whole_bind (whole_query rfl free) fun user later _ free => ?_
  cases user with
  | none => exact Pairing.whole_throw free
  | some user =>
    dsimp only
    split
    · exact Pairing.whole_throw free
    split
    · exact Pairing.whole_throw free
    · exact Pairing.whole_pure free

theorem resolveMarket_whole {symbol : String} (free : ¬pairing.Midway past) :
    pairing.Whole past (resolveMarket symbol) := by
  unfold resolveMarket
  refine Pairing.whole_bind (whole_query rfl free) fun market later _ free => ?_
  cases market with
  | none => exact Pairing.whole_throw free
  | some market => exact Pairing.whole_bind (whole_query rfl free) fun _ later _ free => Pairing.whole_pure free

theorem findDuplicate_whole {userId : UserId} {clientOrderId : Option String} (free : ¬pairing.Midway past) :
    pairing.Whole past (findDuplicate userId clientOrderId) := by
  cases clientOrderId with
  | none => exact Pairing.whole_pure free
  | some clientOrderId => exact whole_query rfl free

theorem placeOrder_whole {userId : UserId} {input : CreateOrderDto} (free : ¬pairing.Midway past) :
    pairing.Whole past (placeOrder userId input) := by
  unfold placeOrder
  refine Pairing.whole_bind (assertKycApproved_whole free) fun _ past _ free => ?_
  refine Pairing.whole_bind (resolveMarket_whole free) fun ⟨market, params⟩ past _ free => ?_
  dsimp only
  split
  · exact Pairing.whole_throw free
  refine Pairing.whole_bind (?_ : pairing.Whole past (liftExcept _)) fun _ past _ free => ?_
  · cases validateAgainstMarket input.toOrderBody market <;> exact free
  refine Pairing.whole_bind (findDuplicate_whole free) fun duplicate past _ free => ?_
  cases duplicate with
  | some duplicate => exact Pairing.whole_pure free
  | none =>
    dsimp only
    refine Pairing.whole_attempt (.free free .createOrder) (fun failure => ?_) fun order => ?_
    · dsimp only
      split
      · refine Pairing.whole_bind (findDuplicate_whole not_false) fun duplicate past _ free => ?_
        cases duplicate with
        | none => exact Pairing.whole_throw free
        | some duplicate => exact Pairing.whole_pure free
      · exact Pairing.whole_throw not_false
    · exact executeOrder_whole not_false List.mem_cons_self

theorem cancelOrder_whole {userId : UserId} {orderId : OrderId} (free : ¬pairing.Midway past) :
    pairing.Whole past (cancelOrder userId orderId) := by
  unfold cancelOrder
  refine Pairing.whole_bind (whole_query rfl free) fun order past _ free => ?_
  cases order with
  | none => exact Pairing.whole_throw free
  | some order =>
    dsimp only
    split
    · exact Pairing.whole_throw free
    refine withMarketLock_whole free fun past _ free => ?_
    unfold cancelSection
    refine Pairing.whole_bind (whole_query rfl free) fun current past _ free => ?_
    cases current with
    | none => exact Pairing.whole_throw free
    | some current =>
      dsimp only
      split
      · refine Pairing.whole_bind (whole_updateOrder free) fun updated past _ free => ?_
        refine Pairing.whole_bind (releaseSurplus_whole free) fun _ past _ free => ?_
        exact Pairing.whole_pure free
      · exact Pairing.whole_throw free

/-- Every request records what it settles. -/
theorem isRequest_whole {pid : OrderId} {program : TradingM Unit} (isRequest : IsRequest pid program) :
    pairing.Whole [] program := by
  obtain ⟨request, rfl⟩ := isRequest
  cases request with
  | placeOrder userId input =>
    exact Pairing.whole_bind (placeOrder_whole not_false) fun _ past _ free => Pairing.whole_pure free
  | cancelOrder userId orderId =>
    exact Pairing.whole_bind (cancelOrder_whole not_false) fun _ past _ free => Pairing.whole_pure free

/-! ## What a call does -/

/-- The row of a trade passes the checks of its table, unless it is there. -/
def isRecordable (s : Store) : TradingCall → Bool
  | .createTrade data => (createTrade data s).isOk || (s.trades.lookup data.fillId).isSome
  | _ => true

variable {x : History} {pid : OrderId} {now : ℕ} {call : TradingCall} {reply : Except Failure call.Reply} {s s' : Store}
  {made : Answered TradingCall TradingCall.Reply Failure}

/-- The row holds the fees it is given, as its columns do. -/
theorem createTrade_charges {data trade : Trade} (ok : createTrade data s = .ok (trade, s')) :
    chargesOf trade = (chargesOf data).stored ∧ s.trades.lookup data.fillId = none ∧
      s' = { s with trades := s.trades.insert data.fillId trade } := by
  simp only [createTrade, except_bind_ok] at ok
  obtain ⟨_, _, _, _, _, _, makerFee, isMakerFee, takerFee, isTakerFee, ok⟩ := ok
  split at ok
  · cases ok
  split at ok
  · cases ok
  split at ok
  · cases ok
  · rename_i fresh
    cases ok
    refine ⟨?_, by simpa using fresh, rfl⟩
    simp [chargesOf, Reports.TradeFeeRow.charges, Charges.stored, (Numeric.store_ok isMakerFee).1,
      (Numeric.store_ok isTakerFee).1]

/-- What a call does to orders, trades and postings. -/
inductive Effect (pid : OrderId) (s : Store) : Answered TradingCall TradingCall.Reply Failure → Store → Prop
  | failed {call : TradingCall} {failure : Failure}
      (refused : ∀ data, call = .createTrade data → (createTrade data s).isOk = false) :
      Effect pid s ⟨call, .error failure⟩ s
  | query {call : TradingCall} {value : call.Reply} (isQuery : call.isQuery) : Effect pid s ⟨call, .ok value⟩ s
  | locked {call : TradingCall} {value : call.Reply} {locks : String → Option OrderId} (isLocal : call.isLocal) :
      Effect pid s ⟨call, .ok value⟩ { s with locks }
  | created {data : NewOrder} {now : ℕ} : Effect pid s ⟨.createOrder data, .ok (newRow pid now data)⟩
      { s with orders := s.orders.insert pid (newRow pid now data) }
  | updated {id : OrderId} {data : OrderPatch} {order : Order} (found : s.orders.lookup id = some order) :
      Effect pid s ⟨.updateOrder id data, .ok (patched data order)⟩
        { s with orders := s.orders.insert id (patched data order) }
  | recorded {data trade : Trade} (charges : chargesOf trade = (chargesOf data).stored)
      (fresh : s.trades.lookup data.fillId = none) :
      Effect pid s ⟨.createTrade data, .ok trade⟩ { s with trades := s.trades.insert data.fillId trade }
  | found {input : LedgerPostingInput Reference} {txn : LedgerTransaction Reference}
      (found : findExistingPosting s.ledger input.referenceType input.referenceId = some txn) :
      Effect pid s ⟨.post input, .ok txn⟩ s
  | entered {input : LedgerPostingInput Reference} {txn : LedgerTransaction Reference}
      {ledger : Ledger.Store Reference} (recorded : Recorded s.ledger input txn ledger)
      (fresh : findExistingPosting s.ledger input.referenceType input.referenceId = none) :
      Effect pid s ⟨.post input, .ok txn⟩ { s with ledger }

theorem effect_of_perform (ran : perform pid now call s = some (reply, s')) : Effect pid s ⟨call, reply⟩ s' := by
  have makes : Makes pid call s reply s' := .inl ⟨now, ran⟩
  by_cases isQuery : call.isQuery
  · obtain rfl := makes.query isQuery
    cases reply with
    | error failure => exact .failed fun data same => by subst same; cases isQuery
    | ok value => exact .query isQuery
  cases call with
  | createOrder data =>
    rcases makes.createOrder with ⟨now, rfl, -, -, rfl⟩ | ⟨⟨failure, rfl⟩, rfl⟩
    · exact .created
    · exact .failed fun data same => by cases same
  | updateOrder id data =>
    rcases makes.updateOrder with ⟨order, found, rfl, -, rfl⟩ | ⟨⟨failure, rfl⟩, rfl⟩
    · exact .updated found
    · exact .failed fun data same => by cases same
  | createTrade data =>
    simp only [perform, Option.some.injEq] at ran
    cases created : createTrade data s with
    | error failure =>
      rw [created] at ran
      cases ran
      refine .failed fun other same => ?_
      cases same
      rw [created]
      rfl
    | ok pair =>
      rw [created] at ran
      cases ran
      obtain ⟨charges, fresh, same⟩ := createTrade_charges created
      rw [same]
      exact .recorded charges fresh
  | post input =>
    rcases makes.post with ⟨⟨failure, rfl⟩, rfl⟩ | ⟨txn, rfl, rfl, found⟩ | ⟨txn, ledger, rfl, recorded, fresh, rfl⟩
    · exact .failed fun data same => by cases same
    · exact .found found
    · exact .entered recorded fresh
  | acquire marketId =>
    obtain ⟨rfl, -, rfl⟩ := makes.acquire
    exact .locked rfl
  | release marketId =>
    obtain ⟨rfl, rfl⟩ := makes.release
    exact .locked rfl
  | _ => exact absurd rfl isQuery

theorem settlement_input_fees : (settlement taker maker fill market params).input.fees = Charges.positive
    [(quoteAsset, (settlement taker maker fill market params).sellerFee),
      (baseAsset, (settlement taker maker fill market params).buyerFee)] := by
  rw [Charges.positive_cons]
  simp only [LedgerPostingInput.fees, settlement, computeFee, toFixed_floorTo, List.filter_append, List.map_append,
    feeLine_charges]
  rfl

/-- The posting of a fill credits what its row charges. -/
theorem settlement_fees (txnId : ℕ) : (settlement taker maker fill market params).input.fees.Perm
    (chargesOf (tradeRow taker maker fill market (settlement taker maker fill market params) txnId)).positive := by
  rw [settlement_input_fees]
  refine Charges.positive_perm ?_
  cases isSide : maker.side with
  | buy =>
    simp only [chargesOf, Reports.TradeFeeRow.charges, tradeRow, isSide, Reports.feeAssetForSide, Reports.opposite, if_true]
    exact List.Perm.swap _ _ _
  | sell => simp [chargesOf, Reports.TradeFeeRow.charges, tradeRow, isSide, Reports.feeAssetForSide, Reports.opposite]

/-! ## Rows and postings -/

/-- The request that has posted a fill is about to record it. -/
def Waiting (x : History) (fillId : FillId) (txn : LedgerTransaction Reference) : Prop :=
  ∃ input earlier, x.past fillId.1 = ⟨.post input, .ok txn⟩ :: earlier ∧ input.referenceType = some "trade" ∧
    input.referenceId = some (.trade fillId) ∧
    ∀ charges : Charges, input.fees.Perm charges.positive → txn.fees.Perm charges.stored.positive

/-- Each settlement has its row, or its request is about to write it. -/
structure Kept (x : History) : Prop where
  keyed : Keyed x.store
  created : ∀ pid data order, ⟨.createOrder data, .ok order⟩ ∈ x.past pid → order.id = pid
  updated : ∀ pid id data order, ⟨.updateOrder id data, .ok order⟩ ∈ x.past pid → order.id = id
  settled : ∀ pid input txn, ⟨.post input, .ok txn⟩ ∈ x.past pid → input.referenceType = some "trade" →
    ∃ fillId, input.referenceId = some (.trade fillId) ∧ fillId.1 = pid ∧
      ∃ txn' ∈ x.store.ledger.ofType "trade", txn'.referenceId = some (.trade fillId)
  fees : FeesOf x.store.ledger "trade"
  posted : ∀ txn ∈ x.store.ledger.ofType "trade", ∃ fillId, txn.referenceId = some (.trade fillId) ∧
    ((∃ row, x.store.trades.lookup fillId = some row ∧ txn.fees.Perm (chargesOf row).positive) ∨
      x.store.trades.lookup fillId = none ∧ Waiting x fillId txn)
  rows : ∀ fillId row, x.store.trades.lookup fillId = some row →
    ∃ txn ∈ x.store.ledger.ofType "trade", txn.referenceId = some (.trade fillId)

theorem Kept.own (kept : Kept x) (own : Own taker (x.past pid)) : taker.id = pid := by
  obtain ⟨data, order, patch, created, updated⟩ := own
  exact (kept.updated pid order.id patch taker updated).trans (kept.created pid data order created)

/-- A request closes the pair it has opened. -/
theorem closing (call' : pairing.Keeps (x.past pid) call) {input : LedgerPostingInput Reference}
    {txn : LedgerTransaction Reference} {earlier : Past} (isPast : x.past pid = ⟨.post input, .ok txn⟩ :: earlier)
    (isTrade : input.referenceType = some "trade") : ∃ data, call = .createTrade data ∧
      input.referenceId = some (.trade data.fillId) ∧ input.fees.Perm (chargesOf data).positive := by
  generalize x.past pid = past at call' isPast
  subst isPast
  cases call' with
  | free free => exact absurd isTrade free
  | close opened closes =>
    obtain ⟨taker, maker, fill, market, params, txnId, rfl, rfl⟩ := closes
    exact ⟨_, rfl, rfl, settlement_fees txnId⟩

/-- A row is written for the posting before it. -/
theorem recording {data : Trade} (call' : pairing.Keeps (x.past pid) (.createTrade data)) :
    ∃ input txn earlier, x.past pid = ⟨.post input, .ok txn⟩ :: earlier ∧ input.referenceType = some "trade" ∧
      input.referenceId = some (.trade data.fillId) ∧ input.fees.Perm (chargesOf data).positive := by
  generalize x.past pid = past at call'
  cases call' with
  | free free may =>
    cases may with
    | query isQuery => cases isQuery
  | @close past first second value opened closes =>
    cases first with
    | post input =>
      obtain ⟨taker, maker, fill, market, params, txnId, rfl, same⟩ := closes
      cases same
      exact ⟨_, value, past, rfl, rfl, rfl, settlement_fees txnId⟩
    | _ => exact closes.elim

/-- A posting of a fill is the request's own. -/
theorem Kept.posting (kept : Kept x) {input : LedgerPostingInput Reference}
    (call' : pairing.Keeps (x.past pid) (.post input)) :
    (input.referenceType ≠ some "trade" → input.fees = []) ∧ (input.referenceType = some "trade" →
      ¬pairing.Midway (x.past pid) ∧ ∃ fillId, input.referenceId = some (.trade fillId) ∧ fillId.1 = pid) := by
  generalize isPast : x.past pid = past at call'
  cases call' with
  | free free may =>
    cases may with
    | query isQuery => cases isQuery
    | transfer isOther none => exact ⟨fun _ => none, fun isTrade => absurd isTrade isOther⟩
    | settle own =>
      subst isPast
      exact ⟨fun isOther => absurd rfl isOther, fun _ => ⟨free, _, rfl, kept.own own⟩⟩
  | @close past first second value opened closes =>
    cases first with
    | post input =>
      obtain ⟨taker, maker, fill, market, params, txnId, -, same⟩ := closes
      cases same
    | _ => exact closes.elim

theorem Effect.ofType_mono (effect : Effect pid s made s') {txn : LedgerTransaction Reference}
    (member : txn ∈ s.ledger.ofType "trade") : txn ∈ s'.ledger.ofType "trade" := by
  cases effect with
  | entered recorded fresh =>
    rw [ofType_recorded recorded]
    exact List.mem_append_left _ member
  | _ => exact member

/-- A posting that goes through is there. -/
theorem Effect.posted {input : LedgerPostingInput Reference} {txn : LedgerTransaction Reference}
    (effect : Effect pid s ⟨.post input, .ok txn⟩ s') (isTrade : input.referenceType = some "trade") :
    ∃ txn' ∈ s'.ledger.ofType "trade", txn'.referenceId = input.referenceId := by
  cases effect with
  | query isQuery => cases isQuery
  | locked isLocal => cases isLocal
  | found found =>
    exact ⟨txn, mem_ofType_of_found found isTrade⟩
  | entered recorded fresh =>
    refine ⟨txn, ?_, recorded.reference.2⟩
    rw [ofType_recorded recorded, if_pos isTrade]
    exact List.mem_append_right _ (List.mem_singleton_self _)

theorem waiting_other {other : OrderId} {fillId : FillId} {txn : LedgerTransaction Reference} (waits : Waiting x fillId txn)
    (ne : fillId.1 ≠ other) : Waiting ⟨s', (other, made) :: x.history⟩ fillId txn := by
  obtain ⟨input, earlier, isPast, rest⟩ := waits
  exact ⟨input, earlier, (Logged.past_ne _ ne ..).trans isPast, rest⟩

/-- A settlement stays recorded, or its request still waits or has recorded it. -/
theorem posted_step (kept : Kept x) (call' : pairing.Keeps (x.past pid) call)
    (effect : Effect pid x.store ⟨call, reply⟩ s') (recordable : isRecordable x.store call)
    {txn : LedgerTransaction Reference} (member : txn ∈ x.store.ledger.ofType "trade") :
    ∃ fillId, txn.referenceId = some (.trade fillId) ∧
      ((∃ row, s'.trades.lookup fillId = some row ∧ txn.fees.Perm (chargesOf row).positive) ∨
        s'.trades.lookup fillId = none ∧ Waiting ⟨s', (pid, ⟨call, reply⟩) :: x.history⟩ fillId txn) := by
  obtain ⟨fillId, isFill, ⟨row, found, charged⟩ | ⟨missing, waits⟩⟩ := kept.posted txn member
  · refine ⟨fillId, isFill, .inl ⟨row, ?_, charged⟩⟩
    cases effect with
    | recorded charges fresh =>
      refine (AList.lookup_insert_ne ?_).trans found
      rintro rfl
      cases fresh.symm.trans found
    | _ => exact found
  · refine ⟨fillId, isFill, ?_⟩
    by_cases own : fillId.1 = pid
    · obtain ⟨input, earlier, isPast, isTrade, isTarget, charged⟩ := waits
      rw [own] at isPast
      obtain ⟨data, rfl, isTarget', asked⟩ := closing call' isPast isTrade
      have same : fillId = data.fillId := by simpa using isTarget.symm.trans isTarget'
      subst same
      cases effect with
      | query isQuery => cases isQuery
      | locked isLocal => cases isLocal
      | failed refused => simp [isRecordable, refused data rfl, missing] at recordable
      | @recorded _ trade charges fresh =>
        exact .inl ⟨trade, AList.lookup_insert _, charges ▸ charged _ asked⟩
    · refine .inr ⟨?_, waiting_other waits own⟩
      cases effect with
      | @recorded data trade charges fresh =>
        refine (AList.lookup_insert_ne ?_).trans missing
        rintro rfl
        obtain ⟨input, txn', earlier, isPast, isTrade, isTarget, -⟩ := recording call'
        obtain ⟨fillId, isTarget', isOwn, -⟩ := kept.settled pid input txn' (by rw [isPast]; exact List.mem_cons_self) isTrade
        have same : data.fillId = fillId := by simpa using isTarget.symm.trans isTarget'
        exact own (same ▸ isOwn)
      | _ => exact missing

theorem kept_initial (untraded : Untraded s) (free : ∀ txn ∈ s.ledger.transactions, txn.fees = []) : Kept ⟨s, []⟩ := by
  have none : s.ledger.ofType "trade" = [] := List.filter_eq_nil_iff.mpr fun txn member => by
    simpa using untraded.settlements txn member
  refine ⟨fun id order found => ?_, by simp, by simp, by simp, ⟨by simp [none], by simp [none], fun txn member _ => free txn member⟩,
    by simp [none], fun fillId row found => ?_⟩
  · rw [untraded.orders, AList.lookup_empty] at found
    cases found
  · rw [untraded.trades, AList.lookup_empty] at found
    cases found

/-- Every call keeps settlements and rows together. -/
theorem kept_step (kept : Kept x) (call' : pairing.Keeps (x.past pid) call)
    (ran : perform pid now call x.store = some (reply, s')) (recordable : isRecordable x.store call) :
    Kept ⟨s', (pid, ⟨call, reply⟩) :: x.history⟩ := by
  have effect := effect_of_perform ran
  refine ⟨?_, fun other data order member => ?_, fun other id data order member => ?_,
    fun other input txn member isTrade => ?_, ?_, fun txn member => ?_, fun fillId row found => ?_⟩
  · cases effect with
    | created => exact kept.keyed.insert rfl
    | @updated id data order found => exact kept.keyed.insert (kept.keyed id order found)
    | _ => exact kept.keyed
  · rcases Logged.mem_past_cons.mp member with ⟨same, rfl⟩ | before
    · rw [← same] at effect
      cases effect with
      | query isQuery => cases isQuery
      | locked isLocal => cases isLocal
      | created => rfl
    · exact kept.created other data order before
  · rcases Logged.mem_past_cons.mp member with ⟨same, rfl⟩ | before
    · rw [← same] at effect
      cases effect with
      | query isQuery => cases isQuery
      | locked isLocal => cases isLocal
      | @updated _ _ row found => exact kept.keyed id row found
    · exact kept.updated other id data order before
  · rcases Logged.mem_past_cons.mp member with ⟨same, rfl⟩ | before
    · cases same
      obtain ⟨-, fillId, isTarget, isOwn⟩ := (kept.posting call').2 isTrade
      obtain ⟨txn', member', isTarget'⟩ := effect.posted isTrade
      exact ⟨fillId, isTarget, isOwn, txn', member', isTarget'.trans isTarget⟩
    · obtain ⟨fillId, isTarget, isOwn, txn', member', isTarget'⟩ := kept.settled other input txn before isTrade
      exact ⟨fillId, isTarget, isOwn, txn', effect.ofType_mono member', isTarget'⟩
  · cases effect with
    | entered recorded fresh =>
      obtain ⟨free, settles⟩ := kept.posting call'
      refine kept.fees.recorded recorded fresh (by decide) (fun isTrade => ?_) free
      obtain ⟨-, fillId, isTarget, -⟩ := settles isTrade
      simp [isTarget]
    | _ => exact kept.fees
  · by_cases before : txn ∈ x.store.ledger.ofType "trade"
    · exact posted_step kept call' effect recordable before
    · cases effect with
      | @entered input new ledger recorded fresh =>
        rw [ofType_recorded recorded, List.mem_append] at member
        have new' := member.resolve_left before
        split at new'
        · rename_i isTrade
          cases List.mem_singleton.mp new'
          obtain ⟨-, fillId, isTarget, isOwn⟩ := (kept.posting call').2 isTrade
          refine ⟨fillId, recorded.reference.2.trans isTarget, .inr ⟨?_, input, x.past pid, ?_, isTrade, isTarget,
            fun charges asked => recorded_charges recorded asked⟩⟩
          · cases found : x.store.trades.lookup fillId with
            | none => rfl
            | some row =>
              obtain ⟨earlier, isEarlier, isTarget'⟩ := kept.rows fillId row found
              exact (not_found fresh isTrade (by decide) (by simp [isTarget]) isEarlier (isTarget'.trans isTarget.symm)).elim
          · rw [isOwn]
            exact Logged.past_self ..
        · cases new'
      | _ => exact absurd member before
  · cases effect with
    | @recorded data trade charges fresh =>
      by_cases same : fillId = data.fillId
      · subst same
        obtain ⟨input, txn, earlier, isPast, isTrade, isTarget, -⟩ := recording call'
        obtain ⟨fillId, isTarget', -, txn', member', isTarget''⟩ := kept.settled pid input txn (by rw [isPast]; exact List.mem_cons_self) isTrade
        exact ⟨txn', member', isTarget''.trans (isTarget'.symm.trans isTarget)⟩
      · exact kept.rows fillId row ((AList.lookup_insert_ne same).symm.trans found)
    | entered recorded fresh =>
      obtain ⟨txn, member, isTarget⟩ := kept.rows fillId row found
      refine ⟨txn, ?_, isTarget⟩
      rw [ofType_recorded recorded]
      exact List.mem_append_left _ member
    | _ => exact kept.rows fillId row found

/-- What others do to balances does not matter. -/
theorem Kept.accounts {history : List (OrderId × Answered TradingCall TradingCall.Reply Failure)}
    (kept : Kept ⟨s, history⟩) (accounts : Table Account (Option Decimal)) :
    Kept ⟨{ s with ledger := { s.ledger with accounts } }, history⟩ :=
  ⟨kept.keyed, kept.created, kept.updated, kept.settled, kept.fees.accounts accounts, kept.posted, kept.rows⟩

/-- When no request is between the two, the rows charge what the settlements
credit. -/
theorem Kept.total (kept : Kept x) (rest : ∀ pid, ¬pairing.Midway (x.past pid)) (asset : String) :
    Charges.totalIn ((x.store.ledger.ofType "trade").flatMap LedgerTransaction.fees) asset =
      Charges.totalIn ((Reports.listTradesForFees x.store.trades).flatMap Reports.TradeFeeRow.charges) asset := by
  have keys : (x.store.trades.rows.map fun row => some (Reference.trade row.1)).Nodup := by
    have distinct := (Table.rows_keys_nodup x.store.trades).map (f := fun fillId => some (Reference.trade fillId))
      fun _ _ same => by simpa using same
    simpa [List.map_map, Function.comp_def] using distinct
  rw [Charges.totalIn_flatMap, Charges.totalIn_flatMap, Reports.listTradesForFees, List.map_map]
  refine sum_eq_of_matched kept.fees.distinct keys (fun txn member => ?_) fun ⟨fillId, row⟩ member => ?_
  · obtain ⟨fillId, isFill, ⟨row, found, charged⟩ | ⟨-, input, earlier, isPast, isTrade, -⟩⟩ := kept.posted txn member
    · refine ⟨(fillId, row), Table.mem_rows.mpr found, isFill.symm, Charges.totalIn_perm ?_ asset⟩
      have positive := (Charges.positive_perm charged).symm
      rwa [Charges.positive_positive] at positive
    · refine absurd ?_ (rest fillId.1)
      rw [isPast]
      exact isTrade
  · exact kept.rows fillId row (Table.mem_rows.mp member)

end Exchange.Trading.Fees
