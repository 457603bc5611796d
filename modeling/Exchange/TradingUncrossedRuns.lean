import Exchange.TradingUncrossed

/-! No two resting orders cross after requests that ran one after another. At each
call of a request, the orders of the others do not cross; with its last write,
its own order joins them. -/
namespace Exchange.Trading.UncrossedBook
open SignificantDigits Ledger Service Protocol MatchSoundness MatchMaximality
open FillConservation (paramsAt paramsAt_listed)

variable {s s' : Store} {pid : OrderId} {taker maker : Order} {params : MarketParams} {market : Market}
  {used : List OrderId} {input : CreateOrderDto} {fill : EngineFill} {A : Assertion}
  {loaded rows : List Order} {todo : List EngineFill}

/-! ## A pass, call by call -/

theorem post_aside {posting : LedgerPostingInput Reference} {reply : Except Failure (LedgerTransaction Reference)}
    (made : Makes pid (.post posting) s reply s') : Aside s s' ∧ s'.locks = s.locks := by
  rcases made.post with ⟨-, rfl⟩ | ⟨txn, -, rfl, -⟩ | ⟨txn, ledger, -, -, -, rfl⟩ <;> exact ⟨⟨rfl, rfl, rfl⟩, rfl⟩

theorem createTrade_aside {trade : Trade} {reply : Except Failure Trade}
    (made : Makes pid (.createTrade trade) s reply s') : Aside s s' ∧ s'.locks = s.locks := by
  rcases made.createTrade with ⟨row, -, rfl⟩ | ⟨-, rfl⟩ <;> exact ⟨⟨rfl, rfl, rfl⟩, rfl⟩

/-- A call under the market's lock that changes no order. -/
theorem aside_triple {call : TradingCall} {failed : Assertion} (held : ∀ s, A s → s.locks market.symbol = some pid)
    (frame : ∀ s s', A s → Aside s s' → s'.locks = s.locks → A s')
    (aside : ∀ s reply s', Makes pid call s reply s' → Aside s s' ∧ s'.locks = s.locks) :
    protocol.Triple pid A (ask call) (ends (fun _ => A) fun _ => failed) := by
  refine call_triple fun s reply s' holds made careful => ?_
  obtain ⟨same, locks⟩ := aside s reply s' made
  cases reply with
  | error failure => exact (careful.answers (held s holds) rfl).elim
  | ok value => exact frame s s' holds same locks

/-- The loop of a pass that loaded these makers has these fills ahead of it. -/
def Passing (used : List OrderId) (pid : OrderId) (market : Market) (params : MarketParams) (taker : Order)
    (loaded rows : List Order) (todo : List EngineFill) (s : Store) : Prop :=
  ∃ book done, book.take bookScanLimit = loaded ∧ Loop used pid market params taker book rows done todo s

theorem Passing.held (passing : Passing used pid market params taker loaded rows todo s) :
    s.locks market.symbol = some pid := by
  obtain ⟨book, done, -, loop⟩ := passing
  exact loop.held

theorem Passing.frame (passing : Passing used pid market params taker loaded rows todo s) (aside : Aside s s')
    (locks : s'.locks = s.locks) : Passing used pid market params taker loaded rows todo s' := by
  obtain ⟨book, done, isLoaded, loop⟩ := passing
  exact ⟨book, done, isLoaded, loop.frame aside locks⟩

theorem load_triple : protocol.Triple pid
    (fun s => Busy used pid market params taker s ∧ s.locks market.symbol = some pid)
    (ask (.loadRestingBook market.symbol taker.side taker.userId bookScanLimit))
    (ends (fun loaded => Passing used pid market params taker loaded loaded (matched taker params loaded).fills)
      fun _ => Idle (pid :: used)) := by
  refine call_triple fun s reply s' => ?_
  rintro ⟨busy, held⟩ made ⟨answers, nothing⟩
  obtain ⟨rfl, answer⟩ := made.loadRestingBook
  cases reply with
  | error failure => cases answers ⟨_, held⟩
  | ok loaded =>
    have missed := nothing taker busy.own.found
    rw [paramsAt_listed busy.own.listed] at missed
    have isLoaded := (answer loaded rfl).trans (take_wholeBook ..).symm
    exact ⟨_, [], isLoaded.symm, busy.load held missed isLoaded⟩

/-- The loop is at this maker's fill. -/
def Filling (used : List OrderId) (pid : OrderId) (market : Market) (params : MarketParams) (taker : Order)
    (loaded rows : List Order) (maker : Order) (fill : EngineFill) (todo : List EngineFill) (s : Store) : Prop :=
  (maker ∈ rows ∧ maker.id = fill.makerOrderId) ∧ Passing used pid market params taker loaded rows (fill :: todo) s

theorem filling_triple {call : TradingCall} {failed : Assertion}
    (aside : ∀ s reply s', Makes pid call s reply s' → Aside s s' ∧ s'.locks = s.locks) :
    protocol.Triple pid (Filling used pid market params taker loaded rows maker fill todo) (ask call)
      (ends (fun _ => Filling used pid market params taker loaded rows maker fill todo) fun _ => failed) :=
  aside_triple (fun _ filling => filling.2.held)
    (fun _ _ filling same locks => ⟨filling.1, filling.2.frame same locks⟩) aside

theorem advance_triple : protocol.Triple pid (Filling used pid market params taker loaded rows maker fill todo)
    (ask (.updateOrder maker.id (makerPatch maker fill)))
    (ends (fun _ => Passing used pid market params taker loaded (refreshed maker fill rows) todo)
      fun _ => Idle (pid :: used)) := by
  refine call_triple fun s reply s' => ?_
  rintro ⟨⟨inRows, isMaker⟩, book, done, isLoaded, loop⟩ made careful
  rcases made.updateOrder with ⟨row, found, rfl, -, rfl⟩ | ⟨⟨failure, rfl⟩, rfl⟩
  · obtain ⟨-, isRow, -⟩ := loop.current fill List.mem_cons_self maker inRows isMaker
    cases isRow.symm.trans found
    exact ⟨book, done ++ [fill], isLoaded, loop.advance inRows isMaker⟩
  · exact (careful.answers loop.held rfl).elim

theorem finalize_triple (fresh : pid ∉ used) : protocol.Triple pid
    (Passing used pid market params taker loaded rows [])
    (ask (.updateOrder taker.id (takerPatch taker (matched taker params loaded))))
    (ends (fun _ => Idle (pid :: used)) fun _ => Idle (pid :: used)) := by
  refine call_triple fun s reply s' => ?_
  rintro ⟨book, done, rfl, loop⟩ made careful
  have isPid := loop.busy.own.isPid
  rcases made.updateOrder with ⟨row, found, rfl, -, rfl⟩ | ⟨⟨failure, rfl⟩, rfl⟩
  · rw [isPid] at found ⊢
    cases loop.busy.own.found.symm.trans found
    exact loop.finalize fresh
  · exact (careful.answers loop.held rfl).elim

theorem surplus_triple (order : Order) : protocol.Triple pid (Idle used) (releaseSurplus order)
    (ends (fun _ => Idle used) fun _ => Idle used) :=
  releaseSurplus_triple (fun _ _ idle _ => idle) fun _ _ _ _ _ => idle_triple fun _ _ _ made => (post_aside made).1

def pass (fresh : pid ∉ used) (market : Market) (params : MarketParams) (taker : Order) :
    Pass protocol pid taker market params where
  start s := Busy used pid market params taker s ∧ s.locks market.symbol = some pid
  next := Passing used pid market params taker
  settled := Filling used pid market params taker
  traded := Filling used pid market params taker
  advanced loaded rows maker fill todo := Passing used pid market params taker loaded (refreshed maker fill rows) todo
  finalized _ _ := Idle (pid :: used)
  done := Idle (pid :: used)
  aborted := Idle (pid :: used)
  load := load_triple
  skip loaded rows fill todo s _ passing missing := by
    obtain ⟨book, done, -, loop⟩ := passing
    obtain ⟨order, inRows, isMaker⟩ := loop.present fill List.mem_cons_self
    have none := List.find?_eq_none.mp missing order inRows
    simp [isMaker] at none
  settle loaded rows maker fill todo found := by
    have isMaker : maker.id = fill.makerOrderId := by simpa using List.find?_some found
    refine (filling_triple fun _ _ _ => post_aside).imp
      (fun s _ passing => ⟨⟨List.mem_of_find?_eq_some found, isMaker⟩, passing⟩) fun _ _ _ holds => holds
  record loaded rows maker fill todo txnId := by
    refine recordTrade_triple (C := fun _ => False) ?_ (fun _ _ never => never.elim)
      (Triple.absurd fun _ _ never => never)
    exact filling_triple fun _ _ _ => createTrade_aside
  advance _ _ _ _ _ := advance_triple
  release loaded rows maker fill todo _ := by
    refine releaseSurplus_triple (fun _ _ passing _ => passing) fun _ _ _ _ _ => ?_
    exact aside_triple (fun _ passing => passing.held) (fun _ _ passing => passing.frame) fun _ _ _ => post_aside
  keep _ _ _ _ _ _ _ _ passing := passing
  finalize _ _ := finalize_triple fresh
  close _ updated _ := surplus_triple updated
  rest _ _ _ _ _ idle := idle

/-! ## Requests -/

theorem acquire_triple (marketId : String) {entered failed : Assertion} (frame : ∀ s s', A s → Aside s s' → A s')
    (enter : ∀ s, A s → s.locks marketId = some pid → entered s) :
    protocol.Triple pid A (ask (.acquire marketId)) (ends (fun _ => entered) fun _ => failed) := by
  refine call_triple fun s reply s' holds made _ => ?_
  obtain ⟨rfl, -, rfl⟩ := made.acquire
  exact enter _ (frame s _ holds ⟨rfl, rfl, rfl⟩) (Function.update_self ..)

theorem leave_triple (marketId : String) :
    protocol.Triple pid (Idle used) (ask (.release marketId)) fun _ => Idle used := by
  refine call_triple fun s reply s' idle made _ => ?_
  obtain ⟨rfl, rfl⟩ := made.release
  exact ⟨idle.1.frame ⟨rfl, rfl, rfl⟩, idle.2.frame ⟨rfl, rfl, rfl⟩⟩

/-- Without an order of its own, a request leaves everything to the next. -/
theorem Idle.next (idle : Idle used s) (fresh : pid ∉ used) : Idle (pid :: used) s := by
  obtain ⟨quiet, known⟩ := idle
  refine ⟨quiet.join fun order found _ => (fresh (known pid order found)).elim, fun id order found => ?_⟩
  exact List.mem_cons_of_mem _ (known id order found)

def placement (fresh : pid ∉ used) (userId : UserId) (input : CreateOrderDto) :
    Placement protocol pid userId input where
  unused := Idle used
  placed market params order s := Busy used pid market params order s ∧ order.status.isResting = false
  locked market params order _ s := Busy used pid market params order s ∧ order.status.isResting = false
  opened market params taker := Busy used pid market params taker
  closed _ := Idle (pid :: used)
  ended := Idle (pid :: used)
  unused_stable := inTurn_stable
  ended_stable := inTurn_stable
  unused_ended _ _ idle := idle.next fresh
  placed_ended _ _ _ _ _ placed := placed.1.idle placed.2
  create _ _ _ _ := create_triple fresh
  lock market params order := by
    refine call_triple fun s reply s' placed made _ => ?_
    have same := (post_aside made).1
    cases reply with
    | error failure => exact ⟨placed.1.frame same, placed.2⟩
    | ok lockTxn => exact ⟨placed.1.frame same, placed.2⟩
  «open» _ _ _ _ := by
    refine (status_triple fresh).imp (fun _ _ placed => placed) ?_
    rintro (failure | updated) s - holds
    · exact holds
    · exact holds.1
  reject _ _ _ := by
    refine (status_triple fresh).imp (fun _ _ placed => placed) ?_
    rintro (failure | updated) s - holds
    · exact holds
    · exact holds.1.idle (by rw [holds.2]; rfl)
  pass market params taker := pass fresh market params taker
  acquire market params taker :=
    acquire_triple market.symbol (fun _ _ busy => busy.frame) fun _ busy held => ⟨busy, held⟩
  done_closed _ _ _ _ _ idle := idle
  aborted_closed _ _ _ _ _ idle := idle
  release := leave_triple

def cancellation (fresh : pid ∉ used) (orderId : OrderId) : Cancellation protocol pid orderId where
  unused := Idle used
  targeted _ := Idle used
  entered _ := Idle used
  seen _ _ := Idle used
  cancelled _ _ := Idle used
  closed _ := Idle used
  ended := Idle (pid :: used)
  unused_ended _ _ idle := idle.next fresh
  targeted_ended _ _ _ idle := idle.next fresh
  seen_closed _ _ _ _ idle := idle
  find := by
    refine (Triple.query_keeps serves rfl inTurn_stable).imp (fun _ _ idle => idle) ?_
    rintro (failure | found) s - idle
    · exact idle.next fresh
    · cases found with
      | none => exact idle.next fresh
      | some order => exact idle
  acquire order :=
    acquire_triple order.marketId (fun _ _ idle same => ⟨idle.1.frame same, idle.2.frame same⟩) fun _ idle _ => idle
  read order := by
    refine (Triple.query_keeps serves rfl inTurn_stable).imp (fun _ _ idle => idle) ?_
    rintro (failure | found) s - idle
    · exact idle
    · cases found with
      | none => exact idle
      | some current => exact idle
  cancel order current live := by
    refine call_triple fun s reply s' => ?_
    rintro ⟨quiet, known⟩ made -
    rcases made.updateOrder with ⟨row, found, rfl, -, rfl⟩ | ⟨⟨failure, rfl⟩, rfl⟩
    · exact ⟨quiet.update found rfl (.closed _ _ _ rfl), known.insert (known _ _ found)⟩
    · exact ⟨quiet, known⟩
  surplus _ updated := surplus_triple updated
  release _ := by
    refine (leave_triple _).imp (fun _ _ idle => idle) fun _ _ _ idle => idle.next fresh

/-! ## Runs -/

theorem run_idle (run : Sequential protocol.step IsRequest Untraded used s) : Idle used s := by
  refine run.invariant (fun s untraded => ?_) fun used pid program fresh request => ?_
  · have none : ∀ id order, s.orders.lookup id ≠ some order := fun id order found => by
      rw [untraded.orders, AList.lookup_empty] at found
      cases found
    exact ⟨⟨fun id order found => (none id order found).elim, fun id _ order found => (none id order found).elim,
      List.Pairwise.nil⟩, fun id order found => (none id order found).elim⟩
  · exact isRequest_triple serves (fun userId input => ⟨placement fresh userId input, rfl, rfl⟩)
      (fun orderId => ⟨cancellation fresh orderId, rfl, rfl⟩) program request

/-- After any requests that ran one after another, and whose passes missed
nothing, no two resting orders of different users cross. -/
theorem book_uncrossed (run : Sequential protocol.step IsRequest Untraded used s) : Uncrossed used s := by
  obtain ⟨quiet, known⟩ := run_idle run
  exact ⟨known, quiet.apart⟩

/-! ## Two runs -/

private theorem dearer_valid (side : OrderSide) :
    createOrderSchema ⟨"USDT-INR", side, .limit, some 91, some 1, none, none⟩ := by
  cases side <;> decide +kernel

/-- One USDT at 91. -/
def dearer (side : OrderSide) : CreateOrderDto := ⟨_, dearer_valid side⟩

private theorem dusty_valid :
    createOrderSchema ⟨"USDT-INR", .sell, .limit, some 90, some (1 + 1 / 10 ^ 6), none, none⟩ := by
  decide +kernel

/-- A millionth more than one USDT at 90. -/
def sellDusty : CreateOrderDto := ⟨_, dusty_valid⟩

/-- No call throws, only orders for one USDT are created, and at most one maker is
on a book that is read. -/
def allowsShort (call : TradingCall) (s : Store) (reply : Except Failure call.Reply) : Bool :=
  reply.isOk && match call with
    | .createOrder data => data.quantity = some 1 && paramsAt s data.marketId = usdtInrParams
    | .loadRestingBook marketId takerSide excludeUserId take =>
        (wholeBook s marketId takerSide excludeUserId).length ≤ 1 && 0 < take
    | _ => true

theorem nothingMissed_short {taker : TakerInput} {book : List RestingOrder} {left : Decimal} {scan : ℕ}
    (short : book.length ≤ 1) (some : 0 < scan) : NothingMissed taker params scan left book := by
  obtain ⟨scan, rfl⟩ := Nat.exists_eq_succ_of_ne_zero some.ne'
  cases book with
  | nil => simp [NothingMissed]
  | cons maker book =>
    obtain rfl : book = [] := List.length_eq_zero_iff.mp (by simpa using short)
    simp only [NothingMissed]
    cases turn taker params left maker <;> simp

theorem allowsShort_sound (pid : OrderId) (call : TradingCall) (s : Store) (reply : Except Failure call.Reply)
    (s' : Store) (allowed : allowsShort call s reply) (made : Makes pid call s reply s') :
    protocol.step pid call s reply s' := by
  obtain ⟨isOk, rest⟩ := Bool.and_eq_true_iff.mp allowed
  refine ⟨made, fun _ => isOk, ?_⟩
  cases call with
  | createOrder data =>
    simp only [Bool.and_eq_true, decide_eq_true_eq] at rest
    intro _
    rw [rest.1, rest.2]
    exact ⟨by decide, 6, le_rfl, ⟨1000000, by norm_num⟩, by norm_num [usdtInrParams]⟩
  | loadRestingBook marketId takerSide excludeUserId take =>
    simp only [Bool.and_eq_true, decide_eq_true_eq] at rest
    exact fun _ _ _ => nothingMissed_short (by simpa using rest.1) rest.2
  | findUserKyc | findMarketBySymbol | assetDecimals | findOrderById | findOrderByClientId | updateOrder
  | findTradeByFillId | createTrade | post | acquire | release => trivial

/-- One USDT is for sale at 91, and a buyer offers 90. -/
theorem book_uncrossed_pair : ∃ s : Store,
    (s.orders.lookup 1).map Order.status = some .open ∧ (s.orders.lookup 2).map Order.status = some .open ∧
      Uncrossed [2, 1] s := by
  have ran : (runAll (fun _ _ => false) allowsShort
      [(1, .placeOrder 1 (dearer .sell)), (2, .placeOrder 2 buyOne)] smallExchange).map
        (fun s => ((s.orders.lookup 1).map Order.status, (s.orders.lookup 2).map Order.status)) =
      some (some .open, some .open) := by decide +kernel
  obtain ⟨s, ran, facts⟩ := Option.map_eq_some_iff.mp ran
  obtain ⟨sells, buys⟩ := Prod.mk.inj facts
  have run := runAll_sequential allowsShort_sound (by decide) (.start smallExchange_untraded) ran
  exact ⟨s, sells, buys, book_uncrossed run⟩

/-- A millionth of a USDT that is left at 90 keeps a buyer of one USDT at 91 from
the one that is for sale at 91 behind it, though no call fails. -/
theorem dust_leaves_crossing : ¬∀ (used : List OrderId) (s : Store),
    Sequential (fun pid call s reply s' => Makes pid call s reply s' ∧ reply.isOk) IsRequest Untraded used s →
      Uncrossed used s := by
  intro uncrossed
  have ran : (runAll (fun _ _ => false) (fun _ _ reply => reply.isOk)
      [(1, .placeOrder 1 sellDusty), (2, .placeOrder 2 buyOne), (3, .placeOrder 1 (dearer .sell)),
        (4, .placeOrder 2 (dearer .buy))] smallExchange).map
        (fun s => (s.orders.lookup 4).bind fun taker => (s.orders.lookup 3).map fun maker =>
          decide (Crossing (paramsAt s taker.marketId) taker maker)) = some (some true) := by decide +kernel
  obtain ⟨s, ran, facts⟩ := Option.map_eq_some_iff.mp ran
  have run := runAll_sequential (fun _ _ _ _ _ isOk made => And.intro made isOk) (by decide)
    (.start smallExchange_untraded) ran
  simp only [Option.bind_eq_some_iff, Option.map_eq_some_iff, decide_eq_true_eq] at facts
  obtain ⟨taker, isTaker, maker, isMaker, crossing⟩ := facts
  exact (List.pairwise_cons.mp (uncrossed _ s run).apart).1 3 (by simp) taker maker isTaker isMaker crossing

end Exchange.Trading.UncrossedBook
