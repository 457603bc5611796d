import Exchange.TradingLockPass

/-! Lock accounting over requests that run one after another, each of which may
end early because a call throws. The service releases what the row says, and
nobody looks into the ledger: an order that was never locked is released like
any other, and what a failed call left locked stays locked. -/
namespace Exchange.Trading.LockAccounting
open SignificantDigits Ledger Service Protocol
open FillConservation (paramsAt)

/-- No order has been placed, and nothing posted for one. -/
structure Unposted (s : Store) : Prop where
  untraded : Untraded s
  nothing : ∀ txn ∈ s.ledger.transactions, isTrading txn = false

variable {s s' : Store} {pid id : OrderId} {order row taker : Order} {params : MarketParams} {market : Market}
  {input : CreateOrderDto} {A : Assertion} {used : List OrderId}

/-! ## Requests -/

/-- What holds before a request's order exists. -/
def Unused (pid : OrderId) (s : Store) : Prop := Orderly [] s ∧ s.orders.lookup pid = none

theorem acquire_triple (marketId : String) {entered : Assertion} (frame : ∀ s locks, A s → A { s with locks })
    (enter : ∀ s, A s → s.locks marketId = some pid → entered s) :
    protocol.Triple pid A (ask (.acquire marketId)) (ends (fun _ => entered) fun _ => A) := by
  refine call_triple fun s reply s' holds made _ _ => ?_
  obtain ⟨rfl, -, rfl⟩ := made.acquire
  exact enter _ (frame s _ holds) (Function.update_self ..)

theorem leave_triple (marketId : String) :
    protocol.Triple pid (Orderly []) (ask (.release marketId)) fun _ => Orderly [] := by
  refine call_triple fun s reply s' orderly made _ _ => ?_
  obtain ⟨rfl, rfl⟩ := made.release
  exact orderly.locks _

theorem Opened.locks (opened : Opened pid market params input taker s) (locks : String → Option OrderId) :
    Opened pid market params input taker { s with locks } :=
  ⟨opened.orderly.locks locks, opened.own.frame rfl rfl rfl, opened.set, opened.rests, opened.holding.congr rfl⟩

def placement (pid : OrderId) (userId : UserId) (input : CreateOrderDto) : Placement protocol pid userId input where
  unused := Unused pid
  placed market params order := Placing pid market params input order
  locked market params order _ s :=
    Orderly [pid] s ∧ Own pid market params input order s ∧ Holding s pid params input []
  opened market params taker := Opened pid market params input taker
  closed _ := Orderly []
  ended := Orderly []
  unused_stable := alone
  ended_stable := alone
  unused_ended _ _ unused := unused.1
  placed_ended _ _ _ _ _ placing := placing.orderly
  create _ _ _ _ := create_triple
  lock _ _ _ := lock_triple
  «open» _ _ _ _ := open_triple
  reject _ _ _ := reject_triple
  pass market params taker := pass pid input market params taker
  acquire market params taker := by
    have entered : ∀ s, Opened pid market params input taker s → s.locks market.symbol = some pid →
        Opened pid market params input taker s ∧ s.locks market.symbol = some pid := fun _ => And.intro
    refine (acquire_triple market.symbol (fun _ locks opened => opened.locks locks) entered).imp
      (fun _ _ holds => holds) ?_
    rintro (failure | value) s - holds
    · exact holds.stands
    · exact holds
  done_closed _ _ _ _ _ orderly := orderly
  aborted_closed _ _ _ _ _ orderly := orderly
  release := leave_triple

/-- A cancelled order: it never was locked, or its lock is to be released. -/
def Cancelled (order : Order) (s : Store) : Prop :=
  (Orderly [] s ∧ s.orders.lookup order.id = some order ∧ order.lockTxnId = none) ∨
    Orderly [order.id] s ∧ (∃ params input fills, Freed params input fills order s) ∧ True

theorem cancel_triple {current : Order} (live : current.status ∈ [OrderStatus.pending, .open, .partiallyFilled]) :
    protocol.Triple pid (fun s => Orderly [] s ∧ s.orders.lookup id = some current)
      (ask (.updateOrder id { status := some .cancelled })) (ends Cancelled fun _ => Orderly []) := by
  refine call_triple fun s reply s' => ?_
  rintro ⟨orderly, isCurrent⟩ made - -
  rcases made.updateOrder with ⟨row, found, rfl, -, rfl⟩ | ⟨⟨failure, rfl⟩, rfl⟩
  · cases isCurrent.symm.trans found
    obtain rfl := orderly.booked.keyed id current found
    have begun := (orderly.begin current.id).update List.mem_cons_self found { status := some .cancelled }
    cases orderly.standing current.id List.not_mem_nil current found with
    | unlocked never unset =>
      refine .inl ⟨begun.finish fun row isRow => ?_, AList.lookup_insert _, unset⟩
      cases (AList.lookup_insert _).symm.trans isRow
      exact .unlocked never unset rfl
    | closed final =>
      rw [isFinal, decide_eq_true_eq] at final
      exact (final live).elim
    | backed rests set placed holding addedUp =>
      exact .inr ⟨begun, ⟨_, _, _, ⟨_, AList.lookup_insert _, rfl, rfl, set, rfl⟩, placed.patched _,
        holding.congr rfl, addedUp.filled, addedUp.spent⟩, trivial⟩
  · exact orderly

/-- The release of an order that was never locked fails. -/
theorem release_unlocked (order : Order) : protocol.Triple pid
    (fun s => Orderly [] s ∧ s.orders.lookup order.id = some order ∧ order.lockTxnId = none)
    (releaseSurplus order) (ends (fun _ => Orderly []) fun _ => Orderly []) := by
  apply releaseSurplus_triple
  · exact fun _ _ holds _ => holds.1
  intro asset amount _ _ _
  refine call_triple fun s reply s' => ?_
  rintro ⟨orderly, found, unset⟩ made careful -
  have failed : ¬reply.isOk := fun isOk => by
    have records := (careful order.id rfl rfl).mp isOk
    simp [recordsLock, found, unset] at records
  rcases made.post with ⟨⟨failure, rfl⟩, rfl⟩ | ⟨txn, rfl, -⟩ | ⟨txn, ledger, rfl, -⟩
  · exact orderly
  · exact (failed rfl).elim
  · exact (failed rfl).elim

theorem surplus_triple (order : Order) : protocol.Triple pid (Cancelled order) (releaseSurplus order)
    (ends (fun _ => Orderly []) fun _ => Orderly []) := by
  rintro s inv (never | freed)
  · exact release_unlocked order s inv never
  · exact release_free order s inv freed

def cancellation (pid orderId : OrderId) : Cancellation protocol pid orderId where
  unused := Unused pid
  targeted _ := Orderly []
  entered _ := Orderly []
  seen _ current s := Orderly [] s ∧ s.orders.lookup orderId = some current
  cancelled _ := Cancelled
  closed _ := Orderly []
  ended := Orderly []
  unused_ended _ _ unused := unused.1
  targeted_ended _ _ _ orderly := orderly
  seen_closed _ _ _ _ seen := seen.1
  find := by
    refine (Triple.query_keeps serves rfl alone).imp (fun _ _ unused => unused) ?_
    rintro (failure | found) s - unused
    · exact unused.1
    · cases found with
      | none => exact unused.1
      | some order => exact unused.1
  acquire order :=
    acquire_triple order.marketId (fun _ locks orderly => orderly.locks locks) fun _ orderly _ => orderly
  read order := by
    refine (Triple.query (F := fun reply s => ∀ found, reply = .ok found → found = s.orders.lookup orderId) serves rfl
      alone fun s reply _ made => made.findOrderById.2).imp (fun _ _ orderly => orderly) ?_
    rintro (failure | found) s - ⟨orderly, answer⟩
    · exact orderly
    · cases found with
      | none => exact orderly
      | some current => exact ⟨orderly, (answer _ rfl).symm⟩
  cancel _ _ live := cancel_triple live
  surplus _ updated := surplus_triple updated
  release := leave_triple

/-! ## Runs -/

theorem program_triple (pid : OrderId) (program : TradingM Unit) (request : IsRequest pid program) :
    protocol.Triple pid (Unused pid) program fun _ => Orderly [] :=
  isRequest_triple serves (fun userId input => ⟨placement pid userId input, rfl, rfl⟩)
    (fun orderId => ⟨cancellation pid orderId, rfl, rfl⟩) program request

/-- A request creates no row but its own. -/
theorem made_rows {call : TradingCall} {reply : Except Failure call.Reply} (made : Makes pid call s reply s')
    (other : id ≠ pid) (missing : s.orders.lookup id = none) : s'.orders.lookup id = none := by
  by_cases isQuery : call.isQuery
  · exact made.query isQuery ▸ missing
  cases call with
  | findUserKyc | findMarketBySymbol | assetDecimals | findOrderById | findOrderByClientId | loadRestingBook
  | findTradeByFillId => exact (isQuery rfl).elim
  | createOrder data =>
    rcases made.createOrder with ⟨now, -, -, -, rfl⟩ | ⟨-, rfl⟩
    · exact (AList.lookup_insert_ne other).trans missing
    · exact missing
  | updateOrder target data =>
    rcases made.updateOrder with ⟨row, found, -, -, rfl⟩ | ⟨-, rfl⟩
    · refine (AList.lookup_insert_ne ?_).trans missing
      rintro rfl
      cases missing.symm.trans found
    · exact missing
  | createTrade data =>
    rcases made.createTrade with ⟨row, -, rfl⟩ | ⟨-, rfl⟩ <;> exact missing
  | post input =>
    rcases made.post with ⟨-, rfl⟩ | ⟨txn, -, rfl, -⟩ | ⟨txn, ledger, -, -, -, rfl⟩ <;> exact missing
  | acquire marketId =>
    obtain ⟨-, -, rfl⟩ := made.acquire
    exact missing
  | release marketId =>
    obtain ⟨-, rfl⟩ := made.release
    exact missing

theorem exec_rows {program : TradingM α} (ran : Async.Exec (protocol.step pid) program s result s') (other : id ≠ pid)
    (missing : s.orders.lookup id = none) : s'.orders.lookup id = none := by
  induction ran with
  | done => exact missing
  | await made rest ih => exact ih (made_rows made.1 other missing)

theorem Unposted.orderly (unposted : Unposted s) : Orderly [] s := by
  have none (id : OrderId) : s.orders.lookup id = none := by
    rw [unposted.untraded.orders]
    exact AList.lookup_empty id
  have never (part : LedgerTransaction Reference → Bool) (trading : ∀ txn, part txn → isTrading txn) :
      s.ledger.transactions.filter part = [] := by
    refine List.filter_eq_nil_iff.mpr fun txn member isPart => ?_
    cases (unposted.nothing txn member).symm.trans (trading txn isPart)
  refine ⟨⟨fun id order found => ?_, fun id _ => ?_, fun userId asset => ?_, fun i id txn found unlocks => ?_⟩,
    fun id _ order found => ?_⟩
  · cases (none id).symm.trans found
  · simp only [postings, settlements, Postings.none, Postings.mk.injEq]
    refine ⟨never _ fun txn isPart => ?_, never _ fun txn isPart => ?_, never _ fun txn isPart => ?_⟩ <;>
      simp_all [refersTo, settles, isTrading]
  · rw [tradingLocked, never isTrading fun _ trading => trading, unposted.untraded.orders]
    rfl
  · have trading : isTrading txn = false := unposted.nothing txn (List.mem_of_getElem? found)
    simp_all [refersTo, isTrading]
  · cases (none id).symm.trans found

theorem run_orderly (run : Sequential protocol.step IsRequest Unposted used s) :
    Orderly [] s ∧ ∀ id ∉ used, s.orders.lookup id = none := by
  induction run with
  | start initial =>
    refine ⟨initial.orderly, fun id _ => ?_⟩
    rw [initial.untraded.orders]
    exact AList.lookup_empty id
  | @request used s pid program result s' before fresh request ran ih =>
    have after := (program_triple pid program request).exec trivial ⟨ih.1, ih.2 pid fresh⟩ ran
    refine ⟨after.2, fun id new => ?_⟩
    simp only [List.mem_cons, not_or] at new
    exact exec_rows ran new.1 (ih.2 id new.2)

/-- Lock accounting: after any requests that ran one after another, each of which
may have ended early, what trading holds in the locked balance of a user is what
the user's resting orders have locked and not spent, an order was locked before
anything of it was released, and no order has spent and released more than was
locked for it. -/
theorem locks_accounted (run : Sequential protocol.step IsRequest Unposted used s) : Accounted s :=
  (run_orderly run).1.accounted

/-! ## Small runs -/

theorem smallExchange_unposted : Unposted smallExchange where
  untraded := smallExchange_untraded
  nothing := by decide +kernel

private theorem one_fits (side : OrderSide) :
    DigitsFit usdtInrParams ⟨"USDT-INR", side, .limit, some 90, some 1, none, none⟩ := by
  refine ⟨by decide, by decide, ?_, fun quantity isQuantity => ⟨6, by decide, ?_⟩⟩
  · cases side <;> norm_num [DigitsSuffice, usdtInrParams]
  · cases isQuantity
    exact ⟨⟨1000000, by norm_num⟩, by norm_num⟩

/-- No call throws, and only orders for one USDT at 90 are created. -/
def allowsOnes (call : TradingCall) (s : Store) (reply : Except Failure call.Reply) : Bool :=
  reply.isOk && match call with
    | .createOrder data => bodyOf data = ⟨"USDT-INR", data.side, .limit, some 90, some 1, none, none⟩ &&
        paramsAt s data.marketId = usdtInrParams
    | .post input => match input.referenceId with
      | some (.order id) => input.referenceType ≠ some "order_unlock" || recordsLock s id
      | _ => true
    | _ => true

theorem allowsOnes_sound (pid : OrderId) (call : TradingCall) (s : Store) (reply : Except Failure call.Reply)
    (s' : Store) (allowed : allowsOnes call s reply) (made : Makes pid call s reply s') :
    protocol.step pid call s reply s' := by
  obtain ⟨isOk, rest⟩ := Bool.and_eq_true_iff.mp allowed
  have succeeds : ∀ failure, reply ≠ .error failure := by
    rintro failure rfl
    cases isOk
  refine ⟨made, ?_, fun failed => (succeeds failed.choose failed.choose_spec).elim⟩
  cases call with
  | createOrder data =>
    simp only [Bool.and_eq_true, decide_eq_true_eq] at rest
    change DigitsFit (paramsAt s data.marketId) (bodyOf data)
    rw [rest.1, rest.2]
    exact one_fits data.side
  | updateOrder id data =>
    cases reply with
    | ok updated => trivial
    | error failure => exact (succeeds failure rfl).elim
  | post input =>
    intro id isUnlock isId
    simp only [isId, isUnlock, ne_eq, not_true_eq_false, decide_false, Bool.false_or] at rest
    exact ⟨fun _ => rest, fun _ => isOk⟩
  | findUserKyc | findMarketBySymbol | assetDecimals | findOrderById | findOrderByClientId | loadRestingBook
  | findTradeByFillId | createTrade | acquire | release => trivial

/-- One USDT is sold and bought, and another one put up for sale. -/
theorem locks_accounted_one :
    ∃ s : Store, tradingLocked s 1 "USDT" = 1 ∧ tradingLocked s 2 "INR" = 0 ∧ Accounted s := by
  have ran : (runAll (fun _ _ => false) allowsOnes
      [(1, .placeOrder 1 sellOne), (2, .placeOrder 2 buyOne), (3, .placeOrder 1 sellOne)] smallExchange).map
        (fun s => (tradingLocked s 1 "USDT", tradingLocked s 2 "INR")) = some (1, 0) := by decide +kernel
  obtain ⟨s, ran, facts⟩ := Option.map_eq_some_iff.mp ran
  obtain ⟨sold, bought⟩ := Prod.mk.inj facts
  have run := runAll_sequential allowsOnes_sound (by decide) (.start smallExchange_unposted) ran
  exact ⟨s, sold, bought, locks_accounted run⟩

/-- A sell order rests. A second one stays PENDING, as its lock cannot be posted;
when it is cancelled, it releases what the first one has locked. -/
theorem unlocked_without_lock : ¬∀ (used : List OrderId) (s : Store),
    Sequential Makes IsRequest Unposted used s → Accounted s := by
  intro accounted
  have ran : (runAll (fun pid n => pid = 2 && n = 4) (fun _ _ _ => true)
      [(1, .placeOrder 1 sellOne), (2, .placeOrder 1 sellOne), (3, .cancelOrder 1 2)] smallExchange).map
        (fun s => (s.ledger.transactions.any (refersTo "order_unlock" 2),
          s.ledger.transactions.any (refersTo "order_lock" 2))) = some (true, false) := by decide +kernel
  obtain ⟨s, ran, facts⟩ := Option.map_eq_some_iff.mp ran
  obtain ⟨isReleased, isLocked⟩ := Prod.mk.inj facts
  have run := runAll_sequential (fun _ _ _ _ _ _ made => made) (by decide) (.start smallExchange_unposted) ran
  obtain ⟨txn, member, refers⟩ := List.any_eq_true.mp isReleased
  obtain ⟨i, found⟩ := List.getElem?_of_mem member
  obtain ⟨j, lock, -, isLock, isIts⟩ := (accounted _ s run).lockFirst i 2 txn found refers
  rw [List.any_eq_false] at isLocked
  exact isLocked lock (List.mem_of_getElem? isLock) isIts

end Exchange.Trading.LockAccounting
