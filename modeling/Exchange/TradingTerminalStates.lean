import Exchange.TradingServiceRules

/-! FILLED, CANCELLED and REJECTED are final, as long as nothing that was
decided on an older row is written over them. -/
namespace Exchange.Trading.TerminalStates
open Ledger Service Protocol

def isTerminal (status : OrderStatus) : Bool := status ∈ [.filled, .cancelled, .rejected]

/-- Terminal rows keep their status, and no fill of theirs is settled. -/
def Absorbed (s s' : Store) : Prop :=
  ∀ id order, s.orders.lookup id = some order → isTerminal order.status →
    (∃ order', s'.orders.lookup id = some order' ∧ order'.status = order.status) ∧
      settlements s' id = settlements s id

/-- The row of this number is not in a terminal state. -/
def unfinished (s : Store) (id : OrderId) : Bool :=
  (s.orders.lookup id).all fun order => !isTerminal order.status

/-- The writes that open, reject or cancel an order find it unfinished, and so
does its own matching pass when it reads the book. -/
def timely (pid : OrderId) (call : TradingCall) (s : Store) : Bool :=
  match call with
  | .updateOrder id data =>
    data.status ∉ [some .open, some .rejected, some .cancelled] || unfinished s id
  | .loadRestingBook _ _ _ _ => unfinished s pid
  | _ => true

/-- Orders rest only once they have been opened, with their lock posting. -/
def Opened (order : Order) : Prop := order.lockTxnId.isSome

structure Invariant (s : Store) : Prop where
  keyed : Keyed s
  resting : ∀ id order, s.orders.lookup id = some order → order.status.isResting → Opened order

/-- What others leave alone: the catalog, held locks, the identity of rows,
whether the request's own order was opened, and the opened orders of a market
while the request holds its lock. -/
structure Rely (pid : OrderId) (s s' : Store) : Prop where
  catalog : s'.markets = s.markets ∧ s'.assets = s.assets
  held : ∀ marketId, s.locks marketId = some pid → s'.locks marketId = some pid
  own : s.orders.lookup pid = none → s'.orders.lookup pid = none
  rows : ∀ id order, s.orders.lookup id = some order → ∃ order', s'.orders.lookup id = some order' ∧
    order'.marketId = order.marketId ∧ order'.userId = order.userId ∧
      (id = pid → order'.lockTxnId = order.lockTxnId)
  frozen : ∀ id order, s.orders.lookup id = some order → Opened order →
    s.locks order.marketId = some pid → s'.orders.lookup id = some order

def protocol : TradingProtocol where
  step pid call s reply s' := Makes pid call s reply s' ∧ timely pid call s
  inv := Invariant
  rely := Rely
  guarantee pid s s' := Absorbed s s' ∧ ∀ other ≠ pid, Rely other s s'

variable {pid id : OrderId} {s s' : Store} {order : Order} {data : OrderPatch}

theorem unfinished_row (isUnfinished : unfinished s id) (found : s.orders.lookup id = some order) :
    isTerminal order.status = false := by
  simpa [unfinished, found] using isUnfinished

theorem rely_refl (pid : OrderId) (s : Store) : Rely pid s s :=
  ⟨⟨rfl, rfl⟩, fun _ held => held, fun none => none, fun _ order found =>
    ⟨order, found, rfl, rfl, fun _ => rfl⟩, fun _ _ found _ _ => found⟩

theorem absorbed_refl (s : Store) : Absorbed s s := fun _ order found _ =>
  ⟨⟨order, found, rfl⟩, rfl⟩

theorem Absorbed.trans (first : Absorbed s s') (second : Absorbed s' s'') : Absorbed s s'' := by
  intro id order found terminal
  obtain ⟨⟨order', found', same⟩, settled⟩ := first id order found terminal
  obtain ⟨⟨order'', found'', same'⟩, settled'⟩ := second id order' found' (same ▸ terminal)
  exact ⟨⟨order'', found'', same'.trans same⟩, settled'.trans settled⟩

theorem idle : protocol.guarantee pid s s := ⟨absorbed_refl s, fun other _ => rely_refl other s⟩

theorem serves : Serves protocol pid where
  makes _ _ _ _ step := step.1
  idle _ _ := idle
  catalog _ _ rely := rely.catalog

/-! ## What the writes guarantee -/

/-- The request may write this row: it is its own and not opened yet, or its
market's lock is held. -/
def Writable (pid : OrderId) (s : Store) (id : OrderId) (order : Order) : Prop :=
  id = pid ∧ ¬Opened order ∨ s.locks order.marketId = some pid

theorem update_guarantee (found : s.orders.lookup id = some order)
    (unfinished : isTerminal order.status = false) (writable : Writable pid s id order)
    (opens : data.lockTxn ≠ none → id = pid) :
    protocol.guarantee pid s { s with orders := s.orders.insert id (patched data order) } := by
  have kept : ∀ other ≠ id, ({ s with orders := s.orders.insert id (patched data order) }
      : Store).orders.lookup other = s.orders.lookup other :=
    fun other ne => AList.lookup_insert_ne ne
  refine ⟨fun other row isRow terminal => ⟨?_, rfl⟩, fun other ne =>
    ⟨⟨rfl, rfl⟩, fun _ held => held, fun none => ?_, fun other' row isRow => ?_,
      fun other' row isRow isOpened held => ?_⟩⟩
  · by_cases same : other = id
    · subst same
      rw [isRow] at found
      cases found
      cases terminal.symm.trans unfinished
    · exact ⟨row, by rw [kept other same]; exact isRow, rfl⟩
  · by_cases same : other = id
    · subst same
      cases none.symm.trans found
    · rw [kept other same]
      exact none
  · by_cases same : other' = id
    · subst same
      rw [isRow] at found
      cases found
      refine ⟨_, AList.lookup_insert _, rfl, rfl, fun isOther => ?_⟩
      have noLock : data.lockTxn = none := by
        by_contra isSet
        exact ne (isOther ▸ opens isSet)
      simp [patched, noLock]
    · exact ⟨row, by rw [kept other' same]; exact isRow, rfl, rfl, fun _ => rfl⟩
  · by_cases same : other' = id
    · subst same
      rw [isRow] at found
      cases found
      rcases writable with ⟨-, unopened⟩ | holds
      · exact (unopened isOpened).elim
      · rw [held] at holds
        exact (ne (Option.some.inj holds)).elim
    · rw [kept other' same]
      exact isRow

theorem update_invariant (inv : Invariant s) (found : s.orders.lookup id = some order)
    (opened : (patched data order).status.isResting → Opened (patched data order)) :
    Invariant { s with orders := s.orders.insert id (patched data order) } := by
  refine ⟨inv.keyed.insert (inv.keyed id order found), fun other row isRow rests => ?_⟩
  by_cases same : other = id
  · subst same
    rw [AList.lookup_insert] at isRow
    cases isRow
    exact opened rests
  · rw [AList.lookup_insert_ne same] at isRow
    exact inv.resting other row isRow rests

theorem create_guarantee (fresh : s.orders.lookup pid = none) :
    protocol.guarantee pid s { s with orders := s.orders.insert pid order } := by
  have kept : ∀ other row, s.orders.lookup other = some row →
      (s.orders.insert pid order).lookup other = some row := by
    intro other row isRow
    have ne : other ≠ pid := by
      rintro rfl
      cases fresh.symm.trans isRow
    rw [AList.lookup_insert_ne ne]
    exact isRow
  refine ⟨fun other row isRow _ => ⟨⟨row, kept other row isRow, rfl⟩, rfl⟩, fun other ne =>
    ⟨⟨rfl, rfl⟩, fun _ held => held, fun none => ?_, fun other' row isRow =>
      ⟨row, kept other' row isRow, rfl, rfl, fun _ => rfl⟩, fun other' row isRow _ _ =>
        kept other' row isRow⟩⟩
  rw [AList.lookup_insert_ne ne]
  exact none

theorem ledger_guarantee {ledger : Ledger.Store Reference}
    (unsettled : ∀ id order, s.orders.lookup id = some order → isTerminal order.status →
      settlements { s with ledger } id = settlements s id) :
    protocol.guarantee pid s { s with ledger } :=
  ⟨fun id order found terminal => ⟨⟨order, found, rfl⟩, unsettled id order found terminal⟩,
    fun _ _ => ⟨⟨rfl, rfl⟩, fun _ held => held, fun none => none, fun _ order found =>
      ⟨order, found, rfl, rfl, fun _ => rfl⟩, fun _ _ found _ _ => found⟩⟩

theorem trades_guarantee {trades : Table FillId Trade} :
    protocol.guarantee pid s { s with trades } :=
  ⟨fun _ order found _ => ⟨⟨order, found, rfl⟩, rfl⟩,
    fun _ _ => ⟨⟨rfl, rfl⟩, fun _ held => held, fun none => none, fun _ order found =>
      ⟨order, found, rfl, rfl, fun _ => rfl⟩, fun _ _ found _ _ => found⟩⟩

theorem locks_guarantee {holder : Option OrderId}
    (free : s.locks marketId = none ∨ s.locks marketId = some pid) :
    protocol.guarantee pid s { s with locks := Function.update s.locks marketId holder } := by
  refine ⟨fun _ order found _ => ⟨⟨order, found, rfl⟩, rfl⟩,
    fun other ne => ⟨⟨rfl, rfl⟩, fun key held => ?_, fun none => none, fun _ order found =>
      ⟨order, found, rfl, rfl, fun _ => rfl⟩, fun _ _ found _ _ => found⟩⟩
  have different : key ≠ marketId := by
    rintro rfl
    rcases free with free | mine
    · cases free.symm.trans held
    · exact ne (Option.some.inj (held.symm.trans mine))
  exact (Function.update_of_ne different _ _).trans held

/-! ## The calls -/

variable {A T : Assertion} {market : Market} {params : MarketParams} {taker : Order}

theorem update_triple {B : Order → Assertion} (stable : protocol.Stable pid A)
    (opens : data.lockTxn ≠ none → id = pid)
    (may : ∀ s order, Invariant s → A s → timely pid (.updateOrder id data) s →
      s.orders.lookup id = some order → isTerminal order.status = false ∧
        Writable pid s id order ∧
        ((patched data order).status.isResting → Opened (patched data order)))
    (after : ∀ s order, Invariant s → A s → s.orders.lookup id = some order →
      B (patched data order) { s with orders := s.orders.insert id (patched data order) })
    (threw : ∀ s, A s → T s) :
    protocol.Triple pid A (ask (.updateOrder id data)) (ends B fun _ => T) := by
  apply Triple.call stable
  rintro s reply s' inv holds ⟨made, isTimely⟩
  rcases made.updateOrder with ⟨order, found, rfl, -, rfl⟩ | ⟨⟨failure, rfl⟩, rfl⟩
  · obtain ⟨unfinished, writable, opened⟩ := may s order inv holds isTimely found
    exact ⟨update_invariant inv found opened, update_guarantee found unfinished writable opens,
      after s order inv holds found⟩
  · exact ⟨inv, idle, threw s' holds⟩

/-- A posting that settles nothing leaves the orders alone. -/
theorem post_triple {input : LedgerPostingInput Reference} (stable : protocol.Stable pid A)
    (other : input.referenceType ≠ some "trade")
    (frame : ∀ s ledger, A s → A { s with ledger := ledger }) :
    protocol.Triple pid A (ask (.post input)) (ends (fun _ => A) fun _ => A) := by
  apply Triple.call stable
  rintro s reply s' inv holds ⟨made, -⟩
  rcases made.post with ⟨⟨failure, rfl⟩, rfl⟩ | ⟨txn, rfl, rfl, -⟩ |
    ⟨txn, ledger, rfl, recorded, -, rfl⟩
  · exact ⟨inv, idle, holds⟩
  · exact ⟨inv, idle, holds⟩
  · refine ⟨⟨inv.keyed, inv.resting⟩, ledger_guarantee fun id _ _ _ => ?_, frame s ledger holds⟩
    rw [settlements_recorded recorded, not_settles recorded other]
    exact List.append_nil _

theorem held_stable (marketId : String) :
    protocol.Stable pid fun s => s.locks marketId = some pid :=
  fun _ _ _ held rely _ => rely.held marketId held

theorem acquire_triple {B : Assertion} (stable : protocol.Stable pid A)
    (enter : ∀ s marketLocks, A s → marketLocks marketId = some pid →
      B { s with locks := marketLocks }) :
    protocol.Triple pid A (ask (.acquire marketId)) (ends (fun _ => B) fun _ => T) := by
  apply Triple.call stable
  rintro s reply s' inv holds ⟨made, -⟩
  obtain ⟨rfl, free, rfl⟩ := made.acquire
  exact ⟨⟨inv.keyed, inv.resting⟩, locks_guarantee (.inl free),
    enter s _ holds (Function.update_self ..)⟩

theorem release_triple (marketId : String) :
    protocol.Triple pid (fun s => s.locks marketId = some pid) (ask (.release marketId))
      fun _ _ => True := by
  apply Triple.call (held_stable marketId)
  rintro s reply s' inv held ⟨made, -⟩
  obtain ⟨rfl, rfl⟩ := made.release
  exact ⟨⟨inv.keyed, inv.resting⟩, locks_guarantee (.inr held), trivial⟩

theorem releaseSurplus_keeps (stable : protocol.Stable pid A)
    (frame : ∀ s ledger, A s → A { s with ledger := ledger }) (order : Order) :
    protocol.Triple pid A (releaseSurplus order) (ends (fun _ => A) fun _ => A) := by
  apply releaseSurplus_triple
  · exact fun _ _ holds _ => holds
  · exact fun _ _ _ _ _ => post_triple stable (by simp [orderUnlock]) frame

/-! ## A matching pass -/

/-- The request holds the market's lock, and these are unfinished orders of the
market. -/
def Live (pid : OrderId) (marketId : String) (ids : List OrderId) (s : Store) : Prop :=
  s.locks marketId = some pid ∧ ids.Nodup ∧ ∀ id ∈ ids, ∃ order,
    s.orders.lookup id = some order ∧ order.marketId = marketId ∧ Opened order ∧
      isTerminal order.status = false

theorem Live.sublist (live : Live pid marketId ids s) (sub : ids'.Sublist ids) :
    Live pid marketId ids' s :=
  ⟨live.1, live.2.1.sublist sub, fun id member => live.2.2 id (sub.subset member)⟩

theorem live_stable (marketId : String) (ids : List OrderId) :
    protocol.Stable pid (Live pid marketId ids) := by
  rintro s s' _ ⟨held, nodup, live⟩ rely _
  refine ⟨rely.held marketId held, nodup, fun id member => ?_⟩
  obtain ⟨order, found, here, opened, unfinished⟩ := live id member
  exact ⟨order, rely.frozen id order found opened (here ▸ held), here, opened, unfinished⟩

/-- Writing one live row leaves the others live. -/
theorem Live.update (live : Live pid marketId ids s) (other : id ∉ ids) (row : Order) :
    Live pid marketId ids { s with orders := s.orders.insert id row } := by
  refine ⟨live.1, live.2.1, fun id' member => ?_⟩
  have ne : id' ≠ id := fun same => other (same ▸ member)
  rw [AList.lookup_insert_ne ne]
  exact live.2.2 id' member

/-- The rows of the book and the taker are live when the pass starts. -/
theorem live_of_load (inv : Invariant s) (held : s.locks market.symbol = some pid)
    (own : s.orders.lookup pid = some row) (opened : Opened row)
    (here : row.marketId = market.symbol) (user : row.userId = taker.userId)
    (isUnfinished : unfinished s pid) :
    Live pid market.symbol (pid :: (matched taker params (loadRestingBook s market.symbol taker.side
      taker.userId bookScanLimit)).fills.map EngineFill.makerOrderId) s := by
  have makers := fills_makers_sublist (takerInput taker)
    (loadRestingBook s market.symbol taker.side taker.userId bookScanLimit) params
  have loaded : ∀ id ∈ (matched taker params (loadRestingBook s market.symbol taker.side
      taker.userId bookScanLimit)).fills.map EngineFill.makerOrderId, ∃ order,
      s.orders.lookup id = some order ∧
        isResting market.symbol taker.side taker.userId order := by
    intro id member
    obtain ⟨order, onBook, rfl⟩ := List.mem_map.mp (makers.subset member)
    obtain ⟨⟨key, found⟩, rests⟩ := mem_loadRestingBook onBook
    exact ⟨order, (inv.keyed key order found) ▸ found, rests⟩
  refine ⟨held, List.nodup_cons.mpr ⟨fun member => ?_,
    (loadRestingBook_ids_nodup inv.keyed).sublist makers⟩, fun id member => ?_⟩
  · obtain ⟨order, found, rests⟩ := loaded pid member
    rw [own] at found
    cases found
    simp [isResting, user] at rests
  · rcases List.mem_cons.mp member with rfl | onBook
    · exact ⟨row, own, here, opened, unfinished_row isUnfinished own⟩
    · obtain ⟨order, found, rests⟩ := loaded id onBook
      simp only [isResting, Bool.and_eq_true, decide_eq_true_eq] at rests
      refine ⟨order, found, rests.1.1.1, inv.resting id order found rests.1.2, ?_⟩
      have status := rests.1.2
      simp only [OrderStatus.isResting, List.mem_cons, List.not_mem_nil, or_false,
        decide_eq_true_eq] at status
      rcases status with isOpen | isPartial
      · rw [isOpen]
        rfl
      · rw [isPartial]
        rfl

/-- The taker is the request's own order, opened, in this market. -/
def OwnOpened (pid : OrderId) (marketId : String) (taker : Order) (s : Store) : Prop :=
  taker.id = pid ∧ ∃ row, s.orders.lookup pid = some row ∧ Opened row ∧ row.marketId = marketId ∧
    row.userId = taker.userId

theorem ownOpened_stable (marketId : String) (taker : Order) :
    protocol.Stable pid (OwnOpened pid marketId taker) := by
  rintro s s' _ ⟨isPid, row, own, opened, here, user⟩ rely _
  obtain ⟨row', own', market, user', lock⟩ := rely.rows pid row own
  exact ⟨isPid, row', own', by rw [Opened, lock rfl]; exact opened, market.trans here,
    user'.trans user⟩

theorem load_triple :
    protocol.Triple pid
      (fun s => OwnOpened pid market.symbol taker s ∧ s.locks market.symbol = some pid)
      (ask (.loadRestingBook market.symbol taker.side taker.userId bookScanLimit))
      (ends (fun loaded => Live pid market.symbol
        (taker.id :: (matched taker params loaded).fills.map EngineFill.makerOrderId))
        fun _ s => s.locks market.symbol = some pid) := by
  apply Triple.call ((ownOpened_stable _ _).and (held_stable _))
  rintro s reply s' inv ⟨⟨rfl, row, own, opened, here, user⟩, held⟩ ⟨made, isUnfinished⟩
  obtain ⟨rfl, answer⟩ := made.loadRestingBook
  refine ⟨inv, idle, ?_⟩
  cases reply with
  | error failure => exact held
  | ok loaded =>
    obtain rfl := answer loaded rfl
    exact live_of_load inv held own opened here user isUnfinished

theorem settle_triple {maker : Order} {fill : EngineFill} (ids : List OrderId)
    (isTaker : taker.id ∈ ids) (isMaker : maker.id ∈ ids) :
    protocol.Triple pid (Live pid market.symbol ids)
      (ask (.post (settlement taker maker fill market params).input))
      (ends (fun _ => Live pid market.symbol ids) fun _ s => s.locks market.symbol = some pid) := by
  apply Triple.call (live_stable _ _)
  rintro s reply s' inv live ⟨made, -⟩
  rcases made.post with ⟨⟨failure, rfl⟩, rfl⟩ | ⟨txn, rfl, rfl, -⟩ |
    ⟨txn, ledger, rfl, recorded, -, rfl⟩
  · exact ⟨inv, idle, live.1⟩
  · exact ⟨inv, idle, live⟩
  · refine ⟨⟨inv.keyed, inv.resting⟩, ledger_guarantee fun id order found terminal => ?_, live⟩
    have uninvolved : ∀ other ∈ ids, other ≠ id := by
      rintro other member rfl
      obtain ⟨order', found', -, -, unfinished⟩ := live.2.2 other member
      rw [found] at found'
      cases found'
      cases terminal.symm.trans unfinished
    rw [settlements_recorded recorded, settles_settlement recorded]
    simp [uninvolved taker.id isTaker, uninvolved maker.id isMaker]

theorem record_triple {ids : List OrderId} (trade : Trade) :
    protocol.Triple pid (Live pid market.symbol ids) (recordTrade trade)
      (ends (fun _ => Live pid market.symbol ids) fun _ s => s.locks market.symbol = some pid) := by
  apply recordTrade_triple (C := Live pid market.symbol ids)
  · apply Triple.call (live_stable _ _)
    rintro s reply s' inv live ⟨made, -⟩
    rcases made.createTrade with ⟨row, rfl, rfl⟩ | ⟨⟨failure, rfl⟩, rfl⟩
    · exact ⟨⟨inv.keyed, inv.resting⟩, trades_guarantee, live⟩
    · exact ⟨inv, idle, live⟩
  · exact fun _ _ live => live.1
  · refine (Triple.query_keeps serves rfl (live_stable _ _)).imp (fun _ _ live => live) ?_
    rintro (failure | existing) s _ live
    · exact live.1
    · cases existing with
      | none => exact live.1
      | some row => exact live

/-- Updating the row of a live order that the pass is done with. -/
theorem write_triple (ids : List OrderId) (unset : data.lockTxn = none) :
    protocol.Triple pid (Live pid market.symbol (id :: ids)) (ask (.updateOrder id data))
      (ends (fun _ => Live pid market.symbol ids) fun _ s => s.locks market.symbol = some pid) := by
  apply update_triple (live_stable _ _) (fun isSet => (isSet unset).elim)
  · intro s order inv live _ found
    obtain ⟨order', found', here, opened, unfinished⟩ := live.2.2 id (by simp)
    rw [found] at found'
    cases found'
    refine ⟨unfinished, .inr (here ▸ live.1), fun _ => ?_⟩
    simpa [Opened, patched, unset] using opened
  · intro s order _ live found
    exact (live.sublist (List.sublist_cons_self ..)).update (List.nodup_cons.mp live.2.1).1 _
  · exact fun s live => live.1

theorem find_maker {rows : List Order} {fill : EngineFill}
    (found : (rows.find? fun order => order.id = fill.makerOrderId) = some maker) :
    maker.id = fill.makerOrderId := by
  simpa using List.find?_some found

def pass (pid : OrderId) (market : Market) (params : MarketParams) (taker : Order) :
    Pass protocol pid taker market params where
  start s := OwnOpened pid market.symbol taker s ∧ s.locks market.symbol = some pid
  next _ _ todo := Live pid market.symbol (taker.id :: todo.map EngineFill.makerOrderId)
  settled _ _ maker _ todo :=
    Live pid market.symbol (maker.id :: taker.id :: todo.map EngineFill.makerOrderId)
  traded _ _ maker _ todo :=
    Live pid market.symbol (maker.id :: taker.id :: todo.map EngineFill.makerOrderId)
  advanced _ _ _ _ todo := Live pid market.symbol (taker.id :: todo.map EngineFill.makerOrderId)
  finalized _ _ s := s.locks market.symbol = some pid
  done s := s.locks market.symbol = some pid
  aborted s := s.locks market.symbol = some pid
  load := load_triple
  skip loaded rows fill todo s _ live _ := live.sublist (by simp)
  settle loaded rows maker fill todo found := by
    refine (settle_triple (maker.id :: taker.id :: todo.map EngineFill.makerOrderId) (by simp)
      (by simp)).imp (fun s _ live => ?_) fun _ _ _ holds => holds
    rw [find_maker found]
    exact ⟨live.1, (List.Perm.swap ..).nodup live.2.1, fun id member =>
      live.2.2 id ((List.Perm.swap ..).subset member)⟩
  record _ _ _ _ _ _ := record_triple _
  advance _ _ _ _ _ := write_triple _ rfl
  release _ _ maker fill _ _ := by
    apply (releaseSurplus_keeps (live_stable market.symbol _) (fun _ _ live => live)
      (Service.advanced maker fill)).imp (fun _ _ live => live)
    rintro (failure | _) s _ live
    · exact live.1
    · exact live
  keep _ _ _ _ _ _ _ _ live := live
  finalize _ _ := by
    apply (write_triple [] rfl).imp (fun _ _ live => live)
    rintro (failure | _) s _ live
    · exact live
    · exact live.1
  close _ updated _ := releaseSurplus_keeps (held_stable market.symbol) (fun _ _ held => held) updated
  rest _ _ _ _ _ held := held

/-! ## Requests -/

/-- The request's own order, not opened yet, in this market. -/
def OwnPending (pid : OrderId) (marketId : String) (order : Order) (s : Store) : Prop :=
  order.id = pid ∧ ∃ row, s.orders.lookup pid = some row ∧ ¬Opened row ∧ row.marketId = marketId

theorem ownPending_stable (marketId : String) (order : Order) :
    protocol.Stable pid (OwnPending pid marketId order) := by
  rintro s s' _ ⟨isPid, row, own, unopened, here⟩ rely _
  obtain ⟨row', own', market, -, lock⟩ := rely.rows pid row own
  exact ⟨isPid, row', own', by rw [Opened, lock rfl]; exact unopened, market.trans here⟩

theorem unused_stable : protocol.Stable pid fun s => s.orders.lookup pid = none :=
  fun _ _ _ none rely _ => rely.own none

theorem create_triple {userId : UserId} {input : OrderBody} {lock : LockRequirement} :
    protocol.Triple pid
      (fun s => s.orders.lookup pid = none ∧ Listed s market params)
      (ask (.createOrder (newOrder userId market input lock)))
      (ends (fun order => OwnPending pid market.symbol order)
        fun _ s => s.orders.lookup pid = none) := by
  apply Triple.call (unused_stable.and (Listed.stable serves))
  rintro s reply s' inv ⟨none, -⟩ ⟨made, -⟩
  rcases made.createOrder with ⟨now, rfl, -, -, rfl⟩ | ⟨⟨failure, rfl⟩, rfl⟩
  · refine ⟨⟨inv.keyed.insert rfl, fun other row isRow rests => ?_⟩, create_guarantee none,
      rfl, _, AList.lookup_insert _, by simp [Opened, newRow], rfl⟩
    by_cases same : other = pid
    · subst same
      rw [AList.lookup_insert] at isRow
      cases isRow
      simp [newRow, OrderStatus.isResting] at rests
    · rw [AList.lookup_insert_ne same] at isRow
      exact inv.resting other row isRow rests
  · exact ⟨inv, idle, none⟩

theorem open_triple {order : Order} {lockTxn : LedgerTransaction Reference} :
    protocol.Triple pid (OwnPending pid market.symbol order)
      (ask (.updateOrder order.id { status := some .open, lockTxn := some lockTxn.id }))
      (ends (fun taker => OwnOpened pid market.symbol taker) fun _ _ => True) := by
  by_cases isPid : order.id = pid
  · rw [isPid]
    refine update_triple (ownPending_stable _ _) (fun _ => rfl) ?_ ?_ fun _ _ => trivial
    · rintro s row inv ⟨-, row', own, unopened, -⟩ isTimely found
      rw [found] at own
      cases own
      exact ⟨unfinished_row (by simpa [timely] using isTimely) found, .inl ⟨rfl, unopened⟩, fun _ => rfl⟩
    · rintro s row inv ⟨-, row', own, unopened, here⟩ found
      rw [found] at own
      cases own
      exact ⟨inv.keyed pid row found, _, AList.lookup_insert _, rfl, here, rfl⟩
  · exact Triple.absurd fun _ _ pending => isPid pending.1

theorem reject_triple {order : Order} :
    protocol.Triple pid (OwnPending pid marketId order)
      (ask (.updateOrder order.id { status := some .rejected })) fun _ _ => True := by
  by_cases isPid : order.id = pid
  · rw [isPid]
    refine (update_triple (B := fun _ _ => True) (T := fun _ => True)
      (ownPending_stable _ _) (fun isSet => (isSet rfl).elim) ?_ (fun _ _ _ _ _ => trivial)
      fun _ _ => trivial).imp (fun _ _ holds => holds) fun _ _ _ _ => trivial
    rintro s row inv ⟨-, row', own, unopened, -⟩ isTimely found
    rw [found] at own
    cases own
    exact ⟨unfinished_row (by simpa [timely] using isTimely) found, .inl ⟨rfl, unopened⟩, by simp [patched, OrderStatus.isResting]⟩
  · exact Triple.absurd fun _ _ pending => isPid pending.1

def placement (pid : OrderId) (userId : UserId) (input : CreateOrderDto) :
    Placement protocol pid userId input where
  unused s := s.orders.lookup pid = none
  placed market _ order := OwnPending pid market.symbol order
  locked market _ order _ := OwnPending pid market.symbol order
  opened market _ taker := OwnOpened pid market.symbol taker
  closed marketId s := s.locks marketId = some pid
  ended _ := True
  unused_stable := unused_stable
  ended_stable := stable_true
  unused_ended _ _ _ := trivial
  placed_ended _ _ _ _ _ _ := trivial
  create _ _ _ _ := create_triple
  lock market _ order := post_triple (ownPending_stable _ _) (by simp [orderLock])
    fun _ _ pending => pending
  «open» _ _ _ _ := open_triple
  reject _ _ _ := reject_triple
  pass market params taker := pass pid market params taker
  acquire _ _ _ := acquire_triple (ownOpened_stable _ _) fun _ _ opened held => ⟨opened, held⟩
  done_closed _ _ _ _ _ held := held
  aborted_closed _ _ _ _ _ held := held
  release := release_triple

/-- The order to cancel is in the market that the request was told. -/
def Targeted (orderId : OrderId) (marketId : String) (s : Store) : Prop :=
  ∃ row, s.orders.lookup orderId = some row ∧ row.marketId = marketId

theorem targeted_stable (orderId : OrderId) (marketId : String) :
    protocol.Stable pid (Targeted orderId marketId) := by
  rintro s s' _ ⟨row, found, here⟩ rely _
  obtain ⟨row', found', market, -⟩ := rely.rows orderId row found
  exact ⟨row', found', market.trans here⟩

theorem cancel_triple :
    protocol.Triple pid (fun s => Targeted id marketId s ∧ s.locks marketId = some pid)
      (ask (.updateOrder id { status := some .cancelled }))
      (ends (fun _ s => s.locks marketId = some pid) fun _ s => s.locks marketId = some pid) := by
  apply update_triple ((targeted_stable _ _).and (held_stable _)) (fun isSet => (isSet rfl).elim)
  · rintro s row inv ⟨⟨row', found', here⟩, held⟩ isTimely found
    rw [found] at found'
    cases found'
    exact ⟨unfinished_row (by simpa [timely] using isTimely) found, .inr (here ▸ held),
      by simp [patched, OrderStatus.isResting]⟩
  · exact fun s row _ holds _ => holds.2
  · exact fun s holds => holds.2

def cancellation (pid orderId : OrderId) : Cancellation protocol pid orderId where
  unused s := s.orders.lookup pid = none
  targeted order := Targeted orderId order.marketId
  entered order s := Targeted orderId order.marketId s ∧ s.locks order.marketId = some pid
  seen order _ s := Targeted orderId order.marketId s ∧ s.locks order.marketId = some pid
  cancelled order _ s := s.locks order.marketId = some pid
  closed marketId s := s.locks marketId = some pid
  ended _ := True
  unused_ended _ _ _ := trivial
  targeted_ended _ _ _ _ := trivial
  seen_closed _ _ _ _ seen := seen.2
  find := by
    refine (Triple.query (F := fun reply s => ∀ found, reply = .ok found →
      found = s.orders.lookup orderId) serves rfl unused_stable ?_).imp (fun _ _ none => none) ?_
    · exact fun s reply _ made => made.findOrderById.2
    · rintro (failure | found) s _ ⟨-, answer⟩
      · trivial
      · cases found with
        | none => trivial
        | some order => exact ⟨order, (answer _ rfl).symm, rfl⟩
  acquire _ := acquire_triple (targeted_stable _ _) fun _ _ targeted held => ⟨targeted, held⟩
  read order := by
    refine (Triple.query_keeps serves rfl ((targeted_stable _ _).and (held_stable _))).imp
      (fun _ _ entered => entered) ?_
    rintro (failure | found) s _ entered
    · exact entered.2
    · cases found with
      | none => exact entered.2
      | some current => exact entered
  cancel _ _ _ := cancel_triple
  surplus order updated := releaseSurplus_keeps (held_stable order.marketId)
    (fun _ _ held => held) updated
  release := release_triple

theorem proved : Pool.Proved protocol IsRequest Untraded (fun pid s => s.orders.lookup pid = none)
    fun _ _ _ => True where
  initial s untraded := by
    have empty : ∀ id, s.orders.lookup id = none := fun id => by
      rw [untraded.orders]
      exact AList.lookup_empty id
    refine ⟨⟨fun id order found => ?_, fun id order found => ?_⟩, empty⟩
    · cases (empty id).symm.trans found
    · cases (empty id).symm.trans found
  noninterference i j s s' ne _ _ guaranteed := guaranteed.2 j (Ne.symm ne)
  unused_stable _ := unused_stable
  ended_stable _ _ := stable_true
  triple pid := isRequest_triple serves (fun userId input => ⟨placement pid userId input, rfl, rfl⟩)
    fun orderId => ⟨cancellation pid orderId, rfl, rfl⟩

/-- Terminal order states are absorbing, in every run whose writes find the rows
they were decided for unfinished: from each pool reached on, the order keeps its
status and no fill is settled against it. -/
theorem terminal_absorbing {pool pool' : TradingPool}
    (run : Pool.Run protocol IsRequest Untraded pool)
    (later : Relation.ReflTransGen (Pool.Step protocol IsRequest) pool pool') :
    Absorbed pool.store pool'.store := by
  have reached : Pool.Run protocol IsRequest Untraded pool' ∧ Absorbed pool.store pool'.store := by
    induction later with
    | refl => exact ⟨run, absorbed_refl _⟩
    | tail before step ih =>
      refine ⟨ih.1.step step, ih.2.trans ?_⟩
      rcases ih.1.guarantee proved step with same | ⟨pid, guaranteed⟩
      · rw [same]
        exact absorbed_refl _
      · exact guaranteed.1
  exact reached.2

/-- Order 1 is filled before anyone tries to cancel it. -/
theorem terminal_absorbing_filled : ∃ s s' : Store,
    (s.orders.lookup 1).map Order.status = some .filled ∧ Absorbed s s' := by
  let allows pid call s (_ : Except Failure (TradingCall.Reply call)) := timely pid call s
  have played : ((schedule allows [.arrive 1 (.placeOrder 1 sellOne), .calls 1 100,
      .arrive 2 (.placeOrder 2 buyOne), .calls 2 100] ⟨smallExchange, ∅⟩).bind fun pool =>
        (schedule allows [.arrive 3 (.cancelOrder 1 1), .calls 3 100] pool).map fun _ =>
          (pool.store.orders.lookup 1).map Order.status) = some (some .filled) := by
    decide +kernel
  obtain ⟨pool, first, rest⟩ := Option.bind_eq_some_iff.mp played
  obtain ⟨pool', second, status⟩ := Option.map_eq_some_iff.mp rest
  have sound : ∀ pid call s reply s', allows pid call s reply → Makes pid call s reply s' →
      protocol.step pid call s reply s' := fun _ _ _ _ _ isTimely made => ⟨made, isTimely⟩
  exact ⟨pool.store, pool'.store, status, terminal_absorbing
    ((Pool.Run.start smallExchange_untraded).steps (schedule_steps sound first))
    (schedule_steps sound second)⟩

/-- A sell order is cancelled between its opening and its own pass; the pass
then writes OPEN over CANCELLED. -/
theorem cancelled_then_open :
    ¬∀ pool pool' : TradingPool, Pool.Run interleaved IsRequest Untraded pool →
      Relation.ReflTransGen (Pool.Step interleaved IsRequest) pool pool' →
        Absorbed pool.store pool'.store := by
  intro absorbing
  have played : ((schedule (fun _ _ _ _ => true) [.arrive 1 (.placeOrder 1 sellOne), .calls 1 6,
      .arrive 2 (.cancelOrder 1 1), .calls 2 100] ⟨smallExchange, ∅⟩).bind fun pool =>
        (schedule (fun _ _ _ _ => true) [.calls 1 100] pool).map fun pool' =>
          ((pool.store.orders.lookup 1).map Order.status,
            (pool'.store.orders.lookup 1).map Order.status)) =
      some (some .cancelled, some .open) := by decide +kernel
  obtain ⟨pool, first, rest⟩ := Option.bind_eq_some_iff.mp played
  obtain ⟨pool', second, statuses⟩ := Option.map_eq_some_iff.mp rest
  have sound : ∀ pid call s reply s', true → Makes pid call s reply s' →
      interleaved.step pid call s reply s' := fun _ _ _ _ _ _ made => made
  have run := (Pool.Run.start smallExchange_untraded).steps (schedule_steps sound first)
  simp only [Prod.mk.injEq, Option.map_eq_some_iff] at statuses
  obtain ⟨⟨order, before, isCancelled⟩, order', after, isOpen⟩ := statuses
  obtain ⟨⟨found, isFound, same⟩, -⟩ := absorbing pool pool' run (schedule_steps sound second) 1
    order before (by rw [isCancelled]; rfl)
  rw [after] at isFound
  cases isFound
  rw [isCancelled, isOpen] at same
  cases same

end Exchange.Trading.TerminalStates
