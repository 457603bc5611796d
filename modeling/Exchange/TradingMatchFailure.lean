import Exchange.TradingServiceRules

/-! A pass in which the settlement, the trade row or the maker's row of one fill
throws. What was settled before stays in the ledger, and the taker's row is
written only after the loop. -/
namespace Exchange.Trading.MatchFailure
open Ledger Service Protocol

/-- The call of a fill that throws. -/
inductive FailingCall where
  | settlement
  | tradeRow
  | makerUpdate
  deriving DecidableEq, Repr

/-- This is the call of this fill. -/
def isCall (point : FailingCall) (fillId : FillId) : TradingCall → Bool
  | .post input =>
    point = .settlement ∧ input.referenceType = some "trade" ∧
      input.referenceId = some (.trade fillId)
  | .createTrade data => point = .tradeRow ∧ data.fillId = fillId
  | .updateOrder id _ => point = .makerUpdate ∧ id = fillId.2
  | _ => false

/-- The one call throws and changes nothing; every other call succeeds. -/
def FailsAt (point : FailingCall) (fillId : FillId) (pid : OrderId) (call : TradingCall) (s : Store)
    (reply : Except Failure call.Reply) (s' : Store) : Prop :=
  if isCall point fillId call then (∃ failure, reply = .error failure) ∧ s' = s
  else (∃ value, reply = .ok value) ∧ ∃ now, perform pid now call s = some (reply, s')

/-- The row of this number has recorded the quantities and the quote amounts of
exactly the fills that were settled for it. -/
def Agrees (s : Store) (id : OrderId) : Prop :=
  ∀ order, s.orders.lookup id = some order →
    order.filledQuantity = settledQuantity s id ∧ order.quoteSpent = settledQuote s id

/-- The taker of a pass and the makers on the book it reads. -/
def involved (s : Store) (taker : Order) (market : Market) : List OrderId :=
  taker.id :: (loadRestingBook s market.symbol taker.side taker.userId bookScanLimit).map Order.id

/-- A pass begins: its order is unfilled, no fill has it as the taker, and all
rows agree with the ledger. -/
structure Begins (s : Store) (taker : Order) (market : Market) : Prop where
  keyed : Keyed s
  unfilled : ∃ row, s.orders.lookup taker.id = some row ∧ row.userId = taker.userId ∧
    row.filledQuantity = 0
  untaken : ∀ maker, Fresh s (taker.id, maker) ∧ s.trades.lookup (taker.id, maker) = none
  agree : ∀ id ∈ involved s taker market, Agrees s id

/-- Executions with one failing call, without interference. -/
def protocol (point : FailingCall) (fillId : FillId) : TradingProtocol where
  step := FailsAt point fillId
  inv _ := True
  rely _ s s' := s' = s
  guarantee _ _ _ := True

variable {point : FailingCall} {fillId : FillId} {pid : OrderId} {A : Assertion} {s s' : Store}

theorem alone : (protocol point fillId).Stable pid A := inTurn_stable

/-- A call other than the failing one. -/
theorem succeeds {call : TradingCall} {reply : Except Failure call.Reply}
    (made : (protocol point fillId).step pid call s reply s') (other : isCall point fillId call = false) :
    (∃ value, reply = .ok value) ∧ Makes pid call s reply s' := by
  simp only [protocol, FailsAt, other] at made
  obtain ⟨isOk, now, performed⟩ : (∃ value, reply = .ok value) ∧
    ∃ now, perform pid now call s = some (reply, s') := made
  exact ⟨isOk, .inl ⟨now, performed⟩⟩

/-- The failing call. -/
theorem fails {call : TradingCall} {reply : Except Failure call.Reply}
    (made : (protocol point fillId).step pid call s reply s') (this : isCall point fillId call) :
    (∃ failure, reply = .error failure) ∧ s' = s := by
  simpa only [protocol, FailsAt, if_pos this] using made

theorem Begins.excluded {taker : Order} {market : Market} (begins : Begins s taker market) :
    taker.id ∉ (loadRestingBook s market.symbol taker.side taker.userId bookScanLimit).map
      Order.id := by
  intro member
  obtain ⟨order, onBook, isTaker⟩ := List.mem_map.mp member
  obtain ⟨⟨id, found⟩, rests⟩ := mem_loadRestingBook onBook
  obtain ⟨row, isRow, user, -⟩ := begins.unfilled
  rw [← begins.keyed id order found, isTaker, isRow] at found
  cases found
  simp [isResting, user] at rests

theorem Begins.unsettled {taker : Order} {market : Market} (begins : Begins s taker market) :
    settledQuantity s taker.id = 0 := by
  obtain ⟨row, isRow, -, unfilled⟩ := begins.unfilled
  exact (begins.agree taker.id List.mem_cons_self row isRow).1.symm.trans unfilled

/-! ## The pass -/

variable {s₀ : Store} {taker maker : Order} {market : Market} {params : MarketParams} {k : ℕ}
  {loaded rows : List Order} {fill target : EngineFill} {done todo : List EngineFill}

/-- The loop has got to `todo`, at or before the fill that fails. The taker's
row is as it was, and so is the whole store until a first settlement. -/
structure Behind (s₀ : Store) (taker : Order) (market : Market) (params : MarketParams) (k : ℕ)
    (loaded rows : List Order) (done todo : List EngineFill) (s : Store) : Prop where
  isLoaded : loaded = loadRestingBook s₀ market.symbol taker.side taker.userId bookScanLimit
  split : (matched taker params loaded).fills = done ++ todo
  notPast : done.length ≤ k
  ids : rows.map Order.id = loaded.map Order.id
  unfilled : ∃ row, s.orders.lookup taker.id = some row ∧ row.filledQuantity = 0
  fresh : ∀ fill ∈ todo, Fresh s (taker.id, fill.makerOrderId) ∧
    s.trades.lookup (taker.id, fill.makerOrderId) = none
  untouched : done = [] → s = s₀
  settled : done ≠ [] → 0 < settledQuantity s taker.id

/-- The same between the settlement of a fill and the row of its maker. -/
structure Midway (s₀ : Store) (taker : Order) (market : Market) (params : MarketParams) (k : ℕ)
    (loaded rows : List Order) (maker : Order) (fill : EngineFill) (done todo : List EngineFill)
    (s : Store) : Prop where
  isLoaded : loaded = loadRestingBook s₀ market.symbol taker.side taker.userId bookScanLimit
  split : (matched taker params loaded).fills = done ++ fill :: todo
  notPast : done.length ≤ k
  ids : rows.map Order.id = loaded.map Order.id
  isMaker : maker.id = fill.makerOrderId
  unfilled : ∃ row, s.orders.lookup taker.id = some row ∧ row.filledQuantity = 0
  fresh : ∀ fill ∈ todo, Fresh s (taker.id, fill.makerOrderId) ∧
    s.trades.lookup (taker.id, fill.makerOrderId) = none
  settled : 0 < settledQuantity s taker.id

/-- How the pass ends: as it began if its first settlement failed, otherwise with
a taker row that lags behind the ledger. -/
def Aborted (s₀ : Store) (taker : Order) (k : ℕ) (point : FailingCall) (s : Store) : Prop :=
  if k = 0 ∧ point = .settlement then s = s₀
  else (∃ row, s.orders.lookup taker.id = some row ∧ row.filledQuantity = 0) ∧
    0 < settledQuantity s taker.id

theorem nodup_makers (params : MarketParams) (keyed : Keyed s₀)
    (isLoaded : loaded = loadRestingBook s₀ market.symbol taker.side taker.userId bookScanLimit) :
    ((matched taker params loaded).fills.map EngineFill.makerOrderId).Nodup := by
  rw [isLoaded]
  exact (loadRestingBook_ids_nodup keyed).sublist (fills_makers_sublist _ _ _)

/-- The fills of a pass have different makers, so a maker tells the fill. -/
theorem isTarget_iff (keyed : Keyed s₀)
    (isLoaded : loaded = loadRestingBook s₀ market.symbol taker.side taker.userId bookScanLimit)
    (split : (matched taker params loaded).fills = done ++ fill :: todo)
    (isTarget : (matched taker params loaded).fills[k]? = some target) :
    fill.makerOrderId = target.makerOrderId ↔ done.length = k := by
  have makers := nodup_makers params keyed isLoaded
  have here : (matched taker params loaded).fills[done.length]? = some fill := by
    rw [split]
    simp
  constructor
  · intro same
    obtain ⟨inside, -⟩ := List.getElem?_eq_some_iff.mp here
    apply (List.getElem?_inj (by simpa using inside) makers).mp
    simp [List.getElem?_map, here, isTarget, same]
  · rintro rfl
    rw [here] at isTarget
    cases isTarget
    rfl

theorem load_triple (begins : Begins s₀ taker market) :
    (protocol point fillId).Triple pid (fun s => s = s₀)
      (ask (.loadRestingBook market.symbol taker.side taker.userId bookScanLimit))
      (ends (fun loaded s => ∃ done, Behind s₀ taker market params k loaded loaded done
        (matched taker params loaded).fills s) fun _ => Aborted s₀ taker k point) := by
  apply Triple.call alone
  rintro s reply s' - rfl made
  obtain ⟨⟨loaded, rfl⟩, made⟩ := succeeds made rfl
  obtain ⟨rfl, answer⟩ := made.loadRestingBook
  obtain ⟨row, isRow, -, unfilled⟩ := begins.unfilled
  exact ⟨trivial, trivial, [], answer loaded rfl, rfl, Nat.zero_le k, rfl, ⟨row, isRow, unfilled⟩,
    fun fill _ => begins.untaken fill.makerOrderId, fun _ => rfl, fun some => (some rfl).elim⟩

theorem Behind.settled_nonneg (behind : Behind s₀ taker market params k loaded rows done todo s)
    (begins : Begins s₀ taker market) : 0 ≤ settledQuantity s taker.id := by
  by_cases first : done = []
  · rw [behind.untouched first, begins.unsettled]
  · exact (behind.settled first).le

theorem settle_triple (begins : Begins s₀ taker market)
    (isTarget : (matched taker params (loadRestingBook s₀ market.symbol taker.side taker.userId
      bookScanLimit)).fills[k]? = some target) (isMaker : maker.id = fill.makerOrderId) :
    (protocol point (taker.id, target.makerOrderId)).Triple pid
      (Behind s₀ taker market params k loaded rows done (fill :: todo))
      (ask (.post (settlement taker maker fill market params).input))
      (ends (fun _ s => (Midway s₀ taker market params k loaded rows maker fill done todo s ∧
          s.trades.lookup (taker.id, maker.id) = none) ∧
        (done.length = k → point ≠ .settlement)) fun _ => Aborted s₀ taker k point) := by
  apply Triple.call alone
  rintro s reply s' - behind made
  have here := isTarget_iff begins.keyed behind.isLoaded behind.split (behind.isLoaded ▸ isTarget)
  have isCall_iff : isCall point (taker.id, target.makerOrderId)
      (.post (settlement taker maker fill market params).input) ↔
      point = .settlement ∧ done.length = k := by
    simp [isCall, settlement, isMaker, here]
  by_cases this : point = .settlement ∧ done.length = k
  · obtain ⟨⟨failure, rfl⟩, rfl⟩ := fails made (isCall_iff.mpr this)
    obtain ⟨rfl, rfl⟩ := this
    refine ⟨trivial, trivial, ?_⟩
    show Aborted s₀ taker done.length .settlement s'
    unfold Aborted
    split
    · rename_i first
      exact behind.untouched (List.length_eq_zero_iff.mp first.1)
    · rename_i later
      refine ⟨behind.unfilled, behind.settled fun first => later ⟨?_, rfl⟩⟩
      rw [first]
      rfl
  · obtain ⟨⟨txn, rfl⟩, made⟩ := succeeds made
      (Bool.eq_false_iff.mpr fun isThis => this (isCall_iff.mp isThis))
    obtain ⟨fresh, unrecorded⟩ := behind.fresh fill List.mem_cons_self
    have makers := nodup_makers params begins.keyed behind.isLoaded
    rw [behind.split, List.map_append] at makers
    have distinct := (List.nodup_cons.mp (List.nodup_append.mp makers).2.1).1
    rcases made.post with ⟨⟨failure, failed⟩, -⟩ | ⟨txn', -, -, posted⟩ |
      ⟨txn', ledger, -, recorded, -, rfl⟩
    · cases failed
    · rw [← isMaker] at fresh
      cases fresh.notFound.symm.trans posted
    · refine ⟨trivial, trivial, ⟨⟨behind.isLoaded, behind.split, behind.notPast, behind.ids, isMaker,
        behind.unfilled, fun later member => ?_, ?_⟩, isMaker ▸ unrecorded⟩,
        fun isHere isPoint => this ⟨isPoint, isHere⟩⟩
      · obtain ⟨unsettled, unrecorded'⟩ := behind.fresh later (List.mem_cons_of_mem _ member)
        refine ⟨unsettled.settled recorded fun same => ?_, unrecorded'⟩
        exact distinct (List.mem_map.mpr ⟨later, member, same.symm.trans isMaker⟩)
      · rw [settledQuantity, settled_recorded recorded, if_pos (.inl rfl)]
        exact add_pos_of_nonneg_of_pos (behind.settled_nonneg begins) (lockedDebit_base_pos recorded)

/-- A settled fill leaves the taker's row behind, whatever comes next. -/
theorem Midway.aborted (midway : Midway s₀ taker market params k loaded rows maker fill done todo s)
    (late : point ≠ .settlement) : Aborted s₀ taker k point s := by
  rw [Aborted, if_neg fun early => late early.2]
  exact ⟨midway.unfilled, midway.settled⟩

theorem record_triple (begins : Begins s₀ taker market)
    (isTarget : (matched taker params (loadRestingBook s₀ market.symbol taker.side taker.userId
      bookScanLimit)).fills[k]? = some target) (txnId : ℕ) :
    (protocol point (taker.id, target.makerOrderId)).Triple pid
      (fun s => (Midway s₀ taker market params k loaded rows maker fill done todo s ∧
          s.trades.lookup (taker.id, maker.id) = none) ∧
        (done.length = k → point ≠ .settlement))
      (recordTrade (tradeRow taker maker fill market (settlement taker maker fill market params)
        txnId))
      (ends (fun _ s => Midway s₀ taker market params k loaded rows maker fill done todo s ∧
          (done.length = k → point = .makerUpdate)) fun _ => Aborted s₀ taker k point) := by
  apply recordTrade_triple (C := fun s =>
    (Midway s₀ taker market params k loaded rows maker fill done todo s ∧
      s.trades.lookup (taker.id, maker.id) = none) ∧ point = .tradeRow)
  · apply Triple.call alone
    rintro s reply s' - ⟨⟨midway, unrecorded⟩, notSettlement⟩ made
    have here := isTarget_iff begins.keyed midway.isLoaded midway.split
      (midway.isLoaded ▸ isTarget)
    have isCall_iff : isCall point (taker.id, target.makerOrderId)
        (.createTrade (tradeRow taker maker fill market
          (settlement taker maker fill market params) txnId)) ↔
        point = .tradeRow ∧ done.length = k := by
      simp [isCall, tradeRow, midway.isMaker, here]
    by_cases this : point = .tradeRow ∧ done.length = k
    · obtain ⟨⟨failure, rfl⟩, rfl⟩ := fails made (isCall_iff.mpr this)
      exact ⟨trivial, trivial, ⟨midway, unrecorded⟩, this.1⟩
    · obtain ⟨⟨trade, rfl⟩, made⟩ := succeeds made
        (Bool.eq_false_iff.mpr fun isThis => this (isCall_iff.mp isThis))
      have makers := nodup_makers params begins.keyed midway.isLoaded
      rw [midway.split, List.map_append] at makers
      have distinct := (List.nodup_cons.mp (List.nodup_append.mp makers).2.1).1
      rcases made.createTrade with ⟨trade', -, rfl⟩ | ⟨⟨failure, failed⟩, -⟩
      · refine ⟨trivial, trivial, ⟨midway.isLoaded, midway.split, midway.notPast, midway.ids,
          midway.isMaker, midway.unfilled, fun later member => ?_, midway.settled⟩, fun isHere => ?_⟩
        · obtain ⟨unsettled, unrecorded'⟩ := midway.fresh later member
          refine ⟨unsettled, (AList.lookup_insert_ne fun same => distinct ?_).trans unrecorded'⟩
          simp only [tradeRow, Prod.mk.injEq, true_and] at same
          exact List.mem_map.mpr ⟨later, member, same.trans midway.isMaker⟩
        · cases point with
          | settlement => exact (notSettlement isHere rfl).elim
          | tradeRow => exact (this ⟨rfl, isHere⟩).elim
          | makerUpdate => rfl
      · cases failed
  · rintro s - ⟨⟨midway, -⟩, isTradeRow⟩
    exact midway.aborted (by simp [isTradeRow])
  · apply Triple.call alone
    rintro s reply s' - ⟨⟨midway, unrecorded⟩, isTradeRow⟩ made
    obtain ⟨⟨found, rfl⟩, made⟩ := succeeds made rfl
    obtain ⟨same, answer⟩ := made.findTradeByFillId
    obtain rfl := same
    obtain rfl : found = none := (answer found rfl).trans unrecorded
    exact ⟨trivial, trivial, midway.aborted (by simp [isTradeRow])⟩

theorem advance_triple (begins : Begins s₀ taker market)
    (isTarget : (matched taker params (loadRestingBook s₀ market.symbol taker.side taker.userId
      bookScanLimit)).fills[k]? = some target) :
    (protocol point (taker.id, target.makerOrderId)).Triple pid
      (fun s => Midway s₀ taker market params k loaded rows maker fill done todo s ∧
        (done.length = k → point = .makerUpdate))
      (ask (.updateOrder maker.id (makerPatch maker fill)))
      (ends (fun _ => Behind s₀ taker market params k loaded (refreshed maker fill rows)
        (done ++ [fill]) todo) fun _ => Aborted s₀ taker k point) := by
  apply Triple.call alone
  rintro s reply s' - ⟨midway, isUpdate⟩ made
  have here := isTarget_iff begins.keyed midway.isLoaded midway.split (midway.isLoaded ▸ isTarget)
  have isCall_iff : isCall point (taker.id, target.makerOrderId)
      (.updateOrder maker.id (makerPatch maker fill)) ↔
      point = .makerUpdate ∧ done.length = k := by
    simp [isCall, midway.isMaker, here]
  by_cases this : point = .makerUpdate ∧ done.length = k
  · obtain ⟨⟨failure, rfl⟩, rfl⟩ := fails made (isCall_iff.mpr this)
    exact ⟨trivial, trivial, midway.aborted (by simp [this.1])⟩
  · obtain ⟨⟨updated, rfl⟩, made⟩ := succeeds made
      (Bool.eq_false_iff.mpr fun isThis => this (isCall_iff.mp isThis))
    have notTaker : taker.id ≠ maker.id := by
      intro same
      apply begins.excluded
      rw [← midway.isLoaded, same, midway.isMaker]
      exact (fills_makers_sublist _ _ _).subset (List.mem_map.mpr
        ⟨fill, midway.split ▸ List.mem_append_right done List.mem_cons_self, rfl⟩)
    have notHere : done.length ≠ k := fun isHere => this ⟨isUpdate isHere, isHere⟩
    rcases made.updateOrder with ⟨row, -, -, -, rfl⟩ | ⟨⟨failure, failed⟩, -⟩
    · obtain ⟨own, isOwn, unfilled⟩ := midway.unfilled
      refine ⟨trivial, trivial, midway.isLoaded, by simpa using midway.split, ?_,
        refreshed_ids.trans midway.ids, ⟨own, (AList.lookup_insert_ne notTaker).trans isOwn, unfilled⟩,
        midway.fresh, fun none => ?_, fun _ => midway.settled⟩
      · have before := midway.notPast
        rw [List.length_append, List.length_singleton]
        omega
      · simp at none
    · cases failed

theorem release_triple (order : Order) :
    (protocol point fillId).Triple pid
      (Behind s₀ taker market params k loaded rows (done ++ [fill]) todo) (releaseSurplus order)
      (ends (fun _ => Behind s₀ taker market params k loaded rows (done ++ [fill]) todo)
        fun _ => Aborted s₀ taker k point) := by
  apply releaseSurplus_triple
  · exact fun _ _ behind _ => behind
  intro asset amount _ _ _
  have other : (orderUnlock order asset (amount.sub (spent order))).referenceType ≠
    some "trade" := by simp [orderUnlock]
  apply Triple.call alone
  rintro s reply s' - behind made
  obtain ⟨⟨txn, rfl⟩, made⟩ := succeeds made (by simp [isCall, orderUnlock])
  rcases made.post with ⟨⟨failure, failed⟩, -⟩ | ⟨txn', -, rfl, -⟩ |
    ⟨txn', ledger, -, recorded, -, rfl⟩
  · cases failed
  · exact ⟨trivial, trivial, behind⟩
  · have same : settlements { s with ledger } taker.id = settlements s taker.id := by
      rw [settlements_recorded recorded, not_settles recorded other]
      exact List.append_nil _
    refine ⟨trivial, trivial, behind.isLoaded, behind.split, behind.notPast, behind.ids,
      behind.unfilled, fun later member => ?_, fun none => by simp at none, fun nonempty => ?_⟩
    · exact ⟨(behind.fresh later member).1.ledger recorded other, (behind.fresh later member).2⟩
    · rw [settledQuantity_congr same]
      exact behind.settled nonempty

def pass (pid : OrderId) (point : FailingCall) (begins : Begins s₀ taker market)
    (isTarget : (matched taker params (loadRestingBook s₀ market.symbol taker.side taker.userId
      bookScanLimit)).fills[k]? = some target) :
    Pass (protocol point (taker.id, target.makerOrderId)) pid taker market params where
  start s := s = s₀
  next loaded rows todo s := ∃ done, Behind s₀ taker market params k loaded rows done todo s
  settled loaded rows maker fill todo s := ∃ done,
    (Midway s₀ taker market params k loaded rows maker fill done todo s ∧
      s.trades.lookup (taker.id, maker.id) = none) ∧ (done.length = k → point ≠ .settlement)
  traded loaded rows maker fill todo s := ∃ done,
    Midway s₀ taker market params k loaded rows maker fill done todo s ∧
      (done.length = k → point = .makerUpdate)
  advanced loaded rows maker fill todo s := ∃ done,
    Behind s₀ taker market params k loaded (refreshed maker fill rows) (done ++ [fill]) todo s
  finalized _ _ _ := False
  done _ := False
  aborted := Aborted s₀ taker k point
  load := load_triple begins
  skip loaded rows fill todo s _ behind missing := by
    obtain ⟨done, behind⟩ := behind
    have onBook := (fills_makers_sublist (takerInput taker) loaded params).subset (List.mem_map.mpr
      ⟨fill, behind.split ▸ List.mem_append_right done List.mem_cons_self, rfl⟩)
    rw [← behind.ids] at onBook
    obtain ⟨order, inRows, isMaker⟩ := List.mem_map.mp onBook
    have none := List.find?_eq_none.mp missing order inRows
    simp [isMaker] at none
  settle loaded rows maker fill todo found := by
    apply Triple.exists
    intro done
    apply (settle_triple begins isTarget (by simpa using List.find?_some found)).imp
      (fun _ _ behind => behind)
    rintro (failure | txn) s _ holds
    · exact holds
    · exact ⟨done, holds⟩
  record loaded rows maker fill todo txnId := by
    apply Triple.exists
    intro done
    apply (record_triple begins isTarget txnId).imp (fun _ _ midway => midway)
    rintro (failure | trade) s _ holds
    · exact holds
    · exact ⟨done, holds⟩
  advance loaded rows maker fill todo := by
    apply Triple.exists
    intro done
    apply (advance_triple begins isTarget).imp (fun _ _ midway => midway)
    rintro (failure | updated) s _ holds
    · exact holds
    · exact ⟨done, holds⟩
  release loaded rows maker fill todo _ := by
    apply Triple.exists
    intro done
    apply (release_triple (Service.advanced maker fill)).imp (fun _ _ behind => behind)
    rintro (failure | txn) s _ holds
    · exact holds
    · exact ⟨done ++ [fill], holds⟩
  keep loaded rows maker fill todo s _ _ behind := by
    obtain ⟨done, behind⟩ := behind
    exact ⟨done ++ [fill], behind⟩
  finalize loaded rows := by
    apply Triple.absurd
    rintro s - ⟨done, behind⟩
    have all : (matched taker params loaded).fills = done := by simpa using behind.split
    have reached : (matched taker params loaded).fills[k]? = some target :=
      behind.isLoaded ▸ isTarget
    obtain ⟨inside, -⟩ := List.getElem?_eq_some_iff.mp reached
    have notPast := behind.notPast
    rw [all] at inside
    omega
  close _ _ _ := Triple.absurd fun _ _ never => never
  rest _ _ _ _ _ never := never

/-- Mid-match failure: for every book, every taker and every fill, when the
settlement, the trade row or the maker's update of the fill throws, the pass
throws, and afterwards the rows of the taker and of all makers agree with the
ledger if and only if it was the settlement of the first fill. -/
theorem failed_pass_agrees_iff (begins : Begins s taker market)
    (isFill : (matched taker params (loadRestingBook s market.symbol taker.side taker.userId
      bookScanLimit)).fills[k]? = some fill)
    (ran : Async.Exec (FailsAt point (taker.id, fill.makerOrderId) pid)
      (matchAndSettle taker market params) s result s') :
    (∃ failure, result = .error failure) ∧
      ((∀ id ∈ involved s taker market, Agrees s' id) ↔ k = 0 ∧ point = .settlement) := by
  have ended := ((pass pid point begins isFill).matchAndSettle.exec trivial rfl ran).2
  cases result with
  | ok fills => exact ended.elim
  | error failure =>
    refine ⟨⟨failure, rfl⟩, ?_⟩
    have aborted : Aborted s taker k point s' := ended
    unfold Aborted at aborted
    split at aborted
    · rename_i early
      subst aborted
      exact ⟨fun _ => early, fun _ => begins.agree⟩
    · rename_i late
      obtain ⟨⟨row, isRow, unfilled⟩, settled⟩ := aborted
      refine ⟨fun agree => ?_, fun early => (late early).elim⟩
      have same := (agree taker.id List.mem_cons_self row isRow).1
      linarith

/-! ## One fill -/

private def untraded (s : Store) : Bool :=
  (s.orders.rows.all fun (id, order) =>
    order.id = id && order.filledQuantity = 0 && order.quoteSpent = 0) &&
  (s.ledger.transactions.all fun txn => txn.referenceType ≠ some "trade") && s.trades.rows.isEmpty

private theorem begins_of_untraded (new : untraded s) (found : s.orders.lookup taker.id = some taker) :
    Begins s taker market := by
  simp only [untraded, Bool.and_eq_true, List.all_eq_true, decide_eq_true_eq,
    List.isEmpty_iff] at new
  obtain ⟨⟨rows, unsettled⟩, trades⟩ := new
  have row : ∀ id order, s.orders.lookup id = some order →
      (order.id = id ∧ order.filledQuantity = 0) ∧ order.quoteSpent = 0 :=
    fun id order isRow => rows (id, order) (Table.mem_rows.mpr isRow)
  have none : ∀ id, settlements s id = [] := by
    intro id
    apply List.filter_eq_nil_iff.mpr
    intro txn member
    simp [settles, unsettled txn member]
  refine ⟨fun id order isRow => (row id order isRow).1.1, ⟨taker, found, rfl, (row _ _ found).1.2⟩,
    fun maker => ⟨fun txn member trade => (unsettled txn member trade).elim, ?_⟩,
    fun id _ order isRow => ?_⟩
  · by_contra present
    obtain ⟨trade, isTrade⟩ := Option.ne_none_iff_exists'.mp present
    have member := Table.mem_rows.mpr isTrade
    rw [trades] at member
    cases member
  · rw [(row id order isRow).1.2, (row id order isRow).2, settledQuantity, settledQuote,
      settled_nil (none id), settled_nil (none id)]
    exact ⟨rfl, rfl⟩

/-- A buy order that is about to meet a resting sell order, and the store that
its pass leaves when one call throws. -/
private def oneFill (point : FailingCall) : Option (Store × Order × Store) := do
  let pool ← schedule (fun _ _ _ _ => true) [.arrive 1 (.placeOrder 1 sellOne), .calls 1 100,
    .arrive 2 (.placeOrder 2 buyOne), .calls 2 7] ⟨smallExchange, ∅⟩
  let taker ← pool.store.orders.lookup 2
  let (_, s') ← Async.execute
    (fun _ call s => if isCall point (2, 1) call then some (.error (.database "lost"), s)
      else (perform 2 0 call s).filter fun (reply, _) => reply.isOk)
    0 (matchAndSettle taker usdtInr usdtInrParams) pool.store
  return (pool.store, taker, s')

private theorem oneFill_runs (ran : oneFill point = some (s, taker, s')) :
    ∃ result, Async.Exec (FailsAt point (2, 1) 2) (matchAndSettle taker usdtInr usdtInrParams) s
      result s' := by
  simp only [oneFill, Option.bind_eq_bind, Option.bind_eq_some_iff, Option.pure_def,
    Option.some.injEq, Prod.mk.injEq] at ran
  obtain ⟨pool, -, taker', -, ⟨result, store⟩, executed, rfl, rfl, rfl⟩ := ran
  refine ⟨result, Async.exec_of_execute ?_ executed⟩
  intro _ call s reply s' made
  unfold FailsAt
  split at made
  · rename_i this
    cases made
    rw [if_pos this]
    exact ⟨⟨_, rfl⟩, rfl⟩
  · rename_i other
    obtain ⟨performed, isOk⟩ := Option.filter_eq_some_iff.mp made
    rw [if_neg other]
    refine ⟨?_, 0, performed⟩
    cases reply with
    | ok value => exact ⟨value, rfl⟩
    | error failure => cases isOk

/-- When the first settlement is lost, nothing has happened. -/
theorem failed_pass_agrees_first : ∃ (s s' : Store) (taker : Order),
    s.orders.lookup 2 = some taker ∧ ∀ id ∈ involved s taker usdtInr, Agrees s' id := by
  have facts : (oneFill .settlement).map (fun (s, taker, _) =>
      (untraded s, taker.id, decide (s.orders.lookup 2 = some taker),
        (matched taker usdtInrParams (loadRestingBook s usdtInr.symbol taker.side taker.userId
          bookScanLimit)).fills)) = some (true, 2, true, [⟨1, 1, 90, 1, 90⟩]) := by
    decide +kernel
  obtain ⟨⟨s, taker, s'⟩, ran, facts⟩ := Option.map_eq_some_iff.mp facts
  simp only [Prod.mk.injEq, decide_eq_true_eq] at facts
  obtain ⟨new, isTaker, found, fills⟩ := facts
  obtain ⟨result, executed⟩ := oneFill_runs ran
  have first : (matched taker usdtInrParams (loadRestingBook s usdtInr.symbol taker.side
      taker.userId bookScanLimit)).fills[0]? = some ⟨1, 1, 90, 1, 90⟩ := by
    rw [fills]
    rfl
  refine ⟨s, s', taker, found, ?_⟩
  rw [← isTaker] at executed found
  exact ((failed_pass_agrees_iff (begins_of_untraded new found) first executed).2).mpr ⟨rfl, rfl⟩

/-- When the trade row of the first fill is refused, the ledger has moved 1 USDT
and the rows of both orders say nothing was filled. -/
theorem trade_row_refused :
    ¬∀ (pid : OrderId) (s s' : Store) (taker : Order) (market : Market) (params : MarketParams)
        (k : ℕ) (fill : EngineFill) (point : FailingCall) (result : Except Failure (List EngineFill)),
      Begins s taker market →
      (matched taker params (loadRestingBook s market.symbol taker.side taker.userId
        bookScanLimit)).fills[k]? = some fill →
      Async.Exec (FailsAt point (taker.id, fill.makerOrderId) pid)
        (matchAndSettle taker market params) s result s' →
      ∀ id ∈ involved s taker market, Agrees s' id := by
  intro agrees
  have facts : (oneFill .tradeRow).map (fun (s, taker, s') =>
      ((untraded s, taker.id, decide (s.orders.lookup 2 = some taker),
        (matched taker usdtInrParams (loadRestingBook s usdtInr.symbol taker.side taker.userId
          bookScanLimit)).fills), (s'.orders.lookup 2).map Order.filledQuantity,
        settledQuantity s' 2)) = some ((true, 2, true, [⟨1, 1, 90, 1, 90⟩]), some 0, 1) := by
    decide +kernel
  obtain ⟨⟨s, taker, s'⟩, ran, facts⟩ := Option.map_eq_some_iff.mp facts
  simp only [Prod.mk.injEq, decide_eq_true_eq, Option.map_eq_some_iff] at facts
  obtain ⟨⟨new, isTaker, found, fills⟩, ⟨row, isRow, unfilled⟩, settled⟩ := facts
  obtain ⟨result, executed⟩ := oneFill_runs ran
  rw [← isTaker] at executed found isRow settled
  have same := (agrees taker.id s s' taker usdtInr usdtInrParams 0 ⟨1, 1, 90, 1, 90⟩ .tradeRow
    result (begins_of_untraded new found) (by rw [fills]; rfl) executed taker.id
    List.mem_cons_self row isRow).1
  rw [unfilled, settled] at same
  exact absurd same (by decide)

end Exchange.Trading.MatchFailure
