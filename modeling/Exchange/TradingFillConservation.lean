import Exchange.TradingServiceRules

/-! Filled quantities agree with the ledger whenever no request is in flight,
as long as no pass starts on an order that has been filled meanwhile and no
pass breaks off between a settlement and the rows. -/
namespace Exchange.Trading.FillConservation
open SignificantDigits Ledger Service Protocol

/-- The row of this number has recorded what was settled for it. -/
def Agrees (s : Store) (id : OrderId) : Prop :=
  ∀ order, s.orders.lookup id = some order → order.filledQuantity = settledQuantity s id

/-- The precision under which a market trades. -/
def paramsAt (s : Store) (marketId : String) : MarketParams :=
  match s.markets marketId with
  | some market => marketParams market (assetDecimals s [market.baseAsset, market.quoteAsset])
  | none => marketParams usdtInr []

/-- The base scale fits the columns, and 20 digits hold the quantities of the
book together. -/
def inRange (s : Store) (marketId : String) (loaded : List Order) : Bool :=
  (paramsAt s marketId).baseScale ≤ 18 ∧
    (loaded.map fun order => order.quantity.getD 0).sum <
      10 ^ (20 - ((paramsAt s marketId).baseScale : ℤ))

/-- A pass reads the book while its own order has not been filled and the book
is in range. -/
def timely (pid : OrderId) (call : TradingCall) (s : Store) (reply : Except Failure call.Reply) :
    Bool :=
  match call, reply with
  | .loadRestingBook marketId _ _ _, .ok loaded =>
    (s.orders.lookup pid).all (fun order => order.filledQuantity = 0) && inRange s marketId loaded
  | _, _ => true

/-- A call under a market's lock fails only while the request's own row agrees
with the ledger: before its first settlement, or after its last write. -/
def FailsEarly (pid : OrderId) (call : TradingCall) (s : Store)
    (reply : Except Failure call.Reply) : Prop :=
  (∃ failure, reply = .error failure) → (∃ marketId, s.locks marketId = some pid) → Agrees s pid

structure Invariant (s : Store) : Prop where
  keyed : Keyed s
  quantity_nonneg : ∀ id order, s.orders.lookup id = some order → 0 ≤ order.quantity.getD 0
  filled_nonneg : ∀ id order, s.orders.lookup id = some order → 0 ≤ order.filledQuantity
  filled_grid : ∀ id order, s.orders.lookup id = some order →
    OnGrid (paramsAt s order.marketId).baseScale order.filledQuantity
  within : ∀ id order, s.orders.lookup id = some order → ordersFilledChk order
  parties : ∀ id, s.orders.lookup id = none → settlements s id = []
  balanced : ∀ id order, s.orders.lookup id = some order → s.locks order.marketId = none →
    order.filledQuantity = settledQuantity s id

/-- A row of a held market, and what was settled for it, as it was, or a new
row. -/
def Frozen (s s' : Store) (id : OrderId) (order' : Order) : Prop :=
  (∃ order, s.orders.lookup id = some order ∧ order'.filledQuantity = order.filledQuantity ∧
    settlements s' id = settlements s id) ∨
  s.orders.lookup id = none ∧ order'.filledQuantity = 0 ∧ settlements s' id = []

/-- What others leave alone: the catalog, the locks the request holds and does
not hold, its fills, the identity of rows, and what is filled in a market while
the request holds its lock. -/
structure Rely (pid : OrderId) (s s' : Store) : Prop where
  catalog : s'.markets = s.markets ∧ s'.assets = s.assets
  held : ∀ marketId, s'.locks marketId = some pid ↔ s.locks marketId = some pid
  own : s.orders.lookup pid = none → s'.orders.lookup pid = none
  fresh : ∀ maker, Fresh s (pid, maker) → Fresh s' (pid, maker)
  rows : ∀ id order, s.orders.lookup id = some order → ∃ order', s'.orders.lookup id = some order' ∧
    order'.marketId = order.marketId ∧ order'.userId = order.userId ∧
      order'.quantity = order.quantity
  frozen : ∀ id order', s'.orders.lookup id = some order' →
    s.locks order'.marketId = some pid → Frozen s s' id order'

def protocol : TradingProtocol where
  step pid call s reply s' :=
    Makes pid call s reply s' ∧ timely pid call s reply ∧ FailsEarly pid call s reply
  inv := Invariant
  rely := Rely
  guarantee pid s s' := ∀ other ≠ pid, Rely other s s'

variable {pid id : OrderId} {s s' : Store} {order : Order} {data : OrderPatch}
  {marketId : String}

theorem rely_refl : Rely pid s s where
  catalog := ⟨rfl, rfl⟩
  held _ := Iff.rfl
  own none := none
  fresh _ fresh := fresh
  rows _ order found := ⟨order, found, rfl, rfl, rfl⟩
  frozen _ order found _ := .inl ⟨order, found, rfl, rfl⟩

theorem idle : protocol.guarantee pid s s := fun _ _ => rely_refl

theorem serves : Serves protocol pid where
  makes _ _ _ _ step := step.1
  idle _ _ := idle
  catalog _ _ rely := rely.catalog

/-! ## What the writes keep and guarantee -/

/-- Another row's update, or one that leaves what is filled alone. -/
theorem update_guarantee (found : s.orders.lookup id = some order)
    (owned : (patched data order).filledQuantity = order.filledQuantity ∨
      s.locks order.marketId = some pid) :
    protocol.guarantee pid s { s with orders := s.orders.insert id (patched data order) } := by
  intro other ne
  refine ⟨⟨rfl, rfl⟩, fun _ => Iff.rfl, fun none => ?_, fun _ fresh => fresh,
    fun id' row isRow => ?_, fun id' row isRow held => ?_⟩
  · by_cases same : other = id
    · subst same
      cases none.symm.trans found
    · exact (AList.lookup_insert_ne same).trans none
  · by_cases same : id' = id
    · subst same
      rw [isRow] at found
      cases found
      exact ⟨_, AList.lookup_insert _, rfl, rfl, rfl⟩
    · exact ⟨row, (AList.lookup_insert_ne same).trans isRow, rfl, rfl, rfl⟩
  · by_cases same : id' = id
    · subst same
      rw [AList.lookup_insert] at isRow
      cases isRow
      rcases owned with unchanged | mine
      · exact .inl ⟨order, found, unchanged, rfl⟩
      · exact (ne (Option.some.inj (held.symm.trans mine))).elim
    · rw [AList.lookup_insert_ne same] at isRow
      exact .inl ⟨row, isRow, rfl, rfl⟩

/-- An update keeps the invariant if its row's market is held or what is filled
does not change. -/
theorem update_invariant (inv : Invariant s) (found : s.orders.lookup id = some order)
    (nonneg : 0 ≤ (patched data order).filledQuantity)
    (grid : OnGrid (paramsAt s order.marketId).baseScale (patched data order).filledQuantity)
    (within : ordersFilledChk (patched data order))
    (balanced : s.locks order.marketId = none →
      (patched data order).filledQuantity = order.filledQuantity) :
    Invariant { s with orders := s.orders.insert id (patched data order) } := by
  have rows : ∀ {motive : OrderId → Order → Prop}, motive id (patched data order) →
      (∀ other row, s.orders.lookup other = some row → motive other row) →
      ∀ other row, (s.orders.insert id (patched data order)).lookup other = some row →
        motive other row := by
    intro motive here there other row isRow
    by_cases same : other = id
    · subst same
      rw [AList.lookup_insert] at isRow
      cases isRow
      exact here
    · rw [AList.lookup_insert_ne same] at isRow
      exact there other row isRow
  refine ⟨inv.keyed.insert (inv.keyed id order found), rows ?_ inv.quantity_nonneg,
    rows nonneg inv.filled_nonneg, rows grid inv.filled_grid, rows within inv.within,
    fun other missing => ?_, rows ?_ inv.balanced⟩
  · exact inv.quantity_nonneg id order found
  · by_cases same : other = id
    · subst same
      rw [AList.lookup_insert] at missing
      cases missing
    · rw [AList.lookup_insert_ne same] at missing
      exact inv.parties other missing
  · intro free
    rw [balanced free]
    exact inv.balanced id order found free

theorem create_guarantee (inv : Invariant s) (missing : s.orders.lookup pid = none)
    (unfilled : order.filledQuantity = 0) :
    protocol.guarantee pid s { s with orders := s.orders.insert pid order } := by
  intro other ne
  refine ⟨⟨rfl, rfl⟩, fun _ => Iff.rfl, fun none => ?_, fun _ fresh => fresh,
    fun id row isRow => ?_, fun id row isRow held => ?_⟩
  · exact (AList.lookup_insert_ne ne).trans none
  · refine ⟨row, (AList.lookup_insert_ne ?_).trans isRow, rfl, rfl, rfl⟩
    rintro rfl
    cases missing.symm.trans isRow
  · by_cases same : id = pid
    · subst same
      rw [AList.lookup_insert] at isRow
      cases isRow
      exact .inr ⟨missing, unfilled, inv.parties id missing⟩
    · rw [AList.lookup_insert_ne same] at isRow
      exact .inl ⟨row, isRow, rfl, rfl⟩

theorem create_invariant (inv : Invariant s) (missing : s.orders.lookup pid = none)
    (isPid : order.id = pid) (nonneg : 0 ≤ order.quantity.getD 0)
    (unfilled : order.filledQuantity = 0) (within : ordersFilledChk order) :
    Invariant { s with orders := s.orders.insert pid order } := by
  have rows : ∀ {motive : OrderId → Order → Prop}, motive pid order →
      (∀ other row, s.orders.lookup other = some row → motive other row) →
      ∀ other row, (s.orders.insert pid order).lookup other = some row → motive other row := by
    intro motive here there other row isRow
    by_cases same : other = pid
    · subst same
      rw [AList.lookup_insert] at isRow
      cases isRow
      exact here
    · rw [AList.lookup_insert_ne same] at isRow
      exact there other row isRow
  refine ⟨inv.keyed.insert isPid, rows nonneg inv.quantity_nonneg,
    rows unfilled.ge inv.filled_nonneg, rows (by rw [unfilled]; exact onGrid_zero _) inv.filled_grid,
    rows within inv.within, fun other none => ?_, rows (fun _ => ?_) inv.balanced⟩
  · by_cases same : other = pid
    · subst same
      rw [AList.lookup_insert] at none
      cases none
    · rw [AList.lookup_insert_ne same] at none
      exact inv.parties other none
  · exact unfilled.trans (settledQuantity_nil (inv.parties pid missing)).symm

/-- A posting that settles nothing. -/
theorem ledger_guarantee {ledger : Ledger.Store Reference}
    (recorded : Recorded s.ledger input txn ledger) (other : input.referenceType ≠ some "trade") :
    protocol.guarantee pid s { s with ledger } := by
  have same : ∀ id, settlements { s with ledger } id = settlements s id := fun id => by
    rw [settlements_recorded recorded, not_settles recorded other]
    exact List.append_nil _
  exact fun _ _ => ⟨⟨rfl, rfl⟩, fun _ => Iff.rfl, fun none => none,
    fun _ fresh => fresh.ledger recorded other,
    fun _ order found => ⟨order, found, rfl, rfl, rfl⟩,
    fun id order found _ => .inl ⟨order, found, rfl, same id⟩⟩

theorem ledger_invariant (inv : Invariant s) {ledger : Ledger.Store Reference}
    (recorded : Recorded s.ledger input txn ledger) (other : input.referenceType ≠ some "trade") :
    Invariant { s with ledger } := by
  have same : ∀ id, settlements { s with ledger } id = settlements s id := fun id => by
    rw [settlements_recorded recorded, not_settles recorded other]
    exact List.append_nil _
  refine ⟨inv.keyed, inv.quantity_nonneg, inv.filled_nonneg, inv.filled_grid, inv.within,
    fun id missing => (same id).trans (inv.parties id missing), fun id order found free => ?_⟩
  rw [settledQuantity_congr (same id)]
  exact inv.balanced id order found free

theorem trades_invariant (inv : Invariant s) {trades : Table FillId Trade} :
    Invariant { s with trades } :=
  ⟨inv.keyed, inv.quantity_nonneg, inv.filled_nonneg, inv.filled_grid, inv.within, inv.parties,
    inv.balanced⟩

theorem trades_guarantee {trades : Table FillId Trade} :
    protocol.guarantee pid s { s with trades } := fun _ _ =>
  ⟨⟨rfl, rfl⟩, fun _ => Iff.rfl, fun none => none, fun _ fresh => fresh,
    fun _ order found => ⟨order, found, rfl, rfl, rfl⟩,
    fun _ order found _ => .inl ⟨order, found, rfl, rfl⟩⟩

theorem locks_guarantee {holder : Option OrderId} (mine : holder = none ∨ holder = some pid)
    (before : s.locks marketId = none ∨ s.locks marketId = some pid) :
    protocol.guarantee pid s { s with locks := Function.update s.locks marketId holder } := by
  intro other ne
  refine ⟨⟨rfl, rfl⟩, fun key => ?_, fun none => none, fun _ fresh => fresh,
    fun _ order found => ⟨order, found, rfl, rfl, rfl⟩,
    fun _ order found _ => .inl ⟨order, found, rfl, rfl⟩⟩
  by_cases same : key = marketId
  · subst same
    have notMine : some pid ≠ some other := fun same => ne (Option.some.inj same).symm
    simp only [Function.update_self]
    rcases mine with rfl | rfl <;> rcases before with free | held <;> simp_all
  · simp only [Function.update_of_ne same]

/-! ## Under a market's lock -/

/-- The request holds this lock and no other. -/
def Holds (pid : OrderId) (held : Option String) (s : Store) : Prop :=
  ∀ marketId, s.locks marketId = some pid ↔ held = some marketId

theorem holds_stable (held : Option String) : protocol.Stable pid (Holds pid held) :=
  fun _ _ _ holds rely _ marketId => (rely.held marketId).trans (holds marketId)

/-- The request holds the market's lock, and the market's rows lag behind the
ledger by what is owed to them. -/
structure Section (pid : OrderId) (marketId : String) (owed : OrderId → ℚ) (s : Store) : Prop where
  holds : Holds pid (some marketId) s
  owing : ∀ id order, s.orders.lookup id = some order → order.marketId = marketId →
    settledQuantity s id = order.filledQuantity + owed id
  absent : ∀ id, s.orders.lookup id = none → owed id = 0

theorem Section.held (sect : Section pid marketId owed s) : s.locks marketId = some pid :=
  (sect.holds marketId).mpr rfl

theorem section_stable (marketId : String) (owed : OrderId → ℚ) :
    protocol.Stable pid (Section pid marketId owed) := by
  intro s s' inv sect rely inv'
  have absent : ∀ id, s'.orders.lookup id = none → owed id = 0 := by
    intro id missing
    apply sect.absent
    by_contra present
    obtain ⟨order, found⟩ := Option.ne_none_iff_exists'.mp present
    obtain ⟨order', found', -⟩ := rely.rows id order found
    cases missing.symm.trans found'
  refine ⟨holds_stable _ s s' inv sect.holds rely inv', fun id order' found' here => ?_, absent⟩
  rcases rely.frozen id order' found' (here ▸ sect.held) with
    ⟨order, found, filled, settled⟩ | ⟨missing, unfilled, unsettled⟩
  · obtain ⟨row, isRow, sameMarket, -, -⟩ := rely.rows id order found
    rw [found'] at isRow
    cases isRow
    rw [settledQuantity_congr settled, filled]
    exact sect.owing id order found (sameMarket.symm.trans here)
  · rw [unfilled, sect.absent id missing, settledQuantity_nil unsettled, add_zero]

/-- A row of a held market stays, with what is filled. -/
theorem Rely.row (rely : Rely pid s s') (found : s.orders.lookup id = some order)
    (held : s.locks order.marketId = some pid) : ∃ order', s'.orders.lookup id = some order' ∧
      order'.marketId = order.marketId ∧ order'.quantity = order.quantity ∧
      order'.filledQuantity = order.filledQuantity := by
  obtain ⟨order', found', market, -, quantity⟩ := rely.rows id order found
  rcases rely.frozen id order' found' (market ▸ held) with ⟨row, isRow, filled, -⟩ | ⟨missing, -⟩
  · rw [found] at isRow
    cases isRow
    exact ⟨order', found', market, quantity, filled⟩
  · cases missing.symm.trans found

/-- When a call under the lock fails, the request's own row was owed nothing. -/
theorem Section.early (sect : Section pid marketId owed s) (own : s.orders.lookup pid = some order)
    (here : order.marketId = marketId)
    (early : (∃ marketId, s.locks marketId = some pid) → Agrees s pid) : owed pid = 0 := by
  have agrees := early ⟨marketId, sect.held⟩ order own
  have owing := sect.owing pid order own here
  linarith

variable {A T : Assertion}

theorem acquire_triple (stable : protocol.Stable pid A)
    (frame : ∀ s marketLocks, A s → A { s with locks := marketLocks }) :
    protocol.Triple pid (fun s => A s ∧ Holds pid none s) (ask (.acquire marketId))
      (ends (fun _ s => A s ∧ Section pid marketId (fun _ => 0) s) fun _ => Holds pid none) := by
  apply Triple.call (stable.and (holds_stable none))
  rintro s reply s' inv ⟨holds, free⟩ ⟨made, -⟩
  obtain ⟨rfl, unlocked, rfl⟩ := made.acquire
  refine ⟨⟨inv.keyed, inv.quantity_nonneg, inv.filled_nonneg, inv.filled_grid, inv.within,
    inv.parties, fun id order found others => ?_⟩, locks_guarantee (.inr rfl) (.inl unlocked),
    frame s _ holds, fun key => ?_, fun id order found here => ?_, fun _ _ => rfl⟩
  · apply inv.balanced id order found
    by_cases same : order.marketId = marketId
    · rw [same]
      exact unlocked
    · simpa only [Function.update_of_ne same] using others
  · by_cases same : key = marketId
    · subst same
      simp
    · simp only [Function.update_of_ne same, free key, Option.some.injEq, Ne.symm same, reduceCtorEq]
  · rw [add_zero]
    exact (inv.balanced id order found (here ▸ unlocked)).symm

theorem release_triple (marketId : String) :
    protocol.Triple pid (Section pid marketId fun _ => 0) (ask (.release marketId))
      fun _ => Holds pid none := by
  apply Triple.call (section_stable marketId _)
  rintro s reply s' inv sect ⟨made, -⟩
  obtain ⟨rfl, rfl⟩ := made.release
  refine ⟨⟨inv.keyed, inv.quantity_nonneg, inv.filled_nonneg, inv.filled_grid, inv.within,
    inv.parties, fun id order found others => ?_⟩, locks_guarantee (.inl rfl) (.inr sect.held),
    fun key => ?_⟩
  · by_cases same : order.marketId = marketId
    · have owing := sect.owing id order found same
      rw [add_zero] at owing
      exact owing.symm
    · apply inv.balanced id order found
      simpa only [Function.update_of_ne same] using others
  · by_cases same : key = marketId
    · subst same
      simp
    · simp only [Function.update_of_ne same, sect.holds key, Option.some.injEq, Ne.symm same,
        reduceCtorEq]

theorem post_triple {input : LedgerPostingInput Reference} (stable : protocol.Stable pid A)
    (other : input.referenceType ≠ some "trade")
    (frame : ∀ s txn ledger, A s → Recorded s.ledger input txn ledger → A { s with ledger := ledger })
    (threw : ∀ s, A s → ((∃ marketId, s.locks marketId = some pid) → Agrees s pid) → T s) :
    protocol.Triple pid A (ask (.post input)) (ends (fun _ => A) fun _ => T) := by
  apply Triple.call stable
  rintro s reply s' inv holds ⟨made, -, early⟩
  rcases made.post with ⟨⟨failure, rfl⟩, rfl⟩ | ⟨txn, rfl, rfl, -⟩ |
    ⟨txn, ledger, rfl, recorded, -, rfl⟩
  · exact ⟨inv, idle, threw s' holds (early ⟨failure, rfl⟩)⟩
  · exact ⟨inv, idle, holds⟩
  · exact ⟨ledger_invariant inv recorded other, ledger_guarantee recorded other,
      frame s txn ledger holds recorded⟩

theorem Section.ledger {ledger : Ledger.Store Reference} (sect : Section pid marketId owed s)
    (recorded : Recorded s.ledger input txn ledger) (other : input.referenceType ≠ some "trade") :
    Section pid marketId owed { s with ledger } := by
  refine ⟨sect.holds, fun id order found here => ?_, sect.absent⟩
  have same : settlements { s with ledger } id = settlements s id := by
    rw [settlements_recorded recorded, not_settles recorded other]
    exact List.append_nil _
  rw [settledQuantity_congr same]
  exact sect.owing id order found here

/-! ## Settling a fill -/

variable {taker maker : Order} {fill : EngineFill} {market : Market} {params : MarketParams}
  {ledger : Ledger.Store Reference} {txn : LedgerTransaction Reference}

/-- A settlement adds its quantity to both parties. -/
theorem settledQuantity_settlement
    (recorded : Recorded s.ledger (settlement taker maker fill market params).input txn ledger)
    (grid : OnGrid params.baseScale fill.quantity) (scale : params.baseScale ≤ 18) (id : OrderId) :
    settledQuantity { s with ledger } id = settledQuantity s id +
      if taker.id = id ∨ maker.id = id then fill.quantity else 0 := by
  have storable : OnGrid Numeric.scale fill.quantity := grid.mono (by exact_mod_cast scale)
  rw [settledQuantity, settled_recorded recorded, lockedDebit_base recorded, Decimal.toFixed_of_onGrid grid,
    Numeric.rounded_of_onGrid storable]
  rfl

/-- The rows of both parties are in the market, whose lock is held. -/
structure Parties (pid : OrderId) (marketId : String) (taker maker : Order) (s : Store) : Prop where
  held : s.locks marketId = some pid
  isTaker : taker.id = pid
  taker : ∃ row, s.orders.lookup taker.id = some row ∧ row.marketId = marketId
  maker : ∃ row, s.orders.lookup maker.id = some row ∧ row.marketId = marketId

/-- Whoever's row is elsewhere has no part in the settlement. -/
theorem Parties.elsewhere (parties : Parties pid marketId taker maker s)
    (recorded : Recorded s.ledger (settlement taker maker fill market params).input txn ledger)
    (other : ∀ order, s.orders.lookup id = some order → order.marketId ≠ marketId) :
    settlements { s with ledger } id = settlements s id := by
  have notTaker : taker.id ≠ id := by
    rintro rfl
    obtain ⟨row, found, here⟩ := parties.taker
    exact other row found here
  have notMaker : maker.id ≠ id := by
    rintro rfl
    obtain ⟨row, found, here⟩ := parties.maker
    exact other row found here
  rw [settlements_recorded recorded, settles_settlement recorded]
  simp [notTaker, notMaker]

theorem settle_guarantee (parties : Parties pid marketId taker maker s)
    (recorded : Recorded s.ledger (settlement taker maker fill market params).input txn ledger) :
    protocol.guarantee pid s { s with ledger } := by
  intro other ne
  refine ⟨⟨rfl, rfl⟩, fun _ => Iff.rfl, fun none => none,
    fun partner fresh txn' member trade reference => ?_,
    fun _ order found => ⟨order, found, rfl, rfl, rfl⟩,
    fun id order found held => .inl ⟨order, found, rfl, ?_⟩⟩
  · rw [recorded.transactions, List.mem_append, List.mem_singleton] at member
    rcases member with before | rfl
    · exact fresh txn' before trade reference
    · have same := recorded.reference.2.symm.trans reference
      simp only [settlement, Option.some.injEq, Reference.trade.injEq, Prod.mk.injEq] at same
      exact ne (same.1.symm.trans parties.isTaker)
  · apply parties.elsewhere recorded
    intro row isRow here
    rw [show s.orders.lookup id = some order from found] at isRow
    cases isRow
    rw [here] at held
    exact ne (Option.some.inj (held.symm.trans parties.held))

theorem settle_invariant (inv : Invariant s) (parties : Parties pid marketId taker maker s)
    (recorded : Recorded s.ledger (settlement taker maker fill market params).input txn ledger) :
    Invariant { s with ledger } := by
  refine ⟨inv.keyed, inv.quantity_nonneg, inv.filled_nonneg, inv.filled_grid, inv.within,
    fun id missing => ?_, fun id order found free => ?_⟩
  · rw [parties.elsewhere recorded fun order found => by cases missing.symm.trans found]
    exact inv.parties id missing
  · rw [settledQuantity_congr (parties.elsewhere recorded fun row isRow here => ?_)]
    · exact inv.balanced id order found free
    · rw [show s.orders.lookup id = some order from found] at isRow
      cases isRow
      rw [here] at free
      cases free.symm.trans parties.held

/-! ## A matching pass -/

/-- What is owed to the taker's row during its pass. -/
def owedTo (pid : OrderId) (quantity : ℚ) (id : OrderId) : ℚ := if id = pid then quantity else 0

/-- How far the loop has got with the fills of the rows it loaded, which 20
digits hold together. -/
structure Plan (taker : Order) (params : MarketParams) (loaded : List Order)
    (done todo : List EngineFill) : Prop where
  split : (matched taker params loaded).fills = done ++ todo
  scale : params.baseScale ≤ 18
  bound : (loaded.map fun row => row.quantity.getD 0).sum < 10 ^ (20 - (params.baseScale : ℤ))
  ids : (loaded.map Order.id).Nodup
  nonneg : ∀ row ∈ loaded, 0 ≤ row.quantity.getD 0
  traded : ∀ fill ∈ done, ∃ row ∈ loaded, row.id = fill.makerOrderId ∧
    fill.quantity ≤ row.quantity.getD 0

/-- The rows in hand are those of the database, as far as the fills ahead go. -/
structure Progress (pid : OrderId) (market : Market) (params : MarketParams)
    (owed : OrderId → ℚ) (loaded rows : List Order) (ahead unsettled : List EngineFill) (s : Store) :
    Prop where
  sect : Section pid market.symbol owed s
  listed : Listed s market params
  own : ∃ row, s.orders.lookup pid = some row ∧ row.marketId = market.symbol ∧
    row.filledQuantity = 0
  distinct : (pid :: ahead.map EngineFill.makerOrderId).Nodup
  present : ∀ fill ∈ ahead, ∃ order ∈ rows, order.id = fill.makerOrderId
  current : ∀ fill ∈ ahead, ∀ order ∈ rows, order.id = fill.makerOrderId → order ∈ loaded ∧
    ∃ row, s.orders.lookup order.id = some row ∧ row.marketId = market.symbol ∧
      row.quantity = order.quantity ∧ row.filledQuantity = order.filledQuantity
  fresh : ∀ fill ∈ unsettled, Fresh s (pid, fill.makerOrderId)

theorem progress_stable {owed : OrderId → ℚ} {loaded rows : List Order}
    {ahead unsettled : List EngineFill} :
    protocol.Stable pid (Progress pid market params owed loaded rows ahead unsettled) := by
  intro s s' inv progress rely inv'
  have held := progress.sect.held
  refine ⟨section_stable _ _ s s' inv progress.sect rely inv',
    Listed.stable serves s s' inv progress.listed rely inv', ?_, progress.distinct,
    progress.present, fun fill member order inRows isMaker => ?_,
    fun fill member => rely.fresh _ (progress.fresh fill member)⟩
  · obtain ⟨row, found, here, unfilled⟩ := progress.own
    obtain ⟨row', found', market', -, filled⟩ := rely.row found (here ▸ held)
    exact ⟨row', found', market'.trans here, filled.trans unfilled⟩
  · obtain ⟨isLoaded, row, found, here, quantity, filled⟩ :=
      progress.current fill member order inRows isMaker
    obtain ⟨row', found', market', quantity', filled'⟩ := rely.row found (here ▸ held)
    exact ⟨isLoaded, row', found', market'.trans here, quantity'.trans quantity,
      filled'.trans filled⟩

/-- When a call of the pass fails, nothing has been settled yet. -/
theorem Progress.early {t : ℚ} {owed : OrderId → ℚ} {loaded rows : List Order}
    {ahead unsettled : List EngineFill}
    (progress : Progress pid market params owed loaded rows ahead unsettled s)
    (early : (∃ marketId, s.locks marketId = some pid) → Agrees s pid) (isTotal : owed pid = t) :
    t = 0 := by
  obtain ⟨row, found, here, -⟩ := progress.own
  exact isTotal.symm.trans (progress.sect.early found here early)

theorem Plan.positive {done todo : List EngineFill} (plan : Plan taker params loaded done todo)
    (member : fill ∈ done) : OnGrid params.baseScale fill.quantity ∧ 0 < fill.quantity := by
  have executed := (matched_fill (plan.split ▸ List.mem_append_left todo member)).1
  exact ⟨executed.quantity_grid, executed.quantity_pos⟩

theorem Plan.total_nonneg {done todo : List EngineFill} (plan : Plan taker params loaded done todo) :
    0 ≤ (done.map EngineFill.quantity).sum := by
  apply List.sum_nonneg
  intro quantity member
  obtain ⟨fill, isDone, rfl⟩ := List.mem_map.mp member
  exact (plan.positive isDone).2.le

/-- The loop has got to `todo`. -/
def Next (pid : OrderId) (taker : Order) (market : Market) (params : MarketParams)
    (loaded rows : List Order) (done todo : List EngineFill) (s : Store) : Prop :=
  taker.id = pid ∧ Plan taker params loaded done todo ∧
    Progress pid market params (owedTo pid (done.map EngineFill.quantity).sum) loaded rows todo todo s

/-- The fill of this maker is settled, and its row not written. -/
def Settled (pid : OrderId) (taker : Order) (market : Market) (params : MarketParams)
    (loaded rows : List Order) (maker : Order) (fill : EngineFill) (done todo : List EngineFill)
    (s : Store) : Prop :=
  taker.id = pid ∧ maker ∈ rows ∧ maker.id = fill.makerOrderId ∧
    Plan taker params loaded done (fill :: todo) ∧
    Progress pid market params
      (fun id => owedTo pid (done.map EngineFill.quantity).sum id +
        if pid = id ∨ maker.id = id then fill.quantity else 0) loaded rows (fill :: todo) todo s

theorem next_stable {done todo : List EngineFill} {rows : List Order} :
    protocol.Stable pid (Next pid taker market params loaded rows done todo) :=
  fun s s' inv next rely inv' =>
    ⟨next.1, next.2.1, progress_stable s s' inv next.2.2 rely inv'⟩

theorem settled_stable {done todo : List EngineFill} {rows : List Order} :
    protocol.Stable pid (Settled pid taker market params loaded rows maker fill done todo) :=
  fun s s' inv settled rely inv' =>
    ⟨settled.1, settled.2.1, settled.2.2.1, settled.2.2.2.1,
      progress_stable s s' inv settled.2.2.2.2 rely inv'⟩

theorem paramsAt_listed (listed : Listed s market params) : paramsAt s market.symbol = params := by
  rw [paramsAt, listed.found]
  exact listed.precision.symm

/-- The taker is the request's own order, with a row in this market. -/
def OwnOrder (pid : OrderId) (marketId : String) (taker : Order) (s : Store) : Prop :=
  taker.id = pid ∧ ∃ row, s.orders.lookup pid = some row ∧ row.marketId = marketId ∧
    row.userId = taker.userId

theorem ownOrder_stable (marketId : String) (taker : Order) :
    protocol.Stable pid (OwnOrder pid marketId taker) := by
  rintro s s' _ ⟨isPid, row, own, here, user⟩ rely _
  obtain ⟨row', own', market, user', -⟩ := rely.rows pid row own
  exact ⟨isPid, row', own', market.trans here, user'.trans user⟩

/-- No fill in which the request's order is the taker has been settled. -/
def Untaken (pid : OrderId) (s : Store) : Prop := ∀ maker, Fresh s (pid, maker)

theorem untaken_stable : protocol.Stable pid (Untaken pid) :=
  fun _ _ _ untaken rely _ maker => rely.fresh maker (untaken maker)

/-- What holds before an order's section. -/
def Ready (pid : OrderId) (market : Market) (params : MarketParams) (taker : Order) (s : Store) :
    Prop :=
  (OwnOrder pid market.symbol taker s ∧ Untaken pid s) ∧ Listed s market params

theorem ready_stable : protocol.Stable pid (Ready pid market params taker) :=
  ((ownOrder_stable _ _).and untaken_stable).and (Listed.stable serves)

theorem next_of_load (inv : Invariant s) (sect : Section pid market.symbol (fun _ => 0) s)
    (ready : Ready pid market params taker s)
    (isTimely : timely pid (.loadRestingBook market.symbol taker.side taker.userId bookScanLimit) s
      (.ok (loadRestingBook s market.symbol taker.side taker.userId bookScanLimit))) :
    Next pid taker market params
      (loadRestingBook s market.symbol taker.side taker.userId bookScanLimit)
      (loadRestingBook s market.symbol taker.side taker.userId bookScanLimit) []
      (matched taker params
        (loadRestingBook s market.symbol taker.side taker.userId bookScanLimit)).fills s := by
  obtain ⟨⟨⟨isPid, own, isOwn, here, user⟩, untaken⟩, listed⟩ := ready
  simp only [timely, isOwn, Option.all_some, inRange, paramsAt_listed listed, Bool.and_eq_true,
    decide_eq_true_eq] at isTimely
  obtain ⟨unfilled, scale, bound⟩ := isTimely
  have loadedRow : ∀ order ∈ loadRestingBook s market.symbol taker.side taker.userId
      bookScanLimit, s.orders.lookup order.id = some order ∧
        isResting market.symbol taker.side taker.userId order := by
    intro order member
    obtain ⟨⟨id, found⟩, rests⟩ := mem_loadRestingBook member
    exact ⟨(inv.keyed id order found).symm ▸ found, rests⟩
  have makers := fills_makers_sublist (takerInput taker)
    (loadRestingBook s market.symbol taker.side taker.userId bookScanLimit) params
  refine ⟨isPid, ⟨rfl, scale, bound, loadRestingBook_ids_nodup inv.keyed, fun row member => ?_,
      by simp⟩,
    ⟨sect.holds, fun id order found isHere => ?_, fun id _ => by simp [owedTo]⟩, listed,
    ⟨own, isOwn, here, unfilled⟩, List.nodup_cons.mpr ⟨fun member => ?_,
      (loadRestingBook_ids_nodup inv.keyed).sublist makers⟩, fun fill member => ?_,
    fun fill _ order inRows _ => ?_, fun fill _ => untaken _⟩
  · exact inv.quantity_nonneg row.id row (loadedRow row member).1
  · rw [sect.owing id order found isHere]
    simp [owedTo]
  · obtain ⟨order, onBook, isPid'⟩ := List.mem_map.mp (makers.subset member)
    obtain ⟨found, rests⟩ := loadedRow order onBook
    rw [isPid', isOwn] at found
    cases found
    simp [isResting, user] at rests
  · obtain ⟨-, row, isLoaded, isFrom⟩ := matched_fill member
    exact ⟨row, isLoaded, isFrom.id⟩
  · obtain ⟨found, rests⟩ := loadedRow order inRows
    simp only [isResting, Bool.and_eq_true, decide_eq_true_eq] at rests
    exact ⟨inRows, order, found, rests.1.1.1, rfl, rfl⟩

theorem load_triple :
    protocol.Triple pid
      (fun s => Ready pid market params taker s ∧ Section pid market.symbol (fun _ => 0) s)
      (ask (.loadRestingBook market.symbol taker.side taker.userId bookScanLimit))
      (ends (fun loaded s => ∃ done, Next pid taker market params loaded loaded done
          (matched taker params loaded).fills s)
        fun _ => Section pid market.symbol fun _ => 0) := by
  apply Triple.call (ready_stable.and (section_stable _ _))
  rintro s reply s' inv ⟨ready, sect⟩ ⟨made, isTimely, -⟩
  obtain ⟨rfl, answer⟩ := made.loadRestingBook
  refine ⟨inv, idle, ?_⟩
  cases reply with
  | error failure => exact sect
  | ok loaded =>
    obtain rfl := answer loaded rfl
    exact ⟨[], next_of_load inv sect ready isTimely⟩

/-- A pass that fails before its first settlement owes nothing. -/
theorem Next.aborted {done todo : List EngineFill} {rows : List Order}
    (next : Next pid taker market params loaded rows done todo s)
    (early : (∃ marketId, s.locks marketId = some pid) → Agrees s pid) :
    Section pid market.symbol (fun _ => 0) s := by
  have nothing := next.2.2.early (t := (done.map EngineFill.quantity).sum) early (by simp [owedTo])
  have owed : owedTo pid (done.map EngineFill.quantity).sum = fun _ => 0 := by
    funext id
    simp [owedTo, nothing]
  exact owed ▸ next.2.2.sect

/-- Between a settlement and the rows nothing may fail. -/
theorem Settled.cannotFail {done todo : List EngineFill} {rows : List Order}
    (settled : Settled pid taker market params loaded rows maker fill done todo s)
    (early : (∃ marketId, s.locks marketId = some pid) → Agrees s pid) : False := by
  obtain ⟨-, -, -, plan, progress⟩ := settled
  have nothing := progress.early
    (t := (done.map EngineFill.quantity).sum + fill.quantity) early (by simp [owedTo])
  have executed := (matched_fill (plan.split ▸ List.mem_append_right done List.mem_cons_self)).1
  linarith [plan.total_nonneg, executed.quantity_pos]

theorem settle_triple {rows : List Order} {todo : List EngineFill}
    (found : (rows.find? fun order => order.id = fill.makerOrderId) = some maker) :
    protocol.Triple pid
      (fun s => ∃ done, Next pid taker market params loaded rows done (fill :: todo) s)
      (ask (.post (settlement taker maker fill market params).input))
      (ends (fun _ s => ∃ done,
          Settled pid taker market params loaded rows maker fill done todo s)
        fun _ => Section pid market.symbol fun _ => 0) := by
  have inRows := List.mem_of_find?_eq_some found
  have isMaker : maker.id = fill.makerOrderId := by simpa using List.find?_some found
  apply Triple.exists
  intro done
  apply Triple.call next_stable
  rintro s reply s' inv next ⟨made, -, early⟩
  obtain ⟨isPid, plan, progress⟩ := next
  have fresh := progress.fresh fill (by simp)
  rcases made.post with ⟨⟨failure, rfl⟩, rfl⟩ | ⟨txn, rfl, rfl, posted⟩ |
    ⟨txn, ledger, rfl, recorded, -, rfl⟩
  · exact ⟨inv, idle, Next.aborted ⟨isPid, plan, progress⟩ (early ⟨failure, rfl⟩)⟩
  · rw [← isMaker, ← isPid] at fresh
    cases fresh.notFound.symm.trans posted
  · have executed := (matched_fill (plan.split ▸ List.mem_append_right done List.mem_cons_self)).1
    obtain ⟨-, makerRow, makerFound, makerHere, -⟩ :=
      progress.current fill (by simp) maker inRows isMaker
    obtain ⟨own, isOwn, ownHere, unfilled⟩ := progress.own
    have parties : Parties pid market.symbol taker maker s :=
      ⟨progress.sect.held, isPid, ⟨own, isPid ▸ isOwn, ownHere⟩, makerRow, makerFound, makerHere⟩
    refine ⟨settle_invariant inv parties recorded, settle_guarantee parties recorded, done, isPid,
      inRows, isMaker, plan, ⟨progress.sect.holds, fun id order isRow here => ?_, fun id missing => ?_⟩,
      ⟨progress.listed.found, progress.listed.precision⟩, ⟨own, isOwn, ownHere, unfilled⟩,
      progress.distinct, progress.present, progress.current, fun later member => ?_⟩
    · rw [settledQuantity_settlement recorded executed.quantity_grid plan.scale id, isPid,
        progress.sect.owing id order isRow here, add_assoc]
    · have notOwn : pid ≠ id := by
        rintro rfl
        cases missing.symm.trans isOwn
      have notMaker : maker.id ≠ id := by
        rintro rfl
        cases missing.symm.trans makerFound
      simp [progress.sect.absent id missing, notOwn, notMaker]
    · have distinct := (List.nodup_cons.mp (List.nodup_cons.mp progress.distinct).2).1
      have unsettled := progress.fresh later (List.mem_cons_of_mem _ member)
      rw [← isPid] at unsettled ⊢
      refine unsettled.settled recorded fun same => distinct ?_
      exact List.mem_map.mpr ⟨later, member, same.symm.trans isMaker⟩

theorem record_triple {rows : List Order} {todo : List EngineFill} (trade : Trade) :
    protocol.Triple pid
      (fun s => ∃ done, Settled pid taker market params loaded rows maker fill done todo s)
      (recordTrade trade)
      (ends (fun _ s => ∃ done,
          Settled pid taker market params loaded rows maker fill done todo s)
        fun _ => Section pid market.symbol fun _ => 0) := by
  apply recordTrade_triple (C := fun _ => False)
  · apply Triple.exists
    intro done
    apply Triple.call settled_stable
    rintro s reply s' inv settled ⟨made, -, early⟩
    rcases made.createTrade with ⟨row, rfl, rfl⟩ | ⟨⟨failure, rfl⟩, rfl⟩
    · obtain ⟨isPid, inRows, isMaker, plan, progress⟩ := settled
      exact ⟨trades_invariant inv, trades_guarantee, done, isPid, inRows, isMaker, plan,
        ⟨progress.sect.holds, progress.sect.owing, progress.sect.absent⟩,
        ⟨progress.listed.found, progress.listed.precision⟩, progress.own, progress.distinct,
        progress.present, progress.current, progress.fresh⟩
    · exact (settled.cannotFail (early ⟨failure, rfl⟩)).elim
  · exact fun _ _ never => never.elim
  · exact Triple.absurd fun _ _ never => never

/-- The maker's row as the column holds it after a fill: the sum is exact. -/
theorem Plan.exact {done todo : List EngineFill} {row : Order}
    (plan : Plan taker params loaded done (fill :: todo)) (isLoaded : maker ∈ loaded)
    (isMaker : maker.id = fill.makerOrderId) (quantity : row.quantity = maker.quantity)
    (filled : row.filledQuantity = maker.filledQuantity) (nonneg : 0 ≤ row.filledQuantity)
    (grid : OnGrid params.baseScale row.filledQuantity)
    (within : ordersFilledChk (patched (makerPatch maker fill) row)) :
    (patched (makerPatch maker fill) row).filledQuantity = row.filledQuantity + fill.quantity ∧
      fill.quantity ≤ maker.quantity.getD 0 := by
  obtain ⟨executed, source, fromLoaded, isFrom⟩ :=
    matched_fill (plan.split ▸ List.mem_append_right done List.mem_cons_self)
  have same : source = maker :=
    List.inj_on_of_nodup_map plan.ids fromLoaded isLoaded (isFrom.id.trans isMaker.symm)
  obtain ⟨limit, isLimit⟩ := Option.isSome_iff_exists.mp (same ▸ isFrom.quantity)
  have small : limit < 10 ^ (20 - (params.baseScale : ℤ)) := by
    refine lt_of_le_of_lt ?_ plan.bound
    have single := List.single_le_sum (l := loaded.map fun row => row.quantity.getD 0)
      (fun quantity member => by
        obtain ⟨order, isOrder, rfl⟩ := List.mem_map.mp member
        exact plan.nonneg order isOrder) _ (List.mem_map.mpr ⟨maker, isLoaded, rfl⟩)
    simpa [isLimit] using single
  have stored : (patched (makerPatch maker fill) row).filledQuantity =
      Numeric.rounded (Decimal.add row.filledQuantity fill.quantity) := by
    rw [filled]
    rfl
  have chk : Numeric.rounded (Decimal.add row.filledQuantity fill.quantity) ≤ limit := by
    rw [← stored]
    simpa [ordersFilledChk, patched, quantity, isLimit] using within
  have exact := Numeric.rounded_add_of_le grid executed.quantity_grid
    (add_nonneg nonneg executed.quantity_pos.le) plan.scale small chk
  refine ⟨stored.trans exact, ?_⟩
  rw [exact] at chk
  rw [isLimit, Option.getD_some]
  linarith

theorem advance_triple {rows : List Order} {todo : List EngineFill} :
    protocol.Triple pid
      (fun s => ∃ done, Settled pid taker market params loaded rows maker fill done todo s)
      (ask (.updateOrder maker.id (makerPatch maker fill)))
      (ends (fun _ s => ∃ done, Next pid taker market params loaded (refreshed maker fill rows)
          (done ++ [fill]) todo s)
        fun _ => Section pid market.symbol fun _ => 0) := by
  apply Triple.exists
  intro done
  apply Triple.call settled_stable
  rintro s reply s' inv settled ⟨made, -, early⟩
  rcases made.updateOrder with ⟨row, found, rfl, within, rfl⟩ | ⟨⟨failure, rfl⟩, rfl⟩
  swap
  · exact (settled.cannotFail (early ⟨failure, rfl⟩)).elim
  obtain ⟨isPid, inRows, isMaker, plan, progress⟩ := settled
  obtain ⟨isLoaded, makerRow, makerFound, here, quantity, filled⟩ :=
    progress.current fill (by simp) maker inRows isMaker
  rw [found] at makerFound
  cases makerFound
  have grid : OnGrid params.baseScale row.filledQuantity := by
    have stored := inv.filled_grid maker.id row found
    rwa [here, paramsAt_listed progress.listed] at stored
  have nonneg := inv.filled_nonneg maker.id row found
  obtain ⟨exact, le⟩ := plan.exact isLoaded isMaker quantity filled nonneg grid within
  have executed := (matched_fill (plan.split ▸ List.mem_append_right done List.mem_cons_self)).1
  obtain ⟨ownNew, rest⟩ := List.nodup_cons.mp progress.distinct
  obtain ⟨distinct, nodup⟩ := List.nodup_cons.mp rest
  have notOwn : pid ≠ maker.id := by
    rintro rfl
    exact ownNew (by simp [isMaker])
  have kept : ∀ id ≠ maker.id, (s.orders.insert maker.id (patched (makerPatch maker fill) row)).lookup
      id = s.orders.lookup id := fun id ne => AList.lookup_insert_ne ne
  refine ⟨update_invariant inv found ?_ ?_ within fun free => ?_,
    update_guarantee found (.inr (here ▸ progress.sect.held)), done, isPid,
    ⟨by simpa using plan.split, plan.scale, plan.bound, plan.ids, plan.nonneg,
      fun other member => ?_⟩, ⟨progress.sect.holds, fun id order isRow isHere => ?_,
      fun id missing => ?_⟩, ⟨progress.listed.found, progress.listed.precision⟩, ?_,
    List.nodup_cons.mpr ⟨fun member => ownNew (List.mem_cons_of_mem _ member), nodup⟩,
    present_refreshed fun later member => progress.present later (List.mem_cons_of_mem _ member),
    fun later member order isRefreshed isLater => ?_, progress.fresh⟩
  · rw [exact]
    exact add_nonneg nonneg executed.quantity_pos.le
  · rw [exact, here, paramsAt_listed progress.listed]
    exact grid.add executed.quantity_grid
  · rw [here] at free
    cases free.symm.trans progress.sect.held
  · rcases List.mem_append.mp member with before | last
    · exact plan.traded other before
    · obtain rfl := List.mem_singleton.mp last
      exact ⟨maker, isLoaded, isMaker, le⟩
  · have owing : settledQuantity s id = order.filledQuantity +
        owedTo pid ((done ++ [fill]).map EngineFill.quantity).sum id := by
      by_cases isIt : id = maker.id
      · subst isIt
        rw [AList.lookup_insert] at isRow
        cases isRow
        rw [progress.sect.owing maker.id row found here, exact]
        simp [owedTo, notOwn.symm]
      · rw [kept id isIt] at isRow
        rw [progress.sect.owing id order isRow isHere]
        simp only [owedTo, Ne.symm isIt, or_false, List.map_append, List.sum_append, List.map_cons,
          List.map_nil, List.sum_singleton, eq_comm (a := pid)]
        split
        · ring
        · ring
    exact owing
  · have missingBefore : s.orders.lookup id = none := by
      by_cases isIt : id = maker.id
      · subst isIt
        rw [AList.lookup_insert] at missing
        cases missing
      · rwa [kept id isIt] at missing
    have notPid : id ≠ pid := by
      rintro rfl
      obtain ⟨own, isOwn, -⟩ := progress.own
      cases missingBefore.symm.trans isOwn
    simp [owedTo, notPid]
  · obtain ⟨own, isOwn, ownHere⟩ := progress.own
    exact ⟨own, (kept pid notOwn).trans isOwn, ownHere⟩
  · have other : order.id ≠ maker.id := by
      intro same
      exact distinct (List.mem_map.mpr ⟨later, member, isLater.symm.trans (same.trans isMaker)⟩)
    obtain ⟨isLoaded', row', found', rest'⟩ := progress.current later
      (List.mem_cons_of_mem _ member) order (mem_refreshed isRefreshed other) isLater
    exact ⟨isLoaded', row', (kept order.id other).trans found', rest'⟩

/-- The loop goes on, having settled something. -/
def Onward (pid : OrderId) (taker : Order) (market : Market) (params : MarketParams)
    (loaded rows : List Order) (fill : EngineFill) (todo : List EngineFill) (s : Store) : Prop :=
  ∃ done, Next pid taker market params loaded rows (done ++ [fill]) todo s

theorem onward_stable {rows : List Order} {todo : List EngineFill} :
    protocol.Stable pid (Onward pid taker market params loaded rows fill todo) :=
  fun s s' inv ⟨done, next⟩ rely inv' => ⟨done, next_stable s s' inv next rely inv'⟩

theorem release_maker {rows : List Order} {todo : List EngineFill} (order : Order) :
    protocol.Triple pid (Onward pid taker market params loaded rows fill todo)
      (releaseSurplus order)
      (ends (fun _ s => ∃ done, Next pid taker market params loaded rows done todo s)
        fun _ => Section pid market.symbol fun _ => 0) := by
  apply releaseSurplus_triple
  · exact fun s _ ⟨done, next⟩ _ => ⟨done ++ [fill], next⟩
  intro asset amount _ _ _
  apply (post_triple onward_stable (T := fun _ => False) (by simp [orderUnlock]) ?_ ?_).imp
    (fun _ _ onward => onward)
  · rintro (failure | txn) s _ holds
    · exact holds.elim
    · obtain ⟨done, next⟩ := holds
      exact ⟨done ++ [fill], next⟩
  · rintro s txn ledger ⟨done, isPid, plan, progress⟩ recorded
    have other : (orderUnlock order asset (amount.sub (spent order))).referenceType ≠
      some "trade" := by simp [orderUnlock]
    exact ⟨done, isPid, plan, progress.sect.ledger recorded other,
      ⟨progress.listed.found, progress.listed.precision⟩, progress.own, progress.distinct,
      progress.present, progress.current, fun fill member =>
        (progress.fresh fill member).ledger recorded other⟩
  · rintro s ⟨done, isPid, plan, progress⟩ early
    have nothing := progress.early
      (t := ((done ++ [fill]).map EngineFill.quantity).sum) early (by simp [owedTo])
    have positive := plan.positive (List.mem_append_right done (List.mem_singleton_self fill))
    have before : 0 ≤ (done.map EngineFill.quantity).sum := by
      apply List.sum_nonneg
      intro quantity member
      obtain ⟨earlier, isDone, rfl⟩ := List.mem_map.mp member
      exact (plan.positive (List.mem_append_left _ isDone)).2.le
    simp only [List.map_append, List.sum_append, List.map_cons, List.map_nil,
      List.sum_singleton] at nothing
    linarith [positive.2]

/-- At the end of the loop the engine's total is the sum of the fills. -/
theorem Plan.total {done : List EngineFill} (plan : Plan taker params loaded done []) :
    (matched taker params loaded).filledQuantity = (done.map EngineFill.quantity).sum ∧
      OnGrid params.baseScale (done.map EngineFill.quantity).sum := by
  have all : (matched taker params loaded).fills = done := by simpa using plan.split
  have each : ∀ quantity ∈ done.map EngineFill.quantity,
      OnGrid params.baseScale quantity ∧ 0 ≤ quantity := by
    intro quantity member
    obtain ⟨fill, isDone, rfl⟩ := List.mem_map.mp member
    exact ⟨(plan.positive isDone).1, (plan.positive isDone).2.le⟩
  have grid : OnGrid params.baseScale (done.map EngineFill.quantity).sum :=
    OnGrid.sum fun quantity member => (each quantity member).1
  have makers : (done.map EngineFill.makerOrderId).Nodup := by
    rw [← all]
    exact plan.ids.sublist (fills_makers_sublist (takerInput taker) loaded params)
  have small := (sum_le_of_makers makers plan.traded plan.nonneg).trans_lt plan.bound
  refine ⟨?_, grid⟩
  rw [matched_filledQuantity, all,
    Decimal.foldl_add_exact (onGrid_zero _) le_rfl each (by rw [zero_add]; exact small), zero_add,
    Decimal.toFixed_of_onGrid grid]

theorem finalize_triple {rows : List Order} :
    protocol.Triple pid (fun s => ∃ done, Next pid taker market params loaded rows done [] s)
      (ask (.updateOrder taker.id (takerPatch taker (matched taker params loaded))))
      (ends (fun _ => Section pid market.symbol fun _ => 0)
        fun _ => Section pid market.symbol fun _ => 0) := by
  apply Triple.exists
  intro done
  apply Triple.call next_stable
  rintro s reply s' inv next ⟨made, -, early⟩
  rcases made.updateOrder with ⟨row, found, rfl, within, rfl⟩ | ⟨⟨failure, rfl⟩, rfl⟩
  swap
  · exact ⟨inv, idle, next.aborted (early ⟨failure, rfl⟩)⟩
  obtain ⟨rfl, plan, progress⟩ := next
  obtain ⟨own, isOwn, here, unfilled⟩ := progress.own
  rw [found] at isOwn
  cases isOwn
  obtain ⟨isTotal, grid⟩ := plan.total
  have storable : OnGrid Numeric.scale (done.map EngineFill.quantity).sum :=
    grid.mono (by exact_mod_cast plan.scale)
  have written : (patched (takerPatch taker (matched taker params loaded)) row).filledQuantity =
      (done.map EngineFill.quantity).sum := by
    simp only [patched, takerPatch, Option.map_some, Option.getD_some, isTotal]
    exact Numeric.rounded_of_onGrid storable
  have held := progress.sect.held
  refine ⟨update_invariant inv found ?_ ?_ within fun free => ?_,
    update_guarantee found (.inr (here ▸ held)), progress.sect.holds,
    fun id order isRow isHere => ?_, fun _ _ => rfl⟩
  · rw [written]
    exact plan.total_nonneg
  · rw [written, here, paramsAt_listed progress.listed]
    exact grid
  · rw [here] at free
    cases free.symm.trans held
  · have owing : settledQuantity s id = order.filledQuantity := by
      by_cases isIt : id = taker.id
      · subst isIt
        rw [AList.lookup_insert] at isRow
        cases isRow
        rw [progress.sect.owing taker.id row found here, written, unfilled]
        simp [owedTo]
      · rw [AList.lookup_insert_ne isIt] at isRow
        rw [progress.sect.owing id order isRow isHere]
        simp [owedTo, isIt]
    rw [add_zero]
    exact owing

theorem release_settled (marketId : String) (order : Order) :
    protocol.Triple pid (Section pid marketId fun _ => 0) (releaseSurplus order)
      (ends (fun _ => Section pid marketId fun _ => 0)
        fun _ => Section pid marketId fun _ => 0) := by
  apply releaseSurplus_triple
  · exact fun _ _ sect _ => sect
  · intro asset amount _ _ _
    have other : (orderUnlock order asset (amount.sub (spent order))).referenceType ≠
      some "trade" := by simp [orderUnlock]
    exact post_triple (section_stable marketId _) other
      (fun _ _ _ sect recorded => sect.ledger recorded other) fun _ sect _ => sect

def pass (pid : OrderId) (market : Market) (params : MarketParams) (taker : Order) :
    Pass protocol pid taker market params where
  start s := Ready pid market params taker s ∧ Section pid market.symbol (fun _ => 0) s
  next loaded rows todo s := ∃ done, Next pid taker market params loaded rows done todo s
  settled loaded rows maker fill todo s :=
    ∃ done, Settled pid taker market params loaded rows maker fill done todo s
  traded loaded rows maker fill todo s :=
    ∃ done, Settled pid taker market params loaded rows maker fill done todo s
  advanced loaded rows maker fill todo :=
    Onward pid taker market params loaded (refreshed maker fill rows) fill todo
  finalized _ _ := Section pid market.symbol fun _ => 0
  done := Section pid market.symbol fun _ => 0
  aborted := Section pid market.symbol fun _ => 0
  load := load_triple
  skip loaded rows fill todo s _ next missing := by
    obtain ⟨done, -, -, progress⟩ := next
    obtain ⟨order, inRows, isMaker⟩ := progress.present fill (by simp)
    have none := List.find?_eq_none.mp missing order inRows
    simp [isMaker] at none
  settle _ _ _ _ _ found := settle_triple found
  record _ _ _ _ _ _ := record_triple _
  advance _ _ _ _ _ := advance_triple
  release _ _ maker fill _ _ := release_maker (Service.advanced maker fill)
  keep _ _ _ fill _ _ _ _ onward := by
    obtain ⟨done, next⟩ := onward
    exact ⟨done ++ [fill], next⟩
  finalize _ _ := finalize_triple
  close _ updated _ := release_settled market.symbol updated
  rest _ _ _ _ _ sect := sect

/-! ## Requests -/

/-- What holds before a request's order exists. -/
def Unused (pid : OrderId) (s : Store) : Prop :=
  (s.orders.lookup pid = none ∧ Untaken pid s) ∧ Holds pid none s

theorem unused_stable : protocol.Stable pid (Unused pid) := by
  rintro s s' inv ⟨⟨missing, untaken⟩, holds⟩ rely inv'
  exact ⟨⟨rely.own missing, untaken_stable s s' inv untaken rely inv'⟩,
    holds_stable none s s' inv holds rely inv'⟩

theorem Untaken.posted (untaken : Untaken pid s) (recorded : Recorded s.ledger input txn ledger)
    (other : input.referenceType ≠ some "trade") : Untaken pid { s with ledger } :=
  fun maker => (untaken maker).ledger recorded other

theorem create_triple {userId : UserId} {input : CreateOrderDto} {lock : LockRequirement} :
    protocol.Triple pid (fun s => Unused pid s ∧ Listed s market params)
      (ask (.createOrder (newOrder userId market input.toOrderBody lock)))
      (ends (fun order s => Ready pid market params order s ∧ Holds pid none s)
        fun _ => Unused pid) := by
  apply Triple.call (unused_stable.and (Listed.stable serves))
  rintro s reply s' inv ⟨⟨⟨missing, untaken⟩, holds⟩, listed⟩ ⟨made, -⟩
  rcases made.createOrder with ⟨now, rfl, -, within, rfl⟩ | ⟨⟨failure, rfl⟩, rfl⟩
  · have nonneg : 0 ≤ (newRow pid now (newOrder userId market input.toOrderBody lock)).quantity.getD
        0 := by
      have accepted := (accepted_nonneg input).2.1
      simp only [newRow, newOrder]
      cases isQuantity : input.quantity with
      | none => exact le_rfl
      | some quantity =>
        rw [isQuantity] at accepted
        exact Numeric.rounded_nonneg accepted
    exact ⟨create_invariant inv missing rfl nonneg rfl within, create_guarantee inv missing rfl,
      ⟨⟨⟨rfl, _, AList.lookup_insert _, rfl, rfl⟩, untaken⟩, listed.found, listed.precision⟩, holds⟩
  · exact ⟨inv, idle, ⟨missing, untaken⟩, holds⟩

/-- Opening or rejecting an order leaves what is filled alone. -/
theorem status_triple {order : Order} (unset : data.filledQuantity = none) :
    protocol.Triple pid (fun s => Ready pid market params order s ∧ Holds pid none s)
      (ask (.updateOrder order.id data))
      (ends (fun taker s => Ready pid market params taker s ∧ Holds pid none s)
        fun _ => Holds pid none) := by
  apply Triple.call (ready_stable.and (holds_stable none))
  rintro s reply s' inv ⟨⟨⟨⟨rfl, own, isOwn, here, user⟩, untaken⟩, listed⟩, holds⟩ ⟨made, -⟩
  rcases made.updateOrder with ⟨row, found, rfl, within, rfl⟩ | ⟨⟨failure, rfl⟩, rfl⟩
  · rw [found] at isOwn
    cases isOwn
    have same : (patched data own).filledQuantity = own.filledQuantity := by
      simp [patched, unset]
    refine ⟨update_invariant inv found ?_ ?_ within fun _ => same,
      update_guarantee found (.inl same),
      ⟨⟨⟨inv.keyed _ own found, _, AList.lookup_insert _, here, rfl⟩, untaken⟩, listed.found,
        listed.precision⟩, holds⟩
    · rw [same]
      exact inv.filled_nonneg order.id own found
    · rw [same]
      exact inv.filled_grid order.id own found
  · exact ⟨inv, idle, holds⟩

def placement (pid : OrderId) (userId : UserId) (input : CreateOrderDto) :
    Placement protocol pid userId input where
  unused := Unused pid
  placed market params order s := Ready pid market params order s ∧ Holds pid none s
  locked market params order _ s := Ready pid market params order s ∧ Holds pid none s
  opened market params taker s := Ready pid market params taker s ∧ Holds pid none s
  closed marketId := Section pid marketId fun _ => 0
  ended := Holds pid none
  unused_stable := unused_stable
  ended_stable := holds_stable none
  unused_ended _ _ unused := unused.2
  placed_ended _ _ _ _ _ placed := placed.2
  create _ _ _ _ := create_triple
  lock market params order := by
    have other : (orderLock order (computeLockRequirement input.toOrderBody
      params)).referenceType ≠ some "trade" := by simp [orderLock]
    refine post_triple (ready_stable.and (holds_stable none)) other ?_ fun _ placed _ => placed
    rintro s txn ledger ⟨⟨⟨own, untaken⟩, listed⟩, holds⟩ recorded
    exact ⟨⟨⟨own, untaken.posted recorded other⟩, listed.found, listed.precision⟩, holds⟩
  «open» _ _ _ _ := status_triple rfl
  reject _ _ _ := by
    apply (status_triple rfl).imp (fun _ _ placed => placed)
    rintro (failure | row) s _ holds
    · exact holds
    · exact holds.2
  pass market params taker := pass pid market params taker
  acquire _ _ _ := acquire_triple ready_stable fun _ _ ready =>
    ⟨ready.1, ready.2.found, ready.2.precision⟩
  done_closed _ _ _ _ _ sect := sect
  aborted_closed _ _ _ _ _ sect := sect
  release := release_triple

/-- The order to cancel is in the market that the request was told. -/
def Targeted (orderId : OrderId) (marketId : String) (s : Store) : Prop :=
  ∃ row, s.orders.lookup orderId = some row ∧ row.marketId = marketId

theorem targeted_stable (orderId : OrderId) (marketId : String) :
    protocol.Stable pid (Targeted orderId marketId) := by
  rintro s s' _ ⟨row, found, here⟩ rely _
  obtain ⟨row', found', market, -⟩ := rely.rows orderId row found
  exact ⟨row', found', market.trans here⟩

theorem cancel_triple :
    protocol.Triple pid (Section pid marketId fun _ => 0)
      (ask (.updateOrder id { status := some .cancelled }))
      (ends (fun _ => Section pid marketId fun _ => 0)
        fun _ => Section pid marketId fun _ => 0) := by
  apply Triple.call (section_stable marketId _)
  rintro s reply s' inv sect ⟨made, -⟩
  rcases made.updateOrder with ⟨row, found, rfl, within, rfl⟩ | ⟨⟨failure, rfl⟩, rfl⟩
  · refine ⟨update_invariant inv found (inv.filled_nonneg id row found)
      (inv.filled_grid id row found) within fun _ => rfl, update_guarantee found (.inl rfl),
      sect.holds, fun other order isRow here => ?_, fun _ _ => rfl⟩
    have owing : settledQuantity s other = order.filledQuantity + 0 := by
      by_cases same : other = id
      · subst same
        rw [AList.lookup_insert] at isRow
        cases isRow
        exact sect.owing other row found here
      · rw [AList.lookup_insert_ne same] at isRow
        exact sect.owing other order isRow here
    exact owing
  · exact ⟨inv, idle, sect⟩

def cancellation (pid orderId : OrderId) : Cancellation protocol pid orderId where
  unused := Unused pid
  targeted order s := Targeted orderId order.marketId s ∧ Holds pid none s
  entered order s := Targeted orderId order.marketId s ∧ Section pid order.marketId (fun _ => 0) s
  seen order _ := Section pid order.marketId fun _ => 0
  cancelled order _ := Section pid order.marketId fun _ => 0
  closed marketId := Section pid marketId fun _ => 0
  ended := Holds pid none
  unused_ended _ _ unused := unused.2
  targeted_ended _ _ _ targeted := targeted.2
  seen_closed _ _ _ _ sect := sect
  find := by
    refine (Triple.query (F := fun reply s => ∀ found, reply = .ok found →
      found = s.orders.lookup orderId) serves rfl unused_stable ?_).imp (fun _ _ unused => unused) ?_
    · exact fun s reply _ made => made.findOrderById.2
    · rintro (failure | found) s _ ⟨unused, answer⟩
      · exact unused.2
      · cases found with
        | none => exact unused.2
        | some order => exact ⟨⟨order, (answer _ rfl).symm, rfl⟩, unused.2⟩
  acquire _ := acquire_triple (targeted_stable _ _) fun _ _ targeted => targeted
  read order := by
    refine (Triple.query_keeps serves rfl ((targeted_stable _ _).and (section_stable _ _))).imp
      (fun _ _ entered => entered) ?_
    rintro (failure | found) s _ entered
    · exact entered.2
    · cases found with
      | none => exact entered.2
      | some current => exact entered.2
  cancel _ _ _ := cancel_triple
  surplus order updated := release_settled order.marketId updated
  release := release_triple

theorem proved : Pool.Proved protocol IsRequest Untraded Unused fun pid _ => Holds pid none where
  initial s untraded := by
    have empty : ∀ id order, s.orders.lookup id ≠ some order := fun id order found => by
      rw [untraded.orders] at found
      cases (AList.lookup_empty id).symm.trans found
    refine ⟨⟨fun id order found => (empty id order found).elim,
      fun id order found => (empty id order found).elim,
      fun id order found => (empty id order found).elim,
      fun id order found => (empty id order found).elim,
      fun id order found => (empty id order found).elim, fun id _ => ?_,
      fun id order found => (empty id order found).elim⟩, fun pid => ⟨⟨?_, ?_⟩, ?_⟩⟩
    · apply List.filter_eq_nil_iff.mpr
      intro txn member
      simp [settles, untraded.settlements txn member]
    · rw [untraded.orders]
      exact AList.lookup_empty pid
    · exact fun maker txn member trade => (untraded.settlements txn member trade).elim
    · intro marketId
      simp [untraded.locks]
  noninterference i j s s' ne _ _ guaranteed := guaranteed j (Ne.symm ne)
  unused_stable _ := unused_stable
  ended_stable _ _ := holds_stable none
  triple pid := isRequest_triple serves (fun userId input => ⟨placement pid userId input, rfl, rfl⟩)
    fun orderId => ⟨cancellation pid orderId, rfl, rfl⟩

theorem quiet_unlocked {pool : TradingPool} (run : Pool.Run protocol IsRequest Untraded pool)
    (quiet : pool.Quiet) (marketId : String) : pool.store.locks marketId = none := by
  by_contra locked
  obtain ⟨pid, held⟩ := Option.ne_none_iff_exists'.mp locked
  rcases run.quiet proved quiet pid with unused | ⟨_, ended⟩
  · cases (unused.2 marketId).mp held
  · cases (ended marketId).mp held

/-- Fill conservation: in every run whose passes start unfilled and in range and
fail early or not at all, the filled quantity of every order equals what was
settled for it in the ledger whenever no request is in flight, and never
exceeds its quantity. -/
theorem fills_conserved {pool : TradingPool} (run : Pool.Run protocol IsRequest Untraded pool)
    (quiet : pool.Quiet) (id : OrderId) (order : Order)
    (found : pool.store.orders.lookup id = some order) :
    order.filledQuantity = settledQuantity pool.store id ∧
      ∀ quantity ∈ order.quantity, order.filledQuantity ≤ quantity := by
  have inv := run.inv proved
  refine ⟨inv.balanced id order found (quiet_unlocked run quiet order.marketId),
    fun quantity isQuantity => ?_⟩
  have within := inv.within id order found
  rw [ordersFilledChk, Option.mem_def.mp isQuantity] at within
  simpa using within

/-- A sell order that rests, and then the buy order that fills it. -/
theorem fills_conserved_one : ∃ s : Store, ∃ order : Order,
    s.orders.lookup 1 = some order ∧ order.filledQuantity = 1 ∧ settledQuantity s 1 = 1 := by
  let allows pid call s (reply : Except Failure (TradingCall.Reply call)) :=
    timely pid call s reply && reply.isOk
  have played : (schedule allows [.arrive 1 (.placeOrder 1 sellOne), .calls 1 100,
      .arrive 2 (.placeOrder 2 buyOne), .calls 2 100] ⟨smallExchange, ∅⟩).map (fun pool =>
        (pool.isQuiet, (pool.store.orders.lookup 1).map Order.filledQuantity)) =
      some (true, some 1) := by decide +kernel
  obtain ⟨pool, reached, facts⟩ := Option.map_eq_some_iff.mp played
  simp only [Prod.mk.injEq, Option.map_eq_some_iff] at facts
  obtain ⟨isQuiet, order, found, filled⟩ := facts
  have sound : ∀ pid call s reply s', allows pid call s reply → Makes pid call s reply s' →
      protocol.step pid call s reply s' := by
    intro pid call s reply s' allowed made
    obtain ⟨isTimely, isOk⟩ := Bool.and_eq_true_iff.mp allowed
    refine ⟨made, isTimely, fun ⟨failure, isError⟩ => ?_⟩
    rw [isError] at isOk
    cases isOk
  have run := (Pool.Run.start smallExchange_untraded).steps (schedule_steps sound reached)
  have conserved := (fills_conserved run (Pool.quiet_of_isQuiet isQuiet) 1 order found).1
  exact ⟨pool.store, order, found, filled, conserved.symm.trans filled⟩

/-- A buy order fills a sell order between its opening and its own pass, which
then writes over what it was filled. -/
theorem own_pass_erases_fill :
    ¬∀ pool : TradingPool, Pool.Run interleaved IsRequest Untraded pool → pool.Quiet →
      ∀ id order, pool.store.orders.lookup id = some order →
        order.filledQuantity = settledQuantity pool.store id ∧
          ∀ quantity ∈ order.quantity, order.filledQuantity ≤ quantity := by
  intro conserved
  have played : (schedule (fun _ _ _ _ => true) [.arrive 1 (.placeOrder 1 sellOne), .calls 1 6,
      .arrive 2 (.placeOrder 2 buyOne), .calls 2 100, .calls 1 100] ⟨smallExchange, ∅⟩).map
        (fun pool => (pool.isQuiet, (pool.store.orders.lookup 1).map Order.filledQuantity,
          settledQuantity pool.store 1)) = some (true, some 0, 1) := by decide +kernel
  obtain ⟨pool, reached, facts⟩ := Option.map_eq_some_iff.mp played
  simp only [Prod.mk.injEq, Option.map_eq_some_iff] at facts
  obtain ⟨isQuiet, ⟨order, found, filled⟩, settled⟩ := facts
  have sound : ∀ pid call s reply s', true → Makes pid call s reply s' →
      interleaved.step pid call s reply s' := fun _ _ _ _ _ _ made => made
  have same := (conserved pool
    ((Pool.Run.start smallExchange_untraded).steps (schedule_steps sound reached))
    (Pool.quiet_of_isQuiet isQuiet) 1 order found).1
  rw [filled, settled] at same
  exact absurd same (by decide)

end Exchange.Trading.FillConservation
