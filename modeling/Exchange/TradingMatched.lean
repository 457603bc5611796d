import Exchange.TradingEffects
import Exchange.TradingLockSufficiency

/-! What a pass makes of the rows it loaded: the engine's fills in terms of
rows, and what the settlement of a fill moves. -/
namespace Exchange.Trading.Service
open SignificantDigits Ledger

/-- The engine's result for a taker that finds these rows on the book. -/
abbrev matched (taker : Order) (params : MarketParams) (loaded : List Order) : EngineResult :=
  matchOrder (takerInput taker) (loaded.map restingOrder) params

/-- The rows the loop goes on with after a maker's fill. -/
def refreshed (maker : Order) (fill : EngineFill) (rows : List Order) : List Order :=
  rows.map fun order => if order.id = maker.id then advanced maker fill else order

variable {taker maker : Order} {params : MarketParams} {loaded rows : List Order}
  {fill : EngineFill}

theorem refreshed_ids : (refreshed maker fill rows).map Order.id = rows.map Order.id := by
  rw [refreshed, List.map_map]
  apply List.map_congr_left
  intro order _
  simp only [Function.comp_apply]
  split
  · rename_i same
    exact same.symm
  · rfl

/-- The makers of later fills are still in hand. -/
theorem present_refreshed {fills : List EngineFill}
    (present : ∀ later ∈ fills, ∃ order ∈ rows, order.id = later.makerOrderId) :
    ∀ later ∈ fills, ∃ order ∈ refreshed maker fill rows, order.id = later.makerOrderId := by
  intro later member
  obtain ⟨order, isRow, isLater⟩ := present later member
  have inHand : later.makerOrderId ∈ (refreshed maker fill rows).map Order.id := by
    rw [refreshed_ids]
    exact List.mem_map.mpr ⟨order, isRow, isLater⟩
  exact List.mem_map.mp inHand

theorem mem_refreshed {order : Order} (member : order ∈ refreshed maker fill rows)
    (other : order.id ≠ maker.id) : order ∈ rows := by
  obtain ⟨row, inRows, rfl⟩ := List.mem_map.mp member
  by_cases same : row.id = maker.id
  · rw [if_pos same] at other
    exact (other rfl).elim
  · rw [if_neg same]
    exact inRows

/-- Where a fill comes from: a row of the book with a quantity, at its price. -/
structure FillFrom (taker : Order) (row : Order) (fill : EngineFill) : Prop where
  id : row.id = fill.makerOrderId
  price : fill.price = row.price.getD 0
  quantity : row.quantity.isSome
  crossing : ∀ limit ∈ (takerInput taker).limit, crosses taker.side limit fill.price

theorem matched_fill (member : fill ∈ (matched taker params loaded).fills) :
    Executed params fill ∧ ∃ row ∈ loaded, FillFrom taker row fill := by
  simp only [matchOrder, matchBook_fills, List.nil_append, List.mem_map] at member
  obtain ⟨⟨maker, quantity, quoteAmount⟩, traded, rfl⟩ := member
  obtain ⟨onBook, left, fills⟩ := trades_fills traded
  have grid : OnGrid params.baseScale quantity := trades_quantity_grid traded
  have quoteGrid : OnGrid params.quoteScale quoteAmount := fills.quote ▸ floorTo_onGrid _ _
  obtain ⟨row, isLoaded, rfl⟩ := List.mem_map.mp onBook
  refine ⟨⟨fills.price_pos, ?_, ?_, ?_⟩, row, isLoaded, rfl, rfl, ?_, fills.crossing⟩
  · rw [Decimal.toFixed_of_onGrid grid]
    exact fills.quantity_pos
  · rw [Decimal.toFixed_of_onGrid grid]
    exact grid
  · rw [Decimal.toFixed_of_onGrid grid, Decimal.toFixed_of_onGrid quoteGrid, fills.quote]
  · by_contra missing
    have none : row.quantity = none := by simpa using missing
    have available := fills.available
    have zero : floorTo 0 params.baseScale = 0 := by simp [floorTo, atPlaces, towardZero]
    simp only [restingOrder, none, zero] at available
    linarith [fills.quantity_pos]

theorem matched_filledQuantity :
    (matched taker params loaded).filledQuantity =
      (((matched taker params loaded).fills.map EngineFill.quantity).foldl Decimal.add 0).toFixed
        params.baseScale := by
  have each : ∀ trade ∈ trades (takerInput taker) params
      (initialCapacity (takerInput taker) params) (loaded.map restingOrder),
      trade.2.1.toFixed params.baseScale = trade.2.1 := fun _ traded =>
    Decimal.toFixed_of_onGrid (trades_quantity_grid traded)
  simp only [matchOrder, matchBook_filledQuantity, matchBook_fills, List.nil_append, List.map_map,
    List.foldl_map, Function.comp_def]
  congr 1
  exact List.foldl_ext _ _ _ fun total trade traded => by rw [each trade traded]

/-- Fills of different makers, each within its maker's quantity, are together
within the quantities of the book. -/
theorem sum_le_of_makers {fills : List EngineFill}
    (makers : (fills.map EngineFill.makerOrderId).Nodup)
    (within : ∀ fill ∈ fills, ∃ row ∈ loaded, row.id = fill.makerOrderId ∧
      fill.quantity ≤ row.quantity.getD 0)
    (nonneg : ∀ row ∈ loaded, 0 ≤ row.quantity.getD 0) :
    (fills.map EngineFill.quantity).sum ≤ (loaded.map fun row => row.quantity.getD 0).sum := by
  induction fills generalizing loaded with
  | nil =>
    apply List.sum_nonneg
    intro quantity member
    obtain ⟨row, isLoaded, rfl⟩ := List.mem_map.mp member
    exact nonneg row isLoaded
  | cons fill fills ih =>
    obtain ⟨row, isLoaded, isMaker, le⟩ := within fill (by simp)
    obtain ⟨different, others⟩ := List.nodup_cons.mp makers
    have rest := @ih (loaded.erase row) others (fun later member => ?_)
      fun other member => nonneg other (List.mem_of_mem_erase member)
    · have split := ((List.perm_cons_erase isLoaded).map fun row =>
        row.quantity.getD 0).sum_eq
      rw [split, List.map_cons, List.sum_cons, List.map_cons, List.sum_cons]
      exact add_le_add le rest
    · obtain ⟨row', isLoaded', isMaker', le'⟩ := within later (List.mem_cons_of_mem _ member)
      refine ⟨row', (List.mem_erase_of_ne ?_).mpr isLoaded', isMaker', le'⟩
      rintro rfl
      exact different (List.mem_map.mpr ⟨later, member, isMaker'.symm.trans isMaker⟩)

/-! ## What a settlement moves -/

/-- What a posting takes out of locked balances in an asset. -/
def lockedDebit (asset : String) (txn : LedgerTransaction Reference) : ℚ :=
  (txn.entries.map fun entry =>
    if entry.accountId.kind = .userLocked ∧ entry.accountId.asset = citext asset then -entry.signed
    else 0).sum

/-- What a line takes out of locked balances in an asset. -/
def lineDebit (asset : String) (line : LedgerPostingLine) : ℚ :=
  if line.kind = .userLocked ∧ citext line.asset = citext asset then -line.change else 0

theorem lockedDebit_recorded {ledger ledger' : Ledger.Store Reference}
    (recorded : Recorded ledger input txn ledger') :
    lockedDebit asset txn = (input.lines.map (lineDebit asset)).sum := by
  rw [lockedDebit, recorded.entries, List.map_map]
  rfl

/-- A fee leaves locked balances alone. -/
theorem fee_line (asset : String) (condition : Prop) [Decidable condition]
    (amount : Decimal) (feeAsset : String) :
    ((if condition then [(⟨none, .feeRevenue, feeAsset, .credit, amount⟩ : LedgerPostingLine)]
      else []).map (lineDebit asset)).sum = 0 := by
  split
  · simp [lineDebit]
  · rfl

/-- The seller's locked base asset pays the quantity. -/
theorem lockedDebit_base {ledger ledger' : Ledger.Store Reference}
    (recorded : Recorded ledger (settlement taker maker fill market params).input txn ledger') :
    lockedDebit baseAsset txn = Numeric.rounded (fill.quantity.toFixed params.baseScale) := by
  have assets : citext quoteAsset ≠ citext baseAsset := by decide +kernel
  rw [lockedDebit_recorded recorded, settlement]
  simp only [List.map_append, List.sum_append, fee_line, add_zero]
  simp [lineDebit, assets, LedgerPostingLine.change, EntryDirection.signed]

/-- The buyer's locked quote asset pays the quote amount. -/
theorem lockedDebit_quote {ledger ledger' : Ledger.Store Reference}
    (recorded : Recorded ledger (settlement taker maker fill market params).input txn ledger') :
    lockedDebit quoteAsset txn = Numeric.rounded (fill.quoteAmount.toFixed params.quoteScale) := by
  have assets : citext baseAsset ≠ citext quoteAsset := by decide +kernel
  rw [lockedDebit_recorded recorded, settlement]
  simp only [List.map_append, List.sum_append, fee_line, add_zero]
  simp [lineDebit, assets, LedgerPostingLine.change, EntryDirection.signed]

theorem lockedDebit_base_pos {ledger ledger' : Ledger.Store Reference}
    (recorded : Recorded ledger (settlement taker maker fill market params).input txn ledger') :
    0 < lockedDebit baseAsset txn := by
  rw [lockedDebit_base recorded]
  apply recorded.entries_pos
    ⟨⟨_, citext baseAsset, .userLocked⟩, .debit, _, baseAsset⟩
  rw [recorded.entries]
  exact List.mem_map.mpr ⟨_, List.mem_append_left _ (List.mem_append_left _
    (List.mem_cons_of_mem _ (List.mem_cons_of_mem _ List.mem_cons_self))), rfl⟩

/-- What the settlements posted for an order took out of locked balances. -/
def settled (asset : String) (s : Store) (id : OrderId) : ℚ :=
  ((settlements s id).map (lockedDebit asset)).sum

/-- The base quantity of the settlements posted for an order. -/
def settledQuantity (s : Store) (id : OrderId) : ℚ := settled baseAsset s id

/-- The quote amount of the settlements posted for an order. -/
def settledQuote (s : Store) (id : OrderId) : ℚ := settled quoteAsset s id

theorem settled_congr {s s' : Store} {id : OrderId} (same : settlements s' id = settlements s id) :
    settled asset s' id = settled asset s id := by
  rw [settled, settled, same]

theorem settled_nil {s : Store} {id : OrderId} (none : settlements s id = []) :
    settled asset s id = 0 := by
  rw [settled, none]
  rfl

theorem settledQuantity_congr {s s' : Store} {id : OrderId}
    (same : settlements s' id = settlements s id) :
    settledQuantity s' id = settledQuantity s id := settled_congr same

theorem settledQuantity_nil {s : Store} {id : OrderId} (none : settlements s id = []) :
    settledQuantity s id = 0 := settled_nil none

/-- No settlement of this fill has been posted. -/
def Fresh (s : Store) (fillId : FillId) : Prop :=
  ∀ txn ∈ s.ledger.transactions, txn.referenceType = some "trade" →
    txn.referenceId ≠ some (.trade fillId)

theorem Fresh.ledger {s : Store} {ledger : Ledger.Store Reference} (fresh : Fresh s fillId)
    (recorded : Recorded s.ledger input txn ledger) (other : input.referenceType ≠ some "trade") :
    Fresh { s with ledger } fillId := by
  intro txn' member trade
  rw [recorded.transactions, List.mem_append, List.mem_singleton] at member
  rcases member with before | rfl
  · exact fresh txn' before trade
  · exact (other (recorded.reference.1.symm.trans trade)).elim

theorem Fresh.notFound {s : Store} (fresh : Fresh s fillId) :
    findExistingPosting s.ledger (some "trade") (some (.trade fillId)) = none := by
  simp only [findExistingPosting, reduceCtorEq, Option.some.injEq, or_false, false_or,
    ite_eq_left_iff]
  intro _
  apply List.find?_eq_none.mpr
  intro txn member same
  obtain ⟨trade, reference⟩ : txn.referenceType = some "trade" ∧
    txn.referenceId = some (.trade fillId) := by simpa using same
  exact fresh txn member trade reference

/-- The settlement of a fill is no settlement of another maker's. -/
theorem Fresh.settled {s : Store} {ledger : Ledger.Store Reference} {txn : LedgerTransaction Reference}
    {other : OrderId} (fresh : Fresh s (taker.id, other))
    (recorded : Recorded s.ledger (settlement taker maker fill market params).input txn ledger)
    (different : maker.id ≠ other) : Fresh { s with ledger } (taker.id, other) := by
  intro txn' member trade reference
  rw [recorded.transactions, List.mem_append, List.mem_singleton] at member
  rcases member with before | rfl
  · exact fresh txn' before trade reference
  · have same := recorded.reference.2.symm.trans reference
    simp only [settlement, Option.some.injEq, Reference.trade.injEq, Prod.mk.injEq, true_and] at same
    exact different same

theorem settled_recorded {s : Store} {ledger : Ledger.Store Reference}
    {txn : LedgerTransaction Reference}
    (recorded : Recorded s.ledger (settlement taker maker fill market params).input txn ledger)
    (asset : String) (id : OrderId) : settled asset { s with ledger } id = settled asset s id +
      if taker.id = id ∨ maker.id = id then lockedDebit asset txn else 0 := by
  rw [settled, settlements_recorded recorded, settles_settlement recorded, List.map_append,
    List.sum_append, settled]
  congr 1
  by_cases party : taker.id = id ∨ maker.id = id
  · simp [party]
  · simp [party]

end Exchange.Trading.Service
