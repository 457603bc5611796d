import Exchange.TradingMatchMaximality
import Exchange.TradingMatched

/-! What a pass leaves of the orders. The order takes from the best makers of the
book, as far as one scan of it goes. Where nothing was missed behind the scan or
behind dust, no maker of the whole book could trade with what is left. -/
namespace Exchange.Trading.UncrossedBook
open SignificantDigits Ledger Service MatchSoundness MatchMaximality

/-- Where a scan of some makers stops at dust, or is at its end, nothing behind
could trade with the capacity that is left there. -/
def NothingMissed (taker : TakerInput) (params : MarketParams) : ℕ → Decimal → List RestingOrder → Prop
  | _, _, [] => True
  | 0, left, maker :: book => ∀ other ∈ maker :: book, ¬CouldTrade taker params left other (offered params other)
  | scan + 1, left, maker :: book =>
    match turn taker params left maker with
    | .stop => Dust taker params left maker →
        ∀ other ∈ book, ¬CouldTrade taker params left other (offered params other)
    | .skip => NothingMissed taker params scan left book
    | .fill quantity quoteAmount => NothingMissed taker params scan (spend taker left quantity quoteAmount) book

/-- The quantity that two resting orders could trade. -/
def common (params : MarketParams) (taker maker : Order) : Decimal :=
  min (offered params (restingOrder taker)) (offered params (restingOrder maker))

/-- One unit of the quote asset. -/
def quoteUnit (params : MarketParams) : ℚ := 10 ^ (-(params.quoteScale : ℤ))

/-- Two resting orders of different users on the two sides of a market, whose
prices cross. They could trade a quantity that is worth at least a quote unit at
the price of the maker, the one that was placed first. -/
@[mk_iff]
structure Crossing (params : MarketParams) (taker maker : Order) : Prop where
  takerRests : taker.status.isResting
  makerOnBook : isResting taker.marketId taker.side taker.userId maker
  crossing : ∀ price ∈ (takerInput taker).limit, crosses taker.side price (maker.price.getD 0)
  quantity_pos : 0 < common params taker maker
  worth : quoteUnit params ≤ common params taker maker * maker.price.getD 0

instance {params : MarketParams} {taker maker : Order} : Decidable (Crossing params taker maker) :=
  decidable_of_iff' _ (crossing_iff params taker maker)

/-- Twenty digits hold a quantity, and the columns its base units. -/
structure Fits (params : MarketParams) (quantity : Decimal) : Prop where
  base : params.baseScale ≤ 18
  digits : ∃ places : ℕ, params.baseScale ≤ places ∧ OnGrid places quantity ∧ quantity < 10 ^ (20 - (places : ℤ))

/-- The row of a maker after a fill. -/
def makerAfter (maker : Order) (fill : EngineFill) : Order := patched (makerPatch maker fill) maker

/-- The row of an order after its own pass. -/
def takerAfter (taker : Order) (params : MarketParams) (loaded : List Order) : Order :=
  patched (takerPatch taker (matched taker params loaded)) taker

/-- The row of a limit order, with what it is filled so far. -/
structure Sized (params : MarketParams) (row : Order) : Prop where
  isLimit : row.type = .limit
  price_pos : 0 < row.price.getD 0
  isSome : row.quantity.isSome
  fits : Fits params (row.quantity.getD 0)
  grid : OnGrid params.baseScale row.filledQuantity
  nonneg : 0 ≤ row.filledQuantity
  within : row.filledQuantity ≤ row.quantity.getD 0

variable {taker : TakerInput} {params : MarketParams} {book : List RestingOrder} {left quantity filled : Decimal}
  {maker other : RestingOrder} {order row row' : Order} {loaded : List Order} {fill : EngineFill} {scan : ℕ}
  {user : UserId}

/-! ## The whole book -/

/-- The book that a load reads, without the limit of its scan. -/
def wholeBook (s : Store) (marketId : String) (takerSide : OrderSide) (excludeUserId : UserId) : List Order :=
  ((s.orders.rows.map Prod.snd).filter (isResting marketId takerSide excludeUserId)).insertionSort
    fun a b => comesBefore takerSide a b

variable {s : Store} {id : OrderId} {marketId : String} {takerSide : OrderSide} {excludeUserId : UserId}

theorem take_wholeBook (s : Store) (marketId : String) (takerSide : OrderSide) (excludeUserId : UserId) (take : ℕ) :
    (wholeBook s marketId takerSide excludeUserId).take take =
      loadRestingBook s marketId takerSide excludeUserId take := rfl

theorem wholeBook_eq (s : Store) (marketId : String) (takerSide : OrderSide) (excludeUserId : UserId) :
    wholeBook s marketId takerSide excludeUserId =
      loadRestingBook s marketId takerSide excludeUserId (wholeBook s marketId takerSide excludeUserId).length := by
  rw [← take_wholeBook, List.take_length]

theorem mem_wholeBook (found : s.orders.lookup id = some row)
    (rests : isResting marketId takerSide excludeUserId row) :
    row ∈ wholeBook s marketId takerSide excludeUserId := by
  refine (List.mem_insertionSort _).mpr (List.mem_filter.mpr ⟨List.mem_map.mpr ⟨(id, row), ?_, rfl⟩, rests⟩)
  exact Table.mem_rows.mpr found

section Order
variable {p q r : Option Decimal} {a b c : Order}

theorem priceLe_total (p q : Option Decimal) : priceLe p q ∨ priceLe q p := by
  cases p <;> cases q <;> simp [priceLe, le_total]

theorem priceLe_trans (first : priceLe p q) (second : priceLe q r) : priceLe p r := by
  cases p <;> cases q <;> cases r <;> simp_all [priceLe]
  exact first.trans second

theorem priceLe_antisymm (le : priceLe p q) (ge : priceLe q p) : p = q := by
  cases p <;> cases q <;> simp_all [priceLe]
  exact le_antisymm le ge

/-- The order of the prices alone. -/
def ranked (takerSide : OrderSide) (p q : Option Decimal) : Bool :=
  match takerSide with
  | .buy => priceLe p q
  | .sell => priceLe q p

/-- Which of two orders with one price was there first. -/
def earlier (a b : Order) : Prop := toLex (a.createdAt, a.id) ≤ toLex (b.createdAt, b.id)

theorem ranked_total (takerSide : OrderSide) (p q : Option Decimal) :
    ranked takerSide p q ∨ ranked takerSide q p := by
  cases takerSide with
  | buy => exact priceLe_total p q
  | sell => exact priceLe_total q p

theorem ranked_refl (takerSide : OrderSide) (p : Option Decimal) : ranked takerSide p p :=
  or_self_iff.mp (ranked_total takerSide p p)

theorem ranked_trans (first : ranked takerSide p q) (second : ranked takerSide q r) : ranked takerSide p r := by
  cases takerSide with
  | buy => exact priceLe_trans first second
  | sell => exact priceLe_trans second first

theorem ranked_antisymm (le : ranked takerSide p q) (ge : ranked takerSide q p) : p = q := by
  cases takerSide with
  | buy => exact priceLe_antisymm le ge
  | sell => exact priceLe_antisymm ge le

theorem comesBefore_iff : comesBefore takerSide a b ↔
    ranked takerSide a.price b.price ∧ (a.price = b.price → earlier a b) := by
  unfold comesBefore
  split
  · rename_i same
    simp [same, ranked_refl, earlier, Prod.Lex.le_iff]
  · rename_i differ
    cases takerSide <;> simp [ranked, differ]

theorem comesBefore_total (takerSide : OrderSide) (a b : Order) :
    comesBefore takerSide a b ∨ comesBefore takerSide b a := by
  simp only [comesBefore_iff]
  by_cases same : a.price = b.price
  · simp only [same, ranked_refl, true_and, true_implies]
    exact le_total _ _
  · exact (ranked_total takerSide a.price b.price).imp (fun le => ⟨le, fun equal => (same equal).elim⟩)
      fun le => ⟨le, fun equal => (same equal.symm).elim⟩

theorem comesBefore_trans (first : comesBefore takerSide a b) (second : comesBefore takerSide b c) :
    comesBefore takerSide a c := by
  rw [comesBefore_iff] at first second ⊢
  refine ⟨ranked_trans first.1 second.1, fun same => ?_⟩
  have middle : a.price = b.price := ranked_antisymm first.1 (same ▸ second.1)
  exact le_trans (first.2 middle) (second.2 (middle.symm.trans same))

end Order

/-- A book of orders that have a price is sorted by it. -/
theorem wholeBook_bestFirst
    (priced : ∀ row ∈ wholeBook s marketId takerSide excludeUserId, 0 < row.price.getD 0) :
    BestFirst takerSide ((wholeBook s marketId takerSide excludeUserId).map restingOrder) := by
  have : Std.Total fun a b => comesBefore takerSide a b := ⟨comesBefore_total takerSide⟩
  have : IsTrans Order fun a b => comesBefore takerSide a b := ⟨fun _ _ _ => comesBefore_trans⟩
  have sorted : (wholeBook s marketId takerSide excludeUserId).Pairwise fun a b => comesBefore takerSide a b :=
    List.pairwise_insertionSort _ _
  refine List.pairwise_map.mpr (sorted.imp_of_mem fun {a b} isA isB before => ?_)
  have first := priced a isA
  have second := priced b isB
  have rank := (comesBefore_iff.mp before).1
  cases priceA : a.price with
  | none => simp [priceA] at first
  | some p =>
    cases priceB : b.price with
    | none => simp [priceB] at second
    | some q =>
      simp only [priceA, priceB] at rank
      cases takerSide <;> simpa [restingOrder, priceA, priceB, ranked, priceLe] using rank

/-! ## What was not missed -/

theorem NothingMissed.behindDust (nothing : NothingMissed taker params scan left book) :
    NothingBehindDust taker params user left (book.take scan) := by
  induction book generalizing scan left with
  | nil => simp [NothingBehindDust]
  | cons maker book ih =>
    cases scan with
    | zero => simp [NothingBehindDust]
    | succ scan =>
      simp only [NothingMissed] at nothing
      simp only [List.take_succ_cons, NothingBehindDust]
      cases step : turn taker params left maker with
      | stop =>
        simp only [step] at nothing
        exact fun dust other member _ => nothing dust other (List.mem_of_mem_take member)
      | skip => exact ih (by simpa [step] using nothing)
      | fill quantity quoteAmount => exact ih (by simpa [step] using nothing)

theorem NothingMissed.unscanned (nothing : NothingMissed taker params scan left book)
    (sorted : BestFirst taker.side book) (priced : ∀ maker ∈ book, 0 < maker.price)
    (behind : other ∈ book.drop scan) :
    ¬CouldTrade taker params (leftAfter taker left (trades taker params left (book.take scan))) other
      (offered params other) := by
  induction book generalizing scan left with
  | nil => simp at behind
  | cons maker book ih =>
    have sorted' : BestFirst taker.side book := (List.pairwise_cons.mp sorted).2
    have priced' : ∀ maker ∈ book, 0 < maker.price :=
      fun other member => priced other (List.mem_cons_of_mem _ member)
    cases scan with
    | zero => exact nothing other behind
    | succ scan =>
      simp only [NothingMissed] at nothing
      simp only [List.drop_succ_cons] at behind
      simp only [List.take_succ_cons, trades]
      cases step : turn taker params left maker with
      | stop =>
        simp only [step] at nothing
        by_cases dust : Dust taker params left maker
        · exact nothing dust other (List.mem_of_mem_drop behind)
        · exact stop_nothing step dust sorted priced (List.mem_cons_of_mem _ (List.mem_of_mem_drop behind))
      | skip => exact ih (by simpa [step] using nothing) sorted' priced' behind
      | fill quantity quoteAmount =>
        simp only [step] at nothing
        exact ih nothing sorted' priced' behind

/-- After a scan that missed nothing, no maker of the whole book could trade what
is left of it with what is left of the order. -/
theorem NothingMissed.nothingTrades (nothing : NothingMissed taker params scan left book)
    (byQuantity : taker.isBudgetDriven = false) (sorted : BestFirst taker.side book)
    (priced : ∀ maker ∈ book, 0 < maker.price) (distinct : (book.map RestingOrder.id).Nodup)
    (others : ∀ maker ∈ book, maker.userId ≠ user) (member : maker ∈ book) :
    ¬CouldTrade taker params (leftAfter taker left (trades taker params left (book.take scan))) maker
      (offered params maker - takenOf (trades taker params left (book.take scan)) maker) := by
  rw [← List.take_append_drop scan book, List.map_append, List.nodup_append] at distinct
  obtain ⟨scannedIds, -, apart⟩ := distinct
  have front : ∀ maker ∈ book.take scan, 0 < maker.price :=
    fun maker member => priced maker (List.mem_of_mem_take member)
  rw [← List.take_append_drop scan book, List.mem_append] at member
  rcases member with scanned | behind
  · have trade : NothingTrades taker params user _ _ :=
      (nothingTrades_iff (sorted.sublist (List.take_sublist scan book)) front).mpr
        ⟨nothing.behindDust, noSecondFill_of_quantity front byQuantity⟩
    rw [restAfter_eq scannedIds] at trade
    exact trade _ (List.mem_map_of_mem scanned) (others maker (List.mem_of_mem_take scanned))
  · rw [takenOf_absent fun trade isTrade same => ?_, sub_zero]
    · exact nothing.unscanned sorted priced behind
    · have scanned := (trades_makers_sublist taker params left (book.take scan)).subset (List.mem_map_of_mem isTrade)
      exact apart _ (List.mem_map_of_mem scanned) _ (List.mem_map_of_mem behind) same

/-! ## What is left of a quantity -/

theorem Fits.small (fits : Fits params quantity) : quantity < 10 ^ (20 - (params.baseScale : ℤ)) := by
  obtain ⟨places, fine, -, small⟩ := fits.digits
  exact small.trans_le (zpow_le_zpow_right₀ (by norm_num) (by omega))

theorem Fits.sub_exact (fits : Fits params quantity) (grid : OnGrid params.baseScale filled) (nonneg : 0 ≤ filled)
    (within : filled ≤ quantity) : Decimal.sub quantity filled = quantity - filled := by
  obtain ⟨places, fine, whole, small⟩ := fits.digits
  refine Decimal.sub_exact whole (grid.mono (by exact_mod_cast fine)) ?_
  rw [abs_of_nonneg (sub_nonneg.mpr within)]
  linarith

/-- Whole units that are taken off come off the floored value. -/
theorem floorTo_sub_le {places : ℕ} (grid : OnGrid places amount) (nonneg : 0 ≤ value - amount) :
    floorTo (value - amount) places ≤ floorTo value places - amount := by
  have floored : floorTo (value - amount) places ≤ value - amount := floorTo_le nonneg
  have whole : floorTo (value - amount) places + amount ≤ floorTo value places :=
    le_atPlaces towardZero_mode ((floorTo_onGrid _ _).add grid) (by linarith)
  linarith

theorem Sized.remaining (sized : Sized params row) :
    (restingOrder row).remaining = row.quantity.getD 0 - row.filledQuantity := by
  obtain ⟨quantity, isQuantity⟩ := Option.isSome_iff_exists.mp sized.isSome
  have fits := sized.fits
  have within := sized.within
  rw [isQuantity, Option.getD_some] at fits within
  simp only [restingOrder, isQuantity, Option.getD_some]
  exact fits.sub_exact sized.grid sized.nonneg within

/-- The row with more of it filled. -/
theorem Sized.refilled (sized : Sized params row) (type : row'.type = row.type)
    (price : row'.price = row.price) (quantity : row'.quantity = row.quantity)
    (grid : OnGrid params.baseScale row'.filledQuantity) (nonneg : 0 ≤ row'.filledQuantity)
    (within : row'.filledQuantity ≤ row.quantity.getD 0) : Sized params row' where
  isLimit := type.trans sized.isLimit
  price_pos := price ▸ sized.price_pos
  isSome := quantity ▸ sized.isSome
  fits := quantity ▸ sized.fits
  grid := grid
  nonneg := nonneg
  within := quantity ▸ within

/-- What a fill takes, the row does not offer any more. -/
theorem Sized.offered_le (sized : Sized params row) (sized' : Sized params row')
    (quantity : row'.quantity = row.quantity) (grid : OnGrid params.baseScale amount)
    (filled : row'.filledQuantity = row.filledQuantity + amount) :
    offered params (restingOrder row') ≤ offered params (restingOrder row) - amount := by
  have within := sized'.within
  have remaining : (restingOrder row').remaining = (restingOrder row).remaining - amount := by
    rw [sized'.remaining, sized.remaining, quantity, filled]
    ring
  rw [offered, offered, remaining]
  refine floorTo_sub_le grid ?_
  rw [← remaining, sized'.remaining]
  exact sub_nonneg.mpr within

/-- The maker's row after a fill. -/
theorem Sized.advance (sized : Sized params row) (executed : Executed params fill)
    (available : fill.quantity ≤ (restingOrder row).remaining) :
    Sized params (makerAfter row fill) ∧
      offered params (restingOrder (makerAfter row fill)) ≤
        offered params (restingOrder row) - fill.quantity := by
  have grid : OnGrid params.baseScale (row.filledQuantity + fill.quantity) := sized.grid.add executed.quantity_grid
  have nonneg : 0 ≤ row.filledQuantity + fill.quantity := add_nonneg sized.nonneg executed.quantity_pos.le
  have within : row.filledQuantity + fill.quantity ≤ row.quantity.getD 0 := by linarith [sized.remaining]
  have sum : row.filledQuantity.add fill.quantity = row.filledQuantity + fill.quantity := by
    refine Decimal.add_exact sized.grid executed.quantity_grid ?_
    rw [abs_of_nonneg nonneg]
    exact within.trans_lt sized.fits.small
  have filled : (makerAfter row fill).filledQuantity = row.filledQuantity + fill.quantity := by
    change Numeric.rounded (row.filledQuantity.add fill.quantity) = _
    rw [sum, Numeric.rounded_of_onGrid (grid.mono (by exact_mod_cast sized.fits.base))]
  have sized' : Sized params (makerAfter row fill) :=
    sized.refilled rfl rfl rfl (filled ▸ grid) (filled ▸ nonneg) (filled ▸ within)
  exact ⟨sized', sized.offered_le sized' rfl executed.quantity_grid filled⟩

/-! ## What is left of the order -/

/-- The capacity that is left is what the trades did not take. -/
theorem leftAfter_quantity (byQuantity : taker.isBudgetDriven = false)
    (grid : OnGrid params.baseScale left) (nonneg : 0 ≤ left)
    (small : left < 10 ^ (20 - (params.baseScale : ℤ))) :
    ((trades taker params left book).map fun trade => trade.2.1).sum ≤ left ∧
      leftAfter taker left (trades taker params left book) =
        left - ((trades taker params left book).map fun trade => trade.2.1).sum := by
  have scale : unitScale taker params = params.baseScale := by simp [unitScale, byQuantity]
  induction book generalizing left with
  | nil => simpa [trades, leftAfter] using nonneg
  | cons maker book ih =>
    simp only [trades]
    cases step : turn taker params left maker with
    | stop => simpa [leftAfter] using nonneg
    | skip => exact ih grid nonneg small
    | fill quantity quoteAmount =>
      have fills := turn_fill step
      have afforded : quantity ≤ left := by simpa [affordable, byQuantity] using fills.afforded
      have whole : OnGrid params.baseScale quantity := fills.quantity_grid (scale ▸ grid)
      have rest : spend taker left quantity quoteAmount = left - quantity := by
        rw [spend, byQuantity, if_neg Bool.false_ne_true]
        refine Decimal.sub_exact grid whole ?_
        rw [abs_of_nonneg (sub_nonneg.mpr afforded)]
        linarith [fills.quantity_pos]
      have later := @ih (left - quantity) (grid.sub whole) (sub_nonneg.mpr afforded)
        (by linarith [fills.quantity_pos])
      simp only [leftAfter, List.map_cons, List.sum_cons, List.foldl_cons, rest] at later ⊢
      exact ⟨by linarith [later.1], by rw [later.2]; ring⟩

theorem Sized.byQuantity (sized : Sized params order) : (takerInput order).isBudgetDriven = false := by
  simp [TakerInput.isBudgetDriven, takerInput, sized.isLimit]

theorem Sized.capacity (sized : Sized params order) (unfilled : order.filledQuantity = 0) :
    initialCapacity (takerInput order) params = offered params (restingOrder order) := by
  rw [initialCapacity, sized.byQuantity, if_neg Bool.false_ne_true, offered, sized.remaining, unfilled, sub_zero]
  rfl

/-- The row of an order after its own pass. -/
theorem Sized.passed (sized : Sized params order) (unfilled : order.filledQuantity = 0) :
    Sized params (takerAfter order params loaded) ∧
      offered params (restingOrder (takerAfter order params loaded)) ≤
        leftAfter (takerInput order) (initialCapacity (takerInput order) params) (trades (takerInput order) params
          (initialCapacity (takerInput order) params) (loaded.map restingOrder)) := by
  have capacity := sized.capacity unfilled
  have remaining : (restingOrder order).remaining = order.quantity.getD 0 := by
    rw [sized.remaining, unfilled, sub_zero]
  have whole : 0 ≤ order.quantity.getD 0 := unfilled ▸ sized.within
  have floored : initialCapacity (takerInput order) params ≤ order.quantity.getD 0 := by
    rw [capacity, offered, remaining]
    exact floorTo_le whole
  obtain ⟨within, left⟩ := @leftAfter_quantity (takerInput order) params (loaded.map restingOrder)
    (initialCapacity (takerInput order) params) sized.byQuantity (capacity ▸ floorTo_onGrid _ _)
    (by rw [capacity, offered, remaining]; exact floorTo_nonneg whole) (floored.trans_lt sized.fits.small)
  have each : ∀ value ∈ (matched order params loaded).fills.map EngineFill.quantity,
      OnGrid params.baseScale value ∧ 0 ≤ value := by
    rw [fills_quantities]
    exact fun _ => quantities_each
  have sum : ((matched order params loaded).fills.map EngineFill.quantity).sum ≤
      initialCapacity (takerInput order) params := fills_quantities ▸ within
  have total := matched_filledQuantity.trans (printed_total each ((sum.trans floored).trans_lt sized.fits.small))
  have grid : OnGrid params.baseScale (matched order params loaded).filledQuantity := by
    rw [total]
    exact OnGrid.sum fun value member => (each value member).1
  have stored : (takerAfter order params loaded).filledQuantity =
      (matched order params loaded).filledQuantity :=
    Numeric.rounded_of_onGrid (grid.mono (by exact_mod_cast sized.fits.base))
  have sized' : Sized params (takerAfter order params loaded) := by
    refine sized.refilled rfl rfl rfl (stored ▸ grid) ?_ ?_ <;> rw [stored, total]
    · exact List.sum_nonneg fun value member => (each value member).2
    · exact sum.trans floored
  refine ⟨sized', (sized.offered_le sized' rfl grid (by rw [stored, unfilled, zero_add])).trans (le_of_eq ?_)⟩
  rw [left, total, ← fills_quantities, capacity]

/-! ## Crossing orders -/

theorem quoteUnit_pos (params : MarketParams) : 0 < quoteUnit params := by
  unfold quoteUnit
  positivity

/-- A value of one quote unit survives the rounding of the engine. -/
theorem quoteUnit_settles {quantity price : Decimal} (worth : quoteUnit params ≤ quantity * price) :
    0 < floorTo (Decimal.mul quantity price) params.quoteScale := by
  have whole : OnGrid params.quoteScale (quoteUnit params) :=
    ⟨1, by rw [quoteUnit, ← zpow_add₀ (by norm_num)]; norm_num⟩
  have exact : significant Decimal.precision (quoteUnit params) = quoteUnit params := by
    refine significant_of_onGrid whole ?_
    rw [abs_of_pos (quoteUnit_pos params), quoteUnit]
    exact zpow_lt_zpow_right₀ (by norm_num) (by simp only [Decimal.precision]; omega)
  have product : quoteUnit params ≤ Decimal.mul quantity price := by
    rw [← exact]
    exact significant_mono (by decide) worth
  exact (quoteUnit_pos params).trans_le (le_atPlaces towardZero_mode whole product)

/-- Where two orders cross, the later one could still trade with the earlier. -/
theorem Crossing.couldTrade {taker maker : Order} (crossing : Crossing params taker maker)
    (byQuantity : (takerInput taker).isBudgetDriven = false)
    (leftCovers : offered params (restingOrder taker) ≤ left)
    (restCovers : offered params (restingOrder maker) ≤ rest) (price : other.price = maker.price.getD 0) :
    CouldTrade (takerInput taker) params left other rest := by
  refine ⟨fun limit isLimit => price ▸ crossing.crossing limit isLimit, common params taker maker, ?_,
    crossing.quantity_pos, (min_le_right _ _).trans restCovers, ?_, quoteUnit_settles (price ▸ crossing.worth)⟩
  · unfold common
    rcases min_choice (offered params (restingOrder taker)) (offered params (restingOrder maker)) with least | least
    · rw [least]
      exact floorTo_onGrid _ _
    · rw [least]
      exact floorTo_onGrid _ _
  · rw [affordable, byQuantity, if_neg Bool.false_ne_true]
    exact (min_le_left _ _).trans leftCovers

end Exchange.Trading.UncrossedBook
