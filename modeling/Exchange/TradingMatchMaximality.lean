import Exchange.TradingMatchSoundness

/-! Whether a pass leaves something that could still be traded. Every stop of the
loop but one says that nothing behind it can trade, because the book is sorted. A
maker whose offer is worth less than one quote unit says nothing about the makers
behind it. -/
namespace Exchange.Trading.MatchMaximality
open SignificantDigits Ledger MatchSoundness

/-- What the fills of a pass leave of a maker. -/
def restOf (params : MarketParams) (fills : List EngineFill) (maker : RestingOrder) : Decimal :=
  offered params maker - ((fills.filter fun fill => fill.makerOrderId = maker.id).map fun fill => fill.quantity).sum

/-- A maker with some rest could trade a quantity worth at least one quote unit
with an order that has some capacity left. -/
def CouldTrade (taker : TakerInput) (params : MarketParams) (left : Decimal) (maker : RestingOrder) (rest : Decimal) :
    Prop :=
  (∀ price ∈ taker.limit, crosses taker.side price maker.price) ∧
    ∃ quantity, OnGrid params.baseScale quantity ∧ 0 < quantity ∧ quantity ≤ rest ∧
      quantity ≤ affordable taker params left maker.price ∧ 0 < floorTo (Decimal.mul quantity maker.price) params.quoteScale

/-- What an order takes of a maker at most. -/
def fillable (taker : TakerInput) (params : MarketParams) (left : Decimal) (maker : RestingOrder) : Decimal :=
  min (offered params maker) (affordable taker params left maker.price)

/-- What the order could take of the maker is worth less than a quote unit. -/
def Dust (taker : TakerInput) (params : MarketParams) (left : Decimal) (maker : RestingOrder) : Prop :=
  0 < fillable taker params left maker ∧
    floorTo ((fillable taker params left maker).mul maker.price) params.quoteScale ≤ 0

/-- Where the loop stops at dust, no maker of another user behind it could trade
with the capacity that is left there. -/
def NothingBehindDust (taker : TakerInput) (params : MarketParams) (user : UserId) : Decimal → List RestingOrder → Prop
  | _, [] => True
  | left, maker :: book =>
    match turn taker params left maker with
    | .stop => Dust taker params left maker → ∀ other ∈ book, other.userId ≠ user →
        ¬CouldTrade taker params left other (offered params other)
    | .skip => NothingBehindDust taker params user left book
    | .fill quantity quoteAmount => NothingBehindDust taker params user (spend taker left quantity quoteAmount) book

/-- No maker of another user that the loop took a part of could trade once more
with the capacity at the end. -/
def NoSecondFill (taker : TakerInput) (params : MarketParams) (user : UserId) (capacity : Decimal)
    (book : List RestingOrder) : Prop :=
  ∀ trade ∈ trades taker params capacity book, trade.1.userId ≠ user → trade.2.1 < offered params trade.1 →
    ¬CouldTrade taker params (leftAfter taker capacity (trades taker params capacity book)) trade.1
      (offered params trade.1 - trade.2.1)

variable {taker : TakerInput} {user : UserId} {book : List RestingOrder} {params : MarketParams}
  {left rest : Decimal} {maker other : RestingOrder}

/-! ## What can trade -/

theorem affordable_nonpos (price : 0 < maker.price) (nothing : left ≤ 0) :
    affordable taker params left maker.price ≤ 0 := by
  unfold affordable
  split
  · have quotient : Decimal.div left maker.price ≤ 0 := by
      have rounded := @significant_mono Decimal.precision (by decide) _ _
        (div_nonpos_of_nonpos_of_nonneg nothing price.le)
      rwa [significant_zero] at rounded
    exact atPlaces_le towardZero_mode (onGrid_zero _) quotient
  · exact nothing

theorem CouldTrade.left_pos (could : CouldTrade taker params left maker rest) (price : 0 < maker.price) : 0 < left := by
  obtain ⟨-, quantity, -, positive, -, afforded, -⟩ := could
  by_contra nothing
  linarith [@affordable_nonpos taker params left maker price (not_lt.mp nothing)]

theorem CouldTrade.rest_pos (could : CouldTrade taker params left maker rest) : 0 < rest := by
  obtain ⟨-, quantity, -, positive, within, -⟩ := could
  exact positive.trans_le within

/-- A higher price buys no more. -/
theorem affordable_anti (nonneg : 0 ≤ left) (price : 0 < maker.price) (le : maker.price ≤ other.price) :
    affordable taker params left other.price ≤ affordable taker params left maker.price := by
  unfold affordable
  split
  · exact floorTo_mono (significant_mono (by decide) (div_le_div_of_nonneg_left nonneg price le))
  · exact le_rfl

theorem Dust.not_couldTrade (dust : Dust taker params left maker) :
    ¬CouldTrade taker params left maker (offered params maker) := by
  rintro ⟨-, quantity, -, positive, within, afforded, worth⟩
  have price : 0 < maker.price := by
    by_contra nonpositive
    have product : Decimal.mul quantity maker.price ≤ 0 := by
      have rounded := @significant_mono Decimal.precision (by decide) _ _
        (mul_nonpos_of_nonneg_of_nonpos positive.le (not_lt.mp nonpositive))
      rwa [significant_zero] at rounded
    exact absurd worth (atPlaces_le towardZero_mode (onGrid_zero _) product).not_gt
  have most : quantity ≤ fillable taker params left maker := le_min within afforded
  exact absurd worth ((floorTo_mono (Decimal.mul_mono_left price.le most)).trans dust.2).not_gt

/-! ## Where the loop stops -/

/-- The reasons to stop. -/
theorem turn_stop (stopped : turn taker params left maker = .stop) :
    (∃ price ∈ taker.limit, crosses taker.side price maker.price = false) ∨ left ≤ 0 ∨
      affordable taker params left maker.price ≤ 0 ∨ Dust taker params left maker := by
  simp only [turn] at stopped
  split at stopped
  · rename_i away
    cases isLimit : taker.limit with
    | none => simp [isLimit] at away
    | some price => exact .inl ⟨price, rfl, by simpa [isLimit] using away⟩
  split at stopped
  · cases stopped
  rename_i has
  split at stopped
  · rename_i nothing
    exact .inr (.inl nothing)
  split at stopped
  · rename_i none
    exact .inr (.inr (.inl ((min_le_iff.mp none).resolve_left has)))
  rename_i some
  split at stopped
  · rename_i dust
    exact .inr (.inr (.inr ⟨not_le.mp some, dust⟩))
  · cases stopped

theorem turn_skip (skipped : turn taker params left maker = .skip) : offered params maker ≤ 0 := by
  simp only [turn] at skipped
  split at skipped
  · cases skipped
  split at skipped
  · assumption
  split at skipped
  · cases skipped
  split at skipped
  · cases skipped
  split at skipped <;> cases skipped

/-- Where the loop stops for another reason than dust, nothing from there on can
trade: the prices only get worse. -/
theorem stop_nothing (stopped : turn taker params left maker = .stop) (clean : ¬Dust taker params left maker)
    (sorted : BestFirst taker.side (maker :: book)) (priced : ∀ other ∈ maker :: book, 0 < other.price)
    (member : other ∈ maker :: book) : ¬CouldTrade taker params left other (offered params other) := by
  intro could
  have positive := could.left_pos (priced other member)
  have after := List.pairwise_cons.mp sorted
  rcases turn_stop stopped with ⟨price, isLimit, apart⟩ | nothing | none | dust
  · have within := could.1 price isLimit
    rcases List.mem_cons.mp member with rfl | behind
    · exact Bool.false_ne_true (apart.symm.trans within)
    · have worse := after.1 other behind
      cases side : taker.side <;> simp only [side, crosses, decide_eq_true_eq, decide_eq_false_iff_not] at worse apart within <;>
        exact apart (by linarith)
  · exact absurd positive nothing.not_gt
  · obtain ⟨-, quantity, -, quantity_pos, -, afforded, -⟩ := could
    rcases List.mem_cons.mp member with rfl | behind
    · linarith
    · have worse := after.1 other behind
      by_cases budgetDriven : taker.isBudgetDriven
      · have side : taker.side = .buy := by
          simp only [TakerInput.isBudgetDriven, Bool.and_eq_true, decide_eq_true_eq] at budgetDriven
          exact budgetDriven.2
        rw [side] at worse
        linarith [@affordable_anti taker params left maker other positive.le (priced maker List.mem_cons_self) worse]
      · simp only [affordable, budgetDriven, Bool.false_eq_true, ↓reduceIte] at none afforded
        linarith
  · exact clean dust

/-! ## What the pass leaves of the book -/

/-- The makers of the book with what is left of each. -/
def restAfter (taker : TakerInput) (params : MarketParams) : Decimal → List RestingOrder → List (RestingOrder × Decimal)
  | _, [] => []
  | left, maker :: book =>
    match turn taker params left maker with
    | .stop => (maker :: book).map fun other => (other, offered params other)
    | .skip => (maker, offered params maker) :: restAfter taker params left book
    | .fill quantity quoteAmount =>
      (maker, offered params maker - quantity) :: restAfter taker params (spend taker left quantity quoteAmount) book

/-- Nothing of another user that is left could trade with a capacity. -/
def NothingTrades (taker : TakerInput) (params : MarketParams) (user : UserId) (left : Decimal)
    (rests : List (RestingOrder × Decimal)) : Prop :=
  ∀ entry ∈ rests, entry.1.userId ≠ user → ¬CouldTrade taker params left entry.1 entry.2

theorem nothingTrades_cons : NothingTrades taker params user left ((maker, rest) :: rests) ↔
    (maker.userId ≠ user → ¬CouldTrade taker params left maker rest) ∧ NothingTrades taker params user left rests :=
  List.forall_mem_cons

theorem stop_iff (stopped : turn taker params left maker = .stop) (sorted : BestFirst taker.side (maker :: book))
    (priced : ∀ other ∈ maker :: book, 0 < other.price) :
    NothingTrades taker params user left ((maker :: book).map fun other => (other, offered params other)) ↔
      (Dust taker params left maker → ∀ other ∈ book, other.userId ≠ user →
        ¬CouldTrade taker params left other (offered params other)) := by
  constructor
  · intro nothing dust other behind isOther
    exact nothing (other, offered params other) (List.mem_map_of_mem (List.mem_cons_of_mem _ behind)) isOther
  · intro nothing entry member isOther
    obtain ⟨other, onBook, rfl⟩ := List.mem_map.mp member
    by_cases dust : Dust taker params left maker
    · rcases List.mem_cons.mp onBook with rfl | behind
      · exact dust.not_couldTrade
      · exact nothing dust other behind isOther
    · exact stop_nothing stopped dust sorted priced onBook

theorem rest_zero (quantity : Decimal) (isAll : ¬quantity < offered params maker) :
    ¬CouldTrade taker params left maker (offered params maker - quantity) := by
  intro could
  linarith [could.rest_pos]

/-- What is left of the book after the loop cannot trade with what is left of the
order just when neither dust nor a part of a maker was left behind. -/
theorem nothingTrades_iff (sorted : BestFirst taker.side book) (priced : ∀ maker ∈ book, 0 < maker.price) :
    NothingTrades taker params user (leftAfter taker left (trades taker params left book))
      (restAfter taker params left book) ↔
      NothingBehindDust taker params user left book ∧ NoSecondFill taker params user left book := by
  induction book generalizing left with
  | nil => simp [NothingTrades, restAfter, NothingBehindDust, NoSecondFill, trades]
  | cons maker book ih =>
    have sorted' : BestFirst taker.side book := (List.pairwise_cons.mp sorted).2
    have priced' : ∀ maker ∈ book, 0 < maker.price := fun other member => priced other (List.mem_cons_of_mem _ member)
    cases step : turn taker params left maker with
    | stop =>
      simp only [restAfter, NothingBehindDust, NoSecondFill, trades, step, List.not_mem_nil, false_imp_iff,
        implies_true, and_true]
      exact stop_iff step sorted priced
    | skip =>
      have nothing : ∀ left, ¬CouldTrade taker params left maker (offered params maker) := fun left could =>
        absurd could.rest_pos (turn_skip step).not_gt
      simp only [restAfter, NothingBehindDust, NoSecondFill, trades, step, nothingTrades_cons, nothing, not_false_iff,
        implies_true, true_and]
      exact ih sorted' priced'
    | fill quantity quoteAmount =>
      have rest := @ih (spend taker left quantity quoteAmount) sorted' priced'
      simp only [restAfter, NothingBehindDust, NoSecondFill, trades, step, nothingTrades_cons, List.forall_mem_cons,
        leftAfter, List.foldl_cons] at rest ⊢
      rw [rest]
      have here : (maker.userId ≠ user → ¬CouldTrade taker params (leftAfter taker (spend taker left quantity quoteAmount)
          (trades taker params (spend taker left quantity quoteAmount) book)) maker (offered params maker - quantity)) ↔
          (maker.userId ≠ user → quantity < offered params maker → ¬CouldTrade taker params
            (leftAfter taker (spend taker left quantity quoteAmount)
              (trades taker params (spend taker left quantity quoteAmount) book)) maker (offered params maker - quantity)) := by
        refine ⟨fun none isOther _ => none isOther, fun none isOther => ?_⟩
        by_cases part : quantity < offered params maker
        · exact none isOther part
        · exact rest_zero quantity part
      rw [leftAfter] at here
      rw [here]
      exact and_left_comm

/-! ## The fills that are returned -/

/-- The quantity that some trades take of a maker. -/
def takenOf (made : List (RestingOrder × Decimal × Decimal)) (maker : RestingOrder) : Decimal :=
  ((made.filter fun trade => trade.1.id = maker.id).map fun trade => trade.2.1).sum

theorem restOf_matchOrder : restOf params (matchOrder taker book params).fills maker =
    offered params maker - takenOf (trades taker params (initialCapacity taker params) book) maker := by
  have fills : (matchOrder taker book params).fills =
      (trades taker params (initialCapacity taker params) book).map fun trade =>
        ⟨trade.1.id, trade.1.userId, trade.1.price, trade.2.1, trade.2.2⟩ := by
    rw [matchOrder_fills]
    exact List.map_congr_left fun trade isTrade => printed_eq isTrade
  rw [restOf, takenOf, fills, List.filter_map, List.map_map]
  rfl

theorem takenOf_absent (absent : ∀ trade ∈ made, trade.1.id ≠ maker.id) : takenOf made maker = 0 := by
  rw [takenOf, List.filter_eq_nil_iff.mpr (by simpa using absent)]
  rfl

theorem takenOf_cons_same (same : trade.1.id = maker.id) : takenOf (trade :: made) maker = trade.2.1 + takenOf made maker := by
  simp [takenOf, same]

theorem takenOf_cons_other (differ : trade.1.id ≠ maker.id) : takenOf (trade :: made) maker = takenOf made maker := by
  simp [takenOf, differ]

/-- Each order stands on the book once, so its fill is the one of its turn. -/
theorem restAfter_eq (distinct : (book.map RestingOrder.id).Nodup) : restAfter taker params left book =
    book.map fun maker => (maker, offered params maker - takenOf (trades taker params left book) maker) := by
  induction book generalizing left with
  | nil => rfl
  | cons maker book ih =>
    obtain ⟨fresh, distinct'⟩ := List.nodup_cons.mp distinct
    have differ : ∀ other ∈ book, maker.id ≠ other.id := fun other member same =>
      fresh (same ▸ List.mem_map_of_mem member)
    have absent : ∀ left, takenOf (trades taker params left book) maker = 0 := fun left =>
      takenOf_absent fun trade isTrade same =>
        fresh (same ▸ List.mem_map_of_mem
          ((trades_makers_sublist taker params left book).subset (List.mem_map_of_mem isTrade)))
    cases step : turn taker params left maker with
    | stop => simp [restAfter, trades, step, takenOf]
    | skip => simp [restAfter, trades, step, ih distinct', absent]
    | fill quantity quoteAmount =>
      simp only [restAfter, trades, step, ih distinct', List.map_cons]
      rw [takenOf_cons_same rfl, absent, add_zero]
      refine congrArg _ (List.map_congr_left fun other member => ?_)
      rw [takenOf_cons_other (differ other member)]

/-- Only a budget can be left over at a maker that has something left: a quantity
is used up there. -/
theorem noSecondFill_of_quantity (priced : ∀ maker ∈ book, 0 < maker.price) (byQuantity : taker.isBudgetDriven = false) :
    NoSecondFill taker params user left book := by
  rintro ⟨maker, quantity, quoteAmount⟩ isTrade - part could
  obtain ⟨before, after, split⟩ := List.append_of_mem isTrade
  have last : after = [] := by
    by_contra more
    exact part.ne (exhausted_before_last byQuantity split more)
  obtain ⟨onBook, -⟩ := trades_fills isTrade
  have all := (offered_or_afforded split).resolve_left part.ne
  have positive := could.left_pos (priced maker onBook)
  rw [split, last, leftAfter, List.foldl_append, List.foldl_cons, List.foldl_nil, ← leftAfter] at positive
  simp only [affordable, byQuantity, Bool.false_eq_true, ↓reduceIte] at all
  simp only [spend, byQuantity, Bool.false_eq_true, ↓reduceIte, ← all, Decimal.sub, sub_self, significant_zero,
    lt_irrefl] at positive

end Exchange.Trading.MatchMaximality
