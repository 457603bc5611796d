import Exchange.TradingLockSufficiency

/-! What a pass of the engine trades is sound: the makers keep the book's order,
each fill is within what its maker offers and what the taker has left, and the
totals add up. The engine does not know whose order it matches; that nobody
trades with himself is left to the query that loads the book. -/
namespace Exchange.Trading.MatchSoundness
open SignificantDigits Ledger

/-- A maker of the book and the fill that the engine made with it. -/
abbrev Pairing := RestingOrder × EngineFill

/-- What a maker offers, in whole base units. -/
def offered (params : MarketParams) (maker : RestingOrder) : Decimal := floorTo maker.remaining params.baseScale

structure Traded (taker : TakerInput) (params : MarketParams) (maker : RestingOrder) (fill : EngineFill) : Prop where
  order : fill.makerOrderId = maker.id
  owner : fill.makerUserId = maker.userId
  price : fill.price = maker.price
  crossing : ∀ price ∈ taker.limit, crosses taker.side price maker.price
  quantity_pos : 0 < fill.quantity
  quantity_grid : OnGrid params.baseScale fill.quantity
  available : fill.quantity ≤ maker.remaining
  quote_pos : 0 < fill.quoteAmount
  quote : fill.quoteAmount = floorTo (fill.quantity * maker.price) params.quoteScale

/-- The makers of the fills, one for each in the book's order, and what the fills
add up to. -/
structure Sound (taker : TakerInput) (user : UserId) (book : List RestingOrder) (params : MarketParams)
    (made : List Pairing) (result : EngineResult) : Prop where
  fills : made.map Prod.snd = result.fills
  makers : (made.map Prod.fst).Sublist book
  traded : ∀ pairing ∈ made, Traded taker params pairing.1 pairing.2
  filledQuantity : result.filledQuantity = (result.fills.map fun fill => fill.quantity).sum
  quoteTotal : result.quoteTotal = (result.fills.map fun fill => fill.quoteAmount).sum
  within : taker.isBudgetDriven = false → 0 ≤ taker.quantity.getD 0 → result.filledQuantity ≤ taker.quantity.getD 0
  budget : taker.isBudgetDriven → 0 ≤ taker.quoteBudget.getD 0 → result.quoteTotal ≤ taker.quoteBudget.getD 0
  others : ∀ fill ∈ result.fills, fill.makerUserId ≠ user

/-- Every maker touched before the last one has nothing left to offer. -/
def Exhausts (params : MarketParams) (made : List Pairing) : Prop :=
  ∀ before pairing after, made = before ++ pairing :: after → after ≠ [] →
    pairing.2.quantity = offered params pairing.1

/-- Every maker touched before the last one has nothing left to offer, or the
budget left by the fills before it bought no more of it. -/
def SpendsInTurn (taker : TakerInput) (params : MarketParams) (made : List Pairing) : Prop :=
  ∀ before pairing after, made = before ++ pairing :: after → after ≠ [] →
    pairing.2.quantity = offered params pairing.1 ∨
      pairing.2.quantity = affordable taker params
        (before.foldl (fun left (_, fill) => Decimal.sub left fill.quoteAmount) (initialCapacity taker params))
        pairing.1.price

/-- Twenty digits hold what the book offers, and what each part of it is worth;
a budget, which is divided by the price, wants one digit more. -/
structure DigitsHold (taker : TakerInput) (params : MarketParams) (book : List RestingOrder) : Prop where
  products : ∀ maker ∈ book, ∀ quantity, OnGrid params.baseScale quantity → 0 ≤ quantity →
    quantity ≤ offered params maker → Decimal.mul quantity maker.price = quantity * maker.price
  base : (book.map fun maker => max 0 (offered params maker)).sum < 10 ^ (20 - (params.baseScale : ℤ))
  quote : (book.map fun maker => max 0 (offered params maker * maker.price)).sum <
    10 ^ ((if taker.isBudgetDriven then 19 else 20) - (params.quoteScale : ℤ))

variable {taker : TakerInput} {user : UserId} {book : List RestingOrder} {params : MarketParams}
  {remaining quantity quoteAmount : Decimal} {maker : RestingOrder}

/-! ## What the book offers bounds what is traded -/

/-- The trades of a pass add up to no more than the book, by any measure that
bounds a single one. -/
theorem sum_le_book {size : RestingOrder × Decimal × Decimal → ℚ} {bound : RestingOrder → ℚ}
    (nonneg : ∀ maker, 0 ≤ bound maker)
    (each : ∀ maker ∈ book, ∀ left quantity quoteAmount, Fills taker params left maker quantity quoteAmount →
      size (maker, quantity, quoteAmount) ≤ bound maker) :
    ((trades taker params remaining book).map size).sum ≤ (book.map bound).sum := by
  induction book generalizing remaining with
  | nil => simp [trades]
  | cons maker book ih =>
    have later := fun maker member => each maker (List.mem_cons_of_mem _ member)
    have here := nonneg maker
    have rest : 0 ≤ (book.map bound).sum := List.sum_nonneg (by simpa using fun maker _ => nonneg maker)
    simp only [trades, List.map_cons, List.sum_cons]
    cases step : turn taker params remaining maker with
    | stop => simpa using add_nonneg here rest
    | skip => linarith [@ih remaining later]
    | fill quantity quoteAmount =>
      have first := each maker List.mem_cons_self remaining quantity quoteAmount (turn_fill step)
      simp only [List.map_cons, List.sum_cons]
      linarith [@ih (spend taker remaining quantity quoteAmount) later]

/-! ## One trade after another -/

theorem offered_or_afforded
    (split : trades taker params remaining book = before ++ (maker, quantity, quoteAmount) :: after) :
    quantity = offered params maker ∨ quantity = affordable taker params (leftAfter taker remaining before) maker.price := by
  rw [(trades_split split).1.maximal]
  exact min_choice _ _

/-- An order that is not driven by a budget passes a maker only when it has
taken all of it. -/
theorem exhausted_before_last (byQuantity : taker.isBudgetDriven = false)
    (split : trades taker params remaining book = before ++ (maker, quantity, quoteAmount) :: after)
    (more : after ≠ []) : quantity = offered params maker := by
  refine (offered_or_afforded split).resolve_right fun all => more ?_
  obtain ⟨-, rest, later⟩ := trades_split split
  rw [later]
  refine trades_nil (le_of_eq ?_)
  simp only [affordable, byQuantity, Bool.false_eq_true, ↓reduceIte] at all
  rw [spend_eq, taken, byQuantity, if_neg Bool.false_ne_true, all, Decimal.sub, sub_self, significant_zero]

/-! ## The printed fills -/

/-- The fill that a trade is reported as. -/
def printed (params : MarketParams) (trade : RestingOrder × Decimal × Decimal) : EngineFill :=
  ⟨trade.1.id, trade.1.userId, trade.1.price, trade.2.1.toFixed params.baseScale, trade.2.2.toFixed params.quoteScale⟩

def pairingsOf (taker : TakerInput) (book : List RestingOrder) (params : MarketParams) : List Pairing :=
  (trades taker params (initialCapacity taker params) book).map fun trade => (trade.1, printed params trade)

theorem matchOrder_fills : (matchOrder taker book params).fills =
    (trades taker params (initialCapacity taker params) book).map (printed params) := by
  rw [matchOrder, matchBook_fills]
  rfl

theorem printed_eq (traded : trade ∈ trades taker params (initialCapacity taker params) book) :
    printed params trade = ⟨trade.1.id, trade.1.userId, trade.1.price, trade.2.1, trade.2.2⟩ := by
  obtain ⟨maker, quantity, quoteAmount⟩ := trade
  obtain ⟨-, left, fills⟩ := trades_fills traded
  rw [printed, Decimal.toFixed_of_onGrid (trades_quantity_grid traded),
    Decimal.toFixed_of_onGrid (fills.quote ▸ floorTo_onGrid _ _)]

theorem fills_quantities : (matchOrder taker book params).fills.map (fun fill => fill.quantity) =
    (trades taker params (initialCapacity taker params) book).map fun trade => trade.2.1 := by
  rw [matchOrder_fills, List.map_map]
  exact List.map_congr_left fun trade traded => by rw [Function.comp_apply, printed_eq traded]

theorem fills_quotes : (matchOrder taker book params).fills.map (fun fill => fill.quoteAmount) =
    (trades taker params (initialCapacity taker params) book).map fun trade => trade.2.2 := by
  rw [matchOrder_fills, List.map_map]
  exact List.map_congr_left fun trade traded => by rw [Function.comp_apply, printed_eq traded]

/-! ## Totals -/

theorem traded_quantities_le : ((trades taker params remaining book).map fun trade => trade.2.1).sum ≤
    (book.map fun maker => max 0 (offered params maker)).sum :=
  sum_le_book (fun _ => le_max_left _ _) fun _ _ _ _ _ fills => fills.available.trans (le_max_right _ _)

theorem traded_quotes_le (digits : DigitsHold taker params book) :
    ((trades taker params remaining book).map fun trade => trade.2.2).sum ≤
      (book.map fun maker => max 0 (offered params maker * maker.price)).sum := by
  refine sum_le_book (fun _ => le_max_left _ _) fun maker member left quantity quoteAmount fills => ?_
  have price := fills.price_pos.le
  have some : 0 ≤ offered params maker := fills.quantity_pos.le.trans fills.available
  calc quoteAmount
      ≤ Decimal.mul quantity maker.price := by
        rw [fills.quote]
        exact floorTo_le (Decimal.nonneg_mul fills.quantity_pos.le price)
    _ ≤ Decimal.mul (offered params maker) maker.price := Decimal.mul_mono_left price fills.available
    _ = offered params maker * maker.price := digits.products maker member _ (floorTo_onGrid _ _) some le_rfl
    _ ≤ max 0 (offered params maker * maker.price) := le_max_right _ _

/-- A running total that 20 digits hold is printed as the sum. -/
theorem printed_total {places : ℕ} {values : List Decimal} (each : ∀ x ∈ values, OnGrid places x ∧ 0 ≤ x)
    (small : values.sum < 10 ^ (20 - (places : ℤ))) : (values.foldl Decimal.add 0).toFixed places = values.sum := by
  have exact : values.foldl Decimal.add 0 = values.sum := by
    rw [Decimal.foldl_add_exact (onGrid_zero places) le_rfl each (by rwa [zero_add]), zero_add]
  rw [exact]
  exact Decimal.toFixed_of_onGrid (OnGrid.sum fun x member => (each x member).1)

theorem quantities_each {value : Decimal} (traded : value ∈
      (trades taker params (initialCapacity taker params) book).map fun trade => trade.2.1) :
    OnGrid params.baseScale value ∧ 0 ≤ value := by
  obtain ⟨⟨maker, quantity, quoteAmount⟩, isTrade, rfl⟩ := List.mem_map.mp traded
  obtain ⟨-, left, fills⟩ := trades_fills isTrade
  exact ⟨trades_quantity_grid isTrade, fills.quantity_pos.le⟩

theorem quotes_each {value : Decimal} (traded : value ∈
      (trades taker params remaining book).map fun trade => trade.2.2) :
    OnGrid params.quoteScale value ∧ 0 ≤ value := by
  obtain ⟨⟨maker, quantity, quoteAmount⟩, isTrade, rfl⟩ := List.mem_map.mp traded
  obtain ⟨-, left, fills⟩ := trades_fills isTrade
  exact ⟨fills.quote ▸ floorTo_onGrid _ _, fills.quote_pos.le⟩

section Digits
variable (digits : DigitsHold taker params book)
include digits

theorem filledQuantity_eq : (matchOrder taker book params).filledQuantity =
    ((trades taker params (initialCapacity taker params) book).map fun trade => trade.2.1).sum := by
  have total : (matchOrder taker book params).filledQuantity =
      (((trades taker params (initialCapacity taker params) book).map fun trade => trade.2.1).foldl
        Decimal.add 0).toFixed params.baseScale := by
    rw [matchOrder, matchBook_filledQuantity, List.foldl_map]
  rw [total]
  exact printed_total (fun _ => quantities_each) (traded_quantities_le.trans_lt digits.base)

theorem quoteTotal_eq : (matchOrder taker book params).quoteTotal =
    ((trades taker params (initialCapacity taker params) book).map fun trade => trade.2.2).sum := by
  have total : (matchOrder taker book params).quoteTotal =
      (((trades taker params (initialCapacity taker params) book).map fun trade => trade.2.2).foldl
        Decimal.add 0).toFixed params.quoteScale := by
    rw [matchOrder, matchBook_quoteTotal, List.foldl_map]
  rw [total]
  refine printed_total (fun _ => quotes_each) ((traded_quotes_le digits).trans_lt (digits.quote.trans_le ?_))
  refine zpow_le_zpow_right₀ (by norm_num) ?_
  split <;> omega

/-- An order that is not driven by a budget: more than 20 digits of quantity
cannot be used up by a book that 20 digits hold. -/
theorem quantity_within (byQuantity : taker.isBudgetDriven = false) (nonneg : 0 ≤ taker.quantity.getD 0) :
    (matchOrder taker book params).filledQuantity ≤ taker.quantity.getD 0 := by
  have capacity : initialCapacity taker params = floorTo (taker.quantity.getD 0) params.baseScale := by
    simp [initialCapacity, byQuantity]
  have floored : initialCapacity taker params ≤ taker.quantity.getD 0 := capacity ▸ floorTo_le nonneg
  have scale : unitScale taker params = params.baseScale := by simp [unitScale, byQuantity]
  have cost : ∀ quantity quoteAmount, taken taker quantity quoteAmount = quantity := by simp [taken, byQuantity]
  rw [filledQuantity_eq digits]
  rcases lt_or_ge (initialCapacity taker params) (10 ^ (20 - (params.baseScale : ℤ))) with small | large
  · have covered := @sum_taken_le taker params book (initialCapacity taker params) (10 ^ (20 - (params.baseScale : ℤ)))
    simp only [scale, cost] at covered
    refine (covered le_rfl (fun maker left quantity quoteAmount _ _ fills => ?_) ?_ ?_ small).trans floored
    · simpa [affordable, byQuantity] using fills.afforded
    · exact scale ▸ initialCapacity_grid
    · exact capacity ▸ floorTo_nonneg nonneg
  · exact (traded_quantities_le.trans digits.base.le).trans (large.trans floored)

theorem budget_within (budgetDriven : taker.isBudgetDriven) (nonneg : 0 ≤ taker.quoteBudget.getD 0) :
    (matchOrder taker book params).quoteTotal ≤ taker.quoteBudget.getD 0 := by
  have capacity : initialCapacity taker params = floorTo (taker.quoteBudget.getD 0) params.quoteScale := by
    simp [initialCapacity, budgetDriven]
  have floored : initialCapacity taker params ≤ taker.quoteBudget.getD 0 := capacity ▸ floorTo_le nonneg
  have worth := digits.quote
  rw [if_pos budgetDriven] at worth
  rw [quoteTotal_eq digits]
  rcases lt_or_ge (initialCapacity taker params) (10 ^ (19 - (params.quoteScale : ℤ))) with small | large
  · exact (budget_covered budgetDriven (capacity ▸ floorTo_onGrid _ _) (capacity ▸ floorTo_nonneg nonneg) small).trans
      floored
  · exact ((traded_quotes_le digits).trans worth.le).trans (large.trans floored)

theorem traded_of (isTrade : trade ∈ trades taker params (initialCapacity taker params) book) :
    Traded taker params trade.1 (printed params trade) := by
  rw [printed_eq isTrade]
  obtain ⟨maker, quantity, quoteAmount⟩ := trade
  obtain ⟨member, left, fills⟩ := trades_fills isTrade
  have grid : OnGrid params.baseScale quantity := trades_quantity_grid isTrade
  refine ⟨rfl, rfl, rfl, fills.crossing, fills.quantity_pos, grid, fills.le_remaining, fills.quote_pos, ?_⟩
  have exact := digits.products maker member quantity grid fills.quantity_pos.le fills.available
  exact exact ▸ fills.quote

end Digits

/-! ## Soundness -/

theorem made_fills : (pairingsOf taker book params).map Prod.snd = (matchOrder taker book params).fills := by
  rw [pairingsOf, matchOrder_fills, List.map_map]
  rfl

/-- A split of the pairings is a split of the trades. -/
theorem split_of (split : pairingsOf taker book params = before ++ pairing :: after) : ∃ earlier trade later,
    trades taker params (initialCapacity taker params) book = earlier ++ trade :: later ∧
      before = earlier.map (fun trade => (trade.1, printed params trade)) ∧
      pairing = (trade.1, printed params trade) ∧
      after = later.map fun trade => (trade.1, printed params trade) := by
  obtain ⟨earlier, others, trades_eq, rfl, rest⟩ := List.map_eq_append_iff.mp split
  obtain ⟨trade, later, rfl, rfl, rfl⟩ := List.map_eq_cons_iff.mp rest
  exact ⟨earlier, trade, later, trades_eq, rfl, rfl, rfl⟩

theorem pairings_sound (others : ∀ maker ∈ book, maker.userId ≠ user) (digits : DigitsHold taker params book) :
    Sound taker user book params (pairingsOf taker book params) (matchOrder taker book params) := by
  have makers := trades_makers_sublist taker params (initialCapacity taker params) book
  refine ⟨made_fills, ?_, fun pairing member => ?_, ?_, ?_, quantity_within digits, budget_within digits,
    fun fill member => ?_⟩
  · rw [pairingsOf, List.map_map]
    exact makers
  · obtain ⟨trade, isTrade, rfl⟩ := List.mem_map.mp member
    exact traded_of digits isTrade
  · rw [filledQuantity_eq digits, fills_quantities]
  · rw [quoteTotal_eq digits, fills_quotes]
  · rw [matchOrder_fills] at member
    obtain ⟨trade, isTrade, rfl⟩ := List.mem_map.mp member
    exact others trade.1 (makers.subset (List.mem_map_of_mem isTrade))

theorem pairings_exhausts (byQuantity : taker.isBudgetDriven = false) :
    Exhausts params (pairingsOf taker book params) := by
  intro before pairing after split more
  obtain ⟨earlier, trade, later, isSplit, -, rfl, rfl⟩ := split_of split
  have isTrade : trade ∈ trades taker params (initialCapacity taker params) book := by simp [isSplit]
  rw [printed_eq isTrade]
  exact exhausted_before_last byQuantity isSplit (by simpa using more)

theorem pairings_spends (budgetDriven : taker.isBudgetDriven) :
    SpendsInTurn taker params (pairingsOf taker book params) := by
  intro before pairing after split more
  obtain ⟨earlier, trade, later, isSplit, rfl, rfl, rfl⟩ := split_of split
  have isTrade : ∀ member ∈ earlier ++ trade :: later,
      member ∈ trades taker params (initialCapacity taker params) book := fun _ member => isSplit ▸ member
  rw [printed_eq (isTrade trade (by simp))]
  have left : (earlier.map fun trade => (trade.1, printed params trade)).foldl
      (fun left (_, fill) => Decimal.sub left fill.quoteAmount) (initialCapacity taker params) =
      leftAfter taker (initialCapacity taker params) earlier := by
    rw [List.foldl_map, leftAfter]
    refine List.foldl_ext _ _ _ fun left trade member => ?_
    rw [printed_eq (isTrade trade (by simp [member])), spend, if_pos budgetDriven]
  rw [left]
  exact offered_or_afforded isSplit

/-- The fills of a pass are sound, for every order and every book without orders
of the user that 20 digits hold; a maker is left before it is exhausted only by a
MARKET BUY whose budget buys no more of it. -/
theorem matchOrder_sound (others : ∀ maker ∈ book, maker.userId ≠ user) (digits : DigitsHold taker params book) :
    ∃ made, Sound taker user book params made (matchOrder taker book params) ∧
      (taker.isBudgetDriven = false → Exhausts params made) ∧ (taker.isBudgetDriven → SpendsInTurn taker params made) :=
  ⟨pairingsOf taker book params, pairings_sound others digits, pairings_exhausts, pairings_spends⟩

/-- On a book with a tick grid, the digits of tick and base unit together decide
whether the products are exact. -/
theorem product_exact {price : Decimal} (priceGrid : OnGrid tickPlaces price) (base : OnGrid params.baseScale quantity)
    (small : |quantity * price| < 10 ^ (20 - (tickPlaces + params.baseScale : ℤ))) :
    Decimal.mul quantity price = quantity * price :=
  significant_of_onGrid (mul_comm price quantity ▸ priceGrid.mul base) small

/-! ## Orders that buy -/

def limitBuy (price quantity : Decimal) : TakerInput := ⟨.buy, .limit, some price, some quantity, none⟩

def marketBuy (budget : Decimal) : TakerInput := ⟨.buy, .market, none, none, some budget⟩

/-- One and a half USDT at 101, from two makers with one each. -/
theorem two_makers_sound : ∃ made, Sound (limitBuy 101 (3 / 2)) 7 [⟨1, 1, 100, 1⟩, ⟨2, 2, 101, 1⟩] usdtInrParams made
      (matchOrder (limitBuy 101 (3 / 2)) [⟨1, 1, 100, 1⟩, ⟨2, 2, 101, 1⟩] usdtInrParams) ∧
    ((limitBuy 101 (3 / 2)).isBudgetDriven = false → Exhausts usdtInrParams made) ∧
    ((limitBuy 101 (3 / 2)).isBudgetDriven → SpendsInTurn (limitBuy 101 (3 / 2)) usdtInrParams made) := by
  have offers : ∀ maker ∈ [(⟨1, 1, 100, 1⟩ : RestingOrder), ⟨2, 2, 101, 1⟩],
      OnGrid 0 maker.price ∧ 0 ≤ maker.price ∧ maker.price ≤ 101 ∧ offered usdtInrParams maker = 1 := by
    simp only [List.forall_mem_cons, List.not_mem_nil, false_imp_iff, implies_true, and_true]
    refine ⟨⟨⟨100, by norm_num⟩, by norm_num, by norm_num, by decide +kernel⟩, ⟨101, by norm_num⟩, by norm_num,
      by norm_num, by decide +kernel⟩
  refine matchOrder_sound (by decide) ⟨fun maker member quantity grid nonneg least => ?_, by decide +kernel, by decide +kernel⟩
  obtain ⟨tick, price, most, one⟩ := offers maker member
  rw [one] at least
  refine product_exact tick grid ?_
  rw [abs_of_nonneg (mul_nonneg nonneg price)]
  calc quantity * maker.price
      ≤ 1 * 101 := mul_le_mul least most price (by norm_num)
    _ < 10 ^ (20 - (0 + usdtInrParams.baseScale : ℤ)) := by norm_num [usdtInrParams]

/-- The engine trades an order with another one of the same user; a MARKET BUY of
10.00 leaves a maker at 90.01 that has most of its USDT left; and 10^15 USDT and
a hundredth are reported without the last digit. -/
theorem match_unsound :
    ¬(BestFirst .buy [⟨1, 1, 100, 1⟩] → ∃ made, Sound (limitBuy 100 1) 1 [⟨1, 1, 100, 1⟩] usdtInrParams made
      (matchOrder (limitBuy 100 1) [⟨1, 1, 100, 1⟩] usdtInrParams) ∧ Exhausts usdtInrParams made) ∧
    ¬(BestFirst .buy [⟨1, 1, 9001 / 100, 1⟩, ⟨2, 2, 100, 1⟩] → ∃ made,
      Sound (marketBuy 10) 7 [⟨1, 1, 9001 / 100, 1⟩, ⟨2, 2, 100, 1⟩] usdtInrParams made
        (matchOrder (marketBuy 10) [⟨1, 1, 9001 / 100, 1⟩, ⟨2, 2, 100, 1⟩] usdtInrParams) ∧ Exhausts usdtInrParams made) ∧
    ¬(BestFirst .buy [⟨1, 1, 1, 10 ^ 15⟩, ⟨2, 2, 1, 10001 / 10 ^ 6⟩] → ∃ made,
      Sound (limitBuy 1 (10 ^ 15 + 1)) 7 [⟨1, 1, 1, 10 ^ 15⟩, ⟨2, 2, 1, 10001 / 10 ^ 6⟩] usdtInrParams made
        (matchOrder (limitBuy 1 (10 ^ 15 + 1)) [⟨1, 1, 1, 10 ^ 15⟩, ⟨2, 2, 1, 10001 / 10 ^ 6⟩] usdtInrParams) ∧
        Exhausts usdtInrParams made) := by
  refine ⟨fun claimed => ?_, fun claimed => ?_, fun claimed => ?_⟩
  · obtain ⟨made, sound, -⟩ := claimed (by simp [BestFirst])
    have others := sound.others
    revert others
    decide +kernel
  · obtain ⟨made, sound, exhausts⟩ := claimed (by simp [BestFirst]; norm_num)
    have two : (matchOrder (marketBuy 10) [⟨1, 1, 9001 / 100, 1⟩, ⟨2, 2, 100, 1⟩] usdtInrParams).fills =
        [⟨1, 1, 9001 / 100, 111098 / 10 ^ 6, 999 / 100⟩, ⟨2, 2, 100, 1 / 10 ^ 4, 1 / 100⟩] := by
      decide +kernel
    have offers : ∀ maker ∈ [(⟨1, 1, 9001 / 100, 1⟩ : RestingOrder), ⟨2, 2, 100, 1⟩],
        offered usdtInrParams maker = 1 := by
      decide +kernel
    have isFills := sound.fills
    rw [two] at isFills
    obtain ⟨first, rest, rfl, isFirst, isRest⟩ := List.map_eq_cons_iff.mp isFills
    have all := exhausts [] first rest rfl fun none => by simp [none] at isRest
    rw [isFirst, offers first.1 (sound.makers.subset (by simp))] at all
    norm_num at all
  · obtain ⟨made, sound, -⟩ := claimed (by simp [BestFirst])
    have total := sound.filledQuantity
    revert total
    decide +kernel

end Exchange.Trading.MatchSoundness
