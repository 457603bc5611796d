import Exchange.TradingService
import Exchange.TradingMatchSoundness

/-! The posting that settles a fill. What a party gets is the amount less a fee,
and both are exact where 20 digits hold the difference; the ledger's own check
adds the lines up in the same decimals. -/
namespace Exchange.Trading.FillPosting
open SignificantDigits Ledger Service

/-- The amount less its fee has at most 20 significant digits; and so has the
amount, unless what is rounded off it vanishes beside the fee. -/
structure Settles (received : Decimal) (bps : ℤ) (scale : ℕ) : Prop where
  net : Short Decimal.precision (received - computeFee received bps scale)
  rounded : significant Decimal.precision
    (computeFee received bps scale + (significant Decimal.precision received - received)) = computeFee received bps scale

/-- The rate of a side in the market. -/
def buyerBps (taker : Order) (market : Market) : ℤ := if taker.side = .buy then market.takerFeeBps else market.makerFeeBps

def sellerBps (taker : Order) (market : Market) : ℤ := if taker.side = .buy then market.makerFeeBps else market.takerFeeBps

/-- What the lines of a posting add up to in an asset. -/
def assetSum (lines : List LedgerPostingLine) (asset : String) : ℚ :=
  (lines.map fun line => if line.asset = asset then line.direction.signed line.amount else 0).sum

/-- The line that pays a party. -/
def isPayment (asset : String) (line : LedgerPostingLine) : Bool :=
  line.kind = .userAvailable && line.asset = asset && line.direction = .credit

/-- A posting that the ledger takes, and that gives the parties all of the fill. -/
structure Postable (settle : Settlement) (fill : EngineFill) : Prop where
  positive : ∀ line ∈ settle.input.lines, 0 < line.amount
  balanced : ∀ asset, assetSum settle.input.lines asset = 0
  accepted : assertPostingBalanced settle.input = .ok ()
  buyer : ∀ line ∈ settle.input.lines, isPayment baseAsset line → line.amount + settle.buyerFee = fill.quantity
  seller : ∀ line ∈ settle.input.lines, isPayment quoteAsset line → line.amount + settle.sellerFee = fill.quoteAmount

variable {received : Decimal} {bps : ℤ} {scale : ℕ}

/-! ## Fees -/

theorem computeFee_nonneg (positive : 0 < received) (rate : 0 ≤ bps) : 0 ≤ computeFee received bps scale :=
  floorTo_nonneg (significant_nonneg (div_nonneg (Decimal.nonneg_mul positive.le (by exact_mod_cast rate)) (by norm_num)))

/-- Below ten thousand basis points something is left, however small the amount. -/
theorem computeFee_lt (positive : 0 < received) (rate : 0 ≤ bps) (most : bps ≤ 9999) :
    computeFee received bps scale < received := by
  have rate' : (0 : ℚ) ≤ bps := by exact_mod_cast rate
  have most' : (bps : ℚ) ≤ 9999 := by exact_mod_cast most
  have product : 0 ≤ received * bps := mul_nonneg positive.le rate'
  have times : Decimal.mul received bps ≤ (1 + 5 * 10 ^ (-(20 : ℤ))) * (received * bps) := significant_le product
  have quotient : 0 ≤ Decimal.mul received bps / 10000 := div_nonneg (significant_nonneg product) (by norm_num)
  have divided : Decimal.div (Decimal.mul received bps) 10000 ≤
      (1 + 5 * 10 ^ (-(20 : ℤ))) * (Decimal.mul received bps / 10000) := significant_le quotient
  have floored : computeFee received bps scale ≤ Decimal.div (Decimal.mul received bps) 10000 :=
    floorTo_le (significant_nonneg quotient)
  have share : received * bps ≤ received * 9999 := mul_le_mul_of_nonneg_left most' positive.le
  norm_num at times divided
  linarith

/-! ## One asset of the posting -/

/-- How the check adds up an asset: what is taken, what is paid, and the fee if
there is one. -/
def legTotal (received fee : Decimal) : Decimal :=
  let paid := Decimal.add (Decimal.sub 0 received) (Decimal.sub received fee)
  if 0 < fee then paid.add fee else paid

/-- A payment that loses no digit leaves the fee. -/
theorem net_exact_iff : Decimal.sub received (computeFee received bps scale) + computeFee received bps scale = received ↔
    Short Decimal.precision (received - computeFee received bps scale) := by
  rw [Short, ← eq_sub_iff_add_eq, Decimal.sub]

/-- With an exact payment, the check passes just when what is rounded off the
amount vanishes beside the fee. -/
theorem legTotal_eq_zero (positive : 0 < received) (rate : 0 ≤ bps)
    (net : Short Decimal.precision (received - computeFee received bps scale)) :
    legTotal received (computeFee received bps scale) = 0 ↔ Settles received bps scale := by
  have paid : Decimal.add (Decimal.sub 0 received) (Decimal.sub received (computeFee received bps scale)) =
      -significant Decimal.precision
        (computeFee received bps scale + (significant Decimal.precision received - received)) := by
    have taken : Decimal.sub 0 received = -significant Decimal.precision received := by
      rw [Decimal.sub, zero_sub, significant_neg]
    have total : -significant Decimal.precision received + (received - computeFee received bps scale) =
        -(computeFee received bps scale + (significant Decimal.precision received - received)) := by
      ring
    rw [Decimal.add, taken, Decimal.sub, net, total, significant_neg]
  rw [legTotal, paid]
  split
  · rename_i fee
    rw [Decimal.add, significant_eq_zero (by decide), neg_add_eq_zero]
    exact ⟨fun rounded => ⟨net, rounded⟩, Settles.rounded⟩
  · rename_i free
    have none : computeFee received bps scale = 0 := le_antisymm (not_lt.mp free) (computeFee_nonneg positive rate)
    rw [none, sub_zero] at net
    rw [neg_eq_zero, none]
    refine ⟨fun _ => ⟨by rwa [none, sub_zero], ?_⟩, fun _ => ?_⟩
    · rw [none, net, sub_self, add_zero, significant_zero]
    · rw [net, sub_self, add_zero, significant_zero]

/-! ## The posting -/

/-- The lines of a settlement, for one buyer and one seller. -/
def legs (buyer seller : UserId) (quantity quoteAmount buyerFee sellerFee : Decimal) : List LedgerPostingLine :=
  [⟨some buyer, .userLocked, quoteAsset, .debit, quoteAmount⟩,
   ⟨some seller, .userAvailable, quoteAsset, .credit, quoteAmount.sub sellerFee⟩,
   ⟨some seller, .userLocked, baseAsset, .debit, quantity⟩,
   ⟨some buyer, .userAvailable, baseAsset, .credit, quantity.sub buyerFee⟩] ++
  (if 0 < sellerFee then [⟨none, .feeRevenue, quoteAsset, .credit, sellerFee⟩] else []) ++
  (if 0 < buyerFee then [⟨none, .feeRevenue, baseAsset, .credit, buyerFee⟩] else [])

variable {taker maker : Order} {fill : EngineFill} {market : Market} {params : MarketParams}

/-- A fill as the engine prints it. -/
structure Printed (params : MarketParams) (fill : EngineFill) : Prop where
  quantity_pos : 0 < fill.quantity
  quote_pos : 0 < fill.quoteAmount
  quantity : OnGrid params.baseScale fill.quantity
  quote : OnGrid params.quoteScale fill.quoteAmount

/-- Every fill of a pass is printed so. -/
theorem matchOrder_printed {input : TakerInput} {book : List RestingOrder}
    (member : fill ∈ (matchOrder input book params).fills) : Printed params fill := by
  rw [MatchSoundness.matchOrder_fills] at member
  obtain ⟨trade, isTrade, rfl⟩ := List.mem_map.mp member
  obtain ⟨-, left, fills⟩ := trades_fills isTrade
  rw [MatchSoundness.printed_eq isTrade]
  exact ⟨fills.quantity_pos, fills.quote_pos, trades_quantity_grid isTrade, fills.quote ▸ floorTo_onGrid _ _⟩

theorem net_toFixed (grid : OnGrid scale received) :
    (received.sub (computeFee received bps scale)).toFixed scale = received.sub (computeFee received bps scale) :=
  Decimal.toFixed_of_onGrid (significant_onGrid (grid.sub (floorTo_onGrid _ _)))

/-- Printing the amounts at the scales changes none of them. -/
theorem settlement_lines (printed : Printed params fill) : ∃ buyer seller,
    (settlement taker maker fill market params).input.lines = legs buyer seller fill.quantity fill.quoteAmount
      (computeFee fill.quantity (buyerBps taker market) params.baseScale)
      (computeFee fill.quoteAmount (sellerBps taker market) params.quoteScale) := by
  refine ⟨if taker.side = .buy then taker.userId else maker.userId,
    if taker.side = .buy then maker.userId else taker.userId, ?_⟩
  have fee : ∀ amount bps scale, (computeFee amount bps scale).toFixed scale = computeFee amount bps scale :=
    fun _ _ _ => toFixed_floorTo _ _
  simp only [settlement, legs, buyerBps, sellerBps, net_toFixed printed.quantity,
    net_toFixed printed.quote, fee, Decimal.toFixed_of_onGrid printed.quantity, Decimal.toFixed_of_onGrid printed.quote]
  rfl

section Legs
variable {buyer seller : UserId} {quantity quoteAmount buyerFee sellerFee : Decimal}

theorem assetSum_base (nonneg : 0 ≤ buyerFee) :
    assetSum (legs buyer seller quantity quoteAmount buyerFee sellerFee) baseAsset =
      quantity.sub buyerFee + buyerFee - quantity := by
  have none : ¬0 < buyerFee → buyerFee = 0 := fun free => le_antisymm (not_lt.mp free) nonneg
  by_cases quoteFee : 0 < sellerFee <;> by_cases baseFee : 0 < buyerFee <;>
    simp [assetSum, legs, quoteFee, baseFee, none, EntryDirection.signed, baseAsset, quoteAsset] <;> ring

theorem assetSum_quote (nonneg : 0 ≤ sellerFee) :
    assetSum (legs buyer seller quantity quoteAmount buyerFee sellerFee) quoteAsset =
      quoteAmount.sub sellerFee + sellerFee - quoteAmount := by
  have none : ¬0 < sellerFee → sellerFee = 0 := fun free => le_antisymm (not_lt.mp free) nonneg
  by_cases quoteFee : 0 < sellerFee <;> by_cases baseFee : 0 < buyerFee <;>
    simp [assetSum, legs, quoteFee, baseFee, none, EntryDirection.signed, baseAsset, quoteAsset] <;> ring

theorem assetSum_other {asset : String} (isOther : asset ≠ baseAsset) (isOther' : asset ≠ quoteAsset) :
    assetSum (legs buyer seller quantity quoteAmount buyerFee sellerFee) asset = 0 := by
  by_cases quoteFee : 0 < sellerFee <;> by_cases baseFee : 0 < buyerFee <;>
    simp [assetSum, legs, quoteFee, baseFee, Ne.symm isOther, Ne.symm isOther']

theorem totals_legs : (legs buyer seller quantity quoteAmount buyerFee sellerFee).foldl addToTotals [] =
    [(quoteAsset, legTotal quoteAmount sellerFee), (baseAsset, legTotal quantity buyerFee)] := by
  have ne : quoteAsset ≠ baseAsset := by decide
  by_cases quoteFee : 0 < sellerFee <;> by_cases baseFee : 0 < buyerFee <;>
    simp [legs, legTotal, addToTotals, quoteFee, baseFee, ne]

theorem legs_positive (quantity_pos : 0 < quantity) (quote_pos : 0 < quoteAmount) (base : buyerFee < quantity)
    (quote : sellerFee < quoteAmount) :
    ∀ line ∈ legs buyer seller quantity quoteAmount buyerFee sellerFee, 0 < line.amount := by
  have paid : ∀ {amount fee : Decimal}, fee < amount → 0 < amount.sub fee := fun less =>
    significant_pos (by decide) (sub_pos.mpr less)
  intro line member
  simp only [legs, List.mem_append, List.mem_cons, List.not_mem_nil, or_false] at member
  rcases member with ((rfl | rfl | rfl | rfl) | fee) | fee
  · exact quote_pos
  · exact paid quote
  · exact quantity_pos
  · exact paid base
  · split at fee
    · rename_i positive
      cases List.mem_singleton.mp fee
      exact positive
    · cases fee
  · split at fee
    · rename_i positive
      cases List.mem_singleton.mp fee
      exact positive
    · cases fee

theorem accepted_iff {input : LedgerPostingInput Reference}
    (isLegs : input.lines = legs buyer seller quantity quoteAmount buyerFee sellerFee)
    (positive : ∀ line ∈ input.lines, 0 < line.amount) :
    assertPostingBalanced input = .ok () ↔ legTotal quoteAmount sellerFee = 0 ∧ legTotal quantity buyerFee = 0 := by
  have enough : ¬input.lines.length < 2 := by
    rw [isLegs]
    simp [legs]
  have none : ¬input.lines.any fun line => line.amount ≤ 0 := by
    simpa using positive
  rw [assertPostingBalanced, if_neg enough, if_neg none, isLegs, totals_legs]
  by_cases quote : legTotal quoteAmount sellerFee = 0 <;> by_cases base : legTotal quantity buyerFee = 0 <;>
    simp [quote, base]

theorem payment_amount {asset : String} {line : LedgerPostingLine}
    (member : line ∈ legs buyer seller quantity quoteAmount buyerFee sellerFee) (isPaid : isPayment asset line) :
    asset = baseAsset ∧ line.amount = quantity.sub buyerFee ∨
      asset = quoteAsset ∧ line.amount = quoteAmount.sub sellerFee := by
  simp only [legs, List.mem_append, List.mem_cons, List.not_mem_nil, or_false] at member
  simp only [isPayment, Bool.and_eq_true, decide_eq_true_eq] at isPaid
  obtain ⟨⟨isUser, rfl⟩, -⟩ := isPaid
  rcases member with ((rfl | rfl | rfl | rfl) | fee) | fee
  · cases isUser
  · exact .inr ⟨rfl, rfl⟩
  · cases isUser
  · exact .inl ⟨rfl, rfl⟩
  · split at fee
    · cases List.mem_singleton.mp fee
      cases isUser
    · cases fee
  · split at fee
    · cases List.mem_singleton.mp fee
      cases isUser
    · cases fee

end Legs

/-- The rates of the market are below ten thousand basis points. -/
structure RatesInRange (market : Market) : Prop where
  maker : 0 ≤ market.makerFeeBps ∧ market.makerFeeBps ≤ 9999
  taker : 0 ≤ market.takerFeeBps ∧ market.takerFeeBps ≤ 9999

theorem RatesInRange.buyer (rates : RatesInRange market) : 0 ≤ buyerBps taker market ∧ buyerBps taker market ≤ 9999 := by
  unfold buyerBps
  split
  · exact rates.taker
  · exact rates.maker

theorem RatesInRange.seller (rates : RatesInRange market) :
    0 ≤ sellerBps taker market ∧ sellerBps taker market ≤ 9999 := by
  unfold sellerBps
  split
  · exact rates.maker
  · exact rates.taker

/-- A fill can be posted exactly as it is just when 20 digits hold what the two
parties are paid. -/
theorem postable_iff (printed : Printed params fill) (rates : RatesInRange market) :
    Postable (settlement taker maker fill market params) fill ↔
      Settles fill.quantity (buyerBps taker market) params.baseScale ∧
        Settles fill.quoteAmount (sellerBps taker market) params.quoteScale := by
  obtain ⟨buyer, seller, isLegs⟩ := @settlement_lines taker maker fill market params printed
  obtain ⟨buyerRate, buyerMost⟩ := @RatesInRange.buyer taker market rates
  obtain ⟨sellerRate, sellerMost⟩ := @RatesInRange.seller taker market rates
  have buyerFee : 0 ≤ computeFee fill.quantity (buyerBps taker market) params.baseScale :=
    computeFee_nonneg printed.quantity_pos buyerRate
  have sellerFee : 0 ≤ computeFee fill.quoteAmount (sellerBps taker market) params.quoteScale :=
    computeFee_nonneg printed.quote_pos sellerRate
  have positive : ∀ line ∈ (settlement taker maker fill market params).input.lines, 0 < line.amount := by
    rw [isLegs]
    exact legs_positive printed.quantity_pos printed.quote_pos (computeFee_lt printed.quantity_pos buyerRate buyerMost)
      (computeFee_lt printed.quote_pos sellerRate sellerMost)
  constructor
  · intro postable
    have base := postable.balanced baseAsset
    have quote := postable.balanced quoteAsset
    rw [isLegs, assetSum_base buyerFee, sub_eq_zero, net_exact_iff] at base
    rw [isLegs, assetSum_quote sellerFee, sub_eq_zero, net_exact_iff] at quote
    obtain ⟨quoteTotal, baseTotal⟩ := (accepted_iff isLegs positive).mp postable.accepted
    exact ⟨(legTotal_eq_zero printed.quantity_pos buyerRate base).mp baseTotal,
      (legTotal_eq_zero printed.quote_pos sellerRate quote).mp quoteTotal⟩
  · rintro ⟨base, quote⟩
    have baseExact := net_exact_iff.mpr base.net
    have quoteExact := net_exact_iff.mpr quote.net
    refine ⟨positive, fun asset => ?_, ?_, fun line member isPaid => ?_, fun line member isPaid => ?_⟩
    · rw [isLegs]
      by_cases isBase : asset = baseAsset
      · rw [isBase, assetSum_base buyerFee, baseExact, sub_self]
      · by_cases isQuote : asset = quoteAsset
        · rw [isQuote, assetSum_quote sellerFee, quoteExact, sub_self]
        · exact assetSum_other isBase isQuote
    · refine (accepted_iff isLegs positive).mpr ⟨?_, ?_⟩
      · exact (legTotal_eq_zero printed.quote_pos sellerRate quote.net).mpr quote
      · exact (legTotal_eq_zero printed.quantity_pos buyerRate base.net).mpr base
    · rcases payment_amount (isLegs ▸ member) isPaid with ⟨-, amount⟩ | ⟨same, -⟩
      · exact amount ▸ baseExact
      · exact absurd same (by decide)
    · rcases payment_amount (isLegs ▸ member) isPaid with ⟨same, -⟩ | ⟨-, amount⟩
      · exact absurd same (by decide)
      · exact amount ▸ quoteExact

/-! ## Two fills -/

/-- Order `id` of user `id`, a limit order at the price of one. -/
def limitOrder (id : OrderId) (side : OrderSide) (quantity : Decimal) : Order :=
  ⟨id, id, "USDT-INR", none, side, .limit, some 1, some quantity, none, 0, 0, none, none, .open, none, 0⟩

/-- The fill of all of a quantity by order 2. -/
def fillOf (quantity quoteAmount : Decimal) : EngineFill := ⟨1, 1, 1, quantity, quoteAmount⟩

def settled (quantity quoteAmount : Decimal) : Settlement :=
  settlement (limitOrder 2 .buy quantity) (limitOrder 1 .sell quantity) (fillOf quantity quoteAmount) usdtInr usdtInrParams

/-- 10.5 USDT. -/
theorem ordinary_fill_postable : Postable (settled (21 / 2) (21 / 2)) (fillOf (21 / 2) (21 / 2)) := by
  have printed : Printed usdtInrParams (fillOf (21 / 2) (21 / 2)) :=
    ⟨by norm_num [fillOf], by norm_num [fillOf], ⟨10500000, by norm_num [fillOf, usdtInrParams]⟩,
      ⟨1050, by norm_num [fillOf, usdtInrParams]⟩⟩
  have rates : RatesInRange usdtInr := ⟨by decide, by decide⟩
  refine (postable_iff printed rates).mpr ⟨⟨?_, ?_⟩, ⟨?_, ?_⟩⟩ <;> try unfold Short
  all_goals decide +kernel

/-- A millionth more than 10^14 USDT: the ledger's sum in 20 digits does not
come out at zero. -/
theorem wide_fill_refused :
    ¬Postable (settled (10 ^ 14 + 1 / 10 ^ 6) (10 ^ 14)) (fillOf (10 ^ 14 + 1 / 10 ^ 6) (10 ^ 14)) := by
  intro postable
  have refused : assertPostingBalanced (settled (10 ^ 14 + 1 / 10 ^ 6) (10 ^ 14)).input ≠ .ok () := by
    decide +kernel
  exact refused postable.accepted

end Exchange.Trading.FillPosting
