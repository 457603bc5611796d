import Exchange.LedgerFees
import Exchange.TradingRepository
import Exchange.WithdrawalRepository

/-! The report of fees. It adds up, by asset, what trades and completed
withdrawals have charged according to their own rows, and next to that what the
ledger has credited to FEE_REVENUE. -/
namespace Exchange.Reports
open Ledger SignificantDigits Trading Withdrawal

/-! ## The repository -/

structure TradeFeeRow where
  makerFee : Decimal
  takerFee : Decimal
  makerSide : OrderSide
  deriving DecidableEq, Repr

structure WithdrawalFeeRow where
  asset : String
  fee : Decimal
  deriving DecidableEq, Repr

structure LedgerFeeRevenueRow where
  asset : String
  amount : Option Decimal
  deriving DecidableEq, Repr

structure MarketFeeSetting where
  symbol : String
  baseAsset : String
  quoteAsset : String
  makerFeeBps : ℤ
  takerFeeBps : ℤ
  status : MarketStatus
  deriving DecidableEq, Repr

def listTradesForFees (trades : Table FillId Trade) : List TradeFeeRow :=
  trades.rows.map fun (_, trade) => ⟨trade.makerFee, trade.takerFee, trade.makerSide⟩

def listCompletedWithdrawalsForFees (withdrawals : Table WithdrawalId CryptoWithdrawal) : List WithdrawalFeeRow :=
  ((withdrawals.rows.map Prod.snd).filter fun row => row.status = .completed && 0 < row.fee).map fun row =>
    ⟨row.asset, row.fee⟩

/-- One row for each asset that has a credit, under one of its spellings. -/
def feeRevenueLedgerByAsset (entries : List LedgerEntry) : List LedgerFeeRevenueRow :=
  let credits := entries.filter LedgerEntry.isFee
  ((credits.map LedgerEntry.asset).pwFilter fun a b => citext a ≠ citext b).map fun asset =>
    ⟨asset, some ((credits.filter fun entry => citext entry.asset = citext asset).map LedgerEntry.amount).sum⟩

def marketFeeSetting (market : Market) : MarketFeeSetting :=
  ⟨market.symbol, market.baseAsset, market.quoteAsset, market.makerFeeBps, market.takerFeeBps, market.status⟩

/-! ## The service -/

structure ReportDateFilter where
  fromDate : Option ℕ := none
  toDate : Option ℕ := none
  deriving DecidableEq, Repr

structure AssetFeeTotal where
  asset : String
  amount : Decimal
  deriving DecidableEq, Repr

structure FeeReportDto where
  fromDate : Option ℕ
  toDate : Option ℕ
  tradingFees : List AssetFeeTotal
  withdrawalFees : List AssetFeeTotal
  flatFeeUsdt : Decimal
  ledgerFeeRevenue : List AssetFeeTotal
  marketFees : List MarketFeeSetting
  deriving DecidableEq, Repr

def addAmount (map : Table String Decimal) (asset : String) (amount : Decimal) : Table String Decimal :=
  if amount ≤ 0 then map else map.insert asset (((map.lookup asset).getD 0).add amount)

/-- The order of the assets is the locale's. -/
def totals (localeCompare : String → String → ℤ) (map : Table String Decimal) : List AssetFeeTotal :=
  (map.rows.insertionSort fun a b => localeCompare a.1 b.1 ≤ 0).map fun (asset, amount) => ⟨asset, amount⟩

def feeAssetForSide : OrderSide → String
  | .buy => baseAsset
  | .sell => quoteAsset

def opposite : OrderSide → OrderSide
  | .buy => .sell
  | .sell => .buy

def addTrade (trading : Table String Decimal) (trade : TradeFeeRow) : Table String Decimal :=
  let trading := addAmount trading (feeAssetForSide trade.makerSide) trade.makerFee
  addAmount trading (feeAssetForSide (opposite trade.makerSide)) trade.takerFee

def addWithdrawal (withdrawal : Table String Decimal) (row : WithdrawalFeeRow) : Table String Decimal :=
  addAmount withdrawal row.asset row.fee

def addLedgerRevenue (ledger : Table String Decimal) (row : LedgerFeeRevenueRow) : Table String Decimal :=
  match row.amount with
  | some amount => addAmount ledger row.asset amount
  | none => ledger

/-- What the four queries answer. -/
structure FeeRows where
  trades : List TradeFeeRow
  withdrawals : List WithdrawalFeeRow
  ledgerRevenue : List LedgerFeeRevenueRow
  marketFees : List MarketFeeSetting
  deriving DecidableEq, Repr

def feeReport (localeCompare : String → String → ℤ) (feeUsdt : Decimal) (input : ReportDateFilter)
    (rows : FeeRows) : FeeReportDto where
  fromDate := input.fromDate
  toDate := input.toDate
  tradingFees := totals localeCompare (rows.trades.foldl addTrade ∅)
  withdrawalFees := totals localeCompare (rows.withdrawals.foldl addWithdrawal ∅)
  flatFeeUsdt := feeUsdt
  ledgerFeeRevenue := totals localeCompare (rows.ledgerRevenue.foldl addLedgerRevenue ∅)
  marketFees := rows.marketFees

/-- What the report says of an asset; one that is not listed has nothing. -/
def totalOf (totals : List AssetFeeTotal) (asset : String) : Decimal :=
  ((totals.find? fun total => total.asset = asset).map AssetFeeTotal.amount).getD 0

/-! ## Totals -/

/-- What a trade has charged. -/
def TradeFeeRow.charges (trade : TradeFeeRow) : Charges :=
  [(feeAssetForSide trade.makerSide, trade.makerFee), (feeAssetForSide (opposite trade.makerSide), trade.takerFee)]

def WithdrawalFeeRow.charges (row : WithdrawalFeeRow) : Charges := [(row.asset, row.fee)]

def LedgerFeeRevenueRow.charges (row : LedgerFeeRevenueRow) : Charges := [(row.asset, row.amount.getD 0)]

/-- Twenty digits hold each sum on the way. -/
def Fits (amounts : List Decimal) : Prop := ∀ before, before <+: amounts → Short Decimal.precision before.sum

variable {map : Table String Decimal} {asset : String} {charges charges' : Charges}

private def addCharge (map : Table String Decimal) (charge : String × Decimal) : Table String Decimal :=
  addAmount map charge.1 charge.2

private theorem lookup_addCharges (charges : Charges) (map : Table String Decimal) (asset : String) :
    ((charges.foldl addCharge map).lookup asset).getD 0 =
      (charges.amountsIn asset).foldl Decimal.add ((map.lookup asset).getD 0) := by
  induction charges generalizing map with
  | nil => rfl
  | cons charge rest ih =>
    rw [List.foldl_cons, ih, addCharge, addAmount]
    by_cases nothing : charge.2 ≤ 0
    · simp [nothing, Charges.amountsIn, Charges.positive, not_lt.mpr nothing]
    · rw [if_neg nothing]
      by_cases same : charge.1 = asset
      · subst same
        simp [Charges.amountsIn, Charges.positive, not_le.mp nothing]
      · simp [Charges.amountsIn, Charges.positive, not_le.mp nothing, same, AList.lookup_insert_ne (Ne.symm same)]

theorem totalOf_totals (localeCompare : String → String → ℤ) (map : Table String Decimal) (asset : String) :
    totalOf (totals localeCompare map) asset = (map.lookup asset).getD 0 := by
  have listed : ∀ total, total ∈ totals localeCompare map ↔ map.lookup total.asset = some total.amount := by
    intro total
    simp only [totals, List.mem_map, List.mem_insertionSort, Prod.exists, Table.mem_rows]
    constructor
    · rintro ⟨_, _, found, rfl⟩
      exact found
    · exact fun found => ⟨_, _, found, rfl⟩
  unfold totalOf
  cases found : (totals localeCompare map).find? fun total => total.asset = asset with
  | some total =>
    have isAsset : total.asset = asset := by simpa using List.find?_some found
    rw [← isAsset, (listed total).mp (List.mem_of_find?_eq_some found)]
    rfl
  | none =>
    cases present : map.lookup asset with
    | none => rfl
    | some amount =>
      have missing := List.find?_eq_none.mp found ⟨asset, amount⟩ ((listed _).mpr present)
      simp at missing

/-- Sums that fit are exact. -/
theorem Fits.sum {amounts : List Decimal} (fits : Fits amounts) : amounts.foldl Decimal.add 0 = amounts.sum := by
  induction amounts using List.reverseRecOn with
  | nil => rfl
  | append_singleton amounts amount ih =>
    have exact := ih fun before isBefore => fits before (isBefore.trans (List.prefix_append ..))
    have last := fits _ List.prefix_rfl
    rw [List.foldl_concat, exact, Decimal.add]
    simpa [Short] using last

/-- A report of charges that fit is right. -/
theorem reported (localeCompare : String → String → ℤ) {α : Type} {rows : List α}
    {add : Table String Decimal → α → Table String Decimal} {chargesOf : α → Charges}
    (adds : ∀ map row, add map row = (chargesOf row).foldl (fun map charge => addAmount map charge.1 charge.2) map)
    (fits : Fits (Charges.amountsIn (rows.flatMap chargesOf) asset)) :
    totalOf (totals localeCompare (rows.foldl add ∅)) asset = Charges.totalIn (rows.flatMap chargesOf) asset := by
  have flat : rows.foldl add ∅ = (rows.flatMap chargesOf).foldl addCharge ∅ := by
    rw [List.foldl_flatMap]
    exact List.foldl_ext _ _ _ fun map row _ => adds map row
  rw [totalOf_totals, flat, lookup_addCharges]
  exact fits.sum

/-! ## The ledger's revenue -/

private theorem sum_of_one {α : Type} [DecidableEq α] {values : List α} (distinct : values.Nodup) (value : α) (amount : ℚ) :
    (values.map fun other => if other = value then amount else 0).sum = if value ∈ values then amount else 0 := by
  induction values with
  | nil => rfl
  | cons first rest ih =>
    obtain ⟨fresh, distinct⟩ := List.nodup_cons.mp distinct
    rw [List.map_cons, List.sum_cons, ih distinct]
    by_cases same : first = value
    · subst same
      simp [fresh]
    · simp [same, Ne.symm same]

private theorem totalIn_single {name asset : String} {amount : Decimal} (nonneg : 0 ≤ amount) :
    Charges.totalIn [(name, amount)] asset = if name = asset then amount else 0 := by
  rcases nonneg.eq_or_lt with rfl | positive
  · simp [Charges.totalIn, Charges.amountsIn, Charges.positive]
  · by_cases same : name = asset <;> simp [Charges.totalIn, Charges.amountsIn, Charges.positive, positive, same]

/-- The rows add up to all credits, if each asset is spelled in one way. -/
theorem revenue_total {entries : List LedgerEntry} (spelled : ∀ charge ∈ feesIn entries, ∀ other ∈ feesIn entries,
      citext charge.1 = citext other.1 → charge.1 = other.1)
    (positive : ∀ charge ∈ feesIn entries, 0 < charge.2) (asset : String) :
    Charges.totalIn ((feeRevenueLedgerByAsset entries).flatMap LedgerFeeRevenueRow.charges) asset =
      (feesIn entries).totalIn asset := by
  have sum_credits (name : String) : Charges.totalIn (feesIn entries) name =
      (((feesIn entries).filter fun charge => charge.1 = name).map Prod.snd).sum := by
    have all : (feesIn entries).positive = feesIn entries := List.filter_eq_self.mpr (by simpa using positive)
    rw [Charges.totalIn, Charges.amountsIn, all]
  let names := ((feesIn entries).map Prod.fst).pwFilter fun a b => citext a ≠ citext b
  have isNamed {name : String} (isName : name ∈ names) : name ∈ (feesIn entries).map Prod.fst :=
    List.pwFilter_subset _ isName
  have grouped {name : String} (isName : name ∈ names) :
      (feesIn entries).filter (fun charge => citext charge.1 = citext name) =
        (feesIn entries).filter fun charge => charge.1 = name := by
    obtain ⟨other, isOther, rfl⟩ := List.mem_map.mp (isNamed isName)
    refine List.filter_congr fun charge member => ?_
    exact decide_eq_decide.mpr ⟨spelled charge member other isOther, congrArg citext⟩
  have rows : feeRevenueLedgerByAsset entries = names.map fun name =>
      ⟨name, some (((feesIn entries).filter fun charge => citext charge.1 = citext name).map Prod.snd).sum⟩ := by
    simp [feeRevenueLedgerByAsset, names, feesIn, List.filter_map, List.map_map, Function.comp_def]
  have row (name : String) (isName : name ∈ names) : Charges.totalIn
      (LedgerFeeRevenueRow.charges ⟨name, some (((feesIn entries).filter fun charge =>
        citext charge.1 = citext name).map Prod.snd).sum⟩) asset =
      if name = asset then Charges.totalIn (feesIn entries) asset else 0 := by
    rw [grouped isName, ← sum_credits]
    have nonneg : 0 ≤ Charges.totalIn (feesIn entries) name := by
      rw [sum_credits]
      refine List.sum_nonneg fun amount member => ?_
      obtain ⟨charge, isCharge, rfl⟩ := List.mem_map.mp member
      exact (positive charge (List.mem_of_mem_filter isCharge)).le
    rw [LedgerFeeRevenueRow.charges, Option.getD_some, totalIn_single nonneg]
    by_cases same : name = asset <;> simp [same]
  have distinct : names.Nodup := (List.pairwise_pwFilter _).imp fun differs same => differs (congrArg citext same)
  have total : ((names.map fun name => Charges.totalIn (LedgerFeeRevenueRow.charges ⟨name, some
      (((feesIn entries).filter fun charge => citext charge.1 = citext name).map Prod.snd).sum⟩) asset).sum) =
      if asset ∈ names then Charges.totalIn (feesIn entries) asset else 0 := by
    rw [List.map_congr_left row, sum_of_one distinct]
  rw [rows, Charges.totalIn_flatMap, List.map_map]
  refine total.trans (ite_eq_left_iff.mpr fun unnamed => ?_)
  -- An asset without a row has no credit.
  rw [sum_credits, List.filter_eq_nil_iff.mpr fun charge member => ?_]
  · rfl
  · intro isAsset
    have none : ∀ name ∈ names, citext asset ≠ citext name := by
      intro name isName same
      obtain ⟨other, isOther, rfl⟩ := List.mem_map.mp (isNamed isName)
      rw [← of_decide_eq_true isAsset] at same unnamed
      exact unnamed (spelled charge member other isOther same ▸ isName)
    refine (List.forall_mem_pwFilter (fun {x y z} differs => ?_) asset _).mp none charge.1
      (List.mem_map_of_mem member) (congrArg citext (of_decide_eq_true isAsset).symm)
    by_contra both
    simp only [not_or, not_not] at both
    exact differs (both.1.trans both.2)

end Exchange.Reports
