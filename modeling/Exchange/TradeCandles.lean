import Exchange.TradingService
import Mathlib.Data.Finset.Sort

/-! OHLCV candles, computed from the tape of trades. The query groups what was
executed since some time by intervals that start at multiples of their width;
that time itself need not be such a multiple. -/
namespace Exchange.Trading.Candles

/-- A row of `trades`, with its time in milliseconds. -/
structure Trade where
  marketId : ℕ
  price : Decimal
  quantity : Decimal
  quoteAmount : Decimal
  seq : ℕ
  executedAt : ℤ
  deriving DecidableEq, Repr

/-- The global tape. -/
structure Tape where
  trades : List Trade
  /-- `seq` is drawn from a sequence. -/
  numbered : (trades.map Trade.seq).Nodup

inductive CandleInterval where
  | «1m»
  | «5m»
  | «15m»
  | «1h»
  | «1d»
  deriving DecidableEq, Repr

/-- `INTERVAL_SECONDS`. -/
def CandleInterval.seconds : CandleInterval → ℕ
  | .«1m» => 60
  | .«5m» => 300
  | .«15m» => 900
  | .«1h» => 3600
  | .«1d» => 86400

/-! ## The query -/

structure CandleRow where
  openTime : ℤ
  openPrice : Option Decimal
  high : Option Decimal
  low : Option Decimal
  close : Option Decimal
  baseVolume : Option Decimal
  quoteVolume : Option Decimal
  tradeCount : ℕ
  deriving DecidableEq, Repr

/-- `to_timestamp(floor(extract(epoch FROM executed_at) / bucketSeconds) * bucketSeconds)`. -/
def openTime (bucketSeconds : ℕ) (executedAt : ℤ) : ℤ := executedAt / (bucketSeconds * 1000) * (bucketSeconds * 1000)

def aggregate (opened : ℤ) (group : List Trade) : CandleRow where
  openTime := opened
  openPrice := (group.mergeSort fun a b => a.seq ≤ b.seq).head?.map Trade.price
  high := (group.map Trade.price).max?
  low := (group.map Trade.price).min?
  close := (group.mergeSort fun a b => b.seq ≤ a.seq).head?.map Trade.price
  baseVolume := some (group.map Trade.quantity).sum
  quoteVolume := some (group.map Trade.quoteAmount).sum
  tradeCount := group.length

/-- The `WHERE` clause. -/
def scanned (tape : Tape) (marketId : ℕ) (since : ℤ) : List Trade :=
  tape.trades.filter fun trade => trade.marketId = marketId ∧ since ≤ trade.executedAt

/-- The intervals with a trade in them, in ascending order. -/
def openTimes (bucketSeconds : ℕ) (trades : List Trade) : List ℤ :=
  (trades.map fun trade => openTime bucketSeconds trade.executedAt).toFinset.sort (· ≤ ·)

def candleBuckets (tape : Tape) (marketId bucketSeconds : ℕ) (since : ℤ) : List CandleRow :=
  (openTimes bucketSeconds (scanned tape marketId since)).map fun opened =>
    aggregate opened ((scanned tape marketId since).filter fun trade =>
      openTime bucketSeconds trade.executedAt = opened)

/-! ## The service -/

structure CandleDto where
  openTime : ℤ
  openPrice : Decimal
  high : Decimal
  low : Decimal
  close : Decimal
  baseVolume : Decimal
  quoteVolume : Decimal
  tradeCount : ℕ
  deriving DecidableEq, Repr

def toCandleDto (row : CandleRow) (params : MarketParams) : CandleDto where
  openTime := row.openTime
  openPrice := (row.openPrice.getD 0).toFixed params.quoteScale
  high := (row.high.getD 0).toFixed params.quoteScale
  low := (row.low.getD 0).toFixed params.quoteScale
  close := (row.close.getD 0).toFixed params.quoteScale
  baseVolume := (row.baseVolume.getD 0).toFixed params.baseScale
  quoteVolume := (row.quoteVolume.getD 0).toFixed params.quoteScale
  tradeCount := row.tradeCount

structure Store where
  /-- By its symbol, a market with its `id`. -/
  markets : String → Option (ℕ × Market)
  /-- The decimals of the assets. -/
  assets : List (String × ℕ)
  tape : Tape

structure CandlesDto where
  symbol : String
  interval : CandleInterval
  candles : List CandleDto
  deriving DecidableEq, Repr

def resolveMarket (s : Store) (symbol : String) : Except Failure ((ℕ × Market) × MarketParams) :=
  match s.markets symbol with
  | none => .error (.notFoundError "Market not found" "MARKET_NOT_FOUND")
  | some market => .ok (market, Service.marketParams market.2 s.assets)

/-- The start of the scan. -/
def since (interval : CandleInterval) (limit : ℕ) (now : ℤ) : ℤ := now - interval.seconds * limit * 1000

def getCandles (s : Store) (symbol : String) (interval : CandleInterval) (limit : ℕ) (now : ℤ) :
    Except Failure CandlesDto := do
  let (market, params) ← resolveMarket s symbol
  let rows := candleBuckets s.tape market.1 interval.seconds (since interval limit now)
  let trimmed := if rows.length > limit then rows.drop (rows.length - limit) else rows
  return ⟨market.2.symbol, interval, trimmed.map fun row => toCandleDto row params⟩

/-! ## What candles should be -/

/-- The trades of a market in one interval. -/
def inBucket (tape : Tape) (marketId bucketSeconds : ℕ) (opened : ℤ) : List Trade :=
  tape.trades.filter fun trade => trade.marketId = marketId ∧ openTime bucketSeconds trade.executedAt = opened

/-- The candle is that of these trades. -/
structure Summarises (params : MarketParams) (trades : List Trade) (candle : CandleDto) : Prop where
  openPrice : ∃ trade ∈ trades, (∀ other ∈ trades, trade.seq ≤ other.seq) ∧
    candle.openPrice = trade.price.toFixed params.quoteScale
  high : ∃ trade ∈ trades, (∀ other ∈ trades, other.price ≤ trade.price) ∧
    candle.high = trade.price.toFixed params.quoteScale
  low : ∃ trade ∈ trades, (∀ other ∈ trades, trade.price ≤ other.price) ∧
    candle.low = trade.price.toFixed params.quoteScale
  close : ∃ trade ∈ trades, (∀ other ∈ trades, other.seq ≤ trade.seq) ∧
    candle.close = trade.price.toFixed params.quoteScale
  baseVolume : candle.baseVolume = (trades.map Trade.quantity).sum.toFixed params.baseScale
  quoteVolume : candle.quoteVolume = (trades.map Trade.quoteAmount).sum.toFixed params.quoteScale
  tradeCount : candle.tradeCount = trades.length

/-- Each candle is that of all trades of its interval. -/
def Exact (tape : Tape) (marketId bucketSeconds : ℕ) (params : MarketParams) (candles : List CandleDto) : Prop :=
  ∀ candle ∈ candles, Summarises params (inBucket tape marketId bucketSeconds candle.openTime) candle

/-- The candles, in ascending order, are those of the last intervals in which
something was traded since a time. -/
structure MostRecent (tape : Tape) (marketId bucketSeconds limit : ℕ) (since : ℤ) (candles : List CandleDto) :
    Prop where
  ascending : candles.Pairwise fun earlier later => earlier.openTime < later.openTime
  traded : ∀ candle ∈ candles, ∃ trade ∈ tape.trades, trade.marketId = marketId ∧ since ≤ trade.executedAt ∧
    openTime bucketSeconds trade.executedAt = candle.openTime
  limited : candles.length ≤ limit
  recent : ∀ trade ∈ tape.trades, trade.marketId = marketId → since ≤ trade.executedAt →
    (∃ candle ∈ candles, candle.openTime = openTime bucketSeconds trade.executedAt) ∨
      (candles.length = limit ∧ ∀ candle ∈ candles, openTime bucketSeconds trade.executedAt < candle.openTime)

/-- What `getCandles` promises. -/
def CandlesExact (s : Store) (symbol : String) (interval : CandleInterval) (limit : ℕ) (now : ℤ) : Prop :=
  ∀ market params dto, resolveMarket s symbol = .ok (market, params) →
    getCandles s symbol interval limit now = .ok dto →
    Exact s.tape market.1 interval.seconds params dto.candles ∧
      MostRecent s.tape market.1 interval.seconds limit (since interval limit now) dto.candles

/-- The scan begins within an interval that was traded in before and after, and
finds no more intervals than it may return. -/
def FirstCut (tape : Tape) (marketId : ℕ) (interval : CandleInterval) (limit : ℕ) (now : ℤ) : Prop :=
  let start := since interval limit now
  let bucket := inBucket tape marketId interval.seconds (openTime interval.seconds start)
  (∃ trade ∈ bucket, trade.executedAt < start) ∧ (∃ trade ∈ bucket, start ≤ trade.executedAt) ∧
    ((scanned tape marketId start).map fun trade => openTime interval.seconds trade.executedAt).toFinset.card ≤ limit

/-! ## Intervals -/

section
variable {bucketSeconds : ℕ} {trades : List Trade}

theorem openTime_mono (earlier : a ≤ b) : openTime bucketSeconds a ≤ openTime bucketSeconds b := by
  rcases Nat.eq_zero_or_pos bucketSeconds with rfl | width
  · simp [openTime]
  · have width : (0 : ℤ) < bucketSeconds * 1000 := by positivity
    exact mul_le_mul_of_nonneg_right (Int.ediv_le_ediv width earlier) width.le

theorem mem_openTimes : opened ∈ openTimes bucketSeconds trades ↔
    ∃ trade ∈ trades, openTime bucketSeconds trade.executedAt = opened := by
  simp only [openTimes, Finset.mem_sort, List.mem_toFinset, List.mem_map]

theorem openTimes_ascending : (openTimes bucketSeconds trades).Pairwise (· < ·) :=
  (Finset.sortedLT_sort _).pairwise

theorem openTimes_length : (openTimes bucketSeconds trades).length =
    (trades.map fun trade => openTime bucketSeconds trade.executedAt).toFinset.card := Finset.length_sort _

/-- In an ascending list, what is dropped comes before what is left. -/
theorem drop_ascending {times : List ℤ} (ascending : times.Pairwise (· < ·)) (member : opened ∈ times) (count : ℕ) :
    opened ∈ times.drop count ∨ (count ≠ 0 ∧ ∀ other ∈ times.drop count, opened < other) := by
  rw [← List.take_append_drop count times] at ascending member
  rcases List.mem_append.mp member with dropped | kept
  · refine .inr ⟨?_, fun other kept => (List.pairwise_append.mp ascending).2.2 opened dropped other kept⟩
    rintro rfl
    rw [List.take_zero] at dropped
    exact List.not_mem_nil dropped
  · exact .inl kept

/-- Whatever is left after a drop has something dropped before it. -/
theorem before_drop {times : List ℤ} (ascending : times.Pairwise (· < ·)) (dropping : 0 < count)
    (member : opened ∈ times.drop count) : ∃ other ∈ times, other < opened := by
  cases times with
  | nil =>
    rw [List.drop_nil] at member
    exact absurd member List.not_mem_nil
  | cons first rest =>
    obtain ⟨count, rfl⟩ := Nat.exists_eq_succ_of_ne_zero dropping.ne'
    rw [List.drop_succ_cons] at member
    exact ⟨first, List.mem_cons_self, (List.pairwise_cons.mp ascending).1 opened (List.mem_of_mem_drop member)⟩

end

/-! ## One candle -/

/-- The head of a sorted list comes first. -/
theorem head_mergeSort (le : Trade → Trade → Bool) (trans : ∀ a b c, le a b → le b c → le a c)
    (total : ∀ a b, le a b || le b a) {trades : List Trade} (nonempty : trades ≠ []) :
    ∃ trade ∈ trades, (∀ other ∈ trades, le trade other) ∧ (trades.mergeSort le).head? = some trade := by
  have sorted := List.pairwise_mergeSort trans total trades
  cases isSorted : trades.mergeSort le with
  | nil =>
    have isNil : (trades.mergeSort le).length = trades.length := List.length_mergeSort trades
    rw [isSorted] at isNil
    exact absurd (List.eq_nil_of_length_eq_zero isNil.symm) nonempty
  | cons trade rest =>
    have same : ∀ other, other ∈ trade :: rest ↔ other ∈ trades := by
      intro other
      rw [← isSorted, List.mem_mergeSort]
    rw [isSorted] at sorted
    refine ⟨trade, (same trade).mp List.mem_cons_self, fun other member => ?_, rfl⟩
    rcases List.mem_cons.mp ((same other).mpr member) with rfl | later
    · simpa using total other other
    · exact (List.pairwise_cons.mp sorted).1 other later

theorem max_price {trades : List Trade} (nonempty : trades ≠ []) :
    ∃ trade ∈ trades, (∀ other ∈ trades, other.price ≤ trade.price) ∧
      (trades.map Trade.price).max? = some trade.price := by
  cases isMax : (trades.map Trade.price).max? with
  | none => exact absurd (List.map_eq_nil_iff.mp (List.max?_eq_none_iff.mp isMax)) nonempty
  | some highest =>
    obtain ⟨member, most⟩ := List.max?_eq_some_iff.mp isMax
    obtain ⟨trade, isTrade, rfl⟩ := List.mem_map.mp member
    exact ⟨trade, isTrade, fun other isOther => most _ (List.mem_map_of_mem isOther), rfl⟩

theorem min_price {trades : List Trade} (nonempty : trades ≠ []) :
    ∃ trade ∈ trades, (∀ other ∈ trades, trade.price ≤ other.price) ∧
      (trades.map Trade.price).min? = some trade.price := by
  cases isMin : (trades.map Trade.price).min? with
  | none => exact absurd (List.map_eq_nil_iff.mp (List.min?_eq_none_iff.mp isMin)) nonempty
  | some lowest =>
    obtain ⟨member, least⟩ := List.min?_eq_some_iff.mp isMin
    obtain ⟨trade, isTrade, rfl⟩ := List.mem_map.mp member
    exact ⟨trade, isTrade, fun other isOther => least _ (List.mem_map_of_mem isOther), rfl⟩

theorem aggregate_summarises (params : MarketParams) (opened : ℤ) {group : List Trade} (nonempty : group ≠ []) :
    Summarises params group (toCandleDto (aggregate opened group) params) := by
  have first := head_mergeSort (fun a b => a.seq ≤ b.seq) (by simp; omega) (by simp; omega) nonempty
  have last := head_mergeSort (fun a b => b.seq ≤ a.seq) (by simp; omega) (by simp; omega) nonempty
  obtain ⟨first, isFirst, least, first?⟩ := first
  obtain ⟨last, isLast, greatest, last?⟩ := last
  obtain ⟨highest, isHighest, max, max?⟩ := max_price nonempty
  obtain ⟨lowest, isLowest, min, min?⟩ := min_price nonempty
  exact {
    openPrice := ⟨first, isFirst, by simpa using least, by simp [toCandleDto, aggregate, first?]⟩
    high := ⟨highest, isHighest, max, by simp [toCandleDto, aggregate, max?]⟩
    low := ⟨lowest, isLowest, min, by simp [toCandleDto, aggregate, min?]⟩
    close := ⟨last, isLast, by simpa using greatest, by simp [toCandleDto, aggregate, last?]⟩
    baseVolume := rfl
    quoteVolume := rfl
    tradeCount := rfl }

/-! ## All candles -/

/-- The trades of one group of the query. -/
def grouped (tape : Tape) (marketId bucketSeconds : ℕ) (since opened : ℤ) : List Trade :=
  (scanned tape marketId since).filter fun trade => openTime bucketSeconds trade.executedAt = opened

/-- What is returned for the last of the groups. -/
def lastCandles (tape : Tape) (marketId bucketSeconds limit : ℕ) (params : MarketParams) (since : ℤ) :
    List CandleDto :=
  let times := openTimes bucketSeconds (scanned tape marketId since)
  (times.drop (times.length - limit)).map fun opened =>
    toCandleDto (aggregate opened (grouped tape marketId bucketSeconds since opened)) params

theorem getCandles_found {s : Store} {interval : CandleInterval} {limit : ℕ} {now : ℤ}
    (found : resolveMarket s symbol = .ok (market, params)) :
    getCandles s symbol interval limit now = .ok ⟨market.2.symbol, interval,
      lastCandles s.tape market.1 interval.seconds limit params (since interval limit now)⟩ := by
  have trimmed : ∀ rows : List CandleRow, (if rows.length > limit then rows.drop (rows.length - limit) else rows) =
      rows.drop (rows.length - limit) := by
    intro rows
    split
    · rfl
    · rw [show rows.length - limit = 0 by omega, List.drop_zero]
  unfold getCandles
  rw [found]
  simp only [bind, Except.bind, pure, Except.pure, trimmed]
  simp only [candleBuckets, List.length_map, ← List.map_drop, List.map_map]
  rfl

section
variable {tape : Tape} {marketId bucketSeconds limit : ℕ} {params : MarketParams} {start : ℤ}

theorem mem_scanned : trade ∈ scanned tape marketId start ↔
    trade ∈ tape.trades ∧ trade.marketId = marketId ∧ start ≤ trade.executedAt := by
  simp only [scanned, List.mem_filter, decide_eq_true_eq]

theorem mem_inBucket : trade ∈ inBucket tape marketId bucketSeconds opened ↔
    trade ∈ tape.trades ∧ trade.marketId = marketId ∧ openTime bucketSeconds trade.executedAt = opened := by
  simp only [inBucket, List.mem_filter, decide_eq_true_eq]

/-- A group is what is left of an interval. -/
theorem grouped_eq : grouped tape marketId bucketSeconds start opened =
    (inBucket tape marketId bucketSeconds opened).filter fun trade => start ≤ trade.executedAt := by
  simp only [grouped, scanned, inBucket, List.filter_filter]
  refine List.filter_congr fun trade _ => ?_
  simp only [Bool.decide_and]
  ac_rfl

theorem mem_lastCandles (member : candle ∈ lastCandles tape marketId bucketSeconds limit params start) :
    ∃ opened ∈ (openTimes bucketSeconds (scanned tape marketId start)).drop
        ((openTimes bucketSeconds (scanned tape marketId start)).length - limit),
      candle = toCandleDto (aggregate opened (grouped tape marketId bucketSeconds start opened)) params := by
  obtain ⟨opened, isOpened, rfl⟩ := List.mem_map.mp member
  exact ⟨opened, isOpened, rfl⟩

theorem lastCandles_mostRecent : MostRecent tape marketId bucketSeconds limit start
    (lastCandles tape marketId bucketSeconds limit params start) where
  ascending := by
    refine List.pairwise_map.mpr ?_
    exact openTimes_ascending.drop
  traded candle member := by
    obtain ⟨opened, isOpened, rfl⟩ := mem_lastCandles member
    obtain ⟨trade, isScanned, same⟩ := mem_openTimes.mp (List.mem_of_mem_drop isOpened)
    obtain ⟨isTrade, isMarket, late⟩ := mem_scanned.mp isScanned
    exact ⟨trade, isTrade, isMarket, late, same⟩
  limited := by
    rw [lastCandles, List.length_map, List.length_drop]
    omega
  recent trade isTrade isMarket late := by
    have member : openTime bucketSeconds trade.executedAt ∈ openTimes bucketSeconds (scanned tape marketId start) :=
      mem_openTimes.mpr ⟨trade, mem_scanned.mpr ⟨isTrade, isMarket, late⟩, rfl⟩
    rcases drop_ascending openTimes_ascending member
      ((openTimes bucketSeconds (scanned tape marketId start)).length - limit) with kept | ⟨dropping, before⟩
    · exact .inl ⟨_, List.mem_map_of_mem kept, rfl⟩
    · refine .inr ⟨?_, fun candle isCandle => ?_⟩
      · rw [lastCandles, List.length_map, List.length_drop]
        omega
      · obtain ⟨opened, isOpened, rfl⟩ := mem_lastCandles isCandle
        exact before opened isOpened

/-- A trade that the scan leaves out of a group was made in the interval in
which the scan begins. -/
theorem cut_at_start (member : opened ∈ openTimes bucketSeconds (scanned tape marketId start))
    (isTrade : trade ∈ inBucket tape marketId bucketSeconds opened) (early : trade.executedAt < start) :
    opened = openTime bucketSeconds start := by
  obtain ⟨other, isScanned, same⟩ := mem_openTimes.mp member
  have late := (mem_scanned.mp isScanned).2.2
  refine le_antisymm ?_ (same ▸ openTime_mono late)
  exact (mem_inBucket.mp isTrade).2.2 ▸ openTime_mono early.le

/-- No group comes before the one in which the scan begins. -/
theorem start_le (member : opened ∈ openTimes bucketSeconds (scanned tape marketId start)) :
    openTime bucketSeconds start ≤ opened := by
  obtain ⟨other, isScanned, same⟩ := mem_openTimes.mp member
  exact same ▸ openTime_mono (mem_scanned.mp isScanned).2.2

end

section
variable {tape : Tape} {marketId limit : ℕ} {params : MarketParams} {interval : CandleInterval} {now : ℤ}

theorem lastCandles_exact (whole : ¬FirstCut tape marketId interval limit now) :
    Exact tape marketId interval.seconds params
      (lastCandles tape marketId interval.seconds limit params (since interval limit now)) := by
  intro candle isCandle
  obtain ⟨opened, isOpened, rfl⟩ := mem_lastCandles isCandle
  have member := List.mem_of_mem_drop isOpened
  have all : grouped tape marketId interval.seconds (since interval limit now) opened =
      inBucket tape marketId interval.seconds opened := by
    rw [grouped_eq]
    refine List.filter_eq_self.mpr fun trade isTrade => decide_eq_true (not_lt.mp fun early => whole ?_)
    have isStart := cut_at_start member isTrade early
    obtain ⟨other, isScanned, same⟩ := mem_openTimes.mp member
    obtain ⟨isOther, isMarket, late⟩ := mem_scanned.mp isScanned
    refine ⟨⟨trade, isStart ▸ isTrade, early⟩, ⟨other, mem_inBucket.mpr ⟨isOther, isMarket, same.trans isStart⟩, late⟩, ?_⟩
    -- Were anything dropped, it would be the first group.
    rw [← openTimes_length]
    refine not_lt.mp fun many => ?_
    obtain ⟨first, isFirst, earlier⟩ := before_drop openTimes_ascending (Nat.sub_pos_of_lt many) isOpened
    exact absurd earlier (not_lt.mpr (isStart ▸ start_le isFirst))
  rw [all]
  refine aggregate_summarises params opened ?_
  obtain ⟨other, isScanned, same⟩ := mem_openTimes.mp member
  obtain ⟨isOther, isMarket, -⟩ := mem_scanned.mp isScanned
  exact List.ne_nil_of_mem (mem_inBucket.mpr ⟨isOther, isMarket, same⟩)

theorem not_exact_of_cut (cut : FirstCut tape marketId interval limit now) :
    ¬Exact tape marketId interval.seconds params
      (lastCandles tape marketId interval.seconds limit params (since interval limit now)) := by
  obtain ⟨⟨early, isEarly, before⟩, ⟨late, isLate, after⟩, few⟩ := cut
  rw [← openTimes_length] at few
  intro exact
  obtain ⟨isLate, isMarket, same⟩ := mem_inBucket.mp isLate
  have member : openTime interval.seconds (since interval limit now) ∈
      openTimes interval.seconds (scanned tape marketId (since interval limit now)) :=
    mem_openTimes.mpr ⟨late, mem_scanned.mpr ⟨isLate, isMarket, after⟩, same⟩
  rw [← List.drop_zero (l := openTimes _ _), ← Nat.sub_eq_zero_of_le few] at member
  have counted := (exact _ (List.mem_map_of_mem member)).tradeCount
  change (grouped _ _ _ _ _).length = _ at counted
  rw [grouped_eq] at counted
  exact absurd counted (List.length_filter_lt_length_iff_exists.mpr ⟨early, isEarly, by simpa using before⟩).ne

end

/-- The candles are exact unless the scan begins in the middle of an interval that
was traded in before and after, and the rest of it is not trimmed away. -/
theorem candles_exact_iff (s : Store) (symbol : String) (interval : CandleInterval) (limit : ℕ) (now : ℤ) :
    CandlesExact s symbol interval limit now ↔
      ∀ market params, resolveMarket s symbol = .ok (market, params) → ¬FirstCut s.tape market.1 interval limit now := by
  constructor
  · intro exact market params found cut
    exact not_exact_of_cut cut (exact market params _ found (getCandles_found found)).1
  · intro whole market params dto found returned
    rw [getCandles_found found] at returned
    cases returned
    exact ⟨lastCandles_exact (whole market params found), lastCandles_mostRecent⟩

/-- The seeded market, with two trades in one minute: one 5 seconds into it, one
after 30. -/
def quietMarket : Store where
  markets symbol := if symbol = "USDT-INR" then some (0, usdtInr) else none
  assets := [("USDT", 6), ("INR", 2)]
  tape := ⟨[⟨0, 90, 1, 90, 1, 1749999965000⟩, ⟨0, 91, 2, 182, 2, 1749999990000⟩], by decide⟩

/-- Ten seconds into the next minute, the last candle is to tell of both trades,
and tells of the second. -/
theorem first_candle_partial : ¬CandlesExact quietMarket "USDT-INR" .«1m» 1 1750000030000 := by
  intro exact
  have returned : getCandles quietMarket "USDT-INR" .«1m» 1 1750000030000 =
      .ok ⟨"USDT-INR", .«1m», [⟨1749999960000, 91, 91, 91, 91, 2, 182, 1⟩]⟩ := by
    decide +kernel
  have counted := ((exact (0, usdtInr) usdtInrParams _ (by decide +kernel) returned).1 _
    List.mem_cons_self).tradeCount
  revert counted
  decide +kernel

end Exchange.Trading.Candles
