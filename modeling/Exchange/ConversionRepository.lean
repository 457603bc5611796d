import Exchange.AsyncDatabase
import Exchange.ConversionPlan
import Exchange.Users

/-! The tables of quotes and conversions, the snapshots of quotes in Redis, and
the calls the conversion service awaits. A request's number stands for the uuid
of the row it creates. -/
namespace Exchange.Conversions
open Ledger SignificantDigits

/-- The uuid of a quote. -/
abbrev QuoteId := ℕ

/-- The uuid of a conversion. -/
abbrev ConversionId := ℕ

/-- Milliseconds since the epoch. -/
abbrev Time := ℕ

structure UserKyc where
  status : UserStatus
  kycStatus : KycStatus
  kycTier : ℤ
  deriving DecidableEq, Repr

structure PriceQuote where
  userId : UserId
  side : ConversionSide
  rate : Decimal
  spreadBps : ℕ
  expiresAt : Time
  deriving DecidableEq, Repr

/-- What Redis holds of a quote, until then. -/
structure QuoteSnapshot where
  quoteId : QuoteId
  userId : UserId
  plan : ConversionPlan
  deriving DecidableEq, Repr

/-- What users see of a conversion. -/
structure Economics where
  side : ConversionSide
  inrAmount : Decimal
  usdtAmount : Decimal
  rate : Decimal
  feeInr : Decimal
  tdsAmount : Decimal
  deriving DecidableEq, Repr

structure Conversion where
  userId : UserId
  quoteId : QuoteId
  economics : Economics
  ledgerTxnId : ℕ
  deriving DecidableEq, Repr

structure Store where
  users : UserId → Option UserKyc
  quotes : Table QuoteId PriceQuote
  /-- A key with its time to live. -/
  snapshots : Table QuoteId (QuoteSnapshot × Time)
  conversions : Table ConversionId Conversion
  ledger : Ledger.Store QuoteId

/-! ## Writes -/

/-- Storing a value into `DECIMAL(precision, scale)`. -/
def storeDecimal (precision scale : ℕ) (value : Decimal) : Except Failure Decimal :=
  let rounded := Decimal.toFixed scale value
  if |rounded| < 10 ^ (precision - scale) then .ok rounded else .error (.database "numeric field overflow")

def createQuote (id : QuoteId) (data : PriceQuote) (s : Store) :
    Except Failure (PriceQuote × Store) := do
  let rate ← storeDecimal 20 8 data.rate
  if (s.quotes.lookup id).isSome then .error .uniqueViolation
  else .ok ({ data with rate }, { s with quotes := s.quotes.insert id { data with rate } })

/-- The types of the columns, and `conversions_amount_chk`. -/
def storeEconomics (economics : Economics) : Except Failure Economics := do
  let inrAmount ← storeDecimal 20 2 economics.inrAmount
  let usdtAmount ← storeDecimal 38 6 economics.usdtAmount
  let rate ← storeDecimal 20 8 economics.rate
  let feeInr ← storeDecimal 20 2 economics.feeInr
  let tdsAmount ← storeDecimal 20 2 economics.tdsAmount
  if 0 < inrAmount ∧ 0 < usdtAmount then .ok ⟨economics.side, inrAmount, usdtAmount, rate, feeInr, tdsAmount⟩
  else .error (.database "conversions_amount_chk")

/-- No index asks that a quote has one conversion. -/
def createConversion (id : ConversionId) (data : Conversion) (s : Store) :
    Except Failure (Conversion × Store) := do
  let economics ← storeEconomics data.economics
  if (s.conversions.lookup id).isSome then .error .uniqueViolation
  else .ok ({ data with economics },
    { s with conversions := s.conversions.insert id { data with economics } })

/-! ## Queries -/

def conversionsOf (s : Store) (quoteId : QuoteId) : List Conversion :=
  (s.conversions.rows.map Prod.snd).filter fun row => row.quoteId = quoteId

/-- `findFirst` without an order takes any of the rows that match. -/
def findConversionByQuoteId (s : Store) (pick : ℕ) (quoteId : QuoteId) : Option Conversion :=
  let rows := conversionsOf s quoteId
  rows[pick % rows.length]?

/-- The balance of a system account; zero when there is none yet. -/
def systemAccountBalance (s : Store) (kind : AccountKind) (asset : String) : Decimal :=
  projectionForAccount s.ledger ⟨none, citext asset, kind⟩

/-- Redis forgets a key when its time is over. -/
def getSnapshot (s : Store) (now : Time) (quoteId : QuoteId) : Option QuoteSnapshot :=
  ((s.snapshots.lookup quoteId).filter fun entry => now < entry.2).map Prod.fst

/-! ## Calls -/

inductive ConversionCall where
  | findUserKyc (userId : UserId)
  | now
  | createQuote (data : PriceQuote)
  | setSnapshot (snapshot : QuoteSnapshot) (ttlMs : ℕ)
  | findQuoteById (id : QuoteId)
  | findConversionByQuoteId (quoteId : QuoteId)
  | getSnapshot (quoteId : QuoteId)
  | getDelSnapshot (quoteId : QuoteId)
  | systemAccountBalance (kind : AccountKind) (asset : String)
  | post (input : LedgerPostingInput QuoteId)
  | createConversion (data : Conversion)
  deriving DecidableEq, Repr

abbrev ConversionCall.Reply : ConversionCall → Type
  | .findUserKyc _ => Option UserKyc
  | .now => Time
  | .createQuote _ => QuoteId × PriceQuote
  | .setSnapshot _ _ => Unit
  | .findQuoteById _ => Option PriceQuote
  | .findConversionByQuoteId _ => Option Conversion
  | .getSnapshot _ => Option QuoteSnapshot
  | .getDelSnapshot _ => Option QuoteSnapshot
  | .systemAccountBalance _ _ => Decimal
  | .post _ => LedgerTransaction QuoteId
  | .createConversion _ => Conversion

/-- The time, and the row `findFirst` takes when several match. -/
structure World where
  now : Time
  findFirst : ℕ

/-- What a call of request `pid` does. -/
def perform (world : World) (pid : ℕ) : (call : ConversionCall) → Store → Except Failure call.Reply × Store
  | .findUserKyc userId, s => (.ok (s.users userId), s)
  | .now, s => (.ok world.now, s)
  | .createQuote data, s =>
    Database.written s ((createQuote pid data s).map fun (row, s') => ((pid, row), s'))
  | .setSnapshot snapshot ttlMs, s =>
    (.ok (), { s with snapshots := s.snapshots.insert snapshot.quoteId (snapshot, world.now + ttlMs) })
  | .findQuoteById id, s => (.ok (s.quotes.lookup id), s)
  | .findConversionByQuoteId quoteId, s => (.ok (findConversionByQuoteId s world.findFirst quoteId), s)
  | .getSnapshot quoteId, s => (.ok (getSnapshot s world.now quoteId), s)
  | .getDelSnapshot quoteId, s =>
    (.ok (getSnapshot s world.now quoteId), { s with snapshots := s.snapshots.erase quoteId })
  | .systemAccountBalance kind asset, s => (.ok (systemAccountBalance s kind asset), s)
  | .post input, s =>
    let (outcome, ledger) := Ledger.post input s.ledger
    (outcome, { s with ledger })
  | .createConversion data, s => Database.written s (createConversion pid data s)

/-- A call as a request may see it. -/
abbrev Makes (pid : ℕ) (call : ConversionCall) (s : Store) (reply : Except Failure call.Reply)
    (s' : Store) : Prop :=
  Database.Makes perform pid call s reply s'

abbrev ConversionM := Async ConversionCall ConversionCall.Reply Failure

abbrev ask (call : ConversionCall) : ConversionM call.Reply := Async.call call

end Exchange.Conversions
