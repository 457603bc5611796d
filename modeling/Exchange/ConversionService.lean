import Exchange.ConversionRepository

/-! Conversions between INR and USDT. A user gets a quote, whose economics are
kept in Redis for a short time, and executes it against the treasury: one
posting settles it, and a row records it. -/
namespace Exchange.Conversions.Service
open Ledger

def assertKycApproved (userId : UserId) : ConversionM Unit := do
  let user ← ask (.findUserKyc userId)
  match user with
  | none => throw (.notFoundError "User not found")
  | some user =>
    if user.status ≠ .active then throw (.forbiddenError "Account is not active" "ACCOUNT_INACTIVE")
    else if user.kycStatus ≠ .approved ∨ user.kycTier < 1 then
      throw (.forbiddenError "KYC approval is required to convert" "KYC_REQUIRED")
    else return ()

/-! ## Quotes -/

/-- The plan of a quote at the present price. -/
def quotedPlan (config : Config) (side : ConversionSide) (amount : Decimal) : ConversionPlan :=
  computePlan side amount (applySpread config.mockUsdtInr side config.spreadBps) config.feeBps config.tdsBps

structure QuoteDto where
  id : QuoteId
  side : ConversionSide
  rate : Decimal
  spreadBps : ℕ
  expiresAt : Time
  inrAmount : Decimal
  usdtAmount : Decimal
  feeInr : Decimal
  tdsAmount : Decimal
  deriving DecidableEq, Repr

def toQuoteDto (id : QuoteId) (row : PriceQuote) (plan : ConversionPlan) : QuoteDto :=
  ⟨id, row.side, row.rate, row.spreadBps, row.expiresAt, plan.inrAmount, plan.usdtAmount, plan.feeInr,
    plan.tdsAmount⟩

/-- The quote is stored first; its snapshot binds the amount to it. -/
def storeQuote (config : Config) (userId : UserId) (plan : ConversionPlan) : ConversionM QuoteDto := do
  let now ← ask .now
  let (id, quote) ← ask (.createQuote
    ⟨userId, plan.side, plan.rate, config.spreadBps, now + config.quoteTtlMs⟩)
  let _ ← ask (.setSnapshot ⟨id, userId, plan⟩ config.quoteTtlMs)
  return toQuoteDto id quote plan

def createQuote (config : Config) (userId : UserId) (side : ConversionSide) (amount : Decimal) :
    ConversionM QuoteDto := do
  assertKycApproved userId
  let plan := quotedPlan config side amount
  if plan.usdtAmount ≤ 0 ∨ plan.inrAmount ≤ 0 then
    throw (.appError "Amount is too small to convert" 422 "AMOUNT_TOO_SMALL")
  else storeQuote config userId plan

/-! ## Execution -/

def economicsOf (plan : ConversionPlan) : Economics :=
  ⟨plan.side, plan.inrAmount, plan.usdtAmount, plan.rate, plan.feeInr, plan.tdsAmount⟩

structure ConversionDto where
  economics : Economics
  deriving DecidableEq, Repr

def toConversionDto (row : Conversion) : ConversionDto := ⟨row.economics⟩

/-- The posting of a conversion; its reference is the quote. -/
def settlement (userId : UserId) (quoteId : QuoteId) (plan : ConversionPlan) : LedgerPostingInput QuoteId where
  kind := LEDGER_KIND
  referenceType := some REFERENCE_TYPE
  referenceId := some quoteId
  lines := buildLines userId plan

/-- The snapshot is consumed so that it cannot be used again; a failure does not
matter. -/
def consumeSnapshot (quoteId : QuoteId) : ConversionM Unit :=
  tryCatch (do let _ ← ask (.getDelSnapshot quoteId)) fun _ => return ()

/-- The posting, the row that records it, and the end of the snapshot. -/
def settle (userId : UserId) (quoteId : QuoteId) (plan : ConversionPlan) : ConversionM ConversionDto := do
  let posted ← ask (.post (settlement userId quoteId plan))
  let conversion ← ask (.createConversion ⟨userId, quoteId, economicsOf plan, posted.id⟩)
  consumeSnapshot quoteId
  return toConversionDto conversion

/-- The execution of a quote that was not found to be converted or expired. -/
def executeSnapshot (userId : UserId) (quoteId : QuoteId) : ConversionM ConversionDto := do
  let raw ← ask (.getSnapshot quoteId)
  match raw with
  | none => throw (.appError "Quote has expired" 422 "QUOTE_EXPIRED")
  | some snapshot =>
    if snapshot.userId ≠ userId then throw (.notFoundError "Quote not found" "QUOTE_NOT_FOUND")
    else
      let plan := snapshot.plan
      -- System accounts can go negative in the ledger, so this is checked here.
      let liquidity ← ask (.systemAccountBalance .liquidity plan.liquidityAsset)
      if liquidity < plan.liquidityNeed then
        throw (.appError "Insufficient treasury liquidity for this conversion" 503 "INSUFFICIENT_LIQUIDITY")
      else settle userId quoteId plan

/-- A quote already converted gives the same result again. -/
def executeQuote (userId : UserId) (quoteId : QuoteId) (quote : PriceQuote) : ConversionM ConversionDto := do
  let existing ← ask (.findConversionByQuoteId quoteId)
  match existing with
  | some existing => return toConversionDto existing
  | none =>
    let now ← ask .now
    if quote.expiresAt ≤ now then throw (.appError "Quote has expired" 422 "QUOTE_EXPIRED")
    else executeSnapshot userId quoteId

def executeConversion (userId : UserId) (quoteId : QuoteId) : ConversionM ConversionDto := do
  assertKycApproved userId
  let quote ← ask (.findQuoteById quoteId)
  match quote.filter (·.userId = userId) with
  | none => throw (.notFoundError "Quote not found" "QUOTE_NOT_FOUND")
  | some quote => executeQuote userId quoteId quote

/-! ## Requests -/

inductive Request where
  | createQuote (userId : UserId) (side : ConversionSide) (amount : Decimal)
  | executeConversion (userId : UserId) (quoteId : QuoteId)

inductive Response where
  | quote (dto : QuoteDto)
  | conversion (dto : ConversionDto)
  deriving DecidableEq, Repr

def Request.program (config : Config) : Request → ConversionM Response
  | .createQuote userId side amount => do
    let dto ← Service.createQuote config userId side amount
    return .quote dto
  | .executeConversion userId quoteId => do
    let dto ← Service.executeConversion userId quoteId
    return .conversion dto

/-- The request of each number. -/
def IsRequest (config : Config) (requests : ℕ → Request) (pid : ℕ) (program : ConversionM Response) : Prop :=
  program = (requests pid).program config

end Exchange.Conversions.Service
