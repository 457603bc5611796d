import Exchange.DepositRepository

/-! The INR-deposit service. A gateway deposit is credited when the gateway's
webhook says that the payment was captured; a manual deposit when an admin, or
two for large amounts, approves it. The credit is one ledger posting by the
deposit's id, and the row follows. -/
namespace Exchange.Deposits
open Ledger

/-- The bounds of a deposit, the threshold for a second approval, and the
gateway's secrets with the two hash functions of `node:crypto`. -/
structure Config where
  depositMin : Decimal
  depositMax : Decimal
  dualApprovalThreshold : Decimal
  keySecret : String
  webhookSecret : String
  /-- Lowercase hex HMAC-SHA256 of a payload, keyed by a secret. -/
  hmacSha256Hex : String → String → String
  sha256Hex : String → String

/-- A validated amount: positive, with at most 2 decimal places. -/
structure CreateDepositInput where
  amount : Decimal
  valid : 0 < amount ∧ SignificantDigits.OnGrid 2 amount

structure CreateManualDepositInput extends CreateDepositInput where
  utr : String
  method : String
  proofKey : Option String

structure VerifyPaymentInput where
  orderId : String
  paymentId : String
  signature : String
  deriving DecidableEq, Repr

/-- A parsed JSON document; an object has one value for each key. -/
inductive Json where
  | null
  | bool (value : Bool)
  | num (value : ℚ)
  | str (value : String)
  | arr (items : List Json)
  | obj (fields : List (String × Json))

/-- `value?.name`. -/
def Json.get? (name : String) : Json → Option Json
  | .obj fields => (fields.find? fun (key, _) => key = name).map Prod.snd
  | _ => none

def Json.string? : Json → Option String
  | .str value => some value
  | _ => none

def Json.number? : Json → Option ℚ
  | .num value => some value
  | _ => none

/-- Normalized payment entity extracted from a webhook payload. -/
structure ParsedPayment where
  paymentId : String
  orderId : String
  amountPaise : ℚ
  deriving DecidableEq, Repr

structure WebhookInput where
  rawBody : Option String
  signature : Option String
  eventId : Option String
  body : Json

structure WebhookResult where
  duplicate : Bool
  status : Option String
  deriving DecidableEq, Repr

namespace Service

/-! ## Signatures -/

def isHex (text : String) : Bool :=
  text ≠ "" && text.toList.all fun c =>
    ('0' ≤ c && c ≤ '9') || ('a' ≤ c && c ≤ 'f') || ('A' ≤ c && c ≤ 'F')

/-- Equality of the bytes that two hex strings spell. -/
def safeEqualHex (a b : String) : Bool :=
  let bytes (text : String) : List Char := (text.toLower.toList).take (text.length / 2 * 2)
  a.length = b.length && isHex a && isHex b && bytes a = bytes b

def verifyPaymentSignature (config : Config) (input : VerifyPaymentInput) : Bool :=
  let orderId := input.orderId
  let paymentId := input.paymentId
  safeEqualHex (config.hmacSha256Hex s!"{orderId}|{paymentId}" config.keySecret) input.signature

def verifyWebhookSignature (config : Config) (rawBody signature : String) : Bool :=
  safeEqualHex (config.hmacSha256Hex rawBody config.webhookSecret) signature

/-! ## Amounts -/

/-- `toNumber()` of a whole number: the nearest double, ties to even. -/
def toNumber (n : ℕ) : ℕ :=
  let unit := 2 ^ (Nat.log2 n - 52)
  let below := n / unit
  let rest := n % unit
  if 2 * rest < unit ∨ 2 * rest = unit ∧ below % 2 = 0 then below * unit else (below + 1) * unit

/-- Whole paise of an amount that is not negative. -/
def rupeesToPaise (amount : Decimal) : Except Failure ℕ :=
  let paise := amount.mul 100
  if paise.den = 1 then .ok (toNumber paise.num.toNat)
  else .error (.error "INR amount has sub-paise precision")

/-- `toFixed(2)` as text, of an amount that is not negative. -/
def twoPlaces (amount : Decimal) : String :=
  let paise := (SignificantDigits.halfUp (amount * 100)).toNat
  let rupees := paise / 100
  let tens := paise % 100 / 10
  let ones := paise % 10
  s!"{rupees}.{tens}{ones}"

/-! ## Ledger movements -/

def REFERENCE_TYPE : String := "inr_transaction"

/-- A credit of a deposit's amount: a clearing account → user available INR. -/
def creditPosting (kind : String) (clearing : AccountKind) (deposit : InrTransaction) :
    LedgerPostingInput ℕ where
  kind
  referenceType := some REFERENCE_TYPE
  referenceId := some deposit.id
  lines := [⟨none, clearing, INR, .debit, deposit.amount.toFixed 2⟩,
    ⟨some deposit.userId, .userAvailable, INR, .credit, deposit.amount.toFixed 2⟩]

def gatewayCredit (deposit : InrTransaction) : LedgerPostingInput ℕ :=
  creditPosting "INR_DEPOSIT" .gatewayClearing deposit

def manualCredit (deposit : InrTransaction) : LedgerPostingInput ℕ :=
  creditPosting "INR_DEPOSIT_MANUAL" .manualBankClearing deposit

/-! ## Gateway deposits -/

/-- Account state and KYC. -/
def assertMayDeposit (userId : UserId) : DepositM Unit := do
  let found ← ask (.findUserKyc userId)
  match found with
  | none => throw (.notFoundError "User not found")
  | some user =>
    if user.status ≠ .active then
      throw (.forbiddenError "Account is not active" "ACCOUNT_INACTIVE")
    if user.kycStatus ≠ .approved ∨ user.kycTier < 1 then
      throw (.forbiddenError "KYC approval is required to deposit INR" "KYC_REQUIRED")

/-- The bounds and the precision of an amount; answers with its paise. -/
def assertAmount (config : Config) (amount : Decimal) : Except Failure ℕ :=
  if amount < config.depositMin then
    .error (.appError s!"Deposit is below the minimum of {twoPlaces config.depositMin} INR" 422
      "AMOUNT_BELOW_MINIMUM")
  else if config.depositMax < amount then
    .error (.appError s!"Deposit exceeds the maximum of {twoPlaces config.depositMax} INR" 422
      "LIMIT_EXCEEDED")
  else rupeesToPaise amount

/-- `id` is the uuid drawn for the deposit. -/
def createDeposit (config : Config) (id : DepositId) (userId : UserId) (input : CreateDepositInput) :
    DepositM InrTransaction := do
  assertMayDeposit userId
  match assertAmount config input.amount with
  | .error failure => throw failure
  | .ok amountPaise => do
    let order ← ask (.createOrder amountPaise id)
    ask (.create ⟨userId, input.amount, .initiated, RAZORPAY_PROVIDER_ID, some order, none, none, none⟩)

def verifyPayment (config : Config) (userId : UserId) (input : VerifyPaymentInput) :
    DepositM InrTransaction := do
  let found ← ask (.findDepositByOrderId RAZORPAY_PROVIDER_ID input.orderId)
  match found with
  | none => throw (.notFoundError "Deposit not found")
  | some deposit =>
    if deposit.userId ≠ userId then throw (.notFoundError "Deposit not found")
    if !verifyPaymentSignature config input then
      throw (.appError "Razorpay payment signature is invalid" 400 "INVALID_SIGNATURE")
    if deposit.status = .initiated then
      ask (.update deposit.id (.attachPayment input.paymentId .pending))
    else return deposit

/-! ## Webhooks -/

def parsePaymentEntity (payload : Option Json) : Option ParsedPayment := do
  let payload ← payload
  let payment ← payload.get? "payment"
  let entity ← payment.get? "entity"
  let paymentId ← (entity.get? "id").bind Json.string?
  let orderId ← (entity.get? "order_id").bind Json.string?
  let amount ← (entity.get? "amount").bind Json.number?
  return ⟨paymentId, orderId, amount⟩

def UNKNOWN_ORDER : String := "UNKNOWN_ORDER"

def settleCapturedPayment (payment : ParsedPayment) : DepositM String := do
  let found ← ask (.findDepositByOrderId RAZORPAY_PROVIDER_ID payment.orderId)
  match found with
  | none => return UNKNOWN_ORDER
  | some deposit =>
    if deposit.status = .success then return deposit.status.text
    if deposit.status = .failed ∨ deposit.status = .reversed then return deposit.status.text
    match rupeesToPaise (deposit.amount.toFixed 2) with
    | .error failure => throw failure
    | .ok expectedPaise =>
      if payment.amountPaise ≠ expectedPaise then
        let _ ← ask (.update deposit.id (.markFailed payment.paymentId "amount_mismatch"))
        return "FAILED"
      let posted ← ask (.post (gatewayCredit deposit))
      let credited ← ask (.update deposit.id (.markCredited payment.paymentId posted.id))
      return credited.status.text

def markPaymentFailed (payment : ParsedPayment) : DepositM String := do
  let found ← ask (.findDepositByOrderId RAZORPAY_PROVIDER_ID payment.orderId)
  match found with
  | none => return UNKNOWN_ORDER
  | some deposit =>
    if deposit.status = .success then return deposit.status.text
    let failed ← ask (.update deposit.id (.markFailed payment.paymentId "payment_failed"))
    return failed.status.text

/-- `instanceof Prisma.PrismaClientKnownRequestError` with code P2002. -/
def isUniqueViolation (failure : Failure) : Bool := failure = .uniqueViolation

/-- Whether the event is new; an event that is there already is read back. -/
def recordWebhookEvent (event : PaymentWebhookEvent) : DepositM Bool :=
  tryCatch
    (do
      let _ ← ask (.createWebhookEvent event)
      return true)
    fun failure => do
      if isUniqueViolation failure then
        let _ ← ask (.findWebhookEvent event.provider event.providerEventId)
        return false
      throw failure

def PAYMENT_CAPTURED : String := "payment.captured"

def PAYMENT_FAILED : String := "payment.failed"

def ORDER_PAID : String := "order.paid"

/-- `payload.event`, if it is a string. -/
def eventType (body : Json) : String := ((body.get? "event").bind Json.string?).getD "unknown"

/-- The delivery's id, or one made from the body. -/
def providerEventId (config : Config) (input : WebhookInput) (rawBody : String) : String :=
  input.eventId.getD ("body:" ++ String.ofList ((config.sha256Hex rawBody).toList.take 32))

/-- What is done about an event: nothing, for a type that is not known. -/
def processEvent (body : Json) : DepositM (Option String) :=
  if eventType body = PAYMENT_CAPTURED ∨ eventType body = ORDER_PAID then
    match parsePaymentEntity (body.get? "payload") with
    | some payment => do
      let status ← settleCapturedPayment payment
      return some status
    | none => return none
  else if eventType body = PAYMENT_FAILED then
    match parsePaymentEntity (body.get? "payload") with
    | some payment => do
      let status ← markPaymentFailed payment
      return some status
    | none => return none
  else return none

def handleWebhook (config : Config) (input : WebhookInput) : DepositM WebhookResult := do
  match input.rawBody.filter (· ≠ ""), input.signature.filter (· ≠ "") with
  | none, _ => throw (.badRequestError "Missing webhook body")
  | some _, none => throw (.badRequestError "Missing X-Razorpay-Signature header")
  | some rawBody, some signature =>
    let signatureOk := verifyWebhookSignature config rawBody signature
    let created ← recordWebhookEvent
      ⟨RAZORPAY_PROVIDER_ID, providerEventId config input rawBody, eventType input.body, signatureOk⟩
    if !signatureOk then
      throw (.appError "Razorpay webhook signature is invalid" 400 "INVALID_WEBHOOK_SIGNATURE")
    if !created then return ⟨true, none⟩
    let status ← processEvent input.body
    return ⟨false, status⟩

/-! ## Manual deposits -/

/-- The unique (provider, utr) index is the duplicate-submission guard. -/
def createManualDeposit (config : Config) (userId : UserId) (input : CreateManualDepositInput) :
    DepositM InrTransaction := do
  assertMayDeposit userId
  match assertAmount config input.amount with
  | .error failure => throw failure
  | .ok _ =>
    tryCatch (ask (.create ⟨userId, input.amount, .pending, MANUAL_PROVIDER, none, some input.utr,
        some input.method, input.proofKey⟩))
      fun failure => throw (if isUniqueViolation failure then
        .conflictError "This UTR/reference has already been submitted" "DUPLICATE_UTR" else failure)

def adminRequired : Failure := .forbiddenError "Admin context required" "FORBIDDEN"

def notFound : Failure := .notFoundError "Manual deposit not found"

/-- The manual deposit an admin decides on. -/
def findManualDeposit (id : DepositId) : DepositM InrTransaction := do
  let found ← ask (.findById id)
  match found.filter fun row => row.type = .deposit && row.provider = some MANUAL_PROVIDER with
  | none => throw notFound
  | some deposit => return deposit

/-- A conditional update with the row as it is then, and the admin's entry in
`admin_logs` if it changed the row. -/
def applyChange (id : DepositId) (change : Change) (actorId : AdminId) (action : String) :
    DepositM InrTransaction := do
  let count ← ask (.updateMany id change)
  let found ← ask (.findById id)
  match found with
  | none => throw notFound
  | some row =>
    if count = 1 then ask (.writeAdminLog actorId action id)
    return row

/-- Deposits at/above the threshold need two different admins. -/
def requiresDual (config : Config) (deposit : InrTransaction) : Bool :=
  config.dualApprovalThreshold ≤ deposit.amount

def approveManualDeposit (config : Config) (id : DepositId) (actorId : Option AdminId) :
    DepositM InrTransaction := do
  match actorId with
  | none => throw adminRequired
  | some adminId =>
    let deposit ← findManualDeposit id
    if deposit.status = .success then return deposit
    if deposit.status ≠ .pending then
      throw (.conflictError
        s!"Manual deposit cannot be approved from status {deposit.status.text}" "INVALID_STATE")
    if requiresDual config deposit && deposit.firstApprovedBy.isNone then
      applyChange deposit.id (.markFirstApproval adminId) adminId "inr.deposit.manual_first_approved"
    else if requiresDual config deposit && deposit.firstApprovedBy = some adminId then
      throw (.forbiddenError "A second, different admin must approve this deposit" "SAME_APPROVER")
    else
      let posted ← ask (.post (manualCredit deposit))
      applyChange deposit.id (.markManualApproved adminId posted.id) adminId
        (if requiresDual config deposit then "inr.deposit.manual_second_approved"
          else "inr.deposit.manual_approved")

def rejectManualDeposit (id : DepositId) (reason : Option String) (actorId : Option AdminId) :
    DepositM InrTransaction := do
  match actorId with
  | none => throw adminRequired
  | some adminId =>
    let deposit ← findManualDeposit id
    if deposit.status = .success then
      throw (.conflictError "A credited deposit cannot be rejected" "ALREADY_CREDITED")
    if deposit.status = .failed then return deposit
    if deposit.status ≠ .pending then
      throw (.conflictError
        s!"Manual deposit cannot be rejected from status {deposit.status.text}" "INVALID_STATE")
    applyChange deposit.id (.markManualRejected adminId reason) adminId "inr.deposit.manual_rejected"

/-! ## Requests -/

inductive Request where
  | createDeposit (userId : UserId) (input : CreateDepositInput)
  | verifyPayment (userId : UserId) (input : VerifyPaymentInput)
  | handleWebhook (input : WebhookInput)
  | settleCapturedPayment (payment : ParsedPayment)
  | markPaymentFailed (payment : ParsedPayment)
  | createManualDeposit (userId : UserId) (input : CreateManualDepositInput)
  | approveManualDeposit (id : DepositId) (actorId : Option AdminId)
  | rejectManualDeposit (id : DepositId) (reason : Option String) (actorId : Option AdminId)

/-- What a request answers. -/
inductive Response where
  | deposit (row : InrTransaction)
  | status (text : String)
  | webhook (result : WebhookResult)
  deriving DecidableEq, Repr

def Request.program (config : Config) (pid : DepositId) : Request → DepositM Response
  | .createDeposit userId input => do
    let row ← Service.createDeposit config pid userId input
    return .deposit row
  | .verifyPayment userId input => do
    let row ← Service.verifyPayment config userId input
    return .deposit row
  | .handleWebhook input => do
    let result ← Service.handleWebhook config input
    return .webhook result
  | .settleCapturedPayment payment => do
    let text ← Service.settleCapturedPayment payment
    return .status text
  | .markPaymentFailed payment => do
    let text ← Service.markPaymentFailed payment
    return .status text
  | .createManualDeposit userId input => do
    let row ← Service.createManualDeposit config userId input
    return .deposit row
  | .approveManualDeposit id actorId => do
    let row ← Service.approveManualDeposit config id actorId
    return .deposit row
  | .rejectManualDeposit id reason actorId => do
    let row ← Service.rejectManualDeposit id reason actorId
    return .deposit row

/-- The request of each number. -/
def IsRequest (config : Config) (requests : DepositId → Request) (pid : DepositId)
    (program : DepositM Response) : Prop :=
  program = (requests pid).program config pid

end Exchange.Deposits.Service
