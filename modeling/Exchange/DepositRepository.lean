import Exchange.AsyncDatabase
import Exchange.Ledger
import Exchange.Users

/-! The tables of INR deposits and of the gateway's webhook events, and the
calls the deposit service awaits. A request's number stands for the uuid of the
deposit it creates. -/
namespace Exchange.Deposits
open Ledger

/-- The uuid of a deposit. -/
abbrev DepositId := ℕ

abbrev AdminId := ℕ

def INR : String := "INR"

def RAZORPAY_PROVIDER_ID : String := "razorpay"

/-- Provider tag for manually-submitted (non-gateway) INR deposits. -/
def MANUAL_PROVIDER : String := "MANUAL"

inductive InrTxnType where
  | deposit
  | withdrawal
  deriving DecidableEq, Repr

inductive InrTxnStatus where
  | initiated
  | pending
  | success
  | failed
  | reversed
  deriving DecidableEq, Repr

/-- A status as the source spells it. -/
def InrTxnStatus.text : InrTxnStatus → String
  | .initiated => "INITIATED"
  | .pending => "PENDING"
  | .success => "SUCCESS"
  | .failed => "FAILED"
  | .reversed => "REVERSED"

structure UserKyc where
  status : UserStatus
  kycStatus : KycStatus
  kycTier : ℤ
  deriving DecidableEq, Repr

structure InrTransaction where
  id : DepositId
  userId : UserId
  type : InrTxnType
  amount : Decimal
  status : InrTxnStatus
  provider : Option String
  providerOrderId : Option String
  providerPaymentId : Option String
  ledgerTxnId : Option ℕ
  utr : Option String
  method : Option String
  proofKey : Option String
  firstApprovedBy : Option AdminId
  reviewedBy : Option AdminId
  rejectionReason : Option String
  /-- `metadata.failureReason`. -/
  failureReason : Option String
  deriving DecidableEq, Repr

/-- What a new row says; the rest is empty. -/
structure NewDeposit where
  userId : UserId
  amount : Decimal
  status : InrTxnStatus
  provider : String
  providerOrderId : Option String
  utr : Option String
  method : Option String
  proofKey : Option String
  deriving DecidableEq, Repr

structure PaymentWebhookEvent where
  provider : String
  providerEventId : String
  eventType : String
  signatureOk : Bool
  deriving DecidableEq, Repr

structure Store where
  users : UserId → Option UserKyc
  deposits : Table DepositId InrTransaction
  events : List PaymentWebhookEvent
  ledger : Ledger.Store ℕ

/-! ## Updates of one row -/

/-- What an update sets, and on which rows. -/
structure Update where
  applies : InrTransaction → Bool
  set : InrTransaction → InrTransaction

/-- Record the verified payment id and advance status (no credit yet). -/
def attachPayment (providerPaymentId : String) (status : InrTxnStatus) : Update where
  applies _ := true
  set row := { row with providerPaymentId := some providerPaymentId, status }

/-- SUCCESS + the ledger txn that did the crediting + the settling payment id. -/
def markCredited (providerPaymentId : String) (ledgerTxnId : ℕ) : Update where
  applies _ := true
  set row := { row with
    status := .success, providerPaymentId := some providerPaymentId, ledgerTxnId := some ledgerTxnId }

/-- An empty payment id is none. -/
def markFailed (providerPaymentId reason : String) : Update where
  applies _ := true
  set row := { row with
    status := .failed, failureReason := some reason,
    providerPaymentId :=
      if providerPaymentId = "" then row.providerPaymentId else some providerPaymentId }

/-- Flip a manual deposit PENDING → SUCCESS and bind the crediting ledger txn. -/
def markManualApproved (reviewedBy : AdminId) (ledgerTxnId : ℕ) : Update where
  applies row := row.status = .pending
  set row := { row with
    status := .success, reviewedBy := some reviewedBy, ledgerTxnId := some ledgerTxnId }

/-- Record the FIRST approval of a dual-approval deposit. -/
def markFirstApproval (firstApprovedBy : AdminId) : Update where
  applies row := row.status = .pending && row.firstApprovedBy = none
  set row := { row with firstApprovedBy := some firstApprovedBy }

/-- Reject a manual deposit PENDING → FAILED with a reason. -/
def markManualRejected (reviewedBy : AdminId) (reason : Option String) : Update where
  applies row := row.status = .pending
  set row := { row with
    status := .failed, reviewedBy := some reviewedBy,
    -- an undefined reason leaves the column
    rejectionReason := if reason.isNone then row.rejectionReason else reason }

/-- The updates by name. -/
inductive Change where
  | attachPayment (providerPaymentId : String) (status : InrTxnStatus)
  | markCredited (providerPaymentId : String) (ledgerTxnId : ℕ)
  | markFailed (providerPaymentId reason : String)
  | markManualApproved (reviewedBy : AdminId) (ledgerTxnId : ℕ)
  | markFirstApproval (firstApprovedBy : AdminId)
  | markManualRejected (reviewedBy : AdminId) (reason : Option String)
  deriving DecidableEq, Repr

def Change.update : Change → Update
  | .attachPayment providerPaymentId status => Deposits.attachPayment providerPaymentId status
  | .markCredited providerPaymentId ledgerTxnId => Deposits.markCredited providerPaymentId ledgerTxnId
  | .markFailed providerPaymentId reason => Deposits.markFailed providerPaymentId reason
  | .markManualApproved reviewedBy ledgerTxnId => Deposits.markManualApproved reviewedBy ledgerTxnId
  | .markFirstApproval firstApprovedBy => Deposits.markFirstApproval firstApprovedBy
  | .markManualRejected reviewedBy reason => Deposits.markManualRejected reviewedBy reason

/-! ## Calls -/

inductive DepositCall where
  | findUserKyc (userId : UserId)
  /-- `provider.createOrder`: answers with the id of the order. -/
  | createOrder (amountPaise : ℕ) (receipt : DepositId)
  | create (data : NewDeposit)
  | findById (id : DepositId)
  | findDepositByOrderId (provider providerOrderId : String)
  /-- `update`: a missing row throws. -/
  | update (id : DepositId) (change : Change)
  /-- `updateMany`: answers with the number of rows. -/
  | updateMany (id : DepositId) (change : Change)
  | createWebhookEvent (event : PaymentWebhookEvent)
  | findWebhookEvent (provider providerEventId : String)
  | post (input : LedgerPostingInput ℕ)
  | writeAdminLog (adminId : AdminId) (action : String) (targetId : DepositId)
  deriving DecidableEq, Repr

abbrev DepositCall.Reply : DepositCall → Type
  | .findUserKyc _ => Option UserKyc
  | .createOrder _ _ => String
  | .create _ => InrTransaction
  | .findById _ => Option InrTransaction
  | .findDepositByOrderId _ _ => Option InrTransaction
  | .update _ _ => InrTransaction
  | .updateMany _ _ => ℕ
  | .createWebhookEvent _ => PaymentWebhookEvent
  | .findWebhookEvent _ _ => PaymentWebhookEvent
  | .post _ => LedgerTransaction ℕ
  | .writeAdminLog _ _ _ => Unit

/-- The gateway's answer to a new order, and the row `findFirst` takes when
several match. -/
structure World where
  createOrder : ℕ → DepositId → Except Failure String
  findFirst : ℕ

/-! ## Queries -/

/-- The deposits of a gateway order. -/
def depositsOfOrder (s : Store) (provider providerOrderId : String) : List InrTransaction :=
  (s.deposits.rows.map Prod.snd).filter fun row =>
    row.provider = some provider && row.providerOrderId = some providerOrderId && row.type = .deposit

/-- `findFirst` without an order takes any of the rows that match. -/
def findDepositByOrderId (s : Store) (pick : ℕ) (provider providerOrderId : String) :
    Option InrTransaction :=
  let rows := depositsOfOrder s provider providerOrderId
  rows[pick % rows.length]?

def findWebhookEvent (s : Store) (provider providerEventId : String) : Option PaymentWebhookEvent :=
  s.events.find? fun event => event.provider = provider && event.providerEventId = providerEventId

def findUniqueOrThrow (found : Option α) : Except Failure α :=
  match found with
  | none => .error (.prisma "P2025")
  | some row => .ok row

/-! ## Writes -/

/-- Storing an amount into `DECIMAL(20,2)`. -/
def storeAmount (amount : Decimal) : Except Failure Decimal :=
  let rounded := Decimal.toFixed 2 amount
  if |rounded| < 10 ^ 18 then .ok rounded else .error (.database "numeric field overflow")

/-- The unique index on a provider and a nullable column. -/
def taken (s : Store) (row : InrTransaction) (column : InrTransaction → Option String) : Bool :=
  row.provider.isSome && (column row).isSome && s.deposits.rows.any fun (id, other) =>
    id ≠ row.id && other.provider = row.provider && column other = column row

/-- Writing a row, with the checks of the schema. -/
def saveRow (row : InrTransaction) (s : Store) : Except Failure (InrTransaction × Store) :=
  if row.amount ≤ 0 then .error (.database "inr_transactions_amount_chk")
  else if taken s row InrTransaction.providerPaymentId || taken s row InrTransaction.utr then
    .error .uniqueViolation
  else .ok (row, { s with deposits := s.deposits.insert row.id row })

def create (id : DepositId) (data : NewDeposit) (s : Store) :
    Except Failure (InrTransaction × Store) := do
  let amount ← storeAmount data.amount
  if (s.deposits.lookup id).isSome then .error .uniqueViolation
  else saveRow ⟨id, data.userId, .deposit, amount, data.status, some data.provider,
    data.providerOrderId, none, none, data.utr, data.method, data.proofKey, none, none, none, none⟩ s

def update (id : DepositId) (change : Change) (s : Store) : Except Failure (InrTransaction × Store) :=
  match s.deposits.lookup id with
  | none => .error (.prisma "P2025")
  | some row => saveRow (change.update.set row) s

def updateMany (id : DepositId) (change : Change) (s : Store) : Except Failure (ℕ × Store) :=
  match (s.deposits.lookup id).filter change.update.applies with
  | none => .ok (0, s)
  | some row => (saveRow (change.update.set row) s).map fun (_, s') => (1, s')

/-- A second event with the same id violates the unique index. -/
def createWebhookEvent (event : PaymentWebhookEvent) (s : Store) :
    Except Failure (PaymentWebhookEvent × Store) :=
  if (findWebhookEvent s event.provider event.providerEventId).isSome then .error .uniqueViolation
  else .ok (event, { s with events := event :: s.events })

/-- What a call of request `pid` does. -/
def perform (world : World) (pid : DepositId) :
    (call : DepositCall) → Store → Except Failure call.Reply × Store
  | .findUserKyc userId, s => (.ok (s.users userId), s)
  | .createOrder amountPaise receipt, s => (world.createOrder amountPaise receipt, s)
  | .create data, s => Database.written s (create pid data s)
  | .findById id, s => (.ok (s.deposits.lookup id), s)
  | .findDepositByOrderId provider providerOrderId, s =>
    (.ok (findDepositByOrderId s world.findFirst provider providerOrderId), s)
  | .update id change, s => Database.written s (update id change s)
  | .updateMany id change, s => Database.written s (updateMany id change s)
  | .createWebhookEvent event, s => Database.written s (createWebhookEvent event s)
  | .findWebhookEvent provider providerEventId, s =>
    (findUniqueOrThrow (findWebhookEvent s provider providerEventId), s)
  | .post input, s =>
    let (outcome, ledger) := Ledger.post input s.ledger
    (outcome, { s with ledger })
  | .writeAdminLog _ _ _, s => (.ok (), s)

/-- A call as a request may see it. -/
abbrev Makes (pid : DepositId) (call : DepositCall) (s : Store)
    (reply : Except Failure call.Reply) (s' : Store) : Prop :=
  Database.Makes perform pid call s reply s'

abbrev DepositM := Async DepositCall DepositCall.Reply Failure

abbrev ask (call : DepositCall) : DepositM call.Reply := Async.call call

end Exchange.Deposits
