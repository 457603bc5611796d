import Exchange.AsyncDatabase
import Exchange.Ledger
import Exchange.Users

/-! The table of INR withdrawals and the calls their service awaits. Status
changes are conditional updates of one row. A request's number stands for the
uuid of the withdrawal it creates. -/
namespace Exchange.InrWithdrawals
open Ledger

/-- The uuid of a withdrawal. -/
abbrev WithdrawalId := ℕ

abbrev AdminId := ℕ

def INR : String := "INR"

inductive InrWithdrawalStatus where
  | pending
  | approved
  | rejected
  | paid
  | failed
  deriving DecidableEq, Repr

/-- A status as the source spells it. -/
def InrWithdrawalStatus.text : InrWithdrawalStatus → String
  | .pending => "PENDING"
  | .approved => "APPROVED"
  | .rejected => "REJECTED"
  | .paid => "PAID"
  | .failed => "FAILED"

structure UserState where
  status : UserStatus
  kycStatus : KycStatus
  kycTier : ℤ
  withdrawalsBlocked : Bool
  deriving DecidableEq, Repr

structure InrWithdrawal where
  id : WithdrawalId
  userId : UserId
  amount : Decimal
  status : InrWithdrawalStatus
  lockLedgerTxnId : Option ℕ
  finalLedgerTxnId : Option ℕ
  approvedBy : Option AdminId
  reviewedBy : Option AdminId
  paidBy : Option AdminId
  utr : Option String
  adminNote : Option String
  rejectionReason : Option String
  deriving DecidableEq, Repr

structure NewWithdrawal where
  userId : UserId
  amount : Decimal
  deriving DecidableEq, Repr

structure PaidData where
  paidBy : AdminId
  utr : String
  finalLedgerTxnId : ℕ
  note : Option String
  deriving DecidableEq, Repr

structure Store where
  users : UserId → Option UserState
  withdrawals : Table WithdrawalId InrWithdrawal
  ledger : Ledger.Store ℕ

/-! ## Conditional updates -/

/-- What an update sets, and on which rows. -/
structure Update where
  applies : InrWithdrawal → Bool
  set : InrWithdrawal → InrWithdrawal

/-- PENDING -> APPROVED. -/
def approve (approvedBy : AdminId) : Update where
  applies row := row.status = .pending
  set row := { row with status := .approved, approvedBy := some approvedBy }

/-- {PENDING, APPROVED} -> REJECTED. -/
def reject (reviewedBy : AdminId) (reason : String) : Update where
  applies row := row.status ∈ [.pending, .approved]
  set row := { row with
    status := .rejected, reviewedBy := some reviewedBy, rejectionReason := some reason }

/-- APPROVED -> PAID; an empty note is no note. -/
def markPaid (data : PaidData) : Update where
  applies row := row.status = .approved
  set row := { row with
    status := .paid, paidBy := some data.paidBy, utr := some data.utr,
    finalLedgerTxnId := some data.finalLedgerTxnId,
    adminNote := if data.note.all fun note => note = "" then row.adminNote else data.note }

/-- The updates by name. -/
inductive Change where
  | approve (approvedBy : AdminId)
  | reject (reviewedBy : AdminId) (reason : String)
  | markPaid (data : PaidData)
  deriving DecidableEq, Repr

def Change.update : Change → Update
  | .approve approvedBy => InrWithdrawals.approve approvedBy
  | .reject reviewedBy reason => InrWithdrawals.reject reviewedBy reason
  | .markPaid data => InrWithdrawals.markPaid data

/-! ## Calls -/

inductive WithdrawalCall where
  | findUserState (userId : UserId)
  /-- The available balance of `ledgerService.getInrWallet`. -/
  | getInrWallet (userId : UserId)
  | create (data : NewWithdrawal)
  | findById (id : WithdrawalId)
  | setLockTxn (id : WithdrawalId) (lockLedgerTxnId : ℕ)
  | deleteIfPending (id : WithdrawalId)
  /-- `updateMany`: answers with the number of rows. -/
  | updateMany (id : WithdrawalId) (change : Change)
  | post (input : LedgerPostingInput ℕ)
  | writeAdminLog (adminId : AdminId) (action : String) (targetId : WithdrawalId)
  deriving DecidableEq, Repr

abbrev WithdrawalCall.Reply : WithdrawalCall → Type
  | .findUserState _ => Option UserState
  | .getInrWallet _ => Decimal
  | .create _ => InrWithdrawal
  | .findById _ => Option InrWithdrawal
  | .setLockTxn _ _ => InrWithdrawal
  | .deleteIfPending _ => Unit
  | .updateMany _ _ => ℕ
  | .post _ => LedgerTransaction ℕ
  | .writeAdminLog _ _ _ => Unit

/-- Storing an amount into `DECIMAL(20,2)`. -/
def storeAmount (amount : Decimal) : Except Failure Decimal :=
  let rounded := Decimal.toFixed 2 amount
  if |rounded| < 10 ^ 18 then .ok rounded else .error (.database "numeric field overflow")

def create (id : WithdrawalId) (data : NewWithdrawal) (s : Store) :
    Except Failure (InrWithdrawal × Store) := do
  let amount ← storeAmount data.amount
  let row : InrWithdrawal :=
    ⟨id, data.userId, amount, .pending, none, none, none, none, none, none, none, none⟩
  if (s.withdrawals.lookup id).isSome then .error .uniqueViolation
  else .ok (row, { s with withdrawals := s.withdrawals.insert id row })

/-- Bind the reserve (lock) ledger txn after a successful posting. -/
def setLockTxn (id : WithdrawalId) (lockLedgerTxnId : ℕ) (s : Store) :
    Except Failure (InrWithdrawal × Store) :=
  match s.withdrawals.lookup id with
  | none => .error (.prisma "P2025")
  | some row =>
    let bound := { row with lockLedgerTxnId := some lockLedgerTxnId }
    .ok (bound, { s with withdrawals := s.withdrawals.insert id bound })

/-- Roll back a freshly-created PENDING row whose reserve posting failed. -/
def deleteIfPending (id : WithdrawalId) (s : Store) : Store :=
  match (s.withdrawals.lookup id).filter fun row => row.status = .pending with
  | none => s
  | some _ => { s with withdrawals := s.withdrawals.erase id }

def updateMany (id : WithdrawalId) (change : Change) (s : Store) : ℕ × Store :=
  match (s.withdrawals.lookup id).filter change.update.applies with
  | none => (0, s)
  | some row => (1, { s with withdrawals := s.withdrawals.insert id (change.update.set row) })

def getInrWallet (s : Store) (userId : UserId) : Decimal :=
  projectionForAccount s.ledger ⟨some userId, citext INR, .userAvailable⟩

/-- What a call of request `pid` does. -/
def perform (_ : Unit) (pid : WithdrawalId) :
    (call : WithdrawalCall) → Store → Except Failure call.Reply × Store
  | .findUserState userId, s => (.ok (s.users userId), s)
  | .getInrWallet userId, s => (.ok (getInrWallet s userId), s)
  | .create data, s => Database.written s (create pid data s)
  | .findById id, s => (.ok (s.withdrawals.lookup id), s)
  | .setLockTxn id lockLedgerTxnId, s => Database.written s (setLockTxn id lockLedgerTxnId s)
  | .deleteIfPending id, s => (.ok (), deleteIfPending id s)
  | .updateMany id change, s =>
    let (count, s') := updateMany id change s
    (.ok count, s')
  | .post input, s =>
    let (outcome, ledger) := Ledger.post input s.ledger
    (outcome, { s with ledger })
  | .writeAdminLog _ _ _, s => (.ok (), s)

/-- A call as a request may see it. -/
abbrev Makes (pid : WithdrawalId) (call : WithdrawalCall) (s : Store)
    (reply : Except Failure call.Reply) (s' : Store) : Prop :=
  Database.Makes perform pid call s reply s'

abbrev WithdrawalM := Async WithdrawalCall WithdrawalCall.Reply Failure

abbrev ask (call : WithdrawalCall) : WithdrawalM call.Reply := Async.call call

end Exchange.InrWithdrawals
