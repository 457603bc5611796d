import Exchange.InrWithdrawalRepository

/-! The INR-withdrawal service: a user's request, which reserves the amount, and
the three decisions of an admin. A rejection releases the reservation, a
payment finalizes it, and each does so before it changes the row. -/
namespace Exchange.InrWithdrawals
open Ledger

/-- `config.inrOps`. -/
structure Config where
  withdrawalMin : Decimal
  withdrawalMax : Decimal

/-- The validated body of a request: a positive amount with at most 2 decimal
places. -/
structure CreateWithdrawalInput where
  amount : Decimal
  valid : 0 < amount ∧ SignificantDigits.OnGrid 2 amount

namespace Service

/-! ## Ledger movements -/

def WITHDRAWAL_REFERENCE_TYPE : String := "inr_withdrawal"

def WITHDRAWAL_RELEASE_REFERENCE_TYPE : String := "inr_withdrawal_release"

def WITHDRAWAL_PAYOUT_REFERENCE_TYPE : String := "inr_withdrawal_payout"

/-- Reserve funds: USER_AVAILABLE -> USER_LOCKED. -/
def lockPosting (id : WithdrawalId) (userId : UserId) (amount : Decimal) : LedgerPostingInput ℕ where
  kind := "INR_WITHDRAWAL_LOCK"
  referenceType := some WITHDRAWAL_REFERENCE_TYPE
  referenceId := some id
  lines := [⟨some userId, .userAvailable, INR, .debit, amount.toFixed 2⟩,
    ⟨some userId, .userLocked, INR, .credit, amount.toFixed 2⟩]

/-- Release the held funds: USER_LOCKED -> USER_AVAILABLE. -/
def releasePosting (id : WithdrawalId) (existing : InrWithdrawal) : LedgerPostingInput ℕ where
  kind := "INR_WITHDRAWAL_RELEASE"
  referenceType := some WITHDRAWAL_RELEASE_REFERENCE_TYPE
  referenceId := some id
  lines := [⟨some existing.userId, .userLocked, INR, .debit, existing.amount.toFixed 2⟩,
    ⟨some existing.userId, .userAvailable, INR, .credit, existing.amount.toFixed 2⟩]

/-- Finalize: debit the locked funds, credit the manual bank-clearing account. -/
def payoutPosting (id : WithdrawalId) (existing : InrWithdrawal) : LedgerPostingInput ℕ where
  kind := "INR_WITHDRAWAL_PAYOUT"
  referenceType := some WITHDRAWAL_PAYOUT_REFERENCE_TYPE
  referenceId := some id
  lines := [⟨some existing.userId, .userLocked, INR, .debit, existing.amount.toFixed 2⟩,
    ⟨none, .manualBankClearing, INR, .credit, existing.amount.toFixed 2⟩]

/-! ## The request -/

def insufficientBalance : Failure :=
  .conflictError "Insufficient available INR balance" "INSUFFICIENT_BALANCE"

/-- `toFixed(2)` as text, of an amount that is not negative. -/
def twoPlaces (amount : Decimal) : String :=
  let paise := (SignificantDigits.halfUp (amount * 100)).toNat
  let rupees := paise / 100
  let tens := paise % 100 / 10
  let ones := paise % 10
  s!"{rupees}.{tens}{ones}"

/-- Account state, KYC and the admin-set block. -/
def assertMayWithdraw (userId : UserId) : WithdrawalM Unit := do
  let found ← ask (.findUserState userId)
  match found with
  | none => throw (.notFoundError "User not found")
  | some user =>
    if user.status ≠ .active then
      throw (.forbiddenError "Account is not active" "ACCOUNT_INACTIVE")
    if user.kycStatus ≠ .approved ∨ user.kycTier < 1 then
      throw (.forbiddenError "KYC approval is required to withdraw INR" "KYC_REQUIRED")
    if user.withdrawalsBlocked then
      throw (.forbiddenError "Withdrawals are currently blocked for your account"
        "WITHDRAWALS_BLOCKED")

/-- The bounds and the precision of an amount. -/
def assertAmount (config : Config) (amount : Decimal) : Except Failure Unit :=
  if amount < config.withdrawalMin then
    .error (.appError s!"Withdrawal is below the minimum of {twoPlaces config.withdrawalMin} INR" 422
      "AMOUNT_BELOW_MINIMUM")
  else if config.withdrawalMax < amount then
    .error (.appError s!"Withdrawal exceeds the maximum of {twoPlaces config.withdrawalMax} INR" 422
      "LIMIT_EXCEEDED")
  else if (amount.mul 100).den ≠ 1 then
    .error (.badRequestError "INR amount has sub-paise precision")
  else .ok ()

/-- Friendly pre-check; a wallet that cannot be read counts as empty. -/
def assertAvailable (userId : UserId) (amount : Decimal) : WithdrawalM Unit := do
  let available ← tryCatch (ask (.getInrWallet userId)) fun _ => return 0
  if available < amount then throw insufficientBalance

/-- Reserve funds for a new row; a row without a reservation is rolled back. -/
def reserve (id : WithdrawalId) (userId : UserId) (amount : Decimal) : WithdrawalM InrWithdrawal := do
  let lockTxnId ← tryCatch
    (do
      let posted ← ask (.post (lockPosting id userId amount))
      return posted.id)
    fun failure => do
      ask (.deleteIfPending id)
      if failure.isConflictError then throw failure
      throw insufficientBalance
  ask (.setLockTxn id lockTxnId)

/-- `id` is the uuid drawn for the withdrawal. -/
def requestWithdrawal (config : Config) (id : WithdrawalId) (userId : UserId)
    (input : CreateWithdrawalInput) : WithdrawalM InrWithdrawal := do
  assertMayWithdraw userId
  match assertAmount config input.amount with
  | .error failure => throw failure
  | .ok () => do
    assertAvailable userId input.amount
    let _ ← ask (.create ⟨userId, input.amount⟩)
    reserve id userId input.amount

/-! ## Admin decisions -/

def adminRequired : Failure := .forbiddenError "Admin context required" "FORBIDDEN"

def notFound : Failure := .notFoundError "Withdrawal not found"

/-- A conditional update with the row as it is then, and the admin's entry in
`admin_logs` if it changed the row. -/
def applyChange (id : WithdrawalId) (change : Change) (actorId : AdminId) (action : String) :
    WithdrawalM InrWithdrawal := do
  let count ← ask (.updateMany id change)
  let found ← ask (.findById id)
  match found with
  | none => throw notFound
  | some row =>
    if count = 1 then ask (.writeAdminLog actorId action id)
    return row

def approve (id : WithdrawalId) (actorId : Option AdminId) : WithdrawalM InrWithdrawal := do
  match actorId with
  | none => throw adminRequired
  | some adminId =>
    let found ← ask (.findById id)
    match found with
    | none => throw notFound
    | some existing =>
      if existing.status = .approved then return existing
      if existing.status ≠ .pending then
        throw (.conflictError s!"Withdrawal cannot be approved from status {existing.status.text}"
          "INVALID_STATE")
      applyChange id (.approve adminId) adminId "inr.withdrawal.approved"

def reject (id : WithdrawalId) (reason : String) (actorId : Option AdminId) :
    WithdrawalM InrWithdrawal := do
  match actorId with
  | none => throw adminRequired
  | some adminId =>
    let found ← ask (.findById id)
    match found with
    | none => throw notFound
    | some existing =>
      if existing.status = .rejected then return existing
      if existing.status = .paid then
        throw (.conflictError "A paid withdrawal cannot be rejected" "ALREADY_PAID")
      if existing.status ≠ .pending ∧ existing.status ≠ .approved then
        throw (.conflictError s!"Withdrawal cannot be rejected from status {existing.status.text}"
          "INVALID_STATE")
      let _ ← ask (.post (releasePosting id existing))
      applyChange id (.reject adminId reason) adminId "inr.withdrawal.rejected"

def markPaid (id : WithdrawalId) (utr : String) (note : Option String) (actorId : Option AdminId) :
    WithdrawalM InrWithdrawal := do
  match actorId with
  | none => throw adminRequired
  | some adminId =>
    let found ← ask (.findById id)
    match found with
    | none => throw notFound
    | some existing =>
      if existing.status = .paid then return existing
      if existing.status ≠ .approved then
        throw (.conflictError
          s!"Withdrawal must be APPROVED before it can be marked paid (current: {existing.status.text})"
          "INVALID_STATE")
      let posted ← ask (.post (payoutPosting id existing))
      applyChange id (.markPaid ⟨adminId, utr, posted.id, note⟩) adminId "inr.withdrawal.paid"

/-! ## Requests -/

inductive Request where
  | requestWithdrawal (userId : UserId) (input : CreateWithdrawalInput)
  | approve (id : WithdrawalId) (actorId : Option AdminId)
  | reject (id : WithdrawalId) (reason : String) (actorId : Option AdminId)
  | markPaid (id : WithdrawalId) (utr : String) (note : Option String) (actorId : Option AdminId)

def Request.program (config : Config) (pid : WithdrawalId) : Request → WithdrawalM Unit
  | .requestWithdrawal userId input => do
    let _ ← Service.requestWithdrawal config pid userId input
  | .approve id actorId => do let _ ← Service.approve id actorId
  | .reject id reason actorId => do let _ ← Service.reject id reason actorId
  | .markPaid id utr note actorId => do let _ ← Service.markPaid id utr note actorId

/-- The request of each number. -/
def IsRequest (config : Config) (requests : WithdrawalId → Request) (pid : WithdrawalId)
    (program : WithdrawalM Unit) : Prop :=
  program = (requests pid).program config pid

end Exchange.InrWithdrawals.Service
