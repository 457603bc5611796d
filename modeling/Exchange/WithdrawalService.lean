import Exchange.WithdrawalRepository

/-! The crypto-withdrawal service and its worker: a user's request with its
hold, the admins' decisions, and the two passes that broadcast approved
withdrawals and follow them to their confirmation. -/
namespace Exchange.Withdrawal
open Ledger

structure Config where
  feeUsdt : Decimal
  minUsdt : Decimal
  dualApprovalThreshold : Decimal

/-- The validated body of a request: a positive amount with at most 6 decimal
places. -/
structure CreateWithdrawalDto where
  toAddress : String
  amount : Decimal
  valid : 0 < amount ∧ SignificantDigits.OnGrid 6 amount

namespace Service

/-- `instanceof Prisma.PrismaClientKnownRequestError` with a code. -/
def isPrisma (code : String) (failure : Failure) : Bool := failure = .prisma code

/-- Convert a human decimal-string amount to integer base units (no floats). -/
def humanToBase (amount : Decimal) (decimals : ℕ) : Except Failure ℤ :=
  let base := amount.mul (10 ^ decimals)
  if base.den = 1 then .ok base.num
  else .error (.error "Amount has more precision than the asset supports")

/-! ## Ledger movements -/

def REF_HOLD : String := "crypto_withdrawal"

def REF_RELEASE : String := "crypto_withdrawal_release"

def REF_FINAL : String := "crypto_withdrawal_final"

def placeHold (withdrawal : CryptoWithdrawal) : LedgerPostingInput ℕ where
  kind := "WITHDRAWAL_HOLD"
  referenceType := some REF_HOLD
  referenceId := some withdrawal.id
  lines := [⟨some withdrawal.userId, .userAvailable, ASSET, .debit, withdrawal.amount⟩,
    ⟨some withdrawal.userId, .userLocked, ASSET, .credit, withdrawal.amount⟩]

def releaseHold (withdrawal : CryptoWithdrawal) : LedgerPostingInput ℕ where
  kind := "WITHDRAWAL_RELEASE"
  referenceType := some REF_RELEASE
  referenceId := some withdrawal.id
  lines := [⟨some withdrawal.userId, .userLocked, ASSET, .debit, withdrawal.amount⟩,
    ⟨some withdrawal.userId, .userAvailable, ASSET, .credit, withdrawal.amount⟩]

def finalizeLedger (withdrawal : CryptoWithdrawal) : LedgerPostingInput ℕ where
  kind := "WITHDRAWAL_FINAL"
  referenceType := some REF_FINAL
  referenceId := some withdrawal.id
  lines := [⟨some withdrawal.userId, .userLocked, ASSET, .debit, withdrawal.amount⟩,
      ⟨none, .hotWallet, ASSET, .credit, withdrawal.netAmount⟩] ++
    if 0 < withdrawal.fee then [⟨none, .feeRevenue, ASSET, .credit, withdrawal.fee⟩] else []

/-! ## Request + hold -/

/-- Global freeze, account state and KYC; answers with the user's row. -/
def assertMayWithdraw (userId : UserId) : WithdrawalM UserKyc := do
  let freeze ← ask .getWithdrawalFreeze
  if freeze = some true then
    throw (.forbiddenError "Withdrawals are currently frozen" "WITHDRAWALS_FROZEN")
  let found ← ask (.findUserKyc userId)
  match found with
  | none => throw (.notFoundError "User not found")
  | some user =>
    if user.status ≠ .active then
      throw (.forbiddenError "Account is not active" "ACCOUNT_INACTIVE")
    if user.withdrawalsBlocked then
      throw (.forbiddenError "Withdrawals are blocked for this account" "WITHDRAWALS_BLOCKED")
    if user.kycStatus ≠ .approved ∨ user.kycTier < 1 then
      throw (.forbiddenError "KYC approval is required to withdraw" "KYC_REQUIRED")
    return user

/-- The token is supported and the destination allowlisted, past its
cooling-off. -/
def assertAllowlisted (userId : UserId) (toAddress : String) : WithdrawalM Unit := do
  let token ← ask (.getSupportedToken ASSET CHAIN)
  if (token.bind AssetChain.contractAddr).isNone then
    throw (.appError s!"{ASSET} on {CHAIN} is not supported" 422 "ASSET_NOT_SUPPORTED")
  let allow ← ask (.findActiveAddress userId CHAIN toAddress)
  match allow with
  | none =>
    throw (.appError "Destination address is not allowlisted" 422 "ADDRESS_NOT_ALLOWLISTED")
  | some address =>
    let now ← ask .now
    if address.whitelistedAt.all fun whitelistedAt => now < whitelistedAt then
      throw (.forbiddenError "Destination address is still in its cooling-off period"
        "ADDRESS_COOLING_OFF")

/-- The amount less the fee, if both are large enough. -/
def netAmount (config : Config) (amount : Decimal) : Except Failure Decimal :=
  if amount < config.minUsdt then
    .error (.appError s!"Minimum withdrawal amount is {config.minUsdt} {ASSET}" 422
      "MINIMUM_AMOUNT_NOT_MET")
  else
    let netAmount := amount.sub config.feeUsdt
    if netAmount ≤ 0 then
      .error (.appError s!"Amount must exceed the {config.feeUsdt} {ASSET} fee" 422
        "AMOUNT_TOO_SMALL")
    else .ok netAmount

/-- Daily tier limit (USDT). -/
def assertDailyLimit (userId : UserId) (kycTier : ℤ) (amount : Decimal) : WithdrawalM Unit := do
  let limit ← ask (.getTierLimit kycTier)
  match limit.join with
  | none => return ()
  | some usdtDailyWithdrawal =>
    let today ← ask (.sumTodayWithdrawals userId ASSET)
    if usdtDailyWithdrawal < today.add amount then
      throw (.appError "Daily withdrawal limit exceeded" 422 "LIMIT_EXCEEDED")

/-- The hold and the write that binds it; a refused hold fails the row. -/
def holdFunds (withdrawal : CryptoWithdrawal) : WithdrawalM CryptoWithdrawal :=
  tryCatch
    (do
      let posting ← ask (.post (placeHold withdrawal))
      ask (.update withdrawal.id (.setHold posting.id)))
    fun failure => do
      if failure.isConflictError then
        let _ ← ask (.update withdrawal.id (.markRequestFailed "insufficient_balance"))
      throw failure

def newWithdrawal (config : Config) (userId : UserId) (input : CreateWithdrawalDto)
    (netAmount : Decimal) : NewWithdrawal :=
  ⟨userId, CHAIN, ASSET, input.toAddress, input.amount, config.feeUsdt, netAmount⟩

def requestWithdrawal (config : Config) (userId : UserId) (input : CreateWithdrawalDto) :
    WithdrawalM CryptoWithdrawal := do
  let user ← assertMayWithdraw userId
  assertAllowlisted userId input.toAddress
  match netAmount config input.amount with
  | .error failure => throw failure
  | .ok net => do
    assertDailyLimit userId user.kycTier input.amount
    let withdrawal ← ask (.createWithdrawal (newWithdrawal config userId input net))
    holdFunds withdrawal

/-! ## Admin decisions -/

/-- A withdrawal at or above the threshold needs two admins. -/
def isLarge (config : Config) (withdrawal : CryptoWithdrawal) : Bool :=
  config.dualApprovalThreshold ≤ withdrawal.amount

def notApprovable (status : WithdrawalStatus) : Failure :=
  .conflictError s!"Withdrawal cannot be approved from status {repr status}"
    "WITHDRAWAL_NOT_APPROVABLE"

def notFound : Failure := .notFoundError "Withdrawal not found"

/-- The row as an update left it, with the admin's entry in `admin_logs`. -/
def reviewed (id : WithdrawalId) (adminId : AdminId) (action : String) :
    WithdrawalM (Option CryptoWithdrawal) := do
  let updated ← ask (.findById id)
  ask (.writeAdminLog adminId action id)
  return updated

/-- What an approval writes on a withdrawal that has none, and its entry in
`admin_logs`. -/
def firstReview (config : Config) (existing : CryptoWithdrawal) (adminId : AdminId) :
    Change × String :=
  if isLarge config existing then (.firstApprove adminId, "crypto.withdrawal.first_approved")
  else (.approveSmall adminId, "crypto.withdrawal.approved")

def approve (config : Config) (id : WithdrawalId) (actorId : Option AdminId) :
    WithdrawalM (Option CryptoWithdrawal) := do
  match actorId with
  | none => throw (.forbiddenError "Admin actor is required" "FORBIDDEN")
  | some adminId =>
    let found ← ask (.findById id)
    match found with
    | none => throw notFound
    | some existing =>
      match (if existing.status = .pendingApproval ∧ isLarge config existing then
          existing.approvedBy else none) with
      | some firstAdminId =>
        if firstAdminId = adminId then
          throw (.conflictError "A different admin must provide the second approval"
            "DUAL_CONTROL_SAME_APPROVER")
        let count ← ask (.updateMany id (.secondApprove firstAdminId adminId))
        if count = 0 then throw (notApprovable existing.status)
        reviewed id adminId "crypto.withdrawal.approved"
      | none =>
        if existing.status ≠ .pendingApproval then
          if existing.status = .approved then return some existing
          throw (notApprovable existing.status)
        let (change, action) := firstReview config existing adminId
        let count ← ask (.updateMany id change)
        if count = 0 then throw (notApprovable existing.status)
        reviewed id adminId action

def rejectWithdrawal (id : WithdrawalId) (reason : String) (actorId : Option AdminId) :
    WithdrawalM (Option CryptoWithdrawal) := do
  let found ← ask (.findById id)
  match found with
  | none => throw notFound
  | some existing =>
    match actorId with
    -- the empty string is stored for a missing admin, and is no uuid
    | none => throw (.prisma "P2023")
    | some adminId =>
      let count ← ask (.updateMany id (.reject adminId reason))
      if count = 0 then
        if existing.status = .rejected then return some existing
        throw (.conflictError s!"Withdrawal cannot be rejected from status {repr existing.status}"
          "INVALID_STATE")
      if existing.holdTxnId.isSome then
        let _ ← ask (.post (releaseHold existing))
      ask (.writeAdminLog adminId "crypto.withdrawal.rejected" id)
      ask (.findById id)

/-! ## Execution -/

/-- Mark a withdrawal FAILED and release its hold (idempotent). -/
def failWithdrawal (withdrawal : CryptoWithdrawal) (reason : String) : WithdrawalM Bool := do
  let count ← ask (.updateMany withdrawal.id (.markFailed reason))
  if count = 0 then return false
  if withdrawal.holdTxnId.isSome then
    let _ ← ask (.post (releaseHold withdrawal))
  return true

/-- Finalize a confirmed withdrawal: ledger settle + COMPLETED, exactly once. -/
def finalizeWithdrawal (withdrawal : CryptoWithdrawal) : WithdrawalM Bool := do
  if withdrawal.status = .completed then return false
  let posting ← ask (.post (finalizeLedger withdrawal))
  let count ← ask (.updateMany withdrawal.id (.markCompleted posting.id))
  return count = 1

/-- Allocate the next nonce for a hot wallet, creating its row if missing. -/
def allocateNonce (hotWalletId : ℕ) : WithdrawalM ℕ :=
  tryCatch (ask (.incrementNonce hotWalletId)) fun failure =>
    if isPrisma "P2025" failure then
      tryCatch (ask (.createNonce hotWalletId)) fun createFailure =>
        if isPrisma "P2002" createFailure then ask (.incrementNonce hotWalletId)
        else throw createFailure
    else throw failure

/-- What is signed, and the wallet it is sent from. -/
def transferInput (withdrawal : CryptoWithdrawal) : WithdrawalM (HotWallet × SignTransferInput) := do
  let token ← ask (.getSupportedToken ASSET CHAIN)
  match token with
  | some ⟨_, _, some contract, decimals, _, _⟩ =>
    let wallet ← ask (.pickActiveHotWallet CHAIN)
    match wallet with
    | some ⟨id, chain, address, tier, isActive, some signer⟩ =>
      let nonce ← allocateNonce id
      match humanToBase withdrawal.netAmount decimals with
      | .error failure => throw failure
      | .ok amountBase =>
        return (⟨id, chain, address, tier, isActive, some signer⟩,
          ⟨CHAIN, ASSET, contract, address, withdrawal.toAddress, amountBase, nonce, signer⟩)
    | _ => throw (.error "no_active_hot_wallet")
  | _ => throw (.error "token_not_supported")

def signAndBroadcast (withdrawal : CryptoWithdrawal) : WithdrawalM Unit := do
  let (hot, input) ← transferInput withdrawal
  let signed ← ask (.signTransfer input)
  let txHash ← ask (.broadcast withdrawal.id signed)
  let _ ← ask (.update withdrawal.id (.setBroadcast ⟨hot.id, hot.address, input.nonce, txHash⟩))

def broadcastWithdrawal (withdrawal : CryptoWithdrawal) : WithdrawalM Bool := do
  -- a second worker cannot re-broadcast
  let count ← ask (.updateMany withdrawal.id .claimForBroadcast)
  if count = 0 then return false
  tryCatch
    (do
      signAndBroadcast withdrawal
      return true)
    fun failure => do
      let _ ← failWithdrawal withdrawal s!"broadcast_failed:{failure.message}"
      return false

/-! ## The worker -/

/-- The number of withdrawals broadcast. -/
def broadcastAll : List CryptoWithdrawal → WithdrawalM ℕ
  | [] => return 0
  | withdrawal :: pending => do
    let broadcast ← broadcastWithdrawal withdrawal
    let later ← broadcastAll pending
    return later + if broadcast then 1 else 0

def runBroadcastCycle : WithdrawalM ℕ := do
  let pending ← ask (.listForBroadcast CHAIN)
  broadcastAll pending

structure ConfirmationResult where
  promoted : ℕ
  completed : ℕ
  failed : ℕ
  deriving DecidableEq, Repr

def confirmAll (minConf : ℕ) : List CryptoWithdrawal → WithdrawalM ConfirmationResult
  | [] => return ⟨0, 0, 0⟩
  | withdrawal :: inFlight =>
    match withdrawal.txHash with
    | none => confirmAll minConf inFlight
    | some txHash => do
      let status ← ask (.getConfirmations txHash)
      if !status.found then confirmAll minConf inFlight
      else if !status.success then
        let failed ← failWithdrawal withdrawal "tx_failed_or_dropped"
        let later ← confirmAll minConf inFlight
        return { later with failed := later.failed + if failed then 1 else 0 }
      else if minConf ≤ status.confirmations then
        let completed ← finalizeWithdrawal withdrawal
        let later ← confirmAll minConf inFlight
        return { later with completed := later.completed + if completed then 1 else 0 }
      else if withdrawal.status = .broadcast ∧ 1 ≤ status.confirmations then
        let _ ← ask (.updateMany withdrawal.id .setConfirming)
        let later ← confirmAll minConf inFlight
        return { later with promoted := later.promoted + 1 }
      else confirmAll minConf inFlight

def runConfirmationCycle : WithdrawalM ConfirmationResult := do
  let token ← ask (.getSupportedToken ASSET CHAIN)
  let inFlight ← ask (.listForConfirmation CHAIN)
  confirmAll (token.elim 20 AssetChain.minConfirmations) inFlight

/-- One full broadcast → confirm cycle. -/
def runWithdrawalCycle : WithdrawalM (ℕ × ConfirmationResult) := do
  let broadcast ← runBroadcastCycle
  let confirmed ← runConfirmationCycle
  return (broadcast, confirmed)

/-! ## Requests -/

inductive Request where
  | requestWithdrawal (userId : UserId) (input : CreateWithdrawalDto)
  | approve (id : WithdrawalId) (actorId : Option AdminId)
  | reject (id : WithdrawalId) (reason : String) (actorId : Option AdminId)
  | broadcastCycle
  | confirmationCycle
  | withdrawalCycle
  | setWithdrawalFreeze (enabled : Bool)

def Request.program (config : Config) : Request → WithdrawalM Unit
  | .requestWithdrawal userId input => do let _ ← Service.requestWithdrawal config userId input
  | .approve id actorId => do let _ ← Service.approve config id actorId
  | .reject id reason actorId => do let _ ← rejectWithdrawal id reason actorId
  | .broadcastCycle => do let _ ← runBroadcastCycle
  | .confirmationCycle => do let _ ← runConfirmationCycle
  | .withdrawalCycle => do let _ ← runWithdrawalCycle
  | .setWithdrawalFreeze enabled => ask (.setWithdrawalFreeze enabled)

/-- The request of each number. -/
def IsRequest (config : Config) (requests : WithdrawalId → Request) (pid : WithdrawalId)
    (program : WithdrawalM Unit) : Prop :=
  program = (requests pid).program config

end Exchange.Withdrawal.Service
