import Exchange.MasterDepositRepository

/-! Deposits to the master wallet. A user submits the hash of a transaction; it
is verified on its chain and, once it is confirmed there, credited. The same
user or an admin may have it verified again at any time. -/
namespace Exchange.MasterDeposits.Service
open Ledger

def REFERENCE_TYPE : String := "master_wallet_deposit"

def CREDIT_KIND : String := "CRYPTO_DEPOSIT_CREDIT"

/-- EVM hashes are normalized to lowercase; TRON hashes are left as they are. -/
def normalizeTxHash (chain : CryptoChain) (txHash : String) : String :=
  match chain with
  | .tron => String.ofList (trim txHash)
  | _ => String.ofList (toLowerCase (trim txHash))

/-! ## Answers -/

inductive WireDepositStatus where
  | submitted
  | pendingConfirmation
  | confirmed
  | rejected
  | duplicate
  | failed
  deriving DecidableEq, Repr

def STATUS_WIRE : MasterWalletDepositStatus → WireDepositStatus
  | .submitted => .submitted
  | .pendingConfirmation => .pendingConfirmation
  | .confirmed => .confirmed
  | .rejected => .rejected
  | .duplicate => .duplicate
  | .failed => .failed

structure MasterDepositDto where
  id : DepositId
  assetSymbol : String
  tx : ChainTx
  masterAddress : String
  fromAddress : Option String
  amount : Decimal
  confirmations : ℕ
  minConfirmations : ℕ
  status : WireDepositStatus
  rejectionReason : Option String
  deriving DecidableEq, Repr

def toMasterDepositDto (row : MasterWalletDeposit) (minConfirmations : ℕ) : MasterDepositDto :=
  ⟨row.id, row.assetSymbol, row.tx, row.masterAddress, row.fromAddress, row.amount, row.confirmations,
    minConfirmations, STATUS_WIRE row.status, row.rejectionReason⟩

/-- The answer for a deposit of another account; its details are not leaked. -/
def duplicateDto (existing : MasterWalletDeposit) (network : ResolvedNetwork) : MasterDepositDto :=
  ⟨existing.id, ASSET, existing.tx, network.masterAddress.getD existing.masterAddress, none, 0, 0,
    network.minConfirmations, .duplicate, some "This transaction has already been submitted"⟩

/-! ## Verification -/

/-- The transport of a verification; the two questions go out together. -/
def evmVerify (tx : ChainTx) (network : ResolvedNetwork) : DepositM VerificationResult := do
  let receipt ← ask (.getTransactionReceipt tx)
  let latestBlock ← ask (.getBlockNumber tx.chain)
  return evaluateEvmReceipt receipt latestBlock network

/-- A transport failure is a verdict of its own. -/
def verifyTx (tx : ChainTx) (network : ResolvedNetwork) : DepositM VerificationResult :=
  match network.family with
  | .tron => return { outcome := .providerNotConfigured, reason := some "provider_not_configured" }
  | .evm =>
    if isNetworkConfigured network then
      tryCatch (evmVerify tx network) fun _ =>
        return { outcome := .providerError, reason := some "provider_error" }
    else return { outcome := .providerNotConfigured, reason := some "provider_not_configured" }

def transferOf (result : VerificationResult) : Transfer :=
  ⟨result.amount, result.confirmations.getD 0, result.fromAddress, result.logIndex⟩

/-- Double-entry: sweep clearing → user available. -/
def depositCredit (deposit : MasterWalletDeposit) (amount : Decimal) : LedgerPostingInput DepositId where
  kind := CREDIT_KIND
  referenceType := some REFERENCE_TYPE
  referenceId := some deposit.id
  lines := [⟨none, .sweepClearing, ASSET, .debit, amount⟩,
    ⟨some deposit.userId, .userAvailable, ASSET, .credit, amount⟩]

/-- The posting, the flip of the row, and the row as it is then. -/
def creditAmount (deposit : MasterWalletDeposit) (amount : Decimal) (transfer : Transfer) :
    DepositM MasterWalletDeposit := do
  let posted ← ask (.post (depositCredit deposit amount))
  let _ ← ask (.markCredited deposit.id posted.id transfer)
  let fresh ← ask (.findById deposit.id)
  return fresh.getD deposit

/-- Credit a confirmed deposit; a non-positive amount never is. -/
def creditDeposit (deposit : MasterWalletDeposit) (result : VerificationResult) :
    DepositM MasterWalletDeposit :=
  match result.amount.filter (0 < ·) with
  | none => ask (.update deposit.id (.rejected "zero_amount"))
  | some amount => creditAmount deposit amount (transferOf result)

/-- The row moves to the state the verdict gives it. -/
def process (deposit : MasterWalletDeposit) (result : VerificationResult) : DepositM MasterWalletDeposit :=
  match result.outcome with
  | .confirmed => creditDeposit deposit result
  | .pending => ask (.update deposit.id (.pending (transferOf result)))
  | .rejected => ask (.update deposit.id (.rejected (result.reason.getD "verification_failed")))
  | _ => ask (.update deposit.id (.failed (result.reason.getD "provider_error")))

/-- Verify a deposit on its chain; a CONFIRMED one is not processed again. -/
def verifyAndProcess (config : Config) (deposit : MasterWalletDeposit) : DepositM MasterWalletDeposit :=
  if deposit.status = .confirmed then return deposit
  else
    let network := config.networks deposit.tx.chain
    if isNetworkConfigured network then do
      let result ← verifyTx deposit.tx network
      process deposit result
    else ask (.update deposit.id (.failed "provider_not_configured"))

/-! ## Entry points -/

/-- A resubmission of a transaction that is there already. -/
def handleExisting (config : Config) (existing : MasterWalletDeposit) (userId : UserId)
    (network : ResolvedNetwork) : DepositM MasterDepositDto :=
  if existing.userId ≠ userId then return duplicateDto existing network
  else do
    let updated ← verifyAndProcess config existing
    return toMasterDepositDto updated network.minConfirmations

/-- A new row, or the row of a concurrent submit that won the race. -/
def createRow (data : NewDeposit) : DepositM (MasterWalletDeposit × Bool) :=
  tryCatch
    (do
      let row ← ask (.create data)
      return (row, true))
    fun failure => do
      if failure = .uniqueViolation then
        let row ← ask (.findByChainTx data.tx)
        match row with
        | some row => return (row, false)
        | none => throw failure
      else throw failure

def submitNew (config : Config) (userId : UserId) (data : NewDeposit) (network : ResolvedNetwork) :
    DepositM MasterDepositDto := do
  let (deposit, created) ← createRow data
  if created then
    let processed ← verifyAndProcess config deposit
    return toMasterDepositDto processed network.minConfirmations
  else handleExisting config deposit userId network

def submit (config : Config) (userId : UserId) (chain : CryptoChain) (txHash : String) :
    DepositM MasterDepositDto :=
  let network := config.networks chain
  if ¬config.enabled then
    throw (.appError "Crypto deposits are currently disabled" 422 "CRYPTO_DEPOSITS_DISABLED")
  else if ¬isNetworkEnabled config network then
    throw (.appError s!"{chain.text} USDT deposits are not available" 422 "NETWORK_NOT_AVAILABLE")
  else do
    let tx := ⟨chain, normalizeTxHash chain txHash⟩
    let existing ← ask (.findByChainTx tx)
    match existing with
    | some existing => handleExisting config existing userId network
    | none => submitNew config userId ⟨userId, ASSET, tx, network.masterAddress.getD ""⟩ network

/-- Run the verification again; the answer is the row as it is then. -/
def adminRecheck (config : Config) (id : DepositId) : DepositM MasterDepositDto := do
  let found ← ask (.findById id)
  match found with
  | none => throw (.notFoundError "Crypto deposit not found")
  | some deposit =>
    let _ ← verifyAndProcess config deposit
    let row ← ask (.findById id)
    match row with
    | none => throw (.notFoundError "Crypto deposit not found")
    | some row => return toMasterDepositDto row (config.networks row.tx.chain).minConfirmations

/-! ## Requests -/

inductive Request where
  | submit (userId : UserId) (chain : CryptoChain) (txHash : String)
  | adminRecheck (id : DepositId)

def Request.program (config : Config) : Request → DepositM MasterDepositDto
  | .submit userId chain txHash => Service.submit config userId chain txHash
  | .adminRecheck id => Service.adminRecheck config id

/-- The request of each number. -/
def IsRequest (config : Config) (requests : DepositId → Request) (pid : DepositId)
    (program : DepositM MasterDepositDto) : Prop :=
  program = (requests pid).program config

end Exchange.MasterDeposits.Service
