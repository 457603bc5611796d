import Exchange.AsyncHistory
import Exchange.Ledger
import Exchange.Users

/-! The tables behind crypto withdrawals and the calls their service and
worker await: the repository's queries and writes with the checks of the
schema, ledger postings, and the signer. A request's number stands for the
uuid of the withdrawal it creates. -/
namespace Exchange.Withdrawal
open Ledger

/-- The uuid of a withdrawal. -/
abbrev WithdrawalId := ℕ

abbrev AdminId := ℕ

/-- Milliseconds since the epoch. -/
abbrev Time := ℕ

def CHAIN : String := "TRON"

def ASSET : String := "USDT"

inductive WithdrawalStatus where
  | requested
  | riskCheck
  | pendingApproval
  | approved
  | queued
  | signing
  | broadcast
  | confirming
  | completed
  | rejected
  | failed
  | cancelled
  deriving DecidableEq, Repr

structure UserKyc where
  status : UserStatus
  kycStatus : KycStatus
  kycTier : ℤ
  withdrawalsBlocked : Bool
  deriving DecidableEq, Repr

structure AssetChain where
  asset : String
  chain : String
  contractAddr : Option String
  decimals : ℕ
  minConfirmations : ℕ
  isActive : Bool
  deriving DecidableEq, Repr

structure WithdrawalAddress where
  userId : UserId
  chain : String
  address : String
  whitelistedAt : Option Time
  deletedAt : Option Time
  deriving DecidableEq, Repr

structure SignerRef where
  id : ℕ
  kmsKeyRef : String
  publicKey : Option String
  deriving DecidableEq, Repr

inductive WalletTier where
  | hot
  | warm
  | cold
  deriving DecidableEq, Repr

structure HotWallet where
  id : ℕ
  chain : String
  address : String
  tier : WalletTier
  isActive : Bool
  signer : Option SignerRef
  deriving DecidableEq, Repr

structure CryptoWithdrawal where
  id : WithdrawalId
  userId : UserId
  chain : String
  asset : String
  toAddress : String
  fromAddress : Option String
  hotWalletId : Option ℕ
  amount : Decimal
  fee : Decimal
  tdsAmount : Decimal
  netAmount : Decimal
  status : WithdrawalStatus
  holdTxnId : Option ℕ
  finalTxnId : Option ℕ
  txHash : Option String
  nonce : Option ℕ
  approvedBy : Option AdminId
  approvedBy2 : Option AdminId
  failureReason : Option String
  requestedAt : Time
  deriving DecidableEq, Repr

structure NewWithdrawal where
  userId : UserId
  chain : String
  asset : String
  toAddress : String
  amount : Decimal
  fee : Decimal
  netAmount : Decimal
  deriving DecidableEq, Repr

structure BroadcastData where
  hotWalletId : ℕ
  fromAddress : String
  nonce : ℕ
  txHash : String
  deriving DecidableEq, Repr

/-! ## Updates of one row -/

/-- What an update sets, and on which rows. -/
structure Update where
  applies : CryptoWithdrawal → Bool
  set : CryptoWithdrawal → CryptoWithdrawal

/-- Bind the hold ledger txn and move REQUESTED → PENDING_APPROVAL. -/
def setHold (holdTxnId : ℕ) : Update where
  applies _ := true
  set row := { row with holdTxnId := some holdTxnId, status := .pendingApproval }

def markRequestFailed (reason : String) : Update where
  applies _ := true
  set row := { row with status := .failed, failureReason := some reason }

def firstApprove (adminId : AdminId) : Update where
  applies row := row.status = .pendingApproval && row.approvedBy = none
  set row := { row with approvedBy := some adminId }

def approveSmall (adminId : AdminId) : Update where
  applies row := row.status = .pendingApproval && row.approvedBy = none
  set row := { row with status := .approved, approvedBy := some adminId }

def secondApprove (firstAdminId secondAdminId : AdminId) : Update where
  applies row := row.status = .pendingApproval && row.approvedBy = some firstAdminId &&
    row.approvedBy2 = none && row.approvedBy ≠ some secondAdminId
  set row := { row with status := .approved, approvedBy2 := some secondAdminId }

def reject (adminId : AdminId) (reason : String) : Update where
  applies row := row.status ∈ [.requested, .riskCheck, .pendingApproval, .approved, .queued]
  set row := { row with
    status := .rejected, approvedBy := some adminId, failureReason := some reason }

/-- Atomically claim an APPROVED withdrawal for broadcast (→ SIGNING). -/
def claimForBroadcast : Update where
  applies row := row.status = .approved
  set row := { row with status := .signing }

def setBroadcast (data : BroadcastData) : Update where
  applies _ := true
  set row := { row with
    status := .broadcast, hotWalletId := some data.hotWalletId,
    fromAddress := some data.fromAddress, nonce := some data.nonce, txHash := some data.txHash }

def setConfirming : Update where
  applies row := row.status = .broadcast
  set row := { row with status := .confirming }

/-- Finalize exactly once: count 0 means a peer already completed it. -/
def markCompleted (finalTxnId : ℕ) : Update where
  applies row := row.status ∈ [.broadcast, .confirming]
  set row := { row with status := .completed, finalTxnId := some finalTxnId }

def markFailed (reason : String) : Update where
  applies row := row.status ∈ [.signing, .broadcast, .confirming, .approved, .queued]
  set row := { row with status := .failed, failureReason := some reason }

/-- The updates by name. -/
inductive Change where
  | setHold (holdTxnId : ℕ)
  | markRequestFailed (reason : String)
  | firstApprove (adminId : AdminId)
  | approveSmall (adminId : AdminId)
  | secondApprove (firstAdminId secondAdminId : AdminId)
  | reject (adminId : AdminId) (reason : String)
  | claimForBroadcast
  | setBroadcast (data : BroadcastData)
  | setConfirming
  | markCompleted (finalTxnId : ℕ)
  | markFailed (reason : String)
  deriving DecidableEq, Repr

def Change.update : Change → Update
  | .setHold holdTxnId => Withdrawal.setHold holdTxnId
  | .markRequestFailed reason => Withdrawal.markRequestFailed reason
  | .firstApprove adminId => Withdrawal.firstApprove adminId
  | .approveSmall adminId => Withdrawal.approveSmall adminId
  | .secondApprove firstAdminId secondAdminId =>
    Withdrawal.secondApprove firstAdminId secondAdminId
  | .reject adminId reason => Withdrawal.reject adminId reason
  | .claimForBroadcast => Withdrawal.claimForBroadcast
  | .setBroadcast data => Withdrawal.setBroadcast data
  | .setConfirming => Withdrawal.setConfirming
  | .markCompleted finalTxnId => Withdrawal.markCompleted finalTxnId
  | .markFailed reason => Withdrawal.markFailed reason

/-! ## The signer -/

structure SignTransferInput where
  chain : String
  asset : String
  contract : String
  fromAddress : String
  toAddress : String
  amountBase : ℤ
  nonce : ℕ
  signer : SignerRef
  deriving DecidableEq, Repr

structure SignedTransaction where
  txHash : String
  rawTx : String
  deriving DecidableEq, Repr

structure TxConfirmation where
  found : Bool
  confirmations : ℕ
  success : Bool
  deriving DecidableEq, Repr

/-- What `WithdrawalSignerProvider` answers at some moment; `broadcast` answers
with the transaction's hash. -/
structure Signer where
  signTransfer : SignTransferInput → Except Failure SignedTransaction
  broadcast : SignedTransaction → Except Failure String
  getConfirmations : String → Except Failure TxConfirmation

/-! ## Tables and calls -/

structure Store where
  users : UserId → Option UserKyc
  /-- `enabled` of the flag `withdrawals_frozen`, once it has a row. -/
  withdrawalsFrozen : Option Bool
  assetChains : List AssetChain
  addresses : List WithdrawalAddress
  /-- `usdtDailyWithdrawal`, by `kycTier`. -/
  tierLimits : ℤ → Option (Option Decimal)
  /-- By `createdAt`. -/
  hotWallets : List HotWallet
  nonces : Table ℕ ℕ
  withdrawals : Table WithdrawalId CryptoWithdrawal
  ledger : Ledger.Store ℕ

inductive WithdrawalCall where
  | getWithdrawalFreeze
  | findUserKyc (userId : UserId)
  | getSupportedToken (asset chain : String)
  | findActiveAddress (userId : UserId) (chain address : String)
  /-- `new Date()`. -/
  | now
  | getTierLimit (kycTier : ℤ)
  | sumTodayWithdrawals (userId : UserId) (asset : String)
  | createWithdrawal (data : NewWithdrawal)
  | findById (id : WithdrawalId)
  | listForBroadcast (chain : String)
  | listForConfirmation (chain : String)
  /-- `update`: a missing row throws. -/
  | update (id : WithdrawalId) (change : Change)
  /-- `updateMany`: answers with the number of rows. -/
  | updateMany (id : WithdrawalId) (change : Change)
  | pickActiveHotWallet (chain : String)
  | incrementNonce (hotWalletId : ℕ)
  | createNonce (hotWalletId : ℕ)
  | signTransfer (input : SignTransferInput)
  /-- `signer.broadcast`, with the withdrawal the transaction was signed for. -/
  | broadcast (id : WithdrawalId) (signedTx : SignedTransaction)
  | getConfirmations (txHash : String)
  /-- `ledgerService.post` under `postWithRetry`. An attempt lost to a write
  conflict changes nothing, so the call is its last attempt. -/
  | post (input : LedgerPostingInput ℕ)
  | writeAdminLog (adminId : AdminId) (action : String) (targetId : WithdrawalId)
  /-- An operator sets the flag `withdrawals_frozen`. -/
  | setWithdrawalFreeze (enabled : Bool)
  deriving DecidableEq, Repr

abbrev WithdrawalCall.Reply : WithdrawalCall → Type
  | .getWithdrawalFreeze => Option Bool
  | .findUserKyc _ => Option UserKyc
  | .getSupportedToken _ _ => Option AssetChain
  | .findActiveAddress _ _ _ => Option WithdrawalAddress
  | .now => Time
  | .getTierLimit _ => Option (Option Decimal)
  | .sumTodayWithdrawals _ _ => Decimal
  | .createWithdrawal _ => CryptoWithdrawal
  | .findById _ => Option CryptoWithdrawal
  | .listForBroadcast _ => List CryptoWithdrawal
  | .listForConfirmation _ => List CryptoWithdrawal
  | .update _ _ => CryptoWithdrawal
  | .updateMany _ _ => ℕ
  | .pickActiveHotWallet _ => Option HotWallet
  | .incrementNonce _ => ℕ
  | .createNonce _ => ℕ
  | .signTransfer _ => SignedTransaction
  | .broadcast _ _ => String
  | .getConfirmations _ => TxConfirmation
  | .post _ => LedgerTransaction ℕ
  | .writeAdminLog _ _ _ => Unit
  | .setWithdrawalFreeze _ => Unit

/-! ## Queries -/

def getSupportedToken (s : Store) (asset chain : String) : Option AssetChain :=
  (s.assetChains.find? fun row =>
    citext row.asset = citext asset && citext row.chain = citext chain).filter AssetChain.isActive

def findActiveAddress (s : Store) (userId : UserId) (chain address : String) :
    Option WithdrawalAddress :=
  s.addresses.find? fun row =>
    row.userId = userId && citext row.chain = citext chain && row.address = address &&
      row.deletedAt.isNone

def NON_COUNTING_STATUSES : List WithdrawalStatus := [.rejected, .failed, .cancelled]

/-- `setUTCHours(0, 0, 0, 0)`. -/
def startOfDay (now : Time) : Time := now / 86400000 * 86400000

/-- A row counts towards its user's withdrawals of an asset since some time. -/
def counts (userId : UserId) (asset : String) (start : Time) (row : CryptoWithdrawal) : Bool :=
  row.userId = userId && citext row.asset = citext asset && start ≤ row.requestedAt &&
    row.status ∉ NON_COUNTING_STATUSES

def sumTodayWithdrawals (s : Store) (now : Time) (userId : UserId) (asset : String) : Decimal :=
  s.withdrawals.total fun _ row => if counts userId asset (startOfDay now) row then row.amount else 0

/-- The rows of a chain in some states, oldest first. -/
def listByStatus (s : Store) (chain : String) (statuses : List WithdrawalStatus) :
    List CryptoWithdrawal :=
  ((s.withdrawals.rows.map Prod.snd).filter fun row =>
    citext row.chain = citext chain && row.status ∈ statuses).insertionSort
      fun a b => a.requestedAt ≤ b.requestedAt

def pickActiveHotWallet (s : Store) (chain : String) : Option HotWallet :=
  s.hotWallets.find? fun wallet =>
    citext wallet.chain = citext chain && wallet.tier = .hot && wallet.isActive

/-! ## Writes -/

/-- `crypto_withdrawals_net_chk`. -/
def netChk (row : CryptoWithdrawal) : Bool :=
  row.netAmount = row.amount - row.fee - row.tdsAmount

/-- `crypto_withdrawals_dual_chk`; a comparison with NULL does not fail it. -/
def dualChk (row : CryptoWithdrawal) : Bool :=
  row.approvedBy.isNone || row.approvedBy2.isNone || row.approvedBy ≠ row.approvedBy2

/-- The unique index on `chain`, `from_address` and `nonce`, where a nonce is
set. -/
def nonceTaken (s : Store) (row : CryptoWithdrawal) : Bool :=
  row.nonce.isSome && row.fromAddress.isSome &&
    s.withdrawals.rows.any fun (id, other) => id ≠ row.id && citext other.chain = citext row.chain &&
      other.fromAddress = row.fromAddress && other.nonce = row.nonce

def createWithdrawal (id : WithdrawalId) (now : Time) (data : NewWithdrawal) (s : Store) :
    Except Failure (CryptoWithdrawal × Store) := do
  let amount ← Numeric.store data.amount
  let fee ← Numeric.store data.fee
  let netAmount ← Numeric.store data.netAmount
  let row : CryptoWithdrawal := ⟨id, data.userId, data.chain, data.asset, data.toAddress, none, none,
    amount, fee, 0, netAmount, .requested, none, none, none, none, none, none, none, now⟩
  if !netChk row then .error (.database "crypto_withdrawals_net_chk")
  else if (s.withdrawals.lookup id).isSome then .error .uniqueViolation
  else .ok (row, { s with withdrawals := s.withdrawals.insert id row })

/-- Writing a changed row back. -/
def saveRow (row : CryptoWithdrawal) (s : Store) : Except Failure (CryptoWithdrawal × Store) :=
  if !netChk row then .error (.database "crypto_withdrawals_net_chk")
  else if !dualChk row then .error (.database "crypto_withdrawals_dual_chk")
  else if nonceTaken s row then .error .uniqueViolation
  else .ok (row, { s with withdrawals := s.withdrawals.insert row.id row })

def update (id : WithdrawalId) (change : Change) (s : Store) :
    Except Failure (CryptoWithdrawal × Store) :=
  match s.withdrawals.lookup id with
  | none => .error (.prisma "P2025")
  | some row => saveRow (change.update.set row) s

def updateMany (id : WithdrawalId) (change : Change) (s : Store) : Except Failure (ℕ × Store) :=
  match (s.withdrawals.lookup id).filter change.update.applies with
  | none => .ok (0, s)
  | some row => (saveRow (change.update.set row) s).map fun (_, s') => (1, s')

/-- `nextNonce` before the increment. -/
def incrementNonce (hotWalletId : ℕ) (s : Store) : Except Failure (ℕ × Store) :=
  match s.nonces.lookup hotWalletId with
  | none => .error (.prisma "P2025")
  | some nonce => .ok (nonce, { s with nonces := s.nonces.insert hotWalletId (nonce + 1) })

def createNonce (hotWalletId : ℕ) (s : Store) : Except Failure (ℕ × Store) :=
  if (s.nonces.lookup hotWalletId).isSome then .error .uniqueViolation
  else .ok (0, { s with nonces := s.nonces.insert hotWalletId 1 })

/-! ## Calls -/

/-- A write's answer, and the tables it leaves: a failed write changes none. -/
def written (s : Store) : Except Failure (α × Store) → Except Failure α × Store
  | .ok (value, s') => (.ok value, s')
  | .error failure => (.error failure, s)

/-- What a call of request `pid` does at time `now`, with the signer as it is
at that moment. -/
def perform (signer : Signer) (pid : WithdrawalId) (now : Time) :
    (call : WithdrawalCall) → Store → Except Failure call.Reply × Store
  | .getWithdrawalFreeze, s => (.ok s.withdrawalsFrozen, s)
  | .findUserKyc userId, s => (.ok (s.users userId), s)
  | .getSupportedToken asset chain, s => (.ok (getSupportedToken s asset chain), s)
  | .findActiveAddress userId chain address, s =>
    (.ok (findActiveAddress s userId chain address), s)
  | .now, s => (.ok now, s)
  | .getTierLimit kycTier, s => (.ok (s.tierLimits kycTier), s)
  | .sumTodayWithdrawals userId asset, s => (.ok (sumTodayWithdrawals s now userId asset), s)
  | .createWithdrawal data, s => written s (createWithdrawal pid now data s)
  | .findById id, s => (.ok (s.withdrawals.lookup id), s)
  | .listForBroadcast chain, s => (.ok (listByStatus s chain [.approved]), s)
  | .listForConfirmation chain, s => (.ok (listByStatus s chain [.broadcast, .confirming]), s)
  | .update id change, s => written s (update id change s)
  | .updateMany id change, s => written s (updateMany id change s)
  | .pickActiveHotWallet chain, s => (.ok (pickActiveHotWallet s chain), s)
  | .incrementNonce hotWalletId, s => written s (incrementNonce hotWalletId s)
  | .createNonce hotWalletId, s => written s (createNonce hotWalletId s)
  | .signTransfer input, s => (signer.signTransfer input, s)
  | .broadcast _ signedTx, s => (signer.broadcast signedTx, s)
  | .getConfirmations txHash, s => (signer.getConfirmations txHash, s)
  | .post input, s =>
    let (outcome, ledger) := Ledger.post input s.ledger
    (outcome, { s with ledger })
  | .writeAdminLog _ _ _, s => (.ok (), s)
  | .setWithdrawalFreeze enabled, s => (.ok (), { s with withdrawalsFrozen := some enabled })

def isDatabaseFailure : Failure → Bool
  | .app _ _ _ _ => false
  | _ => true

/-- A call as a request may see it: it runs at some time, whatever the signer
answers, or it is lost for a reason outside the code and nothing happens. -/
def Makes (pid : WithdrawalId) (call : WithdrawalCall) (s : Store)
    (reply : Except Failure call.Reply) (s' : Store) : Prop :=
  (∃ signer now, perform signer pid now call s = (reply, s')) ∨
    (∃ failure, isDatabaseFailure failure ∧ reply = .error failure) ∧ s' = s

abbrev WithdrawalM := Async WithdrawalCall WithdrawalCall.Reply Failure

abbrev ask (call : WithdrawalCall) : WithdrawalM call.Reply := Async.call call

end Exchange.Withdrawal
