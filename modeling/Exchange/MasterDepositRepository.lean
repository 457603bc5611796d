import Exchange.AsyncDatabase
import Exchange.Ledger
import Exchange.MasterDepositVerifier

/-! The table of master-wallet deposits, and the calls its service awaits. A
request's number stands for the uuid of the row it creates. -/
namespace Exchange.MasterDeposits
open Ledger

/-- The uuid of a deposit. -/
abbrev DepositId := ℕ

def ASSET : String := "USDT"

inductive MasterWalletDepositStatus where
  | submitted
  | pendingConfirmation
  | confirmed
  | rejected
  | duplicate
  | failed
  deriving DecidableEq, Repr

/-- An on-chain transaction: the columns of the unique index. -/
structure ChainTx where
  chain : CryptoChain
  txHash : String
  deriving DecidableEq, Repr

structure MasterWalletDeposit where
  id : DepositId
  userId : UserId
  assetSymbol : String
  tx : ChainTx
  masterAddress : String
  fromAddress : Option String
  logIndex : Option ℕ
  amount : Decimal
  confirmations : ℕ
  status : MasterWalletDepositStatus
  rejectionReason : Option String
  creditedLedgerTxnId : Option ℕ
  deriving DecidableEq, Repr

structure Store where
  deposits : Table DepositId MasterWalletDeposit
  ledger : Ledger.Store DepositId

/-- What a new row says; the rest is empty. -/
structure NewDeposit where
  userId : UserId
  assetSymbol : String
  tx : ChainTx
  masterAddress : String
  deriving DecidableEq, Repr

/-! ## Changes of one row -/

/-- The columns a verified transfer fills. -/
structure Transfer where
  amount : Option Decimal
  confirmations : ℕ
  fromAddress : Option String
  logIndex : Option ℕ
  deriving DecidableEq, Repr

inductive Change where
  | failed (reason : String)
  | rejected (reason : String)
  | pending (transfer : Transfer)
  | credited (ledgerTxnId : ℕ) (transfer : Transfer)
  deriving DecidableEq, Repr

/-- A transfer without an amount leaves that column. -/
def Transfer.set (transfer : Transfer) (row : MasterWalletDeposit) : MasterWalletDeposit :=
  { row with
    amount := transfer.amount.getD row.amount, confirmations := transfer.confirmations,
    fromAddress := transfer.fromAddress, logIndex := transfer.logIndex, rejectionReason := none }

def Change.set (change : Change) (row : MasterWalletDeposit) : MasterWalletDeposit :=
  match change with
  | .failed reason => { row with status := .failed, rejectionReason := some reason }
  | .rejected reason => { row with status := .rejected, rejectionReason := some reason }
  | .pending transfer => { transfer.set row with status := .pendingConfirmation }
  | .credited ledgerTxnId transfer =>
    { transfer.set row with status := .confirmed, creditedLedgerTxnId := some ledgerTxnId }

/-- The types of the columns. -/
def storeTransfer (transfer : Transfer) : Except Failure Transfer := do
  let amount ← transfer.amount.mapM Numeric.store
  if 2 ^ 31 ≤ transfer.confirmations ∨ 2 ^ 31 ≤ transfer.logIndex.getD 0 then
    .error (.database "integer out of range")
  else .ok { transfer with amount }

def storeChange : Change → Except Failure Change
  | .pending transfer => (storeTransfer transfer).map .pending
  | .credited ledgerTxnId transfer => (storeTransfer transfer).map (.credited ledgerTxnId)
  | change => .ok change

/-! ## Queries and writes -/

def findByChainTx (s : Store) (tx : ChainTx) : Option MasterWalletDeposit :=
  (s.deposits.rows.map Prod.snd).find? fun row => row.tx = tx

/-- The row `create` inserts. -/
def newRow (id : DepositId) (data : NewDeposit) : MasterWalletDeposit :=
  ⟨id, data.userId, data.assetSymbol, data.tx, data.masterAddress, none, none, 0, 0, .submitted, none, none⟩

def Store.save (s : Store) (id : DepositId) (row : MasterWalletDeposit) : Store :=
  { s with deposits := s.deposits.insert id row }

/-- A second row of a transaction violates the unique index. -/
def create (id : DepositId) (data : NewDeposit) (s : Store) :
    Except Failure (MasterWalletDeposit × Store) :=
  if (s.deposits.lookup id).isSome ∨ (findByChainTx s data.tx).isSome then .error .uniqueViolation
  else .ok (newRow id data, s.save id (newRow id data))

/-- `update`: a missing row throws. -/
def update (id : DepositId) (change : Change) (s : Store) : Except Failure (MasterWalletDeposit × Store) :=
  match s.deposits.lookup id with
  | none => .error (.prisma "P2025")
  | some row => (storeChange change).map fun stored => (stored.set row, s.save id (stored.set row))

/-- `updateMany` of a deposit that is not CONFIRMED; answers with the number of rows. -/
def updateOpen (id : DepositId) (change : Change) (s : Store) : Except Failure (ℕ × Store) :=
  match (s.deposits.lookup id).filter (·.status ≠ .confirmed) with
  | none => .ok (0, s)
  | some row => (storeChange change).map fun stored => (1, s.save id (stored.set row))

/-! ## Calls -/

inductive DepositCall where
  | getTransactionReceipt (tx : ChainTx)
  | getBlockNumber (chain : CryptoChain)
  | findByChainTx (tx : ChainTx)
  | findById (id : DepositId)
  | create (data : NewDeposit)
  /-- `update`, of a verification that does not credit. -/
  | update (id : DepositId) (change : Change)
  | post (input : LedgerPostingInput DepositId)
  | markCredited (id : DepositId) (ledgerTxnId : ℕ) (transfer : Transfer)
  deriving DecidableEq, Repr

abbrev DepositCall.Reply : DepositCall → Type
  | .getTransactionReceipt _ => Option EvmReceipt
  | .getBlockNumber _ => ℕ
  | .findByChainTx _ => Option MasterWalletDeposit
  | .findById _ => Option MasterWalletDeposit
  | .create _ => MasterWalletDeposit
  | .update _ _ => MasterWalletDeposit
  | .post _ => LedgerTransaction DepositId
  | .markCredited _ _ _ => ℕ

/-- What the nodes of the chains answer at one moment. -/
structure World where
  getTransactionReceipt : ChainTx → Except Failure (Option EvmReceipt)
  getBlockNumber : CryptoChain → Except Failure ℕ

/-- What a call of request `pid` does. -/
def perform (world : World) (pid : DepositId) :
    (call : DepositCall) → Store → Except Failure call.Reply × Store
  | .getTransactionReceipt tx, s => (world.getTransactionReceipt tx, s)
  | .getBlockNumber chain, s => (world.getBlockNumber chain, s)
  | .findByChainTx tx, s => (.ok (findByChainTx s tx), s)
  | .findById id, s => (.ok (s.deposits.lookup id), s)
  | .create data, s => Database.written s (create pid data s)
  | .update id change, s => Database.written s (update id change s)
  | .post input, s =>
    let (outcome, ledger) := Ledger.post input s.ledger
    (outcome, { s with ledger })
  | .markCredited id ledgerTxnId transfer, s =>
    Database.written s (updateOpen id (.credited ledgerTxnId transfer) s)

/-- A call as a request may see it. -/
abbrev Makes (pid : DepositId) (call : DepositCall) (s : Store)
    (reply : Except Failure call.Reply) (s' : Store) : Prop :=
  Database.Makes perform pid call s reply s'

abbrev DepositM := Async DepositCall DepositCall.Reply Failure

abbrev ask (call : DepositCall) : DepositM call.Reply := Async.call call

end Exchange.MasterDeposits
