import Exchange.AsyncDatabase
import Exchange.Ledger

/-! The tables of the deposit scanner, the calls its two passes await, and the
node of a chain as they see it. The columns of its unique index stand for the
uuid of a deposit. -/
namespace Exchange.Scanner
open Ledger

/-- The chains that are scanned. -/
inductive Chain where
  | tron
  | bsc
  deriving DecidableEq, Repr

def USDT : String := "USDT"

/-! ## The node -/

/-- A block identity. -/
structure BlockRef where
  number : ℤ
  hash : String
  deriving DecidableEq, Repr

/-- A single token Transfer event; `amountBase` is an integer. -/
structure TokenTransfer where
  txHash : String
  logIndex : ℕ
  fromAddress : String
  toAddress : String
  contract : String
  amountBase : ℕ
  blockNumber : ℤ
  blockHash : String
  deriving DecidableEq, Repr

/-- What the node of a chain answers at one moment. -/
structure World where
  getLatestBlock : Chain → Except Failure BlockRef
  getBlock : Chain → ℤ → Except Failure (Option BlockRef)
  getTokenTransfers : Chain → String → ℤ → ℤ → Except Failure (List TokenTransfer)

/-! ## Tables -/

inductive DepositStatus where
  | detected
  | confirming
  | confirmed
  | credited
  | orphaned
  deriving DecidableEq, Repr

/-- Still on its way to a credit. -/
def DepositStatus.isPending (status : DepositStatus) : Bool :=
  status ∈ [.detected, .confirming, .confirmed]

structure DepositKey where
  chain : Chain
  txHash : String
  logIndex : ℕ
  deriving DecidableEq, Repr

structure CryptoDeposit where
  asset : String
  fromAddress : Option String
  amountBase : Decimal
  amount : Decimal
  confirmations : ℕ
  reqConfirmations : ℕ
  status : DepositStatus
  blockNumber : Option ℤ
  blockHash : Option String
  userId : Option UserId
  addressId : Option ℕ
  creditedTxnId : Option ℕ
  deriving DecidableEq, Repr

structure AssetChain where
  contractAddr : Option String
  decimals : ℕ
  minConfirmations : ℕ
  isActive : Bool
  deriving DecidableEq, Repr

structure DepositAddress where
  id : ℕ
  userId : UserId
  address : String
  isActive : Bool
  deriving DecidableEq, Repr

structure ChainCursor where
  lastScannedBlock : ℤ
  lastScannedHash : Option String
  safeBlock : ℤ
  deriving DecidableEq, Repr

structure Store where
  assetChains : String → Chain → Option AssetChain
  addresses : Chain → List DepositAddress
  cursors : Table Chain ChainCursor
  deposits : Table DepositKey CryptoDeposit
  ledger : Ledger.Store DepositKey

/-! ## Queries -/

def getSupportedToken (s : Store) (asset : String) (chain : Chain) : Option AssetChain :=
  (s.assetChains asset chain).filter AssetChain.isActive

def listActiveDepositAddresses (s : Store) (chain : Chain) : List DepositAddress :=
  (s.addresses chain).filter DepositAddress.isActive

def getPendingDepositBlocks (s : Store) (chain : Chain) (fromBlock toBlock : ℤ) : List ℤ :=
  s.deposits.rows.filterMap fun (key, row) =>
    if key.chain = chain ∧ row.status.isPending then
      row.blockNumber.filter fun number => fromBlock ≤ number ∧ number ≤ toBlock
    else none

/-- The pending deposits with a block, by block number. -/
def listCreditableCandidates (s : Store) (chain : Chain) : List (DepositKey × CryptoDeposit) :=
  let rows := s.deposits.rows.filter fun (key, row) =>
    key.chain = chain && row.status.isPending && row.blockNumber.isSome
  rows.insertionSort fun x y => x.2.blockNumber.getD 0 ≤ y.2.blockNumber.getD 0

def findUniqueOrThrow (found : Option α) : Except Failure α :=
  match found with
  | none => .error (.prisma "P2025")
  | some row => .ok row

/-! ## Writes -/

/-- The input of `upsertDetectedDeposit`. -/
structure DetectedDeposit where
  key : DepositKey
  asset : String
  fromAddress : Option String
  amountBase : Decimal
  amount : Decimal
  blockNumber : ℤ
  blockHash : String
  reqConfirmations : ℕ
  userId : UserId
  addressId : ℕ
  deriving DecidableEq, Repr

/-- Storing a value into `DECIMAL(78,0)`. -/
def storeBase (amountBase : Decimal) : Except Failure Decimal :=
  let rounded := Decimal.toFixed 0 amountBase
  if |rounded| < 10 ^ 78 then .ok rounded else .error (.database "numeric field overflow")

/-- The types of the columns, and `crypto_deposits_amount_chk`. -/
def storeDetected (data : DetectedDeposit) : Except Failure DetectedDeposit := do
  let amountBase ← storeBase data.amountBase
  let amount ← Numeric.store data.amount
  if 2 ^ 31 ≤ data.key.logIndex then .error (.database "integer out of range")
  else if amount ≤ 0 ∨ amountBase ≤ 0 then .error (.database "crypto_deposits_amount_chk")
  else .ok { data with amountBase, amount }

/-- A row as it is inserted. -/
def detectedRow (data : DetectedDeposit) : CryptoDeposit where
  asset := data.asset
  fromAddress := data.fromAddress
  amountBase := data.amountBase
  amount := data.amount
  confirmations := 0
  reqConfirmations := data.reqConfirmations
  status := .detected
  blockNumber := some data.blockNumber
  blockHash := some data.blockHash
  userId := some data.userId
  addressId := some data.addressId
  creditedTxnId := none

/-- Changes of one row. -/
inductive Change where
  /-- Block identity and attribution; a deposit that was orphaned reappears. -/
  | refresh (data : DetectedDeposit) (reappears : Bool)
  | orphan
  | confirmations (count : ℕ) (status : DepositStatus)
  | credited (ledgerTxnId : ℕ)
  deriving DecidableEq, Repr

def Change.set (change : Change) (row : CryptoDeposit) : CryptoDeposit :=
  match change with
  | .refresh data reappears => { row with
      blockNumber := some data.blockNumber, blockHash := some data.blockHash,
      amountBase := data.amountBase, amount := data.amount, fromAddress := data.fromAddress,
      userId := some data.userId, addressId := some data.addressId,
      status := if reappears then .detected else row.status }
  | .orphan => { row with status := .orphaned }
  | .confirmations count status => { row with confirmations := count, status }
  | .credited ledgerTxnId => { row with status := .credited, creditedTxnId := some ledgerTxnId }

def Store.save (s : Store) (key : DepositKey) (row : CryptoDeposit) : Store :=
  { s with deposits := s.deposits.insert key row }

/-- `update`: a missing row throws. -/
def update (key : DepositKey) (change : Change) (s : Store) : Except Failure (CryptoDeposit × Store) :=
  match s.deposits.lookup key with
  | none => .error (.prisma "P2025")
  | some row => .ok (change.set row, s.save key (change.set row))

def create (data : DetectedDeposit) (s : Store) : Except Failure (CryptoDeposit × Store) := do
  let data ← storeDetected data
  if (s.deposits.lookup data.key).isSome then .error .uniqueViolation
  else .ok (detectedRow data, s.save data.key (detectedRow data))

def refresh (data : DetectedDeposit) (reappears : Bool) (s : Store) :
    Except Failure (CryptoDeposit × Store) := do
  let data ← storeDetected data
  update data.key (.refresh data reappears) s

/-- What a reorg orphans; a row without a hash is not compared. -/
def isReorged (chain : Chain) (blockNumber : ℤ) (currentHash : String) (key : DepositKey)
    (row : CryptoDeposit) : Bool :=
  key.chain = chain && row.blockNumber = some blockNumber && row.status.isPending &&
    row.blockHash.any (· ≠ currentHash)

def orphanReorgedDeposits (chain : Chain) (blockNumber : ℤ) (currentHash : String) (s : Store) : Store :=
  { s with deposits := s.deposits.mapRows fun key row =>
      if isReorged chain blockNumber currentHash key row then Change.orphan.set row else row }

/-- Flip a deposit to CREDITED; answers with the number of rows. -/
def markCredited (key : DepositKey) (ledgerTxnId : ℕ) (s : Store) : ℕ × Store :=
  match (s.deposits.lookup key).filter (·.status ≠ .credited) with
  | none => (0, s)
  | some row => (1, s.save key ((Change.credited ledgerTxnId).set row))

/-! ## Calls -/

inductive ScannerCall where
  | getLatestBlock (chain : Chain)
  | getBlock (chain : Chain) (blockNumber : ℤ)
  | getTokenTransfers (chain : Chain) (contract : String) (fromBlock toBlock : ℤ)
  | getCursor (chain : Chain)
  | upsertCursor (chain : Chain) (data : ChainCursor)
  | getSupportedToken (asset : String) (chain : Chain)
  | listActiveDepositAddresses (chain : Chain)
  | getPendingDepositBlocks (chain : Chain) (fromBlock toBlock : ℤ)
  | findUnique (key : DepositKey)
  | findUniqueOrThrow (key : DepositKey)
  | create (data : DetectedDeposit)
  /-- The update of `upsertDetectedDeposit`. -/
  | refresh (data : DetectedDeposit) (reappears : Bool)
  | orphanReorgedDeposits (chain : Chain) (blockNumber : ℤ) (currentHash : String)
  | listCreditableCandidates (chain : Chain)
  | updateConfirmations (key : DepositKey) (confirmations : ℕ) (status : DepositStatus)
  | post (input : LedgerPostingInput DepositKey)
  | markCredited (key : DepositKey) (ledgerTxnId : ℕ)
  deriving DecidableEq, Repr

abbrev ScannerCall.Reply : ScannerCall → Type
  | .getLatestBlock _ => BlockRef
  | .getBlock _ _ => Option BlockRef
  | .getTokenTransfers _ _ _ _ => List TokenTransfer
  | .getCursor _ => Option ChainCursor
  | .upsertCursor _ _ => ChainCursor
  | .getSupportedToken _ _ => Option AssetChain
  | .listActiveDepositAddresses _ => List DepositAddress
  | .getPendingDepositBlocks _ _ _ => List ℤ
  | .findUnique _ => Option CryptoDeposit
  | .findUniqueOrThrow _ => CryptoDeposit
  | .create _ => CryptoDeposit
  | .refresh _ _ => CryptoDeposit
  | .orphanReorgedDeposits _ _ _ => ℕ
  | .listCreditableCandidates _ => List (DepositKey × CryptoDeposit)
  | .updateConfirmations _ _ _ => CryptoDeposit
  | .post _ => LedgerTransaction DepositKey
  | .markCredited _ _ => ℕ

/-- What a call does. -/
def perform (world : World) (_ : ℕ) : (call : ScannerCall) → Store → Except Failure call.Reply × Store
  | .getLatestBlock chain, s => (world.getLatestBlock chain, s)
  | .getBlock chain blockNumber, s => (world.getBlock chain blockNumber, s)
  | .getTokenTransfers chain contract fromBlock toBlock, s =>
    (world.getTokenTransfers chain contract fromBlock toBlock, s)
  | .getCursor chain, s => (.ok (s.cursors.lookup chain), s)
  | .upsertCursor chain data, s => (.ok data, { s with cursors := s.cursors.insert chain data })
  | .getSupportedToken asset chain, s => (.ok (getSupportedToken s asset chain), s)
  | .listActiveDepositAddresses chain, s => (.ok (listActiveDepositAddresses s chain), s)
  | .getPendingDepositBlocks chain fromBlock toBlock, s =>
    (.ok (getPendingDepositBlocks s chain fromBlock toBlock), s)
  | .findUnique key, s => (.ok (s.deposits.lookup key), s)
  | .findUniqueOrThrow key, s => (findUniqueOrThrow (s.deposits.lookup key), s)
  | .create data, s => Database.written s (create data s)
  | .refresh data reappears, s => Database.written s (refresh data reappears s)
  | .orphanReorgedDeposits chain blockNumber currentHash, s =>
    (.ok (s.deposits.rows.countP fun (key, row) => isReorged chain blockNumber currentHash key row),
      orphanReorgedDeposits chain blockNumber currentHash s)
  | .listCreditableCandidates chain, s => (.ok (listCreditableCandidates s chain), s)
  | .updateConfirmations key confirmations status, s =>
    Database.written s (update key (.confirmations confirmations status) s)
  | .post input, s =>
    let (outcome, ledger) := Ledger.post input s.ledger
    (outcome, { s with ledger })
  | .markCredited key ledgerTxnId, s =>
    let (count, s') := markCredited key ledgerTxnId s
    (.ok count, s')

/-- A call as a pass may see it. -/
abbrev Makes (pid : ℕ) (call : ScannerCall) (s : Store) (reply : Except Failure call.Reply) (s' : Store) : Prop :=
  Database.Makes perform pid call s reply s'

abbrev ScannerM := Async ScannerCall ScannerCall.Reply Failure

abbrev ask (call : ScannerCall) : ScannerM call.Reply := Async.call call

end Exchange.Scanner
