import Exchange.ScannerRepository

/-! The deposit scanner: a detection pass, which writes deposit rows and orphans
reorged ones, and a confirmation pass, which credits what is deep enough. -/
namespace Exchange.Scanner
open Ledger

/-- `config.scanner`. -/
structure Config where
  startBlock : ℕ
  safetyLag : ℕ
  reorgBuffer : ℕ

namespace Service

def DEPOSIT_CREDIT_KIND : String := "DEPOSIT_CREDIT"

def DEPOSIT_REFERENCE_TYPE : String := "crypto_deposit"

/-! ## Detection -/

/-- Hex addresses are case-insensitive, base58 addresses are not. -/
def normalizeAddr (addr : String) : String :=
  if addr.startsWith "0x" then addr.toLower else addr

/-- `addrMap.get`: of equal addresses the last one is in the map. -/
def addrMap (addresses : List DepositAddress) (address : String) : Option DepositAddress :=
  addresses.reverse.find? fun known => normalizeAddr known.address = normalizeAddr address

def baseToHuman (amountBase : ℕ) (decimals : ℕ) : Decimal :=
  Decimal.div amountBase (10 ^ decimals)

/-- What a pass has found out before it fetches blocks. -/
structure Window where
  chain : Chain
  asset : String
  token : AssetChain
  addresses : List DepositAddress
  transfers : List TokenTransfer
  fromBlock : ℤ
  toBlock : ℤ

def Window.target (window : Window) (t : TokenTransfer) : Option DepositAddress :=
  addrMap window.addresses t.toAddress

/-- The end of the window, the blocks with transfers to our addresses, and
those with pending deposits. -/
def Window.blocksToFetch (window : Window) (pendingBlocks : List ℤ) : List ℤ :=
  let ours := window.transfers.filter fun t => (window.target t).isSome
  (window.toBlock :: ours.map TokenTransfer.blockNumber ++ pendingBlocks).eraseDups

/-- All blocks of the window, in order. -/
def Window.blocks (window : Window) : List ℤ :=
  (List.range (window.toBlock - window.fromBlock + 1).toNat).map fun i : ℕ => window.fromBlock + i

def transferKey (chain : Chain) (t : TokenTransfer) : DepositKey := ⟨chain, t.txHash, t.logIndex⟩

def detected (window : Window) (target : DepositAddress) (blockRef : BlockRef) (t : TokenTransfer) :
    DetectedDeposit where
  key := transferKey window.chain t
  asset := window.asset
  fromAddress := some t.fromAddress
  amountBase := baseToHuman t.amountBase 0
  amount := baseToHuman t.amountBase window.token.decimals
  blockNumber := t.blockNumber
  blockHash := blockRef.hash
  reqConfirmations := window.token.minConfirmations
  userId := target.userId
  addressId := target.id

/-- A new row; a concurrent scanner may have won the insert race. -/
def insertDetected (input : DetectedDeposit) : ScannerM (CryptoDeposit × Bool) :=
  tryCatch
    (do
      let row ← ask (.create input)
      return (row, true))
    fun failure => do
      if failure = .uniqueViolation then
        let row ← ask (.findUniqueOrThrow input.key)
        return (row, false)
      throw failure

/-- The row comes with whether it is new. -/
def upsertDetectedDeposit (input : DetectedDeposit) : ScannerM (CryptoDeposit × Bool) := do
  let existing ← ask (.findUnique input.key)
  match existing with
  | none => insertDetected input
  | some row =>
    if row.status = .credited then return (row, false)
    let row ← ask (.refresh input (row.status = .orphaned))
    return (row, false)

/-- `getBlock` of one block; a failure is only logged. -/
def fetchBlock (chain : Chain) (blockNumber : ℤ) : ScannerM (Option BlockRef) :=
  tryCatch (ask (.getBlock chain blockNumber)) fun _ => pure none

/-- The blocks that could be fetched. -/
def fetchBlocks (chain : Chain) : List ℤ → ScannerM (List (ℤ × BlockRef))
  | [] => return []
  | blockNumber :: rest => do
    let found ← fetchBlock chain blockNumber
    let refs ← fetchBlocks chain rest
    match found with
    | some blockRef => return (blockNumber, blockRef) :: refs
    | none => return refs

/-- The transfers of one block; the number of new rows is counted. -/
def detectTransfers (window : Window) (blockRef : BlockRef) : List TokenTransfer → ℕ → ScannerM ℕ
  | [], count => return count
  | t :: rest, count =>
    match window.target t with
    | none => detectTransfers window blockRef rest count
    | some target => do
      let (_, created) ← upsertDetectedDeposit (detected window target blockRef t)
      detectTransfers window blockRef rest (if created then count + 1 else count)

structure Progress where
  detected : ℕ
  orphaned : ℕ
  lastHash : Option String
  deriving DecidableEq, Repr

/-- A block without a reference, not requested or not fetched, is skipped. -/
def scanBlocks (window : Window) (blockRefs : List (ℤ × BlockRef)) :
    List ℤ → Progress → ScannerM Progress
  | [], progress => return progress
  | n :: rest, progress =>
    match blockRefs.lookup n with
    | none => scanBlocks window blockRefs rest progress
    | some blockRef => do
      let count ← detectTransfers window blockRef
        (window.transfers.filter fun t => t.blockNumber = n) progress.detected
      let orphaned ← ask (.orphanReorgedDeposits window.chain n blockRef.hash)
      scanBlocks window blockRefs rest
        ⟨count, progress.orphaned + orphaned,
          if n = window.toBlock then some blockRef.hash else progress.lastHash⟩

structure ScanResult where
  fromBlock : ℤ
  toBlock : ℤ
  headBlock : ℤ
  detected : ℕ
  orphaned : ℕ
  deriving DecidableEq, Repr

/-- The pass from the fetching of the blocks on. -/
def scanWindow (window : Window) (lastHash : Option String) : ScannerM Progress := do
  let pendingBlocks ← ask (.getPendingDepositBlocks window.chain window.fromBlock window.toBlock)
  let blockRefs ← fetchBlocks window.chain (window.blocksToFetch pendingBlocks)
  let progress ← scanBlocks window blockRefs window.blocks ⟨0, 0, lastHash⟩
  let _ ← ask (.upsertCursor window.chain ⟨window.toBlock, progress.lastHash, window.toBlock⟩)
  return progress

/-- The token with its contract, which an empty text is not. -/
def withContract (token : AssetChain) : Option (AssetChain × String) :=
  (token.contractAddr.filter (· ≠ "")).map fun contract => (token, contract)

def lastScanned (config : Config) (cursor : Option ChainCursor) : ℤ :=
  match cursor with
  | some cursor => cursor.lastScannedBlock
  | none => config.startBlock - 1

/-- A rolling window behind the cursor. -/
def fromBlock (config : Config) (cursor : Option ChainCursor) : ℤ :=
  max config.startBlock (lastScanned config cursor + 1 - config.reorgBuffer)

def scanOnce (config : Config) (chain : Chain) (asset : String) : ScannerM ScanResult := do
  let head ← ask (.getLatestBlock chain)
  let toBlock := head.number - config.safetyLag
  let cursor ← ask (.getCursor chain)
  let fromBlock := fromBlock config cursor
  if toBlock < config.startBlock then return ⟨0, 0, head.number, 0, 0⟩
  let token ← ask (.getSupportedToken asset chain)
  match token.bind withContract with
  | none => return ⟨0, 0, head.number, 0, 0⟩
  | some (token, contract) =>
    if toBlock < fromBlock then return ⟨fromBlock, toBlock, head.number, 0, 0⟩
    let addresses ← ask (.listActiveDepositAddresses chain)
    let transfers ← ask (.getTokenTransfers chain contract fromBlock toBlock)
    let progress ← scanWindow ⟨chain, asset, token, addresses, transfers, fromBlock, toBlock⟩
      (cursor.bind ChainCursor.lastScannedHash)
    return ⟨fromBlock, toBlock, head.number, progress.detected, progress.orphaned⟩

/-! ## Confirmation -/

/-- Double-entry: incoming clearing → user available. -/
def depositCredit (key : DepositKey) (deposit : CryptoDeposit) (userId : UserId) :
    LedgerPostingInput DepositKey where
  kind := DEPOSIT_CREDIT_KIND
  referenceType := some DEPOSIT_REFERENCE_TYPE
  referenceId := some key
  lines := [⟨none, .sweepClearing, deposit.asset, .debit, deposit.amount⟩,
    ⟨some userId, .userAvailable, deposit.asset, .credit, deposit.amount⟩]

/-- Whether this call performed the credit. -/
def creditDeposit (key : DepositKey) (deposit : CryptoDeposit) : ScannerM Bool := do
  if deposit.status = .credited then return false
  match deposit.userId with
  | none => return false
  | some userId =>
    let posted ← ask (.post (depositCredit key deposit userId))
    let count ← ask (.markCredited key posted.id)
    return count = 1

/-- The depth below the head; none below zero. -/
def depth (head : BlockRef) (blockNumber : ℤ) : ℕ := (head.number - blockNumber + 1).toNat

def nextStatus (confirmations reqConfirmations : ℕ) : DepositStatus :=
  if confirmations ≥ reqConfirmations then .confirmed
  else if confirmations ≥ 1 then .confirming
  else .detected

structure Confirmed where
  promoted : ℕ
  credited : ℕ
  deriving DecidableEq, Repr

/-- The row is advanced only where that changes something. -/
def advance (key : DepositKey) (deposit : CryptoDeposit) (confirmations : ℕ) (status : DepositStatus) :
    ScannerM Unit := do
  if status ≠ deposit.status ∨ confirmations ≠ deposit.confirmations then
    let _ ← ask (.updateConfirmations key confirmations status)

def confirmDeposits (head : BlockRef) :
    List (DepositKey × CryptoDeposit) → Confirmed → ScannerM Confirmed
  | [], done => return done
  | (key, deposit) :: rest, done =>
    match deposit.blockNumber with
    | none => confirmDeposits head rest done
    | some blockNumber => do
      let confirmations := depth head blockNumber
      let status := nextStatus confirmations deposit.reqConfirmations
      advance key deposit confirmations status
      let promoted := if status ≠ deposit.status then done.promoted + 1 else done.promoted
      if confirmations ≥ deposit.reqConfirmations then
        let didCredit ← creditDeposit key { deposit with confirmations, status }
        confirmDeposits head rest ⟨promoted, if didCredit then done.credited + 1 else done.credited⟩
      else confirmDeposits head rest ⟨promoted, done.credited⟩

def runConfirmations (chain : Chain) : ScannerM Confirmed := do
  let head ← ask (.getLatestBlock chain)
  let candidates ← ask (.listCreditableCandidates chain)
  confirmDeposits head candidates ⟨0, 0⟩

/-! ## Requests -/

/-- What a worker starts; a cycle is a detection pass and a confirmation pass. -/
inductive Request where
  | scanOnce (chain : Chain)
  | runConfirmations (chain : Chain)
  | runChainScanCycle (chain : Chain)

inductive Response where
  | scan (result : ScanResult)
  | confirm (result : Confirmed)
  | cycle (scan : ScanResult) (confirm : Confirmed)
  deriving DecidableEq, Repr

def Request.program (config : Config) : Request → ScannerM Response
  | .scanOnce chain => do
    let result ← Service.scanOnce config chain USDT
    return .scan result
  | .runConfirmations chain => do
    let result ← Service.runConfirmations chain
    return .confirm result
  | .runChainScanCycle chain => do
    let scan ← Service.scanOnce config chain USDT
    let confirm ← Service.runConfirmations chain
    return .cycle scan confirm

/-- The request of each number. -/
def IsRequest (config : Config) (requests : ℕ → Request) (pid : ℕ) (program : ScannerM Response) : Prop :=
  program = (requests pid).program config

end Service
end Exchange.Scanner
