import Exchange.Decimal

/-! The networks of master-wallet deposits, and the read-only verification of a
transaction against one of them. -/
namespace Exchange.MasterDeposits

inductive CryptoChain where
  | bsc
  | eth
  | tron
  deriving DecidableEq, Repr

def CryptoChain.text : CryptoChain → String
  | .bsc => "BSC"
  | .eth => "ETH"
  | .tron => "TRON"

inductive Family where
  | evm
  | tron
  deriving DecidableEq, Repr

structure ResolvedNetwork where
  family : Family
  decimals : ℕ
  masterAddress : Option String
  tokenContract : Option String
  minConfirmations : ℕ
  rpcUrl : Option String
  apiUrl : Option String
  deriving DecidableEq, Repr

/-- `config.cryptoDeposits`. -/
structure Config where
  enabled : Bool
  networks : CryptoChain → ResolvedNetwork

/-- Set and not empty. -/
def isGiven (value : Option String) : Bool := value.any (· ≠ "")

/-- Families with a working on-chain verifier. -/
def VERIFIABLE_FAMILIES : List Family := [.evm]

def isFamilyVerifiable (family : Family) : Bool := family ∈ VERIFIABLE_FAMILIES

/-- It has the receiving address, the token contract and an endpoint to verify
against. -/
def isNetworkConfigured (network : ResolvedNetwork) : Bool :=
  let endpoint := match network.family with
    | .evm => network.rpcUrl
    | .tron => network.apiUrl
  isGiven network.masterAddress && isGiven network.tokenContract && isGiven endpoint

def isNetworkEnabled (config : Config) (network : ResolvedNetwork) : Bool :=
  config.enabled && isNetworkConfigured network && isFamilyVerifiable network.family

/-! ## The verdict -/

inductive VerificationOutcome where
  | confirmed
  | pending
  | rejected
  | providerNotConfigured
  | providerError
  deriving DecidableEq, Repr

structure VerificationResult where
  outcome : VerificationOutcome
  amount : Option Decimal := none
  fromAddress : Option String := none
  confirmations : Option ℕ := none
  logIndex : Option ℕ := none
  reason : Option String := none
  deriving DecidableEq, Repr

/-- `data` is the number the word stands for, or none if it stands for none. -/
structure EvmLog where
  address : Option String
  topics : List String
  data : Option ℕ
  logIndex : Option ℕ
  deriving DecidableEq, Repr

structure EvmReceipt where
  status : Option String
  blockNumber : Option ℕ
  logs : List EvmLog
  deriving DecidableEq, Repr

/-- keccak256("Transfer(address,address,uint256)") -/
def TRANSFER_TOPIC : String := "0xddf252ad1be2c89b69c2b068fc378daa952ba7f163c4a11628f55a4df523b3ef"

/-- `text.trim()`, as its characters. -/
def trim (text : String) : List Char :=
  ((text.toList.dropWhile Char.isWhitespace).reverse.dropWhile Char.isWhitespace).reverse

def toLowerCase (text : List Char) : List Char := text.map Char.toLower

/-- Lowercase for comparison; empty when missing. -/
def norm (addr : Option String) : List Char := toLowerCase (trim (addr.getD ""))

/-- A topic word encodes an address in its low 20 bytes. -/
def topicToAddress (topic : String) : List Char :=
  toLowerCase ('0' :: 'x' :: topic.toList.drop (topic.toList.length - 40))

structure MasterTransfer where
  fromAddress : List Char
  value : ℕ
  logIndex : Option ℕ
  deriving DecidableEq, Repr

/-- One log, if it is a transfer of the contract to the master wallet. -/
def masterTransfer (tokenContract masterAddress : String) (log : EvmLog) : Option MasterTransfer :=
  if norm log.address ≠ norm (some tokenContract) then none
  else match log.topics with
    | event :: sender :: recipient :: _ =>
      if norm (some event) ≠ TRANSFER_TOPIC.toList ∨ topicToAddress recipient ≠ norm (some masterAddress) then none
      else log.data.map fun value => ⟨topicToAddress sender, value, log.logIndex⟩
    | _ => none

/-- The first transfer of the contract to the master wallet. -/
def findMasterTransfer (logs : List EvmLog) (tokenContract masterAddress : String) : Option MasterTransfer :=
  logs.findSome? (masterTransfer tokenContract masterAddress)

/-- A base token amount as a decimal. -/
def formatUnits (value decimals : ℕ) : Decimal := (value : ℚ) / 10 ^ decimals

/-- The decision over a fetched receipt and the tip of the chain. -/
def evaluateEvmReceipt (receipt : Option EvmReceipt) (latestBlock : ℕ) (network : ResolvedNetwork) :
    VerificationResult :=
  if ¬isGiven network.masterAddress ∨ ¬isGiven network.tokenContract then
    { outcome := .providerNotConfigured, reason := some "provider_not_configured" }
  else match receipt with
    | none => { outcome := .pending, reason := some "transaction_not_found_yet", confirmations := some 0 }
    | some receipt =>
      if receipt.status.any (· ≠ "0x1") then { outcome := .rejected, reason := some "transaction_failed" }
      else match findMasterTransfer receipt.logs (network.tokenContract.getD "")
          (network.masterAddress.getD "") with
        | none => { outcome := .rejected, reason := some "no_matching_usdt_transfer_to_master" }
        | some transfer =>
          if transfer.value = 0 then { outcome := .rejected, reason := some "zero_amount" }
          else
            let confirmations := latestBlock - receipt.blockNumber.getD latestBlock
            { outcome := if confirmations ≥ network.minConfirmations then .confirmed else .pending
              reason := if confirmations ≥ network.minConfirmations then none
                else some "awaiting_confirmations"
              amount := some (formatUnits transfer.value network.decimals)
              fromAddress := some (String.ofList transfer.fromAddress)
              confirmations := some confirmations
              logIndex := transfer.logIndex }

variable {receipt : Option EvmReceipt} {latestBlock : ℕ} {network : ResolvedNetwork}

/-- What is confirmed is a mined transfer of the contract to the master wallet,
deep enough, of its positive amount. -/
structure ConfirmedTransfer (receipt : Option EvmReceipt) (latestBlock : ℕ) (network : ResolvedNetwork)
    (amount : Decimal) : Prop where
  mined : ∃ mined transfer, receipt = some mined ∧ mined.status.all (· = "0x1") ∧
    findMasterTransfer mined.logs (network.tokenContract.getD "") (network.masterAddress.getD "") =
      some transfer ∧ amount = formatUnits transfer.value network.decimals ∧
    network.minConfirmations ≤ latestBlock - mined.blockNumber.getD latestBlock
  positive : 0 < amount

theorem formatUnits_pos {value : ℕ} (decimals : ℕ) (nonzero : value ≠ 0) : 0 < formatUnits value decimals := by
  have positive : 0 < value := by omega
  unfold formatUnits
  positivity

/-- A verdict to credit names the amount to credit. -/
theorem evaluateEvmReceipt_confirmed
    (confirmed : (evaluateEvmReceipt receipt latestBlock network).outcome = .confirmed) :
    ∃ amount, (evaluateEvmReceipt receipt latestBlock network).amount = some amount ∧
      ConfirmedTransfer receipt latestBlock network amount := by
  unfold evaluateEvmReceipt at confirmed ⊢
  split at confirmed
  · cases confirmed
  rename_i configured
  rw [if_neg configured]
  cases receipt with
  | none => cases confirmed
  | some mined =>
    dsimp only at confirmed ⊢
    split at confirmed
    · cases confirmed
    rename_i succeeded
    rw [if_neg succeeded]
    cases found : findMasterTransfer mined.logs (network.tokenContract.getD "")
        (network.masterAddress.getD "") with
    | none =>
      rw [found] at confirmed
      cases confirmed
    | some transfer =>
      rw [found] at confirmed
      dsimp only at confirmed ⊢
      split at confirmed
      · cases confirmed
      rename_i nonzero
      rw [if_neg nonzero]
      have deep : network.minConfirmations ≤ latestBlock - mined.blockNumber.getD latestBlock := by
        by_contra shallow
        simp [shallow] at confirmed
      have isOk : mined.status.all (· = "0x1") := by
        cases isStatus : mined.status with
        | none => rfl
        | some status => simpa [isStatus] using succeeded
      exact ⟨_, rfl, ⟨mined, transfer, rfl, isOk, found, rfl, deep⟩, formatUnits_pos _ nonzero⟩

end Exchange.MasterDeposits
