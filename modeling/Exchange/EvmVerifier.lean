import Exchange.MasterDepositVerifier
import Exchange.Numerals

/-! The evaluation of a fetched EVM receipt on the texts the node answers with:
numbers are read from hex, addresses compared without case, and the amount is
written out as a decimal numeral. -/
namespace Exchange.EvmVerifier
open MasterDeposits (ResolvedNetwork VerificationOutcome isGiven trim norm topicToAddress TRANSFER_TOPIC)
open Numerals

/-! ## Numbers as text -/

/-- The value of a digit in a base up to 16. -/
def digitValue (base : ℕ) (c : Char) : Option ℕ :=
  let value :=
    if c.isDigit then c.toNat - '0'.toNat
    else if 'a' ≤ c ∧ c ≤ 'f' then c.toNat - 'a'.toNat + 10
    else if 'A' ≤ c ∧ c ≤ 'F' then c.toNat - 'A'.toNat + 10
    else base
  if value < base then some value else none

/-- One digit or more, and nothing else. -/
def readDigits (base : ℕ) : List Char → Option ℕ
  | [] => none
  | digits => digits.foldlM (fun value c => (digitValue base c).map (value * base + ·)) 0

/-- `BigInt(text)`, or none where it throws a `SyntaxError`. -/
def bigInt (text : String) : Option ℤ :=
  match trim text with
  | [] => some 0
  | '0' :: 'x' :: digits | '0' :: 'X' :: digits => (readDigits 16 digits).map Int.ofNat
  | '0' :: 'o' :: digits | '0' :: 'O' :: digits => (readDigits 8 digits).map Int.ofNat
  | '0' :: 'b' :: digits | '0' :: 'B' :: digits => (readDigits 2 digits).map Int.ofNat
  | '-' :: digits => (readDigits 10 digits).map (-Int.ofNat ·)
  | '+' :: digits => (readDigits 10 digits).map Int.ofNat
  | digits => (readDigits 10 digits).map Int.ofNat

/-- The digits a number in hex begins with; `Number.parseInt(text, 16)` is NaN
where there are none. -/
def parseHex (text : String) : Option ℤ :=
  let number (text : List Char) : Option ℕ :=
    let digits := match text with
      | '0' :: 'x' :: digits | '0' :: 'X' :: digits => digits
      | digits => digits
    readDigits 16 (digits.takeWhile fun c => (digitValue 16 c).isSome)
  match trim text with
  | '-' :: text => (number text).map (-Int.ofNat ·)
  | '+' :: text => (number text).map Int.ofNat
  | text => (number text).map Int.ofNat

/-- `value.toString()` -/
def integerText (value : ℤ) : List Char :=
  if value < 0 then '-' :: Nat.toDigits 10 value.natAbs else Nat.toDigits 10 value.natAbs

/-- Convert a base token amount to a human decimal string. -/
def formatUnits (value : ℤ) (decimals : ℕ) : List Char :=
  if decimals = 0 then integerText value
  else
    let digits := padStart (decimals + 1) (Nat.toDigits 10 value.natAbs)
    let whole := digits.take (digits.length - decimals)
    let frac := stripZeros (digits.drop (digits.length - decimals))
    if value < 0 then '-' :: numeral whole frac else numeral whole frac

theorem isDigit_toDigits (n : ℕ) : ∀ c ∈ Nat.toDigits 10 n, c.isDigit := fun _ member =>
  Nat.isDigit_of_mem_toDigits (by decide) (by decide) member

/-- The digits that are written, with enough of them in front of the point. -/
def unitDigits (n decimals : ℕ) : List Char :=
  if decimals = 0 then Nat.toDigits 10 n else padStart (decimals + 1) (Nat.toDigits 10 n)

theorem formatUnits_eq (value : ℤ) (decimals : ℕ) : formatUnits value decimals =
    let digits := unitDigits value.natAbs decimals
    let unsigned := numeral (digits.take (digits.length - decimals))
      (stripZeros (digits.drop (digits.length - decimals)))
    if value < 0 then '-' :: unsigned else unsigned := by
  unfold formatUnits integerText unitDigits
  by_cases plain : decimals = 0
  · simp [plain, numeral, stripZeros]
  · simp [plain]

theorem isDigit_unitDigits (n decimals : ℕ) : ∀ c ∈ unitDigits n decimals, c.isDigit := by
  unfold unitDigits
  split
  · exact isDigit_toDigits n
  · exact isDigit_padStart (isDigit_toDigits n)

theorem le_length_unitDigits (n decimals : ℕ) : decimals ≤ (unitDigits n decimals).length := by
  unfold unitDigits
  split
  · omega
  · rw [length_padStart]
    omega

theorem ofDigitChars_unitDigits (n decimals : ℕ) : Nat.ofDigitChars 10 (unitDigits n decimals) 0 = n := by
  unfold unitDigits
  split
  · exact Nat.ofDigitChars_ten_toDigits
  · rw [ofDigitChars_padStart, Nat.ofDigitChars_ten_toDigits]

/-- What is written out is the amount, exactly. -/
theorem decimalValue_formatUnits (value : ℤ) (decimals : ℕ) :
    decimalValue (formatUnits value decimals) = value / 10 ^ decimals := by
  have digits := isDigit_unitDigits value.natAbs decimals
  have enough := le_length_unitDigits value.natAbs decimals
  have read := ofDigitChars_unitDigits value.natAbs decimals
  rw [formatUnits_eq]
  dsimp only
  split
  · rename_i negative
    have isValue : (value : ℚ) = -(value.natAbs : ℚ) := by
      rw [← Int.cast_natCast, Int.natCast_natAbs, abs_of_neg negative]
      push_cast
      ring
    rw [decimalValue_neg_pointed digits enough, read, isValue, neg_div]
  · rename_i nonneg
    have isValue : (value : ℚ) = (value.natAbs : ℚ) := by
      rw [← Int.cast_natCast, Int.natCast_natAbs, abs_of_nonneg (not_lt.mp nonneg)]
    rw [decimalValue_pointed digits enough, read, isValue]

/-! ## The receipt -/

structure EvmLog where
  address : Option String
  topics : Option (List String)
  data : Option String
  logIndex : Option String
  deriving DecidableEq, Repr

structure EvmReceipt where
  status : Option String
  blockNumber : Option String
  logs : Option (List EvmLog)
  deriving DecidableEq, Repr

/-- An index that is no number is none inside. -/
structure MasterTransfer where
  sender : List Char
  recipient : List Char
  value : ℤ
  logIndex : Option (Option ℤ)
  deriving DecidableEq, Repr

/-- (The summary for the audit, which repeats these, is left out.) -/
structure VerificationResult where
  outcome : VerificationOutcome
  reason : Option String := none
  amount : Option (List Char) := none
  fromAddress : Option (List Char) := none
  toAddress : Option (List Char) := none
  confirmations : Option ℕ := none
  minConfirmations : Option ℕ := none
  logIndex : Option (Option ℤ) := none
  deriving DecidableEq, Repr

/-- The amount a log names; data that is missing, empty or bare is zero. -/
def EvmLog.value (log : EvmLog) : Option ℤ :=
  bigInt (if isGiven log.data && log.data ≠ some "0x" then log.data.getD "" else "0x0")

/-- One log, if it is a transfer of the contract to the master wallet whose
amount can be read. -/
def masterTransfer (tokenContract masterAddress : String) (log : EvmLog) : Option MasterTransfer :=
  if norm log.address ≠ norm (some tokenContract) then none
  else match log.topics.getD [] with
    | event :: sender :: recipient :: _ =>
      if norm (some event) ≠ TRANSFER_TOPIC.toList then none
      else if topicToAddress recipient ≠ norm (some masterAddress) then none
      else log.value.map fun value =>
        ⟨topicToAddress sender, norm (some masterAddress), value, log.logIndex.map parseHex⟩
    | _ => none

/-- The first transfer of the contract to the master wallet. -/
def findMasterTransfer (logs : List EvmLog) (tokenContract masterAddress : String) : Option MasterTransfer :=
  logs.findSome? (masterTransfer tokenContract masterAddress)

/-- The block of the receipt, or the tip where it has none. -/
def EvmReceipt.block (receipt : EvmReceipt) (latestBlock : ℤ) : Except Failure ℤ :=
  let text := receipt.blockNumber.getD ""
  if text = "" then .ok latestBlock
  else match bigInt text with
    | some block => .ok block
    | none => .error (.error s!"Cannot convert {text} to a BigInt")

/-- Pure evaluation of a fetched receipt and the tip of the chain. -/
def evaluateEvmReceipt (receipt : Option EvmReceipt) (latestBlock : ℤ) (network : ResolvedNetwork) :
    Except Failure VerificationResult :=
  if !isGiven network.masterAddress || !isGiven network.tokenContract then
    .ok { outcome := .providerNotConfigured, reason := some "provider_not_configured" }
  else match receipt with
    | none => .ok
      { outcome := .pending, reason := some "transaction_not_found_yet"
        confirmations := some 0
        minConfirmations := some network.minConfirmations }
    | some receipt =>
      if receipt.status.any (· ≠ "0x1") then .ok { outcome := .rejected, reason := some "transaction_failed" }
      else match findMasterTransfer (receipt.logs.getD []) (network.tokenContract.getD "")
          (network.masterAddress.getD "") with
        | none => .ok { outcome := .rejected, reason := some "no_matching_usdt_transfer_to_master" }
        | some transfer =>
          if transfer.value ≤ 0 then .ok { outcome := .rejected, reason := some "zero_amount" }
          else do
            let txBlock ← receipt.block latestBlock
            let confirmations := (latestBlock - txBlock).toNat
            let confirmed : Bool := confirmations ≥ network.minConfirmations
            return {
              outcome := if confirmed then .confirmed else .pending
              reason := if confirmed then none else some "awaiting_confirmations"
              amount := some (formatUnits transfer.value network.decimals)
              fromAddress := some transfer.sender
              toAddress := some transfer.recipient
              confirmations := some confirmations
              minConfirmations := some network.minConfirmations
              logIndex := transfer.logIndex }

/-! ## What is confirmed -/

/-- A Transfer event of the configured token to the master wallet. -/
def isMasterTransfer (network : ResolvedNetwork) (log : EvmLog) : Bool :=
  norm log.address = norm network.tokenContract &&
    match log.topics.getD [] with
    | event :: _ :: recipient :: _ =>
      norm (some event) = TRANSFER_TOPIC.toList && topicToAddress recipient = norm network.masterAddress
    | _ => false

/-- The receipt's verdict credits this amount of the token. -/
def Confirms (receipt : Option EvmReceipt) (latestBlock : ℤ) (network : ResolvedNetwork) (amount : ℚ) : Prop :=
  ∃ result, evaluateEvmReceipt receipt latestBlock network = .ok result ∧ result.outcome = .confirmed ∧
    result.amount.map decimalValue = some amount

def Configured (network : ResolvedNetwork) : Prop :=
  isGiven network.masterAddress ∧ isGiven network.tokenContract

def DeepEnough (receipt : EvmReceipt) (latestBlock : ℤ) (network : ResolvedNetwork) : Prop :=
  ∃ block, receipt.block latestBlock = .ok block ∧ network.minConfirmations ≤ (latestBlock - block).toNat

/-- The first transfer to the master wallet whose amount can be read is of this
value. -/
def FirstPayment (network : ResolvedNetwork) (logs : List EvmLog) (value : ℤ) : Prop :=
  ∃ earlier log later, logs = earlier ++ log :: later ∧ isMasterTransfer network log ∧ log.value = some value ∧
    ∀ other ∈ earlier, isMasterTransfer network other → other.value = none

variable {network : ResolvedNetwork}

theorem norm_of_given (given : isGiven text) : norm (some (text.getD "")) = norm text := by
  cases text with
  | none => cases given
  | some text => rfl

theorem masterTransfer_eq (configured : Configured network) (log : EvmLog) :
    (masterTransfer (network.tokenContract.getD "") (network.masterAddress.getD "") log).map (·.value) =
      if isMasterTransfer network log then log.value else none := by
  rw [masterTransfer, norm_of_given configured.1, norm_of_given configured.2, isMasterTransfer]
  by_cases contract : norm log.address = norm network.tokenContract
  · simp only [contract, ne_eq, not_true_eq_false, ↓reduceIte, decide_true, Bool.true_and]
    generalize log.topics.getD [] = topics
    rcases topics with - | ⟨event, - | ⟨sender, - | ⟨recipient, rest⟩⟩⟩
    · rfl
    · rfl
    · rfl
    · by_cases isEvent : norm (some event) = TRANSFER_TOPIC.toList <;>
        by_cases toMaster : topicToAddress recipient = norm network.masterAddress <;>
        simp [isEvent, toMaster, Function.comp_def]
  · simp [contract]

theorem firstPayment_iff (configured : Configured network) (logs : List EvmLog) (value : ℤ) :
    FirstPayment network logs value ↔ ∃ transfer, findMasterTransfer logs (network.tokenContract.getD "")
      (network.masterAddress.getD "") = some transfer ∧ transfer.value = value := by
  have skipped : ∀ log : EvmLog, masterTransfer (network.tokenContract.getD "")
      (network.masterAddress.getD "") log = none ↔ (isMasterTransfer network log → log.value = none) := by
    intro log
    rw [← Option.map_eq_none_iff (f := (·.value)), masterTransfer_eq configured]
    by_cases isTransfer : isMasterTransfer network log <;> simp [isTransfer]
  have taken : ∀ log : EvmLog, (∃ transfer, masterTransfer (network.tokenContract.getD "")
      (network.masterAddress.getD "") log = some transfer ∧ transfer.value = value) ↔
        isMasterTransfer network log ∧ log.value = some value := by
    intro log
    refine (Option.map_eq_some_iff (f := fun transfer : MasterTransfer => transfer.value)).symm.trans ?_
    rw [masterTransfer_eq configured]
    by_cases isTransfer : isMasterTransfer network log <;> simp [isTransfer]
  simp only [findMasterTransfer, List.findSome?_eq_some_iff, skipped]
  constructor
  · rintro ⟨earlier, log, later, rfl, isTransfer, isValue, before⟩
    obtain ⟨transfer, found, same⟩ := (taken log).mpr ⟨isTransfer, isValue⟩
    exact ⟨transfer, ⟨earlier, log, later, rfl, found, before⟩, same⟩
  · rintro ⟨transfer, ⟨earlier, log, later, rfl, found, before⟩, same⟩
    obtain ⟨isTransfer, isValue⟩ := (taken log).mp ⟨transfer, found, same⟩
    exact ⟨earlier, log, later, rfl, isTransfer, isValue, before⟩

/-- The verdict on a receipt of a transaction that did not fail, with its first
payment. -/
theorem evaluate_payment (configured : Configured network) {mined : EvmReceipt}
    (succeeded : mined.status = none ∨ mined.status = some "0x1")
    (found : findMasterTransfer (mined.logs.getD []) (network.tokenContract.getD "")
      (network.masterAddress.getD "") = some transfer)
    (positive : 0 < transfer.value) (block : mined.block latestBlock = .ok txBlock) :
    ∃ result, evaluateEvmReceipt (some mined) latestBlock network = .ok result ∧
      (result.outcome = .confirmed ↔ network.minConfirmations ≤ (latestBlock - txBlock).toNat) ∧
      result.amount = some (formatUnits transfer.value network.decimals) := by
  have notFailed : ¬mined.status.any (· ≠ "0x1") := by
    rcases succeeded with none | one
    · simp [none]
    · simp [one]
  rw [evaluateEvmReceipt, if_neg (by simp [configured.1, configured.2])]
  dsimp only
  rw [if_neg notFailed, found]
  dsimp only
  rw [if_neg (not_le.mpr positive), block]
  refine ⟨_, rfl, ?_, rfl⟩
  by_cases deep : network.minConfirmations ≤ (latestBlock - txBlock).toNat <;> simp [deep]

/-- A receipt is confirmed by its first payment, and by no other. -/
theorem confirms_iff (receipt : Option EvmReceipt) (latestBlock : ℤ) (network : ResolvedNetwork) (amount : ℚ) :
    Confirms receipt latestBlock network amount ↔ Configured network ∧ ∃ mined, receipt = some mined ∧
      (mined.status = none ∨ mined.status = some "0x1") ∧ DeepEnough mined latestBlock network ∧
      ∃ value, FirstPayment network (mined.logs.getD []) value ∧ 0 < value ∧
        amount = value / 10 ^ network.decimals := by
  constructor
  · rintro ⟨result, evaluated, confirmed, isAmount⟩
    unfold evaluateEvmReceipt at evaluated
    split at evaluated
    · cases evaluated
      cases confirmed
    rename_i given
    have configured : Configured network := by simpa [Configured] using given
    refine ⟨configured, ?_⟩
    cases receipt with
    | none =>
      cases evaluated
      cases confirmed
    | some mined =>
      dsimp only at evaluated
      split at evaluated
      · cases evaluated
        cases confirmed
      rename_i notFailed
      have succeeded : mined.status = none ∨ mined.status = some "0x1" := by
        cases isStatus : mined.status with
        | none => exact .inl rfl
        | some status => simpa [isStatus] using notFailed
      split at evaluated
      · cases evaluated
        cases confirmed
      rename_i transfer found
      split at evaluated
      · cases evaluated
        cases confirmed
      rename_i positive
      rw [except_bind_ok] at evaluated
      obtain ⟨txBlock, block, verdict⟩ := evaluated
      cases verdict
      have deep : network.minConfirmations ≤ (latestBlock - txBlock).toNat := by
        by_contra shallow
        simp [shallow] at confirmed
      have first := (firstPayment_iff configured _ transfer.value).mpr ⟨transfer, found, rfl⟩
      refine ⟨mined, rfl, succeeded, ⟨txBlock, block, deep⟩, transfer.value, first, not_le.mp positive, ?_⟩
      rw [Option.map_some, decimalValue_formatUnits] at isAmount
      exact (Option.some.inj isAmount).symm
  · rintro ⟨configured, mined, rfl, succeeded, ⟨txBlock, block, deep⟩, value, first, positive, rfl⟩
    obtain ⟨transfer, found, rfl⟩ := (firstPayment_iff configured _ value).mp first
    obtain ⟨result, evaluated, confirmed, isAmount⟩ :=
      evaluate_payment configured succeeded found positive block
    refine ⟨result, evaluated, confirmed.mpr deep, ?_⟩
    rw [isAmount, Option.map_some, decimalValue_formatUnits]

/-! ## The numbers it reads

Where the texts are read first, the verdict is the one that
`MasterDeposits.evaluateEvmReceipt` gives on numbers. -/

def EvmLog.decode (log : EvmLog) : MasterDeposits.EvmLog where
  address := log.address
  topics := log.topics.getD []
  data := log.value.map Int.toNat
  logIndex := (log.logIndex.map parseHex).join.map Int.toNat

def EvmReceipt.decode (receipt : EvmReceipt) : MasterDeposits.EvmReceipt where
  status := receipt.status
  blockNumber :=
    let text := receipt.blockNumber.getD ""
    if text = "" then none else (bigInt text).map Int.toNat
  logs := (receipt.logs.getD []).map EvmLog.decode

def MasterTransfer.decode (transfer : MasterTransfer) : MasterDeposits.MasterTransfer :=
  ⟨transfer.sender, transfer.value.toNat, transfer.logIndex.join.map Int.toNat⟩

theorem masterTransfer_decode (tokenContract masterAddress : String) (log : EvmLog) :
    MasterDeposits.masterTransfer tokenContract masterAddress log.decode =
      (masterTransfer tokenContract masterAddress log).map MasterTransfer.decode := by
  rw [MasterDeposits.masterTransfer, masterTransfer]
  by_cases contract : norm log.address = norm (some tokenContract)
  · simp only [EvmLog.decode, contract, ne_eq, not_true_eq_false, ↓reduceIte]
    generalize log.topics.getD [] = topics
    rcases topics with - | ⟨event, - | ⟨sender, - | ⟨recipient, rest⟩⟩⟩
    · rfl
    · rfl
    · rfl
    · by_cases isEvent : norm (some event) = TRANSFER_TOPIC.toList <;>
        by_cases toMaster : topicToAddress recipient = norm (some masterAddress) <;>
        cases log.value <;> simp [isEvent, toMaster, MasterTransfer.decode]
  · simp [EvmLog.decode, contract]

theorem block_decode {mined : EvmReceipt} {latestBlock : ℕ} (block : mined.block latestBlock = .ok txBlock) :
    mined.decode.blockNumber.getD latestBlock = txBlock.toNat := by
  unfold EvmReceipt.block at block
  unfold EvmReceipt.decode
  dsimp only at block ⊢
  split at block
  · rename_i empty
    cases block
    simp [empty]
  · rename_i given
    split at block
    · rename_i isBlock
      cases block
      simp [given, isBlock]
    · cases block

theorem evaluate_decode {mined : EvmReceipt} {latestBlock : ℕ} (block : mined.block latestBlock = .ok txBlock)
    (nonneg : 0 ≤ txBlock) (network : ResolvedNetwork) :
    ∃ result, evaluateEvmReceipt (some mined) latestBlock network = .ok result ∧
      result.outcome = (MasterDeposits.evaluateEvmReceipt (some mined.decode) latestBlock network).outcome ∧
      result.amount.map decimalValue =
        (MasterDeposits.evaluateEvmReceipt (some mined.decode) latestBlock network).amount := by
  have found : MasterDeposits.findMasterTransfer mined.decode.logs (network.tokenContract.getD "")
      (network.masterAddress.getD "") = (findMasterTransfer (mined.logs.getD []) (network.tokenContract.getD "")
        (network.masterAddress.getD "")).map MasterTransfer.decode := by
    rw [MasterDeposits.findMasterTransfer, findMasterTransfer, EvmReceipt.decode, List.findSome?_map,
      List.map_findSome?]
    exact congrArg (List.findSome? · _) (funext fun log => masterTransfer_decode _ _ log)
  unfold evaluateEvmReceipt MasterDeposits.evaluateEvmReceipt
  by_cases given : isGiven network.masterAddress ∧ isGiven network.tokenContract
  · rw [if_neg (by simp [given.1, given.2]), if_neg (by simp [given.1, given.2])]
    dsimp only
    rw [found, show mined.decode.status = mined.status from rfl]
    split
    · exact ⟨_, rfl, rfl, rfl⟩
    · cases findMasterTransfer (mined.logs.getD []) (network.tokenContract.getD "")
          (network.masterAddress.getD "") with
      | none => exact ⟨_, rfl, rfl, rfl⟩
      | some transfer =>
        obtain ⟨height, rfl⟩ := Int.eq_ofNat_of_zero_le nonneg
        rw [Option.map_some]
        dsimp only [MasterTransfer.decode]
        rw [block, block_decode block, Int.toNat_natCast]
        by_cases nothing : transfer.value ≤ 0
        · rw [if_pos nothing, if_pos (Int.toNat_eq_zero.mpr nothing)]
          exact ⟨_, rfl, rfl, rfl⟩
        · have positive : 0 < transfer.value := not_le.mp nothing
          rw [if_neg nothing, if_neg (by omega)]
          refine ⟨_, rfl, ?_, ?_⟩
          · simp
          · have isValue : ((transfer.value.toNat : ℤ) : ℚ) = transfer.value := by
              rw [Int.toNat_of_nonneg positive.le]
            rw [Option.map_some, decimalValue_formatUnits, MasterDeposits.formatUnits, ← isValue, Int.cast_natCast]
  · have notGiven : ¬isGiven network.masterAddress ∨ ¬isGiven network.tokenContract := not_and_or.mp given
    rw [if_pos (by simpa using notGiven), if_pos notGiven]
    exact ⟨_, rfl, rfl, rfl⟩

/-- What the receipt's transfers to the master wallet come to. -/
def totalPaid (network : ResolvedNetwork) (logs : List EvmLog) : ℤ :=
  (logs.map fun log => if isMasterTransfer network log then log.value.getD 0 else 0).sum

def bsc : ResolvedNetwork where
  family := .evm
  decimals := 6
  masterAddress := some "0x1111111111111111111111111111111111111111"
  tokenContract := some "0x2222222222222222222222222222222222222222"
  minConfirmations := 15
  rpcUrl := some "http://rpc.local"
  apiUrl := none

def transferLog (data : String) : EvmLog where
  address := bsc.tokenContract
  topics := some [TRANSFER_TOPIC, "0x0000000000000000000000003333333333333333333333333333333333333333",
    "0x0000000000000000000000001111111111111111111111111111111111111111"]
  data := some data
  logIndex := some "0x0"

/-- A transfer of 1 USDT and one of 2. -/
def twoTransfers : EvmReceipt :=
  ⟨some "0x1", some "0x10", some [transferLog "0x0f4240", transferLog "0x1e8480"]⟩

/-- Only the first of two transfers is credited. -/
theorem second_transfer_lost : ¬∀ (receipt : EvmReceipt) (latestBlock : ℤ) (network : ResolvedNetwork) (amount : ℚ),
    Configured network → (Confirms (some receipt) latestBlock network amount ↔
      receipt.status = some "0x1" ∧ DeepEnough receipt latestBlock network ∧
        0 < totalPaid network (receipt.logs.getD []) ∧
        amount = totalPaid network (receipt.logs.getD []) / 10 ^ network.decimals) := by
  intro always
  have given : Configured bsc := ⟨by decide +kernel, by decide +kernel⟩
  have block : twoTransfers.block 31 = .ok 16 := by decide +kernel
  obtain ⟨result, evaluated, confirmed, isAmount⟩ := (always twoTransfers 31 bsc 3 given).mpr
    ⟨rfl, ⟨16, block, by decide⟩, by decide +kernel, by decide +kernel⟩
  have credited : (evaluateEvmReceipt (some twoTransfers) 31 bsc).map (·.amount.map decimalValue) = .ok (some 1) := by
    decide +kernel
  rw [evaluated] at credited
  have same : some (3 : ℚ) = some 1 := isAmount.symm.trans (Except.ok.inj credited)
  norm_num at same

end Exchange.EvmVerifier
