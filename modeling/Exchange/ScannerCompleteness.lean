import Exchange.ScannerEffects

/-! No transfer is lost: what a cursor has passed is recorded. A block that a
pass could not fetch is skipped, and the cursor passes it all the same. -/
namespace Exchange.Scanner.Completeness
open Service

/-- The canonical blocks of a chain: their hashes, and the transfers of a token. -/
structure Blockchain where
  hash : ℤ → String
  transfers : String → ℤ → List TokenTransfer
  numbered : ∀ contract n, ∀ t ∈ transfers contract n, t.blockNumber = n ∧ t.blockHash = hash n

/-- The transfers of a range of blocks. -/
def Blockchain.between (blockchain : Blockchain) (contract : String) (fromBlock toBlock : ℤ) :
    List TokenTransfer :=
  ((List.range (toBlock - fromBlock + 1).toNat).map fun i : ℕ => fromBlock + i).flatMap
    (blockchain.transfers contract)

variable (config : Config) (blockchain : Chain → Blockchain)

/-- The node answers from the canonical chain, if it answers. -/
def honest : Answered ScannerCall ScannerCall.Reply Failure → Bool
  | ⟨.getBlock chain n, .ok (some blockRef)⟩ => blockRef = ⟨n, (blockchain chain).hash n⟩
  | ⟨.getTokenTransfers chain contract fromBlock toBlock, .ok transfers⟩ =>
    transfers.Perm ((blockchain chain).between contract fromBlock toBlock)
  | _ => true

/-- The block holds a transfer to an active address that has no row. -/
def hasUnrecorded (s : Store) (chain : Chain) (n : ℤ) : Bool :=
  ((getSupportedToken s USDT chain).bind withContract).any fun (_, contract) =>
    ((blockchain chain).transfers contract n).any fun t =>
      (addrMap (listActiveDepositAddresses s chain) t.toAddress).isSome &&
        (s.deposits.lookup (transferKey chain t)).isNone

/-- Every transfer to an active address between the start block and the cursor
has a row. -/
def NoneLost (s : Store) : Prop :=
  ∀ chain cursor, s.cursors.lookup chain = some cursor →
    ∀ n : ℤ, config.startBlock ≤ n → n ≤ cursor.lastScannedBlock → hasUnrecorded blockchain s chain n = false

/-- The block of a `getBlock` that had no block for an answer. -/
def failedBlock (chain : Chain) : Answered ScannerCall ScannerCall.Reply Failure → Option ℤ
  | ⟨.getBlock other n, reply⟩ => if other = chain ∧ (reply.toOption.join).isNone then some n else none
  | _ => none

/-- When a pass moves the cursor, no block that it could not fetch holds a
transfer to an active address without a row. -/
def attends (x : History) (pid : ℕ) : ScannerCall → Bool
  | .upsertCursor chain _ => ((x.past pid).filterMap (failedBlock chain)).all fun n =>
      !hasUnrecorded blockchain x.store chain n
  | _ => true

def observed (pid : ℕ) (call : ScannerCall) (x : History) (reply : Except Failure call.Reply)
    (s' : Store) : Prop :=
  Makes pid call x.store reply s' ∧ honest blockchain ⟨call, reply⟩

def attentive (pid : ℕ) (call : ScannerCall) (x : History) (reply : Except Failure call.Reply)
    (s' : Store) : Prop :=
  observed blockchain pid call x reply s' ∧ attends blockchain x pid call

/-- What the passes have seen is still so, and nothing is lost. -/
structure Complete (x : History) : Prop where
  lost : NoneLost config blockchain x.store
  cursor : ∀ pid chain cursor, ⟨.getCursor chain, .ok cursor⟩ ∈ x.past pid →
    ∀ n : ℤ, config.startBlock ≤ n → n ≤ lastScanned config cursor →
      hasUnrecorded blockchain x.store chain n = false
  token : ∀ pid chain token, ⟨.getSupportedToken USDT chain, .ok token⟩ ∈ x.past pid →
    token = getSupportedToken x.store USDT chain
  addresses : ∀ pid chain addresses, ⟨.listActiveDepositAddresses chain, .ok addresses⟩ ∈ x.past pid →
    addresses = listActiveDepositAddresses x.store chain
  transfers : ∀ pid chain contract fromBlock toBlock transfers,
    ⟨.getTokenTransfers chain contract fromBlock toBlock, .ok transfers⟩ ∈ x.past pid →
      transfers.Perm ((blockchain chain).between contract fromBlock toBlock)
  recorded : ∀ pid key, Recorded key (x.past pid) → (x.store.deposits.lookup key).isSome

variable {config blockchain} {requests : ℕ → Request} {x : History} {pid : ℕ} {call : ScannerCall}
  {reply : Except Failure call.Reply} {s s' : Store} {chain : Chain} {n : ℤ} {past : Past}
  {made : Answered ScannerCall ScannerCall.Reply Failure}

/-! ## Blocks -/

theorem mem_between {contract : String} {fromBlock toBlock : ℤ} {t : TokenTransfer}
    (member : t ∈ (blockchain chain).transfers contract n) (from_le : fromBlock ≤ n) (le_to : n ≤ toBlock) :
    t ∈ (blockchain chain).between contract fromBlock toBlock := by
  simp only [Blockchain.between, List.mem_flatMap, List.mem_map, List.mem_range]
  exact ⟨n, ⟨(n - fromBlock).toNat, by omega, by omega⟩, member⟩

theorem mem_blocks {window : Window} (from_le : window.fromBlock ≤ n) (le_to : n ≤ window.toBlock) :
    n ∈ window.blocks := by
  simp only [Window.blocks, List.mem_map, List.mem_range]
  exact ⟨(n - window.fromBlock).toNat, by omega, by omega⟩

theorem hasUnrecorded_eq_false : hasUnrecorded blockchain s chain n = false ↔
    ∀ token contract, (getSupportedToken s USDT chain).bind withContract = some (token, contract) →
      ∀ t ∈ (blockchain chain).transfers contract n,
        (addrMap (listActiveDepositAddresses s chain) t.toAddress).isSome →
          (s.deposits.lookup (transferKey chain t)).isSome := by
  unfold hasUnrecorded
  constructor
  · intro recorded token contract isToken t member isOurs
    rw [isToken] at recorded
    have each := List.any_eq_false.mp recorded t member
    simpa [isOurs, Option.isSome_iff_ne_none] using each
  · intro recorded
    cases isToken : (getSupportedToken s USDT chain).bind withContract with
    | none => rfl
    | some pair =>
      refine List.any_eq_false.mpr fun t member => ?_
      simp only [Bool.and_eq_true, not_and, Bool.not_eq_true, Option.isNone_eq_false_iff]
      exact recorded pair.1 pair.2 isToken t member

/-- What is recorded stays so. -/
theorem recorded_stays (effect : Effect s made s') (recorded : hasUnrecorded blockchain s chain n = false) :
    hasUnrecorded blockchain s' chain n = false := by
  rw [hasUnrecorded_eq_false] at recorded ⊢
  obtain ⟨addresses, assetChains⟩ := effect.catalog
  intro token contract isToken t member isOurs
  rw [getSupportedToken, assetChains] at isToken
  rw [listActiveDepositAddresses, addresses] at isOurs
  have isRow := recorded token contract isToken t member isOurs
  obtain ⟨row, found⟩ := Option.isSome_iff_exists.mp isRow
  obtain ⟨after, isAfter, -⟩ := effect.stays found
  rw [isAfter]
  rfl

theorem failed_mem (failed : Failed chain n past) : n ∈ past.filterMap (failedBlock chain) := by
  obtain ⟨reply, member, none⟩ := failed
  refine List.mem_filterMap.mpr ⟨_, member, ?_⟩
  have isNone : (reply.toOption.join).isNone := by
    cases reply with
    | error failure => rfl
    | ok found =>
      cases found with
      | none => rfl
      | some blockRef => exact (none blockRef rfl).elim
  simp [failedBlock, isNone]

/-! ## Runs -/

theorem complete_initial (none : NoneLost config blockchain s) : Complete config blockchain ⟨s, []⟩ where
  lost := none
  cursor pid chain cursor member := by cases member
  token pid chain token member := by cases member
  addresses pid chain addresses member := by cases member
  transfers pid chain contract fromBlock toBlock transfers member := by cases member
  recorded pid key recorded := by
    cases recorded with
    | found member => cases member
    | created _ member => cases member
    | raced member => cases member

/-- A cursor is moved to the end of a window that was scanned. -/
theorem May.moves {data : ChainCursor} (call' : May config past (.upsertCursor chain data)) :
    ∃ window, Scanned config window past ∧ window.chain = chain ∧ data.lastScannedBlock = window.toBlock := by
  cases call' with
  | neutral neutral => cases neutral
  | upsertCursor scanned => exact ⟨_, scanned, rfl, rfl⟩

/-- The blocks up to the end of the window are recorded. -/
theorem window_recorded {window : Window} (inv : Complete config blockchain x)
    (scanned : Scanned config window (x.past pid))
    (attended : ∀ n, Failed window.chain n (x.past pid) → hasUnrecorded blockchain x.store window.chain n = false)
    (start_le : config.startBlock ≤ n) (le_to : n ≤ window.toBlock) :
    hasUnrecorded blockchain x.store window.chain n = false := by
  obtain ⟨cursor, isCursor, isFrom⟩ := scanned.cursor
  by_cases behind : n < window.fromBlock
  · -- the window starts behind the cursor, or at the start block
    refine inv.cursor pid window.chain cursor isCursor n start_le ?_
    simp only [isFrom, fromBlock] at behind
    omega
  have inWindow : n ∈ window.blocks := mem_blocks (by omega) le_to
  by_cases failed : Failed window.chain n (x.past pid)
  · exact attended n failed
  rw [hasUnrecorded_eq_false]
  intro token contract isToken t member isOurs
  obtain ⟨row, contract', supported, isRow, reported⟩ := scanned.token
  rw [← inv.token pid _ _ supported] at isToken
  obtain rfl : contract' = contract := by
    simp only [Option.bind_some, isRow, Option.some.injEq, Prod.mk.injEq] at isToken
    exact isToken.2
  rw [← inv.addresses pid _ _ scanned.addresses] at isOurs
  have isTransfer : t ∈ window.transfers :=
    (inv.transfers pid _ _ _ _ _ reported).mem_iff.mpr (mem_between member (by omega) le_to)
  obtain ⟨isNumber, -⟩ := (blockchain window.chain).numbered contract' n t member
  rcases scanned.each t isTransfer (by rwa [isNumber]) isOurs with isFailed | recorded
  · rw [isNumber] at isFailed
    exact (failed isFailed).elim
  · exact inv.recorded pid _ recorded

private theorem lost_step (inv : Complete config blockchain x) (call' : May config (x.past pid) call)
    (made : attentive blockchain pid call x reply s') : NoneLost config blockchain s' := by
  obtain ⟨⟨makes, -⟩, attended⟩ := made
  intro chain cursor found n start_le le_cursor
  rcases makes.effect.cursor found with before | moved
  · exact recorded_stays makes.effect (inv.lost chain cursor before n start_le le_cursor)
  cases moved
  obtain ⟨window, scanned, rfl, isTo⟩ := May.moves call'
  refine recorded_stays makes.effect (window_recorded inv scanned ?_ start_le (by omega))
  intro m failed
  simpa using List.all_eq_true.mp attended m (failed_mem failed)

private theorem recorded_step (inv : Complete config blockchain x) (makes : Makes pid call x.store reply s')
    {other : ℕ} {key : DepositKey}
    (recorded : Recorded key ((⟨s', (pid, ⟨call, reply⟩) :: x.history⟩ : History).past other)) :
    (s'.deposits.lookup key).isSome := by
  have stays (before : (x.store.deposits.lookup key).isSome) : (s'.deposits.lookup key).isSome := by
    obtain ⟨row, found⟩ := Option.isSome_iff_exists.mp before
    obtain ⟨after, isAfter, -⟩ := makes.effect.stays found
    rw [isAfter]
    rfl
  cases recorded with
  | @found row member =>
    rcases Logged.mem_past_cons.mp member with ⟨same, -⟩ | before
    · cases same
      exact stays (by rw [← makes.findUnique]; rfl)
    · exact stays (inv.recorded other key (.found before))
  | @created data row isKey member =>
    rcases Logged.mem_past_cons.mp member with ⟨same, -⟩ | before
    · cases same
      rw [← isKey, makes.effect.created_row]
      rfl
    · exact stays (inv.recorded other key (.created isKey before))
  | @raced row member =>
    rcases Logged.mem_past_cons.mp member with ⟨same, -⟩ | before
    · cases same
      exact stays (by rw [makes.findUniqueOrThrow]; rfl)
    · exact stays (inv.recorded other key (.raced before))

theorem complete_step (inv : Complete config blockchain x) (call' : May config (x.past pid) call)
    (made : attentive blockchain pid call x reply s') :
    Complete config blockchain ⟨s', (pid, ⟨call, reply⟩) :: x.history⟩ where
  lost := lost_step inv call' made
  cursor other chain cursor member n start_le le_cursor := by
    have makes := made.1.1
    refine recorded_stays makes.effect ?_
    rcases Logged.mem_past_cons.mp member with ⟨same, -⟩ | before
    · cases same
      cases found : x.store.cursors.lookup chain with
      | none =>
        rw [makes.getCursor, found] at le_cursor
        simp only [lastScanned] at le_cursor
        omega
      | some row =>
        rw [makes.getCursor, found] at le_cursor
        exact inv.lost chain row found n start_le le_cursor
    · exact inv.cursor other chain cursor before n start_le le_cursor
  token other chain token member := by
    have makes := made.1.1
    have kept : getSupportedToken s' USDT chain = getSupportedToken x.store USDT chain := by
      rw [getSupportedToken, getSupportedToken, makes.effect.catalog.2]
    rw [kept]
    rcases Logged.mem_past_cons.mp member with ⟨same, -⟩ | before
    · cases same
      exact makes.getSupportedToken
    · exact inv.token other chain token before
  addresses other chain addresses member := by
    have makes := made.1.1
    have kept : listActiveDepositAddresses s' chain = listActiveDepositAddresses x.store chain := by
      rw [listActiveDepositAddresses, listActiveDepositAddresses, makes.effect.catalog.1]
    rw [kept]
    rcases Logged.mem_past_cons.mp member with ⟨same, -⟩ | before
    · cases same
      exact makes.listActiveDepositAddresses
    · exact inv.addresses other chain addresses before
  transfers other chain contract fromBlock toBlock transfers member := by
    rcases Logged.mem_past_cons.mp member with ⟨same, -⟩ | before
    · cases same
      exact of_decide_eq_true made.1.2
    · exact inv.transfers other chain contract fromBlock toBlock transfers before
  recorded other key recorded := recorded_step inv made.1.1 recorded

/-- In every run in which no cursor passes a block that could not be fetched and
holds an unrecorded transfer, no transfer is lost. -/
theorem none_lost {pool : ScannerPool}
    (run : Logged.Run (attentive blockchain) (IsRequest config requests) (NoneLost config blockchain) pool) :
    NoneLost config blockchain pool.store.store :=
  (run.inv (fun _ _ isRequest => isRequest_obeys isRequest) (fun _ none => complete_initial none)
    fun _ _ _ _ _ inv call' made => complete_step inv call'.1 made).lost

/-! ## One transfer -/

private def oneTransfer (_ : Chain) : Blockchain where
  hash _ := "canonical"
  transfers _ n := if n = 1 then [usdtTransfer] else []
  numbered := by
    intro contract n t member
    split at member
    · rename_i isOne
      cases List.mem_singleton.mp member
      exact ⟨isOne.symm, rfl⟩
    · cases member

/-- The head is block 3; one block cannot be fetched. -/
private def nodeWithout (lost : ℤ) (_ : ℕ) : World where
  getLatestBlock _ := .ok ⟨3, "canonical"⟩
  getBlock _ n := .ok (if n = lost then none else some ⟨n, "canonical"⟩)
  getTokenTransfers chain contract fromBlock toBlock :=
    .ok ((oneTransfer chain).between contract fromBlock toBlock)

private theorem emptyStore_noneLost : NoneLost smallConfig oneTransfer emptyStore := by
  intro chain cursor found
  cases (AList.lookup_empty chain).symm.trans found

/-- The empty block 2 cannot be fetched, and the transfer is recorded. -/
theorem none_lost_recorded : ∃ s : Store,
    (s.cursors.lookup .tron).map ChainCursor.lastScannedBlock = some 2 ∧
      (s.deposits.lookup ⟨.tron, "tx1", 0⟩).isSome ∧ NoneLost smallConfig oneTransfer s := by
  have played : (schedule smallConfig (nodeWithout 2) (fun _ _ => false)
      (fun pid call x reply => honest oneTransfer ⟨call, reply⟩ && attends oneTransfer x pid call)
      (fun _ => .scanOnce .tron) [1] [(1, 20)] emptyStore).map (fun pool =>
        ((pool.store.store.cursors.lookup .tron).map ChainCursor.lastScannedBlock,
          (pool.store.store.deposits.lookup ⟨.tron, "tx1", 0⟩).isSome)) = some (some 2, true) := by
    decide +kernel
  obtain ⟨pool, scheduled, facts⟩ := Option.map_eq_some_iff.mp played
  simp only [Prod.mk.injEq] at facts
  obtain ⟨moved, isRow⟩ := facts
  have run : Logged.Run (attentive oneTransfer) (IsRequest smallConfig fun _ => .scanOnce .tron)
      (NoneLost smallConfig oneTransfer) pool := by
    refine schedule_run emptyStore_noneLost (fun pid call x reply s' allowed makes => ?_) scheduled
    obtain ⟨isHonest, attended⟩ := Bool.and_eq_true_iff.mp allowed
    exact ⟨⟨makes, isHonest⟩, attended⟩
  exact ⟨pool.store.store, moved, isRow, none_lost run⟩

/-- Block 1 cannot be fetched, and the cursor passes it. -/
theorem passed_unrecorded : ¬∀ pool : ScannerPool,
    Logged.Run (observed oneTransfer) (IsRequest smallConfig fun _ => .scanOnce .tron)
      (NoneLost smallConfig oneTransfer) pool → NoneLost smallConfig oneTransfer pool.store.store := by
  intro none
  have played : (schedule smallConfig (nodeWithout 1) (fun _ _ => false)
      (fun _ call _ reply => honest oneTransfer ⟨call, reply⟩)
      (fun _ => .scanOnce .tron) [1] [(1, 20)] emptyStore).map (fun pool =>
        (pool.store.store.cursors.lookup .tron, hasUnrecorded oneTransfer pool.store.store .tron 1)) =
      some (some ⟨2, some "canonical", 2⟩, true) := by
    decide +kernel
  obtain ⟨pool, scheduled, facts⟩ := Option.map_eq_some_iff.mp played
  simp only [Prod.mk.injEq] at facts
  obtain ⟨moved, missing⟩ := facts
  have run : Logged.Run (observed oneTransfer) (IsRequest smallConfig fun _ => .scanOnce .tron)
      (NoneLost smallConfig oneTransfer) pool :=
    schedule_run emptyStore_noneLost (fun _ _ _ _ _ isHonest makes => ⟨makes, isHonest⟩) scheduled
  have recorded := none pool run .tron _ moved 1 (by decide) (by decide)
  cases recorded.symm.trans missing

end Exchange.Scanner.Completeness
