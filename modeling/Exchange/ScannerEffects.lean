import Exchange.LedgerPostings
import Exchange.ScannerRules

/-! What the calls of the two passes do to the tables: rows are created and
changed, never removed. -/
namespace Exchange.Scanner
open Ledger Service

variable {pid : ℕ} {key : DepositKey} {s s' : Store} {row : CryptoDeposit} {call : ScannerCall}
  {reply : Except Failure call.Reply} {made : Answered ScannerCall ScannerCall.Reply Failure}
  {data stored : DetectedDeposit}

@[simp] theorem Store.save_lookup (s : Store) (key : DepositKey) (row : CryptoDeposit) :
    (s.save key row).deposits.lookup key = some row :=
  AList.lookup_insert _

theorem Store.save_lookup_ne (s : Store) (row : CryptoDeposit) {other : DepositKey} (ne : other ≠ key) :
    (s.save key row).deposits.lookup other = s.deposits.lookup other :=
  AList.lookup_insert_ne ne

/-- What is stored of a deposit differs in the amounts only. -/
structure SameTransfer (data stored : DetectedDeposit) : Prop where
  key : stored.key = data.key
  blockNumber : stored.blockNumber = data.blockNumber
  blockHash : stored.blockHash = data.blockHash

theorem storeDetected_same (ok : storeDetected data = .ok stored) : SameTransfer data stored := by
  simp only [storeDetected, except_bind_ok] at ok
  obtain ⟨base, -, amount, -, ok⟩ := ok
  split at ok
  · cases ok
  split at ok
  · cases ok
  · cases ok
    exact ⟨rfl, rfl, rfl⟩

/-- What a call did, by its answer. -/
inductive Effect (s : Store) : Answered ScannerCall ScannerCall.Reply Failure → Store → Prop
  | created {data stored : DetectedDeposit} (isStored : storeDetected data = .ok stored)
      (fresh : s.deposits.lookup stored.key = none) :
      Effect s ⟨.create data, .ok (detectedRow stored)⟩ (s.save stored.key (detectedRow stored))
  | refreshed {data stored : DetectedDeposit} {reappears : Bool} {row : CryptoDeposit}
      (isStored : storeDetected data = .ok stored) (found : s.deposits.lookup stored.key = some row) :
      Effect s ⟨.refresh data reappears, .ok ((Change.refresh stored reappears).set row)⟩
        (s.save stored.key ((Change.refresh stored reappears).set row))
  | orphaned {chain : Chain} {blockNumber : ℤ} {currentHash : String} {count : ℕ} :
      Effect s ⟨.orphanReorgedDeposits chain blockNumber currentHash, .ok count⟩
        (orphanReorgedDeposits chain blockNumber currentHash s)
  | advanced {key : DepositKey} {confirmations : ℕ} {status : DepositStatus} {row : CryptoDeposit}
      (found : s.deposits.lookup key = some row) :
      Effect s ⟨.updateConfirmations key confirmations status,
        .ok ((Change.confirmations confirmations status).set row)⟩
        (s.save key ((Change.confirmations confirmations status).set row))
  | credited {key : DepositKey} {ledgerTxnId : ℕ} {row : CryptoDeposit}
      (found : s.deposits.lookup key = some row) (uncredited : row.status ≠ .credited) :
      Effect s ⟨.markCredited key ledgerTxnId, .ok 1⟩ (s.save key ((Change.credited ledgerTxnId).set row))
  | missed {key : DepositKey} {ledgerTxnId : ℕ}
      (misses : ∀ row, s.deposits.lookup key = some row → row.status = .credited) :
      Effect s ⟨.markCredited key ledgerTxnId, .ok 0⟩ s
  | moved {chain : Chain} {data : ChainCursor} :
      Effect s ⟨.upsertCursor chain data, .ok data⟩ { s with cursors := s.cursors.insert chain data }
  | posted {input : LedgerPostingInput DepositKey} {reply : Except Failure (LedgerTransaction DepositKey)}
      {ledger : Ledger.Store DepositKey} (ran : Ledger.post input s.ledger = (reply, ledger)) :
      Effect s ⟨.post input, reply⟩ { s with ledger }
  | neutral {call : ScannerCall} {reply : Except Failure call.Reply} (neutral : call.isNeutral) :
      Effect s ⟨call, reply⟩ s
  | failed {call : ScannerCall} {failure : Failure} : Effect s ⟨call, .error failure⟩ s

private theorem create_ok (ok : create data s = .ok (row, s')) : ∃ stored,
    storeDetected data = .ok stored ∧ s.deposits.lookup stored.key = none ∧ row = detectedRow stored ∧
      s' = s.save stored.key row := by
  simp only [create, except_bind_ok] at ok
  obtain ⟨stored, isStored, ok⟩ := ok
  split at ok
  · cases ok
  · rename_i fresh
    cases ok
    exact ⟨stored, isStored, by simpa using fresh, rfl, rfl⟩

private theorem update_ok {change : Change} {row' : CryptoDeposit}
    (ok : update key change s = .ok (row', s')) : ∃ row, s.deposits.lookup key = some row ∧
      row' = change.set row ∧ s' = s.save key row' := by
  unfold update at ok
  split at ok
  · cases ok
  · rename_i row found
    cases ok
    exact ⟨row, found, rfl, rfl⟩

/-- Every call has one of these effects. -/
theorem Makes.effect (makes : Makes pid call s reply s') : Effect s ⟨call, reply⟩ s' := by
  rcases makes with ⟨world, ran⟩ | ⟨⟨failure, -, rfl⟩, rfl⟩
  · cases call with
    | create data =>
      rcases Database.written_cases ran with ⟨row, rfl, wrote⟩ | ⟨⟨failure, rfl, -⟩, rfl⟩
      · obtain ⟨stored, isStored, fresh, rfl, rfl⟩ := create_ok wrote
        exact .created isStored fresh
      · exact .failed
    | refresh data reappears =>
      rcases Database.written_cases ran with ⟨row, rfl, wrote⟩ | ⟨⟨failure, rfl, -⟩, rfl⟩
      · simp only [refresh, except_bind_ok] at wrote
        obtain ⟨stored, isStored, updated⟩ := wrote
        obtain ⟨row, found, rfl, rfl⟩ := update_ok updated
        exact .refreshed isStored found
      · exact .failed
    | updateConfirmations key confirmations status =>
      rcases Database.written_cases ran with ⟨row, rfl, wrote⟩ | ⟨⟨failure, rfl, -⟩, rfl⟩
      · obtain ⟨row, found, rfl, rfl⟩ := update_ok wrote
        exact .advanced found
      · exact .failed
    | markCredited key ledgerTxnId =>
      simp only [perform, markCredited] at ran
      cases found : (s.deposits.lookup key).filter (·.status ≠ .credited) with
      | none =>
        rw [found] at ran
        cases ran
        refine .missed fun row isRow => ?_
        simpa [isRow] using found
      | some row =>
        rw [found] at ran
        cases ran
        obtain ⟨isRow, uncredited⟩ := Option.filter_eq_some_iff.mp found
        exact .credited isRow (by simpa using uncredited)
    | orphanReorgedDeposits chain blockNumber currentHash =>
      cases ran
      exact .orphaned
    | upsertCursor chain data =>
      cases ran
      exact .moved
    | post input =>
      cases posted : Ledger.post input s.ledger with
      | mk outcome ledger =>
        simp only [perform, posted] at ran
        cases ran
        exact .posted posted
    | _ =>
      cases ran
      exact .neutral rfl
  · exact .failed

/-! ## Answers of queries -/

theorem Makes.getCursor {chain : Chain} {cursor : Option ChainCursor}
    (makes : Makes pid (.getCursor chain) s (.ok cursor) s') : cursor = s.cursors.lookup chain := by
  rcases makes with ⟨world, ran⟩ | ⟨⟨failure, -, same⟩, -⟩
  · cases ran
    rfl
  · cases same

theorem Makes.getSupportedToken {asset : String} {chain : Chain} {token : Option AssetChain}
    (makes : Makes pid (.getSupportedToken asset chain) s (.ok token) s') :
    token = getSupportedToken s asset chain := by
  rcases makes with ⟨world, ran⟩ | ⟨⟨failure, -, same⟩, -⟩
  · cases ran
    rfl
  · cases same

theorem Makes.listActiveDepositAddresses {chain : Chain} {addresses : List DepositAddress}
    (makes : Makes pid (.listActiveDepositAddresses chain) s (.ok addresses) s') :
    addresses = listActiveDepositAddresses s chain := by
  rcases makes with ⟨world, ran⟩ | ⟨⟨failure, -, same⟩, -⟩
  · cases ran
    rfl
  · cases same

theorem Makes.findUnique {found : Option CryptoDeposit}
    (makes : Makes pid (.findUnique key) s (.ok found) s') : found = s.deposits.lookup key := by
  rcases makes with ⟨world, ran⟩ | ⟨⟨failure, -, same⟩, -⟩
  · cases ran
    rfl
  · cases same

theorem Makes.findUniqueOrThrow (makes : Makes pid (.findUniqueOrThrow key) s (.ok row) s') :
    s.deposits.lookup key = some row := by
  rcases makes with ⟨world, ran⟩ | ⟨⟨failure, -, same⟩, -⟩
  · cases found : s.deposits.lookup key with
    | none =>
      rw [perform, found] at ran
      cases ran
    | some existing =>
      rw [perform, found] at ran
      cases ran
      rfl
  · cases same

theorem mem_listCreditableCandidates {chain : Chain} :
    (key, row) ∈ listCreditableCandidates s chain ↔ s.deposits.lookup key = some row ∧
      key.chain = chain ∧ row.status.isPending ∧ row.blockNumber.isSome := by
  simp only [listCreditableCandidates, List.mem_insertionSort, List.mem_filter, Table.mem_rows,
    Bool.and_eq_true, decide_eq_true_eq, and_assoc]

theorem Makes.listed {chain : Chain} {rows : List (DepositKey × CryptoDeposit)}
    (makes : Makes pid (.listCreditableCandidates chain) s (.ok rows) s') (member : (key, row) ∈ rows) :
    s.deposits.lookup key = some row ∧ row.status.isPending := by
  rcases makes with ⟨world, ran⟩ | ⟨⟨failure, -, same⟩, -⟩
  · cases ran
    obtain ⟨found, -, pending, -⟩ := mem_listCreditableCandidates.mp member
    exact ⟨found, pending⟩
  · cases same

/-! ## One call -/

/-- A call that has written a change of a row. -/
inductive Writes (key : DepositKey) (row : CryptoDeposit) :
    Answered ScannerCall ScannerCall.Reply Failure → Change → Prop
  | refresh {data stored : DetectedDeposit} {reappears : Bool} (isStored : storeDetected data = .ok stored)
      (isKey : stored.key = key) :
      Writes key row ⟨.refresh data reappears, .ok ((Change.refresh stored reappears).set row)⟩
        (.refresh stored reappears)
  | orphan {chain : Chain} {blockNumber : ℤ} {currentHash : String} {count : ℕ}
      (reorged : isReorged chain blockNumber currentHash key row) :
      Writes key row ⟨.orphanReorgedDeposits chain blockNumber currentHash, .ok count⟩ .orphan
  | confirmations {confirmations : ℕ} {status : DepositStatus} {row' : CryptoDeposit} :
      Writes key row ⟨.updateConfirmations key confirmations status, .ok row'⟩
        (.confirmations confirmations status)
  | credited {ledgerTxnId : ℕ} (uncredited : row.status ≠ .credited) :
      Writes key row ⟨.markCredited key ledgerTxnId, .ok 1⟩ (.credited ledgerTxnId)

/-- A row that was there is there, with at most one change written. -/
theorem Effect.stays (effect : Effect s made s') (found : s.deposits.lookup key = some row) :
    ∃ after, s'.deposits.lookup key = some after ∧
      (after = row ∨ ∃ change, after = change.set row ∧ Writes key row made change) := by
  have written {target : DepositKey} {old : CryptoDeposit} {change : Change}
      (isOld : s.deposits.lookup target = some old) (writes : target = key → old = row →
        Writes key row made change) :
      ∃ after, (s.save target (change.set old)).deposits.lookup key = some after ∧
        (after = row ∨ ∃ change, after = change.set row ∧ Writes key row made change) := by
    by_cases same : key = target
    · subst same
      cases isOld.symm.trans found
      exact ⟨_, Store.save_lookup .., .inr ⟨change, rfl, writes rfl rfl⟩⟩
    · exact ⟨row, by rw [Store.save_lookup_ne _ _ same, found], .inl rfl⟩
  cases effect with
  | @created data stored isStored fresh =>
    have other : key ≠ stored.key := by
      rintro rfl
      cases fresh.symm.trans found
    exact ⟨row, by rw [Store.save_lookup_ne _ _ other, found], .inl rfl⟩
  | refreshed isStored isOld =>
    refine written isOld ?_
    rintro rfl rfl
    exact .refresh isStored rfl
  | @orphaned chain blockNumber currentHash count =>
    have mapped : (orphanReorgedDeposits chain blockNumber currentHash s).deposits.lookup key = some
        (if isReorged chain blockNumber currentHash key row then Change.orphan.set row else row) := by
      rw [orphanReorgedDeposits, Table.lookup_mapRows, found]
      rfl
    refine ⟨_, mapped, ?_⟩
    split
    · rename_i reorged
      exact .inr ⟨.orphan, rfl, .orphan reorged⟩
    · exact .inl rfl
  | advanced isOld =>
    refine written isOld ?_
    rintro rfl rfl
    exact .confirmations
  | credited isOld uncredited =>
    refine written isOld ?_
    rintro rfl rfl
    exact .credited uncredited
  | _ => exact ⟨row, found, .inl rfl⟩

/-- Where a row comes from: it was there, changed or not, or it is new. -/
theorem Effect.origin (effect : Effect s made s') (found : s'.deposits.lookup key = some row) :
    s.deposits.lookup key = some row ∨
      (∃ data stored, s.deposits.lookup key = none ∧ storeDetected data = .ok stored ∧
        stored.key = key ∧ row = detectedRow stored ∧ made = ⟨.create data, .ok row⟩) ∨
      ∃ change before, s.deposits.lookup key = some before ∧ row = change.set before ∧
        Writes key before made change := by
  cases before : s.deposits.lookup key with
  | some old =>
    obtain ⟨after, isAfter, same⟩ := effect.stays before
    cases found.symm.trans isAfter
    rcases same with rfl | ⟨change, rfl, writes⟩
    · exact .inl rfl
    · exact .inr (.inr ⟨change, old, rfl, rfl, writes⟩)
  | none =>
    have absent {target : DepositKey} {old new : CryptoDeposit}
        (isOld : s.deposits.lookup target = some old)
        (saved : (s.save target new).deposits.lookup key = some row) : False := by
      have other : key ≠ target := by
        rintro rfl
        cases before.symm.trans isOld
      rw [Store.save_lookup_ne _ _ other, before] at saved
      cases saved
    cases effect with
    | @created data stored isStored fresh =>
      by_cases same : key = stored.key
      · subst same
        cases found.symm.trans (Store.save_lookup ..)
        exact .inr (.inl ⟨data, stored, rfl, isStored, rfl, rfl, rfl⟩)
      · rw [Store.save_lookup_ne _ _ same, before] at found
        cases found
    | refreshed _ isOld => exact (absent isOld found).elim
    | advanced isOld => exact (absent isOld found).elim
    | credited isOld => exact (absent isOld found).elim
    | orphaned =>
      rw [orphanReorgedDeposits, Table.lookup_mapRows, before] at found
      cases found
    | _ => cases before.symm.trans found

/-- A cursor changes only when a pass moves it. -/
theorem Effect.cursor {chain : Chain} {cursor : ChainCursor} (effect : Effect s made s')
    (found : s'.cursors.lookup chain = some cursor) :
    s.cursors.lookup chain = some cursor ∨ made = ⟨.upsertCursor chain cursor, .ok cursor⟩ := by
  cases effect with
  | @moved other data =>
    by_cases same : chain = other
    · subst same
      change (s.cursors.insert chain data).lookup chain = some cursor at found
      rw [AList.lookup_insert] at found
      cases found
      exact .inr rfl
    · change (s.cursors.insert other data).lookup chain = some cursor at found
      rw [AList.lookup_insert_ne same] at found
      exact .inl found
  | _ => exact .inl found

/-- The ledger has credited the deposit. -/
def hasCredit (s : Store) (key : DepositKey) : Bool := s.ledger.isPosted DEPOSIT_REFERENCE_TYPE key

/-- A credit is there once it was posted, and no other is added. -/
theorem Effect.hasCredit_iff (effect : Effect s made s') (key : DepositKey) :
    hasCredit s' key ↔ hasCredit s key ∨ ∃ input txn, made = ⟨.post input, .ok txn⟩ ∧
      input.referenceType = some DEPOSIT_REFERENCE_TYPE ∧ input.referenceId = some key := by
  cases effect with
  | @posted input reply ledger ran =>
    change ledger.isPosted DEPOSIT_REFERENCE_TYPE key ↔
      s.ledger.isPosted DEPOSIT_REFERENCE_TYPE key ∨ _
    rw [post_isPosted ran]
    refine or_congr_right ⟨?_, ?_⟩
    · rintro ⟨⟨txn, rfl⟩, isType, isTarget⟩
      exact ⟨input, txn, rfl, isType, isTarget⟩
    · rintro ⟨input', txn, same, isType, isTarget⟩
      cases same
      exact ⟨⟨txn, rfl⟩, isType, isTarget⟩
  | neutral neutral =>
    refine ⟨.inl, fun now => now.elim (fun before => before) ?_⟩
    rintro ⟨input, txn, same, -, -⟩
    cases same
    cases neutral
  | _ =>
    refine ⟨.inl, fun now => now.elim (fun before => before) ?_⟩
    rintro ⟨input, txn, same, -, -⟩
    cases same

/-- Addresses and tokens are not the scanner's to change. -/
theorem Effect.catalog (effect : Effect s made s') :
    s'.addresses = s.addresses ∧ s'.assetChains = s.assetChains := by
  cases effect <;> exact ⟨rfl, rfl⟩

/-- A deposit that was seen has a row. -/
theorem Effect.created_row {data : DetectedDeposit}
    (effect : Effect s ⟨.create data, .ok row⟩ s') : s'.deposits.lookup data.key = some row := by
  cases effect with
  | created isStored fresh =>
    rw [← (storeDetected_same isStored).key]
    exact Store.save_lookup ..
  | neutral neutral => cases neutral

/-! ## Runs -/

abbrev History := Logged ℕ ScannerCall ScannerCall.Reply Failure Store

abbrev ScannerPool := Pool ℕ ScannerCall ScannerCall.Reply Failure Response History

def interleaved (pid : ℕ) (call : ScannerCall) (x : History) (reply : Except Failure call.Reply)
    (s' : Store) : Prop :=
  Makes pid call x.store reply s'

/-- A schedule in which every pass has a node of its own. -/
def schedule (config : Config) (worlds : ℕ → World) (isLost : ℕ → ScannerCall → Bool)
    (allows : ℕ → (call : ScannerCall) → History → Except Failure call.Reply → Bool)
    (requests : ℕ → Request) (arrivals : List ℕ) (turns : List (ℕ × ℕ)) (s : Store) :
    Option ScannerPool :=
  Database.schedule perform worlds isLost allows (fun pid => (requests pid).program config) arrivals turns s

theorem schedule_run {config : Config} {worlds : ℕ → World} {requests : ℕ → Request}
    {isLost : ℕ → ScannerCall → Bool}
    {allows : ℕ → (call : ScannerCall) → History → Except Failure call.Reply → Bool}
    {arrivals : List ℕ} {turns : List (ℕ × ℕ)} {pool : ScannerPool} {Initial : Store → Prop}
    {initial : Store} {step : ℕ → (call : ScannerCall) → History → Except Failure call.Reply → Store → Prop}
    (isInitial : Initial initial)
    (sound : ∀ pid call x reply s', allows pid call x reply → Makes pid call x.store reply s' →
      step pid call x reply s')
    (played : schedule config worlds isLost allows requests arrivals turns initial = some pool) :
    Logged.Run step (IsRequest config requests) Initial pool :=
  Database.schedule_run isInitial (fun _ => rfl) sound played

/-! ## One address -/

def smallConfig : Config where
  startBlock := 0
  safetyLag := 1
  reorgBuffer := 32

/-- USDT is scanned on TRON, where user 7 has an address; nothing is recorded. -/
def emptyStore : Store where
  assetChains asset chain := if asset = USDT ∧ chain = .tron then some ⟨some "TUSDT", 6, 2, true⟩ else none
  addresses chain := if chain = .tron then [⟨1, 7, "Tdeposit", true⟩] else []
  cursors := ∅
  deposits := ∅
  ledger := ∅

/-- 2 USDT to the address of user 7, in block 1. -/
def usdtTransfer : TokenTransfer := ⟨"tx1", 0, "Tsender", "Tdeposit", "TUSDT", 2000000, 1, "canonical"⟩

/-- The head is block 3, and every block can be fetched. -/
def nodeWith (transfers : List TokenTransfer) : World where
  getLatestBlock _ := .ok ⟨3, "canonical"⟩
  getBlock _ n := .ok (some ⟨n, "canonical"⟩)
  getTokenTransfers _ _ _ _ := .ok transfers

end Exchange.Scanner
