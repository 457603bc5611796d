import Exchange.ScannerEffects

/-! Whether a pass gets to the cursor. Every transfer to one of our addresses is
stored on the way, and one that the columns or the check of `crypto_deposits`
refuse makes the pass throw, this time and the next. -/
namespace Exchange.Scanner.Progress
open Ledger Service Async SignificantDigits

/-- A pass as it runs alone, when no call to the database is lost. -/
def alone (world : World) (program : ScannerM α) (s : Store) : Except Failure α × Store :=
  eval (perform world 0) program s

/-- The window a pass opens, and what the node reports for it. -/
structure Opens (config : Config) (world : World) (s : Store) (window : Window) : Prop where
  asset : window.asset = USDT
  head : ∃ head, world.getLatestBlock window.chain = .ok head ∧
    window.toBlock = head.number - config.safetyLag
  fromBlock : window.fromBlock = fromBlock config (s.cursors.lookup window.chain)
  nonempty : window.fromBlock ≤ window.toBlock
  addresses : window.addresses = listActiveDepositAddresses s window.chain
  transfers : ∃ contract,
    (getSupportedToken s USDT window.chain).bind withContract = some (window.token, contract) ∧
      world.getTokenTransfers window.chain contract window.fromBlock window.toBlock = .ok window.transfers

/-- The pass ends well, with the cursor at the end of the window. -/
def Reaches (config : Config) (world : World) (s : Store) (window : Window) : Prop :=
  ∃ result s', alone world (scanOnce config window.chain USDT) s = (.ok result, s') ∧
    (s'.cursors.lookup window.chain).map ChainCursor.lastScannedBlock = some window.toBlock

/-- The amounts are positive as they are stored, and fit into their columns, and
so does the log index. -/
def storable (token : AssetChain) (t : TokenTransfer) : Bool :=
  let amountBase := Decimal.toFixed 0 (baseToHuman t.amountBase 0)
  let amount := Numeric.rounded (baseToHuman t.amountBase token.decimals)
  0 < amountBase && amountBase < 10 ^ 78 && 0 < amount && amount < 10 ^ 20 && t.logIndex < 2 ^ 31

def isCredited (s : Store) (key : DepositKey) : Bool :=
  (s.deposits.lookup key).any fun row => row.status = .credited

/-- The deposit is credited and left alone, or the transfer can be stored. -/
def Passable (s : Store) (window : Window) (t : TokenTransfer) : Prop :=
  isCredited s (transferKey window.chain t) ∨ storable window.token t

/-- The block that the node answers with, if it does. -/
def answered (world : World) (chain : Chain) (n : ℤ) : Option BlockRef :=
  (world.getBlock chain n).toOption.join

/-- The transfer is to one of our addresses, and its block is in the window and
could be fetched. -/
def IsProcessed (world : World) (window : Window) (t : TokenTransfer) : Prop :=
  (window.target t).isSome ∧ t.blockNumber ∈ window.blocks ∧
    (answered world window.chain t.blockNumber).isSome

variable {config : Config} {world : World} {s s' : Store} {window : Window} {chain : Chain}
  {data : DetectedDeposit} {t : TokenTransfer} {key : DepositKey}

/-! ## One deposit -/

theorem storeDetected_isOk : (storeDetected data).isOk ↔
    0 < Decimal.toFixed 0 data.amountBase ∧ Decimal.toFixed 0 data.amountBase < 10 ^ 78 ∧
      0 < Numeric.rounded data.amount ∧ Numeric.rounded data.amount < 10 ^ 20 ∧
        data.key.logIndex < 2 ^ 31 := by
  by_cases base : |Decimal.toFixed 0 data.amountBase| < 10 ^ 78
  case neg =>
    have failed : (storeDetected data).isOk = false := by
      simp [storeDetected, storeBase, base, bind, Except.bind, Except.isOk, Except.toBool]
    rw [failed]
    simp only [Bool.false_eq_true, false_iff]
    rintro ⟨positive, small, -⟩
    exact base (by rwa [abs_of_pos positive])
  by_cases amount : |Numeric.rounded data.amount| < 10 ^ 20
  case neg =>
    have failed : (storeDetected data).isOk = false := by
      simp [storeDetected, storeBase, base, Numeric.store, amount, bind, Except.bind, Except.isOk,
        Except.toBool]
    rw [failed]
    simp only [Bool.false_eq_true, false_iff]
    rintro ⟨-, -, positive, small, -⟩
    exact amount (by rwa [abs_of_pos positive])
  have stored : (storeDetected data).isOk ↔ ¬2 ^ 31 ≤ data.key.logIndex ∧
      ¬(Numeric.rounded data.amount ≤ 0 ∨ Decimal.toFixed 0 data.amountBase ≤ 0) := by
    simp only [storeDetected, storeBase, base, Numeric.store, amount, if_true, bind, Except.bind]
    split
    · rename_i large
      simp only [large, not_true_eq_false, false_and, iff_false]
      exact Bool.false_ne_true
    split
    · rename_i small refused
      simp only [refused, not_true_eq_false, and_false, iff_false]
      exact Bool.false_ne_true
    · rename_i small positive
      simp only [small, positive, not_false_eq_true, and_self, iff_true]
      rfl
  rw [stored]
  simp only [not_or, not_le]
  constructor
  · rintro ⟨index, positive, positive'⟩
    exact ⟨positive', (abs_lt.mp base).2, positive, (abs_lt.mp amount).2, index⟩
  · rintro ⟨positive', -, positive, -, index⟩
    exact ⟨index, positive, positive'⟩

theorem storable_iff {target : DepositAddress} {blockRef : BlockRef} :
    (storeDetected (detected window target blockRef t)).isOk ↔ storable window.token t := by
  rw [storeDetected_isOk]
  simp only [storable, Bool.and_eq_true, decide_eq_true_eq, and_assoc]
  rfl

theorem storeDetected_refuses {failure : Failure} (failed : storeDetected data = .error failure) :
    failure ≠ .uniqueViolation := by
  rintro rfl
  simp only [storeDetected, storeBase, Numeric.store, bind, Except.bind] at failed
  split at failed
  · rename_i error
    split at error
    · cases error
    · cases error
      cases failed
  split at failed
  · rename_i error
    split at error
    · cases error
    · cases error
      cases failed
  split at failed
  · cases failed
  split at failed <;> cases failed

/-- The same deposits are credited. -/
def SameCredits (s s' : Store) : Prop := ∀ key, isCredited s' key = isCredited s key

theorem sameCredits_refl (s : Store) : SameCredits s s := fun _ => rfl

theorem SameCredits.trans {s'' : Store} (first : SameCredits s s') (second : SameCredits s' s'') :
    SameCredits s s'' :=
  fun key => (second key).trans (first key)

theorem sameCredits_save {row : CryptoDeposit} (uncredited : isCredited s key = false)
    (isNew : row.status ≠ .credited) : SameCredits s (s.save key row) := by
  intro other
  by_cases same : other = key
  · subst same
    rw [uncredited, isCredited, Store.save_lookup]
    simp [isNew]
  · rw [isCredited, isCredited, Store.save_lookup_ne _ _ same]

theorem sameCredits_orphan (s : Store) (chain : Chain) (n : ℤ) (hash : String) :
    SameCredits s (orphanReorgedDeposits chain n hash s) := by
  intro key
  rw [isCredited, orphanReorgedDeposits, Table.lookup_mapRows, isCredited]
  cases s.deposits.lookup key with
  | none => rfl
  | some row =>
    simp only [Option.map_some, Option.any_some]
    split
    · rename_i reorged
      simp only [isReorged, DepositStatus.isPending, Bool.and_eq_true, decide_eq_true_eq] at reorged
      obtain ⟨⟨-, pending⟩, -⟩ := reorged
      have uncredited : row.status ≠ .credited := by
        intro credited
        simp [credited] at pending
      simp [Change.set, uncredited]
    · rfl

/-- What a part of a pass does: it ends well under a condition, and credits
nothing. -/
structure Gets (world : World) (program : ScannerM α) (s : Store) (condition : Prop) : Prop where
  isOk : (alone world program s).1.isOk ↔ condition
  same : SameCredits s (alone world program s).2

/-- A deposit that is credited is left as it is. -/
private theorem upsert_credited {row : CryptoDeposit} (found : s.deposits.lookup data.key = some row)
    (isCredited : row.status = .credited) :
    alone world (upsertDetectedDeposit data) s = (.ok (row, false), s) := by
  simp [alone, upsertDetectedDeposit, eval_bind, ask, perform, found, isCredited]

private theorem create_stored {stored : DetectedDeposit} (isStored : storeDetected data = .ok stored)
    (fresh : s.deposits.lookup data.key = none) :
    create data s = .ok (detectedRow stored, s.save data.key (detectedRow stored)) := by
  rw [← (storeDetected_same isStored).key] at fresh ⊢
  simp [create, isStored, bind, Except.bind, fresh]

private theorem refresh_stored {stored : DetectedDeposit} {row : CryptoDeposit} {reappears : Bool}
    (isStored : storeDetected data = .ok stored) (found : s.deposits.lookup data.key = some row) :
    refresh data reappears s = .ok ((Change.refresh stored reappears).set row,
      s.save data.key ((Change.refresh stored reappears).set row)) := by
  rw [← (storeDetected_same isStored).key] at found ⊢
  simp [refresh, isStored, bind, Except.bind, update, found]

private theorem upsert_refreshed {row : CryptoDeposit} {stored : DetectedDeposit}
    (found : s.deposits.lookup data.key = some row) (uncredited : row.status ≠ .credited)
    (isStored : storeDetected data = .ok stored) :
    alone world (upsertDetectedDeposit data) s =
      (.ok ((Change.refresh stored (row.status = .orphaned)).set row, false),
        s.save data.key ((Change.refresh stored (row.status = .orphaned)).set row)) := by
  simp [alone, upsertDetectedDeposit, eval_bind, ask, perform, found, uncredited,
    refresh_stored isStored found, Database.written]

private theorem upsert_created {stored : DetectedDeposit} (found : s.deposits.lookup data.key = none)
    (isStored : storeDetected data = .ok stored) :
    alone world (upsertDetectedDeposit data) s =
      (.ok (detectedRow stored, true), s.save data.key (detectedRow stored)) := by
  simp [alone, upsertDetectedDeposit, insertDetected, eval_bind, eval_tryCatch, ask, perform, found,
    create_stored isStored found, Database.written]

/-- What cannot be stored throws, and leaves the tables as they were. -/
private theorem upsert_refused {failure : Failure} (uncredited : isCredited s data.key = false)
    (failed : storeDetected data = .error failure) :
    alone world (upsertDetectedDeposit data) s = (.error failure, s) := by
  have created : create data s = .error failure := by
    rw [create, failed]
    rfl
  have refreshed (reappears : Bool) : refresh data reappears s = .error failure := by
    rw [refresh, failed]
    rfl
  cases found : s.deposits.lookup data.key with
  | none =>
    have other := storeDetected_refuses failed
    simp [alone, upsertDetectedDeposit, insertDetected, eval_bind, eval_tryCatch, ask, perform, found,
      created, other, Database.written]
  | some row =>
    have uncredited : row.status ≠ .credited := by simpa [isCredited, found] using uncredited
    simp [alone, upsertDetectedDeposit, eval_bind, ask, perform, found, uncredited, refreshed,
      Database.written]

theorem upsert_gets : Gets world (upsertDetectedDeposit data) s
    (isCredited s data.key ∨ (storeDetected data).isOk) := by
  by_cases credited : isCredited s data.key
  · obtain ⟨row, found, isRow⟩ := (Option.any_eq_true _ _).mp credited
    have left : alone world (upsertDetectedDeposit data) s = _ :=
      upsert_credited found (of_decide_eq_true isRow)
    refine ⟨?_, ?_⟩
    · rw [left]
      simp [credited, Except.isOk, Except.toBool]
    · rw [left]
      exact sameCredits_refl s
  have uncredited : isCredited s data.key = false := by simpa using credited
  cases isStored : storeDetected data with
  | error failure =>
    have refused : alone world (upsertDetectedDeposit data) s = _ := upsert_refused uncredited isStored
    refine ⟨?_, ?_⟩
    · rw [refused]
      simp [credited, Except.isOk, Except.toBool]
    · rw [refused]
      exact sameCredits_refl s
  | ok stored =>
    cases found : s.deposits.lookup data.key with
    | none =>
      have created : alone world (upsertDetectedDeposit data) s = _ := upsert_created found isStored
      refine ⟨?_, ?_⟩
      · rw [created]
        simp [Except.isOk, Except.toBool]
      · rw [created]
        exact sameCredits_save uncredited (by simp [detectedRow])
    | some row =>
      have isOpen : row.status ≠ .credited := by simpa [isCredited, found] using uncredited
      have refreshed : alone world (upsertDetectedDeposit data) s = _ :=
        upsert_refreshed found isOpen isStored
      refine ⟨?_, ?_⟩
      · rw [refreshed]
        simp [Except.isOk, Except.toBool]
      · rw [refreshed]
        refine sameCredits_save uncredited ?_
        simp only [Change.set]
        split
        · decide
        · exact isOpen

/-! ## A window -/

theorem Gets.congr {program : ScannerM α} {A B : Prop} (gets : Gets world program s A) (same : A ↔ B) :
    Gets world program s B :=
  ⟨gets.isOk.trans same, gets.same⟩

theorem Gets.pure {value : α} : Gets world (Pure.pure value) s True :=
  ⟨by simp [alone, Except.isOk, Except.toBool], sameCredits_refl s⟩

theorem Gets.bind {program : ScannerM α} {next : α → ScannerM β} {A B : Prop}
    (first : Gets world program s A)
    (rest : ∀ value s', SameCredits s s' → Gets world (next value) s' B) :
    Gets world (program >>= next) s (A ∧ B) := by
  obtain ⟨isOk, same⟩ := first
  cases ran : alone world program s with
  | mk result s' =>
    rw [ran] at isOk same
    cases result with
    | error failure =>
      have both : alone world (program >>= next) s = (.error failure, s') := by
        rw [alone, eval_bind, ← alone, ran]
      refine ⟨?_, by rw [both]; exact same⟩
      rw [both]
      have fails : ¬A := fun holds => Bool.false_ne_true (isOk.mpr holds)
      simp [fails, Except.isOk, Except.toBool]
    | ok value =>
      have both : alone world (program >>= next) s = alone world (next value) s' := by
        rw [alone, eval_bind, ← alone, ran]
        rfl
      obtain ⟨isOk', same'⟩ := rest value s' same
      refine ⟨?_, by rw [both]; exact same.trans same'⟩
      rw [both, isOk']
      have holds : A := isOk.mp rfl
      simp [holds]

theorem fetchBlocks_alone (asked : List ℤ) (s : Store) : alone world (fetchBlocks chain asked) s =
    (.ok (asked.filterMap fun n => (answered world chain n).map (n, ·)), s) := by
  induction asked with
  | nil => rfl
  | cons n rest ih =>
    have fetched : eval (perform world 0) (fetchBlock chain n) s = (.ok (answered world chain n), s) := by
      simp only [fetchBlock, eval_tryCatch, ask, eval_call, perform, answered]
      cases world.getBlock chain n with
      | error failure => rfl
      | ok found => cases found <;> rfl
    rw [alone] at ih
    rw [alone, fetchBlocks, eval_bind, fetched]
    dsimp only
    rw [eval_bind, ih]
    cases isRef : answered world chain n with
    | none => simp [isRef]
    | some blockRef => simp [isRef]

theorem lookup_fetched (asked : List ℤ) (n : ℤ) :
    (asked.filterMap fun n => (answered world chain n).map (n, ·)).lookup n =
      if n ∈ asked then answered world chain n else none := by
  induction asked with
  | nil => rfl
  | cons m rest ih =>
    by_cases same : n = m
    · subst same
      cases isRef : answered world chain n with
      | none => simp [isRef, ih]
      | some blockRef => simp [isRef]
    · cases isRef : answered world chain m with
      | none => simp [isRef, ih, same]
      | some blockRef =>
        simp only [List.filterMap_cons, isRef, Option.map_some, List.mem_cons, same, false_or]
        rw [List.lookup_cons, beq_false_of_ne same]
        exact ih

theorem SameCredits.passable (same : SameCredits s s') : Passable s' window t ↔ Passable s window t := by
  rw [Passable, Passable, same]

theorem detectTransfers_gets {blockRef : BlockRef} {transfers : List TokenTransfer} {count : ℕ} :
    Gets world (detectTransfers window blockRef transfers count) s
      (∀ t ∈ transfers, (window.target t).isSome → Passable s window t) := by
  induction transfers generalizing s count with
  | nil => exact Gets.pure.congr (by simp)
  | cons t rest ih =>
    unfold detectTransfers
    split
    · rename_i foreign
      exact ih.congr (by simp [foreign])
    · rename_i target ours
      refine (Gets.bind (B := ∀ t ∈ rest, (window.target t).isSome → Passable s window t) upsert_gets
        fun upserted s' same => ?_).congr ?_
      · exact ih.congr (by simp only [same.passable])
      · have first : isCredited s (detected window target blockRef t).key ∨
            (storeDetected (detected window target blockRef t)).isOk ↔ Passable s window t := by
          rw [storable_iff]
          rfl
        rw [first]
        simp [ours]

theorem scanBlocks_gets {refs : List (ℤ × BlockRef)} {blocks : List ℤ} {progress : Progress} :
    Gets world (scanBlocks window refs blocks progress) s
      (∀ t ∈ window.transfers, t.blockNumber ∈ blocks → (refs.lookup t.blockNumber).isSome →
        (window.target t).isSome → Passable s window t) := by
  induction blocks generalizing s progress with
  | nil => exact Gets.pure.congr (by simp)
  | cons n rest ih =>
    unfold scanBlocks
    split
    · rename_i missing
      refine ih.congr ⟨fun passable t member inBlocks => ?_, fun passable t member inRest =>
        passable t member (List.mem_cons_of_mem n inRest)⟩
      rcases List.mem_cons.mp inBlocks with same | inRest
      · simp [same, missing]
      · exact passable t member inRest
    · rename_i blockRef found
      refine (Gets.bind (B := ∀ t ∈ window.transfers, t.blockNumber ∈ rest →
        (refs.lookup t.blockNumber).isSome → (window.target t).isSome → Passable s window t)
        detectTransfers_gets fun count s₁ same => ?_).congr ?_
      · have orphaned : Gets world (ask (.orphanReorgedDeposits window.chain n blockRef.hash)) s₁ True :=
          ⟨by simp [alone, ask, perform, Except.isOk, Except.toBool], sameCredits_orphan s₁ window.chain n blockRef.hash⟩
        refine (orphaned.bind fun orphans s₂ same' => ?_).congr ⟨And.right, And.intro trivial⟩
        exact ih.congr (by simp only [same'.passable, same.passable])
      · constructor
        · rintro ⟨first, later⟩ t member inBlocks isFetched isOurs
          rcases List.mem_cons.mp inBlocks with same | inRest
          · exact first t (List.mem_filter.mpr ⟨member, decide_eq_true same⟩) isOurs
          · exact later t member inRest isFetched isOurs
        · intro passable
          refine ⟨fun t member isOurs => ?_, fun t member inRest =>
            passable t member (List.mem_cons_of_mem n inRest)⟩
          obtain ⟨member, inBlock⟩ := List.mem_filter.mp member
          have same : t.blockNumber = n := of_decide_eq_true inBlock
          exact passable t member (by simp [same]) (by simp [same, found]) isOurs

/-- The blocks a pass goes on with. -/
def fetchedRefs (world : World) (window : Window) (s : Store) : List (ℤ × BlockRef) :=
  (window.blocksToFetch (getPendingDepositBlocks s window.chain window.fromBlock window.toBlock)).filterMap
    fun n => (answered world window.chain n).map (n, ·)

theorem lookup_fetchedRefs (member : t ∈ window.transfers) (isOurs : (window.target t).isSome) :
    (fetchedRefs world window s).lookup t.blockNumber = answered world window.chain t.blockNumber := by
  rw [fetchedRefs, lookup_fetched, if_pos (mem_blocksToFetch member isOurs)]

theorem scanWindow_reaches (lastHash : Option String) :
    (∃ progress s', alone world (scanWindow window lastHash) s = (.ok progress, s') ∧
      (s'.cursors.lookup window.chain).map ChainCursor.lastScannedBlock = some window.toBlock) ↔
      ∀ t ∈ window.transfers, IsProcessed world window t → Passable s window t := by
  have started : alone world (scanWindow window lastHash) s = alone world (do
      let progress ← scanBlocks window (fetchedRefs world window s) window.blocks ⟨0, 0, lastHash⟩
      let _ ← ask (.upsertCursor window.chain ⟨window.toBlock, progress.lastHash, window.toBlock⟩)
      return progress) s := by
    rw [alone, scanWindow, eval_bind]
    simp only [ask, eval_call, perform]
    rw [eval_bind, ← alone, fetchBlocks_alone]
    rfl
  have passable : (alone world (scanBlocks window (fetchedRefs world window s) window.blocks
      ⟨0, 0, lastHash⟩) s).1.isOk ↔
      ∀ t ∈ window.transfers, IsProcessed world window t → Passable s window t := by
    rw [scanBlocks_gets.isOk]
    refine forall₂_congr fun t member => ?_
    constructor
    · rintro each ⟨isOurs, inWindow, isFetched⟩
      exact each inWindow (by rwa [lookup_fetchedRefs member isOurs]) isOurs
    · intro each inWindow isFetched isOurs
      exact each ⟨isOurs, inWindow, by rwa [lookup_fetchedRefs member isOurs] at isFetched⟩
  rw [← passable, started, alone, eval_bind, ← alone]
  cases alone world (scanBlocks window (fetchedRefs world window s) window.blocks ⟨0, 0, lastHash⟩) s with
  | mk result s₁ =>
    cases result with
    | error failure => simp [Except.isOk, Except.toBool]
    | ok progress =>
      refine iff_of_true ⟨progress, _, rfl, ?_⟩ rfl
      simp [perform]

/-- A pass that gets to its window reaches the cursor update if and only if every
transfer it processes can be stored, or is credited already. -/
theorem reaches_iff (opens : Opens config world s window) :
    Reaches config world s window ↔
      ∀ t ∈ window.transfers, IsProcessed world window t → Passable s window t := by
  obtain ⟨chain, asset, token, addresses, transfers, first, last⟩ := window
  obtain ⟨isAsset, ⟨head, isHead, isTo⟩, isFrom, nonempty, isAddresses, ⟨contract, isToken, isTransfers⟩⟩ := opens
  dsimp only at isAsset isHead isTo isFrom nonempty isAddresses isToken isTransfers
  subst isAsset isTo isFrom isAddresses
  have fromStart : (config.startBlock : ℤ) ≤ fromBlock config (s.cursors.lookup chain) := le_max_left _ _
  have started : ¬(head.number - config.safetyLag < config.startBlock) := by omega
  refine Iff.trans ?_
    (scanWindow_reaches ((s.cursors.lookup chain).bind ChainCursor.lastScannedHash))
  simp only [Reaches, alone, scanOnce, eval_bind, ask, eval_call, perform, isHead, started, not_lt.mpr nonempty,
    if_false, isToken, isTransfers]
  generalize eval (perform world 0) (scanWindow _ _) s = outcome
  obtain ⟨failure | progress, s'⟩ := outcome
  · simp
  · simp

/-! ## A poisoned window -/

private def firstWindow (transfers : List TokenTransfer) : Window where
  chain := .tron
  asset := USDT
  token := ⟨some "TUSDT", 6, 2, true⟩
  addresses := [⟨1, 7, "Tdeposit", true⟩]
  transfers := transfers
  fromBlock := 0
  toBlock := 2

private theorem firstWindow_opens (transfers : List TokenTransfer) :
    Opens smallConfig (nodeWith transfers) emptyStore (firstWindow transfers) where
  asset := rfl
  head := ⟨_, rfl, rfl⟩
  fromBlock := rfl
  nonempty := show (0 : ℤ) ≤ 2 by decide
  addresses := rfl
  transfers := ⟨"TUSDT", rfl, rfl⟩

/-- The deposit of user 7 comes twice, and a transfer of nothing goes elsewhere. -/
theorem reaches_twice : Reaches smallConfig
    (nodeWith [usdtTransfer, { usdtTransfer with toAddress := "Tother", amountBase := 0 }, usdtTransfer])
    emptyStore
    (firstWindow [usdtTransfer, { usdtTransfer with toAddress := "Tother", amountBase := 0 }, usdtTransfer]) := by
  refine (reaches_iff (firstWindow_opens _)).mpr fun t member processed => .inr ?_
  have each : ∀ t ∈ [usdtTransfer, { usdtTransfer with toAddress := "Tother", amountBase := 0 }, usdtTransfer],
      ((firstWindow []).target t).isSome → storable ⟨some "TUSDT", 6, 2, true⟩ t := by decide +kernel
  exact each t member processed.1

/-- A transfer of nothing to the address of user 7 makes the pass throw. -/
theorem zero_poisons : ¬∀ config world s window, Opens config world s window →
    Reaches config world s window := by
  intro reaches
  obtain ⟨result, s', ended, -⟩ := reaches _ _ _ _ (firstWindow_opens [{ usdtTransfer with amountBase := 0 }])
  have threw : (alone (nodeWith [{ usdtTransfer with amountBase := 0 }])
      (scanOnce smallConfig .tron USDT) emptyStore).1 =
      .error (.database "crypto_deposits_amount_chk") := by decide +kernel
  change alone _ (scanOnce smallConfig .tron USDT) emptyStore = _ at ended
  rw [ended] at threw
  cases threw

end Exchange.Scanner.Progress
