import Exchange.ScannerService

/-! The rules the two passes follow: which calls a pass makes after which
answers. -/
namespace Exchange.Scanner

/-- Calls that change nothing. -/
def ScannerCall.isNeutral : ScannerCall → Bool
  | .upsertCursor _ _ => false
  | .create _ => false
  | .refresh _ _ => false
  | .orphanReorgedDeposits _ _ _ => false
  | .updateConfirmations _ _ _ => false
  | .post _ => false
  | .markCredited _ _ => false
  | _ => true

namespace Service
open Ledger Async

/-- The calls a pass has made, latest first. -/
abbrev Past := List (Answered ScannerCall ScannerCall.Reply Failure)

/-- The pass has posted a credit, last; the flip of the row is owed. -/
inductive Owes (key : DepositKey) : Past → Prop
  | posted {input : LedgerPostingInput DepositKey} {txn : LedgerTransaction DepositKey} {past : Past}
      (isType : input.referenceType = some DEPOSIT_REFERENCE_TYPE) (isTarget : input.referenceId = some key) :
      Owes key (⟨.post input, .ok txn⟩ :: past)

/-- The pass owes nothing. -/
def Free (past : Past) : Prop := ∀ key, ¬Owes key past

/-- The node has reported a transfer. -/
def Reported (chain : Chain) (t : TokenTransfer) (past : Past) : Prop :=
  ∃ contract fromBlock toBlock transfers,
    ⟨.getTokenTransfers chain contract fromBlock toBlock, .ok transfers⟩ ∈ past ∧ t ∈ transfers

def Fetched (chain : Chain) (blockNumber : ℤ) (blockRef : BlockRef) (past : Past) : Prop :=
  ⟨.getBlock chain blockNumber, .ok (some blockRef)⟩ ∈ past

/-- A block was asked for, and there was an error or none. -/
def Failed (chain : Chain) (blockNumber : ℤ) (past : Past) : Prop :=
  ∃ reply, ⟨.getBlock chain blockNumber, reply⟩ ∈ past ∧ ∀ blockRef, reply ≠ .ok (some blockRef)

/-- The pass has seen the row of a deposit. -/
inductive Recorded (key : DepositKey) (past : Past) : Prop
  | found {row : CryptoDeposit} (member : ⟨.findUnique key, .ok (some row)⟩ ∈ past)
  | created {data : DetectedDeposit} {row : CryptoDeposit} (isKey : data.key = key)
      (member : ⟨.create data, .ok row⟩ ∈ past)
  | raced {row : CryptoDeposit} (member : ⟨.findUniqueOrThrow key, .ok row⟩ ∈ past)

/-- A transfer with the hash of its block, as the node has answered them. -/
structure Detects (data : DetectedDeposit) (past : Past) : Prop where
  detects : ∃ window target blockRef t, data = detected window target blockRef t ∧
    window.target t = some target ∧ Reported window.chain t past ∧
      Fetched window.chain t.blockNumber blockRef past

/-- What a pass has asked before it fetches blocks. -/
structure Opened (config : Config) (window : Window) (past : Past) : Prop where
  cursor : ∃ cursor, ⟨.getCursor window.chain, .ok cursor⟩ ∈ past ∧
    window.fromBlock = fromBlock config cursor
  token : ∃ row contract, ⟨.getSupportedToken USDT window.chain, .ok (some row)⟩ ∈ past ∧
    withContract row = some (window.token, contract) ∧
    ⟨.getTokenTransfers window.chain contract window.fromBlock window.toBlock, .ok window.transfers⟩ ∈ past
  addresses : ⟨.listActiveDepositAddresses window.chain, .ok window.addresses⟩ ∈ past

/-- Every transfer of the window to one of our addresses is recorded, unless its
block could not be fetched. -/
structure Scanned (config : Config) (window : Window) (past : Past) : Prop extends
    Opened config window past where
  each : ∀ t ∈ window.transfers, t.blockNumber ∈ window.blocks → (window.target t).isSome →
    Failed window.chain t.blockNumber past ∨ Recorded (transferKey window.chain t) past

/-- The pass has listed a deposit as creditable. -/
def Listed (key : DepositKey) (deposit : CryptoDeposit) (past : Past) : Prop :=
  ∃ chain rows, ⟨.listCreditableCandidates chain, .ok rows⟩ ∈ past ∧ (key, deposit) ∈ rows

/-- The pass has found the deposit deep enough below the head. -/
def Deep (key : DepositKey) (deposit : CryptoDeposit) (past : Past) : Prop :=
  ∃ chain head blockNumber, ⟨.getLatestBlock chain, .ok head⟩ ∈ past ∧
    deposit.blockNumber = some blockNumber ∧ deposit.reqConfirmations ≤ depth head blockNumber ∧
    Listed key deposit past

variable (config : Config)

/-- The calls a pass may make. -/
inductive May : Past → ScannerCall → Prop
  | neutral {past : Past} {call : ScannerCall} (neutral : call.isNeutral) : May past call
  | create {data : DetectedDeposit} {past : Past} (detects : Detects data past) : May past (.create data)
  | refresh {data : DetectedDeposit} {reappears : Bool} {past : Past} (detects : Detects data past) :
      May past (.refresh data reappears)
  | orphan {chain : Chain} {blockNumber : ℤ} {blockRef : BlockRef} {past : Past}
      (fetched : Fetched chain blockNumber blockRef past) :
      May past (.orphanReorgedDeposits chain blockNumber blockRef.hash)
  | upsertCursor {window : Window} {lastHash : Option String} {past : Past}
      (scanned : Scanned config window past) :
      May past (.upsertCursor window.chain ⟨window.toBlock, lastHash, window.toBlock⟩)
  | updateConfirmations {key : DepositKey} {deposit : CryptoDeposit} {confirmations reqConfirmations : ℕ}
      {past : Past} (listed : Listed key deposit past) :
      May past (.updateConfirmations key confirmations (nextStatus confirmations reqConfirmations))
  | post {key : DepositKey} {deposit : CryptoDeposit} {userId : UserId} {past : Past}
      (deep : Deep key deposit past) : May past (.post (depositCredit key deposit userId))
  | markCredited {key : DepositKey} {deposit : CryptoDeposit} {userId : UserId}
      {txn : LedgerTransaction DepositKey} {past : Past} :
      May (⟨.post (depositCredit key deposit userId), .ok txn⟩ :: past) (.markCredited key txn.id)

/-- A pass that owes the flip of a row makes it next. -/
def may (past : Past) (call : ScannerCall) : Prop :=
  May config past call ∧ ∀ key, Owes key past → ∃ ledgerTxnId, call = .markCredited key ledgerTxnId

/-- A pass ends without a debt, and before it with a fact if it answers. -/
def Ends {α : Type} (fact : α → Past → Prop) (past : Past) : Except Failure α → Prop
  | .ok value => Free past ∧ fact value past
  | .error _ => Free past

def ends (past : Past) (result : Except Failure Response) : Prop := Ends (fun _ _ => True) past result

variable {config} {past later : Past} {chain : Chain} {window : Window}

/-! ## Pasts -/

theorem free_nil : Free [] := by
  rintro key ⟨⟩

theorem Free.cons {made : Answered ScannerCall ScannerCall.Reply Failure} (past : Past)
    (other : ∀ input txn, made ≠ ⟨.post input, .ok txn⟩) : Free (made :: past) := by
  intro key owes
  cases owes
  exact other _ _ rfl

theorem Free.neutral {call : ScannerCall} {reply : Except Failure call.Reply} (past : Past)
    (neutral : call.isNeutral) : Free (⟨call, reply⟩ :: past) := by
  refine Free.cons past ?_
  rintro input txn same
  cases same
  cases neutral

theorem May.free {call : ScannerCall} (call' : May config past call) (free : Free past) :
    may config past call :=
  ⟨call', fun key owes => (free key owes).elim⟩

theorem Reported.grow {t : TokenTransfer} (reported : Reported chain t past) (grown : past <:+ later) :
    Reported chain t later := by
  obtain ⟨contract, fromBlock, toBlock, transfers, member, isTransfer⟩ := reported
  exact ⟨contract, fromBlock, toBlock, transfers, grown.subset member, isTransfer⟩

theorem Failed.grow {n : ℤ} (failed : Failed chain n past) (grown : past <:+ later) :
    Failed chain n later := by
  obtain ⟨reply, member, none⟩ := failed
  exact ⟨reply, grown.subset member, none⟩

theorem Recorded.grow {key : DepositKey} (recorded : Recorded key past) (grown : past <:+ later) :
    Recorded key later := by
  cases recorded with
  | found member => exact .found (grown.subset member)
  | created isKey member => exact .created isKey (grown.subset member)
  | raced member => exact .raced (grown.subset member)

theorem Detects.grow {data : DetectedDeposit} (detects : Detects data past) (grown : past <:+ later) :
    Detects data later := by
  obtain ⟨window, target, blockRef, t, same, isTarget, reported, fetched⟩ := detects
  exact ⟨window, target, blockRef, t, same, isTarget, reported.grow grown, grown.subset fetched⟩

theorem Opened.grow (opened : Opened config window past) (grown : past <:+ later) :
    Opened config window later := by
  obtain ⟨⟨cursor, read, isFrom⟩, ⟨row, contract, supported, isToken, transfers⟩, addresses⟩ := opened
  exact ⟨⟨cursor, grown.subset read, isFrom⟩,
    ⟨row, contract, grown.subset supported, isToken, grown.subset transfers⟩, grown.subset addresses⟩

theorem Listed.grow {key : DepositKey} {deposit : CryptoDeposit} (listed : Listed key deposit past)
    (grown : past <:+ later) : Listed key deposit later := by
  obtain ⟨chain, rows, member, isRow⟩ := listed
  exact ⟨chain, rows, grown.subset member, isRow⟩

/-- A call that changes nothing is always allowed, and nothing is owed then. -/
theorem obeys_neutral {call : ScannerCall} {post : Past → Except Failure call.Reply → Prop}
    (free : Free past) (neutral : call.isNeutral)
    (next : ∀ reply, Free (⟨call, reply⟩ :: past) → post (⟨call, reply⟩ :: past) reply) :
    (ask call).Obeys (may config) post past :=
  obeys_call.mpr ⟨(May.neutral neutral).free free, fun reply => next reply (Free.neutral past neutral)⟩

/-! ## Detection -/

theorem insertDetected_obeys {data : DetectedDeposit} (free : Free past) (detects : Detects data past) :
    (insertDetected data).Obeys (may config) (Ends fun _ => Recorded data.key) past := by
  unfold insertDetected
  rw [obeys_tryCatch, obeys_bind]
  refine obeys_call.mpr ⟨(May.create detects).free free, ?_⟩
  rintro (failure | row)
  · have free : Free (⟨.create data, .error failure⟩ :: past) := Free.cons _ (by simp)
    dsimp only
    split
    · rw [obeys_bind]
      apply obeys_neutral free rfl
      rintro (failure | row) free
      · exact free
      · exact ⟨free, .raced List.mem_cons_self⟩
    · exact free
  · exact ⟨Free.cons _ (by simp), .created rfl List.mem_cons_self⟩

theorem upsertDetectedDeposit_obeys {data : DetectedDeposit} (free : Free past)
    (detects : Detects data past) :
    (upsertDetectedDeposit data).Obeys (may config) (Ends fun _ => Recorded data.key) past := by
  unfold upsertDetectedDeposit
  rw [obeys_bind]
  apply obeys_neutral free rfl
  rintro (failure | found) free
  · exact free
  have detects := detects.grow (List.suffix_cons ⟨.findUnique data.key, .ok found⟩ past)
  cases found with
  | none => exact insertDetected_obeys free detects
  | some row =>
    have recorded : Recorded data.key (⟨.findUnique data.key, .ok (some row)⟩ :: past) :=
      .found List.mem_cons_self
    dsimp only
    split
    · exact ⟨free, recorded⟩
    · rw [obeys_bind]
      refine obeys_call.mpr ⟨(May.refresh detects).free free, ?_⟩
      rintro (failure | row)
      · exact Free.cons _ (by simp)
      · exact ⟨Free.cons _ (by simp), recorded.grow (List.suffix_cons _ _)⟩

/-- The references fetched are answers of the node, and one that is missing is
of a block that could not be fetched. -/
structure Refs (chain : Chain) (asked : List ℤ) (refs : List (ℤ × BlockRef)) (past : Past) : Prop where
  fetched : ∀ n blockRef, refs.lookup n = some blockRef → Fetched chain n blockRef past
  missing : ∀ n ∈ asked, refs.lookup n = none → Failed chain n past

theorem fetchBlock_obeys {n : ℤ} (free : Free past) :
    (fetchBlock chain n).Obeys (may config) (Ends fun found later =>
      match found with
      | some blockRef => Fetched chain n blockRef later
      | none => Failed chain n later) past := by
  unfold fetchBlock
  rw [obeys_tryCatch]
  apply obeys_neutral free rfl
  rintro (failure | found) free
  · exact ⟨free, _, List.mem_cons_self, fun blockRef => by simp⟩
  cases found with
  | none => exact ⟨free, _, List.mem_cons_self, fun blockRef => by simp⟩
  | some blockRef => exact ⟨free, List.mem_cons_self⟩

theorem fetchBlocks_obeys {asked : List ℤ} (free : Free past) :
    (fetchBlocks chain asked).Obeys (may config) (Ends (Refs chain asked)) past := by
  induction asked generalizing past with
  | nil => exact ⟨free, fun n blockRef found => (by cases found), fun n member => (by cases member)⟩
  | cons n rest ih =>
    unfold fetchBlocks
    rw [obeys_bind]
    apply (fetchBlock_obeys free).imp
    rintro past (failure | found) fetched
    · exact fetched
    obtain ⟨free, fetched⟩ := fetched
    dsimp only
    rw [obeys_bind]
    apply (ih free).grows.imp
    rintro later (failure | refs) ⟨grown, rested⟩
    · exact rested
    obtain ⟨free, rested⟩ := rested
    cases found with
    | some blockRef =>
      refine ⟨free, fun m other isRef => ?_, fun m member missing => ?_⟩
      · rw [List.lookup_cons] at isRef
        split at isRef
        · rename_i same
          obtain rfl : m = n := by simpa using same
          cases isRef
          exact grown.subset fetched
        · exact rested.fetched m other isRef
      · rw [List.lookup_cons] at missing
        split at missing
        · cases missing
        · rename_i other
          rcases List.mem_cons.mp member with same | member
          · simp [same] at other
          · exact rested.missing m member missing
    | none =>
      refine ⟨free, rested.fetched, fun m member missing => ?_⟩
      rcases List.mem_cons.mp member with rfl | member
      · exact fetched.grow grown
      · exact rested.missing m member missing

theorem detectTransfers_obeys {blockRef : BlockRef} {transfers : List TokenTransfer} {count : ℕ}
    (free : Free past) (reported : ∀ t ∈ transfers, Reported window.chain t past ∧
      Fetched window.chain t.blockNumber blockRef past) :
    (detectTransfers window blockRef transfers count).Obeys (may config) (Ends fun _ later =>
      ∀ t ∈ transfers, (window.target t).isSome → Recorded (transferKey window.chain t) later) past := by
  induction transfers generalizing past count with
  | nil => exact ⟨free, fun t member => (by cases member)⟩
  | cons t rest ih =>
    have reportedRest := fun u member => reported u (List.mem_cons_of_mem t member)
    unfold detectTransfers
    split
    · rename_i foreign
      apply (ih free reportedRest).imp
      rintro later (failure | count) ended
      · exact ended
      refine ⟨ended.1, fun u member isOurs => ?_⟩
      rcases List.mem_cons.mp member with rfl | member
      · simp [foreign] at isOurs
      · exact ended.2 u member isOurs
    · rename_i target ours
      obtain ⟨isReported, isFetched⟩ := reported t List.mem_cons_self
      rw [obeys_bind]
      apply (upsertDetectedDeposit_obeys free
        ⟨window, target, blockRef, t, rfl, ours, isReported, isFetched⟩).grows.imp
      rintro past (failure | upserted) ⟨grown, recorded⟩
      · exact recorded
      obtain ⟨free, recorded⟩ := recorded
      dsimp only
      refine (ih free fun u member => ?_).grows.imp ?_
      · exact ⟨(reportedRest u member).1.grow grown, grown.subset (reportedRest u member).2⟩
      rintro later (failure | count) ⟨grown, ended⟩
      · exact ended
      refine ⟨ended.1, fun u member isOurs => ?_⟩
      rcases List.mem_cons.mp member with rfl | member
      · exact recorded.grow grown
      · exact ended.2 u member isOurs

theorem scanBlocks_obeys {refs : List (ℤ × BlockRef)} {blocks : List ℤ} {progress : Progress}
    (free : Free past) (reported : ∀ t ∈ window.transfers, Reported window.chain t past)
    (fetched : ∀ n blockRef, refs.lookup n = some blockRef → Fetched window.chain n blockRef past) :
    (scanBlocks window refs blocks progress).Obeys (may config) (Ends fun _ later =>
      ∀ t ∈ window.transfers, t.blockNumber ∈ blocks → (refs.lookup t.blockNumber).isSome →
        (window.target t).isSome → Recorded (transferKey window.chain t) later) past := by
  induction blocks generalizing past progress with
  | nil => exact ⟨free, fun t _ member => (by cases member)⟩
  | cons n rest ih =>
    unfold scanBlocks
    split
    · rename_i missing
      apply (ih free reported fetched).imp
      rintro later (failure | progress) ended
      · exact ended
      refine ⟨ended.1, fun t member inBlocks isFetched isOurs => ?_⟩
      rcases List.mem_cons.mp inBlocks with same | inBlocks
      · simp [same, missing] at isFetched
      · exact ended.2 t member inBlocks isFetched isOurs
    · rename_i blockRef found
      rw [obeys_bind]
      refine (detectTransfers_obeys free fun t member => ?_).grows.imp ?_
      · obtain ⟨isTransfer, inBlock⟩ := List.mem_filter.mp member
        have same : t.blockNumber = n := of_decide_eq_true inBlock
        exact ⟨reported t isTransfer, same ▸ fetched n blockRef found⟩
      rintro mid (failure | count) ⟨grown, detected⟩
      · exact detected
      obtain ⟨free, detected⟩ := detected
      dsimp only
      rw [obeys_bind]
      refine obeys_call.mpr ⟨(May.orphan (grown.subset (fetched n blockRef found))).free free, ?_⟩
      rintro (failure | orphaned)
      · exact Free.cons _ (by simp)
      dsimp only
      have grown := grown.trans (List.suffix_cons
        (⟨.orphanReorgedDeposits window.chain n blockRef.hash, .ok orphaned⟩ :
          Answered ScannerCall ScannerCall.Reply Failure) mid)
      refine (ih (Free.cons _ (by simp)) (fun t member => (reported t member).grow grown)
        fun m other isRef => grown.subset (fetched m other isRef)).grows.imp ?_
      rintro later (failure | progress) ⟨after, ended⟩
      · exact ended
      refine ⟨ended.1, fun t member inBlocks isFetched isOurs => ?_⟩
      rcases List.mem_cons.mp inBlocks with same | inBlocks
      · refine (detected t (List.mem_filter.mpr ⟨member, decide_eq_true same⟩) isOurs).grow ?_
        exact (List.suffix_cons _ mid).trans after
      · exact ended.2 t member inBlocks isFetched isOurs

theorem mem_blocksToFetch {pendingBlocks : List ℤ} {t : TokenTransfer} (member : t ∈ window.transfers)
    (isOurs : (window.target t).isSome) : t.blockNumber ∈ window.blocksToFetch pendingBlocks := by
  simp only [Window.blocksToFetch, List.mem_eraseDups, List.cons_append, List.mem_cons, List.mem_append,
    List.mem_map, List.mem_filter]
  exact .inr (.inl ⟨t, ⟨member, isOurs⟩, rfl⟩)

theorem scanWindow_obeys {lastHash : Option String} (free : Free past)
    (opened : Opened config window past) :
    (scanWindow window lastHash).Obeys (may config) (Ends fun _ _ => True) past := by
  unfold scanWindow
  rw [obeys_bind]
  apply obeys_neutral free rfl
  rintro (failure | pendingBlocks) free
  · exact free
  dsimp only
  rw [obeys_bind]
  apply (fetchBlocks_obeys free).grows.imp
  rintro mid (failure | refs) ⟨grown, fetched⟩
  · exact fetched
  obtain ⟨free, fetched⟩ := fetched
  have opened := opened.grow ((List.suffix_cons _ past).trans grown)
  have reported : ∀ t ∈ window.transfers, Reported window.chain t mid := by
    obtain ⟨row, contract, -, -, transfers⟩ := opened.token
    exact fun t member => ⟨contract, _, _, window.transfers, transfers, member⟩
  dsimp only
  rw [obeys_bind]
  apply (scanBlocks_obeys free reported fetched.fetched).grows.imp
  rintro later (failure | progress) ⟨grown, scanned⟩
  · exact scanned
  obtain ⟨free, scanned⟩ := scanned
  have scanned : Scanned config window later := by
    refine ⟨opened.grow grown, fun t member inWindow isOurs => ?_⟩
    cases found : refs.lookup t.blockNumber with
    | none => exact .inl ((fetched.missing _ (mem_blocksToFetch member isOurs) found).grow grown)
    | some blockRef => exact .inr (scanned t member inWindow (by simp [found]) isOurs)
  dsimp only
  rw [obeys_bind]
  refine obeys_call.mpr ⟨(May.upsertCursor scanned).free free, ?_⟩
  rintro (failure | cursor)
  · exact Free.cons _ (by simp)
  · exact ⟨Free.cons _ (by simp), trivial⟩

theorem scanOnce_obeys (free : Free past) :
    (scanOnce config chain USDT).Obeys (may config) (Ends fun _ _ => True) past := by
  unfold scanOnce
  rw [obeys_bind]
  apply obeys_neutral free rfl
  rintro (failure | head) free
  · exact free
  dsimp only
  rw [obeys_bind]
  apply obeys_neutral free rfl
  rintro (failure | cursor) free
  · exact free
  dsimp only
  split
  · exact ⟨free, trivial⟩
  rw [obeys_bind]
  apply obeys_neutral free rfl
  rintro (failure | supported) free
  · exact free
  dsimp only
  split
  · exact ⟨free, trivial⟩
  rename_i token contract isToken
  split
  · exact ⟨free, trivial⟩
  obtain ⟨row, rfl, hasContract⟩ := Option.bind_eq_some_iff.mp isToken
  rw [obeys_bind]
  apply obeys_neutral free rfl
  rintro (failure | addresses) free
  · exact free
  dsimp only
  rw [obeys_bind]
  apply obeys_neutral free rfl
  rintro (failure | transfers) free
  · exact free
  dsimp only
  rw [obeys_bind]
  refine (scanWindow_obeys free ⟨⟨cursor, by simp, rfl⟩, ⟨row, contract, by simp, hasContract, ?_⟩, ?_⟩).imp ?_
  · exact List.mem_cons_self
  · exact List.mem_cons_of_mem _ List.mem_cons_self
  rintro later (failure | progress) ended
  · exact ended
  · exact ⟨ended.1, trivial⟩

/-! ## Confirmation -/

theorem creditDeposit_obeys {key : DepositKey} {deposit : CryptoDeposit} {confirmations : ℕ}
    {status : DepositStatus} (free : Free past) (deep : Deep key deposit past) :
    (creditDeposit key { deposit with confirmations, status }).Obeys (may config)
      (Ends fun _ _ => True) past := by
  unfold creditDeposit
  split
  · exact ⟨free, trivial⟩
  dsimp only
  split
  · exact ⟨free, trivial⟩
  rename_i userId isUser
  rw [obeys_bind]
  refine obeys_call.mpr ⟨(May.post deep).free free, ?_⟩
  rintro (failure | txn)
  · exact Free.cons _ (by simp)
  dsimp only
  rw [obeys_bind]
  refine obeys_call.mpr ⟨⟨.markCredited, ?_⟩, ?_⟩
  · rintro other ⟨isType, isTarget⟩
    cases isTarget
    exact ⟨_, rfl⟩
  rintro (failure | count)
  · exact Free.cons _ (by simp)
  · exact ⟨Free.cons _ (by simp), trivial⟩

theorem advance_obeys {key : DepositKey} {deposit : CryptoDeposit} {confirmations reqConfirmations : ℕ}
    (free : Free past) (listed : Listed key deposit past) :
    (advance key deposit confirmations (nextStatus confirmations reqConfirmations)).Obeys (may config)
      (Ends fun _ _ => True) past := by
  unfold advance
  split
  · rw [obeys_bind]
    refine obeys_call.mpr ⟨(May.updateConfirmations listed).free free, ?_⟩
    rintro (failure | row)
    · exact Free.cons _ (by simp)
    · exact ⟨Free.cons _ (by simp), trivial⟩
  · exact ⟨free, trivial⟩

theorem confirmDeposits_obeys {head : BlockRef} {rows : List (DepositKey × CryptoDeposit)}
    {done : Confirmed} (free : Free past) (isHead : ⟨.getLatestBlock chain, .ok head⟩ ∈ past)
    (listed : ∀ key deposit, (key, deposit) ∈ rows → Listed key deposit past) :
    (confirmDeposits head rows done).Obeys (may config) (Ends fun _ _ => True) past := by
  induction rows generalizing past done with
  | nil => exact ⟨free, trivial⟩
  | cons first rest ih =>
    obtain ⟨key, deposit⟩ := first
    have listedRest := fun other row member => listed other row (List.mem_cons_of_mem _ member)
    unfold confirmDeposits
    dsimp only
    split
    · exact ih free isHead listedRest
    rename_i blockNumber isBlock
    rw [obeys_bind]
    apply (advance_obeys free (listed key deposit List.mem_cons_self)).grows.imp
    rintro mid (failure | _) ⟨grown, advanced⟩
    · exact advanced
    have isHead := grown.subset isHead
    have listedRest := fun other row member => (listedRest other row member).grow grown
    dsimp only
    split
    · rename_i deep
      rw [obeys_bind]
      refine (creditDeposit_obeys advanced.1 ⟨chain, head, blockNumber, isHead, isBlock, deep,
        (listed key deposit List.mem_cons_self).grow grown⟩).grows.imp ?_
      rintro later (failure | didCredit) ⟨grown, credited⟩
      · exact credited
      exact ih credited.1 (grown.subset isHead) fun other row member => (listedRest other row member).grow grown
    · exact ih advanced.1 isHead listedRest

theorem runConfirmations_obeys (free : Free past) :
    (runConfirmations chain).Obeys (may config) (Ends fun _ _ => True) past := by
  unfold runConfirmations
  rw [obeys_bind]
  apply obeys_neutral free rfl
  rintro (failure | head) free
  · exact free
  dsimp only
  rw [obeys_bind]
  apply obeys_neutral free rfl
  rintro (failure | rows) free
  · exact free
  refine confirmDeposits_obeys free (List.mem_cons_of_mem _ List.mem_cons_self) fun key deposit member => ?_
  exact ⟨chain, rows, List.mem_cons_self, member⟩

/-! ## Requests -/

theorem program_obeys (request : Request) : (request.program config).Obeys (may config) ends [] := by
  cases request with
  | scanOnce chain =>
    unfold Request.program
    rw [obeys_bind]
    apply (scanOnce_obeys free_nil).imp
    rintro past (failure | result) ended <;> exact ended
  | runConfirmations chain =>
    unfold Request.program
    rw [obeys_bind]
    apply (runConfirmations_obeys free_nil).imp
    rintro past (failure | result) ended <;> exact ended
  | runChainScanCycle chain =>
    unfold Request.program
    rw [obeys_bind]
    apply (scanOnce_obeys free_nil).imp
    rintro past (failure | scan) ended
    · exact ended
    dsimp only
    rw [obeys_bind]
    apply (runConfirmations_obeys ended.1).imp
    rintro past (failure | result) ended <;> exact ended

/-- Every request follows the rules. -/
theorem isRequest_obeys {requests : ℕ → Request} {pid : ℕ} {program : ScannerM Response}
    (isRequest : IsRequest config requests pid program) : program.Obeys (may config) ends [] := by
  unfold IsRequest at isRequest
  subst isRequest
  exact program_obeys (requests pid)

end Service
end Exchange.Scanner
