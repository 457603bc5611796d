import Exchange.ScannerEffects

/-! Reorganisations of a chain. The hash stored with a deposit is fetched apart
from its transfer, so a reorganisation between the two calls stores the hash of
a block the transfer may not be in; and a deposit is credited by what its row
says, not by what the chain holds then. -/
namespace Exchange.Scanner.Reorgs
open Ledger Service

/-- The tables, and the hashes of the canonical blocks by height. -/
structure Network where
  canonical : Chain → ℤ → String
  db : Store

/-- What a call does; the chain may have been reorganised since the last one. -/
def perform (world : World × (Chain → ℤ → String)) (pid : ℕ) (call : ScannerCall) (n : Network) :
    Except Failure call.Reply × Network :=
  ((Scanner.perform world.1 pid call n.db).1, ⟨world.2, (Scanner.perform world.1 pid call n.db).2⟩)

abbrev History := Logged ℕ ScannerCall ScannerCall.Reply Failure Network

abbrev NetworkPool := Pool ℕ ScannerCall ScannerCall.Reply Failure Response History

-- Which transfers a block holds, by its hash.
variable (contains : String → DepositKey → Bool)

/-- The node answers from the chain as it is at the call, if it answers. -/
def honest (canonical : Chain → ℤ → String) : Answered ScannerCall ScannerCall.Reply Failure → Bool
  | ⟨.getBlock chain n, .ok (some blockRef)⟩ => blockRef.hash = canonical chain n
  | ⟨.getTokenTransfers chain _ _ _, .ok transfers⟩ => transfers.all fun t =>
      t.blockHash = canonical chain t.blockNumber && contains t.blockHash (transferKey chain t)
  | _ => true

/-- The hash to be stored is the one the node has reported with the transfer. -/
def matchesReport (past : Past) (data : DetectedDeposit) : Bool :=
  past.any fun made => match made with
    | ⟨.getTokenTransfers chain _ _ _, .ok transfers⟩ => transfers.any fun t =>
      transferKey chain t = data.key && t.blockHash = data.blockHash
    | _ => false

/-- The block the row names is on the chain. -/
def namesCanonical (n : Network) (key : DepositKey) : Bool :=
  (n.db.deposits.lookup key).any fun row => row.blockNumber.any fun number =>
    row.blockHash = some (n.canonical key.chain number)

/-- Transfer and hash come from one block, and at a credit that block is still on
the chain. -/
def settles (n : Network) (past : Past) : ScannerCall → Bool
  | .create data => matchesReport past data
  | .refresh data _ => matchesReport past data
  | .post input => input.referenceId.any (namesCanonical n)
  | _ => true

def observed (pid : ℕ) (call : ScannerCall) (x : History) (reply : Except Failure call.Reply)
    (n : Network) : Prop :=
  Database.Makes perform pid call x.store reply n ∧ honest contains n.canonical ⟨call, reply⟩

def settled (pid : ℕ) (call : ScannerCall) (x : History) (reply : Except Failure call.Reply)
    (n : Network) : Prop :=
  observed contains pid call x reply n ∧ settles ⟨n.canonical, x.store.db⟩ (x.past pid) call

/-- Every row names a block that held the transfer. -/
def Rooted (s : Store) : Prop :=
  ∀ key row, s.deposits.lookup key = some row → ∃ hash, row.blockHash = some hash ∧ contains hash key

/-- A block of the chain holds the transfer. -/
def OnChain (canonical : Chain → ℤ → String) (key : DepositKey) : Prop :=
  ∃ n, contains (canonical key.chain n) key

/-- Rows are rooted; what a step credits is on the chain; and once the reorg
handling has compared a block, the deposits pending there are in that block. -/
structure ReorgSafe (x x' : History) : Prop where
  rooted : Rooted contains x'.store.db
  credited : ∀ key, hasCredit x'.store.db key → hasCredit x.store.db key ∨
    OnChain contains x'.store.canonical key
  orphaned : ∀ pid chain n hash count,
    x'.history = (pid, ⟨.orphanReorgedDeposits chain n hash, .ok count⟩) :: x.history →
      ∀ key row, x'.store.db.deposits.lookup key = some row → key.chain = chain →
        row.blockNumber = some n → row.status.isPending → contains hash key

/-- What the nodes have reported was so. -/
structure Reporting (x : History) : Prop where
  rooted : Rooted contains x.store.db
  reported : ∀ pid chain t, Reported chain t (x.past pid) → contains t.blockHash (transferKey chain t)

variable {contains} {config : Config} {requests : ℕ → Request} {x : History} {pid : ℕ}
  {call : ScannerCall} {reply : Except Failure call.Reply} {n : Network} {s : Store} {key : DepositKey}
  {row : CryptoDeposit} {data : DetectedDeposit} {past : Past}

/-! ## One call -/

/-- The tables do what they do without a chain. -/
theorem makes_db (makes : Database.Makes perform pid call x.store reply n) :
    Makes pid call x.store.db reply n.db := by
  rcases makes with ⟨world, ran⟩ | ⟨failed, rfl⟩
  · refine .inl ⟨world.1, ?_⟩
    cases ran
    rfl
  · exact .inr ⟨failed, rfl⟩

theorem reported_of_matches (isMatch : matchesReport past data) :
    ∃ chain t, Reported chain t past ∧ transferKey chain t = data.key ∧ t.blockHash = data.blockHash := by
  obtain ⟨made, member, isReport⟩ := List.any_eq_true.mp isMatch
  split at isReport
  · rename_i chain contract fromBlock toBlock transfers
    obtain ⟨t, isTransfer, same⟩ := List.any_eq_true.mp isReport
    simp only [Bool.and_eq_true, decide_eq_true_eq] at same
    exact ⟨chain, t, ⟨contract, fromBlock, toBlock, transfers, member, isTransfer⟩, same⟩
  · cases isReport

/-- The block to be stored with a deposit held its transfer. -/
theorem Reporting.holds (inv : Reporting contains x) (isMatch : matchesReport (x.past pid) data) :
    contains data.blockHash data.key := by
  obtain ⟨chain, t, reported, isKey, isHash⟩ := reported_of_matches isMatch
  rw [← isKey, ← isHash]
  exact inv.reported pid chain t reported

private theorem rooted_step (inv : Reporting contains x) (made : settled contains pid call x reply n) :
    Rooted contains n.db := by
  obtain ⟨⟨makes, -⟩, settles⟩ := made
  intro key row found
  rcases (makes_db makes).effect.origin found with before | ⟨data, stored, -, isStored, rfl, rfl, same⟩ |
    ⟨change, before, isBefore, rfl, writes⟩
  · exact inv.rooted key row before
  · cases same
    have same := storeDetected_same isStored
    refine ⟨stored.blockHash, rfl, ?_⟩
    rw [same.blockHash, same.key]
    exact inv.holds settles
  · cases writes with
    | @refresh data stored reappears isStored isKey =>
      have same := storeDetected_same isStored
      refine ⟨stored.blockHash, rfl, ?_⟩
      rw [same.blockHash, ← isKey, same.key]
      exact inv.holds settles
    | _ => exact inv.rooted key before isBefore

theorem reporting_step (inv : Reporting contains x) (made : settled contains pid call x reply n) :
    Reporting contains ⟨n, (pid, ⟨call, reply⟩) :: x.history⟩ where
  rooted := rooted_step inv made
  reported other chain t reported := by
    obtain ⟨contract, fromBlock, toBlock, transfers, member, isTransfer⟩ := reported
    rcases Logged.mem_past_cons.mp member with ⟨same, -⟩ | before
    · cases same
      have each := List.all_eq_true.mp made.1.2 t isTransfer
      exact (Bool.and_eq_true_iff.mp each).2
    · exact inv.reported other chain t ⟨contract, fromBlock, toBlock, transfers, before, isTransfer⟩

theorem reporting_initial {n : Network} (rooted : Rooted contains n.db) : Reporting contains ⟨n, []⟩ where
  rooted := rooted
  reported pid chain t reported := by
    obtain ⟨contract, fromBlock, toBlock, transfers, member, -⟩ := reported
    cases member

/-- A credit is of a deposit whose row names a block of the chain. -/
private theorem credited_step (inv : Reporting contains x) (made : settled contains pid call x reply n)
    (isCredited : hasCredit n.db key) : hasCredit x.store.db key ∨ OnChain contains n.canonical key := by
  obtain ⟨⟨makes, -⟩, settles⟩ := made
  rcases ((makes_db makes).effect.hasCredit_iff key).mp isCredited with
    before | ⟨input, txn, same, -, isTarget⟩
  · exact .inl before
  cases same
  have names : namesCanonical ⟨n.canonical, x.store.db⟩ key := by
    obtain ⟨target, isTarget', names⟩ := (Option.any_eq_true _ _).mp settles
    cases isTarget.symm.trans isTarget'
    exact names
  obtain ⟨row, found, named⟩ := (Option.any_eq_true _ _).mp names
  obtain ⟨number, -, isHash⟩ := (Option.any_eq_true _ _).mp named
  obtain ⟨hash, isHash', holds⟩ := inv.rooted key row found
  cases (of_decide_eq_true isHash).symm.trans isHash'
  exact .inr ⟨number, holds⟩

/-- What is still pending at a block that was compared names that block. -/
private theorem orphaned_names {chain : Chain} {number : ℤ} {hash named : String}
    (found : (orphanReorgedDeposits chain number hash s).deposits.lookup key = some row)
    (isChain : key.chain = chain) (isNumber : row.blockNumber = some number)
    (pending : row.status.isPending) (isHash : row.blockHash = some named) : named = hash := by
  rw [orphanReorgedDeposits, Table.lookup_mapRows] at found
  cases before : s.deposits.lookup key with
  | none =>
    rw [before] at found
    cases found
  | some old =>
    rw [before] at found
    have after := Option.some.inj found
    dsimp only at after
    split at after
    · subst after
      cases pending
    · rename_i kept
      subst after
      by_contra different
      exact kept (by simp [isReorged, isChain, isNumber, pending, isHash, different])

private theorem orphaned_step (rooted : Rooted contains n.db)
    {chain : Chain} {number : ℤ} {hash : String} {count : ℕ}
    (makes : Makes pid (.orphanReorgedDeposits chain number hash) x.store.db (.ok count) n.db)
    (found : n.db.deposits.lookup key = some row) (isChain : key.chain = chain)
    (isNumber : row.blockNumber = some number) (pending : row.status.isPending) : contains hash key := by
  obtain ⟨named, isHash, holds⟩ := rooted key row found
  generalize n.db = after at found makes
  have effect := makes.effect
  cases effect with
  | orphaned =>
    obtain rfl := orphaned_names found isChain isNumber pending isHash
    exact holds
  | neutral neutral => cases neutral

/-! ## Runs -/

/-- In every run in which the hash stored with a deposit is the one its transfer
was reported with, and a deposit is credited only while its block is on the
chain, the deposits are safe from reorganisations. -/
theorem reorg_safe {pool pool' : NetworkPool}
    (run : Logged.Run (settled contains) (IsRequest config requests)
      (fun n => Rooted contains n.db) pool)
    (step : Pool.Step (Logged.protocol (settled contains)) (IsRequest config requests) pool pool') :
    ReorgSafe contains pool.store pool'.store := by
  have obeys : ∀ pid program, IsRequest config requests pid program →
      program.Obeys (may config) ends [] := fun _ _ isRequest => isRequest_obeys isRequest
  have inv : Reporting contains pool.store :=
    run.inv obeys (fun _ rooted => reporting_initial rooted)
      fun _ _ _ _ _ inv _ made => reporting_step inv made
  rcases (Logged.Run.orderly obeys run).made step with same | ⟨pid, call, reply, n, -, made, grown⟩
  · rw [same]
    refine ⟨inv.rooted, fun key isCredited => .inl isCredited, fun pid chain n hash count grown => ?_⟩
    have length := congrArg List.length grown
    simp at length
  · rw [grown]
    have rooted := (reporting_step inv made).rooted
    refine ⟨rooted, fun key isCredited => credited_step inv made isCredited, ?_⟩
    intro other chain number hash count same key row found isChain isNumber pending
    obtain ⟨same, -⟩ := List.cons.inj same
    cases same
    exact orphaned_step rooted (makes_db made.1.1) found isChain isNumber pending

/-! ## One cycle -/

private def transferBlock (hash : String) (key : DepositKey) : Bool :=
  hash = "canonical" && key = ⟨.tron, "tx1", 0⟩

/-- The head is block 3. The transfer is in block 1 when it is asked for, and
later the blocks have another hash. -/
private def nodeAt (later : String) (call : ScannerCall) : World × (Chain → ℤ → String) :=
  let hash := match call with
    | .getTokenTransfers _ _ _ _ => "canonical"
    | _ => later
  (⟨fun _ => .ok ⟨3, hash⟩, fun _ n => .ok (some ⟨n, hash⟩), fun _ _ _ _ => .ok [usdtTransfer]⟩,
    fun _ _ => hash)

private def cycle (_ : ℕ) : Request := .runChainScanCycle .tron

private def emptyNetwork : Network := ⟨fun _ _ => "canonical", emptyStore⟩

private theorem emptyNetwork_rooted : Rooted transferBlock emptyNetwork.db := by
  intro key row found
  cases (AList.lookup_empty key).symm.trans found

private def playCycle (later : String)
    (allows : ℕ → (call : ScannerCall) → History → Except Failure call.Reply → Bool) : Option NetworkPool :=
  Logged.schedule (fun pid call n => some (perform (nodeAt later call) pid call n)) allows
    (fun pid => (cycle pid).program smallConfig) [1] [(1, 30)] ⟨⟨emptyNetwork, []⟩, ∅⟩

/-- A cycle that was played is a run, which goes on with another request. -/
private theorem playCycle_run {later : String}
    {allows : ℕ → (call : ScannerCall) → History → Except Failure call.Reply → Bool}
    {step : ℕ → (call : ScannerCall) → History → Except Failure call.Reply → Network → Prop}
    {pool : NetworkPool}
    (sound : ∀ pid call (x : History) reply n, perform (nodeAt later call) pid call x.store = (reply, n) →
      allows pid call x reply → step pid call x reply n)
    (played : playCycle later allows = some pool) :
    Logged.Run step (IsRequest smallConfig cycle) (fun n => Rooted transferBlock n.db) pool := by
  refine (Pool.Run.start ⟨emptyNetwork_rooted, rfl⟩).steps
    (Logged.schedule_steps (fun pid call x reply n ran => ?_) (fun _ => rfl) played)
  exact sound pid call x reply n (Option.some.inj ran)

/-- The deposit is credited while block 1 is on the chain. -/
theorem reorg_safe_credited : ∃ x x' : History, hasCredit x'.store.db ⟨.tron, "tx1", 0⟩ ∧
    ReorgSafe transferBlock x x' := by
  have played : (playCycle "canonical" fun pid call x reply =>
      honest transferBlock (fun _ _ => "canonical") ⟨call, reply⟩ &&
        settles ⟨fun _ _ => "canonical", x.store.db⟩ (x.past pid) call).map (fun pool =>
          (hasCredit pool.store.store.db ⟨.tron, "tx1", 0⟩, (pool.programs.lookup 2).isNone)) =
      some (true, true) := by decide +kernel
  obtain ⟨pool, scheduled, facts⟩ := Option.map_eq_some_iff.mp played
  simp only [Prod.mk.injEq, Option.isNone_iff_eq_none] at facts
  obtain ⟨isCredited, fresh⟩ := facts
  have run : Logged.Run (settled transferBlock) (IsRequest smallConfig cycle)
      (fun n => Rooted transferBlock n.db) pool := by
    refine playCycle_run (fun pid call x reply n ran allowed => ?_) scheduled
    obtain ⟨isHonest, settles⟩ := Bool.and_eq_true_iff.mp allowed
    have same : (nodeAt "canonical" call).2 = n.canonical := congrArg (fun out => out.2.canonical) ran
    have constant : (nodeAt "canonical" call).2 = fun _ _ => "canonical" := by cases call <;> rfl
    exact ⟨⟨.inl ⟨_, ran⟩, by rwa [← same, constant]⟩, by rwa [← same, constant]⟩
  have safe := reorg_safe run (.arrive fresh rfl)
  exact ⟨pool.store, pool.store, isCredited, safe⟩

/-- Block 1 is replaced after its transfers were asked for; its new hash is
stored, and the deposit is credited. -/
theorem hash_of_other_block : ¬∀ pool pool' : NetworkPool,
    Logged.Run (observed transferBlock) (IsRequest smallConfig cycle)
      (fun n => Rooted transferBlock n.db) pool →
    Pool.Step (Logged.protocol (observed transferBlock)) (IsRequest smallConfig cycle) pool pool' →
      ReorgSafe transferBlock pool.store pool'.store := by
  intro safe
  have played : (playCycle "replaced" fun _ call _ reply =>
      honest transferBlock (nodeAt "replaced" call).2 ⟨call, reply⟩).map (fun pool =>
        (hasCredit pool.store.store.db ⟨.tron, "tx1", 0⟩,
          ((pool.store.store.db.deposits.lookup ⟨.tron, "tx1", 0⟩).map CryptoDeposit.blockHash),
          (pool.programs.lookup 2).isNone)) = some (true, some (some "replaced"), true) := by
    decide +kernel
  obtain ⟨pool, scheduled, facts⟩ := Option.map_eq_some_iff.mp played
  simp only [Prod.mk.injEq, Option.isNone_iff_eq_none, Option.map_eq_some_iff] at facts
  obtain ⟨-, ⟨row, found, isHash⟩, fresh⟩ := facts
  have run : Logged.Run (observed transferBlock) (IsRequest smallConfig cycle)
      (fun n => Rooted transferBlock n.db) pool := by
    refine playCycle_run (fun pid call x reply n ran isHonest => ⟨.inl ⟨_, ran⟩, ?_⟩) scheduled
    have same : (nodeAt "replaced" call).2 = n.canonical := congrArg (fun out => out.2.canonical) ran
    rwa [← same]
  obtain ⟨hash, isHash', holds⟩ := (safe pool _ run (.arrive fresh rfl)).rooted _ row found
  cases isHash.symm.trans isHash'
  cases holds

end Exchange.Scanner.Reorgs
