import Exchange.AsyncBooking
import Exchange.MasterDepositEffects

/-! A master-wallet deposit is credited once and for good. Every verdict is
written after the node has answered, whatever has become of the row meanwhile,
and a credit is posted before the row is flipped. -/
namespace Exchange.MasterDeposits.Crediting
open Ledger Service

def isConfirmed (s : Store) (id : DepositId) : Bool :=
  (s.deposits.lookup id).any fun row => row.status = .confirmed

/-- The credits of an on-chain transaction, over all rows and users. -/
def credits (s : Store) (tx : ChainTx) : List (LedgerTransaction DepositId) :=
  s.ledger.transactions.filter fun txn => txn.referenceType = some REFERENCE_TYPE &&
    txn.referenceId.any fun id => (s.deposits.lookup id).any fun row => row.tx = tx

/-- No other verdict is written over a CONFIRMED row, and after a posting the
flip of the row goes through, if it has anything to change. -/
def keeps (s : Store) : Answered DepositCall DepositCall.Reply Failure → Bool
  | ⟨.update id _, reply⟩ => !reply.isOk || !isConfirmed s id
  | ⟨.markCredited id _ _, reply⟩ => reply.isOk || isConfirmed s id
  | _ => true

def followed (pid : DepositId) (call : DepositCall) (x : History) (reply : Except Failure call.Reply)
    (s' : Store) : Prop :=
  Makes pid call x.store reply s' ∧ keeps x.store ⟨call, reply⟩

/-- The tables before the first request. -/
structure Agreed (s : Store) : Prop where
  credited : ∀ id, hasCredit s id ↔ isConfirmed s id
  indexed : Indexed s
  once : ∀ id, (s.ledger.postings REFERENCE_TYPE id).length ≤ 1

/-- What requests have seen or posted has a row. -/
structure Known (x : History) : Prop where
  indexed : Indexed x.store
  once : ∀ id, (x.store.ledger.postings REFERENCE_TYPE id).length ≤ 1
  seen : ∀ pid deposit, Seen deposit (x.past pid) → ∃ row, x.store.deposits.lookup deposit.id = some row
  owed : ∀ pid id, Owes id (x.past pid) → ∃ row, x.store.deposits.lookup id = some row

variable {config : Config} {requests : DepositId → Request} {x : History} {pid id : DepositId}
  {call : DepositCall} {reply : Except Failure call.Reply} {s s' : Store} {row : MasterWalletDeposit}
  {past : Past} {made : Answered DepositCall DepositCall.Reply Failure}

theorem isConfirmed_iff : isConfirmed s id ↔
    ∃ row, s.deposits.lookup id = some row ∧ row.status = .confirmed := by
  simp [isConfirmed, Option.any_eq_true]

/-! ## Rules -/

theorem May.updates {change : Change} (call' : May config past (.update id change)) : change.isOutcome := by
  cases call' with
  | neutral neutral => cases neutral
  | update isOutcome => exact isOutcome

/-- A posting credits a deposit that was seen. -/
theorem May.posting {input : LedgerPostingInput DepositId} (call' : May config past (.post input)) :
    ∃ deposit, input.referenceId = some deposit.id ∧ Seen deposit past := by
  cases call' with
  | neutral neutral => cases neutral
  | post seen => exact ⟨_, rfl, seen⟩

/-- A flip follows the posting of the credit. -/
theorem May.flips {ledgerTxnId : ℕ} {transfer : Transfer}
    (call' : May config past (.markCredited id ledgerTxnId transfer)) : Owes id past := by
  cases call' with
  | neutral neutral => cases neutral
  | markCredited => exact .posted rfl rfl

theorem seen_cons (seen : Seen row (made :: past)) : Seen row [made] ∨ Seen row past := by
  cases seen with
  | byTx member =>
    rcases List.mem_cons.mp member with rfl | before
    · exact .inl (.byTx List.mem_cons_self)
    · exact .inr (.byTx before)
  | byId member =>
    rcases List.mem_cons.mp member with rfl | before
    · exact .inl (.byId List.mem_cons_self)
    · exact .inr (.byId before)
  | created member =>
    rcases List.mem_cons.mp member with rfl | before
    · exact .inl (.created List.mem_cons_self)
    · exact .inr (.created before)

/-! ## One call -/

private theorem once_step (effect : Effect pid s made s')
    (once : (s.ledger.postings REFERENCE_TYPE id).length ≤ 1) :
    (s'.ledger.postings REFERENCE_TYPE id).length ≤ 1 := by
  rcases effect.ledger with ⟨input, reply, -, ran⟩ | ⟨same, -⟩
  · exact postings_length_le ran (by decide) once
  · rwa [same]

theorem known_initial (agreed : Agreed s) : Known ⟨s, []⟩ where
  indexed := agreed.indexed
  once := agreed.once
  seen pid deposit seen := by
    cases seen with
    | byTx member => cases member
    | byId member => cases member
    | created member => cases member
  owed pid id owes := by cases owes

theorem known_step (known : Known x) (call' : May config (x.past pid) call)
    (makes : Makes pid call x.store reply s') : Known ⟨s', (pid, ⟨call, reply⟩) :: x.history⟩ := by
  have indexed := makes.effect.indexed known.indexed
  have stays {id : DepositId} (before : ∃ row, x.store.deposits.lookup id = some row) :
      ∃ row, s'.deposits.lookup id = some row := by
    obtain ⟨row, found⟩ := before
    obtain ⟨after, isAfter, -⟩ := makes.effect.stays found
    exact ⟨after, isAfter⟩
  refine ⟨indexed, fun id => once_step makes.effect (known.once id), fun other deposit seen => ?_,
    fun other id owes => ?_⟩
  · by_cases own : other = pid
    · subst own
      rw [Logged.past_self] at seen
      rcases seen_cons seen with now | before
      · obtain ⟨id, found⟩ := makes.found now
        rw [indexed.keyed id deposit found]
        exact ⟨deposit, found⟩
      · exact stays (known.seen other deposit before)
    · rw [Logged.past_ne _ own] at seen
      exact stays (known.seen other deposit seen)
  · by_cases own : other = pid
    · subst own
      rw [Logged.past_self] at owes
      cases owes with
      | posted isType isTarget =>
        obtain ⟨deposit, isTarget', seen⟩ := May.posting call'
        cases isTarget.symm.trans isTarget'
        exact stays (known.seen other deposit seen)
    · rw [Logged.past_ne _ own] at owes
      exact stays (known.owed other id owes)

/-- A call that keeps credits does not leave CONFIRMED. -/
theorem confirmed_stays (effect : Effect pid s made s') (kept : keeps s made) (confirmed : isConfirmed s id) :
    isConfirmed s' id := by
  obtain ⟨row, found, isRow⟩ := isConfirmed_iff.mp confirmed
  cases effect.at_row id with
  | same same => exact isConfirmed_iff.mpr ⟨row, same.trans found, isRow⟩
  | created _ fresh => cases fresh.symm.trans found
  | @changed before stored isBefore after writes =>
    cases isBefore.symm.trans found
    cases writes with
    | updated isStored => simp [keeps, confirmed, Except.isOk, Except.toBool] at kept
    | credited isStored isOpen => exact (isOpen isRow).elim

/-- A row becomes CONFIRMED by a flip. -/
theorem confirmed_by (call' : May config past call) (effect : Effect pid s ⟨call, reply⟩ s')
    (confirmed : isConfirmed s' id) :
    isConfirmed s id ∨ ∃ ledgerTxnId transfer, call = .markCredited id ledgerTxnId transfer := by
  obtain ⟨row, found, isRow⟩ := isConfirmed_iff.mp confirmed
  cases effect.at_row id with
  | same same => exact .inl (isConfirmed_iff.mpr ⟨row, same.symm.trans found, isRow⟩)
  | created isNew fresh first isCreated =>
    cases isCreated.symm.trans found
    cases isRow
  | @changed before stored isBefore after writes =>
    cases after.symm.trans found
    cases writes with
    | updated isStored =>
      have isCredit := (stored.set_confirmed before).mp isRow
      rw [storeChange_isOutcome isStored, May.updates call'] at isCredit
      cases isCredit
    | credited => exact .inr ⟨_, _, rfl⟩

/-- The flip that is owed makes the row CONFIRMED. -/
private theorem confirmed_owed (known : Known x) (call' : may config (x.past pid) call)
    (made : followed pid call x reply s') (owes : Owes id (x.past pid)) : isConfirmed s' id := by
  obtain ⟨makes, kept⟩ := made
  obtain ⟨ledgerTxnId, transfer, rfl⟩ := call'.2 id owes
  by_cases confirmed : isConfirmed x.store id
  · exact confirmed_stays makes.effect kept confirmed
  have effect := makes.effect
  cases effect with
  | @credited _ _ _ stored row isStored found isOpen =>
    refine isConfirmed_iff.mpr ⟨_, Store.save_lookup .., (stored.set_confirmed row).mpr ?_⟩
    rw [storeChange_isOutcome isStored]
    rfl
  | missed misses =>
    obtain ⟨row, found⟩ := known.owed pid id owes
    exact (confirmed (isConfirmed_iff.mpr ⟨row, found, misses row found⟩)).elim
  | neutral neutral => cases neutral
  | failed => simp [keeps, confirmed, Except.isOk, Except.toBool] at kept

/-! ## Runs -/

theorem credit_booking (config : Config) : Logged.Booking followed (fun _ => may config) Known
    (fun s id => hasCredit s id) (fun s id => isConfirmed s id) (fun past id => Owes id past) where
  idle id owes := by cases owes
  kept known call' made := known_step known call'.1 made.1
  books _ _ made id hasCredited := by
    rcases (made.1.effect.hasCredit_iff id).mp hasCredited with before | ⟨input, txn, same, isType, isTarget⟩
    · exact .inl before
    · cases same
      exact .inr (.posted isType isTarget)
  stays_booked _ _ made id := by
    rintro (before | owes)
    · exact (made.1.effect.hasCredit_iff id).mpr (.inl before)
    · cases owes with
      | @posted input txn _ isType isTarget =>
        exact (made.1.effect.hasCredit_iff id).mpr (.inr ⟨input, txn, rfl, isType, isTarget⟩)
  records _ call' made id confirmed := by
    rcases confirmed_by call'.1 made.1.effect confirmed with before | ⟨ledgerTxnId, transfer, rfl⟩
    · exact .inl before
    · exact .inr (May.flips call'.1)
  stays_recorded known call' made id := by
    rintro (before | owes)
    · exact confirmed_stays made.1.effect made.2 before
    · exact confirmed_owed known call' made owes

/-- The rows of a transaction are one, and its credits are those of that row. -/
theorem credits_length_le (indexed : Indexed s)
    (once : ∀ id, (s.ledger.postings REFERENCE_TYPE id).length ≤ 1) (tx : ChainTx) :
    (credits s tx).length ≤ 1 := by
  by_cases submitted : ∃ id row, s.deposits.lookup id = some row ∧ row.tx = tx
  · obtain ⟨id, row, found, isTx⟩ := submitted
    refine le_trans (List.Sublist.length_le (List.monotone_filter_right _ fun txn credit => ?_)) (once id)
    obtain ⟨isType, target, isTarget, targetRow, isRow, sameTx⟩ : txn.referenceType = some REFERENCE_TYPE ∧
        ∃ target, txn.referenceId = some target ∧ ∃ row, s.deposits.lookup target = some row ∧ row.tx = tx := by
      simpa [Option.any_eq_true] using credit
    have isId := indexed.unique target id targetRow row isRow found (sameTx.trans isTx.symm)
    simp [isType, isTarget, isId]
  · have none : credits s tx = [] := by
      refine List.filter_eq_nil_iff.mpr fun txn _ credit => submitted ?_
      obtain ⟨-, target, -, targetRow, isRow, sameTx⟩ : txn.referenceType = some REFERENCE_TYPE ∧
          ∃ target, txn.referenceId = some target ∧ ∃ row, s.deposits.lookup target = some row ∧ row.tx = tx := by
        simpa [Option.any_eq_true] using credit
      exact ⟨target, targetRow, isRow, sameTx⟩
    simp [none]

/-- In every run, a transaction is credited once at most. -/
theorem credited_once {pool : DepositPool}
    (run : Logged.Run interleaved (IsRequest config requests) Agreed pool) (tx : ChainTx) :
    (credits pool.store.store tx).length ≤ 1 := by
  have known : Known pool.store :=
    run.inv (fun _ _ => isRequest_obeys) (fun _ => known_initial)
      fun _ _ _ _ _ known call' makes => known_step known (And.left call') makes
  exact credits_length_le known.indexed known.once tx

/-- In every run that keeps credits, they agree with the rows, CONFIRMED is not
left, and a transaction is credited once at most. -/
theorem agreement {pool : DepositPool}
    (run : Logged.Run followed (IsRequest config requests) Agreed pool) :
    (pool.Quiet → ∀ id, hasCredit pool.store.store id ↔ isConfirmed pool.store.store id) ∧
      (∀ tx, (credits pool.store.store tx).length ≤ 1) ∧
      ∀ pool', Pool.Step (Logged.protocol followed) (IsRequest config requests) pool pool' →
        ∀ id, isConfirmed pool.store.store id → isConfirmed pool'.store.store id := by
  have obeys : ∀ pid program, IsRequest config requests pid program →
      program.Obeys (may config) ends [] := fun _ _ => isRequest_obeys
  have initial : ∀ s, Agreed s → Known ⟨s, []⟩ ∧ ∀ id, hasCredit s id ↔ isConfirmed s id :=
    fun s agreed => ⟨known_initial agreed, agreed.credited⟩
  refine ⟨fun quiet id => ?_, fun tx => ?_, fun pool' step id confirmed => ?_⟩
  · exact (credit_booking config).quiet obeys initial (fun pid past result id free => free id) run quiet id
  · have known := ((credit_booking config).run obeys initial run).known
    exact credits_length_le known.indexed known.once tx
  · exact (credit_booking config).recorded_step obeys initial run step confirmed

/-! ## One transaction -/

private def master : String := "0x00000000000000000000000000000000000000aa"

/-- USDT is verified on BSC, two blocks deep. -/
private def smallConfig : Config where
  enabled := true
  networks _ := ⟨.evm, 18, some master, some "0xusdt", 2, some "https://rpc", none⟩

private def emptyStore : Store := ⟨∅, ∅⟩

private theorem emptyStore_agreed : Agreed emptyStore where
  credited id := by
    have uncredited : hasCredit emptyStore id = false := rfl
    have missing : isConfirmed emptyStore id = false := rfl
    rw [uncredited, missing]
  indexed := ⟨fun id row found => (by cases found), fun id other row row' found => (by cases found)⟩
  once id := Nat.zero_le 1

/-- 1 USDT to the master wallet, in block 10. -/
private def transferReceipt : EvmReceipt where
  status := some "0x1"
  blockNumber := some 10
  logs := [⟨some "0xUSDT", [TRANSFER_TOPIC,
    "0x00000000000000000000000000000000000000000000000000000000000000bb",
    "0x00000000000000000000000000000000000000000000000000000000000000aa"], some (10 ^ 18), some 0⟩]

/-- The transfer, seen from a block of the chain. -/
private def nodeAt (latestBlock : ℕ) : World where
  getTransactionReceipt _ := .ok (some transferReceipt)
  getBlockNumber _ := .ok latestBlock

/-- Users 7 and 8 submit one transaction, and an admin has it verified again. -/
private def submissions : DepositId → Request
  | 1 => .submit 7 .bsc " 0xAB "
  | 2 => .adminRecheck 1
  | _ => .submit 8 .bsc "0xab"

/-- The recheck starts when the first verification is done. -/
theorem agreement_once : ∃ s : Store, isConfirmed s 1 ∧ hasCredit s 1 ∧
    (credits s ⟨.bsc, "0xab"⟩).length ≤ 1 := by
  have played : (schedule smallConfig (fun pid => nodeAt (10 + pid)) (fun _ _ => false)
      (fun _ call x reply => keeps x.store ⟨call, reply⟩) submissions [1, 2, 3] [(1, 5), (2, 7), (3, 1)]
      emptyStore).map (fun pool => (isConfirmed pool.store.store 1, pool.isQuiet)) = some (true, true) := by
    decide +kernel
  obtain ⟨pool, scheduled, facts⟩ := Option.map_eq_some_iff.mp played
  simp only [Prod.mk.injEq] at facts
  obtain ⟨confirmed, isQuiet⟩ := facts
  have run : Logged.Run followed (IsRequest smallConfig submissions) Agreed pool :=
    schedule_run emptyStore_agreed (fun _ _ _ _ _ kept makes => ⟨makes, kept⟩) scheduled
  obtain ⟨agree, once, -⟩ := agreement run
  exact ⟨pool.store.store, confirmed, (agree (Pool.quiet_of_isQuiet isQuiet) 1).mpr confirmed, once _⟩

/-- The first verification is answered before the transaction is deep enough and
written after the recheck has credited it. -/
theorem slow_verdict : ¬∀ pool : DepositPool,
    Logged.Run interleaved (IsRequest smallConfig submissions) Agreed pool →
      (pool.Quiet → ∀ id, hasCredit pool.store.store id ↔ isConfirmed pool.store.store id) ∧
        (∀ tx, (credits pool.store.store tx).length ≤ 1) ∧
        ∀ pool', Pool.Step (Logged.protocol interleaved) (IsRequest smallConfig submissions) pool pool' →
          ∀ id, isConfirmed pool.store.store id → isConfirmed pool'.store.store id := by
  intro agreed
  have played : (schedule smallConfig (fun pid => nodeAt (10 + pid)) (fun _ _ => false)
      (fun _ _ _ _ => true) submissions [1, 2] [(1, 4), (2, 7), (1, 1)] emptyStore).map
        (fun pool => (hasCredit pool.store.store 1, isConfirmed pool.store.store 1, pool.isQuiet)) =
      some (true, false, true) := by
    decide +kernel
  obtain ⟨pool, scheduled, facts⟩ := Option.map_eq_some_iff.mp played
  simp only [Prod.mk.injEq] at facts
  obtain ⟨credited, left, isQuiet⟩ := facts
  have run : Logged.Run interleaved (IsRequest smallConfig submissions) Agreed pool :=
    schedule_run emptyStore_agreed (fun _ _ _ _ _ _ makes => makes) scheduled
  have confirmed := ((agreed pool run).1 (Pool.quiet_of_isQuiet isQuiet) 1).mp credited
  rw [left] at confirmed
  cases confirmed

end Exchange.MasterDeposits.Crediting
