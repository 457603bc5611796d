import Exchange.LedgerPostings
import Exchange.MasterDepositRules

/-! What the calls of a master-wallet deposit do to the tables: a row is created
for a transaction that has none, and changes from then on keep whose it is. -/
namespace Exchange.MasterDeposits
open Ledger Service

variable {pid id : DepositId} {s s' : Store} {row stored : MasterWalletDeposit} {call : DepositCall}
  {reply : Except Failure call.Reply} {made : Answered DepositCall DepositCall.Reply Failure}
  {change : Change}

theorem Store.save_lookup (s : Store) (id : DepositId) (row : MasterWalletDeposit) :
    (s.save id row).deposits.lookup id = some row :=
  AList.lookup_insert _

theorem Store.save_lookup_ne (s : Store) (row : MasterWalletDeposit) {other : DepositId} (ne : other ≠ id) :
    (s.save id row).deposits.lookup other = s.deposits.lookup other :=
  AList.lookup_insert_ne ne

/-! ## Rows -/

/-- The columns that say whose deposit a row is, and of what. -/
structure SameDeposit (row row' : MasterWalletDeposit) : Prop where
  id : row'.id = row.id
  userId : row'.userId = row.userId
  tx : row'.tx = row.tx

theorem Change.set_same (change : Change) (row : MasterWalletDeposit) : SameDeposit row (change.set row) := by
  cases change <;> exact ⟨rfl, rfl, rfl⟩

/-- A row is CONFIRMED by a credit. -/
theorem Change.set_confirmed (change : Change) (row : MasterWalletDeposit) :
    (change.set row).status = .confirmed ↔ change.isOutcome = false := by
  cases change <;> simp [Change.set, Change.isOutcome]

theorem storeChange_isOutcome {stored : Change} (isStored : storeChange change = .ok stored) :
    stored.isOutcome = change.isOutcome := by
  cases change with
  | failed reason =>
    cases isStored
    rfl
  | rejected reason =>
    cases isStored
    rfl
  | pending transfer =>
    cases stores : storeTransfer transfer with
    | error failure => simp [storeChange, stores, Except.map] at isStored
    | ok transfer =>
      simp only [storeChange, stores, Except.map, Except.ok.injEq] at isStored
      rw [← isStored]
      rfl
  | credited ledgerTxnId transfer =>
    cases stores : storeTransfer transfer with
    | error failure => simp [storeChange, stores, Except.map] at isStored
    | ok transfer =>
      simp only [storeChange, stores, Except.map, Except.ok.injEq] at isStored
      rw [← isStored]
      rfl

theorem findByChainTx_some {tx : ChainTx} (found : findByChainTx s tx = some row) :
    (∃ id, s.deposits.lookup id = some row) ∧ row.tx = tx := by
  have isTx : row.tx = tx := by simpa using List.find?_some found
  obtain ⟨⟨id, other⟩, member, rfl⟩ := List.mem_map.mp (List.mem_of_find?_eq_some found)
  exact ⟨⟨id, Table.mem_rows.mp member⟩, isTx⟩

theorem findByChainTx_none {tx : ChainTx} (missing : findByChainTx s tx = none)
    (found : s.deposits.lookup id = some row) : row.tx ≠ tx := by
  have member : row ∈ s.deposits.rows.map Prod.snd := List.mem_map.mpr ⟨(id, row), Table.mem_rows.mpr found, rfl⟩
  simpa using List.find?_eq_none.mp missing row member

/-! ## One call -/

/-- What a call did, by its answer. -/
inductive Effect (pid : DepositId) (s : Store) :
    Answered DepositCall DepositCall.Reply Failure → Store → Prop
  | created {data : NewDeposit} (fresh : s.deposits.lookup pid = none)
      (first : findByChainTx s data.tx = none) :
      Effect pid s ⟨.create data, .ok (newRow pid data)⟩ (s.save pid (newRow pid data))
  | updated {id : DepositId} {change stored : Change} {row : MasterWalletDeposit}
      (isStored : storeChange change = .ok stored) (found : s.deposits.lookup id = some row) :
      Effect pid s ⟨.update id change, .ok (stored.set row)⟩ (s.save id (stored.set row))
  | credited {id : DepositId} {ledgerTxnId : ℕ} {transfer : Transfer} {stored : Change}
      {row : MasterWalletDeposit} (isStored : storeChange (.credited ledgerTxnId transfer) = .ok stored)
      (found : s.deposits.lookup id = some row) (isOpen : row.status ≠ .confirmed) :
      Effect pid s ⟨.markCredited id ledgerTxnId transfer, .ok 1⟩ (s.save id (stored.set row))
  | missed {id : DepositId} {ledgerTxnId : ℕ} {transfer : Transfer}
      (misses : ∀ row, s.deposits.lookup id = some row → row.status = .confirmed) :
      Effect pid s ⟨.markCredited id ledgerTxnId transfer, .ok 0⟩ s
  | posted {input : LedgerPostingInput DepositId} {reply : Except Failure (LedgerTransaction DepositId)}
      {ledger : Ledger.Store DepositId} (ran : Ledger.post input s.ledger = (reply, ledger)) :
      Effect pid s ⟨.post input, reply⟩ { s with ledger }
  | neutral {call : DepositCall} {reply : Except Failure call.Reply} (neutral : call.isNeutral) :
      Effect pid s ⟨call, reply⟩ s
  | failed {call : DepositCall} {failure : Failure} : Effect pid s ⟨call, .error failure⟩ s

private theorem create_ok {data : NewDeposit} (ok : create pid data s = .ok (row, s')) :
    s.deposits.lookup pid = none ∧ findByChainTx s data.tx = none ∧ row = newRow pid data ∧
      s' = s.save pid row := by
  unfold create at ok
  split at ok
  · cases ok
  · rename_i untaken
    obtain ⟨fresh, first⟩ := not_or.mp untaken
    cases ok
    exact ⟨by simpa using fresh, by simpa using first, rfl, rfl⟩

private theorem update_ok (ok : update id change s = .ok (row, s')) : ∃ stored before,
    storeChange change = .ok stored ∧ s.deposits.lookup id = some before ∧ row = stored.set before ∧
      s' = s.save id row := by
  unfold update at ok
  split at ok
  · cases ok
  rename_i before found
  cases isStored : storeChange change with
  | error failure => simp [isStored, Except.map] at ok
  | ok stored =>
    simp only [isStored, Except.map, Except.ok.injEq, Prod.mk.injEq] at ok
    obtain ⟨rfl, rfl⟩ := ok
    exact ⟨stored, before, rfl, found, rfl, rfl⟩

private theorem updateOpen_ok {count : ℕ} (ok : updateOpen id change s = .ok (count, s')) :
    (count = 0 ∧ s' = s ∧ ∀ row, s.deposits.lookup id = some row → row.status = .confirmed) ∨
      ∃ stored before, count = 1 ∧ storeChange change = .ok stored ∧ s.deposits.lookup id = some before ∧
        before.status ≠ .confirmed ∧ s' = s.save id (stored.set before) := by
  unfold updateOpen at ok
  split at ok
  · rename_i none
    cases ok
    refine .inl ⟨rfl, rfl, fun row found => ?_⟩
    simpa [found] using none
  rename_i before found
  obtain ⟨found, isOpen⟩ := Option.filter_eq_some_iff.mp found
  cases isStored : storeChange change with
  | error failure => simp [isStored, Except.map] at ok
  | ok stored =>
    simp only [isStored, Except.map, Except.ok.injEq, Prod.mk.injEq] at ok
    obtain ⟨rfl, rfl⟩ := ok
    exact .inr ⟨stored, before, rfl, rfl, found, by simpa using isOpen, rfl⟩

/-- Every call has one of these effects. -/
theorem Makes.effect (makes : Makes pid call s reply s') : Effect pid s ⟨call, reply⟩ s' := by
  rcases makes with ⟨world, ran⟩ | ⟨⟨failure, -, rfl⟩, rfl⟩
  · cases call with
    | create data =>
      rcases Database.written_cases ran with ⟨row, rfl, wrote⟩ | ⟨⟨failure, rfl, -⟩, rfl⟩
      · obtain ⟨fresh, first, rfl, rfl⟩ := create_ok wrote
        exact .created fresh first
      · exact .failed
    | update id change =>
      rcases Database.written_cases ran with ⟨row, rfl, wrote⟩ | ⟨⟨failure, rfl, -⟩, rfl⟩
      · obtain ⟨stored, before, isStored, found, rfl, rfl⟩ := update_ok wrote
        exact .updated isStored found
      · exact .failed
    | markCredited id ledgerTxnId transfer =>
      rcases Database.written_cases ran with ⟨count, rfl, wrote⟩ | ⟨⟨failure, rfl, -⟩, rfl⟩
      · rcases updateOpen_ok wrote with ⟨rfl, rfl, misses⟩ | ⟨stored, before, rfl, isStored, found, isOpen, rfl⟩
        · exact .missed misses
        · exact .credited isStored found isOpen
      · exact .failed
    | post input =>
      cases posted : Ledger.post input s.ledger with
      | mk outcome ledger =>
        simp only [perform, posted] at ran
        cases ran
        exact .posted posted
    | _ =>
      cases ran
      exact .neutral rfl
  · exact .failed

/-- The row a reading call answers with is in the table. -/
theorem Makes.found {row : MasterWalletDeposit} (makes : Makes pid call s reply s')
    (seen : Seen row [⟨call, reply⟩]) : ∃ id, s'.deposits.lookup id = some row := by
  have effect := makes.effect
  rcases makes with ⟨world, ran⟩ | ⟨⟨failure, -, rfl⟩, rfl⟩
  · cases seen with
    | byTx member =>
      cases List.mem_singleton.mp member
      obtain ⟨isRow, rfl⟩ := Prod.mk.inj ran
      exact (findByChainTx_some (Except.ok.inj isRow)).1
    | byId member =>
      cases List.mem_singleton.mp member
      obtain ⟨isRow, rfl⟩ := Prod.mk.inj ran
      exact ⟨_, Except.ok.inj isRow⟩
    | created member =>
      cases List.mem_singleton.mp member
      cases effect with
      | created => exact ⟨pid, Store.save_lookup ..⟩
      | neutral neutral => cases neutral
  · cases seen with
    | byTx member => cases List.mem_singleton.mp member
    | byId member => cases List.mem_singleton.mp member
    | created member => cases List.mem_singleton.mp member

/-! ## One row -/

/-- A call wrote a change into a row. -/
inductive Writes (id : DepositId) (row : MasterWalletDeposit) (stored : Change) :
    Answered DepositCall DepositCall.Reply Failure → Prop
  | updated {change : Change} (isStored : storeChange change = .ok stored) :
      Writes id row stored ⟨.update id change, .ok (stored.set row)⟩
  | credited {ledgerTxnId : ℕ} {transfer : Transfer}
      (isStored : storeChange (.credited ledgerTxnId transfer) = .ok stored) (isOpen : row.status ≠ .confirmed) :
      Writes id row stored ⟨.markCredited id ledgerTxnId transfer, .ok 1⟩

/-- What a call made of one place of the table. -/
inductive RowEffect (pid : DepositId) (s : Store) (id : DepositId)
    (made : Answered DepositCall DepositCall.Reply Failure) (s' : Store) : Prop
  | same (same : s'.deposits.lookup id = s.deposits.lookup id)
  | created {data : NewDeposit} (isNew : id = pid) (fresh : s.deposits.lookup id = none)
      (first : findByChainTx s data.tx = none) (row : s'.deposits.lookup id = some (newRow id data))
  | changed {row : MasterWalletDeposit} {stored : Change} (before : s.deposits.lookup id = some row)
      (after : s'.deposits.lookup id = some (stored.set row)) (writes : Writes id row stored made)

theorem Effect.at_row (effect : Effect pid s made s') (id : DepositId) : RowEffect pid s id made s' := by
  cases effect with
  | created fresh first =>
    by_cases own : id = pid
    · subst own
      exact .created rfl fresh first (Store.save_lookup ..)
    · exact .same (Store.save_lookup_ne _ _ own)
  | @updated target change stored row isStored found =>
    by_cases own : id = target
    · subst own
      exact .changed found (Store.save_lookup ..) (.updated isStored)
    · exact .same (Store.save_lookup_ne _ _ own)
  | @credited target ledgerTxnId transfer stored row isStored found isOpen =>
    by_cases own : id = target
    · subst own
      exact .changed found (Store.save_lookup ..) (.credited isStored isOpen)
    · exact .same (Store.save_lookup_ne _ _ own)
  | missed => exact .same rfl
  | posted => exact .same rfl
  | neutral => exact .same rfl
  | failed => exact .same rfl

/-- Rows are not removed, and stay the deposits they are. -/
theorem Effect.stays (effect : Effect pid s made s') (found : s.deposits.lookup id = some row) :
    ∃ after, s'.deposits.lookup id = some after ∧ SameDeposit row after := by
  cases effect.at_row id with
  | same same => exact ⟨row, same.trans found, ⟨rfl, rfl, rfl⟩⟩
  | created _ fresh => cases fresh.symm.trans found
  | @changed before stored isBefore after =>
    cases isBefore.symm.trans found
    exact ⟨_, after, stored.set_same _⟩

/-- A transaction has one row, and a row the id it is found by. -/
structure Indexed (s : Store) : Prop where
  keyed : ∀ id row, s.deposits.lookup id = some row → row.id = id
  unique : ∀ id other row row', s.deposits.lookup id = some row → s.deposits.lookup other = some row' →
    row.tx = row'.tx → id = other

/-- A row of the table was there before as the same deposit, or is new. -/
private theorem Effect.origin (effect : Effect pid s made s') (found : s'.deposits.lookup id = some row) :
    (∃ before, s.deposits.lookup id = some before ∧ SameDeposit before row) ∨
      id = pid ∧ row.id = id ∧ s.deposits.lookup id = none ∧ findByChainTx s row.tx = none := by
  cases effect.at_row id with
  | same same => exact .inl ⟨row, same.symm.trans found, ⟨rfl, rfl, rfl⟩⟩
  | created isNew fresh first isRow =>
    cases isRow.symm.trans found
    exact .inr ⟨isNew, rfl, fresh, first⟩
  | @changed before stored isBefore after =>
    cases after.symm.trans found
    exact .inl ⟨before, isBefore, stored.set_same before⟩

theorem Effect.indexed (effect : Effect pid s made s') (indexed : Indexed s) : Indexed s' := by
  refine ⟨fun id row found => ?_, fun id other row row' found found' same => ?_⟩
  · rcases effect.origin found with ⟨before, isBefore, kept⟩ | ⟨-, isId, -⟩
    · rw [kept.id]
      exact indexed.keyed id before isBefore
    · exact isId
  · rcases effect.origin found with ⟨before, isBefore, kept⟩ | ⟨isNew, -, fresh, first⟩
    · rcases effect.origin found' with ⟨before', isBefore', kept'⟩ | ⟨isNew', -, fresh', first'⟩
      · exact indexed.unique id other before before' isBefore isBefore' (by rw [← kept.tx, ← kept'.tx, same])
      · exact (findByChainTx_none first' isBefore (by rw [← kept.tx, same])).elim
    · rcases effect.origin found' with ⟨before', isBefore', kept'⟩ | ⟨isNew', -⟩
      · exact (findByChainTx_none first isBefore' (by rw [← kept'.tx, same])).elim
      · rw [isNew, isNew']

/-! ## Credits -/

/-- The ledger has credited the deposit. -/
def hasCredit (s : Store) (id : DepositId) : Bool := s.ledger.isPosted REFERENCE_TYPE id

/-- Only a posting changes the ledger. -/
theorem Effect.ledger (effect : Effect pid s made s') :
    (∃ input reply, made = ⟨.post input, reply⟩ ∧ Ledger.post input s.ledger = (reply, s'.ledger)) ∨
      s'.ledger = s.ledger ∧ ∀ input txn, made ≠ ⟨.post input, .ok txn⟩ := by
  cases effect with
  | posted ran => exact .inl ⟨_, _, rfl, ran⟩
  | neutral neutral =>
    refine .inr ⟨rfl, fun input txn same => ?_⟩
    cases same
    cases neutral
  | _ => exact .inr ⟨rfl, fun input txn same => by cases same⟩

/-- A credit is there once it was posted, and no other is added. -/
theorem Effect.hasCredit_iff (effect : Effect pid s made s') (id : DepositId) :
    hasCredit s' id ↔ hasCredit s id ∨ ∃ input txn, made = ⟨.post input, .ok txn⟩ ∧
      input.referenceType = some REFERENCE_TYPE ∧ input.referenceId = some id := by
  unfold hasCredit
  rcases effect.ledger with ⟨input, reply, rfl, ran⟩ | ⟨same, other⟩
  · rw [post_isPosted ran]
    refine or_congr_right ⟨?_, ?_⟩
    · rintro ⟨⟨txn, rfl⟩, isType, isTarget⟩
      exact ⟨input, txn, rfl, isType, isTarget⟩
    · rintro ⟨input', txn, same, isType, isTarget⟩
      cases same
      exact ⟨⟨txn, rfl⟩, isType, isTarget⟩
  · rw [same]
    refine ⟨.inl, fun now => now.elim (fun before => before) ?_⟩
    rintro ⟨input, txn, isPost, -, -⟩
    exact (other input txn isPost).elim

/-! ## Runs -/

abbrev History := Logged DepositId DepositCall DepositCall.Reply Failure Store

abbrev DepositPool := Pool DepositId DepositCall DepositCall.Reply Failure MasterDepositDto History

def interleaved (pid : DepositId) (call : DepositCall) (x : History) (reply : Except Failure call.Reply)
    (s' : Store) : Prop :=
  Makes pid call x.store reply s'

/-- A schedule in which every request has a node of its own. -/
def schedule (config : Config) (worlds : DepositId → World) (isLost : DepositId → DepositCall → Bool)
    (allows : DepositId → (call : DepositCall) → History → Except Failure call.Reply → Bool)
    (requests : DepositId → Request) (arrivals : List DepositId) (turns : List (DepositId × ℕ)) (s : Store) :
    Option DepositPool :=
  Database.schedule perform worlds isLost allows (fun pid => (requests pid).program config) arrivals turns s

theorem schedule_run {config : Config} {worlds : DepositId → World} {requests : DepositId → Request}
    {isLost : DepositId → DepositCall → Bool}
    {allows : DepositId → (call : DepositCall) → History → Except Failure call.Reply → Bool}
    {arrivals : List DepositId} {turns : List (DepositId × ℕ)} {pool : DepositPool} {Initial : Store → Prop}
    {initial : Store}
    {step : DepositId → (call : DepositCall) → History → Except Failure call.Reply → Store → Prop}
    (isInitial : Initial initial)
    (sound : ∀ pid call x reply s', allows pid call x reply → Makes pid call x.store reply s' →
      step pid call x reply s')
    (played : schedule config worlds isLost allows requests arrivals turns initial = some pool) :
    Logged.Run step (IsRequest config requests) Initial pool :=
  Database.schedule_run isInitial (fun _ => rfl) sound played

end Exchange.MasterDeposits
