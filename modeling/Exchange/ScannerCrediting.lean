import Exchange.AsyncBooking
import Exchange.ScannerEffects

/-! A deposit is credited once and for good. The pass that credits posts first
and flips the row then; scanners and other passes write the row meanwhile, some
of them by what they have read before. -/
namespace Exchange.Scanner.Crediting
open Ledger Service

def hasStatus (status : DepositStatus) (s : Store) (key : DepositKey) : Bool :=
  (s.deposits.lookup key).any fun row => row.status = status

abbrev isCredited : Store → DepositKey → Bool := hasStatus .credited

abbrev isOrphaned : Store → DepositKey → Bool := hasStatus .orphaned

/-- The flip changed the row, and `creditDeposit` reports success. -/
def isSuccess (key : DepositKey) : ℕ × Answered ScannerCall ScannerCall.Reply Failure → Bool
  | (_, ⟨.markCredited other _, reply⟩) => other = key && reply.toOption = some 1
  | _ => false

def successes (x : History) (key : DepositKey) : ℕ := x.history.countP (isSuccess key)

/-- A write by an earlier reading does not undo a credit; no credit is posted or
recorded while the deposit is orphaned; and after a posting the flip of the row
goes through, if it has anything to change. -/
def keeps (s : Store) : Answered ScannerCall ScannerCall.Reply Failure → Bool
  | ⟨.updateConfirmations key _ _, reply⟩ => !reply.isOk || !isCredited s key
  | ⟨.refresh data reappears, reply⟩ => !reply.isOk || !reappears || !isCredited s data.key
  | ⟨.post input, reply⟩ => !reply.isOk || input.referenceId.all fun key =>
      hasCredit s key || !isOrphaned s key
  | ⟨.markCredited key _, reply⟩ => isCredited s key || reply.isOk && !isOrphaned s key
  | _ => true

def followed (pid : ℕ) (call : ScannerCall) (x : History) (reply : Except Failure call.Reply)
    (s' : Store) : Prop :=
  Makes pid call x.store reply s' ∧ keeps x.store ⟨call, reply⟩

/-- CREDITED is not left, and an orphaned deposit is not credited. -/
structure ForGood (s s' : Store) : Prop where
  stays : ∀ key, isCredited s key → isCredited s' key
  orphaned : ∀ key, isOrphaned s key → (hasCredit s' key → hasCredit s key) ∧ ¬isCredited s' key

/-- The ledger and the rows agree on what is credited. -/
def Agreed (s : Store) : Prop := ∀ key, hasCredit s key ↔ isCredited s key

/-- What passes have listed or posted has a row. -/
structure Known (x : History) : Prop where
  listed : ∀ pid key deposit, Listed key deposit (x.past pid) → ∃ row, x.store.deposits.lookup key = some row
  owed : ∀ pid key, Owes key (x.past pid) → ∃ row, x.store.deposits.lookup key = some row

variable {config : Config} {requests : ℕ → Request} {x : History} {pid : ℕ} {call : ScannerCall}
  {reply : Except Failure call.Reply} {s s' : Store} {key : DepositKey} {row : CryptoDeposit}
  {past : Past} {change : Change} {made : Answered ScannerCall ScannerCall.Reply Failure}

/-! ## Statuses -/

theorem hasStatus_iff {status : DepositStatus} : hasStatus status s key ↔
    ∃ row, s.deposits.lookup key = some row ∧ row.status = status := by
  simp [hasStatus, Option.any_eq_true]

theorem orphaned_uncredited (orphaned : isOrphaned s key) : ¬isCredited s key := by
  intro credited
  obtain ⟨row, found, isOrphaned⟩ := hasStatus_iff.mp orphaned
  obtain ⟨row', found', isCredited⟩ := hasStatus_iff.mp credited
  cases found.symm.trans found'
  cases isOrphaned.symm.trans isCredited

/-- The status a confirmation pass advances a row to is none of the last two. -/
theorem nextStatus_isPending (confirmations reqConfirmations : ℕ) :
    (nextStatus confirmations reqConfirmations).isPending := by
  unfold nextStatus
  split
  · rfl
  split
  · rfl
  · rfl

/-! ## Rules -/

theorem May.advances {confirmations : ℕ} {status : DepositStatus}
    (call' : May config past (.updateConfirmations key confirmations status)) : status.isPending := by
  cases call' with
  | neutral neutral => cases neutral
  | updateConfirmations => exact nextStatus_isPending ..

/-- A posting credits a deposit that was listed. -/
theorem May.posting {input : LedgerPostingInput DepositKey} (call' : May config past (.post input)) :
    ∃ target deposit, input.referenceId = some target ∧ Listed target deposit past := by
  cases call' with
  | neutral neutral => cases neutral
  | @post target deposit userId _ deep =>
    obtain ⟨chain, head, blockNumber, -, -, -, listed⟩ := deep
    exact ⟨target, deposit, rfl, listed⟩

/-- A flip follows the posting of the credit. -/
theorem May.flips {ledgerTxnId : ℕ} (call' : May config past (.markCredited key ledgerTxnId)) :
    Owes key past := by
  cases call' with
  | neutral neutral => cases neutral
  | markCredited => exact .posted rfl rfl

/-- `creditDeposit` reports success after a flip that changed the row. -/
theorem creditDeposit_reports {deposit : CryptoDeposit} :
    (creditDeposit key deposit).Obeys (fun _ _ => True) (fun later result => result = .ok true →
      ∃ ledgerTxnId posted, later = ⟨.markCredited key ledgerTxnId, .ok 1⟩ :: posted :: past) past := by
  unfold creditDeposit
  split
  · exact nofun
  split
  · exact nofun
  rw [Async.obeys_bind]
  refine Async.obeys_call.mpr ⟨trivial, ?_⟩
  rintro (failure | txn)
  · exact nofun
  dsimp only
  rw [Async.obeys_bind]
  refine Async.obeys_call.mpr ⟨trivial, ?_⟩
  rintro (failure | count)
  · exact nofun
  · intro success
    have isOne : count = 1 := by simpa using success
    exact ⟨txn.id, _, by rw [isOne]⟩

/-! ## One call -/

theorem known_initial (s : Store) : Known ⟨s, []⟩ where
  listed pid key deposit listed := by
    obtain ⟨chain, rows, member, -⟩ := listed
    cases member
  owed pid key owes := by cases owes

theorem known_step (known : Known x) (call' : May config (x.past pid) call)
    (makes : Makes pid call x.store reply s') : Known ⟨s', (pid, ⟨call, reply⟩) :: x.history⟩ := by
  have stays {key : DepositKey} (before : ∃ row, x.store.deposits.lookup key = some row) :
      ∃ row, s'.deposits.lookup key = some row := by
    obtain ⟨row, found⟩ := before
    obtain ⟨after, isAfter, -⟩ := makes.effect.stays found
    exact ⟨after, isAfter⟩
  refine ⟨fun other key deposit listed => ?_, fun other key owes => ?_⟩
  · obtain ⟨chain, rows, member, isRow⟩ := listed
    rcases Logged.mem_past_cons.mp member with ⟨same, -⟩ | before
    · cases same
      exact stays ⟨deposit, (makes.listed isRow).1⟩
    · exact stays (known.listed other key deposit ⟨chain, rows, before, isRow⟩)
  · by_cases own : other = pid
    · subst own
      rw [Logged.past_self] at owes
      cases owes with
      | posted isType isTarget =>
        obtain ⟨target, deposit, isTarget', listed⟩ := May.posting call'
        cases isTarget.symm.trans isTarget'
        exact stays (known.listed other key deposit listed)
    · rw [Logged.past_ne _ own] at owes
      exact stays (known.owed other key owes)

/-- A call that keeps credits does not undo one. -/
theorem credited_stays (effect : Effect s made s') (kept : keeps s made) (credited : isCredited s key) :
    isCredited s' key := by
  obtain ⟨row, found, isRow⟩ := hasStatus_iff.mp credited
  obtain ⟨after, isAfter, rfl | ⟨change, rfl, writes⟩⟩ := effect.stays found
  · exact hasStatus_iff.mpr ⟨after, isAfter, isRow⟩
  refine hasStatus_iff.mpr ⟨_, isAfter, ?_⟩
  cases writes with
  | @refresh data stored reappears isStored isKey =>
    have sameKey : data.key = key := (storeDetected_same isStored).key.symm.trans isKey
    have stays : reappears = false := by
      simpa [keeps, sameKey, credited, Except.isOk, Except.toBool] using kept
    simp [Change.set, stays, isRow]
  | orphan reorged =>
    simp [isReorged, isRow, DepositStatus.isPending] at reorged
  | confirmations => simp [keeps, credited, Except.isOk, Except.toBool] at kept
  | credited => rfl

/-- A row becomes CREDITED by a flip. -/
theorem credited_by (call' : May config past call) (effect : Effect s ⟨call, reply⟩ s')
    (credited : isCredited s' key) : isCredited s key ∨
      ∃ ledgerTxnId, call = .markCredited key ledgerTxnId ∧ ∃ row, s.deposits.lookup key = some row ∧
        row.status ≠ .credited := by
  obtain ⟨row, found, isRow⟩ := hasStatus_iff.mp credited
  rcases effect.origin found with before | ⟨data, stored, -, -, -, rfl, -⟩ |
    ⟨change, before, isBefore, rfl, writes⟩
  · exact .inl (hasStatus_iff.mpr ⟨row, before, isRow⟩)
  · cases isRow
  cases writes with
  | @refresh data stored reappears =>
    cases reappears with
    | true => cases isRow
    | false => exact .inl (hasStatus_iff.mpr ⟨before, isBefore, isRow⟩)
  | orphan => cases isRow
  | confirmations =>
    have pending := May.advances call'
    change _ = DepositStatus.credited at isRow
    simp only [Change.set] at isRow
    rw [isRow] at pending
    cases pending
  | credited uncredited => exact .inr ⟨_, rfl, before, isBefore, uncredited⟩

/-- The flip that is owed makes the row CREDITED. -/
private theorem credited_owed (known : Known x) (call' : may config (x.past pid) call)
    (made : followed pid call x reply s') (owes : Owes key (x.past pid)) : isCredited s' key := by
  obtain ⟨makes, kept⟩ := made
  obtain ⟨ledgerTxnId, rfl⟩ := call'.2 key owes
  by_cases credited : isCredited x.store key
  · exact credited_stays makes.effect kept credited
  have effect := makes.effect
  cases effect with
  | credited found uncredited => exact hasStatus_iff.mpr ⟨_, Store.save_lookup .., rfl⟩
  | missed misses =>
    obtain ⟨row, found⟩ := known.owed pid key owes
    exact (credited (hasStatus_iff.mpr ⟨row, found, misses row found⟩)).elim
  | neutral neutral => cases neutral
  | failed => simp [keeps, credited, Except.isOk, Except.toBool] at kept

/-- An orphaned deposit is not credited, neither in the ledger nor in its row. -/
private theorem orphaned_step (call' : May config (x.past pid) call) (made : followed pid call x reply s')
    (orphaned : isOrphaned x.store key) :
    (hasCredit s' key → hasCredit x.store key) ∧ ¬isCredited s' key := by
  obtain ⟨makes, kept⟩ := made
  refine ⟨fun hasCredited => ?_, fun credited => ?_⟩
  · rcases (makes.effect.hasCredit_iff key).mp hasCredited with before | ⟨input, txn, same, -, isTarget⟩
    · exact before
    · cases same
      simpa [keeps, isTarget, orphaned, Except.isOk, Except.toBool] using kept
  · rcases credited_by call' makes.effect credited with before | ⟨ledgerTxnId, rfl, -⟩
    · exact orphaned_uncredited orphaned before
    · simp [keeps, orphaned, orphaned_uncredited orphaned] at kept

/-! ## Runs -/

theorem credit_booking (config : Config) : Logged.Booking followed (fun _ => may config) Known
    (fun s key => hasCredit s key) (fun s key => isCredited s key) (fun past key => Owes key past) where
  idle key owes := by cases owes
  kept known call' made := known_step known call'.1 made.1
  books _ _ made key hasCredited := by
    rcases (made.1.effect.hasCredit_iff key).mp hasCredited with before | ⟨input, txn, same, isType, isTarget⟩
    · exact .inl before
    · cases same
      exact .inr (.posted isType isTarget)
  stays_booked _ _ made key := by
    rintro (before | owes)
    · exact (made.1.effect.hasCredit_iff key).mpr (.inl before)
    · cases owes with
      | @posted input txn _ isType isTarget =>
        exact (made.1.effect.hasCredit_iff key).mpr (.inr ⟨input, txn, rfl, isType, isTarget⟩)
  records _ call' made key credited := by
    rcases credited_by call'.1 made.1.effect credited with before | ⟨ledgerTxnId, rfl, -⟩
    · exact .inl before
    · exact .inr (May.flips call'.1)
  stays_recorded known call' made key := by
    rintro (before | owes)
    · exact credited_stays made.1.effect made.2 before
    · exact credited_owed known call' made owes

theorem isSuccess_made (success : isSuccess key (pid, made)) :
    ∃ ledgerTxnId, made = ⟨.markCredited key ledgerTxnId, .ok 1⟩ := by
  obtain ⟨call, reply⟩ := made
  cases call with
  | markCredited other ledgerTxnId =>
    obtain ⟨rfl, isOne⟩ : other = key ∧ reply.toOption = some 1 := by simpa [isSuccess] using success
    cases reply with
    | error failure => cases isOne
    | ok count =>
      cases isOne
      exact ⟨ledgerTxnId, rfl⟩
  | _ => cases success

/-- A flip has succeeded once at most, and not before the row is CREDITED. -/
private def Once (x : History) (key : DepositKey) : Prop :=
  successes x key = 0 ∨ successes x key = 1 ∧ isCredited x.store key

private theorem once_step (once : Once x key) (made : followed pid call x reply s') :
    Once ⟨s', (pid, ⟨call, reply⟩) :: x.history⟩ key := by
  obtain ⟨makes, kept⟩ := made
  have counted : successes ⟨s', (pid, ⟨call, reply⟩) :: x.history⟩ key =
      successes x key + if isSuccess key (pid, ⟨call, reply⟩) then 1 else 0 := List.countP_cons ..
  by_cases success : isSuccess key (pid, ⟨call, reply⟩)
  · rw [if_pos success] at counted
    obtain ⟨ledgerTxnId, same⟩ := isSuccess_made success
    have effect := makes.effect
    rw [same] at effect
    have flipped : ¬isCredited x.store key ∧ isCredited s' key := by
      cases effect with
      | credited found uncredited =>
        refine ⟨fun credited => ?_, hasStatus_iff.mpr ⟨_, Store.save_lookup .., rfl⟩⟩
        obtain ⟨row, found', isRow⟩ := hasStatus_iff.mp credited
        cases found.symm.trans found'
        exact uncredited isRow
      | neutral neutral => cases neutral
    rcases once with none | ⟨-, credited⟩
    · exact .inr ⟨by omega, flipped.2⟩
    · exact (flipped.1 credited).elim
  · rw [if_neg success] at counted
    rcases once with none | ⟨one, credited⟩
    · exact .inl (by omega)
    · exact .inr ⟨by omega, credited_stays makes.effect kept credited⟩

/-- In every run that keeps credits, a deposit is credited once and for good. -/
theorem credited_for_good {pool : ScannerPool}
    (run : Logged.Run followed (IsRequest config requests) Agreed pool) :
    (pool.Quiet → Agreed pool.store.store) ∧ (∀ key, successes pool.store key ≤ 1) ∧
      ∀ pool', Pool.Step (Logged.protocol followed) (IsRequest config requests) pool pool' →
        ForGood pool.store.store pool'.store.store := by
  have obeys : ∀ pid program, IsRequest config requests pid program →
      program.Obeys (may config) ends [] := fun _ _ isRequest => isRequest_obeys isRequest
  have initial : ∀ s, Agreed s → Known ⟨s, []⟩ ∧ ∀ key, hasCredit s key ↔ isCredited s key :=
    fun s agreed => ⟨known_initial s, agreed⟩
  refine ⟨fun quiet key => ?_, fun key => ?_, fun pool' step => ⟨fun key credited => ?_, fun key => ?_⟩⟩
  · refine (credit_booking config).quiet obeys initial (fun pid past result key ended => ?_) run quiet key
    cases result with
    | error failure => exact ended key
    | ok response => exact ended.1 key
  · have once : Once pool.store key :=
      run.inv obeys (fun _ _ => .inl rfl) fun _ _ _ _ _ once _ made => once_step once made
    rcases once with none | ⟨one, -⟩
    · omega
    · omega
  · exact (credit_booking config).recorded_step obeys initial run step credited
  · intro orphaned
    rcases (Logged.Run.orderly obeys run).made step with same | ⟨pid, call, reply, s', call', made, grown⟩
    · rw [same]
      exact ⟨fun before => before, orphaned_uncredited orphaned⟩
    · rw [grown]
      exact orphaned_step call'.1 made orphaned

/-! ## One deposit -/

private theorem emptyStore_agreed : Agreed emptyStore := by
  intro key
  have uncredited : hasCredit emptyStore key = false := rfl
  have missing : isCredited emptyStore key = false := rfl
  rw [uncredited, missing]

/-- The deposit is detected, and two workers confirm it. -/
private def workers : ℕ → Request
  | 1 => .scanOnce .tron
  | _ => .runConfirmations .tron

/-- The second worker starts when the first is done. -/
theorem credited_for_good_once : ∃ x : History, isCredited x.store ⟨.tron, "tx1", 0⟩ ∧
    Agreed x.store ∧ successes x ⟨.tron, "tx1", 0⟩ ≤ 1 := by
  have played : (schedule smallConfig (fun _ => nodeWith [usdtTransfer]) (fun _ _ => false)
      (fun _ call x reply => keeps x.store ⟨call, reply⟩) workers [1, 2, 3] [(1, 20), (2, 9), (3, 9)]
      emptyStore).map (fun pool =>
        (isCredited pool.store.store ⟨.tron, "tx1", 0⟩, pool.isQuiet)) = some (true, true) := by
    decide +kernel
  obtain ⟨pool, scheduled, facts⟩ := Option.map_eq_some_iff.mp played
  simp only [Prod.mk.injEq] at facts
  obtain ⟨credited, isQuiet⟩ := facts
  have run : Logged.Run followed (IsRequest smallConfig workers) Agreed pool :=
    schedule_run emptyStore_agreed (fun _ _ _ _ _ kept makes => ⟨makes, kept⟩) scheduled
  obtain ⟨agreed, once, -⟩ := credited_for_good run
  exact ⟨pool.store, credited, agreed (Pool.quiet_of_isQuiet isQuiet), once _⟩

/-- The second worker has listed the deposit before the first one credits it; it
writes CONFIRMED over CREDITED, and reports a credit as well. -/
theorem credited_twice : ¬∀ pool : ScannerPool,
    Logged.Run interleaved (IsRequest smallConfig workers) Agreed pool →
      (pool.Quiet → Agreed pool.store.store) ∧ (∀ key, successes pool.store key ≤ 1) ∧
        ∀ pool', Pool.Step (Logged.protocol interleaved) (IsRequest smallConfig workers) pool pool' →
          ForGood pool.store.store pool'.store.store := by
  intro forGood
  have played : (schedule smallConfig (fun _ => nodeWith [usdtTransfer]) (fun _ _ => false)
      (fun _ _ _ _ => true) workers [1, 2, 3] [(1, 20), (2, 2), (3, 2), (2, 9), (3, 9)] emptyStore).map
        (fun pool => successes pool.store ⟨.tron, "tx1", 0⟩) = some 2 := by
    decide +kernel
  obtain ⟨pool, scheduled, twice⟩ := Option.map_eq_some_iff.mp played
  have run : Logged.Run interleaved (IsRequest smallConfig workers) Agreed pool :=
    schedule_run emptyStore_agreed (fun _ _ _ _ _ _ makes => makes) scheduled
  obtain ⟨-, once, -⟩ := forGood pool run
  have atMost := once ⟨.tron, "tx1", 0⟩
  omega

end Exchange.Scanner.Crediting
