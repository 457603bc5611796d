import Exchange.InrWithdrawalEffects

/-! What the admins act on is backed by a reservation. The row of a request is
there before its amount is locked; until then an admin who finds it PENDING can
approve or release what is not reserved. -/
namespace Exchange.InrWithdrawals.Backing
open Ledger Service

def locked (s : Store) (id : WithdrawalId) : Bool := posted s WITHDRAWAL_REFERENCE_TYPE id

def isLock (id : WithdrawalId) (txn : LedgerTransaction ℕ) : Bool :=
  txn.referenceType = some WITHDRAWAL_REFERENCE_TYPE && txn.referenceId = some id

/-- Every release and every payout comes after the lock of its withdrawal. -/
def PrecededByLock (transactions : List (LedgerTransaction ℕ)) : Prop :=
  ∀ before txn after, transactions = before ++ txn :: after → ∀ settlement id,
    txn.referenceType = some (referenceType settlement) → txn.referenceId = some id →
      before.any (isLock id)

/-- Rows that are APPROVED or PAID have their lock in the ledger, and so had
every release and payout when it was posted. -/
structure Backed (s : Store) : Prop where
  rows : ∀ id row, s.withdrawals.lookup id = some row →
    row.status ∈ [InrWithdrawalStatus.approved, .paid] → locked s id
  postings : PrecededByLock s.ledger.transactions

/-- The request has read its withdrawal as PENDING. -/
def readPending (past : Past) : Bool :=
  past.any fun made => match made with
    | ⟨.findById _, .ok (some row)⟩ => row.status = .pending
    | _ => false

/-- An admin who has read a withdrawal as PENDING approves or releases it only
when its lock has been posted. -/
def awaitsLock (x : History) (pid : WithdrawalId) :
    Answered WithdrawalCall WithdrawalCall.Reply Failure → Bool
  | ⟨.updateMany id (.approve _), .ok count⟩ => count = 0 || locked x.store id
  | ⟨.post input, .ok _⟩ => !readPending (x.past pid) ||
      input.referenceType ≠ some WITHDRAWAL_RELEASE_REFERENCE_TYPE ||
        input.referenceId.all (locked x.store)
  | _ => true

def interleaved (pid : WithdrawalId) (call : WithdrawalCall) (x : History)
    (reply : Except Failure call.Reply) (s' : Store) : Prop :=
  Makes pid call x.store reply s'

def patient (pid : WithdrawalId) (call : WithdrawalCall) (x : History)
    (reply : Except Failure call.Reply) (s' : Store) : Prop :=
  Makes pid call x.store reply s' ∧ awaitsLock x pid ⟨call, reply⟩

/-- What the requests know stays backed. -/
structure BackedHistory (x : History) : Prop where
  backed : Backed x.store
  read : ∀ pid id row, (pid, ⟨.findById id, .ok (some row)⟩) ∈ x.history →
    row.status = .approved → locked x.store id

variable {config : Config} {requests : WithdrawalId → Request} {x : History} {pid id : WithdrawalId}
  {call : WithdrawalCall} {reply : Except Failure call.Reply} {s s' : Store} {row : InrWithdrawal}
  {past : Past} {txn : LedgerTransaction ℕ} {transactions : List (LedgerTransaction ℕ)}

/-- A posting goes last. -/
theorem PrecededByLock.append (preceded : PrecededByLock transactions)
    (last : ∀ settlement id, txn.referenceType = some (referenceType settlement) →
      txn.referenceId = some id → transactions.any (isLock id)) :
    PrecededByLock (transactions ++ [txn]) := by
  intro before other after split settlement id isType isTarget
  rcases List.eq_nil_or_concat after with rfl | ⟨middle, final, rfl⟩
  · obtain ⟨rfl, same⟩ := List.append_inj' split rfl
    obtain rfl := List.singleton_inj.mp same
    exact last settlement id isType isTarget
  · rw [List.concat_eq_append, ← List.cons_append, ← List.append_assoc] at split
    obtain ⟨rfl, -⟩ := List.append_inj' split rfl
    exact preceded before other middle rfl settlement id isType isTarget

/-- A request that posts a settlement has read the row, and found it APPROVED
unless it releases a PENDING one. -/
theorem May.settling {input : LedgerPostingInput ℕ} {settlement : Settlement}
    (call' : May pid past (.post input)) (isType : input.referenceType = some (referenceType settlement))
    (isTarget : input.referenceId = some id) : ∃ existing, past = [⟨.findById id, .ok (some existing)⟩] ∧
      (existing.status = .approved ∨ existing.status = .pending ∧ settlement = .release) := by
  cases call' with
  | neutral neutral => cases neutral
  | lock => exact (referenceType_ne_lock settlement (Option.some.inj isType).symm).elim
  | release reserved =>
    cases isTarget
    obtain rfl : settlement = .release := referenceType_injective (Option.some.inj isType).symm
    exact ⟨_, rfl, reserved.symm.imp_right fun pending => ⟨pending, rfl⟩⟩
  | payout approved =>
    cases isTarget
    exact ⟨_, rfl, .inl approved⟩

theorem locked_step (makes : Makes pid call s reply s') (isLocked : locked s id) : locked s' id :=
  (makes.effect.posted_iff _ _).mpr (.inl isLocked)

/-- A settlement is posted when the lock is there. -/
theorem settling_locked (inv : BackedHistory x) {input : LedgerPostingInput ℕ} {settlement : Settlement}
    (call' : May pid (x.past pid) (.post input)) (awaits : awaitsLock x pid ⟨.post input, .ok txn⟩)
    (isType : input.referenceType = some (referenceType settlement))
    (isTarget : input.referenceId = some id) : locked x.store id := by
  obtain ⟨existing, isPast, approved | ⟨pending, rfl⟩⟩ := May.settling call' isType isTarget
  · exact inv.read pid id existing (Logged.mem_past.mp (isPast ▸ List.mem_singleton_self _)) approved
  · have isRelease : input.referenceType = some WITHDRAWAL_RELEASE_REFERENCE_TYPE := isType
    simpa [awaitsLock, isPast, readPending, pending, isRelease, isTarget] using awaits

private theorem rows_step (inv : BackedHistory x) (call' : May pid (x.past pid) call)
    (made : patient pid call x reply s') (found : s'.withdrawals.lookup id = some row)
    (decided : row.status ∈ [InrWithdrawalStatus.approved, .paid]) : locked s' id := by
  obtain ⟨makes, awaits⟩ := made
  apply locked_step makes
  rcases makes.effect.origin found with ⟨before, isBefore, same⟩ | pending |
    ⟨change, before, same, isBefore, applies, rfl⟩
  · exact inv.backed.rows id before isBefore (same ▸ decided)
  · simp [pending] at decided
  · cases same
    cases change with
    | approve approvedBy => simpa [awaitsLock] using awaits
    | reject reviewedBy reason => simp [Change.update, reject] at decided
    | markPaid data =>
      have approved : before.status = .approved := of_decide_eq_true applies
      exact inv.backed.rows id before isBefore (by simp [approved])

private theorem postings_step (inv : BackedHistory x) (call' : May pid (x.past pid) call)
    (made : patient pid call x reply s') : PrecededByLock s'.ledger.transactions := by
  obtain ⟨makes, awaits⟩ := made
  generalize isMade : (⟨call, reply⟩ : Answered WithdrawalCall WithdrawalCall.Reply Failure) = made
    at awaits
  have effect := isMade ▸ makes.effect
  cases effect with
  | @posted input outcome ledger ran =>
    cases isMade
    rcases post_cases ran with ⟨failure, -, rfl⟩ | ⟨txn, -, rfl, -⟩ | ⟨txn, rfl, recorded, -⟩
    · exact inv.backed.postings
    · exact inv.backed.postings
    · change PrecededByLock ledger.transactions
      rw [recorded.transactions]
      refine inv.backed.postings.append fun settlement id isType isTarget => ?_
      rw [recorded.reference.1] at isType
      rw [recorded.reference.2] at isTarget
      exact settling_locked inv call' awaits isType isTarget
  | _ => exact inv.backed.postings

private theorem read_step (inv : BackedHistory x) (makes : Makes pid call x.store reply s')
    {other : WithdrawalId} (member : (other, ⟨.findById id, .ok (some row)⟩) ∈
      (pid, (⟨call, reply⟩ : Answered WithdrawalCall WithdrawalCall.Reply Failure)) :: x.history)
    (approved : row.status = .approved) : locked s' id := by
  apply locked_step makes
  rcases List.mem_cons.mp member with same | before
  · have effect := makes.effect
    simp only [Prod.mk.injEq] at same
    rw [← same.2] at effect
    generalize isFound : (.ok (some row) : Except Failure (Option InrWithdrawal)) = answer at effect
    cases effect with
    | found =>
      have found := (Except.ok.inj isFound).symm
      exact inv.backed.rows id row found (by simp [approved])
    | neutral _ other => exact (other id rfl).elim
    | failed => cases isFound
  · exact inv.read other id row before approved

theorem backed_step (inv : BackedHistory x) (call' : May pid (x.past pid) call)
    (made : patient pid call x reply s') : BackedHistory ⟨s', (pid, ⟨call, reply⟩) :: x.history⟩ where
  backed := ⟨fun _ _ found decided => rows_step inv call' made found decided,
    postings_step inv call' made⟩
  read _ _ _ member approved := read_step inv made.1 member approved

/-- In every run whose admins wait for the lock of what they find PENDING,
everything stays backed. -/
theorem stays_backed {pool : WithdrawalPool}
    (run : Logged.Run patient (IsRequest config requests) Backed pool) : Backed pool.store.store :=
  (run.inv (fun _ _ isRequest => isRequest_obeys isRequest)
    (fun _ backed => (⟨backed, by simp⟩ : BackedHistory _))
    fun _ _ _ _ _ inv call' => backed_step inv call'.1).backed

theorem smallBank_backed : Backed smallBank where
  rows id row found := by
    have missing : smallBank.withdrawals.lookup id = none := AList.lookup_empty id
    cases missing.symm.trans found
  postings before txn after split settlement id isType isTarget := by
    have absent := List.any_eq_false.mp (smallBank_unposted settlement id) txn (by simp [split])
    simp [isType, isTarget] at absent

/-- Two withdrawals of user 1, who has the money for one of them. -/
private def overdrawn : WithdrawalId → Request
  | 1 => .requestWithdrawal 1 (rupees 200 (by omega))
  | 2 => .requestWithdrawal 1 (rupees 200 (by omega))
  | 3 => .approve 1 (some 7)
  | _ => .markPaid 1 "UTR1" none (some 8)

private def hasStatus (s : Store) (id : WithdrawalId) (status : InrWithdrawalStatus) : Bool :=
  (s.withdrawals.lookup id).any fun row => row.status = status

/-- Withdrawal 1 is locked, approved and paid. -/
theorem stays_backed_paid : ∃ s : Store, hasStatus s 1 .paid ∧ Backed s := by
  have played : (schedule (fun _ _ => false) (fun pid call x reply => awaitsLock x pid ⟨call, reply⟩)
      overdrawn [1, 3, 4] [(1, 9), (3, 9), (4, 9)]).map (fun pool =>
        hasStatus pool.store.store 1 .paid) = some true := by decide +kernel
  obtain ⟨pool, scheduled, isPaid⟩ := Option.map_eq_some_iff.mp played
  have run : Logged.Run patient (IsRequest smallConfig overdrawn) Backed pool :=
    schedule_run smallBank_backed (fun _ _ _ _ _ awaits makes => ⟨makes, awaits⟩) scheduled
  exact ⟨pool.store.store, isPaid, stays_backed run⟩

/-- Both requests pass the check of the balance. Request 2 gets the lock; row 1
is approved before its own lock fails, and is not deleted then. -/
theorem approved_unlocked : ¬∀ pool : WithdrawalPool,
    Logged.Run interleaved (IsRequest smallConfig overdrawn) Backed pool → Backed pool.store.store := by
  intro backed
  have played : (schedule (fun _ _ => false) (fun _ _ _ _ => true) overdrawn [1, 2, 3]
      [(1, 3), (2, 9), (3, 9), (1, 9)]).map (fun pool =>
        (hasStatus pool.store.store 1 .approved, locked pool.store.store 1, pool.isQuiet)) =
      some (true, false, true) := by decide +kernel
  obtain ⟨pool, scheduled, facts⟩ := Option.map_eq_some_iff.mp played
  simp only [Prod.mk.injEq] at facts
  obtain ⟨row, found, approved⟩ := (Option.any_eq_true _ _).mp facts.1
  have isLocked := (backed pool (schedule_run smallBank_backed (fun _ _ _ _ _ _ makes => makes)
    scheduled)).rows 1 row found (by simp [of_decide_eq_true approved])
  cases facts.2.1.symm.trans isLocked

end Exchange.InrWithdrawals.Backing
