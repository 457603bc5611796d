import Exchange.AsyncBooking
import Exchange.InrWithdrawalEffects

/-! The reservation of an INR withdrawal ends as its row says: a rejection posts
the release, a payment posts the payout, and each changes the row with the next
call. The change is conditional and its request does not look at what it did,
so that a decision overtaken by another one has moved money all the same. -/
namespace Exchange.InrWithdrawals.Settlements
open Ledger Service

/-- The status that goes with a settlement. -/
def status : Settlement → InrWithdrawalStatus
  | .release => .rejected
  | .payout => .paid

def hasStatus (s : Store) (id : WithdrawalId) (status : InrWithdrawalStatus) : Bool :=
  (s.withdrawals.lookup id).any fun row => row.status = status

/-- The posting of a settlement exists if and only if the row says so. -/
def Agreed (s : Store) : Prop :=
  ∀ settlement id, posted s (referenceType settlement) id ↔ hasStatus s id (status settlement)

/-- The ledger and the row tell the same single outcome. -/
def SettledAsRecorded (s : Store) (id : WithdrawalId) : Prop :=
  (posted s WITHDRAWAL_PAYOUT_REFERENCE_TYPE id ↔ hasStatus s id .paid) ∧
    (posted s WITHDRAWAL_RELEASE_REFERENCE_TYPE id ↔ hasStatus s id .rejected) ∧
      ¬(posted s WITHDRAWAL_PAYOUT_REFERENCE_TYPE id ∧ posted s WITHDRAWAL_RELEASE_REFERENCE_TYPE id)

/-- The update that records a settlement goes through, and finds a row that it
applies to or that another one has already changed the same way. -/
def records (s : Store) : Answered WithdrawalCall WithdrawalCall.Reply Failure → Bool
  | ⟨.updateMany id change, reply⟩ => change.settlement.all fun settlement =>
      reply.isOk && ((s.withdrawals.lookup id).any change.update.applies ||
        hasStatus s id (status settlement))
  | _ => true

def interleaved (pid : WithdrawalId) (call : WithdrawalCall) (x : History)
    (reply : Except Failure call.Reply) (s' : Store) : Prop :=
  Makes pid call x.store reply s'

def undisturbed (pid : WithdrawalId) (call : WithdrawalCall) (x : History)
    (reply : Except Failure call.Reply) (s' : Store) : Prop :=
  Makes pid call x.store reply s' ∧ records x.store ⟨call, reply⟩

variable {config : Config} {requests : WithdrawalId → Request} {x : History} {pid id : WithdrawalId}
  {call : WithdrawalCall} {reply : Except Failure call.Reply} {s s' : Store} {change : Change}
  {settlement : Settlement} {row : InrWithdrawal}

theorem hasStatus_iff {status : InrWithdrawalStatus} : hasStatus s id status ↔
    ∃ row, s.withdrawals.lookup id = some row ∧ row.status = status := by
  simp [hasStatus, Option.any_eq_true]

/-- A change sets the status of its settlement, if any. -/
theorem settlement_of_status (isStatus : (change.update.set row).status = status settlement) :
    change.settlement = some settlement := by
  cases change with
  | approve approvedBy => cases settlement <;> cases isStatus
  | reject reviewedBy reason => cases settlement <;> first | rfl | cases isStatus
  | markPaid data => cases settlement <;> first | rfl | cases isStatus

theorem status_of_settlement (settles : change.settlement = some settlement) :
    (change.update.set row).status = status settlement := by
  cases change with
  | approve approvedBy => cases settles
  | reject reviewedBy reason =>
    cases settles
    rfl
  | markPaid data =>
    cases settles
    rfl

/-- No change applies to a settled row. -/
theorem not_applies (settled : row.status = status settlement) : change.update.applies row = false := by
  cases change <;> cases settlement <;>
    simp [Change.update, approve, reject, markPaid, settled, status]

theorem ne_pending (settled : row.status = status settlement) : row.status ≠ .pending := by
  cases settlement <;> simp [settled, status]

/-- A request that may change the row for a settlement has posted it. -/
theorem May.owes {past : Past} (call' : may pid past (.updateMany id change))
    (settles : change.settlement = some settlement) : Owes settlement id past := by
  obtain ⟨allowed, -⟩ := call'
  cases allowed with
  | neutral neutral => cases neutral
  | approve => cases settles
  | reject =>
    cases settles
    exact .posted rfl rfl
  | markPaid =>
    cases settles
    exact .posted rfl rfl

private theorem books (call' : may pid (x.past pid) call) (made : undisturbed pid call x reply s')
    (key : Settlement × WithdrawalId) (isPosted : posted s' (referenceType key.1) key.2) :
    posted x.store (referenceType key.1) key.2 ∨ Owes key.1 key.2 (⟨call, reply⟩ :: x.past pid) := by
  rcases (made.1.effect.posted_iff _ _).mp isPosted with before | ⟨input, txn, same, isType, isTarget⟩
  · exact .inl before
  · cases same
    exact .inr (.posted isType isTarget)

private theorem stays_booked (made : undisturbed pid call x reply s') (key : Settlement × WithdrawalId)
    (isPosted : posted x.store (referenceType key.1) key.2 ∨
      Owes key.1 key.2 (⟨call, reply⟩ :: x.past pid)) : posted s' (referenceType key.1) key.2 := by
  refine (made.1.effect.posted_iff _ _).mpr (isPosted.imp_right fun owes => ?_)
  generalize isPast : x.past pid = past at owes
  cases owes with
  | posted isType isTarget => exact ⟨_, _, rfl, isType, isTarget⟩

/-- A row gets the status of a settlement from the request that has posted it. -/
private theorem records_owed (call' : may pid (x.past pid) call) (made : undisturbed pid call x reply s')
    (key : Settlement × WithdrawalId) (isRecorded : hasStatus s' key.2 (status key.1)) :
    hasStatus x.store key.2 (status key.1) ∨ Owes key.1 key.2 (x.past pid) := by
  obtain ⟨row, found, settled⟩ := hasStatus_iff.mp isRecorded
  rcases made.1.effect.origin found with ⟨before, isBefore, same⟩ | pending |
    ⟨change, before, same, isBefore, applies, rfl⟩
  · exact .inl (hasStatus_iff.mpr ⟨before, isBefore, same.trans settled⟩)
  · exact (ne_pending settled pending).elim
  · cases same
    exact .inr (May.owes call' (settlement_of_status settled))

private theorem stays_recorded (call' : may pid (x.past pid) call)
    (made : undisturbed pid call x reply s') (key : Settlement × WithdrawalId)
    (isRecorded : hasStatus x.store key.2 (status key.1) ∨ Owes key.1 key.2 (x.past pid)) :
    hasStatus s' key.2 (status key.1) := by
  obtain ⟨makes, isKept⟩ := made
  have settled (before : hasStatus x.store key.2 (status key.1)) : hasStatus s' key.2 (status key.1) := by
    obtain ⟨row, found, settled⟩ := hasStatus_iff.mp before
    obtain ⟨after, found', same⟩ := makes.effect.stays found (ne_pending settled)
      fun _ _ => not_applies settled
    exact hasStatus_iff.mpr ⟨after, found', same.trans settled⟩
  rcases isRecorded with before | owes
  · exact settled before
  -- the request that has posted makes the update now
  obtain ⟨change, rfl, settles⟩ := call'.2 _ _ owes
  simp only [records, settles, Option.all_some, Bool.and_eq_true, Bool.or_eq_true] at isKept
  obtain ⟨isOk, applies | already⟩ := isKept
  · obtain ⟨row, found, applies⟩ := (Option.any_eq_true _ _).mp applies
    cases makes.effect with
    | changed isRow =>
      exact hasStatus_iff.mpr ⟨_, Store.save_lookup _ _ _, status_of_settlement settles⟩
    | missed misses => cases (misses row found).symm.trans applies
    | neutral neutral => cases neutral
    | failed => cases isOk
  · exact settled already

/-- Settlements are booked in the ledger and recorded in the rows. -/
theorem settlement_booking : Logged.Booking undisturbed may (fun _ => True)
    (fun s key => (posted s (referenceType key.1) key.2 : Prop))
    (fun s (key : Settlement × WithdrawalId) => hasStatus s key.2 (status key.1))
    (fun past key => Owes key.1 key.2 past) where
  idle key owes := by cases owes
  kept _ _ _ := trivial
  books _ call' made := books call' made
  stays_booked _ _ made := stays_booked made
  records _ call' made := records_owed call' made
  stays_recorded _ call' made := stays_recorded call' made

/-- In every run in which each settlement that was posted gets recorded, ledger
and rows agree whenever no request is in flight. -/
theorem settled_as_recorded {pool : WithdrawalPool}
    (run : Logged.Run undisturbed (IsRequest config requests) Agreed pool) (quiet : pool.Quiet)
    (id : WithdrawalId) : SettledAsRecorded pool.store.store id := by
  have agree (settlement : Settlement) : posted pool.store.store (referenceType settlement) id ↔
      hasStatus pool.store.store id (status settlement) :=
    settlement_booking.quiet (fun _ _ isRequest => isRequest_obeys isRequest)
      (fun s agreed => ⟨trivial, fun key => agreed key.1 key.2⟩) (fun _ _ _ key free => free key.1 key.2) run quiet
      (settlement, id)
  refine ⟨agree .payout, agree .release, fun ⟨paid, released⟩ => ?_⟩
  obtain ⟨row, found, isPaid⟩ := hasStatus_iff.mp ((agree .payout).mp paid)
  obtain ⟨row', found', isRejected⟩ := hasStatus_iff.mp ((agree .release).mp released)
  cases found.symm.trans found'
  cases isPaid.symm.trans isRejected

theorem smallBank_agreed : Agreed smallBank := by
  intro settlement id
  rw [smallBank_unposted]
  have missing : smallBank.withdrawals.lookup id = none := AList.lookup_empty id
  simp [hasStatus, missing]

/-- Withdrawals 1 and 2 of user 1, of which the first is approved; it is paid
and rejected by different admins. -/
private def twoDecisions : WithdrawalId → Request
  | 1 => .requestWithdrawal 1 (rupees 100 (by omega))
  | 2 => .requestWithdrawal 1 (rupees 100 (by omega))
  | 3 => .approve 1 (some 7)
  | 4 => .markPaid 1 "UTR1" none (some 8)
  | _ => .reject 1 "suspicious" (some 9)

/-- Withdrawal 1 is paid before the rejection looks at it. -/
theorem settled_as_recorded_paid : ∃ s : Store, hasStatus s 1 .paid ∧ SettledAsRecorded s 1 := by
  have played : (schedule (fun _ _ => false) (fun _ call x reply => records x.store ⟨call, reply⟩)
      twoDecisions [1, 2, 3, 4, 5] [(1, 9), (2, 9), (3, 9), (4, 9), (5, 9)]).map (fun pool =>
        (hasStatus pool.store.store 1 .paid, pool.isQuiet)) = some (true, true) := by decide +kernel
  obtain ⟨pool, scheduled, facts⟩ := Option.map_eq_some_iff.mp played
  simp only [Prod.mk.injEq] at facts
  have run : Logged.Run undisturbed (IsRequest smallConfig twoDecisions) Agreed pool :=
    schedule_run smallBank_agreed (fun _ _ _ _ _ isKept makes => ⟨makes, isKept⟩) scheduled
  exact ⟨pool.store.store, facts.1, settled_as_recorded run (Pool.quiet_of_isQuiet facts.2) 1⟩

/-- Both admins read withdrawal 1 as APPROVED, and both settle it; the second
settlement takes the reservation of withdrawal 2. -/
theorem paid_and_released : ¬∀ pool : WithdrawalPool,
    Logged.Run interleaved (IsRequest smallConfig twoDecisions) Agreed pool → pool.Quiet →
      ∀ id, SettledAsRecorded pool.store.store id := by
  intro settled
  have played : (schedule (fun _ _ => false) (fun _ _ _ _ => true) twoDecisions [1, 2, 3, 4, 5]
      [(1, 9), (2, 9), (3, 9), (4, 1), (5, 1), (4, 9), (5, 9)]).map (fun pool =>
        (posted pool.store.store WITHDRAWAL_PAYOUT_REFERENCE_TYPE 1,
          posted pool.store.store WITHDRAWAL_RELEASE_REFERENCE_TYPE 1, pool.isQuiet)) =
      some (true, true, true) := by decide +kernel
  obtain ⟨pool, scheduled, facts⟩ := Option.map_eq_some_iff.mp played
  simp only [Prod.mk.injEq] at facts
  have run := schedule_run smallBank_agreed (fun _ _ _ _ _ _ makes => makes) scheduled
  exact (settled pool run (Pool.quiet_of_isQuiet facts.2.2) 1).2.2 ⟨facts.1, facts.2.1⟩

end Exchange.InrWithdrawals.Settlements
