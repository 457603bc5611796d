import Exchange.InrWithdrawalRules
import Exchange.LedgerPostings

/-! What the calls of the INR-withdrawal service do to the tables. -/
namespace Exchange.InrWithdrawals
open Ledger Service

variable {pid id : WithdrawalId} {s s' : Store} {row : InrWithdrawal} {call : WithdrawalCall}
  {reply : Except Failure call.Reply}

/-- The store with one row written. -/
def Store.save (s : Store) (id : WithdrawalId) (row : InrWithdrawal) : Store :=
  { s with withdrawals := s.withdrawals.insert id row }

@[simp] theorem Store.save_lookup (s : Store) (id : WithdrawalId) (row : InrWithdrawal) :
    (s.save id row).withdrawals.lookup id = some row :=
  AList.lookup_insert _

theorem Store.save_lookup_ne (s : Store) (row : InrWithdrawal) {other : WithdrawalId}
    (ne : other ≠ id) : (s.save id row).withdrawals.lookup other = s.withdrawals.lookup other :=
  AList.lookup_insert_ne ne

/-- The transaction with this reference is in the ledger. -/
def posted (s : Store) (reference : String) (id : WithdrawalId) : Bool :=
  s.ledger.isPosted reference id

/-- What a call did, by its answer. -/
inductive Effect (pid : WithdrawalId) (s : Store) :
    Answered WithdrawalCall WithdrawalCall.Reply Failure → Store → Prop
  | created {data : NewWithdrawal} {row : InrWithdrawal} (pending : row.status = .pending)
      (fresh : s.withdrawals.lookup pid = none) : Effect pid s ⟨.create data, .ok row⟩ (s.save pid row)
  | bound {id : WithdrawalId} {lockLedgerTxnId : ℕ} {row : InrWithdrawal}
      (found : s.withdrawals.lookup id = some row) :
      Effect pid s ⟨.setLockTxn id lockLedgerTxnId,
        .ok { row with lockLedgerTxnId := some lockLedgerTxnId }⟩
        (s.save id { row with lockLedgerTxnId := some lockLedgerTxnId })
  | deleted {id : WithdrawalId} {row : InrWithdrawal} (found : s.withdrawals.lookup id = some row)
      (pending : row.status = .pending) :
      Effect pid s ⟨.deleteIfPending id, .ok ()⟩ { s with withdrawals := s.withdrawals.erase id }
  | kept {id : WithdrawalId} : Effect pid s ⟨.deleteIfPending id, .ok ()⟩ s
  | changed {id : WithdrawalId} {change : Change} {row : InrWithdrawal}
      (found : s.withdrawals.lookup id = some row) (applies : change.update.applies row) :
      Effect pid s ⟨.updateMany id change, .ok 1⟩ (s.save id (change.update.set row))
  | missed {id : WithdrawalId} {change : Change}
      (misses : ∀ row, s.withdrawals.lookup id = some row → change.update.applies row = false) :
      Effect pid s ⟨.updateMany id change, .ok 0⟩ s
  | posted {input : LedgerPostingInput ℕ} {reply : Except Failure (LedgerTransaction ℕ)}
      {ledger : Ledger.Store ℕ} (ran : Ledger.post input s.ledger = (reply, ledger)) :
      Effect pid s ⟨.post input, reply⟩ { s with ledger }
  | found {id : WithdrawalId} : Effect pid s ⟨.findById id, .ok (s.withdrawals.lookup id)⟩ s
  | neutral {call : WithdrawalCall} {reply : Except Failure call.Reply} (neutral : call.isNeutral)
      (other : ∀ id, call ≠ .findById id) : Effect pid s ⟨call, reply⟩ s
  | failed {call : WithdrawalCall} {failure : Failure} : Effect pid s ⟨call, .error failure⟩ s

private theorem create_ok {data : NewWithdrawal} (ok : create id data s = .ok (row, s')) :
    row.status = .pending ∧ s.withdrawals.lookup id = none ∧ s' = s.save id row := by
  simp only [create, except_bind_ok] at ok
  obtain ⟨amount, -, ok⟩ := ok
  split at ok
  · cases ok
  · rename_i fresh
    cases ok
    exact ⟨rfl, by simpa using fresh, rfl⟩

private theorem setLockTxn_ok {lockLedgerTxnId : ℕ} {bound : InrWithdrawal}
    (ok : setLockTxn id lockLedgerTxnId s = .ok (bound, s')) :
    ∃ row, s.withdrawals.lookup id = some row ∧
      bound = { row with lockLedgerTxnId := some lockLedgerTxnId } ∧ s' = s.save id bound := by
  unfold setLockTxn at ok
  split at ok
  · cases ok
  · rename_i row found
    cases ok
    exact ⟨row, found, rfl, rfl⟩

/-- Every call has one of these effects. -/
theorem Makes.effect (made : Makes pid call s reply s') : Effect pid s ⟨call, reply⟩ s' := by
  rcases made with ⟨world, made⟩ | ⟨⟨failure, -, rfl⟩, rfl⟩
  · cases call with
    | findUserState userId =>
      cases made
      exact .neutral rfl (by simp)
    | getInrWallet userId =>
      cases made
      exact .neutral rfl (by simp)
    | findById id =>
      cases made
      exact .found
    | writeAdminLog adminId action id =>
      cases made
      exact .neutral rfl (by simp)
    | create data =>
      rcases Database.written_cases made with ⟨row, rfl, ran⟩ | ⟨⟨failure, rfl, -⟩, rfl⟩
      · obtain ⟨pending, fresh, rfl⟩ := create_ok ran
        exact .created pending fresh
      · exact .failed
    | setLockTxn id lockLedgerTxnId =>
      rcases Database.written_cases made with ⟨row, rfl, ran⟩ | ⟨⟨failure, rfl, -⟩, rfl⟩
      · obtain ⟨row, found, rfl, rfl⟩ := setLockTxn_ok ran
        exact .bound found
      · exact .failed
    | deleteIfPending id =>
      cases found : (s.withdrawals.lookup id).filter fun row => row.status = .pending with
      | none =>
        simp only [perform, deleteIfPending, found] at made
        cases made
        exact .kept
      | some row =>
        simp only [perform, deleteIfPending, found] at made
        cases made
        obtain ⟨isRow, pending⟩ := Option.filter_eq_some_iff.mp found
        exact .deleted isRow (by simpa using pending)
    | updateMany id change =>
      cases found : (s.withdrawals.lookup id).filter change.update.applies with
      | none =>
        simp only [perform, updateMany, found] at made
        cases made
        refine .missed fun row isRow => ?_
        simpa [isRow] using found
      | some row =>
        simp only [perform, updateMany, found] at made
        cases made
        obtain ⟨isRow, applies⟩ := Option.filter_eq_some_iff.mp found
        exact .changed isRow applies
    | post input =>
      cases ran : Ledger.post input s.ledger with
      | mk outcome ledger =>
        simp only [perform, ran] at made
        cases made
        exact .posted ran
  · exact .failed

/-- A posting is there once it went through, and no other is added. -/
theorem Effect.posted_iff {made : Answered WithdrawalCall WithdrawalCall.Reply Failure}
    (effect : Effect pid s made s') (reference : String) (id : WithdrawalId) :
    InrWithdrawals.posted s' reference id ↔ InrWithdrawals.posted s reference id ∨
      ∃ input txn, made = ⟨.post input, .ok txn⟩ ∧ input.referenceType = some reference ∧
        input.referenceId = some id := by
  cases effect with
  | @posted input reply ledger ran =>
    change ledger.isPosted reference id ↔ s.ledger.isPosted reference id ∨ _
    rw [post_isPosted ran]
    refine or_congr_right ⟨?_, ?_⟩
    · rintro ⟨⟨txn, rfl⟩, isType, isTarget⟩
      exact ⟨input, txn, rfl, isType, isTarget⟩
    · rintro ⟨input', txn, same, isType, isTarget⟩
      cases same
      exact ⟨⟨txn, rfl⟩, isType, isTarget⟩
  | neutral neutral =>
    refine ⟨.inl, fun now => now.elim (fun before => before) ?_⟩
    rintro ⟨input, txn, same, -, -⟩
    cases same
    cases neutral
  | failed =>
    refine ⟨.inl, fun now => now.elim (fun before => before) ?_⟩
    rintro ⟨input, txn, same, -, -⟩
    cases same
  | _ =>
    refine ⟨.inl, fun now => now.elim (fun before => before) ?_⟩
    rintro ⟨input, txn, same, -, -⟩
    cases same

/-- Where a row comes from: it was there with its status, or it is new, or a
change applied to it. -/
theorem Effect.origin {made : Answered WithdrawalCall WithdrawalCall.Reply Failure}
    (effect : Effect pid s made s') (found : s'.withdrawals.lookup id = some row) :
    (∃ before, s.withdrawals.lookup id = some before ∧ before.status = row.status) ∨
      row.status = .pending ∨
      ∃ change before, made = ⟨.updateMany id change, .ok 1⟩ ∧
        s.withdrawals.lookup id = some before ∧ change.update.applies before ∧
          row = change.update.set before := by
  have written {target : WithdrawalId} {new : InrWithdrawal}
      (isFound : (s.save target new).withdrawals.lookup id = some row) :
      id = target ∧ new = row ∨ s.withdrawals.lookup id = some row := by
    by_cases same : id = target
    · subst same
      rw [Store.save_lookup] at isFound
      exact .inl ⟨rfl, Option.some.inj isFound⟩
    · rw [Store.save_lookup_ne _ _ same] at isFound
      exact .inr isFound
  cases effect with
  | created pending fresh =>
    rcases written found with ⟨-, rfl⟩ | before
    · exact .inr (.inl pending)
    · exact .inl ⟨row, before, rfl⟩
  | bound isRow =>
    rcases written found with ⟨rfl, rfl⟩ | before
    · exact .inl ⟨_, isRow, rfl⟩
    · exact .inl ⟨row, before, rfl⟩
  | changed isRow applies =>
    rcases written found with ⟨rfl, rfl⟩ | before
    · exact .inr (.inr ⟨_, _, rfl, isRow, applies, rfl⟩)
    · exact .inl ⟨row, before, rfl⟩
  | @deleted target gone isGone pending =>
    by_cases same : id = target
    · subst same
      change (s.withdrawals.erase id).lookup id = some row at found
      rw [AList.lookup_erase] at found
      cases found
    · change (s.withdrawals.erase target).lookup id = some row at found
      rw [AList.lookup_erase_ne same] at found
      exact .inl ⟨row, found, rfl⟩
  | _ => exact .inl ⟨row, found, rfl⟩

/-- A row that is neither PENDING nor changed stays. -/
theorem Effect.stays {made : Answered WithdrawalCall WithdrawalCall.Reply Failure}
    (effect : Effect pid s made s') (found : s.withdrawals.lookup id = some row)
    (decided : row.status ≠ .pending) (unchanged : ∀ change : Change,
      made.call = .updateMany id change → change.update.applies row = false) :
    ∃ after, s'.withdrawals.lookup id = some after ∧ after.status = row.status := by
  cases effect with
  | created pending fresh =>
    refine ⟨row, ?_, rfl⟩
    rw [Store.save_lookup_ne _ _ fun same => ?_]
    · exact found
    · subst same
      cases fresh.symm.trans found
  | @bound target _ old isRow =>
    by_cases same : id = target
    · subst same
      cases found.symm.trans isRow
      exact ⟨_, Store.save_lookup _ _ _, rfl⟩
    · exact ⟨row, (Store.save_lookup_ne _ _ same).trans found, rfl⟩
  | @changed target change old isRow applies =>
    by_cases same : id = target
    · subst same
      cases found.symm.trans isRow
      cases (unchanged change rfl).symm.trans applies
    · exact ⟨row, (Store.save_lookup_ne _ _ same).trans found, rfl⟩
  | @deleted target gone isGone pending =>
    have other : id ≠ target := by
      rintro rfl
      cases found.symm.trans isGone
      exact decided pending
    exact ⟨row, (AList.lookup_erase_ne other).trans found, rfl⟩
  | _ => exact ⟨row, found, rfl⟩

/-! ## Schedules -/

/-- User 1 has deposited 200 INR. -/
def smallBank : Store where
  users _ := some ⟨.active, .approved, 1, false⟩
  withdrawals := ∅
  ledger := (Ledger.post
    { kind := "INR_DEPOSIT", referenceType := some "inr_transaction", referenceId := some 0, lines :=
      [⟨none, .gatewayClearing, INR, .debit, 200⟩, ⟨some 1, .userAvailable, INR, .credit, 200⟩] }
    (∅ : Ledger.Store ℕ)).2

theorem smallBank_unposted (settlement : Settlement) (id : WithdrawalId) :
    posted smallBank (referenceType settlement) id = false := by
  have others : smallBank.ledger.transactions.all fun txn =>
      txn.referenceType = some "inr_transaction" := by decide +kernel
  refine List.any_eq_false.mpr fun txn member => ?_
  have other := of_decide_eq_true (List.all_eq_true.mp others txn member)
  cases settlement <;>
    simp [other, referenceType, WITHDRAWAL_RELEASE_REFERENCE_TYPE, WITHDRAWAL_PAYOUT_REFERENCE_TYPE]

def smallConfig : Config where
  withdrawalMin := 100
  withdrawalMax := 1000000

theorem rupees_valid {n : ℕ} (positive : 0 < n) : 0 < (n : Decimal) ∧ SignificantDigits.OnGrid 2 (n : Decimal) := by
  refine ⟨by exact_mod_cast positive, n * 100, ?_⟩
  norm_num

/-- A whole number of rupees. -/
def rupees (n : ℕ) (positive : 0 < n) : CreateWithdrawalInput where
  amount := n
  valid := rupees_valid positive

abbrev History := Logged WithdrawalId WithdrawalCall WithdrawalCall.Reply Failure Store

abbrev WithdrawalPool := Pool WithdrawalId WithdrawalCall WithdrawalCall.Reply Failure Unit History

/-- A schedule at the small bank, in which only certain calls are made, with
certain answers. -/
def schedule (isLost : WithdrawalId → WithdrawalCall → Bool)
    (allows : WithdrawalId → (call : WithdrawalCall) → History → Except Failure call.Reply → Bool)
    (requests : WithdrawalId → Request) (arrivals : List WithdrawalId)
    (turns : List (WithdrawalId × ℕ)) : Option WithdrawalPool :=
  Database.schedule perform (fun _ => ()) isLost allows (fun pid => (requests pid).program smallConfig pid)
    arrivals turns smallBank

theorem schedule_run {isLost : WithdrawalId → WithdrawalCall → Bool}
    {allows : WithdrawalId → (call : WithdrawalCall) → History → Except Failure call.Reply → Bool}
    {requests : WithdrawalId → Request} {arrivals : List WithdrawalId}
    {turns : List (WithdrawalId × ℕ)} {pool : WithdrawalPool} {Initial : Store → Prop}
    {step : WithdrawalId → (call : WithdrawalCall) → History → Except Failure call.Reply → Store → Prop}
    (initial : Initial smallBank)
    (sound : ∀ pid call x reply s', allows pid call x reply → Makes pid call x.store reply s' →
      step pid call x reply s')
    (played : schedule isLost allows requests arrivals turns = some pool) :
    Logged.Run step (IsRequest smallConfig requests) Initial pool :=
  Database.schedule_run initial (fun _ => rfl) sound played

end Exchange.InrWithdrawals
