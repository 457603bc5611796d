import Exchange.WithdrawalProgress

/-! A withdrawal's hold is settled once: it is released or finalised, not both.
Each of the two has its own reference, so that the ledger cannot tell; what
keeps them apart is the status of the row, which a confirmation pass does not
look at again before it finalises. -/
namespace Exchange.Withdrawal.Settlement
open Ledger Service

/-- The postings that settle the hold. -/
def settlements (s : Store) (id : WithdrawalId) : List (LedgerTransaction ℕ) :=
  s.ledger.transactions.filter fun txn =>
    txn.referenceId = some id &&
      (txn.referenceType = some REF_RELEASE || txn.referenceType = some REF_FINAL)

/-- At most one posting settles the hold, and only one that was placed. -/
def SettledOnce (s : Store) (id : WithdrawalId) : Prop :=
  (settlements s id).length ≤ 1 ∧
    ∀ reference ∈ [REF_RELEASE, REF_FINAL], posted s reference id → posted s REF_HOLD id

/-- A row is not FAILED when it is finalised, and not finalised when it is
failed. -/
def keepsApart (s : Store) : Answered WithdrawalCall WithdrawalCall.Reply Failure → Bool
  | ⟨.post input, .ok _⟩ => input.referenceType ≠ some REF_FINAL || input.referenceId.all fun id =>
      (s.withdrawals.lookup id).all fun row => row.status ≠ .failed
  | ⟨.updateMany id (.markFailed _), .ok count⟩ => count = 0 || !posted s REF_FINAL id
  | _ => true

def interleaved (pid : WithdrawalId) (call : WithdrawalCall) (x : History)
    (reply : Except Failure call.Reply) (s' : Store) : Prop :=
  Makes pid call x.store reply s'

def apart (pid : WithdrawalId) (call : WithdrawalCall) (x : History)
    (reply : Except Failure call.Reply) (s' : Store) : Prop :=
  Makes pid call x.store reply s' ∧ keepsApart x.store ⟨call, reply⟩

/-- What keeps the two settlements of a hold apart. -/
structure Apart (x : History) : Prop where
  sound : Sound x
  unsettled : ∀ id row, x.store.withdrawals.lookup id = some row →
    row.status ∈ [WithdrawalStatus.rejected, .failed] → posted x.store REF_FINAL id = false
  once : ∀ id, (settlements x.store id).length ≤ 1

variable {config : Config} {requests : WithdrawalId → Request} {x : History} {pid id : WithdrawalId}
  {call : WithdrawalCall} {reply : Except Failure call.Reply} {s s' : Store}

theorem settlements_nil (isReleased : posted s REF_RELEASE id = false)
    (isFinal : posted s REF_FINAL id = false) : settlements s id = [] := by
  refine List.filter_eq_nil_iff.mpr fun txn member => ?_
  have notReleased := List.any_eq_false.mp isReleased txn member
  have notFinal := List.any_eq_false.mp isFinal txn member
  simp only [Bool.and_eq_true, decide_eq_true_eq, not_and, Bool.or_eq_true] at notReleased notFinal ⊢
  rintro isTarget (isRelease | isFinal)
  · exact notReleased isRelease isTarget
  · exact notFinal isFinal isTarget

/-- Only a new posting settles a hold. -/
theorem Effect.settlements {made : Answered WithdrawalCall WithdrawalCall.Reply Failure}
    (effect : Effect pid s made s') (id : WithdrawalId) : settlements s' id = settlements s id ∨
      ∃ input txn, made = ⟨.post input, .ok txn⟩ ∧ input.referenceId = some id ∧
        settlements s' id = settlements s id ++ [txn] ∧ ∃ reference ∈ [REF_RELEASE, REF_FINAL],
          input.referenceType = some reference ∧ posted s reference id = false := by
  cases effect with
  | @entered input txn ledger recorded fresh =>
    obtain ⟨isType, isTarget⟩ := recorded.reference
    by_cases settles : input.referenceId = some id ∧
        (input.referenceType = some REF_RELEASE ∨ input.referenceType = some REF_FINAL)
    · refine .inr ⟨input, txn, rfl, settles.1, ?_, ?_⟩
      · simp [Settlement.settlements, recorded.transactions, isType, isTarget, settles]
      · rw [settles.1] at fresh
        rcases settles.2 with same | same <;> rw [same] at fresh
        · exact ⟨_, by simp, same, isPosted_of_fresh (by decide) fresh⟩
        · exact ⟨_, by simp, same, isPosted_of_fresh (by decide) fresh⟩
    · left
      simp [Settlement.settlements, recorded.transactions, isType, isTarget]
      tauto
  | _ => exact .inl rfl

/-- A row that is being finalised was not rejected. -/
theorem finalising_row (sound : Sound x) {input : LedgerPostingInput ℕ}
    (call' : May config requests pid (x.past pid) (.post input))
    (isFinal : input.referenceType = some REF_FINAL) (isTarget : input.referenceId = some id)
    {row : CryptoWithdrawal} (found : x.store.withdrawals.lookup id = some row) :
    row.status ≠ .rejected := by
  obtain ⟨listed, status, rfl, reported, -⟩ := call'.finalising isFinal isTarget
  obtain ⟨started, other, -, current, found', evolves⟩ := sound.reported reported fun _ member => member
  cases found'.symm.trans found
  exact evolves.claimed (by omega) other

/-- A row is closed only before it was broadcast, or by failing it. -/
theorem closing {change : Change} {row : CryptoWithdrawal} (timely : Timely change row)
    (applies : change.update.applies row) (held : row.holdTxnId.isSome) (late : 4 ≤ phase row)
    (closed : (change.update.set row).status ∈ [WithdrawalStatus.rejected, .failed]) :
    row.status ∈ [WithdrawalStatus.rejected, .failed] ∨ ∃ reason, change = .markFailed reason := by
  rw [phase_held held] at late
  cases change with
  | markFailed reason => exact .inr ⟨reason, rfl⟩
  | firstApprove adminId => exact .inl closed
  | markRequestFailed reason => simp [show row.holdTxnId = none from timely] at held
  | reject adminId reason =>
    simp only [Change.update, reject, List.mem_cons, List.not_mem_nil, or_false,
      decide_eq_true_eq] at applies
    rcases applies with isStatus | isStatus | isStatus | isStatus | isStatus <;>
      simp [isStatus, rank] at late
  | _ =>
    simp [Change.update, setHold, approveSmall, secondApprove, claimForBroadcast, setBroadcast,
      setConfirming, markCompleted] at closed

private theorem unsettled_step (inv : Apart x) (call' : May config requests pid (x.past pid) call)
    (effect : Effect pid x.store ⟨call, reply⟩ s') (keeps : keepsApart x.store ⟨call, reply⟩)
    {row : CryptoWithdrawal} (found : s'.withdrawals.lookup id = some row)
    (closed : row.status ∈ [WithdrawalStatus.rejected, .failed]) : posted s' REF_FINAL id = false := by
  by_contra isFinal
  rcases (effect.posted_iff _ _).mp (by simpa using isFinal) with before |
    ⟨input, txn, made, isType, isTarget⟩
  · obtain ⟨current, found', late, -⟩ := inv.sound.finalised id before
    have opened : current.status ∉ [WithdrawalStatus.rejected, .failed] := fun closed =>
      Bool.false_ne_true ((inv.unsettled id current found' closed).symm.trans before)
    rcases inv.sound.origin effect found with same | ⟨rfl, fresh, -⟩ |
      ⟨change, old, applies, rfl, writes⟩
    · cases found'.symm.trans same
      exact opened closed
    · cases fresh.symm.trans found'
    · cases found'.symm.trans applies.found
      have timely := inv.sound.timely call'
        (writes.imp (congrArg Answered.call) (congrArg Answered.call)) applies
      rcases closing timely applies.applies (held_of_phase (by omega)) late closed with closed | ⟨reason, rfl⟩
      · exact opened closed
      · rcases writes with made | made <;> cases made
        · cases call'.isBlind
        · simp [keepsApart, before] at keeps
  · cases made
    have same : s'.withdrawals = x.store.withdrawals := by
      rcases effect.rows with same | ⟨_, _, made, -⟩ | ⟨_, _, _, -, -, made | made⟩
      · exact same
      · cases made
      · cases made
      · cases made
    rw [same] at found
    have notRejected := finalising_row inv.sound call' isType isTarget found
    simp [keepsApart, isType, isTarget, found] at keeps
    simp [notRejected, keeps] at closed

private theorem once_step (inv : Apart x) (call' : May config requests pid (x.past pid) call)
    (effect : Effect pid x.store ⟨call, reply⟩ s') (keeps : keepsApart x.store ⟨call, reply⟩)
    (id : WithdrawalId) : (settlements s' id).length ≤ 1 := by
  rcases Effect.settlements effect id with same | ⟨input, txn, made, isTarget, grown, settled⟩
  · rw [same]
    exact inv.once id
  · cases made
    have unsettled : settlements x.store id = [] := by
      obtain ⟨reference, isReference, isType, fresh⟩ := settled
      rcases List.mem_pair.mp isReference with rfl | rfl
      · obtain ⟨row, rfl, decided, held⟩ := call'.releasing isType isTarget
        obtain ⟨current, found, -, closed⟩ := inv.sound.decided pid row decided held
        exact settlements_nil fresh (inv.unsettled _ _ found closed)
      · refine settlements_nil ?_ fresh
        by_contra isReleased
        obtain ⟨current, found, -, closed⟩ := inv.sound.released id (by simpa using isReleased)
        have notRejected := finalising_row inv.sound call' isType isTarget found
        simp [keepsApart, isType, isTarget, found] at keeps
        simp [notRejected, keeps] at closed
    rw [grown, unsettled]
    simp

theorem apart_unused (unused : Unused s) : Apart ⟨s, []⟩ where
  sound := sound_unused unused
  unsettled id row found := by
    rw [unused.withdrawals, AList.lookup_empty] at found
    cases found
  once id := by
    rw [settlements_nil (unused.postings REF_RELEASE (by simp) id) (unused.postings REF_FINAL (by simp) id)]
    simp

theorem apart_step (inv : Apart x) (call' : May config requests pid (x.past pid) call)
    (made : apart pid call x reply s') : Apart ⟨s', (pid, ⟨call, reply⟩) :: x.history⟩ := by
  obtain ⟨makes, keeps⟩ := made
  have effect := call'.effect makes
  exact ⟨sound_step inv.sound call' makes,
    fun id row found closed => unsettled_step inv call' effect keeps found closed,
    once_step inv call' effect keeps⟩

theorem Apart.settledOnce (inv : Apart x) (id : WithdrawalId) : SettledOnce x.store id := by
  refine ⟨inv.once id, fun reference isReference isPosted => ?_⟩
  rcases List.mem_pair.mp isReference with rfl | rfl
  · obtain ⟨row, found, held, -⟩ := inv.sound.released id isPosted
    exact ((inv.sound.row id row found).held held).1
  · obtain ⟨row, found, late, -⟩ := inv.sound.finalised id isPosted
    exact ((inv.sound.row id row found).held (held_of_phase (by omega))).1

/-- In every run that keeps the two settlements apart, each hold is settled at
most once, and only after it was placed. -/
theorem settled_once {pool : WithdrawalPool}
    (run : Logged.Run apart (IsRequest config requests) Unused pool) (id : WithdrawalId) :
    SettledOnce pool.store.store id :=
  (run.inv (fun _ _ isRequest => isRequest_obeys isRequest) (fun _ => apart_unused)
    fun _ _ _ _ _ inv call' => apart_step inv call'.1).settledOnce id

/-- Withdrawals 1 and 6 of user 1; withdrawal 1 is approved and broadcast, and
two passes look for its confirmation. -/
private def twoWithdrawals : WithdrawalId → Request
  | 1 => .requestWithdrawal 1 tenUsdt
  | 2 => .approve 1 (some 7)
  | 3 => .broadcastCycle
  | 6 => .requestWithdrawal 1 tenUsdt
  | _ => .confirmationCycle

/-- The transaction is dropped when pass 5 asks for it. -/
private def droppedAtFive (pid : WithdrawalId) : Signer := mockSigner ⟨true, 20, pid ≠ 5⟩

/-- Withdrawal 1 is confirmed. -/
theorem settled_once_confirmed : ∃ s : Store,
    (s.withdrawals.lookup 1).map CryptoWithdrawal.status = some .completed ∧ SettledOnce s 1 := by
  have played : (schedule droppedAtFive (fun _ _ => false) (fun _ call x reply => keepsApart x.store ⟨call, reply⟩)
      twoWithdrawals [1, 2, 3, 4] [(1, 20), (2, 10), (3, 20), (4, 10)]).map (fun pool =>
        (pool.store.store.withdrawals.lookup 1).map CryptoWithdrawal.status) =
      some (some .completed) := by decide +kernel
  obtain ⟨pool, scheduled, completed⟩ := Option.map_eq_some_iff.mp played
  have run : Logged.Run apart (IsRequest smallConfig twoWithdrawals) Unused pool :=
    schedule_run smallBank_unused (fun _ _ _ _ _ keeps makes => ⟨makes, keeps⟩) scheduled
  exact ⟨pool.store.store, completed, settled_once run 1⟩

/-- Pass 4 is told that the transaction is confirmed; before it posts, pass 5 is
told that it was dropped, fails the withdrawal and releases the hold. Pass 4
then finalises it from the user's other locked funds. -/
theorem released_and_finalised : ¬∀ pool : WithdrawalPool,
    Logged.Run interleaved (IsRequest smallConfig twoWithdrawals) Unused pool →
      ∀ id, SettledOnce pool.store.store id := by
  intro settled
  have played : (schedule droppedAtFive (fun _ _ => false) (fun _ _ _ _ => true) twoWithdrawals [1, 2, 3, 4, 5, 6]
      [(1, 20), (6, 20), (2, 10), (3, 20), (4, 3), (5, 10), (4, 10)]).map (fun pool =>
        (settlements pool.store.store 1).length) = some 2 := by decide +kernel
  obtain ⟨pool, scheduled, twice⟩ := Option.map_eq_some_iff.mp played
  have once := (settled pool (schedule_run smallBank_unused (fun _ _ _ _ _ _ makes => makes) scheduled) 1).1
  omega

end Exchange.Withdrawal.Settlement
