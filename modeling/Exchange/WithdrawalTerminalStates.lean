import Exchange.WithdrawalProgress

/-! Terminal states of withdrawals: a withdrawal that is REJECTED, FAILED or
COMPLETED stays so, and its hold goes back to the user unless it was paid out.
The row can be rejected from its creation on, while the request that created it
still places the hold and then writes the row without looking at it. -/
namespace Exchange.Withdrawal.TerminalStates
open Ledger Service

/-- A withdrawal in a terminal state keeps it. -/
def Absorbed (s s' : Store) : Prop :=
  ∀ id row, s.withdrawals.lookup id = some row →
    row.status ∈ [WithdrawalStatus.rejected, .failed, .completed] →
      ∃ row', s'.withdrawals.lookup id = some row' ∧ row'.status = row.status

/-- A hold that was placed for a rejected or failed withdrawal was released. -/
def Released (s : Store) : Prop :=
  ∀ id row, s.withdrawals.lookup id = some row → row.status ∈ [WithdrawalStatus.rejected, .failed] →
    posted s REF_HOLD id → posted s REF_RELEASE id

def isRequested (s : Store) (id : WithdrawalId) : Bool :=
  (s.withdrawals.lookup id).all fun row => row.status = .requested

/-- A hold is placed and bound, or fails its row, while the row is REQUESTED;
a rejection knows of the hold that was placed; releases do not throw. -/
def undisturbed (x : History) (pid : WithdrawalId) :
    Answered WithdrawalCall WithdrawalCall.Reply Failure → Bool
  | ⟨.post input, reply⟩ =>
    if input.referenceType = some REF_RELEASE then reply.isOk
    else input.referenceType ≠ some REF_HOLD || !reply.isOk || input.referenceId.all (isRequested x.store)
  | ⟨.update _ (.setBroadcast _), _⟩ => true
  | ⟨.update id _, .ok _⟩ => isRequested x.store id
  | ⟨.updateMany id (.reject _ _), .ok count⟩ => count = 0 || !posted x.store REF_HOLD id ||
      (x.past pid).all fun made => (shown made).all fun row => row.holdTxnId.isSome
  | _ => true

def interleaved (pid : WithdrawalId) (call : WithdrawalCall) (x : History)
    (reply : Except Failure call.Reply) (s' : Store) : Prop :=
  Makes pid call x.store reply s'

def orderly (pid : WithdrawalId) (call : WithdrawalCall) (x : History)
    (reply : Except Failure call.Reply) (s' : Store) : Prop :=
  Makes pid call x.store reply s' ∧ undisturbed x pid ⟨call, reply⟩

/-- A request is about to release the hold. -/
def Releasing (x : History) (id : WithdrawalId) : Prop :=
  ∃ pid row, row.id = id ∧ Decided row (x.past pid) ∧ row.holdTxnId.isSome

structure Settling (x : History) : Prop where
  sound : Sound x
  placed : ∀ id, posted x.store REF_HOLD id → ∃ input txn,
    ⟨.post input, .ok txn⟩ ∈ x.past id ∧ input.referenceType = some REF_HOLD
  released : ∀ id row, x.store.withdrawals.lookup id = some row →
    row.status ∈ [WithdrawalStatus.rejected, .failed] → posted x.store REF_HOLD id →
      posted x.store REF_RELEASE id ∨ Releasing x id

variable {config : Config} {requests : WithdrawalId → Request} {x : History} {pid id : WithdrawalId}
  {call : WithdrawalCall} {reply : Except Failure call.Reply} {s s' : Store} {row : CryptoWithdrawal}
  {past : Past}

theorem settling_unused (unused : Unused s) : Settling ⟨s, []⟩ where
  sound := sound_unused unused
  placed id isPosted := by
    cases (unused.postings REF_HOLD (by simp) id).symm.trans isPosted
  released id row found := by
    rw [unused.withdrawals, AList.lookup_empty] at found
    cases found

/-! ## Terminal states -/

theorem absorbed_refl (s : Store) : Absorbed s s := fun _ row found _ => ⟨row, found, rfl⟩

theorem Absorbed.trans {a b c : Store} (first : Absorbed a b) (second : Absorbed b c) :
    Absorbed a c := by
  intro id row found terminal
  obtain ⟨row', found', same⟩ := first id row found terminal
  obtain ⟨row'', found'', same'⟩ := second id row' found' (same ▸ terminal)
  exact ⟨row'', found'', same'.trans same⟩

/-- Without a hold, only the request itself changes a terminal row. -/
theorem terminal_changed {change : Change} (timely : Timely change row)
    (applies : change.update.applies row)
    (terminal : row.status ∈ [WithdrawalStatus.rejected, .failed, .completed]) :
    (∃ holdTxnId, change = .setHold holdTxnId) ∨ ∃ reason, change = .markRequestFailed reason := by
  simp only [List.mem_cons, List.not_mem_nil, or_false] at terminal
  cases change with
  | setHold holdTxnId => exact .inl ⟨holdTxnId, rfl⟩
  | markRequestFailed reason => exact .inr ⟨reason, rfl⟩
  | setBroadcast data =>
    rcases terminal with isStatus | isStatus | isStatus <;> cases isStatus.symm.trans timely
  | _ =>
    rcases terminal with isStatus | isStatus | isStatus <;>
      simp [Change.update, firstApprove, approveSmall, secondApprove, reject, claimForBroadcast,
        setConfirming, markCompleted, markFailed, isStatus] at applies

theorem absorbed_step (sound : Sound x) (call' : May config requests pid (x.past pid) call)
    (effect : Effect pid x.store ⟨call, reply⟩ s') (calm : undisturbed x pid ⟨call, reply⟩) :
    Absorbed x.store s' := by
  intro id row found terminal
  obtain ⟨new, found', -⟩ := sound.evolves call' effect found
  refine ⟨new, found', ?_⟩
  rcases sound.origin effect found' with same | ⟨rfl, fresh, -⟩ | ⟨change, old, applies, rfl, writes⟩
  · cases same.symm.trans found
    rfl
  · cases fresh.symm.trans found
  · cases found.symm.trans applies.found
    have calls := writes.imp (congrArg Answered.call) (congrArg Answered.call)
    -- the row was REQUESTED, which is not terminal
    have early : isRequested x.store id := by
      rcases terminal_changed (sound.timely call' calls applies) applies.applies
        terminal with ⟨_, rfl⟩ | ⟨_, rfl⟩ <;> rcases writes with made | made <;> cases made
      · exact calm
      · cases call'.isGuarded
      · exact calm
      · cases call'.isGuarded
    simp only [isRequested, found, Option.all_some, decide_eq_true_eq] at early
    simp [early] at terminal

/-! ## Released holds -/

theorem placed_step (inv : Settling x) (call' : May config requests pid (x.past pid) call)
    (effect : Effect pid x.store ⟨call, reply⟩ s') (isPosted : posted s' REF_HOLD id) :
    ∃ input txn, ⟨.post input, .ok txn⟩ ∈
        (⟨s', (pid, ⟨call, reply⟩) :: x.history⟩ : History).past id ∧
      input.referenceType = some REF_HOLD := by
  rcases (effect.posted_iff _ _).mp isPosted with before | ⟨input, txn, made, isHold, isTarget⟩
  · obtain ⟨input, txn, member, isHold⟩ := inv.placed id before
    exact ⟨input, txn, Logged.mem_past.mpr (List.mem_cons_of_mem _ (Logged.mem_past.mp member)), isHold⟩
  · cases made
    obtain ⟨row, rfl, created⟩ := call'.placing isHold isTarget
    rw [inv.sound.created created fun _ member => member, Logged.past_self]
    exact ⟨input, txn, List.mem_cons_self, isHold⟩

/-- A request that is about to release a hold does so. -/
theorem releasing_step (sound : Sound x) (call' : may config requests pid (x.past pid) call)
    (effect : Effect pid x.store ⟨call, reply⟩ s') (calm : undisturbed x pid ⟨call, reply⟩)
    (releasing : Releasing x id) :
    posted s' REF_RELEASE id ∨ Releasing ⟨s', (pid, ⟨call, reply⟩) :: x.history⟩ id := by
  obtain ⟨other, row, rfl, decided, held⟩ := releasing
  by_cases own : other = pid
  · subst own
    left
    obtain ⟨row', decided', -, rfl⟩ := call'.2.resolve_left (sound.busy decided held)
    obtain ⟨txn, rfl⟩ : ∃ txn, reply = .ok txn := by
      cases reply with
      | ok txn => exact ⟨txn, rfl⟩
      | error failure => cases calm
    refine (effect.posted_iff _ _).mpr (.inr ⟨_, txn, rfl, rfl, ?_⟩)
    exact congrArg some (decided.same decided')
  · exact .inr ⟨other, row, rfl, by rwa [Logged.past_ne _ own], held⟩

/-- What closes a row. -/
theorem closed_by {change : Change} (applies : change.update.applies row)
    (closed : (change.update.set row).status ∈ [WithdrawalStatus.rejected, .failed]) :
    (∃ adminId reason, change = .reject adminId reason) ∨
      (∃ reason, change = .markRequestFailed reason) ∨ ∃ reason, change = .markFailed reason := by
  cases change with
  | firstApprove adminId =>
    have isStatus : row.status = .pendingApproval := by
      simp [Change.update, firstApprove] at applies
      exact applies.1
    simp [Change.update, firstApprove, isStatus] at closed
  | reject adminId reason => simp
  | markRequestFailed reason => simp
  | markFailed reason => simp
  | _ =>
    simp [Change.update, setHold, approveSmall, secondApprove, claimForBroadcast, setBroadcast,
      setConfirming, markCompleted] at closed

/-- A request fails its own row only when it has placed no hold. -/
theorem Settling.unplaced (inv : Settling x) {reason : String}
    (call' : May config requests pid (x.past pid) (.update id (.markRequestFailed reason))) :
    posted x.store REF_HOLD id = false := by
  by_contra isPlaced
  obtain ⟨input, txn, member, -⟩ := inv.placed id (by simpa using isPlaced)
  generalize isPast : x.past pid = past at call'
  cases call' with
  | neutral neutral => cases neutral
  | requestFailed created =>
    have own := inv.sound.created created fun made member => by
      rw [isPast]
      exact List.mem_cons_of_mem _ member
    rw [own, isPast] at member
    rcases List.mem_cons.mp member with same | member
    · cases same
    · cases created with
      | create neutral =>
        rcases List.mem_cons.mp member with same | member
        · cases same
        · cases neutral _ member
  | bindingFailed conflict =>
    have truthful := inv.sound.truthful pid _ (Logged.mem_past.mp (isPast ▸ List.mem_cons_self))
    cases conflict.symm.trans truthful

/-- A row that is closed now will have its hold released. -/
theorem closing_step (inv : Settling x) (call' : May config requests pid (x.past pid) call)
    (calm : undisturbed x pid ⟨call, reply⟩) {change : Change}
    (applies : Applies x.store id change row)
    (writes : (⟨call, reply⟩ : Answered WithdrawalCall WithdrawalCall.Reply Failure) =
        ⟨.update id change, .ok (change.update.set row)⟩ ∨
      (⟨call, reply⟩ : Answered WithdrawalCall WithdrawalCall.Reply Failure) =
        ⟨.updateMany id change, .ok 1⟩)
    (closed : (change.update.set row).status ∈ [WithdrawalStatus.rejected, .failed])
    (isPlaced : posted x.store REF_HOLD id) :
    Releasing ⟨s', (pid, ⟨call, reply⟩) :: x.history⟩ id := by
  have mine : (⟨s', (pid, ⟨call, reply⟩) :: x.history⟩ : History).past pid =
    ⟨call, reply⟩ :: x.past pid := Logged.past_self ..
  rcases closed_by applies.applies closed with ⟨adminId, reason, rfl⟩ | ⟨reason, rfl⟩ | ⟨reason, rfl⟩
  · rcases writes with made | made <;> cases made
    · cases call'.isBlind
    · generalize isPast : x.past pid = past at call' mine
      cases call' with
      | neutral neutral => cases neutral
      | @reject _ _ _ listed request =>
        have member := Logged.mem_past.mp (isPast ▸ List.mem_singleton_self _)
        refine ⟨pid, listed, inv.sound.truthful pid _ member, ?_, ?_⟩
        · rw [mine]
          exact .rejected one_ne_zero
        · simpa [undisturbed, isPlaced, isPast, shown] using calm
  · rcases writes with made | made <;> cases made
    · cases (inv.unplaced call').symm.trans isPlaced
    · cases call'.isGuarded
  · rcases writes with made | made <;> cases made
    · cases call'.isBlind
    · generalize isPast : x.past pid = past at call' mine
      cases call' with
      | neutral neutral => cases neutral
      | @markFailed failed _ _ failing =>
        refine ⟨pid, failed, rfl, ?_, (inv.sound.failing failing fun _ member => isPast ▸ member).1⟩
        rw [mine]
        exact .failed failing one_ne_zero

theorem released_step (inv : Settling x) (call' : may config requests pid (x.past pid) call)
    (effect : Effect pid x.store ⟨call, reply⟩ s') (calm : undisturbed x pid ⟨call, reply⟩)
    (found : s'.withdrawals.lookup id = some row)
    (closed : row.status ∈ [WithdrawalStatus.rejected, .failed]) (isPlaced : posted s' REF_HOLD id) :
    posted s' REF_RELEASE id ∨ Releasing ⟨s', (pid, ⟨call, reply⟩) :: x.history⟩ id := by
  have later (now : posted x.store REF_RELEASE id ∨ Releasing x id) :
      posted s' REF_RELEASE id ∨ Releasing ⟨s', (pid, ⟨call, reply⟩) :: x.history⟩ id := by
    rcases now with isReleased | releasing
    · exact .inl ((effect.posted_iff _ _).mpr (.inl isReleased))
    · exact releasing_step inv.sound call' effect calm releasing
  rcases (effect.posted_iff _ _).mp isPlaced with before | ⟨input, txn, made, isHold, isTarget⟩
  · rcases inv.sound.origin effect found with same | ⟨rfl, -, now, data, rfl, -⟩ |
      ⟨change, old, applies, rfl, writes⟩
    · exact later (inv.released id row same closed before)
    · simp [newRow] at closed
    · exact .inr (closing_step inv call'.1 calm applies writes closed before)
  · cases made
    rcases inv.sound.origin effect found with same | ⟨rfl, -, now, data, -, made⟩ |
      ⟨change, old, applies, -, made | made⟩
    · simp [undisturbed, isHold, REF_HOLD, REF_RELEASE, isTarget, isRequested, same, Except.isOk,
        Except.toBool] at calm
      simp [calm] at closed
    · cases made
    · cases made
    · cases made

theorem settling_step (inv : Settling x) (call' : may config requests pid (x.past pid) call)
    (made : orderly pid call x reply s') : Settling ⟨s', (pid, ⟨call, reply⟩) :: x.history⟩ := by
  obtain ⟨makes, calm⟩ := made
  have effect := call'.1.effect makes
  exact ⟨sound_step inv.sound call'.1 makes, fun id isPosted => placed_step inv call'.1 effect isPosted,
    fun id row found closed isPlaced => released_step inv call' effect calm found closed isPlaced⟩

variable {pool pool' : WithdrawalPool}

theorem run_settling (run : Logged.Run orderly (IsRequest config requests) Unused pool) :
    Settling pool.store :=
  run.inv (fun _ _ isRequest => isRequest_obeys isRequest) (fun _ => settling_unused)
    fun _ _ _ _ _ inv call' => settling_step inv call'

theorem run_absorbed (run : Logged.Run orderly (IsRequest config requests) Unused pool)
    (later : Relation.ReflTransGen (Pool.Step (Logged.protocol orderly) (IsRequest config requests))
      pool pool') : Absorbed pool.store.store pool'.store.store := by
  induction later with
  | refl => exact absorbed_refl _
  | @tail mid last before step ih =>
    have reached : Logged.Run orderly (IsRequest config requests) Unused mid := run.steps before
    refine ih.trans ?_
    rcases (run_orderly reached).made step with
      same | ⟨pid, call, reply, s', call', ⟨makes, calm⟩, grown⟩
    · rw [same]
      exact absorbed_refl _
    · rw [grown]
      exact absorbed_step (run_settling reached).sound call'.1 (call'.1.effect makes) calm

/-- In every run in which requests find their rows as they left them, terminal
withdrawals keep their status; and when no request is in flight, the holds of
rejected and failed ones were released. -/
theorem terminal_settled (run : Logged.Run orderly (IsRequest config requests) Unused pool)
    (later : Relation.ReflTransGen (Pool.Step (Logged.protocol orderly) (IsRequest config requests))
      pool pool') :
    Absorbed pool.store.store pool'.store.store ∧ (pool'.Quiet → Released pool'.store.store) := by
  refine ⟨run_absorbed run later, fun quiet id row found closed isPlaced => ?_⟩
  have reached : Logged.Run orderly (IsRequest config requests) Unused pool' := run.steps later
  have inv := run_settling reached
  refine (inv.released id row found closed isPlaced).resolve_right ?_
  rintro ⟨pid, decided, -, isDecided, held⟩
  exact inv.sound.busy isDecided held (run_quiet reached quiet pid)

private def rejected : WithdrawalId → Request
  | 1 => .requestWithdrawal 1 tenUsdt
  | _ => .reject 1 "suspicious" (some 7)

/-- Withdrawal 1 is rejected after its hold was bound. -/
theorem terminal_settled_rejected : ∃ s : Store,
    (s.withdrawals.lookup 1).map CryptoWithdrawal.status = some .rejected ∧
      posted s REF_HOLD 1 ∧ Released s := by
  have played : (schedule (fun _ => mockSigner ⟨true, 20, true⟩) (fun _ _ => false)
      (fun pid call x reply => undisturbed x pid ⟨call, reply⟩) rejected [1, 2] [(1, 20), (2, 10)]).map
        (fun pool => ((pool.store.store.withdrawals.lookup 1).map CryptoWithdrawal.status,
          posted pool.store.store REF_HOLD 1, pool.isQuiet)) =
      some (some .rejected, true, true) := by decide +kernel
  obtain ⟨pool, scheduled, ended⟩ := Option.map_eq_some_iff.mp played
  simp only [Prod.mk.injEq] at ended
  obtain ⟨isRejected, isPlaced, isQuiet⟩ := ended
  have run : Logged.Run orderly (IsRequest smallConfig rejected) Unused pool :=
    schedule_run smallBank_unused (fun _ _ _ _ _ calm makes => ⟨makes, calm⟩) scheduled
  exact ⟨pool.store.store, isRejected, isPlaced,
    (terminal_settled run .refl).2 (Pool.quiet_of_isQuiet isQuiet)⟩

/-- An admin rejects the row before its hold is bound; the request then places
the hold and moves the row to PENDING_APPROVAL. -/
theorem rejected_then_pending : ¬∀ pool pool' : WithdrawalPool,
    Logged.Run interleaved (IsRequest smallConfig rejected) Unused pool →
      Relation.ReflTransGen (Pool.Step (Logged.protocol interleaved) (IsRequest smallConfig rejected))
        pool pool' → Absorbed pool.store.store pool'.store.store := by
  intro absorbing
  have played : ((schedule (fun _ => mockSigner ⟨true, 20, true⟩) (fun _ _ => false)
      (fun _ _ _ _ => true) rejected [1, 2] [(1, 9), (2, 10)]).bind fun pool =>
        (Logged.schedule (act (fun _ => mockSigner ⟨true, 20, true⟩) fun _ _ => false)
          (fun _ _ _ _ => true) (fun pid => (rejected pid).program smallConfig) [] [(1, 10)] pool).map
          fun pool' => ((pool.store.store.withdrawals.lookup 1).map CryptoWithdrawal.status,
            (pool'.store.store.withdrawals.lookup 1).map CryptoWithdrawal.status)) =
      some (some .rejected, some .pendingApproval) := by decide +kernel
  obtain ⟨pool, first, rest⟩ := Option.bind_eq_some_iff.mp played
  obtain ⟨pool', second, statuses⟩ := Option.map_eq_some_iff.mp rest
  have run : Logged.Run interleaved (IsRequest smallConfig rejected) Unused pool :=
    schedule_run smallBank_unused (fun _ _ _ _ _ _ makes => makes) first
  have later : Relation.ReflTransGen (Pool.Step (Logged.protocol interleaved)
      (IsRequest smallConfig rejected)) pool pool' :=
    proceed_steps (fun _ _ _ _ _ _ makes => makes) second
  simp only [Prod.mk.injEq, Option.map_eq_some_iff] at statuses
  obtain ⟨⟨row, before, isRejected⟩, row', after, isPending⟩ := statuses
  obtain ⟨found, isFound, same⟩ := absorbing pool pool' run later 1 row before (by simp [isRejected])
  cases after.symm.trans isFound
  rw [isRejected, isPending] at same
  cases same

end Exchange.Withdrawal.TerminalStates
