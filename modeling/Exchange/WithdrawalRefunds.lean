import Exchange.WithdrawalProgress

/-! Refunds of withdrawals that were broadcast. The broadcast stands inside the
block whose handler fails the row and releases the hold; what comes between the
broadcast and the end of that block is the write that records it. -/
namespace Exchange.Withdrawal.Refunds
open Ledger Service

/-- The hold of a withdrawal that was broadcast is released only after its
transaction was reported as unsuccessful. As the history only grows, the report
is in it when the release is made. -/
def RefundedAfterReport (x : History) : Prop :=
  ∀ pid id signed txHash, (pid, ⟨.broadcast id signed, .ok txHash⟩) ∈ x.history →
    posted x.store REF_RELEASE id → ∃ other status,
      (other, ⟨.getConfirmations txHash, .ok status⟩) ∈ x.history ∧ status.found ∧
        status.success = false

/-- The write that records a broadcast does not throw. -/
def recordsBroadcast : Answered WithdrawalCall WithdrawalCall.Reply Failure → Bool
  | ⟨.update _ (.setBroadcast _), reply⟩ => reply.isOk
  | _ => true

def interleaved (pid : WithdrawalId) (call : WithdrawalCall) (x : History)
    (reply : Except Failure call.Reply) (s' : Store) : Prop :=
  Makes pid call x.store reply s'

def recorded (pid : WithdrawalId) (call : WithdrawalCall) (x : History)
    (reply : Except Failure call.Reply) (s' : Store) : Prop :=
  Makes pid call x.store reply s' ∧ recordsBroadcast ⟨call, reply⟩

/-- A broadcast is recorded in its row, or the request that has claimed the row
is about to record it. -/
def Tracked (x : History) (id : WithdrawalId) (signed : SignedTransaction) (txHash : String) : Prop :=
  ∃ current, x.store.withdrawals.lookup id = some current ∧
    (current.txHash = some txHash ∨ current.status = .signing ∧ ∀ pid row, row.id = id →
      Working row (x.past pid) → (x.past pid).head? = some ⟨.broadcast id signed, .ok txHash⟩)

def Reportable (x : History) (id : WithdrawalId) : Prop :=
  ∀ pid signed txHash, (pid, ⟨.broadcast id signed, .ok txHash⟩) ∈ x.history →
    ∃ other status, (other, ⟨.getConfirmations txHash, .ok status⟩) ∈ x.history ∧ status.found ∧
      status.success = false

structure Tracking (x : History) : Prop where
  sound : Sound x
  records : ∀ pid made, (pid, made) ∈ x.history → recordsBroadcast made
  tracked : ∀ pid id signed txHash, (pid, ⟨.broadcast id signed, .ok txHash⟩) ∈ x.history →
    Tracked x id signed txHash
  decided : ∀ pid row, Decided row (x.past pid) → row.holdTxnId.isSome → Reportable x row.id
  released : ∀ id, posted x.store REF_RELEASE id → Reportable x id

variable {config : Config} {requests : WithdrawalId → Request} {x : History} {pid id : WithdrawalId}
  {call : WithdrawalCall} {reply : Except Failure call.Reply} {s s' : Store} {row : CryptoWithdrawal}
  {past : Past} {signed : SignedTransaction} {txHash : String}

theorem tracking_unused (unused : Unused s) : Tracking ⟨s, []⟩ where
  sound := sound_unused unused
  records := by simp
  tracked := by simp
  decided pid row decided := by cases decided
  released id isReleased := by
    cases (unused.postings REF_RELEASE (by simp) id).symm.trans isReleased

/-- A row in broadcast has no hash yet. -/
theorem Tracked.signing (tracked : Tracked x id signed txHash) (sound : Sound x)
    (working : Working row (x.past pid)) (same : row.id = id) :
    (x.past pid).head? = some ⟨.broadcast id signed, .ok txHash⟩ := by
  obtain ⟨current, found, recorded⟩ := tracked
  obtain ⟨current', found', signing⟩ := sound.working pid row working
  rw [same] at found'
  cases found.symm.trans found'
  rcases recorded with hashed | ⟨-, heads⟩
  · have late := (sound.row id current found).regular.hash (by simp [hashed])
    have early : phase current = 3 := by
      rw [phase_held (held_of_phase (by omega)), signing]
      rfl
    omega
  · exact heads pid row same working

/-- The row of a broadcast cannot be claimed again. -/
theorem Tracked.not_claimed (tracked : Tracked x id signed txHash) (sound : Sound x)
    (claimed : Claimed row (x.past pid)) : row.id ≠ id := by
  intro same
  have head := tracked.signing sound (.claimed claimed) same
  cases isPast : x.past pid with
  | nil => simp [isPast] at head
  | cons made past =>
    rw [isPast] at head claimed
    cases head
    exact claimed.not_sent

private theorem new_event (inv : Tracking x)
    (call' : May config requests pid (x.past pid) (.broadcast id signed)) :
    Tracked ⟨x.store, (pid, ⟨.broadcast id signed, .ok txHash⟩) :: x.history⟩ id signed txHash := by
  obtain ⟨row, rfl, claimed⟩ := call'.broadcasting
  obtain ⟨current, found, signing⟩ := inv.sound.working pid row (.claimed claimed)
  refine ⟨current, found, .inr ⟨signing, fun other row' same working => ?_⟩⟩
  by_cases own : other = pid
  · subst own
    rw [Logged.past_self]
    rfl
  · rw [Logged.past_ne _ own] at working
    exact (own (inv.sound.alone other pid row' row working (.claimed claimed) same)).elim

/-- After a broadcast its request changes the row only to record it. -/
private theorem recording (call' : May config requests pid past call)
    (isPast : past.head? = some ⟨.broadcast id signed, .ok txHash⟩) {change : Change}
    (writes : call = .update id change ∨ call = .updateMany id change)
    (applies : change.update.applies row) (signing : row.status = .signing) :
    (change.update.set row).txHash = some txHash := by
  rcases writes with rfl | rfl
  · cases call' with
    | neutral neutral => cases neutral
    | setHold => cases isPast
    | requestFailed => cases isPast
    | bindingFailed => cases isPast
    | setBroadcast claimed hash =>
      cases isPast
      exact congrArg some hash
  · cases call' with
    | neutral neutral => cases neutral
    | markFailed failing =>
      cases past with
      | nil => cases isPast
      | cons made before =>
        cases isPast
        exact failing.not_sent.elim
    | _ =>
      simp [Change.update, firstApprove, approveSmall, secondApprove, reject, claimForBroadcast,
        setConfirming, markCompleted, signing] at applies

/-- A request that has broadcast is not working on the row after its next call. -/
private theorem unfinished (records : recordsBroadcast ⟨call, reply⟩)
    {current : CryptoWithdrawal} (found : x.store.withdrawals.lookup id = some current)
    (signing : current.status = .signing) (isTarget : row.id = id)
    (heads : Working row (x.past pid) → (x.past pid).head? = some ⟨.broadcast id signed, .ok txHash⟩)
    (effect : Effect pid x.store ⟨call, reply⟩ s')
    (working : Working row (⟨call, reply⟩ :: x.past pid)) : False := by
  rcases working.last with ⟨count, same, effective⟩ | ⟨before, last⟩
  · cases same
    cases effect with
    | @changed _ _ old applies =>
      obtain rfl : old = current := Option.some.inj (applies.found.symm.trans (isTarget ▸ found))
      have possible := applies.applies
      simp [Change.update, claimForBroadcast, signing] at possible
    | missed => exact effective rfl
    | neutral neutral => cases neutral
  · have head := heads before
    generalize x.past pid = past at head working
    cases past with
    | nil => cases head
    | cons made before =>
      cases head
      rcases working.after_sent with ⟨count, same⟩ | ⟨data, failure, same⟩
      · cases same
        rcases last with neutral | ⟨signed, same⟩ | ⟨data, failure, same⟩
        · cases neutral
        · cases same
        · cases same
      · cases same
        cases records

private theorem old_event (inv : Tracking x) (call' : May config requests pid (x.past pid) call)
    (effect : Effect pid x.store ⟨call, reply⟩ s') (records : recordsBroadcast ⟨call, reply⟩)
    (tracked : Tracked x id signed txHash) :
    Tracked ⟨s', (pid, ⟨call, reply⟩) :: x.history⟩ id signed txHash := by
  obtain ⟨current, found, known⟩ := tracked
  obtain ⟨new, found', evolves⟩ := inv.sound.evolves call' effect found
  refine ⟨new, found', ?_⟩
  rcases known with hashed | ⟨signing, heads⟩
  · exact .inl ((evolves.hash (by simp [hashed])).trans hashed)
  rcases inv.sound.origin effect found' with same | ⟨rfl, fresh, -⟩ |
    ⟨change, old, applies, rfl, writes⟩
  · cases found.symm.trans same
    refine .inr ⟨signing, fun other row isTarget working => ?_⟩
    by_cases own : other = pid
    · subst own
      rw [Logged.past_self] at working
      exact (unfinished records found signing isTarget (heads other row isTarget) effect working).elim
    · rw [Logged.past_ne _ own] at working ⊢
      exact heads other row isTarget working
  · cases fresh.symm.trans found
  · cases found.symm.trans applies.found
    have calls := writes.imp (congrArg Answered.call) (congrArg Answered.call)
    obtain ⟨owned, isTarget, working⟩ := inv.sound.unclaimed call' calls applies signing
    exact .inl (recording call' (heads pid owned isTarget working) calls applies.applies signing)

/-- A row that is closed is not broadcast any more. -/
private theorem reportable_step (sound : Sound x) (call' : May config requests pid (x.past pid) call)
    (closed : ∃ current, x.store.withdrawals.lookup id = some current ∧ Closed current)
    (reportable : Reportable x id) : Reportable ⟨s', (pid, ⟨call, reply⟩) :: x.history⟩ id := by
  intro other signed txHash member
  rcases List.mem_cons.mp member with same | member
  · cases same
    obtain ⟨row, rfl, claimed⟩ := call'.broadcasting
    obtain ⟨current, found, -, closed⟩ := closed
    obtain ⟨current', found', signing⟩ := sound.working pid row (.claimed claimed)
    cases found.symm.trans found'
    simp [signing] at closed
  · obtain ⟨reporter, status, member, unsuccessful⟩ := reportable other signed txHash member
    exact ⟨reporter, status, List.mem_cons_of_mem _ member, unsuccessful⟩

/-- A withdrawal is failed before it was broadcast, or after its report. -/
private theorem failing_reportable (inv : Tracking x) (failing : Failing row (x.past pid)) :
    Reportable x row.id := by
  intro other signed txHash member
  have tracked := inv.tracked other row.id signed txHash member
  generalize isPast : x.past pid = past at failing
  cases failing with
  | unsent claimed => exact (tracked.not_claimed inv.sound (isPast ▸ claimed) rfl).elim
  | refused claimed =>
    have sent : Working row (x.past pid) := isPast ▸ .sent claimed
    have head := tracked.signing inv.sound sent rfl
    rw [isPast] at head
    cases head
  | unrecorded claimed =>
    cases inv.records pid _ (Logged.mem_past.mp (isPast ▸ List.mem_cons_self))
  | unsuccessful reported found unsuccessful =>
    obtain ⟨late, -, -, current, isRow, evolves⟩ := inv.sound.reported reported
      fun made member => isPast ▸ member
    cases reported with
    | @report rows reportedHash before listed list hash =>
      have head : (pid, ⟨.getConfirmations reportedHash, .ok _⟩) ∈ x.history :=
        Logged.mem_past.mp (isPast ▸ List.mem_cons_self)
      obtain ⟨current', isRow', known⟩ := tracked
      cases isRow.symm.trans isRow'
      have hashed : current.txHash = some reportedHash := (evolves.hash (by simp [hash])).trans hash
      rcases known with same | ⟨signing, -⟩
      · cases same.symm.trans hashed
        exact ⟨pid, _, head, found, unsuccessful⟩
      · have forward := evolves.forward
        have isHeld : current.holdTxnId.isSome := held_of_phase (by omega)
        rw [phase_held isHeld, signing] at forward
        simp [rank] at forward
        omega

/-- A withdrawal that can be rejected was not broadcast. -/
private theorem rejected_reportable (inv : Tracking x) {adminId : AdminId} {reason : String}
    (applies : Applies x.store id (.reject adminId reason) row) : Reportable x id := by
  intro other signed txHash member
  obtain ⟨current, found, known⟩ := inv.tracked other id signed txHash member
  cases found.symm.trans applies.found
  have possible := applies.applies
  simp only [Change.update, reject, List.mem_cons, List.not_mem_nil, or_false,
    decide_eq_true_eq] at possible
  rcases known with hashed | ⟨signing, -⟩
  · have late := (inv.sound.row id row found).regular.hash (by simp [hashed])
    rw [phase_held (held_of_phase (by omega))] at late
    rcases possible with isStatus | isStatus | isStatus | isStatus | isStatus <;>
      simp [isStatus, rank] at late
  · simp [signing] at possible

private theorem decided_step (inv : Tracking x) (call' : May config requests pid (x.past pid) call)
    (effect : Effect pid x.store ⟨call, reply⟩ s') (other : WithdrawalId)
    (decided : Decided row ((⟨s', (pid, ⟨call, reply⟩) :: x.history⟩ : History).past other))
    (held : row.holdTxnId.isSome) :
    Reportable ⟨s', (pid, ⟨call, reply⟩) :: x.history⟩ row.id := by
  by_cases own : other = pid
  · subst own
    rw [Logged.past_self] at decided
    change Decided row (⟨call, reply⟩ :: x.past other) at decided
    -- the call that decides the row is no broadcast
    have kept (now : Reportable x row.id) (quiet : ∀ id signed, call ≠ .broadcast id signed) :
        Reportable ⟨s', (other, ⟨call, reply⟩) :: x.history⟩ row.id := by
      intro broadcaster signed txHash member
      rcases List.mem_cons.mp member with same | member
      · cases same
        exact (quiet _ _ rfl).elim
      · obtain ⟨reporter, status, member, unsuccessful⟩ := now broadcaster signed txHash member
        exact ⟨reporter, status, List.mem_cons_of_mem _ member, unsuccessful⟩
    generalize isPast : x.past other = past at decided
    cases decided with
    | failed failing => exact kept (failing_reportable inv (isPast ▸ failing)) (by simp)
    | @rejected id adminId reason count effective =>
      refine kept ?_ (by simp)
      have member := Logged.mem_past.mp (isPast ▸ List.mem_singleton_self _)
      obtain rfl : row.id = id := inv.sound.truthful other _ member
      cases effect with
      | changed applies => exact rejected_reportable inv applies
      | missed => exact (effective rfl).elim
      | neutral neutral => cases neutral
  · rw [Logged.past_ne _ own] at decided
    exact reportable_step inv.sound call' (inv.sound.decided other row decided held)
      (inv.decided other row decided held)

private theorem released_step (inv : Tracking x) (call' : May config requests pid (x.past pid) call)
    (effect : Effect pid x.store ⟨call, reply⟩ s') (isReleased : posted s' REF_RELEASE id) :
    Reportable ⟨s', (pid, ⟨call, reply⟩) :: x.history⟩ id := by
  rcases (effect.posted_iff _ _).mp isReleased with before | ⟨input, txn, made, isRelease, isTarget⟩
  · exact reportable_step inv.sound call' (inv.sound.released id before) (inv.released id before)
  · cases made
    obtain ⟨row, rfl, decided, held⟩ := call'.releasing isRelease isTarget
    exact reportable_step inv.sound call' (inv.sound.decided pid row decided held)
      (inv.decided pid row decided held)

theorem tracking_step (inv : Tracking x) (call' : May config requests pid (x.past pid) call)
    (made : recorded pid call x reply s') : Tracking ⟨s', (pid, ⟨call, reply⟩) :: x.history⟩ := by
  obtain ⟨makes, records⟩ := made
  have effect := call'.effect makes
  refine ⟨sound_step inv.sound call' makes, ?_, ?_,
    fun other row decided held => decided_step inv call' effect other decided held,
    fun id isReleased => released_step inv call' effect isReleased⟩
  · rintro other made member
    rcases List.mem_cons.mp member with same | member
    · cases same
      exact records
    · exact inv.records other made member
  · rintro other id signed txHash member
    rcases List.mem_cons.mp member with same | member
    · cases same
      obtain rfl := makes.broadcast
      exact new_event inv call'
    · exact old_event inv call' effect records (inv.tracked other id signed txHash member)

/-- In every run whose writes of broadcasts go through, broadcast money is
refunded only after the transaction was reported as unsuccessful. -/
theorem refunded_after_report {pool : WithdrawalPool}
    (run : Logged.Run recorded (IsRequest config requests) Unused pool) :
    RefundedAfterReport pool.store := by
  have inv : Tracking pool.store :=
    run.inv (fun _ _ isRequest => isRequest_obeys isRequest) (fun _ => tracking_unused)
      fun _ _ _ _ _ inv call' => tracking_step inv call'.1
  exact fun pid id signed txHash member isReleased => inv.released id isReleased pid signed txHash member

private def broadcastOne : WithdrawalId → Request
  | 1 => .requestWithdrawal 1 tenUsdt
  | 2 => .approve 1 (some 7)
  | _ => .withdrawalCycle

/-- A transaction is dropped and its withdrawal refunded. -/
theorem refunded_after_report_dropped : ∃ x : History, posted x.store REF_RELEASE 1 ∧
    RefundedAfterReport x := by
  have played : (schedule (fun _ => mockSigner ⟨true, 0, false⟩) (fun _ _ => false)
      (fun _ call _ reply => recordsBroadcast ⟨call, reply⟩) broadcastOne [1, 2, 3]
      [(1, 20), (2, 10), (3, 30)]).map (fun pool => posted pool.store.store REF_RELEASE 1) =
      some true := by decide +kernel
  obtain ⟨pool, scheduled, isReleased⟩ := Option.map_eq_some_iff.mp played
  have run : Logged.Run recorded (IsRequest smallConfig broadcastOne) Unused pool :=
    schedule_run smallBank_unused (fun _ _ _ _ _ records makes => ⟨makes, records⟩) scheduled
  exact ⟨pool.store, isReleased, refunded_after_report run⟩

private def losesRecord (_ : WithdrawalId) : WithdrawalCall → Bool
  | .update _ (.setBroadcast _) => true
  | _ => false

private def isReport (made : WithdrawalId × Answered WithdrawalCall WithdrawalCall.Reply Failure) : Bool :=
  match made with
  | (_, ⟨.getConfirmations _, _⟩) => true
  | _ => false

private def isSent (made : WithdrawalId × Answered WithdrawalCall WithdrawalCall.Reply Failure) : Bool :=
  match made with
  | (_, ⟨.broadcast id _, .ok _⟩) => id = 1
  | _ => false

/-- The connection is lost when the broadcast is recorded: the handler fails the
row and releases the hold. -/
theorem refunded_unreported : ¬∀ pool : WithdrawalPool,
    Logged.Run interleaved (IsRequest smallConfig broadcastOne) Unused pool →
      RefundedAfterReport pool.store := by
  intro refunded
  have played : (schedule (fun _ => mockSigner ⟨true, 20, true⟩) losesRecord (fun _ _ _ _ => true)
      broadcastOne [1, 2, 3] [(1, 20), (2, 10), (3, 30)]).map (fun pool =>
        (posted pool.store.store REF_RELEASE 1, pool.store.history.any isReport,
          pool.store.history.any isSent)) = some (true, false, true) := by decide +kernel
  obtain ⟨pool, scheduled, facts⟩ := Option.map_eq_some_iff.mp played
  simp only [Prod.mk.injEq] at facts
  obtain ⟨isReleased, unreported, sent⟩ := facts
  obtain ⟨made, member, isBroadcast⟩ := List.any_eq_true.mp sent
  simp only [isSent] at isBroadcast
  split at isBroadcast
  · rename_i pid id signed txHash
    obtain rfl := of_decide_eq_true isBroadcast
    obtain ⟨reporter, status, report, -⟩ := refunded pool
      (schedule_run smallBank_unused (fun _ _ _ _ _ _ makes => makes) scheduled) pid _ signed txHash member isReleased
    exact List.any_eq_false.mp unreported _ report rfl
  · cases isBroadcast

end Exchange.Withdrawal.Refunds
