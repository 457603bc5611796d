import Exchange.WithdrawalProgress

/-! Dual control of large withdrawals: a withdrawal at or above the threshold is
approved by two admins. The first approver is kept in a column that a rejection
writes too, and a rejection of a row that is still REQUESTED is undone when the
hold is bound. -/
namespace Exchange.Withdrawal.Approvals
open Ledger Service

/-- An admin has called `approve` on the withdrawal. -/
def Approver (requests : WithdrawalId → Request) (x : History) (id : WithdrawalId)
    (adminId : AdminId) : Prop :=
  ∃ pid made, requests pid = .approve id (some adminId) ∧ (pid, made) ∈ x.history

/-- APPROVED and the states after it. -/
def approvedStates : List WithdrawalStatus :=
  [.approved, .queued, .signing, .broadcast, .confirming, .completed]

/-- Two admins have approved every large withdrawal that is approved. -/
def DualControl (config : Config) (requests : WithdrawalId → Request) (x : History) : Prop :=
  ∀ id row, x.store.withdrawals.lookup id = some row → isLarge config row →
    row.status ∈ approvedStates → ∃ first second, first ≠ second ∧
      Approver requests x id first ∧ Approver requests x id second

/-- A hold is bound to a row that is REQUESTED, not to a rejected one. -/
def bindsRequested (s : Store) : Answered WithdrawalCall WithdrawalCall.Reply Failure → Bool
  | ⟨.update id (.setHold _), .ok _⟩ =>
    (s.withdrawals.lookup id).all fun row => row.status = .requested
  | _ => true

def interleaved (pid : WithdrawalId) (call : WithdrawalCall) (x : History)
    (reply : Except Failure call.Reply) (s' : Store) : Prop :=
  Makes pid call x.store reply s'

def unrevived (pid : WithdrawalId) (call : WithdrawalCall) (x : History)
    (reply : Except Failure call.Reply) (s' : Store) : Prop :=
  Makes pid call x.store reply s' ∧ bindsRequested x.store ⟨call, reply⟩

/-- How far a large row is approved. -/
structure Approved (requests : WithdrawalId → Request) (x : History) (id : WithdrawalId)
    (row : CryptoWithdrawal) : Prop where
  requested : row.status = .requested → row.approvedBy = none
  pending : row.status = .pendingApproval → ∀ adminId, row.approvedBy = some adminId →
    Approver requests x id adminId
  approved : row.status ∈ approvedStates → ∃ first second, first ≠ second ∧
    Approver requests x id first ∧ Approver requests x id second

structure Controlled (config : Config) (requests : WithdrawalId → Request) (x : History) : Prop where
  sound : Sound x
  approved : ∀ id row, x.store.withdrawals.lookup id = some row → isLarge config row →
    Approved requests x id row

variable {config : Config} {requests : WithdrawalId → Request} {x : History} {pid id : WithdrawalId}
  {call : WithdrawalCall} {reply : Except Failure call.Reply} {s s' : Store}
  {row : CryptoWithdrawal} {change : Change} {past : Past}

theorem controlled_unused (unused : Unused s) : Controlled config requests ⟨s, []⟩ where
  sound := sound_unused unused
  approved id row found := by
    rw [unused.withdrawals, AList.lookup_empty] at found
    cases found

theorem Approver.later {adminId : AdminId} (approver : Approver requests x id adminId)
    (s' : Store) (made : WithdrawalId × Answered WithdrawalCall WithdrawalCall.Reply Failure) :
    Approver requests ⟨s', made :: x.history⟩ id adminId := by
  obtain ⟨pid, earlier, request, member⟩ := approver
  exact ⟨pid, earlier, request, List.mem_cons_of_mem _ member⟩

theorem Approved.later (approved : Approved requests x id row) (s' : Store)
    (made : WithdrawalId × Answered WithdrawalCall WithdrawalCall.Reply Failure) :
    Approved requests ⟨s', made :: x.history⟩ id row where
  requested := approved.requested
  pending isPending adminId isFirst := (approved.pending isPending adminId isFirst).later s' made
  approved isApproved := by
    obtain ⟨first, second, other, isFirst, isSecond⟩ := approved.approved isApproved
    exact ⟨first, second, other, isFirst.later s' made, isSecond.later s' made⟩

/-- A withdrawal is as large as when it was read. -/
theorem isLarge_read (sound : Sound x) {read : CryptoWithdrawal}
    (found : ⟨.findById id, .ok (some read)⟩ ∈ x.past pid)
    (current : x.store.withdrawals.lookup id = some row) : isLarge config row = isLarge config read := by
  have member := Logged.mem_past.mp found
  obtain ⟨-, now, isNow, evolves⟩ := sound.snapshot pid _ member read (List.mem_singleton_self read)
  rw [show read.id = id from sound.truthful pid _ member, current] at isNow
  cases isNow
  have same := congrArg (fun fixed => fixed.2.2.2.1.1) evolves.same
  simp only [identity] at same
  rw [isLarge, same, isLarge]

/-- The admins who approve. -/
theorem approver_may (call' : May config requests pid past (.updateMany id change)) :
    (∀ adminId, change = .firstApprove adminId → requests pid = .approve id (some adminId)) ∧
    (∀ first second, change = .secondApprove first second →
      first ≠ second ∧ requests pid = .approve id (some second)) ∧
    ∀ adminId, change = .approveSmall adminId → ∃ read,
      ⟨.findById id, .ok (some read)⟩ ∈ past ∧ isLarge config read = false := by
  cases call' with
  | neutral neutral => cases neutral
  | firstApprove request => simpa using request
  | secondApprove request different => simpa using ⟨different, request⟩
  | approveSmall request found small => simpa using ⟨_, found, small⟩
  | _ => simp

/-- Approvals and changes of a large row, by what was changed. -/
private theorem approved_set (inv : Controlled config requests x)
    (call' : May config requests pid (x.past pid) call) (binds : bindsRequested x.store ⟨call, reply⟩)
    (applies : Applies x.store id change row) (large : isLarge config row)
    (writes : (⟨call, reply⟩ : Answered WithdrawalCall WithdrawalCall.Reply Failure) =
        ⟨.update id change, .ok (change.update.set row)⟩ ∨
      (⟨call, reply⟩ : Answered WithdrawalCall WithdrawalCall.Reply Failure) =
        ⟨.updateMany id change, .ok 1⟩) :
    Approved requests ⟨s', (pid, ⟨call, reply⟩) :: x.history⟩ id (change.update.set row) := by
  have before := (inv.approved id row applies.found large).later s' (pid, ⟨call, reply⟩)
  have possible := applies.applies
  have timely := inv.sound.timely call'
    (writes.imp (congrArg Answered.call) (congrArg Answered.call)) applies
  have calling {adminId : AdminId} (request : requests pid = .approve id (some adminId)) :
      Approver requests ⟨s', (pid, ⟨call, reply⟩) :: x.history⟩ id adminId :=
    ⟨pid, _, request, List.mem_cons_self⟩
  -- of the blind changes, only binding the hold matters
  by_cases isBlind : change.isBlind
  · cases change with
    | setHold holdTxnId =>
      rcases writes with made | made <;> cases made
      · have requested : row.status = .requested := by
          simpa [bindsRequested, applies.found] using binds
        have unapproved := before.requested requested
        refine ⟨fun _ => unapproved, fun _ adminId isFirst => ?_, by simp [Change.update, setHold, approvedStates]⟩
        cases unapproved.symm.trans isFirst
      · cases call'.isGuarded
    | markRequestFailed reason =>
      exact ⟨by simp [Change.update, markRequestFailed], by simp [Change.update, markRequestFailed],
        by simp [Change.update, markRequestFailed, approvedStates]⟩
    | setBroadcast data =>
      have signing : row.status = .signing := timely
      exact ⟨by simp [Change.update, setBroadcast], by simp [Change.update, setBroadcast],
        fun _ => before.approved (by simp [signing, approvedStates])⟩
    | _ => cases isBlind
  · obtain rfl : call = .updateMany id change := by
      rcases writes with made | made <;> cases made
      · exact (isBlind call'.isBlind).elim
      · rfl
    obtain ⟨isFirst, isSecond, isSmall⟩ := approver_may call'
    cases change with
    | firstApprove adminId =>
      simp [Change.update, firstApprove] at possible
      refine ⟨fun isRequested => ?_, fun _ other same => ?_, fun isApproved => ?_⟩
      · cases possible.1.symm.trans isRequested
      · cases same
        exact calling (isFirst adminId rfl)
      · exact before.approved isApproved
    | approveSmall adminId =>
      obtain ⟨read, found, small⟩ := isSmall adminId rfl
      rw [isLarge_read inv.sound found applies.found, small] at large
      cases large
    | secondApprove first second =>
      simp [Change.update, secondApprove] at possible
      obtain ⟨different, request⟩ := isSecond first second rfl
      exact ⟨by simp [Change.update, secondApprove], by simp [Change.update, secondApprove],
        fun _ => ⟨first, second, different, before.pending possible.1.1.1 first possible.1.1.2,
          calling request⟩⟩
    | claimForBroadcast | setConfirming =>
      refine ⟨by simp [Change.update, claimForBroadcast, setConfirming],
        by simp [Change.update, claimForBroadcast, setConfirming], fun _ => before.approved ?_⟩
      simp [Change.update, claimForBroadcast, setConfirming] at possible
      simp [possible, approvedStates]
    | markCompleted finalTxnId =>
      refine ⟨by simp [Change.update, markCompleted], by simp [Change.update, markCompleted],
        fun _ => before.approved ?_⟩
      simp [Change.update, markCompleted] at possible
      rcases possible with isStatus | isStatus <;> simp [isStatus, approvedStates]
    | reject | markFailed =>
      exact ⟨by simp [Change.update, reject, markFailed], by simp [Change.update, reject, markFailed],
        by simp [Change.update, reject, markFailed, approvedStates]⟩
    | _ => exact (isBlind rfl).elim

@[simp] theorem isLarge_set : isLarge config (change.update.set row) = isLarge config row := by
  cases change <;> rfl

theorem controlled_step (inv : Controlled config requests x)
    (call' : May config requests pid (x.past pid) call) (made : unrevived pid call x reply s') :
    Controlled config requests ⟨s', (pid, ⟨call, reply⟩) :: x.history⟩ := by
  obtain ⟨makes, binds⟩ := made
  have effect := call'.effect makes
  refine ⟨sound_step inv.sound call' makes, fun id row found large => ?_⟩
  rcases inv.sound.origin effect found with before | ⟨rfl, -, now, data, rfl, -⟩ |
    ⟨change, old, applies, rfl, writes⟩
  · exact (inv.approved id row before large).later s' _
  · exact ⟨fun _ => rfl, by simp [newRow], by simp [newRow, approvedStates]⟩
  · rw [isLarge_set] at large
    exact approved_set inv call' binds applies large writes

/-- In every run in which holds are bound to REQUESTED rows, two admins have
approved every large withdrawal that is approved. -/
theorem dual_control {pool : WithdrawalPool}
    (run : Logged.Run unrevived (IsRequest config requests) Unused pool) :
    DualControl config requests pool.store := by
  have inv : Controlled config requests pool.store :=
    run.inv (fun _ _ isRequest => isRequest_obeys isRequest) (fun _ => controlled_unused)
      fun _ _ _ _ _ inv call' => controlled_step inv call'.1
  exact fun id row found large isApproved => (inv.approved id row found large).approved isApproved

private def largeRequests : WithdrawalId → Request
  | 1 => .requestWithdrawal 1 twentyUsdt
  | 2 => .approve 1 (some 7)
  | 3 => .approve 1 (some 8)
  | _ => .reject 1 "suspicious" (some 9)

/-- Admins 7 and 8 approve withdrawal 1. -/
theorem dual_control_approved : ∃ x : History,
    (x.store.withdrawals.lookup 1).map CryptoWithdrawal.status = some .approved ∧
      DualControl smallConfig largeRequests x := by
  have played : (schedule (fun _ => mockSigner ⟨true, 20, true⟩) (fun _ _ => false)
      (fun _ call x reply => bindsRequested x.store ⟨call, reply⟩) largeRequests [1, 2, 3]
      [(1, 20), (2, 10), (3, 10)]).map (fun pool =>
        (pool.store.store.withdrawals.lookup 1).map CryptoWithdrawal.status) =
      some (some .approved) := by decide +kernel
  obtain ⟨pool, scheduled, approved⟩ := Option.map_eq_some_iff.mp played
  have run : Logged.Run unrevived (IsRequest smallConfig largeRequests) Unused pool :=
    schedule_run smallBank_unused (fun _ _ _ _ _ binds makes => ⟨makes, binds⟩) scheduled
  exact ⟨pool.store, approved, dual_control run⟩

/-- Admin 9 rejects the row before its hold is bound, which leaves it pending
with admin 9 as its first approver; one approval then suffices. -/
theorem approved_by_one : ¬∀ pool : WithdrawalPool,
    Logged.Run interleaved (IsRequest smallConfig largeRequests) Unused pool →
      DualControl smallConfig largeRequests pool.store := by
  intro controlled
  have played : (schedule (fun _ => mockSigner ⟨true, 20, true⟩) (fun _ _ => false)
      (fun _ _ _ _ => true) largeRequests [1, 2, 4] [(1, 9), (4, 10), (1, 10), (2, 10)]).map
        (fun pool => ((pool.store.store.withdrawals.lookup 1).map fun row =>
          (row.status, isLarge smallConfig row), pool.store.history.all fun made => made.1 ≠ 3)) =
      some (some (.approved, true), true) := by decide +kernel
  obtain ⟨pool, scheduled, facts⟩ := Option.map_eq_some_iff.mp played
  simp only [Prod.mk.injEq] at facts
  obtain ⟨row, found, same⟩ := Option.map_eq_some_iff.mp facts.1
  simp only [Prod.mk.injEq] at same
  obtain ⟨first, second, different, isFirst, isSecond⟩ := controlled pool
    (schedule_run smallBank_unused (fun _ _ _ _ _ _ makes => makes) scheduled) 1 row found same.2
    (by simp [same.1, approvedStates])
  -- only request 2 is an approval that was made
  have only {adminId : AdminId} (approver : Approver largeRequests pool.store 1 adminId) :
      adminId = 7 := by
    obtain ⟨pid, made, request, member⟩ := approver
    have other := List.all_eq_true.mp facts.2 (pid, made) member
    unfold largeRequests at request
    split at request
    · cases request
    · cases request
      rfl
    · simp at other
    · cases request
  exact different ((only isFirst).trans (only isSecond).symm)

end Exchange.Withdrawal.Approvals
