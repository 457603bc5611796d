import Exchange.WithdrawalProgress

/-! The checks of the schema on withdrawals, `crypto_withdrawals_net_chk` and
`crypto_withdrawals_dual_chk`, and the rows the service writes once its own
checks have passed. The columns of the two approvers are also written by a
rejection. -/
namespace Exchange.Withdrawal.Schema
open Ledger Service SignificantDigits

structure WellFormed (row : CryptoWithdrawal) : Prop where
  net : netChk row
  dual : dualChk row
  second : row.approvedBy2.isSome → 2 ≤ phase row
  nonce : row.nonce.isSome → 4 ≤ phase row
  chain : row.chain = CHAIN

/-- The row that a call writes at some time. -/
def Written (s : Store) (pid : WithdrawalId) (now : Time) : WithdrawalCall → CryptoWithdrawal → Prop
  | .createWithdrawal data, row => row = newRow pid now data
  | .update id change, row => ∃ old, s.withdrawals.lookup id = some old ∧ row = change.update.set old
  | .updateMany id change, row => ∃ old, s.withdrawals.lookup id = some old ∧
      change.update.applies old ∧ row = change.update.set old
  | _, _ => False

/-- A call that the checks refuse: the net amount was rounded to 20 digits, or
the second approver rejects. -/
def Refused (s : Store) : WithdrawalCall → Prop
  | .createWithdrawal data => data.amount.sub data.fee ≠ data.amount - data.fee
  | .updateMany id (.reject adminId _) => ∃ row, s.withdrawals.lookup id = some row ∧
      row.approvedBy2 = some adminId
  | _ => False

def interleaved (pid : WithdrawalId) (call : WithdrawalCall) (x : History)
    (reply : Except Failure call.Reply) (s' : Store) : Prop :=
  Makes pid call x.store reply s'

variable {config : Config} {requests : WithdrawalId → Request} {x : History} {pid id : WithdrawalId}
  {call : WithdrawalCall} {reply : Except Failure call.Reply} {s s' : Store} {row : CryptoWithdrawal}
  {change : Change} {now : Time}

/-! ## Well-formed rows -/

theorem wellFormed_new {data : NewWithdrawal} (net : netChk (newRow pid now data))
    (chain : data.chain = CHAIN) : WellFormed (newRow pid now data) where
  net := net
  dual := rfl
  second := by simp [newRow]
  nonce := by simp [newRow]
  chain := chain

theorem wellFormed_set (formed : WellFormed row) (regular : Regular row)
    (timely : Timely change row) (applies : Applies s id change row) :
    WellFormed (change.update.set row) where
  net := applies.net
  dual := applies.dual
  second isSecond := by
    have forward := (evolves_set regular applies.applies timely).1.forward
    cases change with
    | secondApprove first second =>
      have pending : row.status = .pendingApproval := by
        have possible := applies.applies
        simp [Change.update, secondApprove] at possible
        exact possible.1.1.1
      have held := regular.isHeld (by simp [pending])
      have later : phase ((Change.secondApprove first second).update.set row) = rank .approved :=
        phase_held held
      rw [later]
      exact le_refl 2
    | _ => exact (formed.second isSecond).trans forward
  nonce isNonce := by
    have forward := (evolves_set regular applies.applies timely).1.forward
    cases change with
    | setBroadcast data =>
      have signing : row.status = .signing := timely
      have held := regular.isHeld (by simp [signing])
      have later : phase ((Change.setBroadcast data).update.set row) = rank .broadcast := phase_held held
      rw [later]
      exact le_refl 4
    | _ => exact (formed.nonce isNonce).trans forward
  chain := by
    have same : (change.update.set row).chain = row.chain := by cases change <;> rfl
    exact same.trans formed.chain

theorem chain_created {past : Past} {data : NewWithdrawal}
    (call' : May config requests pid past (.createWithdrawal data)) : data.chain = CHAIN := by
  cases call' with
  | neutral neutral => cases neutral
  | create => rfl

def AllWellFormed (x : History) : Prop :=
  Sound x ∧ ∀ id row, x.store.withdrawals.lookup id = some row → WellFormed row

theorem wellFormed_step (inv : AllWellFormed x) (call' : May config requests pid (x.past pid) call)
    (makes : Makes pid call x.store reply s') :
    AllWellFormed ⟨s', (pid, ⟨call, reply⟩) :: x.history⟩ := by
  obtain ⟨sound, formed⟩ := inv
  have effect := call'.effect makes
  refine ⟨sound_step sound call' makes, fun id row found => ?_⟩
  rcases sound.origin effect found with before | ⟨rfl, -, now, data, rfl, made⟩ |
    ⟨change, old, applies, rfl, writes⟩
  · exact formed id row before
  · cases made
    cases effect with
    | created net => exact wellFormed_new net (chain_created call')
    | neutral neutral => cases neutral
  · exact wellFormed_set (formed id old applies.found) (sound.row id old applies.found).regular
      (sound.timely call' (writes.imp (congrArg Answered.call) (congrArg Answered.call)) applies) applies

/-- Every row in every state reached is well formed. -/
theorem run_wellFormed
    {step : WithdrawalId → (call : WithdrawalCall) → History → Except Failure call.Reply → Store → Prop}
    {Initial : Store → Prop} {pool : WithdrawalPool} (unused : ∀ s, Initial s → Unused s)
    (makes : ∀ pid call x reply s', step pid call x reply s' → Makes pid call x.store reply s')
    (run : Logged.Run step (IsRequest config requests) Initial pool) : AllWellFormed pool.store := by
  refine run.inv (fun _ _ isRequest => isRequest_obeys isRequest) (fun s initial => ?_)
    fun x pid call reply s' inv call' made => wellFormed_step inv call'.1 (makes pid call x reply s' made)
  refine ⟨sound_unused (unused s initial), fun id row found => ?_⟩
  rw [(unused s initial).withdrawals, AList.lookup_empty] at found
  cases found

/-! ## Written rows -/

@[simp] theorem netChk_set : netChk (change.update.set row) = netChk row := by
  cases change <;> rfl

theorem dualChk_iff :
    dualChk row ↔ ∀ adminId, row.approvedBy = some adminId → row.approvedBy2 ≠ some adminId := by
  cases first : row.approvedBy with
  | none => simp [dualChk, first]
  | some adminId =>
    cases second : row.approvedBy2 with
    | none => simp [dualChk, first, second]
    | some other => simp [dualChk, first, second, @eq_comm _ adminId other]

/-- Of the changes, only a rejection by the second approver breaks a check. -/
theorem dualChk_set (formed : WellFormed row) (applies : change.update.applies row) :
    dualChk (change.update.set row) ↔
      ∀ adminId reason, change = .reject adminId reason → row.approvedBy2 ≠ some adminId := by
  have noSecond (pending : row.status = .pendingApproval) : row.approvedBy2 = none := by
    by_contra isSecond
    have late := formed.second (Option.isSome_iff_ne_none.mpr isSecond)
    rw [phase_held (held_of_phase (by omega)), pending] at late
    simp [rank] at late
  rw [dualChk_iff]
  cases change with
  | firstApprove adminId =>
    simp [Change.update, firstApprove] at applies
    simp [Change.update, firstApprove, noSecond applies.1]
  | approveSmall adminId =>
    simp [Change.update, approveSmall] at applies
    simp [Change.update, approveSmall, noSecond applies.1]
  | secondApprove first second =>
    simp [Change.update, secondApprove] at applies
    obtain ⟨⟨⟨-, isFirst⟩, -⟩, other⟩ := applies
    simpa [Change.update, secondApprove, isFirst, @eq_comm _ second first] using other
  | reject adminId reason => simp [Change.update, reject]
  | _ => exact iff_of_true (dualChk_iff.mp formed.dual) (by simp)

/-- The net amount passes its check unless it was rounded. -/
theorem netChk_new {data : NewWithdrawal} (isNet : data.netAmount = data.amount.sub data.fee)
    (amount : OnGrid 6 data.amount) (fee : OnGrid 6 data.fee) :
    netChk (newRow pid now data) ↔ data.amount.sub data.fee = data.amount - data.fee := by
  have stored {value : Decimal} (grid : OnGrid 6 value) : Numeric.rounded value = value :=
    Numeric.rounded_of_onGrid (grid.mono (by norm_num [Numeric.scale]))
  have net : OnGrid 6 (data.amount.sub data.fee) := significant_onGrid (amount.sub fee)
  simp [netChk, newRow, isNet, stored amount, stored fee, stored net]

theorem create_data {past : Past} {data : NewWithdrawal}
    (call' : May config requests pid past (.createWithdrawal data)) :
    data.netAmount = data.amount.sub data.fee ∧ OnGrid 6 data.amount ∧ data.fee = config.feeUsdt := by
  cases call' with
  | neutral neutral => cases neutral
  | @create userId input net past request isNet =>
    refine ⟨?_, input.valid.2, rfl⟩
    unfold netAmount at isNet
    split at isNet
    · cases isNet
    dsimp only at isNet
    split at isNet
    · cases isNet
    · exact (Except.ok.inj isNet).symm

/-- In every state reached, a call that the service's own checks let through
writes a row that satisfies the checks of the schema, if and only if it is no
rejection by the second approver and no creation whose net amount was rounded. -/
theorem written_passes_iff {pool : WithdrawalPool} (fee : OnGrid 6 config.feeUsdt)
    (run : Logged.Run interleaved (IsRequest config requests) Unused pool)
    {next : Except Failure call.Reply → WithdrawalM Unit}
    (waiting : pool.programs.lookup pid = some (.await call next))
    (written : Written pool.store.store pid now call row) :
    netChk row ∧ dualChk row ↔ ¬Refused pool.store.store call := by
  have call' := ((run_orderly run).waiting waiting).1
  obtain ⟨sound, formed⟩ := run_wellFormed (fun _ unused => unused) (fun _ _ _ _ _ makes => makes) run
  cases call with
  | createWithdrawal data =>
    obtain rfl : row = newRow pid now data := written
    obtain ⟨isNet, amount, isFee⟩ := create_data call'
    rw [netChk_new isNet amount (isFee ▸ fee)]
    simp [Refused, newRow, dualChk]
  | update id change =>
    obtain ⟨old, found, rfl⟩ := written
    have isBlind := call'.isBlind
    simp only [Refused, not_false_eq_true, iff_true]
    refine ⟨netChk_set.trans (formed id old found).net, ?_⟩
    cases change with
    | setHold | markRequestFailed | setBroadcast => exact (formed id old found).dual
    | _ => cases isBlind
  | updateMany id change =>
    obtain ⟨old, found, applies, rfl⟩ := written
    rw [netChk_set, dualChk_set (formed id old found) applies]
    simp only [(formed id old found).net, true_and]
    cases change with
    | reject adminId reason => simp [Refused, found]
    | _ => simp [Refused]
  | _ => cases written

/-- Withdrawal 1 is large and approved by admins 7 and 8. -/
private def reviewedBy (last : AdminId) : WithdrawalId → Request
  | 1 => .requestWithdrawal 1 twentyUsdt
  | 2 => .approve 1 (some 7)
  | 3 => .approve 1 (some 8)
  | _ => .reject 1 "suspicious" (some last)

private theorem reviewed_pool (last : AdminId) (isLast : last = 8 ∨ last = 9) :
    ∃ (pool : WithdrawalPool) (next : Except Failure ℕ → WithdrawalM Unit) (old : CryptoWithdrawal),
      Logged.Run interleaved (IsRequest smallConfig (reviewedBy last)) Unused pool ∧
      pool.programs.lookup 4 = some (.await (.updateMany 1 (.reject last "suspicious")) next) ∧
      pool.store.store.withdrawals.lookup 1 = some old ∧ old.status = .approved ∧
      old.approvedBy2 = some 8 := by
  have played : (schedule (fun _ => mockSigner ⟨true, 20, true⟩) (fun _ _ => false)
      (fun _ _ _ _ => true) (reviewedBy last) [1, 2, 3, 4] [(1, 20), (2, 10), (3, 10), (4, 1)]).map
        (fun pool => (Logged.waitsFor pool 4, (pool.store.store.withdrawals.lookup 1).map fun row =>
          (row.status, row.approvedBy2))) =
      some (some (.updateMany 1 (.reject last "suspicious")), some (.approved, some 8)) := by
    rcases isLast with rfl | rfl <;> decide +kernel
  obtain ⟨pool, scheduled, facts⟩ := Option.map_eq_some_iff.mp played
  simp only [Prod.mk.injEq] at facts
  obtain ⟨next, waiting⟩ := Logged.waiting_of_waitsFor facts.1
  obtain ⟨old, found, same⟩ := Option.map_eq_some_iff.mp facts.2
  simp only [Prod.mk.injEq] at same
  exact ⟨pool, next, old, schedule_run smallBank_unused (fun _ _ _ _ _ _ makes => makes) scheduled, waiting, found, same⟩

/-- A third admin can reject withdrawal 1. -/
theorem written_passes_third : ∃ row : CryptoWithdrawal,
    row.status = .rejected ∧ row.approvedBy2 = some 8 ∧ netChk row ∧ dualChk row := by
  obtain ⟨pool, next, old, run, waiting, found, isApproved, isSecond⟩ := reviewed_pool 9 (by simp)
  refine ⟨(Change.reject 9 "suspicious").update.set old, rfl, isSecond, ?_⟩
  have applies : (Change.reject 9 "suspicious").update.applies old := by
    simp [Change.update, reject, isApproved]
  have written : Written pool.store.store 4 0 (.updateMany 1 (.reject 9 "suspicious"))
      ((Change.reject 9 "suspicious").update.set old) := ⟨old, found, applies, rfl⟩
  refine (written_passes_iff ⟨1000000, by norm_num [smallConfig]⟩ run waiting written).mpr ?_
  simp [Refused, found, isSecond]

/-- The second approver cannot. -/
theorem second_approver_rejects : ¬∀ (pool : WithdrawalPool) (pid : WithdrawalId)
    (call : WithdrawalCall) (next : Except Failure call.Reply → WithdrawalM Unit) (now : Time)
    (row : CryptoWithdrawal),
    Logged.Run interleaved (IsRequest smallConfig (reviewedBy 8)) Unused pool →
      pool.programs.lookup pid = some (.await call next) →
        Written pool.store.store pid now call row → netChk row ∧ dualChk row := by
  intro passes
  obtain ⟨pool, next, old, run, waiting, found, isApproved, isSecond⟩ := reviewed_pool 8 (by simp)
  have dual := (passes pool 4 (.updateMany 1 (.reject 8 "suspicious")) next 0 ((Change.reject 8 "suspicious").update.set old) run waiting
    ⟨old, found, by simp [Change.update, reject, isApproved], rfl⟩).2
  exact dualChk_iff.mp dual 8 rfl isSecond

end Exchange.Withdrawal.Schema
