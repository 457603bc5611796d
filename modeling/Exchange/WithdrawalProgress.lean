import Exchange.WithdrawalEffects

/-! How withdrawals progress, whatever the order of calls. A row with a hold
only moves forward; a request that has claimed a row for broadcast is alone
with it; a hold is released only for rows that stay REJECTED or FAILED. -/
namespace Exchange.Withdrawal.Service
open Ledger

abbrev History := Logged WithdrawalId WithdrawalCall WithdrawalCall.Reply Failure Store

def rank : WithdrawalStatus → ℕ
  | .requested => 0
  | .riskCheck => 0
  | .pendingApproval => 1
  | .approved => 2
  | .queued => 2
  | .signing => 3
  | .broadcast => 4
  | .confirming => 5
  | .completed => 6
  | .rejected => 6
  | .failed => 6
  | .cancelled => 6

/-- How far a row has come. Rows without a hold have not started. -/
def phase (row : CryptoWithdrawal) : ℕ := if row.holdTxnId.isSome then rank row.status else 0

/-- What is fixed when a row is created. -/
def identity (row : CryptoWithdrawal) :=
  (row.id, row.userId, row.asset, (row.amount, row.fee, row.netAmount), row.requestedAt)

/-- A row may become another one. -/
structure Evolves (old new : CryptoWithdrawal) : Prop where
  same : identity new = identity old
  forward : phase old ≤ phase new
  status : 0 < phase old → phase new = phase old → new.status = old.status
  hold : old.holdTxnId.isSome → new.holdTxnId = old.holdTxnId
  hash : old.txHash.isSome → new.txHash = old.txHash
  claimed : 3 ≤ phase old → old.status ≠ .rejected → new.status ≠ .rejected

/-- What holds of every row. -/
structure Regular (row : CryptoWithdrawal) : Prop where
  unheld : row.holdTxnId = none → row.status ∈ [WithdrawalStatus.requested, .rejected, .failed]
  held : row.holdTxnId.isSome → 0 < phase row
  hash : row.txHash.isSome → 4 ≤ phase row

theorem Evolves.refl (row : CryptoWithdrawal) : Evolves row row :=
  ⟨rfl, le_refl _, fun _ _ => rfl, fun _ => rfl, fun _ => rfl, fun _ other => other⟩

theorem Evolves.trans {a b c : CryptoWithdrawal} (first : Evolves a b) (second : Evolves b c) :
    Evolves a c where
  same := second.same.trans first.same
  forward := first.forward.trans second.forward
  status started stopped := by
    have middle : phase b = phase a :=
      le_antisymm (stopped ▸ second.forward) first.forward
    exact (second.status (middle ▸ started) (stopped.trans middle.symm)).trans
      (first.status started middle)
  hold held := by
    have middle := first.hold held
    exact (second.hold (middle ▸ held)).trans middle
  hash hashed := by
    have middle := first.hash hashed
    exact (second.hash (middle ▸ hashed)).trans middle
  claimed started other := second.claimed (started.trans first.forward) (first.claimed started other)

theorem rank_le (status : WithdrawalStatus) : rank status ≤ 6 := by
  cases status <;> simp [rank]

theorem phase_le (row : CryptoWithdrawal) : phase row ≤ 6 := by
  unfold phase
  split
  · exact rank_le row.status
  · omega

theorem phase_held {row : CryptoWithdrawal} (held : row.holdTxnId.isSome) :
    phase row = rank row.status := if_pos held

theorem held_of_phase {row : CryptoWithdrawal} (started : 0 < phase row) : row.holdTxnId.isSome := by
  unfold phase at started
  split at started
  · assumption
  · cases started

theorem phase_unheld {row : CryptoWithdrawal} (unheld : row.holdTxnId = none) : phase row = 0 := by
  simp [phase, unheld]

/-- A row with its hold that was rejected or has failed. -/
def Closed (row : CryptoWithdrawal) : Prop :=
  row.holdTxnId.isSome ∧ row.status ∈ [WithdrawalStatus.rejected, .failed]

theorem Closed.phase {row : CryptoWithdrawal} (closed : Closed row) : phase row = 6 := by
  obtain ⟨held, status⟩ := closed
  rw [phase_held held]
  simp only [List.mem_cons, List.not_mem_nil, or_false] at status
  rcases status with isStatus | isStatus <;> rw [isStatus] <;> rfl

theorem Closed.evolves {old new : CryptoWithdrawal} (closed : Closed old)
    (evolves : Evolves old new) : Closed new := by
  have last := closed.phase
  have bound := phase_le new
  have forward := evolves.forward
  refine ⟨by rw [evolves.hold closed.1]; exact closed.1, ?_⟩
  rw [evolves.status (by omega) (by omega)]
  exact closed.2

/-! ## Work in progress -/

/-- The request has claimed the row and not moved it on. -/
inductive Working (row : CryptoWithdrawal) : Past → Prop
  | claimed {past : Past} (claimed : Claimed row past) : Working row past
  | sent {signed : SignedTransaction} {reply : Except Failure String} {past : Past}
      (claimed : Claimed row past) : Working row (⟨.broadcast row.id signed, reply⟩ :: past)
  | unrecorded {signed : SignedTransaction} {txHash : String} {data : BroadcastData}
      {failure : Failure} {past : Past} (claimed : Claimed row past) :
      Working row (⟨.update row.id (.setBroadcast data), .error failure⟩ ::
        ⟨.broadcast row.id signed, .ok txHash⟩ :: past)

theorem Failing.cases {row : CryptoWithdrawal} {past : Past} (failing : Failing row past) :
    Working row past ∨
      ∃ status, Reported row status past ∧ status.found ∧ status.success = false := by
  cases failing with
  | unsent claimed => exact .inl (.claimed claimed)
  | refused claimed => exact .inl (.sent claimed)
  | unrecorded claimed => exact .inl (.unrecorded claimed)
  | unsuccessful reported found unsuccessful => exact .inr ⟨_, reported, found, unsuccessful⟩

theorem Claimed.listed {row : CryptoWithdrawal} {past : Past} (claimed : Claimed row past) :
    ∃ rows, row ∈ rows ∧ ⟨.listForBroadcast CHAIN, .ok rows⟩ ∈ past := by
  induction claimed with
  | claim listed list => exact ⟨_, listed, List.mem_cons_of_mem _ list⟩
  | neutral _ _ ih =>
    obtain ⟨rows, listed, list⟩ := ih
    exact ⟨rows, listed, List.mem_cons_of_mem _ list⟩

theorem Working.listed {row : CryptoWithdrawal} {past : Past} (working : Working row past) :
    ∃ rows, row ∈ rows ∧ ⟨.listForBroadcast CHAIN, .ok rows⟩ ∈ past := by
  cases working with
  | claimed claimed => exact claimed.listed
  | sent claimed =>
    obtain ⟨rows, listed, list⟩ := claimed.listed
    exact ⟨rows, listed, List.mem_cons_of_mem _ list⟩
  | unrecorded claimed =>
    obtain ⟨rows, listed, list⟩ := claimed.listed
    exact ⟨rows, listed, List.mem_cons_of_mem _ (List.mem_cons_of_mem _ list)⟩

/-- A call that changes no row of the request: it claims one, or goes on with
one it has claimed. -/
theorem Working.last {row : CryptoWithdrawal} {past : Past}
    {made : Answered WithdrawalCall WithdrawalCall.Reply Failure}
    (working : Working row (made :: past)) :
    (∃ count, made = ⟨.updateMany row.id .claimForBroadcast, .ok count⟩ ∧ count ≠ 0) ∨
      Working row past ∧ (made.call.isNeutral ∨ (∃ signed, made.call = .broadcast row.id signed) ∨
        ∃ data failure, made = ⟨.update row.id (.setBroadcast data), .error failure⟩) := by
  cases working with
  | claimed claimed =>
    cases claimed with
    | claim listed list effective => exact .inl ⟨_, rfl, effective⟩
    | neutral claimed neutral => exact .inr ⟨.claimed claimed, .inl neutral⟩
  | sent claimed => exact .inr ⟨.claimed claimed, .inr (.inl ⟨_, rfl⟩)⟩
  | unrecorded claimed => exact .inr ⟨.sent claimed, .inr (.inr ⟨_, _, rfl⟩)⟩

/-- A claim is not followed by a broadcast or a write. -/
theorem Claimed.head {row : CryptoWithdrawal} {past : Past}
    {made : Answered WithdrawalCall WithdrawalCall.Reply Failure}
    (claimed : Claimed row (made :: past)) : made.call.isNeutral ∨
      ∃ count, made = ⟨.updateMany row.id .claimForBroadcast, .ok count⟩ := by
  cases claimed with
  | claim => exact .inr ⟨_, rfl⟩
  | neutral _ neutral => exact .inl neutral

theorem Claimed.not_sent {row : CryptoWithdrawal} {id : WithdrawalId} {signed : SignedTransaction}
    {past : Past} {reply : Except Failure String}
    (claimed : Claimed row (⟨.broadcast id signed, reply⟩ :: past)) : False := by
  rcases claimed.head with neutral | ⟨count, same⟩
  · cases neutral
  · cases same

/-- After a broadcast the request can only have failed to record it. -/
theorem Working.after_sent {row : CryptoWithdrawal} {id : WithdrawalId} {signed : SignedTransaction}
    {txHash : String} {past : Past} {made : Answered WithdrawalCall WithdrawalCall.Reply Failure}
    (working : Working row (made :: ⟨.broadcast id signed, .ok txHash⟩ :: past)) :
    (∃ count, made = ⟨.updateMany row.id .claimForBroadcast, .ok count⟩) ∨
      ∃ data failure, made = ⟨.update row.id (.setBroadcast data), .error failure⟩ := by
  cases working with
  | claimed claimed =>
    cases claimed with
    | claim => exact .inl ⟨_, rfl⟩
    | neutral claimed => exact claimed.not_sent.elim
  | sent claimed => exact claimed.not_sent.elim
  | unrecorded => exact .inr ⟨_, _, rfl⟩

theorem Failing.not_sent {row : CryptoWithdrawal} {id : WithdrawalId} {signed : SignedTransaction} {txHash : String} {past : Past}
    (failing : Failing row (⟨.broadcast id signed, .ok txHash⟩ :: past)) : False := by
  cases failing with
  | unsent claimed => exact claimed.not_sent
  | unsuccessful reported => cases reported

/-! ## The invariant -/

/-- The rows an answer shows. -/
def shown (made : Answered WithdrawalCall WithdrawalCall.Reply Failure) : List CryptoWithdrawal :=
  match made with
  | ⟨.createWithdrawal _, .ok row⟩ => [row]
  | ⟨.findById _, .ok (some row)⟩ => [row]
  | ⟨.listForBroadcast _, .ok rows⟩ => rows
  | ⟨.listForConfirmation _, .ok rows⟩ => rows
  | _ => []

/-- A row as it once was. -/
def Snapshot (s : Store) (row : CryptoWithdrawal) : Prop :=
  Regular row ∧ ∃ current, s.withdrawals.lookup row.id = some current ∧ Evolves row current

/-- What an answer says about the rows it shows. -/
def Truthful (pid : WithdrawalId) (made : Answered WithdrawalCall WithdrawalCall.Reply Failure) :
    Prop :=
  match made with
  | ⟨.createWithdrawal _, .ok row⟩ => row.id = pid
  | ⟨.findById id, .ok (some row)⟩ => row.id = id
  | ⟨.listForBroadcast _, .ok rows⟩ => ∀ row ∈ rows, row.status = .approved
  | ⟨.listForConfirmation _, .ok rows⟩ =>
    ∀ row ∈ rows, row.status ∈ [WithdrawalStatus.broadcast, .confirming]
  | ⟨.update _ (.setHold _), .error failure⟩ => failure.isConflictError = false
  | _ => True

/-- A row with a hold got it from the request that created the row. -/
structure Row (x : History) (id : WithdrawalId) (row : CryptoWithdrawal) : Prop where
  keyed : row.id = id
  regular : Regular row
  held : row.holdTxnId.isSome → posted x.store REF_HOLD id ∧
    ∃ txnId updated, ⟨.update id (.setHold txnId), .ok updated⟩ ∈ x.past id

structure Sound (x : History) : Prop where
  row : ∀ id row, x.store.withdrawals.lookup id = some row → Row x id row
  truthful : ∀ pid made, (pid, made) ∈ x.history → Truthful pid made
  snapshot : ∀ pid made, (pid, made) ∈ x.history → ∀ row ∈ shown made, Snapshot x.store row
  working : ∀ pid row, Working row (x.past pid) → ∃ current,
    x.store.withdrawals.lookup row.id = some current ∧ current.status = .signing
  alone : ∀ pid other row row', Working row (x.past pid) → Working row' (x.past other) →
    row.id = row'.id → pid = other
  decided : ∀ pid row, Decided row (x.past pid) → row.holdTxnId.isSome → ∃ current,
    x.store.withdrawals.lookup row.id = some current ∧ Closed current
  released : ∀ id, posted x.store REF_RELEASE id → ∃ current,
    x.store.withdrawals.lookup id = some current ∧ Closed current
  finalised : ∀ id, posted x.store REF_FINAL id → ∃ current,
    x.store.withdrawals.lookup id = some current ∧ 4 ≤ phase current ∧ current.status ≠ .rejected
  answered : ∀ pid input txn, (pid, ⟨.post input, .ok txn⟩) ∈ x.history → ∀ reference id,
    input.referenceType = some reference → input.referenceId = some id →
      posted x.store reference id

/-- No withdrawal has been requested. -/
structure Unused (s : Store) : Prop where
  withdrawals : s.withdrawals = ∅
  postings : ∀ reference ∈ [REF_HOLD, REF_RELEASE, REF_FINAL], ∀ id, posted s reference id = false

theorem sound_unused {s : Store} (unused : Unused s) : Sound ⟨s, []⟩ := by
  have none : ∀ id, s.withdrawals.lookup id = none := by
    intro id
    rw [unused.withdrawals, AList.lookup_empty]
  have idle : ∀ pid row, ¬Working row ((⟨s, []⟩ : History).past pid) := by
    intro pid row working
    obtain ⟨rows, -, list⟩ := working.listed
    simp at list
  refine ⟨fun id row found => ?_, by simp, by simp, fun pid row working => (idle pid row working).elim,
    fun pid _ row _ working => (idle pid row working).elim, fun pid row decided => ?_,
    fun id released => ?_, fun id finalised => ?_, by simp⟩
  · cases (none id).symm.trans found
  · rw [Logged.past_nil] at decided
    cases decided
  · cases (unused.postings REF_RELEASE (by simp) id).symm.trans released
  · cases (unused.postings REF_FINAL (by simp) id).symm.trans finalised

/-! ## One change -/

section Change
variable {row new : CryptoWithdrawal} {change : Change}

/-- The unconditional updates find the row as their request left it. -/
def Timely (change : Change) (row : CryptoWithdrawal) : Prop :=
  match change with
  | .setHold _ => row.holdTxnId = none
  | .markRequestFailed _ => row.holdTxnId = none
  | .setBroadcast _ => row.status = .signing
  | _ => True

theorem Regular.isHeld (regular : Regular row)
    (status : row.status ∉ [WithdrawalStatus.requested, .rejected, .failed]) :
    row.holdTxnId.isSome := by
  by_contra unheld
  exact status (regular.unheld (by simpa using unheld))

/-- A row with a hold that moves on. -/
private theorem advanced {before : WithdrawalStatus} (after : WithdrawalStatus)
    (regular : Regular row)
    (isBefore : row.status = before) (isAfter : new.status = after) (held : row.holdTxnId.isSome)
    (same : identity new = identity row) (hold : new.holdTxnId = row.holdTxnId)
    (hash : new.txHash = row.txHash ∨ rank before < 4 ∧ 4 ≤ rank after)
    (forward : rank before < rank after) (claimed : rank before < 3 ∨ after ≠ .rejected) :
    Evolves row new ∧ Regular new := by
  subst isBefore isAfter
  have earlier := phase_held held
  have later : phase new = rank new.status := phase_held (by rwa [hold])
  refine ⟨⟨same, by omega, fun _ stopped => by omega, fun _ => hold, fun hashed => ?_,
    fun late _ => claimed.resolve_left (by omega)⟩, ⟨fun unheld => ?_, fun _ => by omega,
      fun hashed => ?_⟩⟩
  · rcases hash with kept | ⟨early, -⟩
    · exact kept
    · have := regular.hash hashed
      omega
  · rw [hold] at unheld
    simp [unheld] at held
  · rcases hash with kept | ⟨-, late⟩
    · have := regular.hash (kept ▸ hashed)
      omega
    · omega

/-- A row without a hold may become any other one. -/
private theorem started (regular : Regular row) (unheld : row.holdTxnId = none)
    (same : identity new = identity row) (hash : new.txHash = row.txHash)
    (status : if new.holdTxnId.isSome then 0 < rank new.status
      else new.status ∈ [WithdrawalStatus.requested, .rejected, .failed]) :
    Evolves row new ∧ Regular new := by
  have zero := phase_unheld unheld
  have blank : row.txHash = none := by
    by_contra hashed
    have := regular.hash (Option.isSome_iff_ne_none.mpr hashed)
    omega
  refine ⟨⟨same, by omega, fun early => by omega, fun held => ?_, fun _ => hash,
    fun late => by omega⟩, ⟨fun unheld' => ?_, fun held' => ?_, fun hashed => ?_⟩⟩
  · simp [unheld] at held
  · simpa [unheld'] using status
  · rw [if_pos held'] at status
    rwa [phase_held held']
  · simp [hash, blank] at hashed

/-- Every change moves a row forward. -/
theorem evolves_set (regular : Regular row) (applies : change.update.applies row)
    (timely : Timely change row) :
    Evolves row (change.update.set row) ∧ Regular (change.update.set row) := by
  cases change with
  | setHold holdTxnId => exact started regular timely rfl rfl (by simp [Change.update, setHold, rank])
  | markRequestFailed reason =>
    have unheld : row.holdTxnId = none := timely
    exact started regular unheld rfl rfl (by simp [Change.update, markRequestFailed, unheld])
  | firstApprove adminId =>
    have same : phase ((Change.firstApprove adminId).update.set row) = phase row := rfl
    exact ⟨⟨rfl, same.ge, fun _ _ => rfl, fun _ => rfl, fun _ => rfl, fun _ other => other⟩,
      ⟨regular.unheld, regular.held, regular.hash⟩⟩
  | reject adminId reason =>
    by_cases unheld : row.holdTxnId = none
    · exact started regular unheld rfl rfl (by simp [Change.update, reject, unheld])
    · have held := Option.isSome_iff_ne_none.mpr unheld
      simp only [Change.update, reject, List.mem_cons, List.not_mem_nil, or_false,
        decide_eq_true_eq] at applies
      rcases applies with isStatus | isStatus | isStatus | isStatus | isStatus <;>
        exact advanced .rejected regular isStatus rfl held rfl rfl (.inl rfl) (by decide) (.inl (by decide))
  | approveSmall adminId =>
    have isStatus : row.status = .pendingApproval := by
      simp [Change.update, approveSmall] at applies
      exact applies.1
    exact advanced .approved regular isStatus rfl (regular.isHeld (by simp [isStatus])) rfl rfl (.inl rfl)
      (by decide) (.inl (by decide))
  | secondApprove firstAdminId secondAdminId =>
    have isStatus : row.status = .pendingApproval := by
      simp [Change.update, secondApprove] at applies
      exact applies.1.1.1
    exact advanced .approved regular isStatus rfl (regular.isHeld (by simp [isStatus])) rfl rfl (.inl rfl)
      (by decide) (.inl (by decide))
  | claimForBroadcast =>
    have isStatus : row.status = .approved := by simpa [Change.update, claimForBroadcast] using applies
    exact advanced .signing regular isStatus rfl (regular.isHeld (by simp [isStatus])) rfl rfl (.inl rfl)
      (by decide) (.inl (by decide))
  | setBroadcast data =>
    have isStatus : row.status = .signing := timely
    exact advanced .broadcast regular isStatus rfl (regular.isHeld (by simp [isStatus])) rfl rfl
      (.inr (by decide)) (by decide) (.inr (by decide))
  | setConfirming =>
    have isStatus : row.status = .broadcast := by simpa [Change.update, setConfirming] using applies
    exact advanced .confirming regular isStatus rfl (regular.isHeld (by simp [isStatus])) rfl rfl (.inl rfl)
      (by decide) (.inr (by decide))
  | markCompleted finalTxnId =>
    simp only [Change.update, markCompleted, List.mem_cons, List.not_mem_nil, or_false,
      decide_eq_true_eq] at applies
    rcases applies with isStatus | isStatus <;>
      exact advanced .completed regular isStatus rfl (regular.isHeld (by simp [isStatus])) rfl rfl (.inl rfl)
        (by decide) (.inr (by decide))
  | markFailed reason =>
    simp only [Change.update, markFailed, List.mem_cons, List.not_mem_nil, or_false,
      decide_eq_true_eq] at applies
    rcases applies with isStatus | isStatus | isStatus | isStatus | isStatus <;>
      exact advanced .failed regular isStatus rfl (regular.isHeld (by simp [isStatus])) rfl rfl (.inl rfl)
        (by decide) (.inr (by decide))

end Change

/-! ## One call -/

section Step
variable {config : Config} {requests : WithdrawalId → Request} {x : History} {pid id : WithdrawalId}
  {call : WithdrawalCall} {reply : Except Failure call.Reply} {change : Change}
  {row : CryptoWithdrawal} {past : Past} {s' : Store}
  {made : Answered WithdrawalCall WithdrawalCall.Reply Failure}

theorem May.unconditional (call' : May config requests pid past (.update id change))
    (row : CryptoWithdrawal) : change.update.applies row := by
  cases call' with
  | neutral neutral => cases neutral
  | _ => rfl

/-- The row the request has created is its own, and it has bound no hold. -/
theorem Sound.created (sound : Sound x) (created : Created row past)
    (sub : ∀ made ∈ past, made ∈ x.past pid) : row.id = pid := by
  cases created with
  | create neutral =>
    exact sound.truthful pid _ (Logged.mem_past.mp (sub _ List.mem_cons_self))

theorem Created.unbound (created : Created row past) {txnId : ℕ} {updated : CryptoWithdrawal} :
    ⟨.update id (.setHold txnId), .ok updated⟩ ∉ past := by
  cases created with
  | create neutral =>
    intro member
    rcases List.mem_cons.mp member with same | member
    · cases same
    · cases neutral _ member

/-- A request that has not bound its row finds it without a hold. -/
theorem Sound.unheld (sound : Sound x) (created : Created row past) {post : LedgerPostingInput ℕ}
    {answer : Except Failure (LedgerTransaction ℕ)} (isPast : x.past pid = ⟨.post post, answer⟩ :: past)
    {current : CryptoWithdrawal} (found : x.store.withdrawals.lookup row.id = some current) :
    current.holdTxnId = none := by
  have own : row.id = pid := sound.created created fun made member => by
    rw [isPast]
    exact List.mem_cons_of_mem _ member
  by_contra held
  obtain ⟨-, txnId, updated, member⟩ := (sound.row _ _ found).held (Option.isSome_iff_ne_none.mpr held)
  rw [own, isPast] at member
  rcases List.mem_cons.mp member with same | member
  · cases same
  · exact created.unbound member

theorem Sound.timely (sound : Sound x) (call' : May config requests pid (x.past pid) call)
    (writes : call = .update id change ∨ call = .updateMany id change)
    (applies : Applies x.store id change row) : Timely change row := by
  generalize isPast : x.past pid = past at call'
  rcases writes with rfl | rfl
  · cases call' with
    | neutral neutral => cases neutral
    | setHold created => exact sound.unheld created isPast applies.found
    | requestFailed created => exact sound.unheld created isPast applies.found
    | bindingFailed conflict =>
      have truthful := sound.truthful pid _ (Logged.mem_past.mp (isPast ▸ List.mem_cons_self))
      cases conflict.symm.trans truthful
    | setBroadcast claimed =>
      obtain ⟨current, found, isStatus⟩ := sound.working pid _ (isPast ▸ Working.sent claimed)
      cases found.symm.trans applies.found
      exact isStatus
  · cases call' with
    | neutral neutral => cases neutral
    | _ => trivial

theorem May.effect (call' : May config requests pid (x.past pid) call)
    (makes : Makes pid call x.store reply s') : Effect pid x.store ⟨call, reply⟩ s' := by
  refine makes.effect fun id change isUpdate => ?_
  subst isUpdate
  exact call'.unconditional

/-- Where a row comes from: it was there, it is new, or it was changed. -/
theorem Sound.origin (sound : Sound x) (effect : Effect pid x.store made s')
    (found : s'.withdrawals.lookup id = some row) : x.store.withdrawals.lookup id = some row ∨
      (id = pid ∧ x.store.withdrawals.lookup pid = none ∧ ∃ now data, row = newRow pid now data ∧
        made = ⟨.createWithdrawal data, .ok row⟩) ∨
      ∃ change old, Applies x.store id change old ∧ row = change.update.set old ∧
        (made = ⟨.update id change, .ok row⟩ ∨ made = ⟨.updateMany id change, .ok 1⟩) := by
  rcases effect.rows with same | ⟨now, data, made, fresh, rfl⟩ |
    ⟨target, change, old, applies, rfl, writes⟩
  · exact .inl (same ▸ found)
  · by_cases same : id = pid
    · subst same
      cases (Store.save_lookup x.store (newRow id now data)).symm.trans found
      exact .inr (.inl ⟨rfl, fresh, now, data, rfl, made⟩)
    · exact .inl (Store.save_lookup_ne x.store (newRow pid now data) same ▸ found)
  · have keyed := (sound.row _ _ applies.found).keyed
    by_cases same : id = target
    · subst same
      rw [← keyed, ← Change.set_id change, Store.save_lookup] at found
      cases found
      exact .inr (.inr ⟨change, old, applies, rfl, writes⟩)
    · refine .inl (Store.save_lookup_ne x.store (change.update.set old) ?_ ▸ found)
      rwa [Change.set_id, keyed]

/-- The updates that look at nothing are unconditional, the others are not. -/
theorem May.isBlind (call' : May config requests pid past (.update id change)) : change.isBlind := by
  cases call' with
  | neutral neutral => cases neutral
  | _ => rfl

theorem May.isGuarded (call' : May config requests pid past (.updateMany id change)) :
    change.isBlind = false := by
  cases call' with
  | neutral neutral => cases neutral
  | _ => rfl

/-- No row is lost, and each moves forward. -/
theorem Sound.evolves (sound : Sound x) (call' : May config requests pid (x.past pid) call)
    (effect : Effect pid x.store ⟨call, reply⟩ s') (found : x.store.withdrawals.lookup id = some row) :
    ∃ new, s'.withdrawals.lookup id = some new ∧ Evolves row new := by
  rcases effect.rows with same | ⟨now, data, -, fresh, rfl⟩ |
    ⟨target, change, old, applies, rfl, writes⟩
  · exact ⟨row, by rwa [same], .refl row⟩
  · have ne : id ≠ (newRow pid now data).id := by
      rintro rfl
      cases fresh.symm.trans found
    exact ⟨row, by rwa [Store.save_lookup_ne _ _ ne], .refl row⟩
  · by_cases same : id = target
    · subst same
      cases found.symm.trans applies.found
      refine ⟨change.update.set row, ?_, ?_⟩
      · rw [← (sound.row _ _ found).keyed, ← Change.set_id change, Store.save_lookup]
      · have timely := sound.timely call' (writes.imp (congrArg Answered.call) (congrArg Answered.call)) applies
        exact (evolves_set (sound.row _ _ found).regular applies.applies timely).1
    · have ne : id ≠ (change.update.set old).id := by
        rwa [Change.set_id, (sound.row _ _ applies.found).keyed]
      exact ⟨row, by rwa [Store.save_lookup_ne _ _ ne], .refl row⟩

/-- A hold is bound by the request that created the row, after it was posted. -/
theorem Sound.binding (sound : Sound x) (call' : May config requests pid (x.past pid) call)
    {holdTxnId : ℕ} (writes : call = .update id (.setHold holdTxnId) ∨
      call = .updateMany id (.setHold holdTxnId)) :
    id = pid ∧ call = .update id (.setHold holdTxnId) ∧ posted x.store REF_HOLD id := by
  generalize isPast : x.past pid = past at call'
  rcases writes with rfl | rfl
  · cases call' with
    | neutral neutral => cases neutral
    | setHold created =>
      refine ⟨sound.created created fun made member => ?_, rfl, ?_⟩
      · rw [isPast]
        exact List.mem_cons_of_mem _ member
      · exact sound.answered pid _ _ (Logged.mem_past.mp (isPast ▸ List.mem_cons_self)) _ _ rfl rfl
  · cases call' with
    | neutral neutral => cases neutral

private theorem row_step (sound : Sound x) (call' : May config requests pid (x.past pid) call)
    (effect : Effect pid x.store ⟨call, reply⟩ s') (found : s'.withdrawals.lookup id = some row) :
    Row ⟨s', (pid, ⟨call, reply⟩) :: x.history⟩ id row := by
  have kept {old : CryptoWithdrawal} (before : Row x id old) (held : old.holdTxnId.isSome) :
      posted s' REF_HOLD id ∧ ∃ txnId updated, ⟨.update id (.setHold txnId), .ok updated⟩ ∈
        (⟨s', (pid, ⟨call, reply⟩) :: x.history⟩ : History).past id := by
    obtain ⟨isPosted, txnId, updated, member⟩ := before.held held
    refine ⟨(effect.posted_iff _ _).mpr (.inl isPosted), txnId, updated, ?_⟩
    exact Logged.mem_past.mpr (List.mem_cons_of_mem _ (Logged.mem_past.mp member))
  have unchanged {old : CryptoWithdrawal} (before : x.store.withdrawals.lookup id = some old) :
      Row ⟨s', (pid, ⟨call, reply⟩) :: x.history⟩ id old :=
    have isRow := sound.row id old before
    ⟨isRow.keyed, isRow.regular, kept isRow⟩
  rcases sound.origin effect found with before | ⟨rfl, -, now, data, rfl, -⟩ |
    ⟨change, old, applies, rfl, writes⟩
  · exact unchanged before
  · exact ⟨rfl, ⟨fun _ => List.mem_cons_self, by simp [newRow], by simp [newRow]⟩, by simp [newRow]⟩
  · have isRow := sound.row _ _ applies.found
    have timely := sound.timely call'
      (writes.imp (congrArg Answered.call) (congrArg Answered.call)) applies
    refine ⟨(Change.set_id change old).trans isRow.keyed,
      (evolves_set isRow.regular applies.applies timely).2, fun held => ?_⟩
    rcases change.set_hold old with ⟨holdTxnId, rfl⟩ | same
    · obtain ⟨own, isUpdate, isPosted⟩ := sound.binding call'
        (writes.imp (congrArg Answered.call) (congrArg Answered.call))
      subst own
      refine ⟨(effect.posted_iff _ _).mpr (.inl isPosted), holdTxnId,
        (Change.setHold holdTxnId).update.set old, ?_⟩
      rw [Logged.past_self, writes.resolve_right fun other => ?_]
      · exact List.mem_cons_self
      · cases (congrArg Answered.call other).symm.trans isUpdate
    · exact kept isRow (same ▸ held)

private theorem truthful_step (sound : Sound x) (makes : Makes pid call x.store reply s')
    (effect : Effect pid x.store ⟨call, reply⟩ s') : Truthful pid ⟨call, reply⟩ := by
  rcases reply with failure | value
  · cases call with
    | update id change =>
      cases effect with
      | neutral neutral => cases neutral
      | failed writes database =>
        cases change with
        | setHold holdTxnId => exact database id _ rfl
        | _ => trivial
    | _ => trivial
  cases call with
  | createWithdrawal data =>
    cases effect with
    | created => rfl
    | neutral neutral => cases neutral
  | findById id =>
    cases value with
    | none => trivial
    | some row => exact (sound.row _ _ makes.findById.symm).keyed
  | listForBroadcast chain => exact fun row member => (makes.listForBroadcast member).2
  | listForConfirmation chain => exact fun row member => (makes.listForConfirmation member).2
  | update id change => cases change <;> trivial
  | _ => trivial

theorem Snapshot.step (sound : Sound x) (call' : May config requests pid (x.past pid) call)
    (effect : Effect pid x.store ⟨call, reply⟩ s') (snapshot : Snapshot x.store row) :
    Snapshot s' row := by
  obtain ⟨regular, current, found, evolves⟩ := snapshot
  obtain ⟨new, found', evolves'⟩ := sound.evolves call' effect found
  exact ⟨regular, new, found', evolves.trans evolves'⟩

private theorem snapshot_step (sound : Sound x) (call' : May config requests pid (x.past pid) call)
    (makes : Makes pid call x.store reply s') (effect : Effect pid x.store ⟨call, reply⟩ s')
    (isShown : row ∈ shown ⟨call, reply⟩) : Snapshot s' row := by
  have now {key : WithdrawalId} (found : x.store.withdrawals.lookup key = some row) :
      Snapshot s' row := by
    have isRow := sound.row _ _ found
    exact .step sound call' effect ⟨isRow.regular, row, isRow.keyed.symm ▸ found, .refl row⟩
  rcases reply with failure | value
  · cases call <;> cases isShown
  cases call with
  | createWithdrawal data =>
    cases effect with
    | created =>
      rw [List.mem_singleton.mp isShown]
      exact ⟨⟨fun _ => List.mem_cons_self, by simp [newRow], by simp [newRow]⟩, _,
        Store.save_lookup _ _, .refl _⟩
    | neutral neutral => cases neutral
  | findById id =>
    cases value with
    | none => cases isShown
    | some found =>
      rw [List.mem_singleton.mp isShown] at now ⊢
      exact now makes.findById.symm
  | listForBroadcast chain =>
    obtain ⟨⟨key, found⟩, -⟩ := makes.listForBroadcast isShown
    exact now found
  | listForConfirmation chain =>
    obtain ⟨⟨key, found⟩, -⟩ := makes.listForConfirmation isShown
    exact now found
  | _ => cases isShown

/-- A row that was listed for confirmation has been broadcast. -/
theorem Sound.reported (sound : Sound x) {status : TxConfirmation} (reported : Reported row status past)
    (sub : ∀ made ∈ past, made ∈ x.past pid) :
    4 ≤ phase row ∧ row.status ≠ .rejected ∧ Snapshot x.store row := by
  cases reported with
  | report listed list hash =>
    have member := Logged.mem_past.mp (sub _ (List.mem_cons_of_mem _ list))
    have snapshot := sound.snapshot pid _ member row listed
    have isStatus : row.status = .broadcast ∨ row.status = .confirming := by
      simpa using sound.truthful pid _ member row listed
    have phase : phase row = rank row.status := by
      apply phase_held (snapshot.1.isHeld _)
      rcases isStatus with isStatus | isStatus <;> simp [isStatus]
    rcases isStatus with isStatus | isStatus <;> simp [phase, isStatus, rank, snapshot]

/-- Only the request that has claimed a row changes it. -/
theorem Sound.unclaimed (sound : Sound x) (call' : May config requests pid (x.past pid) call)
    (writes : call = .update id change ∨ call = .updateMany id change)
    (applies : Applies x.store id change row) (signing : row.status = .signing) :
    ∃ owned, owned.id = id ∧ Working owned (x.past pid) := by
  have timely := sound.timely call' writes applies
  have held := (sound.row _ _ applies.found).regular.isHeld (by simp [signing])
  generalize isPast : x.past pid = past at call'
  rcases writes with rfl | rfl
  · cases call' with
    | neutral neutral => cases neutral
    | setHold => simp [show row.holdTxnId = none from timely] at held
    | requestFailed => simp [show row.holdTxnId = none from timely] at held
    | bindingFailed => simp [show row.holdTxnId = none from timely] at held
    | setBroadcast claimed => exact ⟨_, rfl, .sent claimed⟩
  · have possible := applies.applies
    cases call' with
    | neutral neutral => cases neutral
    | markFailed failing =>
      rcases failing.cases with working | ⟨status, reported, -⟩
      · exact ⟨_, rfl, working⟩
      · obtain ⟨late, -, -, current, found, evolves⟩ := sound.reported reported
          fun made member => isPast ▸ member
        cases found.symm.trans applies.found
        have early : phase row = 3 := by rw [phase_held held, signing]; rfl
        have forward := evolves.forward
        omega
    | _ =>
      simp [Change.update, firstApprove, approveSmall, secondApprove, reject, claimForBroadcast,
        setConfirming, markCompleted, signing] at possible

/-- A row in broadcast stays so under the calls of others. -/
private theorem signing_step (sound : Sound x) (call' : May config requests pid (x.past pid) call)
    (effect : Effect pid x.store ⟨call, reply⟩ s') {current : CryptoWithdrawal}
    (found : x.store.withdrawals.lookup id = some current) (signing : current.status = .signing)
    (others : ∀ owned, owned.id = id → ¬Working owned (x.past pid)) :
    s'.withdrawals.lookup id = some current := by
  rcases effect.rows with same | ⟨now, data, -, fresh, rfl⟩ |
    ⟨target, change, old, applies, rfl, writes⟩
  · rwa [same]
  · rwa [Store.save_lookup_ne]
    rintro rfl
    cases fresh.symm.trans found
  · rwa [Store.save_lookup_ne]
    rintro rfl
    rw [Change.set_id, (sound.row _ _ applies.found).keyed] at found others
    cases found.symm.trans applies.found
    obtain ⟨owned, same, working⟩ := sound.unclaimed call'
      (writes.imp (congrArg Answered.call) (congrArg Answered.call)) applies signing
    exact others owned same working

/-- What the last call of a request with a claimed row was. -/
theorem working_last (effect : Effect pid x.store ⟨call, reply⟩ s')
    (working : Working row (⟨call, reply⟩ :: x.past pid)) :
    (∃ old, Applies x.store row.id .claimForBroadcast old ∧
      s' = x.store.save (Change.claimForBroadcast.update.set old)) ∨
      Working row (x.past pid) ∧ s'.withdrawals = x.store.withdrawals := by
  rcases working.last with ⟨count, same, effective⟩ | ⟨working, last⟩
  · cases same
    cases effect with
    | changed applies => exact .inl ⟨_, applies, rfl⟩
    | missed => exact (effective rfl).elim
    | neutral neutral => cases neutral
  · refine .inr ⟨working, ?_⟩
    rcases effect.rows with same | ⟨now, data, made, -⟩ | ⟨target, change, old, -, -, writes⟩
    · exact same
    · cases made
      rcases last with neutral | ⟨signed, same⟩ | ⟨data, failure, same⟩
      · cases neutral
      · cases same
      · cases same
    · rcases writes with made | made <;> cases made <;>
        rcases last with neutral | ⟨signed, same⟩ | ⟨data, failure, same⟩
      · cases neutral
      · cases same
      · cases same
      · cases neutral
      · cases same
      · cases same

private theorem working_step (sound : Sound x) (call' : May config requests pid (x.past pid) call)
    (effect : Effect pid x.store ⟨call, reply⟩ s') (p : WithdrawalId)
    (working : Working row ((⟨s', (pid, ⟨call, reply⟩) :: x.history⟩ : History).past p)) :
    ∃ current, s'.withdrawals.lookup row.id = some current ∧ current.status = .signing := by
  by_cases own : p = pid
  · subst own
    rw [Logged.past_self] at working
    rcases working_last effect working with ⟨old, applies, rfl⟩ | ⟨working, same⟩
    · refine ⟨Change.claimForBroadcast.update.set old, ?_, rfl⟩
      rw [← (sound.row _ _ applies.found).keyed, ← Change.set_id .claimForBroadcast, Store.save_lookup]
    · rw [same]
      exact sound.working p row working
  · rw [Logged.past_ne _ own] at working
    obtain ⟨current, found, signing⟩ := sound.working p row working
    refine ⟨current, signing_step sound call' effect found signing fun owned same working' => ?_, signing⟩
    exact own (sound.alone p pid row owned working working' same.symm)

private theorem alone_step (sound : Sound x) (effect : Effect pid x.store ⟨call, reply⟩ s')
    (p other : WithdrawalId) (row row' : CryptoWithdrawal)
    (working : Working row ((⟨s', (pid, ⟨call, reply⟩) :: x.history⟩ : History).past p))
    (working' : Working row' ((⟨s', (pid, ⟨call, reply⟩) :: x.history⟩ : History).past other))
    (same : row.id = row'.id) : p = other := by
  -- a row that is claimed now was claimed by nobody before
  have fresh {owner : WithdrawalId} {mine theirs : CryptoWithdrawal} (theirs' : Working theirs (x.past owner))
      (mine' : Working mine (⟨call, reply⟩ :: x.past pid)) (same : mine.id = theirs.id) : pid = owner := by
    rcases working_last effect mine' with ⟨old, applies, -⟩ | ⟨mine', -⟩
    · obtain ⟨current, found, signing⟩ := sound.working owner theirs theirs'
      rw [← same] at found
      cases found.symm.trans applies.found
      have approved : old.status = .approved := by
        simpa [Change.update, claimForBroadcast] using applies.applies
      cases signing.symm.trans approved
    · exact sound.alone pid owner mine theirs mine' theirs' same
  by_cases own : p = pid
  · by_cases own' : other = pid
    · exact own.trans own'.symm
    · subst own
      rw [Logged.past_self] at working
      rw [Logged.past_ne _ own'] at working'
      exact fresh working' working same
  · rw [Logged.past_ne _ own] at working
    by_cases own' : other = pid
    · subst own'
      rw [Logged.past_self] at working'
      exact (fresh working working' same.symm).symm
    · rw [Logged.past_ne _ own'] at working'
      exact sound.alone p other row row' working working' same

/-- A row is failed with its hold, as it was listed. -/
theorem Sound.failing (sound : Sound x) (failing : Failing row past)
    (sub : ∀ made ∈ past, made ∈ x.past pid) : row.holdTxnId.isSome ∧ Snapshot x.store row := by
  rcases failing.cases with working | ⟨status, reported, -⟩
  · obtain ⟨rows, listed, list⟩ := working.listed
    have member := Logged.mem_past.mp (sub _ list)
    have snapshot := sound.snapshot pid _ member row listed
    have approved : row.status = .approved := sound.truthful pid _ member row listed
    exact ⟨snapshot.1.isHeld (by simp [approved]), snapshot⟩
  · obtain ⟨late, -, snapshot⟩ := sound.reported reported sub
    exact ⟨held_of_phase (by omega), snapshot⟩

theorem Decided.same {other : CryptoWithdrawal} (decided : Decided row past)
    (decided' : Decided other past) : other.id = row.id := by
  generalize isPast : past = past' at decided'
  cases decided with
  | failed =>
    cases decided' with
    | failed =>
      simp only [List.cons.injEq, Answered.mk.injEq, WithdrawalCall.updateMany.injEq] at isPast
      exact isPast.1.1.1.symm
    | rejected => simp at isPast
  | rejected =>
    cases decided' with
    | failed => simp at isPast
    | rejected =>
      cases isPast
      rfl

/-- A request that has decided a row with its hold is not done with it. -/
theorem Sound.busy (sound : Sound x) (decided : Decided row (x.past pid))
    (held : row.holdTxnId.isSome) : ¬Free (x.past pid) := by
  intro free
  obtain ⟨other, decided', unheld⟩ := free ⟨row, decided⟩
  generalize isPast : x.past pid = past at decided decided'
  cases decided' with
  | failed failing =>
    have held' := (sound.failing failing fun made member => isPast ▸ List.mem_cons_of_mem _ member).1
    simp [unheld] at held'
  | rejected =>
    cases decided with
    | rejected => simp [unheld] at held

/-- The row a request has decided is closed. -/
private theorem decided_closed (sound : Sound x) (effect : Effect pid x.store ⟨call, reply⟩ s')
    (decided : Decided row (⟨call, reply⟩ :: x.past pid)) (held : row.holdTxnId.isSome) :
    ∃ current, s'.withdrawals.lookup row.id = some current ∧ Closed current := by
  -- the row it has read is an earlier state of the row it writes
  have written {change : Change} {old : CryptoWithdrawal} (applies : Applies x.store row.id change old)
      (snapshot : Snapshot x.store row) (other : ∀ holdTxnId, change ≠ .setHold holdTxnId)
      (status : (change.update.set old).status ∈ [WithdrawalStatus.rejected, .failed]) :
      ∃ current, (x.store.save (change.update.set old)).withdrawals.lookup row.id = some current ∧
        Closed current := by
    obtain ⟨-, current, found, evolves⟩ := snapshot
    cases found.symm.trans applies.found
    refine ⟨change.update.set old, ?_, ?_, status⟩
    · rw [← (sound.row _ _ applies.found).keyed, ← Change.set_id change, Store.save_lookup]
    · rw [(change.set_hold old).resolve_left fun ⟨holdTxnId, same⟩ => other holdTxnId same,
        evolves.hold held]
      exact held
  generalize isPast : x.past pid = past at decided
  cases decided with
  | failed failing effective =>
    have snapshot := (sound.failing failing fun made member => isPast ▸ member).2
    cases effect with
    | changed applies => exact written applies snapshot (by simp) (by simp [Change.update, markFailed])
    | missed => exact (effective rfl).elim
    | neutral neutral => cases neutral
  | @rejected id adminId reason count effective =>
    have member := Logged.mem_past.mp (isPast ▸ List.mem_singleton_self _)
    have snapshot := sound.snapshot pid _ member row (List.mem_singleton_self row)
    obtain rfl : row.id = id := sound.truthful pid _ member
    cases effect with
    | changed applies => exact written applies snapshot (by simp) (by simp [Change.update, reject])
    | missed => exact (effective rfl).elim
    | neutral neutral => cases neutral

private theorem closed_step (sound : Sound x) (call' : May config requests pid (x.past pid) call)
    (effect : Effect pid x.store ⟨call, reply⟩ s')
    (before : ∃ current, x.store.withdrawals.lookup id = some current ∧ Closed current) :
    ∃ current, s'.withdrawals.lookup id = some current ∧ Closed current := by
  obtain ⟨current, found, closed⟩ := before
  obtain ⟨new, found', evolves⟩ := sound.evolves call' effect found
  exact ⟨new, found', closed.evolves evolves⟩

private theorem decided_step (sound : Sound x) (call' : May config requests pid (x.past pid) call)
    (effect : Effect pid x.store ⟨call, reply⟩ s') (p : WithdrawalId)
    (decided : Decided row ((⟨s', (pid, ⟨call, reply⟩) :: x.history⟩ : History).past p))
    (held : row.holdTxnId.isSome) :
    ∃ current, s'.withdrawals.lookup row.id = some current ∧ Closed current := by
  by_cases own : p = pid
  · subst own
    rw [Logged.past_self] at decided
    exact decided_closed sound effect decided held
  · rw [Logged.past_ne _ own] at decided
    exact closed_step sound call' effect (sound.decided p row decided held)

theorem May.broadcasting {signed : SignedTransaction}
    (call' : May config requests pid past (.broadcast id signed)) :
    ∃ row, row.id = id ∧ Claimed row past := by
  cases call' with
  | neutral neutral => cases neutral
  | broadcast claimed => exact ⟨_, rfl, claimed⟩

theorem May.failing {reason : String}
    (call' : May config requests pid past (.updateMany id (.markFailed reason))) :
    ∃ row, row.id = id ∧ Failing row past := by
  cases call' with
  | neutral neutral => cases neutral
  | markFailed failing => exact ⟨_, rfl, failing⟩

/-- A hold is placed by the request that has created its row. -/
theorem May.placing {input : LedgerPostingInput ℕ}
    (call' : May config requests pid past (.post input))
    (isHold : input.referenceType = some REF_HOLD) (isTarget : input.referenceId = some id) :
    ∃ row, row.id = id ∧ Created row past := by
  cases call' with
  | neutral neutral => cases neutral
  | placeHold created => exact ⟨_, Option.some.inj isTarget, created⟩
  | releaseHold => simp [Service.releaseHold, REF_RELEASE, REF_HOLD] at isHold
  | finalizeLedger => simp [Service.finalizeLedger, REF_FINAL, REF_HOLD] at isHold

/-- A hold is released by the request that has decided its row. -/
theorem May.releasing {input : LedgerPostingInput ℕ}
    (call' : May config requests pid past (.post input))
    (isRelease : input.referenceType = some REF_RELEASE) (isTarget : input.referenceId = some id) :
    ∃ row, row.id = id ∧ Decided row past ∧ row.holdTxnId.isSome := by
  cases call' with
  | neutral neutral => cases neutral
  | placeHold => simp [Service.placeHold, REF_HOLD, REF_RELEASE] at isRelease
  | releaseHold decided held => exact ⟨_, Option.some.inj isTarget, decided, held⟩
  | finalizeLedger => simp [Service.finalizeLedger, REF_FINAL, REF_RELEASE] at isRelease

/-- A hold is finalised for a row the signer has reported on. -/
theorem May.finalising {input : LedgerPostingInput ℕ}
    (call' : May config requests pid past (.post input))
    (isFinal : input.referenceType = some REF_FINAL) (isTarget : input.referenceId = some id) :
    ∃ row status, row.id = id ∧ Reported row status past ∧ status.success := by
  cases call' with
  | neutral neutral => cases neutral
  | placeHold => simp [Service.placeHold, REF_HOLD, REF_FINAL] at isFinal
  | releaseHold => simp [Service.releaseHold, REF_RELEASE, REF_FINAL] at isFinal
  | finalizeLedger reported success => exact ⟨_, _, Option.some.inj isTarget, reported, success⟩

/-- What any call of the withdrawal service preserves. -/
theorem sound_step (sound : Sound x) (call' : May config requests pid (x.past pid) call)
    (makes : Makes pid call x.store reply s') : Sound ⟨s', (pid, ⟨call, reply⟩) :: x.history⟩ := by
  have effect := call'.effect makes
  refine ⟨fun id row found => row_step sound call' effect found, fun p made member => ?_,
    fun p made member row isShown => ?_, fun p row working => working_step sound call' effect p working,
    fun p other row row' => alone_step sound effect p other row row',
    fun p row decided held => decided_step sound call' effect p decided held, fun id isPosted => ?_,
    fun id isPosted => ?_, fun p input txn member reference id isReference isTarget => ?_⟩
  · rcases List.mem_cons.mp member with same | member
    · cases same
      exact truthful_step sound makes effect
    · exact sound.truthful p made member
  · rcases List.mem_cons.mp member with same | member
    · cases same
      exact snapshot_step sound call' makes effect isShown
    · exact .step sound call' effect (sound.snapshot p made member row isShown)
  · rcases (effect.posted_iff _ _).mp isPosted with before | ⟨input, txn, made, isRelease, isTarget⟩
    · exact closed_step sound call' effect (sound.released id before)
    · cases made
      obtain ⟨row, rfl, decided, held⟩ := call'.releasing isRelease isTarget
      exact closed_step sound call' effect (sound.decided pid row decided held)
  · have late {current : CryptoWithdrawal} (found : x.store.withdrawals.lookup id = some current)
        (late : 4 ≤ phase current) (other : current.status ≠ .rejected) :
        ∃ new, s'.withdrawals.lookup id = some new ∧ 4 ≤ phase new ∧ new.status ≠ .rejected := by
      obtain ⟨new, found', evolves⟩ := sound.evolves call' effect found
      exact ⟨new, found', late.trans evolves.forward, evolves.claimed (by omega) other⟩
    rcases (effect.posted_iff _ _).mp isPosted with before | ⟨input, txn, made, isFinal, isTarget⟩
    · obtain ⟨current, found, started, other⟩ := sound.finalised id before
      exact late found started other
    · cases made
      obtain ⟨row, status, rfl, reported, -⟩ := call'.finalising isFinal isTarget
      obtain ⟨started, other, -, current, found, evolves⟩ := sound.reported reported fun _ member => member
      exact late found (started.trans evolves.forward) (evolves.claimed (by omega) other)
  · refine (effect.posted_iff _ _).mpr ?_
    rcases List.mem_cons.mp member with same | member
    · cases same
      exact .inr ⟨input, txn, rfl, isReference, isTarget⟩
    · exact .inl (sound.answered p input txn member reference id isReference isTarget)

end Step

variable {config : Config} {requests : WithdrawalId → Request} {Initial : Store → Prop}
  {step : WithdrawalId → (call : WithdrawalCall) → History → Except Failure call.Reply → Store → Prop}
  {pool : Pool WithdrawalId WithdrawalCall WithdrawalCall.Reply Failure Unit History}

/-- The invariant holds in every run, whichever calls its steps are narrowed to. -/
theorem run_sound (unused : ∀ s, Initial s → Unused s)
    (makes : ∀ pid call x reply s', step pid call x reply s' → Makes pid call x.store reply s')
    (run : Logged.Run step (IsRequest config requests) Initial pool) : Sound pool.store :=
  run.inv (fun _ _ isRequest => isRequest_obeys isRequest) (fun s initial => sound_unused (unused s initial))
    fun x pid call reply s' sound call' made =>
      sound_step sound call'.1 (makes pid call x reply s' made)

theorem run_orderly (run : Logged.Run step (IsRequest config requests) Initial pool) :
    Logged.Orderly (may config requests) (fun _ => ends) pool :=
  Logged.Run.orderly (fun _ _ isRequest => isRequest_obeys isRequest) run

/-- When no request is in flight, none has a hold to release. -/
theorem run_quiet (run : Logged.Run step (IsRequest config requests) Initial pool) (quiet : pool.Quiet)
    (pid : WithdrawalId) : Free (pool.store.past pid) := by
  rcases (run_orderly run).quiet quiet pid with none | ⟨result, free⟩
  · rw [none]
    exact free_nil
  · exact free

/-! ## Schedules -/

/-- What a call does at time 0, with one signer for each request; some calls
are lost. -/
def act (signers : WithdrawalId → Signer) (isLost : WithdrawalId → WithdrawalCall → Bool)
    (pid : WithdrawalId) (call : WithdrawalCall) (s : Store) :
    Option (Except Failure call.Reply × Store) :=
  some (if isLost pid call then (.error (.error "Connection terminated"), s)
    else perform (signers pid) pid 0 call s)

theorem act_makes {signers : WithdrawalId → Signer} {isLost : WithdrawalId → WithdrawalCall → Bool}
    {pid : WithdrawalId} {call : WithdrawalCall} {s s' : Store} {reply : Except Failure call.Reply}
    (acted : act signers isLost pid call s = some (reply, s')) : Makes pid call s reply s' := by
  have acted := Option.some.inj acted
  split at acted
  · cases acted
    exact .inr ⟨⟨_, rfl, rfl⟩, rfl⟩
  · exact .inl ⟨signers pid, 0, acted⟩

/-- Every transfer is sent as transaction "tx", of which one answer is given. -/
def mockSigner (status : TxConfirmation) : Signer where
  signTransfer _ := .ok ⟨"tx", ""⟩
  broadcast signedTx := .ok signedTx.txHash
  getConfirmations _ := .ok status

/-- User 1 has deposited 100 USDT and may withdraw up to 50 USDT a day to one
address. -/
def smallBank : Store where
  users _ := some ⟨.active, .approved, 1, false⟩
  withdrawalsFrozen := none
  assetChains := [⟨"USDT", "TRON", some "TR7NHqjeKQxGTCi8q8ZY4pL8otSzgjLj6t", 6, 19, true⟩]
  addresses := [⟨1, "TRON", "TXYZ", some 0, none⟩]
  tierLimits _ := some (some 50)
  hotWallets := [⟨1, "TRON", "THOT", .hot, true, some ⟨1, "kms", none⟩⟩]
  nonces := ∅
  withdrawals := ∅
  ledger := (Ledger.post
    { kind := "CRYPTO_DEPOSIT", referenceType := some "deposit", referenceId := some 0, lines :=
      [⟨none, .hotWallet, "USDT", .debit, 100⟩, ⟨some 1, .userAvailable, "USDT", .credit, 100⟩] }
    (∅ : Ledger.Store ℕ)).2

theorem smallBank_unused : Unused smallBank where
  withdrawals := rfl
  postings reference isReference id := by
    have others : smallBank.ledger.transactions.all fun txn =>
        [REF_HOLD, REF_RELEASE, REF_FINAL].all fun reference => txn.referenceType ≠ some reference := by
      decide +kernel
    refine List.any_eq_false.mpr fun txn member => ?_
    have other := List.all_eq_true.mp (List.all_eq_true.mp others txn member) reference isReference
    rw [decide_eq_true_eq] at other
    simp [other]

def smallConfig : Config where
  feeUsdt := 1
  minUsdt := 2
  dualApprovalThreshold := 20

/-- A whole number of USDT for the allowlisted address. -/
def wholeUsdt (n : ℕ) (positive : 0 < n) : CreateWithdrawalDto where
  toAddress := "TXYZ"
  amount := n
  valid := ⟨by exact_mod_cast positive, n * 1000000, by norm_num⟩

def tenUsdt : CreateWithdrawalDto := wholeUsdt 10 (by omega)

def twentyUsdt : CreateWithdrawalDto := wholeUsdt 20 (by omega)

abbrev WithdrawalPool := Pool WithdrawalId WithdrawalCall WithdrawalCall.Reply Failure Unit History

/-- A schedule at the small bank, in which only certain calls are made, with
certain answers. -/
def schedule (signers : WithdrawalId → Signer) (isLost : WithdrawalId → WithdrawalCall → Bool)
    (allows : WithdrawalId → (call : WithdrawalCall) → History → Except Failure call.Reply → Bool)
    (requests : WithdrawalId → Request) (arrivals : List WithdrawalId)
    (turns : List (WithdrawalId × ℕ)) : Option WithdrawalPool :=
  Logged.schedule (act signers isLost) allows (fun pid => (requests pid).program smallConfig) arrivals
    turns ⟨⟨smallBank, []⟩, ∅⟩

theorem schedule_run {signers : WithdrawalId → Signer} {isLost : WithdrawalId → WithdrawalCall → Bool}
    {allows : WithdrawalId → (call : WithdrawalCall) → History → Except Failure call.Reply → Bool}
    {requests : WithdrawalId → Request} {arrivals : List WithdrawalId}
    {turns : List (WithdrawalId × ℕ)} {pool : WithdrawalPool} (initial : Initial smallBank)
    (sound : ∀ pid call x reply s', allows pid call x reply → Makes pid call x.store reply s' →
      step pid call x reply s')
    (played : schedule signers isLost allows requests arrivals turns = some pool) :
    Logged.Run step (IsRequest smallConfig requests) Initial pool := by
  refine (Pool.Run.start ⟨initial, rfl⟩).steps (Logged.schedule_steps ?_ (fun _ => rfl) played)
  exact fun pid call x reply s' acted allowed => sound pid call x reply s' allowed (act_makes acted)

/-- The requests of a pool go on. -/
theorem proceed_steps {signers : WithdrawalId → Signer} {isLost : WithdrawalId → WithdrawalCall → Bool}
    {allows : WithdrawalId → (call : WithdrawalCall) → History → Except Failure call.Reply → Bool}
    {requests : WithdrawalId → Request} {turns : List (WithdrawalId × ℕ)} {pool pool' : WithdrawalPool}
    (sound : ∀ pid call x reply s', allows pid call x reply → Makes pid call x.store reply s' →
      step pid call x reply s')
    (played : Logged.schedule (act signers isLost) allows
      (fun pid => (requests pid).program smallConfig) [] turns pool = some pool') :
    Relation.ReflTransGen (Pool.Step (Logged.protocol step) (IsRequest smallConfig requests))
      pool pool' := by
  refine Logged.schedule_steps ?_ (fun _ => rfl) played
  exact fun pid call x reply s' acted allowed => sound pid call x reply s' allowed (act_makes acted)

end Exchange.Withdrawal.Service
