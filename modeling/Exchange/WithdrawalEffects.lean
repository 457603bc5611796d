import Exchange.LedgerPostings
import Exchange.WithdrawalRules

/-! What the calls of the withdrawal service do to the tables: one row is
created or changed at a time, a posting is added once, and everything else
leaves withdrawals and ledger alone. -/
namespace Exchange.Withdrawal
open Ledger

variable {pid id : WithdrawalId} {s s' : Store} {row : CryptoWithdrawal} {change : Change}

/-- The row `createWithdrawal` inserts. -/
def newRow (id : WithdrawalId) (now : Time) (data : NewWithdrawal) : CryptoWithdrawal :=
  ⟨id, data.userId, data.chain, data.asset, data.toAddress, none, none, Numeric.rounded data.amount,
    Numeric.rounded data.fee, 0, Numeric.rounded data.netAmount, .requested, none, none, none, none,
    none, none, none, now⟩

/-- The store with one row written. -/
def Store.save (s : Store) (row : CryptoWithdrawal) : Store :=
  { s with withdrawals := s.withdrawals.insert row.id row }

@[simp] theorem Change.set_id (change : Change) (row : CryptoWithdrawal) :
    (change.update.set row).id = row.id := by
  cases change <;> rfl

/-- The changes that are written whatever the row says. -/
def Change.isBlind : Change → Bool
  | .setHold _ => true
  | .markRequestFailed _ => true
  | .setBroadcast _ => true
  | _ => false

theorem Change.set_hold (change : Change) (row : CryptoWithdrawal) :
    (∃ holdTxnId, change = .setHold holdTxnId) ∨
      (change.update.set row).holdTxnId = row.holdTxnId := by
  cases change with
  | setHold holdTxnId => exact .inl ⟨holdTxnId, rfl⟩
  | _ => exact .inr rfl

@[simp] theorem Store.save_lookup (s : Store) (row : CryptoWithdrawal) :
    (s.save row).withdrawals.lookup row.id = some row :=
  AList.lookup_insert _

theorem Store.save_lookup_ne (s : Store) (row : CryptoWithdrawal) {other : WithdrawalId}
    (ne : other ≠ row.id) : (s.save row).withdrawals.lookup other = s.withdrawals.lookup other :=
  AList.lookup_insert_ne ne

/-! ## Writes that went through -/

theorem createWithdrawal_ok {now : Time} {data : NewWithdrawal}
    (ok : createWithdrawal id now data s = .ok (row, s')) :
    row = newRow id now data ∧ netChk row ∧ s.withdrawals.lookup id = none ∧ s' = s.save row := by
  simp only [createWithdrawal, except_bind_ok] at ok
  obtain ⟨amount, storedAmount, fee, storedFee, netAmount, storedNet, ok⟩ := ok
  split at ok
  · cases ok
  rename_i valid
  split at ok
  · cases ok
  rename_i fresh
  cases ok
  have same : (⟨id, data.userId, data.chain, data.asset, data.toAddress, none, none, amount, fee, 0,
      netAmount, .requested, none, none, none, none, none, none, none, now⟩ : CryptoWithdrawal) =
        newRow id now data := by
    rw [newRow, (Numeric.store_ok storedAmount).1, (Numeric.store_ok storedFee).1,
      (Numeric.store_ok storedNet).1]
  exact ⟨same, by simpa using valid, by simpa using fresh, rfl⟩

theorem saveRow_ok {row' : CryptoWithdrawal} (ok : saveRow row s = .ok (row', s')) :
    row' = row ∧ netChk row ∧ dualChk row ∧ s' = s.save row := by
  unfold saveRow at ok
  split at ok
  · cases ok
  rename_i net
  split at ok
  · cases ok
  rename_i dual
  split at ok
  · cases ok
  · cases ok
    exact ⟨rfl, by simpa using net, by simpa using dual, rfl⟩

theorem saveRow_failure {failure : Failure} (failed : saveRow row s = .error failure) :
    isDatabaseFailure failure := by
  unfold saveRow at failed
  split at failed
  · cases failed
    rfl
  split at failed
  · cases failed
    rfl
  split at failed
  · cases failed
    rfl
  · cases failed

theorem not_conflict {failure : Failure} (database : isDatabaseFailure failure) :
    failure.isConflictError = false := by
  cases failure with
  | app => cases database
  | prisma => rfl
  | database => rfl
  | error => rfl

/-! ## Calls -/

private theorem written_cases {result : Except Failure (α × Store)}
    (made : written s result = (reply, s')) :
    (∃ value, reply = .ok value ∧ result = .ok (value, s')) ∨
      (∃ failure, reply = .error failure ∧ result = .error failure) ∧ s' = s := by
  cases result with
  | error failure =>
    cases made
    exact .inr ⟨⟨failure, rfl, rfl⟩, rfl⟩
  | ok pair =>
    cases made
    exact .inl ⟨_, rfl, rfl⟩

/-- Neutral calls change nothing but the nonces. -/
theorem Makes.neutral {call : WithdrawalCall} {reply : Except Failure call.Reply}
    (made : Makes pid call s reply s') (neutral : call.isNeutral) :
    ∃ nonces, s' = { s with nonces } := by
  rcases made with ⟨signer, now, made⟩ | ⟨-, rfl⟩
  · cases call with
    | incrementNonce hotWalletId =>
      rcases written_cases made with ⟨nonce, -, ran⟩ | ⟨-, rfl⟩
      · unfold incrementNonce at ran
        split at ran
        · cases ran
        · cases ran
          exact ⟨_, rfl⟩
      · exact ⟨_, rfl⟩
    | createNonce hotWalletId =>
      rcases written_cases made with ⟨nonce, -, ran⟩ | ⟨-, rfl⟩
      · unfold createNonce at ran
        split at ran
        · cases ran
        · cases ran
          exact ⟨_, rfl⟩
      · exact ⟨_, rfl⟩
    | createWithdrawal => cases neutral
    | update => cases neutral
    | updateMany => cases neutral
    | broadcast => cases neutral
    | post => cases neutral
    | setWithdrawalFreeze => cases neutral
    | _ =>
      cases made
      exact ⟨_, rfl⟩
  · exact ⟨_, rfl⟩

theorem Makes.broadcast {signed : SignedTransaction} {reply : Except Failure String}
    (made : Makes pid (.broadcast id signed) s reply s') : s' = s := by
  rcases made with ⟨signer, now, made⟩ | ⟨-, rfl⟩
  · cases made
    rfl
  · rfl

theorem Makes.setWithdrawalFreeze {enabled : Bool} {reply : Except Failure Unit}
    (made : Makes pid (.setWithdrawalFreeze enabled) s reply s') :
    s' = { s with withdrawalsFrozen := some enabled } ∧ reply = .ok () ∨
      s' = s ∧ ∃ failure, reply = .error failure := by
  rcases made with ⟨signer, now, made⟩ | ⟨⟨failure, -, rfl⟩, rfl⟩
  · cases made
    exact .inl ⟨rfl, rfl⟩
  · exact .inr ⟨rfl, failure, rfl⟩

/-- A creation throws, or inserts the row of its request. -/
theorem Makes.createWithdrawal {data : NewWithdrawal} {reply : Except Failure CryptoWithdrawal}
    (made : Makes pid (.createWithdrawal data) s reply s') :
    (∃ now row, reply = .ok row ∧ row = newRow pid now data ∧ netChk row ∧
      s.withdrawals.lookup pid = none ∧ s' = s.save row) ∨
      (∃ failure, reply = .error failure) ∧ s' = s := by
  rcases made with ⟨signer, now, made⟩ | ⟨⟨failure, -, rfl⟩, rfl⟩
  · rcases written_cases made with ⟨row, rfl, ran⟩ | ⟨⟨failure, rfl, -⟩, rfl⟩
    · obtain ⟨isNew, net, fresh, rfl⟩ := createWithdrawal_ok ran
      exact .inl ⟨now, row, rfl, isNew, net, fresh, rfl⟩
    · exact .inr ⟨⟨failure, rfl⟩, rfl⟩
  · exact .inr ⟨⟨failure, rfl⟩, rfl⟩

/-- The row an update applies to, which satisfies the checks afterwards. -/
structure Applies (s : Store) (id : WithdrawalId) (change : Change) (row : CryptoWithdrawal) :
    Prop where
  found : s.withdrawals.lookup id = some row
  applies : change.update.applies row
  net : netChk (change.update.set row)
  dual : dualChk (change.update.set row)

/-- An update throws, or writes the row. -/
theorem Makes.update {reply : Except Failure CryptoWithdrawal}
    (unconditional : ∀ row, change.update.applies row)
    (made : Makes pid (.update id change) s reply s') :
    (∃ row, Applies s id change row ∧ reply = .ok (change.update.set row) ∧
      s' = s.save (change.update.set row)) ∨
      (∃ failure, reply = .error failure ∧ failure.isConflictError = false) ∧ s' = s := by
  rcases made with ⟨signer, now, made⟩ | ⟨⟨failure, database, rfl⟩, rfl⟩
  · rcases written_cases made with ⟨updated, rfl, ran⟩ | ⟨⟨failure, rfl, ran⟩, rfl⟩
    · unfold Withdrawal.update at ran
      split at ran
      · cases ran
      · rename_i row found
        obtain ⟨rfl, net, dual, rfl⟩ := saveRow_ok ran
        exact .inl ⟨row, ⟨found, unconditional row, net, dual⟩, rfl, rfl⟩
    · refine .inr ⟨⟨failure, rfl, not_conflict ?_⟩, rfl⟩
      unfold Withdrawal.update at ran
      split at ran
      · cases ran
        rfl
      · exact saveRow_failure ran
  · exact .inr ⟨⟨failure, rfl, not_conflict database⟩, rfl⟩

/-- A conditional update throws, finds no row, or writes the one it finds. -/
theorem Makes.updateMany {reply : Except Failure ℕ}
    (made : Makes pid (.updateMany id change) s reply s') :
    (∃ row, Applies s id change row ∧ reply = .ok 1 ∧ s' = s.save (change.update.set row)) ∨
      s' = s ∧ ((reply = .ok 0 ∧ ∀ row, s.withdrawals.lookup id = some row →
        change.update.applies row = false) ∨ ∃ failure, reply = .error failure) := by
  rcases made with ⟨signer, now, made⟩ | ⟨⟨failure, -, rfl⟩, rfl⟩
  · rcases written_cases made with ⟨count, rfl, ran⟩ | ⟨⟨failure, rfl, -⟩, rfl⟩
    · unfold Withdrawal.updateMany at ran
      split at ran
      · rename_i none
        cases ran
        refine .inr ⟨rfl, .inl ⟨rfl, fun row found => ?_⟩⟩
        simpa [found] using none
      · rename_i row found
        obtain ⟨found, applies⟩ := Option.filter_eq_some_iff.mp found
        cases saved : saveRow (change.update.set row) s with
        | error failure =>
          rw [saved] at ran
          cases ran
        | ok pair =>
          obtain ⟨row', store⟩ := pair
          rw [saved] at ran
          cases ran
          obtain ⟨rfl, net, dual, rfl⟩ := saveRow_ok saved
          exact .inl ⟨row, ⟨found, applies, net, dual⟩, rfl, rfl⟩
    · exact .inr ⟨rfl, .inr ⟨failure, rfl⟩⟩
  · exact .inr ⟨rfl, .inr ⟨failure, rfl⟩⟩

/-- A posting throws, or finds itself posted, or adds one transaction. -/
theorem Makes.post {input : LedgerPostingInput ℕ} {reply : Except Failure (LedgerTransaction ℕ)}
    (made : Makes pid (.post input) s reply s') :
    (∃ failure, reply = .error failure) ∧ s' = s ∨
    (∃ txn, reply = .ok txn ∧ s' = s ∧
      findExistingPosting s.ledger input.referenceType input.referenceId = some txn) ∨
    ∃ txn ledger, reply = .ok txn ∧ Recorded s.ledger input txn ledger ∧
      findExistingPosting s.ledger input.referenceType input.referenceId = none ∧
      s' = { s with ledger } := by
  rcases made with ⟨signer, now, made⟩ | ⟨⟨failure, -, rfl⟩, rfl⟩
  · cases posted : Ledger.post input s.ledger with
    | mk outcome ledger =>
      simp only [perform, posted, Prod.mk.injEq] at made
      obtain ⟨rfl, rfl⟩ := made
      rcases post_cases posted with ⟨failure, rfl, rfl⟩ | ⟨txn, rfl, rfl, found⟩ |
        ⟨txn, rfl, recorded, fresh⟩
      · exact .inl ⟨⟨failure, rfl⟩, rfl⟩
      · exact .inr (.inl ⟨txn, rfl, rfl, found⟩)
      · exact .inr (.inr ⟨txn, ledger, rfl, recorded, fresh, rfl⟩)
  · exact .inl ⟨⟨failure, rfl⟩, rfl⟩

/-! ## Answers of queries -/

theorem Makes.findById {found : Option CryptoWithdrawal}
    (made : Makes pid (.findById id) s (.ok found) s') : found = s.withdrawals.lookup id := by
  rcases made with ⟨signer, now, made⟩ | ⟨⟨failure, -, same⟩, -⟩
  · cases made
    rfl
  · cases same

theorem Makes.findUserKyc {userId : UserId} {found : Option UserKyc}
    (made : Makes pid (.findUserKyc userId) s (.ok found) s') : found = s.users userId := by
  rcases made with ⟨signer, now, made⟩ | ⟨⟨failure, -, same⟩, -⟩
  · cases made
    rfl
  · cases same

theorem Makes.getTierLimit {kycTier : ℤ} {limit : Option (Option Decimal)}
    (made : Makes pid (.getTierLimit kycTier) s (.ok limit) s') : limit = s.tierLimits kycTier := by
  rcases made with ⟨signer, now, made⟩ | ⟨⟨failure, -, same⟩, -⟩
  · cases made
    rfl
  · cases same

theorem mem_listByStatus {chain : String} {statuses : List WithdrawalStatus}
    (member : row ∈ listByStatus s chain statuses) :
    (∃ key, s.withdrawals.lookup key = some row) ∧ row.status ∈ statuses := by
  unfold listByStatus at member
  rw [(List.perm_insertionSort _ _).mem_iff, List.mem_filter, List.mem_map] at member
  obtain ⟨⟨⟨key, _⟩, isRow, rfl⟩, matching⟩ := member
  simp only [Bool.and_eq_true, decide_eq_true_eq] at matching
  exact ⟨⟨key, Table.mem_rows.mp isRow⟩, matching.2⟩

theorem Makes.listForBroadcast {chain : String} {rows : List CryptoWithdrawal}
    (made : Makes pid (.listForBroadcast chain) s (.ok rows) s') (member : row ∈ rows) :
    (∃ key, s.withdrawals.lookup key = some row) ∧ row.status = .approved := by
  rcases made with ⟨signer, now, made⟩ | ⟨⟨failure, -, same⟩, -⟩
  · cases made
    simpa using mem_listByStatus member
  · cases same

theorem Makes.listForConfirmation {chain : String} {rows : List CryptoWithdrawal}
    (made : Makes pid (.listForConfirmation chain) s (.ok rows) s') (member : row ∈ rows) :
    (∃ key, s.withdrawals.lookup key = some row) ∧
      row.status ∈ [WithdrawalStatus.broadcast, .confirming] := by
  rcases made with ⟨signer, now, made⟩ | ⟨⟨failure, -, same⟩, -⟩
  · cases made
    exact mem_listByStatus member
  · cases same

/-! ## One call -/

/-- What a call did, by its answer. -/
inductive Effect (pid : WithdrawalId) (s : Store) :
    Answered WithdrawalCall WithdrawalCall.Reply Failure → Store → Prop
  | created {now : Time} {data : NewWithdrawal} (net : netChk (newRow pid now data))
      (fresh : s.withdrawals.lookup pid = none) :
      Effect pid s ⟨.createWithdrawal data, .ok (newRow pid now data)⟩ (s.save (newRow pid now data))
  | updated {id : WithdrawalId} {change : Change} {row : CryptoWithdrawal}
      (applies : Applies s id change row) :
      Effect pid s ⟨.update id change, .ok (change.update.set row)⟩
        (s.save (change.update.set row))
  | changed {id : WithdrawalId} {change : Change} {row : CryptoWithdrawal}
      (applies : Applies s id change row) :
      Effect pid s ⟨.updateMany id change, .ok 1⟩ (s.save (change.update.set row))
  | missed {id : WithdrawalId} {change : Change}
      (none : ∀ row, s.withdrawals.lookup id = some row → change.update.applies row = false) :
      Effect pid s ⟨.updateMany id change, .ok 0⟩ s
  | entered {input : LedgerPostingInput ℕ} {txn : LedgerTransaction ℕ} {ledger : Ledger.Store ℕ}
      (recorded : Recorded s.ledger input txn ledger)
      (fresh : findExistingPosting s.ledger input.referenceType input.referenceId = none) :
      Effect pid s ⟨.post input, .ok txn⟩ { s with ledger }
  | repeated {input : LedgerPostingInput ℕ} {txn : LedgerTransaction ℕ}
      (found : findExistingPosting s.ledger input.referenceType input.referenceId = some txn) :
      Effect pid s ⟨.post input, .ok txn⟩ s
  | frozen {enabled : Bool} :
      Effect pid s ⟨.setWithdrawalFreeze enabled, .ok ()⟩ { s with withdrawalsFrozen := some enabled }
  | sent {id : WithdrawalId} {signed : SignedTransaction} {txHash : String} :
      Effect pid s ⟨.broadcast id signed, .ok txHash⟩ s
  | neutral {call : WithdrawalCall} {reply : Except Failure call.Reply} {nonces : Table ℕ ℕ}
      (neutral : call.isNeutral) : Effect pid s ⟨call, reply⟩ { s with nonces }
  | failed {call : WithdrawalCall} {failure : Failure} (writes : call.isNeutral = false)
      (database : ∀ id change, call = .update id change → failure.isConflictError = false) :
      Effect pid s ⟨call, .error failure⟩ s

theorem Makes.effect {call : WithdrawalCall} {reply : Except Failure call.Reply}
    (unconditional : ∀ id change, call = .update id change → ∀ row, change.update.applies row)
    (made : Makes pid call s reply s') : Effect pid s ⟨call, reply⟩ s' := by
  by_cases neutral : call.isNeutral
  · obtain ⟨nonces, rfl⟩ := made.neutral neutral
    exact .neutral neutral
  cases call with
  | createWithdrawal data =>
    rcases made.createWithdrawal with ⟨now, row, rfl, rfl, net, fresh, rfl⟩ | ⟨⟨failure, rfl⟩, rfl⟩
    · exact .created net fresh
    · exact .failed rfl (by simp)
  | update id change =>
    rcases made.update (unconditional id change rfl) with
      ⟨row, applies, rfl, rfl⟩ | ⟨⟨failure, rfl, database⟩, rfl⟩
    · exact .updated applies
    · exact .failed rfl fun _ _ _ => database
  | updateMany id change =>
    rcases made.updateMany with ⟨row, applies, rfl, rfl⟩ | ⟨rfl, ⟨rfl, none⟩ | ⟨failure, rfl⟩⟩
    · exact .changed applies
    · exact .missed none
    · exact .failed rfl (by simp)
  | broadcast id signed =>
    obtain rfl := made.broadcast
    cases reply with
    | ok txHash => exact .sent
    | error failure => exact .failed rfl (by simp)
  | post input =>
    rcases made.post with ⟨⟨failure, rfl⟩, rfl⟩ | ⟨txn, rfl, rfl, found⟩ |
      ⟨txn, ledger, rfl, recorded, fresh, rfl⟩
    · exact .failed rfl (by simp)
    · exact .repeated found
    · exact .entered recorded fresh
  | setWithdrawalFreeze enabled =>
    rcases made.setWithdrawalFreeze with ⟨rfl, rfl⟩ | ⟨rfl, failure, rfl⟩
    · exact .frozen
    · exact .failed rfl (by simp)
  | _ => exact (neutral rfl).elim

variable {made : Answered WithdrawalCall WithdrawalCall.Reply Failure}

/-- A call changes no row, adds the row of its request, or changes one row. -/
theorem Effect.rows (effect : Effect pid s made s') : s'.withdrawals = s.withdrawals ∨
    (∃ now data, made = ⟨.createWithdrawal data, .ok (newRow pid now data)⟩ ∧
      s.withdrawals.lookup pid = none ∧ s' = s.save (newRow pid now data)) ∨
    ∃ id change row, Applies s id change row ∧ s' = s.save (change.update.set row) ∧
      (made = ⟨.update id change, .ok (change.update.set row)⟩ ∨
        made = ⟨.updateMany id change, .ok 1⟩) := by
  cases effect with
  | created net fresh => exact .inr (.inl ⟨_, _, rfl, fresh, rfl⟩)
  | updated applies => exact .inr (.inr ⟨_, _, _, applies, rfl, .inl rfl⟩)
  | changed applies => exact .inr (.inr ⟨_, _, _, applies, rfl, .inr rfl⟩)
  | _ => exact .inl rfl

/-- No call changes users or limits. -/
theorem Effect.limits (effect : Effect pid s made s') :
    s'.users = s.users ∧ s'.tierLimits = s.tierLimits := by
  cases effect <;> exact ⟨rfl, rfl⟩

/-- A posting with this reference exists. -/
def posted (s : Store) (reference : String) (id : WithdrawalId) : Bool :=
  s.ledger.isPosted reference id

@[simp] theorem posted_save (s : Store) (row : CryptoWithdrawal) (reference : String)
    (id : WithdrawalId) : posted (s.save row) reference id = posted s reference id := rfl

/-- A posting is there once it was answered, and no other call adds one. -/
theorem Effect.posted_iff (effect : Effect pid s made s') (reference : String) (id : WithdrawalId) :
    posted s' reference id ↔ posted s reference id ∨ ∃ input txn, made = ⟨.post input, .ok txn⟩ ∧
      input.referenceType = some reference ∧ input.referenceId = some id := by
  cases effect with
  | @entered input txn ledger recorded fresh =>
    refine (isPosted_recorded recorded reference id).trans (or_congr_right ?_)
    simp
  | @repeated input txn found =>
    refine ⟨.inl, fun now => now.elim (fun before => before) ?_⟩
    rintro ⟨_, _, made, isReference, isTarget⟩
    cases made
    rw [isReference, isTarget] at found
    exact isPosted_of_found found
  | neutral neutral =>
    refine ⟨.inl, fun now => now.elim (fun before => before) ?_⟩
    rintro ⟨_, _, made, -⟩
    cases made
    cases neutral
  | frozen => simp [posted]
  | failed =>
    refine ⟨.inl, fun now => now.elim (fun before => before) ?_⟩
    rintro ⟨_, _, made, -⟩
    cases made
  | _ => simp

end Exchange.Withdrawal
