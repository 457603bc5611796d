import Exchange.WithdrawalService

/-! The rules the withdrawal requests follow: which calls a request makes
after which answers. What one request knows when it writes is all here; what
the rows look like by then is not. -/
namespace Exchange.Withdrawal

/-- Calls that change no withdrawal, no posting and no flag, and broadcast
nothing. -/
def WithdrawalCall.isNeutral : WithdrawalCall → Bool
  | .createWithdrawal _ => false
  | .update _ _ => false
  | .updateMany _ _ => false
  | .broadcast _ _ => false
  | .post _ => false
  | .setWithdrawalFreeze _ => false
  | _ => true

namespace Service
open Ledger Async

/-- The calls a request has made, latest first. -/
abbrev Past := List (Answered WithdrawalCall WithdrawalCall.Reply Failure)

def Neutral (past : Past) : Prop := ∀ made ∈ past, made.call.isNeutral

/-- The request has created its row, last. -/
inductive Created (row : CryptoWithdrawal) : Past → Prop
  | create {data : NewWithdrawal} {past : Past} (neutral : Neutral past) :
      Created row (⟨.createWithdrawal data, .ok row⟩ :: past)

/-- The request has claimed a listed row, and has broadcast nothing since. -/
inductive Claimed (row : CryptoWithdrawal) : Past → Prop
  | claim {rows : List CryptoWithdrawal} {count : ℕ} {past : Past} (listed : row ∈ rows)
      (list : ⟨.listForBroadcast CHAIN, .ok rows⟩ ∈ past) (effective : count ≠ 0) :
      Claimed row (⟨.updateMany row.id .claimForBroadcast, .ok count⟩ :: past)
  | neutral {made : Answered WithdrawalCall WithdrawalCall.Reply Failure} {past : Past}
      (claimed : Claimed row past) (neutral : made.call.isNeutral) : Claimed row (made :: past)

/-- The request has listed a row whose transaction the signer has just
reported on. -/
inductive Reported (row : CryptoWithdrawal) (status : TxConfirmation) : Past → Prop
  | report {rows : List CryptoWithdrawal} {txHash : String} {past : Past} (listed : row ∈ rows)
      (list : ⟨.listForConfirmation CHAIN, .ok rows⟩ ∈ past) (hash : row.txHash = some txHash) :
      Reported row status (⟨.getConfirmations txHash, .ok status⟩ :: past)

/-- The request has a reason to fail a row. -/
inductive Failing (row : CryptoWithdrawal) : Past → Prop
  | unsent {past : Past} (claimed : Claimed row past) : Failing row past
  | refused {signed : SignedTransaction} {failure : Failure} {past : Past}
      (claimed : Claimed row past) :
      Failing row (⟨.broadcast row.id signed, .error failure⟩ :: past)
  | unrecorded {signed : SignedTransaction} {txHash : String} {data : BroadcastData}
      {failure : Failure} {past : Past} (claimed : Claimed row past) :
      Failing row (⟨.update row.id (.setBroadcast data), .error failure⟩ ::
        ⟨.broadcast row.id signed, .ok txHash⟩ :: past)
  | unsuccessful {status : TxConfirmation} {past : Past} (reported : Reported row status past)
      (found : status.found) (unsuccessful : status.success = false) : Failing row past

/-- The request has failed or rejected a row, last. -/
inductive Decided (row : CryptoWithdrawal) : Past → Prop
  | failed {reason : String} {count : ℕ} {past : Past} (failing : Failing row past)
      (effective : count ≠ 0) :
      Decided row (⟨.updateMany row.id (.markFailed reason), .ok count⟩ :: past)
  | rejected {id : WithdrawalId} {adminId : AdminId} {reason : String} {count : ℕ}
      (effective : count ≠ 0) :
      Decided row [⟨.updateMany id (.reject adminId reason), .ok count⟩,
        ⟨.findById id, .ok (some row)⟩]

/-- The request has no hold to release. -/
def Free (past : Past) : Prop :=
  (∃ row, Decided row past) → ∃ row, Decided row past ∧ row.holdTxnId = none

/-- The daily limit was checked against a sum read before. -/
def LimitChecked (past : Past) (userId : UserId) (amount : Decimal) : Prop :=
  ∃ user limit, ⟨.findUserKyc userId, .ok (some user)⟩ ∈ past ∧
    ⟨.getTierLimit user.kycTier, .ok limit⟩ ∈ past ∧ ∀ usdtDailyWithdrawal,
      limit.join = some usdtDailyWithdrawal → ∃ today : Decimal,
        ⟨.sumTodayWithdrawals userId ASSET, .ok today⟩ ∈ past ∧
          today.add amount ≤ usdtDailyWithdrawal

variable (config : Config) (requests : WithdrawalId → Request) (pid : WithdrawalId)

/-- The calls a request may make. -/
inductive May : Past → WithdrawalCall → Prop
  | neutral {past : Past} {call : WithdrawalCall} (neutral : call.isNeutral) : May past call
  | create {userId : UserId} {input : CreateWithdrawalDto} {net : Decimal} {past : Past}
      (request : requests pid = .requestWithdrawal userId input)
      (isNet : netAmount config input.amount = .ok net) (neutral : Neutral past)
      (limit : LimitChecked past userId input.amount) :
      May past (.createWithdrawal (newWithdrawal config userId input net))
  | placeHold {row : CryptoWithdrawal} {past : Past} (created : Created row past) :
      May past (.post (placeHold row))
  | setHold {row : CryptoWithdrawal} {txn : LedgerTransaction ℕ} {past : Past}
      (created : Created row past) :
      May (⟨.post (placeHold row), .ok txn⟩ :: past) (.update row.id (.setHold txn.id))
  | requestFailed {row : CryptoWithdrawal} {failure : Failure} {reason : String} {past : Past}
      (created : Created row past) (conflict : failure.isConflictError) :
      May (⟨.post (placeHold row), .error failure⟩ :: past)
        (.update row.id (.markRequestFailed reason))
  | bindingFailed {row : CryptoWithdrawal} {txn : LedgerTransaction ℕ} {failure : Failure}
      {reason : String} {past : Past} (conflict : failure.isConflictError) :
      May (⟨.update row.id (.setHold txn.id), .error failure⟩ :: past)
        (.update row.id (.markRequestFailed reason))
  | firstApprove {id : WithdrawalId} {adminId : AdminId} {row : CryptoWithdrawal} {past : Past}
      (request : requests pid = .approve id (some adminId))
      (found : ⟨.findById id, .ok (some row)⟩ ∈ past) (large : isLarge config row) :
      May past (.updateMany id (.firstApprove adminId))
  | approveSmall {id : WithdrawalId} {adminId : AdminId} {row : CryptoWithdrawal} {past : Past}
      (request : requests pid = .approve id (some adminId))
      (found : ⟨.findById id, .ok (some row)⟩ ∈ past) (small : isLarge config row = false) :
      May past (.updateMany id (.approveSmall adminId))
  | secondApprove {id : WithdrawalId} {first second : AdminId} {past : Past}
      (request : requests pid = .approve id (some second)) (different : first ≠ second) :
      May past (.updateMany id (.secondApprove first second))
  | reject {id : WithdrawalId} {adminId : AdminId} {reason : String} {row : CryptoWithdrawal}
      (request : requests pid = .reject id reason (some adminId)) :
      May [⟨.findById id, .ok (some row)⟩] (.updateMany id (.reject adminId reason))
  | releaseHold {row : CryptoWithdrawal} {past : Past} (decided : Decided row past)
      (held : row.holdTxnId.isSome) : May past (.post (releaseHold row))
  | claim {row : CryptoWithdrawal} {rows : List CryptoWithdrawal} {past : Past}
      (listed : row ∈ rows) (list : ⟨.listForBroadcast CHAIN, .ok rows⟩ ∈ past) :
      May past (.updateMany row.id .claimForBroadcast)
  | broadcast {row : CryptoWithdrawal} {signed : SignedTransaction} {past : Past}
      (claimed : Claimed row past) : May past (.broadcast row.id signed)
  | setBroadcast {row : CryptoWithdrawal} {signed : SignedTransaction} {txHash : String}
      {data : BroadcastData} {past : Past} (claimed : Claimed row past)
      (hash : data.txHash = txHash) :
      May (⟨.broadcast row.id signed, .ok txHash⟩ :: past) (.update row.id (.setBroadcast data))
  | markFailed {row : CryptoWithdrawal} {reason : String} {past : Past}
      (failing : Failing row past) : May past (.updateMany row.id (.markFailed reason))
  | finalizeLedger {row : CryptoWithdrawal} {status : TxConfirmation} {past : Past}
      (reported : Reported row status past) (success : status.success) :
      May past (.post (finalizeLedger row))
  | markCompleted {row : CryptoWithdrawal} {txn : LedgerTransaction ℕ} {status : TxConfirmation}
      {past : Past} (reported : Reported row status past) :
      May (⟨.post (Service.finalizeLedger row), .ok txn⟩ :: past)
        (.updateMany row.id (.markCompleted txn.id))
  | setConfirming {row : CryptoWithdrawal} {status : TxConfirmation} {past : Past}
      (reported : Reported row status past) : May past (.updateMany row.id .setConfirming)
  | freeze {enabled : Bool} {past : Past} (request : requests pid = .setWithdrawalFreeze enabled) :
      May past (.setWithdrawalFreeze enabled)

/-- A request that has a hold to release does that next. -/
def may (past : Past) (call : WithdrawalCall) : Prop :=
  May config requests pid past call ∧
    (Free past ∨ ∃ row, Decided row past ∧ row.holdTxnId.isSome ∧ call = .post (releaseHold row))

def ends {α : Type} (past : Past) (_ : Except Failure α) : Prop := Free past

variable {config requests pid}

/-! ## Pasts -/

theorem free_nil : Free [] := by
  rintro ⟨row, ⟨⟩⟩

theorem Free.cons {made : Answered WithdrawalCall WithdrawalCall.Reply Failure} (past : Past)
    (other : ∀ id change, made.call ≠ .updateMany id change) : Free (made :: past) := by
  rintro ⟨row, decided⟩
  cases decided with
  | failed => exact (other _ _ rfl).elim
  | rejected => exact (other _ _ rfl).elim

theorem Free.neutral {made : Answered WithdrawalCall WithdrawalCall.Reply Failure} (past : Past)
    (neutral : made.call.isNeutral) : Free (made :: past) := by
  refine Free.cons past fun id change same => ?_
  rw [same] at neutral
  cases neutral

/-- An update without effect decides nothing. -/
theorem Free.idle {id : WithdrawalId} {change : Change} {reply : Except Failure ℕ} (past : Past)
    (idle : ∀ count, reply = .ok count → count = 0) : Free (⟨.updateMany id change, reply⟩ :: past) := by
  rintro ⟨row, decided⟩
  cases decided with
  | failed failing effective => exact (effective (idle _ rfl)).elim
  | rejected effective => exact (effective (idle _ rfl)).elim

/-- Only failing and rejecting release a hold. -/
theorem Free.change {id : WithdrawalId} {change : Change} {reply : Except Failure ℕ} (past : Past)
    (noFail : ∀ reason, change ≠ .markFailed reason)
    (noReject : ∀ adminId reason, change ≠ .reject adminId reason) :
    Free (⟨.updateMany id change, reply⟩ :: past) := by
  rintro ⟨row, decided⟩
  cases decided with
  | failed => exact (noFail _ rfl).elim
  | rejected => exact (noReject _ _ rfl).elim

theorem May.free {past : Past} {call : WithdrawalCall} (call' : May config requests pid past call)
    (free : Free past) : may config requests pid past call := ⟨call', .inl free⟩

/-- Neutral calls have been made since. -/
def Extends (past past' : Past) : Prop := ∃ since, past' = since ++ past ∧ Neutral since

theorem Extends.refl (past : Past) : Extends past past := ⟨[], rfl, by simp [Neutral]⟩

theorem Extends.cons {past past' : Past} {made : Answered WithdrawalCall WithdrawalCall.Reply Failure}
    (extends' : Extends past past') (neutral : made.call.isNeutral) :
    Extends past (made :: past') := by
  obtain ⟨since, rfl, isNeutral⟩ := extends'
  exact ⟨made :: since, rfl, List.forall_mem_cons.mpr ⟨neutral, isNeutral⟩⟩

theorem Extends.trans {past past' past'' : Past} (first : Extends past past')
    (second : Extends past' past'') : Extends past past'' := by
  obtain ⟨since, rfl, neutral⟩ := first
  obtain ⟨later, rfl, neutral'⟩ := second
  exact ⟨later ++ since, (List.append_assoc ..).symm, List.forall_mem_append.mpr ⟨neutral', neutral⟩⟩

theorem Extends.mem {past past' : Past} {made : Answered WithdrawalCall WithdrawalCall.Reply Failure}
    (extends' : Extends past past') (member : made ∈ past) : made ∈ past' := by
  obtain ⟨since, rfl, -⟩ := extends'
  exact List.mem_append_right since member

theorem Extends.neutral {past past' : Past} (extends' : Extends past past')
    (neutral : Neutral past) : Neutral past' := by
  obtain ⟨since, rfl, isNeutral⟩ := extends'
  exact List.forall_mem_append.mpr ⟨isNeutral, neutral⟩

theorem Extends.free {past past' : Past} (extends' : Extends past past') (free : Free past) :
    Free past' := by
  obtain ⟨since, rfl, neutral⟩ := extends'
  cases since with
  | nil => exact free
  | cons made since => exact Free.neutral _ (neutral made List.mem_cons_self)

theorem Extends.claimed {past past' : Past} {row : CryptoWithdrawal}
    (extends' : Extends past past') (claimed : Claimed row past) : Claimed row past' := by
  obtain ⟨since, rfl, neutral⟩ := extends'
  induction since with
  | nil => exact claimed
  | cons made since ih =>
    obtain ⟨head, tail⟩ := List.forall_mem_cons.mp neutral
    exact .neutral (ih tail) head

/-! ## Programs -/

variable {past : Past}

/-- A neutral call may always be made. -/
theorem obeys_neutral {call : WithdrawalCall}
    {post : Past → Except Failure call.Reply → Prop} (free : Free past)
    (neutral : call.isNeutral)
    (next : ∀ reply, Extends past (⟨call, reply⟩ :: past) → post (⟨call, reply⟩ :: past) reply) :
    (ask call).Obeys (may config requests pid) post past :=
  obeys_call.mpr ⟨(May.neutral neutral).free free, fun reply =>
    next reply ((Extends.refl past).cons neutral)⟩

/-- Only neutral calls were made, and a value that was returned is known. -/
def Learned (past : Past) (fact : Past → α → Prop) (past' : Past) : Except Failure α → Prop
  | .ok value => Extends past past' ∧ fact past' value
  | .error _ => Extends past past'

theorem assertMayWithdraw_obeys {userId : UserId} (free : Free past) :
    (assertMayWithdraw userId).Obeys (may config requests pid)
      (Learned past fun past' user => ⟨.findUserKyc userId, .ok (some user)⟩ ∈ past') past := by
  unfold assertMayWithdraw
  rw [obeys_bind]
  apply obeys_neutral free rfl
  rintro (failure | freeze) asked
  · exact asked
  dsimp only
  split
  · exact asked
  rw [obeys_bind]
  apply obeys_neutral (asked.free free) rfl
  rintro (failure | found) found'
  · exact asked.trans found'
  have now := asked.trans found'
  cases found with
  | none => exact now
  | some user =>
    dsimp only
    split
    · exact now
    split
    · exact now
    split
    · exact now
    exact ⟨now, List.mem_cons_self⟩

theorem assertAllowlisted_obeys {userId : UserId} {toAddress : String} (free : Free past) :
    (assertAllowlisted userId toAddress).Obeys (may config requests pid)
      (Learned past fun _ _ => True) past := by
  unfold assertAllowlisted
  rw [obeys_bind]
  apply obeys_neutral free rfl
  rintro (failure | token) asked
  · exact asked
  dsimp only
  split
  · exact asked
  rw [obeys_bind]
  apply obeys_neutral (asked.free free) rfl
  rintro (failure | allow) allowed
  · exact asked.trans allowed
  have now := asked.trans allowed
  cases allow with
  | none => exact now
  | some address =>
    dsimp only
    rw [obeys_bind]
    apply obeys_neutral (now.free free) rfl
    rintro (failure | time) timed
    · exact now.trans timed
    dsimp only
    split
    · exact now.trans timed
    · exact ⟨now.trans timed, trivial⟩

theorem assertDailyLimit_obeys {userId : UserId} {user : UserKyc} {amount : Decimal}
    (free : Free past) (known : ⟨.findUserKyc userId, .ok (some user)⟩ ∈ past) :
    (assertDailyLimit userId user.kycTier amount).Obeys (may config requests pid)
      (Learned past fun past' _ => LimitChecked past' userId amount) past := by
  unfold assertDailyLimit
  rw [obeys_bind]
  apply obeys_neutral free rfl
  rintro (failure | limit) asked
  · exact asked
  dsimp only
  cases isLimit : limit.join with
  | none =>
    refine ⟨asked, user, limit, asked.mem known, List.mem_cons_self, fun _ same => ?_⟩
    rw [isLimit] at same
    cases same
  | some usdtDailyWithdrawal =>
    dsimp only
    rw [obeys_bind]
    apply obeys_neutral (asked.free free) rfl
    rintro (failure | today) summed
    · exact asked.trans summed
    have now := asked.trans summed
    dsimp only
    split
    · exact now
    · rename_i within
      refine ⟨now, user, limit, now.mem known, summed.mem List.mem_cons_self,
        fun _ same => ⟨today, List.mem_cons_self, ?_⟩⟩
      rw [isLimit] at same
      cases same
      exact not_lt.mp within

theorem holdFunds_obeys {row : CryptoWithdrawal} (created : Created row past) :
    (holdFunds row).Obeys (may config requests pid) (ends (α := CryptoWithdrawal)) past := by
  have free : Free past := by
    cases created
    exact Free.cons _ (by simp)
  unfold holdFunds
  rw [obeys_tryCatch, obeys_bind, obeys_call]
  refine ⟨(May.placeHold created).free free, ?_⟩
  rintro (failure | posting)
  · dsimp only
    split
    · rename_i conflict
      rw [obeys_bind, obeys_call]
      refine ⟨(May.requestFailed created conflict).free (Free.cons _ (by simp)), ?_⟩
      rintro (_ | _) <;> exact Free.cons _ (by simp)
    · exact Free.cons _ (by simp)
  · dsimp only
    refine obeys_call.mpr ⟨(May.setHold created).free (Free.cons _ (by simp)), ?_⟩
    rintro (failure | updated)
    · dsimp only
      split
      · rename_i conflict
        rw [obeys_bind, obeys_call]
        refine ⟨(May.bindingFailed conflict).free (Free.cons _ (by simp)), ?_⟩
        rintro (_ | _) <;> exact Free.cons _ (by simp)
      · exact Free.cons _ (by simp)
    · exact Free.cons _ (by simp)

theorem requestWithdrawal_obeys {userId : UserId} {input : CreateWithdrawalDto}
    (request : requests pid = .requestWithdrawal userId input) :
    (requestWithdrawal config userId input).Obeys (may config requests pid) ends [] := by
  have start : Neutral [] := by simp [Neutral]
  unfold requestWithdrawal
  rw [obeys_bind]
  apply (assertMayWithdraw_obeys free_nil).imp
  rintro past (failure | user) known
  · exact known.free free_nil
  obtain ⟨asked, known⟩ := known
  dsimp only
  rw [obeys_bind]
  apply (assertAllowlisted_obeys (asked.free free_nil)).imp
  rintro past' (failure | _) allowed
  · exact (asked.trans allowed).free free_nil
  have now := asked.trans allowed.1
  dsimp only
  cases isNet : netAmount config input.amount with
  | error failure => exact now.free free_nil
  | ok net =>
    dsimp only
    rw [obeys_bind]
    apply (assertDailyLimit_obeys (now.free free_nil) (allowed.1.mem known)).imp
    rintro past'' (failure | _) checked
    · exact (now.trans checked).free free_nil
    have before := now.trans checked.1
    dsimp only
    rw [obeys_bind, obeys_call]
    refine ⟨(May.create request isNet (before.neutral start) checked.2).free
      (before.free free_nil), ?_⟩
    rintro (failure | row)
    · exact Free.cons _ (by simp)
    · exact holdFunds_obeys (.create (before.neutral start))

/-! ## Decisions -/

theorem reviewed_obeys {id : WithdrawalId} {adminId : AdminId} {action : String}
    (free : Free past) :
    (reviewed id adminId action).Obeys (may config requests pid) (ends (α := Option CryptoWithdrawal))
      past := by
  unfold reviewed
  rw [obeys_bind]
  apply obeys_neutral free rfl
  rintro (failure | updated) read
  · exact read.free free
  dsimp only
  rw [obeys_bind]
  apply obeys_neutral (read.free free) rfl
  rintro (failure | _) logged <;> exact logged.free (read.free free)

private theorem firstReview_may {id : WithdrawalId} {adminId : AdminId} {row : CryptoWithdrawal}
    (request : requests pid = .approve id (some adminId))
    (found : ⟨.findById id, .ok (some row)⟩ ∈ past) :
    May config requests pid past (.updateMany id (firstReview config row adminId).1) := by
  unfold firstReview
  split
  · rename_i large
    exact .firstApprove request found large
  · rename_i small
    exact .approveSmall request found (by simpa using small)

theorem approve_obeys {id : WithdrawalId} {actorId : Option AdminId}
    (request : requests pid = .approve id actorId) :
    (approve config id actorId).Obeys (may config requests pid) ends [] := by
  unfold approve
  cases actorId with
  | none => exact free_nil
  | some adminId =>
    dsimp only
    rw [obeys_bind]
    apply obeys_neutral free_nil rfl
    rintro (failure | found) read
    · exact read.free free_nil
    have free := read.free free_nil
    cases found with
    | none => exact free
    | some existing =>
      dsimp only
      split
      · split
        · exact free
        · rename_i firstAdminId _ different
          rw [obeys_bind, obeys_call]
          refine ⟨(May.secondApprove request different).free free, ?_⟩
          rintro (failure | count)
          · exact Free.idle _ (by simp)
          dsimp only
          split
          · exact Free.change _ (by simp) (by simp)
          · exact reviewed_obeys (Free.change _ (by simp) (by simp))
      · split
        · split
          · exact free
          · exact free
        · rw [obeys_bind, obeys_call]
          have decided (reply : Except Failure ℕ) :
              Free (⟨.updateMany id (firstReview config existing adminId).1, reply⟩ ::
                [⟨.findById id, .ok (some existing)⟩]) := by
            apply Free.change
            · intro reason
              unfold firstReview
              split <;> simp
            · intro adminId reason
              unfold firstReview
              split <;> simp
          refine ⟨(firstReview_may request List.mem_cons_self).free free, ?_⟩
          rintro (failure | count)
          · exact decided _
          dsimp only
          split
          · exact decided _
          · exact reviewed_obeys (decided _)

theorem rejectWithdrawal_obeys {id : WithdrawalId} {reason : String} {actorId : Option AdminId}
    (request : requests pid = .reject id reason actorId) :
    (rejectWithdrawal id reason actorId).Obeys (may config requests pid) ends [] := by
  unfold rejectWithdrawal
  rw [obeys_bind]
  apply obeys_neutral free_nil rfl
  rintro (failure | found) read
  · exact read.free free_nil
  have free := read.free free_nil
  cases found with
  | none => exact free
  | some existing =>
    dsimp only
    cases actorId with
    | none => exact free
    | some adminId =>
      dsimp only
      rw [obeys_bind, obeys_call]
      refine ⟨(May.reject request).free free, ?_⟩
      have logged {past' : Past} (free' : Free past') :
          Obeys (may config requests pid) (ends (α := Option CryptoWithdrawal)) past' (do
            ask (.writeAdminLog adminId "crypto.withdrawal.rejected" id)
            ask (.findById id)) := by
        rw [obeys_bind]
        apply obeys_neutral free' rfl
        rintro (failure | _) log
        · exact log.free free'
        apply obeys_neutral (log.free free') rfl
        exact fun _ read => read.free (log.free free')
      rintro (failure | count)
      · exact Free.idle _ (by simp)
      dsimp only
      split
      · rename_i none
        have idle : Free (⟨.updateMany id (.reject adminId reason), .ok count⟩ ::
            [⟨.findById id, .ok (some existing)⟩]) := Free.idle _ (by simp [none])
        split <;> exact idle
      · rename_i effective
        split
        · rename_i held
          rw [obeys_bind, obeys_call]
          have decided : Decided existing [⟨.updateMany id (.reject adminId reason), .ok count⟩,
            ⟨.findById id, .ok (some existing)⟩] := .rejected effective
          refine ⟨⟨.releaseHold decided held, .inr ⟨existing, decided, held, rfl⟩⟩, ?_⟩
          rintro (failure | txn)
          · exact Free.cons _ (by simp)
          · exact logged (Free.cons _ (by simp))
        · rename_i unheld
          exact logged fun _ => ⟨existing, .rejected effective, by simpa using unheld⟩

/-! ## Execution -/

/-- The request goes on with nothing to release, knowing what it knew. -/
def Onward (past past' : Past) : Prop := Free past' ∧ past ⊆ past'

theorem Onward.trans {past past' past'' : Past} (first : Onward past past')
    (second : Onward past' past'') : Onward past past'' :=
  ⟨second.1, fun _ member => second.2 (first.2 member)⟩

theorem Extends.onward {past past' : Past} (extends' : Extends past past') (free : Free past) :
    Onward past past' :=
  ⟨extends'.free free, fun _ => extends'.mem⟩

theorem failWithdrawal_obeys {row : CryptoWithdrawal} {reason : String} (free : Free past)
    (failing : Failing row past) :
    (failWithdrawal row reason).Obeys (may config requests pid)
      (fun past' _ => Onward past past') past := by
  have onward {made : Answered WithdrawalCall WithdrawalCall.Reply Failure} {past' : Past}
      (free' : Free (made :: past')) (sub : past ⊆ past') : Onward past (made :: past') :=
    ⟨free', fun _ member => List.mem_cons_of_mem _ (sub member)⟩
  unfold failWithdrawal
  rw [obeys_bind, obeys_call]
  refine ⟨(May.markFailed failing).free free, ?_⟩
  rintro (failure | count)
  · exact onward (Free.idle _ (by simp)) fun _ member => member
  dsimp only
  split
  · rename_i none
    exact onward (Free.idle _ (by simp [none])) fun _ member => member
  rename_i effective
  split
  · rename_i held
    rw [obeys_bind, obeys_call]
    have decided : Decided row (⟨.updateMany row.id (.markFailed reason), .ok count⟩ :: past) :=
      .failed failing effective
    refine ⟨⟨.releaseHold decided held, .inr ⟨row, decided, held, rfl⟩⟩, ?_⟩
    rintro (failure | txn) <;>
      exact onward (Free.cons _ (by simp)) fun _ member => List.mem_cons_of_mem _ member
  · rename_i unheld
    exact onward (fun _ => ⟨row, .failed failing effective, by simpa using unheld⟩)
      fun _ member => member

theorem finalizeWithdrawal_obeys {row : CryptoWithdrawal} {status : TxConfirmation}
    (free : Free past) (reported : Reported row status past) (success : status.success) :
    (finalizeWithdrawal row).Obeys (may config requests pid) (fun past' _ => Onward past past')
      past := by
  unfold finalizeWithdrawal
  split
  · exact ⟨free, fun _ member => member⟩
  rw [obeys_bind, obeys_call]
  refine ⟨(May.finalizeLedger reported success).free free, ?_⟩
  rintro (failure | posting)
  · exact ⟨Free.cons _ (by simp), fun _ member => List.mem_cons_of_mem _ member⟩
  dsimp only
  rw [obeys_bind, obeys_call]
  refine ⟨(May.markCompleted reported).free (Free.cons _ (by simp)), ?_⟩
  rintro (failure | count) <;>
    exact ⟨Free.change _ (by simp) (by simp),
      fun _ member => List.mem_cons_of_mem _ (List.mem_cons_of_mem _ member)⟩

theorem allocateNonce_obeys {hotWalletId : ℕ} (free : Free past) :
    (allocateNonce hotWalletId).Obeys (may config requests pid) (Learned past fun _ _ => True)
      past := by
  unfold allocateNonce
  rw [obeys_tryCatch]
  apply obeys_neutral free rfl
  rintro (failure | nonce) first
  swap
  · exact ⟨first, trivial⟩
  dsimp only
  split
  swap
  · exact first
  rw [obeys_tryCatch]
  apply obeys_neutral (first.free free) rfl
  rintro (createFailure | nonce) second
  swap
  · exact ⟨first.trans second, trivial⟩
  have now := first.trans second
  dsimp only
  split
  swap
  · exact now
  apply obeys_neutral (now.free free) rfl
  rintro (failure' | nonce) third
  · exact now.trans third
  · exact ⟨now.trans third, trivial⟩

theorem transferInput_obeys {row : CryptoWithdrawal} (free : Free past) :
    (transferInput row).Obeys (may config requests pid) (Learned past fun _ _ => True) past := by
  unfold transferInput
  rw [obeys_bind]
  apply obeys_neutral free rfl
  rintro (failure | token) asked
  · exact asked
  dsimp only
  split
  swap
  · exact asked
  rw [obeys_bind]
  apply obeys_neutral (asked.free free) rfl
  rintro (failure | wallet) picked
  · exact asked.trans picked
  have now := asked.trans picked
  dsimp only
  split
  swap
  · exact now
  rw [obeys_bind]
  apply (allocateNonce_obeys (now.free free)).imp
  rintro past' (failure | nonce) allocated
  · exact now.trans allocated
  dsimp only
  split
  · exact now.trans allocated.1
  · exact ⟨now.trans allocated.1, trivial⟩

/-- Whatever throws on the way, the request then has a reason to fail the
row. -/
theorem signAndBroadcast_obeys {row : CryptoWithdrawal} (free : Free past)
    (claimed : Claimed row past) :
    (signAndBroadcast row).Obeys (may config requests pid) (fun past' result =>
      Onward past past' ∧ (result = .ok () ∨ Failing row past')) past := by
  have onward {made : Answered WithdrawalCall WithdrawalCall.Reply Failure} {past' : Past}
      (free' : Free (made :: past')) (sub : past ⊆ past') : Onward past (made :: past') :=
    ⟨free', fun _ member => List.mem_cons_of_mem _ (sub member)⟩
  unfold signAndBroadcast
  rw [obeys_bind]
  apply (transferInput_obeys free).imp
  rintro past' (failure | ⟨hot, input⟩) sent
  · exact ⟨sent.onward free, .inr (.unsent (sent.claimed claimed))⟩
  obtain ⟨sent, -⟩ := sent
  dsimp only
  rw [obeys_bind]
  apply obeys_neutral (sent.free free) rfl
  rintro (failure | signed) asked
  · exact ⟨(sent.trans asked).onward free, .inr (.unsent ((sent.trans asked).claimed claimed))⟩
  have now := sent.trans asked
  have claimed' := now.claimed claimed
  have sub := (now.onward free).2
  dsimp only
  rw [obeys_bind, obeys_call]
  refine ⟨(May.broadcast claimed').free (now.free free), ?_⟩
  rintro (failure | txHash)
  · exact ⟨onward (Free.cons _ (by simp)) sub, .inr (.refused claimed')⟩
  dsimp only
  rw [obeys_bind, obeys_call]
  refine ⟨May.free (.setBroadcast claimed' rfl) (Free.cons _ (by simp)), ?_⟩
  rintro (failure | updated)
  · exact ⟨onward (Free.cons _ (by simp)) fun _ member => List.mem_cons_of_mem _ (sub member),
      .inr (.unrecorded claimed')⟩
  · exact ⟨onward (Free.cons _ (by simp)) fun _ member => List.mem_cons_of_mem _ (sub member),
      .inl rfl⟩

theorem broadcastWithdrawal_obeys {row : CryptoWithdrawal} {rows : List CryptoWithdrawal}
    (free : Free past) (listed : row ∈ rows) (list : ⟨.listForBroadcast CHAIN, .ok rows⟩ ∈ past) :
    (broadcastWithdrawal row).Obeys (may config requests pid) (fun past' _ => Onward past past')
      past := by
  unfold broadcastWithdrawal
  rw [obeys_bind, obeys_call]
  refine ⟨(May.claim listed list).free free, ?_⟩
  have decided (reply : Except Failure ℕ) :
      Onward past (⟨.updateMany row.id .claimForBroadcast, reply⟩ :: past) :=
    ⟨Free.change _ (by simp) (by simp), fun _ member => List.mem_cons_of_mem _ member⟩
  rintro (failure | count)
  · exact decided _
  dsimp only
  split
  · exact decided _
  rename_i effective
  rw [obeys_tryCatch, obeys_bind]
  apply (signAndBroadcast_obeys (decided _).1 (.claim listed list effective)).imp
  rintro past' (failure | _) ⟨onward, failing⟩
  · dsimp only
    rw [obeys_bind]
    apply (failWithdrawal_obeys onward.1 (by simpa using failing)).imp
    rintro past'' (failure' | failed) later <;>
      exact ((decided _).trans onward).trans later
  · exact (decided _).trans onward

theorem broadcastAll_obeys {pending rows : List CryptoWithdrawal} (free : Free past)
    (listed : pending ⊆ rows) (list : ⟨.listForBroadcast CHAIN, .ok rows⟩ ∈ past) :
    (broadcastAll pending).Obeys (may config requests pid) (fun past' _ => Onward past past')
      past := by
  induction pending generalizing past with
  | nil => exact ⟨free, fun _ member => member⟩
  | cons row pending ih =>
    obtain ⟨isListed, listed⟩ := List.cons_subset.mp listed
    unfold broadcastAll
    rw [obeys_bind]
    apply (broadcastWithdrawal_obeys free isListed list).imp
    rintro past' (failure | broadcast) onward
    · exact onward
    dsimp only
    rw [obeys_bind]
    apply (ih onward.1 listed (onward.2 list)).imp
    rintro past'' (failure | later) further <;> exact onward.trans further

theorem runBroadcastCycle_obeys (free : Free past) :
    runBroadcastCycle.Obeys (may config requests pid) (fun past' _ => Onward past past') past := by
  unfold runBroadcastCycle
  rw [obeys_bind]
  apply obeys_neutral free rfl
  rintro (failure | pending) read
  · exact read.onward free
  apply (broadcastAll_obeys (read.free free) (List.Subset.refl pending) List.mem_cons_self).imp
  exact fun _ _ onward => (read.onward free).trans onward

theorem confirmAll_obeys {inFlight rows : List CryptoWithdrawal} {minConf : ℕ} (free : Free past)
    (listed : inFlight ⊆ rows) (list : ⟨.listForConfirmation CHAIN, .ok rows⟩ ∈ past) :
    (confirmAll minConf inFlight).Obeys (may config requests pid)
      (fun past' _ => Onward past past') past := by
  induction inFlight generalizing past with
  | nil => exact ⟨free, fun _ member => member⟩
  | cons row inFlight ih =>
    obtain ⟨isListed, listed⟩ := List.cons_subset.mp listed
    have further {past' : Past} (onward : Onward past past') :
        (confirmAll minConf inFlight).Obeys (may config requests pid)
          (fun past'' _ => Onward past past'') past' :=
      (ih onward.1 listed (onward.2 list)).imp fun _ _ later => onward.trans later
    unfold confirmAll
    cases hash : row.txHash with
    | none => exact further ⟨free, fun _ member => member⟩
    | some txHash =>
      dsimp only
      rw [obeys_bind]
      apply obeys_neutral free rfl
      rintro (failure | status) asked
      · exact asked.onward free
      have onward := asked.onward free
      have reported : Reported row status (⟨.getConfirmations txHash, .ok status⟩ :: past) :=
        .report isListed list hash
      dsimp only
      split
      · exact further onward
      rename_i found
      split
      · rename_i unsuccessful
        rw [obeys_bind]
        apply (failWithdrawal_obeys onward.1 (.unsuccessful reported (by simpa using found)
          (by simpa using unsuccessful))).imp
        rintro past' (failure | failed) later
        · exact onward.trans later
        dsimp only
        rw [obeys_bind]
        apply (further (onward.trans later)).imp
        rintro past'' (failure | result) done <;> exact done
      rename_i success
      split
      · rw [obeys_bind]
        apply (finalizeWithdrawal_obeys onward.1 reported (by simpa using success)).imp
        rintro past' (failure | completed) later
        · exact onward.trans later
        dsimp only
        rw [obeys_bind]
        apply (further (onward.trans later)).imp
        rintro past'' (failure | result) done <;> exact done
      · split
        · rw [obeys_bind, obeys_call]
          refine ⟨(May.setConfirming reported).free onward.1, ?_⟩
          have set (reply : Except Failure ℕ) :
              Onward past (⟨.updateMany row.id .setConfirming, reply⟩ ::
                ⟨.getConfirmations txHash, .ok status⟩ :: past) :=
            ⟨Free.change _ (by simp) (by simp),
              fun _ member => List.mem_cons_of_mem _ (onward.2 member)⟩
          rintro (failure | count)
          · exact set _
          dsimp only
          rw [obeys_bind]
          apply (further (set _)).imp
          rintro past'' (failure | result) done <;> exact done
        · exact further onward

theorem runConfirmationCycle_obeys (free : Free past) :
    runConfirmationCycle.Obeys (may config requests pid) (fun past' _ => Onward past past')
      past := by
  unfold runConfirmationCycle
  rw [obeys_bind]
  apply obeys_neutral free rfl
  rintro (failure | token) asked
  · exact asked.onward free
  dsimp only
  rw [obeys_bind]
  apply obeys_neutral (asked.free free) rfl
  rintro (failure | inFlight) read
  · exact (asked.trans read).onward free
  have now := asked.trans read
  apply (confirmAll_obeys (now.free free) (List.Subset.refl inFlight) List.mem_cons_self).imp
  exact fun _ _ onward => (now.onward free).trans onward

/-- Every request follows the rules. -/
theorem isRequest_obeys {program : WithdrawalM Unit}
    (isRequest : IsRequest config requests pid program) :
    program.Obeys (may config requests pid) ends [] := by
  have discard {α : Type} {program : WithdrawalM α}
      (obeys : program.Obeys (may config requests pid) (fun past _ => Free past) []) :
      (do let _ ← program).Obeys (may config requests pid) ends [] := by
    rw [obeys_bind]
    apply obeys.imp
    rintro past (failure | value) free <;> exact free
  have onward {α : Type} {program : WithdrawalM α}
      (obeys : program.Obeys (may config requests pid) (fun past _ => Onward [] past) []) :
      (do let _ ← program).Obeys (may config requests pid) ends [] :=
    discard (obeys.imp fun _ _ later => later.1)
  rw [isRequest]
  cases request : requests pid with
  | requestWithdrawal userId input => exact discard (requestWithdrawal_obeys request)
  | approve id actorId => exact discard (approve_obeys request)
  | reject id reason actorId => exact discard (rejectWithdrawal_obeys request)
  | broadcastCycle => exact onward (runBroadcastCycle_obeys free_nil)
  | confirmationCycle => exact onward (runConfirmationCycle_obeys free_nil)
  | withdrawalCycle =>
    apply onward
    unfold runWithdrawalCycle
    rw [obeys_bind]
    apply (runBroadcastCycle_obeys free_nil).imp
    rintro past (failure | broadcast) first
    · exact first
    dsimp only
    rw [obeys_bind]
    apply (runConfirmationCycle_obeys first.1).imp
    rintro past' (failure | confirmed) second <;> exact first.trans second
  | setWithdrawalFreeze enabled =>
    refine obeys_call.mpr ⟨(May.freeze request).free free_nil, ?_⟩
    exact fun _ => Free.cons _ (by simp)

end Service
end Exchange.Withdrawal
