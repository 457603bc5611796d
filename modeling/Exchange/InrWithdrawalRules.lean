import Exchange.InrWithdrawalService

/-! The rules the INR-withdrawal requests follow: which calls a request makes
after which answers. -/
namespace Exchange.InrWithdrawals

/-- Calls that change nothing. -/
def WithdrawalCall.isNeutral : WithdrawalCall → Bool
  | .findUserState _ => true
  | .getInrWallet _ => true
  | .findById _ => true
  | .writeAdminLog _ _ _ => true
  | _ => false

/-- The two ways a reservation ends. -/
inductive Settlement where
  | release
  | payout
  deriving DecidableEq, Repr

/-- The settlement a change of the row stands for. -/
def Change.settlement : Change → Option Settlement
  | .approve _ => none
  | .reject _ _ => some .release
  | .markPaid _ => some .payout

namespace Service
open Ledger Async

def referenceType : Settlement → String
  | .release => WITHDRAWAL_RELEASE_REFERENCE_TYPE
  | .payout => WITHDRAWAL_PAYOUT_REFERENCE_TYPE

theorem referenceType_ne_lock (settlement : Settlement) :
    referenceType settlement ≠ WITHDRAWAL_REFERENCE_TYPE := by
  cases settlement <;> decide

theorem referenceType_injective : Function.Injective referenceType := by
  intro settlement other same
  cases settlement <;> cases other <;> first | rfl | exact absurd same (by decide)

/-- The calls a request has made, latest first. -/
abbrev Past := List (Answered WithdrawalCall WithdrawalCall.Reply Failure)

def Neutral (past : Past) : Prop := ∀ made ∈ past, made.call.isNeutral

/-- The request has posted a settlement, last; the change of the row is owed. -/
inductive Owes (settlement : Settlement) (id : WithdrawalId) : Past → Prop
  | posted {input : LedgerPostingInput ℕ} {txn : LedgerTransaction ℕ} {past : Past}
      (isType : input.referenceType = some (referenceType settlement))
      (isTarget : input.referenceId = some id) : Owes settlement id (⟨.post input, .ok txn⟩ :: past)

variable (pid : WithdrawalId)

/-- The calls a request may make. -/
inductive May : Past → WithdrawalCall → Prop
  | neutral {past : Past} {call : WithdrawalCall} (neutral : call.isNeutral) : May past call
  | create {data : NewWithdrawal} {past : Past} (neutral : Neutral past) : May past (.create data)
  | lock {userId : UserId} {amount : Decimal} {row : InrWithdrawal} {past : Past} :
      May (⟨.create ⟨userId, amount⟩, .ok row⟩ :: past) (.post (lockPosting pid userId amount))
  | setLockTxn {userId : UserId} {amount : Decimal} {txn : LedgerTransaction ℕ} {past : Past} :
      May (⟨.post (lockPosting pid userId amount), .ok txn⟩ :: past) (.setLockTxn pid txn.id)
  | deleteIfPending {userId : UserId} {amount : Decimal} {failure : Failure} {past : Past} :
      May (⟨.post (lockPosting pid userId amount), .error failure⟩ :: past) (.deleteIfPending pid)
  | approve {id : WithdrawalId} {adminId : AdminId} {existing : InrWithdrawal}
      (pending : existing.status = .pending) :
      May [⟨.findById id, .ok (some existing)⟩] (.updateMany id (.approve adminId))
  | release {id : WithdrawalId} {existing : InrWithdrawal}
      (reserved : existing.status = .pending ∨ existing.status = .approved) :
      May [⟨.findById id, .ok (some existing)⟩] (.post (releasePosting id existing))
  | reject {id : WithdrawalId} {adminId : AdminId} {reason : String} {existing : InrWithdrawal}
      {txn : LedgerTransaction ℕ} {past : Past} :
      May (⟨.post (releasePosting id existing), .ok txn⟩ :: past)
        (.updateMany id (.reject adminId reason))
  | payout {id : WithdrawalId} {existing : InrWithdrawal} (approved : existing.status = .approved) :
      May [⟨.findById id, .ok (some existing)⟩] (.post (payoutPosting id existing))
  | markPaid {id : WithdrawalId} {data : PaidData} {existing : InrWithdrawal}
      {txn : LedgerTransaction ℕ} {past : Past} :
      May (⟨.post (payoutPosting id existing), .ok txn⟩ :: past) (.updateMany id (.markPaid data))

/-- The request owes nothing. -/
def Free (past : Past) : Prop := ∀ settlement id, ¬Owes settlement id past

/-- A request that owes the change of a row makes it next. -/
def may (past : Past) (call : WithdrawalCall) : Prop :=
  May pid past call ∧ ∀ settlement id, Owes settlement id past →
    ∃ change : Change, call = .updateMany id change ∧ change.settlement = some settlement

def ends {α : Type} (past : Past) (_ : Except Failure α) : Prop := Free past

variable {pid} {past : Past}

/-! ## Pasts -/

theorem free_nil : Free [] := by
  rintro settlement id ⟨⟩

theorem Free.cons {made : Answered WithdrawalCall WithdrawalCall.Reply Failure} (past : Past)
    (other : ∀ input txn, made ≠ ⟨.post input, .ok txn⟩) : Free (made :: past) := by
  intro settlement id owes
  cases owes
  exact other _ _ rfl

/-- A lock is no settlement. -/
theorem Free.locked {userId : UserId} {amount : Decimal}
    {reply : Except Failure (LedgerTransaction ℕ)} :
    Free (⟨.post (lockPosting pid userId amount), reply⟩ :: past) := by
  intro settlement id owes
  cases owes with
  | posted isType => exact referenceType_ne_lock settlement (Option.some.inj isType).symm

theorem May.free {call : WithdrawalCall} (call' : May pid past call)
    (free : Free past) : may pid past call :=
  ⟨call', fun settlement id owes => (free settlement id owes).elim⟩

/-! ## Programs -/

/-- A neutral call may be made when nothing is owed, and nothing is owed then. -/
theorem obeys_neutral {call : WithdrawalCall} {post : Past → Except Failure call.Reply → Prop}
    (free : Free past) (neutral : call.isNeutral)
    (next : ∀ reply, Free (⟨call, reply⟩ :: past) → post (⟨call, reply⟩ :: past) reply) :
    (ask call).Obeys (may pid) post past := by
  refine obeys_call.mpr ⟨(May.neutral neutral).free free, fun reply => next reply ?_⟩
  refine Free.cons past ?_
  rintro input txn same
  cases same
  cases neutral

/-- Only neutral calls were made. -/
def Idle (past : Past) (_ : Except Failure α) : Prop := Neutral past ∧ Free past

theorem assertMayWithdraw_obeys {userId : UserId} :
    (assertMayWithdraw userId).Obeys (may pid) Idle [] := by
  unfold assertMayWithdraw
  rw [obeys_bind]
  apply obeys_neutral free_nil rfl
  rintro (failure | found) free
  · exact ⟨by simp [Neutral, WithdrawalCall.isNeutral], free⟩
  have now : Idle [⟨.findUserState userId, .ok found⟩] (.ok ()) :=
    ⟨by simp [Neutral, WithdrawalCall.isNeutral], free⟩
  cases found with
  | none => exact now
  | some user =>
    dsimp only
    split
    · exact now
    split
    · exact now
    split
    · exact now
    · exact now

theorem assertAvailable_obeys {userId : UserId} {amount : Decimal} (neutral : Neutral past)
    (free : Free past) : (assertAvailable userId amount).Obeys (may pid) Idle past := by
  unfold assertAvailable
  rw [obeys_bind, obeys_tryCatch]
  apply obeys_neutral free rfl
  rintro (failure | available) free
  · have now : Neutral (⟨.getInrWallet userId, .error failure⟩ :: past) :=
      List.forall_mem_cons.mpr ⟨rfl, neutral⟩
    dsimp only
    rw [obeys_pure]
    dsimp only
    split <;> exact ⟨now, free⟩
  · have now : Neutral (⟨.getInrWallet userId, .ok available⟩ :: past) :=
      List.forall_mem_cons.mpr ⟨rfl, neutral⟩
    dsimp only
    split <;> exact ⟨now, free⟩

theorem reserve_obeys {userId : UserId} {amount : Decimal} {row : InrWithdrawal} :
    (reserve pid userId amount).Obeys (may pid) ends (⟨.create ⟨userId, amount⟩, .ok row⟩ :: past) := by
  unfold reserve
  rw [obeys_bind, obeys_tryCatch, obeys_bind, obeys_call]
  refine ⟨May.lock.free (Free.cons past (by simp)), ?_⟩
  rintro (failure | txn)
  · dsimp only
    rw [obeys_bind]
    refine obeys_call.mpr ⟨May.deleteIfPending.free Free.locked, ?_⟩
    rintro (failure | _)
    · exact Free.cons _ (by simp)
    · dsimp only
      split <;> exact Free.cons _ (by simp)
  · dsimp only
    rw [obeys_pure]
    refine obeys_call.mpr ⟨May.setLockTxn.free Free.locked, ?_⟩
    rintro (failure | bound) <;> exact Free.cons _ (by simp)

theorem requestWithdrawal_obeys {config : Config} {userId : UserId} {input : CreateWithdrawalInput} :
    (requestWithdrawal config pid userId input).Obeys (may pid) ends [] := by
  unfold requestWithdrawal
  rw [obeys_bind]
  apply assertMayWithdraw_obeys.imp
  rintro past (failure | _) ⟨neutral, free⟩
  · exact free
  dsimp only
  split
  · exact free
  rw [obeys_bind]
  apply (assertAvailable_obeys neutral free).imp
  rintro past (failure | _) ⟨neutral, free⟩
  · exact free
  dsimp only
  rw [obeys_bind, obeys_call]
  refine ⟨(May.create neutral).free free, ?_⟩
  rintro (failure | row)
  · exact Free.cons _ (by simp)
  · exact reserve_obeys

/-! ## Decisions -/

theorem applyChange_obeys {id : WithdrawalId} {change : Change} {actorId : AdminId} {action : String}
    (call' : may pid past (.updateMany id change)) :
    (applyChange id change actorId action).Obeys (may pid) ends past := by
  unfold applyChange
  rw [obeys_bind, obeys_call]
  refine ⟨call', ?_⟩
  rintro (failure | count)
  · exact Free.cons _ (by simp)
  dsimp only
  rw [obeys_bind]
  apply obeys_neutral (Free.cons _ (by simp)) rfl
  rintro (failure | found) free
  · exact free
  cases found with
  | none => exact free
  | some row =>
    dsimp only
    split
    · rw [obeys_bind]
      apply obeys_neutral free rfl
      rintro (failure | _) free <;> exact free
    · exact free

theorem approve_obeys {id : WithdrawalId} {actorId : Option AdminId} :
    (approve id actorId).Obeys (may pid) ends [] := by
  unfold approve
  cases actorId with
  | none => exact free_nil
  | some adminId =>
    dsimp only
    rw [obeys_bind]
    apply obeys_neutral free_nil rfl
    rintro (failure | found) free
    · exact free
    cases found with
    | none => exact free
    | some existing =>
      dsimp only
      split
      · exact free
      split
      · exact free
      · rename_i pending
        exact applyChange_obeys ((May.approve (not_not.mp pending)).free free)

theorem reject_obeys {id : WithdrawalId} {reason : String} {actorId : Option AdminId} :
    (reject id reason actorId).Obeys (may pid) ends [] := by
  unfold reject
  cases actorId with
  | none => exact free_nil
  | some adminId =>
    dsimp only
    rw [obeys_bind]
    apply obeys_neutral free_nil rfl
    rintro (failure | found) free
    · exact free
    cases found with
    | none => exact free
    | some existing =>
      dsimp only
      split
      · exact free
      split
      · exact free
      split
      · exact free
      · rename_i reserved
        rw [obeys_bind, obeys_call]
        refine ⟨(May.release (by tauto)).free free, ?_⟩
        rintro (failure | txn)
        · exact Free.cons _ (by simp)
        refine applyChange_obeys ⟨.reject, fun settlement target owes => ?_⟩
        cases owes with
        | posted isType isTarget =>
          cases isTarget
          obtain rfl : settlement = .release := referenceType_injective (Option.some.inj isType).symm
          exact ⟨_, rfl, rfl⟩

theorem markPaid_obeys {id : WithdrawalId} {utr : String} {note : Option String}
    {actorId : Option AdminId} : (markPaid id utr note actorId).Obeys (may pid) ends [] := by
  unfold markPaid
  cases actorId with
  | none => exact free_nil
  | some adminId =>
    dsimp only
    rw [obeys_bind]
    apply obeys_neutral free_nil rfl
    rintro (failure | found) free
    · exact free
    cases found with
    | none => exact free
    | some existing =>
      dsimp only
      split
      · exact free
      split
      · exact free
      · rename_i approved
        rw [obeys_bind, obeys_call]
        refine ⟨(May.payout (not_not.mp approved)).free free, ?_⟩
        rintro (failure | txn)
        · exact Free.cons _ (by simp)
        refine applyChange_obeys ⟨.markPaid, fun settlement target owes => ?_⟩
        cases owes with
        | posted isType isTarget =>
          cases isTarget
          obtain rfl : settlement = .payout := referenceType_injective (Option.some.inj isType).symm
          exact ⟨_, rfl, rfl⟩

/-- Every request follows the rules. -/
theorem isRequest_obeys {config : Config} {requests : WithdrawalId → Request} {pid : WithdrawalId}
    {program : WithdrawalM Unit} (isRequest : IsRequest config requests pid program) :
    program.Obeys (may pid) ends [] := by
  unfold IsRequest at isRequest
  subst isRequest
  have ended {α : Type} {inner : WithdrawalM α} (obeys : inner.Obeys (may pid) ends []) :
      (do let _ ← inner : WithdrawalM Unit).Obeys (may pid) ends [] := by
    rw [obeys_bind]
    apply obeys.imp
    rintro past (failure | value) free <;> exact free
  cases requests pid with
  | requestWithdrawal userId input => exact ended requestWithdrawal_obeys
  | approve id actorId => exact ended approve_obeys
  | reject id reason actorId => exact ended reject_obeys
  | markPaid id utr note actorId => exact ended markPaid_obeys

end Service
end Exchange.InrWithdrawals
