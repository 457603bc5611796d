import Exchange.MasterDepositService

/-! The rules of a master-wallet deposit: which calls a request makes after
which answers. -/
namespace Exchange.MasterDeposits

/-- Calls that change nothing. -/
def DepositCall.isNeutral : DepositCall → Bool
  | .create _ => false
  | .update _ _ => false
  | .post _ => false
  | .markCredited _ _ _ => false
  | _ => true

/-- A change to a state that is not final. -/
def Change.isOutcome : Change → Bool
  | .credited _ _ => false
  | _ => true

namespace Service
open Ledger Async

/-- The calls a request has made, latest first. -/
abbrev Past := List (Answered DepositCall DepositCall.Reply Failure)

/-- The request has posted a credit, last; the flip of the row is owed. -/
inductive Owes (id : DepositId) : Past → Prop
  | posted {input : LedgerPostingInput DepositId} {txn : LedgerTransaction DepositId} {past : Past}
      (isType : input.referenceType = some REFERENCE_TYPE) (isTarget : input.referenceId = some id) :
      Owes id (⟨.post input, .ok txn⟩ :: past)

/-- The request owes nothing. -/
def Free (past : Past) : Prop := ∀ id, ¬Owes id past

/-- The request has been answered with a row. -/
inductive Seen (row : MasterWalletDeposit) (past : Past) : Prop
  | byTx {tx : ChainTx} (member : ⟨.findByChainTx tx, .ok (some row)⟩ ∈ past)
  | byId {id : DepositId} (member : ⟨.findById id, .ok (some row)⟩ ∈ past)
  | created {data : NewDeposit} (member : ⟨.create data, .ok row⟩ ∈ past)

/-- The node has answered with a transfer of this amount, deep enough. -/
def Verified (tx : ChainTx) (network : ResolvedNetwork) (amount : Decimal) (past : Past) : Prop :=
  ∃ receipt latestBlock, ⟨.getTransactionReceipt tx, .ok receipt⟩ ∈ past ∧
    ⟨.getBlockNumber tx.chain, .ok latestBlock⟩ ∈ past ∧
    ConfirmedTransfer receipt latestBlock network amount

variable (config : Config)

/-- The calls a request may make. -/
inductive May : Past → DepositCall → Prop
  | neutral {past : Past} {call : DepositCall} (neutral : call.isNeutral) : May past call
  | create {data : NewDeposit} {past : Past} : May past (.create data)
  | update {id : DepositId} {change : Change} {past : Past} (isOutcome : change.isOutcome) :
      May past (.update id change)
  | post {deposit : MasterWalletDeposit} {amount : Decimal} {past : Past} (seen : Seen deposit past)
      (verified : Verified deposit.tx (config.networks deposit.tx.chain) amount past) :
      May past (.post (depositCredit deposit amount))
  | markCredited {deposit : MasterWalletDeposit} {amount : Decimal} {transfer : Transfer}
      {txn : LedgerTransaction DepositId} {past : Past} :
      May (⟨.post (depositCredit deposit amount), .ok txn⟩ :: past)
        (.markCredited deposit.id txn.id transfer)

/-- A request that owes the flip of a row makes it next. -/
def may (past : Past) (call : DepositCall) : Prop :=
  May config past call ∧ ∀ id, Owes id past → ∃ ledgerTxnId transfer, call = .markCredited id ledgerTxnId transfer

/-- A request ends without a debt, and before it with a fact if it answers. -/
abbrev Ends {α : Type} (fact : α → Past → Prop) (past : Past) (result : Except Failure α) : Prop :=
  EndsWith Free (fun value past => Free past ∧ fact value past) past result

def ends (past : Past) (_ : Except Failure MasterDepositDto) : Prop := Free past

variable {config} {past later : Past} {deposit : MasterWalletDeposit} {tx : ChainTx}
  {network : ResolvedNetwork} {amount : Decimal}

/-! ## Pasts -/

theorem free_nil : Free [] := by
  rintro id ⟨⟩

theorem Free.cons {made : Answered DepositCall DepositCall.Reply Failure} (past : Past)
    (other : ∀ input txn, made ≠ ⟨.post input, .ok txn⟩) : Free (made :: past) := by
  intro id owes
  cases owes
  exact other _ _ rfl

theorem Ends.free {α : Type} {fact : α → Past → Prop} {result : Except Failure α}
    (ended : Ends fact past result) : Free past := by
  cases result with
  | error failure => exact ended
  | ok value => exact ended.1

theorem May.free {call : DepositCall} (call' : May config past call) (free : Free past) :
    may config past call :=
  ⟨call', fun id owes => (free id owes).elim⟩

theorem Seen.grow (seen : Seen deposit past) (grown : past <:+ later) : Seen deposit later := by
  cases seen with
  | byTx member => exact .byTx (grown.subset member)
  | byId member => exact .byId (grown.subset member)
  | created member => exact .created (grown.subset member)

/-- A call that changes nothing is always allowed, and nothing is owed then. -/
theorem obeys_neutral {call : DepositCall} (fact : call.Reply → Past → Prop) (free : Free past)
    (neutral : call.isNeutral) (learned : ∀ value, fact value (⟨call, .ok value⟩ :: past)) :
    (ask call).Obeys (may config) (Ends fact) past := by
  have still (reply : Except Failure call.Reply) : Free (⟨call, reply⟩ :: past) := by
    refine Free.cons past ?_
    rintro input txn same
    cases same
    cases neutral
  exact obeys_answers ((May.neutral neutral).free free) (fun _ => still _) fun value => ⟨still _, learned value⟩

/-- A verdict that does not credit is written. -/
theorem update_obeys {id : DepositId} {change : Change} (free : Free past) (isOutcome : change.isOutcome) :
    (ask (.update id change)).Obeys (may config) (Ends fun _ _ => True) past :=
  obeys_answers ((May.update isOutcome).free free) (fun _ => Free.cons _ (by simp))
    fun _ => ⟨Free.cons _ (by simp), trivial⟩

/-! ## Verification -/

/-- What a verdict to credit rests on. -/
def Verdict (tx : ChainTx) (network : ResolvedNetwork) (result : VerificationResult) (past : Past) : Prop :=
  result.outcome = .confirmed → ∃ amount, result.amount = some amount ∧ Verified tx network amount past

theorem evmVerify_obeys (free : Free past) :
    (evmVerify tx network).Obeys (may config) (Ends (Verdict tx network)) past := by
  unfold evmVerify
  refine (obeys_neutral (fun receipt past => ⟨.getTransactionReceipt tx, .ok receipt⟩ ∈ past) free rfl
    fun _ => List.mem_cons_self).seq fun receipt past _ ⟨free, isReceipt⟩ => ?_
  refine (obeys_neutral (fun block past => ⟨.getBlockNumber tx.chain, .ok block⟩ ∈ past) free rfl
    fun _ => List.mem_cons_self).seq fun latestBlock later grown ⟨free, isBlock⟩ => ⟨free, fun confirmed => ?_⟩
  obtain ⟨amount, isAmount, transfer⟩ := evaluateEvmReceipt_confirmed confirmed
  exact ⟨amount, isAmount, receipt, latestBlock, grown.subset isReceipt, isBlock, transfer⟩

theorem verifyTx_obeys (free : Free past) :
    (verifyTx tx network).Obeys (may config) (Ends (Verdict tx network)) past := by
  unfold verifyTx
  split
  · exact ⟨free, nofun⟩
  split
  · exact (evmVerify_obeys free).catch fun failure later _ free => ⟨free, nofun⟩
  · exact ⟨free, nofun⟩

theorem creditAmount_obeys {transfer : Transfer} (free : Free past) (seen : Seen deposit past)
    (verified : Verified deposit.tx (config.networks deposit.tx.chain) amount past) :
    (creditAmount deposit amount transfer).Obeys (may config) (Ends fun _ _ => True) past := by
  unfold creditAmount
  rw [obeys_bind]
  refine obeys_call.mpr ⟨(May.post seen verified).free free, ?_⟩
  rintro (failure | txn)
  · exact Free.cons _ (by simp)
  dsimp only
  rw [obeys_bind]
  refine obeys_call.mpr ⟨⟨.markCredited, ?_⟩, ?_⟩
  · rintro id ⟨-, isTarget⟩
    cases isTarget
    exact ⟨_, _, rfl⟩
  rintro (failure | count)
  · exact Free.cons _ (by simp)
  have free : Free (⟨.markCredited deposit.id txn.id transfer, .ok count⟩ ::
      ⟨.post (depositCredit deposit amount), .ok txn⟩ :: past) := Free.cons _ (by simp)
  exact (obeys_neutral (fun _ _ => True) free rfl fun _ => trivial).seq fun fresh later _ ⟨free, _⟩ => ⟨free, trivial⟩

theorem process_obeys {result : VerificationResult} (free : Free past) (seen : Seen deposit past)
    (verdict : Verdict deposit.tx (config.networks deposit.tx.chain) result past) :
    (process deposit result).Obeys (may config) (Ends fun _ _ => True) past := by
  unfold process
  split
  · rename_i confirmed
    obtain ⟨amount, isAmount, verified⟩ := verdict confirmed
    unfold creditDeposit
    split
    · exact update_obeys free rfl
    · rename_i credited isCredited
      rw [isAmount] at isCredited
      obtain ⟨isSame, -⟩ := Option.filter_eq_some_iff.mp isCredited
      cases isSame
      exact creditAmount_obeys free seen verified
  · exact update_obeys free rfl
  · exact update_obeys free rfl
  · exact update_obeys free rfl

theorem verifyAndProcess_obeys (free : Free past) (seen : Seen deposit past) :
    (verifyAndProcess config deposit).Obeys (may config) (Ends fun _ _ => True) past := by
  unfold verifyAndProcess
  split
  · exact ⟨free, trivial⟩
  dsimp only
  split
  · exact (verifyTx_obeys free).seq fun result later grown ⟨free, verdict⟩ =>
      process_obeys free (seen.grow grown) verdict
  · exact update_obeys free rfl

/-! ## Entry points -/

theorem handleExisting_obeys {userId : UserId} (free : Free past) (seen : Seen deposit past) :
    (handleExisting config deposit userId network).Obeys (may config) (Ends fun _ _ => True) past := by
  unfold handleExisting
  split
  · exact ⟨free, trivial⟩
  · exact (verifyAndProcess_obeys free seen).seq fun row later _ ⟨free, _⟩ => ⟨free, trivial⟩

theorem createRow_obeys {data : NewDeposit} (free : Free past) :
    (createRow data).Obeys (may config) (Ends fun pair later => Seen pair.1 later) past := by
  unfold createRow
  refine Obeys.catch (Obeys.seq (obeys_answers (May.create.free free) (fun _ => Free.cons _ (by simp))
    fun row => ⟨Free.cons _ (by simp), .created List.mem_cons_self⟩) fun row later _ created => created) ?_
  intro failure later _ free
  split
  · refine Obeys.seq (obeys_neutral (fun found past => ∀ row, found = some row → Seen row past)
      free rfl ?_) ?_
    · rintro found row rfl
      exact .byTx List.mem_cons_self
    · rintro found later - ⟨free, seen⟩
      cases found with
      | none => exact free
      | some row => exact ⟨free, seen row rfl⟩
  · exact free

theorem submit_obeys {userId : UserId} {chain : CryptoChain} {txHash : String} (free : Free past) :
    (submit config userId chain txHash).Obeys (may config) (Ends fun _ _ => True) past := by
  unfold submit
  split
  · exact free
  dsimp only
  split
  · exact free
  refine Obeys.seq (obeys_neutral (fun found past => ∀ row, found = some row → Seen row past)
    free rfl ?_) ?_
  · rintro found row rfl
    exact .byTx List.mem_cons_self
  rintro found later - ⟨free, seen⟩
  cases found with
  | some existing => exact handleExisting_obeys free (seen existing rfl)
  | none =>
    unfold submitNew
    refine (createRow_obeys free).seq ?_
    rintro ⟨deposit, created⟩ later - ⟨free, seen⟩
    dsimp only
    split
    · exact (verifyAndProcess_obeys free seen).seq fun row later _ ⟨free, _⟩ => ⟨free, trivial⟩
    · exact handleExisting_obeys free seen

theorem adminRecheck_obeys {id : DepositId} (free : Free past) :
    (adminRecheck config id).Obeys (may config) (Ends fun _ _ => True) past := by
  unfold adminRecheck
  refine Obeys.seq (obeys_neutral (fun found past => ∀ row, found = some row → Seen row past)
    free rfl ?_) ?_
  · rintro found row rfl
    exact .byId List.mem_cons_self
  rintro found later - ⟨free, seen⟩
  cases found with
  | none => exact free
  | some deposit =>
    refine (verifyAndProcess_obeys free (seen deposit rfl)).seq fun _ later _ ⟨free, _⟩ => ?_
    refine (obeys_neutral (fun _ _ => True) free rfl fun _ => trivial).seq fun row later _ ⟨free, _⟩ => ?_
    cases row with
    | none => exact free
    | some row => exact ⟨free, trivial⟩

/-- Every request follows the rules. -/
theorem isRequest_obeys {requests : DepositId → Request} {pid : DepositId} {program : DepositM MasterDepositDto}
    (isRequest : IsRequest config requests pid program) : program.Obeys (may config) ends [] := by
  unfold IsRequest at isRequest
  subst isRequest
  cases requests pid with
  | submit userId chain txHash => exact (submit_obeys free_nil).imp fun _ _ => Ends.free
  | adminRecheck id => exact (adminRecheck_obeys free_nil).imp fun _ _ => Ends.free

end Service
end Exchange.MasterDeposits
