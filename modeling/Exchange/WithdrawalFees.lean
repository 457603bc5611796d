import Exchange.AsyncPairs
import Exchange.Reports
import Exchange.WithdrawalSchema
import Exchange.WithdrawalSettlement

/-! The fees of withdrawals. The posting that finalises a withdrawal credits its
fee, and the row is COMPLETED with the next thing its pass writes. -/
namespace Exchange.Withdrawal.Fees
open Ledger Async Service Settlement SignificantDigits

/-! ## What a request does -/

/-- A finalised withdrawal is completed next. -/
def pairing : Pairing WithdrawalCall WithdrawalCall.Reply Failure where
  may _ _ := True
  opens call _ := match call with
    | .post input => input.referenceType = some REF_FINAL
    | _ => False
  closes call _ second := match call with
    | .post input => ∃ id txnId, input.referenceId = some id ∧ second = .updateMany id (.markCompleted txnId)
    | _ => False

variable {config : Config} {past : Past} {row : CryptoWithdrawal} {id : WithdrawalId} {userId : UserId}
  {actorId : Option AdminId} {reason : String}

/-- A call that is no posting. -/
theorem whole_other {call : WithdrawalCall} (free : ¬pairing.Midway past) (other : ∀ input, call ≠ .post input) :
    pairing.Whole past (ask call) := by
  refine Pairing.whole_ask (.free free trivial) fun value => ?_
  cases call with
  | post input => exact absurd rfl (other input)
  | _ => exact not_false

theorem assertMayWithdraw_whole (free : ¬pairing.Midway past) : pairing.Whole past (assertMayWithdraw userId) := by
  unfold assertMayWithdraw
  refine Pairing.whole_bind (whole_other free nofun) fun freeze past _ free => ?_
  dsimp only
  split
  · exact Pairing.whole_throw free
  refine Pairing.whole_bind (whole_other free nofun) fun found past _ free => ?_
  cases found with
  | none => exact Pairing.whole_throw free
  | some user =>
    dsimp only
    split
    · exact Pairing.whole_throw free
    split
    · exact Pairing.whole_throw free
    split
    · exact Pairing.whole_throw free
    · exact Pairing.whole_pure free

theorem assertAllowlisted_whole {toAddress : String} (free : ¬pairing.Midway past) :
    pairing.Whole past (assertAllowlisted userId toAddress) := by
  unfold assertAllowlisted
  refine Pairing.whole_bind (whole_other free nofun) fun token past _ free => ?_
  dsimp only
  split
  · exact Pairing.whole_throw free
  refine Pairing.whole_bind (whole_other free nofun) fun allow past _ free => ?_
  cases allow with
  | none => exact Pairing.whole_throw free
  | some address =>
    refine Pairing.whole_bind (whole_other free nofun) fun now past _ free => ?_
    split
    · exact Pairing.whole_throw free
    · exact Pairing.whole_pure free

theorem assertDailyLimit_whole {kycTier : ℤ} {amount : Decimal} (free : ¬pairing.Midway past) :
    pairing.Whole past (assertDailyLimit userId kycTier amount) := by
  unfold assertDailyLimit
  refine Pairing.whole_bind (whole_other free nofun) fun limit past _ free => ?_
  cases isLimit : limit.join with
  | none => exact Pairing.whole_pure free
  | some usdtDailyWithdrawal =>
    refine Pairing.whole_bind (whole_other free nofun) fun today past _ free => ?_
    split
    · exact Pairing.whole_throw free
    · exact Pairing.whole_pure free

theorem holdFunds_whole (free : ¬pairing.Midway past) : pairing.Whole past (holdFunds row) := by
  unfold holdFunds
  have notFinal : ∀ txn, ¬pairing.opens (.post (placeHold row)) txn := by simp [pairing, placeHold, REF_HOLD, REF_FINAL]
  refine Pairing.whole_catch (Pairing.whole_call (.free free trivial) fun txn => ?_) fun failure past _ free => ?_
  · exact whole_other (notFinal txn) fun input same => by cases same
  · split
    · refine Pairing.whole_bind (whole_other free fun input same => ?_) fun _ past _ free => Pairing.whole_throw free
      cases same
    · exact Pairing.whole_throw free

theorem requestWithdrawal_whole {input : CreateWithdrawalDto} (free : ¬pairing.Midway past) :
    pairing.Whole past (requestWithdrawal config userId input) := by
  unfold requestWithdrawal
  refine Pairing.whole_bind (assertMayWithdraw_whole free) fun user past _ free => ?_
  refine Pairing.whole_bind (assertAllowlisted_whole free) fun _ past _ free => ?_
  cases netAmount config input.amount with
  | error failure => exact Pairing.whole_throw free
  | ok net =>
    refine Pairing.whole_bind (assertDailyLimit_whole free) fun _ past _ free => ?_
    exact Pairing.whole_bind (whole_other free nofun) fun withdrawal past _ free => holdFunds_whole free

theorem reviewed_whole {adminId : AdminId} {action : String} (free : ¬pairing.Midway past) :
    pairing.Whole past (reviewed id adminId action) := by
  unfold reviewed
  refine Pairing.whole_bind (whole_other free nofun) fun updated past _ free => ?_
  exact Pairing.whole_bind (whole_other free nofun) fun _ past _ free => Pairing.whole_pure free

/-- An update that has to hit a row. -/
theorem review_whole {change : Change} {failure : Failure} {adminId : AdminId} {action : String}
    (free : ¬pairing.Midway past) : pairing.Whole past (do
      let count ← ask (.updateMany id change)
      if count = 0 then throw failure
      reviewed id adminId action) := by
  refine Pairing.whole_bind (whole_other free nofun) fun count past _ free => ?_
  dsimp only
  split
  · exact Pairing.whole_throw free
  · exact reviewed_whole free

theorem approve_whole (free : ¬pairing.Midway past) : pairing.Whole past (approve config id actorId) := by
  cases actorId with
  | none => exact Pairing.whole_throw free
  | some adminId =>
    unfold approve
    refine Pairing.whole_bind (whole_other free nofun) fun found past _ free => ?_
    cases found with
    | none => exact Pairing.whole_throw free
    | some existing =>
      dsimp only
      split
      · split
        · exact Pairing.whole_throw free
        · exact review_whole free
      · split
        · split
          · exact Pairing.whole_pure free
          · exact Pairing.whole_throw free
        · exact review_whole free

/-- Releasing a hold finalises nothing. -/
theorem release_whole (free : ¬pairing.Midway past) : pairing.Whole past (ask (.post (releaseHold row))) :=
  Pairing.whole_ask (.free free trivial) fun _ => by simp [pairing, releaseHold, REF_RELEASE, REF_FINAL]

theorem rejectWithdrawal_whole (free : ¬pairing.Midway past) :
    pairing.Whole past (rejectWithdrawal id reason actorId) := by
  unfold rejectWithdrawal
  refine Pairing.whole_bind (whole_other free nofun) fun found past _ free => ?_
  cases found with
  | none => exact Pairing.whole_throw free
  | some existing =>
    cases actorId with
    | none => exact Pairing.whole_throw free
    | some adminId =>
      refine Pairing.whole_bind (whole_other free nofun) fun count past _ free => ?_
      have ending : ∀ past, ¬pairing.Midway past → pairing.Whole past (do
          ask (.writeAdminLog adminId "crypto.withdrawal.rejected" id)
          ask (.findById id)) := fun past free =>
        Pairing.whole_bind (whole_other free nofun) fun _ past _ free => whole_other free nofun
      dsimp only
      split
      · split
        · exact Pairing.whole_pure free
        · exact Pairing.whole_throw free
      split
      · exact Pairing.whole_bind (release_whole free) fun _ past _ free => ending past free
      · exact ending past free

theorem failWithdrawal_whole (free : ¬pairing.Midway past) : pairing.Whole past (failWithdrawal row reason) := by
  unfold failWithdrawal
  refine Pairing.whole_bind (whole_other free nofun) fun count past _ free => ?_
  dsimp only
  split
  · exact Pairing.whole_pure free
  split
  · exact Pairing.whole_bind (release_whole free) fun _ past _ free => Pairing.whole_pure free
  · exact Pairing.whole_pure free

theorem finalizeWithdrawal_whole (free : ¬pairing.Midway past) : pairing.Whole past (finalizeWithdrawal row) := by
  unfold finalizeWithdrawal
  split
  · exact Pairing.whole_pure free
  · refine Pairing.whole_call (.free free trivial) fun txn => ?_
    exact Pairing.whole_call (.close rfl ⟨row.id, txn.id, rfl, rfl⟩) fun count => Pairing.whole_pure not_false

theorem allocateNonce_whole {hotWalletId : ℕ} (free : ¬pairing.Midway past) :
    pairing.Whole past (allocateNonce hotWalletId) := by
  unfold allocateNonce
  refine Pairing.whole_catch (whole_other free nofun) fun failure past _ free => ?_
  split
  · refine Pairing.whole_catch (whole_other free nofun) fun failure past _ free => ?_
    split
    · exact whole_other free nofun
    · exact Pairing.whole_throw free
  · exact Pairing.whole_throw free

theorem transferInput_whole (free : ¬pairing.Midway past) : pairing.Whole past (transferInput row) := by
  unfold transferInput
  refine Pairing.whole_bind (whole_other free nofun) fun token past _ free => ?_
  split
  · refine Pairing.whole_bind (whole_other free nofun) fun wallet past _ free => ?_
    split
    · refine Pairing.whole_bind (allocateNonce_whole free) fun nonce past _ free => ?_
      split
      · exact Pairing.whole_throw free
      · exact Pairing.whole_pure free
    · exact Pairing.whole_throw free
  · exact Pairing.whole_throw free

theorem signAndBroadcast_whole (free : ¬pairing.Midway past) : pairing.Whole past (signAndBroadcast row) := by
  unfold signAndBroadcast
  refine Pairing.whole_bind (transferInput_whole free) fun ⟨hot, input⟩ past _ free => ?_
  refine Pairing.whole_bind (whole_other free nofun) fun signed past _ free => ?_
  refine Pairing.whole_bind (whole_other free nofun) fun txHash past _ free => ?_
  exact Pairing.whole_bind (whole_other free nofun) fun _ past _ free => Pairing.whole_pure free

theorem broadcastWithdrawal_whole (free : ¬pairing.Midway past) : pairing.Whole past (broadcastWithdrawal row) := by
  unfold broadcastWithdrawal
  refine Pairing.whole_bind (whole_other free nofun) fun count past _ free => ?_
  split
  · exact Pairing.whole_pure free
  refine Pairing.whole_catch ?_ fun failure past _ free => ?_
  · exact Pairing.whole_bind (signAndBroadcast_whole free) fun _ past _ free => Pairing.whole_pure free
  · exact Pairing.whole_bind (failWithdrawal_whole free) fun _ past _ free => Pairing.whole_pure free

theorem broadcastAll_whole (pending : List CryptoWithdrawal) (free : ¬pairing.Midway past) :
    pairing.Whole past (broadcastAll pending) := by
  induction pending generalizing past with
  | nil => exact Pairing.whole_pure free
  | cons withdrawal pending ih =>
    unfold broadcastAll
    refine Pairing.whole_bind (broadcastWithdrawal_whole free) fun broadcast past _ free => ?_
    exact Pairing.whole_bind (ih free) fun later past _ free => Pairing.whole_pure free

theorem runBroadcastCycle_whole (free : ¬pairing.Midway past) : pairing.Whole past runBroadcastCycle := by
  unfold runBroadcastCycle
  exact Pairing.whole_bind (whole_other free nofun) fun pending past _ free => broadcastAll_whole pending free

theorem confirmAll_whole {minConf : ℕ} (inFlight : List CryptoWithdrawal) (free : ¬pairing.Midway past) :
    pairing.Whole past (confirmAll minConf inFlight) := by
  induction inFlight generalizing past with
  | nil => exact Pairing.whole_pure free
  | cons withdrawal inFlight ih =>
    unfold confirmAll
    split
    · exact ih free
    refine Pairing.whole_bind (whole_other free nofun) fun status past _ free => ?_
    split
    · exact ih free
    split
    · refine Pairing.whole_bind (failWithdrawal_whole free) fun failed past _ free => ?_
      exact Pairing.whole_bind (ih free) fun later past _ free => Pairing.whole_pure free
    split
    · refine Pairing.whole_bind (finalizeWithdrawal_whole free) fun completed past _ free => ?_
      exact Pairing.whole_bind (ih free) fun later past _ free => Pairing.whole_pure free
    split
    · refine Pairing.whole_bind (whole_other free nofun) fun _ past _ free => ?_
      exact Pairing.whole_bind (ih free) fun later past _ free => Pairing.whole_pure free
    · exact ih free

theorem runConfirmationCycle_whole (free : ¬pairing.Midway past) : pairing.Whole past runConfirmationCycle := by
  unfold runConfirmationCycle
  refine Pairing.whole_bind (whole_other free nofun) fun token past _ free => ?_
  exact Pairing.whole_bind (whole_other free nofun) fun inFlight past _ free => confirmAll_whole inFlight free

theorem runWithdrawalCycle_whole (free : ¬pairing.Midway past) : pairing.Whole past runWithdrawalCycle := by
  unfold runWithdrawalCycle
  refine Pairing.whole_bind (runBroadcastCycle_whole free) fun broadcast past _ free => ?_
  exact Pairing.whole_bind (runConfirmationCycle_whole free) fun confirmed past _ free => Pairing.whole_pure free

/-- Every request completes what it finalises. -/
theorem program_whole (request : Request) : pairing.Whole [] (request.program config) := by
  have discard {α : Type} {program : WithdrawalM α} (whole : pairing.Whole [] program) :
      pairing.Whole [] (do let _ ← program) :=
    Pairing.whole_bind whole fun _ past _ free => Pairing.whole_pure free
  cases request with
  | requestWithdrawal userId input => exact discard (requestWithdrawal_whole not_false)
  | approve id actorId => exact discard (approve_whole not_false)
  | reject id reason actorId => exact discard (rejectWithdrawal_whole not_false)
  | broadcastCycle => exact discard (runBroadcastCycle_whole not_false)
  | confirmationCycle => exact discard (runConfirmationCycle_whole not_false)
  | withdrawalCycle => exact discard (runWithdrawalCycle_whole not_false)
  | setWithdrawalFreeze enabled => exact whole_other not_false nofun

/-! ## Rows -/

variable {requests : WithdrawalId → Request} {x : History} {pid : WithdrawalId} {call : WithdrawalCall}
  {reply : Except Failure call.Reply} {s s' : Store} {signer : Signer} {now : Time} {change : Change}

/-- The columns that no change touches, and a state that no change leads to. -/
structure Columns (row : CryptoWithdrawal) : Prop where
  asset : row.asset = ASSET
  fee : OnGrid Numeric.scale row.fee
  status : row.status ≠ .cancelled

def chargesOf (row : CryptoWithdrawal) : Charges := (⟨row.asset, row.fee⟩ : Reports.WithdrawalFeeRow).charges

theorem Columns.set (columns : Columns row) : Columns (change.update.set row) := by
  cases change with
  | firstApprove adminId => exact ⟨columns.asset, columns.fee, columns.status⟩
  | _ => exact ⟨columns.asset, columns.fee, nofun⟩

theorem Evolves.charges {old new : CryptoWithdrawal} (evolves : Evolves old new) : chargesOf new = chargesOf old := by
  have same := evolves.same
  simp only [identity, Prod.mk.injEq] at same
  simp [chargesOf, same]

/-- Two rows have one nonce of one sender. -/
structure Clash (row other : CryptoWithdrawal) : Prop where
  nonce : row.nonce.isSome
  sender : row.fromAddress.isSome
  chain : citext other.chain = citext row.chain
  sameSender : other.fromAddress = row.fromAddress
  sameNonce : other.nonce = row.nonce

theorem Clash.symm {other : CryptoWithdrawal} (clash : Clash row other) : Clash other row :=
  ⟨clash.sameNonce ▸ clash.nonce, clash.sameSender ▸ clash.sender, clash.chain.symm, clash.sameSender.symm,
    clash.sameNonce.symm⟩

theorem nonceTaken_iff : nonceTaken s row ↔
    ∃ id other, s.withdrawals.lookup id = some other ∧ id ≠ row.id ∧ Clash row other := by
  simp only [nonceTaken, Bool.and_eq_true, List.any_eq_true, Prod.exists, Table.mem_rows, decide_eq_true_eq]
  constructor
  · rintro ⟨⟨nonce, sender⟩, id, other, found, ⟨⟨differs, chain⟩, sameSender⟩, sameNonce⟩
    exact ⟨id, other, found, differs, nonce, sender, chain, sameSender, sameNonce⟩
  · rintro ⟨id, other, found, differs, clash⟩
    exact ⟨⟨clash.nonce, clash.sender⟩, id, other, found, ⟨⟨differs, clash.chain⟩, clash.sameSender⟩, clash.sameNonce⟩

/-- No row has another one's nonce. -/
def Clear (s : Store) : Prop := ∀ id row, s.withdrawals.lookup id = some row → nonceTaken s row = false

theorem Clear.save (clear : Clear s) (free : nonceTaken s row = false) : Clear (s.save row) := by
  intro id current found
  by_contra taken
  obtain ⟨otherId, other, found', differs, clash⟩ := nonceTaken_iff.mp (by simpa using taken)
  have free' : ∀ id other, s.withdrawals.lookup id = some other → id ≠ row.id → ¬Clash row other :=
    fun id other found differs clash =>
      Bool.false_ne_true (free.symm.trans (nonceTaken_iff.mpr ⟨id, other, found, differs, clash⟩))
  by_cases isNew : id = row.id
  · subst isNew
    obtain rfl := Option.some.inj ((Store.save_lookup s row).symm.trans found)
    rw [Store.save_lookup_ne s row differs] at found'
    exact free' otherId other found' differs clash
  · rw [Store.save_lookup_ne s row isNew] at found
    by_cases isNew' : otherId = row.id
    · subst isNew'
      obtain rfl := Option.some.inj ((Store.save_lookup s row).symm.trans found')
      exact free' id current found isNew clash.symm
    · rw [Store.save_lookup_ne s row isNew'] at found'
      exact Bool.false_ne_true ((clear id current found).symm.trans
        (nonceTaken_iff.mpr ⟨otherId, other, found', differs, clash⟩))

theorem saveRow_clear {row' : CryptoWithdrawal} (ok : saveRow row s = .ok (row', s')) :
    nonceTaken s row = false ∧ s' = s.save row := by
  refine ⟨?_, (saveRow_ok ok).2.2.2⟩
  unfold saveRow at ok
  split at ok
  · cases ok
  split at ok
  · cases ok
  split at ok
  · cases ok
  · rename_i free
    simpa using free

/-- A row is written if it has no other one's nonce. -/
theorem rows_of_perform (ran : perform signer pid now call s = (reply, s')) :
    s'.withdrawals = s.withdrawals ∨ ∃ row, nonceTaken s row = false ∧ s' = s.save row := by
  cases call with
  | createWithdrawal data =>
    cases created : createWithdrawal pid now data s with
    | error failure =>
      rw [perform, created] at ran
      cases ran
      exact .inl rfl
    | ok pair =>
      rw [perform, created] at ran
      cases ran
      obtain ⟨isNew, -, -, same⟩ := createWithdrawal_ok created
      exact .inr ⟨pair.1, by simp [isNew, newRow, nonceTaken], same⟩
  | update id change =>
    cases found : s.withdrawals.lookup id with
    | none =>
      rw [perform, update, found] at ran
      cases ran
      exact .inl rfl
    | some row =>
      cases saved : saveRow (change.update.set row) s with
      | error failure =>
        simp only [perform, update, found, saved, written] at ran
        cases ran
        exact .inl rfl
      | ok pair =>
        simp only [perform, update, found, saved, written] at ran
        cases ran
        exact .inr ⟨_, saveRow_clear saved⟩
  | updateMany id change =>
    cases found : (s.withdrawals.lookup id).filter change.update.applies with
    | none =>
      rw [perform, updateMany, found] at ran
      cases ran
      exact .inl rfl
    | some row =>
      cases saved : saveRow (change.update.set row) s with
      | error failure =>
        simp only [perform, updateMany, found, saved, written] at ran
        cases ran
        exact .inl rfl
      | ok pair =>
        simp only [perform, updateMany, found, saved, written] at ran
        cases ran
        exact .inr ⟨_, saveRow_clear saved⟩
  | post input =>
    cases ran
    exact .inl rfl
  | incrementNonce hotWalletId =>
    obtain ⟨nonces, rfl⟩ := Makes.neutral (.inl ⟨signer, now, ran⟩) rfl
    exact .inl rfl
  | createNonce hotWalletId =>
    obtain ⟨nonces, rfl⟩ := Makes.neutral (.inl ⟨signer, now, ran⟩) rfl
    exact .inl rfl
  | _ =>
    cases ran
    exact .inl rfl

/-- A row that passes the checks is completed, if it is still in flight. -/
theorem markCompleted_of_perform {txnId : ℕ} {reply : Except Failure ℕ}
    (ran : perform signer pid now (.updateMany id (.markCompleted txnId)) s = (reply, s'))
    (found : s.withdrawals.lookup id = some row) (keyed : row.id = id) (net : netChk row) (dual : dualChk row)
    (clear : nonceTaken s row = false) (flying : row.status ∈ [WithdrawalStatus.broadcast, .confirming, .completed]) :
    ∃ row', s'.withdrawals.lookup id = some row' ∧ row'.status = .completed := by
  by_cases isDone : row.status = .completed
  · have idle : (some row).filter (Change.markCompleted txnId).update.applies = none := by
      simp [Option.filter, Change.update, markCompleted, isDone]
    simp only [perform, updateMany, found, idle, written] at ran
    cases ran
    exact ⟨row, found, isDone⟩
  · have applies : (some row).filter (Change.markCompleted txnId).update.applies = some row := by
      simp only [List.mem_cons, List.not_mem_nil, isDone, or_false] at flying
      simp [Option.filter, Change.update, markCompleted, flying]
    have saved : saveRow ((Change.markCompleted txnId).update.set row) s =
        .ok ((Change.markCompleted txnId).update.set row, s.save ((Change.markCompleted txnId).update.set row)) := by
      have net' : netChk ((Change.markCompleted txnId).update.set row) = true := net
      have dual' : dualChk ((Change.markCompleted txnId).update.set row) = true := dual
      have clear' : nonceTaken s ((Change.markCompleted txnId).update.set row) = false := clear
      simp [saveRow, net', dual', clear', Store.save]
    simp only [perform, updateMany, found, applies, saved, written, Except.map] at ran
    cases ran
    exact ⟨_, keyed ▸ Store.save_lookup s ((Change.markCompleted txnId).update.set row), rfl⟩

/-! ## Rows and postings -/

/-- A request has posted that a withdrawal is final, and is about to complete
it. -/
def Completing (x : History) (id : WithdrawalId) : Prop :=
  ∃ pid input txn earlier, x.past pid = ⟨.post input, .ok txn⟩ :: earlier ∧ input.referenceType = some REF_FINAL ∧
    input.referenceId = some id

/-- Each final posting has its completed row, or a request is about to complete
it. -/
structure Kept (x : History) : Prop where
  apart : Settlement.Apart x
  formed : ∀ id row, x.store.withdrawals.lookup id = some row → Schema.WellFormed row
  columns : ∀ id row, x.store.withdrawals.lookup id = some row → Columns row
  clear : Clear x.store
  fees : FeesOf x.store.ledger REF_FINAL
  charged : ∀ txn ∈ x.store.ledger.ofType REF_FINAL, ∃ id row, txn.referenceId = some id ∧
    x.store.withdrawals.lookup id = some row ∧ txn.fees.Perm (chargesOf row).positive
  final : ∀ id, posted x.store REF_FINAL id →
    (∃ row, x.store.withdrawals.lookup id = some row ∧ row.status = .completed) ∨ Completing x id
  completed : ∀ id row, x.store.withdrawals.lookup id = some row → row.status = .completed →
    posted x.store REF_FINAL id

/-- A request completes what it has finalised. -/
theorem closing (call' : pairing.Keeps (x.past pid) call) {input : LedgerPostingInput ℕ} {txn : LedgerTransaction ℕ}
    {earlier : Past} (isPast : x.past pid = ⟨.post input, .ok txn⟩ :: earlier)
    (isFinal : input.referenceType = some REF_FINAL) (isTarget : input.referenceId = some id) :
    ∃ txnId, call = .updateMany id (.markCompleted txnId) := by
  generalize x.past pid = past at call' isPast
  subst isPast
  cases call' with
  | free free => exact absurd isFinal free
  | close opened closes =>
    obtain ⟨target, txnId, isTarget', rfl⟩ := closes
    cases isTarget'.symm.trans isTarget
    exact ⟨txnId, rfl⟩

theorem asset_created {data : NewWithdrawal} (call' : May config requests pid past (.createWithdrawal data)) :
    data.asset = ASSET := by
  cases call' with
  | neutral neutral => cases neutral
  | create => rfl

theorem finalizeLedger_fees : (finalizeLedger row).fees = Charges.positive [(ASSET, row.fee)] := by
  rw [← feeLine_charges]
  simp [LedgerPostingInput.fees, finalizeLedger, LedgerPostingLine.isFee]

/-- Only a final posting credits a fee, that of a row the request has listed. -/
theorem posting_fees {input : LedgerPostingInput ℕ} (call' : May config requests pid past (.post input)) :
    (input.referenceType ≠ some REF_FINAL → input.fees = []) ∧ (input.referenceType = some REF_FINAL →
      ∃ row status, input = finalizeLedger row ∧ Reported row status past) := by
  cases call' with
  | neutral neutral => cases neutral
  | placeHold =>
    exact ⟨fun _ => by simp [LedgerPostingInput.fees, placeHold, LedgerPostingLine.isFee],
      fun isFinal => by simp [placeHold, REF_HOLD, REF_FINAL] at isFinal⟩
  | releaseHold =>
    exact ⟨fun _ => by simp [LedgerPostingInput.fees, releaseHold, LedgerPostingLine.isFee],
      fun isFinal => by simp [releaseHold, REF_RELEASE, REF_FINAL] at isFinal⟩
  | finalizeLedger reported => exact ⟨fun other => absurd rfl other, fun _ => ⟨_, _, rfl, reported⟩⟩

theorem kept_unused (unused : Unused s) (free : ∀ txn ∈ s.ledger.transactions, txn.fees = [])
    (unsettled : s.ledger.ofType REF_FINAL = []) : Kept ⟨s, []⟩ := by
  have empty (id : WithdrawalId) : s.withdrawals.lookup id = none := by rw [unused.withdrawals, AList.lookup_empty]
  refine ⟨Settlement.apart_unused unused, fun id row found => ?_, fun id row found => ?_, fun id row found => ?_,
    ⟨by simp [unsettled], by simp [unsettled], fun txn member _ => free txn member⟩, by simp [unsettled],
    fun id isFinal => ?_,
    fun id row found _ => ?_⟩
  · cases (empty id).symm.trans found
  · cases (empty id).symm.trans found
  · cases (empty id).symm.trans found
  · cases (unused.postings REF_FINAL (by simp) id).symm.trans isFinal
  · cases (empty id).symm.trans found

section Step
variable (kept : Kept x) (call' : May config requests pid (x.past pid) call)
  (effect : Effect pid x.store ⟨call, reply⟩ s')
include kept call' effect

private theorem columns_step (found : s'.withdrawals.lookup id = some row) : Columns row := by
  rcases kept.apart.sound.origin effect found with before | ⟨rfl, -, now, data, rfl, made⟩ | ⟨change, old, applies, rfl, -⟩
  · exact kept.columns id row before
  · cases made
    exact ⟨asset_created call', Numeric.rounded_onGrid _, nofun⟩
  · exact (kept.columns id old applies.found).set

private theorem fees_step : FeesOf s'.ledger REF_FINAL := by
  cases effect with
  | entered recorded fresh =>
    obtain ⟨free, final⟩ := posting_fees call'
    refine kept.fees.recorded recorded fresh (by decide) (fun isFinal => ?_) free
    obtain ⟨row, status, rfl, -⟩ := final isFinal
    exact nofun
  | _ => exact kept.fees

/-- A posting stays what it is, and its row keeps its fee. -/
private theorem charged_step {txn : LedgerTransaction ℕ} (member : txn ∈ s'.ledger.ofType REF_FINAL) :
    ∃ id row, txn.referenceId = some id ∧ s'.withdrawals.lookup id = some row ∧
      txn.fees.Perm (chargesOf row).positive := by
  by_cases before : txn ∈ x.store.ledger.ofType REF_FINAL
  · obtain ⟨id, row, isTarget, found, charged⟩ := kept.charged txn before
    obtain ⟨new, found', evolves⟩ := kept.apart.sound.evolves call' effect found
    exact ⟨id, new, isTarget, found', Evolves.charges evolves ▸ charged⟩
  · cases effect with
    | @entered input new ledger recorded fresh =>
      rw [ofType_recorded recorded, List.mem_append] at member
      have isNew := member.resolve_left before
      split at isNew
      · rename_i isFinal
        cases List.mem_singleton.mp isNew
        obtain ⟨row, status, rfl, reported⟩ := (posting_fees call').2 isFinal
        obtain ⟨-, -, -, current, found, evolves⟩ := kept.apart.sound.reported reported fun _ member => member
        refine ⟨row.id, current, recorded.reference.2, found, ?_⟩
        have columns := kept.columns _ _ found
        have asset : row.asset = ASSET := (congrArg (·.2.2.1) evolves.same).symm.trans columns.asset
        have stored : (chargesOf current).stored = chargesOf current := by
          simp [chargesOf, Reports.WithdrawalFeeRow.charges, Charges.stored, Numeric.rounded_of_onGrid columns.fee]
        have asked : (finalizeLedger row).fees.Perm (chargesOf current).positive := by
          rw [finalizeLedger_fees, Evolves.charges evolves, chargesOf, Reports.WithdrawalFeeRow.charges, asset]
        exact stored ▸ recorded_charges recorded asked
      · cases isNew
    | _ => exact absurd member before

/-- A completed row stays completed. -/
private theorem stays_completed (found : x.store.withdrawals.lookup id = some row) (isDone : row.status = .completed) :
    ∃ new, s'.withdrawals.lookup id = some new ∧ new.status = .completed := by
  obtain ⟨new, found', evolves⟩ := kept.apart.sound.evolves call' effect found
  have held := (kept.apart.sound.row id row found).regular.isHeld (by simp [isDone])
  have last : phase row = 6 := by rw [phase_held held, isDone]; rfl
  have same : phase new = phase row := by
    have forward := evolves.forward
    have bound := phase_le new
    omega
  exact ⟨new, found', (evolves.status (by omega) same).trans isDone⟩

/-- What is completed has been finalised. -/
private theorem completed_step (found : s'.withdrawals.lookup id = some row) (isDone : row.status = .completed) :
    posted s' REF_FINAL id := by
  have kept' (before : posted x.store REF_FINAL id) : posted s' REF_FINAL id := (effect.posted_iff _ _).mpr (.inl before)
  rcases kept.apart.sound.origin effect found with before | ⟨-, -, now, data, rfl, -⟩ | ⟨change, old, applies, rfl, writes⟩
  · exact kept' (kept.completed id row before isDone)
  · cases isDone
  · have writes := writes.imp (congrArg Answered.call) (congrArg Answered.call)
    cases change with
    | firstApprove adminId => exact kept' (kept.completed id old applies.found isDone)
    | markCompleted txnId =>
      rcases writes with rfl | rfl
      · cases call'.isBlind
      · generalize isPast : x.past pid = past at call'
        cases call' with
        | neutral neutral => cases neutral
        | markCompleted reported =>
          exact kept' (kept.apart.sound.answered pid _ _ (Logged.mem_past.mp (isPast ▸ List.mem_cons_self)) _ _ rfl rfl)
    | _ => cases isDone

end Step

/-- A row that was finalised is in flight, or completed. -/
theorem Kept.flying (kept : Kept x) (isFinal : posted x.store REF_FINAL id) :
    ∃ row, x.store.withdrawals.lookup id = some row ∧
      row.status ∈ [WithdrawalStatus.broadcast, .confirming, .completed] := by
  obtain ⟨row, found, late, notRejected⟩ := kept.apart.sound.finalised id isFinal
  refine ⟨row, found, ?_⟩
  rw [phase_held (held_of_phase (by omega))] at late
  have notFailed : row.status ≠ .failed := fun isFailed =>
    Bool.false_ne_true ((kept.apart.unsettled id row found (by simp [isFailed])).symm.trans isFinal)
  have notCancelled := (kept.columns id row found).status
  cases isStatus : row.status <;> simp_all [rank]

/-- Every call keeps rows and postings together. -/
theorem kept_step (kept : Kept x) (call' : May config requests pid (x.past pid) call)
    (closes : pairing.Keeps (x.past pid) call) (ran : perform signer pid now call x.store = (reply, s'))
    (keeps : Settlement.keepsApart x.store ⟨call, reply⟩) : Kept ⟨s', (pid, ⟨call, reply⟩) :: x.history⟩ := by
  have makes : Makes pid call x.store reply s' := .inl ⟨signer, now, ran⟩
  have effect := call'.effect makes
  refine ⟨Settlement.apart_step kept.apart call' ⟨makes, keeps⟩,
    (Schema.wellFormed_step ⟨kept.apart.sound, kept.formed⟩ call' makes).2, fun id row => columns_step kept call' effect,
    ?_, fees_step kept call' effect, fun txn => charged_step kept call' effect, fun id isFinal => ?_,
    fun id row => completed_step kept call' effect⟩
  · rcases rows_of_perform ran with same | ⟨row, free, same⟩
    · intro id row found
      rw [same] at found
      have clear := kept.clear id row found
      simpa only [nonceTaken, same] using clear
    · exact same ▸ kept.clear.save free
  · rcases (effect.posted_iff _ _).mp isFinal with before | ⟨input, txn, made, isType, isTarget⟩
    · rcases kept.final id before with ⟨row, found, isDone⟩ | ⟨other, input, txn, earlier, isPast, isType, isTarget⟩
      · exact .inl (stays_completed kept call' effect found isDone)
      · by_cases own : other = pid
        · subst own
          obtain ⟨txnId, rfl⟩ := closing closes isPast isType isTarget
          obtain ⟨row, found, flying⟩ := kept.flying before
          have formed := kept.formed id row found
          exact .inl (markCompleted_of_perform ran found (kept.apart.sound.row id row found).keyed formed.net formed.dual
            (kept.clear id row found) flying)
        · exact .inr ⟨other, input, txn, earlier, by rwa [Logged.past_ne _ own], isType, isTarget⟩
    · cases made
      exact .inr ⟨pid, input, txn, x.past pid, Logged.past_self .., isType, isTarget⟩

/-- What others do to balances does not matter. -/
theorem Kept.accounts {history : List (WithdrawalId × Answered WithdrawalCall WithdrawalCall.Reply Failure)}
    (kept : Kept ⟨s, history⟩) (accounts : Table Account (Option Decimal)) :
    Kept ⟨{ s with ledger := { s.ledger with accounts } }, history⟩ where
  apart :=
    { sound :=
        { row := fun id row found =>
            have isRow := kept.apart.sound.row id row found
            ⟨isRow.keyed, isRow.regular, isRow.held⟩
          truthful := kept.apart.sound.truthful
          snapshot := kept.apart.sound.snapshot
          working := kept.apart.sound.working
          alone := kept.apart.sound.alone
          decided := kept.apart.sound.decided
          released := kept.apart.sound.released
          finalised := kept.apart.sound.finalised
          answered := kept.apart.sound.answered }
      unsettled := kept.apart.unsettled
      once := kept.apart.once }
  formed := kept.formed
  columns := kept.columns
  clear := kept.clear
  fees := kept.fees.accounts accounts
  charged := kept.charged
  final := kept.final
  completed := kept.completed

theorem fees_listed (withdrawals : Table WithdrawalId CryptoWithdrawal) (asset : String) :
    Charges.totalIn ((Reports.listCompletedWithdrawalsForFees withdrawals).flatMap Reports.WithdrawalFeeRow.charges)
      asset = ((withdrawals.rows.filter fun (_, row) => row.status = .completed).map fun (_, row) =>
        (chargesOf row).totalIn asset).sum := by
  rw [Charges.totalIn_flatMap, Reports.listCompletedWithdrawalsForFees, List.map_map]
  generalize withdrawals.rows = rows
  induction rows with
  | nil => rfl
  | cons row rows ih =>
    by_cases isDone : row.2.status = .completed
    · by_cases positive : 0 < row.2.fee
      · simpa [isDone, positive, chargesOf] using ih
      · have nothing : (chargesOf row.2).totalIn asset = 0 := by
          simp [chargesOf, Reports.WithdrawalFeeRow.charges, Charges.totalIn, Charges.amountsIn, Charges.positive, positive]
        simpa [isDone, positive, nothing] using ih
    · simpa [isDone] using ih

/-- When no request is between the two, the completed rows charge what the final
postings credit. -/
theorem Kept.total (kept : Kept x) (rest : ∀ pid, ¬pairing.Midway (x.past pid)) (asset : String) :
    Charges.totalIn ((x.store.ledger.ofType REF_FINAL).flatMap LedgerTransaction.fees) asset =
      Charges.totalIn ((Reports.listCompletedWithdrawalsForFees x.store.withdrawals).flatMap
        Reports.WithdrawalFeeRow.charges) asset := by
  have isCompleted {id : WithdrawalId} (isFinal : posted x.store REF_FINAL id) :
      ∃ row, x.store.withdrawals.lookup id = some row ∧ row.status = .completed := by
    refine (kept.final id isFinal).resolve_right ?_
    rintro ⟨pid, input, txn, earlier, isPast, isType, -⟩
    refine rest pid ?_
    rw [isPast]
    exact isType
  have isPosted {txn : LedgerTransaction ℕ} (member : txn ∈ x.store.ledger.ofType REF_FINAL) {id : WithdrawalId}
      (isTarget : txn.referenceId = some id) : posted x.store REF_FINAL id := by
    obtain ⟨present, isType⟩ := List.mem_filter.mp member
    exact List.any_eq_true.mpr ⟨txn, present, by simpa [isTarget] using isType⟩
  have keys : ((x.store.withdrawals.rows.filter fun (_, row) => row.status = .completed).map fun row =>
      some row.1).Nodup := by
    have distinct := (Table.rows_keys_nodup x.store.withdrawals).map (f := some) fun _ _ same => Option.some.inj same
    rw [List.map_map] at distinct
    exact distinct.sublist (List.filter_sublist.map _)
  rw [Charges.totalIn_flatMap, fees_listed]
  refine sum_eq_of_matched kept.fees.distinct keys (fun txn member => ?_) fun ⟨id, row⟩ member => ?_
  · obtain ⟨id, row, isTarget, found, charged⟩ := kept.charged txn member
    obtain ⟨current, found', isDone⟩ := isCompleted (isPosted member isTarget)
    cases found.symm.trans found'
    refine ⟨(id, row), List.mem_filter.mpr ⟨Table.mem_rows.mpr found, by simpa using isDone⟩, isTarget.symm,
      Charges.totalIn_perm ?_ asset⟩
    have positive := (Charges.positive_perm charged).symm
    rwa [Charges.positive_positive] at positive
  · obtain ⟨isRow, isDone⟩ := List.mem_filter.mp member
    have isFinal := kept.completed id row (Table.mem_rows.mp isRow) (by simpa using isDone)
    obtain ⟨txn, present, isTxn⟩ := List.any_eq_true.mp isFinal
    simp only [Bool.and_eq_true, decide_eq_true_eq] at isTxn
    exact ⟨txn, List.mem_filter.mpr ⟨present, by simpa using isTxn.1⟩, isTxn.2⟩

end Exchange.Withdrawal.Fees
