import Exchange.DepositAgreement

/-! Dual control of large manual deposits: a deposit at or above the threshold is
credited by an admin who has read it with the first approval of another one. The
first approver is written once, and only where the column is still empty. -/
namespace Exchange.Deposits.DualControl
open Ledger Service Agreement

/-- An admin has called `approve` on the deposit. -/
def Approver (requests : DepositId → Request) (x : History) (id : DepositId) (adminId : AdminId) : Prop :=
  ∃ pid made, requests pid = .approveManualDeposit id (some adminId) ∧ (pid, made) ∈ x.history

/-- The request has posted the credit of the deposit. -/
def Posted (x : History) (id pid : DepositId) : Prop :=
  ∃ input txn, (pid, ⟨.post input, .ok txn⟩) ∈ x.history ∧
    input.referenceType = some REFERENCE_TYPE ∧ input.referenceId = some id

/-- A large manual deposit that is credited was posted by an admin who is not the
first approver of the row; both have called `approve`. -/
def DuallyControlled (config : Config) (requests : DepositId → Request) (x : History) : Prop :=
  ∀ id row, x.store.deposits.lookup id = some row → row.provider = some MANUAL_PROVIDER →
    requiresDual config row → credited x.store id → (∃ pid, Posted x id pid) ∧
      ∀ pid, Posted x id pid → ∃ first second, first ≠ second ∧ row.firstApprovedBy = some first ∧
        Approver requests x id first ∧ requests pid = .approveManualDeposit id (some second)

/-- No deposit has been credited or approved yet. -/
structure Opening (s : Store) : Prop extends Agreed s where
  uncredited : ∀ id, credited s id = false
  unapproved : ∀ id row, s.deposits.lookup id = some row → row.firstApprovedBy = none

/-- What is known of approvals and credits. -/
structure Controlled (config : Config) (requests : DepositId → Request) (x : History) : Prop where
  sound : Sound x
  read : ∀ pid id row, (pid, ⟨.findById id, .ok (some row)⟩) ∈ x.history → row.id = id ∧
    ∃ now, x.store.deposits.lookup id = some now ∧ SameDeposit row now ∧
      ∀ first, row.firstApprovedBy = some first → now.firstApprovedBy = some first
  first : ∀ id row first, x.store.deposits.lookup id = some row → row.firstApprovedBy = some first →
    Approver requests x id first
  posted : ∀ id, credited x.store id ↔ ∃ pid, Posted x id pid
  dual : ∀ id row pid, x.store.deposits.lookup id = some row → row.provider = some MANUAL_PROVIDER →
    requiresDual config row → Posted x id pid → ∃ first second, first ≠ second ∧
      row.firstApprovedBy = some first ∧ requests pid = .approveManualDeposit id (some second)

variable {config : Config} {requests : DepositId → Request} {x : History} {pid id : DepositId}
  {call : DepositCall} {reply : Except Failure call.Reply} {s s' : Store} {row : InrTransaction}
  {past : Past} {adminId : AdminId}

theorem Approver.later (approver : Approver requests x id adminId) (s' : Store)
    (made : DepositId × Answered DepositCall DepositCall.Reply Failure) :
    Approver requests ⟨s', made :: x.history⟩ id adminId := by
  obtain ⟨pid, earlier, request, member⟩ := approver
  exact ⟨pid, earlier, request, List.mem_cons_of_mem _ member⟩

theorem posted_cons (made : DepositId × Answered DepositCall DepositCall.Reply Failure) :
    Posted ⟨s', made :: x.history⟩ id pid ↔ Posted x id pid ∨ ∃ input txn,
      made = (pid, ⟨.post input, .ok txn⟩) ∧ input.referenceType = some REFERENCE_TYPE ∧
        input.referenceId = some id := by
  constructor
  · rintro ⟨input, txn, member, isType, isTarget⟩
    rcases List.mem_cons.mp member with same | earlier
    · exact .inr ⟨input, txn, same.symm, isType, isTarget⟩
    · exact .inl ⟨input, txn, earlier, isType, isTarget⟩
  · rintro (⟨input, txn, earlier, isType, isTarget⟩ | ⟨input, txn, rfl, isType, isTarget⟩)
    · exact ⟨input, txn, List.mem_cons_of_mem _ earlier, isType, isTarget⟩
    · exact ⟨input, txn, List.mem_cons_self, isType, isTarget⟩

theorem requiresDual_same {row row' : InrTransaction} (same : SameDeposit row row') :
    requiresDual config row' = requiresDual config row := by
  rw [requiresDual, requiresDual, same.amount]

theorem controlled_initial (opening : Opening s) : Controlled config requests ⟨s, []⟩ where
  sound := sound_agreed opening.toAgreed
  read pid id row member := by cases member
  first id row first found isFirst := by
    rw [opening.unapproved id row found] at isFirst
    cases isFirst
  posted id := by
    constructor
    · intro isCredited
      cases (opening.uncredited id).symm.trans isCredited
    · rintro ⟨pid, input, txn, member, -⟩
      cases member
  dual id row pid found manual large posted := by
    obtain ⟨input, txn, member, -⟩ := posted
    cases member

/-! ## One call -/

/-- A first approver is the admin who approves, and is written only where the
column is empty. -/
theorem May.firstApproval {request : Request} (call' : May config request past call)
    (writes : call = .update id (.markFirstApproval adminId) ∨
      call = .updateMany id (.markFirstApproval adminId)) :
    call = .updateMany id (.markFirstApproval adminId) ∧ ∃ other row, row.id = id ∧
      request = .approveManualDeposit other (some adminId) ∧
        ⟨.findById other, .ok (some row)⟩ ∈ past := by
  rcases writes with rfl | rfl
  · cases call' with
    | neutral neutral => cases neutral
  · cases call' with
    | neutral neutral => cases neutral
    | markFirstApproval _ isRequest read => exact ⟨rfl, _, _, rfl, isRequest, read⟩

/-- A posting credits a gateway deposit, or is by an admin who has read the
approval of another one where that is needed. -/
theorem May.credit {request : Request} {input : LedgerPostingInput ℕ}
    (call' : May config request past (.post input)) :
    (∃ orderId row, input = gatewayCredit row ∧ FoundByOrder orderId row past) ∨
      ∃ other second row, input = manualCredit row ∧
        request = .approveManualDeposit other (some second) ∧
        ⟨.findById other, .ok (some row)⟩ ∈ past ∧
        (requiresDual config row → ∃ first, row.firstApprovedBy = some first ∧ first ≠ second) := by
  cases call' with
  | neutral neutral => cases neutral
  | gatewayCredit found => exact .inl ⟨_, _, rfl, found⟩
  | manualCredit _ isRequest read dual => exact .inr ⟨_, _, _, rfl, isRequest, read, dual⟩

/-- The first approver of a row stays. -/
private theorem first_kept (sound : Sound x) (call' : May config (requests pid) (x.past pid) call)
    (makes : Makes pid call x.store reply s') (found : x.store.deposits.lookup id = some row) :
    ∃ after, s'.deposits.lookup id = some after ∧ SameDeposit row after ∧
      ∀ first, row.firstApprovedBy = some first → after.firstApprovedBy = some first := by
  obtain ⟨after, isAfter, same, rfl | ⟨change, rfl, writes⟩⟩ := makes.effect.stays sound.keyed found
  · exact ⟨after, isAfter, same, fun first isFirst => isFirst⟩
  refine ⟨_, isAfter, same, fun first isFirst => ?_⟩
  cases change with
  | markFirstApproval adminId =>
    obtain ⟨rfl, -⟩ := May.firstApproval call' writes.calls
    cases writes with
    | updateMany applies => simp [Change.update, markFirstApproval, isFirst] at applies
  | _ => exact isFirst

/-- The first approver of a row has called `approve` on it. -/
private theorem first_step (inv : Controlled config requests x)
    (call' : May config (requests pid) (x.past pid) call) (makes : Makes pid call x.store reply s')
    {first : AdminId} (found : s'.deposits.lookup id = some row)
    (isFirst : row.firstApprovedBy = some first) :
    Approver requests ⟨s', (pid, ⟨call, reply⟩) :: x.history⟩ id first := by
  rcases makes.effect.origin inv.sound.keyed found with before | ⟨amount, data, rfl, -⟩ |
    ⟨change, before, isBefore, rfl, writes⟩
  · exact (inv.first id row first before isFirst).later s' _
  · cases isFirst
  cases change with
  | markFirstApproval adminId =>
    obtain rfl : adminId = first := Option.some.inj isFirst
    obtain ⟨-, other, read, isId, isRequest, isRead⟩ := May.firstApproval call' writes.calls
    obtain ⟨sameId, -⟩ := inv.read pid other read (Logged.mem_past.mp isRead)
    obtain rfl : other = id := sameId.symm.trans isId
    exact ⟨pid, _, isRequest, List.mem_cons_self⟩
  | _ => exact (inv.first id before first isBefore isFirst).later s' _

private theorem read_step (inv : Controlled config requests x)
    (call' : May config (requests pid) (x.past pid) call) (makes : Makes pid call x.store reply s')
    {other : DepositId} (member : (other, ⟨.findById id, .ok (some row)⟩) ∈
      (pid, (⟨call, reply⟩ : Answered DepositCall DepositCall.Reply Failure)) :: x.history) :
    row.id = id ∧ ∃ now, s'.deposits.lookup id = some now ∧ SameDeposit row now ∧
      ∀ first, row.firstApprovedBy = some first → now.firstApprovedBy = some first := by
  rcases List.mem_cons.mp member with same | earlier
  · cases same
    have isRow := makes.findById.symm
    exact ⟨inv.sound.keyed id row isRow, first_kept inv.sound call' makes isRow⟩
  · obtain ⟨isId, now, isNow, same, first⟩ := inv.read other id row earlier
    obtain ⟨after, isAfter, same', first'⟩ := first_kept inv.sound call' makes isNow
    exact ⟨isId, after, isAfter, same.trans same', fun admin isFirst => first' admin (first admin isFirst)⟩

/-- An admin who posts the credit of a large deposit has found the first
approval of another one. -/
private theorem dual_posted (inv : Controlled config requests x)
    {input : LedgerPostingInput ℕ} {reply : Except Failure (LedgerTransaction ℕ)}
    (call' : May config (requests pid) (x.past pid) (.post input))
    (makes : Makes pid (.post input) x.store reply s') (isTarget : input.referenceId = some id)
    (found : s'.deposits.lookup id = some row) (manual : row.provider = some MANUAL_PROVIDER)
    (large : requiresDual config row) : ∃ first second, first ≠ second ∧
      row.firstApprovedBy = some first ∧ requests pid = .approveManualDeposit id (some second) := by
  rcases May.credit call' with ⟨orderId, read, rfl, byOrder⟩ |
    ⟨other, second, read, rfl, isRequest, isRead, dual⟩
  · cases isTarget
    obtain ⟨now, isNow, same, gateway⟩ := inv.sound.found pid .gateway read ⟨orderId, byOrder⟩
    obtain ⟨after, isAfter, same', -⟩ := first_kept inv.sound call' makes isNow
    cases found.symm.trans isAfter
    rw [same'.provider, same.provider, gateway] at manual
    exact absurd manual (by decide)
  · cases isTarget
    obtain ⟨isId, now, isNow, same, first⟩ := inv.read pid _ read (Logged.mem_past.mp isRead)
    rw [← isId] at isNow isRequest
    obtain ⟨after, isAfter, same', first'⟩ := first_kept inv.sound call' makes isNow
    cases found.symm.trans isAfter
    rw [requiresDual_same same', requiresDual_same same] at large
    obtain ⟨admin, isFirst, different⟩ := dual large
    exact ⟨admin, second, different, first' admin (first admin isFirst), isRequest⟩

private theorem dual_step (inv : Controlled config requests x)
    (call' : May config (requests pid) (x.past pid) call) (makes : Makes pid call x.store reply s')
    {other : DepositId} (found : s'.deposits.lookup id = some row)
    (manual : row.provider = some MANUAL_PROVIDER) (large : requiresDual config row)
    (posted : Posted ⟨s', (pid, ⟨call, reply⟩) :: x.history⟩ id other) : ∃ first second,
      first ≠ second ∧ row.firstApprovedBy = some first ∧
        requests other = .approveManualDeposit id (some second) := by
  rcases (posted_cons _).mp posted with earlier | ⟨input, txn, same, -, isTarget⟩
  · obtain ⟨before, isBefore⟩ := inv.sound.known id ((inv.posted id).mpr ⟨other, earlier⟩)
    obtain ⟨after, isAfter, same, kept⟩ := first_kept inv.sound call' makes isBefore
    cases found.symm.trans isAfter
    rw [requiresDual_same same] at large
    obtain ⟨first, second, different, isFirst, isRequest⟩ :=
      inv.dual id before other isBefore (same.provider ▸ manual) large earlier
    exact ⟨first, second, different, kept first isFirst, isRequest⟩
  · cases same
    exact dual_posted inv call' makes isTarget found manual large

theorem controlled_step (inv : Controlled config requests x)
    (call' : May config (requests pid) (x.past pid) call) (makes : Makes pid call x.store reply s') :
    Controlled config requests ⟨s', (pid, ⟨call, reply⟩) :: x.history⟩ where
  sound := sound_step inv.sound call' makes
  read _ _ _ member := read_step inv call' makes member
  first _ _ _ found isFirst := first_step inv call' makes found isFirst
  posted id := by
    rw [makes.effect.credited_iff, inv.posted]
    constructor
    · rintro (⟨other, posted⟩ | ⟨input, txn, same, isType, isTarget⟩)
      · exact ⟨other, (posted_cons _).mpr (.inl posted)⟩
      · exact ⟨pid, (posted_cons _).mpr (.inr ⟨input, txn, by rw [same], isType, isTarget⟩)⟩
    · rintro ⟨other, posted⟩
      rcases (posted_cons _).mp posted with earlier | ⟨input, txn, same, isType, isTarget⟩
      · exact .inl ⟨other, earlier⟩
      · exact .inr ⟨input, txn, congrArg Prod.snd same, isType, isTarget⟩
  dual _ _ _ found manual large posted := dual_step inv call' makes found manual large posted

/-! ## Runs -/

/-- In every run a large manual deposit is credited by two admins. -/
theorem credited_by_two {pool : DepositPool}
    (run : Logged.Run interleaved (IsRequest config requests) Opening pool) :
    DuallyControlled config requests pool.store := by
  have inv : Controlled config requests pool.store :=
    run.inv (fun _ _ isRequest => isRequest_obeys isRequest)
      (fun _ opening => controlled_initial opening)
      fun _ _ _ _ _ inv call' makes => controlled_step inv call'.1 makes
  intro id row found manual large isCredited
  refine ⟨(inv.posted id).mp isCredited, fun pid posted => ?_⟩
  obtain ⟨first, second, different, isFirst, isRequest⟩ := inv.dual id row pid found manual large posted
  exact ⟨first, second, different, isFirst, inv.first id row first found isFirst, isRequest⟩

theorem emptyDesk_opening : Opening emptyDesk where
  toAgreed := emptyDesk_agreed
  uncredited _ := rfl
  unapproved id row found := by cases (AList.lookup_empty id).symm.trans found

/-- Deposit 1 is at the threshold; admin 7 calls twice at once, then admin 8. -/
private def approvals : DepositId → Request
  | 1 => .createManualDeposit 1 ⟨rupees 50000 (by omega), "UTR1", "IMPS", none⟩
  | 2 => .approveManualDeposit 1 (some 7)
  | 3 => .approveManualDeposit 1 (some 7)
  | _ => .approveManualDeposit 1 (some 8)

/-- Deposit 1 is credited by admin 8. -/
theorem credited_by_two_once : ∃ x : History, credited x.store 1 ∧
    DuallyControlled smallConfig approvals x := by
  have played : (schedule smallConfig (fun _ _ => false) (fun _ _ _ _ => true) approvals [1, 2, 3, 4]
      [(1, 9), (2, 1), (3, 1), (2, 9), (3, 9), (4, 9)] emptyDesk).map (fun pool =>
        credited pool.store.store 1) = some true := by decide +kernel
  obtain ⟨pool, scheduled, isCredited⟩ := Option.map_eq_some_iff.mp played
  have run : Logged.Run interleaved (IsRequest smallConfig approvals) Opening pool :=
    schedule_run emptyDesk_opening (fun _ _ _ _ _ _ makes => makes) scheduled
  exact ⟨pool.store, isCredited, credited_by_two run⟩

end Exchange.Deposits.DualControl
