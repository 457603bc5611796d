import Exchange.AsyncBooking
import Exchange.DepositEffects

/-! The credit of a deposit and its row. Gateway deposits and manual ones have
their own credits and their own changes of the row, and touch only rows of
their kind; for each kind, ledger and rows agree as long as the row follows
every credit and is not taken back. -/
namespace Exchange.Deposits.Agreement
open Ledger Service

/-- The two ways money comes in. -/
inductive Rail where
  | gateway
  | manual
  deriving DecidableEq, Repr

namespace Rail

def provider : Rail → String
  | .gateway => RAZORPAY_PROVIDER_ID
  | .manual => MANUAL_PROVIDER

def credit : Rail → InrTransaction → LedgerPostingInput ℕ
  | .gateway => gatewayCredit
  | .manual => manualCredit

end Rail

/-- The rail whose requests make a change. -/
def railOf : Change → Rail
  | .attachPayment _ _ => .gateway
  | .markCredited _ _ => .gateway
  | .markFailed _ _ => .gateway
  | .markManualApproved _ _ => .manual
  | .markFirstApproval _ => .manual
  | .markManualRejected _ _ => .manual

/-- The request has found a deposit on its rail. -/
def FoundOn (rail : Rail) (row : InrTransaction) (past : Past) : Prop :=
  match rail with
  | .gateway => ∃ orderId, FoundByOrder orderId row past
  | .manual => FoundManual row past

/-- The request has posted a credit of its rail, last. -/
inductive OwesOn (rail : Rail) : Past → DepositId → Prop
  | posted {row : InrTransaction} {txn : LedgerTransaction ℕ} {past : Past}
      (found : FoundOn rail row past) : OwesOn rail (⟨.post (rail.credit row), .ok txn⟩ :: past) row.id

def isOn (s : Store) (rail : Rail) (id : DepositId) : Bool :=
  (s.deposits.lookup id).any fun row => row.provider = some rail.provider

def isSuccess (s : Store) (id : DepositId) : Bool :=
  (s.deposits.lookup id).any fun row => row.status = .success

/-- A deposit is SUCCESS if and only if its credit is in the ledger. -/
structure Agreed (s : Store) : Prop where
  keyed : Keyed s
  agree : ∀ id, credited s id ↔ isSuccess s id

/-- On one rail, a credit is followed by SUCCESS, and SUCCESS is not
overwritten: unless the row is SUCCESS already, the update after a posting goes
through, and a conditional one applies; no other is written to a row that is SUCCESS. -/
def keeps (on : Rail) (s : Store) : Answered DepositCall DepositCall.Reply Failure → Bool
  | ⟨.update id change, reply⟩ => railOf change ≠ on ||
      if change.credits then reply.isOk || isSuccess s id else !reply.isOk || !isSuccess s id
  | ⟨.updateMany id change, reply⟩ => railOf change ≠ on || !change.credits || isSuccess s id ||
      reply.isOk && (s.deposits.lookup id).any change.update.applies
  | _ => true

abbrev History := Logged DepositId DepositCall DepositCall.Reply Failure Store

def interleaved (pid : DepositId) (call : DepositCall) (x : History)
    (reply : Except Failure call.Reply) (s' : Store) : Prop :=
  Makes pid call x.store reply s'

def followed (on : Rail) (pid : DepositId) (call : DepositCall) (x : History)
    (reply : Except Failure call.Reply) (s' : Store) : Prop :=
  Makes pid call x.store reply s' ∧ keeps on x.store ⟨call, reply⟩

/-- What the requests have found and posted is there. -/
structure Sound (x : History) : Prop where
  keyed : Keyed x.store
  found : ∀ pid (on : Rail) row, FoundOn on row (x.past pid) →
    ∃ now, x.store.deposits.lookup row.id = some now ∧ SameDeposit row now ∧
      row.provider = some on.provider
  posted : ∀ pid (on : Rail) (row : InrTransaction) txn,
    ⟨.post (on.credit row), .ok txn⟩ ∈ x.past pid → credited x.store row.id
  known : ∀ id, credited x.store id → ∃ row, x.store.deposits.lookup id = some row
  success : ∀ id, isSuccess x.store id → credited x.store id

variable {config : Config} {request : Request} {requests : DepositId → Request} {x : History}
  {pid id : DepositId} {call : DepositCall} {reply : Except Failure call.Reply} {s s' : Store}
  {row : InrTransaction} {past : Past} {change : Change} {on : Rail}

/-! ## Rails -/

theorem provider_injective : Function.Injective Rail.provider := by
  intro rail other same
  cases rail <;> cases other <;> first | rfl | exact absurd same (by decide)

theorem credit_target (on : Rail) (row : InrTransaction) :
    (on.credit row).referenceType = some REFERENCE_TYPE ∧ (on.credit row).referenceId = some row.id := by
  cases on <;> exact ⟨rfl, rfl⟩

theorem isOn_iff : isOn s on id ↔
    ∃ row, s.deposits.lookup id = some row ∧ row.provider = some on.provider := by
  simp [isOn, Option.any_eq_true]

theorem isSuccess_iff : isSuccess s id ↔
    ∃ row, s.deposits.lookup id = some row ∧ row.status = .success := by
  simp [isSuccess, Option.any_eq_true]

/-- A deposit is on one rail. -/
theorem isOn_unique {other : Rail} (first : isOn s on id) (second : isOn s other id) : on = other := by
  obtain ⟨row, found, isProvider⟩ := isOn_iff.mp first
  obtain ⟨row', found', isOther⟩ := isOn_iff.mp second
  cases found.symm.trans found'
  exact provider_injective (Option.some.inj (isProvider.symm.trans isOther))

theorem FoundOn.cons (found : FoundOn on row past)
    (made : Answered DepositCall DepositCall.Reply Failure) : FoundOn on row (made :: past) := by
  cases on with
  | gateway =>
    obtain ⟨orderId, found⟩ := found
    exact ⟨orderId, FoundByOrder.cons found made⟩
  | manual => exact FoundManual.cons found made

/-- A posting credits a deposit that was found. -/
theorem May.posting {input : LedgerPostingInput ℕ} (call' : May config request past (.post input)) :
    ∃ on row, input = Rail.credit on row ∧ FoundOn on row past := by
  cases call' with
  | neutral neutral => cases neutral
  | gatewayCredit found => exact ⟨.gateway, _, rfl, _, found⟩
  | manualCredit found => exact ⟨.manual, _, rfl, found⟩

/-- A change is written to a deposit that was found, and one that credits right
after the posting. -/
theorem May.writing (call' : May config request past call)
    (writes : call = .update id change ∨ call = .updateMany id change) : ∃ row, row.id = id ∧
      FoundOn (railOf change) row past ∧ (change.credits → OwesOn (railOf change) past id) := by
  rcases writes with rfl | rfl
  · cases call' with
    | neutral neutral => cases neutral
    | attachPayment found => exact ⟨_, rfl, ⟨_, found⟩, nofun⟩
    | markFailed found => exact ⟨_, rfl, ⟨_, found⟩, nofun⟩
    | @markCredited orderId paymentId row txn before found =>
      have foundOn : FoundOn .gateway row before := ⟨orderId, found⟩
      exact ⟨row, rfl, foundOn.cons _, fun _ => .posted foundOn⟩
  · cases call' with
    | neutral neutral => cases neutral
    | markFirstApproval found => exact ⟨_, rfl, found, nofun⟩
    | markManualRejected found => exact ⟨_, rfl, found, nofun⟩
    | @markManualApproved adminId row txn before found =>
      have foundOn : FoundOn .manual row before := found
      exact ⟨row, rfl, foundOn.cons _, fun _ => .posted foundOn⟩

/-- An OPEN row is not made SUCCESS by a change that does not credit. -/
theorem May.credits (call' : May config request past call)
    (writes : call = .update id change ∨ call = .updateMany id change)
    (success : (change.update.set row).status = .success) : change.credits ∨ row.status = .success := by
  rcases Change.set_success success with credits | ⟨paymentId, rfl⟩ | ⟨-, already⟩
  · exact .inl credits
  · rcases writes with rfl | rfl
    · cases call' with
      | neutral neutral => cases neutral
    · cases call' with
      | neutral neutral => cases neutral
  · exact .inr already

/-- No deposit starts as SUCCESS. -/
theorem May.creating {data : NewDeposit} (call' : May config request past (.create data)) :
    data.status ≠ .success := by
  cases call' with
  | neutral neutral => cases neutral
  | createDeposit => exact nofun
  | createManualDeposit => exact nofun

/-! ## What is found and posted stays -/

/-- Nothing has been found or posted before the first call. -/
theorem sound_initial (keyed : Keyed s)
    (known : ∀ id, credited s id → ∃ row, s.deposits.lookup id = some row)
    (success : ∀ id, isSuccess s id → credited s id) : Sound ⟨s, []⟩ where
  keyed := keyed
  found pid on row found := by
    cases on with
    | gateway =>
      obtain ⟨orderId, ⟨⟩⟩ := found
    | manual =>
      obtain ⟨-, id, ⟨⟩⟩ := found
  posted pid on row txn member := by cases member
  known := known
  success := success

theorem sound_agreed (agreed : Agreed s) : Sound ⟨s, []⟩ := by
  refine sound_initial agreed.keyed (fun id isCredited => ?_) fun id => (agreed.agree id).mpr
  obtain ⟨row, found, -⟩ := isSuccess_iff.mp ((agreed.agree id).mp isCredited)
  exact ⟨row, found⟩

private theorem lookup_step (sound : Sound x) (makes : Makes pid call x.store reply s')
    (found : x.store.deposits.lookup id = some row) :
    ∃ now, s'.deposits.lookup id = some now ∧ SameDeposit row now := by
  obtain ⟨after, isAfter, same, -⟩ := makes.effect.stays sound.keyed found
  exact ⟨after, isAfter, same⟩

/-- A deposit that is found was there, on its rail. -/
private theorem found_now (sound : Sound x) (makes : Makes pid call x.store reply s')
    (found : FoundOn on row (⟨call, reply⟩ :: x.past pid)) : FoundOn on row (x.past pid) ∨
      x.store.deposits.lookup row.id = some row ∧ row.provider = some on.provider := by
  cases on with
  | gateway =>
    obtain ⟨orderId, member⟩ := found
    rcases List.mem_cons.mp member with same | before
    · cases same
      obtain ⟨⟨key, isRow⟩, isProvider, -⟩ := mem_depositsOfOrder.mp makes.foundByOrder
      obtain rfl := sound.keyed key row isRow
      exact .inr ⟨isRow, isProvider⟩
    · exact .inl ⟨orderId, before⟩
  | manual =>
    obtain ⟨isProvider, id, member⟩ := found
    rcases List.mem_cons.mp member with same | before
    · cases same
      have isRow := makes.findById.symm
      obtain rfl := sound.keyed id row isRow
      exact .inr ⟨isRow, isProvider⟩
    · exact .inl ⟨isProvider, id, before⟩

private theorem found_step (sound : Sound x) (makes : Makes pid call x.store reply s') (other : DepositId)
    (found : FoundOn on row ((⟨s', (pid, ⟨call, reply⟩) :: x.history⟩ : History).past other)) :
    ∃ now, s'.deposits.lookup row.id = some now ∧ SameDeposit row now ∧
      row.provider = some on.provider := by
  have before (pid' : DepositId) (found : FoundOn on row (x.past pid')) :
      ∃ now, s'.deposits.lookup row.id = some now ∧ SameDeposit row now ∧
        row.provider = some on.provider := by
    obtain ⟨now, isNow, same, isProvider⟩ := sound.found pid' on row found
    obtain ⟨after, isAfter, same'⟩ := lookup_step sound makes isNow
    exact ⟨after, isAfter, same.trans same', isProvider⟩
  by_cases own : other = pid
  · subst own
    rw [Logged.past_self] at found
    rcases found_now sound makes found with earlier | ⟨isRow, isProvider⟩
    · exact before other earlier
    · obtain ⟨after, isAfter, same⟩ := lookup_step sound makes isRow
      exact ⟨after, isAfter, same, isProvider⟩
  · rw [Logged.past_ne _ own] at found
    exact before other found

/-- A request that owes a credit has posted it. -/
theorem OwesOn.credited (owes : OwesOn on (x.past pid) id) (sound : Sound x) : credited x.store id := by
  generalize isPast : x.past pid = past at owes
  cases owes with
  | @posted row txn before found =>
    exact sound.posted pid on row txn (isPast ▸ List.mem_cons_self)

private theorem success_step (sound : Sound x) (call' : May config request (x.past pid) call)
    (makes : Makes pid call x.store reply s') (success : isSuccess s' id) : Deposits.credited s' id := by
  refine (makes.effect.credited_iff id).mpr (.inl ?_)
  obtain ⟨row, found, isStatus⟩ := isSuccess_iff.mp success
  rcases makes.effect.origin sound.keyed found with before | ⟨amount, data, rfl, rfl, -, same⟩ |
    ⟨change, before, isBefore, rfl, writes⟩
  · exact sound.success id (isSuccess_iff.mpr ⟨row, before, isStatus⟩)
  · cases same
    exact (May.creating call' isStatus).elim
  · rcases May.credits call' writes.calls isStatus with credits | already
    · obtain ⟨row, -, -, owes⟩ := May.writing call' writes.calls
      exact (owes credits).credited sound
    · exact sound.success id (isSuccess_iff.mpr ⟨before, isBefore, already⟩)

theorem sound_step (sound : Sound x) (call' : May config request (x.past pid) call)
    (makes : Makes pid call x.store reply s') : Sound ⟨s', (pid, ⟨call, reply⟩) :: x.history⟩ where
  keyed := makes.effect.keyed sound.keyed
  found other on row found := found_step sound makes other found
  posted other on row txn member := by
    refine (makes.effect.credited_iff row.id).mpr ?_
    rcases List.mem_cons.mp (Logged.mem_past.mp member) with same | before
    · cases same
      exact .inr ⟨_, txn, rfl, credit_target on row⟩
    · exact .inl (sound.posted other on row txn (Logged.mem_past.mpr before))
  known id isCredited := by
    rcases (makes.effect.credited_iff id).mp isCredited with before | ⟨input, txn, same, -, isTarget⟩
    · obtain ⟨row, found⟩ := sound.known id before
      obtain ⟨now, isNow, -⟩ := lookup_step sound makes found
      exact ⟨now, isNow⟩
    · cases same
      obtain ⟨on, row, rfl, found⟩ := May.posting call'
      cases (credit_target on row).2.symm.trans isTarget
      obtain ⟨now, isNow, -⟩ := sound.found pid on row found
      obtain ⟨after, isAfter, -⟩ := lookup_step sound makes isNow
      exact ⟨after, isAfter⟩
  success id success := success_step sound call' makes success

/-! ## Credits and their rows -/

theorem credit_injective {other : Rail} {row' : InrTransaction} (same : on.credit row = other.credit row') :
    on = other := by
  have isKind : (on.credit row).kind = (other.credit row').kind := congrArg LedgerPostingInput.kind same
  cases on <;> cases other <;>
    first | rfl | simp [Rail.credit, gatewayCredit, manualCredit, creditPosting] at isKind

theorem Change.sets_success (credits : change.credits) : (change.update.set row).status = .success := by
  cases change with
  | markCredited => rfl
  | markManualApproved => rfl
  | _ => cases credits

/-- The conditional changes are for rows that are PENDING. -/
theorem May.updates (call' : May config request past (.updateMany id change))
    (applies : change.update.applies row) : row.status = .pending := by
  cases call' with
  | neutral neutral => cases neutral
  | markFirstApproval =>
    simp only [Change.update, markFirstApproval, Bool.and_eq_true, decide_eq_true_eq] at applies
    exact applies.1
  | markManualApproved => exact of_decide_eq_true applies
  | markManualRejected => exact of_decide_eq_true applies

theorem OwesOn.owes (owesOn : OwesOn on past id) : Owes id past := by
  cases owesOn with
  | posted found =>
    obtain ⟨isType, isTarget⟩ := credit_target on _
    exact .posted isType isTarget

theorem OwesOn.posting (owesOn : OwesOn on past id) :
    ∃ row txn before, past = ⟨.post (on.credit row), .ok txn⟩ :: before := by
  cases owesOn with
  | posted found => exact ⟨_, _, _, rfl⟩

theorem OwesOn.unique {other : Rail} (first : OwesOn on past id) (second : OwesOn other past id) :
    on = other := by
  obtain ⟨row, txn, before, rfl⟩ := first.posting
  obtain ⟨row', txn', before', same⟩ := second.posting
  simp only [List.cons.injEq, Answered.mk.injEq, DepositCall.post.injEq] at same
  exact credit_injective same.1.1

/-- What is found on a rail is a row of that rail. -/
theorem Sound.isOn (sound : Sound x) (found : FoundOn on row (x.past pid)) : isOn x.store on row.id := by
  obtain ⟨now, isNow, same, isProvider⟩ := sound.found pid on row found
  exact isOn_iff.mpr ⟨now, isNow, same.provider.trans isProvider⟩

theorem OwesOn.isOn (owes : OwesOn on (x.past pid) id) (sound : Sound x) : isOn x.store on id := by
  generalize isPast : x.past pid = past at owes
  cases owes with
  | @posted row txn before found =>
    have isFound : FoundOn on row (x.past pid) := isPast ▸ found.cons _
    exact sound.isOn isFound

/-- A row that is there stays on its rail. -/
theorem isOn_step (sound : Sound x) (makes : Makes pid call x.store reply s')
    (found : x.store.deposits.lookup id = some row) :
    Agreement.isOn s' on id ↔ Agreement.isOn x.store on id := by
  obtain ⟨after, isAfter, same⟩ := lookup_step sound makes found
  constructor
  · intro now
    obtain ⟨other, isOther, isProvider⟩ := isOn_iff.mp now
    cases isAfter.symm.trans isOther
    exact isOn_iff.mpr ⟨row, found, same.provider ▸ isProvider⟩
  · intro before
    obtain ⟨other, isOther, isProvider⟩ := isOn_iff.mp before
    cases found.symm.trans isOther
    exact isOn_iff.mpr ⟨after, isAfter, same.provider.trans isProvider⟩

theorem isOn_stays (sound : Sound x) (makes : Makes pid call x.store reply s')
    (before : Agreement.isOn x.store on id) : Agreement.isOn s' on id := by
  obtain ⟨row, found, -⟩ := isOn_iff.mp before
  exact (isOn_step sound makes found).mpr before

private theorem books (sound : Sound x) (call' : May config request (x.past pid) call)
    (makes : Makes pid call x.store reply s') (isCredited : Deposits.credited s' id)
    (now : Agreement.isOn s' on id) : Deposits.credited x.store id ∧ Agreement.isOn x.store on id ∨
      OwesOn on (⟨call, reply⟩ :: x.past pid) id := by
  rcases (makes.effect.credited_iff id).mp isCredited with before | ⟨input, txn, same, -, isTarget⟩
  · obtain ⟨row, found⟩ := sound.known id before
    exact .inl ⟨before, (isOn_step sound makes found).mp now⟩
  · cases same
    obtain ⟨other, row, rfl, found⟩ := May.posting call'
    cases (credit_target other row).2.symm.trans isTarget
    obtain rfl : other = on := isOn_unique (isOn_stays sound makes (sound.isOn found)) now
    exact .inr (.posted found)

private theorem stays_booked (sound : Sound x) (makes : Makes pid call x.store reply s')
    (owes : OwesOn on (⟨call, reply⟩ :: x.past pid) id) :
    Deposits.credited s' id ∧ Agreement.isOn s' on id := by
  generalize isPast : x.past pid = past at owes
  cases owes with
  | @posted row txn _ found =>
    obtain ⟨isType, isTarget⟩ := credit_target on row
    have isCredited : Deposits.credited s' row.id :=
      (makes.effect.credited_iff row.id).mpr (.inr ⟨_, txn, rfl, isType, isTarget⟩)
    exact ⟨isCredited, isOn_stays sound makes (sound.isOn (isPast ▸ found))⟩

private theorem records (sound : Sound x) (call' : May config request (x.past pid) call)
    (makes : Makes pid call x.store reply s') (success : isSuccess s' id) (now : Agreement.isOn s' on id) :
    isSuccess x.store id ∧ Agreement.isOn x.store on id ∨ OwesOn on (x.past pid) id := by
  obtain ⟨row, found, isStatus⟩ := isSuccess_iff.mp success
  rcases makes.effect.origin sound.keyed found with before | ⟨amount, data, rfl, rfl, -, same⟩ |
    ⟨change, before, isBefore, rfl, writes⟩
  · exact .inl ⟨isSuccess_iff.mpr ⟨row, before, isStatus⟩, (isOn_step sound makes before).mp now⟩
  · cases same
    exact (May.creating call' isStatus).elim
  · have wasOn := (isOn_step sound makes isBefore).mp now
    rcases May.credits call' writes.calls isStatus with credits | already
    · obtain ⟨row, rfl, isFound, owes⟩ := May.writing call' writes.calls
      obtain rfl : railOf change = on := isOn_unique (sound.isOn isFound) wasOn
      exact .inr (owes credits)
    · exact .inl ⟨isSuccess_iff.mpr ⟨before, isBefore, already⟩, wasOn⟩

/-- A row that is SUCCESS is not overwritten. -/
private theorem success_stays (sound : Sound x) (call' : May config request (x.past pid) call)
    (made : followed on pid call x reply s') (success : isSuccess x.store id)
    (wasOn : Agreement.isOn x.store on id) : isSuccess s' id := by
  obtain ⟨makes, isKept⟩ := made
  obtain ⟨row, found, isStatus⟩ := isSuccess_iff.mp success
  obtain ⟨after, isAfter, -, rfl | ⟨change, rfl, writes⟩⟩ := makes.effect.stays sound.keyed found
  · exact isSuccess_iff.mpr ⟨_, isAfter, isStatus⟩
  obtain ⟨row', rfl, isFound, -⟩ := May.writing call' writes.calls
  have isRail : railOf change = on := isOn_unique (sound.isOn isFound) wasOn
  by_cases credits : change.credits
  · exact isSuccess_iff.mpr ⟨_, isAfter, Change.sets_success credits⟩
  cases writes with
  | update => simp [keeps, isRail, credits, success, Except.isOk, Except.toBool] at isKept
  | updateMany applies => cases isStatus.symm.trans (May.updates call' applies)

private theorem saved_success (sound : Sound x) (credits : change.credits)
    (found : x.store.deposits.lookup id = some row) :
    isSuccess (x.store.save (change.update.set row)) id := by
  have isKey : (change.update.set row).id = id := (change.set_same row).id.trans (sound.keyed id row found)
  have saved := Store.save_lookup x.store (change.update.set row)
  rw [isKey] at saved
  exact isSuccess_iff.mpr ⟨_, saved, Change.sets_success credits⟩

/-- What is owed is recorded with the next call. -/
private theorem success_owed (sound : Sound x) (call' : may config request (x.past pid) call)
    (made : followed on pid call x reply s') (owes : OwesOn on (x.past pid) id) : isSuccess s' id := by
  by_cases already : isSuccess x.store id
  · exact success_stays sound call'.1 made already (owes.isOn sound)
  obtain ⟨makes, isKept⟩ := made
  obtain ⟨change, writes, credits⟩ := call'.2 id owes.owes
  obtain ⟨row, -, -, owed⟩ := May.writing call'.1 writes
  have isRail : railOf change = on := (owed credits).unique owes
  rcases writes with rfl | rfl
  · have isOk : reply.isOk := by simpa [keeps, isRail, credits, already] using isKept
    cases makes.effect with
    | updated isBefore => exact saved_success sound credits isBefore
    | neutral neutral => cases neutral
    | failed => cases isOk
  · have isKept : reply.isOk ∧ (x.store.deposits.lookup id).any change.update.applies := by
      simpa [keeps, isRail, credits, already] using isKept
    obtain ⟨isOk, applies⟩ := isKept
    cases makes.effect with
    | changed isBefore => exact saved_success sound credits isBefore
    | missed misses =>
      obtain ⟨row, found, applies⟩ := (Option.any_eq_true _ _).mp applies
      cases (misses row found).symm.trans applies
    | neutral neutral => cases neutral
    | failed => cases isOk

/-- Credits of a rail are booked in the ledger and recorded in its rows. -/
theorem credit_booking (config : Config) (requests : DepositId → Request) (on : Rail) :
    Logged.Booking (followed on) (fun pid => may config (requests pid)) Sound
      (fun s id => (credited s id : Prop) ∧ Agreement.isOn s on id)
      (fun s id => (isSuccess s id : Prop) ∧ Agreement.isOn s on id) (OwesOn on) where
  idle id owes := by cases owes
  kept sound call' made := sound_step sound call'.1 made.1
  books sound call' made id now := books sound call'.1 made.1 now.1 now.2
  stays_booked sound call' made id before := by
    rcases before with ⟨before, wasOn⟩ | owes
    · exact ⟨(made.1.effect.credited_iff id).mpr (.inl before), isOn_stays sound made.1 wasOn⟩
    · exact stays_booked sound made.1 owes
  records sound call' made id now := records sound call'.1 made.1 now.1 now.2
  stays_recorded sound call' made id before := by
    rcases before with ⟨success, wasOn⟩ | owes
    · exact ⟨success_stays sound call'.1 made success wasOn, isOn_stays sound made.1 wasOn⟩
    · exact ⟨success_owed sound call' made owes, isOn_stays sound made.1 (owes.isOn sound)⟩

theorem ends_free {result : Except Failure Response} (ended : ends config request past result) : Free past := by
  cases result with
  | ok response => exact ended.1
  | error failure => exact ended

abbrev DepositPool := Pool DepositId DepositCall DepositCall.Reply Failure Response History

/-- In every run in which the rows of a rail follow its credits, ledger and rows
of that rail agree whenever no request is in flight. -/
theorem agreed_quiet {pool : DepositPool} {Initial : Store → Prop}
    (initial : ∀ s, Initial s → Agreed s)
    (run : Logged.Run (followed on) (IsRequest config requests) Initial pool) (quiet : pool.Quiet)
    (isOnRail : Agreement.isOn pool.store.store on id) :
    Deposits.credited pool.store.store id ↔ isSuccess pool.store.store id := by
  have booking := credit_booking config requests on
  have agreed := booking.quiet (fun _ _ isRequest => isRequest_obeys isRequest)
    (fun s isInitial => ⟨sound_agreed (initial s isInitial),
      fun id => and_congr_left fun _ => (initial s isInitial).agree id⟩)
    (fun pid past result id ended owes => ends_free ended id owes.owes) run quiet id
  exact ⟨fun isCredited => (agreed.mp ⟨isCredited, isOnRail⟩).1,
    fun success => (agreed.mpr ⟨success, isOnRail⟩).1⟩

/-- In such a run SUCCESS is never left. -/
theorem success_final {pool pool' : DepositPool} {Initial : Store → Prop}
    (initial : ∀ s, Initial s → Agreed s)
    (run : Logged.Run (followed on) (IsRequest config requests) Initial pool)
    (step' : Pool.Step (Logged.protocol (followed on)) (IsRequest config requests) pool pool')
    (isOnRail : Agreement.isOn pool.store.store on id) (success : isSuccess pool.store.store id) :
    isSuccess pool'.store.store id := by
  have booking := credit_booking config requests on
  exact (booking.recorded_step (fun _ _ isRequest => isRequest_obeys isRequest)
    (fun s isInitial => ⟨sound_agreed (initial s isInitial),
      fun id => and_congr_left fun _ => (initial s isInitial).agree id⟩) run step' ⟨success, isOnRail⟩).1

/-! ## Schedules -/

/-- User 1 may deposit, and nobody has yet. -/
def emptyDesk : Store where
  users _ := some ⟨.active, .approved, 1⟩
  deposits := ∅
  events := []
  ledger := ∅

theorem emptyDesk_agreed : Agreed emptyDesk where
  keyed id row found := by cases (AList.lookup_empty id).symm.trans found
  agree id := by
    have uncredited : Deposits.credited emptyDesk id = false := rfl
    have missing : isSuccess emptyDesk id = false := rfl
    rw [uncredited, missing]

def smallConfig : Config where
  depositMin := 100
  depositMax := 500000
  dualApprovalThreshold := 50000
  keySecret := "key_secret"
  webhookSecret := "webhook_secret"
  hmacSha256Hex _ _ := ""
  sha256Hex _ := ""

/-- A whole number of rupees. -/
def rupees (n : ℕ) (positive : 0 < n) : CreateDepositInput where
  amount := n
  valid := ⟨by exact_mod_cast positive, n * 100, by norm_num⟩

/-- A schedule at the empty desk, in which only certain calls are made, with
certain answers. -/
def schedule (config : Config) (isLost : DepositId → DepositCall → Bool)
    (allows : DepositId → (call : DepositCall) → History → Except Failure call.Reply → Bool)
    (requests : DepositId → Request) (arrivals : List DepositId) (turns : List (DepositId × ℕ))
    (s : Store) : Option DepositPool :=
  Database.schedule perform (fun _ => ⟨fun _ _ => .ok "order_A", 0⟩) isLost allows
    (fun pid => (requests pid).program config pid) arrivals turns s

theorem schedule_run {isLost : DepositId → DepositCall → Bool}
    {allows : DepositId → (call : DepositCall) → History → Except Failure call.Reply → Bool}
    {arrivals : List DepositId} {turns : List (DepositId × ℕ)} {pool : DepositPool}
    {Initial : Store → Prop} {initial : Store}
    {step : DepositId → (call : DepositCall) → History → Except Failure call.Reply → Store → Prop}
    (isInitial : Initial initial)
    (sound : ∀ pid call x reply s', allows pid call x reply → Makes pid call x.store reply s' →
      step pid call x reply s')
    (played : schedule config isLost allows requests arrivals turns initial = some pool) :
    Logged.Run step (IsRequest config requests) Initial pool :=
  Database.schedule_run isInitial (fun _ => rfl) sound played

end Exchange.Deposits.Agreement
