import Exchange.DepositAgreement

/-! The deposit of a gateway order, while no new deposits are made. What a
request has read of an order stays true of its deposit, so that a captured
payment that was dealt with has credited it, unless the deposit was found
closed. -/
namespace Exchange.Deposits.Orders
open Ledger Service Agreement

/-- The request makes a new deposit. -/
def creates : Request → Bool
  | .createDeposit _ _ => true
  | .createManualDeposit _ _ => true
  | _ => false

/-- The row is the gateway's deposit of an order. -/
def IsOf (orderId : String) (row : InrTransaction) : Prop :=
  row.provider = some RAZORPAY_PROVIDER_ID ∧ row.providerOrderId = some orderId ∧ row.type = .deposit

instance (orderId : String) (row : InrTransaction) : Decidable (IsOf orderId row) :=
  inferInstanceAs (Decidable (_ ∧ _ ∧ _))

/-- An order has one deposit. -/
def UniqueOrders (s : Store) : Prop :=
  ∀ orderId id row id' row', s.deposits.lookup id = some row → s.deposits.lookup id' = some row' →
    IsOf orderId row → IsOf orderId row' → id = id'

/-- The request has found a deposit by its order, FAILED or REVERSED. -/
def FoundClosed (orderId : String) (id : DepositId) (past : Past) : Prop :=
  ∃ row, row.id = id ∧ FoundByOrder orderId row past ∧ row.status ∈ [InrTxnStatus.failed, .reversed]

/-- Ledger and rows agree, and an order has one deposit. -/
structure Opening (s : Store) : Prop extends Agreed s where
  orders : UniqueOrders s

/-- What has been read of an order is so. -/
structure Traced (x : History) : Prop where
  sound : Sound x
  orders : UniqueOrders x.store
  found : ∀ pid orderId row, FoundByOrder orderId row (x.past pid) →
    IsOf orderId row ∧ (row.status = .success → credited x.store row.id)
  unknown : ∀ pid orderId, ⟨.findDepositByOrderId RAZORPAY_PROVIDER_ID orderId, .ok none⟩ ∈ x.past pid →
    ∀ id row, x.store.deposits.lookup id = some row → ¬IsOf orderId row

variable {config : Config} {request : Request} {x : History} {pid id : DepositId} {call : DepositCall}
  {reply : Except Failure call.Reply} {s s' : Store} {row row' : InrTransaction} {past : Past}
  {orderId : String} {payment : ParsedPayment}

theorem isOf_same (same : SameDeposit row row') : IsOf orderId row' ↔ IsOf orderId row := by
  rw [IsOf, IsOf, same.provider, same.providerOrderId, same.type]

theorem amountMatches_same (same : SameDeposit row row') :
    Service.amountMatches payment row' = Service.amountMatches payment row := by
  rw [Service.amountMatches, Service.amountMatches, same.amount]

theorem May.creates {data : NewDeposit} (call' : May config request past (.create data)) :
    creates request := by
  cases call' with
  | neutral neutral => cases neutral
  | createDeposit isRequest =>
    rw [isRequest]
    rfl
  | createManualDeposit isRequest =>
    rw [isRequest]
    rfl

theorem traced_initial (sound : Sound ⟨s, []⟩) (orders : UniqueOrders s) : Traced ⟨s, []⟩ where
  sound := sound
  orders := orders
  found pid orderId row found := by cases found
  unknown pid orderId member := by cases member

/-- A row was the same deposit before. -/
theorem was_there (sound : Sound x) (call' : May config request (x.past pid) call)
    (existing : creates request = false) (makes : Makes pid call x.store reply s')
    (found : s'.deposits.lookup id = some row) :
    ∃ before, x.store.deposits.lookup id = some before ∧ SameDeposit before row := by
  rcases makes.effect.origin sound.keyed found with before | ⟨amount, data, -, -, -, same⟩ |
    ⟨change, before, isBefore, rfl, -⟩
  · exact ⟨row, before, .refl row⟩
  · cases same
    cases existing.symm.trans (May.creates call')
  · exact ⟨before, isBefore, change.set_same before⟩

private theorem found_step (traced : Traced x) (call' : May config request (x.past pid) call)
    (makes : Makes pid call x.store reply s') (other : DepositId)
    (found : FoundByOrder orderId row
      ((⟨s', (pid, ⟨call, reply⟩) :: x.history⟩ : History).past other)) :
    IsOf orderId row ∧ (row.status = .success → credited s' row.id) := by
  have stays (isCredited : credited x.store row.id) : credited s' row.id :=
    (makes.effect.credited_iff row.id).mpr (.inl isCredited)
  rcases List.mem_cons.mp (Logged.mem_past.mp found) with same | before
  · cases same
    obtain ⟨⟨key, isRow⟩, isOf⟩ := mem_depositsOfOrder.mp makes.foundByOrder
    obtain rfl := traced.sound.keyed key row isRow
    exact ⟨isOf, fun success => stays (traced.sound.success row.id
      (isSuccess_iff.mpr ⟨row, isRow, success⟩))⟩
  · obtain ⟨isOf, success⟩ := traced.found other orderId row (Logged.mem_past.mpr before)
    exact ⟨isOf, fun isSuccess => stays (success isSuccess)⟩

/-- A request that makes no deposit keeps what was read. -/
theorem traced_step (traced : Traced x) (call' : May config request (x.past pid) call)
    (existing : creates request = false) (makes : Makes pid call x.store reply s') :
    Traced ⟨s', (pid, ⟨call, reply⟩) :: x.history⟩ where
  sound := sound_step traced.sound call' makes
  orders := by
    intro orderId id row id' row' found found' isOf isOf'
    obtain ⟨before, isBefore, same⟩ := was_there traced.sound call' existing makes found
    obtain ⟨before', isBefore', same'⟩ := was_there traced.sound call' existing makes found'
    exact traced.orders orderId id before id' before' isBefore isBefore' ((isOf_same same).mp isOf)
      ((isOf_same same').mp isOf')
  found other orderId row found := found_step traced call' makes other found
  unknown other orderId member id row found isOf := by
    obtain ⟨before, isBefore, same⟩ := was_there traced.sound call' existing makes found
    have wasOf := (isOf_same same).mp isOf
    rcases List.mem_cons.mp (Logged.mem_past.mp member) with same | earlier
    · cases same
      have member := mem_depositsOfOrder.mpr ⟨⟨id, isBefore⟩, wasOf⟩
      rw [makes.unknownOrder] at member
      cases member
    · exact traced.unknown other orderId (Logged.mem_past.mpr earlier) id before isBefore wasOf

/-- A deposit that was found by its order is the one of that order. -/
theorem Traced.same_deposit {before : InrTransaction} (traced : Traced x)
    (read : FoundByOrder orderId before (x.past pid)) (found : x.store.deposits.lookup id = some row)
    (isOf : IsOf orderId row) : before.id = id ∧ SameDeposit before row := by
  obtain ⟨wasOf, -⟩ := traced.found pid orderId before read
  obtain ⟨now, isNow, same, -⟩ := traced.sound.found pid .gateway before ⟨orderId, read⟩
  obtain rfl := traced.orders orderId id row before.id now found isNow isOf ((isOf_same same).mpr wasOf)
  cases found.symm.trans isNow
  exact ⟨rfl, same⟩

/-- A captured payment that was dealt with has credited its deposit, or had found
it closed. -/
theorem Settled.credited (settled : Settled payment (x.past pid)) (traced : Traced x)
    (found : x.store.deposits.lookup id = some row) (isOf : IsOf payment.orderId row)
    (isAmount : amountMatches payment row) :
    Deposits.credited x.store id ∨ FoundClosed payment.orderId id (x.past pid) := by
  obtain ⟨read, member, dealt⟩ := settled
  cases read with
  | none => exact (traced.unknown pid payment.orderId member id row found isOf).elim
  | some before =>
    obtain ⟨rfl, same⟩ := traced.same_deposit member found isOf
    rcases dealt before rfl (amountMatches_same same ▸ isAmount) with closed | ⟨txn, posted⟩
    · rcases List.mem_cons.mp closed with success | closed
      · exact .inl ((traced.found pid payment.orderId before member).2 success)
      · exact .inr ⟨before, rfl, member, closed⟩
    · exact .inl (traced.sound.posted pid .gateway before txn posted)

/-! ## Two orders -/

/-- A deposit of 500 INR by user 1. -/
def ordered (id : DepositId) (orderId : String) : InrTransaction :=
  ⟨id, 1, .deposit, 500, .pending, some RAZORPAY_PROVIDER_ID, some orderId, none, none, none, none, none,
    none, none, none, none⟩

/-- Deposit 1 waits for the payment of order A, deposit 2 for that of order B. -/
def twoOrders : Store := (emptyDesk.save (ordered 1 "order_A")).save (ordered 2 "order_B")

theorem twoOrders_lookup (found : twoOrders.deposits.lookup id = some row) :
    id = 1 ∧ row = ordered 1 "order_A" ∨ id = 2 ∧ row = ordered 2 "order_B" := by
  by_cases second : id = 2
  · subst second
    exact .inr ⟨rfl, Option.some.inj (found.symm.trans (Store.save_lookup _ (ordered 2 "order_B")))⟩
  have found := (Store.save_lookup_ne _ (ordered 2 "order_B") second).symm.trans found
  by_cases first : id = 1
  · subst first
    exact .inl ⟨rfl, Option.some.inj (found.symm.trans (Store.save_lookup _ (ordered 1 "order_A")))⟩
  have found := (Store.save_lookup_ne _ (ordered 1 "order_A") first).symm.trans found
  cases found

theorem twoOrders_agreed : Agreed twoOrders where
  keyed id row found := by
    rcases twoOrders_lookup found with ⟨rfl, rfl⟩ | ⟨rfl, rfl⟩ <;> rfl
  agree id := by
    have uncredited : Deposits.credited twoOrders id = false := rfl
    constructor
    · intro isCredited
      cases uncredited.symm.trans isCredited
    intro success
    obtain ⟨row, found, isSuccess⟩ := isSuccess_iff.mp success
    rcases twoOrders_lookup found with ⟨-, rfl⟩ | ⟨-, rfl⟩ <;> cases isSuccess

theorem twoOrders_unique : UniqueOrders twoOrders := by
  intro orderId id row id' row' found found' isOf isOf'
  have same : row.providerOrderId = row'.providerOrderId := isOf.2.1.trans isOf'.2.1.symm
  rcases twoOrders_lookup found with ⟨rfl, rfl⟩ | ⟨rfl, rfl⟩ <;>
    rcases twoOrders_lookup found' with ⟨rfl, rfl⟩ | ⟨rfl, rfl⟩ <;>
      first | rfl | simp [ordered] at same

theorem twoOrders_opening : Opening twoOrders := ⟨twoOrders_agreed, twoOrders_unique⟩

end Exchange.Deposits.Orders
