import Exchange.DepositRules
import Exchange.LedgerPostings

/-! What the calls of the deposit service do to the tables: one row is created
or changed at a time, and no row changes its identity. -/
namespace Exchange.Deposits
open Ledger Service

variable {pid id : DepositId} {s s' : Store} {row : InrTransaction} {call : DepositCall}
  {reply : Except Failure call.Reply}

/-- The store with one row written. -/
def Store.save (s : Store) (row : InrTransaction) : Store :=
  { s with deposits := s.deposits.insert row.id row }

@[simp] theorem Store.save_lookup (s : Store) (row : InrTransaction) :
    (s.save row).deposits.lookup row.id = some row :=
  AList.lookup_insert _

theorem Store.save_lookup_ne (s : Store) (row : InrTransaction) {other : DepositId}
    (ne : other ≠ row.id) : (s.save row).deposits.lookup other = s.deposits.lookup other :=
  AList.lookup_insert_ne ne

/-- The columns that say which deposit a row is. -/
structure SameDeposit (row row' : InrTransaction) : Prop where
  id : row'.id = row.id
  userId : row'.userId = row.userId
  type : row'.type = row.type
  amount : row'.amount = row.amount
  provider : row'.provider = row.provider
  providerOrderId : row'.providerOrderId = row.providerOrderId

theorem SameDeposit.refl (row : InrTransaction) : SameDeposit row row := ⟨rfl, rfl, rfl, rfl, rfl, rfl⟩

theorem SameDeposit.trans {row row' row'' : InrTransaction} (first : SameDeposit row row')
    (second : SameDeposit row' row'') : SameDeposit row row'' where
  id := second.id.trans first.id
  userId := second.userId.trans first.userId
  type := second.type.trans first.type
  amount := second.amount.trans first.amount
  provider := second.provider.trans first.provider
  providerOrderId := second.providerOrderId.trans first.providerOrderId

theorem Change.set_same (change : Change) (row : InrTransaction) :
    SameDeposit row (change.update.set row) := by
  cases change <;> exact ⟨rfl, rfl, rfl, rfl, rfl, rfl⟩

/-- A change that does not credit leaves SUCCESS to those that do. -/
theorem Change.set_success {change : Change} (success : (change.update.set row).status = .success) :
    change.credits ∨ (∃ providerPaymentId, change = .attachPayment providerPaymentId .success) ∨
      (∃ adminId, change = .markFirstApproval adminId) ∧ row.status = .success := by
  cases change with
  | attachPayment providerPaymentId status =>
    obtain rfl : status = .success := success
    exact .inr (.inl ⟨_, rfl⟩)
  | markCredited => exact .inl rfl
  | markFailed => cases success
  | markManualApproved => exact .inl rfl
  | markFirstApproval adminId => exact .inr (.inr ⟨⟨adminId, rfl⟩, success⟩)
  | markManualRejected => cases success

/-- The row `create` inserts. -/
def newRow (id : DepositId) (amount : Decimal) (data : NewDeposit) : InrTransaction :=
  ⟨id, data.userId, .deposit, amount, data.status, some data.provider, data.providerOrderId, none, none,
    data.utr, data.method, data.proofKey, none, none, none, none⟩

/-- What a call did, by its answer. -/
inductive Effect (pid : DepositId) (s : Store) :
    Answered DepositCall DepositCall.Reply Failure → Store → Prop
  | created {amount : Decimal} {data : NewDeposit} (fresh : s.deposits.lookup pid = none) :
      Effect pid s ⟨.create data, .ok (newRow pid amount data)⟩ (s.save (newRow pid amount data))
  | updated {id : DepositId} {change : Change} {row : InrTransaction}
      (found : s.deposits.lookup id = some row) :
      Effect pid s ⟨.update id change, .ok (change.update.set row)⟩ (s.save (change.update.set row))
  | changed {id : DepositId} {change : Change} {row : InrTransaction}
      (found : s.deposits.lookup id = some row) (applies : change.update.applies row) :
      Effect pid s ⟨.updateMany id change, .ok 1⟩ (s.save (change.update.set row))
  | missed {id : DepositId} {change : Change}
      (misses : ∀ row, s.deposits.lookup id = some row → change.update.applies row = false) :
      Effect pid s ⟨.updateMany id change, .ok 0⟩ s
  | recorded {event : PaymentWebhookEvent} :
      Effect pid s ⟨.createWebhookEvent event, .ok event⟩ { s with events := event :: s.events }
  | posted {input : LedgerPostingInput ℕ} {reply : Except Failure (LedgerTransaction ℕ)}
      {ledger : Ledger.Store ℕ} (ran : Ledger.post input s.ledger = (reply, ledger)) :
      Effect pid s ⟨.post input, reply⟩ { s with ledger }
  | neutral {call : DepositCall} {reply : Except Failure call.Reply} (neutral : call.isNeutral) :
      Effect pid s ⟨call, reply⟩ s
  | failed {call : DepositCall} {failure : Failure} : Effect pid s ⟨call, .error failure⟩ s

private theorem saveRow_ok {row' : InrTransaction} (ok : saveRow row s = .ok (row', s')) :
    row' = row ∧ s' = s.save row := by
  unfold saveRow at ok
  split at ok
  · cases ok
  split at ok
  · cases ok
  · cases ok
    exact ⟨rfl, rfl⟩

private theorem create_ok {data : NewDeposit} (ok : create id data s = .ok (row, s')) :
    (∃ amount, row = newRow id amount data) ∧ s.deposits.lookup id = none ∧ s' = s.save row := by
  simp only [create, except_bind_ok] at ok
  obtain ⟨amount, -, ok⟩ := ok
  split at ok
  · cases ok
  · rename_i fresh
    obtain ⟨rfl, rfl⟩ := saveRow_ok ok
    exact ⟨⟨amount, rfl⟩, by simpa using fresh, rfl⟩

private theorem update_ok {change : Change} {row' : InrTransaction}
    (ok : update id change s = .ok (row', s')) : ∃ row, s.deposits.lookup id = some row ∧
      row' = change.update.set row ∧ s' = s.save row' := by
  unfold update at ok
  split at ok
  · cases ok
  · rename_i row found
    obtain ⟨rfl, rfl⟩ := saveRow_ok ok
    exact ⟨row, found, rfl, rfl⟩

private theorem updateMany_ok {change : Change} {count : ℕ}
    (ok : updateMany id change s = .ok (count, s')) :
    (count = 0 ∧ s' = s ∧ ∀ row, s.deposits.lookup id = some row → change.update.applies row = false) ∨
      ∃ row, s.deposits.lookup id = some row ∧ change.update.applies row ∧ count = 1 ∧
        s' = s.save (change.update.set row) := by
  unfold updateMany at ok
  split at ok
  · rename_i none
    cases ok
    refine .inl ⟨rfl, rfl, fun row found => ?_⟩
    simpa [found] using none
  · rename_i row found
    obtain ⟨found, applies⟩ := Option.filter_eq_some_iff.mp found
    cases saved : saveRow (change.update.set row) s with
    | error failure =>
      rw [saved] at ok
      cases ok
    | ok pair =>
      obtain ⟨row', store⟩ := pair
      rw [saved] at ok
      cases ok
      obtain ⟨rfl, rfl⟩ := saveRow_ok saved
      exact .inr ⟨row, found, applies, rfl, rfl⟩

private theorem createWebhookEvent_ok {event event' : PaymentWebhookEvent}
    (ok : createWebhookEvent event s = .ok (event', s')) :
    event' = event ∧ s' = { s with events := event :: s.events } := by
  unfold createWebhookEvent at ok
  split at ok
  · cases ok
  · cases ok
    exact ⟨rfl, rfl⟩

/-- Every call has one of these effects. -/
theorem Makes.effect (made : Makes pid call s reply s') : Effect pid s ⟨call, reply⟩ s' := by
  rcases made with ⟨world, made⟩ | ⟨⟨failure, -, rfl⟩, rfl⟩
  · cases call with
    | create data =>
      rcases Database.written_cases made with ⟨row, rfl, ran⟩ | ⟨⟨failure, rfl, -⟩, rfl⟩
      · obtain ⟨⟨amount, rfl⟩, fresh, rfl⟩ := create_ok ran
        exact .created fresh
      · exact .failed
    | update id change =>
      rcases Database.written_cases made with ⟨row, rfl, ran⟩ | ⟨⟨failure, rfl, -⟩, rfl⟩
      · obtain ⟨row, found, rfl, rfl⟩ := update_ok ran
        exact .updated found
      · exact .failed
    | updateMany id change =>
      rcases Database.written_cases made with ⟨count, rfl, ran⟩ | ⟨⟨failure, rfl, -⟩, rfl⟩
      · rcases updateMany_ok ran with ⟨rfl, rfl, misses⟩ | ⟨row, found, applies, rfl, rfl⟩
        · exact .missed misses
        · exact .changed found applies
      · exact .failed
    | createWebhookEvent event =>
      rcases Database.written_cases made with ⟨event', rfl, ran⟩ | ⟨⟨failure, rfl, -⟩, rfl⟩
      · obtain ⟨stored, rfl⟩ := createWebhookEvent_ok ran
        rw [stored]
        exact .recorded
      · exact .failed
    | post input =>
      cases ran : Ledger.post input s.ledger with
      | mk outcome ledger =>
        simp only [perform, ran] at made
        cases made
        exact .posted ran
    | _ =>
      cases made
      exact .neutral rfl
  · exact .failed

/-! ## Answers of queries -/

theorem Makes.findById {found : Option InrTransaction}
    (made : Makes pid (.findById id) s (.ok found) s') : found = s.deposits.lookup id := by
  rcases made with ⟨world, made⟩ | ⟨⟨failure, -, same⟩, -⟩
  · cases made
    rfl
  · cases same

theorem mem_depositsOfOrder {provider orderId : String} :
    row ∈ depositsOfOrder s provider orderId ↔ (∃ key, s.deposits.lookup key = some row) ∧
      row.provider = some provider ∧ row.providerOrderId = some orderId ∧ row.type = .deposit := by
  simp only [depositsOfOrder, List.mem_filter, List.mem_map, Bool.and_eq_true, decide_eq_true_eq, and_assoc]
  refine and_congr_left fun _ => ⟨?_, ?_⟩
  · rintro ⟨⟨key, _⟩, member, rfl⟩
    exact ⟨key, Table.mem_rows.mp member⟩
  · rintro ⟨key, found⟩
    exact ⟨(key, row), Table.mem_rows.mpr found, rfl⟩

/-- A deposit that is found by its order is one of that order. -/
theorem Makes.foundByOrder {provider orderId : String}
    (made : Makes pid (.findDepositByOrderId provider orderId) s (.ok (some row)) s') :
    row ∈ depositsOfOrder s provider orderId := by
  rcases made with ⟨world, made⟩ | ⟨⟨failure, -, same⟩, -⟩
  · simp only [perform, Prod.mk.injEq, Except.ok.injEq] at made
    exact List.mem_of_getElem? made.1
  · cases same

/-- None is found only if the order has none. -/
theorem Makes.unknownOrder {provider orderId : String}
    (made : Makes pid (.findDepositByOrderId provider orderId) s (.ok none) s') :
    depositsOfOrder s provider orderId = [] := by
  rcases made with ⟨world, made⟩ | ⟨⟨failure, -, same⟩, -⟩
  · simp only [perform, Prod.mk.injEq, Except.ok.injEq, findDepositByOrderId, List.getElem?_eq_none_iff] at made
    by_contra nonempty
    have positive := List.length_pos_iff.mpr nonempty
    have inside := Nat.mod_lt world.findFirst positive
    omega
  · cases same

theorem Makes.findWebhookEvent {provider eventId : String} {event : PaymentWebhookEvent}
    (made : Makes pid (.findWebhookEvent provider eventId) s (.ok event) s') :
    event ∈ s.events ∧ event.provider = provider ∧ event.providerEventId = eventId := by
  rcases made with ⟨world, made⟩ | ⟨⟨failure, -, same⟩, -⟩
  · cases found : Deposits.findWebhookEvent s provider eventId with
    | none =>
      rw [perform, found] at made
      cases made
    | some existing =>
      rw [perform, found] at made
      cases made
      exact ⟨List.mem_of_find?_eq_some found, by simpa using List.find?_some found⟩
  · cases same

/-! ## One call -/

def credited (s : Store) (id : DepositId) : Bool := s.ledger.isPosted REFERENCE_TYPE id

/-- A credit is there once it was posted, and no other is added. -/
theorem Effect.credited_iff {made : Answered DepositCall DepositCall.Reply Failure}
    (effect : Effect pid s made s') (id : DepositId) : credited s' id ↔ credited s id ∨
      ∃ input txn, made = ⟨.post input, .ok txn⟩ ∧ input.referenceType = some REFERENCE_TYPE ∧
        input.referenceId = some id := by
  cases effect with
  | @posted input reply ledger ran =>
    change ledger.isPosted REFERENCE_TYPE id ↔ s.ledger.isPosted REFERENCE_TYPE id ∨ _
    rw [post_isPosted ran]
    refine or_congr_right ⟨?_, ?_⟩
    · rintro ⟨⟨txn, rfl⟩, isType, isTarget⟩
      exact ⟨input, txn, rfl, isType, isTarget⟩
    · rintro ⟨input', txn, same, isType, isTarget⟩
      cases same
      exact ⟨⟨txn, rfl⟩, isType, isTarget⟩
  | neutral neutral =>
    refine ⟨.inl, fun now => now.elim (fun before => before) ?_⟩
    rintro ⟨input, txn, same, -, -⟩
    cases same
    cases neutral
  | _ =>
    refine ⟨.inl, fun now => now.elim (fun before => before) ?_⟩
    rintro ⟨input, txn, same, -, -⟩
    cases same

/-- Rows are stored under their ids. -/
def Keyed (s : Store) : Prop := ∀ id row, s.deposits.lookup id = some row → row.id = id

/-- A call that has written a change of a row. -/
inductive Writes (id : DepositId) (change : Change) (row : InrTransaction) :
    Answered DepositCall DepositCall.Reply Failure → Prop
  | update : Writes id change row ⟨.update id change, .ok (change.update.set row)⟩
  | updateMany (applies : change.update.applies row) : Writes id change row ⟨.updateMany id change, .ok 1⟩

theorem Writes.calls {change : Change} {made : Answered DepositCall DepositCall.Reply Failure}
    (writes : Writes id change row made) :
    made.call = .update id change ∨ made.call = .updateMany id change := by
  cases writes with
  | update => exact .inl rfl
  | updateMany => exact .inr rfl

/-- Where a row comes from: it was there, or it is new, or a change was
written. -/
theorem Effect.origin {made : Answered DepositCall DepositCall.Reply Failure} (keyed : Keyed s)
    (effect : Effect pid s made s') (found : s'.deposits.lookup id = some row) :
    s.deposits.lookup id = some row ∨
      (∃ amount data, row = newRow pid amount data ∧ id = pid ∧ s.deposits.lookup pid = none ∧
        made = ⟨.create data, .ok row⟩) ∨
      ∃ change before, s.deposits.lookup id = some before ∧ row = change.update.set before ∧
        Writes id change before made := by
  have written {new : InrTransaction} (isFound : (s.save new).deposits.lookup id = some row) :
      id = new.id ∧ new = row ∨ s.deposits.lookup id = some row := by
    by_cases same : id = new.id
    · subst same
      rw [Store.save_lookup] at isFound
      exact .inl ⟨rfl, Option.some.inj isFound⟩
    · rw [Store.save_lookup_ne _ _ same] at isFound
      exact .inr isFound
  cases effect with
  | created fresh =>
    rcases written found with ⟨rfl, rfl⟩ | before
    · exact .inr (.inl ⟨_, _, rfl, rfl, fresh, rfl⟩)
    · exact .inl before
  | @updated target change old isRow =>
    rcases written found with ⟨same, rfl⟩ | before
    · obtain rfl : id = target := same.trans ((change.set_same old).id.trans (keyed target old isRow))
      exact .inr (.inr ⟨change, old, isRow, rfl, .update⟩)
    · exact .inl before
  | @changed target change old isRow applies =>
    rcases written found with ⟨same, rfl⟩ | before
    · obtain rfl : id = target := same.trans ((change.set_same old).id.trans (keyed target old isRow))
      exact .inr (.inr ⟨change, old, isRow, rfl, .updateMany applies⟩)
    · exact .inl before
  | _ => exact .inl found

/-- Rows are never deleted, and stay the same deposits. -/
theorem Effect.stays {made : Answered DepositCall DepositCall.Reply Failure} (keyed : Keyed s)
    (effect : Effect pid s made s') (found : s.deposits.lookup id = some row) :
    ∃ after, s'.deposits.lookup id = some after ∧ SameDeposit row after ∧
      (after = row ∨ ∃ change, after = change.update.set row ∧ Writes id change row made) := by
  have other {new : InrTransaction} (ne : id ≠ new.id) :
      (s.save new).deposits.lookup id = some row := (Store.save_lookup_ne _ _ ne).trans found
  cases effect with
  | created fresh =>
    refine ⟨row, other ?_, .refl row, .inl rfl⟩
    rintro rfl
    cases fresh.symm.trans found
  | @updated target change old isRow =>
    by_cases same : id = target
    · subst same
      cases found.symm.trans isRow
      have isKey : (change.update.set row).id = id := (change.set_same row).id.trans (keyed id row found)
      refine ⟨change.update.set row, ?_, change.set_same row, .inr ⟨change, rfl, .update⟩⟩
      rw [← isKey, Store.save_lookup]
    · refine ⟨row, other ?_, .refl row, .inl rfl⟩
      rwa [(change.set_same old).id, keyed target old isRow]
  | @changed target change old isRow applies =>
    by_cases same : id = target
    · subst same
      cases found.symm.trans isRow
      have isKey : (change.update.set row).id = id := (change.set_same row).id.trans (keyed id row found)
      refine ⟨change.update.set row, ?_, change.set_same row, .inr ⟨change, rfl, .updateMany applies⟩⟩
      rw [← isKey, Store.save_lookup]
    · refine ⟨row, other ?_, .refl row, .inl rfl⟩
      rwa [(change.set_same old).id, keyed target old isRow]
  | _ => exact ⟨row, found, .refl row, .inl rfl⟩

theorem Effect.keyed {made : Answered DepositCall DepositCall.Reply Failure} (keyed : Keyed s)
    (effect : Effect pid s made s') : Keyed s' := by
  intro id row found
  rcases effect.origin keyed found with before | ⟨amount, data, rfl, rfl, -⟩ |
    ⟨change, before, isBefore, rfl, -⟩
  · exact keyed id row before
  · rfl
  · exact (change.set_same before).id.trans (keyed id before isBefore)

end Exchange.Deposits
