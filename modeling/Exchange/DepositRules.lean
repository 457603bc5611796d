import Exchange.DepositService

/-! The rules the deposit requests follow: which calls a request makes after
which answers, and what it has learned when it answers. -/
namespace Exchange.Deposits

/-- Calls that change nothing. -/
def DepositCall.isNeutral : DepositCall → Bool
  | .create _ => false
  | .update _ _ => false
  | .updateMany _ _ => false
  | .createWebhookEvent _ => false
  | .post _ => false
  | _ => true

/-- The changes that follow a credit. -/
def Change.credits : Change → Bool
  | .markCredited _ _ => true
  | .markManualApproved _ _ => true
  | _ => false

namespace Service
open Ledger Async

/-- The calls a request has made, latest first. -/
abbrev Past := List (Answered DepositCall DepositCall.Reply Failure)

/-- The request has posted a credit, last; the change of the row is owed. -/
inductive Owes (id : DepositId) : Past → Prop
  | posted {input : LedgerPostingInput ℕ} {txn : LedgerTransaction ℕ} {past : Past}
      (isType : input.referenceType = some REFERENCE_TYPE) (isTarget : input.referenceId = some id) :
      Owes id (⟨.post input, .ok txn⟩ :: past)

/-- The request owes nothing. -/
def Free (past : Past) : Prop := ∀ id, ¬Owes id past

/-- The request has found a deposit by its order. -/
def FoundByOrder (orderId : String) (row : InrTransaction) (past : Past) : Prop :=
  ⟨.findDepositByOrderId RAZORPAY_PROVIDER_ID orderId, .ok (some row)⟩ ∈ past

/-- The request has found a manual deposit by its id. -/
def FoundManual (row : InrTransaction) (past : Past) : Prop :=
  row.provider = some MANUAL_PROVIDER ∧ ∃ id, ⟨.findById id, .ok (some row)⟩ ∈ past

/-- The id under which the event of a delivery is stored. -/
def deliveryId (config : Config) (input : WebhookInput) : Option String :=
  (input.rawBody.filter (· ≠ "")).map (providerEventId config input)

variable (config : Config) (request : Request)

/-- The calls a request may make. -/
inductive May : Past → DepositCall → Prop
  | neutral {past : Past} {call : DepositCall} (neutral : call.isNeutral) : May past call
  | createDeposit {userId : UserId} {input : CreateDepositInput} {order : String} {past : Past}
      (isRequest : request = .createDeposit userId input) :
      May past (.create
        ⟨userId, input.amount, .initiated, RAZORPAY_PROVIDER_ID, some order, none, none, none⟩)
  | createManualDeposit {userId : UserId} {input : CreateManualDepositInput} {past : Past}
      (isRequest : request = .createManualDeposit userId input) :
      May past (.create ⟨userId, input.amount, .pending, MANUAL_PROVIDER, none, some input.utr,
        some input.method, input.proofKey⟩)
  | createWebhookEvent {input : WebhookInput} {event : PaymentWebhookEvent} {past : Past}
      (isRequest : request = .handleWebhook input) (isProvider : event.provider = RAZORPAY_PROVIDER_ID)
      (isDelivery : deliveryId config input = some event.providerEventId) :
      May past (.createWebhookEvent event)
  | attachPayment {orderId paymentId : String} {row : InrTransaction} {past : Past}
      (found : FoundByOrder orderId row past) (initiated : row.status = .initiated) :
      May past (.update row.id (.attachPayment paymentId .pending))
  | markFailed {orderId paymentId reason : String} {row : InrTransaction} {past : Past}
      (found : FoundByOrder orderId row past) (uncredited : row.status ≠ .success) :
      May past (.update row.id (.markFailed paymentId reason))
  | gatewayCredit {orderId : String} {row : InrTransaction} {past : Past}
      (found : FoundByOrder orderId row past) : May past (.post (gatewayCredit row))
  | markCredited {orderId paymentId : String} {row : InrTransaction} {txn : LedgerTransaction ℕ}
      {past : Past} (found : FoundByOrder orderId row past) :
      May (⟨.post (Service.gatewayCredit row), .ok txn⟩ :: past)
        (.update row.id (.markCredited paymentId txn.id))
  | markFirstApproval {id : DepositId} {adminId : AdminId} {row : InrTransaction} {past : Past}
      (found : FoundManual row past) (isRequest : request = .approveManualDeposit id (some adminId))
      (read : ⟨.findById id, .ok (some row)⟩ ∈ past) :
      May past (.updateMany row.id (.markFirstApproval adminId))
  | manualCredit {id : DepositId} {adminId : AdminId} {row : InrTransaction} {past : Past}
      (found : FoundManual row past) (isRequest : request = .approveManualDeposit id (some adminId))
      (read : ⟨.findById id, .ok (some row)⟩ ∈ past)
      (dual : requiresDual config row → ∃ first, row.firstApprovedBy = some first ∧ first ≠ adminId) :
      May past (.post (manualCredit row))
  | markManualApproved {adminId : AdminId} {row : InrTransaction} {txn : LedgerTransaction ℕ}
      {past : Past} (found : FoundManual row past) :
      May (⟨.post (Service.manualCredit row), .ok txn⟩ :: past)
        (.updateMany row.id (.markManualApproved adminId txn.id))
  | markManualRejected {adminId : AdminId} {reason : Option String} {row : InrTransaction}
      {past : Past} (found : FoundManual row past) :
      May past (.updateMany row.id (.markManualRejected adminId reason))

/-- A request that owes the change of a row makes it next. -/
def may (past : Past) (call : DepositCall) : Prop :=
  May config request past call ∧ ∀ id, Owes id past →
    ∃ change : Change, (call = .update id change ∨ call = .updateMany id change) ∧ change.credits

/-- The payment is of the amount the deposit was created for. -/
def amountMatches (payment : ParsedPayment) (row : InrTransaction) : Bool :=
  match rupeesToPaise (row.amount.toFixed 2) with
  | .ok expectedPaise => payment.amountPaise = expectedPaise
  | .error _ => false

/-- A captured payment was dealt with: its deposit is unknown, or was found
closed, or is of another amount, or its credit was posted. -/
def Settled (payment : ParsedPayment) (past : Past) : Prop :=
  ∃ found, ⟨.findDepositByOrderId RAZORPAY_PROVIDER_ID payment.orderId, .ok found⟩ ∈ past ∧
    ∀ row, found = some row → amountMatches payment row →
      row.status ∈ [InrTxnStatus.success, .failed, .reversed] ∨
        ∃ txn, ⟨.post (Service.gatewayCredit row), .ok txn⟩ ∈ past

/-- The delivery has read back the event that kept its own from being stored. -/
def Duplicate (input : WebhookInput) (past : Past) : Prop :=
  ∃ event failure stored, deliveryId config input = some event.providerEventId ∧
    past = [⟨.findWebhookEvent RAZORPAY_PROVIDER_ID event.providerEventId, .ok stored⟩,
      ⟨.createWebhookEvent event, .error failure⟩]

/-- The payment a webhook reports as captured, if it does. -/
def capturedPayment (body : Json) : Option ParsedPayment :=
  if eventType body = PAYMENT_CAPTURED ∨ eventType body = ORDER_PAID then
    parsePaymentEntity (body.get? "payload") else none

/-- What a request knows when it answers. -/
def Knows (past : Past) : Prop :=
  match request with
  | .settleCapturedPayment payment => Settled payment past
  | .handleWebhook input => ∀ payment, capturedPayment input.body = some payment →
      Duplicate config input past ∨ Settled payment past
  | _ => True

/-- The program ends without a debt, and with an answer only if it knows a
fact. -/
def Learns {α : Type} (fact : Past → Prop) (past : Past) : Except Failure α → Prop
  | .ok _ => Free past ∧ fact past
  | .error _ => Free past

def ends (past : Past) (result : Except Failure Response) : Prop := Learns (Knows config request) past result

variable {config request} {past : Past}

/-! ## Pasts -/

theorem free_nil : Free [] := by
  rintro id ⟨⟩

theorem Free.cons {made : Answered DepositCall DepositCall.Reply Failure} (past : Past)
    (other : ∀ input txn, made ≠ ⟨.post input, .ok txn⟩) : Free (made :: past) := by
  intro id owes
  cases owes
  exact other _ _ rfl

theorem Free.neutral {call : DepositCall} {reply : Except Failure call.Reply} (past : Past)
    (neutral : call.isNeutral) : Free (⟨call, reply⟩ :: past) := by
  refine Free.cons past ?_
  rintro input txn same
  cases same
  cases neutral

theorem May.free {call : DepositCall} (call' : May config request past call) (free : Free past) :
    may config request past call :=
  ⟨call', fun id owes => (free id owes).elim⟩

theorem FoundByOrder.cons {orderId : String} {row : InrTransaction} (found : FoundByOrder orderId row past)
    (made : Answered DepositCall DepositCall.Reply Failure) : FoundByOrder orderId row (made :: past) :=
  List.mem_cons_of_mem _ found

theorem FoundManual.cons {row : InrTransaction} (found : FoundManual row past)
    (made : Answered DepositCall DepositCall.Reply Failure) : FoundManual row (made :: past) := by
  obtain ⟨manual, id, member⟩ := found
  exact ⟨manual, id, List.mem_cons_of_mem _ member⟩

/-- A request that has posted a credit owes the change of that row only. -/
theorem credited_may {input : LedgerPostingInput ℕ} {txn : LedgerTransaction ℕ} {id : DepositId}
    {change : Change} {call : DepositCall} (isTarget : input.referenceId = some id)
    (writes : call = .update id change ∨ call = .updateMany id change) (credits : change.credits)
    (call' : May config request (⟨.post input, .ok txn⟩ :: past) call) :
    may config request (⟨.post input, .ok txn⟩ :: past) call := by
  refine ⟨call', fun other owes => ?_⟩
  cases owes with
  | posted isType isOther =>
    cases isTarget.symm.trans isOther
    exact ⟨change, writes, credits⟩

/-- What is to be shown of a deposit that was found. -/
theorem FoundByOrder.settled {payment : ParsedPayment} {row : InrTransaction}
    (found : FoundByOrder payment.orderId row past)
    (dealt : amountMatches payment row → row.status ∈ [InrTxnStatus.success, .failed, .reversed] ∨
      ∃ txn, ⟨.post (Service.gatewayCredit row), .ok txn⟩ ∈ past) : Settled payment past := by
  refine ⟨some row, found, fun other same isAmount => ?_⟩
  cases same
  exact dealt isAmount

theorem Settled.unknown {payment : ParsedPayment}
    (missing : ⟨.findDepositByOrderId RAZORPAY_PROVIDER_ID payment.orderId, .ok none⟩ ∈ past) :
    Settled payment past := by
  refine ⟨none, missing, fun row same => ?_⟩
  cases same

/-! ## Programs -/

/-- A neutral call may be made when nothing is owed, and nothing is owed then. -/
theorem obeys_neutral {call : DepositCall} {post : Past → Except Failure call.Reply → Prop}
    (free : Free past) (neutral : call.isNeutral)
    (next : ∀ reply, Free (⟨call, reply⟩ :: past) → post (⟨call, reply⟩ :: past) reply) :
    (ask call).Obeys (may config request) post past :=
  obeys_call.mpr ⟨(May.neutral neutral).free free, fun reply => next reply (Free.neutral past neutral)⟩

/-- The program ends without a debt. -/
def FreeEnd (past : Past) (_ : Except Failure α) : Prop := Free past

theorem assertMayDeposit_obeys {userId : UserId} (free : Free past) :
    (assertMayDeposit userId).Obeys (may config request) FreeEnd past := by
  unfold assertMayDeposit
  rw [obeys_bind]
  apply obeys_neutral free rfl
  rintro (failure | found) free
  · exact free
  cases found with
  | none => exact free
  | some user =>
    dsimp only
    split
    · exact free
    split
    · exact free
    · exact free

theorem createDeposit_obeys {id : DepositId} {userId : UserId} {input : CreateDepositInput}
    (isRequest : request = .createDeposit userId input) :
    (createDeposit config id userId input).Obeys (may config request) FreeEnd [] := by
  unfold createDeposit
  rw [obeys_bind]
  apply (assertMayDeposit_obeys free_nil).imp
  rintro past (failure | _) free
  · exact free
  dsimp only
  split
  · exact free
  rw [obeys_bind]
  apply obeys_neutral free rfl
  rintro (failure | order) free
  · exact free
  refine obeys_call.mpr ⟨(May.createDeposit isRequest).free free, fun reply => ?_⟩
  exact Free.cons _ (by simp)

theorem createManualDeposit_obeys {userId : UserId} {input : CreateManualDepositInput}
    (isRequest : request = .createManualDeposit userId input) :
    (createManualDeposit config userId input).Obeys (may config request) FreeEnd [] := by
  unfold createManualDeposit
  rw [obeys_bind]
  apply (assertMayDeposit_obeys free_nil).imp
  rintro past (failure | _) free
  · exact free
  dsimp only
  split
  · exact free
  rw [obeys_tryCatch]
  refine obeys_call.mpr ⟨(May.createManualDeposit isRequest).free free, ?_⟩
  rintro (failure | row) <;> exact Free.cons _ (by simp)

/-! ## Gateway deposits -/

theorem verifyPayment_obeys {userId : UserId} {input : VerifyPaymentInput} :
    (verifyPayment config userId input).Obeys (may config request) FreeEnd [] := by
  unfold verifyPayment
  rw [obeys_bind]
  apply obeys_neutral free_nil rfl
  rintro (failure | found) free
  · exact free
  cases found with
  | none => exact free
  | some deposit =>
    dsimp only
    split
    · exact free
    split
    · exact free
    split
    · rename_i initiated
      have member : FoundByOrder input.orderId deposit
          [⟨.findDepositByOrderId RAZORPAY_PROVIDER_ID input.orderId, .ok (some deposit)⟩] :=
        List.mem_cons_self
      refine obeys_call.mpr ⟨(May.attachPayment member initiated).free free, fun reply => ?_⟩
      exact Free.cons _ (by simp)
    · exact free

theorem settleCapturedPayment_obeys {payment : ParsedPayment} (free : Free past) :
    (settleCapturedPayment payment).Obeys (may config request) (Learns (Settled payment)) past := by
  unfold settleCapturedPayment
  rw [obeys_bind]
  apply obeys_neutral free rfl
  rintro (failure | found) free
  · exact free
  cases found with
  | none => exact ⟨free, Settled.unknown List.mem_cons_self⟩
  | some deposit =>
    have member : FoundByOrder payment.orderId deposit
        (⟨.findDepositByOrderId RAZORPAY_PROVIDER_ID payment.orderId, .ok (some deposit)⟩ :: past) :=
      List.mem_cons_self
    dsimp only
    split
    · rename_i success
      exact ⟨free, member.settled fun _ => .inl (by simp [success])⟩
    split
    · rename_i closed
      refine ⟨free, member.settled fun _ => .inl ?_⟩
      rcases closed with failed | reversed
      · simp [failed]
      · simp [reversed]
    rename_i uncredited closed
    split
    · exact free
    rename_i expectedPaise expected
    split
    · rename_i mismatch
      rw [obeys_bind]
      refine obeys_call.mpr ⟨(May.markFailed member uncredited).free free, ?_⟩
      rintro (failure | failed)
      · exact Free.cons _ (by simp)
      · refine ⟨Free.cons _ (by simp), (member.cons _).settled fun isAmount => ?_⟩
        simp only [amountMatches, expected, decide_eq_true_eq] at isAmount
        exact (mismatch isAmount).elim
    · rw [obeys_bind]
      refine obeys_call.mpr ⟨(May.gatewayCredit member).free free, ?_⟩
      rintro (failure | posted)
      · exact Free.cons _ (by simp)
      dsimp only
      rw [obeys_bind]
      refine obeys_call.mpr ⟨credited_may rfl (.inl rfl) rfl (.markCredited member), ?_⟩
      rintro (failure | credited)
      · exact Free.cons _ (by simp)
      · exact ⟨Free.cons _ (by simp), ((member.cons _).cons _).settled fun _ =>
          .inr ⟨posted, by simp⟩⟩

theorem markPaymentFailed_obeys {payment : ParsedPayment} (free : Free past) :
    (markPaymentFailed payment).Obeys (may config request) FreeEnd past := by
  unfold markPaymentFailed
  rw [obeys_bind]
  apply obeys_neutral free rfl
  rintro (failure | found) free
  · exact free
  cases found with
  | none => exact free
  | some deposit =>
    dsimp only
    split
    · exact free
    · rename_i uncredited
      have member : FoundByOrder payment.orderId deposit
          (⟨.findDepositByOrderId RAZORPAY_PROVIDER_ID payment.orderId, .ok (some deposit)⟩ :: past) :=
        List.mem_cons_self
      rw [obeys_bind]
      refine obeys_call.mpr ⟨(May.markFailed member uncredited).free free, ?_⟩
      rintro (failure | failed) <;> exact Free.cons _ (by simp)

/-! ## Webhooks -/

/-- An event that is not new is a duplicate. -/
def RecordedEnd (config : Config) (input : WebhookInput) (past : Past) : Except Failure Bool → Prop
  | .ok created => Free past ∧ (created = false → Duplicate config input past)
  | .error _ => Free past

theorem recordWebhookEvent_obeys {input : WebhookInput} {event : PaymentWebhookEvent}
    (isRequest : request = .handleWebhook input) (isProvider : event.provider = RAZORPAY_PROVIDER_ID)
    (isDelivery : deliveryId config input = some event.providerEventId) :
    (recordWebhookEvent event).Obeys (may config request) (RecordedEnd config input) [] := by
  unfold recordWebhookEvent
  rw [obeys_tryCatch, obeys_bind]
  refine obeys_call.mpr ⟨(May.createWebhookEvent isRequest isProvider isDelivery).free free_nil, ?_⟩
  rintro (failure | stored)
  · dsimp only
    split
    · rename_i violation
      obtain rfl : failure = .uniqueViolation := of_decide_eq_true violation
      rw [obeys_bind]
      apply obeys_neutral (Free.cons _ (by simp)) rfl
      rintro (failure | existing) free
      · exact free
      · exact ⟨free, fun _ => ⟨event, _, existing, isDelivery, by rw [isProvider]⟩⟩
    · exact Free.cons _ (by simp)
  · exact ⟨Free.cons _ (by simp), nofun⟩

theorem processEvent_obeys {body : Json} (free : Free past) :
    (processEvent body).Obeys (may config request) (Learns fun past =>
      ∀ payment, capturedPayment body = some payment → Settled payment past) past := by
  unfold processEvent
  split
  · rename_i captures
    cases parsed : parsePaymentEntity (body.get? "payload") with
    | none => exact ⟨free, fun payment isPayment => by simp [capturedPayment, parsed] at isPayment⟩
    | some payment =>
      dsimp only
      rw [obeys_bind]
      apply (settleCapturedPayment_obeys free).imp
      rintro past (failure | status) settled
      · exact settled
      · obtain ⟨free, settled⟩ := settled
        refine ⟨free, fun other isOther => ?_⟩
        simp only [capturedPayment, captures, if_true, parsed, Option.some.injEq] at isOther
        exact isOther ▸ settled
  · rename_i other
    have uncaptured (payment : ParsedPayment) : capturedPayment body ≠ some payment := by
      simp [capturedPayment, other]
    split
    · cases parsePaymentEntity (body.get? "payload") with
      | none => exact ⟨free, fun payment isPayment => (uncaptured payment isPayment).elim⟩
      | some payment =>
        dsimp only
        rw [obeys_bind]
        apply (markPaymentFailed_obeys free).imp
        rintro past (failure | status) free
        · exact free
        · exact ⟨free, fun payment isPayment => (uncaptured payment isPayment).elim⟩
    · exact ⟨free, fun payment isPayment => (uncaptured payment isPayment).elim⟩

theorem handleWebhook_obeys {input : WebhookInput} (isRequest : request = .handleWebhook input) :
    (handleWebhook config input).Obeys (may config request) (Learns fun past =>
      ∀ payment, capturedPayment input.body = some payment →
        Duplicate config input past ∨ Settled payment past) [] := by
  unfold handleWebhook
  split
  · exact free_nil
  · exact free_nil
  rename_i rawBody signature isBody isSignature
  rw [obeys_bind]
  apply (recordWebhookEvent_obeys isRequest rfl (by rw [deliveryId, isBody]; rfl)).imp
  rintro past (failure | created) recorded
  · exact recorded
  obtain ⟨free, duplicate⟩ := recorded
  dsimp only
  split
  · exact free
  split
  · rename_i seen
    exact ⟨free, fun payment _ => .inl (duplicate (by simpa using seen))⟩
  · rw [obeys_bind]
    apply (processEvent_obeys free).imp
    rintro past (failure | status) settled
    · exact settled
    · exact ⟨settled.1, fun payment isPayment => .inr (settled.2 payment isPayment)⟩

/-! ## Manual deposits -/

/-- The deposit found is a manual one. -/
def FoundEnd (id : DepositId) (past : Past) : Except Failure InrTransaction → Prop
  | .ok row => Free past ∧ FoundManual row past ∧ ⟨.findById id, .ok (some row)⟩ ∈ past
  | .error _ => Free past

theorem findManualDeposit_obeys {id : DepositId} :
    (findManualDeposit id).Obeys (may config request) (FoundEnd id) [] := by
  unfold findManualDeposit
  rw [obeys_bind]
  apply obeys_neutral free_nil rfl
  rintro (failure | found) free
  · exact free
  dsimp only
  split
  · exact free
  · rename_i deposit isManual
    obtain ⟨rfl, manual⟩ := Option.filter_eq_some_iff.mp isManual
    simp only [Bool.and_eq_true, decide_eq_true_eq] at manual
    exact ⟨free, ⟨manual.2, id, List.mem_cons_self⟩, List.mem_cons_self⟩

theorem applyChange_obeys {id : DepositId} {change : Change} {actorId : AdminId} {action : String}
    (call' : may config request past (.updateMany id change)) :
    (applyChange id change actorId action).Obeys (may config request) FreeEnd past := by
  unfold applyChange
  rw [obeys_bind]
  refine obeys_call.mpr ⟨call', ?_⟩
  rintro (failure | count)
  · exact Free.cons _ (by simp)
  dsimp only
  rw [obeys_bind]
  apply obeys_neutral (Free.cons _ (by simp)) rfl
  rintro (failure | found) free
  · exact free
  cases found with
  | none => exact free
  | some row =>
    dsimp only
    split
    · rw [obeys_bind]
      apply obeys_neutral free rfl
      rintro (failure | _) free <;> exact free
    · exact free

theorem approveManualDeposit_obeys {id : DepositId} {actorId : Option AdminId}
    (isRequest : request = .approveManualDeposit id actorId) :
    (approveManualDeposit config id actorId).Obeys (may config request) FreeEnd [] := by
  unfold approveManualDeposit
  cases actorId with
  | none => exact free_nil
  | some adminId =>
    dsimp only
    rw [obeys_bind]
    apply findManualDeposit_obeys.imp
    rintro past (failure | deposit) found
    · exact found
    obtain ⟨free, manual, read⟩ := found
    dsimp only
    split
    · exact free
    split
    · exact free
    split
    · exact applyChange_obeys ((May.markFirstApproval manual isRequest read).free free)
    split
    · exact free
    · rename_i unapproved different
      have dual (isDual : requiresDual config deposit) :
          ∃ first, deposit.firstApprovedBy = some first ∧ first ≠ adminId := by
        simp only [isDual, Bool.true_and, Option.isNone_iff_eq_none, decide_eq_true_eq] at unapproved different
        obtain ⟨first, isFirst⟩ := Option.ne_none_iff_exists'.mp unapproved
        refine ⟨first, isFirst, ?_⟩
        rintro rfl
        exact different isFirst
      rw [obeys_bind]
      refine obeys_call.mpr ⟨(May.manualCredit manual isRequest read dual).free free, ?_⟩
      rintro (failure | posted)
      · exact Free.cons _ (by simp)
      · exact applyChange_obeys (credited_may rfl (.inr rfl) rfl (.markManualApproved manual))

theorem rejectManualDeposit_obeys {id : DepositId} {reason : Option String}
    {actorId : Option AdminId} :
    (rejectManualDeposit id reason actorId).Obeys (may config request) FreeEnd [] := by
  unfold rejectManualDeposit
  cases actorId with
  | none => exact free_nil
  | some adminId =>
    dsimp only
    rw [obeys_bind]
    apply findManualDeposit_obeys.imp
    rintro past (failure | deposit) found
    · exact found
    obtain ⟨free, manual, -⟩ := found
    dsimp only
    split
    · exact free
    split
    · exact free
    split
    · exact free
    · exact applyChange_obeys ((May.markManualRejected manual).free free)

/-- A request that need not know anything when it answers. -/
private theorem answered_obeys {α : Type} {inner : DepositM α} {respond : α → Response}
    (ignorant : ∀ past, Knows config request past) (obeys : inner.Obeys (may config request) FreeEnd []) :
    (do return respond (← inner) : DepositM Response).Obeys (may config request) (ends config request) [] := by
  rw [obeys_bind]
  apply obeys.imp
  rintro past (failure | value) free <;> first | exact free | exact ⟨free, ignorant past⟩

theorem program_obeys {pid : DepositId} (request : Request) :
    (request.program config pid).Obeys (may config request) (ends config request) [] := by
  cases request with
  | createDeposit userId input => exact answered_obeys (fun _ => trivial) (createDeposit_obeys rfl)
  | verifyPayment userId input => exact answered_obeys (fun _ => trivial) verifyPayment_obeys
  | markPaymentFailed payment =>
    exact answered_obeys (fun _ => trivial) (markPaymentFailed_obeys free_nil)
  | createManualDeposit userId input =>
    exact answered_obeys (fun _ => trivial) (createManualDeposit_obeys rfl)
  | approveManualDeposit id actorId =>
    exact answered_obeys (fun _ => trivial) (approveManualDeposit_obeys rfl)
  | rejectManualDeposit id reason actorId =>
    exact answered_obeys (fun _ => trivial) rejectManualDeposit_obeys
  | settleCapturedPayment payment =>
    unfold Request.program
    rw [obeys_bind]
    apply (settleCapturedPayment_obeys free_nil).imp
    rintro past (failure | status) settled
    · exact settled
    · exact settled
  | handleWebhook input =>
    unfold Request.program
    rw [obeys_bind]
    apply (handleWebhook_obeys rfl).imp
    rintro past (failure | result) knows
    · exact knows
    · exact knows

/-- Every request follows the rules. -/
theorem isRequest_obeys {requests : DepositId → Request} {pid : DepositId} {program : DepositM Response}
    (isRequest : IsRequest config requests pid program) :
    program.Obeys (may config (requests pid)) (ends config (requests pid)) [] := by
  unfold IsRequest at isRequest
  subst isRequest
  exact program_obeys (requests pid)

end Service
end Exchange.Deposits
