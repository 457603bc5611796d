import Exchange.DepositOrders

/-! Deliveries of webhooks, one after another. A delivery stores its event
before it settles the payment, and a redelivery of an event that is stored is
answered with success; whether the payment was settled then depends on what
became of the delivery that stored it. -/
namespace Exchange.Deposits.Webhook
open Ledger Service Agreement Orders

/-- A delivery with its answer. -/
structure Delivery where
  input : WebhookInput
  result : Except Failure WebhookResult

def isSigned (config : Config) (input : WebhookInput) : Bool :=
  match input.rawBody.filter (· ≠ ""), input.signature.filter (· ≠ "") with
  | some rawBody, some signature => verifyWebhookSignature config rawBody signature
  | _, _ => false

/-- A validly signed report of a captured payment. -/
def reports (config : Config) (input : WebhookInput) (payment : ParsedPayment) : Bool :=
  isSigned config input && capturedPayment input.body = some payment

/-- Every captured payment whose report was answered with success is credited to
the deposit of its order. -/
def Processed (config : Config) (log : List Delivery) (s : Store) : Prop :=
  ∀ delivery ∈ log, ∀ payment, reports config delivery.input payment → delivery.result.isOk →
    ∀ id row, s.deposits.lookup id = some row → IsOf payment.orderId row →
      amountMatches payment row → credited s id

/-- The stores reached by deliveries one after another, latest first. -/
inductive Delivered (attempt : List Delivery → WebhookInput → Store → Except Failure WebhookResult →
    Store → Prop) : List Delivery → Store → Prop
  | start {s : Store} (opening : Opening s) : Delivered attempt [] s
  | delivery {log : List Delivery} {input : WebhookInput} {s s' : Store}
      {result : Except Failure WebhookResult} (before : Delivered attempt log s)
      (attempted : attempt log input s result s') : Delivered attempt (⟨input, result⟩ :: log) s'

/-- A delivery as it may go; calls can be lost. -/
def handled (config : Config) (_ : List Delivery) (input : WebhookInput) (s : Store)
    (result : Except Failure WebhookResult) (s' : Store) : Prop :=
  ∃ pid, Async.Exec (Makes pid) (handleWebhook config input) s result s'

/-- The same payment was reported before, and answered with success, if the
event of its report is stored already. -/
def storedAnswered (config : Config) (log : List Delivery) (input : WebhookInput) (s : Store) : Bool :=
  (capturedPayment input.body).all fun payment =>
    (deliveryId config input).all fun eventId =>
      !(findWebhookEvent s RAZORPAY_PROVIDER_ID eventId).isSome || !isSigned config input ||
        log.any fun earlier => reports config earlier.input payment && earlier.result.isOk

/-- The deposit of a captured payment is not found FAILED or REVERSED, unless it
is credited or is of another amount. -/
def findsOpen (input : WebhookInput) (s : Store) : Answered DepositCall DepositCall.Reply Failure → Bool
  | ⟨.findDepositByOrderId _ _, .ok (some row)⟩ => (capturedPayment input.body).all fun payment =>
      row.status ≠ .failed && row.status ≠ .reversed || !amountMatches payment row || credited s row.id
  | _ => true

def opened (input : WebhookInput) (pid : DepositId) (call : DepositCall) (s : Store)
    (reply : Except Failure call.Reply) (s' : Store) : Prop :=
  Makes pid call s reply s' ∧ findsOpen input s ⟨call, reply⟩

/-- A delivery that finds its event answered, if stored, and its deposit open. -/
def heeded (config : Config) (log : List Delivery) (input : WebhookInput) (s : Store)
    (result : Except Failure WebhookResult) (s' : Store) : Prop :=
  storedAnswered config log input s ∧
    ∃ pid, Async.Exec (opened input pid) (handleWebhook config input) s result s'

variable {config : Config} {input : WebhookInput} {log : List Delivery} {pid id : DepositId}
  {s s' s'' : Store} {call : DepositCall} {reply : Except Failure call.Reply} {past : Past}
  {payment : ParsedPayment} {row : InrTransaction} {event : PaymentWebhookEvent}

/-- The store and the calls of a delivery that runs alone. -/
def alone (pid : DepositId) (past : Past) (s : Store) : History := ⟨s, past.map (pid, ·)⟩

/-- What is so while a delivery runs, which began with the store `s`. -/
structure During (input : WebhookInput) (pid : DepositId) (s : Store) (past : Past) (s' : Store) :
    Prop where
  traced : Traced (alone pid past s')
  credits : ∀ id, credited s id → credited s' id
  rows : ∀ id row', s'.deposits.lookup id = some row' →
    ∃ row, s.deposits.lookup id = some row ∧ SameDeposit row row'
  stored : ∀ event ∈ s'.events, event ∈ s.events ∨ ⟨.createWebhookEvent event, .ok event⟩ ∈ past
  read : ∀ provider eventId event, ⟨.findWebhookEvent provider eventId, .ok event⟩ ∈ past →
    event ∈ s'.events ∧ event.provider = provider ∧ event.providerEventId = eventId
  isOpen : ∀ payment orderId row, capturedPayment input.body = some payment →
    FoundByOrder orderId row past → row.status ∈ [InrTxnStatus.failed, .reversed] →
      amountMatches payment row → credited s' row.id

/-! ## One call of a delivery -/

@[simp] theorem alone_past : (alone pid past s).past pid = past := Logged.past_alone s pid past

/-- An event is stored once it was created, and no other is added. -/
theorem events_step (makes : Makes pid call s reply s') : event ∈ s'.events ↔
    event ∈ s.events ∨ (⟨call, reply⟩ : Answered DepositCall DepositCall.Reply Failure) =
      ⟨.createWebhookEvent event, .ok event⟩ := by
  generalize isMade : (⟨call, reply⟩ : Answered DepositCall DepositCall.Reply Failure) = made
  have effect := isMade ▸ makes.effect
  cases effect with
  | @recorded other =>
    constructor
    · intro member
      rcases List.mem_cons.mp member with rfl | before
      · exact .inr rfl
      · exact .inl before
    · rintro (before | same)
      · exact List.mem_cons_of_mem _ before
      · cases same
        exact List.mem_cons_self
  | neutral neutral =>
    refine ⟨.inl, fun now => now.resolve_right fun same => ?_⟩
    cases same
    cases neutral
  | _ => exact ⟨.inl, fun now => now.resolve_right nofun⟩

theorem during_initial (traced : Traced ⟨s, []⟩) : During input pid s [] s where
  traced := traced
  credits id isCredited := isCredited
  rows id row found := ⟨row, found, .refl row⟩
  stored event member := .inl member
  read provider eventId event member := by cases member
  isOpen payment orderId row isPayment found := by cases found

private theorem isOpen_step (during : During input pid s past s') (made : opened input pid call s' reply s'')
    (isPayment : capturedPayment input.body = some payment) {orderId : String}
    (found : FoundByOrder orderId row (⟨call, reply⟩ :: past))
    (closed : row.status ∈ [InrTxnStatus.failed, .reversed]) (isAmount : amountMatches payment row) :
    credited s'' row.id := by
  obtain ⟨makes, isOpen⟩ := made
  refine (makes.effect.credited_iff row.id).mpr (.inl ?_)
  rcases List.mem_cons.mp found with same | before
  · cases same
    have closed : row.status = .failed ∨ row.status = .reversed := by simpa using closed
    simp only [findsOpen, isPayment, Option.all_some, isAmount, Bool.or_eq_true, Bool.and_eq_true,
      decide_eq_true_eq, Bool.not_true, Bool.false_eq_true, or_false] at isOpen
    rcases isOpen with ⟨notFailed, notReversed⟩ | isCredited
    · exact (closed.elim notFailed notReversed).elim
    · exact isCredited
  · exact during.isOpen payment orderId row isPayment before closed isAmount

theorem during_step (during : During input pid s past s')
    (call' : May config (.handleWebhook input) past call) (made : opened input pid call s' reply s'') :
    During input pid s (⟨call, reply⟩ :: past) s'' where
  traced := by
    have call' : May config (.handleWebhook input) ((alone pid past s').past pid) call := by
      rwa [alone_past]
    exact traced_step during.traced call' rfl made.1
  credits id isCredited := (made.1.effect.credited_iff id).mpr (.inl (during.credits id isCredited))
  rows id row' found := by
    have call' : May config (.handleWebhook input) ((alone pid past s').past pid) call := by
      rwa [alone_past]
    obtain ⟨before, isBefore, same⟩ := was_there during.traced.sound call' rfl made.1 found
    obtain ⟨row, isRow, same'⟩ := during.rows id before isBefore
    exact ⟨row, isRow, same'.trans same⟩
  stored event member := by
    rcases (events_step made.1).mp member with before | same
    · exact (during.stored event before).imp_right (List.mem_cons_of_mem _)
    · exact .inr (List.mem_cons.mpr (.inl same.symm))
  read provider eventId event member := by
    rcases List.mem_cons.mp member with same | before
    · cases same
      obtain ⟨isStored, isProvider, isId⟩ := made.1.findWebhookEvent
      exact ⟨(events_step made.1).mpr (.inl isStored), isProvider, isId⟩
    · obtain ⟨isStored, isProvider, isId⟩ := during.read provider eventId event before
      exact ⟨(events_step made.1).mpr (.inl isStored), isProvider, isId⟩
  isOpen payment orderId row isPayment found closed isAmount :=
    isOpen_step during made isPayment found closed isAmount

/-! ## One delivery -/

/-- What is so when a delivery has ended, and what it knows if it was answered
with success. -/
theorem handleWebhook_during {result : Except Failure WebhookResult} (traced : Traced ⟨s, []⟩)
    (ran : Async.Exec (opened input pid) (handleWebhook config input) s result s') :
    ∃ past, During input pid s past s' ∧ (result.isOk → ∀ payment,
      capturedPayment input.body = some payment → Duplicate config input past ∨ Settled payment past) := by
  obtain ⟨past, during, learned⟩ := (handleWebhook_obeys rfl).exec
    (during_initial traced) (fun _ _ _ _ _ during call' made => during_step during call'.1 made) ran
  refine ⟨past, during, fun isOk payment isPayment => ?_⟩
  cases result with
  | error failure => cases isOk
  | ok value => exact learned.2 payment isPayment

/-- A duplicate has found its event in the store it began with. -/
theorem Duplicate.stored (duplicate : Duplicate config input past) (during : During input pid s past s') :
    ∃ eventId, deliveryId config input = some eventId ∧
      (findWebhookEvent s RAZORPAY_PROVIDER_ID eventId).isSome := by
  obtain ⟨event, failure, existing, isDelivery, rfl⟩ := duplicate
  obtain ⟨isStored, isProvider, isId⟩ := during.read _ _ existing List.mem_cons_self
  refine ⟨event.providerEventId, isDelivery, ?_⟩
  rcases during.stored existing isStored with before | created
  · exact List.find?_isSome.mpr ⟨existing, before, by simp [isProvider, isId]⟩
  · simp at created

theorem traced_after (during : During input pid s past s') : Traced ⟨s', []⟩ :=
  traced_initial (sound_initial during.traced.sound.keyed during.traced.sound.known
    during.traced.sound.success) during.traced.orders

/-- A delivery that is heeded keeps what was processed, and processes its own
payment if it is answered with success. -/
theorem processed_step {result : Except Failure WebhookResult} (traced : Traced ⟨s, []⟩)
    (processed : Processed config log s) (attempted : heeded config log input s result s') :
    Traced ⟨s', []⟩ ∧ Processed config (⟨input, result⟩ :: log) s' := by
  obtain ⟨answered, pid, ran⟩ := attempted
  obtain ⟨past, during, learned⟩ := handleWebhook_during traced ran
  have stays {delivery : Delivery} (member : delivery ∈ log) (payment : ParsedPayment)
      (isReport : reports config delivery.input payment) (isOk : delivery.result.isOk) (id : DepositId)
      (row : InrTransaction) (found : s'.deposits.lookup id = some row)
      (isOf : IsOf payment.orderId row) (isAmount : amountMatches payment row) : credited s' id := by
    obtain ⟨before, isBefore, same⟩ := during.rows id row found
    exact during.credits id (processed delivery member payment isReport isOk id before isBefore
      ((isOf_same same).mp isOf) ((amountMatches_same same).symm.trans isAmount))
  refine ⟨traced_after during, fun delivery member payment isReport isOk id row found isOf isAmount => ?_⟩
  rcases List.mem_cons.mp member with rfl | earlier
  · simp only [reports, Bool.and_eq_true, decide_eq_true_eq] at isReport
    obtain ⟨signed, isPayment⟩ := isReport
    rcases learned isOk payment isPayment with duplicate | settled
    · -- the event was stored: the payment was credited when it was answered before
      obtain ⟨eventId, isDelivery, isStored⟩ := Duplicate.stored duplicate during
      simp only [storedAnswered, isPayment, isDelivery, Option.all_some, isStored, signed,
        Bool.not_true, Bool.false_or, List.any_eq_true, Bool.and_eq_true] at answered
      obtain ⟨delivery, earlier, isReport, wasOk⟩ := answered
      exact stays earlier payment isReport wasOk id row found isOf isAmount
    · have settled : Settled payment ((alone pid past s').past pid) := by rwa [alone_past]
      rcases Settled.credited settled during.traced found isOf isAmount with isCredited |
        ⟨before, rfl, read, closed⟩
      · exact isCredited
      · obtain ⟨-, same⟩ := during.traced.same_deposit read found isOf
        rw [alone_past] at read
        exact during.isOpen payment payment.orderId before isPayment read closed
          ((amountMatches_same same).symm.trans isAmount)
  · exact stays earlier payment isReport isOk id row found isOf isAmount

/-! ## All deliveries -/

/-- In every sequence of deliveries that are heeded, each captured payment whose
report was answered with success is credited. -/
theorem answered_processed (delivered : Delivered (heeded config) log s) : Processed config log s := by
  suffices both : Traced ⟨s, []⟩ ∧ Processed config log s from both.2
  induction delivered with
  | start opening =>
    refine ⟨traced_initial (sound_agreed opening.toAgreed) opening.orders, ?_⟩
    intro delivery member
    cases member
  | delivery before attempted ih => exact processed_step ih.1 ih.2 attempted

/-- The body of a report that 500 INR were captured for order A. -/
private def capturedBody : String :=
  "\x7b\"event\":\"payment.captured\",\"payload\":\x7b\"payment\":\x7b\"entity\":\x7b\"id\":\"pay_A\"," ++
    "\"order_id\":\"order_A\",\"amount\":50000\x7d\x7d\x7d\x7d"

/-- The digest of that body by the secret of the webhook. -/
private def capturedDigest : String := "921aaa820e79a99deda0b2e5527f5a669936bc0d2a209de05c5468fcdbe7009e"

private def captured : WebhookInput where
  rawBody := some capturedBody
  signature := some capturedDigest
  eventId := some "evt_1"
  body := .obj [("event", .str "payment.captured"), ("payload", .obj [("payment", .obj [("entity",
    .obj [("id", .str "pay_A"), ("order_id", .str "order_A"), ("amount", .num 50000)])])])]

/-- The same body under another event id, with a signature made up. -/
private def forged : WebhookInput := { captured with signature := some "00", eventId := some "evt_0" }

private def signedConfig : Config :=
  { smallConfig with
    hmacSha256Hex := fun payload secret =>
      if payload = capturedBody ∧ secret = "webhook_secret" then capturedDigest else "" }

private def isPost : DepositCall → Bool
  | .post _ => true
  | _ => false

/-- Deliveries one after another, the last of them first; some lose their
posting. -/
private def deliverAll (allows : List Delivery → WebhookInput → Store → Bool)
    (opens : WebhookInput → Store → Answered DepositCall DepositCall.Reply Failure → Bool) :
    List (WebhookInput × Bool) → Option (List Delivery × Store)
  | [] => some ([], twoOrders)
  | (input, loses) :: earlier => do
    let (log, s) ← deliverAll allows opens earlier
    if allows log input s then
      let makes (_ : ℕ) (call : DepositCall) (s : Store) :=
        (Database.act perform (fun _ => ⟨fun _ _ => .ok "order_C", 0⟩) (fun _ call => loses && isPost call)
          0 call s).filter fun (reply, _) => opens input s ⟨call, reply⟩
      let (result, s') ← Async.execute makes 0 (handleWebhook signedConfig input) s
      some (⟨input, result⟩ :: log, s')
    else none

private theorem deliverAll_delivered {allows : List Delivery → WebhookInput → Store → Bool}
    {opens : WebhookInput → Store → Answered DepositCall DepositCall.Reply Failure → Bool}
    {attempt : List Delivery → WebhookInput → Store → Except Failure WebhookResult → Store → Prop}
    (sound : ∀ log input s result s', allows log input s → Async.Exec (fun call s reply s' =>
      Makes 0 call s reply s' ∧ opens input s ⟨call, reply⟩) (handleWebhook signedConfig input) s result s' →
        attempt log input s result s')
    {moves : List (WebhookInput × Bool)} (played : deliverAll allows opens moves = some (log, s)) :
    Delivered attempt log s := by
  induction moves generalizing log s with
  | nil =>
    cases played
    exact .start twoOrders_opening
  | cons move earlier ih =>
    obtain ⟨input, loses⟩ := move
    simp only [deliverAll, Option.bind_eq_bind, Option.bind_eq_some_iff] at played
    obtain ⟨⟨log', s'⟩, before, played⟩ := played
    split at played
    · rename_i allowed
      obtain ⟨⟨result, after⟩, ran, same⟩ := Option.bind_eq_some_iff.mp played
      cases same
      refine (ih before).delivery (sound log' input s' result after allowed ?_)
      refine Async.exec_of_execute (fun n call s reply s' made => ?_) ran
      obtain ⟨acted, isOpen⟩ := Option.filter_eq_some_iff.mp made
      exact ⟨Database.act_makes acted, isOpen⟩
    · cases played

/-- After a forged delivery, the payment of order A is reported twice. -/
theorem answered_processed_redelivered : ∃ (log : List Delivery) (s : Store), log.length = 3 ∧
    credited s 1 ∧ Processed signedConfig log s := by
  have played : (deliverAll (storedAnswered signedConfig) findsOpen
      [(captured, false), (captured, false), (forged, false)]).map (fun (log, s) =>
        (log.map (fun delivery => delivery.result.isOk), credited s 1)) =
      some ([true, true, false], true) := by decide +kernel
  obtain ⟨⟨log, s⟩, delivered, facts⟩ := Option.map_eq_some_iff.mp played
  simp only [Prod.mk.injEq] at facts
  have isHeeded : Delivered (heeded signedConfig) log s :=
    deliverAll_delivered (fun _ _ _ _ _ answered ran => ⟨answered, 0, ran⟩) delivered
  have three : (log.map fun delivery => delivery.result.isOk).length = 3 := by rw [facts.1]; rfl
  rw [List.length_map] at three
  exact ⟨log, s, three, facts.2, answered_processed isHeeded⟩

/-- The first delivery stores its event and loses its posting; the redelivery is
a duplicate. -/
theorem answered_unprocessed : ¬∀ (log : List Delivery) (s : Store),
    Delivered (handled signedConfig) log s → Processed signedConfig log s := by
  intro processed
  have played : (deliverAll (fun _ _ _ => true) (fun _ _ _ => true)
      [(captured, false), (captured, true)]).map (fun (log, s) =>
        ((log.head?.any fun delivery => delivery.result.isOk &&
          reports signedConfig delivery.input ⟨"pay_A", "order_A", 50000⟩),
          (s.deposits.lookup 1).any (fun row =>
            IsOf "order_A" row ∧ amountMatches ⟨"pay_A", "order_A", 50000⟩ row), credited s 1)) =
      some (true, true, false) := by decide +kernel
  obtain ⟨⟨log, s⟩, delivered, facts⟩ := Option.map_eq_some_iff.mp played
  simp only [Prod.mk.injEq] at facts
  obtain ⟨isAnswered, isThere, uncredited⟩ := facts
  have isDelivered : Delivered (handled signedConfig) log s :=
    deliverAll_delivered (fun _ _ _ _ _ _ ran => ⟨0, ran.imp fun _ _ _ _ made => made.1⟩) delivered
  obtain ⟨delivery, isHead, isAnswered⟩ := (Option.any_eq_true _ _).mp isAnswered
  obtain ⟨isOk, isReport⟩ := Bool.and_eq_true_iff.mp isAnswered
  obtain ⟨row, found, isDeposit⟩ := (Option.any_eq_true _ _).mp isThere
  obtain ⟨isOf, isAmount⟩ := of_decide_eq_true isDeposit
  have isCredited := processed log s isDelivered delivery (List.mem_of_mem_head? isHead) _ isReport isOk 1
    row found isOf isAmount
  cases uncredited.symm.trans isCredited

end Exchange.Deposits.Webhook
