import Exchange.KycEffects

/-! Deliveries of one webhook event. The event is recorded, the profile of its
session is looked up, the result is applied and the event is marked processed,
each in a call of its own; an event whose session is not saved yet is marked
processed too. -/
namespace Exchange.Kyc.Webhooks
open Async Service

/-- The event a request delivers. -/
def eventOf (config : Config) : Request → Option KycWebhookEvent
  | .handleWebhook input => if (present input.rawBody).isSome then config.verifyWebhook input else none
  | _ => none

/-- The session or the applicant an event is about. -/
def refOf (event : KycWebhookEvent) : Option Text :=
  present (event.providerApplicantId.orElse fun _ => event.providerSessionId)

def keyOf (config : Config) (event : KycWebhookEvent) : Text × Text := (config.providerName, event.providerEventId)

/-- Submissions, and webhooks, where all with the id of the event are the event. -/
def isAllowed (config : Config) (event : KycWebhookEvent) (request : Request) : Prop :=
  match request with
  | .submitProfile => True
  | .handleWebhook _ => ∀ other, eventOf config request = some other →
      other.providerEventId = event.providerEventId → other = event
  | _ => False

/-- The request of each number, where all are allowed. -/
def IsAllowed (config : Config) (event : KycWebhookEvent) (requests : ℕ → Request) (pid : ℕ) (program : KycM Unit) :
    Prop :=
  isAllowed config event (requests pid) ∧ IsRequest config requests pid program

/-! ## The rules -/

/-- Where a delivery is, by the last answer it got. -/
inductive Stage where
  | over
  | pending
  | ignored
  | applied
  deriving DecidableEq, Repr

def stage (event : KycWebhookEvent) : Past → Stage
  | ⟨.findWebhookEvent _, .ok found⟩ :: _ => if found = some true then .over else .pending
  | ⟨.createWebhookEvent _, .ok _⟩ :: _ => .pending
  | ⟨.findProfileByProviderRef _ _, .ok none⟩ :: _ => .ignored
  | ⟨.findProfileByProviderRef _ _, .ok (some profile)⟩ :: _ =>
    if canTransition profile.status (mapProviderStatusToKyc event.status) then .pending else .over
  | ⟨.applyProviderUpdate _ _, .ok _⟩ :: _ => .applied
  | _ => .over

/-- A delivery that ends here has found the event processed, or made it so. -/
def isSettled : Past → Bool
  | ⟨.findWebhookEvent _, .ok found⟩ :: _ => found = some true
  | ⟨.markWebhookProcessed _, .ok _⟩ :: _ => true
  | _ => false

/-- Calls of other requests, which leave the row of the event alone. -/
def sparesEvent (key : Text × Text) : KycCall → Bool
  | .findUser => true
  | .findProfileByUserId => true
  | .createKycSession => true
  | .submitProfile _ => true
  | .findProfileByProviderRef _ _ => true
  | .applyProviderUpdate _ _ => true
  | .findWebhookEvent other => other ≠ key
  | .createWebhookEvent other => other ≠ key
  | .markWebhookProcessed other => other ≠ key
  | _ => false

/-- The calls a request may make. -/
inductive May (config : Config) (event : KycWebhookEvent) (request : Request) (past : Past) : KycCall → Prop
  | other {call : KycCall} (isOther : eventOf config request ≠ some event)
      (spares : sparesEvent (keyOf config event) call) : May config event request past call
  | lookup (delivers : eventOf config request = some event) (isFirst : past = []) :
      May config event request past (.findWebhookEvent (keyOf config event))
  | record (delivers : eventOf config request = some event) (isPending : stage event past = .pending) :
      May config event request past (.createWebhookEvent (keyOf config event))
  | find {provider ref : Text} (delivers : eventOf config request = some event) (isPending : stage event past = .pending) :
      May config event request past (.findProfileByProviderRef provider ref)
  | apply {status : Option KycStatus} {tier : Option ℕ} (delivers : eventOf config request = some event)
      (isPending : stage event past = .pending) : May config event request past (.applyProviderUpdate status tier)
  | mark (delivers : eventOf config request = some event) (isReady : stage event past = .applied ∨ stage event past = .ignored) :
      May config event request past (.markWebhookProcessed (keyOf config event))

/-- A delivery that is answered with success is settled. -/
def ends (config : Config) (event : KycWebhookEvent) (request : Request) : Past → Except Failure Unit → Prop :=
  EndsWith (fun _ => True) fun _ past => eventOf config request = some event → isSettled past

section Rules
variable {config : Config} {event : KycWebhookEvent} {request : Request} {past : Past}

/-- What is applied is legal from the profile that was found. -/
theorem applyProviderResult_obeys {provider ref : Text} {profile : KycProfile}
    (delivers : eventOf config request = some event) :
    (applyProviderResult config profile event.status).Obeys (May config event request)
      (EndsWith (fun _ => True) fun _ later => stage event later = .applied)
      (⟨.findProfileByProviderRef provider ref, .ok (some profile)⟩ :: past) := by
  have applies : ∀ status tier, canTransition profile.status (mapProviderStatusToKyc event.status) →
      Async.Obeys (May config event request) (EndsWith (fun _ => True) fun (_ : Unit) later => stage event later = .applied)
        (⟨.findProfileByProviderRef provider ref, .ok (some profile)⟩ :: past) (do
          let _ ← ask (.applyProviderUpdate status tier)
          return ()) := by
    intro status tier legal
    refine ⟨.apply delivers (by rw [stage, if_pos legal]), fun reply => ?_⟩
    cases reply with
    | error failure => trivial
    | ok row => rfl
  unfold applyProviderResult
  dsimp only
  split
  · rename_i same
    exact applies none none (by simp [canTransition, same])
  · unfold assertTransition
    split
    · rename_i legal
      exact applies _ _ legal
    · trivial

theorem mark_obeys (delivers : eventOf config request = some event)
    (isReady : stage event past = .applied ∨ stage event past = .ignored) :
    (ask (.markWebhookProcessed (keyOf config event))).Obeys (May config event request) (ends config event request)
      past := by
  refine ⟨.mark delivers isReady, fun reply => ?_⟩
  cases reply with
  | error failure => trivial
  | ok value => exact fun _ => rfl

/-- The last steps of a delivery whose event is recorded. -/
theorem delivery_obeys (delivers : eventOf config request = some event) (attributed : (refOf event).isSome)
    (isPending : stage event past = .pending) : Async.Obeys (May config event request) (ends config event request) past (do
      let found ← findEventProfile config event
      match found with
      | none => ask (.markWebhookProcessed (keyOf config event))
      | some profile => do
        applyProviderResult config profile event.status
        ask (.markWebhookProcessed (keyOf config event))) := by
  obtain ⟨ref, isRef⟩ := Option.isSome_iff_exists.mp attributed
  have finds : findEventProfile config event = ask (.findProfileByProviderRef config.providerName ref) := by
    unfold findEventProfile
    rw [← refOf, isRef]
  rw [finds]
  refine ⟨.find delivers isPending, fun reply => ?_⟩
  rcases reply with failure | (_ | profile)
  · trivial
  · exact mark_obeys delivers (.inr rfl)
  · exact (applyProviderResult_obeys delivers).seq fun _ later _ applied => mark_obeys delivers (.inl applied)

theorem processEvent_obeys (delivers : eventOf config request = some event) (attributed : (refOf event).isSome) :
    (processEvent config event).Obeys (May config event request) (ends config event request) [] := by
  refine ⟨.lookup delivers rfl, fun reply => ?_⟩
  rcases reply with failure | (_ | _ | _)
  · trivial
  · refine ⟨.record delivers rfl, fun reply => ?_⟩
    cases reply with
    | error failure => trivial
    | ok value => exact delivery_obeys delivers attributed rfl
  · exact delivery_obeys delivers attributed rfl
  · exact fun _ => rfl

/-! ## Other requests -/

theorem submitProfile_obeys (isOther : eventOf config request ≠ some event) :
    Lawful (May config event request) past Service.submitProfile := by
  refine lawful_call (.other isOther rfl) fun found => ?_
  split
  · trivial
  split
  · trivial
  refine lawful_call (.other isOther rfl) fun existing => ?_
  split
  · trivial
  · exact lawful_call (.other isOther rfl) fun session => lawful_call (.other isOther rfl) fun _ => trivial

theorem applyOther_obeys (isOther : eventOf config request ≠ some event) (profile : KycProfile)
    (status : KycVerificationStatus) : Lawful (May config event request) past (applyProviderResult config profile status) := by
  unfold applyProviderResult
  dsimp only
  split
  · exact lawful_call (.other isOther rfl) fun _ => trivial
  · unfold assertTransition
    split
    · exact lawful_bind trivial fun _ _ => lawful_call (.other isOther rfl) fun _ => trivial
    · trivial

theorem processOther_obeys {other : KycWebhookEvent} (isOther : eventOf config request ≠ some event)
    (ne : keyOf config other ≠ keyOf config event) :
    Lawful (May config event request) past (processEvent config other) := by
  refine lawful_call (.other isOther (decide_eq_true ne)) fun existing => ?_
  split
  · trivial
  refine lawful_bind ?_ fun _ _ => lawful_bind ?_ fun found _ => ?_
  · unfold recordEvent
    split
    · exact lawful_ask (.other isOther (decide_eq_true ne))
    · trivial
  · unfold findEventProfile
    split
    · exact lawful_ask (.other isOther rfl)
    · trivial
  · split
    · exact lawful_ask (.other isOther (decide_eq_true ne))
    · refine lawful_bind (applyOther_obeys isOther _ _) fun _ _ => ?_
      exact lawful_ask (.other isOther (decide_eq_true ne))

/-- A request that does not deliver the event may end as it likes. -/
theorem obeys_of_lawful {program : KycM Unit} (isOther : eventOf config request ≠ some event)
    (lawful : Lawful (May config event request) past program) :
    program.Obeys (May config event request) (ends config event request) past := by
  refine lawful.imp fun later result _ => ?_
  cases result with
  | error failure => trivial
  | ok value => exact fun delivers => absurd delivers isOther

theorem isAllowed_obeys (attributed : (refOf event).isSome) (requests : ℕ → Request) (pid : ℕ) (program : KycM Unit)
    (isRequest : IsAllowed config event requests pid program) :
    program.Obeys (May config event (requests pid)) (ends config event (requests pid)) [] := by
  obtain ⟨allowed, rfl⟩ := isRequest
  cases isRequest : requests pid with
  | submitProfile => exact obeys_of_lawful nofun (submitProfile_obeys nofun)
  | handleWebhook input =>
    rw [isRequest] at allowed
    change (handleWebhook config input).Obeys _ _ _
    unfold handleWebhook
    split
    · trivial
    · trivial
    · rename_i body other isBody isEvent
      have isOf : eventOf config (.handleWebhook input) = some other := by rw [eventOf, isBody]; exact isEvent
      by_cases same : other = event
      · subst same
        exact processEvent_obeys isOf attributed
      · have isOther : eventOf config (.handleWebhook input) ≠ some event := by
          rw [isOf]
          exact fun isEvent => same (Option.some.inj isEvent)
        refine obeys_of_lawful isOther (processOther_obeys isOther fun sameKey => same ?_)
        exact allowed other isOf (Prod.mk.inj sameKey).2
  | _ =>
    rw [isRequest] at allowed
    cases allowed

end Rules

/-! ## The row of an event -/

variable {config : Config} {event : KycWebhookEvent} {requests : ℕ → Request} {pid other : ℕ} {call : KycCall}
  {reply : Except Failure call.Reply} {s s' : Store} {x : History} {key : Text × Text}
  {made : Answered KycCall KycCall.Reply Failure} {pool : KycPool}

/-- The row after a call. -/
def rowAfter (key : Text × Text) (row : Option Bool) : Answered KycCall KycCall.Reply Failure → Option Bool
  | ⟨.createWebhookEvent other, .ok _⟩ => if other = key then some false else row
  | ⟨.markWebhookProcessed other, .ok _⟩ => if other = key then some true else row
  | _ => row

theorem setUser_events {status : KycStatus} {tier : Option ℕ} (ok : setUser status tier s = .ok s') :
    s'.webhookEvents = s.webhookEvents := by
  obtain ⟨user, -, rfl⟩ := setUser_ok ok
  rfl

theorem submitProfile_events {session : KycSession} {profile : KycProfile}
    (ok : Kyc.submitProfile session s = .ok (profile, s')) : s'.webhookEvents = s.webhookEvents := by
  unfold Kyc.submitProfile at ok
  obtain ⟨s'', set, ok⟩ := except_bind_ok.mp ok
  cases ok
  have same := setUser_events set
  exact same

theorem setProfile_events {status : Option KycStatus} {tier : Option ℕ} {profile : KycProfile}
    (ok : setProfile status tier s = .ok (profile, s')) : s'.webhookEvents = s.webhookEvents := by
  unfold setProfile at ok
  split at ok
  · cases ok
  · cases ok
    rfl
  · obtain ⟨s'', set, ok⟩ := except_bind_ok.mp ok
    cases ok
    have same := setUser_events set
    exact same

/-- Calls that are made here. -/
def isMade : KycCall → Bool
  | .findWebhookEvent _ => true
  | .createWebhookEvent _ => true
  | .markWebhookProcessed _ => true
  | .findUser => true
  | .findProfileByUserId => true
  | .createKycSession => true
  | .submitProfile _ => true
  | .findProfileByProviderRef _ _ => true
  | .applyProviderUpdate _ _ => true
  | _ => false

theorem May.isMade {request : Request} {past : Past} (may : May config event request past call) : isMade call := by
  cases may with
  | other isOther spares =>
    cases call <;> first | rfl | cases spares
  | _ => rfl

theorem makes_row (isMade : isMade call) (makes : Makes pid call s reply s') :
    s'.webhookEvents.lookup key = rowAfter key (s.webhookEvents.lookup key) ⟨call, reply⟩ := by
  rcases makes with ⟨world, ran⟩ | ⟨⟨failure, -, rfl⟩, rfl⟩
  · cases call with
    | submitProfile session =>
      rcases Database.written_cases ran with ⟨value, rfl, wrote⟩ | ⟨-, rfl⟩
      · exact congrArg _ (submitProfile_events wrote)
      · rfl
    | applyProviderUpdate status tier =>
      rcases Database.written_cases ran with ⟨value, rfl, wrote⟩ | ⟨-, rfl⟩
      · exact congrArg _ (setProfile_events wrote)
      · rfl
    | createWebhookEvent row =>
      rcases Database.written_cases ran with ⟨value, rfl, wrote⟩ | ⟨⟨failure, rfl, -⟩, rfl⟩
      · unfold createWebhookEvent at wrote
        split at wrote
        · cases wrote
        · cases wrote
          rw [rowAfter]
          split
          · rename_i same
            subst same
            exact AList.lookup_insert _
          · rename_i ne
            exact AList.lookup_insert_ne (Ne.symm ne)
      · rfl
    | markWebhookProcessed row =>
      rcases Database.written_cases ran with ⟨value, rfl, wrote⟩ | ⟨⟨failure, rfl, -⟩, rfl⟩
      · unfold markWebhookProcessed at wrote
        split at wrote
        · cases wrote
        · cases wrote
          rw [rowAfter]
          split
          · rename_i same
            subst same
            exact AList.lookup_insert _
          · rename_i ne
            exact AList.lookup_insert_ne (Ne.symm ne)
      · rfl
    | findWebhookEvent | findUser | findProfileByUserId | createKycSession | findProfileByProviderRef =>
      cases ran
      rfl
    | _ => cases isMade
  · cases call <;> rfl

/-- What a delivery finds is the row. -/
theorem makes_lookup {found : Option Bool} (makes : Makes pid (.findWebhookEvent key) s (.ok found) s') :
    s.webhookEvents.lookup key = found := by
  rcases makes with ⟨world, ran⟩ | ⟨⟨failure, -, same⟩, -⟩
  · cases ran
    rfl
  · cases same

/-! ## Applied once -/

/-- A delivery of the event has updated the profile. -/
def isApplication (config : Config) (event : KycWebhookEvent) (requests : ℕ → Request) :
    ℕ × Answered KycCall KycCall.Reply Failure → Bool
  | (pid, ⟨.applyProviderUpdate _ _, .ok _⟩) => eventOf config (requests pid) = some event
  | _ => false

def applications (config : Config) (event : KycWebhookEvent) (requests : ℕ → Request) (x : History) : ℕ :=
  x.history.countP (isApplication config event requests)

/-- The event is applied at most once, and has been when a delivery is answered
with success. -/
def NotLost (config : Config) (event : KycWebhookEvent) (requests : ℕ → Request) (pool : KycPool) : Prop :=
  applications config event requests pool.store ≤ 1 ∧
    ∀ pid, eventOf config (requests pid) = some event → pool.answerOf pid = some () →
      0 < applications config event requests pool.store

/-- Every other delivery of the event is over. -/
def isAlone (config : Config) (event : KycWebhookEvent) (requests : ℕ → Request) (x : History) (pid : ℕ) : Bool :=
  x.history.all fun made => made.1 = pid || eventOf config (requests made.1) ≠ some event ||
    stage event (x.past made.1) = .over

/-- Deliveries of the event follow each other, find its profile, and are marked. -/
def isOrderly (config : Config) (event : KycWebhookEvent) (requests : ℕ → Request) (x : History) (pid : ℕ) :
    (call : KycCall) → Except Failure call.Reply → Bool
  | .findWebhookEvent _, _ => eventOf config (requests pid) ≠ some event || isAlone config event requests x pid
  | .findProfileByProviderRef provider ref, _ =>
    eventOf config (requests pid) ≠ some event || (findProfileByProviderRef x.store provider ref).isSome
  | .markWebhookProcessed _, reply => eventOf config (requests pid) ≠ some event || reply.isOk
  | _, _ => true

def followed (config : Config) (event : KycWebhookEvent) (requests : ℕ → Request) (pid : ℕ) (call : KycCall) (x : History)
    (reply : Except Failure call.Reply) (s' : Store) : Prop :=
  Makes pid call x.store reply s' ∧ isOrderly config event requests x pid call reply

/-- The event was not delivered yet. -/
def Opening (config : Config) (event : KycWebhookEvent) (s : Store) : Prop :=
  s.webhookEvents.lookup (keyOf config event) = none

structure Kept (config : Config) (event : KycWebhookEvent) (requests : ℕ → Request) (x : History) : Prop where
  /-- One delivery at most is on its way. -/
  alone : ∀ pid other, eventOf config (requests pid) = some event → eventOf config (requests other) = some event →
    stage event (x.past pid) ≠ .over → stage event (x.past other) ≠ .over → pid = other
  found : ∀ pid, eventOf config (requests pid) = some event → stage event (x.past pid) ≠ .ignored
  pending : ∀ pid, eventOf config (requests pid) = some event → stage event (x.past pid) = .pending →
    applications config event requests x = 0
  applied : ∀ pid, eventOf config (requests pid) = some event → stage event (x.past pid) = .applied →
    0 < applications config event requests x
  atMost : applications config event requests x ≤ 1
  /-- What is applied is marked, now or next. -/
  marked : 0 < applications config event requests x → x.store.webhookEvents.lookup (keyOf config event) = some true ∨
    ∃ pid, eventOf config (requests pid) = some event ∧ stage event (x.past pid) = .applied
  processed : x.store.webhookEvents.lookup (keyOf config event) = some true → 0 < applications config event requests x
  settled : ∀ pid, eventOf config (requests pid) = some event → isSettled (x.past pid) →
    0 < applications config event requests x

section Step

theorem applications_cons (s' : Store) : applications config event requests ⟨s', (pid, made) :: x.history⟩ =
    applications config event requests x + (isApplication config event requests (pid, made)).toNat := by
  rw [applications, applications, List.countP_cons]
  cases isApplication config event requests (pid, made) <;> rfl

theorem isApplication_other (isOther : eventOf config (requests pid) ≠ some event) :
    isApplication config event requests (pid, made) = false := by
  unfold isApplication
  split
  · rename_i isMade
    cases isMade
    exact decide_eq_false isOther
  · rfl

theorem rowAfter_spares (spares : sparesEvent key call) (row : Option Bool) : rowAfter key row ⟨call, reply⟩ = row := by
  cases call with
  | createWebhookEvent other =>
    cases reply with
    | error failure => rfl
    | ok value => exact if_neg (of_decide_eq_true spares)
  | markWebhookProcessed other =>
    cases reply with
    | error failure => rfl
    | ok value => exact if_neg (of_decide_eq_true spares)
  | _ => rfl

/-- Other requests change nothing here. -/
theorem kept_other (kept : Kept config event requests x) (isOther : eventOf config (requests pid) ≠ some event)
    (row : s'.webhookEvents.lookup (keyOf config event) = x.store.webhookEvents.lookup (keyOf config event)) :
    Kept config event requests ⟨s', (pid, made) :: x.history⟩ := by
  have same : applications config event requests ⟨s', (pid, made) :: x.history⟩ = applications config event requests x := by
    rw [applications_cons, isApplication_other isOther]
    rfl
  have pasts : ∀ other, eventOf config (requests other) = some event →
      (⟨s', (pid, made) :: x.history⟩ : History).past other = x.past other := by
    intro other delivers
    rw [Logged.past_made, if_neg]
    rintro rfl
    exact isOther delivers
  refine ⟨fun first second isFirst isSecond => ?_, fun other delivers => ?_, fun other delivers => ?_,
    fun other delivers => ?_, same ▸ kept.atMost, fun some => ?_, fun processed => ?_, fun other delivers => ?_⟩
  · rw [pasts first isFirst, pasts second isSecond]
    exact kept.alone first second isFirst isSecond
  · rw [pasts other delivers]
    exact kept.found other delivers
  · rw [pasts other delivers, same]
    exact kept.pending other delivers
  · rw [pasts other delivers, same]
    exact kept.applied other delivers
  · rw [same] at some
    rcases kept.marked some with isMarked | ⟨other, delivers, isNext⟩
    · exact .inl (row.trans isMarked)
    · exact .inr ⟨other, delivers, (pasts other delivers).symm ▸ isNext⟩
  · rw [same]
    exact kept.processed (row.symm.trans processed)
  · rw [pasts other delivers, same]
    exact kept.settled other delivers

/-- A delivery that is alone answers for the event. -/
theorem kept_delivery (kept : Kept config event requests x) (delivers : eventOf config (requests pid) = some event)
    (alone : ∀ other, other ≠ pid → eventOf config (requests other) = some event → stage event (x.past other) = .over)
    (found : stage event (made :: x.past pid) ≠ .ignored)
    (pending : stage event (made :: x.past pid) = .pending →
      applications config event requests ⟨s', (pid, made) :: x.history⟩ = 0)
    (applied : stage event (made :: x.past pid) = .applied →
      0 < applications config event requests ⟨s', (pid, made) :: x.history⟩)
    (atMost : applications config event requests ⟨s', (pid, made) :: x.history⟩ ≤ 1)
    (marked : 0 < applications config event requests ⟨s', (pid, made) :: x.history⟩ →
      s'.webhookEvents.lookup (keyOf config event) = some true ∨ stage event (made :: x.past pid) = .applied)
    (processed : s'.webhookEvents.lookup (keyOf config event) = some true →
      0 < applications config event requests ⟨s', (pid, made) :: x.history⟩)
    (settled : isSettled (made :: x.past pid) →
      0 < applications config event requests ⟨s', (pid, made) :: x.history⟩) :
    Kept config event requests ⟨s', (pid, made) :: x.history⟩ := by
  have pastSelf : (⟨s', (pid, made) :: x.history⟩ : History).past pid = made :: x.past pid := by
    rw [Logged.past_made, if_pos rfl]
  have pastOther : ∀ other, other ≠ pid → (⟨s', (pid, made) :: x.history⟩ : History).past other = x.past other := by
    intro other ne
    rw [Logged.past_made, if_neg ne]
  have isOwn : ∀ other, eventOf config (requests other) = some event →
      stage event ((⟨s', (pid, made) :: x.history⟩ : History).past other) ≠ .over → other = pid := by
    intro other isDelivery active
    by_contra ne
    rw [pastOther other ne] at active
    exact active (alone other ne isDelivery)
  refine ⟨fun first second isFirst isSecond active active' => ?_, fun other isDelivery isIgnored => ?_,
    fun other isDelivery isPending => ?_, fun other isDelivery isApplied => ?_, atMost, fun some => ?_, processed,
    fun other isDelivery isSettled => ?_⟩
  · exact (isOwn first isFirst active).trans (isOwn second isSecond active').symm
  · cases isOwn other isDelivery (by rw [isIgnored]; nofun)
    rw [pastSelf] at isIgnored
    exact found isIgnored
  · cases isOwn other isDelivery (by rw [isPending]; nofun)
    rw [pastSelf] at isPending
    exact pending isPending
  · cases isOwn other isDelivery (by rw [isApplied]; nofun)
    rw [pastSelf] at isApplied
    exact applied isApplied
  · rcases marked some with isMarked | isNext
    · exact .inl isMarked
    · exact .inr ⟨pid, delivers, by rw [pastSelf]; exact isNext⟩
  · by_cases same : other = pid
    · subst same
      rw [pastSelf] at isSettled
      exact settled isSettled
    · rw [pastOther other same] at isSettled
      rw [applications_cons]
      exact Nat.lt_add_right _ (kept.settled other isDelivery isSettled)

/-- Who is on its way is alone. -/
theorem Kept.others_over (kept : Kept config event requests x) (delivers : eventOf config (requests pid) = some event)
    (active : stage event (x.past pid) ≠ .over) (other : ℕ) (ne : other ≠ pid)
    (isDelivery : eventOf config (requests other) = some event) : stage event (x.past other) = .over := by
  by_contra isActive
  exact ne (kept.alone other pid isDelivery delivers isActive active)

theorem over_of_isAlone (alone : isAlone config event requests x pid) (other : ℕ) (ne : other ≠ pid)
    (isDelivery : eventOf config (requests other) = some event) : stage event (x.past other) = .over := by
  cases isPast : x.past other with
  | nil => rfl
  | cons made rest =>
    have member : (other, made) ∈ x.history := Logged.mem_past.mp (isPast ▸ List.mem_cons_self)
    have isOver := List.all_eq_true.mp alone _ member
    simpa [ne, isDelivery, isPast] using isOver

/-- A delivery that fails is over, and has changed nothing. -/
theorem kept_failed (kept : Kept config event requests x) (delivers : eventOf config (requests pid) = some event)
    (active : stage event (x.past pid) = .pending) {failure : Failure}
    (row : s'.webhookEvents.lookup (keyOf config event) = x.store.webhookEvents.lookup (keyOf config event)) :
    Kept config event requests ⟨s', (pid, ⟨call, .error failure⟩) :: x.history⟩ := by
  have isOver : stage event (⟨call, .error failure⟩ :: x.past pid) = .over := by cases call <;> rfl
  have unsettled : isSettled (⟨call, .error failure⟩ :: x.past pid) = false := by cases call <;> rfl
  have none := kept.pending pid delivers active
  have same : applications config event requests ⟨s', (pid, ⟨call, .error failure⟩) :: x.history⟩ = 0 := by
    rw [applications_cons, none]
    cases call <;> rfl
  refine kept_delivery kept delivers (kept.others_over delivers (by rw [active]; nofun)) ?_ ?_ ?_ ?_ ?_ ?_ ?_
  · rw [isOver]
    nofun
  · exact fun _ => same
  · rw [isOver]
    nofun
  · rw [same]
    exact Nat.zero_le _
  · rw [same]
    nofun
  · intro processed
    have some := kept.processed (row.symm.trans processed)
    rw [none] at some
    cases some
  · rw [unsettled]
    nofun

/-- A delivery that goes on without an application. -/
theorem kept_pending (kept : Kept config event requests x) (delivers : eventOf config (requests pid) = some event)
    (active : stage event (x.past pid) = .pending) (found : stage event (made :: x.past pid) ≠ .ignored)
    (unapplied : stage event (made :: x.past pid) ≠ .applied) (unsettled : isSettled (made :: x.past pid) = false)
    (noApplication : isApplication config event requests (pid, made) = false)
    (row : s'.webhookEvents.lookup (keyOf config event) = x.store.webhookEvents.lookup (keyOf config event) ∨
      s'.webhookEvents.lookup (keyOf config event) = some false) :
    Kept config event requests ⟨s', (pid, made) :: x.history⟩ := by
  have none := kept.pending pid delivers active
  have same : applications config event requests ⟨s', (pid, made) :: x.history⟩ = 0 := by
    rw [applications_cons, none, noApplication]
    rfl
  refine kept_delivery kept delivers (kept.others_over delivers (by rw [active]; nofun)) found (fun _ => same)
    (fun isApplied => absurd isApplied unapplied) ?_ ?_ ?_ ?_
  · rw [same]
    exact Nat.zero_le _
  · rw [same]
    nofun
  · intro processed
    rcases row with row | row
    · have some := kept.processed (row.symm.trans processed)
      rw [none] at some
      cases some
    · cases row.symm.trans processed
  · rw [unsettled]
    nofun

theorem kept_lookup {reply : Except Failure (Option Bool)} (kept : Kept config event requests x)
    (delivers : eventOf config (requests pid) = some event) (isFirst : x.past pid = [])
    (made : followed config event requests pid (.findWebhookEvent (keyOf config event)) x reply s') :
    Kept config event requests ⟨s', (pid, ⟨.findWebhookEvent (keyOf config event), reply⟩) :: x.history⟩ := by
  obtain ⟨makes, orderly⟩ := made
  have row : s'.webhookEvents.lookup (keyOf config event) = x.store.webhookEvents.lookup (keyOf config event) :=
    makes_row rfl makes
  have alone : isAlone config event requests x pid := by simpa [isOrderly, delivers] using orderly
  have others := over_of_isAlone alone
  have same : applications config event requests
      ⟨s', (pid, ⟨.findWebhookEvent (keyOf config event), reply⟩) :: x.history⟩ = applications config event requests x :=
    applications_cons s'
  -- Nothing is on its way, so what was applied is marked.
  have marked : 0 < applications config event requests x →
      x.store.webhookEvents.lookup (keyOf config event) = some true := by
    intro some
    rcases kept.marked some with isMarked | ⟨other, isDelivery, isApplied⟩
    · exact isMarked
    · by_cases own : other = pid
      · rw [own, isFirst] at isApplied
        cases isApplied
      · rw [others other own isDelivery] at isApplied
        cases isApplied
  have none : x.store.webhookEvents.lookup (keyOf config event) ≠ some true → applications config event requests x = 0 :=
    fun unmarked => Nat.eq_zero_of_not_pos fun some => unmarked (marked some)
  refine kept_delivery kept delivers others ?_ ?_ ?_ (same ▸ kept.atMost) (fun some => .inl ?_) ?_ ?_
  · rcases reply with failure | (_ | _ | _) <;> nofun
  · rw [same]
    rcases reply with failure | found
    · nofun
    · rw [stage]
      split
      · nofun
      · rename_i unmarked
        exact fun _ => none (makes_lookup makes ▸ unmarked)
  · rcases reply with failure | (_ | _ | _) <;> nofun
  · exact row.trans (marked (same ▸ some))
  · rw [same, row]
    exact kept.processed
  · rw [same]
    rcases reply with failure | found
    · nofun
    · exact fun isMarked => kept.processed ((makes_lookup makes).trans (of_decide_eq_true isMarked))

theorem kept_record {reply : Except Failure Unit} (kept : Kept config event requests x)
    (delivers : eventOf config (requests pid) = some event) (active : stage event (x.past pid) = .pending)
    (made : followed config event requests pid (.createWebhookEvent (keyOf config event)) x reply s') :
    Kept config event requests ⟨s', (pid, ⟨.createWebhookEvent (keyOf config event), reply⟩) :: x.history⟩ := by
  have row : s'.webhookEvents.lookup (keyOf config event) = rowAfter _ _ _ := makes_row rfl made.1
  cases reply with
  | error failure => exact kept_failed kept delivers active row
  | ok value =>
    refine kept_pending kept delivers active nofun nofun rfl rfl (.inr ?_)
    rw [row, rowAfter, if_pos rfl]

theorem kept_find {provider ref : Text} {reply : Except Failure (Option KycProfile)}
    (kept : Kept config event requests x) (delivers : eventOf config (requests pid) = some event)
    (active : stage event (x.past pid) = .pending)
    (made : followed config event requests pid (.findProfileByProviderRef provider ref) x reply s') :
    Kept config event requests ⟨s', (pid, ⟨.findProfileByProviderRef provider ref, reply⟩) :: x.history⟩ := by
  obtain ⟨makes, orderly⟩ := made
  have row : s'.webhookEvents.lookup (keyOf config event) = x.store.webhookEvents.lookup (keyOf config event) :=
    makes_row rfl makes
  have isFound : (findProfileByProviderRef x.store provider ref).isSome := by simpa [isOrderly, delivers] using orderly
  rcases reply with failure | (_ | profile)
  · exact kept_failed kept delivers active row
  · have missing : findProfileByProviderRef x.store provider ref = none := makes.effect.learned nofun
    rw [missing] at isFound
    cases isFound
  · refine kept_pending kept delivers active ?_ ?_ rfl rfl (.inl row)
    · rw [stage]
      split <;> nofun
    · rw [stage]
      split <;> nofun

theorem kept_apply {status : Option KycStatus} {tier : Option ℕ} {reply : Except Failure KycProfile}
    (kept : Kept config event requests x) (delivers : eventOf config (requests pid) = some event)
    (active : stage event (x.past pid) = .pending)
    (made : followed config event requests pid (.applyProviderUpdate status tier) x reply s') :
    Kept config event requests ⟨s', (pid, ⟨.applyProviderUpdate status tier, reply⟩) :: x.history⟩ := by
  have row : s'.webhookEvents.lookup (keyOf config event) = x.store.webhookEvents.lookup (keyOf config event) :=
    makes_row rfl made.1
  cases reply with
  | error failure => exact kept_failed kept delivers active row
  | ok profile =>
    have one : applications config event requests
        ⟨s', (pid, ⟨.applyProviderUpdate status tier, .ok profile⟩) :: x.history⟩ = 1 := by
      rw [applications_cons, kept.pending pid delivers active, isApplication, decide_eq_true delivers]
      rfl
    refine kept_delivery kept delivers (kept.others_over delivers (by rw [active]; nofun)) nofun nofun ?_ ?_ ?_ ?_ nofun
    · exact fun _ => one.symm ▸ Nat.one_pos
    · exact one.le
    · exact fun _ => .inr rfl
    · exact fun _ => one.symm ▸ Nat.one_pos

theorem kept_mark {reply : Except Failure Unit} (kept : Kept config event requests x)
    (delivers : eventOf config (requests pid) = some event) (isApplied : stage event (x.past pid) = .applied)
    (made : followed config event requests pid (.markWebhookProcessed (keyOf config event)) x reply s') :
    Kept config event requests ⟨s', (pid, ⟨.markWebhookProcessed (keyOf config event), reply⟩) :: x.history⟩ := by
  obtain ⟨makes, orderly⟩ := made
  have row : s'.webhookEvents.lookup (keyOf config event) = rowAfter _ _ _ := makes_row rfl makes
  have some := kept.applied pid delivers isApplied
  cases reply with
  | error failure =>
    simp [isOrderly, delivers, Except.isOk, Except.toBool] at orderly
  | ok value =>
    have same : applications config event requests
        ⟨s', (pid, ⟨.markWebhookProcessed (keyOf config event), .ok value⟩) :: x.history⟩ =
          applications config event requests x := applications_cons s'
    rw [rowAfter, if_pos rfl] at row
    refine kept_delivery kept delivers (kept.others_over delivers (by rw [isApplied]; nofun)) nofun nofun nofun
      (same ▸ kept.atMost) (fun _ => .inl row) (fun _ => same ▸ some) fun _ => same ▸ some

theorem kept_step (kept : Kept config event requests x) (may : May config event (requests pid) (x.past pid) call)
    (made : followed config event requests pid call x reply s') :
    Kept config event requests ⟨s', (pid, ⟨call, reply⟩) :: x.history⟩ := by
  have isMade := may.isMade
  cases may with
  | other isOther spares =>
    refine kept_other kept isOther ?_
    rw [makes_row isMade made.1, rowAfter_spares spares]
  | lookup delivers isFirst => exact kept_lookup kept delivers isFirst made
  | record delivers isPending => exact kept_record kept delivers isPending made
  | find delivers isPending => exact kept_find kept delivers isPending made
  | apply delivers isPending => exact kept_apply kept delivers isPending made
  | mark delivers isReady =>
    rcases isReady with isApplied | isIgnored
    · exact kept_mark kept delivers isApplied made
    · exact absurd isIgnored (kept.found pid delivers)

end Step

theorem kept_opening (opening : Opening config event s) : Kept config event requests ⟨s, []⟩ := by
  refine ⟨nofun, nofun, nofun, nofun, Nat.zero_le _, nofun, fun processed => ?_, nofun⟩
  cases opening.symm.trans processed

/-- Where each delivery of the event starts when no other is on its way, finds
the profile and marks what it applied, the event is applied once, and before a
delivery is answered with success. -/
theorem event_not_lost (attributed : (refOf event).isSome)
    (run : Logged.Run (followed config event requests) (IsAllowed config event requests) (Opening config event) pool) :
    NotLost config event requests pool := by
  have obeys : ∀ pid program, IsAllowed config event requests pid program →
      program.Obeys (May config event (requests pid)) (ends config event (requests pid)) [] :=
    isAllowed_obeys attributed requests
  have kept : Kept config event requests pool.store := run.inv obeys (fun _ opening => kept_opening opening)
    fun _ _ _ _ _ kept may made => kept_step kept may made
  refine ⟨kept.atMost, fun pid delivers answered => ?_⟩
  have settled := (Logged.Run.orderly obeys run).ended (Pool.ended_of_answerOf answered)
  exact kept.settled pid delivers (settled delivers)

/-! ## Two orders -/

/-- The provider approves what is verified in the session. -/
private def approvedEvent : KycWebhookEvent := ⟨['e'], some ['s'], none, .approved⟩

private def webhookConfig : Config := { smallConfig with verifyWebhook := fun _ => some approvedEvent }

/-- Request `0` submits, and the event is delivered again and again. -/
private def redeliveries (pid : ℕ) : Request := if pid = 0 then .submitProfile else .handleWebhook ⟨some ['b'], none⟩

private theorem isAllowed_redeliveries (pid : ℕ) :
    IsAllowed webhookConfig approvedEvent redeliveries pid ((redeliveries pid).program webhookConfig) := by
  refine ⟨?_, rfl⟩
  unfold redeliveries
  split
  · trivial
  · rintro other ⟨⟩ -
    rfl

/-- The user was asked for more, after a session of his. -/
private def askedStore : Store :=
  ⟨some ⟨['u'], .needsMoreInfo, 0⟩, some ⟨.needsMoreInfo, some ['k'], some ['r'], none⟩, ∅, none, []⟩

private theorem opening_askedStore : Opening webhookConfig approvedEvent askedStore := rfl

/-- A submission, the event, and the event again. -/
theorem event_not_lost_in_turn : ∃ pool : KycPool, pool.answerOf 2 = some () ∧
    applications webhookConfig approvedEvent redeliveries pool.store = 1 ∧
    NotLost webhookConfig approvedEvent redeliveries pool := by
  have played : (schedule webhookConfig (fun _ => worldWith (.ok [])) (fun _ _ => false)
      (fun pid call x reply => isOrderly webhookConfig approvedEvent redeliveries x pid call reply) redeliveries
      [0, 1, 2] [(0, 9), (1, 9), (2, 9)] askedStore).map (fun pool =>
        (pool.answerOf 2, applications webhookConfig approvedEvent redeliveries pool.store)) = some (some (), 1) := by
    decide +kernel
  obtain ⟨pool, scheduled, facts⟩ := Option.map_eq_some_iff.mp played
  simp only [Prod.mk.injEq] at facts
  have run : Logged.Run (followed webhookConfig approvedEvent redeliveries)
      (IsAllowed webhookConfig approvedEvent redeliveries) (Opening webhookConfig approvedEvent) pool :=
    Database.schedule_run opening_askedStore isAllowed_redeliveries (fun _ _ _ _ _ orderly makes => ⟨makes, orderly⟩) scheduled
  exact ⟨pool, facts.1, facts.2, event_not_lost rfl run⟩

/-- The event comes when the session is open at the provider and not yet saved:
it is answered with success, then and when it comes again, and never applied,
though an approval is legal all the while. -/
theorem early_event_lost : ¬∀ pool : KycPool,
    Logged.Run interleaved (IsAllowed webhookConfig approvedEvent redeliveries) (Opening webhookConfig approvedEvent) pool →
      NotLost webhookConfig approvedEvent redeliveries pool := by
  intro notLost
  have played : (schedule webhookConfig (fun _ => worldWith (.ok [])) (fun _ _ => false) (fun _ _ _ _ => true)
      redeliveries [0, 1, 2] [(0, 3), (1, 9), (0, 9), (2, 9)] askedStore).map (fun pool =>
        (pool.answerOf 2, applications webhookConfig approvedEvent redeliveries pool.store)) = some (some (), 0) := by
    decide +kernel
  obtain ⟨pool, scheduled, facts⟩ := Option.map_eq_some_iff.mp played
  simp only [Prod.mk.injEq] at facts
  have run : Logged.Run interleaved (IsAllowed webhookConfig approvedEvent redeliveries)
      (Opening webhookConfig approvedEvent) pool :=
    Database.schedule_run opening_askedStore isAllowed_redeliveries (fun _ _ _ _ _ _ makes => makes) scheduled
  have applied := (notLost pool run).2 2 rfl facts.1
  rw [facts.2] at applied
  cases applied

end Exchange.Kyc.Webhooks
