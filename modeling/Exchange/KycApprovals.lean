import Exchange.KycScreening

/-! Ways to the approved status. A submission is mirrored into the queue, where
admins and the provider approve without a look at the screening; only the review
of the submission asks the gate. -/
namespace Exchange.Kyc.Approvals
open Service Screening

variable {config : Config} {requests : ℕ → Request} {Opening : Store → Prop} {x : History} {pid : ℕ} {call : KycCall}
  {reply : Except Failure call.Reply} {s s' : Store} {past : Past} {request : Request} {pool pool' : KycPool}

def IsApproved (s : Store) : Prop := ∃ user, s.user = some user ∧ user.kycStatus = .approved

/-- A submission that is not approved. -/
def isSubmitted : ComplianceKycStatus → Bool
  | .notStarted => false
  | .draft => false
  | .approved => false
  | _ => true

def hasSubmission (s : Store) : Bool := s.compliance.any fun profile => isSubmitted profile.status

def gateIsOpen (s : Store) : Bool := !(computeGate (latestChecksByCategory s)).blocked

def overrides : Request → Bool
  | .review _ canOverrideScreening => canOverrideScreening
  | _ => false

/-- The call approves, in the queue or in a review. -/
def approves : KycCall → Bool
  | .decide status _ => status = .approved
  | .applyProviderUpdate status _ => status = some .approved
  | .updateProfile patch => patch.status = some .approved
  | _ => false

/-- The queue approves where the gate is open or no submission waits; a review
without the override, where no check came to block since it read the gate. -/
def isGuarded (requests : ℕ → Request) (pid : ℕ) (x : History) (call : KycCall) : Bool :=
  !approves call || match call with
    | .updateProfile _ => overrides (requests pid) || isSteady x pid
    | _ => !hasSubmission x.store || gateIsOpen x.store

def followed (requests : ℕ → Request) (pid : ℕ) (call : KycCall) (x : History) (reply : Except Failure call.Reply)
    (s' : Store) : Prop :=
  Makes pid call x.store reply s' ∧ isGuarded requests pid x call

/-- One step approves, while the gate is open or by an admin who may override it. -/
def ApprovesOpenly (requests : ℕ → Request) (pid : ℕ) (earlier later : KycPool) : Prop :=
  ∃ (call : KycCall) (value : call.Reply), approves call ∧
    later.store.history = (pid, ⟨call, .ok value⟩) :: earlier.store.history ∧
    (gateIsOpen earlier.store.store ∨ overrides (requests pid))

section Openly
variable (step : ℕ → (call : KycCall) → History → Except Failure call.Reply → Store → Prop) (config : Config)
  (requests : ℕ → Request) (Opening : Store → Prop) (pool pool' : KycPool)

abbrev Steps : KycPool → KycPool → Prop :=
  Relation.ReflTransGen (Pool.Step (Logged.protocol step) (IsRequest config requests))

/-- On the way the user gets the approved status by an approval that was open,
made by the same request or since the start of the way. -/
def OpenlyApproved : Prop :=
  ∃ earlier later pid made granting granted approver,
    Steps step config requests pool earlier ∧
    Pool.Step (Logged.protocol step) (IsRequest config requests) earlier later ∧
    Steps step config requests later pool' ∧ ¬IsApproved earlier.store.store ∧ IsApproved later.store.store ∧
    later.store.history = (pid, made) :: earlier.store.history ∧
    Logged.Run step (IsRequest config requests) Opening granting ∧
    Pool.Step (Logged.protocol step) (IsRequest config requests) granting granted ∧
    Steps step config requests granted later ∧ ApprovesOpenly requests approver granting granted ∧
    (approver = pid ∨ Steps step config requests pool granting)

end Openly

/-! ## Steps -/

/-- What makes a user approved. -/
theorem approving_call (effect : Effect s ⟨call, reply⟩ s') (before : ¬IsApproved s) (after : IsApproved s') :
    (∃ value, reply = .ok value) ∧ (call.setsBoth = some .approved ∨ ∃ tier, call = .setUserKyc .approved tier) := by
  obtain ⟨user', isUser', approved⟩ := after
  cases effect with
  | @bothSet call value status user profile tier sets isUser isSet =>
    cases isUser'
    exact ⟨⟨_, rfl⟩, .inl (approved ▸ sets)⟩
  | @userSet status tier user isUser =>
    cases isUser'
    cases approved
    exact ⟨⟨_, rfl⟩, .inr ⟨_, rfl⟩⟩
  | _ => exact absurd ⟨user', isUser', approved⟩ before

theorem approves_of_setsBoth (sets : call.setsBoth = some .approved) : approves call = true := by
  cases call with
  | decide status tier =>
    cases sets
    rfl
  | applyProviderUpdate status tier =>
    cases sets
    rfl
  | submitProfile session => cases sets
  | _ => cases sets

theorem open_of_setsBoth (sets : call.setsBoth = some .approved) (guarded : isGuarded requests pid x call) :
    hasSubmission x.store = false ∨ gateIsOpen x.store := by
  have isApproval := approves_of_setsBoth sets
  cases call with
  | updateProfile patch => cases sets
  | _ => simpa [isGuarded, isApproval] using guarded

theorem gateIsOpen_of_steady (gate : GateRead (x.past pid) .approve false) (steady : isSteady x pid) :
    gateIsOpen x.store := by
  have none : (latestChecksByCategory x.store).filter ScreeningCheck.blocks = [] := by
    rw [List.filter_eq_nil_iff]
    intro check member
    simpa using unblocked_of_steady gate steady member
  simp [gateIsOpen, computeGate, none]

/-- An approving review found the gate open, or may override it. -/
theorem open_of_review (may : May config (requests pid) (x.past pid) (.updateProfile (statusPatch .approved)))
    (guarded : isGuarded requests pid x (.updateProfile (statusPatch .approved))) :
    gateIsOpen x.store ∨ overrides (requests pid) := by
  obtain ⟨canOverrideScreening, isRequest, gate⟩ := may_approve may
  have allowed : overrides (requests pid) ∨ isSteady x pid := by simpa [isGuarded, approves, statusPatch] using guarded
  cases canOverrideScreening with
  | true =>
    refine .inr ?_
    rw [isRequest]
    rfl
  | false =>
    refine .inl (gateIsOpen_of_steady gate (allowed.resolve_left ?_))
    rw [isRequest]
    exact Bool.false_ne_true

/-- A submission stops waiting when a review approves it. -/
theorem review_of_lost (may : May config request past call) (effect : Effect s ⟨call, reply⟩ s')
    (before : hasSubmission s) (after : ¬hasSubmission s') :
    call = .updateProfile (statusPatch .approved) ∧ ∃ value, reply = .ok value := by
  cases effect with
  | @upserted profile =>
    refine absurd ?_ after
    cases may with
    | neutral neutral => cases neutral
    | upsertProfile isRequest => rfl
  | @patched patch profile isRow =>
    rw [hasSubmission, isRow] at before
    rcases may_update may with unset | ⟨decision, canOverrideScreening, rfl, -⟩
    · have same : (patch.set profile).status = profile.status := by simp [CompliancePatch.set, unset]
      exact absurd (by simpa [hasSubmission, same] using before) after
    · cases decision with
      | approve => exact ⟨rfl, _, rfl⟩
      | requestInfo => exact absurd rfl after
      | reject => exact absurd rfl after
  | _ => exact absurd before after

theorem decided_of_may {tier : Option ℕ} (may : May config request past (.setUserKyc .approved tier)) :
    ⟨.updateProfile (statusPatch .approved), .ok ()⟩ ∈ past := by
  rcases may_setUser may with isPending | ⟨decision, canOverrideScreening, isStatus, -, decided⟩
  · cases isPending
  cases decision with
  | approve => exact decided
  | requestInfo => cases isStatus
  | reject => cases isStatus

/-! ## Runs -/

def Waits (x : History) : Prop := hasSubmission x.store

def Unapproved (x : History) : Prop := ¬IsApproved x.store

/-- A submission that waited and does no more was approved in the open. -/
theorem approval_of_lost (run : Logged.Run (followed requests) (IsRequest config requests) Opening pool)
    (steps : Steps (followed requests) config requests pool pool') (before : Waits pool.store)
    (after : ¬Waits pool'.store) :
    ∃ granting granted approver, Steps (followed requests) config requests pool granting ∧
      Pool.Step (Logged.protocol (followed requests)) (IsRequest config requests) granting granted ∧
      Steps (followed requests) config requests granted pool' ∧ ApprovesOpenly requests approver granting granted := by
  obtain ⟨granting, granted, pid, call, reply, s', reached, step', rest, waits, lost, may, made, grown⟩ :=
    run.change (isRequest_obeys config requests) steps before after
  rw [grown] at lost
  obtain ⟨rfl, value, rfl⟩ := review_of_lost may made.1.effect waits lost
  refine ⟨granting, granted, pid, reached, step', rest, _, value, rfl, ?_, open_of_review may made.2⟩
  rw [grown]

/-- While the queue approves no submission that waits behind a closed gate, a
user whose submission waits is approved in the open. -/
theorem openly_approved (run : Logged.Run (followed requests) (IsRequest config requests) Opening pool)
    (steps : Steps (followed requests) config requests pool pool') (submitted : hasSubmission pool.store.store)
    (before : ¬IsApproved pool.store.store) (after : IsApproved pool'.store.store) :
    OpenlyApproved (followed requests) config requests Opening pool pool' := by
  have unapproved : Unapproved pool.store := before
  obtain ⟨earlier, later, pid, call, reply, s', reached, step', rest, waits, approved, may, made, grown⟩ :=
    run.change (isRequest_obeys config requests) steps unapproved (not_not.mpr after)
  have isLast : later.store.history = (pid, ⟨call, reply⟩) :: earlier.store.history := by rw [grown]
  have arrives : IsApproved later.store.store := not_not.mp approved
  have isApproved : IsApproved s' := by rwa [grown] at arrives
  obtain ⟨⟨value, rfl⟩, sets | ⟨tier, rfl⟩⟩ := approving_call made.1.effect waits isApproved
  · by_cases still : hasSubmission earlier.store.store
    · have isOpen := (open_of_setsBoth sets made.2).resolve_left (by simp [still])
      exact ⟨earlier, later, pid, _, earlier, later, pid, reached, step', rest, waits, arrives, isLast,
        run.steps reached, step', .refl, ⟨call, value, approves_of_setsBoth sets, isLast, .inl isOpen⟩, .inl rfl⟩
    · obtain ⟨granting, granted, approver, since, granting', after, isOpen⟩ :=
        approval_of_lost run reached submitted still
      exact ⟨earlier, later, pid, _, granting, granted, approver, reached, step', rest, waits, arrives, isLast,
        run.steps since, granting', after.tail step', isOpen, .inr since⟩
  · obtain ⟨granting, granted, s'', reached', granting', after, may', made', grown'⟩ :=
      Logged.Run.made_at (isRequest_obeys config requests) (run.steps reached)
        (Logged.mem_past.mp (decided_of_may may))
    refine ⟨earlier, later, pid, _, granting, granted, pid, reached, step', rest, waits, arrives, isLast,
      reached', granting', after.tail step',
      ⟨.updateProfile (statusPatch .approved), (), rfl, ?_, open_of_review may' made'.2⟩, .inl rfl⟩
    rw [grown']

/-! ## A submission that waits -/

theorem isApproved_iff : IsApproved s ↔ s.user.map User.kycStatus = some .approved := by
  simp [IsApproved]

/-- A submission that was mirrored, with one check. -/
private def waitingStore (status : ScreeningCheckStatus) : Store :=
  ⟨some ⟨['u'], .pending, 0⟩, some ⟨.pending, some ['l'], none, none⟩, ∅,
    some (submittedProfile smallSubmission ['l']), [⟨0, .sanctions, status, none⟩]⟩

private def reviewed (_ : ℕ) : Request := .review .approve false

/-- The review finds the gate open. -/
theorem openly_approved_review : ∃ pool pool' : KycPool, hasSubmission pool.store.store ∧
    ¬IsApproved pool.store.store ∧ IsApproved pool'.store.store ∧
      OpenlyApproved (followed reviewed) smallConfig reviewed (fun _ => True) pool pool' := by
  have played : ((schedule smallConfig (fun _ => worldWith (.ok [])) (fun _ _ => false)
      (fun pid call x _ => isGuarded reviewed pid x call) reviewed [1] [] (waitingStore .clear)).bind fun pool =>
        (resume smallConfig (fun _ => worldWith (.ok [])) (fun _ _ => false)
          (fun pid call x _ => isGuarded reviewed pid x call) reviewed [] [(1, 6)] pool).map fun pool' =>
            (hasSubmission pool.store.store, pool.store.store.user.map User.kycStatus,
              pool'.store.store.user.map User.kycStatus)) = some (true, some .pending, some .approved) := by
    decide +kernel
  obtain ⟨pool, scheduled, played⟩ := Option.bind_eq_some_iff.mp played
  obtain ⟨pool', resumed, facts⟩ := Option.map_eq_some_iff.mp played
  simp only [Prod.mk.injEq] at facts
  obtain ⟨submitted, before, after⟩ := facts
  have run : Logged.Run (followed reviewed) (IsRequest smallConfig reviewed) (fun _ => True) pool :=
    schedule_run trivial (fun _ _ _ _ _ guarded makes => ⟨makes, guarded⟩) scheduled
  have steps : Steps (followed reviewed) smallConfig reviewed pool pool' :=
    resume_steps (fun _ _ _ _ _ guarded makes => ⟨makes, guarded⟩) resumed
  have unapproved : ¬IsApproved pool.store.store := by simp [isApproved_iff, before]
  have approved : IsApproved pool'.store.store := isApproved_iff.mpr after
  exact ⟨pool, pool', submitted, unapproved, approved, openly_approved run steps submitted unapproved approved⟩

private def decided (_ : ℕ) : Request := .decide (.approve none)

/-- Decisions in the queue change no check. -/
private theorem checks_decided {initial : Store}
    (run : Logged.Run interleaved (IsRequest smallConfig decided) (· = initial) pool) :
    pool.store.store.checks = initial.checks := by
  have kept : ∀ (x : History) pid call reply s', x.store.checks = initial.checks →
      May smallConfig (decided pid) (x.past pid) call → interleaved pid call x reply s' →
        s'.checks = initial.checks := by
    intro x pid call reply s' same may made
    cases Makes.effect made with
    | checkStored =>
      cases may with
      | neutral neutral => cases neutral
      | createCheck screens => cases screens
    | checkDecided =>
      cases may with
      | neutral neutral => cases neutral
      | updateCheck isRequest => cases isRequest
    | _ => exact same
  have fixed : (fun x : History => x.store.checks = initial.checks) pool.store :=
    run.inv (isRequest_obeys smallConfig decided) (fun s same => by rw [same]) kept
  exact fixed

/-- An admin approves in the queue, with a match unresolved. -/
theorem approved_in_queue : ¬∀ pool pool' : KycPool,
    Logged.Run interleaved (IsRequest smallConfig decided) (· = waitingStore .possibleMatch) pool →
      Steps interleaved smallConfig decided pool pool' → hasSubmission pool.store.store →
        ¬IsApproved pool.store.store → IsApproved pool'.store.store →
          OpenlyApproved interleaved smallConfig decided (· = waitingStore .possibleMatch) pool pool' := by
  intro openly
  have played : ((schedule smallConfig (fun _ => worldWith (.ok [])) (fun _ _ => false) (fun _ _ _ _ => true)
      decided [1] [] (waitingStore .possibleMatch)).bind fun pool =>
        (resume smallConfig (fun _ => worldWith (.ok [])) (fun _ _ => false) (fun _ _ _ _ => true)
          decided [] [(1, 6)] pool).map fun pool' =>
            (hasSubmission pool.store.store, pool.store.store.user.map User.kycStatus,
              pool'.store.store.user.map User.kycStatus)) = some (true, some .pending, some .approved) := by
    decide +kernel
  obtain ⟨pool, scheduled, played⟩ := Option.bind_eq_some_iff.mp played
  obtain ⟨pool', resumed, facts⟩ := Option.map_eq_some_iff.mp played
  simp only [Prod.mk.injEq] at facts
  obtain ⟨submitted, before, after⟩ := facts
  have run : Logged.Run interleaved (IsRequest smallConfig decided) (· = waitingStore .possibleMatch) pool :=
    schedule_run rfl (fun _ _ _ _ _ _ makes => makes) scheduled
  have steps : Steps interleaved smallConfig decided pool pool' :=
    resume_steps (fun _ _ _ _ _ _ makes => makes) resumed
  obtain ⟨_, _, _, _, granting, _, _, -, -, -, -, -, -, reached, -, -, ⟨_, _, -, -, isOpen⟩, -⟩ :=
    openly pool pool' run steps submitted (by simp [isApproved_iff, before]) (isApproved_iff.mpr after)
  rcases isOpen with isOpen | mayOverride
  · rw [gateIsOpen, latestChecksByCategory, checks_decided reached] at isOpen
    cases isOpen
  · cases mayOverride

end Exchange.Kyc.Approvals
