import Exchange.KycCompliance

/-! The rules of KYC: after which answers a request changes a status, approves a
submission or stores a check. A status that is kept on the user and on the
profile is set on one and then, with the very next call, on the other. -/
namespace Exchange.Kyc

/-- Calls that touch no status, no submission and no check. -/
def KycCall.isNeutral : KycCall → Bool
  | .submitProfile _ => false
  | .decide _ _ => false
  | .applyProviderUpdate status _ => status.isNone
  | .upsertProfile _ => false
  | .updateProfile patch => patch.status.isNone
  | .createCheck _ _ => false
  | .updateCheck _ _ => false
  | .mirrorProfile _ => false
  | .setUserKyc _ _ => false
  | .updateManyProfiles _ => false
  | _ => true

namespace Service
open Async

/-- The calls a request has made, latest first. -/
abbrev Past := List (Answered KycCall KycCall.Reply Failure)

/-- The status that was set in one place and is set in the other next. -/
def midway : Past → Option KycStatus
  | ⟨.mirrorProfile _, .ok _⟩ :: _ => some .pending
  | ⟨.setUserKyc status _, .ok _⟩ :: _ => if status = .pending then none else some status
  | _ => none

def Free (past : Past) : Prop := midway past = none

/-- The profile of the queue as it was read. -/
inductive ReadProfile (past : Past) : Option KycProfile → Prop
  | byUser {found : Option KycProfile} (read : ⟨.findProfileByUserId, .ok found⟩ ∈ past) : ReadProfile past found
  | byRef {provider ref : Text} {found : Option KycProfile}
      (read : ⟨.findProfileByProviderRef provider ref, .ok found⟩ ∈ past) : ReadProfile past found

/-- What a review decides, for the submission and for the gate. -/
def ComplianceDecision.outcome : ComplianceDecision → ComplianceKycStatus × KycStatus
  | .approve => (.approved, .approved)
  | .requestInfo => (.needsMoreInfo, .needsMoreInfo)
  | .reject => (.rejected, .rejected)

/-- An approval has just found no check that blocks, or may override. -/
def GateRead (past : Past) : ComplianceDecision → Bool → Prop
  | .approve, canOverrideScreening => ∃ latest, past.head? = some ⟨.latestChecksByCategory, .ok latest⟩ ∧
      ((computeGate latest).blocked → canOverrideScreening)
  | _, _ => True

def Request.screens : Request → Bool
  | .submitEnhanced _ => true
  | .runScreening => true
  | _ => false

def Request.asksProvider : Request → Bool
  | .refreshStatus => true
  | .handleWebhook _ => true
  | _ => false

/-- The calls a request may make. -/
inductive May (config : Config) (request : Request) (past : Past) : KycCall → Prop
  | neutral {call : KycCall} (neutral : call.isNeutral) (free : Free past) : May config request past call
  | submitProfile {session : KycSession} {existing : Option KycProfile} (isRequest : request = .submitProfile)
      (read : ReadProfile past existing)
      (checked : ∀ profile, existing = some profile → profile.status ≠ .pending ∧ profile.status ≠ .inReview)
      (free : Free past) : May config request past (.submitProfile session)
  | decide {decision : KycDecision} {profile : KycProfile} (isRequest : request = .decide decision)
      (read : ReadProfile past (some profile)) (checked : canTransition profile.status decision.status)
      (free : Free past) : May config request past (.decide decision.status (decision.tier config))
  | applyProviderUpdate {status : KycStatus} {tier : Option ℕ} {profile : KycProfile} (asks : request.asksProvider)
      (read : ReadProfile past (some profile)) (checked : canTransition profile.status status) (free : Free past) :
      May config request past (.applyProviderUpdate (some status) tier)
  | upsertProfile {input : EnhancedSubmission} (isRequest : request = .submitEnhanced input) (free : Free past) :
      May config request past (.upsertProfile (submittedProfile input config.livenessProviderName))
  | createCheck {category : ScreeningCategory} {status : ScreeningCheckStatus} (screens : request.screens)
      (free : Free past) : May config request past (.createCheck category status)
  | updateCheck {id : ℕ} {decision : ScreeningDecision} (isRequest : request = .decideScreening id decision)
      (free : Free past) : May config request past (.updateCheck id decision)
  | review {decision : ComplianceDecision} {canOverrideScreening : Bool}
      (isRequest : request = .review decision canOverrideScreening) (gate : GateRead past decision canOverrideScreening)
      (free : Free past) : May config request past (.updateProfile (statusPatch decision.outcome.1))
  | mirrorProfile {provider : Option Text} {input : EnhancedSubmission} {existing : Option KycProfile}
      (isRequest : request = .submitEnhanced input) (read : ReadProfile past existing)
      (checked : ∀ profile, existing = some profile → profile.status ≠ .approved) (free : Free past) :
      May config request past (.mirrorProfile provider)
  | mirrorUser {provider : Option Text} (first : past.head? = some ⟨.mirrorProfile provider, .ok ()⟩) :
      May config request past (.setUserKyc .pending none)
  | syncUser {decision : ComplianceDecision} {canOverrideScreening : Bool}
      (isRequest : request = .review decision canOverrideScreening)
      (decided : ⟨.updateProfile (statusPatch decision.outcome.1), .ok ()⟩ ∈ past) (free : Free past) :
      May config request past (.setUserKyc decision.outcome.2 (syncedTier config decision.outcome.2))
  | syncProfile {status : KycStatus} {tier : Option ℕ} (first : past.head? = some ⟨.setUserKyc status tier, .ok ()⟩)
      (isFirst : status ≠ .pending) : May config request past (.updateManyProfiles status)

variable {config : Config} {request : Request} {past later : Past} {call : KycCall} {α β : Type}

theorem may_update {patch : CompliancePatch} (may : May config request past (.updateProfile patch)) :
    patch.status = none ∨ ∃ decision canOverrideScreening, patch = statusPatch decision.outcome.1 ∧
      request = .review decision canOverrideScreening ∧ GateRead past decision canOverrideScreening := by
  cases may with
  | neutral neutral => exact .inl (by simpa [KycCall.isNeutral] using neutral)
  | @review decision canOverrideScreening isRequest gate =>
    exact .inr ⟨decision, canOverrideScreening, rfl, isRequest, gate⟩

theorem may_setUser {status : KycStatus} {tier : Option ℕ} (may : May config request past (.setUserKyc status tier)) :
    status = .pending ∨ ∃ decision canOverrideScreening, status = decision.outcome.2 ∧
      request = .review decision canOverrideScreening ∧
      ⟨.updateProfile (statusPatch decision.outcome.1), .ok ()⟩ ∈ past := by
  cases may with
  | neutral neutral => cases neutral
  | mirrorUser first => exact .inl rfl
  | @syncUser decision canOverrideScreening isRequest decided =>
    exact .inr ⟨decision, canOverrideScreening, rfl, isRequest, decided⟩

theorem free_neutral (neutral : call.isNeutral) (reply : Except Failure call.Reply) :
    Free (⟨call, reply⟩ :: past) := by
  cases call with
  | mirrorProfile => cases neutral
  | setUserKyc => cases neutral
  | _ => rfl

/-- Follows the rules, and is midway nowhere when it ends. -/
abbrev Follows (config : Config) (request : Request) (past : Past) (program : KycM α) (fact : α → Past → Prop) : Prop :=
  program.Obeys (May config request) (EndsWith Free fun value later => Free later ∧ fact value later) past

theorem Follows.seq {program : KycM α} {next : α → KycM β} {fact : α → Past → Prop} {fact' : β → Past → Prop}
    (first : Follows config request past program fact)
    (rest : ∀ value later, past <:+ later → Free later → fact value later →
      Follows config request later (next value) fact') :
    Follows config request past (program >>= next) fact' :=
  Obeys.seq first fun value later grown ⟨free, known⟩ => rest value later grown free known

theorem Follows.weaken {program : KycM α} {fact fact' : α → Past → Prop}
    (follows : Follows config request past program fact)
    (weaker : ∀ value later, past <:+ later → fact value later → fact' value later) :
    Follows config request past program fact' := by
  refine follows.grows.imp fun later result ⟨grown, ended⟩ => ?_
  cases result with
  | ok value => exact ⟨ended.1, weaker value later grown ended.2⟩
  | error failure => exact ended

theorem follows_ask (neutral : call.isNeutral) (free : Free past) :
    Follows config request past (ask call) fun value later => later = ⟨call, .ok value⟩ :: past :=
  obeys_answers (.neutral neutral free) (fun failure => free_neutral neutral (.error failure))
    fun value => ⟨free_neutral neutral (.ok value), rfl⟩

/-- A write that nothing has to follow. -/
theorem follows_write (may : May config request past call)
    (free : ∀ reply : Except Failure call.Reply, Free (⟨call, reply⟩ :: past)) :
    Follows config request past (ask call) fun value later => later = ⟨call, .ok value⟩ :: past :=
  obeys_answers may (fun failure => free (.error failure)) fun value => ⟨free (.ok value), rfl⟩

theorem attempt_follows {program : KycM Unit} {fact : Unit → Past → Prop}
    (follows : Follows config request past program fact) :
    Follows config request past (attempt program) fun _ _ => True := by
  unfold attempt
  refine obeys_tryCatch.mpr (follows.imp fun later result ended => ?_)
  cases result with
  | ok value => exact ⟨ended.1, trivial⟩
  | error failure => exact ⟨ended, trivial⟩

/-! ## The queue -/

theorem assertTransition_follows {source target : KycStatus} (free : Free past) :
    Follows config request past (assertTransition source target) fun _ later =>
      later = past ∧ canTransition source target := by
  unfold assertTransition
  split
  · rename_i allowed
    exact ⟨free, rfl, allowed⟩
  · exact free

theorem submitProfile_follows (isRequest : request = .submitProfile) (free : Free past) :
    Follows config request past submitProfile fun _ _ => True := by
  unfold submitProfile
  refine (follows_ask rfl free).seq ?_
  rintro (_ | user) later - free rfl
  · exact free
  dsimp only
  split
  · exact free
  refine (follows_ask rfl free).seq ?_
  rintro existing later - free rfl
  split
  · exact free
  rename_i checked
  have passes : ∀ profile, existing = some profile → profile.status ≠ .pending ∧ profile.status ≠ .inReview := by
    rintro profile rfl
    simpa using checked
  refine (follows_ask rfl free).seq ?_
  rintro session later - free rfl
  have read : ReadProfile (⟨.createKycSession, .ok session⟩ :: ⟨.findProfileByUserId, .ok existing⟩ ::
      ⟨.findUser, .ok (some user)⟩ :: past) existing := .byUser (List.mem_cons_of_mem _ List.mem_cons_self)
  refine (follows_write (.submitProfile isRequest read passes free) fun _ => rfl).seq ?_
  exact fun _ _ _ free _ => ⟨free, trivial⟩

theorem applyProviderResult_follows {profile : KycProfile} {status : KycVerificationStatus}
    (asks : request.asksProvider) (read : ReadProfile past (some profile)) (free : Free past) :
    Follows config request past (applyProviderResult config profile status) fun _ _ => True := by
  unfold applyProviderResult
  dsimp only
  split
  · exact (follows_ask rfl free).seq fun _ _ _ free _ => ⟨free, trivial⟩
  refine (assertTransition_follows free).seq ?_
  rintro _ later - free ⟨rfl, allowed⟩
  refine (follows_write (.applyProviderUpdate asks read allowed free) fun _ => rfl).seq ?_
  exact fun _ _ _ free _ => ⟨free, trivial⟩

theorem refreshStatus_follows (isRequest : request = .refreshStatus) (free : Free past) :
    Follows config request past (refreshStatus config) fun _ _ => True := by
  unfold refreshStatus
  refine (follows_ask rfl free).seq ?_
  rintro found later - free rfl
  split
  · refine (follows_ask rfl free).seq ?_
    rintro status later - free rfl
    refine applyProviderResult_follows (by rw [isRequest]; rfl) (.byUser ?_) free
    exact List.mem_cons_of_mem _ List.mem_cons_self
  · exact free

theorem findEventProfile_follows {event : KycWebhookEvent} (free : Free past) :
    Follows config request past (findEventProfile config event) fun found later =>
      ∀ profile, found = some profile → ReadProfile later (some profile) := by
  unfold findEventProfile
  split
  · refine (follows_ask rfl free).weaken ?_
    rintro found later - rfl profile rfl
    exact .byRef List.mem_cons_self
  · exact ⟨free, nofun⟩

theorem recordEvent_follows {key : Text × Text} {existing : Option Bool} (free : Free past) :
    Follows config request past (recordEvent key existing) fun _ _ => True := by
  unfold recordEvent
  split
  · exact (follows_ask rfl free).weaken fun _ _ _ _ => trivial
  · exact ⟨free, trivial⟩

theorem processEvent_follows {event : KycWebhookEvent} (asks : request.asksProvider) (free : Free past) :
    Follows config request past (processEvent config event) fun _ _ => True := by
  unfold processEvent
  refine (follows_ask rfl free).seq ?_
  rintro existing later - free rfl
  split
  · exact ⟨free, trivial⟩
  refine (recordEvent_follows free).seq fun _ later _ free _ => ?_
  refine (findEventProfile_follows free).seq ?_
  rintro (_ | profile) later - free read
  · exact (follows_ask rfl free).weaken fun _ _ _ _ => trivial
  · refine (applyProviderResult_follows asks (read profile rfl) free).seq fun _ later _ free _ => ?_
    exact (follows_ask rfl free).weaken fun _ _ _ _ => trivial

theorem handleWebhook_follows {input : KycWebhookInput} (isRequest : request = .handleWebhook input)
    (free : Free past) : Follows config request past (handleWebhook config input) fun _ _ => True := by
  unfold handleWebhook
  split
  · exact free
  · exact free
  · exact processEvent_follows (by rw [isRequest]; rfl) free

theorem decide_follows {decision : KycDecision} (isRequest : request = .decide decision) (free : Free past) :
    Follows config request past (Service.decide config decision) fun _ _ => True := by
  unfold Service.decide
  refine (follows_ask rfl free).seq ?_
  rintro (_ | profile) later - free rfl
  · exact free
  refine (follows_ask rfl free).seq ?_
  rintro user later - free rfl
  refine (assertTransition_follows free).seq ?_
  rintro _ later' - free ⟨rfl, allowed⟩
  have read : ReadProfile (⟨.findUser, .ok user⟩ :: ⟨.findProfileByUserId, .ok (some profile)⟩ :: past)
      (some profile) := .byUser (List.mem_cons_of_mem _ List.mem_cons_self)
  refine (follows_write (.decide isRequest read allowed free) fun _ => rfl).seq fun _ later _ free _ => ?_
  exact (follows_ask rfl free).weaken fun _ _ _ _ => trivial

/-! ## Screening -/

theorem createMatches_follows {checkId : ℕ} {names : List Text} (free : Free past) :
    Follows config request past (createMatches checkId names) fun _ _ => True := by
  unfold createMatches
  split
  · exact ⟨free, trivial⟩
  · exact (follows_ask rfl free).weaken fun _ _ _ _ => trivial

theorem persistChecks_follows (screens : request.screens) (free : Free past) (results : List ScreeningCategoryResult) :
    Follows config request past (persistChecks results) fun _ _ => True := by
  induction results generalizing past with
  | nil => exact ⟨free, trivial⟩
  | cons result rest ih =>
    unfold persistChecks
    refine (follows_write (.createCheck screens free) fun _ => rfl).seq fun _ later _ free _ => ?_
    exact (createMatches_follows free).seq fun _ later _ free _ => ih free

theorem execute_follows {subject : ScreeningSubject} (screens : request.screens) (free : Free past) :
    Follows config request past (execute subject) fun _ _ => True := by
  unfold execute
  refine (follows_ask rfl free).seq fun results later _ free _ => ?_
  refine (persistChecks_follows screens free results).seq fun _ later _ free _ => ?_
  exact (follows_ask rfl free).weaken fun _ _ _ _ => trivial

theorem findComplianceProfile_follows {message : String} (free : Free past) :
    Follows config request past (findComplianceProfile message) fun _ _ => True := by
  unfold findComplianceProfile
  refine (follows_ask rfl free).seq ?_
  rintro (_ | profile) later - free -
  · exact free
  · exact ⟨free, trivial⟩

theorem recomputeRisk_follows (free : Free past) :
    Follows config request past recomputeRisk fun _ _ => True := by
  unfold recomputeRisk
  refine (findComplianceProfile_follows free).seq fun _ later _ free _ => ?_
  exact (follows_ask rfl free).weaken fun _ _ _ _ => trivial

theorem updatePosture_follows {latest : List ScreeningCheck} (free : Free past) :
    Follows config request past (updatePosture latest) fun _ _ => True := by
  unfold updatePosture
  split
  · exact ⟨free, trivial⟩
  · exact (follows_ask rfl free).weaken fun _ _ _ _ => trivial

theorem screenProfile_follows {profile : Option ComplianceProfile} {user : User} (screens : request.screens)
    (free : Free past) : Follows config request past (screenProfile profile user) fun _ _ => True := by
  unfold screenProfile
  refine (execute_follows screens free).seq fun latest later _ free _ => ?_
  split
  · exact ⟨free, trivial⟩
  refine (updatePosture_follows free).seq fun _ later _ free _ => ?_
  exact recomputeRisk_follows free

theorem runScreening_follows {isSystem : Bool} (screens : request.screens) (free : Free past) :
    Follows config request past (runScreening isSystem) fun _ _ => True := by
  unfold runScreening
  refine (follows_ask rfl free).seq fun profile later _ free _ => ?_
  refine (follows_ask rfl free).seq ?_
  rintro (_ | user) later - free -
  · exact free
  refine (attempt_follows (screenProfile_follows screens free)).seq fun _ later _ free _ => ?_
  split
  · exact ⟨free, trivial⟩
  · exact (follows_ask rfl free).weaken fun _ _ _ _ => trivial

theorem decideScreening_follows {checkId : ℕ} {decision : ScreeningDecision}
    (isRequest : request = .decideScreening checkId decision) (free : Free past) :
    Follows config request past (decideScreening checkId decision) fun _ _ => True := by
  unfold decideScreening
  refine (follows_ask rfl free).seq fun check later _ free _ => ?_
  split
  · exact free
  refine (follows_write (.updateCheck isRequest free) fun _ => rfl).seq fun _ later _ free _ => ?_
  refine (follows_ask rfl free).seq fun profile later _ free _ => ?_
  split
  · exact (follows_ask rfl free).weaken fun _ _ _ _ => trivial
  refine (follows_ask rfl free).seq fun latest later _ free _ => ?_
  refine (updatePosture_follows free).seq fun _ later _ free _ => ?_
  refine (recomputeRisk_follows free).seq fun _ later _ free _ => ?_
  exact (follows_ask rfl free).weaken fun _ _ _ _ => trivial

/-! ## Two writes -/

/-- The second of two writes is next, unless the first failed. -/
theorem follows_first {fact : β → Past → Prop} {next : call.Reply → KycM β} (may : May config request past call)
    (rest : ∀ value, Follows config request (⟨call, .ok value⟩ :: past) (next value) fact) :
    Follows config request past (ask call >>= next) fact := by
  have first : (ask call).Obeys (May config request)
      (EndsWith Free fun value later => later = ⟨call, .ok value⟩ :: past) past := by
    refine obeys_answers may (fun failure => ?_) fun value => rfl
    cases call <;> rfl
  refine Obeys.seq first ?_
  rintro value later - rfl
  exact rest value

theorem mirrorRows_follows {provider : Option Text} {input : EnhancedSubmission}
    (isRequest : request = .submitEnhanced input) (free : Free past) :
    Follows config request past (mirrorRows provider) fun _ _ => True := by
  unfold mirrorRows
  refine (follows_ask rfl free).seq ?_
  rintro existing later - free rfl
  split
  · exact ⟨free, trivial⟩
  rename_i checked
  have passes : ∀ profile, existing = some profile → profile.status ≠ .approved := by
    rintro profile rfl
    simpa using checked
  refine follows_first (.mirrorProfile isRequest (.byUser List.mem_cons_self) passes free) fun _ => ?_
  refine (follows_write (.mirrorUser rfl) fun reply => ?_).weaken fun _ _ _ _ => trivial
  cases reply <;> rfl

theorem syncRows_follows {decision : ComplianceDecision} {canOverrideScreening : Bool}
    (isRequest : request = .review decision canOverrideScreening)
    (decided : ⟨.updateProfile (statusPatch decision.outcome.1), .ok ()⟩ ∈ past) (free : Free past) :
    Follows config request past (syncRows config decision.outcome.2) fun _ _ => True := by
  unfold syncRows
  refine follows_first (.syncUser isRequest decided free) fun _ => ?_
  have isFirst : decision.outcome.2 ≠ .pending := by cases decision <;> nofun
  exact (follows_write (.syncProfile rfl isFirst) fun _ => rfl).weaken fun _ _ _ _ => trivial

/-! ## Submissions -/

theorem createEvidences_follows (free : Free past) (types : List EvidenceType) :
    Follows config request past (createEvidences types) fun _ _ => True := by
  induction types generalizing past with
  | nil => exact ⟨free, trivial⟩
  | cons type rest ih =>
    unfold createEvidences
    exact (follows_ask rfl free).seq fun _ later _ free _ => ih free

theorem acceptSubmission_follows {input : EnhancedSubmission} (isRequest : request = .submitEnhanced input)
    (free : Free past) : Follows config request past (acceptSubmission config input) fun _ _ => True := by
  unfold acceptSubmission
  refine (follows_write (.upsertProfile isRequest free) fun _ => rfl).seq fun profile later _ free _ => ?_
  refine (follows_ask rfl free).seq fun _ later _ free _ => ?_
  refine (createEvidences_follows free _).seq fun _ later _ free _ => ?_
  refine (recomputeRisk_follows free).seq fun _ later _ free _ => ?_
  unfold mirrorEnhancedKycToLegacy
  refine (attempt_follows (mirrorRows_follows isRequest free)).seq fun _ later _ free _ => ?_
  exact runScreening_follows (by rw [isRequest]; rfl) free

theorem submitEnhanced_follows {input : EnhancedSubmission} (isRequest : request = .submitEnhanced input)
    (free : Free past) : Follows config request past (submitEnhanced config input) fun _ _ => True := by
  unfold submitEnhanced
  refine (follows_ask rfl free).seq fun user later _ free _ => ?_
  split
  · exact free
  refine (follows_ask rfl free).seq fun existing later _ free _ => ?_
  split
  · exact free
  · exact free
  · exact acceptSubmission_follows isRequest free

/-! ## Reviews -/

theorem ensureApprovable_follows {profile : ComplianceProfile} {canOverrideScreening : Bool} (free : Free past) :
    Follows config request past (ensureApprovable config profile canOverrideScreening) fun _ later =>
      GateRead later .approve canOverrideScreening := by
  unfold ensureApprovable
  split
  · exact free
  refine (follows_ask rfl free).seq ?_
  rintro latest later - free rfl
  split
  · exact free
  rename_i passes
  exact ⟨free, latest, rfl, by simpa using passes⟩

/-- The outcome is stored and copied, and more calls may follow. -/
theorem outcome_follows {decision : ComplianceDecision} {canOverrideScreening : Bool} {next : KycM Unit}
    (isRequest : request = .review decision canOverrideScreening) (gate : GateRead past decision canOverrideScreening)
    (free : Free past)
    (rest : ∀ later, Free later → Follows config request later next fun _ _ => True) :
    Follows config request past (do
      ask (.updateProfile (statusPatch decision.outcome.1))
      syncLegacyKyc config decision.outcome.2
      next) fun _ _ => True := by
  refine (follows_write (.review isRequest gate free) fun _ => rfl).seq ?_
  rintro _ later - free rfl
  unfold syncLegacyKyc
  refine (attempt_follows (syncRows_follows isRequest List.mem_cons_self free)).seq ?_
  exact fun _ later _ free _ => rest later free

theorem review_follows {decision : ComplianceDecision} {canOverrideScreening : Bool}
    (isRequest : request = .review decision canOverrideScreening) (free : Free past) :
    Follows config request past (review config decision canOverrideScreening) fun _ _ => True := by
  unfold review
  refine (findComplianceProfile_follows free).seq fun profile later _ free _ => ?_
  have logs : ∀ later, Free later → Follows config request later (ask .writeAdminLog) fun _ _ => True :=
    fun later free => (follows_ask rfl free).weaken fun _ _ _ _ => trivial
  cases decision with
  | approve =>
    refine (ensureApprovable_follows free).seq fun _ later _ free gate => ?_
    exact outcome_follows isRequest gate free logs
  | requestInfo => exact outcome_follows isRequest trivial free logs
  | reject =>
    refine outcome_follows isRequest trivial free fun later free => ?_
    exact (follows_ask rfl free).seq fun _ later _ free _ => logs later free

/-! ## Requests -/

/-- A request ends midway nowhere. -/
def ends (past : Past) (_ : Except Failure Unit) : Prop := Free past

theorem program_follows (config : Config) (request : Request) :
    Follows config request [] (request.program config) fun _ _ => True := by
  have free : Free [] := rfl
  cases request with
  | submitProfile => exact submitProfile_follows rfl free
  | refreshStatus => exact refreshStatus_follows rfl free
  | handleWebhook input => exact handleWebhook_follows rfl free
  | decide decision => exact decide_follows rfl free
  | submitEnhanced input => exact submitEnhanced_follows rfl free
  | runScreening => exact runScreening_follows rfl free
  | decideScreening checkId decision => exact decideScreening_follows rfl free
  | review decision canOverrideScreening => exact review_follows rfl free

theorem isRequest_obeys (config : Config) (requests : ℕ → Request) (pid : ℕ) (program : KycM Unit)
    (isRequest : IsRequest config requests pid program) : program.Obeys (May config (requests pid)) ends [] := by
  rw [isRequest]
  refine (program_follows config (requests pid)).imp fun past result ended => ?_
  cases result with
  | ok value => exact ended.1
  | error failure => exact ended

end Service
end Exchange.Kyc
