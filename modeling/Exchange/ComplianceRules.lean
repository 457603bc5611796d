import Exchange.MonitoringService

/-! Which calls the requests make. The level of a profile is written by an admin,
or as the score of what the request has read just before; no other call sets it.
An alert is in no case when it is created. -/
namespace Exchange.Compliance.Service
open Async
open Kyc (ScreeningDecision ScreeningCategoryResult ScreeningCheck posturePatch)

/-- The calls a request has made, latest first. -/
abbrev Past := List (Answered ComplianceCall ComplianceCall.Reply Failure)

/-- The first calls of a request. -/
def firstCalls (n : ℕ) (past : Past) : Past := past.drop (past.length - n)

/-- What comes after them does not change them. -/
theorem firstCalls_cons {n : ℕ} {past : Past} (made : Answered ComplianceCall ComplianceCall.Reply Failure)
    (enough : n ≤ past.length) : firstCalls n (made :: past) = firstCalls n past := by
  have shift : (made :: past).length - n = past.length - n + 1 := by
    rw [List.length_cons]
    omega
  rw [firstCalls, shift, List.drop_succ_cons, ← firstCalls]

theorem firstCalls_grow {n : ℕ} {past later : Past} (grown : past <:+ later) (enough : n ≤ past.length) :
    firstCalls n later = firstCalls n past := by
  obtain ⟨made, rfl⟩ := grown
  induction made with
  | nil => rfl
  | cons last made ih =>
    rw [List.cons_append, firstCalls_cons last, ih]
    rw [List.length_append]
    omega

theorem firstCalls_length (n : ℕ) (past : Past) : (firstCalls n past).length = min n past.length := by
  rw [firstCalls, List.length_drop]
  omega

theorem firstCalls_all {n : ℕ} {past : Past} (few : past.length ≤ n) : firstCalls n past = past := by
  rw [firstCalls, Nat.sub_eq_zero_of_le few, List.drop_zero]

abbrev History := Logged ℕ ComplianceCall ComplianceCall.Reply Failure Store

abbrev CompliancePool := Pool ℕ ComplianceCall ComplianceCall.Reply Failure Unit History

abbrev Event := ℕ × Answered ComplianceCall ComplianceCall.Reply Failure

/-- Calls of all requests, one at a time. -/
def interleaved (pid : ℕ) (call : ComplianceCall) (x : History) (reply : Except Failure call.Reply) (s' : Store) : Prop :=
  Makes pid call x.store reply s'

/-- What a request has read to score a user. -/
def signalsOf (userId : UserId) : Past → Option RiskScoreInput
  | ⟨.countOpenHighRiskCases a, .ok cases⟩ :: ⟨.countRejections b, .ok rejections⟩ ::
      ⟨.findProfile c, .ok (some profile)⟩ :: _ =>
    if a = userId ∧ b = userId ∧ c = userId then some (riskInput profile rejections cases) else none
  | _ => none

/-- The level that a write sets. -/
def ProfileUpdate.level? : ProfileUpdate → Option ComplianceRiskLevel
  | .scored result => some result.level
  | .override level _ _ => some level
  | _ => none

/-- Calls that set no level, and create no alert in a case. -/
def isFree : ComplianceCall → Bool
  | .createAlert _ alert => alert.caseId.isNone
  | .upsertProfile _ update => (ProfileUpdate.level? update).isNone
  | .updateProfile _ update => (ProfileUpdate.level? update).isNone
  | _ => true

/-- Calls that open a case, raise it and link alerts to it. -/
def isCaseCall : ComplianceCall → Bool
  | .findCase _ => true
  | .createCase _ _ => true
  | .raiseCase _ => true
  | .linkAlert _ _ => true
  | .append _ => true
  | _ => false

/-- The calls a request may make. -/
inductive May (config : Config) (past : Past) : ComplianceCall → Prop
  | free {call : ComplianceCall} (free : isFree call) : May config past call
  | scored {userId : UserId} {input : RiskScoreInput} (read : signalsOf userId past = some input) :
      May config past (.updateProfile userId (.scored (scoreCustomerRisk input config.risk)))
  | override {userId : UserId} {level : ComplianceRiskLevel} {score : ℕ} {reason : Option String} :
      May config past (.updateProfile userId (.override level score reason))

variable {config : Config} {past : Past} {userId : UserId}

theorem attempt_lawful {program : ComplianceM Unit} (body : Lawful (May config) past program) :
    Lawful (May config) past (attempt program) :=
  lawful_catch body fun _ _ => trivial

theorem append_lawful (table : AppendOnly) : Lawful (May config) past (ask (.append table)) :=
  lawful_ask (.free rfl)

theorem findUserOr_lawful : Lawful (May config) past (findUserOr userId) := by
  refine lawful_call (.free rfl) fun found => ?_
  cases found with
  | true => trivial
  | false => trivial

theorem findProfileOr_bind {α : Type} {message : String} {next : ComplianceProfile → ComplianceM α}
    (rest : ∀ profile, Lawful (May config) (⟨.findProfile userId, .ok (some profile)⟩ :: past) (next profile)) :
    Lawful (May config) past (findProfileOr message userId >>= next) := by
  refine ⟨.free rfl, fun reply => ?_⟩
  rcases reply with failure | (_ | profile)
  · trivial
  · trivial
  · exact rest profile

theorem findCaseOr_lawful (id : CaseId) : Lawful (May config) past (findCaseOr id) := by
  refine lawful_call (.free rfl) fun found => ?_
  cases found with
  | none => trivial
  | some case => trivial

theorem findAlertOr_lawful (key : AlertKey) : Lawful (May config) past (findAlertOr key) := by
  refine lawful_call (.free rfl) fun found => ?_
  cases found with
  | none => trivial
  | some alert => trivial

/-! ## Risk -/

/-- The three reads before a score are of the user whose score it is. -/
theorem recomputeRisk_lawful (source : RiskAssessmentSource) :
    Lawful (May config) past (recomputeRisk config userId source) := by
  refine findProfileOr_bind fun profile => lawful_call (.free rfl) fun rejections => lawful_call (.free rfl) fun cases => ?_
  exact lawful_call (.scored (by simp [signalsOf])) fun _ => lawful_ask (.free rfl)

theorem safeRecomputeRisk_lawful : Lawful (May config) past (safeRecomputeRisk config userId) := by
  refine attempt_lawful (lawful_call (.free rfl) fun signals => ?_)
  cases signals with
  | none => trivial
  | some profile => exact recomputeRisk_lawful .transaction

theorem setRisk_lawful (level : ComplianceRiskLevel) (score : Option ℕ) (reason : Option String) :
    Lawful (May config) past (setRisk userId level score reason) := by
  refine findProfileOr_bind fun profile => ?_
  exact lawful_call .override fun _ => lawful_call (.free rfl) fun _ => append_lawful _

/-! ## Liveness -/

theorem startLiveness_lawful : Lawful (May config) past (startLiveness userId) :=
  lawful_bind findUserOr_lawful fun _ _ => lawful_call (.free rfl) fun _ =>
    lawful_call (.free rfl) fun _ => append_lawful _

theorem verifyLiveness_lawful : Lawful (May config) past (verifyLiveness config userId) := by
  refine findProfileOr_bind fun _ => lawful_call (.free rfl) fun status => lawful_call (.free rfl) fun _ => ?_
  exact lawful_call (.free rfl) fun _ => recomputeRisk_lawful .kyc

/-! ## Screening -/

theorem persistChecks_lawful (results : List ScreeningCategoryResult) :
    Lawful (May config) past (persistChecks userId results) := by
  induction results generalizing past with
  | nil => trivial
  | cons result rest ih =>
    refine lawful_call (.free rfl) fun _ => lawful_bind ?_ fun _ _ => ih
    unfold createMatches
    split
    · trivial
    · exact append_lawful _

theorem updatePosture_lawful (latest : List ScreeningCheck) :
    Lawful (May config) past (updatePosture userId latest) := by
  unfold updatePosture
  split
  · trivial
  · exact lawful_ask (.free rfl)

theorem screenProfile_lawful (profile : Option ComplianceProfile) :
    Lawful (May config) past (screenProfile config userId profile) := by
  refine lawful_bind ?_ fun latest later => ?_
  · exact lawful_call (.free rfl) fun results => lawful_bind (persistChecks_lawful results) fun _ _ =>
      lawful_ask (.free rfl)
  · split
    · trivial
    · exact lawful_bind (updatePosture_lawful latest) fun _ _ => recomputeRisk_lawful .screening

theorem runScreening_lawful (isSystem : Bool) : Lawful (May config) past (runScreening config userId isSystem) := by
  refine lawful_call (.free rfl) fun profile => lawful_bind findUserOr_lawful fun _ _ => ?_
  refine lawful_bind (attempt_lawful (screenProfile_lawful profile)) fun _ _ => ?_
  cases isSystem with
  | true => trivial
  | false => exact append_lawful _

theorem refreshPosture_lawful : Lawful (May config) past (refreshPosture config userId) := by
  refine lawful_call (.free rfl) fun profile => ?_
  cases profile with
  | none => trivial
  | some profile =>
    refine lawful_call (.free rfl) fun latest => ?_
    exact lawful_bind (updatePosture_lawful latest) fun _ _ => recomputeRisk_lawful .screening

theorem decideScreening_lawful (checkId : ℕ) (decision : ScreeningDecision) :
    Lawful (May config) past (decideScreening config userId checkId decision) := by
  refine lawful_call (.free rfl) fun check => ?_
  split
  · exact lawful_call (.free rfl) fun _ => lawful_bind refreshPosture_lawful fun _ _ => append_lawful _
  · trivial

/-! ## Submissions and reviews -/

theorem appendAll_lawful (n : ℕ) (table : AppendOnly) : Lawful (May config) past (appendAll n table) := by
  induction n generalizing past with
  | zero => trivial
  | succ n ih => exact lawful_call (.free rfl) fun _ => ih

theorem acceptSubmission_lawful (input : EnhancedSubmission) :
    Lawful (May config) past (acceptSubmission config userId input) :=
  lawful_call (.free rfl) fun _ => lawful_call (.free rfl) fun _ => lawful_bind (appendAll_lawful _ _) fun _ _ =>
    lawful_bind (recomputeRisk_lawful .kyc) fun _ _ => runScreening_lawful true

theorem submitEnhanced_lawful (input : EnhancedSubmission) :
    Lawful (May config) past (submitEnhanced config userId input) := by
  refine lawful_bind findUserOr_lawful fun _ _ => lawful_call (.free rfl) fun existing => ?_
  split
  · trivial
  · trivial
  · exact acceptSubmission_lawful input

theorem ensureApprovable_lawful (profile : ComplianceProfile) (canOverrideScreening : Bool) :
    Lawful (May config) past (ensureApprovable config userId profile canOverrideScreening) := by
  unfold ensureApprovable
  split
  · trivial
  · refine lawful_call (.free rfl) fun latest => ?_
    split
    · trivial
    · trivial

theorem review_lawful (decision : ComplianceDecision) (reason : Option String) (canOverrideScreening : Bool) :
    Lawful (May config) past (review config userId decision reason canOverrideScreening) := by
  refine findProfileOr_bind fun profile => ?_
  cases decision with
  | approve =>
    exact lawful_bind (ensureApprovable_lawful profile canOverrideScreening) fun _ _ =>
      lawful_call (.free rfl) fun _ => append_lawful _
  | requestInfo => exact lawful_call (.free rfl) fun _ => append_lawful _
  | reject => exact lawful_call (.free rfl) fun _ => lawful_call (.free rfl) fun _ => append_lawful _

/-! ## Alerts and cases -/

theorem linkAlertInternal_lawful (caseId : CaseId) (key : AlertKey) :
    Lawful (May config) past (linkAlertInternal caseId userId key) := by
  refine lawful_bind (findAlertOr_lawful key) fun alert _ => ?_
  split
  · exact lawful_call (.free rfl) fun _ => append_lawful _
  · trivial

theorem linkAlert_lawful (key : AlertKey) (caseId : CaseId) : Lawful (May config) past (linkAlert key caseId) :=
  lawful_bind (findCaseOr_lawful caseId) fun _ _ => lawful_bind (linkAlertInternal_lawful caseId key) fun _ _ =>
    append_lawful _

theorem linkAlerts_lawful (caseId : CaseId) (alerts : List AlertKey) :
    Lawful (May config) past (linkAlerts caseId userId alerts) := by
  induction alerts generalizing past with
  | nil => trivial
  | cons key rest ih => exact lawful_bind (linkAlertInternal_lawful caseId key) fun _ _ => ih

theorem setAlertStatus_lawful (key : AlertKey) (status : ComplianceAlertStatus) :
    Lawful (May config) past (setAlertStatus key status) := by
  refine lawful_bind (findAlertOr_lawful key) fun alert _ => lawful_call (.free rfl) fun _ => ?_
  split
  · exact append_lawful _
  · trivial

theorem createCase_lawful (pid : ℕ) (type : ComplianceCaseType) (priority : ComplianceCasePriority)
    (alerts : List AlertKey) : Lawful (May config) past (createCase config pid userId type priority alerts) := by
  refine lawful_bind findUserOr_lawful fun _ _ => lawful_call (.free rfl) fun _ => ?_
  refine lawful_call (.free rfl) fun _ => lawful_bind (linkAlerts_lawful _ alerts) fun _ _ => ?_
  refine lawful_call (.free rfl) fun _ => ?_
  split
  · exact safeRecomputeRisk_lawful
  · trivial

theorem setCaseStatus_lawful (id : CaseId) (status : ComplianceCaseStatus) (hasNote : Bool) :
    Lawful (May config) past (setCaseStatus config id status hasNote) := by
  refine lawful_bind (findCaseOr_lawful id) fun found _ => lawful_call (.free rfl) fun _ => ?_
  refine lawful_call (.free rfl) fun _ => lawful_bind ?_ fun _ _ => lawful_call (.free rfl) fun _ => ?_
  · unfold addNote
    split
    · exact append_lawful _
    · trivial
  · split
    · exact safeRecomputeRisk_lawful
    · trivial

/-! ## Monitoring -/

theorem raiseAlerts_lawful (candidates : List AlertCandidate) :
    Lawful (May config) past (raiseAlerts userId candidates) := by
  induction candidates generalizing past with
  | nil => trivial
  | cons c rest ih =>
    refine lawful_bind (lawful_call (.free rfl) fun existing => ?_) fun upserted _ => ?_
    · cases existing with
      | none => exact lawful_call (.free rfl) fun _ => trivial
      | some alert => trivial
    · refine lawful_bind ih fun later _ => ?_
      split
      · trivial
      · trivial

theorem findOrCreateCase_lawful (id : CaseId) (case : ComplianceCase) :
    Lawful (fun _ call => isCaseCall call) past (findOrCreateCase id case) := by
  refine lawful_call rfl fun found => ?_
  cases found with
  | none => exact lawful_call rfl fun _ => lawful_call rfl fun _ => trivial
  | some found => trivial

theorem linkNew_lawful (caseId : CaseId) (alerts : List (AlertKey × ComplianceAlert)) :
    Lawful (fun _ call => isCaseCall call) past (linkNew caseId alerts) := by
  induction alerts generalizing past with
  | nil => trivial
  | cons alert rest ih => exact lawful_call rfl fun _ => lawful_call rfl fun _ => ih

theorem attachNew_lawful (alerts : List (AlertKey × ComplianceAlert)) (now : Time) :
    Lawful (fun _ call => isCaseCall call) past (attachNew userId alerts now) := by
  unfold attachNew
  split
  · trivial
  · refine lawful_bind (findOrCreateCase_lawful _ _) fun found _ => lawful_bind (linkNew_lawful _ alerts) fun _ _ => ?_
    split
    · exact lawful_ask rfl
    · trivial

theorem free_of_isCaseCall {call : ComplianceCall} (isCase : isCaseCall call) : isFree call := by
  cases call <;> first | rfl | cases isCase

theorem escalate_lawful (candidates : List AlertCandidate) (now : Time) :
    Lawful (May config) past (escalate config userId candidates now) := by
  refine lawful_bind (raiseAlerts_lawful candidates) fun newHighAlerts _ => lawful_bind ?_ fun _ _ =>
    safeRecomputeRisk_lawful
  exact (attachNew_lawful newHighAlerts now).allow fun _ _ isCase => .free (free_of_isCaseCall isCase)

theorem runForUser_lawful : Lawful (May config) past (runForUser config userId) := by
  refine lawful_call (.free rfl) fun now => attempt_lawful ?_
  refine lawful_bind ?_ fun activity _ => lawful_call (.free rfl) fun signals => ?_
  · exact lawful_call (.free rfl) fun _ => lawful_call (.free rfl) fun _ => lawful_call (.free rfl) fun _ =>
      lawful_call (.free rfl) fun _ => trivial
  · dsimp only
    split
    · trivial
    · exact escalate_lawful _ now

theorem runEach_lawful (userIds : List UserId) : Lawful (May config) past (runEach config userIds) := by
  induction userIds generalizing past with
  | nil => trivial
  | cons userId rest ih => exact lawful_bind runForUser_lawful fun _ _ => ih

theorem runAll_lawful : Lawful (May config) past (runAll config) := by
  refine lawful_call (.free rfl) fun now => lawful_bind ?_ fun userIds _ => runEach_lawful userIds
  exact lawful_call (.free rfl) fun _ => lawful_call (.free rfl) fun _ => lawful_call (.free rfl) fun _ =>
    lawful_call (.free rfl) fun _ => lawful_call (.free rfl) fun _ => trivial

/-! ## Wallets -/

theorem raiseAlertAndCase_lawful (input : RunWalletRiskInput) (assessment : WalletRiskAssessment) (day : Day) :
    Lawful (May config) past (raiseAlertAndCase input userId assessment day) := by
  refine lawful_bind (lawful_call (.free rfl) fun existing => ?_) fun _ _ => lawful_bind ?_ fun _ _ => append_lawful _
  · cases existing with
    | none => exact lawful_call (.free rfl) fun _ => trivial
    | some alert => trivial
  · unfold linkToWalletCase
    split
    · refine lawful_bind ((findOrCreateCase_lawful _ _).allow fun _ _ isCase => .free (free_of_isCaseCall isCase)) ?_
      exact fun _ _ => lawful_call (.free rfl) fun _ => append_lawful _
    · trivial

theorem recordCheck_lawful (input : RunWalletRiskInput) (day : Day) (assessment : WalletRiskAssessment) :
    Lawful (May config) past (recordCheck input day assessment) := by
  refine lawful_call (.free rfl) fun _ => lawful_call (.free rfl) fun _ => lawful_bind ?_ fun upserted _ => ?_
  · refine lawful_call (.free rfl) fun existing => ?_
    cases existing with
    | none => exact lawful_call (.free rfl) fun _ => trivial
    | some check => trivial
  · refine lawful_call (.free rfl) fun _ => lawful_call (.free rfl) fun _ => ?_
    cases input.userId with
    | none => trivial
    | some userId =>
      change Lawful _ _ (if _ then _ else _)
      split
      · exact raiseAlertAndCase_lawful input _ _
      · trivial

theorem runCheck_lawful (input : RunWalletRiskInput) : Lawful (May config) past (runCheck input) := by
  refine lawful_call (.free rfl) fun now => lawful_bind ?_ fun assessment _ => recordCheck_lawful input _ assessment
  exact lawful_catch (lawful_ask (.free rfl)) fun _ _ => trivial

theorem isRequest_obeys (requests : ℕ → Request) (pid : ℕ) (program : ComplianceM Unit)
    (isRequest : IsRequest config requests pid program) : Lawful (May config) [] program := by
  cases isRequest
  cases requests pid with
  | startLiveness userId => exact startLiveness_lawful
  | verifyLiveness userId => exact verifyLiveness_lawful
  | submitEnhanced userId input => exact submitEnhanced_lawful input
  | runScreening userId isSystem => exact runScreening_lawful isSystem
  | decideScreening userId checkId decision => exact decideScreening_lawful checkId decision
  | review userId decision reason canOverride => exact review_lawful decision reason canOverride
  | setRisk userId level score reason => exact setRisk_lawful level score reason
  | createCase userId type priority alerts => exact createCase_lawful pid type priority alerts
  | setCaseStatus id status hasNote => exact setCaseStatus_lawful id status hasNote
  | linkAlert key caseId => exact linkAlert_lawful key caseId
  | setAlertStatus key status => exact setAlertStatus_lawful key status
  | runForUser userId => exact runForUser_lawful
  | runAll => exact runAll_lawful
  | runCheck input => exact runCheck_lawful input
  | move movements => exact lawful_ask (.free rfl)

end Exchange.Compliance.Service
