import Exchange.KycService

/-! Enhanced submissions: each is screened, mirrored into the KYC queue, and
reviewed. A review approves only while no check blocks; the outcome is copied
to the user and to the queue. -/
namespace Exchange.Kyc

/-! ## Screening -/

/-- Resolved by an admin in favour of the user. -/
def isResolved (decision : Option ScreeningDecision) : Bool :=
  decision = some .approved || decision = some .falsePositive

def checkPosture (status : ScreeningCheckStatus) (decision : Option ScreeningDecision) : ScreeningStatus :=
  if isResolved decision then .clear
  else match status with
    | .clear => .clear
    | .pending => .pending
    | .possibleMatch => if decision = some .rejected then .hit else .reviewRequired
    | .failed => .reviewRequired
    | .error => .reviewRequired

def isBlocking (status : ScreeningCheckStatus) (decision : Option ScreeningDecision) : Bool :=
  if status = .clear then false
  else if isResolved decision then false
  else true

def ScreeningCheck.blocks (check : ScreeningCheck) : Bool := isBlocking check.status check.decision

structure ScreeningGate where
  blocked : Bool
  blockingCategories : List ScreeningCategory
  deriving DecidableEq, Repr

def computeGate (latest : List ScreeningCheck) : ScreeningGate :=
  let blockingCategories := (latest.filter ScreeningCheck.blocks).map ScreeningCheck.category
  ⟨0 < blockingCategories.length, blockingCategories⟩

/-- The posture of each category that has a check. -/
def posturePatch (latest : List ScreeningCheck) : CompliancePatch :=
  let get := fun category => (latest.find? fun check => check.category = category).map fun check =>
    checkPosture check.status check.decision
  ⟨none, get .sanctions, get .pep, get .adverseMedia⟩

def CompliancePatch.isEmpty (patch : CompliancePatch) : Bool :=
  patch.status.isNone && patch.sanctionsStatus.isNone && patch.pepStatus.isNone && patch.adverseMediaStatus.isNone

namespace Service

/-- Runs a program whose failure does not matter. -/
def attempt (program : KycM Unit) : KycM Unit := tryCatch program fun _ => return ()

def createMatches (checkId : ℕ) (names : List Text) : KycM Unit :=
  if names.isEmpty then return () else ask (.createMatches checkId names)

/-- One check a result, with its matches. -/
def persistChecks : List ScreeningCategoryResult → KycM Unit
  | [] => return ()
  | result :: rest => do
    let checkId ← ask (.createCheck result.category result.status)
    createMatches checkId result.matchNames
    persistChecks rest

def execute (subject : ScreeningSubject) : KycM (List ScreeningCheck) := do
  let results ← ask (.screen subject)
  persistChecks results
  ask .latestChecksByCategory

def findComplianceProfile (message : String) : KycM ComplianceProfile := do
  let found ← ask .findProfile
  match found with
  | some profile => return profile
  | none => throw (.notFoundError message)

/-- The score is stored and assessed; it gates nothing here. -/
def recomputeRisk : KycM Unit := do
  let _ ← findComplianceProfile "Compliance profile not found"
  ask .saveRiskAssessment

def updatePosture (latest : List ScreeningCheck) : KycM Unit :=
  if (posturePatch latest).isEmpty then return () else ask (.updateProfile (posturePatch latest))

def subjectOf (profile : Option ComplianceProfile) (user : User) : ScreeningSubject where
  fullName := profile.bind ComplianceProfile.fullName
  email := user.email
  countryOfResidence := profile.bind ComplianceProfile.countryOfResidence
  nationality := profile.bind ComplianceProfile.nationality

/-- The part whose failure leaves the posture as it is. -/
def screenProfile (profile : Option ComplianceProfile) (user : User) : KycM Unit := do
  let latest ← execute (subjectOf profile user)
  if profile.isNone then return ()
  else do
    updatePosture latest
    recomputeRisk

def runScreening (isSystem : Bool) : KycM Unit := do
  let profile ← ask .findProfile
  let found ← ask .findUser
  match found with
  | none => throw (.notFoundError "User not found")
  | some user => do
    attempt (screenProfile profile user)
    if isSystem then return () else ask .writeAdminLog

def decideScreening (checkId : ℕ) (decision : ScreeningDecision) : KycM Unit := do
  let check ← ask (.findCheck checkId)
  if check.isNone then throw (.notFoundError "Screening check not found")
  else do
    ask (.updateCheck checkId decision)
    let profile ← ask .findProfile
    if profile.isNone then ask .writeAdminLog
    else do
      let latest ← ask .latestChecksByCategory
      updatePosture latest
      recomputeRisk
      ask .writeAdminLog

/-! ## The mirror in the KYC queue -/

def mirrorRows (provider : Option Text) : KycM Unit := do
  let existing ← ask .findProfileByUserId
  if existing.any fun profile => profile.status = .approved then return ()
  else do
    ask (.mirrorProfile provider)
    ask (.setUserKyc .pending none)

/-- Never downgrades what is approved; a failure does not matter. -/
def mirrorEnhancedKycToLegacy (profile : ComplianceProfile) : KycM Unit := attempt (mirrorRows profile.kycProvider)

variable (config : Config)

/-- The tier that comes with a status. -/
def syncedTier (status : KycStatus) : Option ℕ :=
  if status = .approved then some config.defaultApprovedTier else none

def syncRows (status : KycStatus) : KycM Unit := do
  ask (.setUserKyc status (syncedTier config status))
  ask (.updateManyProfiles status)

def syncLegacyKyc (status : KycStatus) : KycM Unit := attempt (syncRows config status)

/-! ## Submission -/

def createEvidences : List EvidenceType → KycM Unit
  | [] => return ()
  | type :: rest => do
    ask (.createEvidence type)
    createEvidences rest

def evidenceOf (input : EnhancedSubmission) : List EvidenceType :=
  [.pan, .address, .geolocation, .device, .consent] ++ if input.hasAadhaar then [.aadhaar] else []

/-- What is done with a submission that is accepted. -/
def acceptSubmission (input : EnhancedSubmission) : KycM Unit := do
  let profile ← ask (.upsertProfile (submittedProfile input config.livenessProviderName))
  ask .createConsents
  createEvidences (evidenceOf input)
  recomputeRisk
  mirrorEnhancedKycToLegacy profile
  runScreening true

def submitEnhanced (input : EnhancedSubmission) : KycM Unit := do
  let user ← ask .findUser
  if user.isNone then throw (.notFoundError "User not found")
  else do
    let existing ← ask .findProfile
    match existing.map ComplianceProfile.status with
    | some .approved => throw (.conflictError "Compliance KYC is already approved" "COMPLIANCE_ALREADY_APPROVED")
    | some .underReview => throw (.conflictError "Compliance KYC is already under review" "COMPLIANCE_IN_REVIEW")
    | _ => acceptSubmission config input

/-! ## Review -/

inductive ComplianceDecision where
  | approve
  | requestInfo
  | reject
  deriving DecidableEq, Repr

def blockedMessage (gate : ScreeningGate) : String :=
  "Screening must be resolved before approval (blocking: " ++
    ", ".intercalate (gate.blockingCategories.map ScreeningCategory.name) ++ ")"

/-- An approval needs the gate open, or the permission to override it. -/
def ensureApprovable (profile : ComplianceProfile) (canOverrideScreening : Bool) : KycM Unit :=
  if config.requireSanctionsBeforeApproval && profile.sanctionsStatus = .notScreened then
    throw (.badRequestError "Sanctions screening is required before approval")
  else do
    let latest ← ask .latestChecksByCategory
    if (computeGate latest).blocked && !canOverrideScreening then
      throw (.badRequestError (blockedMessage (computeGate latest)))
    else return ()

def approve (profile : ComplianceProfile) (canOverrideScreening : Bool) : KycM Unit := do
  ensureApprovable config profile canOverrideScreening
  ask (.updateProfile (statusPatch .approved))
  syncLegacyKyc config .approved
  ask .writeAdminLog

def requestInfo : KycM Unit := do
  ask (.updateProfile (statusPatch .needsMoreInfo))
  syncLegacyKyc config .needsMoreInfo
  ask .writeAdminLog

def reject : KycM Unit := do
  ask (.updateProfile (statusPatch .rejected))
  syncLegacyKyc config .rejected
  ask .saveRiskAssessment
  ask .writeAdminLog

def review (decision : ComplianceDecision) (canOverrideScreening : Bool) : KycM Unit := do
  let profile ← findComplianceProfile "Compliance profile not found"
  match decision with
  | .approve => approve config profile canOverrideScreening
  | .requestInfo => requestInfo config
  | .reject => reject config

/-! ## Requests -/

inductive Request where
  | submitProfile
  | refreshStatus
  | handleWebhook (input : KycWebhookInput)
  | decide (decision : KycDecision)
  | submitEnhanced (input : EnhancedSubmission)
  | runScreening
  | decideScreening (checkId : ℕ) (decision : ScreeningDecision)
  | review (decision : ComplianceDecision) (canOverrideScreening : Bool)
  deriving DecidableEq, Repr

def Request.program : Request → KycM Unit
  | .submitProfile => Service.submitProfile
  | .refreshStatus => Service.refreshStatus config
  | .handleWebhook input => Service.handleWebhook config input
  | .decide decision => Service.decide config decision
  | .submitEnhanced input => Service.submitEnhanced config input
  | .runScreening => Service.runScreening false
  | .decideScreening checkId decision => Service.decideScreening checkId decision
  | .review decision canOverrideScreening => Service.review config decision canOverrideScreening

/-- The request of each number. -/
def IsRequest (requests : ℕ → Request) (pid : ℕ) (program : KycM Unit) : Prop :=
  program = (requests pid).program config

end Service
end Exchange.Kyc
