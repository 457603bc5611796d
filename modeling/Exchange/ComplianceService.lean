import Exchange.ComplianceRepository

/-! What users, admins and the system do to a compliance profile: liveness,
submissions, screening, reviews. Nearly every operation ends by scoring the
customer again; an admin may also set the level by hand. -/
namespace Exchange.Compliance
open Kyc (ComplianceKycStatus ScreeningDecision ScreeningCheck ScreeningCategoryResult posturePatch computeGate)

structure Config where
  risk : RiskScoreConfig
  monitoring : MonitoringConfig

inductive ComplianceDecision where
  | approve
  | reject
  | requestInfo
  deriving DecidableEq, Repr

namespace Service

/-- Runs a program whose failure does not matter. -/
def attempt (program : ComplianceM Unit) : ComplianceM Unit := tryCatch program fun _ => return ()

def findProfileOr (message : String) (userId : UserId) : ComplianceM ComplianceProfile := do
  let found ← ask (.findProfile userId)
  match found with
  | some profile => return profile
  | none => throw (.notFoundError message)

def findUserOr (userId : UserId) : ComplianceM Unit := do
  let found ← ask (.findUserBasic userId)
  if found then return () else throw (.notFoundError "User not found")

/-! ## Risk -/

def present (text : Option Text) : Bool := text.any fun text => !text.isEmpty

/-- What the score is computed from. No caller passes a flag. -/
def riskInput (profile : ComplianceProfile) (rejectionCount openHighRiskCaseCount : ℕ) : RiskScoreInput where
  countryOfResidence := profile.countryOfResidence
  hasPan := present profile.panLast4
  hasAadhaar := present profile.aadhaarLast4
  livenessStatus := profile.livenessStatus
  sanctionsStatus := profile.sanctionsStatus
  pepStatus := profile.pepStatus
  adverseMediaStatus := profile.adverseMediaStatus
  rejectionCount := rejectionCount
  adminFlag := .none
  geoCaptured := profile.geoCaptureStatus = .captured || profile.geoCaptureStatus = .partly
  openHighRiskCaseCount := openHighRiskCaseCount

variable (config : Config)

def recomputeRisk (userId : UserId) (source : RiskAssessmentSource) : ComplianceM Unit := do
  let profile ← findProfileOr "Compliance profile not found" userId
  let rejectionCount ← ask (.countRejections userId)
  let openHighRiskCaseCount ← ask (.countOpenHighRiskCases userId)
  let result := scoreCustomerRisk (riskInput profile rejectionCount openHighRiskCaseCount) config.risk
  ask (.updateProfile userId (.scored result))
  ask (.createRiskAssessment ⟨userId, result.score, result.level, result.reasons.map RiskReason.code, source⟩)

/-- Of cases and of monitoring: nothing without a profile. -/
def safeRecomputeRisk (userId : UserId) : ComplianceM Unit :=
  attempt do
    let signals ← ask (.findProfileSignals userId)
    if signals.isNone then return () else recomputeRisk config userId .transaction

/-- By an admin. -/
def setRisk (userId : UserId) (level : ComplianceRiskLevel) (score : Option ℕ) (reason : Option String) :
    ComplianceM Unit := do
  let profile ← findProfileOr "Compliance profile not found" userId
  let score := score.getD profile.riskScore
  ask (.updateProfile userId (.override level score (reason.orElse fun _ => profile.riskReason)))
  ask (.createRiskAssessment ⟨userId, score, level, ["ADMIN_OVERRIDE"], .admin⟩)
  ask (.append .adminLog)

/-! ## Liveness -/

def startLiveness (userId : UserId) : ComplianceM Unit := do
  findUserOr userId
  ask .createSession
  ask (.upsertProfile userId .startLiveness)
  ask (.append .evidence)

def verifyLiveness (userId : UserId) : ComplianceM Unit := do
  let _ ← findProfileOr "No compliance profile; start liveness first" userId
  let livenessStatus ← ask .verifySession
  ask (.updateProfile userId (.liveness livenessStatus))
  ask (.append .evidence)
  recomputeRisk config userId .kyc

/-! ## Screening -/

def createMatches (names : List Text) : ComplianceM Unit :=
  if names.isEmpty then return () else ask (.append .matches)

def persistChecks (userId : UserId) : List ScreeningCategoryResult → ComplianceM Unit
  | [] => return ()
  | result :: rest => do
    let _ ← ask (.createCheck userId result.category result.status)
    createMatches result.matchNames
    persistChecks userId rest

def execute (userId : UserId) : ComplianceM (List ScreeningCheck) := do
  let results ← ask (.screen userId)
  persistChecks userId results
  ask (.latestByCategory userId)

def updatePosture (userId : UserId) (latest : List ScreeningCheck) : ComplianceM Unit :=
  if (posturePatch latest).isEmpty then return () else ask (.updateProfile userId (.posture (posturePatch latest)))

/-- The part whose failure is logged. -/
def screenProfile (userId : UserId) (profile : Option ComplianceProfile) : ComplianceM Unit := do
  let latest ← execute userId
  if profile.isNone then return ()
  else do
    updatePosture userId latest
    recomputeRisk config userId .screening

def runScreening (userId : UserId) (isSystem : Bool) : ComplianceM Unit := do
  let profile ← ask (.findProfile userId)
  findUserOr userId
  attempt (screenProfile config userId profile)
  if isSystem then return () else ask (.append .adminLog)

/-- The posture follows the latest checks, and the score the posture. -/
def refreshPosture (userId : UserId) : ComplianceM Unit := do
  let profile ← ask (.findProfile userId)
  if profile.isNone then return ()
  else do
    let latest ← ask (.latestByCategory userId)
    updatePosture userId latest
    recomputeRisk config userId .screening

def decideScreening (userId : UserId) (checkId : ℕ) (decision : ScreeningDecision) : ComplianceM Unit := do
  let check ← ask (.findCheck checkId)
  if check.any fun row => row.1 = userId then do
    ask (.updateCheck checkId decision)
    refreshPosture config userId
    ask (.append .adminLog)
  else throw (.notFoundError "Screening check not found")

/-! ## Submissions and reviews -/

def appendAll : ℕ → AppendOnly → ComplianceM Unit
  | 0, _ => return ()
  | n + 1, table => do
    ask (.append table)
    appendAll n table

def evidenceCount (input : EnhancedSubmission) : ℕ := if present input.aadhaar then 6 else 5

def acceptSubmission (userId : UserId) (input : EnhancedSubmission) : ComplianceM Unit := do
  ask (.upsertProfile userId (.submission input))
  ask (.append .consents)
  appendAll (evidenceCount input) .evidence
  recomputeRisk config userId .kyc
  runScreening config userId true

def submitEnhanced (userId : UserId) (input : EnhancedSubmission) : ComplianceM Unit := do
  findUserOr userId
  let existing ← ask (.findProfile userId)
  match existing.map ComplianceProfile.status with
  | some .approved => throw (.conflictError "Compliance KYC is already approved" "COMPLIANCE_ALREADY_APPROVED")
  | some .underReview => throw (.conflictError "Compliance KYC is already under review" "COMPLIANCE_IN_REVIEW")
  | _ => acceptSubmission config userId input

/-- Approval is refused while screening is missing, or blocks and may not be
overridden. -/
def ensureApprovable (userId : UserId) (profile : ComplianceProfile) (canOverrideScreening : Bool) : ComplianceM Unit :=
  if config.risk.requireSanctionsBeforeApproval && profile.sanctionsStatus = .notScreened then
    throw (.badRequestError "Sanctions screening is required before approval")
  else do
    let latest ← ask (.latestByCategory userId)
    if (computeGate latest).blocked && !canOverrideScreening then
      throw (.badRequestError (Kyc.Service.blockedMessage (computeGate latest)))
    else return ()

def review (userId : UserId) (decision : ComplianceDecision) (reason : Option String) (canOverrideScreening : Bool) :
    ComplianceM Unit := do
  let profile ← findProfileOr "Compliance profile not found" userId
  match decision with
  | .approve => do
    ensureApprovable config userId profile canOverrideScreening
    ask (.updateProfile userId (.reviewed .approved none))
    ask (.append .adminLog)
  | .requestInfo => do
    ask (.updateProfile userId (.reviewed .needsMoreInfo (some (reason.getD "Additional information required"))))
    ask (.append .adminLog)
  | .reject => do
    ask (.updateProfile userId (.reviewed .rejected (some (reason.getD "Rejected"))))
    ask (.createRiskAssessment ⟨userId, profile.riskScore, profile.riskLevel, ["KYC_REJECTED"], .admin⟩)
    ask (.append .adminLog)

end Service
end Exchange.Compliance
