import Exchange.KycRepository

/-! The KYC queue: a user submits a profile and is verified at a provider, whose
results come by webhook or when they are asked for; an admin may decide. Each
change of status is checked against the row that was read before. -/
namespace Exchange.Kyc

/-- A webhook as it was sent. -/
structure KycWebhookInput where
  rawBody : Option Text
  signature : Option Text
  deriving DecidableEq, Repr

/-- A webhook whose signature was right. -/
structure KycWebhookEvent where
  providerEventId : Text
  providerSessionId : Option Text
  providerApplicantId : Option Text
  status : KycVerificationStatus
  deriving DecidableEq, Repr

structure Config where
  providerName : Text
  livenessProviderName : Text
  defaultApprovedTier : ℕ
  requireSanctionsBeforeApproval : Bool
  /-- At the provider: the event, where the signature is right. -/
  verifyWebhook : KycWebhookInput → Option KycWebhookEvent

/-! ## The status machine -/

def KYC_TRANSITIONS : KycStatus → List KycStatus
  | .notStarted => [.pending]
  | .pending => [.inReview, .manualReview, .needsMoreInfo, .approved, .rejected]
  | .inReview => [.manualReview, .needsMoreInfo, .approved, .rejected]
  | .manualReview => [.needsMoreInfo, .approved, .rejected]
  | .needsMoreInfo => [.pending, .approved, .rejected]
  | .rejected => [.pending]
  | .approved => []

def canTransition (source target : KycStatus) : Bool := source = target || target ∈ KYC_TRANSITIONS source

def KycStatus.name : KycStatus → String
  | .notStarted => "NOT_STARTED"
  | .pending => "PENDING"
  | .inReview => "IN_REVIEW"
  | .manualReview => "MANUAL_REVIEW"
  | .needsMoreInfo => "NEEDS_MORE_INFO"
  | .approved => "APPROVED"
  | .rejected => "REJECTED"

namespace Service

def assertTransition (source target : KycStatus) : KycM Unit :=
  if canTransition source target then return ()
  else throw (.conflictError
    ("Illegal KYC status transition: " ++ KycStatus.name source ++ " -> " ++ KycStatus.name target)
    "KYC_INVALID_TRANSITION")

def mapProviderStatusToKyc : KycVerificationStatus → KycStatus
  | .pending => .pending
  | .inReview => .inReview
  | .approved => .approved
  | .rejected => .rejected
  | .manualReview => .manualReview

variable (config : Config)

/-! ## The user -/

def submitProfile : KycM Unit := do
  let found ← ask .findUser
  match found with
  | none => throw (.notFoundError "User not found")
  | some user => do
    if user.kycStatus = .approved then throw (.conflictError "KYC is already approved" "KYC_ALREADY_APPROVED")
    else do
      let existing ← ask .findProfileByUserId
      if existing.any fun profile => profile.status = .pending || profile.status = .inReview then
        throw (.conflictError "KYC is already under review" "KYC_IN_REVIEW")
      else do
        let session ← ask .createKycSession
        let _ ← ask (.submitProfile session)
        return ()

/-! ## The provider -/

/-- The status is left alone where it would not change. -/
def applyProviderResult (profile : KycProfile) (status : KycVerificationStatus) : KycM Unit := do
  let target := mapProviderStatusToKyc status
  if profile.status = target then do
    let _ ← ask (.applyProviderUpdate none none)
    return ()
  else do
    assertTransition profile.status target
    let tier := if target = .approved then some config.defaultApprovedTier else none
    let _ ← ask (.applyProviderUpdate (some target) tier)
    return ()

/-- An empty text counts as missing. -/
def present (text : Option Text) : Option Text := text.filter fun text => !text.isEmpty

def refreshStatus : KycM Unit := do
  let found ← ask .findProfileByUserId
  match found, found.bind fun profile => present profile.providerSessionId,
      found.bind fun profile => present profile.provider with
  | some profile, some providerSessionId, some _ => do
    let status ← ask (.getStatus providerSessionId profile.providerApplicantId)
    applyProviderResult config profile status
  | _, _, _ => throw (.notFoundError "No KYC session to refresh" "KYC_NO_SESSION")

/-- The profile that an event is about. -/
def findEventProfile (event : KycWebhookEvent) : KycM (Option KycProfile) :=
  match present (event.providerApplicantId.orElse fun _ => event.providerSessionId) with
  | some ref => ask (.findProfileByProviderRef config.providerName ref)
  | none => return none

/-- An event that came before and was not processed is not recorded again. -/
def recordEvent (key : Text × Text) (existing : Option Bool) : KycM Unit :=
  if existing.isNone then ask (.createWebhookEvent key) else return ()

def processEvent (event : KycWebhookEvent) : KycM Unit := do
  let key := (config.providerName, event.providerEventId)
  let existing ← ask (.findWebhookEvent key)
  if existing = some true then return ()
  else do
    recordEvent key existing
    let found ← findEventProfile config event
    match found with
    | none => ask (.markWebhookProcessed key)
    | some profile => do
      applyProviderResult config profile event.status
      ask (.markWebhookProcessed key)

def handleWebhook (input : KycWebhookInput) : KycM Unit :=
  match present input.rawBody, config.verifyWebhook input with
  | none, _ => throw (.badRequestError "Missing webhook body")
  | some _, none => throw (.badRequestError "Invalid KYC webhook signature")
  | some _, some event => processEvent config event

/-! ## Admins -/

inductive KycDecision where
  | approve (tier : Option ℕ)
  | requestInfo
  | reject
  deriving DecidableEq, Repr

def KycDecision.status : KycDecision → KycStatus
  | .approve _ => .approved
  | .requestInfo => .needsMoreInfo
  | .reject => .rejected

def KycDecision.tier : KycDecision → Option ℕ
  | .approve tier => some (tier.getD config.defaultApprovedTier)
  | _ => none

def decide (decision : KycDecision) : KycM Unit := do
  let found ← ask .findProfileByUserId
  match found with
  | none => throw (.notFoundError "KYC profile not found")
  | some profile => do
    let _ ← ask .findUser
    assertTransition profile.status decision.status
    let _ ← ask (.decide decision.status (decision.tier config))
    ask .writeAdminLog

end Service
end Exchange.Kyc
