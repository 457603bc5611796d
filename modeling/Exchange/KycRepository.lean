import Exchange.AsyncDatabase
import Exchange.Table
import Exchange.Text
import Exchange.Users

/-! What is kept about the identity of one user: the gate on the user's row, the
profile of the KYC queue, the compliance profile with its screening posture, and
the screening checks. The gate is kept twice, on the user and on the profile. -/
namespace Exchange.Kyc

/-! ## Rows -/

structure User where
  email : Text
  kycStatus : KycStatus
  kycTier : ℕ
  deriving DecidableEq, Repr

/-- The row of `kyc_profiles`, with the session at the provider. -/
structure KycProfile where
  status : KycStatus
  provider : Option Text
  providerSessionId : Option Text
  providerApplicantId : Option Text
  deriving DecidableEq, Repr

inductive ComplianceKycStatus where
  | notStarted
  | draft
  | submitted
  | needsMoreInfo
  | underReview
  | approved
  | rejected
  | expired
  deriving DecidableEq, Repr

/-- The posture of a profile in one dimension of the screening. -/
inductive ScreeningStatus where
  | notScreened
  | pending
  | clear
  | hit
  | reviewRequired
  deriving DecidableEq, Repr

structure ComplianceProfile where
  status : ComplianceKycStatus
  fullName : Option Text
  nationality : Option Text
  countryOfResidence : Option Text
  sanctionsStatus : ScreeningStatus
  pepStatus : ScreeningStatus
  adverseMediaStatus : ScreeningStatus
  kycProvider : Option Text
  deriving DecidableEq, Repr

inductive ScreeningCategory where
  | sanctions
  | pep
  | adverseMedia
  deriving DecidableEq, Repr

def ScreeningCategory.name : ScreeningCategory → String
  | .sanctions => "SANCTIONS"
  | .pep => "PEP"
  | .adverseMedia => "ADVERSE_MEDIA"

inductive ScreeningCheckStatus where
  | pending
  | clear
  | possibleMatch
  | failed
  | error
  deriving DecidableEq, Repr

inductive ScreeningDecision where
  | approved
  | rejected
  | needsReview
  | falsePositive
  deriving DecidableEq, Repr

structure ScreeningCheck where
  id : ℕ
  category : ScreeningCategory
  status : ScreeningCheckStatus
  decision : Option ScreeningDecision
  deriving DecidableEq, Repr

structure Store where
  user : Option User
  kycProfile : Option KycProfile
  /-- By provider and event, with whether the event was processed. -/
  webhookEvents : Table (Text × Text) Bool
  compliance : Option ComplianceProfile
  /-- Latest first; none is deleted. -/
  checks : List ScreeningCheck

/-! ## What providers answer -/

structure KycSession where
  provider : Text
  providerSessionId : Text
  providerApplicantId : Option Text
  deriving DecidableEq, Repr

inductive KycVerificationStatus where
  | pending
  | inReview
  | approved
  | rejected
  | manualReview
  deriving DecidableEq, Repr

structure ScreeningSubject where
  fullName : Option Text
  email : Text
  countryOfResidence : Option Text
  nationality : Option Text
  deriving DecidableEq, Repr

/-- The outcome in one category, with the names that matched. -/
structure ScreeningCategoryResult where
  category : ScreeningCategory
  status : ScreeningCheckStatus
  matchNames : List Text
  deriving DecidableEq, Repr

/-! ## Writes -/

/-- What an update of a compliance profile sets. -/
structure CompliancePatch where
  status : Option ComplianceKycStatus
  sanctionsStatus : Option ScreeningStatus
  pepStatus : Option ScreeningStatus
  adverseMediaStatus : Option ScreeningStatus
  deriving DecidableEq, Repr

def CompliancePatch.set (patch : CompliancePatch) (profile : ComplianceProfile) : ComplianceProfile :=
  { profile with
    status := patch.status.getD profile.status
    sanctionsStatus := patch.sanctionsStatus.getD profile.sanctionsStatus
    pepStatus := patch.pepStatus.getD profile.pepStatus
    adverseMediaStatus := patch.adverseMediaStatus.getD profile.adverseMediaStatus }

/-- A decision on the status alone. -/
def statusPatch (status : ComplianceKycStatus) : CompliancePatch := ⟨some status, none, none, none⟩

structure EnhancedSubmission where
  fullName : Text
  nationality : Text
  countryOfResidence : Text
  hasAadhaar : Bool
  deriving DecidableEq, Repr

/-- The row as a submission leaves it, new or not. -/
def submittedProfile (input : EnhancedSubmission) (kycProvider : Text) : ComplianceProfile where
  status := .submitted
  fullName := some input.fullName
  nationality := some input.nationality
  countryOfResidence := some input.countryOfResidence
  sanctionsStatus := .pending
  pepStatus := .pending
  adverseMediaStatus := .pending
  kycProvider := some kycProvider

/-- `UPDATE users SET kyc_status = …`, with a tier or without. -/
def setUser (status : KycStatus) (tier : Option ℕ) (s : Store) : Except Failure Store :=
  match s.user with
  | some user => .ok { s with user := some { user with kycStatus := status, kycTier := tier.getD user.kycTier } }
  | none => .error (.prisma "P2025")

/-- The profile and the user in one transaction. -/
def submitProfile (session : KycSession) (s : Store) : Except Failure (KycProfile × Store) := do
  let profile : KycProfile :=
    ⟨.pending, some session.provider, some session.providerSessionId, session.providerApplicantId⟩
  let s' ← setUser .pending none { s with kycProfile := some profile }
  return (profile, s')

/-- The profile and the user in one transaction; a status is set on both. -/
def setProfile (status : Option KycStatus) (tier : Option ℕ) (s : Store) : Except Failure (KycProfile × Store) :=
  match s.kycProfile, status with
  | none, _ => .error (.prisma "P2025")
  | some profile, none => .ok (profile, s)
  | some profile, some status => do
    let profile' := { profile with status }
    let s' ← setUser status tier { s with kycProfile := some profile' }
    return (profile', s')

/-- The mirror of an enhanced submission; the session of an older profile stays. -/
def mirrorProfile (provider : Option Text) (s : Store) : Except Failure (Unit × Store) :=
  if s.user.isNone then .error (.prisma "P2003")
  else .ok ((), { s with kycProfile := some (match s.kycProfile with
    | some profile => { profile with status := .pending, provider }
    | none => ⟨.pending, provider, none, none⟩) })

def updateCompliance (patch : CompliancePatch) (s : Store) : Except Failure (Unit × Store) :=
  match s.compliance with
  | some profile => .ok ((), { s with compliance := some (patch.set profile) })
  | none => .error (.prisma "P2025")

def upsertCompliance (profile : ComplianceProfile) (s : Store) : Except Failure (ComplianceProfile × Store) :=
  if s.user.isNone then .error (.prisma "P2003")
  else .ok (profile, { s with compliance := some profile })

def createCheck (category : ScreeningCategory) (status : ScreeningCheckStatus) (s : Store) :
    Except Failure (ℕ × Store) :=
  if s.user.isNone then .error (.prisma "P2003")
  else .ok (s.checks.length, { s with checks := ⟨s.checks.length, category, status, none⟩ :: s.checks })

def updateCheck (id : ℕ) (decision : ScreeningDecision) (s : Store) : Except Failure (Unit × Store) :=
  if s.checks.any fun check => check.id = id then
    .ok ((), { s with checks := s.checks.map fun check =>
      if check.id = id then { check with decision := some decision } else check })
  else .error (.prisma "P2025")

def createWebhookEvent (key : Text × Text) (s : Store) : Except Failure (Unit × Store) :=
  if (s.webhookEvents.lookup key).isSome then .error .uniqueViolation
  else .ok ((), { s with webhookEvents := s.webhookEvents.insert key false })

def markWebhookProcessed (key : Text × Text) (s : Store) : Except Failure (Unit × Store) :=
  if (s.webhookEvents.lookup key).isNone then .error (.prisma "P2025")
  else .ok ((), { s with webhookEvents := s.webhookEvents.insert key true })

/-! ## Queries -/

/-- By the session or the applicant at the provider. -/
def findProfileByProviderRef (s : Store) (provider ref : Text) : Option KycProfile :=
  s.kycProfile.filter fun profile => profile.provider = some provider &&
    (profile.providerSessionId = some ref || profile.providerApplicantId = some ref)

/-- The loop over the rows, latest first: the first row of a category is kept. -/
def collectLatest : List ScreeningCheck → List ScreeningCheck → List ScreeningCheck
  | latest, [] => latest
  | latest, row :: rows =>
    if latest.any fun check => check.category = row.category then collectLatest latest rows
    else collectLatest (latest ++ [row]) rows

def latestChecksByCategory (s : Store) : List ScreeningCheck := collectLatest [] s.checks

/-! ## Calls -/

inductive EvidenceType where
  | pan
  | address
  | geolocation
  | device
  | consent
  | aadhaar
  deriving DecidableEq, Repr

inductive KycCall where
  | findUser
  | findProfileByUserId
  | findProfileByProviderRef (provider ref : Text)
  | submitProfile (session : KycSession)
  | decide (status : KycStatus) (tier : Option ℕ)
  | applyProviderUpdate (status : Option KycStatus) (tier : Option ℕ)
  | findWebhookEvent (key : Text × Text)
  | createWebhookEvent (key : Text × Text)
  | markWebhookProcessed (key : Text × Text)
  | createKycSession
  | getStatus (providerSessionId : Text) (providerApplicantId : Option Text)
  | findProfile
  | upsertProfile (profile : ComplianceProfile)
  | updateProfile (patch : CompliancePatch)
  | createConsents
  | createEvidence (type : EvidenceType)
  | saveRiskAssessment
  | writeAdminLog
  | screen (subject : ScreeningSubject)
  | createCheck (category : ScreeningCategory) (status : ScreeningCheckStatus)
  | createMatches (checkId : ℕ) (names : List Text)
  | latestChecksByCategory
  | findCheck (id : ℕ)
  | updateCheck (id : ℕ) (decision : ScreeningDecision)
  | mirrorProfile (provider : Option Text)
  | setUserKyc (status : KycStatus) (tier : Option ℕ)
  | updateManyProfiles (status : KycStatus)
  deriving DecidableEq, Repr

abbrev KycCall.Reply : KycCall → Type
  | .findUser => Option User
  | .findProfileByUserId => Option KycProfile
  | .findProfileByProviderRef _ _ => Option KycProfile
  | .submitProfile _ => KycProfile
  | .decide _ _ => KycProfile
  | .applyProviderUpdate _ _ => KycProfile
  | .findWebhookEvent _ => Option Bool
  | .createKycSession => KycSession
  | .getStatus _ _ => KycVerificationStatus
  | .findProfile => Option ComplianceProfile
  | .upsertProfile _ => ComplianceProfile
  | .screen _ => List ScreeningCategoryResult
  | .createCheck _ _ => ℕ
  | .latestChecksByCategory => List ScreeningCheck
  | .findCheck _ => Option ScreeningCheck
  | _ => Unit

/-- What the providers answer at some moment. -/
structure World where
  session : Except Failure KycSession
  verification : Except Failure KycVerificationStatus
  screening : ScreeningSubject → Except Failure (List ScreeningCategoryResult)

/-- What a call does, whichever request makes it. -/
def perform (world : World) (_ : ℕ) : (call : KycCall) → Store → Except Failure call.Reply × Store
  | .findUser, s => (.ok s.user, s)
  | .findProfileByUserId, s => (.ok s.kycProfile, s)
  | .findProfileByProviderRef provider ref, s => (.ok (findProfileByProviderRef s provider ref), s)
  | .submitProfile session, s => Database.written s (submitProfile session s)
  | .decide status tier, s => Database.written s (setProfile (some status) tier s)
  | .applyProviderUpdate status tier, s => Database.written s (setProfile status tier s)
  | .findWebhookEvent key, s => (.ok (s.webhookEvents.lookup key), s)
  | .createWebhookEvent key, s => Database.written s (createWebhookEvent key s)
  | .markWebhookProcessed key, s => Database.written s (markWebhookProcessed key s)
  | .createKycSession, s => (world.session, s)
  | .getStatus _ _, s => (world.verification, s)
  | .findProfile, s => (.ok s.compliance, s)
  | .upsertProfile profile, s => Database.written s (upsertCompliance profile s)
  | .updateProfile patch, s => Database.written s (updateCompliance patch s)
  | .createConsents, s => (.ok (), s)
  | .createEvidence _, s => (.ok (), s)
  | .saveRiskAssessment, s => (.ok (), s)
  | .writeAdminLog, s => (.ok (), s)
  | .screen subject, s => (world.screening subject, s)
  | .createCheck category status, s => Database.written s (createCheck category status s)
  | .createMatches _ _, s => (.ok (), s)
  | .latestChecksByCategory, s => (.ok (latestChecksByCategory s), s)
  | .findCheck id, s => (.ok (s.checks.find? fun check => check.id = id), s)
  | .updateCheck id decision, s => Database.written s (updateCheck id decision s)
  | .mirrorProfile provider, s => Database.written s (mirrorProfile provider s)
  | .setUserKyc status tier, s => Database.written s ((setUser status tier s).map fun s' => ((), s'))
  | .updateManyProfiles status, s =>
    (.ok (), { s with kycProfile := s.kycProfile.map fun profile => { profile with status } })

/-- A call as a request may see it. -/
abbrev Makes (pid : ℕ) (call : KycCall) (s : Store) (reply : Except Failure call.Reply) (s' : Store) : Prop :=
  Database.Makes perform pid call s reply s'

abbrev KycM := Async KycCall KycCall.Reply Failure

abbrev ask (call : KycCall) : KycM call.Reply := Async.call call

end Exchange.Kyc
