import Exchange.DepositRepository
import Exchange.MonitoringRules
import Exchange.ScannerRepository
import Exchange.WithdrawalRepository

/-! The tables of compliance: profiles with their risk, assessments, screening
checks, alerts, cases and checks of wallets, beside the movements that
monitoring reads. An alert is named by its key, a case that the system opens by
the user and the day. -/
namespace Exchange.Compliance
open Kyc (ComplianceKycStatus ScreeningStatus ScreeningCategory ScreeningCheckStatus ScreeningDecision ScreeningCheck
  ScreeningCategoryResult CompliancePatch)

/-! ## Profiles -/

inductive GeoCaptureStatus where
  | notCaptured
  | captured
  | partly
  | unavailable
  deriving DecidableEq, Repr

structure ComplianceProfile where
  status : ComplianceKycStatus
  countryOfResidence : Option Text
  panLast4 : Option Text
  aadhaarLast4 : Option Text
  livenessStatus : LivenessStatus
  sanctionsStatus : ScreeningStatus
  pepStatus : ScreeningStatus
  adverseMediaStatus : ScreeningStatus
  geoCaptureStatus : GeoCaptureStatus
  riskLevel : ComplianceRiskLevel
  riskScore : ℕ
  riskReason : Option String
  deriving DecidableEq, Repr

/-- A row that only its user has been given. -/
def newProfile : ComplianceProfile where
  status := .notStarted
  countryOfResidence := none
  panLast4 := none
  aadhaarLast4 := none
  livenessStatus := .notStarted
  sanctionsStatus := .notScreened
  pepStatus := .notScreened
  adverseMediaStatus := .notScreened
  geoCaptureStatus := .notCaptured
  riskLevel := .medium
  riskScore := 0
  riskReason := none

/-- What a submission brings: country, PAN, Aadhaar, and what was captured of
the place. -/
structure EnhancedSubmission where
  countryOfResidence : Text
  pan : Text
  aadhaar : Option Text
  geoCaptureStatus : GeoCaptureStatus
  deriving DecidableEq, Repr

def last4 (text : Text) : Text := text.drop (text.length - 4)

/-- What a write to a profile sets. -/
inductive ProfileUpdate where
  | startLiveness
  | submission (input : EnhancedSubmission)
  | liveness (status : LivenessStatus)
  | posture (patch : CompliancePatch)
  | reviewed (status : ComplianceKycStatus) (riskReason : Option String)
  | scored (result : RiskScoreResult)
  | override (level : ComplianceRiskLevel) (score : ℕ) (reason : Option String)

def codes (reasons : List RiskReason) : Option String :=
  if reasons.isEmpty then none else some (", ".intercalate (reasons.map RiskReason.code))

def ProfileUpdate.set : ProfileUpdate → ComplianceProfile → ComplianceProfile
  | .startLiveness, profile => { profile with livenessStatus := .pending }
  | .submission input, profile => { profile with
      status := .submitted
      countryOfResidence := some input.countryOfResidence
      panLast4 := some (last4 input.pan)
      aadhaarLast4 := input.aadhaar.map last4
      geoCaptureStatus := input.geoCaptureStatus
      sanctionsStatus := .pending
      pepStatus := .pending
      adverseMediaStatus := .pending }
  | .liveness status, profile => { profile with livenessStatus := status }
  | .posture patch, profile => { profile with
      sanctionsStatus := patch.sanctionsStatus.getD profile.sanctionsStatus
      pepStatus := patch.pepStatus.getD profile.pepStatus
      adverseMediaStatus := patch.adverseMediaStatus.getD profile.adverseMediaStatus }
  | .reviewed status riskReason, profile => { profile with status, riskReason := riskReason.orElse fun _ => profile.riskReason }
  | .scored result, profile => { profile with
      riskLevel := result.level
      riskScore := result.score
      riskReason := codes result.reasons }
  | .override level score reason, profile => { profile with riskLevel := level, riskScore := score, riskReason := reason }

inductive RiskAssessmentSource where
  | kyc
  | transaction
  | admin
  | screening
  deriving DecidableEq, Repr

structure RiskAssessment where
  userId : UserId
  score : ℕ
  level : ComplianceRiskLevel
  codes : List String
  source : RiskAssessmentSource
  deriving DecidableEq, Repr

/-! ## Alerts and cases -/

inductive ComplianceAlertStatus where
  | open
  | inReview
  | linkedToCase
  | dismissed
  | resolved
  deriving DecidableEq, Repr

inductive ComplianceCaseStatus where
  | open
  | inReview
  | escalated
  | strDrafted
  | closed
  deriving DecidableEq, Repr

inductive ComplianceCaseType where
  | suspiciousTransaction
  | highRiskUser
  | walletRisk
  | screeningMatch
  | manualReview
  deriving DecidableEq, Repr

/-- The keys by which the system's cases are unique; an admin's case has the
number of the request that opens it. -/
inductive CaseId where
  | auto (userId : UserId) (day : Day)
  | walletRisk (userId : UserId) (day : Day)
  | manual (request : ℕ)
  deriving DecidableEq, Repr

structure ComplianceAlert where
  userId : UserId
  type : ComplianceAlertType
  status : ComplianceAlertStatus
  priority : ComplianceCasePriority
  score : ℕ
  /-- Chain and address that a wallet alert is about. -/
  wallet : Option (Text × Text)
  caseId : Option CaseId
  deriving DecidableEq, Repr

structure ComplianceCase where
  userId : UserId
  type : ComplianceCaseType
  status : ComplianceCaseStatus
  priority : ComplianceCasePriority
  deriving DecidableEq, Repr

/-! ## Wallets -/

inductive WalletRiskLevel where
  | low
  | medium
  | high
  | critical
  deriving DecidableEq, Repr

inductive WalletRiskStatus where
  | clear
  | reviewRequired
  | blocked
  | failed
  deriving DecidableEq, Repr

/-- What the provider says of an address. -/
structure WalletRiskAssessment where
  level : WalletRiskLevel
  status : WalletRiskStatus
  score : ℕ
  deriving DecidableEq, Repr

structure WalletRiskProfile where
  assessment : WalletRiskAssessment
  overriddenLevel : Option WalletRiskLevel
  deriving DecidableEq, Repr

structure WalletRiskCheck where
  userId : Option UserId
  assessment : WalletRiskAssessment
  deriving DecidableEq, Repr

/-! ## Movements -/

structure CryptoWithdrawal where
  id : EntityId
  userId : UserId
  amount : ℚ
  status : Withdrawal.WithdrawalStatus
  requestedAt : Time
  deriving DecidableEq, Repr

structure CryptoDeposit where
  id : EntityId
  userId : Option UserId
  amount : ℚ
  status : Scanner.DepositStatus
  detectedAt : Time
  creditedAt : Option Time
  deriving DecidableEq, Repr

structure InrTransaction where
  id : EntityId
  userId : UserId
  type : Deposits.InrTxnType
  amount : ℚ
  status : Deposits.InrTxnStatus
  createdAt : Time
  deriving DecidableEq, Repr

structure Trade where
  makerUserId : UserId
  takerUserId : UserId
  quoteAmount : ℚ
  executedAt : Time
  deriving DecidableEq, Repr

structure Movements where
  cryptoWithdrawals : List CryptoWithdrawal
  cryptoDeposits : List CryptoDeposit
  inrTransactions : List InrTransaction
  trades : List Trade
  deriving DecidableEq

structure Store where
  users : List UserId
  profiles : Table UserId ComplianceProfile
  assessments : List RiskAssessment
  /-- With their users, latest first; none is deleted. -/
  checks : List (UserId × ScreeningCheck)
  alerts : Table AlertKey ComplianceAlert
  cases : Table CaseId ComplianceCase
  /-- By chain and address. -/
  walletProfiles : Table (Text × Text) WalletRiskProfile
  /-- By chain and address joined by a colon, and day. -/
  walletChecks : Table (Text × Day) WalletRiskCheck
  movements : Movements

/-- Users of whom nothing is known yet. -/
def Store.ofUsers (users : List UserId) : Store where
  users := users
  profiles := ∅
  assessments := []
  checks := []
  alerts := ∅
  cases := ∅
  walletProfiles := ∅
  walletChecks := ∅
  movements := ⟨[], [], [], []⟩

/-! ## Queries -/

/-- The latest rows first, and no more than a limit. -/
def latestFirst {α : Type} (time : α → Time) (limit : ℕ) (rows : List α) : List α :=
  (rows.insertionSort fun a b => time b ≤ time a).take limit

def withdrawalsOf (userId : UserId) (since : Time) (s : Store) : List CryptoWithdrawal :=
  latestFirst CryptoWithdrawal.requestedAt 500
    (s.movements.cryptoWithdrawals.filter fun w => w.userId = userId && since ≤ w.requestedAt)

def depositsOf (userId : UserId) (since : Time) (s : Store) : List CryptoDeposit :=
  latestFirst CryptoDeposit.detectedAt 500
    (s.movements.cryptoDeposits.filter fun d => d.userId = some userId && since ≤ d.detectedAt)

def inrTransactionsOf (userId : UserId) (since : Time) (s : Store) : List InrTransaction :=
  latestFirst InrTransaction.createdAt 500
    (s.movements.inrTransactions.filter fun t => t.userId = userId && since ≤ t.createdAt)

def tradesOf (userId : UserId) (since : Time) (s : Store) : List Trade :=
  latestFirst Trade.executedAt 1000
    (s.movements.trades.filter fun t => (t.makerUserId = userId || t.takerUserId = userId) && since ≤ t.executedAt)

/-- The limit of each query of `usersWithRecentActivity`. -/
def USERS_LIMIT : ℕ := 500

def recentWithdrawers (since : Time) (s : Store) : List UserId :=
  ((s.movements.cryptoWithdrawals.filter fun w => since ≤ w.requestedAt).map CryptoWithdrawal.userId).take USERS_LIMIT

def recentDepositors (since : Time) (s : Store) : List UserId :=
  ((s.movements.cryptoDeposits.filter fun d => since ≤ d.detectedAt).filterMap CryptoDeposit.userId).take USERS_LIMIT

def recentInrUsers (since : Time) (s : Store) : List UserId :=
  ((s.movements.inrTransactions.filter fun t => since ≤ t.createdAt).map InrTransaction.userId).take USERS_LIMIT

def recentMakers (since : Time) (s : Store) : List UserId :=
  ((s.movements.trades.filter fun t => since ≤ t.executedAt).map Trade.makerUserId).take USERS_LIMIT

def recentTakers (since : Time) (s : Store) : List UserId :=
  ((s.movements.trades.filter fun t => since ≤ t.executedAt).map Trade.takerUserId).take USERS_LIMIT

/-- Reviews that rejected the user. -/
def countRejections (userId : UserId) (s : Store) : ℕ :=
  (s.assessments.filter fun row => row.userId = userId && row.source = .admin && "KYC_REJECTED" ∈ row.codes).length

def ComplianceCase.isOpenHighRisk (case : ComplianceCase) (userId : UserId) : Bool :=
  case.userId = userId && case.priority.isHighOrCritical && case.status ≠ .closed

def countOpenHighRiskCases (userId : UserId) (s : Store) : ℕ :=
  (s.cases.rows.filter fun row => row.2.isOpenHighRisk userId).length

def latestChecks (userId : UserId) (s : Store) : List ScreeningCheck :=
  Kyc.collectLatest [] ((s.checks.filter fun row => row.1 = userId).map Prod.snd)

/-! ## Writes -/

/-- `upsert`: a row that is not there is made first. -/
def upsertProfile (userId : UserId) (update : ProfileUpdate) (s : Store) : Except Failure (Unit × Store) :=
  if userId ∈ s.users then
    .ok ((), { s with profiles := s.profiles.insert userId (update.set ((s.profiles.lookup userId).getD
      { newProfile with status := .draft })) })
  else .error (.prisma "P2003")

def updateProfile (userId : UserId) (update : ProfileUpdate) (s : Store) : Except Failure (Unit × Store) :=
  match s.profiles.lookup userId with
  | some profile => .ok ((), { s with profiles := s.profiles.insert userId (update.set profile) })
  | none => .error (.prisma "P2025")

def createCheck (userId : UserId) (category : ScreeningCategory) (status : ScreeningCheckStatus) (s : Store) :
    Except Failure (ℕ × Store) :=
  if userId ∈ s.users then
    .ok (s.checks.length, { s with checks := (userId, ⟨s.checks.length, category, status, none⟩) :: s.checks })
  else .error (.prisma "P2003")

def updateCheck (id : ℕ) (decision : ScreeningDecision) (s : Store) : Except Failure (Unit × Store) :=
  if s.checks.any fun row => row.2.id = id then
    .ok ((), { s with checks := s.checks.map fun row =>
      if row.2.id = id then (row.1, { row.2 with decision := some decision }) else row })
  else .error (.prisma "P2025")

def createAlert (key : AlertKey) (alert : ComplianceAlert) (s : Store) : Except Failure (ComplianceAlert × Store) :=
  if (s.alerts.lookup key).isSome then .error .uniqueViolation
  else .ok (alert, { s with alerts := s.alerts.insert key alert })

def updateAlert (key : AlertKey) (change : ComplianceAlert → ComplianceAlert) (s : Store) :
    Except Failure (Unit × Store) :=
  match s.alerts.lookup key with
  | some alert => .ok ((), { s with alerts := s.alerts.insert key (change alert) })
  | none => .error (.prisma "P2025")

def createCase (id : CaseId) (case : ComplianceCase) (s : Store) : Except Failure (Unit × Store) :=
  if (s.cases.lookup id).isSome then .error .uniqueViolation
  else .ok ((), { s with cases := s.cases.insert id case })

def updateCase (id : CaseId) (change : ComplianceCase → ComplianceCase) (s : Store) : Except Failure (Unit × Store) :=
  match s.cases.lookup id with
  | some case => .ok ((), { s with cases := s.cases.insert id (change case) })
  | none => .error (.prisma "P2025")

/-- The level an admin has pinned stays. -/
def upsertWalletProfile (location : Text × Text) (assessment : WalletRiskAssessment) (s : Store) : Store :=
  { s with walletProfiles := s.walletProfiles.insert location (match s.walletProfiles.lookup location with
    | some profile => if profile.overriddenLevel.isSome then profile else { profile with assessment }
    | none => ⟨assessment, none⟩) }

def createWalletCheck (key : Text × Day) (check : WalletRiskCheck) (s : Store) :
    Except Failure (WalletRiskCheck × Store) :=
  if (s.walletChecks.lookup key).isSome then .error .uniqueViolation
  else .ok (check, { s with walletChecks := s.walletChecks.insert key check })

/-! ## Calls -/

/-- Tables that are written here and not read, and the columns of a wallet's
profile and check that point to the latest check, the alert and the case. -/
inductive AppendOnly where
  | evidence
  | consents
  | matches
  | caseEvent
  | caseNote
  | adminLog
  | walletRiskEvent
  | lastCheck
  | checkLinks
  deriving DecidableEq, Repr

inductive ComplianceCall where
  | now
  | append (table : AppendOnly)
  | findUserBasic (userId : UserId)
  | findProfile (userId : UserId)
  | findProfileSignals (userId : UserId)
  | upsertProfile (userId : UserId) (update : ProfileUpdate)
  | updateProfile (userId : UserId) (update : ProfileUpdate)
  | countRejections (userId : UserId)
  | createRiskAssessment (row : RiskAssessment)
  | createSession
  | verifySession
  | screen (userId : UserId)
  | createCheck (userId : UserId) (category : ScreeningCategory) (status : ScreeningCheckStatus)
  | latestByCategory (userId : UserId)
  | findCheck (id : ℕ)
  | updateCheck (id : ℕ) (decision : ScreeningDecision)
  | cryptoWithdrawals (userId : UserId) (since : Time)
  | cryptoDeposits (userId : UserId) (since : Time)
  | inrTransactions (userId : UserId) (since : Time)
  | trades (userId : UserId) (since : Time)
  | recentWithdrawers (since : Time)
  | recentDepositors (since : Time)
  | recentInrUsers (since : Time)
  | recentMakers (since : Time)
  | recentTakers (since : Time)
  /-- Other modules move money and trade. -/
  | move (movements : Movements)
  | findAlert (key : AlertKey)
  | createAlert (key : AlertKey) (alert : ComplianceAlert)
  | linkAlert (key : AlertKey) (caseId : CaseId)
  | setAlertStatus (key : AlertKey) (status : ComplianceAlertStatus)
  | findCase (id : CaseId)
  | createCase (id : CaseId) (case : ComplianceCase)
  | setCaseStatus (id : CaseId) (status : ComplianceCaseStatus)
  | raiseCase (id : CaseId)
  | countOpenHighRiskCases (userId : UserId)
  | screenWallet (location : Text × Text)
  | findWalletProfile (location : Text × Text)
  | upsertWalletProfile (location : Text × Text) (assessment : WalletRiskAssessment)
  | findWalletCheck (key : Text × Day)
  | createWalletCheck (key : Text × Day) (check : WalletRiskCheck)

abbrev ComplianceCall.Reply : ComplianceCall → Type
  | .now => Time
  | .findUserBasic _ => Bool
  | .findProfile _ => Option ComplianceProfile
  | .findProfileSignals _ => Option ComplianceProfile
  | .countRejections _ => ℕ
  | .verifySession => LivenessStatus
  | .screen _ => List ScreeningCategoryResult
  | .createCheck _ _ _ => ℕ
  | .latestByCategory _ => List ScreeningCheck
  | .findCheck _ => Option (UserId × ScreeningCheck)
  | .cryptoWithdrawals _ _ => List CryptoWithdrawal
  | .cryptoDeposits _ _ => List CryptoDeposit
  | .inrTransactions _ _ => List InrTransaction
  | .trades _ _ => List Trade
  | .recentWithdrawers _ => List UserId
  | .recentDepositors _ => List UserId
  | .recentInrUsers _ => List UserId
  | .recentMakers _ => List UserId
  | .recentTakers _ => List UserId
  | .findAlert _ => Option ComplianceAlert
  | .createAlert _ _ => ComplianceAlert
  | .findCase _ => Option ComplianceCase
  | .countOpenHighRiskCases _ => ℕ
  | .screenWallet _ => WalletRiskAssessment
  | .findWalletProfile _ => Option WalletRiskProfile
  | .findWalletCheck _ => Option WalletRiskCheck
  | .createWalletCheck _ _ => WalletRiskCheck
  | _ => Unit

/-- The time, and what the providers answer. -/
structure World where
  now : Time
  liveness : LivenessStatus
  screening : List ScreeningCategoryResult
  wallet : WalletRiskAssessment

/-- What a call does, whichever request makes it. -/
def perform (world : World) (_ : ℕ) : (call : ComplianceCall) → Store → Except Failure call.Reply × Store
  | .now, s => (.ok world.now, s)
  | .append _, s => (.ok (), s)
  | .findUserBasic userId, s => (.ok (userId ∈ s.users), s)
  | .findProfile userId, s => (.ok (s.profiles.lookup userId), s)
  | .findProfileSignals userId, s => (.ok (s.profiles.lookup userId), s)
  | .upsertProfile userId update, s => Database.written s (upsertProfile userId update s)
  | .updateProfile userId update, s => Database.written s (updateProfile userId update s)
  | .countRejections userId, s => (.ok (countRejections userId s), s)
  | .createRiskAssessment row, s => (.ok (), { s with assessments := row :: s.assessments })
  | .createSession, s => (.ok (), s)
  | .verifySession, s => (.ok world.liveness, s)
  | .screen _, s => (.ok world.screening, s)
  | .createCheck userId category status, s => Database.written s (createCheck userId category status s)
  | .latestByCategory userId, s => (.ok (latestChecks userId s), s)
  | .findCheck id, s => (.ok (s.checks.find? fun row => row.2.id = id), s)
  | .updateCheck id decision, s => Database.written s (updateCheck id decision s)
  | .cryptoWithdrawals userId since, s => (.ok (withdrawalsOf userId since s), s)
  | .cryptoDeposits userId since, s => (.ok (depositsOf userId since s), s)
  | .inrTransactions userId since, s => (.ok (inrTransactionsOf userId since s), s)
  | .trades userId since, s => (.ok (tradesOf userId since s), s)
  | .recentWithdrawers since, s => (.ok (recentWithdrawers since s), s)
  | .recentDepositors since, s => (.ok (recentDepositors since s), s)
  | .recentInrUsers since, s => (.ok (recentInrUsers since s), s)
  | .recentMakers since, s => (.ok (recentMakers since s), s)
  | .recentTakers since, s => (.ok (recentTakers since s), s)
  | .move movements, s => (.ok (), { s with movements })
  | .findAlert key, s => (.ok (s.alerts.lookup key), s)
  | .createAlert key alert, s => Database.written s (createAlert key alert s)
  | .linkAlert key caseId, s =>
    Database.written s (updateAlert key (fun alert => { alert with caseId := some caseId, status := .linkedToCase }) s)
  | .setAlertStatus key status, s => Database.written s (updateAlert key (fun alert => { alert with status }) s)
  | .findCase id, s => (.ok (s.cases.lookup id), s)
  | .createCase id case, s => Database.written s (createCase id case s)
  | .setCaseStatus id status, s => Database.written s (updateCase id (fun case => { case with status }) s)
  | .raiseCase id, s => Database.written s (updateCase id (fun case => { case with priority := .critical }) s)
  | .countOpenHighRiskCases userId, s => (.ok (countOpenHighRiskCases userId s), s)
  | .screenWallet _, s => (.ok world.wallet, s)
  | .findWalletProfile location, s => (.ok (s.walletProfiles.lookup location), s)
  | .upsertWalletProfile location assessment, s => (.ok (), upsertWalletProfile location assessment s)
  | .findWalletCheck key, s => (.ok (s.walletChecks.lookup key), s)
  | .createWalletCheck key check, s => Database.written s (createWalletCheck key check s)

/-- A call as a request may see it. -/
abbrev Makes (pid : ℕ) (call : ComplianceCall) (s : Store) (reply : Except Failure call.Reply) (s' : Store) : Prop :=
  Database.Makes perform pid call s reply s'

abbrev ComplianceM := Async ComplianceCall ComplianceCall.Reply Failure

abbrev ask (call : ComplianceCall) : ComplianceM call.Reply := Async.call call

end Exchange.Compliance
