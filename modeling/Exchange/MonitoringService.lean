import Exchange.ComplianceService

/-! Monitoring and what follows from it: alerts, the case of a user's day that
collects the serious ones, what admins do with alerts and cases, and the checks
of wallets, which raise alerts of their own. -/
namespace Exchange.Compliance
open Kyc (ScreeningDecision)

namespace Service

/-! ## Alerts and cases -/

/-- The alert with the key, and whether it is new. An alert that exists is
returned as it is. -/
def upsertAlert (key : AlertKey) (data : ComplianceAlert) : ComplianceM (ComplianceAlert × Bool) := do
  let existing ← ask (.findAlert key)
  match existing with
  | some alert => return (alert, false)
  | none => do
    let alert ← ask (.createAlert key data)
    return (alert, true)

def findCaseOr (id : CaseId) : ComplianceM ComplianceCase := do
  let found ← ask (.findCase id)
  match found with
  | some found => return found
  | none => throw (.notFoundError "Compliance case not found")

def findAlertOr (key : AlertKey) : ComplianceM ComplianceAlert := do
  let found ← ask (.findAlert key)
  match found with
  | some alert => return alert
  | none => throw (.notFoundError "Alert not found")

def linkAlertInternal (caseId : CaseId) (caseUserId : UserId) (key : AlertKey) : ComplianceM Unit := do
  let alert ← findAlertOr key
  if alert.userId = caseUserId then do
    ask (.linkAlert key caseId)
    ask (.append .caseEvent)
  else throw (.badRequestError "Alert and case belong to different users")

def linkAlert (key : AlertKey) (caseId : CaseId) : ComplianceM Unit := do
  let found ← findCaseOr caseId
  linkAlertInternal caseId found.userId key
  ask (.append .adminLog)

def linkAlerts (caseId : CaseId) (userId : UserId) : List AlertKey → ComplianceM Unit
  | [] => return ()
  | key :: rest => do
    linkAlertInternal caseId userId key
    linkAlerts caseId userId rest

def setAlertStatus (key : AlertKey) (status : ComplianceAlertStatus) : ComplianceM Unit := do
  let alert ← findAlertOr key
  ask (.setAlertStatus key status)
  if alert.caseId.isSome then ask (.append .caseEvent) else return ()

variable (config : Config)

/-- By request `pid` of an admin. -/
def createCase (pid : ℕ) (userId : UserId) (type : ComplianceCaseType) (priority : ComplianceCasePriority)
    (alerts : List AlertKey) : ComplianceM Unit := do
  findUserOr userId
  ask (.createCase (.manual pid) ⟨userId, type, .open, priority⟩)
  ask (.append .caseEvent)
  linkAlerts (.manual pid) userId alerts
  ask (.append .adminLog)
  if priority.isHighOrCritical then safeRecomputeRisk config userId else return ()

def addNote (hasNote : Bool) : ComplianceM Unit := if hasNote then ask (.append .caseNote) else return ()

/-- A case that is closed stops counting; one that is reopened is not counted
again before the next score. -/
def setCaseStatus (id : CaseId) (status : ComplianceCaseStatus) (hasNote : Bool) : ComplianceM Unit := do
  let found ← findCaseOr id
  ask (.setCaseStatus id status)
  ask (.append .caseEvent)
  addNote hasNote
  ask (.append .adminLog)
  if status = .closed then safeRecomputeRisk config found.userId else return ()

/-! ## Activity -/

def withdrawalOutcome (status : Withdrawal.WithdrawalStatus) : ActivityOutcome :=
  if status = .failed || status = .rejected then .failed
  else if status = .completed then .success
  else .pending

def depositOutcome (status : Scanner.DepositStatus) : ActivityOutcome :=
  if status = .orphaned then .failed
  else if status = .credited then .success
  else .pending

def inrOutcome (status : Deposits.InrTxnStatus) : ActivityOutcome :=
  if status = .failed || status = .reversed then .failed
  else if status = .success then .success
  else .pending

structure ActivitySnapshotData where
  withdrawals : List TransferActivity
  deposits : List TransferActivity
  trades : List TradeActivity

def inrActivity (type : Deposits.InrTxnType) (inr : List InrTransaction) : List TransferActivity :=
  (inr.filter fun t => t.type = type).map fun t => ⟨t.id, t.amount, inrOutcome t.status, t.createdAt⟩

/-- A deposit counts from its credit, if it has one. -/
def activityOf (cw : List CryptoWithdrawal) (cd : List CryptoDeposit) (inr : List InrTransaction)
    (trades : List Trade) : ActivitySnapshotData where
  withdrawals := (cw.map fun w => ⟨w.id, w.amount, withdrawalOutcome w.status, w.requestedAt⟩) ++
    inrActivity .withdrawal inr
  deposits := (cd.map fun d => ⟨d.id, d.amount, depositOutcome d.status, d.creditedAt.getD d.detectedAt⟩) ++
    inrActivity .deposit inr
  trades := trades.map fun t => ⟨t.quoteAmount, t.executedAt⟩

def loadActivity (userId : UserId) (since : Time) : ComplianceM ActivitySnapshotData := do
  let cw ← ask (.cryptoWithdrawals userId since)
  let cd ← ask (.cryptoDeposits userId since)
  let inr ← ask (.inrTransactions userId since)
  let trades ← ask (.trades userId since)
  return activityOf cw cd inr trades

def snapshotOf (userId : UserId) (activity : ActivitySnapshotData) (signals : Option ComplianceProfile) (now : Time) :
    MonitoringSnapshot where
  userId := userId
  withdrawals := activity.withdrawals
  deposits := activity.deposits
  trades := activity.trades
  riskLevel := signals.map ComplianceProfile.riskLevel
  sanctionsStatus := signals.map ComplianceProfile.sanctionsStatus
  pepStatus := signals.map ComplianceProfile.pepStatus
  adverseMediaStatus := signals.map ComplianceProfile.adverseMediaStatus
  now := now

/-! ## Monitoring -/

def alertOf (userId : UserId) (c : AlertCandidate) : ComplianceAlert :=
  ⟨userId, c.type, .open, c.priority, c.score, none, none⟩

/-- The alerts of the candidates that are new, serious and not linked. -/
def raiseAlerts (userId : UserId) : List AlertCandidate → ComplianceM (List (AlertKey × ComplianceAlert))
  | [] => return []
  | c :: rest => do
    let (alert, created) ← upsertAlert c.dedupeKey (alertOf userId c)
    let later ← raiseAlerts userId rest
    if created && c.priority.isHighOrCritical && alert.caseId.isNone then return (c.dedupeKey, alert) :: later
    else return later

/-- The case of the user's day, whatever its status, and whether it is new. -/
def findOrCreateCase (id : CaseId) (case : ComplianceCase) : ComplianceM (ComplianceCase × Bool) := do
  let found ← ask (.findCase id)
  match found with
  | some found => return (found, false)
  | none => do
    ask (.createCase id case)
    ask (.append .caseEvent)
    return (case, true)

def linkNew (caseId : CaseId) : List (AlertKey × ComplianceAlert) → ComplianceM Unit
  | [] => return ()
  | (key, _) :: rest => do
    ask (.linkAlert key caseId)
    ask (.append .caseEvent)
    linkNew caseId rest

def topPriority (alerts : List (AlertKey × ComplianceAlert)) : ComplianceCasePriority :=
  if alerts.any fun alert => alert.2.priority = .critical then .critical else .high

def attachToAutoCase (userId : UserId) (alerts : List (AlertKey × ComplianceAlert)) (now : Time) : ComplianceM Unit := do
  let caseId : CaseId := .auto userId (dayBucket now)
  let (theCase, createdCase) ← findOrCreateCase caseId ⟨userId, .suspiciousTransaction, .open, topPriority alerts⟩
  linkNew caseId alerts
  if !createdCase && topPriority alerts = .critical && theCase.priority ≠ .critical then ask (.raiseCase caseId)
  else return ()

def attachNew (userId : UserId) (alerts : List (AlertKey × ComplianceAlert)) (now : Time) : ComplianceM Unit :=
  if alerts.isEmpty then return () else attachToAutoCase userId alerts now

/-- What a pass does with its candidates. -/
def escalate (userId : UserId) (candidates : List AlertCandidate) (now : Time) : ComplianceM Unit := do
  let newHighAlerts ← raiseAlerts userId candidates
  attachNew userId newHighAlerts now
  safeRecomputeRisk config userId

def evaluateUser (userId : UserId) (now : Time) : ComplianceM Unit := do
  let activity ← loadActivity userId (cutoff now config.monitoring.lookbackDays)
  let signals ← ask (.findProfileSignals userId)
  let candidates := evaluateRules (snapshotOf userId activity signals now) config.monitoring
  if candidates.isEmpty then return () else escalate config userId candidates now

/-- Never throws once it has the time. -/
def runForUser (userId : UserId) : ComplianceM Unit := do
  let now ← ask .now
  attempt (evaluateUser config userId now)

/-- Users of any movement since a time, each once. -/
def usersWithRecentActivity (since : Time) : ComplianceM (List UserId) := do
  let cw ← ask (.recentWithdrawers since)
  let cd ← ask (.recentDepositors since)
  let inr ← ask (.recentInrUsers since)
  let tradesMaker ← ask (.recentMakers since)
  let tradesTaker ← ask (.recentTakers since)
  return (cw ++ cd ++ inr ++ tradesMaker ++ tradesTaker).eraseDups

def runEach : List UserId → ComplianceM Unit
  | [] => return ()
  | userId :: rest => do
    runForUser config userId
    runEach rest

def runAll : ComplianceM Unit := do
  let now ← ask .now
  let userIds ← usersWithRecentActivity (cutoff now config.monitoring.lookbackDays)
  runEach config userIds

/-! ## Wallets -/

structure RunWalletRiskInput where
  chain : Text
  address : Text
  userId : Option UserId

def RunWalletRiskInput.location (input : RunWalletRiskInput) : Text := input.chain ++ ':' :: input.address

def WalletRiskLevel.isHighOrCritical (level : WalletRiskLevel) : Bool := level = .high || level = .critical

/-- What is recorded of an address when the provider fails. -/
def providerFailed : WalletRiskAssessment := ⟨.medium, .failed, 0⟩

def assess (input : RunWalletRiskInput) : ComplianceM WalletRiskAssessment :=
  tryCatch (ask (.screenWallet (input.chain, input.address))) fun _ => return providerFailed

def upsertCheck (key : Text × Day) (check : WalletRiskCheck) : ComplianceM (WalletRiskCheck × Bool) := do
  let existing ← ask (.findWalletCheck key)
  match existing with
  | some check => return (check, false)
  | none => do
    let check ← ask (.createWalletCheck key check)
    return (check, true)

def walletAlert (input : RunWalletRiskInput) (userId : UserId) (assessment : WalletRiskAssessment) : ComplianceAlert where
  userId := userId
  type := .walletRiskActivity
  status := .open
  priority := if assessment.level = .critical then .critical else .high
  score := assessment.score
  wallet := some (input.chain, input.address)
  caseId := none

/-- Only for a critical address. -/
def linkToWalletCase (level : WalletRiskLevel) (key : AlertKey) (userId : UserId) (day : Day) : ComplianceM Unit :=
  if level = .critical then do
    let _ ← findOrCreateCase (.walletRisk userId day) ⟨userId, .walletRisk, .open, .critical⟩
    ask (.linkAlert key (.walletRisk userId day))
    ask (.append .caseEvent)
  else return ()

/-- The alert that exists may be of another user. -/
def raiseAlertAndCase (input : RunWalletRiskInput) (userId : UserId) (assessment : WalletRiskAssessment) (day : Day) :
    ComplianceM Unit := do
  let key : AlertKey := .walletRisk input.location day
  let _ ← upsertAlert key (walletAlert input userId assessment)
  linkToWalletCase assessment.level key userId day
  ask (.append .checkLinks)

/-- Only a check that is new raises an alert. -/
def recordCheck (input : RunWalletRiskInput) (day : Day) (assessment : WalletRiskAssessment) : ComplianceM Unit := do
  let _ ← ask (.findWalletProfile (input.chain, input.address))
  ask (.upsertWalletProfile (input.chain, input.address) assessment)
  let (_, created) ← upsertCheck (input.location, day) ⟨input.userId, assessment⟩
  ask (.append .lastCheck)
  ask (.append .walletRiskEvent)
  match input.userId with
  | some userId =>
    if created && WalletRiskLevel.isHighOrCritical assessment.level then raiseAlertAndCase input userId assessment day
    else return ()
  | none => return ()

def runCheck (input : RunWalletRiskInput) : ComplianceM Unit := do
  let now ← ask .now
  let assessment ← assess input
  recordCheck input (dayBucket now) assessment

/-! ## Requests -/

inductive Request where
  | startLiveness (userId : UserId)
  | verifyLiveness (userId : UserId)
  | submitEnhanced (userId : UserId) (input : EnhancedSubmission)
  | runScreening (userId : UserId) (isSystem : Bool)
  | decideScreening (userId : UserId) (checkId : ℕ) (decision : ScreeningDecision)
  | review (userId : UserId) (decision : ComplianceDecision) (reason : Option String) (canOverrideScreening : Bool)
  | setRisk (userId : UserId) (level : ComplianceRiskLevel) (score : Option ℕ) (reason : Option String)
  | createCase (userId : UserId) (type : ComplianceCaseType) (priority : ComplianceCasePriority) (alerts : List AlertKey)
  | setCaseStatus (id : CaseId) (status : ComplianceCaseStatus) (hasNote : Bool)
  | linkAlert (key : AlertKey) (caseId : CaseId)
  | setAlertStatus (key : AlertKey) (status : ComplianceAlertStatus)
  | runForUser (userId : UserId)
  | runAll
  | runCheck (input : RunWalletRiskInput)
  | move (movements : Movements)

def Request.program (pid : ℕ) : Request → ComplianceM Unit
  | .startLiveness userId => Service.startLiveness userId
  | .verifyLiveness userId => Service.verifyLiveness config userId
  | .submitEnhanced userId input => Service.submitEnhanced config userId input
  | .runScreening userId isSystem => Service.runScreening config userId isSystem
  | .decideScreening userId checkId decision => Service.decideScreening config userId checkId decision
  | .review userId decision reason canOverrideScreening => Service.review config userId decision reason canOverrideScreening
  | .setRisk userId level score reason => Service.setRisk userId level score reason
  | .createCase userId type priority alerts => Service.createCase config pid userId type priority alerts
  | .setCaseStatus id status hasNote => Service.setCaseStatus config id status hasNote
  | .linkAlert key caseId => Service.linkAlert key caseId
  | .setAlertStatus key status => Service.setAlertStatus key status
  | .runForUser userId => Service.runForUser config userId
  | .runAll => Service.runAll config
  | .runCheck input => Service.runCheck input
  | .move movements => ask (.move movements)

/-- The request of each number. -/
def IsRequest (requests : ℕ → Request) (pid : ℕ) (program : ComplianceM Unit) : Prop :=
  program = (requests pid).program config pid

end Service
end Exchange.Compliance
