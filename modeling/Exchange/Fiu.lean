import Exchange.AsyncDatabase
import Exchange.FiuValidation
import Exchange.Table

/-! Draft reports for the financial intelligence unit. A report is created, then
filled from what compliance knows of its subject; it is validated, marked and
exported by later requests, which look at a status and a count of errors. -/
namespace Exchange.Fiu
open Async

abbrev Time := ℕ

inductive FiuDraftStatus where
  | draft
  | validating
  | readyForInternalReview
  | exportedDraft
  | failed
  | archived
  deriving DecidableEq, Repr

inductive FiuItemType where
  | subject
  | riskAssessment
  | walletRiskCheck
  | travelRule
  | case
  | alert
  | evidencePackRef
  deriving DecidableEq, Repr

/-- An item of a report; its masked data is serialized. -/
structure FiuDraftReportItem where
  itemType : FiuItemType
  refId : ℕ
  title : Text
  data : Text
  deriving DecidableEq, Repr

structure FiuGenerateInput where
  reportType : FiuReportType
  scopeType : FiuReportScopeType
  userId : Option UserId := none
  caseId : Option CaseId := none
  evidencePackId : Option PackId := none
  narrative : Option Text := none
  actorId : Option AdminId := none
  deriving DecidableEq, Repr

/-- What a draft says, and what was said of it. -/
structure FiuDraftReport where
  reportType : FiuReportType
  scopeType : FiuReportScopeType
  scopeUserId : Option UserId
  scopeCaseId : Option CaseId
  evidencePackId : Option PackId
  narrative : Option Text
  generatedByAdminId : Option AdminId
  /-- Serialized. -/
  payload : Option Text
  checksum : Option Text
  items : List FiuDraftReportItem
  status : FiuDraftStatus
  errorCount : ℕ
  warningCount : ℕ
  deriving DecidableEq, Repr

def newReport (input : FiuGenerateInput) (scopeUserId : Option UserId) (scopeCaseId : Option CaseId) : FiuDraftReport where
  reportType := input.reportType
  scopeType := input.scopeType
  scopeUserId := scopeUserId
  scopeCaseId := scopeCaseId
  evidencePackId := input.evidencePackId
  narrative := input.narrative
  generatedByAdminId := input.actorId
  payload := none
  checksum := none
  items := []
  status := .draft
  errorCount := 0
  warningCount := 0

abbrev Store := Table ReportId FiuDraftReport

/-! ## Calls -/

/-- A row of another table: its id, a word for its title, and its masked data. -/
structure SourceRow where
  id : ℕ
  word : Text
  data : Text
  deriving DecidableEq, Repr

structure CaseRow where
  row : SourceRow
  userId : UserId
  alerts : List SourceRow
  deriving DecidableEq, Repr

/-- The columns that an update sets. -/
inductive ReportUpdate where
  | content (payload checksum : Text)
  | validation (status : FiuDraftStatus) (errorCount warningCount : ℕ)
  | setStatus (status : FiuDraftStatus)
  deriving DecidableEq, Repr

def ReportUpdate.set : ReportUpdate → FiuDraftReport → FiuDraftReport
  | .content payload checksum, report => { report with payload := some payload, checksum := some checksum }
  | .validation status errorCount warningCount, report =>
    { report with status := status, errorCount := errorCount, warningCount := warningCount }
  | .setStatus status, report => { report with status := status }

/-- Tables that are written here and not read. -/
inductive AppendOnly where
  | issues (issues : List ValidationIssue)
  | exportEvent (id : ReportId) (checksum : Option Text)
  | complianceExportEvent (id : ReportId) (checksum : Option Text)
  | auditLog
  deriving DecidableEq, Repr

inductive FiuCall where
  | now
  | append (rows : AppendOnly)
  | caseById (id : CaseId)
  | findProfileWithUser (userId : UserId)
  | findUserBasic (userId : UserId)
  | listRiskAssessments (userId : UserId)
  | walletRiskChecksForUser (userId : UserId)
  | findPack (id : PackId)
  | createReport (report : FiuDraftReport)
  | updateReport (id : ReportId) (data : ReportUpdate)
  | findReport (id : ReportId)
  | createItems (id : ReportId) (items : List FiuDraftReportItem)
  deriving DecidableEq, Repr

abbrev FiuCall.Reply : FiuCall → Type
  | .now => Time
  | .caseById _ => Option CaseRow
  | .findProfileWithUser _ => Option SourceRow
  | .findUserBasic _ => Option SourceRow
  | .listRiskAssessments _ => List SourceRow
  | .walletRiskChecksForUser _ => List SourceRow
  | .findPack _ => Option SourceRow
  | .createReport _ => ReportId
  | .updateReport _ _ => FiuDraftReport
  | .findReport _ => Option FiuDraftReport
  | _ => Unit

/-- The time, the id that the database generates, and what the other tables hold. -/
structure World where
  now : Time
  uuid : ℕ
  case : Option CaseRow := none
  profile : Option SourceRow := none
  user : Option SourceRow := none
  riskAssessments : List SourceRow := []
  walletRiskChecks : List SourceRow := []
  pack : Option SourceRow := none

def createReport (id : ReportId) (report : FiuDraftReport) (s : Store) : Except Failure (ReportId × Store) :=
  if (s.lookup id).isSome then .error .uniqueViolation else .ok (id, s.insert id report)

def updateReport (id : ReportId) (data : ReportUpdate) (s : Store) : Except Failure (FiuDraftReport × Store) :=
  match s.lookup id with
  | some report => .ok (data.set report, s.insert id (data.set report))
  | none => .error (.prisma "P2025")

def createItems (id : ReportId) (items : List FiuDraftReportItem) (s : Store) : Except Failure (Unit × Store) :=
  match s.lookup id with
  | some report => .ok ((), s.insert id { report with items := report.items ++ items })
  | none => .error (.prisma "P2003")

def perform (world : World) (_ : ℕ) : (call : FiuCall) → Store → Except Failure call.Reply × Store
  | .now, s => (.ok world.now, s)
  | .append _, s => (.ok (), s)
  | .caseById _, s => (.ok world.case, s)
  | .findProfileWithUser _, s => (.ok world.profile, s)
  | .findUserBasic _, s => (.ok world.user, s)
  | .listRiskAssessments _, s => (.ok world.riskAssessments, s)
  | .walletRiskChecksForUser _, s => (.ok world.walletRiskChecks, s)
  | .findPack _, s => (.ok world.pack, s)
  | .createReport report, s => Database.written s (createReport world.uuid report s)
  | .updateReport id data, s => Database.written s (updateReport id data s)
  | .findReport id, s => (.ok (s.lookup id), s)
  | .createItems id items, s => Database.written s (createItems id items s)

abbrev FiuM := Async FiuCall FiuCall.Reply Failure

abbrev ask (call : FiuCall) : FiuM call.Reply := Async.call call

/-! ## Generation -/

def item (itemType : FiuItemType) (title : Text) (row : SourceRow) : FiuDraftReportItem := ⟨itemType, row.id, title, row.data⟩

def subjectItems (userId : UserId) : FiuM (List FiuDraftReportItem) := do
  let profile ← ask (.findProfileWithUser userId)
  match profile with
  | some row => return [⟨.subject, userId, "Subject (masked)".toList, row.data⟩]
  | none => do
    let user ← ask (.findUserBasic userId)
    return user.toList.map (item .subject "Subject (basic)".toList)

def userItems : Option UserId → FiuM (List FiuDraftReportItem)
  | none => return []
  | some userId => do
    let subject ← subjectItems userId
    let risk ← ask (.listRiskAssessments userId)
    let wallet ← ask (.walletRiskChecksForUser userId)
    return subject ++ risk.map (fun row => item .riskAssessment ("Risk (".toList ++ row.word ++ [')']) row) ++
      wallet.map fun row => item .walletRiskCheck ("Wallet risk: ".toList ++ row.word) row

def caseItems : Option CaseId → FiuM (List FiuDraftReportItem)
  | none => return []
  | some caseId => do
    let found ← ask (.caseById caseId)
    match found with
    | some theCase => return item .case theCase.row.word theCase.row ::
        theCase.alerts.map fun row => item .alert row.word row
    | none => return []

def packItems : Option PackId → FiuM (List FiuDraftReportItem)
  | none => return []
  | some packId => do
    let pack ← ask (.findPack packId)
    return pack.toList.map fun row => item .evidencePackRef ("Evidence pack ".toList ++ row.word) row

def writeItems (id : ReportId) (items : List FiuDraftReportItem) : FiuM Unit :=
  if items.isEmpty then return () else ask (.createItems id items)

/-- How a payload is put together, without secrets, and its checksum. -/
abbrev Assemble := ReportId → FiuGenerateInput → Option UserId → Option CaseId → Time → List FiuDraftReportItem → Text × Text

/-- What a request answers. -/
inductive Answer where
  | report (report : FiuDraftReport)
  | payload (payload : Option Text)
  deriving DecidableEq

def findReportOr (id : ReportId) : FiuM FiuDraftReport := do
  let found ← ask (.findReport id)
  match found with
  | some report => return report
  | none => throw (.notFoundError "FIU draft report not found")

def get (id : ReportId) : FiuM Answer := do
  let report ← findReportOr id
  return .report report

/-- A log that cannot be written is no error. -/
def recordAudit : FiuM Unit := tryCatch (ask (.append .auditLog)) fun _ => return ()

/-- The case that a report is about, and its user if none is named. -/
def resolveScope (input : FiuGenerateInput) : FiuM (Option UserId × Option CaseId) :=
  match input.caseId with
  | none => return (input.userId, none)
  | some caseId => do
    let found ← ask (.caseById caseId)
    match found with
    | some theCase => return (input.userId.or (some theCase.userId), some theCase.row.id)
    | none => throw (.notFoundError "Compliance case not found")

section Generate
variable (assemble : Assemble)

/-- The part whose failure is written on the report. -/
def fill (input : FiuGenerateInput) (id : ReportId) (scopeUserId : Option UserId) (scopeCaseId : Option CaseId) :
    FiuM Answer := do
  let user ← userItems scopeUserId
  let case ← caseItems scopeCaseId
  let pack ← packItems input.evidencePackId
  let now ← ask .now
  let (payload, checksum) := assemble id input scopeUserId scopeCaseId now (user ++ case ++ pack)
  let _ ← ask (.updateReport id (.content payload checksum))
  writeItems id (user ++ case ++ pack)
  recordAudit
  get id

def generate (input : FiuGenerateInput) : FiuM Answer := do
  let scope ← resolveScope input
  let id ← ask (.createReport (newReport input scope.1 scope.2))
  tryCatch (fill assemble input id scope.1 scope.2) fun failure => do
    let _ ← ask (.updateReport id (.setStatus .failed))
    throw failure

end Generate

/-! ## Validation and export -/

def isTransactionRef (item : FiuDraftReportItem) : Bool :=
  item.itemType = .walletRiskCheck || item.itemType = .alert || item.itemType = .travelRule

def validationContext (report : FiuDraftReport) : ValidationContext where
  reportType := report.reportType
  scopeType := report.scopeType
  scopeUserId := report.scopeUserId
  scopeCaseId := report.scopeCaseId
  evidencePackId := report.evidencePackId
  narrative := report.narrative
  generatedByAdminId := report.generatedByAdminId
  hasProfileItem := report.items.any fun item => item.itemType = .subject
  hasCaseItem := report.items.any fun item => item.itemType = .case
  hasTransactionRefs := report.items.any isTransactionRef
  payloadString := report.payload.getD ['{', '}']

def issuesOf (report : FiuDraftReport) : List ValidationIssue := validateDraft (validationContext report)

/-- What a validation writes of a report. -/
def validationUpdate (report : FiuDraftReport) : ReportUpdate :=
  let errorCount := countSeverity .error (issuesOf report)
  .validation (if errorCount = 0 then .readyForInternalReview else .draft) errorCount
    (countSeverity .warning (issuesOf report))

def createIssues (issues : List ValidationIssue) : FiuM Unit :=
  if issues.isEmpty then return () else ask (.append (.issues issues))

def validate (id : ReportId) : FiuM Answer := do
  let report ← findReportOr id
  createIssues (issuesOf report)
  let _ ← ask (.updateReport id (validationUpdate report))
  recordAudit
  get id

/-- What `export` looks at. -/
def FiuDraftReport.isExportable (report : FiuDraftReport) : Bool :=
  report.errorCount = 0 && (report.status = .readyForInternalReview || report.status = .exportedDraft)

def notReady : Failure := .badRequestError "Report must be validated with no ERROR issues before export"

def markExported (id : ReportId) (report : FiuDraftReport) : FiuM Unit :=
  if report.status ≠ .exportedDraft then do
    let _ ← ask (.updateReport id (.setStatus .exportedDraft))
    return ()
  else return ()

def exportReport (id : ReportId) (report : FiuDraftReport) : FiuM Answer := do
  ask (.append (.exportEvent id report.checksum))
  ask (.append (.complianceExportEvent id report.checksum))
  markExported id report
  recordAudit
  return .payload report.payload

def exportDraft (id : ReportId) : FiuM Answer := do
  let report ← findReportOr id
  if report.isExportable then exportReport id report else throw notReady

def hasErrors : Failure := .badRequestError "Cannot mark ready while ERROR issues exist"

def writeStatus (id : ReportId) (status : FiuDraftStatus) : FiuM Answer := do
  let updated ← ask (.updateReport id (.setStatus status))
  recordAudit
  return .report updated

/-- The statuses that an admin may set. -/
inductive SettableStatus where
  | draft
  | readyForInternalReview
  | archived
  deriving DecidableEq, Repr

def SettableStatus.status : SettableStatus → FiuDraftStatus
  | .draft => .draft
  | .readyForInternalReview => .readyForInternalReview
  | .archived => .archived

def setStatus (id : ReportId) (status : SettableStatus) : FiuM Answer := do
  let report ← findReportOr id
  if status = .readyForInternalReview ∧ 0 < report.errorCount then throw hasErrors
  else writeStatus id status.status

/-! ## Requests -/

inductive Request where
  | generate (input : FiuGenerateInput)
  | validate (id : ReportId)
  | exportDraft (id : ReportId)
  | setStatus (id : ReportId) (status : SettableStatus)
  deriving DecidableEq, Repr

def handle (assemble : Assemble) : Request → FiuM Answer
  | .generate input => generate assemble input
  | .validate id => validate id
  | .exportDraft id => exportDraft id
  | .setStatus id status => setStatus id status

def IsRequest (assemble : Assemble) (requests : ℕ → Request) (pid : ℕ) (program : FiuM Answer) : Prop :=
  program = handle assemble (requests pid)

abbrev History := Logged ℕ FiuCall FiuCall.Reply Failure Store

abbrev Past := List (Answered FiuCall FiuCall.Reply Failure)

abbrev FiuPool := Pool ℕ FiuCall FiuCall.Reply Failure Answer History

/-- A call as a request may see it. -/
abbrev Makes (pid : ℕ) (call : FiuCall) (s : Store) (reply : Except Failure call.Reply) (s' : Store) : Prop :=
  Database.Makes perform pid call s reply s'

/-- Any call at any time. -/
def interleaved (pid : ℕ) (call : FiuCall) (x : History) (reply : Except Failure call.Reply) (s' : Store) : Prop :=
  Makes pid call x.store reply s'

end Exchange.Fiu
