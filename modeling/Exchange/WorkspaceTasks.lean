import Exchange.AsyncDatabase
import Exchange.Text

/-! The workspace of compliance officers: tasks, and the checklists that are
filled in for them. Templates, responses and the status of a task are in three
tables. -/
namespace Exchange.WorkspaceTasks
open Async

abbrev TaskId := ℕ
abbrev TemplateId := ℕ
abbrev ResponseId := ℕ
abbrev AdminId := ℕ
/-- In milliseconds. -/
abbrev Time := ℕ

inductive ComplianceTaskType where
  | kycReview
  | screeningReview
  | strCaseReview
  | walletRiskReview
  | travelRuleReview
  | fiuDraftReview
  | taxLegalReview
  | generalAmlReview
  deriving DecidableEq, Repr

inductive ComplianceTaskStatus where
  | open
  | inProgress
  | waitingInfo
  | escalated
  | completed
  | cancelled
  deriving DecidableEq, Repr

inductive SlaStatus where
  | onTrack
  | atRisk
  | breached
  | completed
  deriving DecidableEq, Repr

structure ComplianceTask where
  type : ComplianceTaskType
  status : ComplianceTaskStatus
  completedAt : Option Time
  deriving DecidableEq, Repr

structure ComplianceSlaTracker where
  slaMinutes : ℕ
  startedAt : Time
  dueAt : Time
  status : SlaStatus
  completedAt : Option Time
  deriving DecidableEq, Repr

structure ChecklistItem where
  key : Text
  label : Text
  required : Option Bool := none
  deriving DecidableEq, Repr

structure AmlChecklistTemplate where
  taskType : ComplianceTaskType
  name : Text
  version : Text
  items : List ChecklistItem
  requiredForCompletion : Bool
  active : Bool
  createdByAdminId : Option AdminId
  deriving DecidableEq, Repr

structure ChecklistAnswer where
  key : Text
  value : Option Text := none
  note : Option Text := none
  deriving DecidableEq, Repr

structure AmlChecklistResponse where
  id : ResponseId
  taskId : TaskId
  templateId : Option TemplateId
  answers : List ChecklistAnswer
  completed : Bool
  completedByAdminId : Option AdminId
  completedAt : Option Time
  deriving DecidableEq, Repr

/-- A task with its checklists, latest first, and its tracker. -/
structure TaskWithRelations where
  task : ComplianceTask
  checklistResponses : List AmlChecklistResponse
  sla : Option ComplianceSlaTracker
  deriving DecidableEq, Repr

structure Store where
  tasks : Table TaskId ComplianceTask
  slas : Table TaskId ComplianceSlaTracker
  /-- None is deleted or changed. -/
  templates : Table TemplateId AmlChecklistTemplate
  /-- Latest first; none is deleted. -/
  responses : List AmlChecklistResponse

def findTask (id : TaskId) (s : Store) : Option TaskWithRelations :=
  (s.tasks.lookup id).map fun task => ⟨task, s.responses.filter fun response => response.taskId = id, s.slas.lookup id⟩

/-! ## Writes -/

/-- `undefined` leaves the time alone. -/
structure TaskUpdate where
  status : ComplianceTaskStatus
  completedAt : Option Time := none
  deriving DecidableEq, Repr

/-- The fields of a completed checklist: by whom, and when. -/
structure Completion where
  completedByAdminId : Option AdminId
  completedAt : Time
  deriving DecidableEq, Repr

def TaskUpdate.set (data : TaskUpdate) (task : ComplianceTask) : ComplianceTask :=
  { task with status := data.status, completedAt := data.completedAt.or task.completedAt }

def updateTask (id : TaskId) (data : TaskUpdate) (s : Store) : Except Failure (Unit × Store) :=
  match s.tasks.lookup id with
  | some task => .ok ((), { s with tasks := s.tasks.insert id (data.set task) })
  | none => .error (.prisma "P2025")

/-- Under an id that is not in use. -/
def createTemplate (id : TemplateId) (template : AmlChecklistTemplate) (s : Store) : Except Failure (TemplateId × Store) :=
  if (s.templates.lookup id).isSome then .error .uniqueViolation
  else .ok (id, { s with templates := s.templates.insert id template })

def complete (completion : Option Completion) (response : AmlChecklistResponse) : AmlChecklistResponse :=
  match completion with
  | some fields => { response with
      completed := true, completedByAdminId := fields.completedByAdminId, completedAt := some fields.completedAt }
  | none => response

def createResponse (taskId : TaskId) (templateId : Option TemplateId) (answers : List ChecklistAnswer)
    (completion : Option Completion) (s : Store) : Except Failure (Unit × Store) :=
  if (s.tasks.lookup taskId).isSome && templateId.all fun id => (s.templates.lookup id).isSome then
    let response := complete completion ⟨s.responses.length, taskId, templateId, answers, false, none, none⟩
    .ok ((), { s with responses := response :: s.responses })
  else .error (.prisma "P2003")

def updateResponse (id : ResponseId) (answers : List ChecklistAnswer) (completion : Option Completion) (s : Store) :
    Except Failure (Unit × Store) :=
  if s.responses.any fun response => response.id = id then
    .ok ((), { s with responses := s.responses.map fun response =>
      if response.id = id then complete completion { response with answers } else response })
  else .error (.prisma "P2025")

/-- A tracker is only closed here; it is there when it is. -/
def upsertSla (id : TaskId) (tracker : ComplianceSlaTracker) (now : Time) (s : Store) : Store :=
  { s with slas := s.slas.insert id (match s.slas.lookup id with
    | some present => { present with status := .completed, completedAt := some now }
    | none => tracker) }

/-! ## Calls -/

/-- Tables that are written here and not read. -/
inductive AppendOnly where
  | taskEvent
  | auditLog
  deriving DecidableEq, Repr

inductive TaskCall where
  | now
  | append (table : AppendOnly)
  | findTask (id : TaskId)
  | updateTask (id : TaskId) (data : TaskUpdate)
  | upsertSla (id : TaskId) (tracker : ComplianceSlaTracker) (now : Time)
  | createTemplate (template : AmlChecklistTemplate)
  | findTemplate (id : TemplateId)
  | createResponse (taskId : TaskId) (templateId : Option TemplateId) (answers : List ChecklistAnswer)
      (completion : Option Completion)
  | updateResponse (id : ResponseId) (answers : List ChecklistAnswer) (completion : Option Completion)
  deriving DecidableEq, Repr

abbrev TaskCall.Reply : TaskCall → Type
  | .now => Time
  | .findTask _ => Option TaskWithRelations
  | .createTemplate _ => TemplateId
  | .findTemplate _ => Option AmlChecklistTemplate
  | _ => Unit

/-- The time, and the id that the database generates. -/
structure World where
  now : Time
  uuid : ℕ

def perform (world : World) (_ : ℕ) : (call : TaskCall) → Store → Except Failure call.Reply × Store
  | .now, s => (.ok world.now, s)
  | .append _, s => (.ok (), s)
  | .findTask id, s => (.ok (findTask id s), s)
  | .updateTask id data, s => Database.written s (updateTask id data s)
  | .upsertSla id tracker now, s => (.ok (), upsertSla id tracker now s)
  | .createTemplate template, s => Database.written s (createTemplate world.uuid template s)
  | .findTemplate id, s => (.ok (s.templates.lookup id), s)
  | .createResponse taskId templateId answers completion, s =>
    Database.written s (createResponse taskId templateId answers completion s)
  | .updateResponse id answers completion, s => Database.written s (updateResponse id answers completion s)

abbrev TaskM := Async TaskCall TaskCall.Reply Failure

abbrev ask (call : TaskCall) : TaskM call.Reply := Async.call call

/-! ## The service -/

/-- Live status of a tracker; four fifths of the time are the threshold. -/
def computeSlaStatus (startedAt dueAt now : Time) (completedAt : Option Time) : SlaStatus :=
  if completedAt.isSome then .completed
  else if dueAt ≤ now then .breached
  else
    let total : ℤ := max 1 ((dueAt : ℤ) - startedAt)
    if 4 * total ≤ 5 * ((now : ℤ) - startedAt) then .atRisk else .onTrack

/-- What a request answers. -/
inductive Answer where
  | task (task : TaskWithRelations) (liveSlaStatus : Option SlaStatus)
  | template (id : TemplateId)
  | saved
  deriving DecidableEq, Repr

def findTaskOr (id : TaskId) : TaskM TaskWithRelations := do
  let found ← ask (.findTask id)
  match found with
  | some task => return task
  | none => throw (.notFoundError "Compliance task not found")

def getTask (id : TaskId) : TaskM Answer := do
  let task ← findTaskOr id
  match task.sla with
  | none => return .task task none
  | some sla => do
    let now ← ask .now
    return .task task (some (computeSlaStatus sla.startedAt sla.dueAt now sla.completedAt))

/-- A log that cannot be written is no error. -/
def audit : TaskM Unit := tryCatch (ask (.append .auditLog)) fun _ => return ()

def hasIncompleteRequiredChecklist : List AmlChecklistResponse → TaskM Bool
  | [] => return false
  | response :: rest =>
    match response.templateId with
    | none => hasIncompleteRequiredChecklist rest
    | some templateId => do
      let template ← ask (.findTemplate templateId)
      if template.any AmlChecklistTemplate.requiredForCompletion && !response.completed then return true
      else hasIncompleteRequiredChecklist rest

def checklistRequired : Failure :=
  .badRequestError "A required checklist must be completed before completing this task"

/-- Enforce required-checklist completion. -/
def checkCompletion (task : TaskWithRelations) (status : ComplianceTaskStatus) : TaskM Unit :=
  if status = .completed then do
    let incompleteRequired ← hasIncompleteRequiredChecklist task.checklistResponses
    if incompleteRequired then throw checklistRequired else return ()
  else return ()

def ComplianceTaskStatus.isEnd (status : ComplianceTaskStatus) : Bool := status = .completed || status = .cancelled

def taskUpdate (status : ComplianceTaskStatus) : TaskM TaskUpdate :=
  if status.isEnd then do
    let now ← ask .now
    return ⟨status, some now⟩
  else return ⟨status, none⟩

def closeSla (taskId : TaskId) (task : TaskWithRelations) (status : ComplianceTaskStatus) : TaskM Unit :=
  match task.sla with
  | some sla =>
    if status.isEnd then do
      let now ← ask .now
      ask (.upsertSla taskId ⟨sla.slaMinutes, sla.startedAt, sla.dueAt, .completed, none⟩ now)
    else return ()
  | none => return ()

def setStatus (taskId : TaskId) (status : ComplianceTaskStatus) : TaskM Answer := do
  let task ← findTaskOr taskId
  checkCompletion task status
  let data ← taskUpdate status
  ask (.updateTask taskId data)
  closeSla taskId task status
  ask (.append .taskEvent)
  audit
  getTask taskId

structure TemplateInput where
  taskType : ComplianceTaskType
  name : Text
  version : Option Text := none
  items : List ChecklistItem
  requiredForCompletion : Option Bool := none
  actorId : Option AdminId := none
  deriving DecidableEq, Repr

def newTemplate (input : TemplateInput) : AmlChecklistTemplate where
  taskType := input.taskType
  name := input.name
  version := input.version.getD ['v', '1']
  items := input.items
  requiredForCompletion := input.requiredForCompletion.getD false
  active := true
  createdByAdminId := input.actorId

def createTemplateFor (input : TemplateInput) : TaskM Answer := do
  let id ← ask (.createTemplate (newTemplate input))
  audit
  return .template id

structure ChecklistInput where
  taskId : TaskId
  templateId : Option TemplateId := none
  answers : List ChecklistAnswer
  complete : Bool := false
  actorId : Option AdminId := none
  deriving DecidableEq, Repr

def completedFields (input : ChecklistInput) : TaskM (Option Completion) :=
  if input.complete then do
    let now ← ask .now
    return some ⟨input.actorId, now⟩
  else return none

/-- The latest response to the template, or the latest to none. -/
def existingResponse (input : ChecklistInput) (task : TaskWithRelations) : Option AmlChecklistResponse :=
  task.checklistResponses.find? fun response => response.templateId = input.templateId

def saveResponse (input : ChecklistInput) (existing : Option AmlChecklistResponse) (completion : Option Completion) :
    TaskM Unit :=
  match existing with
  | some response => ask (.updateResponse response.id input.answers completion)
  | none => ask (.createResponse input.taskId input.templateId input.answers completion)

def saveChecklist (input : ChecklistInput) : TaskM Answer := do
  let task ← findTaskOr input.taskId
  let completion ← completedFields input
  saveResponse input (existingResponse input task) completion
  ask (.append .taskEvent)
  audit
  return .saved

/-! ## Requests -/

inductive Request where
  | createTemplate (input : TemplateInput)
  | saveChecklist (input : ChecklistInput)
  | setStatus (taskId : TaskId) (status : ComplianceTaskStatus)
  deriving DecidableEq, Repr

def handle : Request → TaskM Answer
  | .createTemplate input => createTemplateFor input
  | .saveChecklist input => saveChecklist input
  | .setStatus taskId status => setStatus taskId status

def IsRequest (requests : ℕ → Request) (pid : ℕ) (program : TaskM Answer) : Prop := program = handle (requests pid)

abbrev History := Logged ℕ TaskCall TaskCall.Reply Failure Store

abbrev Past := List (Answered TaskCall TaskCall.Reply Failure)

abbrev TaskPool := Pool ℕ TaskCall TaskCall.Reply Failure Answer History

/-- A call as a request may see it. -/
abbrev Makes (pid : ℕ) (call : TaskCall) (s : Store) (reply : Except Failure call.Reply) (s' : Store) : Prop :=
  Database.Makes perform pid call s reply s'

/-- Any call at any time. -/
def interleaved (pid : ℕ) (call : TaskCall) (x : History) (reply : Except Failure call.Reply) (s' : Store) : Prop :=
  Makes pid call x.store reply s'

end Exchange.WorkspaceTasks
