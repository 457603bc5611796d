import Exchange.AsyncDatabase
import Exchange.Text

/-! Travel-rule records: the status machine of an action, and the service that
applies it. An action reads the record, decides from what it has read where the
record goes, and writes that without a condition. -/
namespace Exchange.TravelRule
open Async

abbrev TransferId := ℕ
abbrev AdminId := ℕ
abbrev Time := ℕ

inductive TravelRuleStatus where
  | notRequired
  | required
  | pendingInfo
  | ready
  | sentMock
  | failed
  | exempted
  deriving DecidableEq, Repr

inductive TravelRuleAction where
  | collected
  | exempted
  | sentMock
  | requestInfo
  deriving DecidableEq, Repr

def TravelRuleStatus.text : TravelRuleStatus → String
  | .notRequired => "NOT_REQUIRED"
  | .required => "REQUIRED"
  | .pendingInfo => "PENDING_INFO"
  | .ready => "READY"
  | .sentMock => "SENT_MOCK"
  | .failed => "FAILED"
  | .exempted => "EXEMPTED"

def TravelRuleAction.text : TravelRuleAction → String
  | .collected => "COLLECTED"
  | .exempted => "EXEMPTED"
  | .sentMock => "SENT_MOCK"
  | .requestInfo => "REQUEST_INFO"

/-- The target status of an action, or none where the transition is invalid. -/
def nextStatusForAction (current : TravelRuleStatus) : TravelRuleAction → Option TravelRuleStatus
  | .requestInfo => if current = .required ∨ current = .failed then some .pendingInfo else none
  | .collected => if current = .required ∨ current = .pendingInfo ∨ current = .failed then some .ready else none
  | .sentMock => if current = .ready then some .sentMock else none
  | .exempted => if current = .sentMock ∨ current = .exempted then none else some .exempted

/-- No action leads on from here. -/
def TravelRuleStatus.isTerminal : TravelRuleStatus → Bool
  | .sentMock => true
  | .exempted => true
  | _ => false

/-- The columns that an action reads or writes. -/
structure TravelRuleTransfer where
  status : TravelRuleStatus
  infoCollectedAt : Option Time
  sentMockAt : Option Time
  exemptedReason : Option Text
  reviewedByAdminId : Option AdminId
  notes : Option Text
  deriving DecidableEq, Repr

/-- `undefined` leaves a column alone. -/
structure TransferUpdate where
  status : TravelRuleStatus
  reviewedByAdminId : Option AdminId
  notes : Option Text := none
  infoCollectedAt : Option Time := none
  sentMockAt : Option Time := none
  exemptedReason : Option Text := none
  deriving DecidableEq, Repr

def TransferUpdate.set (data : TransferUpdate) (transfer : TravelRuleTransfer) : TravelRuleTransfer where
  status := data.status
  reviewedByAdminId := data.reviewedByAdminId
  notes := data.notes.or transfer.notes
  infoCollectedAt := data.infoCollectedAt.or transfer.infoCollectedAt
  sentMockAt := data.sentMockAt.or transfer.sentMockAt
  exemptedReason := data.exemptedReason.or transfer.exemptedReason

/-- What an action leaves in the audit log. -/
structure AuditEntry where
  actorId : Option AdminId
  entityId : TransferId
  action : TravelRuleAction
  before : TravelRuleStatus
  after : TravelRuleStatus
  deriving DecidableEq, Repr

structure Store where
  transfers : Table TransferId TravelRuleTransfer
  audits : List AuditEntry

inductive TravelRuleCall where
  | now
  | findTransfer (id : TransferId)
  | updateTransfer (id : TransferId) (data : TransferUpdate)
  | createAudit (entry : AuditEntry)
  deriving DecidableEq, Repr

abbrev TravelRuleCall.Reply : TravelRuleCall → Type
  | .now => Time
  | .findTransfer _ => Option TravelRuleTransfer
  | .updateTransfer _ _ => TravelRuleTransfer
  | .createAudit _ => Unit

def updateTransfer (id : TransferId) (data : TransferUpdate) (s : Store) :
    Except Failure (TravelRuleTransfer × Store) :=
  match s.transfers.lookup id with
  | some transfer => .ok (data.set transfer, { s with transfers := s.transfers.insert id (data.set transfer) })
  | none => .error (.prisma "P2025")

/-- The world is the clock. -/
def perform (now : Time) (_ : ℕ) : (call : TravelRuleCall) → Store → Except Failure call.Reply × Store
  | .now, s => (.ok now, s)
  | .findTransfer id, s => (.ok (s.transfers.lookup id), s)
  | .updateTransfer id data, s => Database.written s (updateTransfer id data s)
  | .createAudit entry, s => (.ok (), { s with audits := entry :: s.audits })

abbrev TravelRuleM := Async TravelRuleCall TravelRuleCall.Reply Failure

abbrev ask (call : TravelRuleCall) : TravelRuleM call.Reply := Async.call call

/-! ## The service -/

structure ActionInput where
  transferId : TransferId
  action : TravelRuleAction
  note : Option Text := none
  exemptedReason : Option Text := none
  actorId : Option AdminId := none
  deriving DecidableEq, Repr

def invalidTransition (action : TravelRuleAction) (status : TravelRuleStatus) : Failure :=
  .badRequestError ("Cannot " ++ action.text ++ " a transfer in status " ++ status.text)

/-- An empty note is no note. -/
def writtenNote (input : ActionInput) : Option Text := input.note.filter fun note => !note.isEmpty

/-- The part of the update that an action adds. -/
def updateFor (input : ActionInput) (target : TravelRuleStatus) : TravelRuleM TransferUpdate :=
  let data : TransferUpdate := { status := target, reviewedByAdminId := input.actorId, notes := writtenNote input }
  match input.action with
  | .collected => do
    let now ← ask .now
    return { data with infoCollectedAt := some now }
  | .sentMock => do
    let now ← ask .now
    return { data with sentMockAt := some now }
  | .exempted => return { data with
      exemptedReason := (input.exemptedReason.or input.note).or (some "Exempted by admin".toList) }
  | .requestInfo => return data

/-- A log that cannot be written is no error. -/
def recordAudit (entry : AuditEntry) : TravelRuleM Unit := tryCatch (ask (.createAudit entry)) fun _ => return ()

def applyTransition (input : ActionInput) (transfer : TravelRuleTransfer) (target : TravelRuleStatus) :
    TravelRuleM TravelRuleTransfer := do
  let data ← updateFor input target
  let updated ← ask (.updateTransfer input.transferId data)
  recordAudit ⟨input.actorId, input.transferId, input.action, transfer.status, target⟩
  return updated

def applyAction (input : ActionInput) : TravelRuleM TravelRuleTransfer := do
  let found ← ask (.findTransfer input.transferId)
  match found with
  | none => throw (.notFoundError "Travel Rule transfer not found")
  | some transfer =>
    match nextStatusForAction transfer.status input.action with
    | none => throw (invalidTransition input.action transfer.status)
    | some target => applyTransition input transfer target

/-! ## Runs -/

abbrev History := Logged ℕ TravelRuleCall TravelRuleCall.Reply Failure Store

abbrev Past := List (Answered TravelRuleCall TravelRuleCall.Reply Failure)

abbrev TravelRulePool := Pool ℕ TravelRuleCall TravelRuleCall.Reply Failure TravelRuleTransfer History

def IsRequest (inputs : ℕ → ActionInput) (pid : ℕ) (program : TravelRuleM TravelRuleTransfer) : Prop :=
  program = applyAction (inputs pid)

/-- A call as a request may see it. -/
abbrev Makes (pid : ℕ) (call : TravelRuleCall) (s : Store) (reply : Except Failure call.Reply) (s' : Store) : Prop :=
  Database.Makes perform pid call s reply s'

/-- Any call at any time. -/
def interleaved (pid : ℕ) (call : TravelRuleCall) (x : History) (reply : Except Failure call.Reply) (s' : Store) : Prop :=
  Makes pid call x.store reply s'

def statusOf (s : Store) (id : TransferId) : Option TravelRuleStatus :=
  (s.transfers.lookup id).map TravelRuleTransfer.status

/-- Each change of a record's status is what the machine gives, for the action of
some request, from the status that the record has then. -/
def Stepwise (step : ℕ → (call : TravelRuleCall) → History → Except Failure call.Reply → Store → Prop)
    (inputs : ℕ → ActionInput) (pool : TravelRulePool) : Prop :=
  ∀ pool', Pool.Step (Logged.protocol step) (IsRequest inputs) pool pool' →
    ∀ id current target, statusOf pool.store.store id = some current → statusOf pool'.store.store id = some target →
      current ≠ target → ∃ pid, (inputs pid).transferId = id ∧ nextStatusForAction current (inputs pid).action = some target

/-- A terminal status stays. -/
def Final (step : ℕ → (call : TravelRuleCall) → History → Except Failure call.Reply → Store → Prop)
    (inputs : ℕ → ActionInput) (pool : TravelRulePool) : Prop :=
  ∀ pool', Relation.ReflTransGen (Pool.Step (Logged.protocol step) (IsRequest inputs)) pool pool' →
    ∀ id current, statusOf pool.store.store id = some current → current.isTerminal →
      statusOf pool'.store.store id = some current

/-- The status that a request has read. -/
def readStatus : Past → Option TravelRuleStatus :=
  List.findSome? fun
    | ⟨.findTransfer _, .ok found⟩ => found.map TravelRuleTransfer.status
    | _ => none

/-- When the record is written, its status is the one that was read, or one from
which the action leads to the same; or it is already where the action leads. -/
def isTimely (x : History) (pid : ℕ) (action : TravelRuleAction) : TravelRuleCall → Bool
  | .updateTransfer id data => (statusOf x.store id).all fun current =>
      nextStatusForAction current action = (readStatus (x.past pid)).bind (nextStatusForAction · action) ||
        current = data.status
  | _ => true

def followed (inputs : ℕ → ActionInput) (pid : ℕ) (call : TravelRuleCall) (x : History)
    (reply : Except Failure call.Reply) (s' : Store) : Prop :=
  Makes pid call x.store reply s' ∧ isTimely x pid (inputs pid).action call

/-! ## What an action does -/

variable {inputs : ℕ → ActionInput} {input : ActionInput} {past : Past} {x : History} {pid : ℕ} {call : TravelRuleCall}
  {reply : Except Failure call.Reply} {s s' : Store} {id : TransferId} {current status target : TravelRuleStatus}
  {pool : TravelRulePool}

def isUpdate : TravelRuleCall → Bool
  | .updateTransfer _ _ => true
  | _ => false

/-- The calls an action may make: it writes what follows from what it has read. -/
inductive May (input : ActionInput) (past : Past) : TravelRuleCall → Prop
  | neutral {call : TravelRuleCall} (neutral : isUpdate call = false) : May input past call
  | updateTransfer {data : TransferUpdate} {status : TravelRuleStatus} (read : readStatus past = some status)
      (leads : nextStatusForAction status input.action = some data.status) :
      May input past (.updateTransfer input.transferId data)

theorem recordAudit_lawful (entry : AuditEntry) : Lawful (May input) past (recordAudit entry) :=
  lawful_catch (lawful_ask (.neutral rfl)) fun _ _ => trivial

/-- The update leads where the machine does. -/
theorem updateFor_obeys (read : readStatus past = some status) :
    (updateFor input target).Obeys (May input) (EndsWith (fun _ => True) fun data later =>
      readStatus later = some status ∧ data.status = target) past := by
  unfold updateFor
  cases input.action with
  | collected =>
    refine ⟨.neutral rfl, fun reply => ?_⟩
    cases reply with
    | error failure => trivial
    | ok now => exact ⟨read, rfl⟩
  | sentMock =>
    refine ⟨.neutral rfl, fun reply => ?_⟩
    cases reply with
    | error failure => trivial
    | ok now => exact ⟨read, rfl⟩
  | exempted => exact ⟨read, rfl⟩
  | requestInfo => exact ⟨read, rfl⟩

theorem applyTransition_lawful {transfer : TravelRuleTransfer} (read : readStatus past = some status)
    (leads : nextStatusForAction status input.action = some target) :
    Lawful (May input) past (applyTransition input transfer target) := by
  refine lawful_seq (updateFor_obeys read) fun data later _ ⟨read', isTarget⟩ => ?_
  refine lawful_call (.updateTransfer read' (isTarget ▸ leads)) fun updated => ?_
  exact lawful_bind (recordAudit_lawful _) fun _ _ => trivial

theorem applyAction_lawful : Lawful (May input) [] (applyAction input) := by
  refine lawful_call (.neutral rfl) fun found => ?_
  cases found with
  | none => trivial
  | some transfer =>
    change Lawful _ _ (match nextStatusForAction transfer.status input.action with | none => _ | some target => _)
    split
    · trivial
    · rename_i target leads
      exact applyTransition_lawful rfl leads

theorem isRequest_lawful (pid : ℕ) (program : TravelRuleM TravelRuleTransfer) (isRequest : IsRequest inputs pid program) :
    Lawful (May (inputs pid)) [] program := by
  rw [isRequest]
  exact applyAction_lawful

/-- A call leaves every status, or writes one record. -/
theorem statusOf_made (made : Makes pid call s reply s') : statusOf s' id = statusOf s id ∨
    ∃ data, call = .updateTransfer id data ∧ statusOf s' id = some data.status ∧ (statusOf s id).isSome := by
  rcases made with ⟨now, ran⟩ | ⟨-, rfl⟩
  · cases call with
    | now => cases ran; exact .inl rfl
    | findTransfer => cases ran; exact .inl rfl
    | createAudit => cases ran; exact .inl rfl
    | updateTransfer written data =>
      rcases Database.written_cases ran with ⟨value, rfl, ok⟩ | ⟨-, rfl⟩
      · simp only [updateTransfer] at ok
        split at ok
        · rename_i transfer found
          cases ok
          by_cases same : id = written
          · subst same
            exact .inr ⟨data, rfl, by simp [statusOf, TransferUpdate.set], by simp [statusOf, found]⟩
          · exact .inl (by simp [statusOf, AList.lookup_insert_ne same])
        · cases ok
      · exact .inl rfl
  · exact .inl rfl

theorem next_terminal (terminal : current.isTerminal) (action : TravelRuleAction) :
    nextStatusForAction current action = none := by
  cases current with
  | sentMock => cases action <;> rfl
  | exempted => cases action <;> rfl
  | _ => cases terminal

/-- A timely write goes where the machine goes from the status that is there. -/
theorem leads_of_made (may : May (inputs pid) (x.past pid) call) (made : followed inputs pid call x reply s')
    (before : statusOf x.store id = some current) (after : statusOf s' id = some target) (changed : current ≠ target) :
    (inputs pid).transferId = id ∧ nextStatusForAction current (inputs pid).action = some target := by
  obtain ⟨makes, timely⟩ := made
  rcases @statusOf_made pid call reply x.store s' id makes with same | ⟨data, rfl, isData, -⟩
  · exact absurd (Option.some.inj (before.symm.trans (same.symm.trans after))) changed
  · cases isData.symm.trans after
    cases may with
    | neutral neutral => cases neutral
    | updateTransfer read leads =>
      simp only [isTimely, before, Option.all_some, read, Option.bind_some, leads, Bool.or_eq_true, decide_eq_true_eq]
        at timely
      exact ⟨rfl, timely.resolve_right changed⟩

theorem status_stays (may : May (inputs pid) (x.past pid) call) (made : followed inputs pid call x reply s')
    (before : statusOf x.store id = some current) (terminal : current.isTerminal) : statusOf s' id = some current := by
  rcases @statusOf_made pid call reply x.store s' id made.1 with same | ⟨data, -, isData, -⟩
  · exact same.trans before
  · by_cases changed : current = data.status
    · rw [isData, changed]
    · have leads := (leads_of_made may made before isData changed).2
      rw [next_terminal terminal] at leads
      cases leads

/-- While every record has at its write the status that was read, or one from
which the action leads to the same, the machine is kept: each change is a step of
it, and no terminal status is left. -/
theorem machine_kept (run : Logged.Run (followed inputs) (IsRequest inputs) (fun _ => True) pool) :
    Stepwise (followed inputs) inputs pool ∧ Final (followed inputs) inputs pool := by
  constructor
  · intro pool' step id current target before after changed
    rcases (Logged.Run.orderly isRequest_lawful run).made step with same | ⟨pid, call, reply, s', may, made, grown⟩
    · rw [same] at after
      exact absurd (Option.some.inj (before.symm.trans after)) changed
    · rw [grown] at after
      exact ⟨pid, leads_of_made may made before after changed⟩
  · intro pool' steps id current before terminal
    exact @Logged.Run.keeps _ _ _ _ _ _ _ _ _ _ _ _ _ _ (fun x => statusOf x.store id = some current) isRequest_lawful
      (fun x pid call reply s' holds may made => status_stays may made holds terminal) run steps before

/-! ## A record that is sent and exempted -/

def waitingTransfer : TravelRuleTransfer := ⟨.ready, none, none, none, none, none⟩

def waitingStore : Store := ⟨(∅ : Table TransferId TravelRuleTransfer).insert 1 waitingTransfer, []⟩

/-- Requests 1 and 2 send and exempt; request 3 collects. -/
def eachAction : ℕ → ActionInput
  | 1 => ⟨1, .sentMock, none, none, some 1⟩
  | 2 => ⟨1, .exempted, none, none, some 2⟩
  | _ => ⟨1, .collected, none, none, some 3⟩

/-- The record is sent, and stays so. -/
theorem sent_stays : ∃ pool : TravelRulePool, statusOf pool.store.store 1 = some .sentMock ∧
    Final (followed eachAction) eachAction pool := by
  have played : (Database.schedule perform (fun _ => 7) (fun _ _ => false)
      (fun pid call x _ => isTimely x pid (eachAction pid).action call) (fun pid => applyAction (eachAction pid)) [1, 2]
      [(1, 4), (2, 4)] waitingStore).map (fun pool => statusOf pool.store.store 1) = some (some .sentMock) := by
    decide +kernel
  obtain ⟨pool, scheduled, sent⟩ := Option.map_eq_some_iff.mp played
  have run : Logged.Run (followed eachAction) (IsRequest eachAction) (fun _ => True) pool :=
    Database.schedule_run trivial (fun _ => rfl) (fun _ _ _ _ _ allowed makes => ⟨makes, allowed⟩) scheduled
  exact ⟨pool, sent, (machine_kept run).2⟩

def sentTransfer : TravelRuleTransfer := ⟨.sentMock, none, some 7, none, some 1, none⟩

def exemptedData : TransferUpdate :=
  { status := .exempted, reviewedByAdminId := some 2, exemptedReason := some "Exempted by admin".toList }

/-- The second request has read the record before the first one sends it, and
exempts it afterwards. -/
theorem sent_then_exempted : ¬∀ pool : TravelRulePool,
    Logged.Run interleaved (IsRequest eachAction) (fun _ => True) pool →
      Stepwise interleaved eachAction pool ∧ Final interleaved eachAction pool := by
  intro kept
  have played : (Database.schedule perform (fun _ => 7) (fun _ _ => false) (fun _ _ _ _ => true)
      (fun pid => applyAction (eachAction pid)) [1, 2] [(2, 1), (1, 4)] waitingStore).map (fun pool =>
        (Logged.waitsFor pool 2, pool.store.store.transfers.lookup 1)) =
      some (some (.updateTransfer 1 exemptedData), some sentTransfer) := by decide +kernel
  obtain ⟨pool, scheduled, facts⟩ := Option.map_eq_some_iff.mp played
  simp only [Prod.mk.injEq] at facts
  obtain ⟨waits, sent⟩ := facts
  obtain ⟨next, waiting⟩ := Logged.waiting_of_waitsFor waits
  have run : Logged.Run interleaved (IsRequest eachAction) (fun _ => True) pool :=
    Database.schedule_run trivial (fun _ => rfl) (fun _ _ _ _ _ _ makes => makes) scheduled
  have written : updateTransfer 1 exemptedData pool.store.store = .ok (exemptedData.set sentTransfer,
      { pool.store.store with transfers := pool.store.store.transfers.insert 1 (exemptedData.set sentTransfer) }) := by
    simp only [updateTransfer, sent]
  have performed : Makes 2 (.updateTransfer 1 exemptedData) pool.store.store (.ok (exemptedData.set sentTransfer))
      { pool.store.store with transfers := pool.store.store.transfers.insert 1 (exemptedData.set sentTransfer) } := by
    refine .inl ⟨7, ?_⟩
    rw [perform, written]
    rfl
  have before : statusOf pool.store.store 1 = some .sentMock := by rw [statusOf, sent]; rfl
  have logged : (Logged.protocol interleaved).step 2 (.updateTransfer 1 exemptedData) pool.store
      (.ok (exemptedData.set sentTransfer)) ⟨_, (2, ⟨.updateTransfer 1 exemptedData, .ok _⟩) :: pool.store.history⟩ :=
    ⟨performed, rfl⟩
  have stays := (kept pool run).2 _ (.single (.resume waiting logged)) 1 .sentMock before rfl
  simp [statusOf, TransferUpdate.set, exemptedData] at stays

end Exchange.TravelRule
