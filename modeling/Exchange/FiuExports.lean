import Exchange.Fiu

/-! Exports of validated reports only. An export looks at a status and a count of
errors. A validation sets both, but an admin may set the status of a report that
nobody has validated, and a validation may read a report that is still being
filled. Without these two, an exported report has been validated as it stands. -/
namespace Exchange.Fiu.Exports
open Async

variable {assemble : Assemble} {requests : ℕ → Request} {past : Past} {x : History} {pid : ℕ} {call : FiuCall}
  {s s' : Store} {id : ReportId} {report current : FiuDraftReport} {made : Answered FiuCall FiuCall.Reply Failure}
  {history : List (ℕ × Answered FiuCall FiuCall.Reply Failure)} {pool : FiuPool} {request : Request}

/-! ## The property -/

/-- What a report says, without what was said of it. -/
def content (report : FiuDraftReport) : FiuDraftReport :=
  { report with status := .draft, errorCount := 0, warningCount := 0 }

def validates (id : ReportId) : Answered FiuCall FiuCall.Reply Failure → Bool
  | ⟨.updateReport written (.validation _ _ _), .ok _⟩ => written = id
  | _ => false

/-- The last validation of a report wrote what it had found in what the report
still says, and that was no error. -/
def Validated (x : History) (id : ReportId) : Prop :=
  ∃ after pid written before read current,
    x.history = after ++ (pid, ⟨.updateReport id (validationUpdate read), .ok written⟩) :: before ∧
    (∀ made ∈ after, validates id made.2 = false) ∧ (pid, ⟨.findReport id, .ok (some read)⟩) ∈ before ∧
    x.store.lookup id = some current ∧ content read = content current ∧
    ∀ issue ∈ issuesOf read, issue.severity ≠ .error

/-- Every report whose export has succeeded. -/
def ExportsValidated (requests : ℕ → Request) (pool : FiuPool) : Prop :=
  ∀ pid id payload, requests pid = .exportDraft id → pool.answerOf pid = some (.payload payload) →
    Validated pool.store id

/-! ## The condition -/

def isValidated (history : List (ℕ × Answered FiuCall FiuCall.Reply Failure)) (id : ReportId) : Bool :=
  history.any fun made => validates id made.2

def findsReport (id : ReportId) : Answered FiuCall FiuCall.Reply Failure → Bool
  | ⟨.findReport read, .ok (some _)⟩ => read = id
  | _ => false

/-- Some validation has read the report. -/
def isBeingValidated (requests : ℕ → Request) (history : List (ℕ × Answered FiuCall FiuCall.Reply Failure))
    (id : ReportId) : Bool :=
  history.any fun made => requests made.1 = .validate id && findsReport id made.2

/-- A report is filled before a validation reads it, and validated before anyone
marks it ready. -/
def isOrderly (requests : ℕ → Request) (x : History) : FiuCall → Bool
  | .updateReport id (.content _ _) => !isBeingValidated requests x.history id
  | .createItems id _ => !isBeingValidated requests x.history id
  | .updateReport id (.setStatus .readyForInternalReview) => isValidated x.history id
  | _ => true

def followed (requests : ℕ → Request) (pid : ℕ) (call : FiuCall) (x : History) (reply : Except Failure call.Reply)
    (s' : Store) : Prop :=
  Makes pid call x.store reply s' ∧ isOrderly requests x call

/-! ## What a request does -/

/-- Calls that neither read nor write a report. -/
def isNeutral : FiuCall → Bool
  | .createReport _ => false
  | .updateReport _ _ => false
  | .findReport _ => false
  | .createItems _ _ => false
  | _ => true

/-- The calls that a request may make. -/
inductive May (request : Request) (past : Past) : FiuCall → Prop
  | neutral {call : FiuCall} (neutral : isNeutral call) : May request past call
  | find {id : ReportId} : May request past (.findReport id)
  | create {input : FiuGenerateInput} {userId : Option UserId} {caseId : Option CaseId} :
      May request past (.createReport (newReport input userId caseId))
  | content {id : ReportId} {payload checksum : Text} : May request past (.updateReport id (.content payload checksum))
  | items {id : ReportId} {items : List FiuDraftReportItem} : May request past (.createItems id items)
  | failed {id : ReportId} : May request past (.updateReport id (.setStatus .failed))
  | validation {id : ReportId} {read : FiuDraftReport} (isValidate : request = .validate id)
      (found : ⟨.findReport id, .ok (some read)⟩ ∈ past) : May request past (.updateReport id (validationUpdate read))
  | exported {id : ReportId} {read : FiuDraftReport} (found : ⟨.findReport id, .ok (some read)⟩ ∈ past)
      (exportable : read.isExportable) : May request past (.updateReport id (.setStatus .exportedDraft))
  | marked {id : ReportId} {status : SettableStatus} : May request past (.updateReport id (.setStatus status.status))

/-- What a request has read when it answers. -/
def Ends (request : Request) (past : Past) (result : Except Failure Answer) : Prop :=
  ∀ id payload, request = .exportDraft id → result = .ok (.payload payload) →
    ∃ read, ⟨.findReport id, .ok (some read)⟩ ∈ past ∧ read.isExportable

theorem findReportOr_obeys : (findReportOr id).Obeys (May request) (EndsWith (fun _ => True) fun read later =>
    ⟨.findReport id, .ok (some read)⟩ ∈ later) past := by
  refine ⟨.find, fun reply => ?_⟩
  rcases reply with failure | (_ | read)
  · trivial
  · trivial
  · exact List.mem_cons_self

theorem get_lawful : Lawful (May request) past (get id) :=
  lawful_seq findReportOr_obeys fun _ _ _ _ => trivial

theorem recordAudit_lawful : Lawful (May request) past recordAudit :=
  lawful_catch (lawful_ask (.neutral rfl)) fun _ _ => trivial

theorem userItems_lawful (userId : Option UserId) : Lawful (May request) past (userItems userId) := by
  cases userId with
  | none => trivial
  | some userId =>
    have subject : ∀ past, Lawful (May request) past (subjectItems userId) := by
      intro past
      refine lawful_call (.neutral rfl) fun profile => ?_
      cases profile with
      | some row => trivial
      | none => exact lawful_call (.neutral rfl) fun _ => trivial
    refine lawful_bind (subject past) fun _ later => ?_
    exact lawful_call (.neutral rfl) fun _ => lawful_call (.neutral rfl) fun _ => trivial

theorem caseItems_lawful (caseId : Option CaseId) : Lawful (May request) past (caseItems caseId) := by
  cases caseId with
  | none => trivial
  | some caseId =>
    refine lawful_call (.neutral rfl) fun found => ?_
    cases found <;> trivial

theorem packItems_lawful (packId : Option PackId) : Lawful (May request) past (packItems packId) := by
  cases packId with
  | none => trivial
  | some packId => exact lawful_call (.neutral rfl) fun _ => trivial

theorem writeItems_lawful (items : List FiuDraftReportItem) : Lawful (May request) past (writeItems id items) := by
  unfold writeItems
  split
  · trivial
  · exact lawful_ask .items

theorem fill_lawful {input : FiuGenerateInput} {userId : Option UserId} {caseId : Option CaseId} :
    Lawful (May request) past (fill assemble input id userId caseId) := by
  refine lawful_bind (userItems_lawful _) fun _ _ => lawful_bind (caseItems_lawful _) fun _ _ => ?_
  refine lawful_bind (packItems_lawful _) fun _ _ => lawful_call (.neutral rfl) fun _ => ?_
  refine lawful_call .content fun _ => lawful_bind (writeItems_lawful _) fun _ _ => ?_
  exact lawful_bind recordAudit_lawful fun _ _ => get_lawful

theorem generate_lawful {input : FiuGenerateInput} : Lawful (May request) past (generate assemble input) := by
  have scope : Lawful (May request) past (resolveScope input) := by
    unfold resolveScope
    split
    · trivial
    · refine lawful_call (.neutral rfl) fun found => ?_
      cases found <;> trivial
  refine lawful_bind scope fun _ _ => lawful_call .create fun id => ?_
  exact lawful_catch fill_lawful fun _ _ => lawful_call .failed fun _ => trivial

theorem validate_lawful : Lawful (May (.validate id)) past (validate id) := by
  refine lawful_seq findReportOr_obeys fun read later _ found => ?_
  have issues : Lawful (May (.validate id)) later (createIssues (issuesOf read)) := by
    unfold createIssues
    split
    · trivial
    · exact lawful_ask (.neutral rfl)
  have issued : (createIssues (issuesOf read)).Obeys (May (.validate id)) (EndsWith (fun _ => True) fun _ last =>
      ⟨.findReport id, .ok (some read)⟩ ∈ last) later := by
    refine issues.grows.imp fun last result ⟨grown, _⟩ => ?_
    cases result with
    | error failure => trivial
    | ok value => exact grown.mem found
  refine lawful_seq issued fun _ last _ found => ?_
  refine lawful_call (.validation rfl found) fun _ => ?_
  exact lawful_bind recordAudit_lawful fun _ _ => get_lawful

theorem setStatus_lawful {status : SettableStatus} : Lawful (May request) past (setStatus id status) := by
  refine lawful_seq findReportOr_obeys fun read later _ _ => ?_
  split
  · trivial
  · exact lawful_call .marked fun _ => lawful_bind recordAudit_lawful fun _ _ => trivial

theorem exportDraft_obeys : (exportDraft id).Obeys (May request) (EndsWith (fun _ => True) fun _ later =>
    ∃ read, ⟨.findReport id, .ok (some read)⟩ ∈ later ∧ read.isExportable) past := by
  refine findReportOr_obeys.seq fun read later _ found => ?_
  split
  · rename_i exportable
    have lawful : Lawful (May request) later (exportReport id read) := by
      refine lawful_call (.neutral rfl) fun _ => lawful_call (.neutral rfl) fun _ => ?_
      refine lawful_bind ?_ fun _ _ => lawful_bind recordAudit_lawful fun _ _ => trivial
      unfold markExported
      split
      · refine lawful_call (.exported ?_ exportable) fun _ => trivial
        exact List.mem_cons_of_mem _ (List.mem_cons_of_mem _ found)
      · trivial
    refine lawful.grows.imp fun last result ⟨grown, _⟩ => ?_
    cases result with
    | error failure => trivial
    | ok answer => exact ⟨read, grown.mem found, exportable⟩
  · trivial

theorem isRequest_obeys (pid : ℕ) (program : FiuM Answer) (isRequest : IsRequest assemble requests pid program) :
    program.Obeys (May (requests pid)) (Ends (requests pid)) [] := by
  rw [isRequest]
  cases requests pid with
  | generate input => exact generate_lawful.imp fun _ _ _ => nofun
  | validate id => exact validate_lawful.imp fun _ _ _ => nofun
  | setStatus id status => exact setStatus_lawful.imp fun _ _ _ => nofun
  | exportDraft id =>
    refine exportDraft_obeys.imp fun later result ended id' payload isExport answers => ?_
    cases isExport
    cases answers
    exact ended

/-! ## What a call does -/

/-- A call does nothing to the reports, or reads or writes one. -/
inductive Effect (s : Store) : (call : FiuCall) → Except Failure call.Reply → Store → Prop
  | failed {call : FiuCall} {failure : Failure} : Effect s call (.error failure) s
  | neutral {call : FiuCall} {reply : Except Failure call.Reply} (neutral : isNeutral call) : Effect s call reply s
  | found {id : ReportId} : Effect s (.findReport id) (.ok (s.lookup id)) s
  | created {id : ReportId} {report : FiuDraftReport} (fresh : s.lookup id = none) :
      Effect s (.createReport report) (.ok id) (s.insert id report)
  | updated {id : ReportId} {data : ReportUpdate} {report : FiuDraftReport} (found : s.lookup id = some report) :
      Effect s (.updateReport id data) (.ok (data.set report)) (s.insert id (data.set report))
  | added {id : ReportId} {items : List FiuDraftReportItem} {report : FiuDraftReport}
      (found : s.lookup id = some report) :
      Effect s (.createItems id items) (.ok ()) (s.insert id { report with items := report.items ++ items })

theorem Makes.effect {reply : Except Failure call.Reply} (makes : Makes pid call s reply s') : Effect s call reply s' := by
  rcases makes with ⟨world, ran⟩ | ⟨⟨failure, -, rfl⟩, rfl⟩
  · cases call with
    | createReport report =>
      rcases Database.written_cases ran with ⟨value, rfl, ok⟩ | ⟨⟨failure, rfl, -⟩, rfl⟩
      · simp only [createReport] at ok
        split at ok
        · cases ok
        · rename_i fresh
          cases ok
          exact .created (Option.not_isSome_iff_eq_none.mp fresh)
      · exact .failed
    | updateReport id data =>
      rcases Database.written_cases ran with ⟨value, rfl, ok⟩ | ⟨⟨failure, rfl, -⟩, rfl⟩
      · simp only [updateReport] at ok
        split at ok
        · rename_i report found
          cases ok
          exact .updated found
        · cases ok
      · exact .failed
    | createItems id items =>
      rcases Database.written_cases ran with ⟨value, rfl, ok⟩ | ⟨⟨failure, rfl, -⟩, rfl⟩
      · simp only [createItems] at ok
        split at ok
        · rename_i report found
          cases ok
          exact .added found
        · cases ok
      · exact .failed
    | findReport id =>
      cases ran
      exact .found
    | _ =>
      cases ran
      exact .neutral rfl
  · exact .failed

/-! ## The invariant -/

def FiuDraftStatus.isReady (status : FiuDraftStatus) : Bool :=
  status = .readyForInternalReview || status = .exportedDraft

def errorsOf (report : FiuDraftReport) : ℕ := countSeverity .error (issuesOf report)

theorem issuesOf_content : issuesOf (content report) = issuesOf report := rfl

theorem errorsOf_eq (same : content report = content current) : errorsOf report = errorsOf current := by
  rw [errorsOf, errorsOf, ← issuesOf_content, same, issuesOf_content]

/-- Each validation of a history wrote what it had found before. -/
def Ran (requests : ℕ → Request) (history : List (ℕ × Answered FiuCall FiuCall.Reply Failure)) (id : ReportId) : Prop :=
  ∀ after pid made before, history = after ++ (pid, made) :: before → validates id made →
    requests pid = .validate id ∧ ∃ read written, made = ⟨.updateReport id (validationUpdate read), .ok written⟩ ∧
      (pid, ⟨.findReport id, .ok (some read)⟩) ∈ before

/-- A validation that has read a report has read what it says; once it has
written, the report has that count of errors; and a report is ready, and has been
seen fit for export, only if it has been validated. -/
structure Kept (requests : ℕ → Request) (id : ReportId) (x : History) : Prop where
  ran : Ran requests x.history id
  same : ∀ pid read, requests pid = .validate id → (pid, ⟨.findReport id, .ok (some read)⟩) ∈ x.history →
    ∃ current, x.store.lookup id = some current ∧ content read = content current
  counted : ∀ current, x.store.lookup id = some current → isValidated x.history id →
    current.errorCount = errorsOf current
  ready : ∀ current, x.store.lookup id = some current → FiuDraftStatus.isReady current.status → isValidated x.history id
  seen : ∀ pid read, (pid, ⟨.findReport id, .ok (some read)⟩) ∈ x.history → read.isExportable →
    isValidated x.history id ∧ ∃ current, x.store.lookup id = some current ∧ errorsOf current = 0

theorem Ran.cons (ran : Ran requests history id) (new : validates id made → requests pid = .validate id ∧
    ∃ read written, made = ⟨.updateReport id (validationUpdate read), .ok written⟩ ∧
      (pid, ⟨.findReport id, .ok (some read)⟩) ∈ history) : Ran requests ((pid, made) :: history) id := by
  intro after other earlier before split validated
  cases after with
  | nil =>
    cases split
    exact new validated
  | cons first after =>
    cases split
    exact ran after other earlier before rfl validated

/-- A validation of the history has read the report. -/
theorem Ran.read (ran : Ran requests history id) (validated : isValidated history id) :
    ∃ pid read, requests pid = .validate id ∧ (pid, ⟨.findReport id, .ok (some read)⟩) ∈ history := by
  obtain ⟨⟨pid, made⟩, member, isMade⟩ := List.any_eq_true.mp validated
  obtain ⟨after, before, split⟩ := List.append_of_mem member
  obtain ⟨isValidate, read, written, -, found⟩ := ran after pid made before split isMade
  exact ⟨pid, read, isValidate, split ▸ List.mem_append_right _ (List.mem_cons_of_mem _ found)⟩

theorem validates_error {failure : Failure} : validates id ⟨call, .error failure⟩ = false := by
  cases call with
  | updateReport written data => cases data <;> rfl
  | _ => rfl

theorem eq_of_findsReport (found : findsReport id made) : ∃ read, made = ⟨.findReport id, .ok (some read)⟩ := by
  obtain ⟨call, reply⟩ := made
  cases call with
  | findReport other =>
    rcases reply with failure | (_ | read)
    · cases found
    · cases found
    · simp only [findsReport, decide_eq_true_eq] at found
      subst found
      exact ⟨read, rfl⟩
  | _ => cases found

theorem isBeingValidated_of_mem {read : FiuDraftReport} (isValidate : requests pid = .validate id)
    (found : (pid, ⟨.findReport id, .ok (some read)⟩) ∈ history) : isBeingValidated requests history id := by
  refine List.any_eq_true.mpr ⟨_, found, ?_⟩
  simp [isValidate, findsReport]

theorem mem_of_unread {read : FiuDraftReport} {other : ℕ} (unread : findsReport id made = false)
    (member : (other, ⟨.findReport id, .ok (some read)⟩) ∈ (pid, made) :: history) :
    (other, ⟨.findReport id, .ok (some read)⟩) ∈ history := by
  rcases List.mem_cons.mp member with isLast | earlier
  · cases isLast
    simp [findsReport] at unread
  · exact earlier

/-- A call that says nothing about the report, and leaves it. -/
theorem kept_frame (kept : Kept requests id x) (same : s'.lookup id = x.store.lookup id)
    (isOther : validates id made = false) (unread : findsReport id made = false) :
    Kept requests id ⟨s', (pid, made) :: x.history⟩ := by
  have validated : isValidated ((pid, made) :: x.history) id = isValidated x.history id := by
    simp [isValidated, isOther]
  refine ⟨kept.ran.cons (fun isMade => ?_), ?_, ?_, ?_, ?_⟩
  · rw [isOther] at isMade
    cases isMade
  · intro other read isValidate member
    rw [same]
    exact kept.same other read isValidate (mem_of_unread unread member)
  · rw [same, validated]
    exact kept.counted
  · rw [same, validated]
    exact kept.ready
  · intro other read member exportable
    rw [same, validated]
    exact kept.seen other read (mem_of_unread unread member) exportable


theorem isValidated_cons (validated : isValidated history id) : isValidated ((pid, made) :: history) id := by
  rw [isValidated, List.any_cons, Bool.or_eq_true]
  exact .inr validated

/-- A report that no validation has read is written. -/
theorem kept_filled {after : FiuDraftReport} (kept : Kept requests id x)
    (free : isBeingValidated requests x.history id = false) (isAfter : s'.lookup id = some after)
    (isOther : validates id made = false) (unread : findsReport id made = false)
    (notReady : FiuDraftStatus.isReady after.status →
      ∃ current, x.store.lookup id = some current ∧ FiuDraftStatus.isReady current.status) :
    Kept requests id ⟨s', (pid, made) :: x.history⟩ := by
  have unvalidated : ¬isValidated x.history id := by
    intro validated
    obtain ⟨other, read, isValidate, found⟩ := kept.ran.read validated
    rw [isBeingValidated_of_mem isValidate found] at free
    cases free
  have still : isValidated ((pid, made) :: x.history) id = isValidated x.history id := by
    simp [isValidated, isOther]
  refine ⟨kept.ran.cons (fun isMade => ?_), ?_, ?_, ?_, ?_⟩
  · rw [isOther] at isMade
    cases isMade
  · intro other read isValidate member
    rw [isBeingValidated_of_mem isValidate (mem_of_unread unread member)] at free
    cases free
  · intro current found validated
    exact absurd (still ▸ validated) unvalidated
  · intro current found isReady
    cases isAfter.symm.trans found
    obtain ⟨before, isBefore, wasReady⟩ := notReady isReady
    exact absurd (kept.ready before isBefore wasReady) unvalidated
  · intro other read member exportable
    exact absurd (kept.seen other read (mem_of_unread unread member) exportable).1 unvalidated

/-- Something is said of a report: it is validated or marked. -/
theorem kept_said {after : FiuDraftReport} (kept : Kept requests id x) (found : x.store.lookup id = some current)
    (isAfter : s'.lookup id = some after) (same : content after = content current) (unread : findsReport id made = false)
    (new : validates id made → requests pid = .validate id ∧
      ∃ read written, made = ⟨.updateReport id (validationUpdate read), .ok written⟩ ∧
        (pid, ⟨.findReport id, .ok (some read)⟩) ∈ x.history)
    (counted : isValidated ((pid, made) :: x.history) id → after.errorCount = errorsOf after)
    (ready : FiuDraftStatus.isReady after.status → isValidated ((pid, made) :: x.history) id) :
    Kept requests id ⟨s', (pid, made) :: x.history⟩ := by
  refine ⟨kept.ran.cons new, ?_, ?_, ?_, ?_⟩
  · intro other read isValidate member
    obtain ⟨before, isBefore, isSame⟩ := kept.same other read isValidate (mem_of_unread unread member)
    cases found.symm.trans isBefore
    exact ⟨after, isAfter, isSame.trans same.symm⟩
  · intro last isLast validated
    cases isAfter.symm.trans isLast
    exact counted validated
  · intro last isLast isReady
    cases isAfter.symm.trans isLast
    exact ready isReady
  · intro other read member exportable
    obtain ⟨validated, before, isBefore, none⟩ := kept.seen other read (mem_of_unread unread member) exportable
    cases found.symm.trans isBefore
    exact ⟨isValidated_cons validated, after, isAfter, (errorsOf_eq same).trans none⟩

/-- The report is read. -/
theorem kept_found (kept : Kept requests id x) :
    Kept requests id ⟨x.store, (pid, ⟨.findReport id, .ok (x.store.lookup id)⟩) :: x.history⟩ := by
  refine ⟨kept.ran.cons (fun isMade => by cases isMade), ?_, kept.counted, kept.ready, ?_⟩
  · intro other read isValidate member
    rcases List.mem_cons.mp member with isLast | earlier
    · simp only [Prod.mk.injEq, Answered.mk.injEq, heq_eq_eq, Except.ok.injEq, true_and] at isLast
      exact ⟨read, isLast.2.symm, rfl⟩
    · exact kept.same other read isValidate earlier
  · intro other read member exportable
    rcases List.mem_cons.mp member with isLast | earlier
    · simp only [Prod.mk.injEq, Answered.mk.injEq, heq_eq_eq, Except.ok.injEq, true_and] at isLast
      simp only [FiuDraftReport.isExportable, Bool.and_eq_true, decide_eq_true_eq] at exportable
      have validated := kept.ready read isLast.2.symm exportable.2
      exact ⟨validated, read, isLast.2.symm, (kept.counted read isLast.2.symm validated).symm.trans exportable.1⟩
    · exact kept.seen other read earlier exportable

theorem ready_of_marked {status : SettableStatus} (isReady : FiuDraftStatus.isReady status.status) :
    status = .readyForInternalReview := by
  cases status with
  | readyForInternalReview => rfl
  | draft => cases isReady
  | archived => cases isReady

/-- An admin or an export marks a report. -/
theorem kept_marked {status : FiuDraftStatus} {written : FiuDraftReport} (kept : Kept requests id x)
    (found : x.store.lookup id = some current) (ready : FiuDraftStatus.isReady status → isValidated x.history id) :
    Kept requests id ⟨x.store.insert id { current with status := status },
      (pid, ⟨.updateReport id (.setStatus status), .ok written⟩) :: x.history⟩ := by
  refine kept_said kept found (AList.lookup_insert _) rfl rfl nofun (fun validated => ?_) fun isReady => ?_
  · exact kept.counted current found validated
  · exact ready isReady

/-- A validation writes what it has found. -/
theorem kept_validated {read written : FiuDraftReport} (kept : Kept requests id x)
    (found : x.store.lookup id = some current) (isValidate : requests pid = .validate id)
    (isRead : (pid, ⟨.findReport id, .ok (some read)⟩) ∈ x.history) :
    Kept requests id ⟨x.store.insert id ((validationUpdate read).set current),
      (pid, ⟨.updateReport id (validationUpdate read), .ok written⟩) :: x.history⟩ := by
  obtain ⟨before, isBefore, same⟩ := kept.same pid read isValidate isRead
  cases found.symm.trans isBefore
  have validated : isValidated ((pid, ⟨.updateReport id (validationUpdate read), .ok written⟩) :: x.history) id := by
    simp [isValidated, validates, validationUpdate]
  refine kept_said kept found (AList.lookup_insert _) rfl rfl (fun _ => ⟨isValidate, read, written, rfl, isRead⟩)
    (fun _ => ?_) fun _ => validated
  exact errorsOf_eq same

theorem kept_updated {data : ReportUpdate} {written : FiuDraftReport} (kept : Kept requests id x)
    (found : x.store.lookup id = some current) (may : May (requests pid) (x.past pid) (.updateReport id data))
    (orderly : isOrderly requests x (.updateReport id data)) :
    Kept requests id ⟨x.store.insert id (data.set current), (pid, ⟨.updateReport id data, .ok written⟩) :: x.history⟩ := by
  cases may with
  | neutral neutral => cases neutral
  | content =>
    exact kept_filled kept (by simpa [isOrderly] using orderly) (AList.lookup_insert _) rfl rfl
      fun isReady => ⟨current, found, isReady⟩
  | failed => exact kept_marked kept found nofun
  | validation isValidate isRead => exact kept_validated kept found isValidate (Logged.mem_past.mp isRead)
  | exported isRead exportable =>
    exact kept_marked kept found fun _ => (kept.seen pid _ (Logged.mem_past.mp isRead) exportable).1
  | @marked _ status =>
    refine kept_marked kept found fun isReady => ?_
    rw [ready_of_marked isReady] at orderly
    exact orderly

theorem kept_step {reply : Except Failure call.Reply} (kept : Kept requests id x) (may : May (requests pid) (x.past pid) call)
    (made : followed requests pid call x reply s') : Kept requests id ⟨s', (pid, ⟨call, reply⟩) :: x.history⟩ := by
  obtain ⟨makes, orderly⟩ := made
  cases Makes.effect makes with
  | failed =>
    refine kept_frame kept rfl validates_error ?_
    cases call <;> rfl
  | neutral neutral =>
    refine kept_frame kept rfl ?_ ?_
    · cases call <;> first | rfl | cases neutral
    · cases call <;> first | rfl | cases neutral
  | @found read =>
    by_cases same : read = id
    · subst same
      exact kept_found kept
    · refine kept_frame kept rfl rfl ?_
      cases x.store.lookup read <;> simp [findsReport, same]
  | @created new report fresh =>
    by_cases same : new = id
    · subst same
      cases may with
      | neutral neutral => cases neutral
      | create =>
        refine kept_filled kept ?_ (AList.lookup_insert _) rfl rfl nofun
        refine Bool.eq_false_iff.mpr fun isRead => ?_
        obtain ⟨⟨other, made⟩, member, facts⟩ := List.any_eq_true.mp isRead
        rw [Bool.and_eq_true, decide_eq_true_eq] at facts
        obtain ⟨read, rfl⟩ := eq_of_findsReport facts.2
        obtain ⟨current, found, -⟩ := kept.same other read facts.1 member
        cases fresh.symm.trans found
    · exact kept_frame kept (AList.lookup_insert_ne (Ne.symm same)) rfl rfl
  | @updated written data report found =>
    by_cases same : written = id
    · subst same
      exact kept_updated kept found may orderly
    · refine kept_frame kept (AList.lookup_insert_ne (Ne.symm same)) ?_ rfl
      cases data <;> simp [validates, same]
  | @added written items report found =>
    by_cases same : written = id
    · subst same
      exact kept_filled kept (by simpa [isOrderly] using orderly) (AList.lookup_insert _) rfl rfl
        fun isReady => ⟨report, found, isReady⟩
    · exact kept_frame kept (AList.lookup_insert_ne (Ne.symm same)) rfl rfl

theorem kept_empty : Kept requests id ⟨∅, []⟩ := by
  have nothing : ∀ current, (∅ : Store).lookup id ≠ some current := fun current found => by
    rw [AList.lookup_empty] at found
    cases found
  refine ⟨fun after pid made before split => ?_, fun _ _ _ member => ?_, fun current found => ?_, fun current found => ?_,
    fun _ _ member => ?_⟩
  · exact absurd split (List.append_ne_nil_of_right_ne_nil _ (List.cons_ne_nil _ _)).symm
  · cases member
  · exact absurd found (nothing current)
  · exact absurd found (nothing current)
  · cases member

theorem exists_last (validated : isValidated history id) : ∃ after pid made before,
    history = after ++ (pid, made) :: before ∧ validates id made ∧ ∀ made ∈ after, validates id made.2 = false := by
  obtain ⟨⟨pid, made⟩, last⟩ := Option.isSome_iff_exists.mp (List.find?_isSome.mpr (List.any_eq_true.mp validated))
  obtain ⟨isMade, after, before, split, others⟩ := List.find?_eq_some_iff_append.mp last
  exact ⟨after, pid, made, before, split, isMade, fun made member => by simpa using others made member⟩

theorem Kept.validated (kept : Kept requests id x) (validated : isValidated x.history id)
    (found : x.store.lookup id = some current) (none : errorsOf current = 0) : Validated x id := by
  obtain ⟨after, pid, made, before, split, isMade, others⟩ := exists_last validated
  obtain ⟨isValidate, read, written, rfl, isRead⟩ := kept.ran after pid made before split isMade
  have member : (pid, ⟨.findReport id, .ok (some read)⟩) ∈ x.history :=
    split ▸ List.mem_append_right _ (List.mem_cons_of_mem _ isRead)
  obtain ⟨last, isLast, same⟩ := kept.same pid read isValidate member
  cases found.symm.trans isLast
  refine ⟨after, pid, written, before, read, current, split, others, isRead, found, same, fun issue isIssue isError => ?_⟩
  have errors : errorsOf read = 0 := (errorsOf_eq same).trans none
  rw [errorsOf, countSeverity, List.length_eq_zero_iff, List.filter_eq_nil_iff] at errors
  exact errors issue isIssue (decide_eq_true isError)

/-- While no report is filled after a validation has read it, and none is marked
ready that nobody has validated, every exported report has been validated as it
stands, the last time without an error. -/
theorem exports_validated (run : Logged.Run (followed requests) (IsRequest assemble requests) (fun s => s = ∅) pool) :
    ExportsValidated requests pool := by
  intro pid id payload isExport answers
  have obeys := @isRequest_obeys assemble requests
  have kept : Kept requests id pool.store := run.inv obeys
    (fun s isEmpty => by rw [isEmpty]; exact kept_empty) fun x pid call reply s' kept may made => kept_step kept may made
  obtain ⟨read, found, exportable⟩ :=
    (Logged.Run.orderly obeys run).ended (Pool.ended_of_answerOf answers) id payload isExport rfl
  obtain ⟨validated, current, isCurrent, none⟩ := kept.seen pid read (Logged.mem_past.mp found) exportable
  exact kept.validated validated isCurrent none

/-! ## Reports that nobody has validated -/

def newInput : FiuGenerateInput := { reportType := .ctr, scopeType := .dateRange, narrative := some ['n'] }

/-- Request 1 makes a report, 2 validates it and 3 exports it; 4 marks it ready. -/
def inTurn : ℕ → Request
  | 1 => .generate newInput
  | 2 => .validate 7
  | 3 => .exportDraft 7
  | _ => .setStatus 7 .readyForInternalReview

def asGiven : Assemble := fun _ _ _ _ _ _ => ("ABCDE1234F".toList, ['c'])

def asChecked : Assemble := fun _ _ _ _ _ _ => (['{', '}'], ['c'])

/-- A report is made, validated and exported. -/
theorem validated_then_exported : ∃ pool : FiuPool, pool.answerOf 3 = some (.payload (some ['{', '}'])) ∧
    ExportsValidated inTurn pool := by
  have played : (Database.schedule perform (fun _ => ⟨0, 7, none, none, none, [], [], none⟩) (fun _ _ => false)
      (fun _ call x _ => isOrderly inTurn x call) (fun pid => handle asChecked (inTurn pid)) [1, 2, 3]
      [(1, 9), (2, 9), (3, 9)] ∅).map (fun pool => pool.answerOf 3) = some (some (.payload (some ['{', '}']))) := by
    decide +kernel
  obtain ⟨pool, scheduled, answers⟩ := Option.map_eq_some_iff.mp played
  have run : Logged.Run (followed inTurn) (IsRequest asChecked inTurn) (fun s => s = ∅) pool :=
    Database.schedule_run rfl (fun _ => rfl) (fun _ _ _ _ _ allowed makes => ⟨makes, allowed⟩) scheduled
  exact ⟨pool, answers, exports_validated run⟩

/-- What request 2 has read of a report is not yet filled. -/
def readsUnfilled : ℕ × Answered FiuCall FiuCall.Reply Failure → Bool
  | (2, ⟨.findReport _, .ok (some read)⟩) => read.payload.isNone
  | _ => true

/-- A report that was never validated is marked ready and exported; and one is
validated before it is filled, with a PAN that the validation has not seen. -/
theorem exported_unvalidated :
    (¬∀ pool : FiuPool, Logged.Run interleaved (IsRequest asGiven inTurn) (fun s => s = ∅) pool →
      ExportsValidated inTurn pool) ∧
    ¬∀ pool : FiuPool, Logged.Run interleaved (IsRequest asGiven inTurn) (fun s => s = ∅) pool →
      (∀ made ∈ pool.store.history, made.1 ≠ 4) → ExportsValidated inTurn pool := by
  constructor
  · intro validated
    have played : (Database.schedule perform (fun _ => ⟨0, 7, none, none, none, [], [], none⟩) (fun _ _ => false)
        (fun _ _ _ _ => true) (fun pid => handle asGiven (inTurn pid)) [1, 3, 4] [(1, 9), (4, 9), (3, 9)] ∅).map
        (fun pool => (pool.answerOf 3, isValidated pool.store.history 7)) =
      some (some (.payload (some "ABCDE1234F".toList)), false) := by decide +kernel
    obtain ⟨pool, scheduled, facts⟩ := Option.map_eq_some_iff.mp played
    simp only [Prod.mk.injEq] at facts
    obtain ⟨answers, never⟩ := facts
    have run : Logged.Run interleaved (IsRequest asGiven inTurn) (fun s => s = ∅) pool :=
      Database.schedule_run rfl (fun _ => rfl) (fun _ _ _ _ _ _ makes => makes) scheduled
    obtain ⟨after, pid, written, before, read, -, split, -⟩ := validated pool run 3 7 _ rfl answers
    rw [isValidated, List.any_eq_false] at never
    refine never (pid, ⟨.updateReport 7 (validationUpdate read), .ok written⟩) ?_ (by simp [validates, validationUpdate])
    exact split ▸ List.mem_append_right _ List.mem_cons_self
  · intro validated
    have played : (Database.schedule perform (fun _ => ⟨0, 7, none, none, none, [], [], none⟩) (fun _ _ => false)
        (fun _ _ _ _ => true) (fun pid => handle asGiven (inTurn pid)) [1, 2, 3] [(1, 1), (2, 9), (1, 9), (3, 9)] ∅).map
        (fun pool => (pool.answerOf 3, pool.store.history.all fun made => decide (made.1 ≠ 4),
          pool.store.history.all fun made => !validates 7 made.2 || made.1 = 2,
          pool.store.history.all readsUnfilled, (pool.store.store.lookup 7).any fun report => report.payload.isSome)) =
      some (some (.payload (some "ABCDE1234F".toList)), true, true, true, true) := by decide +kernel
    obtain ⟨pool, scheduled, facts⟩ := Option.map_eq_some_iff.mp played
    simp only [Prod.mk.injEq, List.all_eq_true, decide_eq_true_eq] at facts
    obtain ⟨answers, unmarked, by2, unfilled, filled⟩ := facts
    have run : Logged.Run interleaved (IsRequest asGiven inTurn) (fun s => s = ∅) pool :=
      Database.schedule_run rfl (fun _ => rfl) (fun _ _ _ _ _ _ makes => makes) scheduled
    obtain ⟨after, pid, written, before, read, current, split, -, isRead, found, same, -⟩ :=
      validated pool run unmarked 3 7 _ rfl answers
    have isTwo := by2 (pid, ⟨.updateReport 7 (validationUpdate read), .ok written⟩)
      (split ▸ List.mem_append_right _ List.mem_cons_self)
    simp only [validates, validationUpdate, decide_true, Bool.not_true, Bool.false_or, decide_eq_true_eq] at isTwo
    subst isTwo
    have none := unfilled _ (split ▸ List.mem_append_right _ (List.mem_cons_of_mem _ isRead))
    have payload := congrArg FiuDraftReport.payload same
    change read.payload = current.payload at payload
    rw [readsUnfilled, payload] at none
    rw [found, Option.any_some, Option.isSome_iff_ne_none] at filled
    exact filled (Option.isNone_iff_eq_none.mp none)

end Exchange.Fiu.Exports
