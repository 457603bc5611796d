import Exchange.WorkspaceTasks

/-! A task is completed once its checklists are. The guard looks at the responses
that the task has, so it says nothing about a template without a response. -/
namespace Exchange.WorkspaceTasks.Checklists
open Async

variable {requests : ℕ → Request} {request : Request} {past later : Past} {x : History} {pid : ℕ}
  {call : TaskCall} {reply : Except Failure call.Reply} {s s' : Store} {taskId : TaskId}
  {templateId : TemplateId} {template : AmlChecklistTemplate} {response : AmlChecklistResponse}
  {task : TaskWithRelations} {pool : TaskPool}

/-- An active template that a task of this type has to have completed. -/
def AmlChecklistTemplate.binds (template : AmlChecklistTemplate) (type : ComplianceTaskType) : Bool :=
  template.active && template.requiredForCompletion && template.taskType = type

/-- Every template that binds the task has a completed response on it. -/
def Complete (s : Store) (taskId : TaskId) : Prop :=
  ∀ task, s.tasks.lookup taskId = some task → ∀ templateId template, s.templates.lookup templateId = some template →
    AmlChecklistTemplate.binds template task.type →
    ∃ response ∈ s.responses, response.taskId = taskId ∧ response.templateId = some templateId ∧ response.completed

/-- Responses are to templates that are there. -/
def ForeignKeys (s : Store) : Prop :=
  ∀ response ∈ s.responses, ∀ templateId, response.templateId = some templateId →
    (s.templates.lookup templateId).isSome

/-- Whoever completes a task does it when its checklists are completed. -/
def CompletedOnly (step : ℕ → (call : TaskCall) → History → Except Failure call.Reply → Store → Prop)
    (requests : ℕ → Request) (pool : TaskPool) : Prop :=
  ∀ pool', Pool.Step (Logged.protocol step) (IsRequest requests) pool pool' → ∀ pid taskId completedAt,
    pool'.store.history = (pid, ⟨.updateTask taskId ⟨.completed, completedAt⟩, .ok ()⟩) :: pool.store.history →
      Complete pool.store.store taskId

/-! ## What is read stands -/

/-- The response that was read is there, completed if it was. -/
def Stands (s : Store) (response : AmlChecklistResponse) : Prop :=
  ∃ present ∈ s.responses, present.taskId = response.taskId ∧ present.templateId = response.templateId ∧
    (response.completed → present.completed)

/-- Templates and responses are kept. -/
structure Grows (s s' : Store) : Prop where
  templates : ∀ templateId template, s.templates.lookup templateId = some template →
    s'.templates.lookup templateId = some template
  responses : ∀ response ∈ s.responses, Stands s' response

theorem Grows.refl (s : Store) : Grows s s :=
  ⟨fun _ _ found => found, fun response member => ⟨response, member, rfl, rfl, fun done => done⟩⟩

theorem Stands.grow (stands : Stands s response) (grows : Grows s s') : Stands s' response := by
  obtain ⟨present, member, sameTask, sameTemplate, done⟩ := stands
  obtain ⟨present', member', sameTask', sameTemplate', done'⟩ := grows.responses present member
  exact ⟨present', member', sameTask'.trans sameTask, sameTemplate'.trans sameTemplate, done' ∘ done⟩

theorem complete_fields (completion : Option Completion) (response : AmlChecklistResponse) :
    (complete completion response).taskId = response.taskId ∧
      (complete completion response).templateId = response.templateId ∧
      (response.completed → (complete completion response).completed) := by
  cases completion with
  | none => exact ⟨rfl, rfl, fun done => done⟩
  | some fields => exact ⟨rfl, rfl, fun _ => rfl⟩

/-- What `updateResponse` does to one of them. -/
def updated (id : ResponseId) (answers : List ChecklistAnswer) (completion : Option Completion)
    (response : AmlChecklistResponse) : AmlChecklistResponse :=
  if response.id = id then complete completion { response with answers } else response

theorem updated_fields (id : ResponseId) (answers : List ChecklistAnswer) (completion : Option Completion)
    (response : AmlChecklistResponse) :
    (updated id answers completion response).taskId = response.taskId ∧
      (updated id answers completion response).templateId = response.templateId ∧
      (response.completed → (updated id answers completion response).completed) := by
  unfold updated
  split
  · exact complete_fields completion { response with answers }
  · exact ⟨rfl, rfl, fun done => done⟩

/-- Every call keeps templates and responses, and the foreign key. -/
theorem Makes.grows (made : Makes pid call s reply s') : Grows s s' ∧ (ForeignKeys s → ForeignKeys s') := by
  rcases made with ⟨world, ran⟩ | ⟨-, rfl⟩
  · cases call with
    | now => cases ran; exact ⟨.refl _, fun keys => keys⟩
    | append => cases ran; exact ⟨.refl _, fun keys => keys⟩
    | findTask => cases ran; exact ⟨.refl _, fun keys => keys⟩
    | findTemplate => cases ran; exact ⟨.refl _, fun keys => keys⟩
    | upsertSla => cases ran; exact ⟨⟨fun _ _ found => found, (Grows.refl s).responses⟩, fun keys => keys⟩
    | updateTask id data =>
      rcases Database.written_cases ran with ⟨value, rfl, ok⟩ | ⟨-, rfl⟩
      · simp only [updateTask] at ok
        split at ok
        · cases ok
          exact ⟨⟨fun _ _ found => found, (Grows.refl s).responses⟩, fun keys => keys⟩
        · cases ok
      · exact ⟨.refl _, fun keys => keys⟩
    | createTemplate template =>
      rcases Database.written_cases ran with ⟨value, rfl, ok⟩ | ⟨-, rfl⟩
      · simp only [createTemplate] at ok
        split at ok
        · cases ok
        · rename_i new
          cases ok
          have keeps : ∀ templateId, (s.templates.lookup templateId).isSome →
              (s.templates.insert world.uuid template).lookup templateId = s.templates.lookup templateId :=
            fun templateId found => AList.lookup_insert_ne fun same => new (same ▸ found)
          refine ⟨⟨fun templateId template found => ?_, (Grows.refl s).responses⟩, fun keys response member id isId => ?_⟩
          · exact (keeps templateId (by rw [found]; rfl)).trans found
          · have found := keys response member id isId
            rwa [keeps id found]
      · exact ⟨.refl _, fun keys => keys⟩
    | createResponse taskId templateId answers completion =>
      rcases Database.written_cases ran with ⟨value, rfl, ok⟩ | ⟨-, rfl⟩
      · simp only [createResponse] at ok
        split at ok
        · rename_i keyed
          cases ok
          rw [Bool.and_eq_true] at keyed
          refine ⟨⟨fun _ _ found => found, fun response member => ?_⟩, fun keys response member id isId => ?_⟩
          · exact ⟨response, List.mem_cons_of_mem _ member, rfl, rfl, fun done => done⟩
          · rcases List.mem_cons.mp member with rfl | earlier
            · rw [(complete_fields completion _).2.1] at isId
              subst isId
              simpa using keyed.2
            · exact keys response earlier id isId
        · cases ok
      · exact ⟨.refl _, fun keys => keys⟩
    | updateResponse id answers completion =>
      rcases Database.written_cases ran with ⟨value, rfl, ok⟩ | ⟨-, rfl⟩
      · simp only [updateResponse] at ok
        split at ok
        · cases ok
          refine ⟨⟨fun _ _ found => found, fun response member => ?_⟩, fun keys response member templateId isId => ?_⟩
          · exact ⟨_, List.mem_map_of_mem member, updated_fields id answers completion response⟩
          · obtain ⟨earlier, isEarlier, rfl⟩ := List.mem_map.mp member
            exact keys earlier isEarlier templateId ((updated_fields id answers completion earlier).2.1.symm.trans isId)
        · cases ok
      · exact ⟨.refl _, fun keys => keys⟩
  · exact ⟨.refl _, fun keys => keys⟩

/-! ## What a request does -/

/-- The guard has seen that the response is completed or need not be. -/
def Passed (past : Past) (response : AmlChecklistResponse) : Prop :=
  ∀ templateId, response.templateId = some templateId → response.completed ∨
    ∃ found, ⟨.findTemplate templateId, .ok found⟩ ∈ past ∧ found.any AmlChecklistTemplate.requiredForCompletion = false

def isGuarded : TaskCall → Bool
  | .findTemplate _ => true
  | .updateTask _ data => data.status = .completed
  | _ => false

/-- A response that the request has read. -/
def Read (past : Past) (taskId : TaskId) (task : TaskWithRelations) : Prop := ⟨.findTask taskId, .ok (some task)⟩ ∈ past

/-- The calls a request may make: it looks at templates that responses name, and
completes a task whose responses have passed. -/
inductive May (past : Past) : TaskCall → Prop
  | neutral {call : TaskCall} (neutral : isGuarded call = false) : May past call
  | findTemplate {taskId : TaskId} {task : TaskWithRelations} {templateId : TemplateId} (read : Read past taskId task)
      (named : ∃ response ∈ task.checklistResponses, response.templateId = some templateId) :
      May past (.findTemplate templateId)
  | complete {taskId : TaskId} {task : TaskWithRelations} {data : TaskUpdate} (read : Read past taskId task)
      (passed : ∀ response ∈ task.checklistResponses, Passed past response) : May past (.updateTask taskId data)

theorem Passed.grow (passed : Passed past response) (grown : past <:+ later) : Passed later response := by
  intro templateId isTemplate
  rcases passed templateId isTemplate with completed | ⟨found, looked, free⟩
  · exact .inl completed
  · exact .inr ⟨found, grown.subset looked, free⟩

abbrev Ends {α : Type} (fact : α → Past → Prop) : Past → Except Failure α → Prop := EndsWith (fun _ => True) fact

theorem findTaskOr_obeys : (findTaskOr taskId).Obeys May (Ends fun task later => Read later taskId task) past := by
  refine ⟨.neutral rfl, fun reply => ?_⟩
  rcases reply with failure | (_ | task)
  · trivial
  · trivial
  · exact List.mem_cons_self

/-- The loop over the responses: without an incomplete one all have passed. -/
theorem hasIncomplete_obeys {responses : List AmlChecklistResponse} (read : Read past taskId task)
    (among : ∀ response ∈ responses, response ∈ task.checklistResponses) :
    (hasIncompleteRequiredChecklist responses).Obeys May (Ends fun incomplete later =>
      incomplete = false → ∀ response ∈ responses, Passed later response) past := by
  induction responses generalizing past with
  | nil => exact fun _ _ member => nomatch member
  | cons response rest ih =>
    have amongRest : ∀ other ∈ rest, other ∈ task.checklistResponses := fun other member =>
      among other (List.mem_cons_of_mem _ member)
    rw [hasIncompleteRequiredChecklist]
    split
    · rename_i free
      refine (ih read amongRest).imp fun later result ended => ?_
      cases result with
      | error failure => trivial
      | ok incomplete =>
        intro complete other member
        rcases List.mem_cons.mp member with rfl | isRest
        · intro templateId isTemplate
          cases free.symm.trans isTemplate
        · exact ended complete other isRest
    · rename_i templateId isTemplate
      refine ⟨.findTemplate read ⟨response, among response List.mem_cons_self, isTemplate⟩, fun reply => ?_⟩
      cases reply with
      | error failure => trivial
      | ok template =>
        change Async.Obeys _ _ _ (if _ then _ else _)
        split
        · exact fun complete => nomatch complete
        · rename_i passes
          have grown : past <:+ ⟨.findTemplate templateId, .ok template⟩ :: past := List.suffix_cons _ _
          refine (ih (grown.subset read) amongRest).grows.imp fun later result ⟨grown', ended⟩ => ?_
          cases result with
          | error failure => trivial
          | ok incomplete =>
            intro complete other member
            rcases List.mem_cons.mp member with rfl | isRest
            · intro templateId' isTemplate'
              cases isTemplate.symm.trans isTemplate'
              cases isDone : other.completed with
              | true => exact .inl rfl
              | false =>
                refine .inr ⟨template, grown'.subset List.mem_cons_self, ?_⟩
                simpa [isDone] using passes
            · exact ended complete other isRest

theorem checkCompletion_obeys {status : ComplianceTaskStatus} (read : Read past taskId task) :
    (checkCompletion task status).Obeys May (Ends fun _ later => Read later taskId task ∧
      (status = .completed → ∀ response ∈ task.checklistResponses, Passed later response)) past := by
  unfold checkCompletion
  split
  · refine (hasIncomplete_obeys read fun _ member => member).seq fun incomplete middle grown complete => ?_
    cases incomplete with
    | true => trivial
    | false => exact ⟨grown.subset read, fun _ => complete rfl⟩
  · rename_i other
    exact ⟨read, fun isCompleted => absurd isCompleted other⟩

theorem audit_lawful : Lawful May past audit := lawful_catch (lawful_ask (.neutral rfl)) fun _ _ => trivial

theorem getTask_lawful : Lawful May past (getTask taskId) := by
  refine lawful_bind (lawful_call (.neutral rfl) fun found => ?_) fun task later => ?_
  · cases found <;> trivial
  · split
    · trivial
    · exact lawful_call (.neutral rfl) fun _ => trivial

theorem closeSla_lawful {status : ComplianceTaskStatus} : Lawful May past (closeSla taskId task status) := by
  unfold closeSla
  split
  · split
    · exact lawful_call (.neutral rfl) fun _ => lawful_ask (.neutral rfl)
    · trivial
  · trivial

theorem taskUpdate_obeys {status : ComplianceTaskStatus} :
    (taskUpdate status).Obeys May (Ends fun data later => data.status = status ∧ past <:+ later) past := by
  unfold taskUpdate
  split
  · refine ⟨.neutral rfl, fun reply => ?_⟩
    cases reply with
    | error failure => trivial
    | ok now => exact ⟨rfl, List.suffix_cons _ _⟩
  · exact ⟨rfl, List.suffix_refl _⟩

theorem setStatus_lawful {status : ComplianceTaskStatus} : Lawful May past (setStatus taskId status) := by
  refine lawful_seq findTaskOr_obeys fun task _ _ read => ?_
  refine lawful_seq (checkCompletion_obeys read) fun _ checked _ ⟨read, passed⟩ => ?_
  refine lawful_seq taskUpdate_obeys fun data later _ ⟨isStatus, grown⟩ => ?_
  have allowed : May later (.updateTask taskId data) := by
    by_cases isCompleted : status = .completed
    · exact .complete (grown.subset read) fun response member => (passed isCompleted response member).grow grown
    · exact .neutral (by simp [isGuarded, isStatus, isCompleted])
  refine lawful_call allowed fun _ => ?_
  refine lawful_bind closeSla_lawful fun _ _ => ?_
  refine lawful_call (.neutral rfl) fun _ => ?_
  exact lawful_bind audit_lawful fun _ _ => getTask_lawful

theorem createTemplate_lawful {input : TemplateInput} : Lawful May past (createTemplateFor input) :=
  lawful_call (.neutral rfl) fun _ => lawful_bind audit_lawful fun _ _ => trivial

theorem completedFields_lawful {input : ChecklistInput} : Lawful May past (completedFields input) := by
  unfold completedFields
  split
  · exact lawful_call (.neutral rfl) fun _ => trivial
  · trivial

theorem saveResponse_lawful {input : ChecklistInput} {existing : Option AmlChecklistResponse}
    {completion : Option Completion} : Lawful May past (saveResponse input existing completion) := by
  cases existing <;> exact lawful_ask (.neutral rfl)

theorem saveChecklist_lawful {input : ChecklistInput} : Lawful May past (saveChecklist input) := by
  refine lawful_seq findTaskOr_obeys fun task _ _ _ => ?_
  refine lawful_bind completedFields_lawful fun completion _ => ?_
  refine lawful_bind saveResponse_lawful fun _ _ => ?_
  refine lawful_call (.neutral rfl) fun _ => ?_
  exact lawful_bind audit_lawful fun _ _ => trivial

theorem isRequest_lawful (pid : ℕ) (program : TaskM Answer) (isRequest : IsRequest requests pid program) :
    Lawful May [] program := by
  rw [isRequest]
  cases requests pid with
  | createTemplate input => exact createTemplate_lawful
  | saveChecklist input => exact saveChecklist_lawful
  | setStatus taskId status => exact setStatus_lawful

/-! ## The condition -/

/-- Every template that binds the task has a row among the responses that the
request has read. -/
def isCovered (x : History) (present : ComplianceTask) : Answered TaskCall TaskCall.Reply Failure → Bool
  | ⟨.findTask _, .ok (some task)⟩ => x.store.templates.rows.all fun row =>
      !AmlChecklistTemplate.binds row.2 present.type || task.checklistResponses.any fun response =>
        response.templateId = some row.1
  | _ => true

/-- Where a request completes a task, the task it has read has a response for
each template that binds it. -/
def isOrderly (x : History) (pid : ℕ) : TaskCall → Bool
  | .updateTask taskId data => data.status ≠ .completed ||
      (x.store.tasks.lookup taskId).all fun present => (x.past pid).all (isCovered x present)
  | _ => true

def followed (pid : ℕ) (call : TaskCall) (x : History) (reply : Except Failure call.Reply) (s' : Store) : Prop :=
  Makes pid call x.store reply s' ∧ isOrderly x pid call

/-! ## The invariant -/

/-- What was read stands, and each template that was looked for was there. -/
structure Kept (x : History) : Prop where
  keys : ForeignKeys x.store
  read : ∀ pid taskId task, Read (x.past pid) taskId task → ∀ response ∈ task.checklistResponses,
    response.taskId = taskId ∧ Stands x.store response
  looked : ∀ pid templateId found, ⟨.findTemplate templateId, .ok found⟩ ∈ x.past pid →
    ∃ template, found = some template ∧ x.store.templates.lookup templateId = some template

theorem Kept.template_isSome (kept : Kept x) (read : Read (x.past pid) taskId task)
    (member : response ∈ task.checklistResponses) (isTemplate : response.templateId = some templateId) :
    (x.store.templates.lookup templateId).isSome := by
  obtain ⟨present, present_mem, -, sameTemplate, -⟩ := (kept.read pid taskId task read response member).2
  exact kept.keys present present_mem templateId (sameTemplate.trans isTemplate)

theorem findTask_stands (found : findTask taskId s = some task) (member : response ∈ task.checklistResponses) :
    response.taskId = taskId ∧ Stands s response := by
  obtain ⟨row, -, rfl⟩ := Option.map_eq_some_iff.mp found
  obtain ⟨present, isTask⟩ := List.mem_filter.mp member
  exact ⟨by simpa using isTask, response, present, rfl, rfl, fun done => done⟩

theorem makes_findTask {found : Option TaskWithRelations} (made : Makes pid (.findTask taskId) s (.ok found) s') :
    found = findTask taskId s := by
  rcases made with ⟨world, ran⟩ | ⟨⟨failure, -, lost⟩, -⟩
  · exact (Except.ok.inj (congrArg Prod.fst ran)).symm
  · cases lost

theorem makes_findTemplate {found : Option AmlChecklistTemplate}
    (made : Makes pid (.findTemplate templateId) s (.ok found) s') : found = s.templates.lookup templateId := by
  rcases made with ⟨world, ran⟩ | ⟨⟨failure, -, lost⟩, -⟩
  · exact (Except.ok.inj (congrArg Prod.fst ran)).symm
  · cases lost

theorem kept_step (kept : Kept x) (may : May (x.past pid) call) (made : Makes pid call x.store reply s') :
    Kept ⟨s', (pid, ⟨call, reply⟩) :: x.history⟩ := by
  obtain ⟨grows, keys⟩ := Makes.grows made
  refine ⟨keys kept.keys, fun other taskId task read response member => ?_, fun other templateId found looked => ?_⟩
  · rcases Logged.mem_past_cons.mp read with ⟨same, rfl⟩ | earlier
    · cases same
      obtain ⟨isTask, stands⟩ := findTask_stands (makes_findTask made).symm member
      exact ⟨isTask, stands.grow grows⟩
    · obtain ⟨isTask, stands⟩ := kept.read other taskId task earlier response member
      exact ⟨isTask, stands.grow grows⟩
  · rcases Logged.mem_past_cons.mp looked with ⟨same, rfl⟩ | earlier
    · cases same
      cases may with
      | neutral neutral => cases neutral
      | @findTemplate taskId task _ read named =>
        obtain ⟨response, member, isTemplate⟩ := named
        obtain ⟨template, isFound⟩ := Option.isSome_iff_exists.mp (kept.template_isSome read member isTemplate)
        exact ⟨template, (makes_findTemplate made).trans isFound, grows.templates _ _ isFound⟩
    · obtain ⟨template, rfl, isFound⟩ := kept.looked other templateId found earlier
      exact ⟨template, rfl, grows.templates _ _ isFound⟩

/-- A template that binds and has passed with a response has a completed one. -/
theorem completed_of_passed (kept : Kept x) (read : Read (x.past pid) taskId task)
    (member : response ∈ task.checklistResponses) (passed : Passed (x.past pid) response)
    (isTemplate : response.templateId = some templateId) (found : x.store.templates.lookup templateId = some template)
    (required : template.requiredForCompletion) :
    ∃ present ∈ x.store.responses, present.taskId = taskId ∧ present.templateId = some templateId ∧ present.completed := by
  obtain ⟨isTask, present, present_mem, sameTask, sameTemplate, done⟩ := kept.read pid taskId task read response member
  refine ⟨present, present_mem, sameTask.trans isTask, sameTemplate.trans isTemplate, done ?_⟩
  rcases passed templateId isTemplate with completed | ⟨looked, isLooked, free⟩
  · exact completed
  · obtain ⟨same, rfl, isFound⟩ := kept.looked pid templateId looked isLooked
    cases found.symm.trans isFound
    rw [Option.any_some, required] at free
    cases free

theorem complete_of_orderly {completedAt : Option Time} (kept : Kept x)
    (may : May (x.past pid) (.updateTask taskId ⟨.completed, completedAt⟩))
    (orderly : isOrderly x pid (.updateTask taskId ⟨.completed, completedAt⟩)) : Complete x.store taskId := by
  intro present isTask templateId template found binds
  cases may with
  | neutral neutral => cases neutral
  | @complete _ task _ read passed =>
    simp only [isOrderly, isTask, ne_eq, not_true_eq_false, decide_false, Bool.false_or, Option.all_some,
      List.all_eq_true] at orderly
    have covered := orderly _ read
    simp only [isCovered, List.all_eq_true, Bool.or_eq_true, Bool.not_eq_true'] at covered
    rcases covered (templateId, template) (Table.mem_rows.mpr found) with unbound | row
    · rw [binds] at unbound
      cases unbound
    · obtain ⟨response, member, isTemplate⟩ := List.any_eq_true.mp row
      have required : template.requiredForCompletion := by
        simp only [AmlChecklistTemplate.binds, Bool.and_eq_true] at binds
        exact binds.1.2
      exact completed_of_passed kept read member (passed response member) (by simpa using isTemplate) found required

theorem kept_opening (keys : ForeignKeys s) : Kept ⟨s, []⟩ where
  keys := keys
  read _ _ _ read := absurd read List.not_mem_nil
  looked _ _ _ looked := absurd looked List.not_mem_nil

/-- Where the task has, when it is read, a response for each template that binds
it, it is completed only with all of them completed. -/
theorem completed_only (run : Logged.Run followed (IsRequest requests) ForeignKeys pool) :
    CompletedOnly followed requests pool := by
  have kept : Kept pool.store := run.inv isRequest_lawful
    (fun s keys => kept_opening keys)
    fun x pid call reply s' kept may made => kept_step kept may made.1
  intro pool' step pid taskId completedAt grown
  obtain ⟨may, made⟩ := Logged.Run.only_call isRequest_lawful run (.single step) grown
  exact complete_of_orderly kept may made.2

/-! ## Two tasks -/

def smallTemplate : AmlChecklistTemplate := ⟨.kycReview, ['k'], ['v', '1'], [⟨['i'], ['d'], none⟩], true, true, none⟩

/-- A review with a template that binds it. -/
def openStore : Store where
  tasks := (∅ : Table TaskId ComplianceTask).insert 1 ⟨.kycReview, .open, none⟩
  slas := ∅
  templates := (∅ : Table TemplateId AmlChecklistTemplate).insert 1 smallTemplate
  responses := []

/-- Request 1 fills the checklist in, the others complete the task. -/
def eachOfficer : ℕ → Request
  | 1 => .saveChecklist ⟨1, some 1, [], true, some 5⟩
  | _ => .setStatus 1 .completed

theorem openStore_keys : ForeignKeys openStore := fun _ member => nomatch member

/-- What is there when the task is completed at a time. -/
theorem complete_of_waits {step : ℕ → (call : TaskCall) → History → Except Failure call.Reply → Store → Prop}
    {present : ComplianceTask} {completedAt : Option Time} (only : CompletedOnly step requests pool)
    (waits : Logged.waitsFor pool pid = some (.updateTask taskId ⟨.completed, completedAt⟩))
    (found : pool.store.store.tasks.lookup taskId = some present)
    (makes : ∀ s', Makes pid (.updateTask taskId ⟨.completed, completedAt⟩) pool.store.store (.ok ()) s' →
      step pid (.updateTask taskId ⟨.completed, completedAt⟩) pool.store (.ok ()) s') :
    Complete pool.store.store taskId := by
  obtain ⟨next, waiting⟩ := Logged.waiting_of_waitsFor waits
  let s' : Store := { pool.store.store with
    tasks := pool.store.store.tasks.insert taskId (TaskUpdate.set ⟨.completed, completedAt⟩ present) }
  have performed : Makes pid (.updateTask taskId ⟨.completed, completedAt⟩) pool.store.store (.ok ()) s' := by
    refine .inl ⟨⟨0, 0⟩, ?_⟩
    simp only [perform, updateTask, found]
    rfl
  have logged : (Logged.protocol step).step pid (.updateTask taskId ⟨.completed, completedAt⟩) pool.store (.ok ())
      ⟨s', (pid, ⟨.updateTask taskId ⟨.completed, completedAt⟩, .ok ()⟩) :: pool.store.history⟩ :=
    ⟨makes s' performed, rfl⟩
  exact only _ (.resume waiting logged) pid taskId completedAt rfl

/-- The checklist is filled in before the task is completed. -/
theorem filled_then_completed : ∃ pool : TaskPool,
    Logged.waitsFor pool 2 = some (.updateTask 1 ⟨.completed, some 7⟩) ∧ Complete pool.store.store 1 := by
  have played : (Database.schedule perform (fun _ => ⟨7, 7⟩) (fun _ _ => false) (fun pid call x _ => isOrderly x pid call)
      (fun pid => handle (eachOfficer pid)) [1, 2] [(1, 9), (2, 3)] openStore).map (fun pool =>
        (Logged.waitsFor pool 2, pool.store.store.tasks.lookup 1, isOrderly pool.store 2 (.updateTask 1 ⟨.completed, some 7⟩))) =
      some (some (.updateTask 1 ⟨.completed, some 7⟩), some ⟨.kycReview, .open, none⟩, true) := by decide +kernel
  obtain ⟨pool, scheduled, facts⟩ := Option.map_eq_some_iff.mp played
  simp only [Prod.mk.injEq] at facts
  obtain ⟨waits, found, orderly⟩ := facts
  have run : Logged.Run followed (IsRequest eachOfficer) ForeignKeys pool :=
    Database.schedule_run openStore_keys (fun _ => rfl) (fun _ _ _ _ _ allowed makes => ⟨makes, allowed⟩) scheduled
  exact ⟨pool, waits, complete_of_waits (completed_only run) waits found fun _ makes => ⟨makes, orderly⟩⟩

/-- Without a response to the template nothing keeps the task from being completed. -/
theorem completed_without_checklist : ¬∀ pool : TaskPool,
    Logged.Run interleaved (IsRequest eachOfficer) ForeignKeys pool → CompletedOnly interleaved eachOfficer pool := by
  intro only
  have played : (Database.schedule perform (fun _ => ⟨7, 7⟩) (fun _ _ => false) (fun _ _ _ _ => true)
      (fun pid => handle (eachOfficer pid)) [2] [(2, 2)] openStore).map (fun pool =>
        (Logged.waitsFor pool 2, pool.store.store.tasks.lookup 1, pool.store.store.templates.lookup 1,
          pool.store.store.responses)) =
      some (some (.updateTask 1 ⟨.completed, some 7⟩), some ⟨.kycReview, .open, none⟩, some smallTemplate, []) := by
    decide +kernel
  obtain ⟨pool, scheduled, facts⟩ := Option.map_eq_some_iff.mp played
  simp only [Prod.mk.injEq] at facts
  obtain ⟨waits, found, template, none⟩ := facts
  have run : Logged.Run interleaved (IsRequest eachOfficer) ForeignKeys pool :=
    Database.schedule_run openStore_keys (fun _ => rfl) (fun _ _ _ _ _ _ makes => makes) scheduled
  have complete := complete_of_waits (only pool run) waits found fun _ makes => makes
  obtain ⟨response, member, -⟩ := complete _ found 1 smallTemplate template rfl
  rw [none] at member
  cases member

end Exchange.WorkspaceTasks.Checklists
