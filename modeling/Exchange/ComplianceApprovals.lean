import Exchange.AsyncDatabase
import Exchange.Table
import Exchange.Text

/-! Approval requests of the compliance workspace. One admin asks, another one
decides; whether a request is still pending is looked up in an earlier call than
the one that decides it. -/
namespace Exchange.Workspace

abbrev AdminId := ℕ

abbrev ApprovalId := ℕ

/-! ## Requests for approval -/

inductive ComplianceApprovalStatus where
  | pending
  | approved
  | rejected
  | cancelled
  deriving DecidableEq, Repr

structure ComplianceApprovalRequest where
  status : ComplianceApprovalStatus
  makerAdminId : AdminId
  checkerAdminId : Option AdminId
  decisionNote : Option Text
  deriving DecidableEq, Repr

abbrev Store := Table ApprovalId ComplianceApprovalRequest

inductive WorkspaceCall where
  | createApproval (makerAdminId : AdminId)
  | findApproval (id : ApprovalId)
  | updateApproval (id : ApprovalId) (status : ComplianceApprovalStatus) (checkerAdminId : AdminId)
      (decisionNote : Option Text)
  deriving DecidableEq, Repr

abbrev WorkspaceCall.Reply : WorkspaceCall → Type
  | .createApproval _ => ApprovalId
  | .findApproval _ => Option ComplianceApprovalRequest
  | .updateApproval _ _ _ _ => ComplianceApprovalRequest

/-- The id is the number of the request. -/
def createApproval (id : ApprovalId) (makerAdminId : AdminId) (s : Store) : Except Failure (ApprovalId × Store) :=
  if (s.lookup id).isSome then .error .uniqueViolation
  else .ok (id, s.insert id ⟨.pending, makerAdminId, none, none⟩)

def updateApproval (id : ApprovalId) (status : ComplianceApprovalStatus) (checkerAdminId : AdminId)
    (decisionNote : Option Text) (s : Store) : Except Failure (ComplianceApprovalRequest × Store) :=
  match s.lookup id with
  | some row =>
    let row' := { row with status, checkerAdminId := some checkerAdminId, decisionNote }
    .ok (row', s.insert id row')
  | none => .error (.prisma "P2025")

def perform (_ : Unit) (pid : ℕ) : (call : WorkspaceCall) → Store → Except Failure call.Reply × Store
  | .createApproval makerAdminId, s => Database.written s (createApproval pid makerAdminId s)
  | .findApproval id, s => (.ok (s.lookup id), s)
  | .updateApproval id status checkerAdminId decisionNote, s =>
    Database.written s (updateApproval id status checkerAdminId decisionNote s)

/-- A call as a request may see it. -/
abbrev Makes (pid : ℕ) (call : WorkspaceCall) (s : Store) (reply : Except Failure call.Reply) (s' : Store) : Prop :=
  Database.Makes perform pid call s reply s'

abbrev WorkspaceM := Async WorkspaceCall WorkspaceCall.Reply Failure

abbrev ask (call : WorkspaceCall) : WorkspaceM call.Reply := Async.call call

/-! ## The service -/

inductive Decision where
  | approved
  | rejected
  deriving DecidableEq, Repr

def Decision.status : Decision → ComplianceApprovalStatus
  | .approved => .approved
  | .rejected => .rejected

namespace Service
open Async

def createApproval (actorId : Option AdminId) : WorkspaceM Unit :=
  match actorId with
  | none => throw (.forbiddenError "An admin actor is required to create an approval request" "FORBIDDEN")
  | some actorId => do
    let _ ← ask (.createApproval actorId)
    return ()

def decideApproval (approvalId : ApprovalId) (decision : Decision) (note : Option Text) (actorId : Option AdminId) :
    WorkspaceM Unit :=
  match actorId with
  | none => throw (.forbiddenError "An admin actor is required to decide an approval" "FORBIDDEN")
  | some actorId => do
    let found ← ask (.findApproval approvalId)
    match found with
    | none => throw (.notFoundError "Approval request not found")
    | some approval =>
      if approval.status ≠ .pending then throw (.badRequestError "Approval is not pending")
      else if approval.makerAdminId = actorId then
        throw (.forbiddenError "The maker cannot approve or reject their own request" "FORBIDDEN")
      else do
        let _ ← ask (.updateApproval approvalId decision.status actorId note)
        return ()

inductive Request where
  | createApproval (actorId : Option AdminId)
  | decideApproval (approvalId : ApprovalId) (decision : Decision) (note : Option Text) (actorId : Option AdminId)
  deriving DecidableEq, Repr

def Request.program : Request → WorkspaceM Unit
  | .createApproval actorId => Service.createApproval actorId
  | .decideApproval approvalId decision note actorId => Service.decideApproval approvalId decision note actorId

/-- The request of each number. -/
def IsRequest (requests : ℕ → Request) (pid : ℕ) (program : WorkspaceM Unit) : Prop :=
  program = (requests pid).program

/-! ## The rules -/

/-- The calls a request has made, latest first. -/
abbrev Past := List (Answered WorkspaceCall WorkspaceCall.Reply Failure)

/-- The calls a request may make. -/
inductive May (request : Request) (past : Past) : WorkspaceCall → Prop
  | createApproval {actorId : AdminId} (isRequest : request = .createApproval (some actorId)) :
      May request past (.createApproval actorId)
  | findApproval {id : ApprovalId} : May request past (.findApproval id)
  | updateApproval {id : ApprovalId} {decision : Decision} {note : Option Text} {actorId : AdminId}
      {approval : ComplianceApprovalRequest} (isRequest : request = .decideApproval id decision note (some actorId))
      (read : ⟨.findApproval id, .ok (some approval)⟩ ∈ past) (pending : approval.status = .pending)
      (isOther : approval.makerAdminId ≠ actorId) : May request past (.updateApproval id decision.status actorId note)

def ends (_ : Past) (_ : Except Failure Unit) : Prop := True

theorem program_obeys (request : Request) : request.program.Obeys (May request) ends [] := by
  cases request with
  | createApproval actorId =>
    cases actorId with
    | none => trivial
    | some actorId => exact ⟨.createApproval rfl, fun reply => by cases reply <;> trivial⟩
  | decideApproval approvalId decision note actorId =>
    cases actorId with
    | none => trivial
    | some actorId =>
      refine ⟨.findApproval, fun reply => ?_⟩
      rcases reply with failure | (_ | approval)
      · trivial
      · trivial
      change Async.Obeys (May _) ends _ (if _ then _ else _)
      split
      · trivial
      rename_i pending
      split
      · trivial
      rename_i isOther
      refine ⟨.updateApproval rfl List.mem_cons_self (not_not.mp pending) isOther, fun reply => ?_⟩
      cases reply <;> trivial

theorem isRequest_obeys (requests : ℕ → Request) (pid : ℕ) (program : WorkspaceM Unit)
    (isRequest : IsRequest requests pid program) : program.Obeys (May (requests pid)) ends [] :=
  isRequest ▸ program_obeys (requests pid)

end Service

open Service

/-! ## What calls do -/

variable {requests : ℕ → Request} {request : Request} {pid : ℕ} {call : WorkspaceCall}
  {reply : Except Failure call.Reply} {s s' : Store} {id : ApprovalId} {row : ComplianceApprovalRequest}

/-- What a call did, by its answer. -/
inductive Effect (s : Store) : Answered WorkspaceCall WorkspaceCall.Reply Failure → Store → Prop
  | failed {call : WorkspaceCall} {failure : Failure} : Effect s ⟨call, .error failure⟩ s
  | created {id : ApprovalId} {makerAdminId : AdminId} (isNew : s.lookup id = none) :
      Effect s ⟨.createApproval makerAdminId, .ok id⟩ (s.insert id ⟨.pending, makerAdminId, none, none⟩)
  | read {id : ApprovalId} {found : Option ComplianceApprovalRequest} (isFound : s.lookup id = found) :
      Effect s ⟨.findApproval id, .ok found⟩ s
  | updated {id : ApprovalId} {status : ComplianceApprovalStatus} {checkerAdminId : AdminId} {note : Option Text}
      {row row' : ComplianceApprovalRequest} (isRow : s.lookup id = some row)
      (isSet : row' = { row with status, checkerAdminId := some checkerAdminId, decisionNote := note }) :
      Effect s ⟨.updateApproval id status checkerAdminId note, .ok row'⟩ (s.insert id row')

theorem Makes.effect (makes : Makes pid call s reply s') : Effect s ⟨call, reply⟩ s' := by
  rcases makes with ⟨world, ran⟩ | ⟨⟨failure, -, rfl⟩, rfl⟩
  · cases call with
    | createApproval makerAdminId =>
      rcases Database.written_cases ran with ⟨value, rfl, ok⟩ | ⟨⟨failure, rfl, -⟩, rfl⟩
      · unfold Workspace.createApproval at ok
        split at ok
        · cases ok
        · rename_i isNew
          cases ok
          exact .created (by simpa using isNew)
      · exact .failed
    | findApproval id =>
      cases ran
      exact .read rfl
    | updateApproval id status checkerAdminId note =>
      rcases Database.written_cases ran with ⟨value, rfl, ok⟩ | ⟨⟨failure, rfl, -⟩, rfl⟩
      · unfold updateApproval at ok
        split at ok
        · rename_i row isRow
          cases ok
          exact .updated isRow rfl
        · cases ok
      · exact .failed
  · exact .failed

/-! ## Decisions -/

abbrev History := Logged ℕ WorkspaceCall WorkspaceCall.Reply Failure Store

abbrev WorkspacePool := Pool ℕ WorkspaceCall WorkspaceCall.Reply Failure Unit History

variable {x : History} {pool pool' : WorkspacePool}

def interleaved (pid : ℕ) (call : WorkspaceCall) (x : History) (reply : Except Failure call.Reply) (s' : Store) :
    Prop :=
  Makes pid call x.store reply s'

/-- A decision finds the request pending still, or finds itself. -/
def isPending (s : Store) : WorkspaceCall → Bool
  | .updateApproval id status checkerAdminId _ => (s.lookup id).all fun row =>
      row.status = .pending || row.status = status && row.checkerAdminId = some checkerAdminId
  | _ => true

def followed (pid : ℕ) (call : WorkspaceCall) (x : History) (reply : Except Failure call.Reply) (s' : Store) : Prop :=
  Makes pid call x.store reply s' ∧ isPending x.store call

/-- Whoever decides is not the maker. -/
def SecondPerson (s : Store) : Prop :=
  ∀ id row checker, s.lookup id = some row → row.checkerAdminId = some checker → checker ≠ row.makerAdminId

/-- A decision stays, with who made it. -/
def Stays (s s' : Store) : Prop :=
  ∀ id row, s.lookup id = some row → row.status ≠ .pending →
    ∃ row', s'.lookup id = some row' ∧ row'.status = row.status ∧ row'.checkerAdminId = row.checkerAdminId

/-- The row has this maker. -/
def MadeBy (s : Store) (id : ApprovalId) (maker : AdminId) : Prop :=
  ∃ row, s.lookup id = some row ∧ row.makerAdminId = maker

theorem madeBy_effect {made : Answered WorkspaceCall WorkspaceCall.Reply Failure} {maker : AdminId}
    (effect : Effect s made s') (madeBy : MadeBy s id maker) : MadeBy s' id maker := by
  obtain ⟨row, isRow, isMaker⟩ := madeBy
  cases effect with
  | @created newId makerAdminId isNew =>
    have old : id ≠ newId := by
      rintro rfl
      cases isNew.symm.trans isRow
    exact ⟨row, (AList.lookup_insert_ne old).trans isRow, isMaker⟩
  | @updated setId status checkerAdminId note before row' isBefore isSet =>
    by_cases same : id = setId
    · subst same
      cases isRow.symm.trans isBefore
      exact ⟨row', AList.lookup_insert _, isSet ▸ isMaker⟩
    · exact ⟨row, (AList.lookup_insert_ne same).trans isRow, isMaker⟩
  | _ => exact ⟨row, isRow, isMaker⟩

structure Kept (x : History) : Prop where
  second : SecondPerson x.store
  read : ∀ pid id row, ⟨.findApproval id, .ok (some row)⟩ ∈ x.past pid → MadeBy x.store id row.makerAdminId

theorem second_step (kept : Kept x) (may : May request (x.past pid) call) (makes : Makes pid call x.store reply s') :
    SecondPerson s' := by
  intro id row checker isRow isChecker
  cases makes.effect with
  | @created newId makerAdminId isNew =>
    by_cases same : id = newId
    · subst same
      rw [AList.lookup_insert] at isRow
      cases isRow
      cases isChecker
    · exact kept.second id row checker ((AList.lookup_insert_ne same).symm.trans isRow) isChecker
  | @updated setId status checkerAdminId note before row' isBefore isSet =>
    by_cases same : id = setId
    · subst same
      rw [AList.lookup_insert] at isRow
      cases isRow
      subst isSet
      cases isChecker
      cases may with
      | updateApproval isRequest read pending isOther =>
        -- The maker that was read is the maker of the row.
        obtain ⟨now, isNow, isMaker⟩ := kept.read pid id _ read
        cases isBefore.symm.trans isNow
        exact fun same => isOther (isMaker.symm.trans same.symm)
    · exact kept.second id row checker ((AList.lookup_insert_ne same).symm.trans isRow) isChecker
  | _ => exact kept.second id row checker isRow isChecker

theorem kept_step (kept : Kept x) (may : May request (x.past pid) call) (makes : Makes pid call x.store reply s') :
    Kept ⟨s', (pid, ⟨call, reply⟩) :: x.history⟩ := by
  refine ⟨second_step kept may makes, fun other id row member => ?_⟩
  rcases Logged.mem_past_cons.mp member with ⟨same, -⟩ | before
  · cases same
    cases makes.effect with
    | read isFound => exact ⟨row, isFound, rfl⟩
  · exact madeBy_effect makes.effect (kept.read other id row before)

theorem stays_step (made : followed pid call x reply s') : Stays x.store s' := by
  obtain ⟨makes, allowed⟩ := made
  intro id row isRow decided
  cases makes.effect with
  | @created newId makerAdminId isNew =>
    have old : id ≠ newId := by
      rintro rfl
      cases isNew.symm.trans isRow
    exact ⟨row, (AList.lookup_insert_ne old).trans isRow, rfl, rfl⟩
  | @updated setId status checkerAdminId note before row' isBefore isSet =>
    by_cases same : id = setId
    · subst same
      cases isRow.symm.trans isBefore
      subst isSet
      simp only [isPending, isRow, Option.all_some, Bool.or_eq_true, Bool.and_eq_true, decide_eq_true_eq] at allowed
      obtain ⟨isStatus, isChecker⟩ := allowed.resolve_left decided
      exact ⟨_, AList.lookup_insert _, isStatus.symm, isChecker.symm⟩
    · exact ⟨row, (AList.lookup_insert_ne same).trans isRow, rfl, rfl⟩
  | _ => exact ⟨row, isRow, rfl, rfl⟩

/-- Decisions of an earlier moment stay. -/
def Since (earlier : Store) (x : History) : Prop := Stays earlier x.store

theorem Stays.trans {s'' : Store} (first : Stays s s') (second : Stays s' s'') : Stays s s'' := by
  intro id row isRow decided
  obtain ⟨now, isNow, isStatus, isChecker⟩ := first id row isRow decided
  obtain ⟨row', isRow', isStatus', isChecker'⟩ := second id now isNow (isStatus ▸ decided)
  exact ⟨row', isRow', isStatus'.trans isStatus, isChecker'.trans isChecker⟩

/-- While each decision finds its request pending, decisions stay, and each is
that of a second person. -/
theorem decided_once (run : Logged.Run followed (IsRequest requests) SecondPerson pool)
    (steps : Relation.ReflTransGen (Pool.Step (Logged.protocol followed) (IsRequest requests)) pool pool') :
    Stays pool.store.store pool'.store.store ∧ SecondPerson pool'.store.store := by
  have reached : Logged.Run followed (IsRequest requests) SecondPerson pool' := run.steps steps
  have since : Since pool.store.store pool.store := fun id row isRow _ => ⟨row, isRow, rfl, rfl⟩
  have stays : Since pool.store.store pool'.store :=
    run.keeps (isRequest_obeys requests) (fun _ _ _ _ _ stays _ made => stays.trans (stays_step made)) steps since
  have kept : Kept pool'.store := reached.inv (isRequest_obeys requests) (fun s second => ⟨second, nofun⟩)
    fun _ _ _ _ _ kept may made => kept_step kept may made.1
  exact ⟨stays, kept.second⟩

/-! ## Two checkers -/

private def twoCheckers : ℕ → Request
  | 1 => .createApproval (some 7)
  | 2 => .decideApproval 1 .approved none (some 8)
  | _ => .decideApproval 1 .rejected none (some 9)

private theorem second_empty : SecondPerson ∅ := by
  intro id row checker isRow
  rw [AList.lookup_empty] at isRow
  cases isRow

private def decisionOf (pool : WorkspacePool) : Option (ComplianceApprovalStatus × Option AdminId) :=
  (pool.store.store.lookup 1).map fun row => (row.status, row.checkerAdminId)

private theorem lookup_of_decisionOf {status : ComplianceApprovalStatus} {checker : Option AdminId}
    (isDecision : decisionOf pool = some (status, checker)) :
    ∃ row, pool.store.store.lookup 1 = some row ∧ row.status = status ∧ row.checkerAdminId = checker := by
  obtain ⟨row, isRow, same⟩ := Option.map_eq_some_iff.mp isDecision
  cases same
  exact ⟨row, isRow, rfl, rfl⟩

/-- The second comes too late. -/
theorem decided_once_in_turn : ∃ pool pool' : WorkspacePool, decisionOf pool = some (.approved, some 8) ∧
    pool'.answerOf 3 = none ∧ Stays pool.store.store pool'.store.store ∧ SecondPerson pool'.store.store := by
  have played : ((Database.schedule perform (fun _ => ()) (fun _ _ => false) (fun _ call x _ => isPending x.store call)
      (fun pid => (twoCheckers pid).program) [1, 2, 3] [(1, 1), (2, 2)] ∅).bind fun pool =>
        (Database.resume perform (fun _ => ()) (fun _ _ => false) (fun _ call x _ => isPending x.store call)
          (fun pid => (twoCheckers pid).program) [] [(3, 2)] pool).map fun pool' =>
            (decisionOf pool, pool'.answerOf 3)) = some (some (.approved, some 8), none) := by decide +kernel
  obtain ⟨pool, scheduled, played⟩ := Option.bind_eq_some_iff.mp played
  obtain ⟨pool', resumed, facts⟩ := Option.map_eq_some_iff.mp played
  simp only [Prod.mk.injEq] at facts
  have run : Logged.Run followed (IsRequest twoCheckers) SecondPerson pool :=
    Database.schedule_run second_empty (fun _ => rfl) (fun _ _ _ _ _ allowed makes => ⟨makes, allowed⟩) scheduled
  have steps : Relation.ReflTransGen (Pool.Step (Logged.protocol followed) (IsRequest twoCheckers)) pool pool' :=
    Database.resume_steps (fun _ => rfl) (fun _ _ _ _ _ allowed makes => ⟨makes, allowed⟩) resumed
  exact ⟨pool, pool', facts.1, facts.2, decided_once run steps⟩

/-- Both find the request pending, and the later decision replaces the first. -/
theorem decided_twice : ¬∀ pool pool' : WorkspacePool,
    Logged.Run interleaved (IsRequest twoCheckers) SecondPerson pool →
      Relation.ReflTransGen (Pool.Step (Logged.protocol interleaved) (IsRequest twoCheckers)) pool pool' →
        Stays pool.store.store pool'.store.store ∧ SecondPerson pool'.store.store := by
  intro once
  have played : ((Database.schedule perform (fun _ => ()) (fun _ _ => false) (fun _ _ _ _ => true)
      (fun pid => (twoCheckers pid).program) [1, 2, 3] [(1, 1), (3, 1), (2, 2)] ∅).bind fun pool =>
        (Database.resume perform (fun _ => ()) (fun _ _ => false) (fun _ _ _ _ => true)
          (fun pid => (twoCheckers pid).program) [] [(3, 1)] pool).map fun pool' =>
            (decisionOf pool, decisionOf pool')) =
      some (some (.approved, some 8), some (.rejected, some 9)) := by decide +kernel
  obtain ⟨pool, scheduled, played⟩ := Option.bind_eq_some_iff.mp played
  obtain ⟨pool', resumed, facts⟩ := Option.map_eq_some_iff.mp played
  simp only [Prod.mk.injEq] at facts
  have run : Logged.Run interleaved (IsRequest twoCheckers) SecondPerson pool :=
    Database.schedule_run second_empty (fun _ => rfl) (fun _ _ _ _ _ _ makes => makes) scheduled
  have steps : Relation.ReflTransGen (Pool.Step (Logged.protocol interleaved) (IsRequest twoCheckers)) pool pool' :=
    Database.resume_steps (fun _ => rfl) (fun _ _ _ _ _ _ makes => makes) resumed
  obtain ⟨row, isRow, isApproved, -⟩ := lookup_of_decisionOf facts.1
  obtain ⟨row', isRow', isRejected, -⟩ := lookup_of_decisionOf facts.2
  obtain ⟨stays, -⟩ := once pool pool' run steps
  obtain ⟨now, isNow, isStatus, -⟩ := stays 1 row isRow (by simp [isApproved])
  cases isRow'.symm.trans isNow
  simp [isApproved, isRejected] at isStatus

end Exchange.Workspace
