import Exchange.MonitoringPasses

/-! Escalation of what monitoring finds. An alert is written once and linked by
the pass that creates it, so a later pass relies on the alert that is there:
that it is serious enough, that it was linked, and that its case was open. -/
namespace Exchange.Compliance.Escalation
open Async Service

/-! ## What has become of an alert -/

/-- The status of a case after a call. -/
def statusAfter (id : CaseId) (before : Option ComplianceCaseStatus) :
    Answered ComplianceCall ComplianceCall.Reply Failure → Option ComplianceCaseStatus
  | ⟨.createCase other case, .ok _⟩ => if other = id then some case.status else before
  | ⟨.setCaseStatus other status, .ok _⟩ => if other = id then some status else before
  | _ => before

/-- The status of a case at the end of a history. -/
def statusAt (id : CaseId) : List Event → Option ComplianceCaseStatus
  | [] => none
  | (_, made) :: rest => statusAfter id (statusAt id rest) made

def linkMade : Answered ComplianceCall ComplianceCall.Reply Failure → Option (AlertKey × CaseId)
  | ⟨.linkAlert key caseId, .ok _⟩ => some (key, caseId)
  | _ => none

/-- The case was not closed when the alert was last linked. -/
def linkedOpen (key : AlertKey) : List Event → Bool
  | [] => false
  | (_, made) :: rest =>
    match linkMade made with
    | some (other, caseId) => if other = key then statusAt caseId rest ≠ some .closed else linkedOpen key rest
    | none => linkedOpen key rest

def handles (key : AlertKey) : Answered ComplianceCall ComplianceCall.Reply Failure → Bool
  | ⟨.setAlertStatus other status, .ok _⟩ => other = key && (status = .resolved || status = .dismissed)
  | _ => false

/-- An admin has resolved or dismissed the alert. -/
def isHandled (key : AlertKey) (history : List Event) : Bool := history.any fun made => handles key made.2

/-- The candidate's alert is serious enough, and linked to a case that was open
then, unless an admin has dealt with it. -/
def Escalated (x : History) (c : AlertCandidate) : Prop :=
  ∃ alert, x.store.alerts.lookup c.dedupeKey = some alert ∧ c.priority ≤ alert.priority ∧
    (isHandled c.dedupeKey x.history ∨ alert.caseId.isSome ∧ linkedOpen c.dedupeKey x.history)

/-- The pass has ended, and no call of its own for alerts and cases failed. -/
def Completed (pool : CompliancePool) (pid : ℕ) : Prop :=
  pool.answerOf pid = some () ∧ ∀ made ∈ pool.store.past pid, isLost made = false

/-- Each serious candidate of a completed pass is escalated. -/
def Complete (config : Config) (requests : ℕ → Request) (pool : CompliancePool) : Prop :=
  ∀ pid userId, requests pid = .runForUser userId → Completed pool pid →
    ∀ c ∈ candidatesOf config userId (pool.store.past pid), c.priority.isHighOrCritical → Escalated pool.store c

/-- No alert and no case yet. -/
def Opening (s : Store) : Prop := s.alerts = ∅ ∧ s.cases = ∅

/-- Serious enough for the candidate, and in a case or dealt with. -/
def isDealt (x : History) (c : AlertCandidate) (alert : ComplianceAlert) : Bool :=
  c.priority ≤ alert.priority && (isHandled c.dedupeKey x.history || alert.caseId.isSome)

/-- What a pass finds for a serious candidate is dealt with, and alerts are
linked to cases that are not closed. -/
def isOrderly (config : Config) (requests : ℕ → Request) (x : History) (pid : ℕ) : ComplianceCall → Bool
  | .findAlert key =>
    match requests pid with
    | .runForUser userId => (candidatesOf config userId (x.past pid)).all fun c =>
        !(c.dedupeKey = key && c.priority.isHighOrCritical) || (x.store.alerts.lookup key).all (isDealt x c)
    | _ => true
  | .linkAlert _ caseId => (x.store.cases.lookup caseId).all fun case => case.status ≠ .closed
  | _ => true

def followed (config : Config) (requests : ℕ → Request) (pid : ℕ) (call : ComplianceCall) (x : History)
    (reply : Except Failure call.Reply) (s' : Store) : Prop :=
  Makes pid call x.store reply s' ∧ isOrderly config requests x pid call

variable {config : Config} {requests : ℕ → Request} {pid : ℕ} {call : ComplianceCall}
  {reply : Except Failure call.Reply} {s s' : Store} {userId : UserId} {x : History} {pool : CompliancePool}
  {made : Answered ComplianceCall ComplianceCall.Reply Failure} {key : AlertKey} {id : CaseId} {c : AlertCandidate}
  {alert alert' : ComplianceAlert} {history : List Event}

/-! ## Steps -/

theorem status_step (effect : Effect s made s') :
    (s'.cases.lookup id).map ComplianceCase.status =
      statusAfter id ((s.cases.lookup id).map ComplianceCase.status) made := by
  have inserted : ∀ (other : CaseId) (case : ComplianceCase),
      ((s.cases.insert other case).lookup id).map ComplianceCase.status =
        if other = id then some case.status else (s.cases.lookup id).map ComplianceCase.status := by
    intro other case
    split
    · rename_i same
      rw [same, AList.lookup_insert]
      rfl
    · rename_i ne
      rw [AList.lookup_insert_ne (Ne.symm ne)]
  cases effect with
  | caseCreated => exact inserted _ _
  | caseSet => exact inserted _ _
  | @caseRaised other case found =>
    refine (inserted _ _).trans ?_
    split
    · rename_i same
      rw [← same, found]
      rfl
    · rfl
  | @failed call failure => cases call <;> rfl
  | @read world pid call value isRead => cases call <;> first | rfl | cases isRead
  | _ => rfl

/-- Where the case of an alert comes from. -/
inductive Origin (made : Answered ComplianceCall ComplianceCall.Reply Failure) (before : Option ComplianceAlert)
    (key : AlertKey) (alert : ComplianceAlert) : Prop
  | same {old : ComplianceAlert} (found : before = some old) (isCase : alert.caseId = old.caseId)
      (unlinked : ∀ caseId, linkMade made ≠ some (key, caseId))
  | linked {caseId : CaseId} (link : linkMade made = some (key, caseId))
  | created {reply : ComplianceAlert} (isMade : made = ⟨.createAlert key alert, .ok reply⟩)

theorem linkMade_read {value : call.Reply} (isRead : call.isRead) : linkMade ⟨call, .ok value⟩ = none := by
  cases call <;> first | rfl | cases isRead

theorem alert_origin (effect : Effect s made s') (found : s'.alerts.lookup key = some alert) :
    Origin made (s.alerts.lookup key) key alert := by
  cases effect with
  | @alertCreated other new isNew =>
    by_cases same : key = other
    · subst same
      cases (AList.lookup_insert _).symm.trans found
      exact .created rfl
    · exact .same ((AList.lookup_insert_ne same).symm.trans found) rfl nofun
  | @alertLinked other caseId old isOld =>
    by_cases same : key = other
    · subst same
      exact .linked rfl
    · refine .same ((AList.lookup_insert_ne same).symm.trans found) rfl fun _ isLink => same ?_
      cases isLink
      rfl
  | @alertSet other status old isOld =>
    by_cases same : key = other
    · subst same
      cases (AList.lookup_insert _).symm.trans found
      exact .same isOld rfl nofun
    · exact .same ((AList.lookup_insert_ne same).symm.trans found) rfl nofun
  | @failed call failure => exact .same found rfl fun caseId isLink => by cases call <;> cases isLink
  | read isRead =>
    refine .same found rfl fun caseId isLink => ?_
    rw [linkMade_read isRead] at isLink
    cases isLink
  | _ => exact .same found rfl nofun

/-! ## The invariant -/

theorem handled_cons (handled : isHandled key history) : isHandled key ((pid, made) :: history) := by
  rw [isHandled, List.any_cons, ← isHandled, handled, Bool.or_true]

/-- The candidate's alert is there and dealt with. -/
def Dealt (x : History) (c : AlertCandidate) : Prop :=
  ∃ alert, x.store.alerts.lookup c.dedupeKey = some alert ∧ isDealt x c alert

structure Kept (config : Config) (requests : ℕ → Request) (x : History) : Prop where
  statuses : ∀ id, (x.store.cases.lookup id).map ComplianceCase.status = statusAt id x.history
  linked : ∀ key alert, x.store.alerts.lookup key = some alert → alert.caseId.isSome → linkedOpen key x.history
  found : ∀ pid userId (c : AlertCandidate) alert, requests pid = .runForUser userId →
    ⟨.findAlert c.dedupeKey, .ok (some alert)⟩ ∈ x.past pid → c ∈ candidatesOf config userId (x.past pid) →
    c.priority.isHighOrCritical → Dealt x c
  created : ∀ pid key alert reply, ⟨.createAlert key alert, .ok reply⟩ ∈ x.past pid →
    reply = alert ∧ ∃ stored, x.store.alerts.lookup key = some stored ∧ stored.priority = alert.priority
  links : ∀ pid key caseId, ⟨.linkAlert key caseId, .ok ()⟩ ∈ x.past pid →
    ∃ stored, x.store.alerts.lookup key = some stored ∧ stored.caseId.isSome

theorem Dealt.step (dealt : Dealt x c) (effect : Effect x.store made s') :
    Dealt ⟨s', (pid, made) :: x.history⟩ c := by
  obtain ⟨alert, found, isDealt'⟩ := dealt
  obtain ⟨status, caseId, found', stays⟩ := alert_stays effect found
  refine ⟨_, found', ?_⟩
  simp only [isDealt, Bool.and_eq_true, Bool.or_eq_true, decide_eq_true_eq] at isDealt' ⊢
  exact ⟨isDealt'.1, isDealt'.2.imp handled_cons stays⟩

section Step
variable (kept : Kept config requests x)
include kept

theorem kept_linked (may : May config (x.past pid) call) (made : followed config requests pid call x reply s')
    (found : s'.alerts.lookup key = some alert) (inCase : alert.caseId.isSome) :
    linkedOpen key ((pid, ⟨call, reply⟩) :: x.history) := by
  obtain ⟨makes, orderly⟩ := made
  rw [linkedOpen]
  cases alert_origin makes.effect found with
  | same isOld isCase unlinked =>
    have before := kept.linked key _ isOld (isCase ▸ inCase)
    split
    · rename_i other caseId isLink
      split
      · rename_i same
        subst same
        exact absurd isLink (unlinked caseId)
      · exact before
    · exact before
  | @linked caseId link =>
    have isOpen : statusAt caseId x.history ≠ some .closed := by
      unfold linkMade at link
      split at link
      · rename_i isMade
        cases isMade
        cases link
        rw [← kept.statuses]
        simp only [isOrderly, Option.all_eq_true, decide_eq_true_eq] at orderly
        rintro closed
        obtain ⟨case, found, isClosed⟩ := Option.map_eq_some_iff.mp closed
        exact orderly case found isClosed
      · cases link
    rw [link]
    dsimp only
    rw [if_pos rfl]
    exact decide_eq_true isOpen
  | created isMade =>
    cases isMade
    cases may with
    | free free =>
      rw [isFree, Option.isNone_iff_eq_none] at free
      rw [free] at inCase
      cases inCase

theorem kept_found (made : followed config requests pid call x reply s') {other : ℕ}
    (isPass : requests other = .runForUser userId)
    (found : ⟨.findAlert c.dedupeKey, .ok (some alert)⟩ ∈ (⟨s', (pid, ⟨call, reply⟩) :: x.history⟩ : History).past other)
    (member : c ∈ candidatesOf config userId ((⟨s', (pid, ⟨call, reply⟩) :: x.history⟩ : History).past other))
    (serious : c.priority.isHighOrCritical) : Dealt ⟨s', (pid, ⟨call, reply⟩) :: x.history⟩ c := by
  obtain ⟨makes, orderly⟩ := made
  suffices before : Dealt x c from before.step makes.effect
  rw [Logged.past_made] at found member
  split at found
  · rename_i same
    subst same
    rw [if_pos rfl] at member
    rcases candidates_before member with isCandidate | noFind
    · rcases List.mem_cons.mp found with isMade | earlier
      · cases isMade
        have isFound := findAlert_answer makes.effect
        refine ⟨alert, isFound, ?_⟩
        simp only [isOrderly, isPass, List.all_eq_true] at orderly
        have dealt := orderly c isCandidate
        simp only [serious, isFound, Option.all_some] at dealt
        simpa using dealt
      · exact kept.found other userId c alert isPass earlier isCandidate serious
    · exact absurd found (noFind _ _)
  · rename_i ne
    rw [if_neg ne] at member
    exact kept.found other userId c alert isPass found member serious

theorem kept_created (makes : Makes pid call x.store reply s') {other : ℕ} {data answer : ComplianceAlert}
    (member : ⟨.createAlert key data, .ok answer⟩ ∈ (⟨s', (pid, ⟨call, reply⟩) :: x.history⟩ : History).past other) :
    answer = data ∧ ∃ stored, s'.alerts.lookup key = some stored ∧ stored.priority = data.priority := by
  rcases Logged.mem_past_cons.mp member with ⟨isMade, -⟩ | earlier
  · have effect := makes.effect
    rw [← isMade] at effect
    obtain ⟨same, inserted⟩ := createAlert_answer effect
    exact ⟨same, data, inserted ▸ AList.lookup_insert _, rfl⟩
  · obtain ⟨same, stored, found, priority⟩ := kept.created other key data answer earlier
    obtain ⟨status, caseId, found', -⟩ := alert_stays makes.effect found
    exact ⟨same, _, found', priority⟩

theorem kept_links (makes : Makes pid call x.store reply s') {other : ℕ} {caseId : CaseId}
    (member : ⟨.linkAlert key caseId, .ok ()⟩ ∈ (⟨s', (pid, ⟨call, reply⟩) :: x.history⟩ : History).past other) :
    ∃ stored, s'.alerts.lookup key = some stored ∧ stored.caseId.isSome := by
  rcases Logged.mem_past_cons.mp member with ⟨isMade, -⟩ | earlier
  · have effect := makes.effect
    rw [← isMade] at effect
    cases effect with
    | alertLinked => exact ⟨_, AList.lookup_insert _, rfl⟩
    | read isRead => cases isRead
  · obtain ⟨stored, found, inCase⟩ := kept.links other key caseId earlier
    obtain ⟨status, caseId, found', stays⟩ := alert_stays makes.effect found
    exact ⟨_, found', stays inCase⟩

theorem kept_step (may : May config (x.past pid) call) (made : followed config requests pid call x reply s') :
    Kept config requests ⟨s', (pid, ⟨call, reply⟩) :: x.history⟩ where
  statuses id := by
    rw [statusAt, ← kept.statuses]
    exact status_step made.1.effect
  linked _ _ found inCase := kept_linked kept may made found inCase
  found _ _ _ _ isPass found member serious := kept_found kept made isPass found member serious
  created _ _ _ _ member := kept_created kept made.1 member
  links _ _ _ member := kept_links kept made.1 member

end Step

theorem kept_opening (opening : Opening s) : Kept config requests ⟨s, []⟩ where
  statuses id := by
    rw [opening.2]
    rfl
  linked key alert found := by
    rw [opening.1] at found
    cases found
  found _ _ _ _ _ member := nomatch member
  created _ _ _ _ member := nomatch member
  links _ _ _ member := nomatch member

/-! ## Escalation -/

theorem escalated_of_kept (kept : Kept config requests x) (found : x.store.alerts.lookup c.dedupeKey = some alert)
    (priority : c.priority ≤ alert.priority) (dealt : isHandled c.dedupeKey x.history ∨ alert.caseId.isSome) :
    Escalated x c :=
  ⟨alert, found, priority, dealt.imp_right fun inCase => ⟨inCase, kept.linked _ _ found inCase⟩⟩

/-- What a pass has met is escalated. -/
theorem escalated_of_met (kept : Kept config requests x) (isPass : requests pid = .runForUser userId)
    (member : c ∈ candidatesOf config userId (x.past pid)) (serious : c.priority.isHighOrCritical)
    (met : Met userId (x.past pid) c) : Escalated x c := by
  rcases met with ⟨alert, found⟩ | ⟨answer, created, linked⟩
  · obtain ⟨alert, found, dealt⟩ := kept.found pid userId c alert isPass found member serious
    simp only [isDealt, Bool.and_eq_true, Bool.or_eq_true, decide_eq_true_eq] at dealt
    exact escalated_of_kept kept found dealt.1 dealt.2
  · obtain ⟨rfl, stored, found, priority⟩ := kept.created pid _ _ _ created
    obtain ⟨caseId, isLinked⟩ := linked rfl
    obtain ⟨stored', found', inCase⟩ := kept.links pid _ _ isLinked
    cases found.symm.trans found'
    exact escalated_of_kept kept found priority.ge (.inr inCase)

/-- The ends of a pass; other requests may end as they like. -/
def ends (config : Config) : Request → Past → Except Failure Unit → Prop
  | .runForUser userId, past, _ => Settled config userId past
  | _, _, _ => True

theorem isRequest_ends (pid : ℕ) (program : ComplianceM Unit) (isRequest : IsRequest config requests pid program) :
    program.Obeys Unruled (ends config (requests pid)) [] := by
  cases isRequest
  cases requests pid with
  | runForUser userId => exact runForUser_ends
  | _ => exact ends_any _

/-- In every run where passes find serious alerts dealt with, and alerts are
linked to open cases, every serious candidate of a completed pass is escalated. -/
theorem escalation_complete
    (run : Logged.Run (followed config requests) (IsRequest config requests) Opening pool) :
    Complete config requests pool := by
  intro pid userId isPass completed c member serious
  obtain ⟨answers, unfailed⟩ := completed
  have kept : Kept config requests pool.store :=
    run.inv (isRequest_obeys requests) (fun _ opening => kept_opening opening)
      fun _ _ _ _ _ kept may made => kept_step kept may made
  have settled := (Logged.Run.orderly isRequest_ends run).ended (Pool.ended_of_answerOf answers)
  rw [isPass] at settled
  rcases settled with ⟨made, isMade, lost⟩ | met
  · rw [unfailed made isMade] at lost
    cases lost
  · exact escalated_of_met kept isPass member serious (met c member serious)

/-! ## Failed withdrawals of a day -/

def monitoringConfig : Config where
  risk := ⟨true, true, .medium⟩
  monitoring := ⟨7, 10000, 3, 60, 10000, 3, 100000⟩

/-- Withdrawals of user 7, all failed. -/
def failures (n : ℕ) : Movements := ⟨(List.range n).map fun i => ⟨i, 7, 100, .failed, i⟩, [], [], []⟩

/-- Some withdrawals fail, a pass, more have failed, another pass. -/
def requestsOf (first second : ℕ) : ℕ → Request
  | 0 => .move (failures first)
  | 1 => .runForUser 7
  | 2 => .move (failures second)
  | _ => .runForUser 7

def noon : World := ⟨43200000, .passed, [], ⟨.low, .clear, 0⟩⟩

abbrev schedule (first second : ℕ) (allows : ℕ → (call : ComplianceCall) → History → Except Failure call.Reply → Bool) :
    Option CompliancePool :=
  Database.schedule perform (fun _ => noon) (fun _ _ => false) allows
    (fun pid => (requestsOf first second pid).program monitoringConfig pid) [0, 1, 2, 3]
    [(0, 9), (1, 99), (2, 9), (3, 99)] (Store.ofUsers [7])

def candidateOf (score : ℕ) : AlertCandidate :=
  ⟨.repeatedFailedWithdrawals, .repeatedFailedWithdrawals 7 0, score, priorityFromScore score⟩

def storedPriority (pool : CompliancePool) : Option ComplianceCasePriority :=
  (pool.store.store.alerts.lookup (.repeatedFailedWithdrawals 7 0)).map ComplianceAlert.priority

/-- Five failures, and later the same five: the second pass finds the alert that
the first has linked. -/
theorem linked_escalates : ∃ pool : CompliancePool, pool.answerOf 3 = some () ∧
    candidateOf 60 ∈ candidatesOf monitoringConfig 7 (pool.store.past 3) ∧
    Complete monitoringConfig (requestsOf 5 5) pool := by
  have played : (schedule 5 5 fun pid call x _ => isOrderly monitoringConfig (requestsOf 5 5) x pid call).map
      (fun pool => (pool.answerOf 3, decide (candidateOf 60 ∈ candidatesOf monitoringConfig 7 (pool.store.past 3)))) =
        some (some (), true) := by
    decide +kernel
  obtain ⟨pool, scheduled, facts⟩ := Option.map_eq_some_iff.mp played
  simp only [Prod.mk.injEq, decide_eq_true_eq] at facts
  have run : Logged.Run (followed monitoringConfig (requestsOf 5 5)) (IsRequest monitoringConfig (requestsOf 5 5))
      Opening pool :=
    Database.schedule_run ⟨rfl, rfl⟩ (fun _ => rfl) (fun _ _ _ _ _ orderly makes => ⟨makes, orderly⟩) scheduled
  exact ⟨pool, facts.1, facts.2, escalation_complete run⟩

/-- Three failures raise an alert of medium priority, which no case takes. With
five the finding is serious, and the alert of the day is left as it is. -/
theorem rising_not_escalated : ¬∀ pool : CompliancePool,
    Logged.Run interleaved (IsRequest monitoringConfig (requestsOf 3 5)) Opening pool →
      Complete monitoringConfig (requestsOf 3 5) pool := by
  intro complete
  have played : (schedule 3 5 fun _ _ _ _ => true).map
      (fun pool => (pool.answerOf 3, (pool.store.past 3).all fun made => !isLost made,
        decide (candidateOf 60 ∈ candidatesOf monitoringConfig 7 (pool.store.past 3)), storedPriority pool)) =
        some (some (), true, true, some .medium) := by
    decide +kernel
  obtain ⟨pool, scheduled, facts⟩ := Option.map_eq_some_iff.mp played
  simp only [Prod.mk.injEq, decide_eq_true_eq, List.all_eq_true, Bool.not_eq_true'] at facts
  obtain ⟨answers, unfailed, member, isStored⟩ := facts
  have run : Logged.Run interleaved (IsRequest monitoringConfig (requestsOf 3 5)) Opening pool :=
    Database.schedule_run ⟨rfl, rfl⟩ (fun _ => rfl) (fun _ _ _ _ _ _ makes => makes) scheduled
  obtain ⟨alert, found, priority, -⟩ := complete pool run 3 7 rfl ⟨answers, unfailed⟩ _ member rfl
  have isMedium : alert.priority = .medium := by
    rw [storedPriority] at isStored
    obtain ⟨stored, found', isMedium⟩ := Option.map_eq_some_iff.mp isStored
    cases found.symm.trans found'
    exact isMedium
  rw [isMedium] at priority
  exact absurd priority (by decide)

end Exchange.Compliance.Escalation
