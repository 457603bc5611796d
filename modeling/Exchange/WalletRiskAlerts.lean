import Exchange.WalletRiskChecks

/-! Alerts about risky addresses. Checks are one an address and day, whoever asks,
and so are alerts: who finds a check on record raises nothing, and relies on what
the first of the day has raised. -/
namespace Exchange.Compliance.WalletAlerts
open Async Service

/-! ## What a user is owed -/

/-- An alert of the user about the address, as serious as the result. -/
def IsAbout (input : RunWalletRiskInput) (userId : UserId) (a : WalletRiskAssessment) (alert : ComplianceAlert) : Prop :=
  alert.userId = userId ∧ alert.wallet = some (input.chain, input.address) ∧
    (walletAlert input userId a).priority ≤ alert.priority

/-- The alert of the day is there, and for a critical result in a case of the
user. -/
def Alerted (input : RunWalletRiskInput) (userId : UserId) (day : Day) (a : WalletRiskAssessment) (s : Store) : Prop :=
  ∃ alert, s.alerts.lookup (alertKey input day) = some alert ∧ IsAbout input userId a alert ∧
    (a.level = .critical → ∃ id case, alert.caseId = some id ∧ s.cases.lookup id = some case ∧ case.userId = userId)

/-- Every check that ended has what it calls for. -/
def Complete (inputs : ℕ → RunWalletRiskInput) (pool : CompliancePool) : Prop :=
  ∀ pid userId day a, pool.answerOf pid = some () →
    subjectOf (inputs pid) (pool.store.past pid) = some (userId, day, a) →
      Alerted (inputs pid) userId day a pool.store.store

/-- Only checks run. -/
def IsCheck (inputs : ℕ → RunWalletRiskInput) (pid : ℕ) (program : ComplianceM Unit) : Prop :=
  program = runCheck (inputs pid)

/-- No check has been recorded. -/
def Opening (s : Store) : Prop := s.alerts = ∅ ∧ s.cases = ∅ ∧ s.walletChecks = ∅

/-- The alert of a check on record is about the same address, and is in a case
where the result is critical. -/
def isFollowedUp (input : RunWalletRiskInput) (a : WalletRiskAssessment) (alert : ComplianceAlert) : Bool :=
  alert.wallet = some (input.chain, input.address) && (a.level ≠ .critical || alert.caseId.isSome)

/-- Who finds a check on record, and has a result to be raised, finds one of the
same user, critical if its own is, whose alert has been raised. -/
def isOrderly (inputs : ℕ → RunWalletRiskInput) (x : History) (pid : ℕ) : ComplianceCall → Bool
  | .findWalletCheck key =>
    match subjectOf (inputs pid) (x.past pid) with
    | some (userId, day, a) => (x.store.walletChecks.lookup key).all fun check =>
        check.userId = some userId && (a.level ≠ .critical || check.assessment.level = .critical) &&
          (x.store.alerts.lookup (alertKey (inputs pid) day)).any (isFollowedUp (inputs pid) a)
    | none => true
  | _ => true

def followed (inputs : ℕ → RunWalletRiskInput) (pid : ℕ) (call : ComplianceCall) (x : History)
    (reply : Except Failure call.Reply) (s' : Store) : Prop :=
  Makes pid call x.store reply s' ∧ isOrderly inputs x pid call

variable {inputs : ℕ → RunWalletRiskInput} {input : RunWalletRiskInput} {pid : ℕ} {call : ComplianceCall}
  {reply : Except Failure call.Reply} {s s' : Store} {userId : UserId} {day : Day} {a : WalletRiskAssessment}
  {x : History} {pool : CompliancePool} {past : Past} {made : Answered ComplianceCall ComplianceCall.Reply Failure}
  {key : AlertKey} {id : CaseId} {alert : ComplianceAlert} {case : ComplianceCase}

/-! ## Steps -/

theorem neutral_same (effect : Effect s ⟨call, reply⟩ s') (neutral : isNeutral call) :
    s'.alerts = s.alerts ∧ s'.cases = s.cases := by
  cases effect with
  | alertCreated => cases neutral
  | alertLinked => cases neutral
  | alertSet => cases neutral
  | caseCreated => cases neutral
  | caseSet => cases neutral
  | caseRaised => cases neutral
  | _ => exact ⟨rfl, rfl⟩

theorem findAlert_same {reply : Except Failure (ComplianceCall.findAlert key).Reply}
    (effect : Effect s ⟨.findAlert key, reply⟩ s') : s' = s := by
  cases effect <;> rfl

theorem walletCheck_stays {location : Text × Day} {check : WalletRiskCheck} (effect : Effect s made s')
    (found : s.walletChecks.lookup location = some check) : s'.walletChecks.lookup location = some check := by
  cases effect with
  | @walletChecked other new isNew =>
    have ne : location ≠ other := fun same => by rw [same, isNew] at found; cases found
    exact (AList.lookup_insert_ne ne).trans found
  | _ => exact found

/-- Where an alert comes from that is there after a call. -/
inductive AlertAfter (input : RunWalletRiskInput) (past : Past) (s : Store) (key : AlertKey) (alert : ComplianceAlert) :
    Answered ComplianceCall ComplianceCall.Reply Failure → Prop
  | same {made : Answered ComplianceCall ComplianceCall.Reply Failure} (found : s.alerts.lookup key = some alert) :
      AlertAfter input past s key alert made
  | created {userId : UserId} {day : Day} {a : WalletRiskAssessment} {answer : ComplianceAlert}
      (own : Own input past userId day a) (isKey : key = alertKey input day) (isAlert : alert = walletAlert input userId a) :
      AlertAfter input past s key alert ⟨.createAlert key alert, .ok answer⟩
  | linked {made : Answered ComplianceCall ComplianceCall.Reply Failure} {userId : UserId} {day : Day}
      {a : WalletRiskAssessment} {old : ComplianceAlert} (has : HasAlert input past userId day a)
      (case : HasCase past userId day) (isKey : key = alertKey input day) (found : s.alerts.lookup key = some old)
      (isAlert : alert = { old with caseId := some (.walletRisk userId day), status := .linkedToCase }) :
      AlertAfter input past s key alert made

theorem alert_after (may : May input past call) (effect : Effect s ⟨call, reply⟩ s')
    (found : s'.alerts.lookup key = some alert) : AlertAfter input past s key alert ⟨call, reply⟩ := by
  cases may with
  | neutral neutral =>
    rw [(neutral_same effect neutral).1] at found
    exact .same found
  | findAlert =>
    rw [findAlert_same effect] at found
    exact .same found
  | @createAlert userId day a own =>
    cases effect with
    | alertCreated new =>
      by_cases same : key = alertKey input day
      · subst same
        cases (AList.lookup_insert _).symm.trans found
        exact .created own rfl rfl
      · exact .same ((AList.lookup_insert_ne same).symm.trans found)
    | read isRead => cases isRead
    | failed => exact .same found
  | createCase =>
    cases effect with
    | caseCreated => exact .same found
    | read isRead => cases isRead
    | failed => exact .same found
  | @linkAlert userId day a has hasCase =>
    cases effect with
    | alertLinked isOld =>
      by_cases same : key = alertKey input day
      · subst same
        cases (AList.lookup_insert _).symm.trans found
        exact .linked has hasCase rfl isOld rfl
      · exact .same ((AList.lookup_insert_ne same).symm.trans found)
    | read isRead => cases isRead
    | failed => exact .same found

/-- A case that is there after a call was there, or is the user's. -/
theorem case_after (may : May input past call) (effect : Effect s ⟨call, reply⟩ s')
    (found : s'.cases.lookup id = some case) :
    s.cases.lookup id = some case ∨ ∃ userId day, id = .walletRisk userId day ∧ case = walletCase userId := by
  cases may with
  | neutral neutral =>
    rw [(neutral_same effect neutral).2] at found
    exact .inl found
  | findAlert =>
    rw [findAlert_same effect] at found
    exact .inl found
  | createAlert =>
    cases effect with
    | alertCreated => exact .inl found
    | read isRead => cases isRead
    | failed => exact .inl found
  | @createCase userId day =>
    cases effect with
    | caseCreated new =>
      by_cases same : id = .walletRisk userId day
      · subst same
        cases (AList.lookup_insert _).symm.trans found
        exact .inr ⟨userId, day, rfl, rfl⟩
      · exact .inl ((AList.lookup_insert_ne same).symm.trans found)
    | read isRead => cases isRead
    | failed => exact .inl found
  | linkAlert =>
    cases effect with
    | alertLinked => exact .inl found
    | read isRead => cases isRead
    | failed => exact .inl found

/-! ## The invariant -/

/-- The alert as it was created, but for its status and its case. -/
def Stored (s : Store) (key : AlertKey) (alert : ComplianceAlert) : Prop :=
  ∃ status caseId, s.alerts.lookup key = some { alert with status, caseId }

/-- The alert, and a case where the result is critical. -/
def Held (input : RunWalletRiskInput) (userId : UserId) (day : Day) (a : WalletRiskAssessment) (s : Store) : Prop :=
  ∃ alert, s.alerts.lookup (alertKey input day) = some alert ∧ IsAbout input userId a alert ∧
    (a.level = .critical → alert.caseId.isSome)

theorem Stored.step (stored : Stored s key alert) (effect : Effect s made s') : Stored s' key alert := by
  obtain ⟨status, caseId, found⟩ := stored
  obtain ⟨status', caseId', found', -⟩ := alert_stays effect found
  exact ⟨status', caseId', found'⟩

theorem Held.step (held : Held input userId day a s) (effect : Effect s made s') : Held input userId day a s' := by
  obtain ⟨alert, found, about, inCase⟩ := held
  obtain ⟨status, caseId, found', stays⟩ := alert_stays effect found
  exact ⟨_, found', about, fun critical => stays (inCase critical)⟩

/-- A request has recorded the check and created the alert. -/
def Source (inputs : ℕ → RunWalletRiskInput) (x : History) (key : AlertKey) : Prop :=
  ∃ pid userId day a answer, key = alertKey (inputs pid) day ∧ Own (inputs pid) (x.past pid) userId day a ∧
    ⟨.createAlert key (walletAlert (inputs pid) userId a), .ok answer⟩ ∈ x.past pid

theorem Source.step (source : Source inputs x key) : Source inputs ⟨s', (pid, made) :: x.history⟩ key := by
  obtain ⟨other, userId, day, a, answer, isKey, own, created⟩ := source
  refine ⟨other, userId, day, a, answer, isKey, own.imp fun _ recorded => ?_, ?_⟩
  · exact Logged.mem_past_cons.mpr (.inr recorded)
  · exact Logged.mem_past_cons.mpr (.inr created)

structure Kept (inputs : ℕ → RunWalletRiskInput) (x : History) : Prop where
  owners : ∀ userId day case, x.store.cases.lookup (.walletRisk userId day) = some case → case.userId = userId
  cased : ∀ key alert id, x.store.alerts.lookup key = some alert → alert.caseId = some id →
    ∃ case, x.store.cases.lookup id = some case ∧ case.userId = alert.userId
  checked : ∀ pid location check answer, ⟨.createWalletCheck location check, .ok answer⟩ ∈ x.past pid →
    x.store.walletChecks.lookup location = some check
  alone : ∀ pid other location check check' answer answer',
    ⟨.createWalletCheck location check, .ok answer⟩ ∈ x.past pid →
      ⟨.createWalletCheck location check', .ok answer'⟩ ∈ x.past other → pid = other
  alerted : ∀ pid key alert answer, ⟨.createAlert key alert, .ok answer⟩ ∈ x.past pid → Stored x.store key alert
  sources : ∀ key alert, x.store.alerts.lookup key = some alert → Source inputs x key
  unfound : ∀ pid day alert, ⟨.findAlert (alertKey (inputs pid) day), .ok (some alert)⟩ ∉ x.past pid
  opened : ∀ pid userId day, HasCase (x.past pid) userId day →
    ∃ case, x.store.cases.lookup (.walletRisk userId day) = some case
  linked : ∀ pid key caseId, ⟨.linkAlert key caseId, .ok ()⟩ ∈ x.past pid →
    ∃ stored, x.store.alerts.lookup key = some stored ∧ stored.caseId.isSome
  met : ∀ pid userId day a check, subjectOf (inputs pid) (x.past pid) = some (userId, day, a) →
    ⟨.findWalletCheck ((inputs pid).location, day), .ok (some check)⟩ ∈ x.past pid →
      Held (inputs pid) userId day a x.store

theorem priority_le {input input' : RunWalletRiskInput} {userId' : UserId} {a' : WalletRiskAssessment}
    (covers : a.level = .critical → a'.level = .critical) :
    (walletAlert input userId a).priority ≤ (walletAlert input' userId' a').priority := by
  simp only [walletAlert]
  by_cases critical : a.level = .critical
  · rw [if_pos critical, if_pos (covers critical)]
  · rw [if_neg critical]
    split <;> decide

section Step
variable (kept : Kept inputs x)
include kept

theorem kept_owners (may : May (inputs pid) (x.past pid) call) (effect : Effect x.store ⟨call, reply⟩ s')
    (found : s'.cases.lookup (.walletRisk userId day) = some case) : case.userId = userId := by
  rcases case_after may effect found with isOld | ⟨other, otherDay, isCase, rfl⟩
  · exact kept.owners userId day case isOld
  · cases isCase
    rfl

/-- The alert that a request has created is there. -/
theorem alert_of_has (has : HasAlert (inputs pid) (x.past pid) userId day a) :
    Stored x.store (alertKey (inputs pid) day) (walletAlert (inputs pid) userId a) := by
  rcases has with ⟨alert, found⟩ | ⟨answer, created⟩
  · exact absurd found (kept.unfound pid day alert)
  · exact kept.alerted pid _ _ answer created

theorem kept_cased (may : May (inputs pid) (x.past pid) call) (effect : Effect x.store ⟨call, reply⟩ s')
    (found : s'.alerts.lookup key = some alert) (inCase : alert.caseId = some id) :
    ∃ case, s'.cases.lookup id = some case ∧ case.userId = alert.userId := by
  suffices before : ∃ case, x.store.cases.lookup id = some case ∧ case.userId = alert.userId by
    obtain ⟨case, isCase, owner⟩ := before
    obtain ⟨status, priority, isCase'⟩ := case_stays effect isCase
    exact ⟨_, isCase', owner⟩
  cases alert_after may effect found with
  | same isOld => exact kept.cased key alert id isOld inCase
  | created _ _ isAlert =>
    rw [isAlert] at inCase
    cases inCase
  | @linked _ userId day a old has hasCase isKey isOld isAlert =>
    subst isAlert
    cases inCase
    obtain ⟨case, isCase⟩ := kept.opened pid userId day hasCase
    obtain ⟨status, caseId, stored⟩ := alert_of_has kept has
    rw [← isKey, isOld] at stored
    cases stored
    exact ⟨case, isCase, kept.owners userId day case isCase⟩

theorem kept_checked (effect : Effect x.store ⟨call, reply⟩ s') {other : ℕ} {location : Text × Day}
    {check answer : WalletRiskCheck} (recorded : ⟨.createWalletCheck location check, .ok answer⟩ ∈
      (⟨s', (pid, ⟨call, reply⟩) :: x.history⟩ : History).past other) :
    s'.walletChecks.lookup location = some check := by
  rcases Logged.mem_past_cons.mp recorded with ⟨isMade, -⟩ | earlier
  · rw [← isMade] at effect
    cases effect with
    | walletChecked => exact AList.lookup_insert _
    | read isRead => cases isRead
  · exact walletCheck_stays effect (kept.checked other location check answer earlier)

/-- A check that a call records was not there. -/
theorem recorded_fresh {location : Text × Day} {check check' answer answer' : WalletRiskCheck} {other : ℕ}
    (effect : Effect x.store ⟨.createWalletCheck location check, .ok answer⟩ s') :
    ⟨.createWalletCheck location check', .ok answer'⟩ ∉ x.past other := by
  intro recorded
  have found := kept.checked other location check' answer' recorded
  cases effect with
  | walletChecked new =>
    rw [new] at found
    cases found
  | read isRead => cases isRead

theorem kept_alone (effect : Effect x.store ⟨call, reply⟩ s') {p q : ℕ} {location : Text × Day}
    {check check' answer answer' : WalletRiskCheck}
    (first : ⟨.createWalletCheck location check, .ok answer⟩ ∈
      (⟨s', (pid, ⟨call, reply⟩) :: x.history⟩ : History).past p)
    (second : ⟨.createWalletCheck location check', .ok answer'⟩ ∈
      (⟨s', (pid, ⟨call, reply⟩) :: x.history⟩ : History).past q) : p = q := by
  rcases Logged.mem_past_cons.mp first with ⟨isMade, isPid⟩ | earlier
  · rcases Logged.mem_past_cons.mp second with ⟨-, isPid'⟩ | earlier'
    · rw [isPid, isPid']
    · rw [← isMade] at effect
      exact absurd earlier' (recorded_fresh kept effect)
  · rcases Logged.mem_past_cons.mp second with ⟨isMade, -⟩ | earlier'
    · rw [← isMade] at effect
      exact absurd earlier (recorded_fresh kept effect)
    · exact kept.alone p q location check check' answer answer' earlier earlier'

theorem kept_alerted (effect : Effect x.store ⟨call, reply⟩ s') {other : ℕ} {answer : ComplianceAlert}
    (created : ⟨.createAlert key alert, .ok answer⟩ ∈
      (⟨s', (pid, ⟨call, reply⟩) :: x.history⟩ : History).past other) : Stored s' key alert := by
  rcases Logged.mem_past_cons.mp created with ⟨isMade, -⟩ | earlier
  · rw [← isMade] at effect
    exact ⟨alert.status, alert.caseId, (createAlert_answer effect).2 ▸ AList.lookup_insert _⟩
  · exact (kept.alerted other key alert answer earlier).step effect

theorem kept_sources (may : May (inputs pid) (x.past pid) call) (effect : Effect x.store ⟨call, reply⟩ s')
    (found : s'.alerts.lookup key = some alert) : Source inputs ⟨s', (pid, ⟨call, reply⟩) :: x.history⟩ key := by
  cases alert_after may effect found with
  | same isOld => exact (kept.sources key alert isOld).step
  | @created userId day a answer own isKey isAlert =>
    refine ⟨pid, userId, day, a, answer, isKey, own.imp fun _ recorded => ?_, ?_⟩
    · exact Logged.mem_past_cons.mpr (.inr recorded)
    · rw [isAlert]
      exact Logged.mem_past_cons.mpr (.inl ⟨rfl, rfl⟩)
  | linked _ _ _ isOld => exact (kept.sources key _ isOld).step

/-- An alert is created by the one request that has recorded the check, after it
has looked. -/
theorem kept_unfound (may : May (inputs pid) (x.past pid) call) (effect : Effect x.store ⟨call, reply⟩ s') {other : ℕ} :
    ⟨.findAlert (alertKey (inputs other) day), .ok (some alert)⟩ ∉
      (⟨s', (pid, ⟨call, reply⟩) :: x.history⟩ : History).past other := by
  intro member
  rcases Logged.mem_past_cons.mp member with ⟨isMade, isPid⟩ | earlier
  · subst isPid
    cases isMade
    obtain ⟨q, userId, day', a, answer, isKey, ⟨check, recorded⟩, created⟩ :=
      kept.sources _ alert (findAlert_answer effect)
    generalize looked : alertKey (inputs other) day = key at may isKey created
    cases may with
    | neutral neutral => cases neutral
    | @findAlert userId' day'' a' own unraised =>
      obtain ⟨check', recorded'⟩ := own
      simp only [alertKey, AlertKey.walletRisk.injEq] at isKey
      rw [isKey.1, isKey.2] at recorded'
      cases kept.alone _ _ _ _ _ _ _ recorded recorded'
      cases unraised _ created
  · exact kept.unfound other day alert earlier

theorem kept_opened (effect : Effect x.store ⟨call, reply⟩ s') {other : ℕ}
    (has : HasCase ((⟨s', (pid, ⟨call, reply⟩) :: x.history⟩ : History).past other) userId day) :
    ∃ case, s'.cases.lookup (.walletRisk userId day) = some case := by
  suffices before : (∃ case, x.store.cases.lookup (.walletRisk userId day) = some case) ∨
      ∃ case, s'.cases.lookup (.walletRisk userId day) = some case by
    rcases before with ⟨case, isCase⟩ | isThere
    · obtain ⟨status, priority, isCase'⟩ := case_stays effect isCase
      exact ⟨_, isCase'⟩
    · exact isThere
  rcases has with ⟨case, found⟩ | created
  · rcases Logged.mem_past_cons.mp found with ⟨isMade, -⟩ | earlier
    · rw [← isMade] at effect
      exact .inl ⟨case, findCase_answer effect⟩
    · exact .inl (kept.opened other userId day (.inl ⟨case, earlier⟩))
  · rcases Logged.mem_past_cons.mp created with ⟨isMade, -⟩ | earlier
    · rw [← isMade] at effect
      cases effect with
      | caseCreated => exact .inr ⟨_, AList.lookup_insert _⟩
      | read isRead => cases isRead
    · exact .inl (kept.opened other userId day (.inr earlier))

theorem kept_linked (effect : Effect x.store ⟨call, reply⟩ s') {other : ℕ} {caseId : CaseId}
    (member : ⟨.linkAlert key caseId, .ok ()⟩ ∈ (⟨s', (pid, ⟨call, reply⟩) :: x.history⟩ : History).past other) :
    ∃ stored, s'.alerts.lookup key = some stored ∧ stored.caseId.isSome := by
  rcases Logged.mem_past_cons.mp member with ⟨isMade, -⟩ | earlier
  · rw [← isMade] at effect
    cases effect with
    | alertLinked => exact ⟨_, AList.lookup_insert _, rfl⟩
    | read isRead => cases isRead
  · obtain ⟨stored, found, inCase⟩ := kept.linked other key caseId earlier
    obtain ⟨status, caseId, found', stays⟩ := alert_stays effect found
    exact ⟨_, found', stays inCase⟩

/-- Who finds a check in order is owed nothing more. -/
theorem held_of_orderly {check : WalletRiskCheck} (subject : subjectOf (inputs pid) (x.past pid) = some (userId, day, a))
    (found : x.store.walletChecks.lookup ((inputs pid).location, day) = some check)
    (orderly : isOrderly inputs x pid (.findWalletCheck ((inputs pid).location, day))) :
    Held (inputs pid) userId day a x.store := by
  simp only [isOrderly, subject, found, Option.all_some, Bool.and_eq_true, Bool.or_eq_true, decide_eq_true_eq,
    Option.any_eq_true] at orderly
  obtain ⟨⟨isUser, covers⟩, alert, isAlert, raised⟩ := orderly
  simp only [isFollowedUp, Bool.and_eq_true, Bool.or_eq_true, decide_eq_true_eq] at raised
  obtain ⟨other, userId', day', a', answer, isKey, ⟨check', recorded⟩, created⟩ := kept.sources _ alert isAlert
  simp only [alertKey, AlertKey.walletRisk.injEq] at isKey
  have isCheck := kept.checked other _ _ check' recorded
  rw [← isKey.1, ← isKey.2, found] at isCheck
  cases isCheck
  cases isUser
  obtain ⟨status, caseId, stored⟩ := kept.alerted other _ _ answer created
  cases isAlert.symm.trans stored
  have priority : (walletAlert (inputs pid) userId a).priority ≤ (walletAlert (inputs other) userId a').priority :=
    priority_le fun critical => covers.resolve_left fun not => not critical
  exact ⟨_, isAlert, ⟨rfl, raised.1, priority⟩, fun critical => raised.2.resolve_left fun not => not critical⟩

theorem kept_met (made : followed inputs pid call x reply s') {other : ℕ} {check : WalletRiskCheck}
    (subject : subjectOf (inputs other) ((⟨s', (pid, ⟨call, reply⟩) :: x.history⟩ : History).past other) =
      some (userId, day, a))
    (found : ⟨.findWalletCheck ((inputs other).location, day), .ok (some check)⟩ ∈
      (⟨s', (pid, ⟨call, reply⟩) :: x.history⟩ : History).past other) : Held (inputs other) userId day a s' := by
  obtain ⟨makes, orderly⟩ := made
  suffices before : Held (inputs other) userId day a x.store from before.step makes.effect
  rw [Logged.past_made] at subject found
  split at subject
  · rename_i same
    subst same
    rw [if_pos rfl] at found
    rcases subject_before subject with isSubject | probes
    · rcases List.mem_cons.mp found with isMade | earlier
      · cases isMade
        exact held_of_orderly kept isSubject (findWalletCheck_answer makes.effect) orderly
      · exact kept.met other userId day a check isSubject earlier
    · cases probes _ found
  · rename_i ne
    rw [if_neg ne] at found
    exact kept.met other userId day a check subject found

theorem kept_step (may : May (inputs pid) (x.past pid) call) (made : followed inputs pid call x reply s') :
    Kept inputs ⟨s', (pid, ⟨call, reply⟩) :: x.history⟩ where
  owners _ _ _ found := kept_owners kept may made.1.effect found
  cased _ _ _ found inCase := kept_cased kept may made.1.effect found inCase
  checked _ _ _ _ recorded := kept_checked kept made.1.effect recorded
  alone _ _ _ _ _ _ _ first second := kept_alone kept made.1.effect first second
  alerted _ _ _ _ created := kept_alerted kept made.1.effect created
  sources _ _ found := kept_sources kept may made.1.effect found
  unfound _ _ _ := kept_unfound kept may made.1.effect
  opened _ _ _ has := kept_opened kept made.1.effect has
  linked _ _ _ member := kept_linked kept made.1.effect member
  met _ _ _ _ _ subject found := kept_met kept made subject found

end Step

theorem kept_opening (opening : Opening s) : Kept inputs ⟨s, []⟩ where
  owners _ _ _ found := by
    rw [opening.2.1] at found
    cases found
  cased _ _ _ found := by
    rw [opening.1] at found
    cases found
  checked _ _ _ _ member := nomatch member
  alone _ _ _ _ _ _ _ member := nomatch member
  alerted _ _ _ _ member := nomatch member
  sources _ _ found := by
    rw [opening.1] at found
    cases found
  unfound _ _ _ := nofun
  opened _ _ _ has := by
    rcases has with ⟨case, member⟩ | member
    · cases member
    · cases member
  linked _ _ _ member := nomatch member
  met _ _ _ _ _ _ member := nomatch member

/-! ## What a check that ended has raised -/

theorem alerted_of_held (kept : Kept inputs x) (held : Held input userId day a x.store) :
    Alerted input userId day a x.store := by
  obtain ⟨alert, found, about, inCase⟩ := held
  refine ⟨alert, found, about, fun critical => ?_⟩
  obtain ⟨id, isId⟩ := Option.isSome_iff_exists.mp (inCase critical)
  obtain ⟨case, isCase, owner⟩ := kept.cased _ alert id found isId
  exact ⟨id, case, isId, isCase, owner.trans about.1⟩

theorem held_of_raised (kept : Kept inputs x) (raised : Raised (inputs pid) userId day a (x.past pid)) :
    Held (inputs pid) userId day a x.store := by
  obtain ⟨status, caseId, found⟩ := alert_of_has kept raised.1
  refine ⟨_, found, ⟨rfl, rfl, le_rfl⟩, fun critical => ?_⟩
  obtain ⟨other, linked⟩ := raised.2 critical
  obtain ⟨stored, found', inCase⟩ := kept.linked pid _ other linked
  cases found.symm.trans found'
  exact inCase

theorem isCheck_obeys (pid : ℕ) (program : ComplianceM Unit) (isCheck : IsCheck inputs pid program) :
    program.Obeys (May (inputs pid)) (Ends fun _ later => Settled (inputs pid) later) [] := by
  cases isCheck
  exact runCheck_obeys

/-- In every run of checks where each that finds one on record finds it followed
up for its own user and result, whoever is owed an alert has it. -/
theorem wallet_alerts_complete (run : Logged.Run (followed inputs) (IsCheck inputs) Opening pool) :
    Complete inputs pool := by
  intro pid userId day a answers subject
  have kept : Kept inputs pool.store :=
    run.inv isCheck_obeys (fun _ opening => kept_opening opening) fun _ _ _ _ _ kept may made => kept_step kept may made
  have settled := (Logged.Run.orderly isCheck_obeys run).ended (Pool.ended_of_answerOf answers)
  rcases settled userId day a subject with ⟨check, found⟩ | raised
  · exact alerted_of_held kept (kept.met pid userId day a check subject found)
  · exact alerted_of_held kept (held_of_raised kept raised)

/-! ## Two checks of one address -/

def addressOf (userId : Option UserId) : RunWalletRiskInput := ⟨['e', 't', 'h'], ['0', 'x', 'b'], userId⟩

/-- A critical address is checked first for one caller and then for user 7. -/
def inputsOf (first : Option UserId) : ℕ → RunWalletRiskInput
  | 0 => addressOf first
  | _ => addressOf (some 7)

def sanctioned : WalletRiskAssessment := ⟨.critical, .blocked, 95⟩

/-- The provider calls the address critical. -/
def alarmed : World := ⟨43200000, .passed, [], sanctioned⟩

abbrev schedule (first : Option UserId)
    (allows : ℕ → (call : ComplianceCall) → History → Except Failure call.Reply → Bool) : Option CompliancePool :=
  Database.schedule perform (fun _ => alarmed) (fun _ _ => false) allows (fun pid => runCheck (inputsOf first pid))
    [0, 1] [(0, 99), (1, 99)] (Store.ofUsers [7])

/-- The same user checks the address again: the first check has raised the alert
and the case. -/
theorem repeated_check_alerted : ∃ pool : CompliancePool, pool.answerOf 1 = some () ∧
    subjectOf (inputsOf (some 7) 1) (pool.store.past 1) = some (7, 0, sanctioned) ∧ Complete (inputsOf (some 7)) pool := by
  have played : (schedule (some 7) fun pid call x _ => isOrderly (inputsOf (some 7)) x pid call).map
      (fun pool => (pool.answerOf 1, subjectOf (inputsOf (some 7) 1) (pool.store.past 1))) =
        some (some (), some (7, 0, sanctioned)) := by
    decide +kernel
  obtain ⟨pool, scheduled, facts⟩ := Option.map_eq_some_iff.mp played
  rw [Prod.mk.injEq] at facts
  have run : Logged.Run (followed (inputsOf (some 7))) (IsCheck (inputsOf (some 7))) Opening pool :=
    Database.schedule_run ⟨rfl, rfl, rfl⟩ (fun _ => rfl) (fun _ _ _ _ _ orderly makes => ⟨makes, orderly⟩) scheduled
  exact ⟨pool, facts.1, facts.2, wallet_alerts_complete run⟩

/-- A first check without a user raises nothing, and the check of user 7 later
that day finds it on record. -/
theorem anonymous_first_unalerted : ¬∀ pool : CompliancePool,
    Logged.Run interleaved (IsCheck (inputsOf none)) Opening pool → Complete (inputsOf none) pool := by
  intro complete
  have played : (schedule none fun _ _ _ _ => true).map
      (fun pool => (pool.answerOf 1, subjectOf (inputsOf none 1) (pool.store.past 1),
        (pool.store.store.alerts.lookup (alertKey (inputsOf none 1) 0)).isNone)) =
        some (some (), some (7, 0, sanctioned), true) := by
    decide +kernel
  obtain ⟨pool, scheduled, facts⟩ := Option.map_eq_some_iff.mp played
  simp only [Prod.mk.injEq, Option.isNone_iff_eq_none] at facts
  obtain ⟨answers, subject, missing⟩ := facts
  have run : Logged.Run interleaved (IsCheck (inputsOf none)) Opening pool :=
    Database.schedule_run ⟨rfl, rfl, rfl⟩ (fun _ => rfl) (fun _ _ _ _ _ _ makes => makes) scheduled
  obtain ⟨alert, found, -⟩ := complete pool run 1 7 0 sanctioned answers subject
  rw [missing] at found
  cases found

end Exchange.Compliance.WalletAlerts
