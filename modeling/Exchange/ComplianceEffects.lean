import Exchange.ComplianceRepository

/-! What a call may have done to the tables, by its answer. -/
namespace Exchange.Compliance

/-- The profile a write starts from. -/
def profileBefore (s : Store) (userId : UserId) : ComplianceProfile :=
  (s.profiles.lookup userId).getD { newProfile with status := .draft }

/-- Calls that change no table. -/
def ComplianceCall.isRead : ComplianceCall → Bool
  | .upsertProfile _ _ => false
  | .updateProfile _ _ => false
  | .createRiskAssessment _ => false
  | .createCheck _ _ _ => false
  | .updateCheck _ _ => false
  | .move _ => false
  | .createAlert _ _ => false
  | .linkAlert _ _ => false
  | .setAlertStatus _ _ => false
  | .createCase _ _ => false
  | .setCaseStatus _ _ => false
  | .raiseCase _ => false
  | .upsertWalletProfile _ _ => false
  | .createWalletCheck _ _ => false
  | _ => true

/-- A call that fails does nothing. -/
inductive Effect (s : Store) : Answered ComplianceCall ComplianceCall.Reply Failure → Store → Prop
  | failed {call : ComplianceCall} {failure : Failure} : Effect s ⟨call, .error failure⟩ s
  | read {world : World} {pid : ℕ} {call : ComplianceCall} {value : call.Reply} (isRead : call.isRead)
      (ran : perform world pid call s = (.ok value, s)) : Effect s ⟨call, .ok value⟩ s
  | profileUpserted {userId : UserId} {update : ProfileUpdate} : Effect s ⟨.upsertProfile userId update, .ok ()⟩
      { s with profiles := s.profiles.insert userId (update.set (profileBefore s userId)) }
  | profileUpdated {userId : UserId} {update : ProfileUpdate} : Effect s ⟨.updateProfile userId update, .ok ()⟩
      { s with profiles := s.profiles.insert userId (update.set (profileBefore s userId)) }
  | assessed {row : RiskAssessment} :
      Effect s ⟨.createRiskAssessment row, .ok ()⟩ { s with assessments := row :: s.assessments }
  | checkCreated {userId : UserId} {category : Kyc.ScreeningCategory} {status : Kyc.ScreeningCheckStatus} :
      Effect s ⟨.createCheck userId category status, .ok s.checks.length⟩
        { s with checks := (userId, ⟨s.checks.length, category, status, none⟩) :: s.checks }
  | checkUpdated {id : ℕ} {decision : Kyc.ScreeningDecision} : Effect s ⟨.updateCheck id decision, .ok ()⟩
      { s with checks := s.checks.map fun row =>
        if row.2.id = id then (row.1, { row.2 with decision := some decision }) else row }
  | moved {movements : Movements} : Effect s ⟨.move movements, .ok ()⟩ { s with movements }
  | alertCreated {key : AlertKey} {alert : ComplianceAlert} (new : s.alerts.lookup key = none) :
      Effect s ⟨.createAlert key alert, .ok alert⟩ { s with alerts := s.alerts.insert key alert }
  | alertLinked {key : AlertKey} {caseId : CaseId} {alert : ComplianceAlert} (found : s.alerts.lookup key = some alert) :
      Effect s ⟨.linkAlert key caseId, .ok ()⟩
        { s with alerts := s.alerts.insert key { alert with caseId := some caseId, status := .linkedToCase } }
  | alertSet {key : AlertKey} {status : ComplianceAlertStatus} {alert : ComplianceAlert}
      (found : s.alerts.lookup key = some alert) : Effect s ⟨.setAlertStatus key status, .ok ()⟩
        { s with alerts := s.alerts.insert key { alert with status } }
  | caseCreated {id : CaseId} {case : ComplianceCase} (new : s.cases.lookup id = none) :
      Effect s ⟨.createCase id case, .ok ()⟩ { s with cases := s.cases.insert id case }
  | caseSet {id : CaseId} {status : ComplianceCaseStatus} {case : ComplianceCase} (found : s.cases.lookup id = some case) :
      Effect s ⟨.setCaseStatus id status, .ok ()⟩ { s with cases := s.cases.insert id { case with status } }
  | caseRaised {id : CaseId} {case : ComplianceCase} (found : s.cases.lookup id = some case) :
      Effect s ⟨.raiseCase id, .ok ()⟩ { s with cases := s.cases.insert id { case with priority := .critical } }
  | walletProfiled {location : Text × Text} {assessment : WalletRiskAssessment} :
      Effect s ⟨.upsertWalletProfile location assessment, .ok ()⟩ (upsertWalletProfile location assessment s)
  | walletChecked {key : Text × Day} {check : WalletRiskCheck} (new : s.walletChecks.lookup key = none) :
      Effect s ⟨.createWalletCheck key check, .ok check⟩ { s with walletChecks := s.walletChecks.insert key check }

variable {pid : ℕ} {call : ComplianceCall} {reply : Except Failure call.Reply} {s s' : Store} {userId : UserId}
  {update : ProfileUpdate} {key : AlertKey} {alert alert' : ComplianceAlert} {id : CaseId} {case : ComplianceCase}

theorem upsertProfile_ok (ok : upsertProfile userId update s = .ok ((), s')) :
    s' = { s with profiles := s.profiles.insert userId (update.set (profileBefore s userId)) } := by
  unfold upsertProfile at ok
  split at ok
  · cases ok
    rfl
  · cases ok

theorem updateProfile_ok (ok : updateProfile userId update s = .ok ((), s')) :
    s' = { s with profiles := s.profiles.insert userId (update.set (profileBefore s userId)) } := by
  unfold updateProfile at ok
  split at ok
  · rename_i profile found
    cases ok
    rw [profileBefore, found]
    rfl
  · cases ok

theorem createAlert_ok (ok : createAlert key alert s = .ok (alert', s')) :
    s.alerts.lookup key = none ∧ alert' = alert ∧ s' = { s with alerts := s.alerts.insert key alert } := by
  unfold createAlert at ok
  split at ok
  · cases ok
  · rename_i new
    cases ok
    exact ⟨Option.not_isSome_iff_eq_none.mp new, rfl, rfl⟩

theorem updateAlert_ok {change : ComplianceAlert → ComplianceAlert} (ok : updateAlert key change s = .ok ((), s')) :
    ∃ alert, s.alerts.lookup key = some alert ∧ s' = { s with alerts := s.alerts.insert key (change alert) } := by
  unfold updateAlert at ok
  split at ok
  · rename_i alert found
    cases ok
    exact ⟨alert, found, rfl⟩
  · cases ok

theorem createCase_ok (ok : createCase id case s = .ok ((), s')) :
    s.cases.lookup id = none ∧ s' = { s with cases := s.cases.insert id case } := by
  unfold createCase at ok
  split at ok
  · cases ok
  · rename_i new
    cases ok
    exact ⟨Option.not_isSome_iff_eq_none.mp new, rfl⟩

theorem updateCase_ok {change : ComplianceCase → ComplianceCase} (ok : updateCase id change s = .ok ((), s')) :
    ∃ case, s.cases.lookup id = some case ∧ s' = { s with cases := s.cases.insert id (change case) } := by
  unfold updateCase at ok
  split at ok
  · rename_i case found
    cases ok
    exact ⟨case, found, rfl⟩
  · cases ok

theorem createWalletCheck_ok {key : Text × Day} {check check' : WalletRiskCheck}
    (ok : createWalletCheck key check s = .ok (check', s')) :
    s.walletChecks.lookup key = none ∧ check' = check ∧
      s' = { s with walletChecks := s.walletChecks.insert key check } := by
  unfold createWalletCheck at ok
  split at ok
  · cases ok
  · rename_i new
    cases ok
    exact ⟨Option.not_isSome_iff_eq_none.mp new, rfl, rfl⟩

/-- A call that ran has one of these effects. -/
theorem performed_effect {world : World} (ran : perform world pid call s = (reply, s')) :
    Effect s ⟨call, reply⟩ s' := by
  cases call with
  | upsertProfile userId update =>
    rcases Database.written_cases ran with ⟨value, rfl, wrote⟩ | ⟨⟨failure, rfl, -⟩, rfl⟩
    · cases upsertProfile_ok wrote
      exact .profileUpserted
    · exact .failed
  | updateProfile userId update =>
    rcases Database.written_cases ran with ⟨value, rfl, wrote⟩ | ⟨⟨failure, rfl, -⟩, rfl⟩
    · cases updateProfile_ok wrote
      exact .profileUpdated
    · exact .failed
  | createRiskAssessment row =>
    cases ran
    exact .assessed
  | createCheck userId category status =>
    rcases Database.written_cases ran with ⟨value, rfl, wrote⟩ | ⟨⟨failure, rfl, -⟩, rfl⟩
    · unfold createCheck at wrote
      split at wrote
      · cases wrote
        exact .checkCreated
      · cases wrote
    · exact .failed
  | updateCheck id decision =>
    rcases Database.written_cases ran with ⟨value, rfl, wrote⟩ | ⟨⟨failure, rfl, -⟩, rfl⟩
    · unfold updateCheck at wrote
      split at wrote
      · cases wrote
        exact .checkUpdated
      · cases wrote
    · exact .failed
  | move movements =>
    cases ran
    exact .moved
  | createAlert key alert =>
    rcases Database.written_cases ran with ⟨value, rfl, wrote⟩ | ⟨⟨failure, rfl, -⟩, rfl⟩
    · obtain ⟨new, same, rfl⟩ := createAlert_ok wrote
      cases same
      exact .alertCreated new
    · exact .failed
  | linkAlert key caseId =>
    rcases Database.written_cases ran with ⟨value, rfl, wrote⟩ | ⟨⟨failure, rfl, -⟩, rfl⟩
    · obtain ⟨alert, found, rfl⟩ := updateAlert_ok wrote
      exact .alertLinked found
    · exact .failed
  | setAlertStatus key status =>
    rcases Database.written_cases ran with ⟨value, rfl, wrote⟩ | ⟨⟨failure, rfl, -⟩, rfl⟩
    · obtain ⟨alert, found, rfl⟩ := updateAlert_ok wrote
      exact .alertSet found
    · exact .failed
  | createCase id case =>
    rcases Database.written_cases ran with ⟨value, rfl, wrote⟩ | ⟨⟨failure, rfl, -⟩, rfl⟩
    · obtain ⟨new, rfl⟩ := createCase_ok wrote
      exact .caseCreated new
    · exact .failed
  | setCaseStatus id status =>
    rcases Database.written_cases ran with ⟨value, rfl, wrote⟩ | ⟨⟨failure, rfl, -⟩, rfl⟩
    · obtain ⟨case, found, rfl⟩ := updateCase_ok wrote
      exact .caseSet found
    · exact .failed
  | raiseCase id =>
    rcases Database.written_cases ran with ⟨value, rfl, wrote⟩ | ⟨⟨failure, rfl, -⟩, rfl⟩
    · obtain ⟨case, found, rfl⟩ := updateCase_ok wrote
      exact .caseRaised found
    · exact .failed
  | upsertWalletProfile location assessment =>
    cases ran
    exact .walletProfiled
  | createWalletCheck key check =>
    rcases Database.written_cases ran with ⟨value, rfl, wrote⟩ | ⟨⟨failure, rfl, -⟩, rfl⟩
    · obtain ⟨new, same, rfl⟩ := createWalletCheck_ok wrote
      cases same
      exact .walletChecked new
    · exact .failed
  | _ =>
    cases ran
    exact Effect.read rfl (rfl : perform world pid _ s = _)

theorem Makes.effect (makes : Makes pid call s reply s') : Effect s ⟨call, reply⟩ s' := by
  rcases makes with ⟨world, ran⟩ | ⟨⟨failure, -, rfl⟩, rfl⟩
  · exact performed_effect ran
  · exact .failed

/-! ## Rows that stay -/

variable {made : Answered ComplianceCall ComplianceCall.Reply Failure}

/-- An alert changes only its status and its case, and once in a case it is in
one. -/
theorem alert_stays (effect : Effect s made s') (found : s.alerts.lookup key = some alert) :
    ∃ status caseId, s'.alerts.lookup key = some { alert with status, caseId } ∧
      (alert.caseId.isSome → caseId.isSome) := by
  cases effect with
  | @alertCreated other new isNew =>
    have ne : key ≠ other := fun same => by rw [same, isNew] at found; cases found
    exact ⟨_, _, (AList.lookup_insert_ne ne).trans found, id⟩
  | @alertLinked other caseId old isOld =>
    by_cases same : key = other
    · subst same
      cases isOld.symm.trans found
      exact ⟨_, _, AList.lookup_insert _, fun _ => rfl⟩
    · exact ⟨_, _, (AList.lookup_insert_ne same).trans found, id⟩
  | @alertSet other status old isOld =>
    by_cases same : key = other
    · subst same
      cases isOld.symm.trans found
      exact ⟨_, _, AList.lookup_insert _, id⟩
    · exact ⟨_, _, (AList.lookup_insert_ne same).trans found, id⟩
  | _ => exact ⟨_, _, found, id⟩

/-- A case changes only its status and its priority. -/
theorem case_stays (effect : Effect s made s') (found : s.cases.lookup id = some case) :
    ∃ status priority, s'.cases.lookup id = some { case with status, priority } := by
  cases effect with
  | @caseCreated other new isNew =>
    have ne : id ≠ other := fun same => by rw [same, isNew] at found; cases found
    exact ⟨_, _, (AList.lookup_insert_ne ne).trans found⟩
  | @caseSet other status old isOld =>
    by_cases same : id = other
    · subst same
      cases isOld.symm.trans found
      exact ⟨_, _, AList.lookup_insert _⟩
    · exact ⟨_, _, (AList.lookup_insert_ne same).trans found⟩
  | @caseRaised other old isOld =>
    by_cases same : id = other
    · subst same
      cases isOld.symm.trans found
      exact ⟨_, _, AList.lookup_insert _⟩
    · exact ⟨_, _, (AList.lookup_insert_ne same).trans found⟩
  | _ => exact ⟨_, _, found⟩

/-! ## Answers -/

theorem findAlert_answer {found : Option ComplianceAlert} (effect : Effect s ⟨.findAlert key, .ok found⟩ s') :
    s.alerts.lookup key = found := by
  cases effect with
  | read isRead ran => exact Except.ok.inj (congrArg Prod.fst ran)

theorem findWalletCheck_answer {key : Text × Day} {found : Option WalletRiskCheck}
    (effect : Effect s ⟨.findWalletCheck key, .ok found⟩ s') : s.walletChecks.lookup key = found := by
  cases effect with
  | read isRead ran => exact Except.ok.inj (congrArg Prod.fst ran)

theorem findCase_answer {found : Option ComplianceCase} (effect : Effect s ⟨.findCase id, .ok found⟩ s') :
    s.cases.lookup id = found := by
  cases effect with
  | read isRead ran => exact Except.ok.inj (congrArg Prod.fst ran)

theorem createAlert_answer (effect : Effect s ⟨.createAlert key alert, .ok alert'⟩ s') :
    alert' = alert ∧ s'.alerts = s.alerts.insert key alert := by
  cases effect with
  | alertCreated => exact ⟨rfl, rfl⟩
  | read isRead => cases isRead

end Exchange.Compliance
