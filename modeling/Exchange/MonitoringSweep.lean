import Exchange.ComplianceEffects
import Exchange.ComplianceRules

/-! What a sweep does when nothing else runs and no call fails: it takes users
one after another, and what it raises for one changes nothing that it reads of
another. -/
namespace Exchange.Compliance.Sweep
open Async Service

variable {config : Config} {world : World} {userId : UserId} {s s' s'' : Store} {past : Past}
  {candidates later : List AlertCandidate} {c : AlertCandidate} {key : AlertKey} {alert : ComplianceAlert}

/-- The store that a program leaves. -/
abbrev after {α : Type} (world : World) (program : ComplianceM α) (s : Store) : Store := (eval (perform world 0) program s).2

/-- The start of the window. -/
def windowStart (config : Config) (now : Time) : Time := cutoff now config.monitoring.lookbackDays

/-- What the rules find in what the queries return. -/
def candidatesOn (config : Config) (now : Time) (s : Store) (userId : UserId) : List AlertCandidate :=
  evaluateRules (snapshotOf userId
    (activityOf (withdrawalsOf userId (windowStart config now) s) (depositsOf userId (windowStart config now) s)
      (inrTransactionsOf userId (windowStart config now) s) (tradesOf userId (windowStart config now) s))
    (s.profiles.lookup userId) now) config.monitoring

theorem candidatesOn_congr {now : Time} (movements : s'.movements = s.movements)
    (profile : s'.profiles.lookup userId = s.profiles.lookup userId) :
    candidatesOn config now s' userId = candidatesOn config now s userId := by
  simp only [candidatesOn, withdrawalsOf, depositsOf, inrTransactionsOf, tradesOf, movements, profile]

/-- An alert that a candidate calls for. -/
structure IsOf (userId : UserId) (c : AlertCandidate) (alert : ComplianceAlert) : Prop where
  user : alert.userId = userId
  type : alert.type = c.type
  priority : alert.priority = c.priority
  score : alert.score = c.score

/-- Between two stores the candidates of a user were raised, and nothing else
that monitoring reads of others has changed. -/
structure Raises (userId : UserId) (candidates : List AlertCandidate) (s s' : Store) : Prop where
  movements : s'.movements = s.movements
  profiles : ∀ other, other ≠ userId → s'.profiles.lookup other = s.profiles.lookup other
  kept : ∀ key alert, s.alerts.lookup key = some alert →
    ∃ status caseId, s'.alerts.lookup key = some { alert with status, caseId }
  there : ∀ c ∈ candidates, (s'.alerts.lookup c.dedupeKey).isSome
  new : ∀ key alert, s.alerts.lookup key = none → s'.alerts.lookup key = some alert →
    ∃ c ∈ candidates, c.dedupeKey = key ∧ IsOf userId c alert

theorem Raises.refl : Raises userId [] s s where
  movements := rfl
  profiles _ _ := rfl
  kept _ alert found := ⟨alert.status, alert.caseId, found⟩
  there _ member := nomatch member
  new _ _ missing found := by
    rw [missing] at found
    cases found

theorem IsOf.of_stays {status : ComplianceAlertStatus} {caseId : Option CaseId}
    (isOf : IsOf userId c alert) : IsOf userId c { alert with status, caseId } :=
  ⟨isOf.user, isOf.type, isOf.priority, isOf.score⟩

theorem Raises.trans (first : Raises userId candidates s s') (second : Raises userId later s' s'') :
    Raises userId (candidates ++ later) s s'' where
  movements := second.movements.trans first.movements
  profiles other ne := (second.profiles other ne).trans (first.profiles other ne)
  kept key alert found := by
    obtain ⟨status, caseId, found'⟩ := first.kept key alert found
    obtain ⟨status', caseId', found''⟩ := second.kept key _ found'
    exact ⟨status', caseId', found''⟩
  there c member := by
    rcases List.mem_append.mp member with earlier | isLater
    · obtain ⟨alert, found⟩ := Option.isSome_iff_exists.mp (first.there c earlier)
      obtain ⟨status, caseId, found'⟩ := second.kept _ alert found
      rw [found']
      rfl
    · exact second.there c isLater
  new key alert missing found := by
    cases middle : s'.alerts.lookup key with
    | none =>
      obtain ⟨c, member, isKey, isOf⟩ := second.new key alert middle found
      exact ⟨c, List.mem_append_right _ member, isKey, isOf⟩
    | some old =>
      obtain ⟨c, member, isKey, isOf⟩ := first.new key old missing middle
      obtain ⟨status, caseId, found'⟩ := second.kept key old middle
      cases found.symm.trans found'
      exact ⟨c, List.mem_append_left _ member, isKey, isOf.of_stays⟩

/-! ## What follows the alerts -/

/-- Calls that create no alert, move nothing, and write at most the profile of
the user. -/
def isQuiet (userId : UserId) : ComplianceCall → Bool
  | .createAlert _ _ => false
  | .move _ => false
  | .upsertProfile _ _ => false
  | .updateProfile other _ => other = userId
  | _ => true

theorem quiet_step {call : ComplianceCall} {reply : Except Failure call.Reply} (quiet : isQuiet userId call)
    (effect : Effect s ⟨call, reply⟩ s') : Raises userId [] s s' where
  movements := by
    cases effect with
    | moved => cases quiet
    | _ => rfl
  profiles other ne := by
    cases effect with
    | profileUpserted => cases quiet
    | profileUpdated =>
      cases of_decide_eq_true quiet
      exact AList.lookup_insert_ne ne
    | _ => rfl
  kept key alert found := by
    obtain ⟨status, caseId, found', -⟩ := alert_stays effect found
    exact ⟨status, caseId, found'⟩
  there _ member := nomatch member
  new key alert missing found := by
    cases effect with
    | alertCreated => cases quiet
    | @alertLinked other caseId old isOld =>
      have ne : key ≠ other := fun same => by rw [same, isOld] at missing; cases missing
      rw [AList.lookup_insert_ne ne, missing] at found
      cases found
    | @alertSet other status old isOld =>
      have ne : key ≠ other := fun same => by rw [same, isOld] at missing; cases missing
      rw [AList.lookup_insert_ne ne, missing] at found
      cases found
    | _ => cases missing.symm.trans found

abbrev Quiet {α : Type} (userId : UserId) (past : Past) (program : ComplianceM α) : Prop :=
  Lawful (fun _ call => isQuiet userId call) past program

theorem quiet_raises {α : Type} {program : ComplianceM α} (quiet : Quiet userId [] program) :
    Raises userId [] s (after world program s) := by
  have kept : ∀ (_ : Past) call s₁ reply s₂, Raises userId [] s s₁ → isQuiet userId call →
      perform world 0 call s₁ = (reply, s₂) → Raises userId [] s s₂ :=
    fun _ _ _ _ _ raises quiet ran => raises.trans (quiet_step quiet (performed_effect ran))
  obtain ⟨_, raises, -⟩ := Obeys.exec quiet Raises.refl kept (exec_eval (perform world 0) program s)
  exact raises

theorem safeRecomputeRisk_quiet : Quiet userId past (safeRecomputeRisk config userId) := by
  refine lawful_catch (lawful_call rfl fun signals => ?_) fun _ _ => trivial
  cases signals with
  | none => trivial
  | some profile =>
    refine ⟨rfl, fun reply => ?_⟩
    rcases reply with failure | (_ | profile)
    · trivial
    · trivial
    · refine lawful_call rfl fun _ => lawful_call rfl fun _ => ?_
      exact lawful_call (decide_eq_true rfl) fun _ => lawful_ask rfl

theorem quiet_of_isCaseCall {call : ComplianceCall} (isCase : isCaseCall call) : isQuiet userId call := by
  cases call <;> first | rfl | cases isCase

/-! ## The passes -/

theorem createAlert_raises {data : ComplianceAlert} (missing : s.alerts.lookup c.dedupeKey = none)
    (isOf : IsOf userId c data) :
    Raises userId [c] s { s with alerts := s.alerts.insert c.dedupeKey data } where
  movements := rfl
  profiles _ _ := rfl
  kept key alert found := by
    have ne : key ≠ c.dedupeKey := fun same => by rw [same, missing] at found; cases found
    exact ⟨alert.status, alert.caseId, (AList.lookup_insert_ne ne).trans found⟩
  there other member := by
    cases List.mem_singleton.mp member
    rw [AList.lookup_insert]
    rfl
  new key alert isNew found := by
    by_cases same : key = c.dedupeKey
    · subst same
      cases (AList.lookup_insert _).symm.trans found
      exact ⟨c, List.mem_singleton_self c, rfl, isOf⟩
    · cases isNew.symm.trans ((AList.lookup_insert_ne same).symm.trans found)

theorem found_raises (found : s.alerts.lookup c.dedupeKey = some alert) : Raises userId [c] s s :=
  { Raises.refl with
    there := fun other member => by
      cases List.mem_singleton.mp member
      rw [found]
      rfl
    new := fun _ _ missing found => by cases missing.symm.trans found }

/-- An alert that is there is left, one that is not is created. -/
theorem upsertAlert_raises : ∃ upserted s', eval (perform world 0) (upsertAlert c.dedupeKey (alertOf userId c)) s =
    (.ok upserted, s') ∧ Raises userId [c] s s' := by
  cases found : s.alerts.lookup c.dedupeKey with
  | none =>
    refine ⟨(alertOf userId c, true), { s with alerts := s.alerts.insert c.dedupeKey (alertOf userId c) }, ?_,
      createAlert_raises found ⟨rfl, rfl, rfl, rfl⟩⟩
    simp [upsertAlert, eval_bind, perform, found, createAlert, Database.written]
  | some alert =>
    refine ⟨(alert, false), s, ?_, found_raises found⟩
    simp [upsertAlert, eval_bind, perform, found]

theorem raiseAlerts_raises (candidates : List AlertCandidate) :
    ∃ alerts s', eval (perform world 0) (raiseAlerts userId candidates) s = (.ok alerts, s') ∧
      Raises userId candidates s s' := by
  induction candidates generalizing s with
  | nil => exact ⟨[], s, rfl, .refl⟩
  | cons c rest ih =>
    obtain ⟨⟨alert, created⟩, middle, first, raised⟩ := @upsertAlert_raises world userId s c
    obtain ⟨alerts, last, others, raisedRest⟩ := @ih middle
    simp only [raiseAlerts, eval_bind, first, others]
    split
    · exact ⟨_, last, rfl, raised.trans raisedRest⟩
    · exact ⟨_, last, rfl, raised.trans raisedRest⟩

theorem eval_attempt {program : ComplianceM Unit} :
    eval (perform world 0) (attempt program) s = (.ok (), after world program s) := by
  rw [attempt, eval_tryCatch]
  split
  · rename_i ran
    rw [after, ran]
  · rename_i ran
    rw [after, ran]
    rfl

/-- Whatever becomes of the case and the score, the alerts are there. -/
theorem escalate_raises (candidates : List AlertCandidate) (now : Time) :
    Raises userId candidates s (after world (escalate config userId candidates now) s) := by
  obtain ⟨alerts, middle, first, raised⟩ := @raiseAlerts_raises world userId s candidates
  have quiet : Quiet userId [] (do
      attachNew userId alerts now
      safeRecomputeRisk config userId) :=
    lawful_bind ((attachNew_lawful alerts now).allow fun _ _ => quiet_of_isCaseCall) fun _ _ => safeRecomputeRisk_quiet
  have whole := raised.trans (@quiet_raises world userId middle _ _ quiet)
  rw [List.append_nil] at whole
  rw [after, escalate, eval_bind, first]
  exact whole

theorem evaluateUser_raises :
    Raises userId (candidatesOn config world.now s userId) s (after world (evaluateUser config userId world.now) s) := by
  change Raises userId _ s (after world (if (candidatesOn config world.now s userId).isEmpty then return ()
    else escalate config userId (candidatesOn config world.now s userId) world.now) s)
  split
  · rename_i nothing
    rw [List.isEmpty_iff.mp nothing]
    exact .refl
  · exact escalate_raises _ _

theorem runForUser_raises : ∃ s', eval (perform world 0) (runForUser config userId) s = (.ok (), s') ∧
    Raises userId (candidatesOn config world.now s userId) s s' := by
  refine ⟨after world (evaluateUser config userId world.now) s, ?_, evaluateUser_raises⟩
  simp only [runForUser, eval_bind, ask, eval_call, perform]
  exact eval_attempt

/-! ## The sweep -/

/-- The users of a sweep. -/
def recentUsers (since : Time) (s : Store) : List UserId :=
  (recentWithdrawers since s ++ recentDepositors since s ++ recentInrUsers since s ++ recentMakers since s ++
    recentTakers since s).eraseDups

/-- Between two stores the candidates of some users were raised. -/
structure Sweeps (candidates : UserId → List AlertCandidate) (users : List UserId) (s s' : Store) : Prop where
  kept : ∀ key alert, s.alerts.lookup key = some alert →
    ∃ status caseId, s'.alerts.lookup key = some { alert with status, caseId }
  there : ∀ userId ∈ users, ∀ c ∈ candidates userId, (s'.alerts.lookup c.dedupeKey).isSome
  new : ∀ key alert, s.alerts.lookup key = none → s'.alerts.lookup key = some alert →
    ∃ userId ∈ users, ∃ c ∈ candidates userId, c.dedupeKey = key ∧ IsOf userId c alert

theorem Sweeps.nil {found : UserId → List AlertCandidate} : Sweeps found [] s s where
  kept _ alert found := ⟨alert.status, alert.caseId, found⟩
  there _ member := nomatch member
  new _ _ missing found := by cases missing.symm.trans found

theorem Sweeps.cons {found : UserId → List AlertCandidate} {users : List UserId}
    (first : Raises userId (found userId) s s') (rest : Sweeps found users s' s'') :
    Sweeps found (userId :: users) s s'' where
  kept key alert isAlert := by
    obtain ⟨status, caseId, isAlert'⟩ := first.kept key alert isAlert
    obtain ⟨status', caseId', isAlert''⟩ := rest.kept key _ isAlert'
    exact ⟨status', caseId', isAlert''⟩
  there other member c isFound := by
    rcases List.mem_cons.mp member with rfl | later
    · obtain ⟨alert, isAlert⟩ := Option.isSome_iff_exists.mp (first.there c isFound)
      obtain ⟨status, caseId, isAlert'⟩ := rest.kept _ alert isAlert
      rw [isAlert']
      rfl
    · exact rest.there other later c isFound
  new key alert missing isAlert := by
    cases middle : s'.alerts.lookup key with
    | none =>
      obtain ⟨other, member, isNew⟩ := rest.new key alert middle isAlert
      exact ⟨other, List.mem_cons_of_mem _ member, isNew⟩
    | some old =>
      obtain ⟨c, member, isKey, isOf⟩ := first.new key old missing middle
      obtain ⟨status, caseId, isAlert'⟩ := rest.kept key old middle
      cases isAlert.symm.trans isAlert'
      exact ⟨userId, List.mem_cons_self, c, member, isKey, isOf.of_stays⟩

theorem Sweeps.congr {found found' : UserId → List AlertCandidate} {users : List UserId}
    (same : ∀ userId ∈ users, found' userId = found userId) (sweeps : Sweeps found' users s s') :
    Sweeps found users s s' where
  kept := sweeps.kept
  there userId member c isFound := sweeps.there userId member c (same userId member ▸ isFound)
  new key alert missing isAlert := by
    obtain ⟨userId, member, c, isFound, isNew⟩ := sweeps.new key alert missing isAlert
    exact ⟨userId, member, c, same userId member ▸ isFound, isNew⟩

/-- One user after another; what is read of each is as it was before the sweep. -/
theorem runEach_sweeps {users : List UserId} (distinct : users.Nodup) :
    ∃ s', eval (perform world 0) (runEach config users) s = (.ok (), s') ∧
      Sweeps (candidatesOn config world.now s) users s s' := by
  induction users generalizing s with
  | nil => exact ⟨s, rfl, .nil⟩
  | cons userId users ih =>
    obtain ⟨new, distinct⟩ := List.nodup_cons.mp distinct
    obtain ⟨middle, first, raised⟩ := @runForUser_raises config world userId s
    obtain ⟨last, others, swept⟩ := @ih middle distinct
    refine ⟨last, ?_, .cons raised (swept.congr fun other member => ?_)⟩
    · rw [runEach, eval_bind, first]
      exact others
    · have ne : other ≠ userId := fun same => new (same ▸ member)
      exact candidatesOn_congr raised.movements (raised.profiles other ne)

theorem eraseDups_nodup (users : List UserId) : users.eraseDups.Nodup := by
  induction length : users.length using Nat.strong_induction_on generalizing users with
  | _ n ih =>
    cases users with
    | nil => exact List.nodup_nil
    | cons userId users =>
      rw [List.eraseDups_cons, List.nodup_cons]
      refine ⟨by simp, ih _ ?_ _ rfl⟩
      have shorter := List.length_filter_le (fun other => !other == userId) users
      rw [List.length_cons] at length
      omega

theorem runAll_sweeps : ∃ s', eval (perform world 0) (runAll config) s = (.ok (), s') ∧
    Sweeps (candidatesOn config world.now s) (recentUsers (windowStart config world.now) s) s s' := by
  obtain ⟨last, ran, swept⟩ := @runEach_sweeps config world s _ (eraseDups_nodup _)
  refine ⟨last, ?_, swept⟩
  simp only [runAll, usersWithRecentActivity, eval_bind, ask, eval_call, eval_pure, perform]
  exact ran

end Exchange.Compliance.Sweep
