import Exchange.ComplianceEffects
import Exchange.ComplianceRules

/-! What a pass of monitoring has done when it ends: for each serious candidate
it has found an alert, or created one and linked it; unless a call for alerts
or cases failed, which ends the pass without a word. -/
namespace Exchange.Compliance.Escalation
open Async Service

variable {config : Config} {userId : UserId} {past later : Past} {c : AlertCandidate}

/-! ## What a pass has read -/

/-- The snapshot of six answers, latest first. -/
def snapshotFrom (userId : UserId) : Past → Option MonitoringSnapshot
  | [⟨.findProfileSignals _, .ok signals⟩, ⟨.trades _ _, .ok trades⟩, ⟨.inrTransactions _ _, .ok inr⟩,
      ⟨.cryptoDeposits _ _, .ok cd⟩, ⟨.cryptoWithdrawals _ _, .ok cw⟩, ⟨.now, .ok now⟩] =>
    some (snapshotOf userId (activityOf cw cd inr trades) signals now)
  | _ => none

/-- The snapshot that a pass has taken first of all. -/
def snapshotRead (userId : UserId) (past : Past) : Option MonitoringSnapshot := snapshotFrom userId (firstCalls 6 past)

/-- The candidates of a pass. -/
def candidatesOf (config : Config) (userId : UserId) (past : Past) : List AlertCandidate :=
  ((snapshotRead userId past).map fun snap => evaluateRules snap config.monitoring).getD []

theorem length_of_snapshot {snap : MonitoringSnapshot} (read : snapshotRead userId past = some snap) : 6 ≤ past.length := by
  unfold snapshotRead snapshotFrom at read
  split at read
  · rename_i isPast
    have length := congrArg List.length isPast
    rw [firstCalls_length] at length
    simp only [List.length_cons, List.length_nil] at length
    omega
  · cases read

theorem candidates_cons (made : Answered ComplianceCall ComplianceCall.Reply Failure) (taken : 6 ≤ past.length) :
    candidatesOf config userId (made :: past) = candidatesOf config userId past := by
  rw [candidatesOf, snapshotRead, firstCalls_cons made taken, ← snapshotRead, ← candidatesOf]

theorem candidates_grow (grown : past <:+ later) (taken : 6 ≤ past.length) :
    candidatesOf config userId later = candidatesOf config userId past := by
  rw [candidatesOf, snapshotRead, firstCalls_grow grown taken, ← snapshotRead, ← candidatesOf]

/-- A pass looks for alerts only after its snapshot. -/
theorem candidates_before {made : Answered ComplianceCall ComplianceCall.Reply Failure}
    (member : c ∈ candidatesOf config userId (made :: past)) :
    c ∈ candidatesOf config userId past ∨ ∀ key reply, ⟨.findAlert key, reply⟩ ∉ made :: past := by
  by_cases taken : 6 ≤ past.length
  · rw [candidates_cons made taken] at member
    exact .inl member
  · right
    have few : (made :: past).length ≤ 6 := by
      rw [List.length_cons]
      omega
    unfold candidatesOf snapshotRead at member
    rw [firstCalls_all few] at member
    intro key reply isMember
    unfold snapshotFrom at member
    split at member
    · rename_i isPast
      rw [isPast] at isMember
      simp at isMember
    · cases member

/-! ## What a pass does -/

/-- Calls for alerts and cases. -/
def isEscalation : ComplianceCall → Bool
  | .findAlert _ => true
  | .createAlert _ _ => true
  | .linkAlert _ _ => true
  | .findCase _ => true
  | .createCase _ _ => true
  | .raiseCase _ => true
  | .append _ => true
  | _ => false

/-- A call for alerts or cases that failed. -/
def isLost : Answered ComplianceCall ComplianceCall.Reply Failure → Bool
  | ⟨call, .error _⟩ => isEscalation call
  | _ => false

def Failed (past : Past) : Prop := ∃ made ∈ past, isLost made

/-- The pass found an alert for the candidate, or created one and linked it. -/
def Met (userId : UserId) (past : Past) (c : AlertCandidate) : Prop :=
  (∃ alert, ⟨.findAlert c.dedupeKey, .ok (some alert)⟩ ∈ past) ∨
    ∃ alert, ⟨.createAlert c.dedupeKey (alertOf userId c), .ok alert⟩ ∈ past ∧
      (alert.caseId = none → ∃ caseId, ⟨.linkAlert c.dedupeKey caseId, .ok ()⟩ ∈ past)

/-- Every serious candidate is met, or a call failed. -/
def Settled (config : Config) (userId : UserId) (past : Past) : Prop :=
  Failed past ∨ ∀ c ∈ candidatesOf config userId past, c.priority.isHighOrCritical → Met userId past c

abbrev Unruled (_ : Past) (_ : ComplianceCall) : Prop := True

theorem failed_last {call : ComplianceCall} {failure : Failure} (lost : isEscalation call) :
    Failed (⟨call, .error failure⟩ :: past) :=
  ⟨_, List.mem_cons_self, lost⟩

theorem Met.grow (met : Met userId past c) (grown : past <:+ later) : Met userId later c := by
  rcases met with ⟨alert, found⟩ | ⟨alert, created, linked⟩
  · exact .inl ⟨alert, grown.subset found⟩
  · refine .inr ⟨alert, grown.subset created, fun unlinked => ?_⟩
    obtain ⟨caseId, isLinked⟩ := linked unlinked
    exact ⟨caseId, grown.subset isLinked⟩

theorem ends_any {α : Type} (program : ComplianceM α) : program.Obeys Unruled (fun _ _ => True) past := by
  induction program generalizing past with
  | done result => trivial
  | await call resume ih => exact ⟨trivial, fun reply => ih reply⟩

theorem attempt_ends (program : ComplianceM Unit) :
    (attempt program).Obeys Unruled (EndsWith Failed fun _ _ => True) past := by
  have body : program.Obeys Unruled (EndsWith (fun _ => True) fun _ _ => True) past :=
    (ends_any program).imp fun _ result _ => by cases result <;> trivial
  exact body.catch fun _ _ _ _ => trivial

/-- The candidate's alert was there, or is new and among those to be linked. -/
def Upserted (userId : UserId) (past : Past) (value : List (AlertKey × ComplianceAlert)) (c : AlertCandidate) : Prop :=
  (∃ alert, ⟨.findAlert c.dedupeKey, .ok (some alert)⟩ ∈ past) ∨
    ∃ alert, ⟨.createAlert c.dedupeKey (alertOf userId c), .ok alert⟩ ∈ past ∧
      (alert.caseId = none → (c.dedupeKey, alert) ∈ value)

theorem Upserted.cons {value : List (AlertKey × ComplianceAlert)} {alert : AlertKey × ComplianceAlert}
    (upserted : Upserted userId past value c) : Upserted userId past (alert :: value) c := by
  rcases upserted with found | ⟨alert, created, kept⟩
  · exact .inl found
  · exact .inr ⟨alert, created, fun unlinked => List.mem_cons_of_mem _ (kept unlinked)⟩

theorem upsertAlert_ends : (upsertAlert c.dedupeKey (alertOf userId c)).Obeys Unruled
    (EndsWith Failed fun value later => if value.2 then
      ⟨.createAlert c.dedupeKey (alertOf userId c), .ok value.1⟩ ∈ later
    else ⟨.findAlert c.dedupeKey, .ok (some value.1)⟩ ∈ later) past := by
  refine ⟨trivial, fun reply => ?_⟩
  rcases reply with failure | (_ | alert)
  · exact failed_last rfl
  · refine ⟨trivial, fun reply => ?_⟩
    cases reply with
    | error failure => exact failed_last rfl
    | ok alert => exact List.mem_cons_self
  · exact List.mem_cons_self

theorem raiseAlerts_ends (candidates : List AlertCandidate) : (raiseAlerts userId candidates).Obeys Unruled
    (EndsWith Failed fun value later => ∀ c ∈ candidates, c.priority.isHighOrCritical → Upserted userId later value c)
    past := by
  induction candidates generalizing past with
  | nil => exact fun c member => nomatch member
  | cons head rest ih =>
    refine upsertAlert_ends.seq fun upserted middle _ isUpserted => ih.seq fun raised later grown isRaised => ?_
    obtain ⟨alert, created⟩ := upserted
    have isHead : head.priority.isHighOrCritical → ∀ value : List (AlertKey × ComplianceAlert),
        (created → alert.caseId = none → (head.dedupeKey, alert) ∈ value) → Upserted userId later value head := by
      intro _ value isValue
      cases created with
      | true => exact .inr ⟨alert, grown.subset isUpserted, isValue rfl⟩
      | false => exact .inl ⟨alert, grown.subset isUpserted⟩
    dsimp only
    split
    · intro c member serious
      rcases List.mem_cons.mp member with rfl | isRest
      · exact isHead serious _ fun _ _ => List.mem_cons_self
      · exact (isRaised c isRest serious).cons
    · rename_i skipped
      intro c member serious
      rcases List.mem_cons.mp member with rfl | isRest
      · refine isHead serious _ fun isNew unlinked => absurd ?_ skipped
        simp [isNew, serious, unlinked]
      · exact isRaised c isRest serious

theorem linkNew_ends (caseId : CaseId) (alerts : List (AlertKey × ComplianceAlert)) :
    (linkNew caseId alerts).Obeys Unruled
      (EndsWith Failed fun _ later => ∀ alert ∈ alerts, ⟨.linkAlert alert.1 caseId, .ok ()⟩ ∈ later) past := by
  induction alerts generalizing past with
  | nil => exact fun alert member => nomatch member
  | cons head rest ih =>
    refine ⟨trivial, fun reply => ?_⟩
    cases reply with
    | error failure => exact failed_last rfl
    | ok linked =>
      refine ⟨trivial, fun reply => ?_⟩
      cases reply with
      | error failure => exact failed_last rfl
      | ok event =>
        refine ih.grows.imp fun later result ⟨grown, ended⟩ => ?_
        cases result with
        | error failure => exact ended
        | ok value =>
          intro alert member
          rcases List.mem_cons.mp member with rfl | isRest
          · exact grown.subset (List.mem_cons_of_mem _ List.mem_cons_self)
          · exact ended alert isRest

theorem findOrCreateCase_ends (id : CaseId) (case : ComplianceCase) :
    (findOrCreateCase id case).Obeys Unruled (EndsWith Failed fun _ _ => True) past := by
  refine ⟨trivial, fun reply => ?_⟩
  rcases reply with failure | (_ | found)
  · exact failed_last rfl
  · refine ⟨trivial, fun reply => ?_⟩
    cases reply with
    | error failure => exact failed_last rfl
    | ok created =>
      refine ⟨trivial, fun reply => ?_⟩
      cases reply with
      | error failure => exact failed_last rfl
      | ok event => trivial
  · trivial

theorem attachNew_ends (alerts : List (AlertKey × ComplianceAlert)) (now : Time) :
    (attachNew userId alerts now).Obeys Unruled (EndsWith Failed fun _ later =>
      ∀ alert ∈ alerts, ∃ caseId, ⟨.linkAlert alert.1 caseId, .ok ()⟩ ∈ later) past := by
  unfold attachNew
  split
  · rename_i empty
    rw [List.isEmpty_iff.mp empty]
    exact fun alert member => nomatch member
  · refine (findOrCreateCase_ends _ _).seq fun found _ _ _ => (linkNew_ends _ alerts).seq fun _ later _ linked => ?_
    split
    · refine ⟨trivial, fun reply => ?_⟩
      cases reply with
      | error failure => exact failed_last rfl
      | ok raised => exact fun alert member => ⟨_, List.mem_cons_of_mem _ (linked alert member)⟩
    · exact fun alert member => ⟨_, linked alert member⟩

theorem escalate_ends (candidates : List AlertCandidate) (now : Time) :
    (escalate config userId candidates now).Obeys Unruled (EndsWith Failed fun _ later =>
      ∀ c ∈ candidates, c.priority.isHighOrCritical → Met userId later c) past := by
  refine (raiseAlerts_ends candidates).seq fun raised middle _ upserted => ?_
  refine (attachNew_ends raised now).seq fun _ later grown linked => ?_
  have met : ∀ c ∈ candidates, c.priority.isHighOrCritical → Met userId later c := by
    intro c member serious
    rcases upserted c member serious with ⟨alert, found⟩ | ⟨alert, created, kept⟩
    · exact .inl ⟨alert, grown.subset found⟩
    · exact .inr ⟨alert, grown.subset created, fun unlinked => linked _ (kept unlinked)⟩
  refine (attempt_ends _).grows.imp fun last result ⟨grown, ended⟩ => ?_
  cases result with
  | error failure => exact ended
  | ok value => exact fun c member serious => (met c member serious).grow grown

theorem settled_unread (unread : snapshotRead userId past = none) : Settled config userId past := by
  refine .inr fun c member => ?_
  rw [candidatesOf, unread] at member
  cases member

/-- After the snapshot: the candidates are those that are escalated. -/
theorem escalate_settles {now : Time} {snap : MonitoringSnapshot} (read : snapshotRead userId past = some snap) :
    (escalate config userId (evaluateRules snap config.monitoring) now).Obeys Unruled
      (fun later _ => Settled config userId later) past := by
  refine (escalate_ends _ now).grows.imp fun later result ⟨grown, ended⟩ => ?_
  cases result with
  | error failure => exact .inl ended
  | ok value =>
    refine .inr fun c member serious => ended c ?_ serious
    rw [candidates_grow grown (length_of_snapshot read), candidatesOf, read] at member
    exact member

theorem evaluateUser_ends (now : Time) :
    (evaluateUser config userId now).Obeys Unruled (fun later _ => Settled config userId later)
      [⟨.now, .ok now⟩] := by
  refine ⟨trivial, fun reply => ?_⟩
  cases reply with
  | error failure => exact settled_unread rfl
  | ok cw =>
    refine ⟨trivial, fun reply => ?_⟩
    cases reply with
    | error failure => exact settled_unread rfl
    | ok cd =>
      refine ⟨trivial, fun reply => ?_⟩
      cases reply with
      | error failure => exact settled_unread rfl
      | ok inr =>
        refine ⟨trivial, fun reply => ?_⟩
        cases reply with
        | error failure => exact settled_unread rfl
        | ok trades =>
          refine ⟨trivial, fun reply => ?_⟩
          cases reply with
          | error failure => exact settled_unread rfl
          | ok signals =>
            change Obeys Unruled _ _ (if _ then _ else _)
            split
            · rename_i empty
              refine .inr fun c member => ?_
              have none : c ∈ evaluateRules (snapshotOf userId (activityOf cw cd inr trades) signals now)
                config.monitoring := member
              rw [List.isEmpty_iff.mp empty] at none
              cases none
            · exact escalate_settles rfl

/-- A pass that ends is settled, however it ends. -/
theorem runForUser_ends : (runForUser config userId).Obeys Unruled (fun later _ => Settled config userId later) [] := by
  refine ⟨trivial, fun reply => ?_⟩
  cases reply with
  | error failure => exact settled_unread rfl
  | ok now =>
    change Obeys Unruled _ _ (attempt (evaluateUser config userId now))
    rw [attempt, obeys_tryCatch]
    refine (evaluateUser_ends now).imp fun later result settled => ?_
    cases result with
    | error failure => exact settled
    | ok value => exact settled

end Exchange.Compliance.Escalation
