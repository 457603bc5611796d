import Exchange.ComplianceEffects
import Exchange.ComplianceRules

/-! What a check of an address does: the result it has, and which alert and which
case it looks for and writes. -/
namespace Exchange.Compliance.WalletAlerts
open Async Service

variable {input : RunWalletRiskInput} {past later : Past} {userId : UserId} {day : Day} {a : WalletRiskAssessment}

/-! ## What a check has found -/

/-- The day and the result of two answers, latest first. -/
def resultFrom : Past → Option (Day × WalletRiskAssessment)
  | [⟨.screenWallet _, .ok a⟩, ⟨.now, .ok now⟩] => some (dayBucket now, a)
  | _ => none

/-- The user, the day and the result, where the user is known and the result
high or critical. -/
def subjectOf (input : RunWalletRiskInput) (past : Past) : Option (UserId × Day × WalletRiskAssessment) :=
  match input.userId, resultFrom (firstCalls 2 past) with
  | some userId, some (day, a) => if WalletRiskLevel.isHighOrCritical a.level then some (userId, day, a) else none
  | _, _ => none

/-- The calls that make a result. -/
def isProbe : ComplianceCall → Bool
  | .now => true
  | .screenWallet _ => true
  | _ => false

theorem subject_cons (made : Answered ComplianceCall ComplianceCall.Reply Failure) (enough : 2 ≤ past.length) :
    subjectOf input (made :: past) = subjectOf input past := by
  rw [subjectOf, firstCalls_cons made enough, ← subjectOf]

theorem subject_grow (grown : past <:+ later) (enough : 2 ≤ past.length) :
    subjectOf input later = subjectOf input past := by
  rw [subjectOf, firstCalls_grow grown enough, ← subjectOf]

theorem length_of_subject {subject : UserId × Day × WalletRiskAssessment}
    (isSubject : subjectOf input past = some subject) : 2 ≤ past.length := by
  unfold subjectOf at isSubject
  split at isSubject
  · rename_i result
    unfold resultFrom at result
    split at result
    · rename_i isPast
      have length := congrArg List.length isPast
      rw [firstCalls_length] at length
      simp only [List.length_cons, List.length_nil] at length
      omega
    · cases result
  · cases isSubject

theorem subject_stays {subject : UserId × Day × WalletRiskAssessment} (isSubject : subjectOf input past = some subject)
    (grown : past <:+ later) : subjectOf input later = some subject :=
  (subject_grow grown (length_of_subject isSubject)).trans isSubject

/-- The result comes before anything else. -/
theorem subject_before {made : Answered ComplianceCall ComplianceCall.Reply Failure}
    {subject : UserId × Day × WalletRiskAssessment} (isSubject : subjectOf input (made :: past) = some subject) :
    subjectOf input past = some subject ∨ ∀ other ∈ made :: past, isProbe other.call := by
  by_cases enough : 2 ≤ past.length
  · rw [subject_cons made enough] at isSubject
    exact .inl isSubject
  · right
    have few : (made :: past).length ≤ 2 := by
      rw [List.length_cons]
      omega
    unfold subjectOf at isSubject
    rw [firstCalls_all few] at isSubject
    split at isSubject
    · rename_i result
      unfold resultFrom at result
      split at result
      · rename_i isPast
        intro other member
        rw [isPast] at member
        rcases List.mem_cons.mp member with rfl | isFirst
        · rfl
        · cases List.mem_singleton.mp isFirst
          rfl
      · cases result
    · cases isSubject

/-! ## What a check does -/

def alertKey (input : RunWalletRiskInput) (day : Day) : AlertKey := .walletRisk input.location day

def walletCase (userId : UserId) : ComplianceCase := ⟨userId, .walletRisk, .open, .critical⟩

/-- The check of the day is this request's. -/
def Own (input : RunWalletRiskInput) (past : Past) (userId : UserId) (day : Day) (a : WalletRiskAssessment) : Prop :=
  ∃ answer, ⟨.createWalletCheck (input.location, day) ⟨some userId, a⟩, .ok answer⟩ ∈ past

/-- The check has an alert: it was there, or is new. -/
def HasAlert (input : RunWalletRiskInput) (past : Past) (userId : UserId) (day : Day) (a : WalletRiskAssessment) : Prop :=
  (∃ alert, ⟨.findAlert (alertKey input day), .ok (some alert)⟩ ∈ past) ∨
    ∃ answer, ⟨.createAlert (alertKey input day) (walletAlert input userId a), .ok answer⟩ ∈ past

def HasCase (past : Past) (userId : UserId) (day : Day) : Prop :=
  (∃ case, ⟨.findCase (.walletRisk userId day), .ok (some case)⟩ ∈ past) ∨
    ⟨.createCase (.walletRisk userId day) (walletCase userId), .ok ()⟩ ∈ past

/-- Calls that neither look for an alert nor write alerts and cases. -/
def isNeutral : ComplianceCall → Bool
  | .findAlert _ => false
  | .createAlert _ _ => false
  | .linkAlert _ _ => false
  | .setAlertStatus _ _ => false
  | .createCase _ _ => false
  | .setCaseStatus _ _ => false
  | .raiseCase _ => false
  | _ => true

def isCreateAlert : ComplianceCall → Bool
  | .createAlert _ _ => true
  | _ => false

def Unraised (past : Past) : Prop := ∀ made ∈ past, isCreateAlert made.call = false

/-- The calls a check may make. It looks for an alert once it has recorded the
check of the day, before it creates one. -/
inductive May (input : RunWalletRiskInput) (past : Past) : ComplianceCall → Prop
  | neutral {call : ComplianceCall} (neutral : isNeutral call) : May input past call
  | findAlert {userId : UserId} {day : Day} {a : WalletRiskAssessment} (own : Own input past userId day a)
      (unraised : Unraised past) : May input past (.findAlert (alertKey input day))
  | createAlert {userId : UserId} {day : Day} {a : WalletRiskAssessment} (own : Own input past userId day a) :
      May input past (.createAlert (alertKey input day) (walletAlert input userId a))
  | createCase {userId : UserId} {day : Day} : May input past (.createCase (.walletRisk userId day) (walletCase userId))
  | linkAlert {userId : UserId} {day : Day} {a : WalletRiskAssessment} (alert : HasAlert input past userId day a)
      (case : HasCase past userId day) : May input past (.linkAlert (alertKey input day) (.walletRisk userId day))

/-- The alert, in a case where the result is critical. -/
def Raised (input : RunWalletRiskInput) (userId : UserId) (day : Day) (a : WalletRiskAssessment) (past : Past) : Prop :=
  HasAlert input past userId day a ∧
    (a.level = .critical → ∃ caseId, ⟨.linkAlert (alertKey input day) caseId, .ok ()⟩ ∈ past)

/-- A check of that day was there, or the alert is raised. -/
def Settled (input : RunWalletRiskInput) (past : Past) : Prop :=
  ∀ userId day a, subjectOf input past = some (userId, day, a) →
    (∃ check, ⟨.findWalletCheck (input.location, day), .ok (some check)⟩ ∈ past) ∨ Raised input userId day a past

abbrev Ends {α : Type} (fact : α → Past → Prop) : Past → Except Failure α → Prop := EndsWith (fun _ => True) fact

theorem Own.grow (own : Own input past userId day a) (grown : past <:+ later) : Own input later userId day a :=
  own.imp fun _ created => grown.subset created

theorem HasAlert.grow (has : HasAlert input past userId day a) (grown : past <:+ later) :
    HasAlert input later userId day a :=
  has.imp (fun ⟨alert, found⟩ => ⟨alert, grown.subset found⟩) fun ⟨answer, created⟩ => ⟨answer, grown.subset created⟩

theorem Raised.grow (raised : Raised input userId day a past) (grown : past <:+ later) :
    Raised input userId day a later := by
  refine ⟨raised.1.grow grown, fun critical => ?_⟩
  obtain ⟨caseId, linked⟩ := raised.2 critical
  exact ⟨caseId, grown.subset linked⟩

theorem Unraised.cons {call : ComplianceCall} {reply : Except Failure call.Reply} (unraised : Unraised past)
    (other : isCreateAlert call = false) : Unraised (⟨call, reply⟩ :: past) := by
  intro made member
  rcases List.mem_cons.mp member with rfl | earlier
  · exact other
  · exact unraised made earlier

theorem upsertAlert_obeys (own : Own input past userId day a) (unraised : Unraised past) :
    (upsertAlert (alertKey input day) (walletAlert input userId a)).Obeys (May input)
      (Ends fun _ later => HasAlert input later userId day a) past := by
  refine ⟨.findAlert own unraised, fun reply => ?_⟩
  rcases reply with failure | (_ | alert)
  · trivial
  · refine ⟨.createAlert (own.grow (List.suffix_cons _ _)), fun reply => ?_⟩
    cases reply with
    | error failure => trivial
    | ok answer => exact .inr ⟨answer, List.mem_cons_self⟩
  · exact .inl ⟨alert, List.mem_cons_self⟩

theorem findOrCreateCase_obeys : (findOrCreateCase (.walletRisk userId day) (walletCase userId)).Obeys (May input)
    (Ends fun _ later => HasCase later userId day) past := by
  refine ⟨.neutral rfl, fun reply => ?_⟩
  rcases reply with failure | (_ | found)
  · trivial
  · refine ⟨.createCase, fun reply => ?_⟩
    cases reply with
    | error failure => trivial
    | ok created =>
      refine ⟨.neutral rfl, fun reply => ?_⟩
      cases reply with
      | error failure => trivial
      | ok event => exact .inr (List.mem_cons_of_mem _ List.mem_cons_self)
  · exact .inl ⟨found, List.mem_cons_self⟩

theorem linkToWalletCase_obeys (has : HasAlert input past userId day a) :
    (linkToWalletCase a.level (alertKey input day) userId day).Obeys (May input)
      (Ends fun _ later => Raised input userId day a later) past := by
  unfold linkToWalletCase
  split
  · refine findOrCreateCase_obeys.seq fun _ middle grown hasCase => ?_
    refine ⟨.linkAlert (has.grow grown) hasCase, fun reply => ?_⟩
    cases reply with
    | error failure => trivial
    | ok linked =>
      refine ⟨.neutral rfl, fun reply => ?_⟩
      cases reply with
      | error failure => trivial
      | ok event =>
        refine ⟨(has.grow grown).grow ((List.suffix_cons _ _).trans (List.suffix_cons _ _)), fun _ => ?_⟩
        exact ⟨.walletRisk userId day, List.mem_cons_of_mem _ List.mem_cons_self⟩
  · rename_i uncritical
    exact ⟨has, fun critical => absurd critical uncritical⟩

theorem raiseAlertAndCase_obeys (own : Own input past userId day a) (unraised : Unraised past) :
    (raiseAlertAndCase input userId a day).Obeys (May input) (Ends fun _ later => Raised input userId day a later) past := by
  refine (upsertAlert_obeys own unraised).seq fun _ middle _ has => ?_
  refine (linkToWalletCase_obeys has).seq fun _ later _ raised => ?_
  refine ⟨.neutral rfl, fun reply => ?_⟩
  cases reply with
  | error failure => trivial
  | ok written => exact raised.grow (List.suffix_cons _ _)

/-- The check that `upsertCheck` returns was found, or is new. -/
theorem upsertCheck_obeys {check : WalletRiskCheck} {key : Text × Day} (unraised : Unraised past) :
    (upsertCheck key check).Obeys (May input) (Ends fun upserted later => Unraised later ∧
      if upserted.2 then ∃ answer, ⟨.createWalletCheck key check, .ok answer⟩ ∈ later
      else ∃ found, ⟨.findWalletCheck key, .ok (some found)⟩ ∈ later) past := by
  refine ⟨.neutral rfl, fun reply => ?_⟩
  rcases reply with failure | (_ | found)
  · trivial
  · refine ⟨.neutral rfl, fun reply => ?_⟩
    cases reply with
    | error failure => trivial
    | ok answer => exact ⟨(unraised.cons rfl).cons rfl, answer, List.mem_cons_self⟩
  · exact ⟨unraised.cons rfl, found, List.mem_cons_self⟩

/-- What a result calls for. -/
def subjectFor (input : RunWalletRiskInput) (day : Day) (a : WalletRiskAssessment) :
    Option (UserId × Day × WalletRiskAssessment) :=
  input.userId.bind fun userId => if WalletRiskLevel.isHighOrCritical a.level then some (userId, day, a) else none

theorem settled_last {created : Bool} (subject : subjectOf input past = subjectFor input day a)
    (unraised : Unraised past)
    (recorded : if created then ∃ answer, ⟨.createWalletCheck (input.location, day) ⟨input.userId, a⟩, .ok answer⟩ ∈ past
      else ∃ found, ⟨.findWalletCheck (input.location, day), .ok (some found)⟩ ∈ past) :
    Async.Obeys (May input) (Ends fun _ later => Settled input later) past (match input.userId with
      | some userId =>
        if created && WalletRiskLevel.isHighOrCritical a.level then raiseAlertAndCase input userId a day
        else return ()
      | none => return ()) := by
  rw [subjectFor] at subject
  cases isUser : input.userId with
  | none =>
    intro userId day a isSubject
    rw [subject, isUser] at isSubject
    cases isSubject
  | some userId =>
    rw [isUser, Option.bind_some] at subject
    rw [isUser] at recorded
    change Async.Obeys _ _ _ (if _ then _ else _)
    split
    · rename_i raises
      rw [Bool.and_eq_true] at raises
      rw [if_pos raises.2] at subject
      rw [if_pos raises.1] at recorded
      refine (raiseAlertAndCase_obeys recorded unraised).grows.imp fun later result ⟨grown, ended⟩ => ?_
      cases result with
      | error failure => trivial
      | ok value =>
        intro userId' day' a' isSubject
        cases (subject_stays subject grown).symm.trans isSubject
        exact .inr ended
    · rename_i quiet
      intro userId' day' a' isSubject
      rw [subject] at isSubject
      split at isSubject
      · rename_i serious
        cases isSubject
        cases created with
        | true => exact absurd (by rw [serious]; rfl) quiet
        | false => exact .inl recorded
      · cases isSubject

theorem recordCheck_obeys (subject : subjectOf input past = subjectFor input day a) (enough : 2 ≤ past.length)
    (unraised : Unraised past) :
    (recordCheck input day a).Obeys (May input) (Ends fun _ later => Settled input later) past := by
  refine ⟨.neutral rfl, fun reply => ?_⟩
  cases reply with
  | error failure => trivial
  | ok profile =>
    refine ⟨.neutral rfl, fun reply => ?_⟩
    cases reply with
    | error failure => trivial
    | ok upserted =>
      refine (upsertCheck_obeys ((unraised.cons rfl).cons rfl)).seq fun upserted middle grown ⟨unraised, recorded⟩ => ?_
      refine ⟨.neutral rfl, fun reply => ?_⟩
      cases reply with
      | error failure => trivial
      | ok written =>
        refine ⟨.neutral rfl, fun reply => ?_⟩
        cases reply with
        | error failure => trivial
        | ok event =>
          have grown' : past <:+ ⟨.append .walletRiskEvent, .ok event⟩ :: ⟨.append .lastCheck, .ok written⟩ :: middle :=
            ((List.suffix_cons _ _).trans (List.suffix_cons _ _)).trans
              (grown.trans ((List.suffix_cons _ _).trans (List.suffix_cons _ _)))
          refine settled_last ((subject_grow grown' enough).trans subject) ((unraised.cons rfl).cons rfl) ?_
          obtain ⟨_, created⟩ := upserted
          cases created with
          | true =>
            obtain ⟨answer, member⟩ := recorded
            exact ⟨answer, List.mem_cons_of_mem _ (List.mem_cons_of_mem _ member)⟩
          | false =>
            obtain ⟨found, member⟩ := recorded
            exact ⟨found, List.mem_cons_of_mem _ (List.mem_cons_of_mem _ member)⟩

theorem subjectFor_eq {now : Time} {location : Text × Text} :
    subjectOf input [⟨.screenWallet location, .ok a⟩, ⟨.now, .ok now⟩] = subjectFor input (dayBucket now) a := by
  rw [subjectOf, firstCalls_all (by rfl)]
  cases isUser : input.userId with
  | none => rw [subjectFor, isUser]; rfl
  | some userId => rw [subjectFor, isUser]; rfl

/-- A provider that fails leaves nothing to raise. -/
theorem subjectFor_failed {now : Time} {location : Text × Text} {failure : Failure} :
    subjectOf input [⟨.screenWallet location, .error failure⟩, ⟨.now, .ok now⟩] =
      subjectFor input (dayBucket now) providerFailed := by
  rw [subjectOf, firstCalls_all (by rfl)]
  cases isUser : input.userId with
  | none => rw [subjectFor, isUser]; rfl
  | some userId => rw [subjectFor, isUser]; rfl

theorem runCheck_obeys : (runCheck input).Obeys (May input) (Ends fun _ later => Settled input later) [] := by
  refine ⟨.neutral rfl, fun reply => ?_⟩
  cases reply with
  | error failure => trivial
  | ok now =>
    refine ⟨.neutral rfl, fun reply => ?_⟩
    have unraised : Unraised [⟨.screenWallet (input.chain, input.address), reply⟩, ⟨.now, .ok now⟩] := by
      refine Unraised.cons (Unraised.cons ?_ rfl) rfl
      exact fun _ member => nomatch member
    cases reply with
    | error failure => exact recordCheck_obeys subjectFor_failed le_rfl unraised
    | ok a => exact recordCheck_obeys subjectFor_eq le_rfl unraised

end Exchange.Compliance.WalletAlerts
