import Exchange.KycRules

/-! What the calls of KYC do: to the two places where the gate is kept, to the
submission and to the checks. A check is added in front and keeps its place;
only its decision changes. -/
namespace Exchange.Kyc
open Service

variable {pid : ℕ} {s s' : Store} {call : KycCall} {reply : Except Failure call.Reply}
  {made : Answered KycCall KycCall.Reply Failure}

/-! ## Effects -/

/-- What a reading says about the rows. -/
def Learned (s : Store) : Answered KycCall KycCall.Reply Failure → Prop
  | ⟨.findProfileByUserId, .ok found⟩ => s.kycProfile = found
  | ⟨.findProfileByProviderRef provider ref, .ok found⟩ => Kyc.findProfileByProviderRef s provider ref = found
  | ⟨.latestChecksByCategory, .ok latest⟩ => Kyc.latestChecksByCategory s = latest
  | _ => True

/-- The status that a call sets in both places at once. -/
def KycCall.setsBoth : KycCall → Option KycStatus
  | .submitProfile _ => some .pending
  | .decide status _ => some status
  | .applyProviderUpdate status _ => status
  | _ => none

/-- What a call did, by its answer. -/
inductive Effect (s : Store) : Answered KycCall KycCall.Reply Failure → Store → Prop
  | failed {call : KycCall} {failure : Failure} : Effect s ⟨call, .error failure⟩ s
  | read {call : KycCall} {value : call.Reply} (neutral : call.isNeutral) (learned : Learned s ⟨call, .ok value⟩) :
      Effect s ⟨call, .ok value⟩ s
  | eventKept {call : KycCall} {value : call.Reply} {events : Table (Text × Text) Bool} (neutral : call.isNeutral)
      (learned : Learned s ⟨call, .ok value⟩) : Effect s ⟨call, .ok value⟩ { s with webhookEvents := events }
  | bothSet {call : KycCall} {value : call.Reply} {status : KycStatus} {user : User} {profile : KycProfile} {tier : ℕ}
      (sets : call.setsBoth = some status) (isUser : s.user = some user) (isSet : profile.status = status) :
      Effect s ⟨call, .ok value⟩
        { s with kycProfile := some profile, user := some { user with kycStatus := status, kycTier := tier } }
  | mirrored {provider : Option Text} {profile : KycProfile} (isPending : profile.status = .pending) :
      Effect s ⟨.mirrorProfile provider, .ok ()⟩ { s with kycProfile := some profile }
  | userSet {status : KycStatus} {tier : Option ℕ} {user : User} (isUser : s.user = some user) :
      Effect s ⟨.setUserKyc status tier, .ok ()⟩
        { s with user := some { user with kycStatus := status, kycTier := tier.getD user.kycTier } }
  | profilesSet {status : KycStatus} :
      Effect s ⟨.updateManyProfiles status, .ok ()⟩
        { s with kycProfile := s.kycProfile.map fun profile => { profile with status } }
  | upserted {profile : ComplianceProfile} :
      Effect s ⟨.upsertProfile profile, .ok profile⟩ { s with compliance := some profile }
  | patched {patch : CompliancePatch} {profile : ComplianceProfile} (isRow : s.compliance = some profile) :
      Effect s ⟨.updateProfile patch, .ok ()⟩ { s with compliance := some (patch.set profile) }
  | checkStored {category : ScreeningCategory} {status : ScreeningCheckStatus} :
      Effect s ⟨.createCheck category status, .ok s.checks.length⟩
        { s with checks := ⟨s.checks.length, category, status, none⟩ :: s.checks }
  | checkDecided {id : ℕ} {decision : ScreeningDecision} :
      Effect s ⟨.updateCheck id decision, .ok ()⟩ { s with checks := s.checks.map fun check =>
        if check.id = id then { check with decision := some decision } else check }

theorem setUser_ok {status : KycStatus} {tier : Option ℕ} (ok : setUser status tier s = .ok s') :
    ∃ user, s.user = some user ∧
      s' = { s with user := some { user with kycStatus := status, kycTier := tier.getD user.kycTier } } := by
  unfold setUser at ok
  split at ok
  · rename_i user isUser
    cases ok
    exact ⟨user, isUser, rfl⟩
  · cases ok

/-- A write that was made, by what it did, or one that failed. -/
theorem written_effect {result : Except Failure (call.Reply × Store)}
    (made : Database.written s result = (reply, s'))
    (wrote : ∀ value, result = .ok (value, s') → Effect s ⟨call, .ok value⟩ s') : Effect s ⟨call, reply⟩ s' := by
  rcases Database.written_cases made with ⟨value, rfl, ok⟩ | ⟨⟨failure, rfl, -⟩, rfl⟩
  · exact wrote value ok
  · exact .failed

theorem submitProfile_effect {session : KycSession} {profile : KycProfile}
    (ok : submitProfile session s = .ok (profile, s')) : Effect s ⟨.submitProfile session, .ok profile⟩ s' := by
  unfold submitProfile at ok
  obtain ⟨s'', set, ok⟩ := except_bind_ok.mp ok
  obtain ⟨user, isUser, rfl⟩ := setUser_ok set
  cases ok
  exact .bothSet rfl isUser rfl

/-- One transaction sets the status in both places. -/
theorem setProfile_effect {status : KycStatus} {tier : Option ℕ} {profile : KycProfile}
    (sets : call.setsBoth = some status) {value : call.Reply} (ok : setProfile (some status) tier s = .ok (profile, s')) :
    Effect s ⟨call, .ok value⟩ s' := by
  unfold setProfile at ok
  split at ok
  · cases ok
  · rename_i none
    cases none
  · rename_i row status' _ isStatus
    cases isStatus
    obtain ⟨s'', set, ok⟩ := except_bind_ok.mp ok
    obtain ⟨user, isUser, rfl⟩ := setUser_ok set
    cases ok
    exact .bothSet sets isUser rfl

theorem Makes.effect (makes : Makes pid call s reply s') : Effect s ⟨call, reply⟩ s' := by
  rcases makes with ⟨world, ran⟩ | ⟨⟨failure, -, rfl⟩, rfl⟩
  · cases call with
    | submitProfile session => exact written_effect ran fun profile ok => submitProfile_effect ok
    | decide status tier => exact written_effect ran fun profile ok => setProfile_effect rfl ok
    | applyProviderUpdate status tier =>
      refine written_effect ran fun profile ok => ?_
      cases status with
      | some status => exact setProfile_effect rfl ok
      | none =>
        unfold setProfile at ok
        split at ok
        · cases ok
        · cases ok
          exact .read rfl trivial
        · rename_i isStatus
          cases isStatus
    | createWebhookEvent key =>
      refine written_effect ran fun _ ok => ?_
      unfold createWebhookEvent at ok
      split at ok
      · cases ok
      · cases ok
        exact .eventKept rfl trivial
    | markWebhookProcessed key =>
      refine written_effect ran fun _ ok => ?_
      unfold markWebhookProcessed at ok
      split at ok
      · cases ok
      · cases ok
        exact .eventKept rfl trivial
    | upsertProfile profile =>
      refine written_effect ran fun _ ok => ?_
      unfold upsertCompliance at ok
      split at ok
      · cases ok
      · cases ok
        exact .upserted
    | updateProfile patch =>
      refine written_effect ran fun _ ok => ?_
      unfold updateCompliance at ok
      split at ok
      · rename_i isRow
        cases ok
        exact .patched isRow
      · cases ok
    | createCheck category status =>
      refine written_effect ran fun _ ok => ?_
      unfold createCheck at ok
      split at ok
      · cases ok
      · cases ok
        exact .checkStored
    | updateCheck id decision =>
      refine written_effect ran fun _ ok => ?_
      unfold updateCheck at ok
      split at ok
      · cases ok
        exact .checkDecided
      · cases ok
    | mirrorProfile provider =>
      refine written_effect ran fun _ ok => ?_
      unfold mirrorProfile at ok
      split at ok
      · cases ok
      · cases ok
        refine .mirrored ?_
        split <;> rfl
    | setUserKyc status tier =>
      refine written_effect ran fun _ ok => ?_
      cases set : setUser status tier s with
      | error failure =>
        rw [set] at ok
        cases ok
      | ok s'' =>
        rw [set] at ok
        cases ok
        obtain ⟨user, isUser, rfl⟩ := setUser_ok set
        exact .userSet isUser
    | updateManyProfiles status =>
      cases ran
      exact .profilesSet
    | findProfileByUserId =>
      cases ran
      exact .read rfl rfl
    | findProfileByProviderRef provider ref =>
      cases ran
      exact .read rfl rfl
    | latestChecksByCategory =>
      cases ran
      exact .read rfl rfl
    | createKycSession =>
      obtain ⟨rfl, rfl⟩ := Prod.mk.inj ran
      cases world.session with
      | ok session => exact .read rfl trivial
      | error failure => exact .failed
    | getStatus providerSessionId providerApplicantId =>
      obtain ⟨rfl, rfl⟩ := Prod.mk.inj ran
      cases world.verification with
      | ok status => exact .read rfl trivial
      | error failure => exact .failed
    | screen subject =>
      obtain ⟨rfl, rfl⟩ := Prod.mk.inj ran
      cases world.screening subject with
      | ok results => exact .read rfl trivial
      | error failure => exact .failed
    | _ =>
      cases ran
      exact .read rfl trivial
  · exact .failed

theorem Effect.learned {value : call.Reply} (effect : Effect s ⟨call, .ok value⟩ s')
    (reads : ∀ status, call.setsBoth ≠ some status) : Learned s ⟨call, .ok value⟩ := by
  cases effect with
  | read neutral learned => exact learned
  | eventKept neutral learned => exact learned
  | bothSet sets => exact absurd sets (reads _)
  | _ => trivial

/-! ## Latest checks -/

theorem not_blocked {latest : List ScreeningCheck} {check : ScreeningCheck} (gate : (computeGate latest).blocked = false)
    (member : check ∈ latest) : check.blocks = false := by
  simp only [computeGate, decide_eq_false_iff_not, List.length_map, Nat.not_lt, Nat.le_zero,
    List.length_eq_zero_iff, List.filter_eq_nil_iff, Bool.not_eq_true] at gate
  exact gate check member

/-! ## Runs -/

abbrev History := Logged ℕ KycCall KycCall.Reply Failure Store

abbrev KycPool := Pool ℕ KycCall KycCall.Reply Failure Unit History

def interleaved (pid : ℕ) (call : KycCall) (x : History) (reply : Except Failure call.Reply) (s' : Store) : Prop :=
  Makes pid call x.store reply s'

/-! ## Schedules -/

def schedule (config : Config) (worlds : ℕ → World) (isLost : ℕ → KycCall → Bool)
    (allows : ℕ → (call : KycCall) → History → Except Failure call.Reply → Bool) (requests : ℕ → Request)
    (arrivals : List ℕ) (turns : List (ℕ × ℕ)) (s : Store) : Option KycPool :=
  Database.schedule perform worlds isLost allows (fun pid => (requests pid).program config) arrivals turns s

theorem schedule_run {config : Config} {worlds : ℕ → World} {requests : ℕ → Request} {isLost : ℕ → KycCall → Bool}
    {allows : ℕ → (call : KycCall) → History → Except Failure call.Reply → Bool} {arrivals : List ℕ}
    {turns : List (ℕ × ℕ)} {pool : KycPool} {Initial : Store → Prop} {initial : Store}
    {step : ℕ → (call : KycCall) → History → Except Failure call.Reply → Store → Prop} (isInitial : Initial initial)
    (sound : ∀ pid call x reply s', allows pid call x reply → Makes pid call x.store reply s' →
      step pid call x reply s')
    (played : schedule config worlds isLost allows requests arrivals turns initial = some pool) :
    Logged.Run step (IsRequest config requests) Initial pool :=
  Database.schedule_run isInitial (fun _ => rfl) sound played

def resume (config : Config) (worlds : ℕ → World) (isLost : ℕ → KycCall → Bool)
    (allows : ℕ → (call : KycCall) → History → Except Failure call.Reply → Bool) (requests : ℕ → Request)
    (arrivals : List ℕ) (turns : List (ℕ × ℕ)) : KycPool → Option KycPool :=
  Database.resume perform worlds isLost allows (fun pid => (requests pid).program config) arrivals turns

theorem resume_steps {config : Config} {worlds : ℕ → World} {requests : ℕ → Request} {isLost : ℕ → KycCall → Bool}
    {allows : ℕ → (call : KycCall) → History → Except Failure call.Reply → Bool} {arrivals : List ℕ}
    {turns : List (ℕ × ℕ)} {pool pool' : KycPool}
    {step : ℕ → (call : KycCall) → History → Except Failure call.Reply → Store → Prop}
    (sound : ∀ pid call x reply s', allows pid call x reply → Makes pid call x.store reply s' →
      step pid call x reply s')
    (played : resume config worlds isLost allows requests arrivals turns pool = some pool') :
    Relation.ReflTransGen (Pool.Step (Logged.protocol step) (IsRequest config requests)) pool pool' :=
  Database.resume_steps (fun _ => rfl) sound played

/-- A configuration where no webhook is genuine. -/
def smallConfig : Config := ⟨['k'], ['l'], 1, true, fun _ => none⟩

/-- A user who has not started. -/
def smallStore : Store := ⟨some ⟨['u'], .notStarted, 0⟩, none, ∅, none, []⟩

/-- The identity provider answers, and the screening as it is given. -/
def worldWith (screening : Except Failure (List ScreeningCategoryResult)) : World :=
  ⟨.ok ⟨['k'], ['s'], none⟩, .ok .approved, fun _ => screening⟩

def smallSubmission : EnhancedSubmission := ⟨['n'], ['i'], ['i'], false⟩

end Exchange.Kyc
