import Exchange.AuthEffects

/-! Who a session is issued to. Every way to log in reads the account first, and
issues the session some calls later; a code by email and an account at Google
do not ask for the authenticator. -/
namespace Exchange.Auth.SecondFactor
open Ledger (UserId)
open Service

variable {config : Config} {requests : ℕ → Request} {request : Request} {x : History} {pid other : ℕ}
  {call : AuthCall} {reply : Except Failure call.Reply} {s s' : Store} {userId : UserId} {user : User}
  {expiresAt : Time} {past : Past} {pool : AuthPool} {row : UserId × User}

/-- The account may have a session: it is active and not archived, and with an
authenticator the second step of the login was passed. -/
def Guarded (config : Config) (requests : ℕ → Request) (x : History) (pid : ℕ) (userId : UserId) : Prop :=
  ∃ user, x.store.tables.users.lookup userId = some user ∧ user.status = .active ∧ user.deletedAt = none ∧
    (user.totpEnabled → ∃ challengeToken code ctx, requests pid = .verify2fa challengeToken code ctx ∧
      Service.SecondFactor config userId code (x.past pid))

/-- Since the request saw the account, it was frozen or archived, or got an
authenticator that the request does not ask for. -/
def tightened (request : Request) (before after : User) : Bool :=
  before.status = .active && after.status ≠ .active || before.deletedAt.isNone && after.deletedAt.isSome ||
    !before.totpEnabled && after.totpEnabled && !request.isSecondStep

/-- The way to log in checks what it should for such an account. -/
def suits (user : User) : Request → Bool
  | .verifyOtp _ _ _ => !user.totpEnabled
  | .googleCallback _ _ => !user.totpEnabled && user.deletedAt.isNone
  | _ => true

/-- The account is as the request saw it, and the way to log in suits it. -/
def Steady (requests : ℕ → Request) (x : History) (pid : ℕ) (userId : UserId) : Prop :=
  ∃ user, x.store.tables.users.lookup userId = some user ∧ suits user (requests pid) ∧
    ∀ before, (userId, before) ∈ (x.past pid).filterMap readUser ∨ (userId, before) ∈ (x.past pid).filterMap newUser →
      tightened (requests pid) before user = false

/-! ## New accounts -/

theorem createUser_gates {email : Text} {verified : Option Time}
    (ok : createUser pid email verified s = .ok (row, s')) : row.2.gates = (.active, none, false) := by
  unfold createUser at ok
  split at ok
  · cases ok
  · cases ok
    rfl

/-- A new account is open, and has no authenticator. -/
theorem newUser_gates (makes : Makes pid call s reply s') (isNew : newUser ⟨call, reply⟩ = some row) :
    row.2.gates = (.active, none, false) := by
  unfold newUser at isNew
  split at isNew
  · rename_i created same
    cases same
    cases isNew
    obtain ⟨world, ran⟩ := makes.resolve_right (by simp)
    rcases Database.written_cases ran with ⟨value, same, wrote⟩ | ⟨⟨failure, same, -⟩, -⟩
    · cases same
      exact createUser_gates wrote
    · cases same
  · rename_i created same
    cases same
    cases isNew
    obtain ⟨world, ran⟩ := makes.resolve_right (by simp)
    rcases Database.written_cases ran with ⟨value, same, wrote⟩ | ⟨⟨failure, same, -⟩, -⟩
    · cases same
      simp only [except_bind_ok] at wrote
      obtain ⟨⟨row, s₁⟩, created, ⟨_, s₂⟩, linked, same⟩ := wrote
      cases same
      exact createUser_gates created
    · cases same
  · rename_i created same
    cases same
    cases isNew
    obtain ⟨world, ran⟩ := makes.resolve_right (by simp)
    rcases Database.written_cases ran with ⟨value, same, wrote⟩ | ⟨⟨failure, same, -⟩, -⟩
    · cases same
      simp only [except_bind_ok] at wrote
      obtain ⟨⟨row, s₁⟩, created, ⟨_, s₂⟩, linked, same⟩ := wrote
      cases same
      exact createUser_gates created
    · cases same
  · cases isNew

/-- The accounts that requests have created. -/
def NewOpen (x : History) : Prop :=
  ∀ pid row, row ∈ (x.past pid).filterMap newUser → row.2.gates = (.active, none, false)

theorem newOpen_step (isOpen : NewOpen x) (makes : Makes pid call x.store reply s') :
    NewOpen ⟨s', (pid, ⟨call, reply⟩) :: x.history⟩ := by
  intro other row member
  obtain ⟨made, isMade, isNew⟩ := List.mem_filterMap.mp member
  rcases Logged.mem_past_cons.mp isMade with ⟨rfl, rfl⟩ | before
  · exact newUser_gates makes isNew
  · exact isOpen other row (List.mem_filterMap.mpr ⟨made, before, isNew⟩)

theorem newOpen_run (run : Logged.Run interleaved (IsRequest config requests) (fun _ => True) pool) :
    NewOpen pool.store :=
  run.inv (isRequest_obeys requests) (fun _ _ _ _ member => nomatch member) fun _ _ _ _ _ isOpen _ => newOpen_step isOpen

/-! ## Sessions -/

theorem may_issue (call' : May config request past (.createSession userId expiresAt)) :
    Admitted config request userId past := by
  cases call' with
  | neutral neutral => cases neutral
  | createSession isLogin admitted free => exact admitted

theorem not_tightened {before after : User} (same : tightened request before after = false) :
    (before.status = .active → after.status = .active) ∧ (before.deletedAt = none → after.deletedAt = none) ∧
      (before.totpEnabled = false → after.totpEnabled → request.isSecondStep) := by
  simpa [tightened, or_iff_not_imp_left, and_assoc] using same

theorem steady_of_guarded (guarded : Guarded config requests x pid userId) : Steady requests x pid userId := by
  obtain ⟨user, found, active, present, factor⟩ := guarded
  have isSecond : user.totpEnabled → (requests pid).isSecondStep := by
    intro enabled
    obtain ⟨challengeToken, code, ctx, isRequest, -⟩ := factor enabled
    rw [isRequest]
    rfl
  refine ⟨user, found, ?_, fun before _ => ?_⟩
  · cases isRequest : requests pid with
    | verifyOtp email code ctx =>
      rw [isRequest] at isSecond
      simpa [suits, Request.isSecondStep] using isSecond
    | googleCallback code state =>
      rw [isRequest] at isSecond
      simpa [suits, Request.isSecondStep, present] using isSecond
    | _ => rfl
  · simp only [tightened, active, present]
    simpa using fun _ => isSecond

/-- What a way to log in found out about the account holds when the session is
issued. -/
theorem guarded_of_steady (admitted : Admitted config (requests pid) userId (x.past pid)) (isOpen : NewOpen x)
    (steady : Steady requests x pid userId) : Guarded config requests x pid userId := by
  obtain ⟨user, found, suited, same⟩ := steady
  cases admitted with
  | @created before created firstStep =>
    have isNew := isOpen pid _ created
    simp only [User.gates, Prod.mk.injEq] at isNew
    obtain ⟨stays, stays', off⟩ := not_tightened (same before (.inr created))
    refine ⟨user, found, stays isNew.1, stays' isNew.2.1, fun enabled => ?_⟩
    cases firstStep.symm.trans (off isNew.2.2 enabled)
  | @read before read active cleared =>
    obtain ⟨stays, stays', off⟩ := not_tightened (same before (.inl read))
    cases isRequest : requests pid with
    | verify2fa challengeToken code ctx =>
      rw [isRequest] at cleared
      exact ⟨user, found, stays active, stays' cleared.1, fun _ => ⟨challengeToken, code, ctx, isRequest, cleared.2⟩⟩
    | verifyOtp email code ctx =>
      rw [isRequest] at cleared suited
      refine ⟨user, found, stays active, stays' cleared, fun enabled => ?_⟩
      simp [suits, enabled] at suited
    | googleCallback code state =>
      rw [isRequest] at suited
      simp only [suits, Bool.and_eq_true, Bool.not_eq_true', Option.isNone_iff_eq_none] at suited
      refine ⟨user, found, stays active, suited.2, fun enabled => ?_⟩
      cases suited.1.symm.trans enabled
    | _ =>
      rw [isRequest] at cleared off
      refine ⟨user, found, stays active, stays' cleared.1, fun enabled => ?_⟩
      cases off cleared.2 enabled

/-- Where the way to log in suits the account and the account was not tightened,
the session is guarded, and nowhere else. -/
theorem guarded_iff_steady {next : Except Failure RefreshToken → AuthM Response}
    (run : Logged.Run interleaved (IsRequest config requests) (fun _ => True) pool)
    (waiting : pool.programs.lookup pid = some (.await (.createSession userId expiresAt) next)) :
    Guarded config requests pool.store pid userId ↔ Steady requests pool.store pid userId := by
  refine ⟨steady_of_guarded, guarded_of_steady ?_ (newOpen_run run)⟩
  exact may_issue ((Logged.Run.orderly (isRequest_obeys requests) run).waiting waiting)

/-! ## One user with an authenticator -/

private def withTotp : User := { plainUser 5 with totpEnabled := true, totpSecret := some 42 }

/-- The password first, and then the code of the authenticator. -/
private def twoSteps : ℕ → Request
  | 1 => .login ['a'] 5 noContext
  | _ => .verify2fa 1 ['4', '2'] noContext

private def isSame (past : Past) (userId : UserId) (user : User) (request : Request) : Bool :=
  (past.filterMap readUser ++ past.filterMap newUser).all fun row =>
    row.1 ≠ userId || !tightened request row.2 user

private theorem steady_of_isSame (found : x.store.tables.users.lookup userId = some user)
    (suited : suits user (requests pid)) (same : isSame (x.past pid) userId user (requests pid)) :
    Steady requests x pid userId := by
  refine ⟨user, found, suited, fun before member => ?_⟩
  have kept := List.all_eq_true.mp same (userId, before) (List.mem_append.mpr member)
  simpa using kept

/-- After the second step a session is issued. -/
theorem guarded_two_steps : ∃ (pool : AuthPool) (expiresAt : Time)
    (next : Except Failure RefreshToken → AuthM Response),
    pool.programs.lookup 2 = some (.await (.createSession 7 expiresAt) next) ∧
      Guarded smallConfig twoSteps pool.store 2 7 := by
  have played : (schedule smallConfig (fun _ => worldAt 1 (tablesWith 7 withTotp)) (fun _ _ => false)
      (fun _ _ _ _ => true) twoSteps [1, 2] [(1, 9), (2, 7)] (storeWith 7 withTotp)).map (fun pool =>
        (Logged.waitsFor pool 2, pool.store.store.tables.users.lookup 7,
          isSame (pool.store.past 2) 7 withTotp (twoSteps 2))) =
      some (some (.createSession 7 1001), some withTotp, true) := by decide +kernel
  obtain ⟨pool, scheduled, facts⟩ := Option.map_eq_some_iff.mp played
  simp only [Prod.mk.injEq] at facts
  obtain ⟨next, waiting⟩ := Logged.waiting_of_waitsFor facts.1
  have run : Logged.Run interleaved (IsRequest smallConfig twoSteps) (fun _ => True) pool :=
    schedule_run trivial (fun _ _ _ _ _ _ makes => makes) scheduled
  refine ⟨pool, 1001, next, waiting, (guarded_iff_steady run waiting).mpr ?_⟩
  exact steady_of_isSame facts.2.1 rfl facts.2.2

private def byEmail (_ : ℕ) : Request := .verifyOtp ['a'] ['1'] noContext

/-- A code was sent to the address of user 7. -/
private def sentCode : Store :=
  (storeWith 7 withTotp).setOtps
    ((∅ : Table ℕ EmailOtp).insert 0 ⟨['a'], (['a'], ['1']), .login, 100, none, 0, 5, 0⟩)

/-- A code by email is enough, authenticator or not. -/
theorem unguarded_by_email : ¬∀ (pool : AuthPool) (pid : ℕ) (userId : UserId) (expiresAt : Time)
    (next : Except Failure RefreshToken → AuthM Response),
    Logged.Run interleaved (IsRequest smallConfig byEmail) (fun _ => True) pool →
      pool.programs.lookup pid = some (.await (.createSession userId expiresAt) next) →
        Guarded smallConfig byEmail pool.store pid userId := by
  intro guarded
  have played : (schedule smallConfig (fun _ => worldAt 1 sentCode.tables) (fun _ _ => false)
      (fun _ _ _ _ => true) byEmail [1] [(1, 6)] sentCode).map (fun pool =>
        (Logged.waitsFor pool 1, pool.store.store.tables.users.lookup 7)) =
      some (some (.createSession 7 1001), some withTotp) := by decide +kernel
  obtain ⟨pool, scheduled, facts⟩ := Option.map_eq_some_iff.mp played
  simp only [Prod.mk.injEq] at facts
  obtain ⟨next, waiting⟩ := Logged.waiting_of_waitsFor facts.1
  have run : Logged.Run interleaved (IsRequest smallConfig byEmail) (fun _ => True) pool :=
    schedule_run trivial (fun _ _ _ _ _ _ makes => makes) scheduled
  obtain ⟨user, found, -, -, factor⟩ := guarded pool 1 7 1001 next run waiting
  cases facts.2.symm.trans found
  obtain ⟨_, _, _, isRequest, -⟩ := factor rfl
  cases isRequest

end Exchange.Auth.SecondFactor
