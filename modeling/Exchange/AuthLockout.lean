import Exchange.AuthEffects

/-! The lockout of password logins. A login counts the failures of its address
and its IP, compares a password, and then records the attempt, each in a call of
its own; between the count and the record others do the same. How far this takes
the failures past the limits is the number of logins between the two. -/
namespace Exchange.Auth.Lockout
open Service Async
open Ledger (UserId)

/-- What failures are counted by. -/
inductive Dimension where
  | pair (email ip : Text)
  | email (email : Text)
  | ip (ip : Text)
  deriving DecidableEq, Repr

def Dimension.limit (config : Config) : Dimension → ℕ
  | .pair _ _ => config.maxAttempts
  | .email _ => config.maxAttempts * LOCKOUT_EMAIL_MULTIPLIER
  | .ip _ => config.maxAttempts * LOCKOUT_IP_MULTIPLIER

/-- An attempt for this address from this source belongs to the dimension. -/
def Dimension.includes (address : Text) (source : Option Text) : Dimension → Bool
  | .pair owner origin => Text.toLowerCase address = Text.toLowerCase owner && source = some origin
  | .email owner => Text.toLowerCase address = Text.toLowerCase owner
  | .ip origin => source = some origin

/-- A failure of the dimension that counts. -/
def Dimension.failed (dimension : Dimension) (since : Time) (attempt : LoginAttempt) : Bool :=
  dimension.includes attempt.email attempt.ip && !attempt.success && since ≤ attempt.createdAt

/-- The failures of the dimension are those that a count by these two finds. -/
def Dimension.asks (address source : Option Text) : Dimension → Bool
  | .pair owner origin => address.map Text.toLowerCase = some (Text.toLowerCase owner) && source = some origin
  | .email owner => address.map Text.toLowerCase = some (Text.toLowerCase owner) && source = none
  | .ip origin => address = none && source = some origin

/-- The answer counts the failures of the dimension, and there are fewer than
the limit. -/
def Dimension.clears (config : Config) (dimension : Dimension) :
    Answered AuthCall AuthCall.Reply Failure → Bool
  | ⟨.countRecentFailedAttempts address source _, .ok failures⟩ =>
    failures < dimension.limit config && dimension.asks address source
  | _ => false

def isRecord : Answered AuthCall AuthCall.Reply Failure → Bool
  | ⟨.recordLoginAttempt _ _ _, _⟩ => true
  | _ => false

/-- What a login has counted, in its order. -/
def counted (past : Past) : List ℕ :=
  past.reverse.filterMap fun
    | ⟨.countRecentFailedAttempts _ _ _, .ok failures⟩ => some failures
    | _ => none

/-- The login has found itself locked out. -/
def isRefused (config : Config) (past : Past) : Bool :=
  match counted past with
  | pairFailures :: emailFailures :: ipFailures :: _ =>
    config.maxAttempts ≤ pairFailures || config.maxAttempts * LOCKOUT_EMAIL_MULTIPLIER ≤ emailFailures ||
      config.maxAttempts * LOCKOUT_IP_MULTIPLIER ≤ ipFailures
  | _ => false

/-- A login that the dimension has let pass, and that has neither ended nor
recorded its attempt. -/
def isOpen (config : Config) (dimension : Dimension) (past : Past) : Bool :=
  past.any (dimension.clears config) && past.all (fun made => made.reply.isOk && !isRecord made) &&
    !isRefused config past

def isPasswordLogin : Request → Bool
  | .login _ _ _ => true
  | _ => false

variable (config : Config) (requests : ℕ → Request) (dimension : Dimension)

/-- The logins of the dimension that are under way. -/
def openLogins (x : History) : Finset ℕ :=
  (x.history.map Prod.fst).toFinset.filter fun pid =>
    isPasswordLogin (requests pid) && isOpen config dimension (x.past pid)

/-- Who made a row of the attempts. -/
def recorder : ℕ × Answered AuthCall AuthCall.Reply Failure → Option ℕ
  | (pid, ⟨.recordLoginAttempt _ _ _, .ok _⟩) => some pid
  | _ => none

/-- Who recorded the attempts, latest first like the rows. -/
def recorders (x : History) : List ℕ := x.history.filterMap recorder

/-- The failed password logins that the window still holds. (A wrong email code
is recorded as an attempt as well, without a look at the limits.) -/
def failures (x : History) : ℕ :=
  (x.store.tables.loginAttempts.zip (recorders x)).countP fun (attempt, pid) =>
    isPasswordLogin (requests pid) && dimension.failed (x.store.now - config.windowMs) attempt

/-- At most so many logins of the dimension are under way at a time; the rest of
the platform leaves the attempts alone. -/
def together (width : ℕ) (pid : ℕ) (call : AuthCall) (x : History) (reply : Except Failure call.Reply)
    (s' : Store) : Prop :=
  Makes pid call x.store reply s' ∧
    (call = .elsewhere → s'.tables.loginAttempts = x.store.tables.loginAttempts) ∧
    (openLogins config requests dimension ⟨s', (pid, ⟨call, reply⟩) :: x.history⟩).card ≤ width

/-- Nobody has tried to log in yet. -/
def Unattempted (s : Store) : Prop := s.tables.loginAttempts = []

variable {config requests dimension} {past later : Past} {email : Text} {ip : Option Text}

/-! ## The rules of a login -/

/-- A login counts what is not older than the window, and records its attempt
while every dimension that it belongs to has let it pass. -/
def LoginMay (config : Config) (email : Text) (ip : Option Text) (past : Past) : AuthCall → Prop
  | .countRecentFailedAttempts _ _ since => ∃ now, ⟨.now, .ok now⟩ ∈ past ∧ since = now - config.windowMs
  | .recordLoginAttempt address source _ => address = email ∧ source = ip ∧
    ∀ dimension : Dimension, dimension.includes email ip → isOpen config dimension past
  | _ => True

def May (config : Config) (requests : ℕ → Request) (pid : ℕ) (past : Past) (call : AuthCall) : Prop :=
  match requests pid with
  | .login email _ ctx => LoginMay config email ctx.ip past call
  | _ => True

/-- Calls that neither count nor record. -/
def isAside : AuthCall → Bool
  | .countRecentFailedAttempts _ _ _ => false
  | .recordLoginAttempt _ _ _ => false
  | _ => true

theorem may_aside {call : AuthCall} (aside : isAside call) : LoginMay config email ip past call := by
  cases call with
  | countRecentFailedAttempts | recordLoginAttempt => cases aside
  | _ => trivial

/-- Without rules every program is lawful. -/
theorem lawful_any {α : Type} {may : Past → AuthCall → Prop} (any : ∀ past call, may past call)
    (program : AuthM α) : Lawful may past program := by
  induction program generalizing past with
  | done result => trivial
  | await call resume ih => exact ⟨any past call, fun reply => ih reply⟩

/-- The program neither counts nor records, whatever happened before. -/
def Aside {α : Type} (config : Config) (email : Text) (ip : Option Text) (program : AuthM α) : Prop :=
  ∀ past, Lawful (LoginMay config email ip) past program

section Aside
variable {α β : Type}

theorem aside_done {result : Except Failure α} : Aside config email ip (.done result) := fun _ => trivial

theorem aside_ask {call : AuthCall} (aside : isAside call) : Aside config email ip (ask call) :=
  fun _ => lawful_ask (may_aside aside)

theorem Aside.bind {program : AuthM α} {next : α → AuthM β} (first : Aside config email ip program)
    (rest : ∀ value, Aside config email ip (next value)) : Aside config email ip (program >>= next) :=
  fun past => lawful_bind (first past) fun value later => rest value later

theorem Aside.attempt {fallback : α} {program : AuthM α} (aside : Aside config email ip program) :
    Aside config email ip (attempt fallback program) :=
  fun past => lawful_catch (aside past) fun _ _ => trivial

theorem markSessionRevoked_aside (sessionId : SessionId) (reason : String) :
    Aside config email ip (markSessionRevoked config sessionId reason) := aside_ask rfl

theorem denylist_aside (reason : String) (ids : List SessionId) :
    Aside config email ip (denylist config reason ids) := by
  induction ids with
  | nil => exact aside_done
  | cons id rest ih => exact (markSessionRevoked_aside id reason).attempt.bind fun _ => ih

theorem revokeOtherSessions_aside (userId : UserId) (newSessionId : SessionId) :
    Aside config email ip (revokeOtherSessions config userId newSessionId) := by
  unfold revokeOtherSessions revokeAllSessionsForUser
  refine (aside_ask rfl).bind fun others => ?_
  split
  · exact aside_done
  · refine Aside.bind ?_ fun _ => denylist_aside _ _
    refine (aside_ask rfl).bind fun ids => ?_
    split
    · exact aside_done
    · exact (aside_ask rfl).bind fun _ => aside_done

theorem startSession_aside (userId : UserId) (user : User) :
    Aside config email ip (startSession config userId user) := by
  unfold startSession issueLoginChallenge issueSession enforceSingleActiveSession
  split
  · refine Aside.bind ?_ fun _ => aside_done
    exact (aside_ask rfl).bind fun _ => (aside_ask rfl).bind fun _ => aside_done
  · refine Aside.bind ?_ fun _ => aside_done
    refine (aside_ask rfl).bind fun _ => (aside_ask rfl).bind fun token => ?_
    exact (revokeOtherSessions_aside userId token.sid).attempt.bind fun _ => aside_done

theorem assertMayLogin_aside (user : User) : Aside config email ip (assertMayLogin user) := by
  unfold assertMayLogin
  split
  · exact aside_done
  · split <;> exact aside_done

theorem ensureLoginLocation_aside (ctx : AuthContext) :
    Aside config email ip (ensureLoginLocationIfRequired config ctx) := by
  unfold ensureLoginLocationIfRequired
  split <;> exact aside_done

end Aside

/-- A login that was not refused has been let pass by every dimension. -/
theorem isOpen_login {now : Time} {pairFailures emailFailures ipFailures : ℕ}
    {found : Option (UserId × User)} {since : Time}
    (passed : ¬(config.maxAttempts ≤ pairFailures || config.maxAttempts * LOCKOUT_EMAIL_MULTIPLIER ≤ emailFailures ||
      config.maxAttempts * LOCKOUT_IP_MULTIPLIER ≤ ipFailures) = true)
    (includes : dimension.includes email ip) :
    isOpen config dimension [⟨.findUserByEmail email, .ok found⟩,
      ⟨.countRecentFailedAttempts none ip since, .ok ipFailures⟩,
      ⟨.countRecentFailedAttempts (some email) none since, .ok emailFailures⟩,
      ⟨.countRecentFailedAttempts (some email) ip since, .ok pairFailures⟩, ⟨.now, .ok now⟩] := by
  simp only [Bool.or_eq_true, decide_eq_true_eq, not_or, not_le] at passed
  obtain ⟨⟨pairPassed, emailPassed⟩, ipPassed⟩ := passed
  have unrefused : ¬config.maxAttempts ≤ pairFailures := not_le.mpr pairPassed
  cases dimension with
  | pair address source =>
    simp only [Dimension.includes, Bool.and_eq_true, decide_eq_true_eq] at includes
    simp [isOpen, Dimension.clears, Dimension.asks, Dimension.limit, isRefused, counted, isRecord, Except.isOk,
      Except.toBool, pairPassed, emailPassed, ipPassed, includes]
  | email address =>
    simp only [Dimension.includes, decide_eq_true_eq] at includes
    simp [isOpen, Dimension.clears, Dimension.asks, Dimension.limit, isRefused, counted, isRecord, Except.isOk,
      Except.toBool, pairPassed, emailPassed, ipPassed, includes]
  | ip source =>
    simp only [Dimension.includes, decide_eq_true_eq] at includes
    simp [isOpen, Dimension.clears, Dimension.asks, Dimension.limit, isRefused, counted, isRecord, Except.isOk,
      Except.toBool, pairPassed, emailPassed, ipPassed, includes]

/-- Once the password has been compared, the attempt is recorded; what follows
neither counts nor records. -/
theorem afterLockout_lawful {password : Password} {ctx : AuthContext}
    (passed : ∀ found, ∀ dimension : Dimension, dimension.includes email ctx.ip →
      isOpen config dimension (⟨.findUserByEmail email, .ok found⟩ :: past)) :
    Lawful (LoginMay config email ctx.ip) past (do
      let (userId, user) ← checkPassword email password ctx.ip
      assertMayLogin user
      if config.requireEmailVerification && !config.allowUnverifiedLogin && user.emailVerifiedAt.isNone then
        throw (.forbiddenError "Email address is not verified" "EMAIL_NOT_VERIFIED")
      else do
        ensureLoginLocationIfRequired config ctx
        startSession config userId user) := by
  have rest (row : UserId × User) : Aside config email ctx.ip (do
      assertMayLogin row.2
      if config.requireEmailVerification && !config.allowUnverifiedLogin && row.2.emailVerifiedAt.isNone then
        throw (.forbiddenError "Email address is not verified" "EMAIL_NOT_VERIFIED")
      else do
        ensureLoginLocationIfRequired config ctx
        startSession config row.1 row.2) := by
    refine (assertMayLogin_aside row.2).bind fun _ => ?_
    split
    · exact aside_done
    · exact (ensureLoginLocation_aside ctx).bind fun _ => startSession_aside row.1 row.2
  unfold checkPassword
  refine ⟨may_aside rfl, fun reply => ?_⟩
  cases reply with
  | error => trivial
  | ok found =>
    refine ⟨⟨rfl, rfl, passed found⟩, fun reply => ?_⟩
    cases reply with
    | error => trivial
    | ok =>
      dsimp only [bind, Async.bind]
      split
      · trivial
      · rename_i row _
        exact rest row _

theorem login_lawful (password : Password) (ctx : AuthContext) :
    Lawful (LoginMay config email ctx.ip) [] (login config email password ctx) := by
  unfold login isLockedOut
  refine lawful_call (may_aside rfl) fun now => ?_
  have counts : ∀ past : Past, ⟨.now, .ok now⟩ ∈ past → ∀ address source,
      LoginMay config email ctx.ip past (.countRecentFailedAttempts address source (now - config.windowMs)) :=
    fun past read _ _ => ⟨now, read, rfl⟩
  refine ⟨counts _ (by simp) _ _, fun reply => ?_⟩
  cases reply with
  | error => trivial
  | ok pairFailures =>
    refine ⟨counts _ (by simp) _ _, fun reply => ?_⟩
    cases reply with
    | error => trivial
    | ok emailFailures =>
      refine ⟨counts _ (by simp) _ _, fun reply => ?_⟩
      cases reply with
      | error => trivial
      | ok ipFailures =>
        dsimp only [bind, Async.bind, pure]
        split
        · trivial
        · rename_i passed
          exact afterLockout_lawful fun found dimension includes => isOpen_login passed includes

theorem isRequest_lawful (pid : ℕ) (program : AuthM Response) (request : IsRequest config requests pid program) :
    Lawful (May config requests pid) [] program := by
  rw [request]
  cases isLogin : requests pid with
  | login email password ctx =>
    have may : May config requests pid = LoginMay config email ctx.ip := by
      funext past call
      rw [May, isLogin]
    rw [may]
    exact lawful_bind (login_lawful password ctx) fun _ _ => trivial
  | _ => exact lawful_any (fun past call => by rw [May, isLogin]; trivial) _

/-! ## The failures -/

variable {s s' : Store} {x : History} {pid : ℕ} {call : AuthCall} {reply : Except Failure call.Reply}

/-- The attempts were not touched. -/
def Kept (s s' : Store) : Prop := s'.tables.loginAttempts = s.tables.loginAttempts

theorem createUser_kept {verified : Option Time} {row : UserId × User}
    (ok : createUser pid email verified s = .ok (row, s')) : Kept s s' := by
  unfold createUser at ok
  split at ok
  · cases ok
  · cases ok
    rfl

theorem linkOAuthAccount_kept {userId : UserId} {sub : Text}
    (ok : linkOAuthAccount userId sub s = .ok ((), s')) : Kept s s' := by
  simp only [linkOAuthAccount, except_bind_ok] at ok
  obtain ⟨links, -, ok⟩ := ok
  cases ok
  rfl

theorem linkFederatedIdentity_kept {userId : UserId} {provider : FederatedProvider} {subject : Text}
    (ok : linkFederatedIdentity userId provider subject s = .ok ((), s')) : Kept s s' := by
  simp only [linkFederatedIdentity, except_bind_ok] at ok
  obtain ⟨links, -, ok⟩ := ok
  cases ok
  rfl

theorem modifyUser_kept {userId : UserId} {change : User → User}
    (ok : modifyUser userId change s = .ok ((), s')) : Kept s s' := by
  unfold modifyUser at ok
  split at ok
  · cases ok
    rfl
  · cases ok

theorem modifyOtp_kept {otpId : ℕ} {change : EmailOtp → EmailOtp} {otp : EmailOtp}
    (ok : modifyOtp otpId change s = .ok (otp, s')) : Kept s s' := by
  unfold modifyOtp at ok
  split at ok
  · cases ok
    rfl
  · cases ok

theorem createSession_kept {userId : UserId} {expiresAt : Time} {token : RefreshToken}
    (ok : createSession pid userId expiresAt s = .ok (token, s')) : Kept s s' := by
  unfold createSession at ok
  split at ok
  · cases ok
  · cases ok
    rfl

/-- A write that fails leaves everything. -/
theorem written_kept {α : Type} {result : Except Failure (α × Store)} {reply : Except Failure α}
    (kept : ∀ value s', result = .ok (value, s') → Kept s s')
    (ran : Database.written s result = (reply, s')) : Kept s s' := by
  rcases Database.written_cases ran with ⟨value, -, wrote⟩ | ⟨-, rfl⟩
  · exact kept value s' wrote
  · rfl

/-- The calls that may touch the attempts. -/
def writesAttempts : AuthCall → Bool
  | .recordLoginAttempt _ _ _ => true
  | .elsewhere => true
  | _ => false

theorem act_kept {world : World} (ran : act world pid call s = (reply, s'))
    (other : writesAttempts call = false) : Kept s s' := by
  cases call with
  | elsewhere | recordLoginAttempt => cases other
  | createUser email => exact written_kept (fun _ _ => createUser_kept) ran
  | createUserWithOAuth email sub =>
    refine written_kept (fun row s'' wrote => ?_) ran
    simp only [except_bind_ok] at wrote
    obtain ⟨⟨row, s₁⟩, created, ⟨_, s₂⟩, linked, same⟩ := wrote
    cases same
    exact (linkOAuthAccount_kept linked).trans (createUser_kept created)
  | createUserWithFederatedIdentity email provider subject =>
    refine written_kept (fun row s'' wrote => ?_) ran
    simp only [except_bind_ok] at wrote
    obtain ⟨⟨row, s₁⟩, created, ⟨_, s₂⟩, linked, same⟩ := wrote
    cases same
    exact (linkFederatedIdentity_kept linked).trans (createUser_kept created)
  | updatePassword => exact written_kept (fun _ _ => modifyUser_kept) ran
  | linkOAuthAccount => exact written_kept (fun _ _ => linkOAuthAccount_kept) ran
  | linkFederatedIdentity => exact written_kept (fun _ _ => linkFederatedIdentity_kept) ran
  | incrementAttempts | markUsed => exact written_kept (fun _ _ => modifyOtp_kept) ran
  | createSession => exact written_kept (fun _ _ => createSession_kept) ran
  | rotateSessionAtomic id expected sub fid expiresAt =>
    simp only [act, rotateSessionAtomic] at ran
    split at ran
    · cases ran
      rfl
    · cases ran
      rfl
  | _ =>
    cases ran
    rfl

/-- An attempt that is recorded is the one change to the attempts. -/
theorem attempts_of_makes (makes : Makes pid call s reply s') (elsewhere : call = .elsewhere → Kept s s') :
    Kept s s' ∧ recorder (pid, ⟨call, reply⟩) = none ∨
      ∃ email ip success, call = .recordLoginAttempt email ip success ∧ recorder (pid, ⟨call, reply⟩) = some pid ∧
        s'.tables.loginAttempts = ⟨email, ip, success, s'.now⟩ :: s.tables.loginAttempts := by
  rcases makes with ⟨world, ran⟩ | ⟨⟨failure, -, rfl⟩, rfl⟩
  · have acted : act world pid call { s with now := max s.now world.now } = (reply, s') := ran
    cases call with
    | recordLoginAttempt email ip success =>
      cases acted
      exact .inr ⟨email, ip, success, rfl, rfl, rfl⟩
    | elsewhere => exact .inl ⟨elsewhere rfl, rfl⟩
    | _ =>
      have kept := act_kept acted (by rfl)
      exact .inl ⟨kept, rfl⟩
  · refine .inl ⟨rfl, ?_⟩
    cases call <;> rfl

theorem makes_count {address source : Option Text} {since : Time} {count : ℕ}
    (makes : Makes pid (.countRecentFailedAttempts address source since) s (.ok count) s') :
    count = countRecentFailedAttempts s address source since ∧ s'.tables = s.tables := by
  rcases makes with ⟨world, ran⟩ | ⟨⟨failure, -, same⟩, -⟩
  · cases ran
    exact ⟨rfl, rfl⟩
  · cases same

/-! ## Logins under way -/

theorem clears_cases {made : Answered AuthCall AuthCall.Reply Failure} (clears : dimension.clears config made) :
    ∃ (address source : Option Text) (since : Time) (count : ℕ), made = ⟨.countRecentFailedAttempts address source since, .ok count⟩ ∧
      count < dimension.limit config ∧ dimension.asks address source := by
  unfold Dimension.clears at clears
  split at clears
  · rw [Bool.and_eq_true, decide_eq_true_eq] at clears
    exact ⟨_, _, _, _, rfl, clears⟩
  · cases clears

/-- What has been refused stays so. -/
theorem isRefused_cons {made : Answered AuthCall AuthCall.Reply Failure} (refused : isRefused config past) :
    isRefused config (made :: past) := by
  have grown : ∃ more, counted (made :: past) = counted past ++ more := by
    rw [counted, List.reverse_cons, List.filterMap_append]
    exact ⟨_, rfl⟩
  obtain ⟨more, same⟩ := grown
  unfold isRefused at refused ⊢
  rw [same]
  split at refused
  · rename_i shape
    rw [shape]
    exact refused
  · cases refused

/-- Only an answer that clears a login makes it one that is under way. -/
theorem isOpen_of_cons {made : Answered AuthCall AuthCall.Reply Failure}
    (unclear : dimension.clears config made = false) (isOpen' : isOpen config dimension (made :: past)) :
    isOpen config dimension past := by
  simp only [isOpen, List.any_cons, List.all_cons, Bool.and_eq_true, Bool.or_eq_true, unclear, Bool.false_eq_true,
    false_or, Bool.not_eq_true'] at isOpen' ⊢
  refine ⟨⟨isOpen'.1.1, isOpen'.1.2.2⟩, ?_⟩
  by_contra refused
  have still : isRefused config (made :: past) := isRefused_cons (by simpa using refused)
  cases still.symm.trans isOpen'.2

theorem mem_openLogins : pid ∈ openLogins config requests dimension x ↔
    isPasswordLogin (requests pid) ∧ isOpen config dimension (x.past pid) := by
  rw [openLogins, Finset.mem_filter, Bool.and_eq_true, and_iff_right_iff_imp]
  rintro ⟨-, isOpen'⟩
  simp only [isOpen, Bool.and_eq_true, List.any_eq_true] at isOpen'
  obtain ⟨⟨⟨made, member, -⟩, -⟩, -⟩ := isOpen'
  exact List.mem_toFinset.mpr (List.mem_map.mpr ⟨_, Logged.mem_past.mp member, rfl⟩)

theorem login_of_isPasswordLogin {request : Request} (isLogin : isPasswordLogin request) :
    ∃ email password ctx, request = .login email password ctx := by
  cases request with
  | login email password ctx => exact ⟨email, password, ctx, rfl⟩
  | _ => cases isLogin

/-- A call that lets no login pass adds none to those under way. -/
theorem openLogins_subset {made : Answered AuthCall AuthCall.Reply Failure}
    (unclear : isPasswordLogin (requests pid) → dimension.clears config made = false) :
    openLogins config requests dimension ⟨s', (pid, made) :: x.history⟩ ⊆ openLogins config requests dimension x := by
  intro other member
  obtain ⟨isLogin, isOpen'⟩ := mem_openLogins.mp member
  refine mem_openLogins.mpr ⟨isLogin, ?_⟩
  rw [Logged.past_made] at isOpen'
  split at isOpen'
  · rename_i same
    subst same
    exact isOpen_of_cons (unclear isLogin) isOpen'
  · exact isOpen'

/-- A login that records its attempt is no longer under way. -/
theorem openLogins_record {made : Answered AuthCall AuthCall.Reply Failure} (isRecord' : isRecord made)
    (unclear : dimension.clears config made = false) (isLogin : isPasswordLogin (requests pid))
    (wasOpen : isOpen config dimension (x.past pid)) :
    (openLogins config requests dimension ⟨s', (pid, made) :: x.history⟩).card + 1 ≤
      (openLogins config requests dimension x).card := by
  have own : pid ∈ openLogins config requests dimension x := mem_openLogins.mpr ⟨isLogin, wasOpen⟩
  rw [← Finset.card_erase_add_one own]
  refine Nat.add_le_add_right (Finset.card_le_card fun other member => ?_) 1
  refine Finset.mem_erase.mpr ⟨?_, openLogins_subset (fun _ => unclear) member⟩
  rintro rfl
  have stillOpen := (mem_openLogins.mp member).2
  rw [Logged.past_self] at stillOpen
  simp [isOpen, isRecord'] at stillOpen

/-! ## Failures -/

theorem countP_zip_le {α β : Type} (rows : List α) (others : List β) (p : α × β → Bool) (q : α → Bool)
    (le : ∀ row other, p (row, other) → q row) : (rows.zip others).countP p ≤ rows.countP q := by
  induction rows generalizing others with
  | nil => simp
  | cons row rows ih =>
    cases others with
    | nil => simp
    | cons other others =>
      rw [List.zip_cons_cons, List.countP_cons, List.countP_cons]
      have tail := ih others
      by_cases holds : p (row, other)
      · rw [if_pos holds, if_pos (le row other holds)]
        omega
      · rw [if_neg holds]
        omega

/-- A count that the dimension asks for finds every failure of the dimension. -/
theorem failures_le_count {address source : Option Text} {since : Time}
    (asks : dimension.asks address source) (fresh : since ≤ x.store.now - config.windowMs) :
    failures config requests dimension x ≤ countRecentFailedAttempts x.store address source since := by
  refine countP_zip_le _ _ _ _ ?_
  intro attempt pid isFailure
  simp only [Dimension.failed, Bool.and_eq_true, Bool.not_eq_true', decide_eq_true_eq] at isFailure
  obtain ⟨-, ⟨includes, failed⟩, recent⟩ := isFailure
  have inWindow : since ≤ attempt.createdAt := fresh.trans recent
  cases dimension with
  | pair owner origin =>
    simp only [Dimension.asks, Dimension.includes, Bool.and_eq_true, decide_eq_true_eq, Option.map_eq_some_iff]
      at asks includes
    obtain ⟨⟨email, rfl, same⟩, rfl⟩ := asks
    simp [failed, inWindow, includes, same]
  | email owner =>
    simp only [Dimension.asks, Dimension.includes, Bool.and_eq_true, decide_eq_true_eq, Option.map_eq_some_iff]
      at asks includes
    obtain ⟨⟨email, rfl, same⟩, rfl⟩ := asks
    simp [failed, inWindow, includes, same]
  | ip origin =>
    simp only [Dimension.asks, Dimension.includes, Bool.and_eq_true, decide_eq_true_eq] at asks includes
    obtain ⟨rfl, rfl⟩ := asks
    simp [failed, inWindow, includes]

/-- Failures leave the window with time. -/
theorem failures_later (later : x.store.now ≤ s'.now) :
    (x.store.tables.loginAttempts.zip (recorders x)).countP (fun (attempt, pid) =>
      isPasswordLogin (requests pid) && dimension.failed (s'.now - config.windowMs) attempt) ≤
      failures config requests dimension x := by
  refine List.countP_mono_left ?_
  rintro ⟨attempt, pid⟩ - isFailure
  simp only [Dimension.failed, Bool.and_eq_true, Bool.not_eq_true', decide_eq_true_eq] at isFailure ⊢
  exact ⟨isFailure.1, isFailure.2.1, (Nat.sub_le_sub_right later _).trans isFailure.2.2⟩

/-- What the limits promise: the failures of the dimension, with the logins that
may still fail, exceed what the limit lets pass by no more than `width`. -/
structure Bounded (config : Config) (requests : ℕ → Request) (dimension : Dimension) (width : ℕ) (x : History) :
    Prop where
  clock : ∀ pid now, (pid, ⟨.now, .ok now⟩) ∈ x.history → now ≤ x.store.now
  bound : failures config requests dimension x + (openLogins config requests dimension x).card ≤
    dimension.limit config - 1 + width

variable {width : ℕ}

theorem Bounded.step (bounded : Bounded config requests dimension width x)
    (may : May config requests pid (x.past pid) call)
    (made : together config requests dimension width pid call x reply s') :
    Bounded config requests dimension width ⟨s', (pid, ⟨call, reply⟩) :: x.history⟩ := by
  obtain ⟨makes, elsewhere, fits⟩ := made
  have later := makes.clock
  refine ⟨fun other now member => ?_, ?_⟩
  · rcases List.mem_cons.mp member with isLast | before
    · cases isLast
      rcases makes with ⟨world, ran⟩ | ⟨⟨failure, -, lost⟩, -⟩
      · cases ran
        exact le_refl _
      · cases lost
    · exact (bounded.clock other now before).trans later
  have before := bounded.bound
  by_cases cleared : isPasswordLogin (requests pid) ∧ dimension.clears config ⟨call, reply⟩
  · -- the count that lets a login pass has seen all failures, and they are fewer than the limit
    obtain ⟨isLogin, clears⟩ := cleared
    obtain ⟨address, source, since, count, same, under, asks⟩ := clears_cases clears
    cases same
    obtain ⟨counted, tables⟩ := makes_count makes
    obtain ⟨email, password, ctx, isRequest⟩ := login_of_isPasswordLogin isLogin
    rw [May, isRequest] at may
    obtain ⟨now, read, rfl⟩ := may
    have clock := (bounded.clock pid now (Logged.mem_past.mp read)).trans later
    have found : failures config requests dimension
        ⟨s', (pid, ⟨.countRecentFailedAttempts address source (now - config.windowMs), .ok count⟩) :: x.history⟩ ≤
        count := by
      refine (failures_le_count asks (Nat.sub_le_sub_right clock _)).trans ?_
      rw [counted, countRecentFailedAttempts, countRecentFailedAttempts]
      exact le_of_eq (by rw [tables])
    omega
  · have unclear : isPasswordLogin (requests pid) → dimension.clears config ⟨call, reply⟩ = false := fun isLogin =>
      Bool.eq_false_of_not_eq_true fun clears => cleared ⟨isLogin, clears⟩
    have fewer : (openLogins config requests dimension ⟨s', (pid, ⟨call, reply⟩) :: x.history⟩).card ≤
        (openLogins config requests dimension x).card := Finset.card_le_card (openLogins_subset unclear)
    have left : (x.store.tables.loginAttempts.zip (recorders x)).countP (fun (attempt, pid) =>
        isPasswordLogin (requests pid) && dimension.failed (s'.now - config.windowMs) attempt) ≤
        failures config requests dimension x := failures_later later
    rcases attempts_of_makes makes elsewhere with ⟨kept, none⟩ | ⟨address, source, success, rfl, some, grown⟩
    · have same : failures config requests dimension ⟨s', (pid, ⟨call, reply⟩) :: x.history⟩ ≤
          failures config requests dimension x := by
        refine le_trans (le_of_eq ?_) left
        rw [failures, recorders, List.filterMap_cons, none, ← recorders]
        dsimp only
        rw [kept]
      omega
    · have row : failures config requests dimension
          ⟨s', (pid, ⟨.recordLoginAttempt address source success, reply⟩) :: x.history⟩ ≤
          failures config requests dimension x +
            if isPasswordLogin (requests pid) && dimension.includes address source then 1 else 0 := by
        rw [failures, recorders, List.filterMap_cons, some, ← recorders]
        dsimp only
        rw [grown, List.zip_cons_cons, List.countP_cons]
        refine Nat.add_le_add left ?_
        by_cases isFailure : isPasswordLogin (requests pid) && dimension.includes address source
        · rw [if_pos isFailure]
          split <;> omega
        · rw [if_neg isFailure, if_neg]
          intro counts
          simp only [Dimension.failed, Bool.and_eq_true] at counts isFailure
          exact isFailure ⟨counts.1, counts.2.1.1⟩
      by_cases isFailure : isPasswordLogin (requests pid) && dimension.includes address source
      · obtain ⟨isLogin, includes⟩ := (Bool.and_eq_true_iff.mp isFailure)
        obtain ⟨email, password, ctx, isRequest⟩ := login_of_isPasswordLogin isLogin
        rw [May, isRequest] at may
        obtain ⟨rfl, rfl, passed⟩ := may
        have closed : (openLogins config requests dimension
            ⟨s', (pid, ⟨.recordLoginAttempt address ctx.ip success, reply⟩) :: x.history⟩).card + 1 ≤
            (openLogins config requests dimension x).card :=
          openLogins_record rfl (unclear isLogin) isLogin (passed dimension includes)
        rw [if_pos isFailure] at row
        omega
      · rw [if_neg isFailure] at row
        omega

/-- In every run in which at most `width` password logins of a dimension are
under way at a time, the failed ones that the window holds exceed the limit by
less than `width`: with one at a time the limit itself is the bound. -/
theorem lockout_bounds {pool : AuthPool}
    (run : Logged.Run (together config requests dimension width) (IsRequest config requests) Unattempted pool) :
    failures config requests dimension pool.store ≤ dimension.limit config - 1 + width := by
  have bounded : Bounded config requests dimension width pool.store := by
    refine run.inv isRequest_lawful (fun s unattempted => ⟨(fun _ _ member => by cases member), ?_⟩)
      fun _ _ _ _ _ bounded => bounded.step
    have noRows : failures config requests dimension ⟨s, []⟩ = 0 := by
      rw [failures, unattempted]
      rfl
    have none : openLogins config requests dimension (⟨s, []⟩ : History) = ∅ := rfl
    rw [noRows, none, Finset.card_empty]
    exact Nat.zero_le _
  exact (Nat.le_add_right _ _).trans bounded.bound

/-- Requests that guess the password of one address from one IP. -/
def guesses (_ : ℕ) : Request := .login ['a'] 7 ⟨some ['1'], false⟩

/-- Six guesses one after another: five are compared, the sixth is refused. -/
theorem lockout_bounds_in_turn : ∃ x : History, failures smallConfig guesses (.pair ['a'] ['1']) x = 5 ∧
    failures smallConfig guesses (.pair ['a'] ['1']) x ≤ Dimension.limit smallConfig (.pair ['a'] ['1']) - 1 + 1 := by
  let allows pid call (x : History) (reply : Except Failure (AuthCall.Reply call)) : Bool :=
    call ≠ .elsewhere && (openLogins smallConfig guesses (.pair ['a'] ['1'])
      ⟨x.store, (pid, ⟨call, reply⟩) :: x.history⟩).card ≤ 1
  have played : (schedule smallConfig (fun _ => worldAt 10 (tablesWith 1 (plainUser 8))) (fun _ _ => false) allows
      guesses [1, 2, 3, 4, 5, 6] [(1, 10), (2, 10), (3, 10), (4, 10), (5, 10), (6, 10)]
      (storeWith 1 (plainUser 8))).map (fun pool =>
        failures smallConfig guesses (.pair ['a'] ['1']) pool.store) = some 5 := by decide +kernel
  obtain ⟨pool, scheduled, five⟩ := Option.map_eq_some_iff.mp played
  have unattempted : Unattempted (storeWith 1 (plainUser 8)) := rfl
  refine ⟨pool.store, five, lockout_bounds (schedule_run unattempted (fun pid call x reply s' allowed makes => ?_)
    scheduled)⟩
  obtain ⟨other, fits⟩ := Bool.and_eq_true_iff.mp allowed
  exact ⟨makes, fun elsewhere => absurd elsewhere (by simpa using other), of_decide_eq_true fits⟩

end Exchange.Auth.Lockout
