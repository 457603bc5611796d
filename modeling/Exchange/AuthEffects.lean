import Exchange.AuthProviderRules

/-! What the calls of authentication do to the sessions. A session is created
once, under the number of its request; its token is swapped, or it is revoked,
and it is never taken out. -/
namespace Exchange.Auth
open Ledger (UserId)
open Service

variable {pid : ℕ} {s s' : Store} {call : AuthCall} {reply : Except Failure call.Reply}
  {made : Answered AuthCall AuthCall.Reply Failure} {id : SessionId} {session : AuthSession}

/-- The sessions a call revokes. -/
def AuthCall.revokes : AuthCall → SessionId → AuthSession → Bool
  | .revokeSessions ids, id, _ => id ∈ ids
  | .revokeFamily familyId, _, session => session.familyId = familyId && session.revokedAt.isNone
  | .revokeSession other, id, session => id = other && session.revokedAt.isNone
  | .revokeSessionForUser userId other, id, session =>
    id = other && session.userId = userId && session.revokedAt.isNone
  | _, _, _ => false

def AuthCall.isRevocation : AuthCall → Bool
  | .revokeSessions _ => true
  | .revokeFamily _ => true
  | .revokeSession _ => true
  | .revokeSessionForUser _ _ => true
  | _ => false

/-- The first token of a session, which is known by the number of its request. -/
def firstToken (userId : UserId) (pid : ℕ) : RefreshToken := ⟨userId, pid, pid, pid⟩

/-- What a call did to the sessions, by its answer. -/
inductive Effect (pid : ℕ) (s : Store) : Answered AuthCall AuthCall.Reply Failure → Store → Prop
  | created {userId : UserId} {expiresAt : Time} {s' : Store} (fresh : s.sessions.lookup pid = none)
      (sessions : s'.sessions = s.sessions.insert pid ⟨userId, firstToken userId pid, pid, expiresAt, none⟩) :
      Effect pid s ⟨.createSession userId expiresAt, .ok (firstToken userId pid)⟩ s'
  | others {userId : UserId} {exceptSessionId : SessionId} {s' : Store} (sessions : s'.sessions = s.sessions) :
      Effect pid s
        ⟨.findOtherActiveSessions userId exceptSessionId, .ok (findOtherActiveSessions s' userId exceptSessionId)⟩ s'
  | unrevoked {userId : UserId} {exceptSessionId : Option SessionId} {s' : Store}
      (sessions : s'.sessions = s.sessions) :
      Effect pid s
        ⟨.findUnrevokedSessions userId exceptSessionId, .ok (findUnrevokedSessions s userId exceptSessionId)⟩ s'
  | rotated {id : SessionId} {expected : RefreshToken} {sub : UserId} {fid : FamilyId} {expiresAt : Time}
      {session : AuthSession} {s' : Store} (found : s.sessions.lookup id = some session)
      (held : session.refreshHash = expected) (unrevoked : session.revokedAt = none)
      (sessions : s'.sessions = s.sessions.insert id { session with refreshHash := ⟨sub, id, fid, pid⟩, expiresAt }) :
      Effect pid s ⟨.rotateSessionAtomic id expected sub fid expiresAt, .ok (1, ⟨sub, id, fid, pid⟩)⟩ s'
  | stale {id : SessionId} {expected : RefreshToken} {sub : UserId} {fid : FamilyId} {expiresAt : Time}
      {token : RefreshToken} {s' : Store} (sessions : s'.sessions = s.sessions) :
      Effect pid s ⟨.rotateSessionAtomic id expected sub fid expiresAt, .ok (0, token)⟩ s'
  | revoked {call : AuthCall} {value : call.Reply} {s' : Store} (isRevocation : call.isRevocation)
      (revoked : ∀ id session, s.sessions.lookup id = some session → ∃ revokedAt,
        s'.sessions.lookup id = some { session with revokedAt } ∧
          (revokedAt = session.revokedAt ∧ call.revokes id session = false ∨
            revokedAt ≠ none ∧ call.revokes id session))
      (none : ∀ id, s.sessions.lookup id = none → s'.sessions.lookup id = none) :
      Effect pid s ⟨call, .ok value⟩ s'
  | neutral {call : AuthCall} {reply : Except Failure call.Reply} {s' : Store} (neutral : call.isNeutral)
      (read : ∀ id found, (⟨call, reply⟩ : Answered AuthCall AuthCall.Reply Failure) =
        ⟨.findSessionById id, .ok found⟩ → s.sessions.lookup id = found)
      (sessions : s'.sessions = s.sessions) : Effect pid s ⟨call, reply⟩ s'
  | failed {call : AuthCall} {failure : Failure} {s' : Store} (sessions : s'.sessions = s.sessions) :
      Effect pid s ⟨call, .error failure⟩ s'

/-- Neither the sessions nor the clock were touched. -/
def Apart (s s' : Store) : Prop := s'.sessions = s.sessions ∧ s'.now = s.now

theorem Apart.trans {s₁ s₂ s₃ : Store} (first : Apart s₁ s₂) (second : Apart s₂ s₃) : Apart s₁ s₃ :=
  ⟨second.1.trans first.1, second.2.trans first.2⟩

theorem createUser_apart {email : Text} {verified : Option Time} {row : UserId × User}
    (ok : createUser pid email verified s = .ok (row, s')) : Apart s s' := by
  unfold createUser at ok
  split at ok
  · cases ok
  · cases ok
    exact ⟨rfl, rfl⟩

theorem linkOAuthAccount_apart {userId : UserId} {sub : Text}
    (ok : linkOAuthAccount userId sub s = .ok ((), s')) : Apart s s' := by
  simp only [linkOAuthAccount, except_bind_ok] at ok
  obtain ⟨links, -, ok⟩ := ok
  cases ok
  exact ⟨rfl, rfl⟩

theorem linkFederatedIdentity_apart {userId : UserId} {provider : FederatedProvider} {subject : Text}
    (ok : linkFederatedIdentity userId provider subject s = .ok ((), s')) : Apart s s' := by
  simp only [linkFederatedIdentity, except_bind_ok] at ok
  obtain ⟨links, -, ok⟩ := ok
  cases ok
  exact ⟨rfl, rfl⟩

theorem modifyUser_apart {userId : UserId} {change : User → User}
    (ok : modifyUser userId change s = .ok ((), s')) : Apart s s' := by
  unfold modifyUser at ok
  split at ok
  · cases ok
    exact ⟨rfl, rfl⟩
  · cases ok

theorem modifyOtp_apart {otpId : ℕ} {change : EmailOtp → EmailOtp} {otp : EmailOtp}
    (ok : modifyOtp otpId change s = .ok (otp, s')) : Apart s s' := by
  unfold modifyOtp at ok
  split at ok
  · cases ok
    exact ⟨rfl, rfl⟩
  · cases ok

/-- Calls that leave sessions alone do. -/
theorem act_apart {world : World} (neutral : call.isNeutral) (ran : act world pid call s = (reply, s')) :
    Apart s s' := by
  cases call with
  | createSession | findOtherActiveSessions | findUnrevokedSessions | revokeSessions => cases neutral
  | rotateSessionAtomic | revokeFamily | revokeSession | revokeSessionForUser => cases neutral
  | createUser email =>
    rcases Database.written_cases ran with ⟨value, -, wrote⟩ | ⟨-, rfl⟩
    · exact createUser_apart wrote
    · exact ⟨rfl, rfl⟩
  | createUserWithOAuth email sub =>
    rcases Database.written_cases ran with ⟨value, -, wrote⟩ | ⟨-, rfl⟩
    · simp only [except_bind_ok] at wrote
      obtain ⟨⟨row, s₁⟩, created, ⟨_, s₂⟩, linked, same⟩ := wrote
      cases same
      exact (createUser_apart created).trans (linkOAuthAccount_apart linked)
    · exact ⟨rfl, rfl⟩
  | createUserWithFederatedIdentity email provider subject =>
    rcases Database.written_cases ran with ⟨value, -, wrote⟩ | ⟨-, rfl⟩
    · simp only [except_bind_ok] at wrote
      obtain ⟨⟨row, s₁⟩, created, ⟨_, s₂⟩, linked, same⟩ := wrote
      cases same
      exact (createUser_apart created).trans (linkFederatedIdentity_apart linked)
    · exact ⟨rfl, rfl⟩
  | updatePassword userId password =>
    rcases Database.written_cases ran with ⟨value, -, wrote⟩ | ⟨-, rfl⟩
    · exact modifyUser_apart wrote
    · exact ⟨rfl, rfl⟩
  | linkOAuthAccount userId sub =>
    rcases Database.written_cases ran with ⟨value, -, wrote⟩ | ⟨-, rfl⟩
    · exact linkOAuthAccount_apart wrote
    · exact ⟨rfl, rfl⟩
  | linkFederatedIdentity userId provider subject =>
    rcases Database.written_cases ran with ⟨value, -, wrote⟩ | ⟨-, rfl⟩
    · exact linkFederatedIdentity_apart wrote
    · exact ⟨rfl, rfl⟩
  | incrementAttempts otpId =>
    rcases Database.written_cases ran with ⟨value, -, wrote⟩ | ⟨-, rfl⟩
    · exact modifyOtp_apart wrote
    · exact ⟨rfl, rfl⟩
  | markUsed otpId =>
    rcases Database.written_cases ran with ⟨value, -, wrote⟩ | ⟨-, rfl⟩
    · exact modifyOtp_apart wrote
    · exact ⟨rfl, rfl⟩
  | _ =>
    cases ran
    exact ⟨rfl, rfl⟩

theorem createSession_ok {userId : UserId} {expiresAt : Time} {token : RefreshToken}
    (ok : createSession pid userId expiresAt s = .ok (token, s')) :
    s.sessions.lookup pid = none ∧ token = firstToken userId pid ∧
      s'.sessions = s.sessions.insert pid ⟨userId, firstToken userId pid, pid, expiresAt, none⟩ := by
  unfold createSession at ok
  split at ok
  · cases ok
  · rename_i fresh
    cases ok
    exact ⟨by simpa using fresh, rfl, rfl⟩

/-- Rows that match are revoked, others are as before. -/
theorem lookup_revoke {isRevoked : SessionId → AuthSession → Bool} (found : s.sessions.lookup id = some session) :
    ∃ revokedAt, (s.revoke isRevoked).sessions.lookup id = some { session with revokedAt } ∧
      (revokedAt = session.revokedAt ∧ isRevoked id session = false ∨
        revokedAt ≠ none ∧ isRevoked id session) := by
  have mapped : (s.revoke isRevoked).sessions.lookup id =
      some (if isRevoked id session then { session with revokedAt := some s.now } else session) := by
    rw [Store.revoke, Table.lookup_mapRows, found]
    rfl
  cases isMatch : isRevoked id session with
  | false =>
    rw [isMatch] at mapped
    exact ⟨session.revokedAt, mapped, .inl ⟨rfl, rfl⟩⟩
  | true =>
    rw [isMatch] at mapped
    exact ⟨some s.now, mapped, .inr ⟨by simp, rfl⟩⟩

theorem lookup_revoke_none {isRevoked : SessionId → AuthSession → Bool} (missing : s.sessions.lookup id = none) :
    (s.revoke isRevoked).sessions.lookup id = none := by
  rw [Store.revoke, Table.lookup_mapRows, missing]
  rfl

theorem perform_effect {world : World} (ran : perform world pid call s = (reply, s')) :
    Effect pid s ⟨call, reply⟩ s' := by
  cases isNeutral : call.isNeutral with
  | true =>
    refine .neutral isNeutral (fun id found same => ?_) (act_apart isNeutral ran).1
    cases same
    cases ran
    rfl
  | false =>
    cases call with
    | createSession userId expiresAt =>
      rcases Database.written_cases ran with ⟨token, rfl, wrote⟩ | ⟨⟨failure, rfl, -⟩, rfl⟩
      · obtain ⟨fresh, rfl, sessions⟩ := createSession_ok wrote
        exact .created fresh sessions
      · exact .failed rfl
    | findOtherActiveSessions userId exceptSessionId =>
      cases ran
      exact .others rfl
    | findUnrevokedSessions userId exceptSessionId =>
      cases ran
      exact .unrevoked rfl
    | rotateSessionAtomic id expected sub fid expiresAt =>
      simp only [perform, act, rotateSessionAtomic] at ran
      split at ran
      · rename_i session isFound
        obtain ⟨found, holds⟩ := Option.filter_eq_some_iff.mp isFound
        simp only [Bool.and_eq_true, decide_eq_true_eq, Option.isNone_iff_eq_none] at holds
        cases ran
        exact .rotated found holds.1 holds.2 rfl
      · cases ran
        exact .stale rfl
    | revokeSessions | revokeFamily | revokeSession | revokeSessionForUser =>
      cases ran
      exact .revoked rfl (fun id session found => lookup_revoke found) fun id missing =>
        lookup_revoke_none missing
    | _ => cases isNeutral

/-- Every call has one of these effects. -/
theorem Makes.effect (makes : Makes pid call s reply s') : Effect pid s ⟨call, reply⟩ s' := by
  rcases makes with ⟨world, ran⟩ | ⟨⟨failure, -, rfl⟩, rfl⟩
  · exact perform_effect ran
  · exact .failed rfl

theorem act_clock {world : World} (ran : act world pid call s = (reply, s')) : s'.now = s.now := by
  cases isNeutral : call.isNeutral with
  | true => exact (act_apart isNeutral ran).2
  | false =>
    cases call with
    | createSession userId expiresAt =>
      rcases Database.written_cases ran with ⟨token, -, wrote⟩ | ⟨-, rfl⟩
      · unfold createSession at wrote
        split at wrote
        · cases wrote
        · cases wrote
          rfl
      · rfl
    | rotateSessionAtomic id expected sub fid expiresAt =>
      simp only [act, rotateSessionAtomic] at ran
      split at ran
      · cases ran
        rfl
      · cases ran
        rfl
    | findOtherActiveSessions | findUnrevokedSessions =>
      cases ran
      rfl
    | revokeSessions | revokeFamily | revokeSession | revokeSessionForUser =>
      cases ran
      rfl
    | _ => cases isNeutral

/-- The clock does not go back. -/
theorem Makes.clock (makes : Makes pid call s reply s') : s.now ≤ s'.now := by
  rcases makes with ⟨world, ran⟩ | ⟨-, rfl⟩
  · rw [act_clock ran]
    exact le_max_left _ _
  · exact le_rfl

/-! ## Rows -/

/-- How a session row came to be what it is after a call. -/
inductive Row (pid : ℕ) (made : Answered AuthCall AuthCall.Reply Failure) (id : SessionId)
    (before : Option AuthSession) : AuthSession → Prop
  | created {userId : UserId} {expiresAt : Time} (own : id = pid) (fresh : before = none)
      (isMade : made = ⟨.createSession userId expiresAt, .ok (firstToken userId pid)⟩) :
      Row pid made id before ⟨userId, firstToken userId pid, pid, expiresAt, none⟩
  | rotated {row : AuthSession} {sub : UserId} {fid : FamilyId} {expiresAt : Time} (found : before = some row)
      (unrevoked : row.revokedAt = none)
      (isMade : made = ⟨.rotateSessionAtomic id row.refreshHash sub fid expiresAt, .ok (1, ⟨sub, id, fid, pid⟩)⟩) :
      Row pid made id before { row with refreshHash := ⟨sub, id, fid, pid⟩, expiresAt }
  | revoked {row : AuthSession} {revokedAt : Option Time} (found : before = some row) (isRevoked : revokedAt ≠ none)
      (isRevocation : made.call.isRevocation) (revokes : made.call.revokes id row) :
      Row pid made id before { row with revokedAt }
  | same {row : AuthSession} (found : before = some row)
      (spared : (∃ value, made.reply = .ok value) → made.call.revokes id row = false) :
      Row pid made id before row

private theorem Row.unchanged (sessions : s'.sessions = s.sessions) (isRevocation : call.isRevocation = false)
    (found : s'.sessions.lookup id = some session) : Row pid ⟨call, reply⟩ id (s.sessions.lookup id) session := by
  rw [sessions] at found
  refine .same found fun _ => ?_
  cases call with
  | revokeSessions | revokeFamily | revokeSession | revokeSessionForUser => cases isRevocation
  | _ => rfl

theorem isRevocation_of_isNeutral (neutral : call.isNeutral) : call.isRevocation = false := by
  cases call with
  | revokeSessions | revokeFamily | revokeSession | revokeSessionForUser => cases neutral
  | _ => rfl

theorem Effect.row (effect : Effect pid s made s') (found : s'.sessions.lookup id = some session) :
    Row pid made id (s.sessions.lookup id) session := by
  cases effect with
  | @created userId expiresAt s' fresh sessions =>
    rw [sessions] at found
    by_cases own : id = pid
    · subst own
      cases (AList.lookup_insert _).symm.trans found
      exact .created rfl fresh rfl
    · exact .same ((AList.lookup_insert_ne own).symm.trans found) fun _ => rfl
  | others sessions => exact Row.unchanged sessions rfl found
  | unrevoked sessions => exact Row.unchanged sessions rfl found
  | @rotated other expected sub fid expiresAt row s' isRow held unrevoked sessions =>
    rw [sessions] at found
    by_cases own : id = other
    · subst own held
      cases (AList.lookup_insert _).symm.trans found
      exact .rotated isRow unrevoked rfl
    · exact .same ((AList.lookup_insert_ne own).symm.trans found) fun _ => rfl
  | stale sessions => exact Row.unchanged sessions rfl found
  | revoked isRevocation revoked missing =>
    cases isRow : s.sessions.lookup id with
    | none => cases found.symm.trans (missing id isRow)
    | some row =>
      obtain ⟨revokedAt, mapped, ⟨rfl, spared⟩ | ⟨isRevoked, revokes⟩⟩ := revoked id row isRow
      · cases mapped.symm.trans found
        exact .same rfl fun _ => spared
      · cases mapped.symm.trans found
        exact .revoked rfl isRevoked isRevocation revokes
  | neutral neutral read sessions => exact Row.unchanged sessions (isRevocation_of_isNeutral neutral) found
  | failed sessions =>
    rw [sessions] at found
    exact .same found fun ⟨_, answered⟩ => nomatch answered

/-- A session is never taken out. -/
theorem Effect.stays (effect : Effect pid s made s') (found : s.sessions.lookup id = some session) :
    ∃ session', s'.sessions.lookup id = some session' := by
  cases effect with
  | created fresh sessions =>
    rw [sessions]
    by_cases own : id = pid
    · subst own
      exact ⟨_, AList.lookup_insert _⟩
    · exact ⟨session, (AList.lookup_insert_ne own).trans found⟩
  | @rotated other expected sub fid expiresAt row s' isRow held unrevoked sessions =>
    rw [sessions]
    by_cases own : id = other
    · subst own
      exact ⟨_, AList.lookup_insert _⟩
    · exact ⟨session, (AList.lookup_insert_ne own).trans found⟩
  | revoked isRevocation revoked missing =>
    obtain ⟨revokedAt, mapped, -⟩ := revoked id session found
    exact ⟨_, mapped⟩
  | others sessions | unrevoked sessions | stale sessions | neutral _ _ sessions | failed sessions =>
    exact ⟨session, by rw [sessions, found]⟩

/-! ## Histories -/

abbrev History := Logged ℕ AuthCall AuthCall.Reply Failure Store

abbrev AuthPool := Pool ℕ AuthCall AuthCall.Reply Failure Response History

def interleaved (pid : ℕ) (call : AuthCall) (x : History) (reply : Except Failure call.Reply) (s' : Store) : Prop :=
  Makes pid call x.store reply s'

/-- No session has been issued yet. -/
def Opening (s : Store) : Prop := s.sessions = ∅

/-! ## Schedules -/

def schedule (config : Config) (worlds : ℕ → World) (isLost : ℕ → AuthCall → Bool)
    (allows : ℕ → (call : AuthCall) → History → Except Failure call.Reply → Bool) (requests : ℕ → Request)
    (arrivals : List ℕ) (turns : List (ℕ × ℕ)) (s : Store) : Option AuthPool :=
  Database.schedule perform worlds isLost allows (fun pid => (requests pid).program config) arrivals turns s

theorem schedule_run {config : Config} {worlds : ℕ → World} {requests : ℕ → Request}
    {isLost : ℕ → AuthCall → Bool} {allows : ℕ → (call : AuthCall) → History → Except Failure call.Reply → Bool}
    {arrivals : List ℕ} {turns : List (ℕ × ℕ)} {pool : AuthPool} {Initial : Store → Prop} {initial : Store}
    {step : ℕ → (call : AuthCall) → History → Except Failure call.Reply → Store → Prop} (isInitial : Initial initial)
    (sound : ∀ pid call x reply s', allows pid call x reply → Makes pid call x.store reply s' →
      step pid call x reply s')
    (played : schedule config worlds isLost allows requests arrivals turns initial = some pool) :
    Logged.Run step (IsRequest config requests) Initial pool :=
  Database.schedule_run isInitial (fun _ => rfl) sound played

def smallConfig : Config where
  maxAttempts := 5
  windowMs := 1000
  requireEmailVerification := false
  allowUnverifiedLogin := true
  requireLoginLocation := false
  googleEnabled := true
  federatedEnabled := true
  refreshTtlMs := 1000
  accessTtlMs := 100
  verifyTotp secret _ code := code = (toString secret).toList

/-- One user, and nothing else. -/
def tablesWith (userId : UserId) (user : User) : Tables where
  users := (∅ : Table UserId User).insert userId user
  loginAttempts := []
  emailOtps := ∅
  recoveryCodes := []
  oauthAccounts := ∅
  federatedIdentities := ∅
  redis := ∅

def storeWith (userId : UserId) (user : User) : Store := ⟨0, tablesWith userId user, ∅⟩

/-- An active user who logs in with a password. -/
def plainUser (password : Password) : User := ⟨['a'], some password, .active, none, some 0, false, none⟩

/-- The identity providers are away, and the rest of the platform does nothing new. -/
def worldAt (now : Time) (tables : Tables) : World :=
  ⟨now, .error (.error "unavailable"), .error (.error "unavailable"), tables⟩

def noContext : AuthContext := ⟨none, false⟩

end Exchange.Auth
