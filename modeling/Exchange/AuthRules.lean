import Exchange.AuthProviders

/-! The rules of authentication: after which answers a request issues a session,
rotates a token or revokes sessions, and how it ends. -/
namespace Exchange.Auth

/-- Calls that leave sessions alone. -/
def AuthCall.isNeutral : AuthCall → Bool
  | .createSession _ _ => false
  | .findOtherActiveSessions _ _ => false
  | .findUnrevokedSessions _ _ => false
  | .revokeSessions _ => false
  | .rotateSessionAtomic _ _ _ _ _ => false
  | .revokeFamily _ => false
  | .revokeSession _ => false
  | .revokeSessionForUser _ _ => false
  | _ => true

namespace Service
open Ledger (UserId)
open Async

/-- The calls a request has made, latest first. -/
abbrev Past := List (Answered AuthCall AuthCall.Reply Failure)

/-- A user who was read. -/
def readUser : Answered AuthCall AuthCall.Reply Failure → Option (UserId × User)
  | ⟨.findUserByEmail _, .ok found⟩ => found
  | ⟨.findUserById id, .ok found⟩ => found.map fun user => (id, user)
  | ⟨.findOAuthAccountWithUser _, .ok found⟩ => found
  | ⟨.findFederatedIdentityWithUser _ _, .ok found⟩ => found
  | _ => none

/-- A user who was created. -/
def newUser : Answered AuthCall AuthCall.Reply Failure → Option (UserId × User)
  | ⟨.createUser _, .ok row⟩ => some row
  | ⟨.createUserWithOAuth _ _, .ok row⟩ => some row
  | ⟨.createUserWithFederatedIdentity _ _ _, .ok row⟩ => some row
  | _ => none

/-- The code was right: one of the authenticator of the user, or a backup code. -/
inductive SecondFactor (config : Config) (userId : UserId) (code : Text) (past : Past) : Prop
  | totp {user : User} {secret : Secret} {now : Time} (read : (userId, user) ∈ past.filterMap readUser)
      (enabled : user.totpEnabled) (isSecret : user.totpSecret = some secret) (time : ⟨.now, .ok now⟩ ∈ past)
      (verified : config.verifyTotp secret now code)
  | backupCode (consumed : ⟨.consumeRecoveryCode userId (normalizeBackupCode code), .ok true⟩ ∈ past)

/-- What a way to log in has found out about a user who was read, besides that
the account is active. -/
def Cleared (config : Config) (userId : UserId) (user : User) (past : Past) : Request → Prop
  | .googleCallback _ _ => True
  | .verifyOtp _ _ _ => user.deletedAt = none
  | .verify2fa _ code _ => user.deletedAt = none ∧ SecondFactor config userId code past
  | _ => user.deletedAt = none ∧ user.totpEnabled = false

/-- The second step of a login, with a code of the authenticator. -/
def Request.isSecondStep : Request → Bool
  | .verify2fa _ _ _ => true
  | _ => false

/-- Who a session is issued to. -/
inductive Admitted (config : Config) (request : Request) (userId : UserId) (past : Past) : Prop
  | read {user : User} (read : (userId, user) ∈ past.filterMap readUser) (active : user.status = .active)
      (cleared : Cleared config userId user past request)
  | created {user : User} (created : (userId, user) ∈ past.filterMap newUser)
      (firstStep : request.isSecondStep = false)

/-- Requests that end in a session. -/
def Request.isLogin : Request → Bool
  | .login _ _ _ => true
  | .verify2fa _ _ _ => true
  | .verifyOtp _ _ _ => true
  | .googleCallback _ _ => true
  | .federatedLogin _ _ _ => true
  | .confirmLink _ _ _ => true
  | .completeRegistration _ _ => true
  | _ => false

/-- After these answers a request goes on with its sessions. -/
def owes : Answered AuthCall AuthCall.Reply Failure → Bool
  | ⟨.createSession _ _, .ok _⟩ => true
  | ⟨.findOtherActiveSessions _ _, .ok others⟩ => !others.isEmpty
  | ⟨.findUnrevokedSessions _ _, .ok ids⟩ => !ids.isEmpty
  | _ => false

def Free (past : Past) : Prop := past.head?.all fun made => !owes made

/-- A token was swapped for a new one. -/
def Swapped (past : Past) : Prop :=
  ∃ id expected sub fid expiresAt reply, ⟨.rotateSessionAtomic id expected sub fid expiresAt, reply⟩ ∈ past

/-- The calls a request may make. -/
inductive May (config : Config) (request : Request) : Past → AuthCall → Prop
  | neutral {past : Past} {call : AuthCall} (neutral : call.isNeutral) (free : Free past) :
      May config request past call
  | createSession {userId : UserId} {expiresAt : Time} {past : Past} (isLogin : request.isLogin)
      (admitted : Admitted config request userId past) (free : Free past) :
      May config request past (.createSession userId expiresAt)
  | findOtherActiveSessions {userId : UserId} {expiresAt : Time} {token : RefreshToken} {past : Past}
      (isLogin : request.isLogin) :
      May config request (⟨.createSession userId expiresAt, .ok token⟩ :: past)
        (.findOtherActiveSessions userId token.sid)
  | findOthers {userId : UserId} {expiresAt : Time} {token : RefreshToken} {others : List SessionId} {past : Past}
      (isLogin : request.isLogin) :
      May config request (⟨.findOtherActiveSessions userId token.sid, .ok others⟩ ::
          ⟨.createSession userId expiresAt, .ok token⟩ :: past)
        (.findUnrevokedSessions userId (some token.sid))
  | revokeOthers {userId : UserId} {expiresAt : Time} {token : RefreshToken} {others ids : List SessionId}
      {past : Past} (isLogin : request.isLogin) :
      May config request (⟨.findUnrevokedSessions userId (some token.sid), .ok ids⟩ ::
          ⟨.findOtherActiveSessions userId token.sid, .ok others⟩ ::
          ⟨.createSession userId expiresAt, .ok token⟩ :: past)
        (.revokeSessions ids)
  | findAll {userId : UserId} {exceptSessionId : Option SessionId} {past : Past} (other : request.isLogin = false)
      (free : Free past) : May config request past (.findUnrevokedSessions userId exceptSessionId)
  | revokeAll {userId : UserId} {exceptSessionId : Option SessionId} {ids : List SessionId} {past : Past}
      (other : request.isLogin = false) :
      May config request (⟨.findUnrevokedSessions userId exceptSessionId, .ok ids⟩ :: past) (.revokeSessions ids)
  | rotate {token : RefreshToken} {session : AuthSession} {sub : UserId} {expiresAt : Time} {past : Past}
      (isRefresh : request = .refresh token) (read : ⟨.findSessionById token.sid, .ok (some session)⟩ ∈ past)
      (unswapped : ¬Swapped past) (free : Free past) :
      May config request past (.rotateSessionAtomic token.sid token sub session.familyId expiresAt)
  | revokeFamily {token : RefreshToken} {familyId : FamilyId} {past : Past} (isRefresh : request = .refresh token)
      (free : Free past) : May config request past (.revokeFamily familyId)
  | revokeSession {id : SessionId} {past : Past} (isLogout : request = .logout id) (free : Free past) :
      May config request past (.revokeSession id)
  | revokeSessionForUser {userId : UserId} {id : SessionId} {past : Past}
      (isRequest : request = .revokeSession userId id) (free : Free past) :
      May config request past (.revokeSessionForUser userId id)

/-- A call had no answer. -/
def Lost (past : Past) : Prop := ∃ call failure, ⟨call, .error failure⟩ ∈ past

/-- The sessions of a user that were found were revoked. -/
def Swept (userId : UserId) (exceptSessionId : Option SessionId) (past : Past) : Prop :=
  ∃ ids, ⟨.findUnrevokedSessions userId exceptSessionId, .ok ids⟩ ∈ past ∧
    (ids = [] ∨ ⟨.revokeSessions ids, .ok ()⟩ ∈ past)

/-- Why a refresh was refused. -/
inductive Refused (token : RefreshToken) (past : Past) : Prop
  | lost (lost : Lost past)
  | family (revoked : ⟨.revokeFamily token.fid, .ok ()⟩ ∈ past)
  | session {session : AuthSession} (read : ⟨.findSessionById token.sid, .ok (some session)⟩ ∈ past)
      (revoked : ⟨.revokeFamily session.familyId, .ok ()⟩ ∈ past)
  | inactive {session : AuthSession} (read : ⟨.findSessionById token.sid, .ok (some session)⟩ ∈ past)
      (held : session.refreshHash = token)

/-- The token was swapped for another. -/
def Rotated (token : RefreshToken) (past : Past) : Prop :=
  ∃ sub fid expiresAt count newToken,
    ⟨.rotateSessionAtomic token.sid token sub fid expiresAt, .ok (count, newToken)⟩ ∈ past ∧ count ≠ 0

/-- How a request ends. -/
def ends (request : Request) (past : Past) (result : Except Failure Response) : Prop :=
  Free past ∧ match request, result with
    | .refresh token, .ok _ => Rotated token past
    | .refresh token, .error _ => Refused token past
    | .resetPassword token _, .ok _ => ∃ userId, ⟨.redisGetDel (.reset token), .ok (some (.userId userId))⟩ ∈ past ∧
        Swept userId none past
    | .changePassword userId currentSessionId _ _, .ok _ => Swept userId (some currentSessionId) past
    | _, _ => True

variable {config : Config} {request : Request} {past later : Past} {call : AuthCall} {userId : UserId} {user : User}
  {α β : Type}

/-! ## Pasts -/

theorem free_neutral (neutral : call.isNeutral) (reply : Except Failure call.Reply) :
    Free (⟨call, reply⟩ :: past) := by
  cases call with
  | createSession => cases neutral
  | findOtherActiveSessions => cases neutral
  | findUnrevokedSessions => cases neutral
  | _ => rfl

theorem SecondFactor.grow {code : Text} (factor : SecondFactor config userId code past) (grown : past <:+ later) :
    SecondFactor config userId code later := by
  cases factor with
  | totp read enabled isSecret time verified =>
    exact .totp ((grown.filterMap _).subset read) enabled isSecret (grown.subset time) verified
  | backupCode consumed => exact .backupCode (grown.subset consumed)

theorem Cleared.grow (cleared : Cleared config userId user past request) (grown : past <:+ later) :
    Cleared config userId user later request := by
  cases request with
  | verify2fa token code ctx => exact ⟨cleared.1, cleared.2.grow grown⟩
  | _ => exact cleared

theorem Admitted.grow (admitted : Admitted config request userId past) (grown : past <:+ later) :
    Admitted config request userId later := by
  cases admitted with
  | read read active cleared => exact .read ((grown.filterMap _).subset read) active (cleared.grow grown)
  | created created firstStep => exact .created ((grown.filterMap _).subset created) firstStep

theorem Rotated.grow {token : RefreshToken} (rotated : Rotated token past) (grown : past <:+ later) :
    Rotated token later := by
  obtain ⟨sub, fid, expiresAt, count, newToken, member, swapped⟩ := rotated
  exact ⟨sub, fid, expiresAt, count, newToken, grown.subset member, swapped⟩

theorem Refused.grow {token : RefreshToken} (refused : Refused token past) (grown : past <:+ later) :
    Refused token later := by
  cases refused with
  | lost lost =>
    obtain ⟨call, failure, member⟩ := lost
    exact .lost ⟨call, failure, grown.subset member⟩
  | family revoked => exact .family (grown.subset revoked)
  | session read revoked => exact .session (grown.subset read) (grown.subset revoked)
  | inactive read held => exact .inactive (grown.subset read) held

/-- Follows the rules, and owes nothing at its end. -/
abbrev Follows (config : Config) (request : Request) (past : Past) (program : AuthM α)
    (fact : α → Past → Prop) : Prop :=
  program.Obeys (May config request) (EndsWith Free fun value later => Free later ∧ fact value later) past

theorem Follows.seq {program : AuthM α} {next : α → AuthM β} {fact : α → Past → Prop} {fact' : β → Past → Prop}
    (first : Follows config request past program fact)
    (rest : ∀ value later, past <:+ later → Free later → fact value later →
      Follows config request later (next value) fact') :
    Follows config request past (program >>= next) fact' :=
  Obeys.seq first fun value later grown ⟨free, known⟩ => rest value later grown free known

theorem Follows.weaken {program : AuthM α} {fact fact' : α → Past → Prop}
    (follows : Follows config request past program fact)
    (weaker : ∀ value later, past <:+ later → fact value later → fact' value later) :
    Follows config request past program fact' := by
  refine follows.grows.imp fun later result ⟨grown, ended⟩ => ?_
  cases result with
  | ok value => exact ⟨ended.1, weaker value later grown ended.2⟩
  | error failure => exact ended

theorem follows_ask (neutral : call.isNeutral) (free : Free past) :
    Follows config request past (ask call) fun value later => later = ⟨call, .ok value⟩ :: past :=
  obeys_answers (.neutral neutral free) (fun failure => free_neutral neutral (.error failure))
    fun value => ⟨free_neutral neutral (.ok value), rfl⟩

theorem follows_attempt {program : AuthM α} {fact : α → Past → Prop} (fallback : α)
    (follows : Follows config request past program fact) :
    Follows config request past (attempt fallback program) fun _ _ => True := by
  unfold attempt
  refine obeys_tryCatch.mpr (follows.imp fun later result ended => ?_)
  cases result with
  | ok value => exact ⟨ended.1, trivial⟩
  | error failure => exact ⟨ended, trivial⟩

/-! ## Sessions -/

theorem denylist_follows (reason : String) (ids : List SessionId) (free : Free past) :
    Follows config request past (denylist config reason ids) fun _ _ => True := by
  induction ids generalizing past with
  | nil => exact ⟨free, trivial⟩
  | cons id rest ih =>
    unfold denylist
    refine (follows_attempt () (follows_ask rfl free)).seq fun _ later _ free _ => ih free

theorem revokeOtherSessions_follows {expiresAt : Time} {token : RefreshToken} (isLogin : request.isLogin) :
    Follows config request (⟨.createSession userId expiresAt, .ok token⟩ :: past)
      (revokeOtherSessions config userId token.sid) fun _ _ => True := by
  unfold revokeOtherSessions
  refine obeys_bind.mpr (obeys_call.mpr ⟨.findOtherActiveSessions isLogin, ?_⟩)
  rintro (failure | others)
  · rfl
  dsimp only
  split
  · rename_i none
    exact ⟨by simpa [Free, owes] using none, trivial⟩
  unfold revokeAllSessionsForUser
  refine obeys_bind.mpr (obeys_bind.mpr (obeys_call.mpr ⟨.findOthers isLogin, ?_⟩))
  rintro (failure | ids)
  · rfl
  dsimp only
  split
  · rename_i none
    exact denylist_follows _ _ (by simpa [Free, owes] using none)
  refine obeys_bind.mpr (obeys_call.mpr ⟨.revokeOthers isLogin, ?_⟩)
  rintro (failure | _)
  · rfl
  refine denylist_follows _ _ ?_
  rfl

theorem enforceSingleActiveSession_follows {expiresAt : Time} {token : RefreshToken} (isLogin : request.isLogin) :
    Follows config request (⟨.createSession userId expiresAt, .ok token⟩ :: past)
      (enforceSingleActiveSession config userId token.sid) fun _ _ => True :=
  follows_attempt () (revokeOtherSessions_follows isLogin)

theorem issueSession_follows (isLogin : request.isLogin) (admitted : Admitted config request userId past)
    (free : Free past) : Follows config request past (issueSession config userId) fun _ _ => True := by
  unfold issueSession
  refine (follows_ask rfl free).seq ?_
  rintro now later grown free rfl
  refine obeys_bind.mpr (obeys_call.mpr ⟨.createSession isLogin (admitted.grow grown) free, ?_⟩)
  rintro (failure | token)
  · rfl
  exact (enforceSingleActiveSession_follows isLogin).seq fun _ later _ free _ => ⟨free, trivial⟩

theorem revokeAllAndDenylist_follows {exceptSessionId : Option SessionId} (other : request.isLogin = false)
    (free : Free past) : Follows config request past (revokeAllAndDenylist config userId exceptSessionId)
      fun _ later => Swept userId exceptSessionId later := by
  unfold revokeAllAndDenylist revokeAllSessionsForUser
  refine obeys_bind.mpr (obeys_bind.mpr (obeys_call.mpr ⟨.findAll other free, ?_⟩))
  rintro (failure | ids)
  · rfl
  dsimp only
  split
  · rename_i none
    have isEmpty : ids = [] := List.isEmpty_iff.mp none
    subst isEmpty
    have listed : Follows config request (⟨.findUnrevokedSessions userId exceptSessionId, .ok []⟩ :: past)
        (denylist config "1" []) fun _ _ => True := denylist_follows "1" [] rfl
    exact listed.weaken fun _ later grown _ => ⟨[], grown.subset List.mem_cons_self, .inl rfl⟩
  refine obeys_bind.mpr (obeys_call.mpr ⟨.revokeAll other, ?_⟩)
  rintro (failure | _)
  · rfl
  · have listed : Follows config request (⟨.revokeSessions ids, .ok ()⟩ ::
        ⟨.findUnrevokedSessions userId exceptSessionId, .ok ids⟩ :: past)
        (denylist config "1" ids) fun _ _ => True := denylist_follows "1" ids rfl
    refine listed.weaken fun _ later grown _ => ⟨ids, grown.subset ?_, .inr (grown.subset ?_)⟩
    · exact List.mem_cons_of_mem _ List.mem_cons_self
    · exact List.mem_cons_self

/-! ## Second factor -/

theorem secondFactorFailures_follows (free : Free past) :
    Follows config request past (secondFactorFailures userId) fun _ _ => True := by
  unfold secondFactorFailures
  refine (follows_attempt none (follows_ask rfl free)).seq fun raw later _ free _ => ?_
  split <;> exact ⟨free, trivial⟩

theorem verifyTotpCode_follows {code : Text} (read : (userId, user) ∈ past.filterMap readUser)
    (enabled : user.totpEnabled) (free : Free past) :
    Follows config request past (verifyTotpCode config user code)
      fun isCurrent later => isCurrent → SecondFactor config userId code later := by
  unfold verifyTotpCode
  cases isSecret : user.totpSecret with
  | none => exact ⟨free, nofun⟩
  | some secret =>
    refine (follows_ask rfl free).seq ?_
    rintro now later grown free rfl
    refine ⟨free, fun verified => ?_⟩
    exact .totp ((grown.filterMap _).subset read) enabled isSecret List.mem_cons_self verified

theorem consumeBackupCode_follows {code : Text} (free : Free past) :
    Follows config request past (consumeBackupCode userId code)
      fun ok later => ok → SecondFactor config userId code later := by
  unfold consumeBackupCode
  dsimp only
  split
  · refine (follows_ask rfl free).weaken fun ok later _ isLater consumed => ?_
    subst isLater
    rw [consumed]
    exact .backupCode List.mem_cons_self
  · exact ⟨free, nofun⟩

theorem checkSecondFactor_follows {code : Text} (read : (userId, user) ∈ past.filterMap readUser)
    (enabled : user.totpEnabled) (free : Free past) :
    Follows config request past (checkSecondFactor config userId user code)
      fun ok later => ok → SecondFactor config userId code later := by
  unfold checkSecondFactor
  refine (verifyTotpCode_follows read enabled free).seq fun isCurrent later _ free current => ?_
  split
  · rename_i isTrue
    exact ⟨free, fun _ => current isTrue⟩
  · exact consumeBackupCode_follows free

theorem noteSecondFactor_follows {ok : Bool} (free : Free past) :
    Follows config request past (noteSecondFactor userId ok) fun _ _ => True := by
  unfold noteSecondFactor
  split <;> exact follows_attempt () (follows_ask rfl free)

theorem verifySecondFactor_follows {code : Text} (free : Free past) :
    Follows config request past (verifySecondFactor config userId code)
      fun ok later => ok → SecondFactor config userId code later := by
  unfold verifySecondFactor
  refine (secondFactorFailures_follows free).seq fun failures later _ free _ => ?_
  split
  · exact free
  refine (follows_ask rfl free).seq ?_
  rintro found later - free rfl
  cases isFound : found.filter fun user => user.totpEnabled with
  | none => exact ⟨free, nofun⟩
  | some user =>
    obtain ⟨rfl, enabled⟩ := Option.filter_eq_some_iff.mp isFound
    have read : (userId, user) ∈ (⟨.findUserById userId, .ok (some user)⟩ :: later).filterMap readUser := by
      simp [readUser]
    refine (checkSecondFactor_follows read enabled free).seq fun ok later' _ free factor => ?_
    exact (noteSecondFactor_follows free).seq fun _ later grown free _ =>
      ⟨free, fun isOk => (factor isOk).grow grown⟩

theorem issueLoginChallenge_follows (free : Free past) :
    Follows config request past (issueLoginChallenge userId) fun _ _ => True := by
  unfold issueLoginChallenge
  refine (follows_ask rfl free).seq fun token later _ free _ => ?_
  exact (follows_ask rfl free).seq fun _ later _ free _ => ⟨free, trivial⟩

/-! ## Ways to log in -/

theorem assertMayLogin_follows (free : Free past) : Follows config request past (assertMayLogin user)
    fun _ later => later = past ∧ user.status = .active ∧ user.deletedAt = none := by
  unfold assertMayLogin
  split
  · exact free
  rename_i present
  split
  · exact free
  rename_i active
  exact ⟨free, rfl, not_not.mp active, by simpa using present⟩

theorem ensureLoginLocation_follows {ctx : AuthContext} (free : Free past) :
    Follows config request past (ensureLoginLocationIfRequired config ctx) fun _ _ => True := by
  unfold ensureLoginLocationIfRequired
  split
  · exact free
  · exact ⟨free, trivial⟩

/-- A way to log in that asks for a challenge where there is an authenticator. -/
def Challenges (request : Request) : Prop :=
  request.isLogin ∧ ∀ config userId user past, user.deletedAt = none → user.totpEnabled = false →
    Cleared config userId user past request

theorem startSession_follows (challenges : Challenges request) (read : (userId, user) ∈ past.filterMap readUser)
    (active : user.status = .active) (present : user.deletedAt = none) (free : Free past) :
    Follows config request past (startSession config userId user) fun _ _ => True := by
  unfold startSession
  split
  · exact (issueLoginChallenge_follows free).seq fun _ later _ free _ => ⟨free, trivial⟩
  · rename_i off
    have admitted : Admitted config request userId past :=
      .read read active (challenges.2 config userId user past present (by simpa using off))
    exact (issueSession_follows challenges.1 admitted free).seq fun _ later _ free _ => ⟨free, trivial⟩

theorem checkPassword_follows {email : Text} {password : Password} {ip : Option Text} (free : Free past) :
    Follows config request past (checkPassword email password ip)
      fun row later => row ∈ later.filterMap readUser := by
  unfold checkPassword
  refine (follows_ask rfl free).seq ?_
  rintro found later - free rfl
  refine (follows_ask rfl free).seq fun _ later' grown free' _ => ?_
  split
  · exact free'
  · rename_i row isFound
    obtain ⟨rfl, -⟩ := Option.filter_eq_some_iff.mp isFound
    exact ⟨free', (grown.filterMap _).subset (by simp [readUser])⟩

theorem isLockedOut_follows {email : Text} {ip : Option Text} {since : Time} (free : Free past) :
    Follows config request past (isLockedOut config email ip since) fun _ _ => True := by
  unfold isLockedOut
  refine (follows_ask rfl free).seq fun _ later _ free _ => ?_
  refine (follows_ask rfl free).seq fun _ later _ free _ => ?_
  exact (follows_ask rfl free).seq fun _ later _ free _ => ⟨free, trivial⟩

theorem login_follows {email : Text} {password : Password} {ctx : AuthContext} (challenges : Challenges request)
    (free : Free past) : Follows config request past (login config email password ctx) fun _ _ => True := by
  unfold login
  refine (follows_ask rfl free).seq fun now later _ free _ => ?_
  refine (isLockedOut_follows free).seq fun isLocked later _ free _ => ?_
  dsimp only
  split
  · exact free
  refine (checkPassword_follows free).seq fun row later _ free read => ?_
  obtain ⟨userId, user⟩ := row
  refine (assertMayLogin_follows free).seq ?_
  rintro _ later - free ⟨rfl, active, present⟩
  split
  · exact free
  refine (ensureLoginLocation_follows free).seq fun _ later grown free _ => ?_
  exact startSession_follows challenges ((grown.filterMap _).subset read) active present free

theorem consumeLoginChallenge_follows {token : Token} (free : Free past) :
    Follows config request past (consumeLoginChallenge token) fun _ _ => True := by
  unfold consumeLoginChallenge
  refine (follows_attempt none (follows_ask rfl free)).seq fun raw later _ free _ => ?_
  split <;> exact ⟨free, trivial⟩

theorem verify2fa_follows {token : Token} {code : Text} {ctx : AuthContext} (free : Free past) :
    Follows config (.verify2fa token code ctx) past (verify2fa config token code ctx) fun _ _ => True := by
  unfold verify2fa
  refine (consumeLoginChallenge_follows free).seq fun consumed later _ free _ => ?_
  cases consumed with
  | none => exact free
  | some userId =>
    refine (follows_ask rfl free).seq ?_
    rintro found later - free rfl
    cases found with
    | none => exact free
    | some user =>
      have read : (userId, user) ∈ (⟨.findUserById userId, .ok (some user)⟩ :: later).filterMap readUser := by
        simp [readUser]
      refine (assertMayLogin_follows free).seq ?_
      rintro _ later' - free ⟨rfl, active, present⟩
      refine (ensureLoginLocation_follows free).seq fun _ later' grown free _ => ?_
      refine (verifySecondFactor_follows free).seq fun ok later'' grown' free factor => ?_
      split
      · rename_i isOk
        have admitted : Admitted config (.verify2fa token code ctx) userId later'' :=
          .read (((grown.trans grown').filterMap _).subset read) active ⟨present, factor isOk⟩
        exact (issueSession_follows rfl admitted free).seq fun _ later _ free _ => ⟨free, trivial⟩
      · exact free

end Service
end Exchange.Auth
