import Exchange.AuthRepository

/-! Authentication of users: the ways to log in, each of which ends in a new
session; refresh tokens that are rotated on every use; and the ways a session is
revoked. -/
namespace Exchange.Auth.Service
open Ledger (UserId)

/-- `config.auth`, `config.google` and the like; the code of an authenticator
is checked against its secret and the time. -/
structure Config where
  maxAttempts : ℕ
  windowMs : ℕ
  requireEmailVerification : Bool
  allowUnverifiedLogin : Bool
  requireLoginLocation : Bool
  googleEnabled : Bool
  federatedEnabled : Bool
  refreshTtlMs : ℕ
  accessTtlMs : ℕ
  verifyTotp : Secret → Time → Text → Bool

/-- Who calls; `location` says that a login location was sent and is valid. -/
structure AuthContext where
  ip : Option Text
  location : Bool

def LOCKOUT_EMAIL_MULTIPLIER : ℕ := 3

def LOCKOUT_IP_MULTIPLIER : ℕ := 10

def LOGIN_CHALLENGE_TTL_MS : ℕ := 5 * 60 * 1000

def OAUTH_STATE_TTL_MS : ℕ := 10 * 60 * 1000

def OAUTH_EXCHANGE_TTL_MS : ℕ := 2 * 60 * 1000

def SECOND_FACTOR_MAX_FAILS : ℕ := 5

def SECOND_FACTOR_WINDOW_MS : ℕ := 15 * 60 * 1000

variable (config : Config)

/-- Runs a call whose failure does not matter. -/
def attempt {α : Type} (fallback : α) (program : AuthM α) : AuthM α :=
  tryCatch program fun _ => return fallback

def tooManyRequestsError (message errorCode : String) : Failure := .appError message 429 errorCode

/-! ## Sessions -/

/-- Until the access tokens of the session have expired, the middleware refuses them. -/
def markSessionRevoked (sessionId : SessionId) (reason : String) : AuthM Unit :=
  ask (.redisSet (.sessionRevoked sessionId) (.reason reason) config.accessTtlMs)

def denylist (reason : String) : List SessionId → AuthM Unit
  | [] => return ()
  | id :: rest => do
    attempt () (markSessionRevoked config id reason)
    denylist reason rest

def revokeAllSessionsForUser (userId : UserId) (exceptSessionId : Option SessionId) : AuthM (List SessionId) := do
  let ids ← ask (.findUnrevokedSessions userId exceptSessionId)
  if ids.isEmpty then return []
  else do
    ask (.revokeSessions ids)
    return ids

/-- Revokes every other session of the user. -/
def revokeOtherSessions (userId : UserId) (newSessionId : SessionId) : AuthM Unit := do
  let others ← ask (.findOtherActiveSessions userId newSessionId)
  if others.isEmpty then return ()
  else do
    let _ ← revokeAllSessionsForUser userId (some newSessionId)
    denylist config "NEW_LOGIN" others

/-- A login does not fail by this. -/
def enforceSingleActiveSession (userId : UserId) (newSessionId : SessionId) : AuthM Unit :=
  attempt () (revokeOtherSessions config userId newSessionId)

/-- A new session with its tokens. -/
def issueSession (userId : UserId) : AuthM TokenPair := do
  let now ← ask .now
  let refreshToken ← ask (.createSession userId (now + config.refreshTtlMs))
  enforceSingleActiveSession config userId refreshToken.sid
  return ⟨refreshToken.sid, refreshToken⟩

def revokeAllAndDenylist (userId : UserId) (exceptSessionId : Option SessionId) : AuthM Unit := do
  let revokedSessionIds ← revokeAllSessionsForUser userId exceptSessionId
  denylist config "1" revokedSessionIds

/-! ## Second factor -/

/-- Separators are stripped. -/
def normalizeBackupCode (code : Text) : Text :=
  Text.toUpperCase (code.filter fun char => !(Text.isSpace char || char = '-'))

def secondFactorFailures (userId : UserId) : AuthM ℕ := do
  let raw ← attempt none (ask (.redisGet (.secondFactorFail userId)))
  match raw with
  | some (.count failures) => return failures
  | _ => return 0

/-- A current code of the authenticator. -/
def verifyTotpCode (user : User) (code : Text) : AuthM Bool :=
  match user.totpSecret with
  | none => return false
  | some secret => do
    let now ← ask .now
    return config.verifyTotp secret now code

def consumeBackupCode (userId : UserId) (code : Text) : AuthM Bool := do
  let normalized := normalizeBackupCode code
  if 8 ≤ normalized.length then ask (.consumeRecoveryCode userId normalized)
  else return false

/-- A current TOTP code, or a backup code, which is used up. -/
def checkSecondFactor (userId : UserId) (user : User) (code : Text) : AuthM Bool := do
  let isCurrent ← verifyTotpCode config user code
  if isCurrent then return true
  else consumeBackupCode userId code

/-- Failures are counted until one code is right. -/
def noteSecondFactor (userId : UserId) (ok : Bool) : AuthM Unit :=
  if ok then attempt () (ask (.redisDel (.secondFactorFail userId)))
  else attempt () (ask (.redisIncr (.secondFactorFail userId) SECOND_FACTOR_WINDOW_MS))

def verifySecondFactor (userId : UserId) (code : Text) : AuthM Bool := do
  let failures ← secondFactorFailures userId
  if SECOND_FACTOR_MAX_FAILS ≤ failures then
    throw (tooManyRequestsError "Too many 2FA attempts. Please try again later." "TWO_FA_LOCKED")
  else do
    let found ← ask (.findUserById userId)
    match found.filter fun user => user.totpEnabled with
    | none => return false
    | some user => do
      let ok ← checkSecondFactor config userId user code
      noteSecondFactor userId ok
      return ok

def issueLoginChallenge (userId : UserId) : AuthM Token := do
  let token ← ask .generateToken
  ask (.redisSet (.loginChallenge token) (.userId userId) LOGIN_CHALLENGE_TTL_MS)
  return token

def consumeLoginChallenge (token : Token) : AuthM (Option UserId) := do
  let raw ← attempt none (ask (.redisGetDel (.loginChallenge token)))
  match raw with
  | some (.userId userId) => return some userId
  | _ => return none

/-! ## Login -/

inductive LoginResult where
  | authenticated (result : AuthResult)
  | twoFactorRequired (challengeToken : Token)
  deriving DecidableEq, Repr

def ensureLoginLocationIfRequired (ctx : AuthContext) : AuthM Unit :=
  if config.requireLoginLocation && !ctx.location then
    throw (.appError "Location permission is required for account security." 400 "LOCATION_REQUIRED")
  else return ()

/-- Archived accounts, and those that are not active, do not log in. -/
def assertMayLogin (user : User) : AuthM Unit :=
  if user.deletedAt.isSome then throw (.forbiddenError "Account is disabled. Contact support." "ACCOUNT_DISABLED")
  else if user.status ≠ .active then throw (.forbiddenError "Account is not active" "ACCOUNT_NOT_ACTIVE")
  else return ()

def isLockedOut (email : Text) (ip : Option Text) (since : Time) : AuthM Bool := do
  let pairFailures ← ask (.countRecentFailedAttempts (some email) ip since)
  let emailFailures ← ask (.countRecentFailedAttempts (some email) none since)
  let ipFailures ← ask (.countRecentFailedAttempts none ip since)
  return config.maxAttempts ≤ pairFailures || config.maxAttempts * LOCKOUT_EMAIL_MULTIPLIER ≤ emailFailures ||
    config.maxAttempts * LOCKOUT_IP_MULTIPLIER ≤ ipFailures

/-- A session, or with an authenticator a challenge. -/
def startSession (userId : UserId) (user : User) : AuthM LoginResult :=
  if user.totpEnabled then do
    let challengeToken ← issueLoginChallenge userId
    return .twoFactorRequired challengeToken
  else do
    let tokens ← issueSession config userId
    return .authenticated ⟨userId, tokens⟩

/-- The user of these credentials. -/
def checkPassword (email : Text) (password : Password) (ip : Option Text) : AuthM (UserId × User) := do
  let found ← ask (.findUserByEmail email)
  let ok := found.filter fun row => row.2.passwordHash = some password
  ask (.recordLoginAttempt email ip ok.isSome)
  match ok with
  | none => throw (.unauthorizedError "Incorrect email or password." "INVALID_CREDENTIALS")
  | some row => return row

def login (email : Text) (password : Password) (ctx : AuthContext) : AuthM LoginResult := do
  let now ← ask .now
  let isLocked ← isLockedOut config email ctx.ip (now - config.windowMs)
  if isLocked then
    throw (tooManyRequestsError "Too many failed login attempts. Please try again later." "ACCOUNT_LOCKED")
  else do
    let (userId, user) ← checkPassword email password ctx.ip
    assertMayLogin user
    if config.requireEmailVerification && !config.allowUnverifiedLogin && user.emailVerifiedAt.isNone then
      throw (.forbiddenError "Email address is not verified" "EMAIL_NOT_VERIFIED")
    else do
      ensureLoginLocationIfRequired config ctx
      startSession config userId user

/-- The second step of a login. -/
def verify2fa (challengeToken : Token) (code : Text) (ctx : AuthContext) : AuthM LoginResult := do
  let consumed ← consumeLoginChallenge challengeToken
  match consumed with
  | none => throw (.unauthorizedError "Invalid or expired 2FA challenge" "TWO_FA_CHALLENGE_INVALID")
  | some userId => do
    let found ← ask (.findUserById userId)
    match found with
    | none => throw (.forbiddenError "Account is not active" "ACCOUNT_NOT_ACTIVE")
    | some user => do
      assertMayLogin user
      ensureLoginLocationIfRequired config ctx
      let ok ← verifySecondFactor config userId code
      if ok then do
        let tokens ← issueSession config userId
        return .authenticated ⟨userId, tokens⟩
      else throw (.unauthorizedError "Invalid 2FA code" "INVALID_TOTP")

/-! ## Refresh tokens -/

/-- A family that is compromised is revoked. -/
def handleReuse (familyId : FamilyId) (sessionId : SessionId) : AuthM Unit := do
  ask (.revokeFamily familyId)
  markSessionRevoked config sessionId "1"

def rejectReuse {α : Type} (familyId : FamilyId) (sessionId : SessionId) (message : String) : AuthM α := do
  handleReuse config familyId sessionId
  throw (.unauthorizedError message "TOKEN_REUSE")

/-- The rotation of a token that is the one its session holds. -/
def rotate (refreshToken : RefreshToken) (session : AuthSession) : AuthM TokenPair := do
  let found ← ask (.findUserById session.userId)
  match found.filter fun user => user.status = .active with
  | none => throw (.forbiddenError "Account is not active" "ACCOUNT_NOT_ACTIVE")
  | some _ => do
    let now ← ask .now
    let (rotated, newRefresh) ← ask (.rotateSessionAtomic refreshToken.sid refreshToken session.userId
      session.familyId (now + config.refreshTtlMs))
    if rotated = 0 then rejectReuse config session.familyId refreshToken.sid "Refresh token reuse detected"
    else return ⟨refreshToken.sid, newRefresh⟩

/-- Each token is used once; a token that was used revokes its family. -/
def refresh (refreshToken : RefreshToken) : AuthM TokenPair := do
  let found ← attempt none (ask (.findSessionById refreshToken.sid))
  match found.filter fun session => session.revokedAt.isNone with
  | none => rejectReuse config refreshToken.fid refreshToken.sid "Refresh token rejected"
  | some session =>
    if session.refreshHash ≠ refreshToken then
      rejectReuse config session.familyId refreshToken.sid "Refresh token reuse detected"
    else rotate config refreshToken session

/-! ## Logout and passwords -/

def logout (sessionId : SessionId) : AuthM Unit := do
  ask (.revokeSession sessionId)
  markSessionRevoked config sessionId "1"

def revokeSession (userId : UserId) (sessionId : SessionId) : AuthM Unit := do
  let count ← ask (.revokeSessionForUser userId sessionId)
  if count = 0 then throw (.notFoundError "Session not found")
  else markSessionRevoked config sessionId "1"

/-- A reset revokes every session. -/
def resetPassword (token : Token) (newPassword : Password) : AuthM Unit := do
  let raw ← ask (.redisGetDel (.reset token))
  match raw with
  | some (.userId userId) => do
    ask (.updatePassword userId newPassword)
    revokeAllAndDenylist config userId none
  | _ => throw (.badRequestError "Invalid or expired reset token")

/-- A change revokes every other session. -/
def changePassword (userId : UserId) (currentSessionId : SessionId) (currentPassword newPassword : Password) :
    AuthM Unit := do
  let found ← ask (.findUserById userId)
  match found with
  | none => throw (.unauthorizedError "User not found" "UNAUTHORIZED")
  | some user =>
    if user.passwordHash ≠ some currentPassword then
      throw (.unauthorizedError "Current password is incorrect" "INVALID_CREDENTIALS")
    else do
      ask (.updatePassword userId newPassword)
      revokeAllAndDenylist config userId (some currentSessionId)

end Exchange.Auth.Service
