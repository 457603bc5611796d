import Exchange.AuthService

/-! The ways to log in without a password: a code sent by email, an account at
Google, and a federated identity; and all requests of authentication. -/
namespace Exchange.Auth.Service
open Ledger (UserId)

variable (config : Config)

def LINK_OTP_MAX_ATTEMPTS : ℕ := 5

def CHALLENGE_TTL_MS : ℕ := 10 * 60 * 1000

/-! ## Email codes -/

def normalizeEmail (email : Text) : Text := Text.trim (Text.toLowerCase email)

def genericInvalid : Failure := .unauthorizedError "Invalid or expired code" "OTP_INVALID"

def otpLocked : Failure :=
  tooManyRequestsError "Too many incorrect attempts. Request a new code." "OTP_LOCKED"

/-- A code that does not match counts as an attempt. -/
def rejectOtp (email : Text) (id : ℕ) (ip : Option Text) : AuthM Unit := do
  let updated ← ask (.incrementAttempts id)
  ask (.recordLoginAttempt email ip false)
  if updated.maxAttempts ≤ updated.attempts then throw otpLocked else throw genericInvalid

/-- The code is the newest one, unused, in time, and right; it is used up. -/
def consumeOtp (email code : Text) (purpose : EmailOtpPurpose) (ip : Option Text) : AuthM Unit := do
  let found ← ask (.findLatestActiveOtp email purpose)
  match found with
  | none => throw genericInvalid
  | some (id, otp) => do
    let now ← ask .now
    if otp.usedAt.isSome then throw genericInvalid
    else if otp.expiresAt ≤ now then throw (.unauthorizedError "Invalid or expired code" "OTP_EXPIRED")
    else if otp.maxAttempts ≤ otp.attempts then throw otpLocked
    else if otp.otpHash ≠ (Text.toLowerCase email, code) then rejectOtp email id ip
    else do
      let _ ← ask (.markUsed id)
      return ()

/-- Whoever owns the address has a verified email. -/
def markEmailVerified (userId : UserId) (user : User) : AuthM Unit :=
  if user.emailVerifiedAt.isNone then ask (.setEmailVerified userId) else return ()

/-- The user who has shown to own the address; a new one if there is none. -/
def resolveOtpUser (email : Text) (existing : Option (UserId × User)) : AuthM UserId :=
  match existing with
  | some (userId, user) => do
    assertMayLogin user
    markEmailVerified userId user
    return userId
  | none => do
    let (userId, _) ← ask (.createUser email)
    ask (.setEmailVerified userId)
    return userId

/-- There is no challenge here for a user with an authenticator. -/
def verifyOtp (email code : Text) (ctx : AuthContext) : AuthM LoginResult := do
  let normalized := normalizeEmail email
  ensureLoginLocationIfRequired config ctx
  let existing ← ask (.findUserByEmail normalized)
  consumeOtp normalized code (if existing.isSome then .login else .signup) ctx.ip
  let userId ← resolveOtpUser normalized existing
  ask (.recordLoginAttempt normalized ctx.ip true)
  let tokens ← issueSession config userId
  return .authenticated ⟨userId, tokens⟩

/-! ## Google -/

def googleStart : AuthM Token :=
  if config.googleEnabled then do
    let state ← ask .generateToken
    ask (.redisSet (.oauthState state) .verifier OAUTH_STATE_TTL_MS)
    return state
  else throw (.forbiddenError "Google sign-in is not enabled" "OAUTH_DISABLED")

/-- A linked account, a verified local account, which is linked now, or a new one. -/
def resolveGoogleUser (profile : GoogleProfile) : AuthM (UserId × User) := do
  let linked ← ask (.findOAuthAccountWithUser profile.sub)
  match linked with
  | some row => return row
  | none =>
    if !profile.emailVerified then
      throw (.forbiddenError "Your Google email is not verified" "OAUTH_EMAIL_UNVERIFIED")
    else do
      let existing ← ask (.findUserByEmail profile.email)
      match existing with
      | some (userId, user) =>
        if user.emailVerifiedAt.isNone then
          throw (.conflictError
            "An account with this email already exists. Please sign in with your password and verify your email first."
            "OAUTH_LOCAL_ACCOUNT_UNVERIFIED")
        else do
          ask (.linkOAuthAccount userId profile.sub)
          return (userId, user)
      | none => ask (.createUserWithOAuth profile.email profile.sub)

/-- The session is issued here, and handed out for the code. Only the status is
looked at: not the archive, and not the authenticator. -/
def googleCallback (code : Text) (state : Token) : AuthM Token := do
  if config.googleEnabled then do
    let verifier ← ask (.redisGetDel (.oauthState state))
    match verifier with
    | none => throw (.unauthorizedError "Invalid or expired OAuth state" "OAUTH_STATE_INVALID")
    | some _ => do
      let profile ← ask (.exchangeCodeForProfile code)
      let (userId, user) ← resolveGoogleUser profile
      if user.status ≠ .active then throw (.forbiddenError "Account is not active" "ACCOUNT_NOT_ACTIVE")
      else do
        let tokens ← issueSession config userId
        let exchange ← ask .generateToken
        ask (.redisSet (.oauthExchange exchange) (.result ⟨userId, tokens⟩) OAUTH_EXCHANGE_TTL_MS)
        return exchange
  else throw (.forbiddenError "Google sign-in is not enabled" "OAUTH_DISABLED")

def oauthExchange (code : Token) : AuthM LoginResult := do
  let stored ← ask (.redisGetDel (.oauthExchange code))
  match stored with
  | some (.result result) => return .authenticated result
  | _ => throw (.unauthorizedError "Invalid or expired code" "OAUTH_CODE_INVALID")

/-! ## Federated identities -/

inductive FederatedLoginOutcome where
  | authenticated (result : LoginResult)
  | accountLinkRequired (challengeToken : Token)
  | federatedRegistrationRequired (challengeToken : Token) (email : Text)
  deriving DecidableEq, Repr

def issueChallenge (payload : ChallengePayload) : AuthM Token := do
  let token ← ask .generateToken
  ask (.redisSet (.federatedChallenge token) (.challenge payload) CHALLENGE_TTL_MS)
  return token

/-- A challenge is used up only where it belongs. -/
def consumeChallenge (token : Token) (expected : ChallengePayload → Bool) : AuthM (Option ChallengePayload) := do
  let raw ← ask (.redisGet (.federatedChallenge token))
  match raw with
  | some (.challenge payload) =>
    if expected payload then do
      let stillThere ← ask (.redisGetDel (.federatedChallenge token))
      return if stillThere.isSome then some payload else none
    else return none
  | _ => return none

/-- The end of every federated login of a user who exists. -/
def authenticateExistingUser (userId : UserId) (user : User) (ctx : AuthContext) : AuthM LoginResult := do
  assertMayLogin user
  markEmailVerified userId user
  ensureLoginLocationIfRequired config ctx
  startSession config userId user

/-- A user of the old table is copied to the new one. -/
def migrateLegacy (userId : UserId) (subject : Text) : AuthM Unit :=
  attempt () (ask (.linkFederatedIdentity userId .google subject))

/-- An identity that is not linked gets a challenge. -/
def challengeUnlinked (verified : VerifiedFederatedIdentity) : AuthM FederatedLoginOutcome := do
  let existing ← ask (.findUserByEmail verified.email)
  match existing with
  | some (userId, _) => do
    let token ← issueChallenge (.linkExisting verified.provider verified.subject verified.email userId)
    return .accountLinkRequired token
  | none => do
    let token ← issueChallenge (.registerNew verified.provider verified.subject verified.email)
    return .federatedRegistrationRequired token verified.email

def loginLegacy (verified : VerifiedFederatedIdentity) (ctx : AuthContext) : AuthM FederatedLoginOutcome :=
  if verified.provider = .google then do
    let legacy ← ask (.findOAuthAccountWithUser verified.subject)
    match legacy with
    | some (userId, user) => do
      let result ← authenticateExistingUser config userId user ctx
      migrateLegacy userId verified.subject
      return .authenticated result
    | none => challengeUnlinked verified
  else challengeUnlinked verified

def federatedLogin (idToken : Text) (provider : FederatedProvider) (ctx : AuthContext) :
    AuthM FederatedLoginOutcome := do
  if !config.federatedEnabled then
    throw (.forbiddenError "Federated sign-in is not enabled" "FEDERATED_AUTH_DISABLED")
  else do
    let verified ← tryCatch (ask (.verifyIdToken idToken)) fun failure => throw (
      if failure.errorCode.isSome then failure
      else .unauthorizedError "Invalid or expired federated credential" "FEDERATED_TOKEN_INVALID")
    if verified.provider ≠ provider then
      throw (.forbiddenError "The verified identity provider does not match the requested provider"
        "FEDERATED_PROVIDER_MISMATCH")
    else if verified.email = [] ∨ !verified.emailVerified then
      throw (.forbiddenError "Your account email is not verified" "FEDERATED_EMAIL_UNVERIFIED")
    else do
      let linked ← ask (.findFederatedIdentityWithUser verified.provider verified.subject)
      match linked with
      | some (userId, user) => do
        let result ← authenticateExistingUser config userId user ctx
        return .authenticated result
      | none => loginLegacy config verified ctx

def requestLinkOtp (challengeToken : Token) (code : Text) : AuthM Unit := do
  let raw ← ask (.redisGet (.federatedChallenge challengeToken))
  match raw with
  | some (.challenge (.linkExisting _ _ email _)) => do
    let now ← ask .now
    ask (.redisSet (.linkOtp challengeToken) (.linkOtp ⟨(Text.toLowerCase email, code), 0, now + CHALLENGE_TTL_MS⟩)
      CHALLENGE_TTL_MS)
  | _ => throw (.unauthorizedError "Invalid or expired link request" "FEDERATED_CHALLENGE_INVALID")

/-- The code sent for a link; wrong ones are counted until the code expires. -/
def consumeLinkOtp (challengeToken : Token) (email otp : Text) : AuthM Unit := do
  let raw ← ask (.redisGet (.linkOtp challengeToken))
  match raw with
  | some (.linkOtp stored) => do
    let now ← ask .now
    if stored.expiresAt ≤ now then do
      ask (.redisDel (.linkOtp challengeToken))
      throw genericInvalid
    else if LINK_OTP_MAX_ATTEMPTS ≤ stored.attempts then do
      ask (.redisDel (.linkOtp challengeToken))
      throw (.forbiddenError "Too many incorrect attempts. Start over." "OTP_LOCKED")
    else if stored.hash ≠ (Text.toLowerCase email, otp) then do
      ask (.redisSet (.linkOtp challengeToken) (.linkOtp { stored with attempts := stored.attempts + 1 })
        (max 1 (stored.expiresAt - now)))
      throw genericInvalid
    else ask (.redisDel (.linkOtp challengeToken))
  | _ => throw genericInvalid

def isLinkExisting : ChallengePayload → Bool
  | .linkExisting _ _ _ _ => true
  | .registerNew _ _ _ => false

def confirmLink (challengeToken : Token) (otp : Text) (ctx : AuthContext) : AuthM FederatedLoginOutcome := do
  let payload ← consumeChallenge challengeToken isLinkExisting
  match payload with
  | some (.linkExisting provider subject email existingUserId) => do
    consumeLinkOtp challengeToken email otp
    let found ← ask (.findUserById existingUserId)
    match found with
    | none => throw (.unauthorizedError "Account not found" "FEDERATED_CHALLENGE_INVALID")
    | some user => do
      ask (.linkFederatedIdentity existingUserId provider subject)
      let result ← authenticateExistingUser config existingUserId user ctx
      return .authenticated result
  | _ => throw (.unauthorizedError "Invalid or expired link request" "FEDERATED_CHALLENGE_INVALID")

def completeRegistration (challengeToken : Token) (ctx : AuthContext) : AuthM FederatedLoginOutcome := do
  let payload ← consumeChallenge challengeToken fun payload => !isLinkExisting payload
  match payload with
  | some (.registerNew provider subject email) => do
    let (userId, _) ← ask (.createUserWithFederatedIdentity email provider subject)
    ask (.setEmailVerified userId)
    ensureLoginLocationIfRequired config ctx
    let tokens ← issueSession config userId
    return .authenticated (.authenticated ⟨userId, tokens⟩)
  | _ => throw (.unauthorizedError "Invalid or expired registration request" "FEDERATED_CHALLENGE_INVALID")

/-! ## Requests -/

/-- The requests that may issue a session, those that rotate or revoke one, and
the rest of the platform. -/
inductive Request where
  | login (email : Text) (password : Password) (ctx : AuthContext)
  | verify2fa (challengeToken : Token) (code : Text) (ctx : AuthContext)
  | verifyOtp (email code : Text) (ctx : AuthContext)
  | googleStart
  | googleCallback (code : Text) (state : Token)
  | oauthExchange (code : Token)
  | federatedLogin (idToken : Text) (provider : FederatedProvider) (ctx : AuthContext)
  | requestLinkOtp (challengeToken : Token) (code : Text)
  | confirmLink (challengeToken : Token) (otp : Text) (ctx : AuthContext)
  | completeRegistration (challengeToken : Token) (ctx : AuthContext)
  | refresh (refreshToken : RefreshToken)
  | logout (sessionId : SessionId)
  | revokeSession (userId : UserId) (sessionId : SessionId)
  | revokeAllSessionsForSecurityEvent (userId : UserId)
  | resetPassword (token : Token) (newPassword : Password)
  | changePassword (userId : UserId) (currentSessionId : SessionId) (currentPassword newPassword : Password)
  | elsewhere

inductive Response where
  | login (result : LoginResult)
  | token (token : Token)
  | federated (outcome : FederatedLoginOutcome)
  | refreshed (tokens : TokenPair)
  | done
  deriving DecidableEq, Repr

def Request.program : Request → AuthM Response
  | .login email password ctx => return .login (← Service.login config email password ctx)
  | .verify2fa challengeToken code ctx => return .login (← Service.verify2fa config challengeToken code ctx)
  | .verifyOtp email code ctx => return .login (← Service.verifyOtp config email code ctx)
  | .googleStart => return .token (← Service.googleStart config)
  | .googleCallback code state => return .token (← Service.googleCallback config code state)
  | .oauthExchange code => return .login (← Service.oauthExchange code)
  | .federatedLogin idToken provider ctx => return .federated (← Service.federatedLogin config idToken provider ctx)
  | .requestLinkOtp challengeToken code => do
    Service.requestLinkOtp challengeToken code
    return .done
  | .confirmLink challengeToken otp ctx => return .federated (← Service.confirmLink config challengeToken otp ctx)
  | .completeRegistration challengeToken ctx =>
    return .federated (← Service.completeRegistration config challengeToken ctx)
  | .refresh refreshToken => return .refreshed (← Service.refresh config refreshToken)
  | .logout sessionId => do
    Service.logout config sessionId
    return .done
  | .revokeSession userId sessionId => do
    Service.revokeSession config userId sessionId
    return .done
  | .revokeAllSessionsForSecurityEvent userId => do
    revokeAllAndDenylist config userId none
    return .done
  | .resetPassword token newPassword => do
    Service.resetPassword config token newPassword
    return .done
  | .changePassword userId currentSessionId currentPassword newPassword => do
    Service.changePassword config userId currentSessionId currentPassword newPassword
    return .done
  | .elsewhere => do
    ask .elsewhere
    return .done

/-- The request of each number. -/
def IsRequest (requests : ℕ → Request) (pid : ℕ) (program : AuthM Response) : Prop :=
  program = (requests pid).program config

end Exchange.Auth.Service
