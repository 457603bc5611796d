import Exchange.AsyncDatabase
import Exchange.Ledger
import Exchange.Text
import Exchange.Users

/-! What authentication keeps: users with their credentials, sessions with the
hash of their refresh token, one-time codes, and keys in Redis that expire. A
hash stands for what it is a hash of, and what is random is the number of the
request that draws it. -/
namespace Exchange.Auth
open Ledger (UserId)

abbrev SessionId := ℕ

abbrev FamilyId := ℕ

/-- An opaque token, as its hash is looked up. -/
abbrev Token := ℕ

/-- A date, in milliseconds. -/
abbrev Time := ℕ

abbrev Password := ℕ

/-- The sealed secret of an authenticator. -/
abbrev Secret := ℕ

structure User where
  email : Text
  /-- The password a hash verifies; an unusable hash verifies none. -/
  passwordHash : Option Password
  status : UserStatus
  deletedAt : Option Time
  emailVerifiedAt : Option Time
  totpEnabled : Bool
  totpSecret : Option Secret
  deriving DecidableEq, Repr

/-- A signed refresh token; `jti` makes every one new. -/
structure RefreshToken where
  sub : UserId
  sid : SessionId
  fid : FamilyId
  jti : ℕ
  deriving DecidableEq, Repr

structure AuthSession where
  userId : UserId
  refreshHash : RefreshToken
  familyId : FamilyId
  expiresAt : Time
  revokedAt : Option Time
  deriving DecidableEq, Repr

structure LoginAttempt where
  email : Text
  ip : Option Text
  success : Bool
  createdAt : Time
  deriving DecidableEq, Repr

inductive EmailOtpPurpose where
  | login
  | signup
  | emailVerification
  deriving DecidableEq, Repr

structure EmailOtp where
  email : Text
  /-- The address and the code it was made of. -/
  otpHash : Text × Text
  purpose : EmailOtpPurpose
  expiresAt : Time
  usedAt : Option Time
  attempts : ℕ
  maxAttempts : ℕ
  createdAt : Time
  deriving DecidableEq, Repr

inductive FederatedProvider where
  | google
  | apple
  deriving DecidableEq, Repr

/-- The access token is known by its session. -/
structure TokenPair where
  accessToken : SessionId
  refreshToken : RefreshToken
  deriving DecidableEq, Repr

structure AuthResult where
  user : UserId
  tokens : TokenPair
  deriving DecidableEq, Repr

/-- What a federated sign-in that is not linked yet may be used for. -/
inductive ChallengePayload where
  | linkExisting (provider : FederatedProvider) (providerSubject email : Text) (existingUserId : UserId)
  | registerNew (provider : FederatedProvider) (providerSubject email : Text)
  deriving DecidableEq, Repr

structure StoredLinkOtp where
  hash : Text × Text
  attempts : ℕ
  expiresAt : Time
  deriving DecidableEq, Repr

/-! ## Redis -/

inductive RedisKey where
  | loginChallenge (token : Token)
  | secondFactorFail (userId : UserId)
  | reset (token : Token)
  | oauthState (state : Token)
  | oauthExchange (code : Token)
  | federatedChallenge (token : Token)
  | linkOtp (token : Token)
  | sessionRevoked (sessionId : SessionId)
  deriving DecidableEq, Repr

inductive RedisValue where
  | userId (userId : UserId)
  | verifier
  | result (result : AuthResult)
  | challenge (payload : ChallengePayload)
  | linkOtp (stored : StoredLinkOtp)
  | count (failures : ℕ)
  | reason (code : String)
  deriving DecidableEq, Repr

/-- What the rest of the platform writes too. -/
structure Tables where
  users : Table UserId User
  loginAttempts : List LoginAttempt
  emailOtps : Table ℕ EmailOtp
  /-- Unused backup codes. -/
  recoveryCodes : List (UserId × Text)
  /-- Users by their subject at Google. -/
  oauthAccounts : Table Text UserId
  federatedIdentities : Table (FederatedProvider × Text) UserId
  /-- A value with the time its key expires. -/
  redis : Table RedisKey (RedisValue × Time)

structure Store where
  /-- The clock of the database and of Redis. -/
  now : Time
  tables : Tables
  sessions : Table SessionId AuthSession

/-- The columns that decide whether, and how, a user may log in. -/
def User.gates (user : User) : UserStatus × Option Time × Bool := (user.status, user.deletedAt, user.totpEnabled)

/-! ## Queries -/

/-- The column is `citext`. -/
def findUserByEmail (s : Store) (email : Text) : Option (UserId × User) :=
  s.tables.users.rows.find? fun (_, user) => Text.toLowerCase user.email = Text.toLowerCase email

/-- `OR`, `AND` and an absent `ip` as Prisma reads them. -/
def countRecentFailedAttempts (s : Store) (email : Option Text) (ip : Option Text) (since : Time) : ℕ :=
  s.tables.loginAttempts.countP fun attempt =>
    email.all (fun email => Text.toLowerCase attempt.email = Text.toLowerCase email) &&
      (ip.isNone || attempt.ip = ip) && !attempt.success && since ≤ attempt.createdAt

/-- The newest code that matches; of two of the same time either may come first. -/
def findLatestActiveByEmail (s : Store) (email : Text) (purpose : EmailOtpPurpose) : Option (ℕ × EmailOtp) :=
  (s.tables.emailOtps.rows.filter fun (_, otp) =>
    otp.email = email && otp.purpose = purpose && otp.usedAt.isNone).foldl (fun latest row =>
      match latest with
      | some found => if found.2.createdAt < row.2.createdAt then some row else some found
      | none => some row) none

/-- Not revoked and not expired. -/
def AuthSession.isActive (session : AuthSession) (now : Time) : Bool :=
  session.revokedAt.isNone && now < session.expiresAt

def findOtherActiveSessions (s : Store) (userId : UserId) (exceptSessionId : SessionId) : List SessionId :=
  (s.sessions.rows.filter fun (id, session) =>
    session.userId = userId && id ≠ exceptSessionId && session.isActive s.now).map Prod.fst

/-- Expired sessions too. -/
def findUnrevokedSessions (s : Store) (userId : UserId) (exceptSessionId : Option SessionId) : List SessionId :=
  (s.sessions.rows.filter fun (id, session) =>
    session.userId = userId && session.revokedAt.isNone && exceptSessionId ≠ some id).map Prod.fst

def redisGet (s : Store) (key : RedisKey) : Option RedisValue :=
  ((s.tables.redis.lookup key).filter fun entry => s.now < entry.2).map Prod.fst

/-! ## Writes -/

def Store.setUsers (s : Store) (users : Table UserId User) : Store := { s with tables := { s.tables with users } }

def Store.setRedis (s : Store) (redis : Table RedisKey (RedisValue × Time)) : Store :=
  { s with tables := { s.tables with redis } }

def Store.setOtps (s : Store) (emailOtps : Table ℕ EmailOtp) : Store :=
  { s with tables := { s.tables with emailOtps } }

/-- Revokes the sessions that match; `revokedAt` is set again on those that are
revoked already. -/
def Store.revoke (s : Store) (isRevoked : SessionId → AuthSession → Bool) : Store :=
  { s with sessions := s.sessions.mapRows fun id session =>
      if isRevoked id session then { session with revokedAt := some s.now } else session }

/-- A new user, with defaults; the email is unique. -/
def createUser (id : UserId) (email : Text) (emailVerifiedAt : Option Time) (s : Store) :
    Except Failure ((UserId × User) × Store) :=
  if (findUserByEmail s email).isSome || (s.tables.users.lookup id).isSome then .error .uniqueViolation
  else
    let user : User := ⟨email, none, .active, none, emailVerifiedAt, false, none⟩
    .ok ((id, user), s.setUsers (s.tables.users.insert id user))

/-- The session row and its first token; `id` is the number of the request. -/
def createSession (id : SessionId) (userId : UserId) (expiresAt : Time) (s : Store) :
    Except Failure (RefreshToken × Store) :=
  if (s.sessions.lookup id).isSome then .error .uniqueViolation
  else
    let token : RefreshToken := ⟨userId, id, id, id⟩
    .ok (token, { s with sessions := s.sessions.insert id ⟨userId, token, id, expiresAt, none⟩ })

/-- Compare and swap of the refresh hash; answers with the number of rows. -/
def rotateSessionAtomic (id : SessionId) (expected token : RefreshToken) (expiresAt : Time) (s : Store) :
    ℕ × Store :=
  match (s.sessions.lookup id).filter fun session => session.refreshHash = expected && session.revokedAt.isNone with
  | some session =>
    (1, { s with sessions := s.sessions.insert id { session with refreshHash := token, expiresAt } })
  | none => (0, s)

/-- A link of an account; its key is unique. -/
def link {κ : Type} [DecidableEq κ] (key : κ) (userId : UserId) (links : Table κ UserId) :
    Except Failure (Table κ UserId) :=
  if (links.lookup key).isSome then .error .uniqueViolation else .ok (links.insert key userId)

def linkOAuthAccount (userId : UserId) (sub : Text) (s : Store) : Except Failure (Unit × Store) := do
  let oauthAccounts ← link sub userId s.tables.oauthAccounts
  return ((), { s with tables := { s.tables with oauthAccounts } })

def linkFederatedIdentity (userId : UserId) (provider : FederatedProvider) (subject : Text) (s : Store) :
    Except Failure (Unit × Store) := do
  let federatedIdentities ← link (provider, subject) userId s.tables.federatedIdentities
  return ((), { s with tables := { s.tables with federatedIdentities } })

def modifyOtp (id : ℕ) (change : EmailOtp → EmailOtp) (s : Store) : Except Failure (EmailOtp × Store) :=
  match s.tables.emailOtps.lookup id with
  | some otp => .ok (change otp, s.setOtps (s.tables.emailOtps.insert id (change otp)))
  | none => .error (.prisma "P2025")

def modifyUser (id : UserId) (change : User → User) (s : Store) : Except Failure (Unit × Store) :=
  match s.tables.users.lookup id with
  | some user => .ok ((), s.setUsers (s.tables.users.insert id (change user)))
  | none => .error (.prisma "P2025")

def userOf (s : Store) (userId : Option UserId) : Option (UserId × User) :=
  userId.bind fun id => (s.tables.users.lookup id).map fun user => (id, user)

/-! ## Calls -/

structure GoogleProfile where
  sub : Text
  email : Text
  emailVerified : Bool
  deriving DecidableEq, Repr

structure VerifiedFederatedIdentity where
  provider : FederatedProvider
  subject : Text
  email : Text
  emailVerified : Bool
  deriving DecidableEq, Repr

/-- `elsewhere` is what the rest of the platform writes. -/
inductive AuthCall where
  | now
  | generateToken
  | findUserByEmail (email : Text)
  | findUserById (id : UserId)
  | countRecentFailedAttempts (email ip : Option Text) (since : Time)
  | recordLoginAttempt (email : Text) (ip : Option Text) (success : Bool)
  | setEmailVerified (userId : UserId)
  | createUser (email : Text)
  | createUserWithOAuth (email sub : Text)
  | createUserWithFederatedIdentity (email : Text) (provider : FederatedProvider) (subject : Text)
  | updatePassword (userId : UserId) (password : Password)
  | createSession (userId : UserId) (expiresAt : Time)
  | findOtherActiveSessions (userId : UserId) (exceptSessionId : SessionId)
  | findUnrevokedSessions (userId : UserId) (exceptSessionId : Option SessionId)
  | revokeSessions (ids : List SessionId)
  | findSessionById (id : SessionId)
  | rotateSessionAtomic (id : SessionId) (expected : RefreshToken) (sub : UserId) (fid : FamilyId) (expiresAt : Time)
  | revokeFamily (familyId : FamilyId)
  | revokeSession (id : SessionId)
  | revokeSessionForUser (userId : UserId) (id : SessionId)
  | redisGet (key : RedisKey)
  | redisGetDel (key : RedisKey)
  | redisSet (key : RedisKey) (value : RedisValue) (ttlMs : ℕ)
  | redisDel (key : RedisKey)
  | redisIncr (key : RedisKey) (ttlMs : ℕ)
  | exchangeCodeForProfile (code : Text)
  | verifyIdToken (idToken : Text)
  | findOAuthAccountWithUser (sub : Text)
  | linkOAuthAccount (userId : UserId) (sub : Text)
  | findFederatedIdentityWithUser (provider : FederatedProvider) (subject : Text)
  | linkFederatedIdentity (userId : UserId) (provider : FederatedProvider) (subject : Text)
  | findLatestActiveOtp (email : Text) (purpose : EmailOtpPurpose)
  | incrementAttempts (id : ℕ)
  | markUsed (id : ℕ)
  | consumeRecoveryCode (userId : UserId) (code : Text)
  | elsewhere
  deriving DecidableEq, Repr

abbrev AuthCall.Reply : AuthCall → Type
  | .now => Time
  | .generateToken => Token
  | .findUserByEmail _ => Option (UserId × User)
  | .findUserById _ => Option User
  | .countRecentFailedAttempts _ _ _ => ℕ
  | .createUser _ => UserId × User
  | .createUserWithOAuth _ _ => UserId × User
  | .createUserWithFederatedIdentity _ _ _ => UserId × User
  | .createSession _ _ => RefreshToken
  | .findOtherActiveSessions _ _ => List SessionId
  | .findUnrevokedSessions _ _ => List SessionId
  | .findSessionById _ => Option AuthSession
  | .rotateSessionAtomic _ _ _ _ _ => ℕ × RefreshToken
  | .revokeSessionForUser _ _ => ℕ
  | .redisGet _ => Option RedisValue
  | .redisGetDel _ => Option RedisValue
  | .exchangeCodeForProfile _ => GoogleProfile
  | .verifyIdToken _ => VerifiedFederatedIdentity
  | .findOAuthAccountWithUser _ => Option (UserId × User)
  | .findFederatedIdentityWithUser _ _ => Option (UserId × User)
  | .findLatestActiveOtp _ _ => Option (ℕ × EmailOtp)
  | .incrementAttempts _ => EmailOtp
  | .markUsed _ => EmailOtp
  | .consumeRecoveryCode _ _ => Bool
  | _ => Unit

/-- The time, what the identity providers say, and what the rest of the platform
makes of the tables. -/
structure World where
  now : Time
  profile : Except Failure GoogleProfile
  identity : Except Failure VerifiedFederatedIdentity
  tables : Tables

/-- What a call of request `pid` does. -/
def act (world : World) (pid : ℕ) : (call : AuthCall) → Store → Except Failure call.Reply × Store
  | .now, s => (.ok s.now, s)
  | .generateToken, s => (.ok pid, s)
  | .findUserByEmail email, s => (.ok (findUserByEmail s email), s)
  | .findUserById id, s => (.ok (s.tables.users.lookup id), s)
  | .countRecentFailedAttempts email ip since, s => (.ok (countRecentFailedAttempts s email ip since), s)
  | .recordLoginAttempt email ip success, s =>
    (.ok (), { s with tables := { s.tables with
      loginAttempts := ⟨email, ip, success, s.now⟩ :: s.tables.loginAttempts } })
  | .setEmailVerified userId, s =>
    (.ok (), s.setUsers (s.tables.users.modify userId fun user =>
      if user.emailVerifiedAt.isNone && user.deletedAt.isNone then { user with emailVerifiedAt := some s.now }
      else user))
  | .createUser email, s => Database.written s (createUser pid email none s)
  | .createUserWithOAuth email sub, s => Database.written s do
    let (row, s') ← createUser pid email (some s.now) s
    let (_, s'') ← linkOAuthAccount row.1 sub s'
    return (row, s'')
  | .createUserWithFederatedIdentity email provider subject, s => Database.written s do
    let (row, s') ← createUser pid email (some s.now) s
    let (_, s'') ← linkFederatedIdentity row.1 provider subject s'
    return (row, s'')
  | .updatePassword userId password, s =>
    Database.written s (modifyUser userId (fun user => { user with passwordHash := some password }) s)
  | .createSession userId expiresAt, s => Database.written s (createSession pid userId expiresAt s)
  | .findOtherActiveSessions userId exceptSessionId, s =>
    (.ok (findOtherActiveSessions s userId exceptSessionId), s)
  | .findUnrevokedSessions userId exceptSessionId, s => (.ok (findUnrevokedSessions s userId exceptSessionId), s)
  | .revokeSessions ids, s => (.ok (), s.revoke fun id _ => id ∈ ids)
  | .findSessionById id, s => (.ok (s.sessions.lookup id), s)
  | .rotateSessionAtomic id expected sub fid expiresAt, s =>
    let token : RefreshToken := ⟨sub, id, fid, pid⟩
    let (count, s') := rotateSessionAtomic id expected token expiresAt s
    (.ok (count, token), s')
  | .revokeFamily familyId, s =>
    (.ok (), s.revoke fun _ session => session.familyId = familyId && session.revokedAt.isNone)
  | .revokeSession id, s => (.ok (), s.revoke fun other session => other = id && session.revokedAt.isNone)
  | .revokeSessionForUser userId id, s =>
    (.ok ((s.sessions.lookup id).toList.countP fun session =>
        session.userId = userId && session.revokedAt.isNone),
      s.revoke fun other session => other = id && session.userId = userId && session.revokedAt.isNone)
  | .redisGet key, s => (.ok (redisGet s key), s)
  | .redisGetDel key, s => (.ok (redisGet s key), s.setRedis (s.tables.redis.erase key))
  | .redisSet key value ttlMs, s => (.ok (), s.setRedis (s.tables.redis.insert key (value, s.now + ttlMs)))
  | .redisDel key, s => (.ok (), s.setRedis (s.tables.redis.erase key))
  | .redisIncr key ttlMs, s =>
    let entry := match (s.tables.redis.lookup key).filter fun entry => s.now < entry.2 with
      | some (.count failures, expiry) => (.count (failures + 1), expiry)
      | _ => (.count 1, s.now + ttlMs)
    (.ok (), s.setRedis (s.tables.redis.insert key entry))
  | .exchangeCodeForProfile _, s => (world.profile, s)
  | .verifyIdToken _, s => (world.identity, s)
  | .findOAuthAccountWithUser sub, s => (.ok (userOf s (s.tables.oauthAccounts.lookup sub)), s)
  | .linkOAuthAccount userId sub, s => Database.written s (linkOAuthAccount userId sub s)
  | .findFederatedIdentityWithUser provider subject, s =>
    (.ok (userOf s (s.tables.federatedIdentities.lookup (provider, subject))), s)
  | .linkFederatedIdentity userId provider subject, s =>
    Database.written s (linkFederatedIdentity userId provider subject s)
  | .findLatestActiveOtp email purpose, s => (.ok (findLatestActiveByEmail s email purpose), s)
  | .incrementAttempts id, s =>
    Database.written s (modifyOtp id (fun otp => { otp with attempts := otp.attempts + 1 }) s)
  | .markUsed id, s => Database.written s (modifyOtp id (fun otp => { otp with usedAt := some s.now }) s)
  | .consumeRecoveryCode userId code, s =>
    (.ok ((userId, code) ∈ s.tables.recoveryCodes),
      { s with tables := { s.tables with recoveryCodes := s.tables.recoveryCodes.filter (· ≠ (userId, code)) } })
  | .elsewhere, s => (.ok (), { s with tables := world.tables })

/-- The clock does not go back. -/
def perform (world : World) (pid : ℕ) (call : AuthCall) (s : Store) : Except Failure call.Reply × Store :=
  act world pid call { s with now := max s.now world.now }

/-- A call as a request may see it. -/
abbrev Makes (pid : ℕ) (call : AuthCall) (s : Store) (reply : Except Failure call.Reply) (s' : Store) : Prop :=
  Database.Makes perform pid call s reply s'

abbrev AuthM := Async AuthCall AuthCall.Reply Failure

abbrev ask (call : AuthCall) : AuthM call.Reply := Async.call call

end Exchange.Auth
