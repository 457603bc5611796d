import Exchange.AuthService

/-! The second factor of one user: enrolment with an authenticator, backup
codes, and the check of a code, whose failures are counted in Redis. A secret
is the number of the request that generates it. -/
namespace Exchange.UserSecurity
open Auth (Password Secret Time)
open Auth.Service (SECOND_FACTOR_MAX_FAILS normalizeBackupCode)

structure SecurityUser where
  password : Password
  totpEnabled : Bool
  totpSecretEnc : Option Secret
  deriving DecidableEq, Repr

/-- The failures counted at the key of the user, and whether the key expires. -/
structure FailureCounter where
  count : ℕ
  expires : Bool
  deriving DecidableEq, Repr

structure Store where
  user : Option SecurityUser
  /-- Unused backup codes. -/
  recoveryCodes : List Text
  failures : Option FailureCounter

/-- `expire` is Redis, which drops a key after its time. -/
inductive SecurityCall where
  | now
  | generateTotpSecret
  | generateBackupCodes
  | findUserById
  | setTotpSecret (secret : Secret)
  | enableTotp
  | disableTotp
  | replaceRecoveryCodes (codes : List Text)
  | consumeRecoveryCode (code : Text)
  | redisGet
  | redisIncr
  | redisPexpire
  | redisDel
  | expire
  deriving DecidableEq, Repr

abbrev SecurityCall.Reply : SecurityCall → Type
  | .now => Time
  | .generateTotpSecret => Secret
  | .generateBackupCodes => List Text
  | .findUserById => Option SecurityUser
  | .consumeRecoveryCode _ => Bool
  | .redisGet => Option ℕ
  | .redisIncr => ℕ
  | .expire => Bool
  | _ => Unit

/-- The time, and the codes that are drawn. -/
structure World where
  now : Time
  backupCodes : List Text

def updateUser (change : SecurityUser → SecurityUser) (s : Store) : Except Failure (Unit × Store) :=
  match s.user with
  | some user => .ok ((), { s with user := some (change user) })
  | none => .error (.prisma "P2025")

/-- Clears the secret, the flag and the codes in one transaction. -/
def disableTotp (s : Store) : Except Failure (Unit × Store) := do
  let (_, s') ← updateUser (fun user => { user with totpEnabled := false, totpSecretEnc := none }) s
  return ((), { s' with recoveryCodes := [] })

/-- Answers whether exactly one unused code was marked used. -/
def consumeRecoveryCode (code : Text) (s : Store) : Bool × Store :=
  (s.recoveryCodes.count code = 1, { s with recoveryCodes := s.recoveryCodes.filter (· ≠ code) })

/-- A key that is not there counts from one, and does not expire. -/
def redisIncr (s : Store) : ℕ × Store :=
  let counter : FailureCounter := match s.failures with
    | some counter => { counter with count := counter.count + 1 }
    | none => ⟨1, false⟩
  (counter.count, { s with failures := some counter })

/-- Answers whether the key was dropped. -/
def expire (s : Store) : Bool × Store :=
  if s.failures.any FailureCounter.expires then (true, { s with failures := none }) else (false, s)

/-- What a call of request `pid` does. -/
def perform (world : World) (pid : ℕ) : (call : SecurityCall) → Store → Except Failure call.Reply × Store
  | .now, s => (.ok world.now, s)
  | .generateTotpSecret, s => (.ok pid, s)
  | .generateBackupCodes, s => (.ok world.backupCodes, s)
  | .findUserById, s => (.ok s.user, s)
  | .setTotpSecret secret, s =>
    Database.written s (updateUser (fun user => { user with totpSecretEnc := some secret }) s)
  | .enableTotp, s => Database.written s (updateUser (fun user => { user with totpEnabled := true }) s)
  | .disableTotp, s => Database.written s (disableTotp s)
  | .replaceRecoveryCodes codes, s => (.ok (), { s with recoveryCodes := codes })
  | .consumeRecoveryCode code, s =>
    let (consumed, s') := consumeRecoveryCode code s
    (.ok consumed, s')
  | .redisGet, s => (.ok (s.failures.map FailureCounter.count), s)
  | .redisIncr, s =>
    let (count, s') := redisIncr s
    (.ok count, s')
  | .redisPexpire, s => (.ok (), { s with failures := s.failures.map fun counter => { counter with expires := true } })
  | .redisDel, s => (.ok (), { s with failures := none })
  | .expire, s =>
    let (dropped, s') := expire s
    (.ok dropped, s')

/-- A call as a request may see it. -/
abbrev Makes (pid : ℕ) (call : SecurityCall) (s : Store) (reply : Except Failure call.Reply) (s' : Store) : Prop :=
  Database.Makes perform pid call s reply s'

abbrev SecurityM := Async SecurityCall SecurityCall.Reply Failure

abbrev ask (call : SecurityCall) : SecurityM call.Reply := Async.call call

namespace Service

/-- Runs a call whose failure does not matter. -/
def attempt {α : Type} (fallback : α) (program : SecurityM α) : SecurityM α :=
  tryCatch program fun _ => return fallback

variable (verifyTotp : Secret → Time → Text → Bool)

inductive Method where
  | totp
  | backupCode
  deriving DecidableEq, Repr

/-! ## The second factor

`verifyTotp` says whether a code is one of a secret at a time. -/

/-- A counter that cannot be read does not lock. -/
def assertSecondFactorNotLocked : SecurityM Unit := do
  let raw ← attempt none (ask .redisGet)
  if SECOND_FACTOR_MAX_FAILS ≤ raw.getD 0 then
    throw (.appError "Too many 2FA attempts. Please try again later." 429 "TWO_FA_LOCKED")
  else return ()

/-- The first failure starts the window. -/
def recordSecondFactorFailure : SecurityM Unit := do
  let count ← attempt 0 (ask .redisIncr)
  if count = 1 then attempt () (ask .redisPexpire) else return ()

def clearSecondFactorFailures : SecurityM Unit := attempt () (ask .redisDel)

/-- Whether the code is a current one of the authenticator. -/
def matchesTotp (user : SecurityUser) (code : Text) : SecurityM Bool :=
  match user.totpSecretEnc with
  | none => return false
  | some secret => do
    let now ← ask .now
    return verifyTotp secret now code

/-- A backup code, where it looks like one, is used up. -/
def consumeBackupCode (code : Text) : SecurityM (Option Method) := do
  let normalized := normalizeBackupCode code
  if 8 ≤ normalized.length then do
    let consumed ← ask (.consumeRecoveryCode normalized)
    if consumed then do
      clearSecondFactorFailures
      return some .backupCode
    else do
      recordSecondFactorFailure
      return none
  else do
    recordSecondFactorFailure
    return none

/-- Which factor the code is of, if any. -/
def verifySecondFactor (code : Text) : SecurityM (Option Method) := do
  assertSecondFactorNotLocked
  let found ← ask .findUserById
  match found.filter SecurityUser.totpEnabled with
  | none => return none
  | some user => do
    let isCurrent ← matchesTotp verifyTotp user code
    if isCurrent then do
      clearSecondFactorFailures
      return some .totp
    else consumeBackupCode code

/-! ## Enrolment -/

/-- A secret is kept, not enabled yet. -/
def setup : SecurityM Secret := do
  let found ← ask .findUserById
  match found with
  | none => throw (.notFoundError "User not found")
  | some user =>
    if user.totpEnabled then throw (.conflictError "2FA is already enabled" "TWO_FA_ALREADY_ENABLED")
    else do
      let secret ← ask .generateTotpSecret
      ask (.setTotpSecret secret)
      return secret

/-- A code of the secret that was read enables whatever is stored. -/
def confirm (code : Text) : SecurityM (List Text) := do
  let found ← ask .findUserById
  match found with
  | none => throw (.notFoundError "User not found")
  | some user =>
    if user.totpEnabled then throw (.conflictError "2FA is already enabled" "TWO_FA_ALREADY_ENABLED")
    else match user.totpSecretEnc with
      | none => throw (.badRequestError "Start 2FA setup before confirming")
      | some secret => do
        let now ← ask .now
        if verifyTotp secret now code then do
          ask .enableTotp
          let backupCodes ← ask .generateBackupCodes
          ask (.replaceRecoveryCodes (backupCodes.map normalizeBackupCode))
          return backupCodes
        else throw (.unauthorizedError "Invalid 2FA code" "INVALID_TOTP")

/-- The code is looked at only with the right password. -/
def passwordAndCode (user : SecurityUser) (password : Password) (code : Text) : SecurityM (Option Method) :=
  if user.password = password then verifySecondFactor verifyTotp code else return none

/-- With the password and a current code. -/
def disable (password : Password) (code : Text) : SecurityM Unit := do
  let found ← ask .findUserById
  match found with
  | none => throw (.notFoundError "User not found")
  | some user =>
    if !user.totpEnabled then throw (.conflictError "2FA is not enabled" "TWO_FA_NOT_ENABLED")
    else do
      let secondFactor ← passwordAndCode verifyTotp user password code
      if secondFactor.isSome then ask .disableTotp
      else throw (.unauthorizedError "Password and a current 2FA code are required to disable 2FA"
        "TWO_FA_DISABLE_REJECTED")

/-! ## Requests -/

inductive Request where
  | verifySecondFactor (code : Text)
  | setup
  | confirm (code : Text)
  | disable (password : Password) (code : Text)
  | expire

inductive Response where
  | method (method : Option Method)
  | secret (secret : Secret)
  | backupCodes (codes : List Text)
  | done
  deriving DecidableEq, Repr

def Request.program : Request → SecurityM Response
  | .verifySecondFactor code => return .method (← Service.verifySecondFactor verifyTotp code)
  | .setup => return .secret (← Service.setup)
  | .confirm code => return .backupCodes (← Service.confirm verifyTotp code)
  | .disable password code => do
    Service.disable verifyTotp password code
    return .done
  | .expire => do
    let _ ← ask .expire
    return .done

/-- The request of each number. -/
def IsRequest (requests : ℕ → Request) (pid : ℕ) (program : SecurityM Response) : Prop :=
  program = (requests pid).program verifyTotp

end Service

open Service

/-! ## What calls do -/

variable {pid : ℕ} {call : SecurityCall} {reply : Except Failure call.Reply} {s s' : Store}

/-- Calls that write nothing. -/
def SecurityCall.isRead : SecurityCall → Bool
  | .now => true
  | .generateTotpSecret => true
  | .generateBackupCodes => true
  | .findUserById => true
  | .redisGet => true
  | _ => false

/-- What a call did, by its answer. -/
inductive Effect (s : Store) : Answered SecurityCall SecurityCall.Reply Failure → Store → Prop
  | failed {call : SecurityCall} {failure : Failure} : Effect s ⟨call, .error failure⟩ s
  | read {call : SecurityCall} {value : call.Reply} (isRead : call.isRead)
      (user : ∀ found, (⟨call, .ok value⟩ : Answered SecurityCall SecurityCall.Reply Failure) =
        ⟨.findUserById, .ok found⟩ → found = s.user) : Effect s ⟨call, .ok value⟩ s
  | stored {secret : Secret} {user : SecurityUser} (found : s.user = some user) :
      Effect s ⟨.setTotpSecret secret, .ok ()⟩ { s with user := some { user with totpSecretEnc := some secret } }
  | enabled {user : SecurityUser} (found : s.user = some user) :
      Effect s ⟨.enableTotp, .ok ()⟩ { s with user := some { user with totpEnabled := true } }
  | disabled {user : SecurityUser} (found : s.user = some user) :
      Effect s ⟨.disableTotp, .ok ()⟩
        ⟨some { user with totpEnabled := false, totpSecretEnc := none }, [], s.failures⟩
  | replaced {codes : List Text} : Effect s ⟨.replaceRecoveryCodes codes, .ok ()⟩ { s with recoveryCodes := codes }
  | consumed {code : Text} : Effect s ⟨.consumeRecoveryCode code, .ok (s.recoveryCodes.count code = 1)⟩
      { s with recoveryCodes := s.recoveryCodes.filter (· ≠ code) }
  | counted : Effect s ⟨.redisIncr, .ok (redisIncr s).1⟩ (redisIncr s).2
  | timed : Effect s ⟨.redisPexpire, .ok ()⟩
      { s with failures := s.failures.map fun counter => { counter with expires := true } }
  | cleared : Effect s ⟨.redisDel, .ok ()⟩ { s with failures := none }
  | expired : Effect s ⟨.expire, .ok (expire s).1⟩ (expire s).2

theorem updateUser_ok {change : SecurityUser → SecurityUser} (ok : updateUser change s = .ok ((), s')) :
    ∃ user, s.user = some user ∧ s' = { s with user := some (change user) } := by
  unfold updateUser at ok
  split at ok
  · rename_i user found
    cases ok
    exact ⟨user, found, rfl⟩
  · cases ok

/-- Every call has one of these effects. -/
theorem Makes.effect (makes : Makes pid call s reply s') : Effect s ⟨call, reply⟩ s' := by
  rcases makes with ⟨world, ran⟩ | ⟨⟨failure, -, rfl⟩, rfl⟩
  · cases call with
    | findUserById =>
      cases ran
      exact .read rfl fun found same => by cases same; rfl
    | now | generateTotpSecret | generateBackupCodes | redisGet =>
      cases ran
      exact .read rfl nofun
    | setTotpSecret secret =>
      rcases Database.written_cases ran with ⟨value, rfl, wrote⟩ | ⟨⟨failure, rfl, -⟩, rfl⟩
      · obtain ⟨user, found, rfl⟩ := updateUser_ok wrote
        exact .stored found
      · exact .failed
    | enableTotp =>
      rcases Database.written_cases ran with ⟨value, rfl, wrote⟩ | ⟨⟨failure, rfl, -⟩, rfl⟩
      · obtain ⟨user, found, rfl⟩ := updateUser_ok wrote
        exact .enabled found
      · exact .failed
    | disableTotp =>
      rcases Database.written_cases ran with ⟨value, rfl, wrote⟩ | ⟨⟨failure, rfl, -⟩, rfl⟩
      · simp only [disableTotp, except_bind_ok] at wrote
        obtain ⟨⟨_, s''⟩, updated, same⟩ := wrote
        obtain ⟨user, found, rfl⟩ := updateUser_ok updated
        cases same
        exact .disabled found
      · exact .failed
    | replaceRecoveryCodes codes =>
      cases ran
      exact .replaced
    | consumeRecoveryCode code =>
      cases ran
      exact .consumed
    | redisIncr =>
      cases ran
      exact .counted
    | redisPexpire =>
      cases ran
      exact .timed
    | redisDel =>
      cases ran
      exact .cleared
    | expire =>
      cases ran
      exact .expired
  · exact .failed

end Exchange.UserSecurity
