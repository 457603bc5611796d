import Exchange.AuthRules

/-! Codes sent by email, for a login and to verify an address. A guess is
compared with the code as it was read; then the attempt is counted, or the code
is used up, in a call of its own. -/
namespace Exchange.Auth.Otp
open Service Async
open Ledger (UserId)

/-! ## Requests -/

/-- Counts a wrong code for a verification; no login attempt is recorded. -/
def rejectVerification (id : ℕ) : AuthM Unit := do
  let updated ← ask (.incrementAttempts id)
  if updated.maxAttempts ≤ updated.attempts then throw otpLocked else throw genericInvalid

/-- The code is the newest one, unused, in time, and right; it is used up. -/
def consumeBy (reject : ℕ → AuthM Unit) (email code : Text) (purpose : EmailOtpPurpose) : AuthM Unit := do
  let found ← ask (.findLatestActiveOtp email purpose)
  match found with
  | none => throw genericInvalid
  | some (id, otp) => do
    let now ← ask .now
    if otp.usedAt.isSome then throw genericInvalid
    else if otp.expiresAt ≤ now then throw (.unauthorizedError "Invalid or expired code" "OTP_EXPIRED")
    else if otp.maxAttempts ≤ otp.attempts then throw otpLocked
    else if otp.otpHash ≠ (Text.toLowerCase email, code) then reject id
    else do
      let _ ← ask (.markUsed id)
      return ()

/-- A login does the same. -/
theorem consumeOtp_eq (email code : Text) (purpose : EmailOtpPurpose) (ip : Option Text) :
    consumeOtp email code purpose ip = consumeBy (fun id => rejectOtp email id ip) email code purpose := rfl

def consumeVerification (email code : Text) : AuthM Unit :=
  consumeBy rejectVerification email code .emailVerification

/-- Answers whether the address was verified already; issues no session. -/
def confirmVerification (email code : Text) : AuthM Bool := do
  let normalized := normalizeEmail email
  let found ← ask (.findUserByEmail normalized)
  match found.filter fun row => row.2.deletedAt.isNone with
  | none => throw genericInvalid
  | some (userId, user) =>
    if user.emailVerifiedAt.isSome then return true
    else do
      consumeVerification normalized code
      ask (.setEmailVerified userId)
      return false

inductive OtpRequest where
  | verifyOtp (email code : Text) (ctx : AuthContext)
  | confirmVerification (email code : Text)

/-- What the guess of a request is compared by. -/
def OtpRequest.hash : OtpRequest → Text × Text
  | .verifyOtp email code _ => (Text.toLowerCase (normalizeEmail email), code)
  | .confirmVerification email code => (Text.toLowerCase (normalizeEmail email), code)

def OtpRequest.program (config : Config) : OtpRequest → AuthM Response
  | .verifyOtp email code ctx => return .login (← Service.verifyOtp config email code ctx)
  | .confirmVerification email code => do
    let _ ← Otp.confirmVerification email code
    return .done

/-- The request of each number. -/
def IsOtpRequest (config : Config) (requests : ℕ → OtpRequest) (pid : ℕ) (program : AuthM Response) : Prop :=
  program = (requests pid).program config

/-! ## The rules -/

/-- The calls of these requests that leave the codes alone. -/
def sparesOtps : AuthCall → Bool
  | .now => true
  | .findUserByEmail _ => true
  | .findLatestActiveOtp _ _ => true
  | .recordLoginAttempt _ _ _ => true
  | .setEmailVerified _ => true
  | .createUser _ => true
  | .createSession _ _ => true
  | .findOtherActiveSessions _ _ => true
  | .findUnrevokedSessions _ _ => true
  | .revokeSessions _ => true
  | .redisSet _ _ _ => true
  | _ => false

/-- The code a request has just compared with a wrong guess, as it was read. -/
def OtpRequest.wrongGuess (request : OtpRequest) : Past → Option (ℕ × EmailOtp)
  | ⟨.now, .ok now⟩ :: ⟨.findLatestActiveOtp _ _, .ok (some (id, otp))⟩ :: _ =>
    if otp.usedAt.isNone && now < otp.expiresAt && otp.attempts < otp.maxAttempts && otp.otpHash ≠ request.hash
    then some (id, otp) else none
  | _ => none

/-- A request has compared this code with a wrong guess. -/
def OtpRequest.guessed (request : OtpRequest) (id : ℕ) (past : Past) : Bool :=
  past.tails.any fun suffix => (request.wrongGuess suffix).any fun row => row.1 = id

/-- The attempt was counted in the row of the code. -/
def isRecord (id : ℕ) : Answered AuthCall AuthCall.Reply Failure → Bool
  | ⟨.incrementAttempts other, .ok _⟩ => other = id
  | _ => false

/-- A request has counted an attempt. -/
def recorded (id : ℕ) (past : Past) : Bool := past.any (isRecord id)

/-- The calls a request may make. -/
inductive May (request : OtpRequest) (past : Past) : AuthCall → Prop
  | spares {call : AuthCall} (spares : sparesOtps call) : May request past call
  | incrementAttempts {id : ℕ} (guessed : request.guessed id past) (unrecorded : recorded id past = false) :
      May request past (.incrementAttempts id)
  | markUsed {id : ℕ} : May request past (.markUsed id)

section Rules
variable {config : Config} {request : OtpRequest} {past : Past} {α : Type}

theorem lawful_attempt {fallback : α} {program : AuthM α} (body : Lawful (May request) past program) :
    Lawful (May request) past (attempt fallback program) :=
  lawful_catch body fun _ _ => trivial

theorem denylist_lawful (reason : String) (ids : List SessionId) :
    Lawful (May request) past (denylist config reason ids) := by
  induction ids generalizing past with
  | nil => trivial
  | cons id rest ih => exact lawful_bind (lawful_attempt (lawful_ask (.spares rfl))) fun _ _ => ih

theorem revokeAll_lawful (userId : UserId) (exceptSessionId : Option SessionId) :
    Lawful (May request) past (revokeAllSessionsForUser userId exceptSessionId) := by
  refine lawful_bind (lawful_ask (.spares rfl)) fun ids later => ?_
  cases ids with
  | nil => trivial
  | cons id rest => exact lawful_bind (lawful_ask (.spares rfl)) fun _ _ => trivial

theorem revokeOther_lawful (userId : UserId) (sessionId : SessionId) :
    Lawful (May request) past (revokeOtherSessions config userId sessionId) := by
  refine lawful_bind (lawful_ask (.spares rfl)) fun others later => ?_
  cases others with
  | nil => trivial
  | cons id rest => exact lawful_bind (revokeAll_lawful userId _) fun _ _ => denylist_lawful _ _

theorem issueSession_lawful (userId : UserId) : Lawful (May request) past (issueSession config userId) :=
  lawful_bind (lawful_ask (.spares rfl)) fun _ _ => lawful_bind (lawful_ask (.spares rfl)) fun _ _ =>
    lawful_bind (lawful_attempt (revokeOther_lawful userId _)) fun _ _ => trivial

theorem assertMayLogin_lawful (user : User) : Lawful (May request) past (assertMayLogin user) := by
  unfold assertMayLogin
  split
  · trivial
  · split
    · trivial
    · trivial

theorem resolveOtpUser_lawful (email : Text) (existing : Option (UserId × User)) :
    Lawful (May request) past (resolveOtpUser email existing) := by
  rcases existing with _ | ⟨userId, user⟩
  · exact lawful_bind (lawful_ask (.spares rfl)) fun _ _ => lawful_bind (lawful_ask (.spares rfl)) fun _ _ => trivial
  · refine lawful_bind (assertMayLogin_lawful user) fun _ _ => lawful_bind ?_ fun _ _ => trivial
    unfold markEmailVerified
    split
    · exact lawful_ask (.spares rfl)
    · trivial

theorem lockedOrInvalid_lawful (updated : EmailOtp) :
    Lawful (May request) past (if updated.maxAttempts ≤ updated.attempts then throw otpLocked else throw genericInvalid :
      AuthM Unit) := by
  split
  · trivial
  · trivial

theorem rejectOtp_lawful {id : ℕ} (email : Text) (ip : Option Text) (guessed : request.guessed id past)
    (unrecorded : recorded id past = false) : Lawful (May request) past (rejectOtp email id ip) :=
  lawful_call (.incrementAttempts guessed unrecorded) fun updated => lawful_bind (lawful_ask (.spares rfl)) fun _ _ =>
    lockedOrInvalid_lawful updated

theorem rejectVerification_lawful {id : ℕ} (guessed : request.guessed id past)
    (unrecorded : recorded id past = false) : Lawful (May request) past (rejectVerification id) :=
  lawful_call (.incrementAttempts guessed unrecorded) fun updated => lockedOrInvalid_lawful updated

theorem guessed_cons {id : ℕ} {made : Answered AuthCall AuthCall.Reply Failure} :
    request.guessed id (made :: past) =
      ((request.wrongGuess (made :: past)).any (fun row => row.1 = id) || request.guessed id past) := by
  rw [OtpRequest.guessed, List.tails, List.any_cons]
  rfl

/-- What is rejected was compared. -/
theorem consumeBy_lawful {reject : ℕ → AuthM Unit} {email code : Text} {purpose : EmailOtpPurpose}
    (isHash : request.hash = (Text.toLowerCase email, code)) (unrecorded : ∀ id, recorded id past = false)
    (rejects : ∀ id later, request.guessed id later → recorded id later = false → Lawful (May request) later (reject id)) :
    Lawful (May request) past (consumeBy reject email code purpose) := by
  refine lawful_call (.spares rfl) fun found => ?_
  rcases found with _ | ⟨id, otp⟩
  · trivial
  refine lawful_call (.spares rfl) fun now => ?_
  split
  · trivial
  rename_i isUnused
  have unused : otp.usedAt = none := by simpa using isUnused
  split
  · trivial
  rename_i isInTime
  have inTime : now < otp.expiresAt := not_le.mp isInTime
  split
  · trivial
  rename_i isLeft
  have left : otp.attempts < otp.maxAttempts := not_le.mp isLeft
  split
  · rename_i wrong
    refine rejects id _ ?_ (unrecorded id)
    rw [guessed_cons, OtpRequest.wrongGuess, isHash]
    simp [unused, inTime, left, wrong]
  · exact lawful_call .markUsed fun _ => trivial

theorem verifyOtp_lawful (email code : Text) (ctx : AuthContext) :
    Lawful (May (.verifyOtp email code ctx)) [] (verifyOtp config email code ctx) := by
  have located : ensureLoginLocationIfRequired config ctx = throw (.appError
      "Location permission is required for account security." 400 "LOCATION_REQUIRED") ∨
        ensureLoginLocationIfRequired config ctx = return () := by
    unfold ensureLoginLocationIfRequired
    split
    · exact .inl rfl
    · exact .inr rfl
  unfold verifyOtp
  rcases located with isThrow | isReturn
  · rw [isThrow]
    trivial
  rw [isReturn]
  refine lawful_call (.spares rfl) fun existing => lawful_bind ?_ fun _ _ =>
    lawful_bind (resolveOtpUser_lawful _ existing) fun userId _ => lawful_bind (lawful_ask (.spares rfl)) fun _ _ =>
      lawful_bind (issueSession_lawful userId) fun _ _ => trivial
  rw [consumeOtp_eq]
  exact consumeBy_lawful rfl (fun _ => rfl) fun id later guessed unrecorded =>
    rejectOtp_lawful _ ctx.ip guessed unrecorded

theorem confirmVerification_lawful (email code : Text) :
    Lawful (May (.confirmVerification email code)) [] (confirmVerification email code) := by
  refine lawful_call (.spares rfl) fun found => ?_
  split
  · trivial
  split
  · trivial
  refine lawful_bind ?_ fun _ _ => lawful_bind (lawful_ask (.spares rfl)) fun _ _ => trivial
  exact consumeBy_lawful rfl (fun _ => rfl) fun id later guessed unrecorded =>
    rejectVerification_lawful guessed unrecorded

theorem isOtpRequest_obeys (config : Config) (requests : ℕ → OtpRequest) (pid : ℕ) (program : AuthM Response)
    (isRequest : IsOtpRequest config requests pid program) : program.Obeys (May (requests pid)) (fun _ _ => True) [] := by
  cases isRequest
  cases requests pid with
  | verifyOtp email code ctx => exact lawful_bind (verifyOtp_lawful email code ctx) fun _ _ => trivial
  | confirmVerification email code => exact lawful_bind (confirmVerification_lawful email code) fun _ _ => trivial

end Rules
end Exchange.Auth.Otp
