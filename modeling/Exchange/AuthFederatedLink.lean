import Exchange.Failure
import Exchange.Text
import Mathlib.Tactic

/-! Linking a federated identity to an account by a code sent to its address.
The challenge and the code are two keys in Redis. The challenge is taken before
the code is compared, so the attempts that the code allows are never had. A call
reads the clock and both keys at one instant. -/
namespace Exchange.Auth.Federated

def CHALLENGE_TTL_MS : ℕ := 10 * 60 * 1000

def LINK_OTP_TTL_MS : ℕ := 10 * 60 * 1000

def LINK_OTP_MAX_ATTEMPTS : ℕ := 5

inductive Provider where
  | google
  | apple
  deriving DecidableEq, Repr

structure Identity where
  provider : Provider
  firebaseUid : Text
  providerSubject : Text
  email : Text
  deriving DecidableEq, Repr

inductive ChallengePayload where
  | linkExisting (identity : Identity) (existingUserId : ℕ)
  | registerNew (identity : Identity)
  deriving DecidableEq, Repr

/-- A keyed hash is given by what it was taken of. -/
structure StoredLinkOtp where
  hash : Text × Text
  attempts : ℕ
  /-- Absolute expiry, fixed at issuance. -/
  expiresAt : ℕ
  deriving DecidableEq, Repr

/-- A value in Redis and when it goes. -/
structure Entry (α : Type) where
  value : α
  expiry : ℕ
  deriving DecidableEq, Repr

/-- What stands under the two keys of one challenge token. -/
structure Keys where
  challenge : Option (Entry ChallengePayload)
  linkOtp : Option (Entry StoredLinkOtp)
  deriving DecidableEq, Repr

def authRedisGet (now : ℕ) (entry : Option (Entry α)) : Option α :=
  match entry with
  | some entry => if now < entry.expiry then some entry.value else none
  | none => none

def hashOtp (email code : Text) : Text × Text := (Text.toLowerCase email, code)

def verifyOtp (email code : Text) (storedHash : Text × Text) : Bool := hashOtp email code = storedHash

def challengeInvalid : Failure := .unauthorizedError "Invalid or expired link request" "FEDERATED_CHALLENGE_INVALID"

def otpInvalid : Failure := .unauthorizedError "Invalid or expired code" "OTP_INVALID"

def otpLocked : Failure := .forbiddenError "Too many incorrect attempts. Start over." "OTP_LOCKED"

/-- Of a token that was just made for an account. -/
def issueChallenge (now : ℕ) (identity : Identity) (existingUserId : ℕ) : Keys :=
  ⟨some ⟨.linkExisting identity existingUserId, now + CHALLENGE_TTL_MS⟩, none⟩

/-- For the purpose of linking; a challenge with another one stays. -/
def consumeChallenge (now : ℕ) (keys : Keys) : Option (Identity × ℕ) × Keys :=
  match authRedisGet now keys.challenge with
  | some (.linkExisting identity existingUserId) =>
    match authRedisGet now keys.challenge with
    | some _ => (some (identity, existingUserId), { keys with challenge := none })
    | none => (none, keys)
  | _ => (none, keys)

def peekChallenge (now : ℕ) (keys : Keys) : Except Failure (Identity × ℕ) :=
  match authRedisGet now keys.challenge with
  | some (.linkExisting identity existingUserId) => .ok (identity, existingUserId)
  | _ => .error challengeInvalid

/-- Answers the mail that is sent: its address and the code. -/
def requestLinkOtp (now : ℕ) (code : Text) (keys : Keys) : Except Failure (Text × Text) × Keys :=
  match peekChallenge now keys with
  | .error failure => (.error failure, keys)
  | .ok (identity, _) =>
    let expiresAt := now + LINK_OTP_TTL_MS
    (.ok (identity.email, code), { keys with linkOtp := some ⟨⟨hashOtp identity.email code, 0, expiresAt⟩, expiresAt⟩ })

inductive LoginResult where
  | session
  | twoFactorRequired
  deriving DecidableEq, Repr

/-- What the services of accounts answer a call. -/
structure Accounts where
  findUserById : Except Failure (Option ℕ)
  linkFederatedIdentity : Except Failure Unit
  recordAudit : Except Failure Unit
  authenticateExistingUser : Except Failure LoginResult

/-- Once the code is accepted. -/
def linkAccount (accounts : Accounts) : Except Failure LoginResult := do
  let user ← accounts.findUserById
  if user.isNone then throw (.unauthorizedError "Account not found" "FEDERATED_CHALLENGE_INVALID")
  accounts.linkFederatedIdentity
  accounts.recordAudit
  accounts.authenticateExistingUser

/-- Up to the comparison: the address and the code to compare with. -/
def openAttempt (now : ℕ) (keys : Keys) : Except Failure (Text × StoredLinkOtp) × Keys :=
  match consumeChallenge now keys with
  | (none, keys) => (.error challengeInvalid, keys)
  | (some (identity, _), keys) =>
    match authRedisGet now keys.linkOtp with
    | none => (.error otpInvalid, keys)
    | some stored =>
      if stored.expiresAt ≤ now then (.error otpInvalid, { keys with linkOtp := none })
      else if LINK_OTP_MAX_ATTEMPTS ≤ stored.attempts then (.error otpLocked, { keys with linkOtp := none })
      else (.ok (identity.email, stored), keys)

def confirmLink (now : ℕ) (otp : Text) (accounts : Accounts) (keys : Keys) : Except Failure LoginResult × Keys :=
  match openAttempt now keys with
  | (.error failure, keys) => (.error failure, keys)
  | (.ok (email, stored), keys) =>
    if verifyOtp email otp stored.hash then (linkAccount accounts, { keys with linkOtp := none })
    else
      let remainingTtlMs := max 1 (stored.expiresAt - now)
      (.error otpInvalid,
        { keys with linkOtp := some ⟨{ stored with attempts := stored.attempts + 1 }, now + remainingTtlMs⟩ })

/-! ## Runs -/

inductive Call where
  /-- With the code that is drawn, should it come to that. -/
  | requestLinkOtp (code : Text)
  | confirmLink (otp : Text) (accounts : Accounts)

structure Event where
  now : ℕ
  call : Call

/-- A challenge and the calls on it, one after the other. -/
structure Run where
  issuedAt : ℕ
  identity : Identity
  existingUserId : ℕ
  events : List Event
  ordered : events.Pairwise fun first second => first.now ≤ second.now

/-- The code is compared with the one that was issued. -/
def isCompared (now : ℕ) (keys : Keys) : Bool := (openAttempt now keys).1.isOk

/-- It is compared and right. -/
def isAccepted (now : ℕ) (otp : Text) (keys : Keys) : Bool :=
  match (openAttempt now keys).1 with
  | .ok (email, stored) => verifyOtp email otp stored.hash
  | .error _ => false

/-- The code issued last, and what was done about it since. -/
structure Outstanding where
  issuedAt : ℕ
  code : Text
  /-- Wrong codes presented. -/
  wrong : ℕ
  /-- Of these, how many were compared. -/
  compared : ℕ
  used : Bool

structure Course where
  keys : Keys
  outstanding : Option Outstanding
  /-- How many codes were accepted. -/
  redeemed : ℕ

def Outstanding.presented (now : ℕ) (otp : Text) (keys : Keys) (issued : Outstanding) : Outstanding :=
  if isAccepted now otp keys then { issued with used := true }
  else if otp = issued.code then issued
  else { issued with wrong := issued.wrong + 1, compared := issued.compared + (isCompared now keys).toNat }

def Course.step (course : Course) (event : Event) : Course :=
  match event.call with
  | .requestLinkOtp code =>
    let (response, keys) := requestLinkOtp event.now code course.keys
    { course with
      keys
      outstanding := if response.isOk then some ⟨event.now, code, 0, 0, false⟩ else course.outstanding }
  | .confirmLink otp accounts =>
    { keys := (confirmLink event.now otp accounts course.keys).2
      outstanding := course.outstanding.map (Outstanding.presented event.now otp course.keys)
      redeemed := course.redeemed + (isAccepted event.now otp course.keys).toNat }

/-- After some of the calls. -/
def Run.course (run : Run) (events : List Event) : Course :=
  events.foldl Course.step ⟨issueChallenge run.issuedAt run.identity run.existingUserId, none, 0⟩

/-- Few guesses, one redemption, and a slip of the keyboard forgiven. -/
structure Fair (run : Run) : Prop where
  guesses : ∀ earlier later issued, run.events = earlier ++ later → (run.course earlier).outstanding = some issued →
    issued.compared ≤ LINK_OTP_MAX_ATTEMPTS
  once : ∀ earlier later, run.events = earlier ++ later → (run.course earlier).redeemed ≤ 1
  forgiving : ∀ earlier now accounts later issued,
    run.events = earlier ++ ⟨now, .confirmLink issued.code accounts⟩ :: later →
    (run.course earlier).outstanding = some issued → now < issued.issuedAt + LINK_OTP_TTL_MS →
    issued.wrong < LINK_OTP_MAX_ATTEMPTS → issued.used = false →
    (confirmLink now issued.code accounts (run.course earlier).keys).1 = linkAccount accounts ∧
      isAccepted now issued.code (run.course earlier).keys

/-! ## When it is -/

/-- The codes presented. -/
def presented (events : List Event) : List Text :=
  events.filterMap fun event =>
    match event.call with
    | .confirmLink otp _ => some otp
    | .requestLinkOtp _ => none

/-- Whether a code was presented, and the last one that was asked for by
`deadline` and before any was presented. -/
def issueStep (deadline : ℕ) (state : Bool × Option (ℕ × Text)) (event : Event) : Bool × Option (ℕ × Text) :=
  match event.call with
  | .confirmLink _ _ => (true, state.2)
  | .requestLinkOtp code =>
    if state.1 = false ∧ event.now < deadline then (false, some (event.now, code)) else state

def issuedCode (deadline : ℕ) (events : List Event) : Option (ℕ × Text) :=
  (events.foldl (issueStep deadline) (false, none)).2

def Run.deadline (run : Run) : ℕ := run.issuedAt + CHALLENGE_TTL_MS

/-- Whenever the code is presented for the first time in its ten minutes, with
fewer than five wrong ones before it, there was none before it, and the ten
minutes of the challenge are not over. -/
def Smooth (run : Run) : Prop :=
  ∀ earlier now code accounts later issuedAt,
    run.events = earlier ++ ⟨now, .confirmLink code accounts⟩ :: later →
    issuedCode run.deadline earlier = some (issuedAt, code) → now < issuedAt + LINK_OTP_TTL_MS →
    (presented earlier).countP (· ≠ code) < LINK_OTP_MAX_ATTEMPTS → code ∉ presented earlier →
    presented earlier = [] ∧ now < run.deadline

/-! ## One call -/

/-- The challenge is not there any more. -/
def Spent (now : ℕ) (keys : Keys) : Prop := authRedisGet now keys.challenge = none

theorem Spent.later {later : ℕ} (spent : Spent now keys) (le : now ≤ later) : Spent later keys := by
  obtain ⟨challenge, _⟩ := keys
  cases challenge with
  | none => rfl
  | some entry =>
    simp only [Spent, authRedisGet, ite_eq_right_iff, reduceCtorEq, imp_false, not_lt] at spent ⊢
    exact spent.trans le

theorem requestLinkOtp_spent (spent : Spent now keys) :
    requestLinkOtp now code keys = (.error challengeInvalid, keys) := by
  rw [Spent] at spent
  simp only [requestLinkOtp, peekChallenge, spent]

theorem openAttempt_spent (spent : Spent now keys) : openAttempt now keys = (.error challengeInvalid, keys) := by
  rw [Spent] at spent
  simp only [openAttempt, consumeChallenge, spent]

theorem confirmLink_spent (spent : Spent now keys) :
    confirmLink now otp accounts keys = (.error challengeInvalid, keys) := by
  simp only [confirmLink, openAttempt_spent spent]

theorem isAccepted_spent (spent : Spent now keys) : isAccepted now otp keys = false := by
  simp only [isAccepted, openAttempt_spent spent]

theorem isCompared_spent (spent : Spent now keys) : isCompared now keys = false := by
  rw [isCompared, openAttempt_spent spent]
  rfl

/-- The keys while no code was presented. -/
def freshKeys (identity : Identity) (existingUserId deadline : ℕ) (issued : Option (ℕ × Text)) : Keys where
  challenge := some ⟨.linkExisting identity existingUserId, deadline⟩
  linkOtp := issued.map fun issued =>
    ⟨⟨hashOtp identity.email issued.2, 0, issued.1 + LINK_OTP_TTL_MS⟩, issued.1 + LINK_OTP_TTL_MS⟩

section
variable {identity : Identity} {existingUserId deadline now : ℕ} {issued : Option (ℕ × Text)}

theorem requestLinkOtp_fresh (code : Text) :
    requestLinkOtp now code (freshKeys identity existingUserId deadline issued) =
      if now < deadline then
        (.ok (identity.email, code), freshKeys identity existingUserId deadline (some (now, code)))
      else (.error challengeInvalid, freshKeys identity existingUserId deadline issued) := by
  by_cases pending : now < deadline <;>
    simp [requestLinkOtp, peekChallenge, authRedisGet, freshKeys, pending]

/-- An attempt on a challenge that is pending, with a code that was not tried. -/
theorem openAttempt_pending (pending : now < deadline) (hash : Text × Text) (expiry : ℕ) :
    openAttempt now ⟨some ⟨.linkExisting identity existingUserId, deadline⟩, some ⟨⟨hash, 0, expiry⟩, expiry⟩⟩ =
      (if now < expiry then .ok (identity.email, ⟨hash, 0, expiry⟩) else .error otpInvalid,
        ⟨none, some ⟨⟨hash, 0, expiry⟩, expiry⟩⟩) := by
  by_cases alive : now < expiry
  · simp [openAttempt, consumeChallenge, authRedisGet, pending, alive, LINK_OTP_MAX_ATTEMPTS]
  · simp [openAttempt, consumeChallenge, authRedisGet, pending, alive]

/-- The first code presented takes the challenge, whatever it is. -/
theorem openAttempt_fresh :
    openAttempt now (freshKeys identity existingUserId deadline issued) =
      if now < deadline then
        (match issued with
          | some (issuedAt, code) =>
            if now < issuedAt + LINK_OTP_TTL_MS then
              .ok (identity.email, ⟨hashOtp identity.email code, 0, issuedAt + LINK_OTP_TTL_MS⟩)
            else .error otpInvalid
          | none => .error otpInvalid,
          { freshKeys identity existingUserId deadline issued with challenge := none })
      else (.error challengeInvalid, freshKeys identity existingUserId deadline issued) := by
  by_cases pending : now < deadline
  · rw [if_pos pending]
    cases issued with
    | none => simp [openAttempt, consumeChallenge, authRedisGet, freshKeys, pending]
    | some issued => exact openAttempt_pending pending (hashOtp identity.email issued.2) (issued.1 + LINK_OTP_TTL_MS)
  · simp [openAttempt, consumeChallenge, authRedisGet, freshKeys, pending]

/-- What follows the comparison leaves the challenge as it is. -/
theorem confirmLink_challenge (accounts : Accounts) (keys : Keys) :
    (confirmLink now otp accounts keys).2.challenge = (openAttempt now keys).2.challenge := by
  unfold confirmLink
  split
  · rename_i failed
    rw [failed]
  · rename_i opened
    rw [opened]
    split <;> rfl

theorem confirmLink_fresh_spent (accounts : Accounts) :
    Spent now (confirmLink now otp accounts (freshKeys identity existingUserId deadline issued)).2 := by
  rw [Spent, confirmLink_challenge, openAttempt_fresh]
  by_cases pending : now < deadline
  · rw [if_pos pending]
    rfl
  · rw [if_neg pending]
    simp [freshKeys, authRedisGet, pending]

theorem isAccepted_fresh : isAccepted now otp (freshKeys identity existingUserId deadline issued) = true ↔
    now < deadline ∧ ∃ issuedAt, issued = some (issuedAt, otp) ∧ now < issuedAt + LINK_OTP_TTL_MS := by
  rw [isAccepted, openAttempt_fresh]
  by_cases pending : now < deadline
  · cases issued with
    | none => simp [pending]
    | some issued =>
      obtain ⟨issuedAt, code⟩ := issued
      by_cases alive : now < issuedAt + LINK_OTP_TTL_MS
      · simp only [pending, alive, if_true, verifyOtp, hashOtp, decide_eq_true_eq, Prod.mk.injEq, true_and,
          Option.some.injEq]
        constructor
        · rintro rfl
          exact ⟨issuedAt, ⟨rfl, rfl⟩, alive⟩
        · rintro ⟨_, ⟨rfl, same⟩, _⟩
          exact same.symm
      · simp only [pending, alive, if_true, if_false, Bool.false_eq_true, true_and, Option.some.injEq, Prod.mk.injEq,
          false_iff, not_exists, not_and]
        rintro _ ⟨rfl, rfl⟩
        exact alive
  · simp [pending]

end

/-! ## All calls -/

theorem presented_snoc (events : List Event) (event : Event) :
    presented (events ++ [event]) = presented events ++ presented [event] := List.filterMap_append

theorem issueStep_presented (deadline : ℕ) (events : List Event) :
    (events.foldl (issueStep deadline) (false, none)).1 = false ↔ presented events = [] := by
  induction events using List.reverseRecOn with
  | nil => exact ⟨fun _ => rfl, fun _ => rfl⟩
  | append_singleton events event each =>
    obtain ⟨now, call⟩ := event
    rw [List.foldl_append, presented_snoc, List.foldl_cons, List.foldl_nil]
    cases call with
    | confirmLink otp accounts => simp [presented, issueStep]
    | requestLinkOtp code =>
      have same : presented [⟨now, .requestLinkOtp code⟩] = [] := rfl
      rw [same, List.append_nil, ← each, issueStep]
      split_ifs with issues
      · exact ⟨fun _ => issues.1, fun _ => rfl⟩
      · rfl

theorem issuedCode_request (deadline : ℕ) (events : List Event) :
    issuedCode deadline (events ++ [⟨now, .requestLinkOtp code⟩]) =
      if presented events = [] ∧ now < deadline then some (now, code) else issuedCode deadline events := by
  rw [issuedCode, List.foldl_append, List.foldl_cons, List.foldl_nil, issueStep]
  simp only [issueStep_presented]
  split_ifs <;> rfl

theorem issuedCode_confirm (deadline : ℕ) (events : List Event) :
    issuedCode deadline (events ++ [⟨now, .confirmLink otp accounts⟩]) = issuedCode deadline events := by
  rw [issuedCode, List.foldl_append]
  rfl

theorem Run.course_snoc (run : Run) (events : List Event) (event : Event) :
    run.course (events ++ [event]) = (run.course events).step event := by
  rw [Run.course, List.foldl_append]
  rfl

/-- What the calls so far left behind. -/
structure Standing (run : Run) (earlier : List Event) (course : Course) : Prop where
  fresh : presented earlier = [] → course.keys =
      freshKeys run.identity run.existingUserId run.deadline (issuedCode run.deadline earlier) ∧
    course.outstanding = (issuedCode run.deadline earlier).map (fun issued => ⟨issued.1, issued.2, 0, 0, false⟩) ∧
    course.redeemed = 0
  spent : presented earlier ≠ [] → ∀ now, (∀ event ∈ earlier, event.now ≤ now) → Spent now course.keys
  issued : course.outstanding.map (fun issued => (issued.issuedAt, issued.code)) = issuedCode run.deadline earlier
  wrong : ∀ issued, course.outstanding = some issued →
    issued.wrong = (presented earlier).countP (· ≠ issued.code)
  compared : ∀ issued, course.outstanding = some issued → issued.compared ≤ 1
  used : ∀ issued, course.outstanding = some issued → issued.used = true → issued.code ∈ presented earlier
  redeemed : course.redeemed ≤ 1

/-- A request that is refused changes nothing. -/
theorem step_refused {course : Course} {refusal : Failure}
    (refused : requestLinkOtp now code course.keys = (.error refusal, course.keys)) :
    course.step ⟨now, .requestLinkOtp code⟩ = course := by
  simp only [Course.step, refused]
  rfl

theorem standing_request (standing : Standing run earlier course) (latest : ∀ event ∈ earlier, event.now ≤ now) :
    Standing run (earlier ++ [⟨now, .requestLinkOtp code⟩]) (course.step ⟨now, .requestLinkOtp code⟩) := by
  have same : presented (earlier ++ [⟨now, .requestLinkOtp code⟩]) = presented earlier := by
    rw [presented_snoc]
    exact List.append_nil _
  by_cases untouched : presented earlier = []
  · obtain ⟨keys, outstanding, redeemed⟩ := standing.fresh untouched
    by_cases pending : now < run.deadline
    · have issued : issuedCode run.deadline (earlier ++ [⟨now, .requestLinkOtp code⟩]) = some (now, code) := by
        rw [issuedCode_request, if_pos ⟨untouched, pending⟩]
      have stepped : course.step ⟨now, .requestLinkOtp code⟩ =
          ⟨freshKeys run.identity run.existingUserId run.deadline (some (now, code)), some ⟨now, code, 0, 0, false⟩, 0⟩ := by
        simp only [Course.step, keys, requestLinkOtp_fresh, if_pos pending, redeemed]
        rfl
      rw [stepped]
      refine ⟨fun _ => ?_, fun touched => ?_, ?_, ?_, ?_, ?_, ?_⟩
      · rw [issued]
        exact ⟨rfl, rfl, rfl⟩
      · rw [same] at touched
        exact absurd untouched touched
      · rw [issued]
        rfl
      all_goals simp [same, untouched]
    · have issued : issuedCode run.deadline (earlier ++ [⟨now, .requestLinkOtp code⟩]) =
          issuedCode run.deadline earlier := by
        rw [issuedCode_request, if_neg fun both => pending both.2]
      have stepped : course.step ⟨now, .requestLinkOtp code⟩ = course :=
        step_refused (by rw [keys, requestLinkOtp_fresh, if_neg pending])
      rw [stepped]
      exact ⟨by rw [same, issued]; exact standing.fresh, by rw [same]; exact fun touched => absurd untouched touched,
        by rw [issued]; exact standing.issued, by rw [same]; exact standing.wrong, standing.compared,
        by rw [same]; exact standing.used, standing.redeemed⟩
  · have spent := standing.spent untouched now latest
    have issued : issuedCode run.deadline (earlier ++ [⟨now, .requestLinkOtp code⟩]) =
        issuedCode run.deadline earlier := by
      rw [issuedCode_request, if_neg fun both => untouched both.1]
    have stepped : course.step ⟨now, .requestLinkOtp code⟩ = course := step_refused (requestLinkOtp_spent spent)
    rw [stepped]
    refine ⟨by rw [same]; exact fun touched => absurd touched untouched, fun _ later bound => ?_,
      by rw [issued]; exact standing.issued, by rw [same]; exact standing.wrong, standing.compared,
      by rw [same]; exact standing.used, standing.redeemed⟩
    exact standing.spent untouched later fun event member => bound event (List.mem_append_left _ member)

@[simp] theorem Outstanding.presented_issuedAt (issued : Outstanding) :
    (issued.presented now otp keys).issuedAt = issued.issuedAt := by
  unfold Outstanding.presented
  split_ifs <;> rfl

@[simp] theorem Outstanding.presented_code (issued : Outstanding) :
    (issued.presented now otp keys).code = issued.code := by
  unfold Outstanding.presented
  split_ifs <;> rfl

/-- A code that is not accepted counts as wrong unless it is the right one. -/
theorem Outstanding.presented_wrong (issued : Outstanding)
    (right : isAccepted now otp keys = true → otp = issued.code) :
    (issued.presented now otp keys).wrong = issued.wrong + if otp ≠ issued.code then 1 else 0 := by
  unfold Outstanding.presented
  by_cases accepted : isAccepted now otp keys = true
  · rw [if_pos accepted, if_neg (not_not.mpr (right accepted))]
    rfl
  · rw [if_neg accepted]
    by_cases same : otp = issued.code
    · rw [if_pos same, if_neg (not_not.mpr same)]
      rfl
    · rw [if_neg same, if_pos same]

theorem Outstanding.presented_spent (issued : Outstanding) (spent : Spent now keys) :
    issued.presented now otp keys = { issued with wrong := issued.wrong + if otp ≠ issued.code then 1 else 0 } := by
  unfold Outstanding.presented
  rw [isAccepted_spent spent, isCompared_spent spent, if_neg Bool.false_ne_true]
  by_cases same : otp = issued.code
  · rw [if_pos same, if_neg (not_not.mpr same)]
    rfl
  · rw [if_neg same, if_pos same]
    rfl

theorem presented_confirm (earlier : List Event) (now : ℕ) (otp : Text) (accounts : Accounts) :
    presented (earlier ++ [⟨now, .confirmLink otp accounts⟩]) = presented earlier ++ [otp] := presented_snoc _ _

theorem countP_presented (earlier : List Event) (otp code : Text) :
    (presented earlier ++ [otp]).countP (· ≠ code) =
      (presented earlier).countP (· ≠ code) + if otp ≠ code then 1 else 0 := by
  rw [List.countP_append, List.countP_singleton]
  simp only [decide_eq_true_eq]

theorem standing_confirm (standing : Standing run earlier course) (latest : ∀ event ∈ earlier, event.now ≤ now) :
    Standing run (earlier ++ [⟨now, .confirmLink otp accounts⟩]) (course.step ⟨now, .confirmLink otp accounts⟩) := by
  have touched : presented (earlier ++ [⟨now, .confirmLink otp accounts⟩]) ≠ [] := by
    rw [presented_confirm]
    exact List.append_ne_nil_of_right_ne_nil _ (List.cons_ne_nil _ _)
  have issued : (course.step ⟨now, .confirmLink otp accounts⟩).outstanding.map
      (fun issued => (issued.issuedAt, issued.code)) =
        issuedCode run.deadline (earlier ++ [⟨now, .confirmLink otp accounts⟩]) := by
    rw [issuedCode_confirm, ← standing.issued]
    simp only [Course.step, Option.map_map, Function.comp_def, Outstanding.presented_issuedAt,
      Outstanding.presented_code]
  by_cases untouched : presented earlier = []
  · obtain ⟨keys, outstanding, redeemed⟩ := standing.fresh untouched
    have right : ∀ issued, course.outstanding = some issued →
        isAccepted now otp course.keys = true → otp = issued.code := by
      intro issued isIssued accepted
      rw [keys] at accepted
      obtain ⟨_, issuedAt, code, _⟩ := isAccepted_fresh.mp accepted
      rw [outstanding, code, Option.map_some, Option.some.injEq] at isIssued
      rw [← isIssued]
    have zero : ∀ issued, course.outstanding = some issued →
        issued.wrong = 0 ∧ issued.compared = 0 ∧ issued.used = false := by
      intro issued isIssued
      rw [outstanding] at isIssued
      obtain ⟨_, _, rfl⟩ := Option.map_eq_some_iff.mp isIssued
      exact ⟨rfl, rfl, rfl⟩
    refine ⟨fun fresh => absurd fresh touched, fun _ later bound => ?_, issued, ?_, ?_, ?_, ?_⟩
    · have spent : Spent now (confirmLink now otp accounts course.keys).2 := by
        rw [keys]
        exact confirmLink_fresh_spent accounts
      exact spent.later (bound _ List.mem_concat_self)
    · intro after isAfter
      obtain ⟨before, isBefore, rfl⟩ := Option.map_eq_some_iff.mp isAfter
      rw [Outstanding.presented_wrong before (right before isBefore), Outstanding.presented_code, presented_confirm,
        countP_presented, standing.wrong before isBefore]
    · intro after isAfter
      obtain ⟨before, isBefore, rfl⟩ := Option.map_eq_some_iff.mp isAfter
      obtain ⟨_, compared, _⟩ := zero before isBefore
      unfold Outstanding.presented
      split_ifs
      · exact compared.trans_le (Nat.zero_le 1)
      · exact compared.trans_le (Nat.zero_le 1)
      · simp only [compared, Nat.zero_add]
        exact Bool.toNat_le _
    · intro after isAfter used
      obtain ⟨before, isBefore, rfl⟩ := Option.map_eq_some_iff.mp isAfter
      obtain ⟨_, _, unused⟩ := zero before isBefore
      rw [Outstanding.presented_code, presented_confirm]
      unfold Outstanding.presented at used
      split_ifs at used with accepted same
      · rw [right before isBefore accepted]
        exact List.mem_concat_self
      · rw [unused] at used
        cases used
      · rw [unused] at used
        cases used
    · simp only [Course.step, redeemed, Nat.zero_add]
      exact Bool.toNat_le _
  · have spent := standing.spent untouched now latest
    refine ⟨fun fresh => absurd fresh touched, fun _ later bound => ?_, issued, ?_, ?_, ?_, ?_⟩
    · simp only [Course.step, confirmLink_spent spent]
      exact standing.spent untouched later fun event member => bound event (List.mem_append_left _ member)
    · intro after isAfter
      obtain ⟨before, isBefore, rfl⟩ := Option.map_eq_some_iff.mp isAfter
      rw [Outstanding.presented_spent before spent, presented_confirm, countP_presented,
        standing.wrong before isBefore]
    · intro after isAfter
      obtain ⟨before, isBefore, rfl⟩ := Option.map_eq_some_iff.mp isAfter
      rw [Outstanding.presented_spent before spent]
      exact standing.compared before isBefore
    · intro after isAfter used
      obtain ⟨before, isBefore, rfl⟩ := Option.map_eq_some_iff.mp isAfter
      rw [Outstanding.presented_spent before spent] at used ⊢
      rw [presented_confirm]
      exact List.mem_append_left _ (standing.used before isBefore used)
    · simp only [Course.step, isAccepted_spent spent]
      exact standing.redeemed

/-- Every course of calls leaves behind what it should. -/
theorem Run.standing (run : Run) (earlier : List Event)
    (ordered : earlier.Pairwise fun first second => first.now ≤ second.now) :
    Standing run earlier (run.course earlier) := by
  induction earlier using List.reverseRecOn with
  | nil =>
    refine ⟨fun _ => ⟨rfl, rfl, rfl⟩, fun touched => absurd rfl touched, rfl, ?_, ?_, ?_, Nat.zero_le 1⟩
    all_goals
      intro issued none
      cases none
  | append_singleton earlier event each =>
    rw [List.pairwise_append] at ordered
    obtain ⟨ordered, _, latest⟩ := ordered
    obtain ⟨now, call⟩ := event
    have bound : ∀ event ∈ earlier, event.now ≤ now := fun event member =>
      latest event member _ (List.mem_singleton_self _)
    rw [Run.course_snoc]
    cases call with
    | requestLinkOtp code => exact standing_request (each ordered) bound
    | confirmLink otp accounts => exact standing_confirm (each ordered) bound

/-! ## What becomes of the right code -/

theorem confirmLink_accepted (accepted : isAccepted now otp keys = true) :
    (confirmLink now otp accounts keys).1 = linkAccount accounts := by
  unfold isAccepted at accepted
  unfold confirmLink
  generalize openAttempt now keys = opened at accepted ⊢
  obtain ⟨result, keys⟩ := opened
  cases result with
  | error failure => cases accepted
  | ok pair => simp only [if_pos accepted]

/-- The right code, presented first of all and in time. -/
theorem accepted_iff (standing : Standing run earlier course) (latest : ∀ event ∈ earlier, event.now ≤ now)
    (issued : issuedCode run.deadline earlier = some (issuedAt, code)) (alive : now < issuedAt + LINK_OTP_TTL_MS) :
    isAccepted now code course.keys = true ↔ presented earlier = [] ∧ now < run.deadline := by
  by_cases untouched : presented earlier = []
  · rw [(standing.fresh untouched).1, isAccepted_fresh, issued]
    constructor
    · exact fun accepted => ⟨untouched, accepted.1⟩
    · exact fun fresh => ⟨fresh.2, issuedAt, rfl, alive⟩
  · rw [isAccepted_spent (standing.spent untouched now latest)]
    exact iff_of_false Bool.false_ne_true fun fresh => untouched fresh.1

theorem Run.ordered_prefix (run : Run) (whole : run.events = earlier ++ event :: later) :
    (earlier.Pairwise fun first second => first.now ≤ second.now) ∧ ∀ before ∈ earlier, before.now ≤ event.now := by
  have ordered := run.ordered
  rw [whole, List.pairwise_append] at ordered
  exact ⟨ordered.1, fun before member => ordered.2.2 before member event List.mem_cons_self⟩

/-- On a smooth run the right code is used as soon as it is presented. -/
theorem used_of_presented (run : Run) (smooth : Smooth run) (earlier : List Event)
    (whole : run.events = earlier ++ later) (isIssued : (run.course earlier).outstanding = some issued)
    (alive : ∀ event ∈ earlier, event.now < issued.issuedAt + LINK_OTP_TTL_MS)
    (few : issued.wrong < LINK_OTP_MAX_ATTEMPTS) (member : issued.code ∈ presented earlier) : issued.used = true := by
  induction earlier using List.reverseRecOn generalizing later issued with
  | nil => exact absurd member List.not_mem_nil
  | append_singleton earlier event each =>
    rw [List.append_assoc, List.singleton_append] at whole
    obtain ⟨ordered, latest⟩ := run.ordered_prefix whole
    have standing := run.standing earlier ordered
    have aliveBefore : ∀ event ∈ earlier, event.now < issued.issuedAt + LINK_OTP_TTL_MS :=
      fun event member => alive event (List.mem_append_left _ member)
    obtain ⟨now, call⟩ := event
    rw [Run.course_snoc] at isIssued
    cases call with
    | requestLinkOtp code =>
      have same : presented (earlier ++ [⟨now, .requestLinkOtp code⟩]) = presented earlier := by
        rw [presented_snoc]
        exact List.append_nil _
      rw [same] at member
      have spent := standing.spent (List.ne_nil_of_mem member) now latest
      simp only [Course.step, requestLinkOtp_spent spent] at isIssued
      exact each whole isIssued aliveBefore few member
    | confirmLink otp accounts =>
      obtain ⟨before, isBefore, rfl⟩ := Option.map_eq_some_iff.mp isIssued
      simp only [Outstanding.presented_issuedAt, Outstanding.presented_code] at alive aliveBefore member
      have fewBefore : before.wrong < LINK_OTP_MAX_ATTEMPTS := by
        refine lt_of_le_of_lt ?_ few
        unfold Outstanding.presented
        split_ifs
        · exact le_refl _
        · exact le_refl _
        · exact Nat.le_succ _
      have isCode : issuedCode run.deadline earlier = some (before.issuedAt, before.code) := by
        rw [← standing.issued, isBefore]
        rfl
      by_cases already : before.code ∈ presented earlier
      · have used := each whole isBefore aliveBefore fewBefore already
        unfold Outstanding.presented
        split_ifs
        · rfl
        · exact used
        · exact used
      · rw [presented_confirm, List.mem_append, List.mem_singleton] at member
        obtain rfl := member.resolve_left already
        have inTime := alive _ List.mem_concat_self
        have accepted := (accepted_iff standing latest isCode inTime).mpr
          (smooth earlier now before.code accounts later before.issuedAt whole isCode inTime
            (standing.wrong before isBefore ▸ fewBefore) already)
        rw [Outstanding.presented, if_pos accepted]

/-- Linking is fair just if the right code is never presented after a wrong one
that it should survive, nor after the challenge's own time. -/
theorem link_otp_fair_iff (run : Run) : Fair run ↔ Smooth run := by
  constructor
  · intro fair earlier now code accounts later issuedAt whole isCode alive few unpresented
    obtain ⟨ordered, latest⟩ := run.ordered_prefix whole
    have standing := run.standing earlier ordered
    obtain ⟨issued, isIssued, same⟩ := Option.map_eq_some_iff.mp (standing.issued.trans isCode)
    cases same
    have unused : issued.used = false := by
      refine eq_false_of_ne_true fun used => ?_
      exact unpresented (standing.used issued isIssued used)
    rw [← standing.wrong issued isIssued] at few
    have accepted := (fair.forgiving earlier now accounts later issued whole isIssued alive few unused).2
    exact (accepted_iff standing latest isCode alive).mp accepted
  · intro smooth
    refine ⟨?_, ?_, ?_⟩
    · intro earlier later issued whole isIssued
      have ordered := run.ordered
      rw [whole, List.pairwise_append] at ordered
      exact ((run.standing earlier ordered.1).compared issued isIssued).trans (by decide)
    · intro earlier later whole
      have ordered := run.ordered
      rw [whole, List.pairwise_append] at ordered
      exact (run.standing earlier ordered.1).redeemed
    · intro earlier now accounts later issued whole isIssued alive few unused
      obtain ⟨ordered, latest⟩ := run.ordered_prefix whole
      have standing := run.standing earlier ordered
      have isCode : issuedCode run.deadline earlier = some (issued.issuedAt, issued.code) := by
        rw [← standing.issued, isIssued]
        rfl
      have unpresented : issued.code ∉ presented earlier := by
        intro member
        have aliveBefore : ∀ event ∈ earlier, event.now < issued.issuedAt + LINK_OTP_TTL_MS :=
          fun event before => (latest event before).trans_lt alive
        rw [used_of_presented run smooth earlier whole isIssued aliveBefore few member] at unused
        cases unused
      rw [standing.wrong issued isIssued] at few
      have accepted := (accepted_iff standing latest isCode alive).mpr
        (smooth earlier now issued.code accounts later issued.issuedAt whole isCode alive few unpresented)
      exact ⟨confirmLink_accepted accepted, accepted⟩

/-- The code is asked for, mistyped once, and then typed right. -/
def mistypedRun : Run where
  issuedAt := 0
  identity := ⟨.google, "uid".toList, "subject".toList, "a@b.c".toList⟩
  existingUserId := 1
  events :=
    let accounts : Accounts := ⟨.ok (some 1), .ok (), .ok (), .ok .session⟩
    [⟨1000, .requestLinkOtp "482913".toList⟩, ⟨2000, .confirmLink "482931".toList accounts⟩,
      ⟨3000, .confirmLink "482913".toList accounts⟩]
  ordered := by decide

/-- The right code finds the challenge gone. -/
theorem mistyped_code_burns_challenge : ¬Fair mistypedRun := by
  intro fair
  have := fair.forgiving (mistypedRun.events.take 2) 3000 ⟨.ok (some 1), .ok (), .ok (), .ok .session⟩ []
    ⟨1000, "482913".toList, 1, 1, false⟩ rfl rfl (by decide) (by decide) rfl
  exact absurd this.2 (by decide)

end Exchange.Auth.Federated
