import Exchange.AuthEffects
import Exchange.AuthOtp

/-! Guesses of a code. The attempts are read with the code and counted after the
comparison, and the code is marked used whether or not it was used meanwhile:
both bounds hold for guesses that do not overlap. -/
namespace Exchange.Auth.Otp
open Service Async
open Ledger (UserId)

variable {config : Config} {requests : ℕ → OtpRequest} {request : OtpRequest} {id pid other : ℕ}
  {issued row : EmailOtp} {call : AuthCall} {reply : Except Failure call.Reply} {s s' : Store}
  {made : Answered AuthCall AuthCall.Reply Failure}

/-! ## What calls do to the codes -/

/-- What a call did to the codes, by its answer. -/
inductive Effect (s : Store) : Answered AuthCall AuthCall.Reply Failure → Store → Prop
  | failed {call : AuthCall} {failure : Failure} {s' : Store} (otps : s'.tables.emailOtps = s.tables.emailOtps) :
      Effect s ⟨call, .error failure⟩ s'
  | spared {call : AuthCall} {reply : Except Failure call.Reply} {s' : Store} (spares : sparesOtps call)
      (read : ∀ email purpose found, (⟨call, reply⟩ : Answered AuthCall AuthCall.Reply Failure) =
        ⟨.findLatestActiveOtp email purpose, .ok found⟩ → found = findLatestActiveByEmail s email purpose)
      (otps : s'.tables.emailOtps = s.tables.emailOtps) : Effect s ⟨call, reply⟩ s'
  | counted {id : ℕ} {otp : EmailOtp} {s' : Store} (found : s.tables.emailOtps.lookup id = some otp)
      (otps : s'.tables.emailOtps = s.tables.emailOtps.insert id { otp with attempts := otp.attempts + 1 }) :
      Effect s ⟨.incrementAttempts id, .ok { otp with attempts := otp.attempts + 1 }⟩ s'
  | marked {id : ℕ} {otp : EmailOtp} {usedAt : Time} {s' : Store} (found : s.tables.emailOtps.lookup id = some otp)
      (otps : s'.tables.emailOtps = s.tables.emailOtps.insert id { otp with usedAt := some usedAt }) :
      Effect s ⟨.markUsed id, .ok { otp with usedAt := some usedAt }⟩ s'

theorem createUser_otps {pid : ℕ} {email : Text} {verified : Option Time} {row : UserId × User}
    (ok : createUser pid email verified s = .ok (row, s')) : s'.tables.emailOtps = s.tables.emailOtps := by
  unfold createUser at ok
  split at ok
  · cases ok
  · cases ok
    rfl

theorem createSession_otps {pid : ℕ} {userId : UserId} {expiresAt : Time} {token : RefreshToken}
    (ok : createSession pid userId expiresAt s = .ok (token, s')) : s'.tables.emailOtps = s.tables.emailOtps := by
  unfold createSession at ok
  split at ok
  · cases ok
  · cases ok
    rfl

theorem perform_otps {world : World} (spares : sparesOtps call) (ran : perform world pid call s = (reply, s')) :
    s'.tables.emailOtps = s.tables.emailOtps := by
  cases call with
  | createUser email =>
    rcases Database.written_cases ran with ⟨value, -, wrote⟩ | ⟨-, rfl⟩
    · have same := createUser_otps wrote
      exact same
    · rfl
  | createSession userId expiresAt =>
    rcases Database.written_cases ran with ⟨value, -, wrote⟩ | ⟨-, rfl⟩
    · have same := createSession_otps wrote
      exact same
    · rfl
  | now | findUserByEmail | findLatestActiveOtp | recordLoginAttempt | setEmailVerified =>
    cases ran
    rfl
  | findOtherActiveSessions | findUnrevokedSessions | revokeSessions | redisSet =>
    cases ran
    rfl
  | _ => cases spares

theorem modifyOtp_ok {change : EmailOtp → EmailOtp} {otp : EmailOtp} (ok : modifyOtp id change s = .ok (otp, s')) :
    ∃ row, s.tables.emailOtps.lookup id = some row ∧ otp = change row ∧
      s'.tables.emailOtps = s.tables.emailOtps.insert id (change row) := by
  unfold modifyOtp at ok
  split at ok
  · rename_i row found
    cases ok
    exact ⟨row, found, rfl, rfl⟩
  · cases ok

/-- Every call of these requests has one of these effects. -/
theorem May.effect {past : Past} (may : May request past call) (makes : Makes pid call s reply s') :
    Effect s ⟨call, reply⟩ s' := by
  rcases makes with ⟨world, ran⟩ | ⟨⟨failure, -, rfl⟩, rfl⟩
  · cases may with
    | spares spares =>
      refine .spared spares (fun email purpose found same => ?_) (perform_otps spares ran)
      cases same
      cases ran
      rfl
    | @incrementAttempts id =>
      rcases Database.written_cases ran with ⟨otp, rfl, wrote⟩ | ⟨⟨failure, rfl, -⟩, rfl⟩
      · obtain ⟨row, found, rfl, otps⟩ := modifyOtp_ok wrote
        exact .counted found otps
      · exact .failed rfl
    | @markUsed id =>
      rcases Database.written_cases ran with ⟨otp, rfl, wrote⟩ | ⟨⟨failure, rfl, -⟩, rfl⟩
      · obtain ⟨row, found, rfl, otps⟩ := modifyOtp_ok wrote
        exact .marked found otps
      · exact .failed rfl
  · exact .failed rfl

/-- A fold that keeps what it has or takes the row ends with one of them. -/
theorem mem_of_foldl {α : Type} {step : Option α → α → Option α}
    (picks : ∀ latest row, step latest row = latest ∨ step latest row = some row) {rows : List α} {start : Option α}
    {last : α} (isLast : rows.foldl step start = some last) : start = some last ∨ last ∈ rows := by
  induction rows generalizing start with
  | nil => exact .inl isLast
  | cons head rest ih =>
    rcases ih isLast with isHead | member
    · rcases picks start head with same | taken
      · exact .inl (same ▸ isHead)
      · cases taken.symm.trans isHead
        exact .inr List.mem_cons_self
    · exact .inr (List.mem_cons_of_mem _ member)

/-- The newest code is one of the table. -/
theorem lookup_of_latest {email : Text} {purpose : EmailOtpPurpose}
    (isLatest : findLatestActiveByEmail s email purpose = some (id, row)) : s.tables.emailOtps.lookup id = some row := by
  refine (mem_of_foldl ?_ isLatest).elim nofun fun member => Table.mem_rows.mp (List.mem_of_mem_filter member)
  intro latest row
  cases latest with
  | none => exact .inr rfl
  | some found =>
    dsimp only
    split
    · exact .inr rfl
    · exact .inl rfl

/-! ## Rows -/

/-- The code was used up. -/
def isMark (id : ℕ) : Answered AuthCall AuthCall.Reply Failure → Bool
  | ⟨.markUsed other, .ok _⟩ => other = id
  | _ => false

/-- What a call does to the row of one code: its maximum stays, an attempt that
is counted is added, and once used it stays used. -/
theorem Effect.keepsRow (effect : Effect s made s') (found : s.tables.emailOtps.lookup id = some row) :
    ∃ row', s'.tables.emailOtps.lookup id = some row' ∧ row'.maxAttempts = row.maxAttempts ∧
      row'.attempts = row.attempts + (isRecord id made).toNat ∧ (row.usedAt.isSome || isMark id made) = row'.usedAt.isSome := by
  cases effect with
  | @failed call failure s' otps =>
    have noRecord : isRecord id ⟨call, .error failure⟩ = false := by cases call <;> rfl
    have noMark : isMark id ⟨call, .error failure⟩ = false := by cases call <;> rfl
    exact ⟨row, otps ▸ found, rfl, by rw [noRecord]; rfl, by rw [noMark, Bool.or_false]⟩
  | @spared call reply s' spares read otps =>
    have noRecord : isRecord id ⟨call, reply⟩ = false := by
      cases call with
      | incrementAttempts => cases spares
      | _ => rfl
    have noMark : isMark id ⟨call, reply⟩ = false := by
      cases call with
      | markUsed => cases spares
      | _ => rfl
    exact ⟨row, otps ▸ found, rfl, by rw [noRecord]; rfl, by rw [noMark, Bool.or_false]⟩
  | @counted other otp s' isFound otps =>
    by_cases same : other = id
    · subst same
      cases isFound.symm.trans found
      rw [otps]
      exact ⟨_, AList.lookup_insert _, rfl, by simp [isRecord], by simp [isMark]⟩
    · exact ⟨row, by rw [otps, AList.lookup_insert_ne (Ne.symm same), found], rfl, by simp [isRecord, same],
        by simp [isMark]⟩
  | @marked other otp usedAt s' isFound otps =>
    by_cases same : other = id
    · subst same
      cases isFound.symm.trans found
      rw [otps]
      exact ⟨_, AList.lookup_insert _, rfl, by simp [isRecord], by simp [isMark]⟩
    · exact ⟨row, by rw [otps, AList.lookup_insert_ne (Ne.symm same), found], rfl, by simp [isRecord],
        by simp [isMark, same]⟩

/-! ## Guesses -/

abbrev History := Logged ℕ AuthCall AuthCall.Reply Failure Store

abbrev OtpPool := Pool ℕ AuthCall AuthCall.Reply Failure Response History

variable {x : History} {pool : OtpPool}

/-- The requests that have compared this code with a wrong guess. -/
def guessers (requests : ℕ → OtpRequest) (id : ℕ) (x : History) : Finset ℕ :=
  (x.history.map Prod.fst).toFinset.filter fun pid => (requests pid).guessed id (x.past pid)

/-- Those of them whose attempt is not in the row. -/
def unrecorded (requests : ℕ → OtpRequest) (id : ℕ) (x : History) : Finset ℕ :=
  (guessers requests id x).filter fun pid => !recorded id (x.past pid)

theorem mem_guessers : pid ∈ guessers requests id x ↔ (requests pid).guessed id (x.past pid) := by
  rw [guessers, Finset.mem_filter, List.mem_toFinset]
  refine and_iff_right_of_imp fun guessed => ?_
  cases isPast : x.past pid with
  | nil =>
    rw [isPast] at guessed
    cases guessed
  | cons made rest =>
    exact List.mem_map.mpr ⟨(pid, made), Logged.mem_past.mp (isPast ▸ List.mem_cons_self), rfl⟩

theorem mem_unrecorded : pid ∈ unrecorded requests id x ↔
    (requests pid).guessed id (x.past pid) ∧ recorded id (x.past pid) = false := by
  rw [unrecorded, Finset.mem_filter, mem_guessers, Bool.not_eq_true']

/-- A call compares this code with a wrong guess. -/
def isGuess (request : OtpRequest) (id : ℕ) (past : Past) (made : Answered AuthCall AuthCall.Reply Failure) : Bool :=
  (request.wrongGuess (made :: past)).any fun row => row.1 = id

section Step
variable {past : Past}

theorem recorded_cons : recorded id (made :: past) = (isRecord id made || recorded id past) := rfl

theorem guessed_cons_isGuess :
    request.guessed id (made :: past) = (isGuess request id past made || request.guessed id past) := guessed_cons

variable (s' : Store)

/-- A guess adds its request. -/
theorem guessers_guess (guess : isGuess (requests pid) id (x.past pid) made) :
    guessers requests id ⟨s', (pid, made) :: x.history⟩ = insert pid (guessers requests id x) := by
  ext other
  rw [Finset.mem_insert, mem_guessers, mem_guessers]
  by_cases same : other = pid
  · subst same
    rw [Logged.past_made, if_pos rfl, guessed_cons_isGuess, guess]
    simp
  · rw [Logged.past_made, if_neg same]
    simp [same]

theorem guessers_other (noGuess : isGuess (requests pid) id (x.past pid) made = false) :
    guessers requests id ⟨s', (pid, made) :: x.history⟩ = guessers requests id x := by
  ext other
  rw [mem_guessers, mem_guessers]
  by_cases same : other = pid
  · subst same
    rw [Logged.past_made, if_pos rfl, guessed_cons_isGuess, noGuess, Bool.false_or]
  · rw [Logged.past_made, if_neg same]

/-- Neither a guess nor a count changes nothing. -/
theorem unrecorded_other (noGuess : isGuess (requests pid) id (x.past pid) made = false)
    (noRecord : isRecord id made = false) :
    unrecorded requests id ⟨s', (pid, made) :: x.history⟩ = unrecorded requests id x := by
  ext other
  rw [mem_unrecorded, mem_unrecorded]
  by_cases same : other = pid
  · subst same
    rw [Logged.past_made, if_pos rfl, guessed_cons_isGuess, recorded_cons, noGuess, noRecord, Bool.false_or, Bool.false_or]
  · rw [Logged.past_made, if_neg same]

theorem unrecorded_guess (guess : isGuess (requests pid) id (x.past pid) made) (noRecord : isRecord id made = false)
    (fresh : recorded id (x.past pid) = false) :
    unrecorded requests id ⟨s', (pid, made) :: x.history⟩ = insert pid (unrecorded requests id x) := by
  ext other
  rw [Finset.mem_insert, mem_unrecorded, mem_unrecorded]
  by_cases same : other = pid
  · subst same
    rw [Logged.past_made, if_pos rfl, guessed_cons_isGuess, recorded_cons, guess, noRecord, fresh]
    simp
  · rw [Logged.past_made, if_neg same]
    simp [same]

/-- What was counted stays counted. -/
theorem unrecorded_again (again : recorded id (x.past pid)) :
    unrecorded requests id ⟨s', (pid, made) :: x.history⟩ = unrecorded requests id x := by
  ext other
  rw [mem_unrecorded, mem_unrecorded]
  by_cases same : other = pid
  · subst same
    rw [Logged.past_made, if_pos rfl, recorded_cons, again]
    simp
  · rw [Logged.past_made, if_neg same]

theorem unrecorded_record (noGuess : isGuess (requests pid) id (x.past pid) made = false)
    (record : isRecord id made) :
    unrecorded requests id ⟨s', (pid, made) :: x.history⟩ = (unrecorded requests id x).erase pid := by
  ext other
  rw [Finset.mem_erase, mem_unrecorded, mem_unrecorded]
  by_cases same : other = pid
  · subst same
    rw [Logged.past_made, if_pos rfl, recorded_cons, record]
    simp
  · rw [Logged.past_made, if_neg same]
    simp [same]

end Step

/-! ## The bounds -/

def interleaved (pid : ℕ) (call : AuthCall) (x : History) (reply : Except Failure call.Reply) (s' : Store) : Prop :=
  Makes pid call x.store reply s'

/-- A wrong guess is compared while the row stands as it was read and every
earlier one is counted; a code is used up while it is unused. -/
def isOrderly (requests : ℕ → OtpRequest) (id : ℕ) (x : History) (pid : ℕ) :
    (call : AuthCall) → Except Failure call.Reply → Bool
  | .now, reply => ((requests pid).wrongGuess (⟨.now, reply⟩ :: x.past pid)).all fun (other, otp) =>
    other ≠ id || ((x.store.tables.emailOtps.lookup id).any (fun row => row.attempts = otp.attempts) &&
      unrecorded requests id x = ∅)
  | .markUsed other, _ => other ≠ id || (x.store.tables.emailOtps.lookup id).any fun row => row.usedAt.isNone
  | _, _ => true

def followed (requests : ℕ → OtpRequest) (id : ℕ) (pid : ℕ) (call : AuthCall) (x : History)
    (reply : Except Failure call.Reply) (s' : Store) : Prop :=
  Makes pid call x.store reply s' ∧ isOrderly requests id x pid call reply

/-- The code was issued. -/
def Opening (id : ℕ) (issued : EmailOtp) (s : Store) : Prop :=
  s.tables.emailOtps.lookup id = some issued ∧ issued.attempts = 0 ∧ issued.usedAt = none

/-- No more wrong guesses are compared than are allowed, and one request at most
succeeds with the code. -/
def Bounded (requests : ℕ → OtpRequest) (id : ℕ) (issued : EmailOtp) (pool : OtpPool) : Prop :=
  (guessers requests id pool.store).card ≤ issued.maxAttempts ∧
    ∀ pid pid' response response', pool.answerOf pid = some response → pool.answerOf pid' = some response' →
      (pool.store.past pid).any (isMark id) → (pool.store.past pid').any (isMark id) → pid = pid'

structure Counted (requests : ℕ → OtpRequest) (id : ℕ) (issued : EmailOtp) (x : History) : Prop where
  /-- Every wrong guess is in the row or on its way there. -/
  row : ∃ row, x.store.tables.emailOtps.lookup id = some row ∧ row.maxAttempts = issued.maxAttempts ∧
    row.attempts + (unrecorded requests id x).card = (guessers requests id x).card
  capped : (guessers requests id x).card ≤ issued.maxAttempts
  recorded : ∀ pid, recorded id (x.past pid) → (requests pid).guessed id (x.past pid)
  read : ∀ pid email purpose otp, ⟨.findLatestActiveOtp email purpose, .ok (some (id, otp))⟩ ∈ x.past pid →
    otp.maxAttempts = issued.maxAttempts

section Counted
variable {past : Past} {otp : EmailOtp}

/-- A wrong guess is compared with what was read, while attempts are left. -/
theorem wrongGuess_read (guess : request.wrongGuess (made :: past) = some (id, otp)) :
    (∃ now, made = ⟨.now, .ok now⟩) ∧ otp.attempts < otp.maxAttempts ∧
      ∃ email purpose, ⟨.findLatestActiveOtp email purpose, .ok (some (id, otp))⟩ ∈ past := by
  unfold OtpRequest.wrongGuess at guess
  split at guess
  · rename_i now email purpose id' otp' rest isPast
    obtain ⟨rfl, rfl⟩ := List.cons.inj isPast
    split at guess
    · rename_i holds
      cases guess
      simp only [Bool.and_eq_true, decide_eq_true_eq] at holds
      exact ⟨⟨now, rfl⟩, holds.1.2, email, purpose, List.mem_cons_self⟩
    · cases guess
  · cases guess

theorem guess_of_isGuess (guess : isGuess request id past made) :
    ∃ otp, request.wrongGuess (made :: past) = some (id, otp) := by
  rw [isGuess, Option.any_eq_true] at guess
  obtain ⟨⟨other, otp⟩, isGuess, same⟩ := guess
  cases of_decide_eq_true same
  exact ⟨otp, isGuess⟩

/-- A count comes after a guess that was not counted yet. -/
theorem May.of_isRecord (may : May request past call) (record : isRecord id ⟨call, reply⟩) :
    (∃ value, (⟨call, reply⟩ : Answered AuthCall AuthCall.Reply Failure) = ⟨.incrementAttempts id, .ok value⟩) ∧
      request.guessed id past ∧ recorded id past = false := by
  cases may with
  | spares spares =>
    cases call with
    | incrementAttempts => cases spares
    | _ => cases record
  | @incrementAttempts other guessed unrecorded =>
    cases reply with
    | error failure => cases record
    | ok value =>
      cases of_decide_eq_true record
      exact ⟨⟨value, rfl⟩, guessed, unrecorded⟩
  | markUsed => cases record

end Counted

section Counted
variable (counted : Counted requests id issued x) (may : May (requests pid) (x.past pid) call)
include counted may

theorem counted_recorded (s' : Store) (other : ℕ)
    (isRecorded : recorded id ((⟨s', (pid, ⟨call, reply⟩) :: x.history⟩ : History).past other)) :
    (requests other).guessed id ((⟨s', (pid, ⟨call, reply⟩) :: x.history⟩ : History).past other) := by
  rw [Logged.past_made] at isRecorded ⊢
  split
  · rename_i same
    subst same
    rw [if_pos rfl, recorded_cons, Bool.or_eq_true] at isRecorded
    rw [guessed_cons_isGuess, Bool.or_eq_true]
    rcases isRecorded with now | earlier
    · exact .inr (may.of_isRecord now).2.1
    · exact .inr (counted.recorded other earlier)
  · rename_i ne
    rw [if_neg ne] at isRecorded
    exact counted.recorded other isRecorded

theorem counted_read (makes : Makes pid call x.store reply s') (other : ℕ) (email : Text) (purpose : EmailOtpPurpose)
    (otp : EmailOtp) (member : ⟨.findLatestActiveOtp email purpose, .ok (some (id, otp))⟩ ∈
      (⟨s', (pid, ⟨call, reply⟩) :: x.history⟩ : History).past other) : otp.maxAttempts = issued.maxAttempts := by
  rcases Logged.mem_past_cons.mp member with ⟨isMade, -⟩ | earlier
  · obtain ⟨row, found, isMax, -⟩ := counted.row
    have effect := may.effect makes
    cases isMade
    cases effect with
    | spared spares read otps =>
      have isFound := lookup_of_latest (read _ _ _ rfl).symm
      cases found.symm.trans isFound
      exact isMax
  · exact counted.read other email purpose otp earlier

theorem counted_step (made : followed requests id pid call x reply s') :
    Counted requests id issued ⟨s', (pid, ⟨call, reply⟩) :: x.history⟩ := by
  obtain ⟨makes, orderly⟩ := made
  obtain ⟨row, found, isMax, balance⟩ := counted.row
  obtain ⟨row', found', isMax', attempts, -⟩ := (may.effect makes).keepsRow found
  have recorded' : ∀ other, recorded id ((⟨s', (pid, ⟨call, reply⟩) :: x.history⟩ : History).past other) →
      (requests other).guessed id ((⟨s', (pid, ⟨call, reply⟩) :: x.history⟩ : History).past other) :=
    fun other => counted_recorded counted may s' other
  have read' := counted_read counted may makes
  have max' : row'.maxAttempts = issued.maxAttempts := isMax'.trans isMax
  cases guess : isGuess (requests pid) id (x.past pid) ⟨call, reply⟩ with
  | true =>
    obtain ⟨otp, wrong⟩ := guess_of_isGuess guess
    obtain ⟨⟨now, isNow⟩, left, email, purpose, member⟩ := wrongGuess_read wrong
    cases isNow
    simp only [isOrderly, wrong, Option.all_some, ne_eq, not_true_eq_false, decide_false, Bool.false_or,
      Bool.and_eq_true, decide_eq_true_eq, found, Option.any_some] at orderly
    obtain ⟨isRead, isEmpty⟩ := orderly
    have room : row.attempts < issued.maxAttempts := counted.read pid email purpose otp member ▸ isRead ▸ left
    rw [isEmpty, Finset.card_empty, Nat.add_zero] at balance
    have isRow : row'.attempts = row.attempts := attempts
    cases again : recorded id (x.past pid) with
    | true =>
      have known := mem_guessers.mpr (counted.recorded pid again)
      refine ⟨⟨row', found', max', ?_⟩, ?_, recorded', read'⟩
      · rw [guessers_guess s' guess, Finset.insert_eq_self.mpr known, unrecorded_again s' again, isEmpty, isRow,
          Finset.card_empty, Nat.add_zero, balance]
      · rw [guessers_guess s' guess, Finset.insert_eq_self.mpr known]
        exact counted.capped
    | false =>
      have new : pid ∉ guessers requests id x := fun member => by
        have isIn := mem_unrecorded.mpr ⟨mem_guessers.mp member, again⟩
        rw [isEmpty] at isIn
        cases isIn
      refine ⟨⟨row', found', max', ?_⟩, ?_, recorded', read'⟩
      · rw [guessers_guess s' guess, Finset.card_insert_of_notMem new, unrecorded_guess s' guess rfl again, isEmpty,
          isRow, ← balance]
        rfl
      · rw [guessers_guess s' guess, Finset.card_insert_of_notMem new, ← balance]
        exact room
  | false =>
    cases record : isRecord id ⟨call, reply⟩ with
    | false =>
      refine ⟨⟨row', found', max', ?_⟩, ?_, recorded', read'⟩
      · rw [guessers_other s' guess, unrecorded_other s' guess record, attempts, record, ← balance]
        rfl
      · rw [guessers_other s' guess]
        exact counted.capped
    | true =>
      obtain ⟨-, guessed, unrecorded⟩ := may.of_isRecord record
      have isIn := mem_unrecorded.mpr ⟨guessed, unrecorded⟩
      have some := Finset.card_pos.mpr ⟨pid, isIn⟩
      refine ⟨⟨row', found', max', ?_⟩, ?_, recorded', read'⟩
      · rw [guessers_other s' guess, unrecorded_record s' guess record, Finset.card_erase_of_mem isIn, attempts,
          record, ← balance, Bool.toNat_true]
        omega
      · rw [guessers_other s' guess]
        exact counted.capped

end Counted

/-! ## Use -/

structure UsedOnce (id : ℕ) (x : History) : Prop where
  row : ∃ row, x.store.tables.emailOtps.lookup id = some row ∧
    ∀ pid, (x.past pid).any (isMark id) → row.usedAt.isSome
  once : ∀ pid pid', (x.past pid).any (isMark id) → (x.past pid').any (isMark id) → pid = pid'

theorem usedOnce_step (used : UsedOnce id x) (may : May (requests pid) (x.past pid) call)
    (made : followed requests id pid call x reply s') : UsedOnce id ⟨s', (pid, ⟨call, reply⟩) :: x.history⟩ := by
  obtain ⟨makes, orderly⟩ := made
  obtain ⟨row, found, isUsed⟩ := used.row
  obtain ⟨row', found', -, -, use⟩ := (may.effect makes).keepsRow found
  have marked : ∀ other, ((⟨s', (pid, ⟨call, reply⟩) :: x.history⟩ : History).past other).any (isMark id) =
      (decide (other = pid) && isMark id ⟨call, reply⟩ || (x.past other).any (isMark id)) := by
    intro other
    rw [Logged.past_made]
    by_cases same : other = pid
    · simp [same]
    · simp [same]
  cases mark : isMark id ⟨call, reply⟩ with
  | false =>
    simp only [mark, Bool.and_false, Bool.false_or] at marked
    refine ⟨⟨row', found', fun other isMarked => ?_⟩, fun first second isFirst isSecond => ?_⟩
    · rw [← use, isUsed other (marked other ▸ isMarked)]
      rfl
    · exact used.once first second (marked first ▸ isFirst) (marked second ▸ isSecond)
  | true =>
    have unused : ∀ other, (x.past other).any (isMark id) = false := by
      intro other
      cases isMarked : (x.past other).any (isMark id) with
      | false => rfl
      | true =>
        have already := isUsed other isMarked
        cases call with
        | markUsed otherId =>
          cases reply with
          | error failure => cases mark
          | ok value =>
            cases of_decide_eq_true mark
            simp only [isOrderly, found, ne_eq, not_true_eq_false, decide_false, Bool.false_or, Option.any_some,
              Option.isNone_iff_eq_none] at orderly
            rw [orderly] at already
            cases already
        | _ => cases mark
    simp only [mark, Bool.and_true, unused, Bool.or_false] at marked
    refine ⟨⟨row', found', fun other _ => ?_⟩, fun first second isFirst isSecond => ?_⟩
    · rw [← use, mark, Bool.or_true]
    · rw [marked] at isFirst isSecond
      exact (of_decide_eq_true isFirst).trans (of_decide_eq_true isSecond).symm

/-- Guesses that do not overlap stay below the maximum, and one request at most
succeeds with a code. -/
theorem guesses_bounded (run : Logged.Run (followed requests id) (IsOtpRequest config requests) (Opening id issued) pool) :
    Bounded requests id issued pool := by
  have counted : Counted requests id issued pool.store := run.inv (isOtpRequest_obeys config requests)
    (fun s ⟨found, attempts, _⟩ => ⟨⟨issued, found, rfl, attempts⟩, Nat.zero_le _, nofun, nofun⟩)
    fun _ _ _ _ _ counted may made => counted_step counted may made
  have used : UsedOnce id pool.store := run.inv (isOtpRequest_obeys config requests)
    (fun s ⟨found, _⟩ => ⟨⟨issued, found, nofun⟩, nofun⟩) fun _ _ _ _ _ used may made => usedOnce_step used may made
  exact ⟨counted.capped, fun pid pid' _ _ _ _ => used.once pid pid'⟩

/-! ## Guesses of one code -/

private def otpConfig : Config := ⟨5, 900000, true, false, false, false, false, 1000000, 1000, fun _ _ _ => false⟩

private def rightCode : Text := "482913".toList

private def address : Text := "a@b.c".toList

private def issuedOtp : EmailOtp := ⟨address, (address, rightCode), .login, 600000, none, 0, 5, 0⟩

private def otpTables : Tables :=
  ⟨(∅ : Table UserId User).insert 7 ⟨address, none, .active, none, some 0, false, none⟩, [],
    (∅ : Table ℕ EmailOtp).insert 3 issuedOtp, [], ∅, ∅, ∅⟩

private def otpStore : Store := ⟨0, otpTables, ∅⟩

private def otpWorld (_ : ℕ) : World := ⟨1000, .error .uniqueViolation, .error .uniqueViolation, otpTables⟩

private theorem opening_otpStore : Opening 3 issuedOtp otpStore := ⟨rfl, rfl, rfl⟩

/-- Only request `2` knows the code. -/
private def knowsCode (pid : ℕ) : OtpRequest :=
  .verifyOtp address (if pid = 2 then rightCode else "000000".toList) ⟨none, true⟩

/-- A wrong guess, and then a login. -/
theorem guesses_bounded_in_turn : ∃ pool : OtpPool, (pool.answerOf 2).isSome ∧
    (guessers knowsCode 3 pool.store).card = 1 ∧ Bounded knowsCode 3 issuedOtp pool := by
  have played : (Database.schedule perform otpWorld (fun _ _ => false)
      (fun pid call x reply => isOrderly knowsCode 3 x pid call reply) (fun pid => (knowsCode pid).program otpConfig)
      [1, 2] [(1, 20), (2, 20)] otpStore).map (fun pool =>
        ((pool.answerOf 2).isSome, (guessers knowsCode 3 pool.store).card)) = some (true, 1) := by decide +kernel
  obtain ⟨pool, scheduled, facts⟩ := Option.map_eq_some_iff.mp played
  simp only [Prod.mk.injEq] at facts
  have run : Logged.Run (followed knowsCode 3) (IsOtpRequest otpConfig knowsCode) (Opening 3 issuedOtp) pool :=
    Database.schedule_run opening_otpStore (fun _ => rfl) (fun _ _ _ _ _ orderly makes => ⟨makes, orderly⟩) scheduled
  exact ⟨pool, facts.1, facts.2, guesses_bounded run⟩

/-- Six guesses at once are compared with a code that allows five. -/
theorem six_guesses_compared : ¬∀ pool : OtpPool,
    Logged.Run interleaved (IsOtpRequest otpConfig knowsCode) (Opening 3 issuedOtp) pool →
      Bounded knowsCode 3 issuedOtp pool := by
  intro bounded
  have played : (Database.schedule perform otpWorld (fun _ _ => false) (fun _ _ _ _ => true)
      (fun pid => (knowsCode pid).program otpConfig) [11, 12, 13, 14, 15, 16]
      [(11, 3), (12, 3), (13, 3), (14, 3), (15, 3), (16, 3)] otpStore).map (fun pool =>
        (guessers knowsCode 3 pool.store).card) = some 6 := by decide +kernel
  obtain ⟨pool, scheduled, six⟩ := Option.map_eq_some_iff.mp played
  have run : Logged.Run interleaved (IsOtpRequest otpConfig knowsCode) (Opening 3 issuedOtp) pool :=
    Database.schedule_run opening_otpStore (fun _ => rfl) (fun _ _ _ _ _ _ makes => makes) scheduled
  have capped := (bounded pool run).1
  rw [six] at capped
  exact absurd capped (by decide)

end Exchange.Auth.Otp
