import Exchange.UserSecurity

/-! Attempts at the second factor. The failures are read before the comparison
and counted after it, so the cap holds for attempts that do not overlap; a
backup code is used up in one call, whatever overlaps. -/
namespace Exchange.UserSecurity.Attempts
open Async Service
open Auth (Secret Time)
open Auth.Service (SECOND_FACTOR_MAX_FAILS normalizeBackupCode)

/-- Checks of a code, and Redis. -/
def isAttempt : Request → Bool
  | .verifySecondFactor _ => true
  | .expire => true
  | _ => false

/-- The request of each number, where all are attempts. -/
def IsAttempt (verifyTotp : Secret → Time → Text → Bool) (requests : ℕ → Request) (pid : ℕ)
    (program : SecurityM Response) : Prop :=
  isAttempt (requests pid) ∧ IsRequest verifyTotp requests pid program

variable {verifyTotp : Secret → Time → Text → Bool} {requests : ℕ → Request}

/-! ## The rules -/

/-- The calls a request has made, latest first. -/
abbrev Past := List (Answered SecurityCall SecurityCall.Reply Failure)

/-- The failures that were read are below the cap. -/
def Unlocked (past : Past) : Prop :=
  ∀ found, ⟨.redisGet, .ok found⟩ ∈ past → found.getD 0 < SECOND_FACTOR_MAX_FAILS

/-- Calls that compare no code and touch no backup code. -/
def isFree : SecurityCall → Bool
  | .findUserById => true
  | .redisGet => true
  | .redisIncr => true
  | .redisPexpire => true
  | .redisDel => true
  | .expire => true
  | _ => false

/-- The calls a request may make. -/
inductive May (past : Past) : SecurityCall → Prop
  | free {call : SecurityCall} (free : isFree call) : May past call
  | now (unlocked : Unlocked past) : May past .now
  | consumeRecoveryCode {code : Text} (unlocked : Unlocked past) : May past (.consumeRecoveryCode code)

section Rules
variable {past : Past} {α : Type}

theorem unlocked_cons {made : Answered SecurityCall SecurityCall.Reply Failure} (isOther : made.call ≠ .redisGet)
    (unlocked : Unlocked past) : Unlocked (made :: past) := by
  intro found member
  rcases List.mem_cons.mp member with rfl | earlier
  · exact absurd rfl isOther
  · exact unlocked found earlier

theorem lawful_attempt {fallback : α} {program : SecurityM α} (body : Lawful May past program) :
    Lawful May past (attempt fallback program) :=
  lawful_catch body fun _ _ => trivial

theorem record_lawful : Lawful May past recordSecondFactorFailure := by
  refine lawful_bind (lawful_attempt (lawful_ask (.free rfl))) fun count later => ?_
  split
  · exact lawful_attempt (lawful_ask (.free rfl))
  · trivial

theorem clear_lawful : Lawful May past clearSecondFactorFailures := lawful_attempt (lawful_ask (.free rfl))

theorem consumeBackupCode_lawful (code : Text) (unlocked : Unlocked past) : Lawful May past (consumeBackupCode code) := by
  unfold consumeBackupCode
  dsimp only
  split
  · refine lawful_call (.consumeRecoveryCode unlocked) fun consumed => ?_
    cases consumed with
    | true => exact lawful_bind clear_lawful fun _ _ => trivial
    | false => exact lawful_bind record_lawful fun _ _ => trivial
  · exact lawful_bind record_lawful fun _ _ => trivial

/-- A part after which the lock is known to be open. -/
abbrev Opens (past : Past) (program : SecurityM α) : Prop :=
  program.Obeys May (EndsWith (fun _ => True) fun _ later => Unlocked later) past

theorem lawful_opens {β : Type} {program : SecurityM α} {next : α → SecurityM β} (first : Opens past program)
    (rest : ∀ value later, Unlocked later → Lawful May later (next value)) : Lawful May past (program >>= next) := by
  rw [Lawful, obeys_bind]
  refine first.imp fun later result ended => ?_
  cases result with
  | ok value => exact rest value later ended
  | error failure => trivial

theorem matchesTotp_opens (user : SecurityUser) (code : Text) (unlocked : Unlocked past) :
    Opens past (matchesTotp verifyTotp user code) := by
  unfold matchesTotp
  split
  · exact unlocked
  · refine ⟨.now unlocked, fun reply => ?_⟩
    cases reply with
    | error failure => trivial
    | ok now => exact unlocked_cons nofun unlocked

theorem unlocked_first (reply : Except Failure (Option ℕ))
    (isOpen : ∀ found, reply = .ok found → found.getD 0 < SECOND_FACTOR_MAX_FAILS) :
    Unlocked [⟨.redisGet, reply⟩] := by
  intro found member
  cases List.mem_singleton.mp member
  exact isOpen found rfl

/-- A counter that could not be read says nothing. -/
theorem assertSecondFactorNotLocked_opens : Opens [] assertSecondFactorNotLocked := by
  refine ⟨.free rfl, fun reply => ?_⟩
  cases reply with
  | error failure => exact unlocked_first _ nofun
  | ok found =>
    change Obeys May _ _ (if _ then _ else _)
    split
    · trivial
    · rename_i free
      exact unlocked_first _ fun found' same => Except.ok.inj same ▸ not_le.mp free

theorem verifySecondFactor_lawful (code : Text) : Lawful May [] (verifySecondFactor verifyTotp code) := by
  refine lawful_opens assertSecondFactorNotLocked_opens fun _ later unlocked => ?_
  refine lawful_call (.free rfl) fun found => ?_
  have unlocked : Unlocked (⟨.findUserById, .ok found⟩ :: later) := unlocked_cons nofun unlocked
  split
  · trivial
  · refine lawful_opens (matchesTotp_opens _ code unlocked) fun isCurrent last unlocked => ?_
    cases isCurrent with
    | true => exact lawful_bind clear_lawful fun _ _ => trivial
    | false => exact consumeBackupCode_lawful code unlocked

theorem isAttempt_obeys (requests : ℕ → Request) (pid : ℕ) (program : SecurityM Response)
    (attempt : IsAttempt verifyTotp requests pid program) : Lawful May [] program := by
  obtain ⟨isAttempt, rfl⟩ := attempt
  cases isRequest : requests pid with
  | verifySecondFactor code => exact lawful_bind (verifySecondFactor_lawful code) fun _ _ => trivial
  | expire => exact lawful_call (.free rfl) fun _ => trivial
  | setup | confirm | disable =>
    rw [isRequest] at isAttempt
    cases isAttempt

end Rules

/-! ## Windows -/

abbrev History := Logged ℕ SecurityCall SecurityCall.Reply Failure Store

abbrev SecurityPool := Pool ℕ SecurityCall SecurityCall.Reply Failure Response History

abbrev Event := ℕ × Answered SecurityCall SecurityCall.Reply Failure

/-- The last comparison of a code that is wrong. -/
def wrongGuess (verifyTotp : Secret → Time → Text → Bool) : Request → Past → Bool
  | .verifySecondFactor code, ⟨.now, .ok now⟩ :: ⟨.findUserById, .ok (some user)⟩ :: _ =>
    user.totpSecretEnc.any (fun secret => !verifyTotp secret now code) && (normalizeBackupCode code).length < 8
  | _, ⟨.consumeRecoveryCode _, .ok true⟩ :: _ => false
  | _, ⟨.consumeRecoveryCode _, _⟩ :: _ => true
  | _, _ => false

/-- A success clears the counter; Redis drops it at the end of a window. -/
def isReset : Answered SecurityCall SecurityCall.Reply Failure → Bool
  | ⟨.redisDel, _⟩ => true
  | ⟨.expire, .ok true⟩ => true
  | _ => false

/-- A failure was counted. -/
def isCount : Answered SecurityCall SecurityCall.Reply Failure → Bool
  | ⟨.redisIncr, .ok _⟩ => true
  | _ => false

/-- The wrong codes compared since the last success or the last end of a window,
and the requests of them that have not been counted. -/
structure Window where
  guesses : ℕ
  pending : List ℕ
  deriving DecidableEq, Repr

/-- What an event makes of the window, by the past of its request with it. -/
def Window.next (verifyTotp : Secret → Time → Text → Bool) (requests : ℕ → Request) (window : Window) (pid : ℕ)
    (made : Answered SecurityCall SecurityCall.Reply Failure) (past : Past) : Window :=
  if isReset made then ⟨0, []⟩
  else if wrongGuess verifyTotp (requests pid) (made :: past) then ⟨window.guesses + 1, pid :: window.pending⟩
  else if isCount made then { window with pending := window.pending.erase pid }
  else window

def windowOf (verifyTotp : Secret → Time → Text → Bool) (requests : ℕ → Request) : List Event → Window
  | [] => ⟨0, []⟩
  | (pid, made) :: earlier => (windowOf verifyTotp requests earlier).next verifyTotp requests pid made
    ((⟨(), earlier⟩ : Logged ℕ SecurityCall SecurityCall.Reply Failure Unit).past pid)

/-- A backup code was accepted. -/
def accepts (code : Text) : Event → Bool
  | (_, ⟨.consumeRecoveryCode other, .ok true⟩) => other = code
  | _ => false

/-! ## The cap -/

def standing (s : Store) : ℕ := (s.failures.map FailureCounter.count).getD 0

def interleaved (pid : ℕ) (call : SecurityCall) (x : History) (reply : Except Failure call.Reply) (s' : Store) : Prop :=
  Makes pid call x.store reply s'

/-- The failures that stand were read. -/
def readsStanding (s : Store) : Answered SecurityCall SecurityCall.Reply Failure → Bool
  | ⟨.redisGet, .ok found⟩ => found = s.failures.map FailureCounter.count
  | _ => false

/-- A wrong code is compared while the failures stand as they were read and
every earlier wrong code is counted. -/
def isOrderly (verifyTotp : Secret → Time → Text → Bool) (requests : ℕ → Request) (x : History) (pid : ℕ)
    (call : SecurityCall) (reply : Except Failure call.Reply) : Bool :=
  !wrongGuess verifyTotp (requests pid) (⟨call, reply⟩ :: x.past pid) ||
    (x.past pid).any (readsStanding x.store) && (windowOf verifyTotp requests x.history).pending.isEmpty

def followed (verifyTotp : Secret → Time → Text → Bool) (requests : ℕ → Request) (pid : ℕ) (call : SecurityCall)
    (x : History) (reply : Except Failure call.Reply) (s' : Store) : Prop :=
  Makes pid call x.store reply s' ∧ isOrderly verifyTotp requests x pid call reply

/-- No more wrong codes are compared in a window than are allowed, and no backup
code is accepted twice. -/
def Capped (verifyTotp : Secret → Time → Text → Bool) (requests : ℕ → Request) (pool : SecurityPool) : Prop :=
  (windowOf verifyTotp requests pool.store.history).guesses ≤ SECOND_FACTOR_MAX_FAILS ∧
    ∀ code, pool.store.history.countP (accepts code) ≤ 1

variable {pid : ℕ} {call : SecurityCall} {reply : Except Failure call.Reply} {s s' : Store} {x : History}
  {made : Answered SecurityCall SecurityCall.Reply Failure} {pool : SecurityPool} {request : Request} {past : Past}

/-- A counter that is not reset counts what is counted. -/
theorem standing_effect (effect : Effect s made s') (kept : isReset made = false) :
    standing s' = standing s + (isCount made).toNat := by
  cases effect with
  | @failed call failure => cases call <;> rfl
  | @read call value isRead user =>
    cases call with
    | redisIncr => cases isRead
    | _ => rfl
  | stored | enabled | disabled | replaced | consumed => rfl
  | counted =>
    rw [standing, standing, redisIncr]
    cases s.failures with
    | none => rfl
    | some counter => rfl
  | timed =>
    rw [standing, standing]
    cases s.failures with
    | none => rfl
    | some counter => rfl
  | cleared => cases kept
  | expired =>
    unfold expire at kept ⊢
    split at kept
    · cases kept
    · rename_i stays
      rw [if_neg stays]
      rfl

/-- Codes are compared while the lock is open. -/
theorem May.unlocked (may : May past call) (wrong : wrongGuess verifyTotp request (⟨call, reply⟩ :: past)) :
    Unlocked past := by
  cases may with
  | free free =>
    cases call with
    | now | consumeRecoveryCode => cases free
    | _ => cases request <;> cases wrong
  | now unlocked => exact unlocked
  | consumeRecoveryCode unlocked => exact unlocked

/-- Where the standing failures were read, they are below the cap. -/
theorem standing_lt (isRead : past.any (readsStanding s)) (unlocked : Unlocked past) :
    standing s < SECOND_FACTOR_MAX_FAILS := by
  obtain ⟨⟨call, reply⟩, member, reads⟩ := List.any_eq_true.mp isRead
  unfold readsStanding at reads
  split at reads
  · rename_i found same
    cases same
    cases of_decide_eq_true reads
    exact unlocked _ member
  · cases reads

structure Kept (verifyTotp : Secret → Time → Text → Bool) (requests : ℕ → Request) (x : History) : Prop where
  capped : (windowOf verifyTotp requests x.history).guesses ≤ SECOND_FACTOR_MAX_FAILS
  /-- Every wrong code is counted or on its way there. -/
  counted : (windowOf verifyTotp requests x.history).guesses ≤
    standing x.store + (windowOf verifyTotp requests x.history).pending.length

theorem windowOf_cons : windowOf verifyTotp requests ((pid, made) :: x.history) =
    (windowOf verifyTotp requests x.history).next verifyTotp requests pid made (x.past pid) := rfl

theorem kept_step (kept : Kept verifyTotp requests x) (may : May (x.past pid) call)
    (made : followed verifyTotp requests pid call x reply s') :
    Kept verifyTotp requests ⟨s', (pid, ⟨call, reply⟩) :: x.history⟩ := by
  obtain ⟨makes, orderly⟩ := made
  obtain ⟨capped, counted⟩ := kept
  cases reset : isReset ⟨call, reply⟩ with
  | true =>
    have window : windowOf verifyTotp requests ((pid, ⟨call, reply⟩) :: x.history) = ⟨0, []⟩ := by
      rw [windowOf_cons, Window.next, if_pos reset]
    exact ⟨by rw [window]; exact Nat.zero_le _, by rw [window]; exact Nat.zero_le _⟩
  | false =>
    have stands := standing_effect makes.effect reset
    cases wrong : wrongGuess verifyTotp (requests pid) (⟨call, reply⟩ :: x.past pid) with
    | true =>
      have window : windowOf verifyTotp requests ((pid, ⟨call, reply⟩) :: x.history) =
          ⟨(windowOf verifyTotp requests x.history).guesses + 1, pid :: (windowOf verifyTotp requests x.history).pending⟩ := by
        rw [windowOf_cons, Window.next, if_neg (by simp [reset]), if_pos wrong]
      simp only [isOrderly, wrong, Bool.not_true, Bool.false_or, Bool.and_eq_true, List.isEmpty_iff] at orderly
      obtain ⟨isRead, isEmpty⟩ := orderly
      have below := standing_lt isRead (may.unlocked wrong)
      rw [isEmpty, List.length_nil, Nat.add_zero] at counted
      refine ⟨?_, ?_⟩
      · rw [window]
        exact Nat.succ_le_of_lt (counted.trans_lt below)
      · rw [window, stands, isEmpty]
        change (windowOf verifyTotp requests x.history).guesses + 1 ≤ standing x.store + _ + 1
        omega
    | false =>
      cases count : isCount ⟨call, reply⟩ with
      | true =>
        have window : windowOf verifyTotp requests ((pid, ⟨call, reply⟩) :: x.history) =
            ⟨(windowOf verifyTotp requests x.history).guesses,
              (windowOf verifyTotp requests x.history).pending.erase pid⟩ := by
          rw [windowOf_cons, Window.next, if_neg (by simp [reset]), if_neg (by simp [wrong]), if_pos count]
        have shorter : (windowOf verifyTotp requests x.history).pending.length - 1 ≤
            ((windowOf verifyTotp requests x.history).pending.erase pid).length := List.le_length_erase
        rw [count, Bool.toNat_true] at stands
        refine ⟨by rw [window]; exact capped, ?_⟩
        rw [window, stands]
        change (windowOf verifyTotp requests x.history).guesses ≤ standing x.store + 1 +
          ((windowOf verifyTotp requests x.history).pending.erase pid).length
        omega
      | false =>
        have window : windowOf verifyTotp requests ((pid, ⟨call, reply⟩) :: x.history) =
            windowOf verifyTotp requests x.history := by
          rw [windowOf_cons, Window.next, if_neg (by simp [reset]), if_neg (by simp [wrong]), if_neg (by simp [count])]
        rw [count] at stands
        exact ⟨by rw [window]; exact capped, by rw [window, stands]; exact counted⟩

/-! ## Backup codes -/

/-- A code that was accepted is not there any more. -/
def Spent (x : History) : Prop :=
  ∀ code, x.history.countP (accepts code) ≤ 1 ∧ (code ∈ x.store.recoveryCodes → x.history.countP (accepts code) = 0)

theorem accepts_eq {code : Text} (accepted : accepts code (pid, made)) :
    made = ⟨.consumeRecoveryCode code, .ok true⟩ := by
  unfold accepts at accepted
  split at accepted
  · rename_i other same
    cases same
    cases of_decide_eq_true accepted
    rfl
  · cases accepted

/-- No call of an attempt puts a backup code there. -/
theorem May.codes_subset (may : May past call) (effect : Effect s ⟨call, reply⟩ s') :
    s'.recoveryCodes ⊆ s.recoveryCodes := by
  cases effect with
  | failed | read | stored | enabled | counted | timed | cleared => exact List.Subset.refl _
  | disabled => exact List.nil_subset _
  | replaced =>
    cases may with
    | free free => cases free
  | consumed => exact List.filter_sublist.subset
  | expired =>
    unfold expire
    split
    · exact List.Subset.refl _
    · exact List.Subset.refl _

theorem spent_step (spent : Spent x) (may : May (x.past pid) call)
    (made : followed verifyTotp requests pid call x reply s') : Spent ⟨s', (pid, ⟨call, reply⟩) :: x.history⟩ := by
  intro code
  have subset := may.codes_subset made.1.effect
  obtain ⟨once, gone⟩ := spent code
  cases accepted : accepts code (pid, ⟨call, reply⟩) with
  | false =>
    rw [List.countP_cons_of_neg (by simp [accepted])]
    exact ⟨once, fun member => gone (subset member)⟩
  | true =>
    rw [List.countP_cons_of_pos accepted]
    have effect := made.1.effect
    cases accepts_eq accepted
    generalize isConsumed : (Except.ok true : Except Failure Bool) = answer at effect
    cases effect with
    | failed => cases isConsumed
    | read isRead => cases isRead
    | consumed =>
      have present : code ∈ x.store.recoveryCodes := by
        have one := of_decide_eq_true (Except.ok.inj isConsumed).symm
        exact List.count_pos_iff.mp (by omega)
      rw [gone present]
      exact ⟨le_rfl, fun member => by simp at member⟩

/-- Attempts that do not overlap stay within the cap of a window; a backup code
is accepted once. -/
theorem attempts_capped
    (run : Logged.Run (followed verifyTotp requests) (IsAttempt verifyTotp requests) (fun s => s.failures = none) pool) :
    Capped verifyTotp requests pool := by
  have kept : Kept verifyTotp requests pool.store := run.inv (isAttempt_obeys requests)
    (fun _ _ => ⟨Nat.zero_le _, Nat.zero_le _⟩) fun _ _ _ _ _ kept may made => kept_step kept may made
  have spent : Spent pool.store := run.inv (isAttempt_obeys requests) (fun _ _ _ => ⟨Nat.zero_le _, fun _ => rfl⟩)
    fun _ _ _ _ _ spent may made => spent_step spent may made
  exact ⟨kept.capped, fun code => (spent code).1⟩

/-! ## Attempts of one user -/

private def enrolled : Store := ⟨some ⟨1, true, some 0⟩, ["K7M2PQ9R4T".toList], none⟩

/-- One code is current at all times. -/
private def sixDigits (_ : Secret) (_ : Time) (code : Text) : Bool := code = "482913".toList

/-- Request `1` has the backup code, the others a wrong one. -/
private def guesses (pid : ℕ) : Request :=
  .verifySecondFactor (if pid = 1 then "K7M2P-Q9R4T".toList else "000000".toList)

private theorem isAttempt_guesses (pid : ℕ) :
    IsAttempt sixDigits guesses pid ((guesses pid).program sixDigits) := ⟨rfl, rfl⟩

/-- A wrong code, then a backup code, then a wrong code. -/
theorem attempts_capped_in_turn : ∃ pool : SecurityPool,
    pool.answerOf 1 = some (.method (some .backupCode)) ∧
      (windowOf sixDigits guesses pool.store.history).guesses = 1 ∧ Capped sixDigits guesses pool := by
  have played : (Database.schedule perform (fun _ => ⟨0, []⟩) (fun _ _ => false)
      (fun pid call x reply => isOrderly sixDigits guesses x pid call reply) (fun pid => (guesses pid).program sixDigits)
      [0, 1, 2] [(0, 9), (1, 9), (2, 9)] enrolled).map (fun pool =>
        (pool.answerOf 1, (windowOf sixDigits guesses pool.store.history).guesses)) =
          some (some (.method (some .backupCode)), 1) := by decide +kernel
  obtain ⟨pool, scheduled, facts⟩ := Option.map_eq_some_iff.mp played
  simp only [Prod.mk.injEq] at facts
  have run : Logged.Run (followed sixDigits guesses) (IsAttempt sixDigits guesses) (fun s => s.failures = none) pool :=
    Database.schedule_run rfl isAttempt_guesses (fun _ _ _ _ _ orderly makes => ⟨makes, orderly⟩) scheduled
  exact ⟨pool, facts.1, facts.2, attempts_capped run⟩

/-- Six wrong codes at once. -/
theorem six_codes_compared : ¬∀ pool : SecurityPool,
    Logged.Run interleaved (IsAttempt sixDigits guesses) (fun s => s.failures = none) pool →
      Capped sixDigits guesses pool := by
  intro capped
  have played : (Database.schedule perform (fun _ => ⟨0, []⟩) (fun _ _ => false) (fun _ _ _ _ => true)
      (fun pid => (guesses pid).program sixDigits) [11, 12, 13, 14, 15, 16]
      [(11, 3), (12, 3), (13, 3), (14, 3), (15, 3), (16, 3)] enrolled).map (fun pool =>
        (windowOf sixDigits guesses pool.store.history).guesses) = some 6 := by decide +kernel
  obtain ⟨pool, scheduled, six⟩ := Option.map_eq_some_iff.mp played
  have run : Logged.Run interleaved (IsAttempt sixDigits guesses) (fun s => s.failures = none) pool :=
    Database.schedule_run rfl isAttempt_guesses (fun _ _ _ _ _ _ makes => makes) scheduled
  have atMost := (capped pool run).1
  rw [six] at atMost
  exact absurd atMost (by decide)

end Exchange.UserSecurity.Attempts
