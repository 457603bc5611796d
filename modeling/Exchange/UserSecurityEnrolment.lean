import Exchange.UserSecurity

/-! Enrolment with an authenticator. A code is checked against the secret that
was read, and what is enabled is the secret that is stored; the two are the same
where no other request stores or clears a secret in between. -/
namespace Exchange.UserSecurity.Enrolment
open Async Service
open Auth (Password Secret Time)

variable {verifyTotp : Secret → Time → Text → Bool} {requests : ℕ → Request}

/-! ## The rules -/

/-- The calls a request has made, latest first. -/
abbrev Past := List (Answered SecurityCall SecurityCall.Reply Failure)

/-- The secret a request has just shown a valid code of. -/
def confirms (verifyTotp : Secret → Time → Text → Bool) : Request → Past → Option Secret
  | .confirm code, ⟨.now, .ok now⟩ :: ⟨.findUserById, .ok (some user)⟩ :: _ =>
    user.totpSecretEnc.filter fun secret => verifyTotp secret now code
  | _, _ => none

/-- Calls that neither store a secret nor enable it. -/
def isFree : SecurityCall → Bool
  | .setTotpSecret _ => false
  | .enableTotp => false
  | _ => true

/-- The calls a request may make. -/
inductive May (verifyTotp : Secret → Time → Text → Bool) (request : Request) (past : Past) : SecurityCall → Prop
  | free {call : SecurityCall} (free : isFree call) : May verifyTotp request past call
  | setTotpSecret {secret : Secret} : May verifyTotp request past (.setTotpSecret secret)
  | enableTotp {secret : Secret} (confirmed : confirms verifyTotp request past = some secret) :
      May verifyTotp request past .enableTotp

section Rules
variable {request : Request} {past : Past} {α : Type}

theorem lawful_attempt {fallback : α} {program : SecurityM α} (body : Lawful (May verifyTotp request) past program) :
    Lawful (May verifyTotp request) past (attempt fallback program) :=
  lawful_catch body fun _ _ => trivial

theorem record_lawful : Lawful (May verifyTotp request) past recordSecondFactorFailure := by
  refine lawful_bind (lawful_attempt (lawful_ask (.free rfl))) fun count later => ?_
  split
  · exact lawful_attempt (lawful_ask (.free rfl))
  · trivial

theorem clear_lawful : Lawful (May verifyTotp request) past clearSecondFactorFailures :=
  lawful_attempt (lawful_ask (.free rfl))

theorem consumeBackupCode_lawful (code : Text) : Lawful (May verifyTotp request) past (consumeBackupCode code) := by
  unfold consumeBackupCode
  dsimp only
  split
  · refine lawful_call (.free rfl) fun consumed => ?_
    cases consumed with
    | true => exact lawful_bind clear_lawful fun _ _ => trivial
    | false => exact lawful_bind record_lawful fun _ _ => trivial
  · exact lawful_bind record_lawful fun _ _ => trivial

theorem matchesTotp_lawful (user : SecurityUser) (code : Text) :
    Lawful (May verifyTotp request) past (matchesTotp verifyTotp user code) := by
  unfold matchesTotp
  split
  · trivial
  · exact lawful_call (.free rfl) fun _ => trivial

theorem assertSecondFactorNotLocked_lawful : Lawful (May verifyTotp request) past assertSecondFactorNotLocked := by
  refine lawful_bind (lawful_attempt (lawful_ask (.free rfl))) fun raw later => ?_
  split
  · trivial
  · trivial

theorem verifySecondFactor_lawful (code : Text) :
    Lawful (May verifyTotp request) past (verifySecondFactor verifyTotp code) := by
  refine lawful_bind assertSecondFactorNotLocked_lawful fun _ _ => lawful_call (.free rfl) fun found => ?_
  split
  · trivial
  · refine lawful_bind (matchesTotp_lawful _ code) fun isCurrent _ => ?_
    cases isCurrent with
    | true => exact lawful_bind clear_lawful fun _ _ => trivial
    | false => exact consumeBackupCode_lawful code

theorem setup_lawful : Lawful (May verifyTotp request) past setup := by
  refine lawful_call (.free rfl) fun found => ?_
  split
  · trivial
  · split
    · trivial
    · exact lawful_call (.free rfl) fun secret => lawful_call .setTotpSecret fun _ => trivial

/-- What is enabled was confirmed just before. -/
theorem confirm_lawful (code : Text) : Lawful (May verifyTotp (.confirm code)) past (confirm verifyTotp code) := by
  refine lawful_call (.free rfl) fun found => ?_
  split
  · trivial
  rename_i user
  split
  · trivial
  split
  · trivial
  rename_i secret isSecret
  refine lawful_call (.free rfl) fun now => ?_
  split
  · rename_i verified
    have confirmed : confirms verifyTotp (.confirm code)
        (⟨.now, .ok now⟩ :: ⟨.findUserById, .ok (some user)⟩ :: past) = some secret := by
      rw [confirms, isSecret, Option.filter_some, if_pos verified]
    exact lawful_call (.enableTotp confirmed) fun _ => lawful_call (.free rfl) fun codes =>
      lawful_call (.free rfl) fun _ => trivial
  · trivial

theorem disable_lawful (password : Password) (code : Text) :
    Lawful (May verifyTotp request) past (disable verifyTotp password code) := by
  refine lawful_call (.free rfl) fun found => ?_
  split
  · trivial
  split
  · trivial
  refine lawful_bind ?_ fun method _ => ?_
  · unfold passwordAndCode
    split
    · exact verifySecondFactor_lawful code
    · trivial
  · split
    · exact lawful_ask (.free rfl)
    · trivial

theorem isRequest_obeys (requests : ℕ → Request) (pid : ℕ) (program : SecurityM Response)
    (isRequest : IsRequest verifyTotp requests pid program) : Lawful (May verifyTotp (requests pid)) [] program := by
  cases isRequest
  cases requests pid with
  | verifySecondFactor code => exact lawful_bind (verifySecondFactor_lawful code) fun _ _ => trivial
  | setup => exact lawful_bind setup_lawful fun _ _ => trivial
  | confirm code => exact lawful_bind (confirm_lawful code) fun _ _ => trivial
  | disable password code => exact lawful_bind (disable_lawful password code) fun _ _ => trivial
  | expire => exact lawful_call (.free rfl) fun _ => trivial

end Rules

/-! ## Enrolments -/

abbrev History := Logged ℕ SecurityCall SecurityCall.Reply Failure Store

abbrev SecurityPool := Pool ℕ SecurityCall SecurityCall.Reply Failure Response History

abbrev Event := ℕ × Answered SecurityCall SecurityCall.Reply Failure

/-- A valid code of the secret was presented after the secret was stored. -/
def Confirmed (verifyTotp : Secret → Time → Text → Bool) (requests : ℕ → Request) (secret : Secret)
    (history : List Event) : Prop :=
  ∃ pid made earlier, (pid, made) :: earlier <:+ history ∧
    confirms verifyTotp (requests pid) (made ::
      (⟨(), earlier⟩ : Logged ℕ SecurityCall SecurityCall.Reply Failure Unit).past pid) = some secret ∧
    ∃ other, (other, ⟨.setTotpSecret secret, .ok ()⟩) ∈ earlier

/-- An authenticator that is enabled was confirmed. -/
def Sound (verifyTotp : Secret → Time → Text → Bool) (requests : ℕ → Request) (x : History) : Prop :=
  ∀ user, x.store.user = some user → user.totpEnabled →
    ∃ secret, user.totpSecretEnc = some secret ∧ Confirmed verifyTotp requests secret x.history

/-- The secret of an enrolment that stays enabled is not replaced. -/
def Unreplaced (s s' : Store) : Prop :=
  ∀ user user', s.user = some user → s'.user = some user' → user.totpEnabled → user'.totpEnabled →
    user'.totpSecretEnc = user.totpSecretEnc

def interleaved (pid : ℕ) (call : SecurityCall) (x : History) (reply : Except Failure call.Reply) (s' : Store) : Prop :=
  Makes pid call x.store reply s'

/-- The secret that a confirmation has read is the one stored. -/
def readsStored (s : Store) : Past → Bool
  | _ :: ⟨.findUserById, .ok (some user)⟩ :: _ => s.user.all fun stored => stored.totpSecretEnc = user.totpSecretEnc
  | _ => true

/-- A secret is stored while none is enabled; what is enabled is what was read. -/
def isOrderly (x : History) (pid : ℕ) : SecurityCall → Bool
  | .setTotpSecret _ => x.store.user.all fun user => !user.totpEnabled
  | .enableTotp => readsStored x.store (x.past pid)
  | _ => true

def followed (pid : ℕ) (call : SecurityCall) (x : History) (reply : Except Failure call.Reply) (s' : Store) : Prop :=
  Makes pid call x.store reply s' ∧ isOrderly x pid call

/-- The user has not begun. -/
def Opening (s : Store) : Prop :=
  ∀ user, s.user = some user → user.totpEnabled = false ∧ user.totpSecretEnc = none

variable {pid : ℕ} {call : SecurityCall} {reply : Except Failure call.Reply} {s s' : Store} {x : History}
  {made : Answered SecurityCall SecurityCall.Reply Failure} {pool pool' : SecurityPool} {secret : Secret}
  {history later : List Event} {user' : SecurityUser}

theorem Confirmed.grow (confirmed : Confirmed verifyTotp requests secret history) (grown : history <:+ later) :
    Confirmed verifyTotp requests secret later := by
  obtain ⟨pid, made, earlier, suffix, facts⟩ := confirmed
  exact ⟨pid, made, earlier, suffix.trans grown, facts⟩

/-- How the user came to be what it is after a call. -/
inductive Change (made : Answered SecurityCall SecurityCall.Reply Failure) (before : Option SecurityUser) :
    SecurityUser → Prop
  | stored {user : SecurityUser} {secret : Secret} (found : before = some user)
      (isMade : made = ⟨.setTotpSecret secret, .ok ()⟩) : Change made before { user with totpSecretEnc := some secret }
  | enabled {user : SecurityUser} (found : before = some user) (isMade : made = ⟨.enableTotp, .ok ()⟩) :
      Change made before { user with totpEnabled := true }
  | disabled {user : SecurityUser} : Change made before { user with totpEnabled := false, totpSecretEnc := none }
  | same {user : SecurityUser} (found : before = some user) : Change made before user

theorem change_of_effect (effect : Effect s made s') (found : s'.user = some user') : Change made s.user user' := by
  cases effect with
  | stored isFound =>
    cases found
    exact .stored isFound rfl
  | enabled isFound =>
    cases found
    exact .enabled isFound rfl
  | disabled isFound =>
    cases found
    exact .disabled
  | expired =>
    unfold expire at found
    split at found
    · exact .same found
    · exact .same found
  | failed | read | replaced | consumed | counted | timed | cleared => exact .same found

structure Kept (verifyTotp : Secret → Time → Text → Bool) (requests : ℕ → Request) (x : History) : Prop where
  sound : Sound verifyTotp requests x
  /-- A secret that stands, or was read, was stored. -/
  stored : ∀ user secret, x.store.user = some user → user.totpSecretEnc = some secret →
    ∃ pid, (pid, ⟨.setTotpSecret secret, .ok ()⟩) ∈ x.history
  read : ∀ pid user secret, ⟨.findUserById, .ok (some user)⟩ ∈ x.past pid → user.totpSecretEnc = some secret →
    ∃ other, (other, ⟨.setTotpSecret secret, .ok ()⟩) ∈ x.history
  confirmed : ∀ pid secret, confirms verifyTotp (requests pid) (x.past pid) = some secret →
    Confirmed verifyTotp requests secret x.history

section Step
variable (kept : Kept verifyTotp requests x)
include kept

theorem kept_stored (makes : Makes pid call x.store reply s') (found : s'.user = some user')
    (isSecret : user'.totpSecretEnc = some secret) :
    ∃ other, (other, ⟨.setTotpSecret secret, .ok ()⟩) ∈ (pid, ⟨call, reply⟩) :: x.history := by
  cases change_of_effect makes.effect found with
  | stored isFound isMade =>
    cases isSecret
    exact ⟨pid, isMade ▸ List.mem_cons_self⟩
  | enabled isFound isMade =>
    obtain ⟨other, member⟩ := kept.stored _ secret isFound isSecret
    exact ⟨other, List.mem_cons_of_mem _ member⟩
  | disabled => cases isSecret
  | same isFound =>
    obtain ⟨other, member⟩ := kept.stored _ secret isFound isSecret
    exact ⟨other, List.mem_cons_of_mem _ member⟩

theorem kept_read (makes : Makes pid call x.store reply s') {other : ℕ} {user : SecurityUser}
    (member : ⟨.findUserById, .ok (some user)⟩ ∈ (⟨s', (pid, ⟨call, reply⟩) :: x.history⟩ : History).past other)
    (isSecret : user.totpSecretEnc = some secret) :
    ∃ writer, (writer, ⟨.setTotpSecret secret, .ok ()⟩) ∈ (pid, ⟨call, reply⟩) :: x.history := by
  rcases Logged.mem_past_cons.mp member with ⟨isMade, -⟩ | earlier
  · have effect := makes.effect
    cases isMade
    cases effect with
    | read isRead isUser =>
      obtain ⟨writer, isWritten⟩ := kept.stored user secret (isUser _ rfl).symm isSecret
      exact ⟨writer, List.mem_cons_of_mem _ isWritten⟩
  · obtain ⟨writer, isWritten⟩ := kept.read other user secret earlier isSecret
    exact ⟨writer, List.mem_cons_of_mem _ isWritten⟩

/-- A code is confirmed by a secret that was read. -/
theorem kept_confirmed (s' : Store) {other : ℕ}
    (confirmed : confirms verifyTotp (requests other)
      ((⟨s', (pid, made) :: x.history⟩ : History).past other) = some secret) :
    Confirmed verifyTotp requests secret ((pid, made) :: x.history) := by
  rw [Logged.past_made] at confirmed
  split at confirmed
  · rename_i same
    subst same
    refine ⟨other, made, x.history, List.suffix_refl _, confirmed, ?_⟩
    unfold confirms at confirmed
    split at confirmed
    · rename_i code now user rest isRequest isPast
      obtain ⟨-, isRead⟩ := List.cons.inj isPast
      have isSecret := (Option.filter_eq_some_iff.mp confirmed).1
      exact kept.read other user secret (isRead ▸ List.mem_cons_self) isSecret
    · cases confirmed
  · exact (kept.confirmed other secret confirmed).grow (List.suffix_cons _ _)

theorem kept_sound (may : May verifyTotp (requests pid) (x.past pid) call) (made : followed pid call x reply s') :
    Sound verifyTotp requests ⟨s', (pid, ⟨call, reply⟩) :: x.history⟩ := by
  obtain ⟨makes, orderly⟩ := made
  intro user found enabled
  cases change_of_effect makes.effect found with
  | @stored before secret isFound isMade =>
    cases isMade
    simp only [isOrderly, isFound, Option.all_some, Bool.not_eq_true'] at orderly
    rw [orderly] at enabled
    cases enabled
  | @enabled before isFound isMade =>
    cases isMade
    cases may with
    | free free => cases free
    | @enableTotp secret confirmed =>
      have isSecret : before.totpSecretEnc = some secret := by
        unfold confirms at confirmed
        split at confirmed
        · rename_i code now user rest isRequest isPast
          simp only [isOrderly, isPast, readsStored, isFound, Option.all_some, decide_eq_true_eq] at orderly
          rw [orderly]
          exact (Option.filter_eq_some_iff.mp confirmed).1
        · cases confirmed
      exact ⟨secret, isSecret, (kept.confirmed pid secret confirmed).grow (List.suffix_cons _ _)⟩
  | disabled => cases enabled
  | same isFound =>
    obtain ⟨secret, isSecret, confirmed⟩ := kept.sound user isFound enabled
    exact ⟨secret, isSecret, confirmed.grow (List.suffix_cons _ _)⟩

theorem kept_step (may : May verifyTotp (requests pid) (x.past pid) call) (made : followed pid call x reply s') :
    Kept verifyTotp requests ⟨s', (pid, ⟨call, reply⟩) :: x.history⟩ :=
  ⟨kept_sound kept may made, fun _ _ => kept_stored kept made.1, fun _ _ _ => kept_read kept made.1,
    fun _ _ => kept_confirmed kept s'⟩

end Step

/-- A secret is stored while none is enabled. -/
theorem followed_unreplaced (made : followed pid call x reply s') : Unreplaced x.store s' := by
  obtain ⟨makes, orderly⟩ := made
  intro user user' isUser found enabled enabled'
  cases change_of_effect makes.effect found with
  | stored isFound isMade =>
    cases isMade
    cases isUser.symm.trans isFound
    simp only [isOrderly, isUser, Option.all_some, Bool.not_eq_true'] at orderly
    rw [orderly] at enabled
    cases enabled
  | enabled isFound isMade =>
    cases isUser.symm.trans isFound
    rfl
  | disabled => cases enabled'
  | same isFound =>
    cases isUser.symm.trans isFound
    rfl

theorem kept_opening (opening : Opening s) : Kept verifyTotp requests ⟨s, []⟩ := by
  refine ⟨fun user found enabled => ?_, fun user secret found isSecret => ?_, nofun, fun pid secret confirmed => ?_⟩
  · rw [(opening user found).1] at enabled
    cases enabled
  · rw [(opening user found).2] at isSecret
    cases isSecret
  · unfold confirms at confirmed
    split at confirmed
    · rename_i isPast
      cases isPast
    · cases confirmed

/-- Where no secret is stored over one that is enabled, and confirmations enable
what they have read, an authenticator that is enabled was confirmed, and its
secret is not replaced. -/
theorem enrolment_sound (run : Logged.Run followed (IsRequest verifyTotp requests) Opening pool) :
    Sound verifyTotp requests pool.store ∧
      ∀ pool' : SecurityPool, Pool.Step (Logged.protocol followed) (IsRequest verifyTotp requests) pool pool' →
        Unreplaced pool.store.store pool'.store.store := by
  have kept : Kept verifyTotp requests pool.store := run.inv (isRequest_obeys requests)
    (fun s opening => kept_opening opening) fun _ _ _ _ _ kept may made => kept_step kept may made
  refine ⟨kept.sound, fun pool' step => ?_⟩
  rcases (Logged.Run.orderly (isRequest_obeys requests) run).made step with same | ⟨pid, call, reply, s', -, made, grown⟩
  · rw [same]
    intro user user' isUser found _ _
    cases isUser.symm.trans found
    rfl
  · rw [grown]
    exact followed_unreplaced made

/-! ## Two setups -/

private def beginner : Store := ⟨some ⟨1, false, none⟩, [], none⟩

private theorem opening_beginner : Opening beginner := by
  rintro user ⟨⟩
  exact ⟨rfl, rfl⟩

/-- One code is current, of the first secret. -/
private def firstSecret (secret : Secret) (_ : Time) (code : Text) : Bool := secret = 0 && code = "482913".toList

/-- Request `1` confirms. -/
private def enrols (pid : ℕ) : Request := if pid = 1 then .confirm "482913".toList else .setup

private def secretOf (pool : SecurityPool) : Option (Bool × Option Secret) :=
  pool.store.store.user.map fun user => (user.totpEnabled, user.totpSecretEnc)

/-- Setup, and then a confirmation. -/
theorem enrolment_sound_in_turn : ∃ pool : SecurityPool, secretOf pool = some (true, some 0) ∧
    Sound firstSecret enrols pool.store := by
  have played : (Database.schedule perform (fun _ => ⟨0, []⟩) (fun _ _ => false)
      (fun pid call x _ => isOrderly x pid call) (fun pid => (enrols pid).program firstSecret)
      [0, 1] [(0, 9), (1, 9)] beginner).map secretOf = some (some (true, some 0)) := by decide +kernel
  obtain ⟨pool, scheduled, facts⟩ := Option.map_eq_some_iff.mp played
  have run : Logged.Run followed (IsRequest firstSecret enrols) Opening pool :=
    Database.schedule_run opening_beginner (fun _ => rfl) (fun _ _ _ _ _ orderly makes => ⟨makes, orderly⟩) scheduled
  exact ⟨pool, facts, (enrolment_sound run).1⟩

/-- A second setup stores its secret between the check of the code and the flag. -/
theorem unconfirmed_secret_enabled : ¬∀ pool : SecurityPool,
    Logged.Run interleaved (IsRequest firstSecret enrols) Opening pool → Sound firstSecret enrols pool.store := by
  intro sound
  have played : (Database.schedule perform (fun _ => ⟨0, []⟩) (fun _ _ => false) (fun _ _ _ _ => true)
      (fun pid => (enrols pid).program firstSecret) [0, 1, 2] [(0, 3), (1, 2), (2, 3), (1, 1)] beginner).map
        secretOf = some (some (true, some 2)) := by decide +kernel
  obtain ⟨pool, scheduled, facts⟩ := Option.map_eq_some_iff.mp played
  have run : Logged.Run interleaved (IsRequest firstSecret enrols) Opening pool :=
    Database.schedule_run opening_beginner (fun _ => rfl) (fun _ _ _ _ _ _ makes => makes) scheduled
  obtain ⟨user, found, same⟩ := Option.map_eq_some_iff.mp facts
  obtain ⟨enabled, isSecret⟩ := Prod.mk.inj same
  obtain ⟨secret, isStored, pid, made, earlier, -, confirmed, -⟩ := sound pool run user found enabled
  cases isSecret.symm.trans isStored
  -- A code is only ever confirmed for the first secret.
  unfold confirms at confirmed
  split at confirmed
  · have verified := (Option.filter_eq_some_iff.mp confirmed).2
    simp [firstSecret] at verified
  · cases confirmed

end Exchange.UserSecurity.Enrolment
