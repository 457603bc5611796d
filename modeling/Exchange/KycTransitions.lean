import Exchange.KycEffects

/-! The status machine of the queue. A writer that checks a transition checks it
on the row it has read; a submission does not look for every status, and the
review of a submission looks for none. A status is written in two places, by two
calls of some requests, between which others write. -/
namespace Exchange.Kyc.Transitions
open Service

variable {config : Config} {requests : ℕ → Request} {x : History} {pid other : ℕ} {call : KycCall}
  {reply : Except Failure call.Reply} {s s' : Store} {past : Past} {request : Request} {status target : KycStatus}
  {pool : KycPool}

/-- The status in the queue; without a profile the user has not started. -/
def statusOf (s : Store) : KycStatus := (s.kycProfile.map KycProfile.status).getD .notStarted

/-- The gate is the same in both places. -/
def Agrees (s : Store) : Prop :=
  ∀ user profile, s.user = some user → s.kycProfile = some profile → user.kycStatus = profile.status

/-- The second of two writes. -/
def isSecond : KycCall → Bool
  | .setUserKyc status _ => status = .pending
  | .updateManyProfiles _ => true
  | _ => false

/-- A second write failed. -/
def tears : Answered KycCall KycCall.Reply Failure → Bool
  | ⟨call, .error _⟩ => isSecond call
  | ⟨_, .ok _⟩ => false

def isTorn (x : History) : Bool := x.history.any fun made => tears made.2

/-- The status that a call sets, in one place or in both. -/
def sets : KycCall → Option KycStatus
  | .mirrorProfile _ => some .pending
  | .setUserKyc status _ => some status
  | .updateManyProfiles status => some status
  | call => call.setsBoth

/-- Whoever else is between two writes sets the same status. -/
def isAlone (x : History) (pid : ℕ) (status : KycStatus) : Bool :=
  x.history.all fun made => made.1 = pid || (midway (x.past made.1)).all (· = status)

/-- The status in the queue as it was read. -/
def readStatus : Answered KycCall KycCall.Reply Failure → Option KycStatus
  | ⟨.findProfileByUserId, .ok found⟩ => some ((found.map KycProfile.status).getD .notStarted)
  | ⟨.findProfileByProviderRef _ _, .ok found⟩ => some ((found.map KycProfile.status).getD .notStarted)
  | _ => none

/-- The status is the one that the request has read. -/
def isAsRead (x : History) (pid : ℕ) : Bool := ((x.past pid).filterMap readStatus).all (· = statusOf x.store)

/-- Statuses that a submission does not look for. -/
def unchecked : KycCall → List KycStatus
  | .submitProfile _ => [.manualReview, .approved]
  | .mirrorProfile _ => [.inReview, .manualReview]
  | _ => []

/-- What is written in the queue is a step, from the status that was read or from
the one that is there. -/
def isOrdered (x : History) (pid : ℕ) : KycCall → Bool
  | .setUserKyc _ _ => true
  | .updateManyProfiles status => x.store.kycProfile.isNone || canTransition (statusOf x.store) status
  | call => (sets call).all fun status => canTransition (statusOf x.store) status ||
      isAsRead x pid && statusOf x.store ∉ unchecked call

def followed (pid : ℕ) (call : KycCall) (x : History) (reply : Except Failure call.Reply) (s' : Store) : Prop :=
  Makes pid call x.store reply s' ∧ isOrdered x pid call ∧ (sets call).all (isAlone x pid)

/-! ## Transitions -/

theorem canTransition_self : canTransition status status = true := by simp [canTransition]

/-- Under review or approved, a user submits no more. -/
theorem pending_allowed (notInReview : status ≠ .inReview) (notManual : status ≠ .manualReview)
    (notApproved : status ≠ .approved) : canTransition status .pending := by
  cases status with
  | inReview => exact absurd rfl notInReview
  | manualReview => exact absurd rfl notManual
  | approved => exact absurd rfl notApproved
  | _ => rfl

theorem read_eq {found : Option KycProfile} (read : ReadProfile (x.past pid) found) (asRead : isAsRead x pid) :
    (found.map KycProfile.status).getD .notStarted = statusOf x.store := by
  simp only [isAsRead, List.all_eq_true, decide_eq_true_eq] at asRead
  cases read with
  | byUser read => exact asRead _ (List.mem_filterMap.mpr ⟨_, read, rfl⟩)
  | byRef read => exact asRead _ (List.mem_filterMap.mpr ⟨_, read, rfl⟩)

/-- From where a request may set both places, as it is or as it was read. -/
theorem transition_both (may : May config request (x.past pid) call) (sets : call.setsBoth = some status)
    (ordered : isOrdered x pid call) : canTransition (statusOf x.store) status := by
  cases may with
  | neutral neutral =>
    cases call with
    | applyProviderUpdate status tier =>
      cases sets
      cases neutral
    | submitProfile => cases neutral
    | decide => cases neutral
    | _ => cases sets
  | @submitProfile session existing isRequest read checked =>
    cases sets
    have steps : canTransition (statusOf x.store) .pending ∨
        isAsRead x pid ∧ statusOf x.store ≠ .manualReview ∧ statusOf x.store ≠ .approved := by
      simpa [isOrdered, Transitions.sets, KycCall.setsBoth, unchecked] using ordered
    rcases steps with step | ⟨asRead, notManual, notApproved⟩
    · exact step
    have isRead := read_eq read asRead
    cases existing with
    | none =>
      rw [← isRead]
      rfl
    | some profile =>
      have notInReview : statusOf x.store ≠ .inReview := isRead ▸ (checked profile rfl).2
      exact pending_allowed notInReview notManual notApproved
  | @decide decision profile isRequest read checked =>
    cases sets
    simp only [isOrdered, Transitions.sets, KycCall.setsBoth, Option.all_some, Bool.or_eq_true,
      Bool.and_eq_true] at ordered
    exact ordered.elim id fun ⟨asRead, _⟩ => read_eq read asRead ▸ checked
  | @applyProviderUpdate status tier profile asks read checked =>
    cases sets
    simp only [isOrdered, Transitions.sets, KycCall.setsBoth, Option.all_some, Bool.or_eq_true,
      Bool.and_eq_true] at ordered
    exact ordered.elim id fun ⟨asRead, _⟩ => read_eq read asRead ▸ checked
  | _ => cases sets

theorem transition_mirror {provider : Option Text} (may : May config request (x.past pid) (.mirrorProfile provider))
    (ordered : isOrdered x pid (.mirrorProfile provider)) : canTransition (statusOf x.store) .pending := by
  cases may with
  | neutral neutral => cases neutral
  | @mirrorProfile _ input existing isRequest read checked =>
    have steps : canTransition (statusOf x.store) .pending ∨
        isAsRead x pid ∧ statusOf x.store ≠ .inReview ∧ statusOf x.store ≠ .manualReview := by
      simpa [isOrdered, sets, unchecked] using ordered
    rcases steps with step | ⟨asRead, notInReview, notManual⟩
    · exact step
    have isRead := read_eq read asRead
    cases existing with
    | none =>
      rw [← isRead]
      rfl
    | some profile =>
      have notApproved : statusOf x.store ≠ .approved := isRead ▸ checked profile rfl
      exact pending_allowed notInReview notManual notApproved

/-- Each call within the rules makes a step of the machine, or none. -/
theorem transition (may : May config request (x.past pid) call) (made : followed pid call x reply s') :
    canTransition (statusOf x.store) (statusOf s') := by
  obtain ⟨makes, ordered, -⟩ := made
  cases makes.effect with
  | @bothSet call value status user profile tier sets isUser isSet =>
    have isStatus : statusOf { x.store with
        kycProfile := some profile, user := some { user with kycStatus := status, kycTier := tier } } = status := isSet
    rw [isStatus]
    exact transition_both may sets ordered
  | @mirrored provider profile isPending =>
    have isStatus : statusOf { x.store with kycProfile := some profile } = .pending := isPending
    rw [isStatus]
    exact transition_mirror may ordered
  | @profilesSet status =>
    simp only [isOrdered, Bool.or_eq_true, Option.isNone_iff_eq_none] at ordered
    rcases ordered with none | step
    · simp only [statusOf, none]
      rfl
    · cases isRow : x.store.kycProfile with
      | none =>
        simp only [statusOf, isRow]
        rfl
      | some profile => simpa [statusOf, isRow] using step
  | _ => exact canTransition_self

/-! ## Two writes -/

/-- The first of two writes stands. -/
def Stands (s : Store) (status : KycStatus) : Prop :=
  (status = .pending → ∀ profile, s.kycProfile = some profile → profile.status = .pending) ∧
    (status ≠ .pending → ∀ user, s.user = some user → user.kycStatus = status)

structure Kept (x : History) : Prop where
  stands : ∀ pid status, midway (x.past pid) = some status → Stands x.store status
  agrees : (∀ pid, Free (x.past pid)) → isTorn x = false → Agrees x.store

theorem eq_of_isAlone (alone : isAlone x pid status) (ne : other ≠ pid)
    (isMidway : midway (x.past other) = some target) : target = status := by
  cases isPast : x.past other with
  | nil =>
    rw [isPast] at isMidway
    cases isMidway
  | cons made rest =>
    have member : (other, made) ∈ x.history := Logged.mem_past.mp (isPast ▸ List.mem_cons_self)
    have same := List.all_eq_true.mp alone _ member
    simpa [ne, isMidway] using same

section Step
variable {made : Answered KycCall KycCall.Reply Failure}

theorem past_cons_self : (⟨s', (pid, made) :: x.history⟩ : History).past pid = made :: x.past pid :=
  Logged.past_self ..

theorem past_cons_ne (ne : other ≠ pid) : (⟨s', (pid, made) :: x.history⟩ : History).past other = x.past other :=
  Logged.past_ne _ ne ..

/-- Who was between two writes is so still. -/
theorem midway_other (after : midway (made :: x.past pid) = none)
    (isMidway : midway ((⟨s', (pid, made) :: x.history⟩ : History).past other) = some target) :
    other ≠ pid ∧ midway (x.past other) = some target := by
  by_cases same : other = pid
  · subst same
    rw [past_cons_self, after] at isMidway
    cases isMidway
  · exact ⟨same, past_cons_ne same ▸ isMidway⟩

/-- Nothing was written, and if this was to be a second write then it is torn. -/
theorem kept_same (kept : Kept x) (user : s'.user = x.store.user) (profile : s'.kycProfile = x.store.kycProfile)
    (after : midway (made :: x.past pid) = none) (before : Free (x.past pid) ∨ tears made) :
    Kept ⟨s', (pid, made) :: x.history⟩ := by
  refine ⟨fun other status isMidway => ?_, fun free whole => ?_⟩
  · have stands := kept.stands other status (midway_other after isMidway).2
    simpa only [Stands, user, profile] using stands
  · simp only [isTorn, List.any_cons, Bool.or_eq_false_iff] at whole
    have wasFree : ∀ other, Free (x.past other) := by
      intro other
      by_cases same : other = pid
      · subst same
        exact before.resolve_right (by simp [whole.1])
      · exact past_cons_ne same ▸ free other
    simpa only [Agrees, user, profile] using kept.agrees wasFree whole.2

/-- Both places have the status, and nobody else is to set another. -/
theorem kept_both (alone : isAlone x pid status) (after : midway (made :: x.past pid) = none)
    (user : ∀ user, s'.user = some user → user.kycStatus = status)
    (profile : ∀ profile, s'.kycProfile = some profile → profile.status = status) :
    Kept ⟨s', (pid, made) :: x.history⟩ where
  stands other target isMidway := by
    obtain ⟨ne, isMidway⟩ := midway_other after isMidway
    cases eq_of_isAlone alone ne isMidway
    exact ⟨fun isPending row isRow => isPending ▸ profile row isRow, fun _ => user⟩
  agrees _ _ row row' isRow isRow' := (user row isRow).trans (profile row' isRow').symm

/-- The first of two writes was made. -/
theorem kept_first (alone : isAlone x pid status) (after : midway (made :: x.past pid) = some status)
    (stands : Stands s' status) : Kept ⟨s', (pid, made) :: x.history⟩ where
  stands other target isMidway := by
    by_cases same : other = pid
    · subst same
      rw [past_cons_self, after] at isMidway
      cases isMidway
      exact stands
    · rw [past_cons_ne same] at isMidway
      cases eq_of_isAlone alone same isMidway
      exact stands
  agrees free _ := by
    have isFree : midway _ = none := free pid
    rw [past_cons_self, after] at isFree
    cases isFree

end Step

theorem midway_error {failure : Failure} : midway (⟨call, .error failure⟩ :: past) = none := by
  cases call <;> rfl

theorem free_of_first (may : May config request past call) (first : isSecond call = false) : Free past := by
  cases may with
  | mirrorUser => cases first
  | syncProfile => cases first
  | neutral neutral free => exact free
  | submitProfile _ _ _ free => exact free
  | decide _ _ _ free => exact free
  | applyProviderUpdate _ _ _ free => exact free
  | upsertProfile _ free => exact free
  | createCheck _ free => exact free
  | updateCheck _ free => exact free
  | review _ _ free => exact free
  | mirrorProfile _ _ _ free => exact free
  | syncUser _ _ free => exact free

theorem free_of_neutral (may : May config request past call) (neutral : call.isNeutral) : Free past := by
  refine free_of_first may ?_
  cases call with
  | setUserKyc => cases neutral
  | updateManyProfiles => cases neutral
  | _ => rfl

theorem midway_user {tier : Option ℕ} (may : May config request past (.setUserKyc status tier))
    (isPending : status = .pending) : midway past = some .pending := by
  cases may with
  | neutral neutral => cases neutral
  | mirrorUser first =>
    obtain ⟨rest, rfl⟩ := List.head?_eq_some_iff.mp first
    rfl
  | @syncUser decision => cases decision <;> cases isPending

theorem midway_profiles (may : May config request past (.updateManyProfiles status)) :
    midway past = some status ∧ status ≠ .pending := by
  cases may with
  | neutral neutral => cases neutral
  | syncProfile first isFirst =>
    obtain ⟨rest, rfl⟩ := List.head?_eq_some_iff.mp first
    exact ⟨if_neg isFirst, isFirst⟩

theorem midway_both {value : call.Reply} (sets : call.setsBoth = some status) :
    midway (⟨call, .ok value⟩ :: past) = none := by
  cases call with
  | submitProfile => rfl
  | decide => rfl
  | applyProviderUpdate => rfl
  | _ => cases sets

theorem kept_step (kept : Kept x) (may : May config request (x.past pid) call) (made : followed pid call x reply s') :
    Kept ⟨s', (pid, ⟨call, reply⟩) :: x.history⟩ := by
  obtain ⟨makes, -, alone⟩ := made
  cases makes.effect with
  | failed =>
    refine kept_same kept rfl rfl midway_error ?_
    by_cases second : isSecond call
    · exact .inr second
    · exact .inl (free_of_first may (by simpa using second))
  | read neutral => exact kept_same kept rfl rfl (free_neutral neutral _) (.inl (free_of_neutral may neutral))
  | eventKept neutral => exact kept_same kept rfl rfl (free_neutral neutral _) (.inl (free_of_neutral may neutral))
  | upserted => exact kept_same kept rfl rfl rfl (.inl (free_of_first may rfl))
  | patched => exact kept_same kept rfl rfl rfl (.inl (free_of_first may rfl))
  | checkStored => exact kept_same kept rfl rfl rfl (.inl (free_of_first may rfl))
  | checkDecided => exact kept_same kept rfl rfl rfl (.inl (free_of_first may rfl))
  | @bothSet call value status user profile tier isSet isUser isStatus =>
    have alone : isAlone x pid status := by
      cases call with
      | submitProfile => cases isSet; exact alone
      | decide => cases isSet; exact alone
      | applyProviderUpdate => cases isSet; exact alone
      | _ => cases isSet
    refine kept_both alone (midway_both isSet) ?_ ?_
    · rintro _ ⟨⟩
      rfl
    · rintro _ ⟨⟩
      exact isStatus
  | @mirrored provider profile isPending =>
    refine kept_first alone rfl ⟨?_, fun other => absurd rfl other⟩
    rintro - _ ⟨⟩
    exact isPending
  | @userSet status tier user isUser =>
    by_cases isPending : status = .pending
    · have stands := kept.stands pid _ (midway_user may isPending)
      subst isPending
      refine kept_both alone rfl ?_ (stands.1 rfl)
      rintro _ ⟨⟩
      rfl
    · refine kept_first alone (if_neg isPending) ⟨fun same => absurd same isPending, ?_⟩
      rintro - _ ⟨⟩
      rfl
  | @profilesSet status =>
    obtain ⟨isMidway, isFirst⟩ := midway_profiles may
    refine kept_both alone rfl ((kept.stands pid _ isMidway).2 isFirst) ?_
    intro profile isRow
    obtain ⟨row, -, rfl⟩ := Option.map_eq_some_iff.mp isRow
    rfl

/-! ## Runs -/

theorem kept_run (run : Logged.Run followed (IsRequest config requests) Agrees pool) : Kept pool.store :=
  run.inv (isRequest_obeys config requests) (fun _ agrees => ⟨nofun, fun _ _ => agrees⟩)
    fun _ _ _ _ _ kept may made => kept_step kept may made

theorem free_of_quiet {step : ℕ → (call : KycCall) → History → Except Failure call.Reply → Store → Prop}
    {Opening : Store → Prop} (run : Logged.Run step (IsRequest config requests) Opening pool) (quiet : pool.Quiet)
    (pid : ℕ) : Free (pool.store.past pid) := by
  rcases (Logged.Run.orderly (isRequest_obeys config requests) run).quiet quiet pid with nothing | ⟨result, ended⟩
  · rw [nothing]
    rfl
  · exact ended

/-- Each change of status is a step of the machine; and with no request in
flight and none torn, the gate is the same in both places. -/
def Lawful (step : ℕ → (call : KycCall) → History → Except Failure call.Reply → Store → Prop) (config : Config)
    (requests : ℕ → Request) (pool : KycPool) : Prop :=
  (∀ pool', Pool.Step (Logged.protocol step) (IsRequest config requests) pool pool' →
    canTransition (statusOf pool.store.store) (statusOf pool'.store.store)) ∧
  (pool.Quiet → isTorn pool.store = false → Agrees pool.store.store)

/-- While what is written is a step from the status that was read, and nobody
writes between two writes of another, the machine is kept. -/
theorem lawful (run : Logged.Run followed (IsRequest config requests) Agrees pool) :
    Lawful followed config requests pool := by
  refine ⟨fun pool' step => ?_, fun quiet whole => (kept_run run).agrees (free_of_quiet run quiet) whole⟩
  rcases (Logged.Run.orderly (isRequest_obeys config requests) run).made step with
    same | ⟨pid, call, reply, s', may, made, grown⟩
  · rw [same]
    exact canTransition_self
  · rw [grown]
    exact transition may made

/-! ## A submission that is approved, and rejected -/

/-- A user whose submission waits. -/
private def mirroredStore : Store :=
  ⟨some ⟨['u'], .pending, 0⟩, some ⟨.pending, some ['l'], none, none⟩, ∅,
    some (submittedProfile smallSubmission ['l']), []⟩

private theorem agrees_mirrored : Agrees mirroredStore := by
  rintro user profile ⟨⟩ ⟨⟩
  rfl

private def eachAdmin : ℕ → Request
  | 1 => .decide (.approve none)
  | _ => .review .reject false

private def rejectProfile (s : Store) : Store :=
  { s with kycProfile := s.kycProfile.map fun profile => { profile with status := .rejected } }

/-- The submission is approved in the queue. -/
theorem lawful_approval : ∃ pool : KycPool, pool.Quiet ∧ statusOf pool.store.store = .approved ∧
    Agrees pool.store.store := by
  have played : (schedule smallConfig (fun _ => worldWith (.ok [])) (fun _ _ => false)
      (fun pid call x _ => isOrdered x pid call && (sets call).all (isAlone x pid)) eachAdmin [1] [(1, 5)]
      mirroredStore).map (fun pool => (pool.isQuiet, statusOf pool.store.store, isTorn pool.store)) =
      some (true, .approved, false) := by decide +kernel
  obtain ⟨pool, scheduled, facts⟩ := Option.map_eq_some_iff.mp played
  simp only [Prod.mk.injEq] at facts
  obtain ⟨quiet, approved, whole⟩ := facts
  have run : Logged.Run followed (IsRequest smallConfig eachAdmin) Agrees pool := by
    refine schedule_run agrees_mirrored (fun _ _ _ _ _ allowed makes => ?_) scheduled
    simp only [Bool.and_eq_true] at allowed
    exact ⟨makes, allowed⟩
  exact ⟨pool, Pool.quiet_of_isQuiet quiet, approved, (lawful run).2 (Pool.quiet_of_isQuiet quiet) whole⟩

/-- The review rejects the submission afterwards. -/
theorem approved_then_rejected : ¬∀ pool : KycPool,
    Logged.Run interleaved (IsRequest smallConfig eachAdmin) Agrees pool →
      Lawful interleaved smallConfig eachAdmin pool := by
  intro lawful
  have played : (schedule smallConfig (fun _ => worldWith (.ok [])) (fun _ _ => false) (fun _ _ _ _ => true)
      eachAdmin [1, 2] [(1, 5), (2, 3)] mirroredStore).map (fun pool =>
        (Logged.waitsFor pool 2, statusOf pool.store.store)) =
      some (some (.updateManyProfiles .rejected), .approved) := by decide +kernel
  obtain ⟨pool, scheduled, facts⟩ := Option.map_eq_some_iff.mp played
  simp only [Prod.mk.injEq] at facts
  obtain ⟨waits, approved⟩ := facts
  obtain ⟨next, waiting⟩ := Logged.waiting_of_waitsFor waits
  have run : Logged.Run interleaved (IsRequest smallConfig eachAdmin) Agrees pool :=
    schedule_run agrees_mirrored (fun _ _ _ _ _ _ makes => makes) scheduled
  have performed : (Logged.protocol interleaved).step 2 (.updateManyProfiles .rejected) pool.store (.ok ())
      ⟨rejectProfile pool.store.store, (2, ⟨.updateManyProfiles .rejected, .ok ()⟩) :: pool.store.history⟩ :=
    ⟨.inl ⟨worldWith (.ok []), rfl⟩, rfl⟩
  have step := (lawful pool run).1 _ (.resume waiting performed)
  rw [approved] at step
  cases isRow : pool.store.store.kycProfile with
  | none =>
    rw [statusOf, isRow] at approved
    cases approved
  | some profile =>
    simp only [statusOf, rejectProfile, isRow, Option.map_some, Option.getD_some] at step
    cases step

end Exchange.Kyc.Transitions
