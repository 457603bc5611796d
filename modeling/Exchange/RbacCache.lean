import Exchange.RbacEffects

/-! What an admin may do is read through a cache. A revocation drops the admins
that it found from the cache after its write; but a reading that began before
may fill the cache later with what it read before, and an admin who gets the
role between the list and the write is not on the list. -/
namespace Exchange.AdminRbac.Cache
open Service

variable {requests : ℕ → Request} {request : Request} {past earlier : Past} {pid asker : ℕ} {adminId : AdminId}
  {roleId : RoleId} {code : Text} {call removed : RbacCall} {reply : Except Failure call.Reply} {s s' : Store}
  {x : History} {access : Access} {pool pool₀ pool₁ pool₂ pool₃ : RbacPool}

/-- The admins who were read to have a role. -/
def readAdmins : Answered RbacCall RbacCall.Reply Failure → Option (List AdminId)
  | ⟨.adminIdsForRole _, .ok adminIds⟩ => some adminIds
  | _ => none

/-- What is put into the cache is no more than what the tables say, and a
revocation has found everyone who has the role. -/
def isCurrent (x : History) (pid : ℕ) : RbacCall → Bool
  | .cacheSet adminId access =>
    access.permissions.all (· ∈ (getAdminRolesAndPermissions x.store adminId).permissions)
  | .revokePermissionFromRole roleId _ =>
    (adminIdsForRole x.store roleId).all fun adminId => ((x.past pid).filterMap readAdmins).all (adminId ∈ ·)
  | _ => true

def followed (pid : ℕ) (call : RbacCall) (x : History) (reply : Except Failure call.Reply) (s' : Store) : Prop :=
  Makes pid call x.store reply s' ∧ isCurrent x pid call

/-- At some moment between the two pools the admin has the permission. -/
def GivenBetween (Step : RbacPool → RbacPool → Prop) (adminId : AdminId) (code : Text) (pool pool' : RbacPool) : Prop :=
  ∃ middle, Relation.ReflTransGen Step pool middle ∧ Relation.ReflTransGen Step middle pool' ∧
    Holds middle.store.store adminId code

/-- The call by which a request takes a permission from an admin. -/
structure Takes (Step : RbacPool → RbacPool → Prop) (requests : ℕ → Request) (pid : ℕ) (adminId : AdminId)
    (code : Text) (pool pool' : RbacPool) : Prop where
  steps : Relation.ReflTransGen Step pool pool'
  call : ∃ call reply, (requests pid).removal = some call ∧
    pool'.store.history = (pid, ⟨call, reply⟩) :: pool.store.history
  had : Holds pool.store.store adminId code
  lost : ¬Holds pool'.store.store adminId code

/-- Who asks after a removal has returned is not told of the permission, unless
it was given again. -/
def Coherent (Step : RbacPool → RbacPool → Prop) (requests : ℕ → Request) (pool₀ : RbacPool) : Prop :=
  ∀ pool₁ pool₂ pool₃ pid asker adminId code response access, Takes Step requests pid adminId code pool₀ pool₁ →
    Relation.ReflTransGen Step pool₁ pool₂ → pool₂.programs.lookup pid = some (.done (.ok response)) →
      pool₂.programs.lookup asker = none → requests asker = .getAdminPermissions adminId →
        Relation.ReflTransGen Step pool₂ pool₃ → pool₃.programs.lookup asker = some (.done (.ok (.access access))) →
          code ∉ access.permissions ∨ GivenBetween Step adminId code pool₁ pool₃

/-! ## Removals -/

/-- A removal is made once, after the list of those it is about was read. -/
theorem may_remove (isRemoval : request.removal = some removed) (may : May request past removed) :
    (∀ reply, ⟨removed, reply⟩ ∉ past) ∧ ∀ roleId permissionId, removed = .revokePermissionFromRole roleId permissionId →
      ∃ adminIds, ⟨.adminIdsForRole roleId, .ok adminIds⟩ ∈ past := by
  cases may with
  | removeRoleFromAdmin isRequest found safe first => exact ⟨first, nofun⟩
  | revokePermissionFromRole isRequest listed first =>
    refine ⟨first, ?_⟩
    rintro roleId permissionId ⟨⟩
    exact listed
  | neutral neutral =>
    cases request with
    | removeRoleFromAdmin =>
      cases isRemoval
      cases neutral
    | revokePermissionFromRole =>
      cases isRemoval
      cases neutral
    | _ => cases isRemoval
  | _ => cases request <;> cases isRemoval

theorem dropped_of_answers {response : Response} (isRemoval : request.removal = some removed)
    (ended : answers request response past) : DroppedSince request removed past := by
  cases request with
  | removeRoleFromAdmin => exact ended removed isRemoval
  | revokePermissionFromRole => exact ended removed isRemoval
  | _ => cases isRemoval

/-- Who loses a permission by a removal is one of those it is about. -/
theorem concerns_of_lost {reply : Except Failure removed.Reply} (isRemoval : (requests pid).removal = some removed)
    (may : May (requests pid) (x.past pid) removed) (made : followed pid removed x reply s')
    (had : Holds x.store adminId code) (lost : ¬Holds s' adminId code) :
    Concerns (requests pid) (x.past pid) adminId := by
  obtain ⟨held, assigned, permissionId, granted, found⟩ := had
  have effect := made.1.effect
  have listed := (may_remove isRemoval may).2
  cases isRequest : requests pid with
  | removeRoleFromAdmin target roleId ctx =>
    rw [isRequest] at isRemoval
    cases isRemoval
    by_contra other
    refine lost ?_
    cases effect with
    | removed =>
      refine ⟨held, ?_, permissionId, granted, found⟩
      have ne : (adminId, held) ≠ (target, roleId) := fun same => other (Prod.mk.inj same).1
      simpa [ne] using assigned
    | failed => exact ⟨held, assigned, permissionId, granted, found⟩
    | read neutral => cases neutral
    | statusSet sets => cases sets
  | revokePermissionFromRole roleId revoked ctx =>
    rw [isRequest] at isRemoval
    cases isRemoval
    have same : held = roleId := by
      by_contra other
      refine lost ?_
      cases effect with
      | revoked =>
        have ne : (held, permissionId) ≠ (roleId, revoked) := fun same => other (Prod.mk.inj same).1
        exact ⟨held, assigned, permissionId, by simpa [ne] using granted, found⟩
      | failed => exact ⟨held, assigned, permissionId, granted, found⟩
      | read neutral => cases neutral
      | statusSet sets => cases sets
    subst same
    obtain ⟨adminIds, read⟩ := listed held revoked rfl
    have all := List.all_eq_true.mp made.2 adminId (mem_adminIdsForRole.mpr assigned)
    have member := List.all_eq_true.mp all adminIds (List.mem_filterMap.mpr ⟨_, read, rfl⟩)
    exact ⟨adminIds, read, of_decide_eq_true member⟩
  | _ =>
    rw [isRequest] at isRemoval
    cases isRemoval

/-! ## The cache -/

/-- The cache does not give the permission to the admin. -/
def Lacks (s : Store) (adminId : AdminId) (code : Text) : Prop :=
  ∀ access, s.cache.lookup adminId = some access → code ∉ access.permissions

theorem lacks_step (lacks : Lacks x.store adminId code) (none : ¬Holds x.store adminId code)
    (made : followed pid call x reply s') : Lacks s' adminId code := by
  have current := made.2
  intro access hit
  cases made.1.effect with
  | missed => exact lacks access (lookup_of_erase hit)
  | dropped => exact lacks access (lookup_of_erase hit)
  | @filled filled stored =>
    by_cases same : adminId = filled
    · subst same
      rw [AList.lookup_insert] at hit
      cases hit
      intro member
      have held := List.all_eq_true.mp current code member
      exact none (mem_permissions.mp (of_decide_eq_true held))
    · rw [AList.lookup_insert_ne same] at hit
      exact lacks access hit
  | _ => exact lacks access hit

theorem lacks_dropped (makes : Makes pid (.cacheDel adminId) s (.ok ()) s') : Lacks s' adminId code := by
  obtain ⟨world, ran⟩ := makes.resolve_right (by simp)
  cases ran
  intro access hit
  simp at hit

/-! ## After a removal -/

/-- While the removal is at work: whom it drops after its write the cache tells
nothing of the permission. -/
structure Dropping (request : Request) (pid : ℕ) (removed : RbacCall) (adminId : AdminId) (code : Text)
    (x : History) : Prop where
  none : ¬Holds x.store adminId code
  made : ∃ reply, ⟨removed, reply⟩ ∈ x.past pid
  since : ∀ later reply earlier, x.past pid = later ++ ⟨removed, reply⟩ :: earlier →
    Concerns request earlier adminId ∧ (⟨.cacheDel adminId, .ok ()⟩ ∈ later → Lacks x.store adminId code)

theorem dropping_step {other : ℕ} (isRemoval : (requests pid).removal = some removed)
    (dropping : Dropping (requests pid) pid removed adminId code x)
    (may : May (requests other) (x.past other) call) (made : followed other call x reply s')
    (none : ¬Holds s' adminId code) :
    Dropping (requests pid) pid removed adminId code ⟨s', (other, ⟨call, reply⟩) :: x.history⟩ := by
  have kept : ∀ later : Past, (⟨.cacheDel adminId, .ok ()⟩ ∈ later → Lacks x.store adminId code) →
      ⟨.cacheDel adminId, .ok ()⟩ ∈ later → Lacks s' adminId code :=
    fun later known dropped => lacks_step (known dropped) dropping.none made
  by_cases same : pid = other
  · subst same
    refine ⟨none, ?_, fun later answer earlier split => ?_⟩
    · obtain ⟨answer, member⟩ := dropping.made
      exact ⟨answer, Logged.mem_past_cons.mpr (.inr member)⟩
    rw [Logged.past_self] at split
    cases later with
    | nil =>
      -- The removal is not made a second time.
      obtain ⟨again, -⟩ := List.cons.inj split
      cases again
      obtain ⟨answer, member⟩ := dropping.made
      exact absurd member ((may_remove isRemoval may).1 answer)
    | cons latest later =>
      obtain ⟨isLatest, split⟩ := List.cons.inj split
      obtain ⟨concerns, known⟩ := dropping.since later answer earlier split
      refine ⟨concerns, fun dropped => ?_⟩
      rcases List.mem_cons.mp dropped with now | before
      · rw [← isLatest] at now
        cases now
        exact lacks_dropped made.1
      · exact kept later known before
  · refine ⟨none, ?_, fun later answer earlier split => ?_⟩
    · obtain ⟨answer, member⟩ := dropping.made
      exact ⟨answer, Logged.mem_past_cons.mpr (.inr member)⟩
    · rw [Logged.past_ne _ same] at split
      obtain ⟨concerns, known⟩ := dropping.since later answer earlier split
      exact ⟨concerns, kept later known⟩

/-- When the removal has returned: neither the tables nor the cache have told
who asks later of the permission. -/
structure Dropped (asker : ℕ) (adminId : AdminId) (code : Text) (x : History) : Prop where
  none : ¬Holds x.store adminId code
  lacks : Lacks x.store adminId code
  told : ∀ access, Read adminId access (x.past asker) → code ∉ access.permissions

theorem dropped_step (dropped : Dropped asker adminId code x) (made : followed pid call x reply s')
    (none : ¬Holds s' adminId code) : Dropped asker adminId code ⟨s', (pid, ⟨call, reply⟩) :: x.history⟩ := by
  refine ⟨none, lacks_step dropped.lacks dropped.none made, fun access read => ?_⟩
  cases read with
  | cached hit =>
    rcases Logged.mem_past_cons.mp hit with ⟨same, -⟩ | before
    · cases same
      exact dropped.lacks access (made.1.effect.learned rfl)
    · exact dropped.told access (.cached before)
  | stored read =>
    rcases Logged.mem_past_cons.mp read with ⟨same, -⟩ | before
    · cases same
      have found : getAdminRolesAndPermissions x.store adminId = access := made.1.effect.learned rfl
      exact fun member => dropped.none (mem_permissions.mp (found ▸ member))
    · exact dropped.told access (.stored before)

/-! ## Runs -/

section Runs
variable {Initial : Store → Prop}

/-- Along a run that never gives the permission again, what a step keeps stays. -/
theorem given_or_kept {holds : History → Prop}
    (run : Logged.Run followed (IsRequest requests) Initial pool)
    (steps : Relation.ReflTransGen (Pool.Step (Logged.protocol followed) (IsRequest requests)) pool pool₁)
    (before : holds pool.store)
    (kept : ∀ x pid call reply s', holds x → May (requests pid) (x.past pid) call → followed pid call x reply s' →
      ¬Holds s' adminId code → holds ⟨s', (pid, ⟨call, reply⟩) :: x.history⟩) :
    GivenBetween (Pool.Step (Logged.protocol followed) (IsRequest requests)) adminId code pool pool₁ ∨
      holds pool₁.store := by
  by_cases after : holds pool₁.store
  · exact .inr after
  obtain ⟨earlier, later, pid, call, reply, s', reached, step, rest, still, gone, may, made, grown⟩ :=
    Logged.Run.change (isRequest_obeys requests) run steps before after
  refine .inl ⟨later, reached.tail step, rest, ?_⟩
  by_contra none
  rw [grown] at gone none
  exact gone (kept earlier.store pid call reply s' still may made none)

theorem GivenBetween.extend {Step : RbacPool → RbacPool → Prop} (given : GivenBetween Step adminId code pool₁ pool₂)
    (steps : Relation.ReflTransGen Step pool₂ pool₃) : GivenBetween Step adminId code pool₁ pool₃ := by
  obtain ⟨middle, reached, rest, holds⟩ := given
  exact ⟨middle, reached, rest.trans steps, holds⟩

theorem coherent (run : Logged.Run followed (IsRequest requests) Initial pool₀) :
    Coherent (Pool.Step (Logged.protocol followed) (IsRequest requests)) requests pool₀ := by
  intro pool₁ pool₂ pool₃ pid asker adminId code response access takes returns returned unasked asks later answered
  obtain ⟨removed, reply, isRemoval, grown⟩ := takes.call
  obtain ⟨may, made⟩ := Logged.Run.only_call (isRequest_obeys requests) run takes.steps grown
  have run₁ := run.steps takes.steps
  have run₂ := run₁.steps returns
  have orderly₂ := Logged.Run.orderly (isRequest_obeys requests) run₂
  have past₁ : pool₁.store.past pid = ⟨removed, reply⟩ :: pool₀.store.past pid :=
    (Logged.past_congr (y := ⟨pool₁.store.store, (pid, ⟨removed, reply⟩) :: pool₀.store.history⟩) grown pid).trans
      (Logged.past_self ..)
  have dropping : Dropping (requests pid) pid removed adminId code pool₁.store := by
    refine ⟨takes.lost, ⟨reply, past₁ ▸ List.mem_cons_self⟩, fun later answer earlier split => ?_⟩
    rw [past₁] at split
    cases later with
    | nil =>
      obtain ⟨-, rfl⟩ := List.cons.inj split
      exact ⟨concerns_of_lost isRemoval may made takes.had takes.lost, nofun⟩
    | cons latest later =>
      obtain ⟨-, split⟩ := List.cons.inj split
      exact absurd (split ▸ by simp) ((may_remove isRemoval may).1 answer)
  rcases given_or_kept run₁ returns dropping fun _ _ _ _ _ => dropping_step isRemoval with given | dropping
  · exact .inr (given.extend later)
  have ended : answers (requests pid) response (pool₂.store.past pid) := orderly₂.ended returned
  obtain ⟨since, answer, before, split, drops⟩ := dropped_of_answers isRemoval ended
  obtain ⟨concerns, lacks⟩ := dropping.since since answer before split
  have fresh : pool₂.store.past asker = [] := (orderly₂ asker).1 unasked
  have dropped : Dropped asker adminId code pool₂.store := by
    refine ⟨dropping.none, lacks (drops adminId concerns), fun access read => ?_⟩
    rw [fresh] at read
    cases read with
    | cached hit => cases hit
    | stored read => cases read
  rcases given_or_kept run₂ later dropped fun _ _ _ _ _ holds _ => dropped_step holds with given | dropped
  · obtain ⟨middle, reached, rest, holds⟩ := given
    exact .inr ⟨middle, returns.trans reached, rest, holds⟩
  · have told := (Logged.Run.orderly (isRequest_obeys requests) (run₂.steps later)).ended answered
    rw [asks] at told
    exact .inl (dropped.told access told)

end Runs

/-! ## A revocation and two readings -/

/-- A permission is revoked, and admin 7 is asked for before and after. -/
private def revoked : ℕ → Request
  | 2 => .revokePermissionFromRole 20 30 (some 1)
  | _ => .getAdminPermissions 7

private def holds (pool : RbacPool) : Bool := ['k'] ∈ (getAdminRolesAndPermissions pool.store.store 7).permissions

private theorem holds_iff : holds pool = true ↔ Holds pool.store.store 7 ['k'] :=
  decide_eq_true_iff.trans mem_permissions

private structure Stages where
  before : RbacPool
  taken : RbacPool
  returned : RbacPool
  answered : RbacPool

/-- Up to the revocation, its write, its return, and up to the last answer. -/
private def stages (allows : ℕ → (call : RbacCall) → History → Except Failure call.Reply → Bool) (arrivals : List ℕ)
    (first last : List (ℕ × ℕ)) : Option Stages := do
  let before ← schedule (fun _ => ⟨false⟩) (fun _ _ => false) allows revoked arrivals first smallStore
  let taken ← resume (fun _ => ⟨false⟩) (fun _ _ => false) allows revoked [] [(2, 1)] before
  let returned ← resume (fun _ => ⟨false⟩) (fun _ _ => false) allows revoked [] [(2, 1)] taken
  let answered ← resume (fun _ => ⟨false⟩) (fun _ _ => false) allows revoked [3] last returned
  return ⟨before, taken, returned, answered⟩

private structure Facts where
  calls : ℕ × ℕ
  last : Option (ℕ × RbacCall)
  held : Bool × Bool
  returned : Option Response
  unasked : Bool
  answer : Option Response
  deriving DecidableEq

private def facts (stages : Stages) : Facts where
  calls := (stages.before.store.history.length, stages.taken.store.history.length)
  last := stages.taken.store.history.head?.map fun made => (made.1, made.2.call)
  held := (holds stages.before, holds stages.taken)
  returned := stages.returned.answerOf 2
  unasked := (stages.returned.programs.lookup 3).isNone
  answer := stages.answered.answerOf 3

private theorem stages_run (step : ℕ → (call : RbacCall) → History → Except Failure call.Reply → Store → Prop)
    {allows : ℕ → (call : RbacCall) → History → Except Failure call.Reply → Bool} {arrivals : List ℕ}
    {first last : List (ℕ × ℕ)} {reached : Stages}
    (sound : ∀ pid call x reply s', allows pid call x reply → Makes pid call x.store reply s' →
      step pid call x reply s') (played : stages allows arrivals first last = some reached) :
    Logged.Run step (IsRequest revoked) (· = smallStore) reached.before ∧
      Relation.ReflTransGen (Pool.Step (Logged.protocol step) (IsRequest revoked)) reached.before reached.taken ∧
      Relation.ReflTransGen (Pool.Step (Logged.protocol step) (IsRequest revoked)) reached.taken reached.returned ∧
      Relation.ReflTransGen (Pool.Step (Logged.protocol step) (IsRequest revoked)) reached.returned
        reached.answered := by
  simp only [stages, Option.bind_eq_bind, Option.bind_eq_some_iff, Option.pure_def, Option.some.injEq] at played
  obtain ⟨before, scheduled, taken, writes, returned, returns, answered, asks, rfl⟩ := played
  exact ⟨schedule_run rfl sound scheduled, resume_steps sound writes, resume_steps sound returns,
    resume_steps sound asks⟩

/-- The write that was made between the first two stages. -/
private theorem takes_of_facts {step : ℕ → (call : RbacCall) → History → Except Failure call.Reply → Store → Prop}
    {reached : Stages} {n : ℕ}
    (steps : Relation.ReflTransGen (Pool.Step (Logged.protocol step) (IsRequest revoked)) reached.before reached.taken)
    (more : (facts reached).calls = (n, n + 1))
    (last : (facts reached).last = some (2, .revokePermissionFromRole 20 30))
    (held : (facts reached).held = (true, false)) :
    Takes (Pool.Step (Logged.protocol step) (IsRequest revoked)) revoked 2 7 ['k'] reached.before reached.taken := by
  obtain ⟨had, lost⟩ := Prod.mk.inj held
  obtain ⟨few, many⟩ := Prod.mk.inj more
  refine ⟨steps, ?_, holds_iff.mp had, fun holds => ?_⟩
  · obtain ⟨made, grown⟩ := Logged.history_grows steps
    have single : made.length = 1 := by
      have length := congrArg List.length grown
      rw [List.length_append] at length
      omega
    obtain ⟨⟨other, call, reply⟩, rfl⟩ := List.length_eq_one_iff.mp single
    simp only [facts, ← grown, List.singleton_append, List.head?_cons, Option.map_some, Option.some.injEq,
      Prod.mk.injEq] at last
    obtain ⟨rfl, rfl⟩ := last
    exact ⟨_, reply, rfl, grown.symm⟩
  · cases lost.symm.trans (holds_iff.mpr holds)

/-- Who asks after the revocation is told of nothing. -/
theorem coherent_in_turn : ∃ pool₀ pool₁ pool₃ : RbacPool, ∃ access,
    pool₃.programs.lookup 3 = some (.done (.ok (.access access))) ∧ (['k'] ∉ access.permissions ∨
      GivenBetween (Pool.Step (Logged.protocol followed) (IsRequest revoked)) 7 ['k'] pool₁ pool₃) ∧
        Holds pool₀.store.store 7 ['k'] := by
  have played : (stages (fun pid call x _ => isCurrent x pid call) [2] [(2, 3)] [(3, 3)]).map facts =
      some ⟨(3, 4), some (2, .revokePermissionFromRole 20 30), (true, false), some .done, true,
        some (.access ⟨[['o', 'p', 's']], []⟩)⟩ := by decide +kernel
  obtain ⟨reached, staged, known⟩ := Option.map_eq_some_iff.mp played
  obtain ⟨run, writes, returns, asks⟩ := stages_run followed
    (fun _ _ _ _ _ current makes => ⟨makes, current⟩) staged
  have takes := takes_of_facts writes (congrArg Facts.calls known) (congrArg Facts.last known)
    (congrArg Facts.held known)
  have returned := Pool.ended_of_answerOf (congrArg Facts.returned known)
  have unasked := Option.isNone_iff_eq_none.mp (congrArg Facts.unasked known)
  have answered := Pool.ended_of_answerOf (congrArg Facts.answer known)
  refine ⟨reached.before, reached.taken, reached.answered, _, answered, ?_, takes.had⟩
  exact coherent run _ _ _ 2 3 7 ['k'] _ _ takes returns returned unasked rfl asks answered

private def Revoked (x : History) : Prop := ¬Holds x.store 7 ['k']

/-- None of the requests gives a permission. -/
private theorem revoked_step (none : Revoked x) (may : May (revoked pid) (x.past pid) call)
    (makes : Makes pid call x.store reply s') : Revoked ⟨s', (pid, ⟨call, reply⟩) :: x.history⟩ := by
  intro holds
  have notGiven : ∀ made, Gain x.store 7 ['k'] made → ¬May (revoked pid) (x.past pid) made.call := by
    intro made gain may
    unfold revoked at may
    cases gain with
    | role => split at may <;> cases may with
      | neutral neutral => cases neutral
      | assignRoleToAdmin isRequest => cases isRequest
      | assignFirstRole isRequest => cases isRequest
    | grant => split at may <;> cases may with
      | neutral neutral => cases neutral
      | grantPermissionToRole isRequest => cases isRequest
    | code => split at may <;> cases may with
      | neutral neutral => cases neutral
      | createPermission isRequest => cases isRequest
  rcases holds_effect makes.effect holds with before | gain
  · exact none before
  · exact notGiven _ gain may

/-- The first reading fills the cache with what it read before the revocation. -/
theorem stale_fill : ¬∀ pool : RbacPool, Logged.Run interleaved (IsRequest revoked) (· = smallStore) pool →
    Coherent (Pool.Step (Logged.protocol interleaved) (IsRequest revoked)) revoked pool := by
  intro coherent
  have played : (stages (fun _ _ _ _ => true) [1, 2] [(1, 2), (2, 3)] [(1, 1), (3, 1)]).map facts =
      some ⟨(5, 6), some (2, .revokePermissionFromRole 20 30), (true, false), some .done, true,
        some (.access ⟨[['o', 'p', 's']], [['k']]⟩)⟩ := by decide +kernel
  obtain ⟨reached, staged, known⟩ := Option.map_eq_some_iff.mp played
  obtain ⟨run, writes, returns, asks⟩ := stages_run interleaved (fun _ _ _ _ _ _ makes => makes) staged
  have takes := takes_of_facts writes (congrArg Facts.calls known) (congrArg Facts.last known)
    (congrArg Facts.held known)
  have returned := Pool.ended_of_answerOf (congrArg Facts.returned known)
  have unasked := Option.isNone_iff_eq_none.mp (congrArg Facts.unasked known)
  have answered := Pool.ended_of_answerOf (congrArg Facts.answer known)
  rcases coherent reached.before run _ _ _ 2 3 7 ['k'] _ _ takes returns returned unasked rfl asks answered with
    untold | ⟨middle, steps, -, holds⟩
  · exact untold List.mem_cons_self
  · have lost : Revoked reached.taken.store := takes.lost
    have stays : Revoked middle.store := Logged.Run.keeps (isRequest_obeys revoked)
      (fun _ _ _ _ _ none may makes => revoked_step none may makes) (run.steps writes) steps lost
    exact stays holds

end Exchange.AdminRbac.Cache
