import Exchange.RbacEffects

/-! What deactivation lasts for. Only a super admin reactivates an admin; but
whoever may change the status of an admin may set it to `ACTIVE`, whatever it
was, and an admin who was a super admin may still be cached as one. -/
namespace Exchange.AdminRbac.Deactivation
open Service

variable {requests : ℕ → Request} {pid : ℕ} {adminId : AdminId} {call : RbacCall}
  {reply : Except Failure call.Reply} {s s' : Store} {request : Request} {past : Past} {pool pool' : RbacPool}

/-- An admin and what was found about the admin. -/
def readAccess : Answered RbacCall RbacCall.Reply Failure → Option (AdminId × Access)
  | ⟨.cacheGet adminId, .ok found⟩ => found.map fun access => (adminId, access)
  | ⟨.getAdminRolesAndPermissions adminId, .ok access⟩ => some (adminId, access)
  | _ => none

/-- A change of status finds no deactivated admin, and who reactivates still is
the super admin that was read. -/
def isOpen (request : Request) (x : History) (pid : ℕ) : RbacCall → Bool
  | .updateAdminStatus id _ => !(x.store.admins.lookup id).any fun admin => admin.status = .deactivated
  | .reactivateAdmin _ => ((x.past pid).filterMap readAccess).all fun (adminId, access) =>
      request.actor ≠ some adminId || SUPER_ADMIN ∉ access.roles ||
        SUPER_ADMIN ∈ (getAdminRolesAndPermissions x.store adminId).roles
  | _ => true

def followed (requests : ℕ → Request) (pid : ℕ) (call : RbacCall) (x : History) (reply : Except Failure call.Reply)
    (s' : Store) : Prop :=
  Makes pid call x.store reply s' ∧ isOpen (requests pid) x pid call

/-- Between the two pools a super admin reactivated the admin. -/
def Reactivated (Step : RbacPool → RbacPool → Prop) (requests : ℕ → Request) (adminId : AdminId)
    (pool pool' : RbacPool) : Prop :=
  ∃ earlier later pid actor, Relation.ReflTransGen Step pool earlier ∧ Step earlier later ∧
    Relation.ReflTransGen Step later pool' ∧ requests pid = .reactivateAdmin adminId (some actor) ∧
    later.store.history = (pid, ⟨.reactivateAdmin adminId, .ok ()⟩) :: earlier.store.history ∧
    HasRole earlier.store.store actor SUPER_ADMIN

theorem mem_readAccess {access : Access} (read : Read adminId access past) :
    (adminId, access) ∈ past.filterMap readAccess := by
  cases read with
  | cached hit => exact List.mem_filterMap.mpr ⟨_, hit, rfl⟩
  | stored read => exact List.mem_filterMap.mpr ⟨_, read, rfl⟩

theorem may_reactivate (may : May request past (.reactivateAdmin adminId)) : ∃ ctx actor,
    request = .reactivateAdmin adminId ctx ∧ ActorRead ctx actor past ∧ SUPER_ADMIN ∈ actor.roles := by
  cases may with
  | neutral neutral => cases neutral
  | reactivateAdmin isRequest read isSuper => exact ⟨_, _, isRequest, read, isSuper⟩

/-- The status of a deactivated admin is left by a write to the status. -/
theorem left_by {made : Answered RbacCall RbacCall.Reply Failure} (numbered : Numbered s) (effect : Effect s made s')
    (off : HasStatus s adminId .deactivated) (changed : ¬HasStatus s' adminId .deactivated) :
    ∃ status value, made.call.sets = some (adminId, status) ∧ status ≠ .deactivated ∧ made.reply = .ok value := by
  obtain ⟨admin, found, deactivated⟩ := off
  cases effect with
  | @statusSet call value id status before sets isRow =>
    by_cases same : adminId = id
    · subst same
      refine ⟨status, value, sets, fun stays => changed ⟨{ before with status }, ?_, stays⟩, rfl⟩
      exact AList.lookup_insert _
    · exact absurd ⟨admin, (AList.lookup_insert_ne same).trans found, deactivated⟩ changed
  | adminCreated =>
    have old : adminId ≠ s.nextId := (numbered.admins adminId admin found).ne
    exact absurd ⟨admin, (AList.lookup_insert_ne old).trans found, deactivated⟩ changed
  | _ => exact absurd ⟨admin, found, deactivated⟩ changed

def IsOff (adminId : AdminId) (x : History) : Prop := HasStatus x.store adminId .deactivated

/-- A deactivated admin who is active later was reactivated by a super admin. -/
theorem reactivated_by_super (run : Logged.Run (followed requests) (IsRequest requests) Numbered pool)
    (steps : Relation.ReflTransGen (Pool.Step (Logged.protocol (followed requests)) (IsRequest requests)) pool pool')
    (off : HasStatus pool.store.store adminId .deactivated) (on : HasStatus pool'.store.store adminId .active) :
    Reactivated (Pool.Step (Logged.protocol (followed requests)) (IsRequest requests)) requests adminId pool pool' := by
  have before : IsOff adminId pool.store := off
  have after : ¬IsOff adminId pool'.store := by
    rintro ⟨admin, found, deactivated⟩
    obtain ⟨other, same, active⟩ := on
    cases same.symm.trans found
    cases active.symm.trans deactivated
  obtain ⟨earlier, later, pid, call, reply, s', reached, step, rest, stillOff, isOff, may, ⟨makes, isOpen⟩, grown⟩ :=
    Logged.Run.change (isRequest_obeys requests) run steps before after
  rw [grown] at isOff
  obtain ⟨status, value, sets, leaves, answered⟩ :=
    left_by (known_run (fun _ _ _ _ _ made => made.1) (run.steps reached)).numbered makes.effect stillOff isOff
  cases call with
  | updateAdminStatus id =>
    cases sets
    obtain ⟨admin, found, deactivated⟩ := stillOff
    simp [Deactivation.isOpen, found, deactivated] at isOpen
  | deactivateAdmin id =>
    cases sets
    cases leaves rfl
  | reactivateAdmin id =>
    cases sets
    obtain ⟨ctx, access, isRequest, read, isSuper⟩ := may_reactivate may
    cases ctx with
    | none =>
      cases read
      cases isSuper
    | some actor =>
      have kept := List.all_eq_true.mp isOpen _ (mem_readAccess read)
      simp [isRequest, Request.actor, isSuper] at kept
      refine ⟨earlier, later, pid, actor, reached, step, rest, isRequest, ?_, mem_roles.mp kept⟩
      rw [grown, show reply = .ok () from answered]
  | _ => cases sets

/-! ## An admin who is deactivated -/

private def allowed (requests : ℕ → Request) (pid : ℕ) (call : RbacCall) (x : History)
    (_ : Except Failure call.Reply) : Bool :=
  isOpen (requests pid) x pid call

private theorem followed_of_allowed (pid : ℕ) (call : RbacCall) (x : History) (reply : Except Failure call.Reply)
    (s' : Store) (isAllowed : allowed requests pid call x reply) (makes : Makes pid call x.store reply s') :
    followed requests pid call x reply s' := ⟨makes, isAllowed⟩

private def statusOf (pool : RbacPool) (adminId : AdminId) : Option AdminStatus :=
  (pool.store.store.admins.lookup adminId).map Admin.status

private theorem hasStatus_of_statusOf {status : AdminStatus} (found : statusOf pool adminId = some status) :
    HasStatus pool.store.store adminId status :=
  Option.map_eq_some_iff.mp found

private def backBySuper : ℕ → Request
  | 1 => .deactivateAdmin 7 (some 1)
  | _ => .reactivateAdmin 7 (some 1)

/-- The super admin who deactivated admin 7 reactivates the admin. -/
theorem reactivated_small : ∃ pool pool', HasStatus pool.store.store 7 .deactivated ∧
    Reactivated (Pool.Step (Logged.protocol (followed backBySuper)) (IsRequest backBySuper)) backBySuper 7
      pool pool' := by
  have played : ((schedule (fun _ => ⟨false⟩) (fun _ _ => false) (allowed backBySuper) backBySuper [1] [(1, 8)]
      smallStore).bind fun pool => (resume (fun _ => ⟨false⟩) (fun _ _ => false) (allowed backBySuper) backBySuper [2]
        [(2, 4)] pool).map fun pool' => (statusOf pool 7, statusOf pool' 7)) =
      some (some .deactivated, some .active) := by decide +kernel
  obtain ⟨pool, scheduled, played⟩ := Option.bind_eq_some_iff.mp played
  obtain ⟨pool', resumed, statuses⟩ := Option.map_eq_some_iff.mp played
  simp only [Prod.mk.injEq] at statuses
  have run : Logged.Run (followed backBySuper) (IsRequest backBySuper) Numbered pool :=
    schedule_run numbered_small followed_of_allowed scheduled
  have off := hasStatus_of_statusOf statuses.1
  refine ⟨pool, pool', off, reactivated_by_super run ?_ off (hasStatus_of_statusOf statuses.2)⟩
  exact resume_steps followed_of_allowed resumed

private def backByOther : ℕ → Request
  | 1 => .deactivateAdmin 7 (some 1)
  | _ => .updateAdminStatus 7 .active (some 9)

/-- Admin 9, who has no role, sets the status of a deactivated admin to `ACTIVE`. -/
theorem activated_by_other : ¬∀ pool pool' : RbacPool,
    Logged.Run interleaved (IsRequest backByOther) Numbered pool →
      Relation.ReflTransGen (Pool.Step (Logged.protocol interleaved) (IsRequest backByOther)) pool pool' →
        HasStatus pool.store.store 7 .deactivated → HasStatus pool'.store.store 7 .active →
          Reactivated (Pool.Step (Logged.protocol interleaved) (IsRequest backByOther)) backByOther 7 pool pool' := by
  intro reactivated
  have played : ((schedule (fun _ => ⟨false⟩) (fun _ _ => false) (fun _ _ _ _ => true) backByOther [1] [(1, 8)]
      smallStore).bind fun pool => (resume (fun _ => ⟨false⟩) (fun _ _ => false) (fun _ _ _ _ => true) backByOther [2]
        [(2, 2)] pool).map fun pool' => (statusOf pool 7, statusOf pool' 7)) =
      some (some .deactivated, some .active) := by decide +kernel
  obtain ⟨pool, scheduled, played⟩ := Option.bind_eq_some_iff.mp played
  obtain ⟨pool', resumed, statuses⟩ := Option.map_eq_some_iff.mp played
  simp only [Prod.mk.injEq] at statuses
  have run : Logged.Run interleaved (IsRequest backByOther) Numbered pool :=
    schedule_run numbered_small (fun _ _ _ _ _ _ makes => makes) scheduled
  have steps : Relation.ReflTransGen (Pool.Step (Logged.protocol interleaved) (IsRequest backByOther)) pool pool' :=
    resume_steps (fun _ _ _ _ _ _ makes => makes) resumed
  obtain ⟨earlier, later, pid, actor, -, -, -, isRequest, -⟩ :=
    reactivated pool pool' run steps (hasStatus_of_statusOf statuses.1) (hasStatus_of_statusOf statuses.2)
  unfold backByOther at isRequest
  split at isRequest <;> cases isRequest

end Exchange.AdminRbac.Deactivation
