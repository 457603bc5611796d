import Exchange.RbacEffects

/-! What admins may give who are no super admins. Who grants a permission to a
role has to hold it; who gives a role to an admin, or creates an admin with a
role, need not hold what comes with the role. -/
namespace Exchange.AdminRbac.Escalation
open Service

variable {requests : ℕ → Request} {initial : Store} {pid : ℕ} {adminId : AdminId} {roleId : RoleId} {code : Text}
  {call : RbacCall} {reply : Except Failure call.Reply} {s s' : Store} {x : History} {access : Access}
  {ctx : Option AdminId} {pool : RbacPool}

/-- The admins who act. -/
def IsActor (requests : ℕ → Request) (adminId : AdminId) : Prop := ∃ pid, (requests pid).actor = some adminId

/-- None who acts is a super admin, and no more is cached than what the tables say. -/
structure Opening (requests : ℕ → Request) (s : Store) : Prop where
  numbered : Numbered s
  lesser : ∀ adminId, IsActor requests adminId → ¬HasRole s adminId SUPER_ADMIN
  cached : ∀ adminId access, s.cache.lookup adminId = some access →
    (∀ code ∈ access.permissions, Holds s adminId code) ∧ ∀ name ∈ access.roles, HasRole s adminId name

/-- One who acts held the permission at the start. -/
def WasHeld (requests : ℕ → Request) (initial : Store) (code : Text) : Prop :=
  ∃ actor, IsActor requests actor ∧ Holds initial actor code

/-- Admins have what they had, or what those who act held, and no new super
admins. -/
structure Contained (requests : ℕ → Request) (initial s : Store) : Prop where
  permissions : ∀ adminId code, Holds s adminId code → Holds initial adminId code ∨ WasHeld requests initial code
  supers : ∀ adminId, HasRole s adminId SUPER_ADMIN → HasRole initial adminId SUPER_ADMIN

/-- What whoever acts has by the tables. -/
def heldBy (s : Store) : Option AdminId → List Text
  | some adminId => (getAdminRolesAndPermissions s adminId).permissions
  | none => []

/-- Who gives a role holds each of its permissions. -/
def isHeld (request : Request) (x : History) : RbacCall → Bool
  | .assignRoleToAdmin _ roleId => (permissionsOf x.store roleId).all (· ∈ heldBy x.store request.actor)
  | _ => true

def followed (requests : ℕ → Request) (pid : ℕ) (call : RbacCall) (x : History) (reply : Except Failure call.Reply)
    (s' : Store) : Prop :=
  Makes pid call x.store reply s' ∧ isHeld (requests pid) x call

/-! ## What is read -/

/-- No more than what those who act held, and not the role of a super admin. -/
def Within (requests : ℕ → Request) (initial : Store) (access : Access) : Prop :=
  (∀ code ∈ access.permissions, WasHeld requests initial code) ∧ SUPER_ADMIN ∉ access.roles

structure Kept (requests : ℕ → Request) (initial : Store) (x : History) : Prop where
  known : Known x
  contained : Contained requests initial x.store
  cached : ∀ adminId access, IsActor requests adminId → x.store.cache.lookup adminId = some access →
    Within requests initial access
  read : ∀ pid adminId access, IsActor requests adminId → Read adminId access (x.past pid) →
    Within requests initial access

theorem Contained.within (contained : Contained requests initial s) (opening : Opening requests initial)
    (acts : IsActor requests adminId) : Within requests initial (getAdminRolesAndPermissions s adminId) := by
  constructor
  · intro code member
    rcases contained.permissions adminId code (mem_permissions.mp member) with own | held
    · exact ⟨adminId, acts, own⟩
    · exact held
  · intro isSuper
    exact opening.lesser adminId acts (contained.supers adminId (mem_roles.mp isSuper))

/-- What whoever acts was found to have. -/
theorem Kept.actor (kept : Kept requests initial x) (isActor : (requests pid).actor = ctx)
    (read : ActorRead ctx access (x.past pid)) : Within requests initial access := by
  cases ctx with
  | some adminId => exact kept.read pid adminId access ⟨pid, isActor⟩ read
  | none =>
    cases read
    exact ⟨nofun, nofun⟩

/-! ## Steps -/

/-- A role given away has only permissions that those who act held. -/
theorem role_held (kept : Kept requests initial x) (held : isHeld (requests pid) x (.assignRoleToAdmin adminId roleId))
    (permits : Permits x.store roleId code) : WasHeld requests initial code := by
  have member := List.all_eq_true.mp held code (mem_permissionsOf.mpr permits)
  simp only [decide_eq_true_eq] at member
  cases isActor : (requests pid).actor with
  | none =>
    rw [isActor] at member
    cases member
  | some actor =>
    rw [isActor] at member
    rcases kept.contained.permissions actor code (mem_permissions.mp member) with own | held
    · exact ⟨actor, ⟨pid, isActor⟩, own⟩
    · exact held

theorem grant_held {permissionId : PermissionId} (kept : Kept requests initial x)
    (may : May (requests pid) (x.past pid) (.grantPermissionToRole roleId permissionId))
    (isCode : x.store.permissions.lookup permissionId = some code) : WasHeld requests initial code := by
  cases may with
  | neutral neutral => cases neutral
  | grantPermissionToRole isRequest found read held =>
    have within := kept.actor (by rw [isRequest]; rfl) read
    rcases held with isSuper | held
    · exact absurd isSuper within.2
    · rw [(kept.known.permission pid permissionId _ found).2 code isCode]
      exact within.1 _ held

theorem no_new_permission (kept : Kept requests initial x) :
    ¬May (requests pid) (x.past pid) (.createPermission code) := by
  intro may
  cases may with
  | neutral neutral => cases neutral
  | createPermission isRequest read isSuper =>
    exact (kept.actor (by rw [isRequest]; rfl) read).2 isSuper

theorem no_new_super {role : Role} (kept : Kept requests initial x)
    (may : May (requests pid) (x.past pid) (.assignRoleToAdmin adminId roleId))
    (isRole : x.store.roles.lookup roleId = some role) : role.name ≠ SUPER_ADMIN := by
  cases may with
  | neutral neutral => cases neutral
  | assignRoleToAdmin isRequest found read mayAssign =>
    rw [kept.known.same_role found isRole]
    exact fun named => (kept.actor (by rw [isRequest]; rfl) read).2 (mayAssign named)
  | assignFirstRole isRequest created found lesser =>
    rw [kept.known.same_role found isRole]
    exact lesser

theorem contained_step (kept : Kept requests initial x) (may : May (requests pid) (x.past pid) call)
    (made : followed requests pid call x reply s') : Contained requests initial s' := by
  have effect := made.1.effect
  constructor
  · intro adminId code holds
    rcases holds_effect effect holds with before | gain
    · exact kept.contained.permissions adminId code before
    · cases gain with
      | role permits => exact .inr (role_held kept made.2 permits)
      | grant isCode => exact .inr (grant_held kept may isCode)
      | code => exact absurd may (no_new_permission kept)
  · intro adminId has
    rcases hasRole_effect effect kept.known.numbered has with before | ⟨roleId, role, same, isRole, named⟩
    · exact kept.contained.supers adminId before
    · cases same
      exact absurd named (no_new_super kept may isRole)

theorem cached_step (kept : Kept requests initial x) (may : May (requests pid) (x.past pid) call)
    (effect : Effect x.store ⟨call, reply⟩ s') (acts : IsActor requests adminId)
    (hit : s'.cache.lookup adminId = some access) : Within requests initial access := by
  cases effect with
  | missed => exact kept.cached adminId access acts (lookup_of_erase hit)
  | dropped => exact kept.cached adminId access acts (lookup_of_erase hit)
  | @filled other stored =>
    by_cases same : adminId = other
    · subst same
      rw [AList.lookup_insert] at hit
      cases hit
      cases may with
      | neutral neutral => cases neutral
      | cacheSet read => exact kept.read pid adminId access acts (.stored read)
    · rw [AList.lookup_insert_ne same] at hit
      exact kept.cached adminId access acts hit
  | _ => exact kept.cached adminId access acts hit

theorem read_step (opening : Opening requests initial) (kept : Kept requests initial x)
    (effect : Effect x.store ⟨call, reply⟩ s') (other : ℕ) (acts : IsActor requests adminId)
    (read : Read adminId access ((⟨s', (pid, ⟨call, reply⟩) :: x.history⟩ : History).past other)) :
    Within requests initial access := by
  cases read with
  | cached hit =>
    rcases Logged.mem_past_cons.mp hit with ⟨same, -⟩ | before
    · cases same
      exact kept.cached adminId access acts (effect.learned rfl)
    · exact kept.read other adminId access acts (.cached before)
  | stored read =>
    rcases Logged.mem_past_cons.mp read with ⟨same, -⟩ | before
    · cases same
      have found : getAdminRolesAndPermissions x.store adminId = access := effect.learned rfl
      exact found ▸ kept.contained.within opening acts
    · exact kept.read other adminId access acts (.stored before)

theorem kept_step (opening : Opening requests initial) (kept : Kept requests initial x)
    (may : May (requests pid) (x.past pid) call) (made : followed requests pid call x reply s') :
    Kept requests initial ⟨s', (pid, ⟨call, reply⟩) :: x.history⟩ where
  known := known_step kept.known made.1
  contained := contained_step kept may made
  cached _ _ acts hit := cached_step kept may made.1.effect acts hit
  read other _ _ acts read := read_step opening kept made.1.effect other acts read

theorem kept_initial (opening : Opening requests initial) : Kept requests initial ⟨initial, []⟩ where
  known := known_opening opening.numbered
  contained := ⟨fun _ _ => .inl, fun _ => id⟩
  cached adminId access acts hit := by
    obtain ⟨held, named⟩ := opening.cached adminId access hit
    refine ⟨fun code member => ⟨adminId, acts, held code member⟩, fun isSuper => ?_⟩
    exact opening.lesser adminId acts (named _ isSuper)
  read _ _ _ _ read := by cases read with
    | cached hit => cases hit
    | stored read => cases read

/-- While who gives a role holds what comes with it, nothing is gained that those
who act did not hold. -/
theorem no_escalation (opening : Opening requests initial)
    (run : Logged.Run (followed requests) (IsRequest requests) (· = initial) pool) :
    Contained requests initial pool.store.store := by
  have kept : Kept requests initial pool.store := by
    refine run.inv (isRequest_obeys requests) (fun s same => ?_) fun _ _ _ _ _ kept may made =>
      kept_step opening kept may made
    subst same
    exact kept_initial opening
  exact kept.contained

/-! ## A role that is given away -/

/-- Admin 9 gets the role with the permission, from whoever acts. -/
private def assigns (actor : AdminId) (_ : ℕ) : Request := .assignRoleToAdmin 9 20 (some actor)

private theorem opening_small {actor : AdminId}
    (lesser : SUPER_ADMIN ∉ (getAdminRolesAndPermissions smallStore actor).roles) :
    Opening (assigns actor) smallStore where
  numbered := numbered_small
  lesser := by
    rintro adminId ⟨_, same⟩ isSuper
    cases same
    exact lesser (mem_roles.mpr isSuper)
  cached adminId access hit := by cases hit

/-- Admin 7 holds the permission of the role. -/
theorem no_escalation_small : ∃ pool : RbacPool, pool.answerOf 1 = some .done ∧
    Contained (assigns 7) smallStore pool.store.store := by
  have played : (schedule (fun _ => ⟨false⟩) (fun _ _ => false) (fun pid call x _ => isHeld (assigns 7 pid) x call)
      (assigns 7) [1] [(1, 7)] smallStore).map (fun pool => pool.answerOf 1) = some (some .done) := by decide +kernel
  obtain ⟨pool, scheduled, answers⟩ := Option.map_eq_some_iff.mp played
  refine ⟨pool, answers, no_escalation (opening_small (by decide +kernel)) ?_⟩
  exact schedule_run rfl (fun _ _ _ _ _ held makes => ⟨makes, held⟩) scheduled

/-- Admin 9, who has nothing, takes the role. -/
theorem escalated_by_role : ¬∀ pool : RbacPool, Opening (assigns 9) smallStore →
    Logged.Run interleaved (IsRequest (assigns 9)) (· = smallStore) pool →
      Contained (assigns 9) smallStore pool.store.store := by
  intro contained
  have played : (schedule (fun _ => ⟨false⟩) (fun _ _ => false) (fun _ _ _ _ => true) (assigns 9) [1] [(1, 7)]
      smallStore).map (fun pool => decide (['k'] ∈ (getAdminRolesAndPermissions pool.store.store 9).permissions)) =
      some true := by decide +kernel
  obtain ⟨pool, scheduled, gained⟩ := Option.map_eq_some_iff.mp played
  have none : ['k'] ∉ (getAdminRolesAndPermissions smallStore 9).permissions := by decide +kernel
  have run : Logged.Run interleaved (IsRequest (assigns 9)) (· = smallStore) pool :=
    schedule_run rfl (fun _ _ _ _ _ _ makes => makes) scheduled
  have has := (contained pool (opening_small (by decide +kernel)) run).permissions 9 ['k']
    (mem_permissions.mp (of_decide_eq_true gained))
  rcases has with own | ⟨actor, ⟨_, same⟩, held⟩
  · exact none (mem_permissions.mpr own)
  · cases same
    exact none (mem_permissions.mpr held)

end Exchange.AdminRbac.Escalation
