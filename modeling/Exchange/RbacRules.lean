import Exchange.RbacService

/-! The rules of the access control: after which answers a request changes roles,
permissions or the status of an admin, and what it has dropped from the cache
when it answers. -/
namespace Exchange.AdminRbac

/-- Calls that change nothing, or only drop what is cached. -/
def RbacCall.isNeutral : RbacCall → Bool
  | .findAdminById _ => true
  | .findAdminByEmail _ => true
  | .findRoleById _ => true
  | .findRoleByName _ => true
  | .findPermissionById _ => true
  | .findPermissionByCode _ => true
  | .getAdminRolesAndPermissions _ => true
  | .adminsWithRole _ => true
  | .countActiveAdminsWithRole _ => true
  | .adminIdsForRole _ => true
  | .adminIdsForPermission _ => true
  | .revokeAllAdminSessions _ => true
  | .cacheGet _ => true
  | .cacheDel _ => true
  | _ => false

namespace Service
open Async

/-- The calls a request has made, latest first. -/
abbrev Past := List (Answered RbacCall RbacCall.Reply Failure)

/-- What an admin was found to have, in the cache or in the tables. -/
inductive Read (adminId : AdminId) (access : Access) (past : Past) : Prop
  | cached (hit : ⟨.cacheGet adminId, .ok (some access)⟩ ∈ past)
  | stored (read : ⟨.getAdminRolesAndPermissions adminId, .ok access⟩ ∈ past)

/-- What whoever acts was found to have. -/
def ActorRead : Option AdminId → Access → Past → Prop
  | some adminId, access, past => Read adminId access past
  | none, access, _ => access = ⟨[], []⟩

/-- The admin was not among the super admins, or not the last of them. -/
def Safe (adminId : AdminId) (past : Past) : Prop :=
  ∃ supers, ⟨.adminsWithRole SUPER_ADMIN, .ok supers⟩ ∈ past ∧
    (adminId ∈ supers → ∃ count, ⟨.countActiveAdminsWithRole SUPER_ADMIN, .ok count⟩ ∈ past ∧ 1 < count)

/-- The calls a request may make. -/
inductive May (request : Request) (past : Past) : RbacCall → Prop
  | neutral {call : RbacCall} (neutral : call.isNeutral) : May request past call
  | cacheSet {adminId : AdminId} {access : Access}
      (read : ⟨.getAdminRolesAndPermissions adminId, .ok access⟩ ∈ past) : May request past (.cacheSet adminId access)
  | createRole {name : Text} {ctx : Option AdminId} (isRequest : request = .createRole name ctx) :
      May request past (.createRole name)
  | deleteRole {roleId : RoleId} {ctx : Option AdminId} {role : Role} (isRequest : request = .deleteRole roleId ctx)
      (read : ⟨.findRoleById roleId, .ok (some role)⟩ ∈ past) (lesser : role.name ≠ SUPER_ADMIN) :
      May request past (.deleteRole roleId)
  | createPermission {code : Text} {ctx : Option AdminId} {actor : Access}
      (isRequest : request = .createPermission code ctx) (read : ActorRead ctx actor past)
      (isSuper : SUPER_ADMIN ∈ actor.roles) : May request past (.createPermission code)
  | deleteRolePermissions {permissionId : PermissionId} {ctx : Option AdminId}
      (isRequest : request = .deletePermission permissionId ctx) :
      May request past (.deleteRolePermissions permissionId)
  | deletePermission {permissionId : PermissionId} {ctx : Option AdminId}
      (isRequest : request = .deletePermission permissionId ctx) : May request past (.deletePermission permissionId)
  | assignRoleToAdmin {adminId : AdminId} {roleId : RoleId} {ctx : Option AdminId} {role : Role} {actor : Access}
      (isRequest : request = .assignRoleToAdmin adminId roleId ctx)
      (found : ⟨.findRoleById roleId, .ok (some role)⟩ ∈ past) (read : ActorRead ctx actor past)
      (mayAssign : role.name = SUPER_ADMIN → SUPER_ADMIN ∈ actor.roles) :
      May request past (.assignRoleToAdmin adminId roleId)
  | assignFirstRole {email : Text} {adminId : AdminId} {roleId : RoleId} {status : AdminStatus}
      {ctx : Option AdminId} {role : Role} (isRequest : request = .createAdmin email roleId status ctx)
      (created : ⟨.createAdmin email (normalize status), .ok adminId⟩ ∈ past)
      (found : ⟨.findRoleById roleId, .ok (some role)⟩ ∈ past) (lesser : role.name ≠ SUPER_ADMIN) :
      May request past (.assignRoleToAdmin adminId roleId)
  | removeRoleFromAdmin {adminId : AdminId} {roleId : RoleId} {ctx : Option AdminId} {role : Role}
      (isRequest : request = .removeRoleFromAdmin adminId roleId ctx)
      (found : ⟨.findRoleById roleId, .ok (some role)⟩ ∈ past) (safe : role.name = SUPER_ADMIN → Safe adminId past)
      (first : ∀ reply, ⟨.removeRoleFromAdmin adminId roleId, reply⟩ ∉ past) :
      May request past (.removeRoleFromAdmin adminId roleId)
  | grantPermissionToRole {roleId : RoleId} {permissionId : PermissionId} {ctx : Option AdminId} {code : Text}
      {actor : Access} (isRequest : request = .grantPermissionToRole roleId permissionId ctx)
      (found : ⟨.findPermissionById permissionId, .ok (some code)⟩ ∈ past) (read : ActorRead ctx actor past)
      (held : SUPER_ADMIN ∈ actor.roles ∨ code ∈ actor.permissions) :
      May request past (.grantPermissionToRole roleId permissionId)
  | revokePermissionFromRole {roleId : RoleId} {permissionId : PermissionId} {ctx : Option AdminId}
      (isRequest : request = .revokePermissionFromRole roleId permissionId ctx)
      (listed : ∃ adminIds, ⟨.adminIdsForRole roleId, .ok adminIds⟩ ∈ past)
      (first : ∀ reply, ⟨.revokePermissionFromRole roleId permissionId, reply⟩ ∉ past) :
      May request past (.revokePermissionFromRole roleId permissionId)
  | createAdmin {email : Text} {roleId : RoleId} {status : AdminStatus} {ctx : Option AdminId}
      (isRequest : request = .createAdmin email roleId status ctx) :
      May request past (.createAdmin email (normalize status))
  | updateAdminStatus {adminId : AdminId} {status : AdminStatus} {ctx : Option AdminId}
      (isRequest : request = .updateAdminStatus adminId status ctx)
      (safe : normalize status = .suspended → Safe adminId past) :
      May request past (.updateAdminStatus adminId (normalize status))
  | deactivateAdmin {adminId : AdminId} {ctx : Option AdminId} {actor : Access}
      (isRequest : request = .deactivateAdmin adminId ctx) (read : ActorRead ctx actor past)
      (isSuper : SUPER_ADMIN ∈ actor.roles) (safe : Safe adminId past) : May request past (.deactivateAdmin adminId)
  | reactivateAdmin {adminId : AdminId} {ctx : Option AdminId} {actor : Access}
      (isRequest : request = .reactivateAdmin adminId ctx) (read : ActorRead ctx actor past)
      (isSuper : SUPER_ADMIN ∈ actor.roles) : May request past (.reactivateAdmin adminId)

/-- The call that takes a role or a permission away. -/
def Request.removal : Request → Option RbacCall
  | .removeRoleFromAdmin adminId roleId _ => some (.removeRoleFromAdmin adminId roleId)
  | .revokePermissionFromRole roleId permissionId _ => some (.revokePermissionFromRole roleId permissionId)
  | _ => none

/-- Whom a removal is about, by what was read before. -/
def Concerns : Request → Past → AdminId → Prop
  | .removeRoleFromAdmin adminId _ _, _, concerned => concerned = adminId
  | .revokePermissionFromRole roleId _ _, past, concerned =>
    ∃ adminIds, ⟨.adminIdsForRole roleId, .ok adminIds⟩ ∈ past ∧ concerned ∈ adminIds
  | _, _, _ => False

/-- Since the call was made, those whom it is about were dropped from the cache. -/
def DroppedSince (request : Request) (call : RbacCall) (past : Past) : Prop :=
  ∃ later reply earlier, past = later ++ ⟨call, reply⟩ :: earlier ∧
    ∀ adminId, Concerns request earlier adminId → ⟨.cacheDel adminId, .ok ()⟩ ∈ later

/-- What a request has done when it answers. -/
def answers : Request → Response → Past → Prop
  | .getAdminPermissions adminId, .access access, past => Read adminId access past
  | request, _, past => ∀ call, request.removal = some call → DroppedSince request call past

abbrev ends (request : Request) : Past → Except Failure Response → Prop :=
  EndsWith (fun _ => True) (answers request)

variable {request : Request} {past later : Past} {call : RbacCall} {adminId : AdminId} {access : Access}
  {ctx : Option AdminId} {α β : Type}

theorem Read.grow (read : Read adminId access past) (grown : past <:+ later) : Read adminId access later := by
  cases read with
  | cached hit => exact .cached (grown.subset hit)
  | stored read => exact .stored (grown.subset read)

theorem ActorRead.grow (read : ActorRead ctx access past) (grown : past <:+ later) : ActorRead ctx access later := by
  cases ctx with
  | none => exact read
  | some adminId => exact Read.grow read grown

/-- Makes the calls it may make, and knows a fact when it answers. -/
abbrev Follows (request : Request) (past : Past) (program : RbacM α) (fact : α → Past → Prop) : Prop :=
  program.Obeys (May request) (EndsWith (fun _ => True) fact) past

theorem follows_ask (allowed : May request past call) :
    Follows request past (ask call) fun value later => later = ⟨call, .ok value⟩ :: past :=
  obeys_answers allowed (fun _ => trivial) fun _ => rfl

theorem follows_neutral (neutral : call.isNeutral) :
    Follows request past (ask call) fun value later => later = ⟨call, .ok value⟩ :: past :=
  follows_ask (.neutral neutral)

theorem Follows.weaken {program : RbacM α} {fact fact' : α → Past → Prop} (follows : Follows request past program fact)
    (weaker : ∀ value later, past <:+ later → fact value later → fact' value later) :
    Follows request past program fact' := by
  refine follows.grows.imp fun later result ⟨grown, ended⟩ => ?_
  cases result with
  | ok value => exact weaker value later grown ended
  | error failure => trivial

/-! ## Access -/

theorem attempt_follows {program : RbacM α} {fact : α → Past → Prop} (fallback : α)
    (follows : Follows request past program fact)
    (known : ∀ later, past <:+ later → fact fallback later) :
    Follows request past (attempt fallback program) fact := by
  unfold attempt
  refine obeys_tryCatch.mpr (follows.grows.imp fun later result ⟨grown, ended⟩ => ?_)
  cases result with
  | ok value => exact ended
  | error failure => exact known later grown

theorem getAdminPermissions_follows :
    Follows request past (getAdminPermissions adminId) fun access later => Read adminId access later := by
  have cacheRead : Follows request past (attempt none (ask (.cacheGet adminId))) fun cached later =>
      ∀ access, cached = some access → Read adminId access later := by
    refine attempt_follows none ((follows_neutral rfl).weaken ?_) nofun
    rintro cached later - rfl access rfl
    exact .cached List.mem_cons_self
  unfold getAdminPermissions
  refine cacheRead.seq fun cached later _ hit => ?_
  cases cached with
  | some access => exact hit access rfl
  | none =>
    refine (follows_neutral rfl).seq ?_
    rintro access later - rfl
    have stored : Follows request (⟨.getAdminRolesAndPermissions adminId, .ok access⟩ :: later)
        (attempt () (ask (.cacheSet adminId access))) fun _ _ => True :=
      attempt_follows () ((follows_ask (.cacheSet List.mem_cons_self)).weaken fun _ _ _ _ => trivial) fun _ _ => trivial
    exact stored.seq fun _ later' grown _ => .stored (grown.subset List.mem_cons_self)

theorem actorAccess_follows :
    Follows request past (actorAccess ctx) fun actor later => ActorRead ctx actor later := by
  cases ctx with
  | none => exact rfl
  | some adminId => exact getAdminPermissions_follows

theorem invalidateEach_follows (adminIds : List AdminId) :
    Follows request past (invalidateEach adminIds) fun _ later =>
      ∃ drops, later = drops ++ past ∧ ∀ adminId ∈ adminIds, ⟨.cacheDel adminId, .ok ()⟩ ∈ drops := by
  induction adminIds generalizing past with
  | nil => exact ⟨[], rfl, nofun⟩
  | cons adminId rest ih =>
    unfold invalidateEach invalidateAdminPermissions
    refine (follows_neutral rfl).seq ?_
    rintro _ later - rfl
    refine ih.weaken ?_
    rintro _ later' - ⟨drops, rfl, dropped⟩
    refine ⟨drops ++ [⟨.cacheDel adminId, .ok ()⟩], by simp, fun other member => ?_⟩
    rcases List.mem_cons.mp member with rfl | member
    · simp
    · exact List.mem_append_left _ (dropped other member)

theorem invalidateMany_follows (adminIds : List AdminId) :
    Follows request past (invalidateMany adminIds) fun _ later =>
      ∃ drops, later = drops ++ past ∧ ∀ adminId ∈ adminIds, ⟨.cacheDel adminId, .ok ()⟩ ∈ drops := by
  refine (invalidateEach_follows adminIds.dedup).weaken ?_
  rintro _ later - ⟨drops, rfl, dropped⟩
  exact ⟨drops, rfl, fun adminId member => dropped adminId (List.mem_dedup.mpr member)⟩

theorem ensureSuperAdmin_follows {message : String} :
    Follows request past (ensureSuperAdmin access message) fun _ later =>
      later = past ∧ SUPER_ADMIN ∈ access.roles := by
  unfold ensureSuperAdmin
  split
  · rename_i isSuper
    exact ⟨rfl, isSuper⟩
  · trivial

theorem ensureSuperAdminOrHasPermission_follows {permission : Text} :
    Follows request past (ensureSuperAdminOrHasPermission access permission) fun _ later =>
      later = past ∧ (SUPER_ADMIN ∈ access.roles ∨ permission ∈ access.permissions) := by
  unfold ensureSuperAdminOrHasPermission
  split
  · rename_i isSuper
    exact ⟨rfl, .inl isSuper⟩
  split
  · rename_i held
    exact ⟨rfl, .inr held⟩
  · trivial

/-! ## Roles and permissions -/

variable {roleId : RoleId} {permissionId : PermissionId} {role : Role} {status : AdminStatus}

theorem findAdminRole_follows : Follows request past (findAdminRole roleId) fun role later =>
    later = ⟨.findRoleById roleId, .ok (some role)⟩ :: past := by
  unfold findAdminRole
  refine (follows_neutral rfl).seq ?_
  rintro found later - rfl
  cases isFound : found.filter fun role => role.scope = .admin with
  | none => trivial
  | some role =>
    obtain ⟨rfl, -⟩ := Option.filter_eq_some_iff.mp isFound
    exact rfl

theorem findAdmin_follows : Follows request past (findAdmin adminId) fun admin later =>
    later = ⟨.findAdminById adminId, .ok (some admin)⟩ :: past := by
  unfold findAdmin
  refine (follows_neutral rfl).seq ?_
  rintro (_ | admin) later - rfl
  · trivial
  · exact rfl

theorem findPermission_follows :
    Follows request past (findPermission permissionId) fun _ _ => True := by
  unfold findPermission
  refine (follows_neutral rfl).seq ?_
  rintro (_ | code) later - rfl <;> trivial

theorem findGrant_follows : Follows request past (findGrant roleId permissionId) fun found later =>
    later = ⟨.findPermissionById permissionId, .ok (some found.2)⟩ :: ⟨.findRoleById roleId, .ok (some found.1)⟩ ::
      past := by
  unfold findGrant
  refine (follows_neutral rfl).seq ?_
  rintro role later - rfl
  refine (follows_neutral rfl).seq ?_
  rintro permission later - rfl
  cases isFound : role.filter fun role => role.scope = .admin with
  | none => trivial
  | some role =>
    obtain ⟨rfl, -⟩ := Option.filter_eq_some_iff.mp isFound
    cases permission with
    | none => trivial
    | some code => exact rfl

theorem createRole_follows {name : Text} (isRequest : request = .createRole name ctx) :
    Follows request past (createRole name) fun _ _ => True := by
  unfold createRole
  refine (follows_neutral rfl).seq ?_
  rintro existing later - rfl
  split
  · trivial
  · exact (follows_ask (.createRole isRequest)).seq fun _ _ _ _ => trivial

theorem deleteRole_follows (isRequest : request = .deleteRole roleId ctx) :
    Follows request past (deleteRole roleId) fun _ _ => True := by
  unfold deleteRole
  refine findAdminRole_follows.seq ?_
  rintro role later - rfl
  split
  · trivial
  rename_i isPlain
  simp only [Bool.or_eq_true, decide_eq_true_eq, not_or] at isPlain
  refine (follows_neutral rfl).seq ?_
  rintro affectedAdmins later - rfl
  refine (follows_ask (.deleteRole isRequest (List.mem_cons_of_mem _ List.mem_cons_self) isPlain.2)).seq ?_
  exact fun _ _ _ _ => (invalidateMany_follows affectedAdmins).weaken fun _ _ _ _ => trivial

theorem createPermission_follows {code : Text} (isRequest : request = .createPermission code ctx) :
    Follows request past (createPermission code ctx) fun _ _ => True := by
  unfold createPermission
  refine actorAccess_follows.seq fun actor later _ read => ?_
  refine ensureSuperAdmin_follows.seq ?_
  rintro _ later' - ⟨rfl, isSuper⟩
  refine (follows_neutral rfl).seq ?_
  rintro existing later - rfl
  split
  · trivial
  · refine (follows_ask (.createPermission isRequest (read.grow (List.suffix_cons _ _)) isSuper)).seq ?_
    exact fun _ _ _ _ => trivial

theorem deletePermission_follows (isRequest : request = .deletePermission permissionId ctx) :
    Follows request past (deletePermission permissionId) fun _ _ => True := by
  unfold deletePermission
  refine findPermission_follows.seq fun _ later _ _ => ?_
  refine (follows_neutral rfl).seq fun affectedAdmins later _ _ => ?_
  refine (follows_ask (.deleteRolePermissions isRequest)).seq fun _ later _ _ => ?_
  refine (follows_ask (.deletePermission isRequest)).seq fun _ later _ _ => ?_
  exact (invalidateMany_follows affectedAdmins).weaken fun _ _ _ _ => trivial

theorem ensureMayAssign_follows : Follows request past (ensureMayAssign role access) fun _ later =>
    later = past ∧ (role.name = SUPER_ADMIN → SUPER_ADMIN ∈ access.roles) := by
  unfold ensureMayAssign
  split
  · trivial
  rename_i allowed
  exact ⟨rfl, fun isSuper => not_not.mp fun lacks => allowed ⟨isSuper, lacks⟩⟩

theorem assignRoleToAdmin_follows (isRequest : request = .assignRoleToAdmin adminId roleId ctx) :
    Follows request past (assignRoleToAdmin adminId roleId ctx) fun _ _ => True := by
  unfold assignRoleToAdmin
  refine (follows_neutral rfl).seq ?_
  rintro role later - rfl
  refine (follows_neutral rfl).seq ?_
  rintro admin later - rfl
  cases isFound : role.filter fun role => role.scope = .admin with
  | none => trivial
  | some role =>
    obtain ⟨rfl, -⟩ := Option.filter_eq_some_iff.mp isFound
    cases admin with
    | none => trivial
    | some admin =>
      refine actorAccess_follows.seq fun actor later grown read => ?_
      refine ensureMayAssign_follows.seq ?_
      rintro _ later' - ⟨rfl, mayAssign⟩
      have found : ⟨.findRoleById roleId, .ok (some role)⟩ ∈ later' :=
        grown.subset (List.mem_cons_of_mem _ List.mem_cons_self)
      refine (follows_ask (.assignRoleToAdmin isRequest found read mayAssign)).seq ?_
      exact fun _ _ _ _ => (follows_neutral rfl).weaken fun _ _ _ _ => trivial

theorem ensureNotLastSuperAdmin_follows {message : String} :
    Follows request past (ensureNotLastSuperAdmin adminId message) fun _ later => Safe adminId later := by
  unfold ensureNotLastSuperAdmin
  refine (follows_neutral rfl).seq ?_
  rintro supers later - rfl
  split
  · refine (follows_neutral rfl).seq ?_
    rintro activeSupers later' - rfl
    split
    · trivial
    rename_i more
    exact ⟨supers, List.mem_cons_of_mem _ List.mem_cons_self, fun _ => ⟨_, List.mem_cons_self, not_le.mp more⟩⟩
  · rename_i isNone
    exact ⟨supers, List.mem_cons_self, fun isSuper => absurd isSuper isNone⟩

/-- Only these two are read to see whether a role may be taken away. -/
theorem ensureRemovable_follows : Follows request past (ensureRemovable adminId role) fun _ later =>
    (role.name = SUPER_ADMIN → Safe adminId later) ∧
      ∃ reads, later = reads ++ past ∧ ∀ made ∈ reads, made.call.isNeutral := by
  unfold ensureRemovable
  split
  · refine (follows_neutral rfl).seq ?_
    rintro supers later - rfl
    refine (follows_neutral rfl).seq ?_
    rintro count later - rfl
    split
    · trivial
    rename_i more
    refine ⟨fun _ => ⟨supers, List.mem_cons_of_mem _ List.mem_cons_self, fun isSuper => ?_⟩, [_, _], rfl, ?_⟩
    swap
    · simp [RbacCall.isNeutral]
    exact ⟨count, List.mem_cons_self, not_le.mp fun few => more ⟨isSuper, few⟩⟩
  · rename_i lesser
    exact ⟨fun isSuper => absurd isSuper lesser, [], rfl, List.forall_mem_nil _⟩

theorem removeRoleFromAdmin_follows (isRequest : request = .removeRoleFromAdmin adminId roleId ctx) :
    Follows request [] (removeRoleFromAdmin adminId roleId) fun _ later =>
      DroppedSince request (.removeRoleFromAdmin adminId roleId) later := by
  unfold removeRoleFromAdmin
  refine findAdminRole_follows.seq ?_
  rintro role later - rfl
  refine ensureRemovable_follows.seq ?_
  rintro _ later - ⟨safe, reads, rfl, neutral⟩
  have first : ∀ reply, (⟨.removeRoleFromAdmin adminId roleId, reply⟩ : Answered RbacCall RbacCall.Reply Failure) ∉
      reads ++ [⟨.findRoleById roleId, .ok (some role)⟩] := by
    intro reply member
    rcases List.mem_append.mp member with read | other
    · cases neutral _ read
    · cases List.mem_singleton.mp other
  have allowed := May.removeRoleFromAdmin isRequest (List.mem_append_right reads List.mem_cons_self) safe first
  refine (follows_ask allowed).seq ?_
  rintro _ later - rfl
  refine (follows_neutral rfl).weaken ?_
  rintro _ later - rfl
  refine ⟨[_], _, _, rfl, ?_⟩
  subst isRequest
  rintro concerned rfl
  exact List.mem_cons_self

theorem grantPermissionToRole_follows (isRequest : request = .grantPermissionToRole roleId permissionId ctx) :
    Follows request past (grantPermissionToRole roleId permissionId ctx) fun _ _ => True := by
  unfold grantPermissionToRole
  refine findGrant_follows.seq ?_
  rintro ⟨role, code⟩ later - rfl
  refine actorAccess_follows.seq fun actor later grown read => ?_
  refine ensureSuperAdminOrHasPermission_follows.seq ?_
  rintro _ later' - ⟨rfl, held⟩
  refine (follows_neutral rfl).seq ?_
  rintro affectedAdmins later - rfl
  have suffix := List.suffix_cons (⟨.adminIdsForRole roleId, .ok affectedAdmins⟩ : Answered _ _ _) later'
  have found := (grown.trans suffix).subset List.mem_cons_self
  refine (follows_ask (.grantPermissionToRole isRequest found (read.grow suffix) held)).seq ?_
  exact fun _ _ _ _ => (invalidateMany_follows affectedAdmins).weaken fun _ _ _ _ => trivial

theorem revokePermissionFromRole_follows (isRequest : request = .revokePermissionFromRole roleId permissionId ctx) :
    Follows request [] (revokePermissionFromRole roleId permissionId) fun _ later =>
      DroppedSince request (.revokePermissionFromRole roleId permissionId) later := by
  unfold revokePermissionFromRole
  refine findGrant_follows.seq ?_
  rintro ⟨role, code⟩ later - rfl
  dsimp only
  split
  · trivial
  refine (follows_neutral rfl).seq ?_
  rintro affectedAdmins later - rfl
  refine (follows_ask (.revokePermissionFromRole isRequest ⟨_, List.mem_cons_self⟩ (by simp))).seq ?_
  rintro _ later - rfl
  refine (invalidateMany_follows affectedAdmins).weaken ?_
  rintro _ later - ⟨drops, rfl, dropped⟩
  refine ⟨drops, _, _, rfl, ?_⟩
  subst isRequest
  rintro concerned ⟨adminIds, read, member⟩
  have same : adminIds = affectedAdmins := by simpa using read
  exact dropped concerned (same ▸ member)

/-! ## Admins -/

theorem createAdmin_follows {email : Text} (isRequest : request = .createAdmin email roleId status ctx) :
    Follows request past (createAdmin email roleId status) fun _ _ => True := by
  unfold createAdmin
  refine findAdminRole_follows.seq ?_
  rintro role later - rfl
  split
  · trivial
  rename_i lesser
  refine (follows_neutral rfl).seq ?_
  rintro existing later - rfl
  split
  · trivial
  refine (follows_ask (.createAdmin isRequest)).seq ?_
  rintro adminId later - rfl
  exact (follows_ask (.assignFirstRole isRequest List.mem_cons_self (by simp) lesser)).weaken fun _ _ _ _ => trivial

theorem ensureSuspendable_follows : Follows request past (ensureSuspendable adminId status) fun _ later =>
    status = .suspended → Safe adminId later := by
  unfold ensureSuspendable
  split
  · exact ensureNotLastSuperAdmin_follows.weaken fun _ _ _ safe _ => safe
  · rename_i stays
    exact fun suspends => absurd suspends stays

theorem endAccess_follows : Follows request past (endAccess adminId status) fun _ _ => True := by
  unfold endAccess
  split
  · exact (follows_neutral rfl).seq fun _ _ _ _ => (follows_neutral rfl).weaken fun _ _ _ _ => trivial
  · trivial

theorem updateAdminStatus_follows (isRequest : request = .updateAdminStatus adminId status ctx) :
    Follows request past (updateAdminStatus adminId status ctx) fun _ _ => True := by
  unfold updateAdminStatus
  refine findAdmin_follows.seq fun _ later _ _ => ?_
  split
  · trivial
  refine ensureSuspendable_follows.seq fun _ later _ safe => ?_
  exact (follows_ask (.updateAdminStatus isRequest safe)).seq fun _ _ _ _ => endAccess_follows

theorem deactivateAdmin_follows (isRequest : request = .deactivateAdmin adminId ctx) :
    Follows request past (deactivateAdmin adminId ctx) fun _ _ => True := by
  unfold deactivateAdmin
  refine findAdmin_follows.seq fun target later _ _ => ?_
  refine actorAccess_follows.seq fun actor later _ read => ?_
  refine ensureSuperAdmin_follows.seq ?_
  rintro _ later' - ⟨rfl, isSuper⟩
  split
  · trivial
  split
  · trivial
  refine ensureNotLastSuperAdmin_follows.seq fun _ later grown safe => ?_
  refine (follows_ask (.deactivateAdmin isRequest (read.grow grown) isSuper safe)).seq fun _ _ _ _ => ?_
  exact (follows_neutral rfl).seq fun _ _ _ _ => (follows_neutral rfl).weaken fun _ _ _ _ => trivial

theorem reactivateAdmin_follows (isRequest : request = .reactivateAdmin adminId ctx) :
    Follows request past (reactivateAdmin adminId ctx) fun _ _ => True := by
  unfold reactivateAdmin
  refine findAdmin_follows.seq fun target later _ _ => ?_
  refine actorAccess_follows.seq fun actor later _ read => ?_
  refine ensureSuperAdmin_follows.seq ?_
  rintro _ later' - ⟨rfl, isSuper⟩
  split
  · trivial
  refine (follows_ask (.reactivateAdmin isRequest read isSuper)).seq fun _ _ _ _ => ?_
  exact (follows_neutral rfl).weaken fun _ _ _ _ => trivial

/-! ## Requests -/

/-- What an operation has done is known when its request answers. -/
theorem operation_obeys {operation : RbacM Unit} {fact : Past → Prop}
    (follows : Follows request [] operation fun _ later => fact later)
    (known : ∀ past, fact past → answers request .done past) :
    (operation >>= fun _ => Pure.pure Response.done).Obeys (May request) (ends request) [] :=
  follows.seq fun _ later _ ended => known later ended

theorem program_obeys (request : Request) : request.program.Obeys (May request) (ends request) [] := by
  cases request with
  | getAdminPermissions adminId => exact getAdminPermissions_follows.seq fun _ _ _ read => read
  | createRole name ctx => exact operation_obeys (createRole_follows rfl) fun _ _ => nofun
  | deleteRole roleId ctx => exact operation_obeys (deleteRole_follows rfl) fun _ _ => nofun
  | createPermission code ctx => exact operation_obeys (createPermission_follows rfl) fun _ _ => nofun
  | deletePermission permissionId ctx => exact operation_obeys (deletePermission_follows rfl) fun _ _ => nofun
  | assignRoleToAdmin adminId roleId ctx => exact operation_obeys (assignRoleToAdmin_follows rfl) fun _ _ => nofun
  | removeRoleFromAdmin adminId roleId ctx =>
    refine operation_obeys (removeRoleFromAdmin_follows rfl) ?_
    rintro past dropped call ⟨⟩
    exact dropped
  | grantPermissionToRole roleId permissionId ctx =>
    exact operation_obeys (grantPermissionToRole_follows rfl) fun _ _ => nofun
  | revokePermissionFromRole roleId permissionId ctx =>
    refine operation_obeys (revokePermissionFromRole_follows rfl) ?_
    rintro past dropped call ⟨⟩
    exact dropped
  | createAdmin email roleId status ctx => exact operation_obeys (createAdmin_follows rfl) fun _ _ => nofun
  | updateAdminStatus adminId status ctx => exact operation_obeys (updateAdminStatus_follows rfl) fun _ _ => nofun
  | deactivateAdmin adminId ctx => exact operation_obeys (deactivateAdmin_follows rfl) fun _ _ => nofun
  | reactivateAdmin adminId ctx => exact operation_obeys (reactivateAdmin_follows rfl) fun _ _ => nofun

theorem isRequest_obeys (requests : ℕ → Request) (pid : ℕ) (program : RbacM Response)
    (isRequest : IsRequest requests pid program) : program.Obeys (May (requests pid)) (ends (requests pid)) [] :=
  isRequest ▸ program_obeys (requests pid)

end Service
end Exchange.AdminRbac
