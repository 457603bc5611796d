import Exchange.RbacRules

/-! What the calls of the access control do: to the tables, and to what admins
have by them. Ids are given out once, so what was read under an id is there as
it was read, or is gone. -/
namespace Exchange.AdminRbac
open Service

variable {pid : ℕ} {s s' : Store} {call : RbacCall} {reply : Except Failure call.Reply}
  {made : Answered RbacCall RbacCall.Reply Failure} {adminId : AdminId} {roleId : RoleId}
  {permissionId : PermissionId} {code name : Text}

/-! ## Queries -/

/-- A permission of that code comes with the role. -/
def Permits (s : Store) (roleId : RoleId) (code : Text) : Prop :=
  ∃ permissionId, (roleId, permissionId) ∈ s.rolePermissions ∧ s.permissions.lookup permissionId = some code

/-- The admin has a role of that name. -/
def HasRole (s : Store) (adminId : AdminId) (name : Text) : Prop :=
  ∃ roleId role, (adminId, roleId) ∈ s.adminRoles ∧ s.roles.lookup roleId = some role ∧ role.name = name

/-- The admin has a permission of that code. -/
def Holds (s : Store) (adminId : AdminId) (code : Text) : Prop :=
  ∃ roleId, (adminId, roleId) ∈ s.adminRoles ∧ Permits s roleId code

def HasStatus (s : Store) (adminId : AdminId) (status : AdminStatus) : Prop :=
  ∃ admin, s.admins.lookup adminId = some admin ∧ admin.status = status

theorem mem_rolesOf : roleId ∈ rolesOf s adminId ↔ (adminId, roleId) ∈ s.adminRoles := by
  simp only [rolesOf, List.mem_map, List.mem_filter, decide_eq_true_eq, Prod.exists]
  constructor
  · rintro ⟨_, _, ⟨member, rfl⟩, rfl⟩
    exact member
  · exact fun member => ⟨adminId, roleId, ⟨member, rfl⟩, rfl⟩

theorem mem_permissionsOf : code ∈ permissionsOf s roleId ↔ Permits s roleId code := by
  simp only [permissionsOf, List.mem_filterMap, List.mem_filter, decide_eq_true_eq, Prod.exists]
  constructor
  · rintro ⟨_, permissionId, ⟨member, rfl⟩, found⟩
    exact ⟨permissionId, member, found⟩
  · rintro ⟨permissionId, member, found⟩
    exact ⟨roleId, permissionId, ⟨member, rfl⟩, found⟩

theorem mem_permissions : code ∈ (getAdminRolesAndPermissions s adminId).permissions ↔ Holds s adminId code := by
  simp only [getAdminRolesAndPermissions, List.mem_dedup, List.mem_flatMap, mem_rolesOf, mem_permissionsOf, Holds]

theorem mem_roles : name ∈ (getAdminRolesAndPermissions s adminId).roles ↔ HasRole s adminId name := by
  simp only [getAdminRolesAndPermissions, List.mem_filterMap, mem_rolesOf, Option.map_eq_some_iff]
  constructor
  · rintro ⟨roleId, member, role, found, named⟩
    exact ⟨roleId, role, member, found, named⟩
  · rintro ⟨roleId, role, member, found, named⟩
    exact ⟨roleId, member, role, found, named⟩

theorem mem_adminsWithRole :
    adminId ∈ adminsWithRole s name ↔ HasRole s adminId name ∧ HasStatus s adminId .active := by
  simp only [adminsWithRole, List.mem_map, List.mem_filter, Bool.and_eq_true, Option.any_eq_true, decide_eq_true_eq,
    Prod.exists]
  constructor
  · rintro ⟨_, roleId, ⟨member, ⟨role, found, named⟩, active⟩, rfl⟩
    exact ⟨⟨roleId, role, member, found, named⟩, active⟩
  · rintro ⟨⟨roleId, role, member, found, named⟩, active⟩
    exact ⟨adminId, roleId, ⟨member, ⟨role, found, named⟩, active⟩, rfl⟩

theorem mem_adminIdsForRole : adminId ∈ adminIdsForRole s roleId ↔ (adminId, roleId) ∈ s.adminRoles := by
  simp only [adminIdsForRole, List.mem_map, List.mem_filter, decide_eq_true_eq, Prod.exists]
  constructor
  · rintro ⟨_, _, ⟨member, rfl⟩, rfl⟩
    exact member
  · exact fun member => ⟨adminId, roleId, ⟨member, rfl⟩, rfl⟩

/-! ## Effects -/

/-- What a reading says about the tables. -/
def Learned (s : Store) : Answered RbacCall RbacCall.Reply Failure → Prop
  | ⟨.findRoleById id, .ok found⟩ => s.roles.lookup id = found
  | ⟨.findPermissionById id, .ok found⟩ => s.permissions.lookup id = found
  | ⟨.getAdminRolesAndPermissions adminId, .ok access⟩ => getAdminRolesAndPermissions s adminId = access
  | ⟨.cacheGet adminId, .ok (some access)⟩ => s.cache.lookup adminId = some access
  | _ => True

/-- The status that a call gives to an admin. -/
def RbacCall.sets : RbacCall → Option (AdminId × AdminStatus)
  | .updateAdminStatus id status => some (id, status)
  | .deactivateAdmin id => some (id, .deactivated)
  | .reactivateAdmin id => some (id, .active)
  | _ => none

/-- What a call did, by its answer. -/
inductive Effect (s : Store) : Answered RbacCall RbacCall.Reply Failure → Store → Prop
  | failed {call : RbacCall} {failure : Failure} : Effect s ⟨call, .error failure⟩ s
  | read {call : RbacCall} {value : call.Reply} (neutral : call.isNeutral) (learned : Learned s ⟨call, .ok value⟩) :
      Effect s ⟨call, .ok value⟩ s
  | missed {adminId : AdminId} : Effect s ⟨.cacheGet adminId, .ok none⟩ { s with cache := s.cache.erase adminId }
  | dropped {adminId : AdminId} : Effect s ⟨.cacheDel adminId, .ok ()⟩ { s with cache := s.cache.erase adminId }
  | filled {adminId : AdminId} {access : Access} :
      Effect s ⟨.cacheSet adminId access, .ok ()⟩ { s with cache := s.cache.insert adminId access }
  | roleCreated {name : Text} (fresh : findRoleByName s name = none) :
      Effect s ⟨.createRole name, .ok s.nextId⟩
        { s with roles := s.roles.insert s.nextId ⟨name, .admin, false⟩, nextId := s.nextId + 1 }
  | roleDeleted {id : RoleId} :
      Effect s ⟨.deleteRole id, .ok ()⟩ { s with
        roles := s.roles.erase id
        adminRoles := s.adminRoles.filter fun pair => pair.2 ≠ id
        rolePermissions := s.rolePermissions.filter fun pair => pair.1 ≠ id }
  | permissionCreated {code : Text} :
      Effect s ⟨.createPermission code, .ok s.nextId⟩
        { s with permissions := s.permissions.insert s.nextId code, nextId := s.nextId + 1 }
  | permissionTaken {permissionId : PermissionId} :
      Effect s ⟨.deleteRolePermissions permissionId, .ok ()⟩
        { s with rolePermissions := s.rolePermissions.filter fun pair => pair.2 ≠ permissionId }
  | permissionDeleted {id : PermissionId} :
      Effect s ⟨.deletePermission id, .ok ()⟩ { s with
        permissions := s.permissions.erase id
        rolePermissions := s.rolePermissions.filter fun pair => pair.2 ≠ id }
  | assigned {adminId : AdminId} {roleId : RoleId} {role : Role} (isRole : s.roles.lookup roleId = some role) :
      Effect s ⟨.assignRoleToAdmin adminId roleId, .ok ()⟩
        { s with adminRoles := s.adminRoles.insert (adminId, roleId) }
  | removed {adminId : AdminId} {roleId : RoleId} :
      Effect s ⟨.removeRoleFromAdmin adminId roleId, .ok ()⟩
        { s with adminRoles := s.adminRoles.filter (· ≠ (adminId, roleId)) }
  | granted {roleId : RoleId} {permissionId : PermissionId} :
      Effect s ⟨.grantPermissionToRole roleId permissionId, .ok ()⟩
        { s with rolePermissions := s.rolePermissions.insert (roleId, permissionId) }
  | revoked {roleId : RoleId} {permissionId : PermissionId} :
      Effect s ⟨.revokePermissionFromRole roleId permissionId, .ok ()⟩
        { s with rolePermissions := s.rolePermissions.filter (· ≠ (roleId, permissionId)) }
  | adminCreated {email : Text} {status : AdminStatus} :
      Effect s ⟨.createAdmin email status, .ok s.nextId⟩
        { s with admins := s.admins.insert s.nextId ⟨email, status⟩, nextId := s.nextId + 1 }
  | statusSet {call : RbacCall} {value : call.Reply} {id : AdminId} {status : AdminStatus} {admin : Admin}
      (sets : call.sets = some (id, status)) (found : s.admins.lookup id = some admin) :
      Effect s ⟨call, .ok value⟩ { s with admins := s.admins.insert id { admin with status } }

theorem createRole_ok {id : RoleId} (ok : createRole name s = .ok (id, s')) :
    findRoleByName s name = none ∧ id = s.nextId ∧
      s' = { s with roles := s.roles.insert s.nextId ⟨name, .admin, false⟩, nextId := s.nextId + 1 } := by
  unfold createRole at ok
  split at ok
  · cases ok
  · rename_i fresh
    cases ok
    exact ⟨by simpa using fresh, rfl, rfl⟩

theorem createPermission_ok {id : PermissionId} (ok : createPermission code s = .ok (id, s')) : id = s.nextId ∧
    s' = { s with permissions := s.permissions.insert s.nextId code, nextId := s.nextId + 1 } := by
  unfold createPermission at ok
  split at ok
  · cases ok
  · cases ok
    exact ⟨rfl, rfl⟩

theorem createAdmin_ok {email : Text} {status : AdminStatus} {id : AdminId}
    (ok : createAdmin email status s = .ok (id, s')) : id = s.nextId ∧
      s' = { s with admins := s.admins.insert s.nextId ⟨email, status⟩, nextId := s.nextId + 1 } := by
  unfold createAdmin at ok
  split at ok
  · cases ok
  · cases ok
    exact ⟨rfl, rfl⟩

theorem assignRoleToAdmin_ok (ok : assignRoleToAdmin adminId roleId s = .ok ((), s')) :
    (∃ role, s.roles.lookup roleId = some role) ∧
      s' = { s with adminRoles := s.adminRoles.insert (adminId, roleId) } := by
  unfold assignRoleToAdmin at ok
  split at ok
  · cases ok
  · rename_i present
    simp only [Bool.or_eq_true, Option.isNone_iff_eq_none, not_or] at present
    cases ok
    exact ⟨Option.ne_none_iff_exists'.mp present.2, rfl⟩

theorem setStatus_ok {status : AdminStatus} (ok : setStatus adminId status s = .ok ((), s')) :
    ∃ admin, s.admins.lookup adminId = some admin ∧
      s' = { s with admins := s.admins.insert adminId { admin with status } } := by
  unfold setStatus at ok
  split at ok
  · rename_i admin found
    cases ok
    exact ⟨admin, found, rfl⟩
  · cases ok

/-- A write that was made, by what it did, or one that failed. -/
theorem written_effect {result : Except Failure (call.Reply × Store)}
    (made : Database.written s result = (reply, s'))
    (wrote : ∀ value, result = .ok (value, s') → Effect s ⟨call, .ok value⟩ s') : Effect s ⟨call, reply⟩ s' := by
  rcases Database.written_cases made with ⟨value, rfl, ok⟩ | ⟨⟨failure, rfl, -⟩, rfl⟩
  · exact wrote value ok
  · exact .failed

theorem Makes.effect (makes : Makes pid call s reply s') : Effect s ⟨call, reply⟩ s' := by
  rcases makes with ⟨world, ran⟩ | ⟨⟨failure, -, rfl⟩, rfl⟩
  · cases call with
    | createRole name =>
      refine written_effect ran fun id ok => ?_
      obtain ⟨fresh, rfl, rfl⟩ := createRole_ok ok
      exact .roleCreated fresh
    | deleteRole id =>
      refine written_effect ran fun _ ok => ?_
      unfold deleteRole at ok
      split at ok
      · cases ok
      · cases ok
        exact .roleDeleted
    | createPermission code =>
      refine written_effect ran fun id ok => ?_
      obtain ⟨rfl, rfl⟩ := createPermission_ok ok
      exact .permissionCreated
    | deletePermission id =>
      refine written_effect ran fun _ ok => ?_
      unfold deletePermission at ok
      split at ok
      · cases ok
      · cases ok
        exact .permissionDeleted
    | assignRoleToAdmin adminId roleId =>
      refine written_effect ran fun _ ok => ?_
      obtain ⟨⟨role, isRole⟩, rfl⟩ := assignRoleToAdmin_ok ok
      exact .assigned isRole
    | grantPermissionToRole roleId permissionId =>
      refine written_effect ran fun _ ok => ?_
      unfold grantPermissionToRole at ok
      split at ok
      · cases ok
      · cases ok
        exact .granted
    | createAdmin email status =>
      refine written_effect ran fun id ok => ?_
      obtain ⟨rfl, rfl⟩ := createAdmin_ok ok
      exact .adminCreated
    | updateAdminStatus id status =>
      refine written_effect ran fun _ ok => ?_
      obtain ⟨admin, found, rfl⟩ := setStatus_ok ok
      exact .statusSet rfl found
    | deactivateAdmin id =>
      refine written_effect ran fun _ ok => ?_
      obtain ⟨admin, found, rfl⟩ := setStatus_ok ok
      exact .statusSet rfl found
    | reactivateAdmin id =>
      refine written_effect ran fun _ ok => ?_
      obtain ⟨admin, found, rfl⟩ := setStatus_ok ok
      exact .statusSet rfl found
    | deleteRolePermissions permissionId =>
      cases ran
      exact .permissionTaken
    | removeRoleFromAdmin adminId roleId =>
      cases ran
      exact .removed
    | revokePermissionFromRole roleId permissionId =>
      cases ran
      exact .revoked
    | cacheGet adminId =>
      cases expired : world.isExpired with
      | true =>
        simp only [perform, expired, if_true] at ran
        cases ran
        exact .missed
      | false =>
        simp only [perform, expired, Bool.false_eq_true, if_false] at ran
        cases ran
        cases hit : s.cache.lookup adminId with
        | none => exact .read rfl trivial
        | some access => exact .read rfl hit
    | cacheSet adminId access =>
      cases ran
      exact .filled
    | cacheDel adminId =>
      cases ran
      exact .dropped
    | findRoleById id =>
      cases ran
      exact .read rfl rfl
    | findPermissionById id =>
      cases ran
      exact .read rfl rfl
    | getAdminRolesAndPermissions adminId =>
      cases ran
      exact .read rfl rfl
    | _ =>
      cases ran
      exact .read rfl trivial
  · exact .failed

/-! ## What admins have -/

/-- What gives an admin a permission. -/
inductive Gain (s : Store) (adminId : AdminId) (code : Text) : Answered RbacCall RbacCall.Reply Failure → Prop
  | role {roleId : RoleId} (permits : Permits s roleId code) :
      Gain s adminId code ⟨.assignRoleToAdmin adminId roleId, .ok ()⟩
  | grant {roleId : RoleId} {permissionId : PermissionId} (isCode : s.permissions.lookup permissionId = some code) :
      Gain s adminId code ⟨.grantPermissionToRole roleId permissionId, .ok ()⟩
  | code {id : PermissionId} : Gain s adminId code ⟨.createPermission code, .ok id⟩

theorem permits_of_subset (permits : Permits s' roleId code) (pairs : s'.rolePermissions ⊆ s.rolePermissions)
    (codes : ∀ id, s'.permissions.lookup id = some code → s.permissions.lookup id = some code) :
    Permits s roleId code := by
  obtain ⟨permissionId, member, found⟩ := permits
  exact ⟨permissionId, pairs member, codes permissionId found⟩

theorem holds_of_subset (holds : Holds s' adminId code) (pairs : s'.adminRoles ⊆ s.adminRoles)
    (permits : ∀ roleId, Permits s' roleId code → Permits s roleId code) : Holds s adminId code := by
  obtain ⟨roleId, member, permitted⟩ := holds
  exact ⟨roleId, pairs member, permits roleId permitted⟩

/-- An admin has a permission as before, or was given it. -/
theorem holds_effect (effect : Effect s made s') (holds : Holds s' adminId code) :
    Holds s adminId code ∨ Gain s adminId code made := by
  cases effect with
  | roleDeleted =>
    refine .inl (holds_of_subset holds (List.filter_subset_self _) fun roleId permits => ?_)
    exact permits_of_subset permits (List.filter_subset_self _) fun _ => id
  | permissionCreated =>
    obtain ⟨roleId, assigned, permissionId, granted, found⟩ := holds
    by_cases isNew : permissionId = s.nextId
    · subst isNew
      rw [AList.lookup_insert] at found
      cases found
      exact .inr .code
    · rw [AList.lookup_insert_ne isNew] at found
      exact .inl ⟨roleId, assigned, permissionId, granted, found⟩
  | permissionTaken =>
    refine .inl (holds_of_subset holds (List.Subset.refl _) fun roleId permits => ?_)
    exact permits_of_subset permits (List.filter_subset_self _) fun _ => id
  | @permissionDeleted gone =>
    refine .inl (holds_of_subset holds (List.Subset.refl _) fun roleId permits => ?_)
    refine permits_of_subset permits (List.filter_subset_self _) fun id found => ?_
    by_cases same : id = gone
    · subst same
      simp at found
    · rwa [AList.lookup_erase_ne same] at found
  | @assigned other newRole role isRole =>
    obtain ⟨roleId, member, permits⟩ := holds
    rcases List.mem_insert_iff.mp member with same | before
    · cases same
      exact .inr (.role permits)
    · exact .inl ⟨roleId, before, permits⟩
  | removed =>
    exact .inl (holds_of_subset holds (List.filter_subset_self _) fun _ permits => permits)
  | @granted grantee newPermission =>
    obtain ⟨roleId, assigned, permissionId, member, found⟩ := holds
    rcases List.mem_insert_iff.mp member with same | before
    · cases same
      exact .inr (.grant found)
    · exact .inl ⟨roleId, assigned, permissionId, before, found⟩
  | revoked =>
    refine .inl (holds_of_subset holds (List.Subset.refl _) fun roleId permits => ?_)
    exact permits_of_subset permits (List.filter_subset_self _) fun _ => id
  | _ => exact .inl holds

/-! ## Ids -/

/-- Ids that were given out are below the next one. -/
structure Numbered (s : Store) : Prop where
  admins : ∀ id admin, s.admins.lookup id = some admin → id < s.nextId
  roles : ∀ id role, s.roles.lookup id = some role → id < s.nextId
  permissions : ∀ id code, s.permissions.lookup id = some code → id < s.nextId
  adminRoles : ∀ pair ∈ s.adminRoles, pair.2 < s.nextId

/-- A new row is the only one with its id. -/
theorem numbered_insert {κ : Type} {t : Table ℕ κ} {row : κ} {nextId : ℕ}
    (below : ∀ id row, t.lookup id = some row → id < nextId) :
    ∀ id row', (t.insert nextId row).lookup id = some row' → id < nextId + 1 := by
  intro id row' found
  by_cases same : id = nextId
  · omega
  · rw [AList.lookup_insert_ne same] at found
    exact (below id row' found).trans (Nat.lt_succ_self _)

theorem lookup_of_erase {κ : Type} {t : Table ℕ κ} {id gone : ℕ} {row : κ}
    (found : (t.erase gone).lookup id = some row) : t.lookup id = some row := by
  by_cases same : id = gone
  · subst same
    simp at found
  · rwa [AList.lookup_erase_ne same] at found

theorem numbered_effect (effect : Effect s made s') (numbered : Numbered s) : Numbered s' := by
  have later : ∀ id, id < s.nextId → id < s.nextId + 1 := fun id below => by omega
  cases effect with
  | roleCreated fresh =>
    exact ⟨fun id admin found => later id (numbered.admins id admin found), numbered_insert numbered.roles,
      fun id code found => later id (numbered.permissions id code found),
      fun pair member => later _ (numbered.adminRoles pair member)⟩
  | permissionCreated =>
    exact ⟨fun id admin found => later id (numbered.admins id admin found),
      fun id role found => later id (numbered.roles id role found), numbered_insert numbered.permissions,
      fun pair member => later _ (numbered.adminRoles pair member)⟩
  | adminCreated =>
    exact ⟨numbered_insert numbered.admins, fun id role found => later id (numbered.roles id role found),
      fun id code found => later id (numbered.permissions id code found),
      fun pair member => later _ (numbered.adminRoles pair member)⟩
  | roleDeleted =>
    exact ⟨numbered.admins, fun id role found => numbered.roles id role (lookup_of_erase found), numbered.permissions,
      fun pair member => numbered.adminRoles pair (List.filter_subset_self _ member)⟩
  | permissionDeleted =>
    exact ⟨numbered.admins, numbered.roles, fun id code found => numbered.permissions id code (lookup_of_erase found),
      numbered.adminRoles⟩
  | assigned isRole =>
    refine { numbered with adminRoles := fun pair member => ?_ }
    rcases List.mem_insert_iff.mp member with rfl | before
    · exact numbered.roles _ _ isRole
    · exact numbered.adminRoles pair before
  | removed =>
    exact { numbered with adminRoles := fun pair member => numbered.adminRoles pair (List.filter_subset_self _ member) }
  | @statusSet call value setId status before sets found =>
    refine { numbered with admins := fun id admin found' => ?_ }
    by_cases same : id = setId
    · exact same ▸ numbered.admins setId _ found
    · exact numbered.admins id admin ((AList.lookup_insert_ne same).symm.trans found')
  | _ => exact { numbered with }

/-- An admin has a role as before, or was given it. -/
theorem hasRole_effect (effect : Effect s made s') (numbered : Numbered s) (has : HasRole s' adminId name) :
    HasRole s adminId name ∨ ∃ roleId role, made = ⟨.assignRoleToAdmin adminId roleId, .ok ()⟩ ∧
      s.roles.lookup roleId = some role ∧ role.name = name := by
  obtain ⟨roleId, role, assigned, isRole, named⟩ := has
  cases effect with
  | roleCreated fresh =>
    -- No admin has a role that was not there.
    have old : roleId ≠ s.nextId := (numbered.adminRoles _ assigned).ne
    rw [AList.lookup_insert_ne old] at isRole
    exact .inl ⟨roleId, role, assigned, isRole, named⟩
  | roleDeleted =>
    exact .inl ⟨roleId, role, List.filter_subset_self _ assigned, lookup_of_erase isRole, named⟩
  | assigned isRole' =>
    rcases List.mem_insert_iff.mp assigned with same | before
    · cases same
      exact .inr ⟨roleId, role, rfl, isRole, named⟩
    · exact .inl ⟨roleId, role, before, isRole, named⟩
  | removed => exact .inl ⟨roleId, role, List.filter_subset_self _ assigned, isRole, named⟩
  | _ => exact .inl ⟨roleId, role, assigned, isRole, named⟩

/-! ## Runs -/

abbrev History := Logged ℕ RbacCall RbacCall.Reply Failure Store

abbrev RbacPool := Pool ℕ RbacCall RbacCall.Reply Failure Response History

def interleaved (pid : ℕ) (call : RbacCall) (x : History) (reply : Except Failure call.Reply) (s' : Store) : Prop :=
  Makes pid call x.store reply s'

/-- A row that was read is there as it was read, or is gone for good. -/
def Recorded {κ : Type} (t : Table ℕ κ) (nextId id : ℕ) (row : κ) : Prop :=
  id < nextId ∧ ∀ now, t.lookup id = some now → now = row

/-- What requests have read under an id. -/
structure Known (x : History) : Prop where
  numbered : Numbered x.store
  role : ∀ pid id role, ⟨.findRoleById id, .ok (some role)⟩ ∈ x.past pid →
    Recorded x.store.roles x.store.nextId id role
  permission : ∀ pid id code, ⟨.findPermissionById id, .ok (some code)⟩ ∈ x.past pid →
    Recorded x.store.permissions x.store.nextId id code

section Recorded
variable {κ : Type} {t : Table ℕ κ} {nextId id gone : ℕ} {row new : κ}

theorem recorded_insert (recorded : Recorded t nextId id row) :
    Recorded (t.insert nextId new) (nextId + 1) id row := by
  refine ⟨recorded.1.trans (Nat.lt_succ_self _), fun now found => recorded.2 now ?_⟩
  rwa [AList.lookup_insert_ne recorded.1.ne] at found

theorem recorded_erase (recorded : Recorded t nextId id row) : Recorded (t.erase gone) nextId id row :=
  ⟨recorded.1, fun now found => recorded.2 now (lookup_of_erase found)⟩

theorem recorded_later (recorded : Recorded t nextId id row) : Recorded t (nextId + 1) id row :=
  ⟨recorded.1.trans (Nat.lt_succ_self _), recorded.2⟩

theorem recorded_found (numbered : ∀ id row, t.lookup id = some row → id < nextId) (found : t.lookup id = some row) :
    Recorded t nextId id row :=
  ⟨numbered id row found, fun _ same => Option.some.inj (same.symm.trans found)⟩

end Recorded

/-- No row comes under an id that was given out. -/
theorem recorded_effect (effect : Effect s made s') :
    (∀ id role, Recorded s.roles s.nextId id role → Recorded s'.roles s'.nextId id role) ∧
      ∀ id code, Recorded s.permissions s.nextId id code → Recorded s'.permissions s'.nextId id code := by
  cases effect with
  | roleCreated fresh => exact ⟨fun _ _ => recorded_insert, fun _ _ => recorded_later⟩
  | roleDeleted => exact ⟨fun _ _ => recorded_erase, fun _ _ recorded => recorded⟩
  | permissionCreated => exact ⟨fun _ _ => recorded_later, fun _ _ => recorded_insert⟩
  | permissionDeleted => exact ⟨fun _ _ recorded => recorded, fun _ _ => recorded_erase⟩
  | adminCreated => exact ⟨fun _ _ => recorded_later, fun _ _ => recorded_later⟩
  | _ => exact ⟨fun _ _ recorded => recorded, fun _ _ recorded => recorded⟩

theorem Effect.learned {value : call.Reply} (effect : Effect s ⟨call, .ok value⟩ s') (neutral : call.isNeutral) :
    Learned s ⟨call, .ok value⟩ := by
  cases effect with
  | read neutral learned => exact learned
  | statusSet sets =>
    cases call with
    | updateAdminStatus => cases neutral
    | deactivateAdmin => cases neutral
    | reactivateAdmin => cases neutral
    | _ => cases sets
  | missed => trivial
  | dropped => trivial
  | _ => cases neutral

theorem known_step {x : History} (known : Known x) (makes : Makes pid call x.store reply s') :
    Known ⟨s', (pid, ⟨call, reply⟩) :: x.history⟩ := by
  have kept := recorded_effect makes.effect
  refine ⟨numbered_effect makes.effect known.numbered, fun other id role member => ?_, fun other id code member => ?_⟩
  · refine kept.1 id role ?_
    rcases Logged.mem_past_cons.mp member with ⟨same, -⟩ | before
    · cases same
      exact recorded_found known.numbered.roles (makes.effect.learned rfl)
    · exact known.role other id role before
  · refine kept.2 id code ?_
    rcases Logged.mem_past_cons.mp member with ⟨same, -⟩ | before
    · cases same
      exact recorded_found known.numbered.permissions (makes.effect.learned rfl)
    · exact known.permission other id code before

theorem known_opening (numbered : Numbered s) : Known ⟨s, []⟩ := ⟨numbered, nofun, nofun⟩

theorem known_run {requests : ℕ → Request} {pool : RbacPool}
    {step : ℕ → (call : RbacCall) → History → Except Failure call.Reply → Store → Prop}
    (makes : ∀ pid call x reply s', step pid call x reply s' → Makes pid call x.store reply s')
    (run : Logged.Run step (IsRequest requests) Numbered pool) : Known pool.store :=
  run.inv (isRequest_obeys requests) (fun _ => known_opening) fun x pid call reply s' known _ made =>
    known_step known (makes pid call x reply s' made)

/-- The role that a request has read, while there is one under its id. -/
theorem Known.same_role {x : History} {role now : Role} (known : Known x)
    (read : ⟨.findRoleById roleId, .ok (some role)⟩ ∈ x.past pid) (found : x.store.roles.lookup roleId = some now) :
    now = role :=
  (known.role pid roleId role read).2 now found

/-! ## Schedules -/

def schedule (worlds : ℕ → World) (isLost : ℕ → RbacCall → Bool)
    (allows : ℕ → (call : RbacCall) → History → Except Failure call.Reply → Bool) (requests : ℕ → Request)
    (arrivals : List ℕ) (turns : List (ℕ × ℕ)) (s : Store) : Option RbacPool :=
  Database.schedule perform worlds isLost allows (fun pid => (requests pid).program) arrivals turns s

theorem schedule_run {worlds : ℕ → World} {requests : ℕ → Request} {isLost : ℕ → RbacCall → Bool}
    {allows : ℕ → (call : RbacCall) → History → Except Failure call.Reply → Bool} {arrivals : List ℕ}
    {turns : List (ℕ × ℕ)} {pool : RbacPool} {Initial : Store → Prop} {initial : Store}
    {step : ℕ → (call : RbacCall) → History → Except Failure call.Reply → Store → Prop} (isInitial : Initial initial)
    (sound : ∀ pid call x reply s', allows pid call x reply → Makes pid call x.store reply s' →
      step pid call x reply s')
    (played : schedule worlds isLost allows requests arrivals turns initial = some pool) :
    Logged.Run step (IsRequest requests) Initial pool :=
  Database.schedule_run isInitial (fun _ => rfl) sound played

def resume (worlds : ℕ → World) (isLost : ℕ → RbacCall → Bool)
    (allows : ℕ → (call : RbacCall) → History → Except Failure call.Reply → Bool) (requests : ℕ → Request)
    (arrivals : List ℕ) (turns : List (ℕ × ℕ)) : RbacPool → Option RbacPool :=
  Database.resume perform worlds isLost allows (fun pid => (requests pid).program) arrivals turns

theorem resume_steps {worlds : ℕ → World} {requests : ℕ → Request} {isLost : ℕ → RbacCall → Bool}
    {allows : ℕ → (call : RbacCall) → History → Except Failure call.Reply → Bool} {arrivals : List ℕ}
    {turns : List (ℕ × ℕ)} {pool pool' : RbacPool}
    {step : ℕ → (call : RbacCall) → History → Except Failure call.Reply → Store → Prop}
    (sound : ∀ pid call x reply s', allows pid call x reply → Makes pid call x.store reply s' →
      step pid call x reply s')
    (played : resume worlds isLost allows requests arrivals turns pool = some pool') :
    Relation.ReflTransGen (Pool.Step (Logged.protocol step) (IsRequest requests)) pool pool' :=
  Database.resume_steps (fun _ => rfl) sound played

/-- Admins 1 and 2 are super admins; 7 has a role with one permission. -/
def smallStore : Store where
  admins := ((((∅ : Table AdminId Admin).insert 1 ⟨['a'], .active⟩).insert 2 ⟨['b'], .active⟩).insert 7
    ⟨['c'], .active⟩).insert 9 ⟨['d'], .active⟩
  roles := ((∅ : Table RoleId Role).insert 10 ⟨SUPER_ADMIN, .admin, true⟩).insert 20 ⟨['o', 'p', 's'], .admin, false⟩
  permissions := (∅ : Table PermissionId Text).insert 30 ['k']
  adminRoles := [(1, 10), (2, 10), (7, 20)]
  rolePermissions := [(20, 30)]
  cache := ∅
  nextId := 50

theorem numbered_of_rows {κ : Type} {t : Table ℕ κ} {nextId : ℕ} (below : ∀ row ∈ t.rows, row.1 < nextId) :
    ∀ id row, t.lookup id = some row → id < nextId :=
  fun id row found => below (id, row) (Table.mem_rows.mpr found)

theorem numbered_small : Numbered smallStore where
  admins := numbered_of_rows (by decide)
  roles := numbered_of_rows (by decide)
  permissions := numbered_of_rows (by decide)
  adminRoles := by decide

end Exchange.AdminRbac
