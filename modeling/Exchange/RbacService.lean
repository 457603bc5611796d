import Exchange.RbacRepository

/-! The access control of admins: roles and permissions are created, granted and
taken away; admins are created, suspended, deactivated and reactivated; and what
an admin may do is read through a cache that each change invalidates. -/
namespace Exchange.AdminRbac.Service

/-- Runs a call whose failure does not matter. -/
def attempt {α : Type} (fallback : α) (program : RbacM α) : RbacM α :=
  tryCatch program fun _ => return fallback

/-! ## Access -/

def getAdminPermissions (adminId : AdminId) : RbacM Access := do
  let cached ← attempt none (ask (.cacheGet adminId))
  match cached with
  | some access => return access
  | none => do
    let result ← ask (.getAdminRolesAndPermissions adminId)
    attempt () (ask (.cacheSet adminId result))
    return result

/-- Whoever acts; `ctx.adminId` may be missing. -/
def actorAccess : Option AdminId → RbacM Access
  | some adminId => getAdminPermissions adminId
  | none => return ⟨[], []⟩

def invalidateAdminPermissions (adminId : AdminId) : RbacM Unit := ask (.cacheDel adminId)

def invalidateEach : List AdminId → RbacM Unit
  | [] => return ()
  | adminId :: rest => do
    invalidateAdminPermissions adminId
    invalidateEach rest

def invalidateMany (adminIds : List AdminId) : RbacM Unit := invalidateEach adminIds.dedup

def ensureSuperAdmin (actor : Access) (message : String) : RbacM Unit :=
  if SUPER_ADMIN ∈ actor.roles then return () else throw (.forbiddenError message "FORBIDDEN")

def ensureSuperAdminOrHasPermission (actor : Access) (permission : Text) : RbacM Unit :=
  if SUPER_ADMIN ∈ actor.roles then return ()
  else if permission ∈ actor.permissions then return ()
  else throw (.forbiddenError "You cannot grant permissions you do not currently hold" "FORBIDDEN")

/-! ## Roles and permissions -/

/-- A role of admins. -/
def findAdminRole (roleId : RoleId) : RbacM Role := do
  let found ← ask (.findRoleById roleId)
  match found.filter fun role => role.scope = .admin with
  | some role => return role
  | none => throw (.notFoundError "Role not found")

def findAdmin (adminId : AdminId) : RbacM Admin := do
  let found ← ask (.findAdminById adminId)
  match found with
  | some admin => return admin
  | none => throw (.notFoundError "Admin not found")

def findPermission (permissionId : PermissionId) : RbacM Text := do
  let found ← ask (.findPermissionById permissionId)
  match found with
  | some code => return code
  | none => throw (.notFoundError "Permission not found")

def createRole (name : Text) : RbacM Unit := do
  let existing ← ask (.findRoleByName name)
  if existing.isSome then throw (.conflictError "Role already exists" "ROLE_EXISTS")
  else do
    let _ ← ask (.createRole name)
    return ()

def deleteRole (roleId : RoleId) : RbacM Unit := do
  let role ← findAdminRole roleId
  if role.isSystem || role.name = SUPER_ADMIN then
    throw (.forbiddenError "System roles cannot be deleted" "SYSTEM_ROLE")
  else do
    let affectedAdmins ← ask (.adminIdsForRole roleId)
    ask (.deleteRole roleId)
    invalidateMany affectedAdmins

def createPermission (code : Text) (ctx : Option AdminId) : RbacM Unit := do
  let actor ← actorAccess ctx
  ensureSuperAdmin actor "Only SUPER_ADMIN can create permissions"
  let existing ← ask (.findPermissionByCode code)
  if existing.isSome then throw (.conflictError "Permission already exists" "PERMISSION_EXISTS")
  else do
    let _ ← ask (.createPermission code)
    return ()

def deletePermission (permissionId : PermissionId) : RbacM Unit := do
  let _ ← findPermission permissionId
  let affectedAdmins ← ask (.adminIdsForPermission permissionId)
  ask (.deleteRolePermissions permissionId)
  ask (.deletePermission permissionId)
  invalidateMany affectedAdmins

/-- Only the name of the role is looked at, not what it permits. -/
def ensureMayAssign (role : Role) (actor : Access) : RbacM Unit :=
  if role.name = SUPER_ADMIN ∧ SUPER_ADMIN ∉ actor.roles then
    throw (.forbiddenError "Only SUPER_ADMIN can grant SUPER_ADMIN" "FORBIDDEN")
  else return ()

def assignRoleToAdmin (adminId : AdminId) (roleId : RoleId) (ctx : Option AdminId) : RbacM Unit := do
  let role ← ask (.findRoleById roleId)
  let admin ← ask (.findAdminById adminId)
  match role.filter fun role => role.scope = .admin, admin with
  | none, _ => throw (.notFoundError "Role not found")
  | some _, none => throw (.notFoundError "Admin not found")
  | some role, some _ => do
    let actor ← actorAccess ctx
    ensureMayAssign role actor
    ask (.assignRoleToAdmin adminId roleId)
    invalidateAdminPermissions adminId

/-- Where the admin is a super admin, and the last one, the request is refused. -/
def ensureNotLastSuperAdmin (adminId : AdminId) (message : String) : RbacM Unit := do
  let supers ← ask (.adminsWithRole SUPER_ADMIN)
  if adminId ∈ supers then do
    let activeSupers ← ask (.countActiveAdminsWithRole SUPER_ADMIN)
    if activeSupers ≤ 1 then throw (.forbiddenError message "LAST_SUPER_ADMIN") else return ()
  else return ()

/-- Both are read here, one with the other. -/
def ensureRemovable (adminId : AdminId) (role : Role) : RbacM Unit :=
  if role.name = SUPER_ADMIN then do
    let superAdmins ← ask (.adminsWithRole SUPER_ADMIN)
    let activeSuperAdminCount ← ask (.countActiveAdminsWithRole SUPER_ADMIN)
    if adminId ∈ superAdmins ∧ activeSuperAdminCount ≤ 1 then
      throw (.forbiddenError "Cannot remove the last SUPER_ADMIN" "LAST_SUPER_ADMIN")
    else return ()
  else return ()

def removeRoleFromAdmin (adminId : AdminId) (roleId : RoleId) : RbacM Unit := do
  let role ← findAdminRole roleId
  ensureRemovable adminId role
  ask (.removeRoleFromAdmin adminId roleId)
  invalidateAdminPermissions adminId

/-- The role and the permission of a grant or a revocation. -/
def findGrant (roleId : RoleId) (permissionId : PermissionId) : RbacM (Role × Text) := do
  let role ← ask (.findRoleById roleId)
  let permission ← ask (.findPermissionById permissionId)
  match role.filter fun role => role.scope = .admin, permission with
  | none, _ => throw (.notFoundError "Role not found")
  | some _, none => throw (.notFoundError "Permission not found")
  | some role, some code => return (role, code)

def grantPermissionToRole (roleId : RoleId) (permissionId : PermissionId) (ctx : Option AdminId) : RbacM Unit := do
  let (_, code) ← findGrant roleId permissionId
  let actor ← actorAccess ctx
  ensureSuperAdminOrHasPermission actor code
  let affectedAdmins ← ask (.adminIdsForRole roleId)
  ask (.grantPermissionToRole roleId permissionId)
  invalidateMany affectedAdmins

def revokePermissionFromRole (roleId : RoleId) (permissionId : PermissionId) : RbacM Unit := do
  let (role, _) ← findGrant roleId permissionId
  if role.name = SUPER_ADMIN then
    throw (.forbiddenError "SUPER_ADMIN permissions cannot be revoked" "SUPER_ADMIN_PROTECTED")
  else do
    let affectedAdmins ← ask (.adminIdsForRole roleId)
    ask (.revokePermissionFromRole roleId permissionId)
    invalidateMany affectedAdmins

/-! ## Admins -/

/-- What is not a suspension is `ACTIVE`. -/
def normalize (status : AdminStatus) : AdminStatus := if status = .suspended then .suspended else .active

/-- A sub-admin with one role. -/
def createAdmin (email : Text) (roleId : RoleId) (status : AdminStatus) : RbacM Unit := do
  let role ← findAdminRole roleId
  if role.name = SUPER_ADMIN then
    throw (.forbiddenError "Sub-admins cannot be created as SUPER_ADMIN; grant that role explicitly afterwards"
      "SUPER_ADMIN_NOT_ALLOWED")
  else do
    let existing ← ask (.findAdminByEmail email)
    if existing.isSome then throw (.conflictError "An admin with this email already exists" "ADMIN_EXISTS")
    else do
      let adminId ← ask (.createAdmin email (normalize status))
      ask (.assignRoleToAdmin adminId roleId)

/-- A suspension needs another super admin. -/
def ensureSuspendable (adminId : AdminId) (status : AdminStatus) : RbacM Unit :=
  if status = .suspended then ensureNotLastSuperAdmin adminId "Cannot suspend the last active SUPER_ADMIN"
  else return ()

/-- A suspension ends the sessions of the admin. -/
def endAccess (adminId : AdminId) (status : AdminStatus) : RbacM Unit :=
  if status = .suspended then do
    ask (.revokeAllAdminSessions adminId)
    invalidateAdminPermissions adminId
  else return ()

def updateAdminStatus (adminId : AdminId) (status : AdminStatus) (ctx : Option AdminId) : RbacM Unit := do
  let _ ← findAdmin adminId
  if ctx = some adminId then throw (.badRequestError "You cannot change your own status")
  else do
    ensureSuspendable adminId (normalize status)
    ask (.updateAdminStatus adminId (normalize status))
    endAccess adminId (normalize status)

def deactivateAdmin (adminId : AdminId) (ctx : Option AdminId) : RbacM Unit := do
  let target ← findAdmin adminId
  let actor ← actorAccess ctx
  ensureSuperAdmin actor "Only SUPER_ADMIN can deactivate an admin"
  if ctx = some adminId then throw (.badRequestError "You cannot deactivate your own admin account")
  else if target.status = .deactivated then
    throw (.conflictError "Admin is already deactivated" "ALREADY_DEACTIVATED")
  else do
    ensureNotLastSuperAdmin adminId "Cannot deactivate the last active SUPER_ADMIN"
    ask (.deactivateAdmin adminId)
    ask (.revokeAllAdminSessions adminId)
    invalidateAdminPermissions adminId

def reactivateAdmin (adminId : AdminId) (ctx : Option AdminId) : RbacM Unit := do
  let target ← findAdmin adminId
  let actor ← actorAccess ctx
  ensureSuperAdmin actor "Only SUPER_ADMIN can reactivate an admin"
  if target.status = .active then throw (.conflictError "Admin is already active" "ALREADY_ACTIVE")
  else do
    ask (.reactivateAdmin adminId)
    invalidateAdminPermissions adminId

/-! ## Requests -/

/-- Each operation with the admin who performs it. -/
inductive Request where
  | getAdminPermissions (adminId : AdminId)
  | createRole (name : Text) (ctx : Option AdminId)
  | deleteRole (roleId : RoleId) (ctx : Option AdminId)
  | createPermission (code : Text) (ctx : Option AdminId)
  | deletePermission (permissionId : PermissionId) (ctx : Option AdminId)
  | assignRoleToAdmin (adminId : AdminId) (roleId : RoleId) (ctx : Option AdminId)
  | removeRoleFromAdmin (adminId : AdminId) (roleId : RoleId) (ctx : Option AdminId)
  | grantPermissionToRole (roleId : RoleId) (permissionId : PermissionId) (ctx : Option AdminId)
  | revokePermissionFromRole (roleId : RoleId) (permissionId : PermissionId) (ctx : Option AdminId)
  | createAdmin (email : Text) (roleId : RoleId) (status : AdminStatus) (ctx : Option AdminId)
  | updateAdminStatus (adminId : AdminId) (status : AdminStatus) (ctx : Option AdminId)
  | deactivateAdmin (adminId : AdminId) (ctx : Option AdminId)
  | reactivateAdmin (adminId : AdminId) (ctx : Option AdminId)
  deriving DecidableEq, Repr

inductive Response where
  | access (access : Access)
  | done
  deriving DecidableEq, Repr

/-- The admin who acts. -/
def Request.actor : Request → Option AdminId
  | .getAdminPermissions _ => none
  | .createRole _ ctx => ctx
  | .deleteRole _ ctx => ctx
  | .createPermission _ ctx => ctx
  | .deletePermission _ ctx => ctx
  | .assignRoleToAdmin _ _ ctx => ctx
  | .removeRoleFromAdmin _ _ ctx => ctx
  | .grantPermissionToRole _ _ ctx => ctx
  | .revokePermissionFromRole _ _ ctx => ctx
  | .createAdmin _ _ _ ctx => ctx
  | .updateAdminStatus _ _ ctx => ctx
  | .deactivateAdmin _ ctx => ctx
  | .reactivateAdmin _ ctx => ctx

/-- What a request runs before it answers. -/
def Request.operation : Request → RbacM Unit
  | .getAdminPermissions _ => return ()
  | .createRole name _ => Service.createRole name
  | .deleteRole roleId _ => Service.deleteRole roleId
  | .createPermission code ctx => Service.createPermission code ctx
  | .deletePermission permissionId _ => Service.deletePermission permissionId
  | .assignRoleToAdmin adminId roleId ctx => Service.assignRoleToAdmin adminId roleId ctx
  | .removeRoleFromAdmin adminId roleId _ => Service.removeRoleFromAdmin adminId roleId
  | .grantPermissionToRole roleId permissionId ctx => Service.grantPermissionToRole roleId permissionId ctx
  | .revokePermissionFromRole roleId permissionId _ => Service.revokePermissionFromRole roleId permissionId
  | .createAdmin email roleId status _ => Service.createAdmin email roleId status
  | .updateAdminStatus adminId status ctx => Service.updateAdminStatus adminId status ctx
  | .deactivateAdmin adminId ctx => Service.deactivateAdmin adminId ctx
  | .reactivateAdmin adminId ctx => Service.reactivateAdmin adminId ctx

def Request.program : Request → RbacM Response
  | .getAdminPermissions adminId => return .access (← Service.getAdminPermissions adminId)
  | request => do
    request.operation
    return .done

/-- The request of each number. -/
def IsRequest (requests : ℕ → Request) (pid : ℕ) (program : RbacM Response) : Prop :=
  program = (requests pid).program

end Exchange.AdminRbac.Service
