import Exchange.AsyncDatabase
import Exchange.Table
import Exchange.Text

/-! What the access control of admins keeps: admins with their status, roles,
permissions, who has which role and which role has which permission, and in
Redis what each admin was last found to have. -/
namespace Exchange.AdminRbac

abbrev AdminId := ℕ

abbrev RoleId := ℕ

abbrev PermissionId := ℕ

/-- The column is a string; these are the values that the code writes. -/
inductive AdminStatus where
  | active
  | suspended
  | deactivated
  deriving DecidableEq, Repr

structure Admin where
  email : Text
  status : AdminStatus
  deriving DecidableEq, Repr

inductive RoleScope where
  | user
  | admin
  deriving DecidableEq, Repr

structure Role where
  name : Text
  scope : RoleScope
  isSystem : Bool
  deriving DecidableEq, Repr

/-- What an admin may do, by the names of roles and the codes of permissions. -/
structure Access where
  roles : List Text
  permissions : List Text
  deriving DecidableEq, Repr

structure Store where
  admins : Table AdminId Admin
  roles : Table RoleId Role
  /-- The codes. -/
  permissions : Table PermissionId Text
  adminRoles : List (AdminId × RoleId)
  rolePermissions : List (RoleId × PermissionId)
  cache : Table AdminId Access
  /-- No id is given out twice; those of all rows are below. -/
  nextId : ℕ

def SUPER_ADMIN : Text := ['S', 'U', 'P', 'E', 'R', '_', 'A', 'D', 'M', 'I', 'N']

/-! ## Queries -/

/-- The column is `citext`. -/
def findAdminByEmail (s : Store) (email : Text) : Option (AdminId × Admin) :=
  s.admins.rows.find? fun (_, admin) => Text.toLowerCase admin.email = Text.toLowerCase email

def findRoleByName (s : Store) (name : Text) : Option (RoleId × Role) :=
  s.roles.rows.find? fun (_, role) => role.name = name

def findPermissionByCode (s : Store) (code : Text) : Option (PermissionId × Text) :=
  s.permissions.rows.find? fun (_, other) => other = code

def rolesOf (s : Store) (adminId : AdminId) : List RoleId :=
  (s.adminRoles.filter fun pair => pair.1 = adminId).map Prod.snd

/-- The codes of the permissions of a role. -/
def permissionsOf (s : Store) (roleId : RoleId) : List Text :=
  (s.rolePermissions.filter fun pair => pair.1 = roleId).filterMap fun pair => s.permissions.lookup pair.2

/-- A permission that comes with two roles is listed once. -/
def getAdminRolesAndPermissions (s : Store) (adminId : AdminId) : Access where
  roles := (rolesOf s adminId).filterMap fun roleId => (s.roles.lookup roleId).map Role.name
  permissions := ((rolesOf s adminId).flatMap (permissionsOf s)).dedup

/-- Active admins, once for each role of that name. -/
def adminsWithRole (s : Store) (roleName : Text) : List AdminId :=
  (s.adminRoles.filter fun pair => (s.roles.lookup pair.2).any (fun role => role.name = roleName) &&
    (s.admins.lookup pair.1).any fun admin => admin.status = .active).map Prod.fst

def adminIdsForRole (s : Store) (roleId : RoleId) : List AdminId :=
  (s.adminRoles.filter fun pair => pair.2 = roleId).map Prod.fst

def adminIdsForPermission (s : Store) (permissionId : PermissionId) : List AdminId :=
  ((s.adminRoles.filter fun pair => (pair.2, permissionId) ∈ s.rolePermissions).map Prod.fst).dedup

/-! ## Writes -/

def createRole (name : Text) (s : Store) : Except Failure (RoleId × Store) :=
  if (findRoleByName s name).isSome then .error .uniqueViolation
  else .ok (s.nextId, { s with roles := s.roles.insert s.nextId ⟨name, .admin, false⟩, nextId := s.nextId + 1 })

/-- What refers to the role goes with it. -/
def deleteRole (id : RoleId) (s : Store) : Except Failure (Unit × Store) :=
  if (s.roles.lookup id).isNone then .error (.prisma "P2025")
  else .ok ((), { s with
    roles := s.roles.erase id
    adminRoles := s.adminRoles.filter fun pair => pair.2 ≠ id
    rolePermissions := s.rolePermissions.filter fun pair => pair.1 ≠ id })

def createPermission (code : Text) (s : Store) : Except Failure (PermissionId × Store) :=
  if (findPermissionByCode s code).isSome then .error .uniqueViolation
  else .ok (s.nextId, { s with permissions := s.permissions.insert s.nextId code, nextId := s.nextId + 1 })

def deletePermission (id : PermissionId) (s : Store) : Except Failure (Unit × Store) :=
  if (s.permissions.lookup id).isNone then .error (.prisma "P2025")
  else .ok ((), { s with
    permissions := s.permissions.erase id
    rolePermissions := s.rolePermissions.filter fun pair => pair.2 ≠ id })

/-- An upsert; both sides are foreign keys. -/
def assignRoleToAdmin (adminId : AdminId) (roleId : RoleId) (s : Store) : Except Failure (Unit × Store) :=
  if (s.admins.lookup adminId).isNone || (s.roles.lookup roleId).isNone then .error (.prisma "P2003")
  else .ok ((), { s with adminRoles := s.adminRoles.insert (adminId, roleId) })

def grantPermissionToRole (roleId : RoleId) (permissionId : PermissionId) (s : Store) :
    Except Failure (Unit × Store) :=
  if (s.roles.lookup roleId).isNone || (s.permissions.lookup permissionId).isNone then .error (.prisma "P2003")
  else .ok ((), { s with rolePermissions := s.rolePermissions.insert (roleId, permissionId) })

def createAdmin (email : Text) (status : AdminStatus) (s : Store) : Except Failure (AdminId × Store) :=
  if (findAdminByEmail s email).isSome then .error .uniqueViolation
  else .ok (s.nextId, { s with admins := s.admins.insert s.nextId ⟨email, status⟩, nextId := s.nextId + 1 })

/-- `updateAdminStatus`, `deactivateAdmin` and `reactivateAdmin` differ in the status. -/
def setStatus (id : AdminId) (status : AdminStatus) (s : Store) : Except Failure (Unit × Store) :=
  match s.admins.lookup id with
  | some admin => .ok ((), { s with admins := s.admins.insert id { admin with status } })
  | none => .error (.prisma "P2025")

/-! ## Calls -/

inductive RbacCall where
  | findAdminById (id : AdminId)
  | findAdminByEmail (email : Text)
  | findRoleById (id : RoleId)
  | findRoleByName (name : Text)
  | findPermissionById (id : PermissionId)
  | findPermissionByCode (code : Text)
  | getAdminRolesAndPermissions (adminId : AdminId)
  | adminsWithRole (roleName : Text)
  | countActiveAdminsWithRole (roleName : Text)
  | adminIdsForRole (roleId : RoleId)
  | adminIdsForPermission (permissionId : PermissionId)
  | createRole (name : Text)
  | deleteRole (id : RoleId)
  | createPermission (code : Text)
  | deleteRolePermissions (permissionId : PermissionId)
  | deletePermission (id : PermissionId)
  | assignRoleToAdmin (adminId : AdminId) (roleId : RoleId)
  | removeRoleFromAdmin (adminId : AdminId) (roleId : RoleId)
  | grantPermissionToRole (roleId : RoleId) (permissionId : PermissionId)
  | revokePermissionFromRole (roleId : RoleId) (permissionId : PermissionId)
  | createAdmin (email : Text) (status : AdminStatus)
  | updateAdminStatus (id : AdminId) (status : AdminStatus)
  | deactivateAdmin (id : AdminId)
  | reactivateAdmin (id : AdminId)
  | revokeAllAdminSessions (adminId : AdminId)
  | cacheGet (adminId : AdminId)
  | cacheSet (adminId : AdminId) (access : Access)
  | cacheDel (adminId : AdminId)
  deriving DecidableEq, Repr

abbrev RbacCall.Reply : RbacCall → Type
  | .findAdminById _ => Option Admin
  | .findAdminByEmail _ => Option (AdminId × Admin)
  | .findRoleById _ => Option Role
  | .findRoleByName _ => Option (RoleId × Role)
  | .findPermissionById _ => Option Text
  | .findPermissionByCode _ => Option (PermissionId × Text)
  | .getAdminRolesAndPermissions _ => Access
  | .adminsWithRole _ => List AdminId
  | .countActiveAdminsWithRole _ => ℕ
  | .adminIdsForRole _ => List AdminId
  | .adminIdsForPermission _ => List AdminId
  | .createRole _ => RoleId
  | .createPermission _ => PermissionId
  | .createAdmin _ _ => AdminId
  | .cacheGet _ => Option Access
  | _ => Unit

/-- Keys in Redis expire. -/
structure World where
  isExpired : Bool

/-- What a call does, whichever request makes it. -/
def perform (world : World) (_ : ℕ) : (call : RbacCall) → Store → Except Failure call.Reply × Store
  | .findAdminById id, s => (.ok (s.admins.lookup id), s)
  | .findAdminByEmail email, s => (.ok (findAdminByEmail s email), s)
  | .findRoleById id, s => (.ok (s.roles.lookup id), s)
  | .findRoleByName name, s => (.ok (findRoleByName s name), s)
  | .findPermissionById id, s => (.ok (s.permissions.lookup id), s)
  | .findPermissionByCode code, s => (.ok (findPermissionByCode s code), s)
  | .getAdminRolesAndPermissions adminId, s => (.ok (getAdminRolesAndPermissions s adminId), s)
  | .adminsWithRole roleName, s => (.ok (adminsWithRole s roleName), s)
  | .countActiveAdminsWithRole roleName, s => (.ok (adminsWithRole s roleName).length, s)
  | .adminIdsForRole roleId, s => (.ok (adminIdsForRole s roleId), s)
  | .adminIdsForPermission permissionId, s => (.ok (adminIdsForPermission s permissionId), s)
  | .createRole name, s => Database.written s (createRole name s)
  | .deleteRole id, s => Database.written s (deleteRole id s)
  | .createPermission code, s => Database.written s (createPermission code s)
  | .deleteRolePermissions permissionId, s =>
    (.ok (), { s with rolePermissions := s.rolePermissions.filter fun pair => pair.2 ≠ permissionId })
  | .deletePermission id, s => Database.written s (deletePermission id s)
  | .assignRoleToAdmin adminId roleId, s => Database.written s (assignRoleToAdmin adminId roleId s)
  | .removeRoleFromAdmin adminId roleId, s =>
    (.ok (), { s with adminRoles := s.adminRoles.filter (· ≠ (adminId, roleId)) })
  | .grantPermissionToRole roleId permissionId, s =>
    Database.written s (grantPermissionToRole roleId permissionId s)
  | .revokePermissionFromRole roleId permissionId, s =>
    (.ok (), { s with rolePermissions := s.rolePermissions.filter (· ≠ (roleId, permissionId)) })
  | .createAdmin email status, s => Database.written s (createAdmin email status s)
  | .updateAdminStatus id status, s => Database.written s (setStatus id status s)
  | .deactivateAdmin id, s => Database.written s (setStatus id .deactivated s)
  | .reactivateAdmin id, s => Database.written s (setStatus id .active s)
  | .revokeAllAdminSessions _, s => (.ok (), s)
  | .cacheGet adminId, s =>
    if world.isExpired then (.ok none, { s with cache := s.cache.erase adminId })
    else (.ok (s.cache.lookup adminId), s)
  | .cacheSet adminId access, s => (.ok (), { s with cache := s.cache.insert adminId access })
  | .cacheDel adminId, s => (.ok (), { s with cache := s.cache.erase adminId })

/-- A call as a request may see it. -/
abbrev Makes (pid : ℕ) (call : RbacCall) (s : Store) (reply : Except Failure call.Reply) (s' : Store) : Prop :=
  Database.Makes perform pid call s reply s'

abbrev RbacM := Async RbacCall RbacCall.Reply Failure

abbrev ask (call : RbacCall) : RbacM call.Reply := Async.call call

end Exchange.AdminRbac
