import Exchange.RbacEffects

/-! A super admin remains. Whoever takes the role or the status from a super
admin counts the super admins first, and writes in a later step: of two who
count at the same time, each finds the other's. -/
namespace Exchange.AdminRbac.LastSuperAdmin
open Service

variable {requests : ℕ → Request} {request : Request} {past : Past} {pid : ℕ} {adminId other : AdminId}
  {roleId : RoleId} {name : Text} {call : RbacCall} {reply : Except Failure call.Reply} {s s' : Store} {x : History}
  {pool : RbacPool}

/-- Active super admins. -/
abbrev superAdmins (s : Store) : List AdminId := adminsWithRole s SUPER_ADMIN

/-- No two roles have one name, and no admin has a role twice. -/
structure Distinct (s : Store) : Prop where
  names : ∀ id id' role role', s.roles.lookup id = some role → s.roles.lookup id' = some role' →
    role.name = role'.name → id = id'
  adminRoles : s.adminRoles.Nodup

structure Opening (s : Store) : Prop where
  numbered : Numbered s
  distinct : Distinct s
  super : ∃ adminId, adminId ∈ superAdmins s

/-- Whom a call may take out of the active super admins. -/
def takes (s : Store) : RbacCall → Option AdminId
  | .updateAdminStatus id status => if status = .active then none else some id
  | .deactivateAdmin id => some id
  | .removeRoleFromAdmin id roleId =>
    if (s.roles.lookup roleId).any fun role => role.name = SUPER_ADMIN then some id else none
  | _ => none

def isLast (s : Store) (adminId : AdminId) : Bool := adminId ∈ superAdmins s && (superAdmins s).length ≤ 1

/-- The super admins as they were read; no other role is asked for. -/
def readSupers : Answered RbacCall RbacCall.Reply Failure → Option (List AdminId)
  | ⟨.adminsWithRole _, .ok supers⟩ => some supers
  | _ => none

/-- Their number, as it was read. -/
def readCount : Answered RbacCall RbacCall.Reply Failure → Option ℕ
  | ⟨.countActiveAdminsWithRole _, .ok count⟩ => some count
  | _ => none

/-- Whoever would take out the last super admin has found that this is the last. -/
def isCurrent (x : History) (pid : ℕ) (call : RbacCall) : Bool :=
  (takes x.store call).all fun id => !isLast x.store id ||
    ((x.past pid).filterMap readSupers).all (id ∈ ·) && ((x.past pid).filterMap readCount).all (· ≤ 1)

def followed (pid : ℕ) (call : RbacCall) (x : History) (reply : Except Failure call.Reply) (s' : Store) : Prop :=
  Makes pid call x.store reply s' ∧ isCurrent x pid call

/-! ## Counting -/

theorem superAdmins_nodup (distinct : Distinct s) : (superAdmins s).Nodup := by
  refine List.Nodup.map_on ?_ (distinct.adminRoles.filter _)
  rintro ⟨admin, roleId⟩ member ⟨admin', roleId'⟩ member' same
  simp only [List.mem_filter, Bool.and_eq_true, Option.any_eq_true, decide_eq_true_eq] at member member' same
  obtain ⟨-, ⟨role, found, named⟩, -⟩ := member
  obtain ⟨-, ⟨role', found', named'⟩, -⟩ := member'
  rw [same, distinct.names roleId roleId' role role' found found' (named.trans named'.symm)]

/-- Who is not the last leaves another. -/
theorem exists_other (distinct : Distinct s) (some : ∃ adminId, adminId ∈ superAdmins s)
    (notLast : isLast s adminId = false) : ∃ other ∈ superAdmins s, other ≠ adminId := by
  by_contra all
  push Not at all
  obtain ⟨found, member⟩ := some
  have same : superAdmins s = List.replicate (superAdmins s).length adminId := List.eq_replicate_of_mem all
  have single : (superAdmins s).length ≤ 1 := by
    have nodup := superAdmins_nodup distinct
    rw [same] at nodup
    exact List.nodup_replicate.mp nodup
  have isLast : isLast s adminId = true := by
    simp only [LastSuperAdmin.isLast, Bool.and_eq_true, decide_eq_true_eq]
    exact ⟨all found member ▸ member, single⟩
  cases notLast.symm.trans isLast

/-! ## Steps -/

theorem neutral_takes (neutral : call.isNeutral) : takes s call = none := by
  cases call with
  | updateAdminStatus => cases neutral
  | deactivateAdmin => cases neutral
  | removeRoleFromAdmin => cases neutral
  | _ => rfl

/-- Whoever takes a super admin out was found to be safe. -/
theorem may_take (may : May request past call) (takes : takes s call = some adminId)
    (same : ∀ roleId role now, ⟨.findRoleById roleId, .ok (some role)⟩ ∈ past →
      s.roles.lookup roleId = some now → now = role) : Safe adminId past := by
  cases may with
  | neutral neutral => cases (neutral_takes neutral).symm.trans takes
  | @updateAdminStatus id status ctx isRequest safe =>
    cases status with
    | suspended =>
      cases takes
      exact safe rfl
    | active => cases takes
    | deactivated => cases takes
  | deactivateAdmin isRequest read isSuper safe =>
    cases takes
    exact safe
  | @removeRoleFromAdmin id roleId ctx role isRequest found safe first =>
    simp only [LastSuperAdmin.takes, Option.ite_none_right_eq_some, Option.some.injEq, Option.any_eq_true,
      decide_eq_true_eq] at takes
    obtain ⟨⟨now, isNow, named⟩, rfl⟩ := takes
    exact safe (same roleId role now found isNow ▸ named)
  | _ => cases takes

/-- Who found the last super admin to be the last goes no further. -/
theorem not_last (safe : Safe adminId (x.past pid)) (current : isCurrent x pid call)
    (takes : takes x.store call = some adminId) : isLast x.store adminId = false := by
  obtain ⟨supers, read, notLast⟩ := safe
  by_contra last
  simp only [Bool.not_eq_false] at last
  simp only [isCurrent, takes, Option.all_some, last, Bool.not_true, Bool.false_or, Bool.and_eq_true,
    List.all_eq_true, decide_eq_true_eq] at current
  have isSuper := current.1 supers (List.mem_filterMap.mpr ⟨_, read, rfl⟩)
  obtain ⟨count, counted, more⟩ := notLast isSuper
  have few : count ≤ 1 := current.2 count (List.mem_filterMap.mpr ⟨_, counted, rfl⟩)
  exact absurd few (not_le.mpr more)

theorem deleted_lesser (known : Known x) (may : May request (x.past pid) (.deleteRole roleId)) {role : Role}
    (isRole : x.store.roles.lookup roleId = some role) : role.name ≠ SUPER_ADMIN := by
  cases may with
  | neutral neutral => cases neutral
  | deleteRole isRequest read lesser => exact known.same_role read isRole ▸ lesser

/-- A super admin who is not taken out stays one. -/
theorem super_stays (known : Known x) (may : May request (x.past pid) call)
    (effect : Effect x.store ⟨call, reply⟩ s') (member : other ∈ superAdmins x.store)
    (spared : takes x.store call ≠ some other) : other ∈ superAdmins s' := by
  obtain ⟨⟨roleId, role, assigned, isRole, named⟩, admin, found, active⟩ := mem_adminsWithRole.mp member
  refine mem_adminsWithRole.mpr ?_
  cases effect with
  | roleCreated fresh =>
    have old := (known.numbered.roles roleId role isRole).ne
    exact ⟨⟨roleId, role, assigned, (AList.lookup_insert_ne old).trans isRole, named⟩, admin, found, active⟩
  | @roleDeleted gone =>
    have kept : roleId ≠ gone := by
      rintro rfl
      exact deleted_lesser known may isRole named
    refine ⟨⟨roleId, role, ?_, (AList.lookup_erase_ne kept).trans isRole, named⟩, admin, found, active⟩
    simpa [kept] using assigned
  | assigned isRole' =>
    exact ⟨⟨roleId, role, List.mem_insert_of_mem assigned, isRole, named⟩, admin, found, active⟩
  | @removed target removedRole =>
    refine ⟨⟨roleId, role, ?_, isRole, named⟩, admin, found, active⟩
    simp only [List.mem_filter, assigned, true_and, decide_eq_true_eq]
    intro same
    cases same
    exact spared (if_pos (by simp [isRole, named]))
  | adminCreated =>
    have old := (known.numbered.admins other admin found).ne
    exact ⟨⟨roleId, role, assigned, isRole, named⟩, admin, (AList.lookup_insert_ne old).trans found, active⟩
  | @statusSet call value id status before sets isRow =>
    refine ⟨⟨roleId, role, assigned, isRole, named⟩, ?_⟩
    by_cases same : other = id
    · subst same
      refine ⟨{ before with status }, AList.lookup_insert _, ?_⟩
      cases call with
      | updateAdminStatus =>
        cases sets
        exact of_not_not fun ends => spared (if_neg ends)
      | deactivateAdmin =>
        cases sets
        exact absurd rfl spared
      | reactivateAdmin =>
        cases sets
        rfl
      | _ => cases sets
    · exact ⟨admin, (AList.lookup_insert_ne same).trans found, active⟩
  | _ => exact ⟨⟨roleId, role, assigned, isRole, named⟩, admin, found, active⟩

theorem distinct_effect {made : Answered RbacCall RbacCall.Reply Failure} (distinct : Distinct s)
    (effect : Effect s made s') : Distinct s' := by
  cases effect with
  | @roleCreated name fresh =>
    refine ⟨fun id id' role role' found found' same => ?_, distinct.adminRoles⟩
    have isNew : ∀ id role, s.roles.lookup id = some role → role.name ≠ name := fun id role found named => by
      have none := List.find?_eq_none.mp fresh (id, role) (Table.mem_rows.mpr found)
      simp [named] at none
    by_cases first : id = s.nextId <;> by_cases second : id' = s.nextId
    · exact first.trans second.symm
    · subst first
      rw [AList.lookup_insert] at found
      rw [AList.lookup_insert_ne second] at found'
      cases found
      exact absurd same.symm (isNew id' role' found')
    · subst second
      rw [AList.lookup_insert] at found'
      rw [AList.lookup_insert_ne first] at found
      cases found'
      exact absurd same (isNew id role found)
    · rw [AList.lookup_insert_ne first] at found
      rw [AList.lookup_insert_ne second] at found'
      exact distinct.names id id' role role' found found' same
  | roleDeleted =>
    refine ⟨fun id id' role role' found found' same => ?_, distinct.adminRoles.filter _⟩
    exact distinct.names id id' role role' (lookup_of_erase found) (lookup_of_erase found') same
  | assigned isRole => exact ⟨distinct.names, distinct.adminRoles.insert⟩
  | removed => exact ⟨distinct.names, distinct.adminRoles.filter _⟩
  | _ => exact ⟨distinct.names, distinct.adminRoles⟩

/-! ## Runs -/

structure Kept (x : History) : Prop where
  known : Known x
  distinct : Distinct x.store
  super : ∃ adminId, adminId ∈ superAdmins x.store

theorem super_step (kept : Kept x) (may : May request (x.past pid) call) (made : followed pid call x reply s') :
    ∃ adminId, adminId ∈ superAdmins s' := by
  have effect := made.1.effect
  cases taken : takes x.store call with
  | none =>
    obtain ⟨other, member⟩ := kept.super
    exact ⟨other, super_stays kept.known may effect member (by simp [taken])⟩
  | some adminId =>
    have safe := may_take may taken fun _ _ _ read found => kept.known.same_role read found
    obtain ⟨other, member, ne⟩ := exists_other kept.distinct kept.super (not_last safe made.2 taken)
    exact ⟨other, super_stays kept.known may effect member (by simpa [taken] using ne.symm)⟩

theorem kept_step (kept : Kept x) (may : May request (x.past pid) call) (made : followed pid call x reply s') :
    Kept ⟨s', (pid, ⟨call, reply⟩) :: x.history⟩ :=
  ⟨known_step kept.known made.1, distinct_effect kept.distinct made.1.effect, super_step kept may made⟩

/-- While nobody takes out the last super admin on an older count, one remains. -/
theorem one_remains (run : Logged.Run followed (IsRequest requests) Opening pool) :
    ∃ adminId, HasRole pool.store.store adminId SUPER_ADMIN ∧ HasStatus pool.store.store adminId .active := by
  have kept : Kept pool.store := run.inv (isRequest_obeys requests)
    (fun _ opening => ⟨known_opening opening.numbered, opening.distinct, opening.super⟩)
    fun _ _ _ _ _ kept may made => kept_step kept may made
  obtain ⟨adminId, member⟩ := kept.super
  exact ⟨adminId, mem_adminsWithRole.mp member⟩

/-! ## Two super admins who suspend each other -/

theorem opening_small : Opening smallStore where
  numbered := numbered_small
  distinct := by
    refine ⟨fun id id' role role' found found' same => ?_, by decide⟩
    have all : ∀ row ∈ smallStore.roles.rows, ∀ row' ∈ smallStore.roles.rows, row.2.name = row'.2.name →
        row.1 = row'.1 := by decide
    exact all (id, role) (Table.mem_rows.mpr found) (id', role') (Table.mem_rows.mpr found') same
  super := ⟨1, by decide⟩

private def eachOther : ℕ → Request
  | 1 => .updateAdminStatus 1 .suspended (some 2)
  | _ => .updateAdminStatus 2 .suspended (some 1)

/-- One after the other, the second is refused. -/
theorem one_remains_in_turn : ∃ pool : RbacPool, pool.answerOf 1 = some .done ∧
    ∃ adminId, HasRole pool.store.store adminId SUPER_ADMIN ∧ HasStatus pool.store.store adminId .active := by
  have played : (schedule (fun _ => ⟨false⟩) (fun _ _ => false) (fun pid call x _ => isCurrent x pid call) eachOther
      [1, 2] [(1, 6), (2, 3)] smallStore).map (fun pool => pool.answerOf 1) = some (some .done) := by decide +kernel
  obtain ⟨pool, scheduled, answers⟩ := Option.map_eq_some_iff.mp played
  have run : Logged.Run followed (IsRequest eachOther) Opening pool :=
    schedule_run opening_small (fun _ _ _ _ _ current makes => ⟨makes, current⟩) scheduled
  exact ⟨pool, answers, one_remains run⟩

/-- Both count two, and none is left. -/
theorem none_remains : ¬∀ pool : RbacPool, Logged.Run interleaved (IsRequest eachOther) Opening pool →
    ∃ adminId, HasRole pool.store.store adminId SUPER_ADMIN ∧ HasStatus pool.store.store adminId .active := by
  intro remains
  have played : (schedule (fun _ => ⟨false⟩) (fun _ _ => false) (fun _ _ _ _ => true) eachOther [1, 2]
      [(1, 3), (2, 3), (1, 3), (2, 3)] smallStore).map (fun pool => superAdmins pool.store.store) = some [] := by
    decide +kernel
  obtain ⟨pool, scheduled, none⟩ := Option.map_eq_some_iff.mp played
  have run : Logged.Run interleaved (IsRequest eachOther) Opening pool :=
    schedule_run opening_small (fun _ _ _ _ _ _ makes => makes) scheduled
  obtain ⟨adminId, has⟩ := remains pool run
  have member : adminId ∈ superAdmins pool.store.store := mem_adminsWithRole.mpr has
  rw [none] at member
  cases member

end Exchange.AdminRbac.LastSuperAdmin
