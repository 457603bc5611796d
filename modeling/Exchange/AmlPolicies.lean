import Exchange.AsyncDatabase
import Exchange.Table

/-! Versions of the AML policy. An activation sets one version active and then,
in a call of its own, demotes the others; the evaluation takes the active one. -/
namespace Exchange.Aml

abbrev PolicyId := ℕ

/-! ## Policies -/

inductive AmlPolicyStatus where
  | draft
  | active
  | disabled
  | archived
  deriving DecidableEq, Repr

abbrev Store := Table PolicyId AmlPolicyStatus

inductive AmlCall where
  | findPolicy (id : PolicyId)
  | updatePolicy (id : PolicyId) (status : AmlPolicyStatus)
  | demoteActive (exceptId : PolicyId)
  deriving DecidableEq, Repr

abbrev AmlCall.Reply : AmlCall → Type
  | .findPolicy _ => Option AmlPolicyStatus
  | _ => Unit

def updatePolicy (id : PolicyId) (status : AmlPolicyStatus) (s : Store) : Except Failure (Unit × Store) :=
  if (s.lookup id).isSome then .ok ((), s.insert id status) else .error (.prisma "P2025")

def demoteActive (exceptId : PolicyId) (s : Store) : Store :=
  s.mapRows fun id status => if status = .active && id ≠ exceptId then .disabled else status

def perform (_ : Unit) (_ : ℕ) : (call : AmlCall) → Store → Except Failure call.Reply × Store
  | .findPolicy id, s => (.ok (s.lookup id), s)
  | .updatePolicy id status, s => Database.written s (updatePolicy id status s)
  | .demoteActive exceptId, s => (.ok (), demoteActive exceptId s)

/-- A call as a request may see it. -/
abbrev Makes (pid : ℕ) (call : AmlCall) (s : Store) (reply : Except Failure call.Reply) (s' : Store) : Prop :=
  Database.Makes perform pid call s reply s'

abbrev AmlM := Async AmlCall AmlCall.Reply Failure

abbrev ask (call : AmlCall) : AmlM call.Reply := Async.call call

namespace Service
open Async

/-- Activates one version, and demotes any other. -/
def activate (policyId : PolicyId) : AmlM Unit := do
  let found ← ask (.findPolicy policyId)
  match found with
  | none => throw (.notFoundError "AML policy not found")
  | some status =>
    if status = .archived then throw (.badRequestError "Archived policies cannot be activated")
    else do
      ask (.updatePolicy policyId .active)
      ask (.demoteActive policyId)

/-- Each request activates a policy. -/
def IsRequest (requests : ℕ → PolicyId) (pid : ℕ) (program : AmlM Unit) : Prop := program = activate (requests pid)

/-! ## The rules -/

/-- The calls a request has made, latest first. -/
abbrev Past := List (Answered AmlCall AmlCall.Reply Failure)

/-- The version that was activated, where the others are demoted next. -/
def midway : Past → Option PolicyId
  | ⟨.updatePolicy id _, .ok _⟩ :: _ => some id
  | _ => none

/-- The calls a request may make. -/
inductive May (policyId : PolicyId) (past : Past) : AmlCall → Prop
  | findPolicy (free : midway past = none) : May policyId past (.findPolicy policyId)
  | updatePolicy (free : midway past = none) : May policyId past (.updatePolicy policyId .active)
  | demoteActive (isMidway : midway past = some policyId) : May policyId past (.demoteActive policyId)

/-- An activation that succeeds has demoted the others. -/
def ends (policyId : PolicyId) : Past → Except Failure Unit → Prop :=
  EndsWith (fun past => midway past = none) fun _ past =>
    midway past = none ∧ ⟨.demoteActive policyId, .ok ()⟩ ∈ past

theorem activate_obeys (policyId : PolicyId) : (activate policyId).Obeys (May policyId) (ends policyId) [] := by
  refine ⟨.findPolicy rfl, fun reply => ?_⟩
  rcases reply with failure | (_ | status)
  · rfl
  · rfl
  change Async.Obeys (May policyId) (ends policyId) _ (if _ then _ else _)
  split
  · rfl
  refine ⟨.updatePolicy rfl, fun reply => ?_⟩
  cases reply with
  | error failure => rfl
  | ok value =>
    refine ⟨.demoteActive rfl, fun reply => ?_⟩
    cases reply with
    | error failure => rfl
    | ok value => exact ⟨rfl, List.mem_cons_self⟩

theorem isRequest_obeys (requests : ℕ → PolicyId) (pid : ℕ) (program : AmlM Unit)
    (isRequest : IsRequest requests pid program) :
    program.Obeys (May (requests pid)) (ends (requests pid)) [] :=
  isRequest ▸ activate_obeys (requests pid)

end Service

open Service

/-! ## What calls do -/

variable {requests : ℕ → PolicyId} {policyId id : PolicyId} {pid other : ℕ} {call : AmlCall}
  {reply : Except Failure call.Reply} {s s' : Store}

def IsActive (s : Store) (id : PolicyId) : Prop := s.lookup id = some .active

/-- What a call did, by its answer. -/
inductive Effect (s : Store) : Answered AmlCall AmlCall.Reply Failure → Store → Prop
  | failed {call : AmlCall} {failure : Failure} : Effect s ⟨call, .error failure⟩ s
  | read {id : PolicyId} {found : Option AmlPolicyStatus} : Effect s ⟨.findPolicy id, .ok found⟩ s
  | updated {id : PolicyId} {status : AmlPolicyStatus} :
      Effect s ⟨.updatePolicy id status, .ok ()⟩ (s.insert id status)
  | demoted {id : PolicyId} : Effect s ⟨.demoteActive id, .ok ()⟩ (demoteActive id s)

theorem Makes.effect (makes : Makes pid call s reply s') : Effect s ⟨call, reply⟩ s' := by
  rcases makes with ⟨world, ran⟩ | ⟨⟨failure, -, rfl⟩, rfl⟩
  · cases call with
    | findPolicy id =>
      cases ran
      exact .read
    | updatePolicy id status =>
      rcases Database.written_cases ran with ⟨value, rfl, ok⟩ | ⟨⟨failure, rfl, -⟩, rfl⟩
      · unfold updatePolicy at ok
        split at ok
        · cases ok
          exact .updated
        · cases ok
      · exact .failed
    | demoteActive id =>
      cases ran
      exact .demoted
  · exact .failed

theorem isActive_demote : IsActive (demoteActive policyId s) id ↔ IsActive s id ∧ id = policyId := by
  rw [IsActive, demoteActive, Table.lookup_mapRows, IsActive]
  cases s.lookup id with
  | none => simp
  | some status =>
    by_cases isActive : status = .active <;> by_cases same : id = policyId <;> simp [isActive, same]

/-! ## One active policy -/

abbrev History := Logged ℕ AmlCall AmlCall.Reply Failure Store

abbrev AmlPool := Pool ℕ AmlCall AmlCall.Reply Failure Unit History

variable {x : History} {pool : AmlPool}

def interleaved (pid : ℕ) (call : AmlCall) (x : History) (reply : Except Failure call.Reply) (s' : Store) : Prop :=
  Makes pid call x.store reply s'

/-- Whoever else is between two writes activates the same version. -/
def isAlone (x : History) (pid : ℕ) (id : PolicyId) : Bool :=
  x.history.all fun made => made.1 = pid || (midway (x.past made.1)).all (· = id)

/-- An activation starts while no other version is being activated, and goes on
to demote the others. -/
def isOrderly (x : History) (pid : ℕ) : (call : AmlCall) → Except Failure call.Reply → Bool
  | .updatePolicy id _, _ => isAlone x pid id
  | .demoteActive _, reply => reply.isOk
  | .findPolicy _, _ => true

def followed (pid : ℕ) (call : AmlCall) (x : History) (reply : Except Failure call.Reply) (s' : Store) : Prop :=
  Makes pid call x.store reply s' ∧ isOrderly x pid call reply

theorem eq_of_isAlone {target : PolicyId} (alone : isAlone x pid id) (ne : other ≠ pid)
    (isMidway : midway (x.past other) = some target) : target = id := by
  cases isPast : x.past other with
  | nil =>
    rw [isPast] at isMidway
    cases isMidway
  | cons made rest =>
    have member : (other, made) ∈ x.history := Logged.mem_past.mp (isPast ▸ List.mem_cons_self)
    have same := List.all_eq_true.mp alone _ member
    simpa [ne, isMidway] using same

/-- Some activation has demoted the others. -/
def Demoted (x : History) : Prop := ∃ pid id, ⟨.demoteActive id, .ok ()⟩ ∈ x.past pid

structure Kept (x : History) : Prop where
  /-- What was activated stands until the others are demoted. -/
  stands : ∀ pid id, midway (x.past pid) = some id → IsActive x.store id
  same : ∀ pid pid' id id', midway (x.past pid) = some id → midway (x.past pid') = some id' → id = id'
  one : Demoted x → (∀ pid, midway (x.past pid) = none) → ∃! id, IsActive x.store id

section Step
variable {made : Answered AmlCall AmlCall.Reply Failure}

theorem midway_cons (x : History) (pid other : ℕ) (s' : Store) (made : Answered AmlCall AmlCall.Reply Failure) :
    midway ((⟨s', (pid, made) :: x.history⟩ : History).past other) =
      if other = pid then midway (made :: x.past pid) else midway (x.past other) := by
  rw [Logged.past_made, apply_ite midway]

/-- A call that changes nothing, between no two writes. -/
theorem kept_same (kept : Kept x) (before : midway (x.past pid) = none) (after : midway (made :: x.past pid) = none)
    (isOther : ∀ id, made ≠ ⟨.demoteActive id, .ok ()⟩) : Kept ⟨x.store, (pid, made) :: x.history⟩ := by
  have same : ∀ other, midway ((⟨x.store, (pid, made) :: x.history⟩ : History).past other) = midway (x.past other) := by
    intro other
    rw [midway_cons]
    split
    · rename_i isSame
      rw [after, isSame, before]
    · rfl
  refine ⟨fun other id isMidway => kept.stands other id (same other ▸ isMidway), fun first second id id' => ?_, ?_⟩
  · rw [same, same]
    exact kept.same first second id id'
  · rintro ⟨other, id, member⟩ free
    refine kept.one ⟨other, id, ?_⟩ fun other => same other ▸ free other
    rcases Logged.mem_past_cons.mp member with ⟨isMade, -⟩ | earlier
    · exact absurd isMade.symm (isOther id)
    · exact earlier

end Step

theorem kept_step (kept : Kept x) (may : May policyId (x.past pid) call) (made : followed pid call x reply s') :
    Kept ⟨s', (pid, ⟨call, reply⟩) :: x.history⟩ := by
  obtain ⟨makes, orderly⟩ := made
  cases may with
  | findPolicy free =>
    cases makes.effect with
    | failed => exact kept_same kept free rfl (by rintro id ⟨⟩)
    | read => exact kept_same kept free rfl (by rintro id ⟨⟩)
  | updatePolicy free =>
    cases makes.effect with
    | failed => exact kept_same kept free rfl (by rintro id ⟨⟩)
    | updated =>
      have all : ∀ other id, midway ((⟨x.store.insert policyId .active,
          (pid, ⟨.updatePolicy policyId .active, .ok ()⟩) :: x.history⟩ : History).past other) = some id →
            id = policyId := by
        intro other id isMidway
        rw [midway_cons] at isMidway
        split at isMidway
        · cases isMidway
          rfl
        · rename_i ne
          exact eq_of_isAlone orderly ne isMidway
      refine ⟨fun other id isMidway => ?_, fun first second id id' isFirst isSecond => ?_, fun _ free => ?_⟩
      · cases all other id isMidway
        exact AList.lookup_insert _
      · exact (all first id isFirst).trans (all second id' isSecond).symm
      · have isFree := free pid
        rw [midway_cons, if_pos rfl] at isFree
        cases isFree
  | demoteActive isMidway =>
    have active := kept.stands pid _ isMidway
    cases makes.effect with
    | failed => cases orderly
    | demoted =>
      have earlier : ∀ other id, midway ((⟨demoteActive policyId x.store, (pid, ⟨.demoteActive policyId, .ok ()⟩) ::
          x.history⟩ : History).past other) = some id → midway (x.past other) = some id := by
        intro other id isMidway
        rw [midway_cons] at isMidway
        split at isMidway
        · cases isMidway
        · exact isMidway
      refine ⟨fun other id isOther => ?_, fun first second id id' isFirst isSecond => ?_, fun _ _ => ?_⟩
      · have same := kept.same other pid id policyId (earlier other id isOther) isMidway
        exact isActive_demote.mpr ⟨same ▸ active, same⟩
      · exact kept.same first second id id' (earlier first id isFirst) (earlier second id' isSecond)
      · exact ⟨policyId, isActive_demote.mpr ⟨active, rfl⟩, fun id isActive => (isActive_demote.mp isActive).2⟩

/-- While activations of different versions do not overlap and each goes on to
the end, one version is active once some activation succeeded. -/
theorem one_active_policy (run : Logged.Run followed (IsRequest requests) (fun _ => True) pool) (quiet : pool.Quiet)
    (succeeded : pool.answerOf pid = some ()) : ∃! id, IsActive pool.store.store id := by
  have orderly := Logged.Run.orderly (isRequest_obeys requests) run
  have kept : Kept pool.store := run.inv (isRequest_obeys requests)
    (fun s _ => ⟨nofun, nofun, fun ⟨_, _, member⟩ => nomatch member⟩) fun _ _ _ _ _ kept may made => kept_step kept may made
  obtain ⟨-, demoted⟩ := orderly.ended (Pool.ended_of_answerOf succeeded)
  refine kept.one ⟨pid, _, demoted⟩ fun pid => ?_
  rcases orderly.quiet quiet pid with nothing | ⟨result, ended⟩
  · rw [nothing]
    rfl
  · cases result with
    | ok value => exact ended.1
    | error failure => exact ended

/-! ## Two activations -/

private def twoPolicies : Store := ((∅ : Store).insert 1 .draft).insert 2 .draft

/-- Request `n` activates policy `n`. -/
private def ownPolicy (pid : ℕ) : PolicyId := pid

private def activeOf (pool : AmlPool) : List PolicyId :=
  (pool.store.store.rows.filter fun row => row.2 = .active).map Prod.fst

private theorem mem_activeOf : id ∈ activeOf pool ↔ IsActive pool.store.store id := by
  simp [activeOf, IsActive, Table.mem_rows]

/-- The second activation replaces the first. -/
theorem one_active_policy_in_turn : ∃ pool : AmlPool, activeOf pool = [2] ∧ ∃! id, IsActive pool.store.store id := by
  have played : (Database.schedule perform (fun _ => ()) (fun _ _ => false)
      (fun pid call x reply => isOrderly x pid call reply) (fun pid => activate (ownPolicy pid)) [1, 2] [(1, 3), (2, 3)]
      twoPolicies).map (fun pool => (pool.isQuiet, pool.answerOf 2, activeOf pool)) = some (true, some (), [2]) := by
    decide +kernel
  obtain ⟨pool, scheduled, facts⟩ := Option.map_eq_some_iff.mp played
  simp only [Prod.mk.injEq] at facts
  have run : Logged.Run followed (IsRequest ownPolicy) (fun _ => True) pool :=
    Database.schedule_run trivial (fun _ => rfl) (fun _ _ _ _ _ orderly makes => ⟨makes, orderly⟩) scheduled
  exact ⟨pool, facts.2.2, one_active_policy run (Pool.quiet_of_isQuiet facts.1) facts.2.1⟩

/-- Each demotes the version of the other. -/
theorem no_active_policy : ¬∀ (pool : AmlPool) (pid : ℕ),
    Logged.Run interleaved (IsRequest ownPolicy) (fun _ => True) pool → pool.Quiet → pool.answerOf pid = some () →
      ∃! id, IsActive pool.store.store id := by
  intro one
  have played : (Database.schedule perform (fun _ => ()) (fun _ _ => false) (fun _ _ _ _ => true)
      (fun pid => activate (ownPolicy pid)) [1, 2] [(1, 2), (2, 3), (1, 1)] twoPolicies).map (fun pool =>
        (pool.isQuiet, pool.answerOf 2, activeOf pool)) = some (true, some (), []) := by decide +kernel
  obtain ⟨pool, scheduled, facts⟩ := Option.map_eq_some_iff.mp played
  simp only [Prod.mk.injEq] at facts
  have run : Logged.Run interleaved (IsRequest ownPolicy) (fun _ => True) pool :=
    Database.schedule_run trivial (fun _ => rfl) (fun _ _ _ _ _ _ makes => makes) scheduled
  obtain ⟨active, isActive, -⟩ := one pool 2 run (Pool.quiet_of_isQuiet facts.1) facts.2.1
  have member := mem_activeOf.mpr isActive
  rw [facts.2.2] at member
  cases member

end Exchange.Aml
