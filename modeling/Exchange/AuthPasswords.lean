import Exchange.AuthSessions

/-! A new password ends the sessions of the old one. A reset and a change look
for the sessions of the user, and revoke those they find; a change leaves the
session it was made from. -/
namespace Exchange.Auth.Passwords
open Ledger (UserId)
open Service

variable {config : Config} {requests : ℕ → Request} {x : History} {pid other : ℕ} {call : AuthCall}
  {reply : Except Failure call.Reply} {s s' : Store} {id : SessionId} {session : AuthSession} {userId : UserId}
  {exceptSessionId : Option SessionId} {ids : List SessionId} {past : Past} {pool : AuthPool}

/-- Sessions of the user that were issued before the request looked for them are
revoked, now and ever after, and their tokens are not swapped any more. -/
def SweptBy (step : AuthPool → AuthPool → Prop) (pool : AuthPool) (pid : ℕ) (userId : UserId)
    (exceptSessionId : Option SessionId) : Prop :=
  ∃ later ids earlier,
    pool.store.history = later ++ (pid, ⟨.findUnrevokedSessions userId exceptSessionId, .ok ids⟩) :: earlier ∧
    ∀ other expiresAt token, (other, ⟨.createSession userId expiresAt, .ok token⟩) ∈ earlier →
      exceptSessionId ≠ some token.sid → ∀ pool', Relation.ReflTransGen step pool pool' →
        Settled token.sid pool.store pool'.store

/-- A reset and a change that have returned have swept. -/
structure CutOff (step : AuthPool → AuthPool → Prop) (requests : ℕ → Request) (pool : AuthPool) : Prop where
  reset : ∀ pid token newPassword response, requests pid = .resetPassword token newPassword →
    pool.programs.lookup pid = some (.done (.ok response)) →
    ∃ userId, ⟨.redisGetDel (.reset token), .ok (some (.userId userId))⟩ ∈ pool.store.past pid ∧
      SweptBy step pool pid userId none
  change : ∀ pid userId currentSessionId currentPassword newPassword response,
    requests pid = .changePassword userId currentSessionId currentPassword newPassword →
    pool.programs.lookup pid = some (.done (.ok response)) →
    SweptBy step pool pid userId (some currentSessionId)

/-! ## Runs -/

structure Kept (x : History) : Prop where
  created : Created x
  listed : ∀ pid userId exceptSessionId ids,
    ⟨.findUnrevokedSessions userId exceptSessionId, .ok ids⟩ ∈ x.past pid →
    ∀ id ∈ ids, ∃ session, x.store.sessions.lookup id = some session
  swept : ∀ pid ids, ⟨.revokeSessions ids, .ok ()⟩ ∈ x.past pid → ∀ id ∈ ids, Revoked x.store id
  reads : ∀ later pid userId exceptSessionId ids earlier,
    x.history = later ++ (pid, ⟨.findUnrevokedSessions userId exceptSessionId, .ok ids⟩) :: earlier →
    ∀ other expiresAt token, (other, ⟨.createSession userId expiresAt, .ok token⟩) ∈ earlier →
      exceptSessionId ≠ some token.sid → token.sid ∈ ids ∨ Revoked x.store token.sid

theorem kept_initial : Kept ⟨s, []⟩ where
  created pid userId expiresAt token member := by cases member
  listed pid userId exceptSessionId ids member := by cases member
  swept pid ids member := by cases member
  reads later pid userId exceptSessionId ids earlier split := by simp at split

/-- Sessions that are revoked were listed just before. -/
theorem may_revokeSessions {request : Request} (call' : May config request past (.revokeSessions ids)) :
    ∃ userId exceptSessionId, ⟨.findUnrevokedSessions userId exceptSessionId, .ok ids⟩ ∈ past := by
  cases call' with
  | neutral neutral => cases neutral
  | revokeOthers isLogin => exact ⟨_, _, List.mem_cons_self⟩
  | revokeAll other => exact ⟨_, _, List.mem_cons_self⟩

theorem kept_step (kept : Kept x) (call' : May config (requests pid) (x.past pid) call)
    (makes : Makes pid call x.store reply s') : Kept ⟨s', (pid, ⟨call, reply⟩) :: x.history⟩ where
  created := created_step kept.created makes.effect
  listed other userId exceptSessionId ids member id isListed := by
    rcases Logged.mem_past_cons.mp member with ⟨same, rfl⟩ | before
    · have effect := makes.effect
      rw [← same] at effect
      obtain ⟨rfl, sessions⟩ := unrevoked_effect effect
      obtain ⟨row, isRow, -⟩ := mem_findUnrevokedSessions.mp isListed
      exact ⟨row, by rw [sessions, isRow]⟩
    · obtain ⟨row, isRow⟩ := kept.listed other userId exceptSessionId ids before id isListed
      exact makes.effect.stays isRow
  swept other ids member id isListed := by
    rcases Logged.mem_past_cons.mp member with ⟨same, rfl⟩ | before
    · cases same
      obtain ⟨userId, exceptSessionId, listed⟩ := may_revokeSessions call'
      obtain ⟨row, isRow⟩ := kept.listed other userId exceptSessionId ids listed id isListed
      exact revokes_effect makes.effect isRow (by simpa [AuthCall.revokes] using isListed)
    · exact revoked_step makes.effect (kept.swept other ids before id isListed)
  reads later other userId exceptSessionId ids earlier split user expiresAt token member spared := by
    cases later with
    | nil =>
      obtain ⟨same, rfl⟩ := List.cons.inj split
      obtain ⟨rfl, isMade⟩ := Prod.mk.inj same
      obtain ⟨rfl, row, isRow, owned⟩ := kept.created user userId expiresAt token (Logged.mem_past.mpr member)
      have effect := makes.effect
      rw [isMade] at effect
      obtain ⟨rfl, sessions⟩ := unrevoked_effect effect
      by_cases unrevoked : row.revokedAt = none
      · exact .inl (mem_findUnrevokedSessions.mpr ⟨row, isRow, owned, unrevoked, spared⟩)
      · exact .inr ⟨row, by rw [sessions]; exact isRow, unrevoked⟩
    | cons latest later =>
      obtain ⟨-, split⟩ := List.cons.inj split
      exact (kept.reads later other userId exceptSessionId ids earlier split user expiresAt token member spared).imp_right
        (revoked_step makes.effect)

theorem kept_run (run : Logged.Run interleaved (IsRequest config requests) Opening pool) : Kept pool.store :=
  run.inv (isRequest_obeys requests) (fun _ _ => kept_initial) fun _ _ _ _ _ => kept_step

theorem sweptBy (run : Logged.Run interleaved (IsRequest config requests) Opening pool)
    (swept : Swept userId exceptSessionId (pool.store.past pid)) :
    SweptBy (Pool.Step (Logged.protocol interleaved) (IsRequest config requests)) pool pid userId exceptSessionId := by
  have kept := kept_run run
  obtain ⟨ids, listed, ended⟩ := swept
  obtain ⟨later, earlier, split⟩ := List.append_of_mem (Logged.mem_past.mp listed)
  refine ⟨later, ids, earlier, split, fun other expiresAt token member spared pool' steps => ?_⟩
  refine settled_run run steps ⟨?_, fun _ _ _ rotated => rotated⟩
  rcases kept.reads later pid userId exceptSessionId ids earlier split other expiresAt token member spared with
    isListed | revoked
  · rcases ended with rfl | revokes
    · cases isListed
    · exact kept.swept pid ids revokes _ isListed
  · exact revoked

theorem cut_off (run : Logged.Run interleaved (IsRequest config requests) Opening pool) :
    CutOff (Pool.Step (Logged.protocol interleaved) (IsRequest config requests)) requests pool := by
  have orderly := Logged.Run.orderly (isRequest_obeys requests) run
  constructor
  · intro pid token newPassword response isRequest ended
    have ends := (orderly.ended ended).2
    rw [isRequest] at ends
    obtain ⟨userId, consumed, swept⟩ := ends
    exact ⟨userId, consumed, sweptBy run swept⟩
  · intro pid userId currentSessionId currentPassword newPassword response isRequest ended
    have ends := (orderly.ended ended).2
    rw [isRequest] at ends
    exact sweptBy run ends

/-! ## One user -/

/-- User 7 logs in, and then resets the password. -/
private def forgotten : ℕ → Request
  | 1 => .login ['a'] 5 noContext
  | _ => .resetPassword 3 6

private def withReset : Store :=
  (storeWith 7 (plainUser 5)).setRedis ((∅ : Table RedisKey (RedisValue × Time)).insert (.reset 3) (.userId 7, 100))

theorem cut_off_reset : ∃ (pool : AuthPool) (userId : UserId),
    ⟨.redisGetDel (.reset 3), .ok (some (.userId userId))⟩ ∈ pool.store.past 2 ∧
      SweptBy (Pool.Step (Logged.protocol interleaved) (IsRequest smallConfig forgotten)) pool 2 userId none := by
  have played : (schedule smallConfig (fun _ => worldAt 1 withReset.tables) (fun _ _ => false)
      (fun _ _ _ _ => true) forgotten [1, 2] [(1, 9), (2, 9)] withReset).map (fun pool => pool.answerOf 2) =
      some (some .done) := by decide +kernel
  obtain ⟨pool, scheduled, answers⟩ := Option.map_eq_some_iff.mp played
  have run : Logged.Run interleaved (IsRequest smallConfig forgotten) Opening pool :=
    schedule_run (by rfl) (fun _ _ _ _ _ _ makes => makes) scheduled
  obtain ⟨userId, swept⟩ := (cut_off run).reset 2 3 6 .done rfl (Pool.ended_of_answerOf answers)
  exact ⟨pool, userId, swept⟩

/-- User 7 changes the password from the session of the first login. -/
private def changed : ℕ → Request
  | 1 => .login ['a'] 5 noContext
  | _ => .changePassword 7 1 5 6

/-- The session of the old password stays. -/
theorem old_session_stays : ¬∀ (pool : AuthPool) (pid other : ℕ) (userId : UserId) (currentSessionId : SessionId)
    (oldPassword newPassword : Password) (email : Text) (ctx : AuthContext) (response : Response),
    Logged.Run interleaved (IsRequest smallConfig changed) Opening pool →
      changed pid = .changePassword userId currentSessionId oldPassword newPassword →
        pool.programs.lookup pid = some (.done (.ok response)) → changed other = .login email oldPassword ctx →
          ∀ session, pool.store.store.sessions.lookup other = some session → session.userId = userId →
            session.isActive pool.store.store.now = false := by
  intro ended
  have played : (schedule smallConfig (fun _ => worldAt 1 (tablesWith 7 (plainUser 5))) (fun _ _ => false)
      (fun _ _ _ _ => true) changed [1, 2] [(1, 9), (2, 9)] (storeWith 7 (plainUser 5))).map (fun pool =>
        (pool.answerOf 2, (pool.store.store.sessions.lookup 1).map fun session =>
          (session.userId, session.isActive pool.store.store.now))) = some (some .done, some (7, true)) := by
    decide +kernel
  obtain ⟨pool, scheduled, facts⟩ := Option.map_eq_some_iff.mp played
  simp only [Prod.mk.injEq] at facts
  obtain ⟨session, found, isActive⟩ := Option.map_eq_some_iff.mp facts.2
  simp only [Prod.mk.injEq] at isActive
  have run : Logged.Run interleaved (IsRequest smallConfig changed) Opening pool :=
    schedule_run (by rfl) (fun _ _ _ _ _ _ makes => makes) scheduled
  have inactive := ended pool 2 1 7 1 5 6 ['a'] noContext .done run rfl (Pool.ended_of_answerOf facts.1) rfl session
    found isActive.1
  cases inactive.symm.trans isActive.2

end Exchange.Auth.Passwords
