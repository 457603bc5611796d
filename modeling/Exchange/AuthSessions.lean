import Exchange.AuthEffects

/-! Sessions along runs. A session that is revoked stays revoked, and then its
token is not swapped; a session belongs to one user; and whatever a request has
listed and revoked is revoked. -/
namespace Exchange.Auth
open Ledger (UserId)
open Service

variable {config : Config} {requests : ℕ → Request} {x : History} {pid other : ℕ} {call : AuthCall}
  {reply : Except Failure call.Reply} {s s' : Store} {id : SessionId} {session : AuthSession} {userId : UserId}
  {token : RefreshToken} {past : Past} {made : Answered AuthCall AuthCall.Reply Failure}
  {pool pool' : AuthPool} {Initial : Store → Prop}

def Revoked (s : Store) (id : SessionId) : Prop :=
  ∃ session, s.sessions.lookup id = some session ∧ session.revokedAt ≠ none

/-! ## Calls -/

theorem past_grows (x : History) (s' : Store) (pid other : ℕ) (made : Answered AuthCall AuthCall.Reply Failure) :
    x.past other <:+ Logged.past ⟨s', (pid, made) :: x.history⟩ other := by
  by_cases own : other = pid
  · subst own
    rw [Logged.past_self]
    exact List.suffix_cons _ _
  · rw [Logged.past_ne _ own]
    exact List.suffix_refl _

theorem may_createSession {request : Request} {userId : UserId} {expiresAt : Time}
    (call' : May config request past (.createSession userId expiresAt)) : request.isLogin := by
  cases call' with
  | neutral neutral => cases neutral
  | createSession isLogin => exact isLogin

/-! ## Revoked sessions -/

theorem revoked_step (effect : Effect pid s made s') (revoked : Revoked s id) : Revoked s' id := by
  obtain ⟨old, isOld, isRevoked⟩ := revoked
  obtain ⟨row, isRow⟩ := effect.stays isOld
  refine ⟨row, isRow, ?_⟩
  cases effect.row isRow with
  | created own fresh => cases isOld.symm.trans fresh
  | rotated found unrevoked =>
    cases isOld.symm.trans found
    exact (isRevoked unrevoked).elim
  | revoked found isRevoked => exact isRevoked
  | same found =>
    cases isOld.symm.trans found
    exact isRevoked

/-- A session belongs to one user. -/
theorem owner_step (effect : Effect pid s made s') (found : s.sessions.lookup id = some session) :
    ∃ session', s'.sessions.lookup id = some session' ∧ session'.userId = session.userId := by
  obtain ⟨row, isRow⟩ := effect.stays found
  refine ⟨row, isRow, ?_⟩
  cases effect.row isRow with
  | created own fresh => cases found.symm.trans fresh
  | rotated isOld | revoked isOld | same isOld =>
    cases found.symm.trans isOld
    rfl

theorem create_effect {expiresAt : Time} (effect : Effect pid s ⟨.createSession userId expiresAt, .ok token⟩ s') :
    token = firstToken userId pid ∧ s.sessions.lookup pid = none ∧
      s'.sessions = s.sessions.insert pid ⟨userId, token, pid, expiresAt, none⟩ := by
  cases effect with
  | created fresh sessions => exact ⟨rfl, fresh, sessions⟩
  | revoked isRevocation => cases isRevocation
  | neutral neutral => cases neutral

/-- The sessions that were issued, by the number of the request. -/
def Created (x : History) : Prop :=
  ∀ pid userId expiresAt token, ⟨.createSession userId expiresAt, .ok token⟩ ∈ x.past pid →
    token = firstToken userId pid ∧ ∃ session, x.store.sessions.lookup pid = some session ∧ session.userId = userId

theorem created_step (created : Created x) (effect : Effect pid x.store made s') :
    Created ⟨s', (pid, made) :: x.history⟩ := by
  intro other userId expiresAt token member
  rcases Logged.mem_past_cons.mp member with ⟨rfl, rfl⟩ | before
  · obtain ⟨rfl, -, sessions⟩ := create_effect effect
    exact ⟨rfl, _, by rw [sessions]; exact AList.lookup_insert _, rfl⟩
  · obtain ⟨isToken, row, isRow, owned⟩ := created other userId expiresAt token before
    obtain ⟨row', isRow', same⟩ := owner_step effect isRow
    exact ⟨isToken, row', isRow', same.trans owned⟩

theorem mem_findUnrevokedSessions {exceptSessionId : Option SessionId} :
    id ∈ findUnrevokedSessions s userId exceptSessionId ↔
      ∃ session, s.sessions.lookup id = some session ∧ session.userId = userId ∧ session.revokedAt = none ∧
        exceptSessionId ≠ some id := by
  simp [findUnrevokedSessions, Table.mem_rows, and_assoc]

theorem unrevoked_effect {exceptSessionId : Option SessionId} {ids : List SessionId}
    (effect : Effect pid s ⟨.findUnrevokedSessions userId exceptSessionId, .ok ids⟩ s') :
    ids = findUnrevokedSessions s userId exceptSessionId ∧ s'.sessions = s.sessions := by
  cases effect with
  | unrevoked sessions => exact ⟨rfl, sessions⟩
  | revoked isRevocation => cases isRevocation
  | neutral neutral => cases neutral

/-- The sessions that a call revokes are revoked after it. -/
theorem revokes_effect {value : call.Reply} (effect : Effect pid s ⟨call, .ok value⟩ s')
    (found : s.sessions.lookup id = some session) (revokes : call.revokes id session) : Revoked s' id := by
  obtain ⟨row, isRow⟩ := effect.stays found
  refine ⟨row, isRow, ?_⟩
  cases effect.row isRow with
  | created own fresh => cases found.symm.trans fresh
  | rotated isOld unrevoked isMade =>
    cases isMade
    cases revokes
  | revoked isOld isRevoked => exact isRevoked
  | same isOld spared =>
    cases found.symm.trans isOld
    cases (spared ⟨value, rfl⟩).symm.trans revokes

/-! ## Swaps -/

/-- A swap was made before, or it is the latest call. -/
theorem rotated_before (rotated : Rotated token (Logged.past ⟨s', (pid, made) :: x.history⟩ other)) :
    Rotated token (x.past other) ∨ other = pid ∧ ∃ sub fid expiresAt count newToken,
      made = ⟨.rotateSessionAtomic token.sid token sub fid expiresAt, .ok (count, newToken)⟩ ∧ count ≠ 0 := by
  obtain ⟨sub, fid, expiresAt, count, newToken, member, swapped⟩ := rotated
  rcases Logged.mem_past_cons.mp member with ⟨same, rfl⟩ | before
  · exact .inr ⟨rfl, sub, fid, expiresAt, count, newToken, same.symm, swapped⟩
  · exact .inl ⟨sub, fid, expiresAt, count, newToken, before, swapped⟩

/-- What a swap did: the row held the token, and holds a new one. -/
theorem swap_effect {expected newToken : RefreshToken} {sub : UserId} {fid : FamilyId} {expiresAt : Time} {count : ℕ}
    (effect : Effect pid s ⟨.rotateSessionAtomic id expected sub fid expiresAt, .ok (count, newToken)⟩ s')
    (swapped : count ≠ 0) : newToken = ⟨sub, id, fid, pid⟩ ∧ ∃ session, s.sessions.lookup id = some session ∧
      session.refreshHash = expected ∧ session.revokedAt = none ∧
      s'.sessions = s.sessions.insert id { session with refreshHash := newToken, expiresAt } := by
  cases effect with
  | rotated found held unrevoked sessions => exact ⟨rfl, _, found, held, unrevoked, sessions⟩
  | stale => exact (swapped rfl).elim
  | revoked isRevocation => cases isRevocation
  | neutral neutral => cases neutral

/-- From some history on, the session is revoked and its tokens stay as they are. -/
structure Settled (id : SessionId) (since x : History) : Prop where
  revoked : Revoked x.store id
  swaps : ∀ pid token, token.sid = id → Rotated token (x.past pid) → Rotated token (since.past pid)

theorem settled_step {since : History} (settled : Settled id since x) (makes : Makes pid call x.store reply s') :
    Settled id since ⟨s', (pid, ⟨call, reply⟩) :: x.history⟩ where
  revoked := revoked_step makes.effect settled.revoked
  swaps other token isSid rotated := by
    rcases rotated_before rotated with before | ⟨rfl, sub, fid, expiresAt, count, newToken, same, swapped⟩
    · exact settled.swaps other token isSid before
    · have effect := makes.effect
      rw [same] at effect
      obtain ⟨-, row, isRow, -, unrevoked, -⟩ := swap_effect effect swapped
      obtain ⟨session, found, isRevoked⟩ := settled.revoked
      rw [isSid] at isRow
      cases isRow.symm.trans found
      exact (isRevoked unrevoked).elim

theorem settled_run {since : History} (run : Logged.Run interleaved (IsRequest config requests) Initial pool)
    (steps : Relation.ReflTransGen (Pool.Step (Logged.protocol interleaved) (IsRequest config requests)) pool pool')
    (settled : Settled id since pool.store) : Settled id since pool'.store := by
  have step : ∀ (x : History) (pid : ℕ) (call : AuthCall) (reply : Except Failure call.Reply) (s' : Store),
      Settled id since x → May config (requests pid) (x.past pid) call → interleaved pid call x reply s' →
        Settled id since ⟨s', (pid, ⟨call, reply⟩) :: x.history⟩ :=
    fun x pid call reply s' settled call' makes => settled_step settled makes
  exact Logged.Run.keeps (isRequest_obeys requests) step run steps settled

end Exchange.Auth
