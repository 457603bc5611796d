import Exchange.AuthSessions

/-! One active session for a user. A login issues its session, looks for the
others and revokes those it finds. Of two logins the one that looks last sees
the session of the other; but two that both look last revoke each other. -/
namespace Exchange.Auth.SingleSession
open Ledger (UserId)
open Service

variable {config : Config} {requests : ℕ → Request} {x : History} {pid other : ℕ} {call : AuthCall}
  {reply : Except Failure call.Reply} {s s' : Store} {id : SessionId} {session : AuthSession}
  {userId : UserId} {expiresAt : Time} {token : RefreshToken} {past : Past} {pool : AuthPool}
  {made : Answered AuthCall AuthCall.Reply Failure}

/-- A login that sweeps has an answer to each call, and its own session is not
revoked when it revokes the others. -/
def sweeps (pid : ℕ) (s : Store) : Answered AuthCall AuthCall.Reply Failure → Bool
  | ⟨.findOtherActiveSessions _ _, reply⟩ => reply.isOk
  | ⟨.findUnrevokedSessions _ _, reply⟩ => reply.isOk
  | ⟨.revokeSessions _, reply⟩ => reply.isOk && (s.sessions.lookup pid).any fun session => session.revokedAt.isNone
  | _ => true

def followed (pid : ℕ) (call : AuthCall) (x : History) (reply : Except Failure call.Reply) (s' : Store) : Prop :=
  Makes pid call x.store reply s' ∧ sweeps pid x.store ⟨call, reply⟩

/-- The request has issued a session of this user, until this time. -/
def Issued (x : History) (pid : ℕ) (userId : UserId) (expiresAt : Time) : Prop :=
  ∃ token, ⟨.createSession userId expiresAt, .ok token⟩ ∈ x.past pid

def Active (s : Store) (userId : UserId) (id : SessionId) : Prop :=
  ∃ session, s.sessions.lookup id = some session ∧ session.userId = userId ∧ session.isActive s.now

/-- When all requests have ended, whoever has logged in has one active session,
of one of the logins. -/
def OneActive (pool : AuthPool) : Prop :=
  pool.Quiet → ∀ userId, (∃ pid expiresAt, Issued pool.store pid userId expiresAt) →
    ∃ id, Active pool.store.store userId id ∧ (∀ other, Active pool.store.store userId other → other = id) ∧
      ∃ expiresAt, Issued pool.store id userId expiresAt

/-! ## Calls of a login -/

def Looked (userId : UserId) (past : Past) : Prop :=
  ∃ id others, ⟨.findOtherActiveSessions userId id, .ok others⟩ ∈ past

/-- The sessions that a request has just found. -/
def found : Answered AuthCall AuthCall.Reply Failure → List SessionId
  | ⟨.findOtherActiveSessions _ _, .ok others⟩ => others
  | ⟨.findUnrevokedSessions _ _, .ok ids⟩ => ids
  | _ => []

/-- The request is about to revoke the session, unless it is revoked already. -/
def Pending (past : Past) (id : SessionId) : Prop := ∃ made, past.head? = some made ∧ id ∈ found made

def Dead (s : Store) (id : SessionId) : Prop :=
  ∃ session, s.sessions.lookup id = some session ∧ session.isActive s.now = false

theorem Pending.not_free (pending : Pending past id) : ¬Free past := by
  obtain ⟨made, isHead, member⟩ := pending
  simp only [Free, isHead, Option.all_some, Bool.not_eq_true', Bool.not_eq_false]
  unfold found at member
  split at member
  · exact (by simpa [owes] using List.ne_nil_of_mem member)
  · exact (by simpa [owes] using List.ne_nil_of_mem member)
  · cases member

/-- What a login does to sessions. -/
inductive Move (past : Past) : AuthCall → Prop
  | neutral {call : AuthCall} (neutral : call.isNeutral) (free : Free past) : Move past call
  | create {userId : UserId} {expiresAt : Time} (free : Free past) : Move past (.createSession userId expiresAt)
  | look {userId : UserId} {expiresAt : Time} {token : RefreshToken} {rest : Past}
      (created : past = ⟨.createSession userId expiresAt, .ok token⟩ :: rest) :
      Move past (.findOtherActiveSessions userId token.sid)
  | find {userId : UserId} {expiresAt : Time} {token : RefreshToken} {others : List SessionId} {rest : Past}
      (looked : past = ⟨.findOtherActiveSessions userId token.sid, .ok others⟩ ::
        ⟨.createSession userId expiresAt, .ok token⟩ :: rest) :
      Move past (.findUnrevokedSessions userId (some token.sid))
  | revoke {userId : UserId} {expiresAt : Time} {token : RefreshToken} {others ids : List SessionId} {rest : Past}
      (listed : past = ⟨.findUnrevokedSessions userId (some token.sid), .ok ids⟩ ::
        ⟨.findOtherActiveSessions userId token.sid, .ok others⟩ ::
        ⟨.createSession userId expiresAt, .ok token⟩ :: rest) : Move past (.revokeSessions ids)

theorem may_move {request : Request} (isLogin : request.isLogin) (call' : May config request past call) :
    Move past call := by
  cases call' with
  | neutral neutral free => exact .neutral neutral free
  | createSession isLogin admitted free => exact .create free
  | findOtherActiveSessions isLogin => exact .look rfl
  | findOthers isLogin => exact .find rfl
  | revokeOthers isLogin => exact .revoke rfl
  | findAll other free => cases isLogin.symm.trans other
  | revokeAll other => cases isLogin.symm.trans other
  | rotate isRefresh read unswapped free =>
    rw [isRefresh] at isLogin
    cases isLogin
  | revokeFamily isRefresh free =>
    rw [isRefresh] at isLogin
    cases isLogin
  | revokeSession isLogout free =>
    rw [isLogout] at isLogin
    cases isLogin
  | revokeSessionForUser isRequest free =>
    rw [isRequest] at isLogin
    cases isLogin

theorem look_effect {others : List SessionId}
    (effect : Effect pid s ⟨.findOtherActiveSessions userId id, .ok others⟩ s') :
    others = findOtherActiveSessions s' userId id ∧ s'.sessions = s.sessions := by
  cases effect with
  | others sessions => exact ⟨rfl, sessions⟩
  | revoked isRevocation => cases isRevocation
  | neutral neutral => cases neutral

theorem mem_findOtherActiveSessions {exceptSessionId : SessionId} :
    id ∈ findOtherActiveSessions s userId exceptSessionId ↔
      ∃ session, s.sessions.lookup id = some session ∧ session.userId = userId ∧ id ≠ exceptSessionId ∧
        session.isActive s.now := by
  simp [findOtherActiveSessions, Table.mem_rows, and_assoc]

/-- Logins do not change a row, except that it is revoked. -/
theorem row_step {row : AuthSession} (move : Move past call) (effect : Effect pid s ⟨call, reply⟩ s')
    (isRow : s.sessions.lookup id = some row) : ∃ revokedAt, s'.sessions.lookup id = some { row with revokedAt } ∧
      (revokedAt = row.revokedAt ∨ revokedAt ≠ none ∧ ∃ ids, call = .revokeSessions ids ∧ id ∈ ids) := by
  obtain ⟨row', isRow'⟩ := effect.stays isRow
  cases effect.row isRow' with
  | created own fresh => cases isRow.symm.trans fresh
  | rotated isOld unrevoked isMade =>
    cases isMade
    cases move with
    | neutral neutral => cases neutral
  | @revoked old revokedAt isOld isRevoked isRevocation revokes =>
    cases isRow.symm.trans isOld
    refine ⟨revokedAt, isRow', .inr ⟨isRevoked, ?_⟩⟩
    cases move with
    | neutral neutral => cases (isRevocation_of_isNeutral neutral).symm.trans isRevocation
    | create | look | find => cases isRevocation
    | @revoke userId expiresAt token others ids rest listed =>
      exact ⟨ids, rfl, by simpa [AuthCall.revokes] using revokes⟩
  | same isOld =>
    cases isRow.symm.trans isOld
    exact ⟨row.revokedAt, isRow', .inl rfl⟩

/-- A session that is not active does not become active. -/
theorem dead_step (move : Move past call) (makes : Makes pid call s reply s') (dead : Dead s id) : Dead s' id := by
  obtain ⟨row, isRow, inactive⟩ := dead
  obtain ⟨revokedAt, isRow', same | ⟨isRevoked, -⟩⟩ := row_step move makes.effect isRow
  · refine ⟨_, isRow', ?_⟩
    have clock := makes.clock
    simp only [AuthSession.isActive, Bool.and_eq_false_iff, decide_eq_false_iff_not, not_lt, same] at inactive ⊢
    exact inactive.imp_right fun expired => expired.trans clock
  · refine ⟨_, isRow', ?_⟩
    simp [AuthSession.isActive, isRevoked]

theorem dead_of_revoked (revoked : Revoked s id) : Dead s id := by
  obtain ⟨row, isRow, isRevoked⟩ := revoked
  exact ⟨row, isRow, by simp [AuthSession.isActive, isRevoked]⟩

/-! ## Runs -/

/-- A session that another login has seen to. -/
def Handled (x : History) (pid : ℕ) (id : SessionId) : Prop := Dead x.store id ∨ Pending (x.past pid) id

/-- A login that has not looked for other sessions yet. -/
def Unlooked (x : History) (pid : ℕ) : Prop :=
  (∃ userId expiresAt, Issued x pid userId expiresAt) ∧ ∀ userId, ¬Looked userId (x.past pid)

structure Kept (x : History) : Prop where
  row : ∀ pid userId expiresAt token, ⟨.createSession userId expiresAt, .ok token⟩ ∈ x.past pid →
    token = firstToken userId pid ∧
      ∃ revokedAt, x.store.sessions.lookup pid = some ⟨userId, token, pid, expiresAt, revokedAt⟩
  looked : ∀ pid userId, Looked userId (x.past pid) → ∃ expiresAt, Issued x pid userId expiresAt
  listed : ∀ pid userId exceptSessionId ids,
    ⟨.findUnrevokedSessions userId exceptSessionId, .ok ids⟩ ∈ x.past pid → ∀ id ∈ ids, exceptSessionId ≠ some id ∧
      ∃ session, x.store.sessions.lookup id = some session ∧ session.userId = userId
  looks : ∀ pid userId expiresAt, Issued x pid userId expiresAt →
    (∃ token, (x.past pid).head? = some ⟨.createSession userId expiresAt, .ok token⟩) ∨ Looked userId (x.past pid)
  pairs : ∀ pid id userId session, Looked userId (x.past pid) → x.store.sessions.lookup id = some session →
    session.userId = userId → id ≠ pid →
    Handled x pid id ∨ (∃ expiresAt, Issued x id userId expiresAt) ∧ Handled x id pid ∨ Unlooked x id
  alive : ∀ userId, (∃ pid expiresAt, Issued x pid userId expiresAt) → ∃ pid expiresAt, Issued x pid userId expiresAt ∧
    ∃ session, x.store.sessions.lookup pid = some session ∧ session.revokedAt = none

theorem kept_initial : Kept ⟨s, []⟩ where
  row pid userId expiresAt token member := by cases member
  looked pid userId looked := by
    obtain ⟨_, _, member⟩ := looked
    cases member
  listed pid userId exceptSessionId ids member := by cases member
  looks pid userId expiresAt issued := by
    obtain ⟨_, member⟩ := issued
    cases member
  pairs pid id userId session looked := by
    obtain ⟨_, _, member⟩ := looked
    cases member
  alive userId issued := by
    obtain ⟨_, _, _, member⟩ := issued
    cases member

theorem Issued.before (issued : Issued ⟨s', (pid, made) :: x.history⟩ other userId expiresAt) :
    Issued x other userId expiresAt ∨
      other = pid ∧ ∃ token, made = ⟨.createSession userId expiresAt, .ok token⟩ := by
  obtain ⟨token, member⟩ := issued
  rcases Logged.mem_past_cons.mp member with ⟨same, rfl⟩ | before
  · exact .inr ⟨rfl, token, same.symm⟩
  · exact .inl ⟨token, before⟩

theorem Issued.later (issued : Issued x other userId expiresAt) :
    Issued ⟨s', (pid, made) :: x.history⟩ other userId expiresAt := by
  obtain ⟨token, member⟩ := issued
  exact ⟨token, Logged.mem_past_cons.mpr (.inr member)⟩

theorem looked_before (looked : Looked userId (Logged.past ⟨s', (pid, made) :: x.history⟩ other)) :
    Looked userId (x.past other) ∨
      other = pid ∧ ∃ id others, made = ⟨.findOtherActiveSessions userId id, .ok others⟩ := by
  obtain ⟨id, others, member⟩ := looked
  rcases Logged.mem_past_cons.mp member with ⟨same, rfl⟩ | before
  · exact .inr ⟨rfl, id, others, same.symm⟩
  · exact .inl ⟨id, others, before⟩

theorem Kept.issued_row (kept : Kept x) (issued : Issued x pid userId expiresAt) :
    ∃ revokedAt, x.store.sessions.lookup pid = some ⟨userId, firstToken userId pid, pid, expiresAt, revokedAt⟩ := by
  obtain ⟨token, member⟩ := issued
  obtain ⟨rfl, isRow⟩ := kept.row pid userId expiresAt token member
  exact isRow

/-- A login issues one session, for one user. -/
theorem Kept.one (kept : Kept x) {userId' : UserId} {expiresAt' : Time} (issued : Issued x pid userId expiresAt)
    (issued' : Issued x pid userId' expiresAt') : userId' = userId := by
  obtain ⟨_, isRow⟩ := kept.issued_row issued
  obtain ⟨_, isRow'⟩ := kept.issued_row issued'
  cases isRow.symm.trans isRow'
  rfl

/-- A session that was seen to is revoked in the end. -/
theorem Kept.handled_step (kept : Kept x) (move : Move (x.past pid) call)
    (makes : Makes pid call x.store reply s') (kept' : sweeps pid x.store ⟨call, reply⟩)
    (issued : Issued x other userId expiresAt) (isRow : x.store.sessions.lookup id = some session)
    (owned : session.userId = userId) (ne : id ≠ other) (handled : Handled x other id) :
    Handled ⟨s', (pid, ⟨call, reply⟩) :: x.history⟩ other id := by
  rcases handled with dead | pending
  · exact .inl (dead_step move makes dead)
  by_cases own : other = pid
  · subst own
    obtain ⟨made, isHead, member⟩ := pending
    cases move with
    | neutral neutral free => exact (Pending.not_free ⟨made, isHead, member⟩ free).elim
    | create free => exact (Pending.not_free ⟨made, isHead, member⟩ free).elim
    | look created =>
      rw [created] at isHead
      cases isHead
      cases member
    | @find user expiry token others rest looked =>
      have created : ⟨.createSession user expiry, .ok token⟩ ∈ x.past other := by
        rw [looked]
        exact List.mem_cons_of_mem _ List.mem_cons_self
      obtain ⟨rfl, -⟩ := kept.row other user expiry token created
      cases kept.one issued ⟨_, created⟩
      cases reply with
      | error failure => cases kept'
      | ok ids =>
        obtain ⟨rfl, sessions⟩ := unrevoked_effect makes.effect
        by_cases unrevoked : session.revokedAt = none
        · refine .inr ⟨_, by rw [Logged.past_self]; rfl, mem_findUnrevokedSessions.mpr ?_⟩
          exact ⟨session, isRow, owned, unrevoked, fun same => ne (Option.some.inj same).symm⟩
        · refine .inl (dead_of_revoked ⟨session, ?_, unrevoked⟩)
          exact (congrArg _ sessions).trans isRow
    | @revoke user _ token _ ids rest listed =>
      rw [listed] at isHead
      cases isHead
      cases reply with
      | error failure => cases kept'
      | ok value =>
        have revokes : (AuthCall.revokeSessions ids).revokes id session := by
          simpa [AuthCall.revokes, found] using member
        exact .inl (dead_of_revoked (revokes_effect makes.effect isRow revokes))
  · refine .inr ?_
    rwa [Logged.past_ne _ own]

/-- A login that looks sees to every other session there is. -/
theorem handled_of_look {others : List SessionId} {exceptSessionId : SessionId}
    (effect : Effect pid x.store ⟨.findOtherActiveSessions userId exceptSessionId, .ok others⟩ s')
    (own : exceptSessionId = pid) (isRow : x.store.sessions.lookup id = some session)
    (owned : session.userId = userId) (ne : id ≠ pid) :
    Handled ⟨s', (pid, ⟨.findOtherActiveSessions userId exceptSessionId, .ok others⟩) :: x.history⟩ pid id := by
  obtain ⟨rfl, sessions⟩ := look_effect effect
  have isRow' : s'.sessions.lookup id = some session := by rw [sessions, isRow]
  cases active : session.isActive s'.now with
  | false => exact .inl ⟨session, isRow', active⟩
  | true =>
    refine .inr ⟨_, by rw [Logged.past_self]; rfl, mem_findOtherActiveSessions.mpr ?_⟩
    rw [own]
    exact ⟨session, isRow', owned, ne, active⟩

/-- A login looks for the sessions of its own user. -/
theorem Kept.look (kept : Kept x) (move : Move (x.past pid) (.findOtherActiveSessions userId id)) :
    id = pid ∧ ∃ expiresAt, Issued x pid userId expiresAt := by
  cases move with
  | neutral neutral => cases neutral
  | @look _ expiry token rest created =>
    have isCreated : ⟨.createSession userId expiry, .ok token⟩ ∈ x.past pid := by
      rw [created]
      exact List.mem_cons_self
    obtain ⟨rfl, -⟩ := kept.row pid userId expiry token isCreated
    exact ⟨rfl, expiry, _, isCreated⟩

/-- A session that is new has not looked yet. -/
theorem Kept.unlooked_of_new (kept : Kept x) (makes : Makes pid call x.store reply s')
    (before : x.store.sessions.lookup id = none) (isRow : s'.sessions.lookup id = some session) :
    Unlooked ⟨s', (pid, ⟨call, reply⟩) :: x.history⟩ id := by
  cases makes.effect.row isRow with
  | @created userId expiresAt own fresh isMade =>
    subst own
    refine ⟨⟨userId, expiresAt, _, Logged.mem_past_cons.mpr (.inl ⟨isMade.symm, rfl⟩)⟩, fun user looked => ?_⟩
    rcases looked_before looked with earlier | ⟨-, exceptSessionId, others, same⟩
    · obtain ⟨expiry, issued⟩ := kept.looked id user earlier
      obtain ⟨revokedAt, isOld⟩ := kept.issued_row issued
      cases before.symm.trans isOld
    · cases isMade.symm.trans same
  | rotated isOld | revoked isOld | same isOld => cases before.symm.trans isOld

theorem Kept.pairs_step (kept : Kept x) (move : Move (x.past pid) call) (makes : Makes pid call x.store reply s')
    (kept' : sweeps pid x.store ⟨call, reply⟩)
    (looked : Looked userId (Logged.past ⟨s', (pid, ⟨call, reply⟩) :: x.history⟩ other))
    (isRow : s'.sessions.lookup id = some session) (owned : session.userId = userId) (ne : id ≠ other) :
    Handled ⟨s', (pid, ⟨call, reply⟩) :: x.history⟩ other id ∨
      (∃ expiresAt, Issued ⟨s', (pid, ⟨call, reply⟩) :: x.history⟩ id userId expiresAt) ∧
        Handled ⟨s', (pid, ⟨call, reply⟩) :: x.history⟩ id other ∨
      Unlooked ⟨s', (pid, ⟨call, reply⟩) :: x.history⟩ id := by
  cases before : x.store.sessions.lookup id with
  | none => exact .inr (.inr (kept.unlooked_of_new makes before isRow))
  | some old =>
    have isOwner : old.userId = userId := by
      obtain ⟨revokedAt, isRow', -⟩ := row_step move makes.effect before
      cases isRow'.symm.trans isRow
      exact owned
    rcases looked_before looked with earlier | ⟨rfl, exceptSessionId, others, same⟩
    · obtain ⟨expiresAt, issued⟩ := kept.looked other userId earlier
      rcases kept.pairs other id userId old earlier before isOwner ne with
        handled | ⟨⟨expiry, issued'⟩, handled⟩ | ⟨⟨user, expiry, issued'⟩, unlooked⟩
      · exact .inl (kept.handled_step move makes kept' issued before isOwner ne handled)
      · obtain ⟨revokedAt, isOther⟩ := kept.issued_row issued
        exact .inr (.inl ⟨⟨expiry, issued'.later⟩,
          kept.handled_step move makes kept' issued' isOther rfl ne.symm handled⟩)
      · by_cases looksNow : ∃ user, Looked user (Logged.past ⟨s', (pid, ⟨call, reply⟩) :: x.history⟩ id)
        · obtain ⟨user', looked'⟩ := looksNow
          rcases looked_before looked' with earlier' | ⟨rfl, exceptSessionId, others, same⟩
          · exact (unlooked user' earlier').elim
          cases same
          obtain ⟨own, expiry', issued''⟩ := kept.look move
          have isUser : old.userId = user' := by
            obtain ⟨revokedAt, isOld⟩ := kept.issued_row issued''
            cases isOld.symm.trans before
            rfl
          cases isOwner.symm.trans isUser
          obtain ⟨revokedAt, isOther⟩ := kept.issued_row issued
          exact .inr (.inl ⟨⟨expiry', issued''.later⟩, handled_of_look makes.effect own isOther rfl ne.symm⟩)
        · exact .inr (.inr ⟨⟨user, expiry, issued'.later⟩, fun user looked => looksNow ⟨user, looked⟩⟩)
    · cases same
      obtain ⟨own, -⟩ := kept.look move
      exact .inl (handled_of_look makes.effect own before isOwner ne)

/-- The sessions that a login revokes are of its user, and its own is not among them. -/
theorem Kept.revokes (kept : Kept x) {ids : List SessionId} (move : Move (x.past pid) (.revokeSessions ids)) :
    ∃ userId expiresAt, Issued x pid userId expiresAt ∧ ∀ id ∈ ids, id ≠ pid ∧
      ∃ session, x.store.sessions.lookup id = some session ∧ session.userId = userId := by
  cases move with
  | neutral neutral => cases neutral
  | @revoke userId expiresAt token others _ rest listed =>
    have created : ⟨.createSession userId expiresAt, .ok token⟩ ∈ x.past pid := by
      rw [listed]
      simp
    have isListed : ⟨.findUnrevokedSessions userId (some token.sid), .ok ids⟩ ∈ x.past pid := by
      rw [listed]
      exact List.mem_cons_self
    obtain ⟨rfl, -⟩ := kept.row pid userId expiresAt token created
    refine ⟨userId, expiresAt, ⟨_, created⟩, fun id member => ?_⟩
    obtain ⟨ne, row⟩ := kept.listed pid userId _ ids isListed id member
    exact ⟨fun same => ne (by rw [same]; rfl), row⟩

theorem Kept.alive_step (kept : Kept x) (move : Move (x.past pid) call) (makes : Makes pid call x.store reply s')
    (kept' : sweeps pid x.store ⟨call, reply⟩)
    (issued : Issued ⟨s', (pid, ⟨call, reply⟩) :: x.history⟩ other userId expiresAt) :
    ∃ other expiresAt, Issued ⟨s', (pid, ⟨call, reply⟩) :: x.history⟩ other userId expiresAt ∧
      ∃ session, s'.sessions.lookup other = some session ∧ session.revokedAt = none := by
  rcases issued.before with earlier | ⟨rfl, token, same⟩
  · obtain ⟨first, expiry, issued', row, isRow, unrevoked⟩ := kept.alive userId ⟨other, expiresAt, earlier⟩
    obtain ⟨revokedAt, isRow', rfl | ⟨-, ids, rfl, member⟩⟩ := row_step move makes.effect isRow
    · exact ⟨first, expiry, issued'.later, _, isRow', unrevoked⟩
    -- the login that revokes this session keeps its own
    obtain ⟨user, expiry', own, revokes⟩ := kept.revokes move
    obtain ⟨-, row', isRow'', isUser⟩ := revokes first member
    obtain ⟨_, isFirst⟩ := kept.issued_row issued'
    cases isRow''.symm.trans isFirst
    subst isUser
    simp only [sweeps, Bool.and_eq_true, Option.any_eq_true] at kept'
    obtain ⟨-, mine, isMine, unrevoked⟩ := kept'
    obtain ⟨revokedAt', isMine', rfl | ⟨-, ids', same, member'⟩⟩ := row_step move makes.effect isMine
    · exact ⟨pid, expiry', own.later, _, isMine', by simpa using unrevoked⟩
    · cases same
      exact ((revokes pid member').1 rfl).elim
  · have effect := makes.effect
    rw [same] at effect
    obtain ⟨-, -, sessions⟩ := create_effect effect
    exact ⟨other, expiresAt, issued, _, by rw [sessions]; exact AList.lookup_insert _, rfl⟩

theorem Kept.looks_step (kept : Kept x) (move : Move (x.past pid) call)
    (kept' : sweeps pid x.store ⟨call, reply⟩)
    (issued : Issued ⟨s', (pid, ⟨call, reply⟩) :: x.history⟩ other userId expiresAt) :
    (∃ token, (Logged.past ⟨s', (pid, ⟨call, reply⟩) :: x.history⟩ other).head? =
      some ⟨.createSession userId expiresAt, .ok token⟩) ∨
      Looked userId (Logged.past ⟨s', (pid, ⟨call, reply⟩) :: x.history⟩ other) := by
  rcases issued.before with earlier | ⟨rfl, token, same⟩
  · rcases kept.looks other userId expiresAt earlier with ⟨token, isHead⟩ | ⟨exceptSessionId, others, member⟩
    · by_cases own : other = pid
      · subst own
        rw [Logged.past_self]
        cases move with
        | neutral neutral free => simp [Free, isHead, owes] at free
        | create free => simp [Free, isHead, owes] at free
        | look created =>
          rw [created] at isHead
          cases isHead
          cases reply with
          | error failure => cases kept'
          | ok others => exact .inr ⟨_, others, List.mem_cons_self⟩
        | find looked =>
          rw [looked] at isHead
          cases isHead
        | revoke listed =>
          rw [listed] at isHead
          cases isHead
      · rw [Logged.past_ne _ own]
        exact .inl ⟨token, isHead⟩
    · exact .inr ⟨exceptSessionId, others, Logged.mem_past_cons.mpr (.inr member)⟩
  · rw [Logged.past_self, same]
    exact .inl ⟨token, rfl⟩

theorem kept_step (kept : Kept x) (move : Move (x.past pid) call) (made : followed pid call x reply s') :
    Kept ⟨s', (pid, ⟨call, reply⟩) :: x.history⟩ where
  row other userId expiresAt token member := by
    rcases Logged.mem_past_cons.mp member with ⟨same, rfl⟩ | before
    · have effect := made.1.effect
      rw [← same] at effect
      obtain ⟨isToken, -, sessions⟩ := create_effect effect
      exact ⟨isToken, none, by rw [sessions]; exact AList.lookup_insert _⟩
    · obtain ⟨isToken, revokedAt, isRow⟩ := kept.row other userId expiresAt token before
      obtain ⟨revokedAt', isRow', -⟩ := row_step move made.1.effect isRow
      exact ⟨isToken, revokedAt', isRow'⟩
  looked other userId looked := by
    rcases looked_before looked with before | ⟨rfl, exceptSessionId, others, same⟩
    · obtain ⟨expiresAt, issued⟩ := kept.looked other userId before
      exact ⟨expiresAt, issued.later⟩
    · cases same
      obtain ⟨-, expiresAt, issued⟩ := kept.look move
      exact ⟨expiresAt, issued.later⟩
  listed other userId exceptSessionId ids member id isListed := by
    rcases Logged.mem_past_cons.mp member with ⟨same, rfl⟩ | before
    · have effect := made.1.effect
      rw [← same] at effect
      obtain ⟨rfl, sessions⟩ := unrevoked_effect effect
      obtain ⟨row, isRow, owned, -, ne⟩ := mem_findUnrevokedSessions.mp isListed
      exact ⟨ne, row, by rw [sessions, isRow], owned⟩
    · obtain ⟨ne, row, isRow, owned⟩ := kept.listed other userId exceptSessionId ids before id isListed
      obtain ⟨row', isRow', same⟩ := owner_step made.1.effect isRow
      exact ⟨ne, row', isRow', same.trans owned⟩
  looks other userId expiresAt issued := kept.looks_step move made.2 issued
  pairs other id userId session looked isRow owned ne := kept.pairs_step move made.1 made.2 looked isRow owned ne
  alive userId := fun ⟨other, expiresAt, issued⟩ => kept.alive_step move made.1 made.2 issued

theorem kept_run (logins : ∀ pid, (requests pid).isLogin)
    (run : Logged.Run followed (IsRequest config requests) (fun _ => True) pool) : Kept pool.store :=
  run.inv (isRequest_obeys requests) (fun _ _ => kept_initial) fun _ pid _ _ _ kept call' made =>
    kept_step kept (may_move (logins pid) call') made

/-- When logins keep their sessions while they revoke others, and no sweep is lost,
one session is active in the end. -/
theorem one_active (logins : ∀ pid, (requests pid).isLogin)
    (run : Logged.Run followed (IsRequest config requests) (fun _ => True) pool)
    (unexpired : ∀ pid userId expiresAt, Issued pool.store pid userId expiresAt → pool.store.store.now < expiresAt) :
    OneActive pool := by
  intro quiet userId someone
  have kept := kept_run logins run
  have free : ∀ pid, Free (pool.store.past pid) := by
    intro pid
    rcases (Logged.Run.orderly (isRequest_obeys requests) run).quiet quiet pid with nothing | ⟨result, ended⟩
    · rw [nothing]
      rfl
    · exact ended.1
  have looked : ∀ pid userId expiresAt, Issued pool.store pid userId expiresAt →
      Looked userId (pool.store.past pid) := by
    intro pid userId expiresAt issued
    rcases kept.looks pid userId expiresAt issued with ⟨token, isHead⟩ | looked
    · have isFree := free pid
      simp [Free, isHead, owes] at isFree
    · exact looked
  obtain ⟨id, expiresAt, issued, row, isRow, unrevoked⟩ := kept.alive userId someone
  obtain ⟨revokedAt, isRow'⟩ := kept.issued_row issued
  cases isRow.symm.trans isRow'
  have active : Active pool.store.store userId id := by
    have isNone : revokedAt = none := unrevoked
    refine ⟨_, isRow, rfl, ?_⟩
    simpa [AuthSession.isActive, isNone] using unexpired id userId expiresAt issued
  refine ⟨id, active, ?_, expiresAt, issued⟩
  rintro other ⟨session, isOther, owned, isActive⟩
  by_contra ne
  have alive : ∀ {id : SessionId} {pid : ℕ}, Active pool.store.store userId id → ¬Handled pool.store pid id := by
    rintro id pid ⟨session, isRow, -, isActive⟩ (⟨session', isRow', inactive⟩ | pending)
    · cases isRow.symm.trans isRow'
      cases isActive.symm.trans inactive
    · exact pending.not_free (free pid)
  rcases kept.pairs id other userId session (looked id userId expiresAt issued) isOther owned ne with
    handled | ⟨-, handled⟩ | ⟨⟨user, expiry, issued'⟩, unlooked⟩
  · exact alive ⟨session, isOther, owned, isActive⟩ handled
  · exact alive active handled
  · exact unlooked user (looked other user expiry issued')

/-! ## Two logins of one user -/

private def twoLogins (_ : ℕ) : Request := .login ['a'] 5 noContext

private def isUnexpired (x : History) : Bool :=
  x.history.all fun made => match made.2 with
    | ⟨.createSession _ expiresAt, .ok _⟩ => x.store.now < expiresAt
    | _ => true

private theorem unexpired_of_isUnexpired (all : isUnexpired x) (issued : Issued x pid userId expiresAt) :
    x.store.now < expiresAt := by
  obtain ⟨token, member⟩ := issued
  exact of_decide_eq_true (List.all_eq_true.mp all _ (Logged.mem_past.mp member))

private def isIssued (userId : UserId) (expiresAt : Time) : Answered AuthCall AuthCall.Reply Failure → Bool
  | ⟨.createSession user expiry, .ok _⟩ => user = userId && expiry = expiresAt
  | _ => false

private theorem issued_of_isIssued (isAny : (x.past pid).any (isIssued userId expiresAt)) :
    Issued x pid userId expiresAt := by
  obtain ⟨made, member, isMade⟩ := List.any_eq_true.mp isAny
  unfold isIssued at isMade
  split at isMade
  · simp only [Bool.and_eq_true, decide_eq_true_eq] at isMade
    obtain ⟨rfl, rfl⟩ := isMade
    exact ⟨_, member⟩
  · cases isMade

/-- The second login comes after the first. -/
theorem one_active_later : ∃ pool : AuthPool, pool.Quiet ∧ Issued pool.store 2 7 1001 ∧ OneActive pool := by
  have played : (schedule smallConfig (fun _ => worldAt 1 (tablesWith 7 (plainUser 5))) (fun _ _ => false)
      (fun pid call x reply => sweeps pid x.store ⟨call, reply⟩) twoLogins [1, 2] [(1, 12), (2, 12)]
      (storeWith 7 (plainUser 5))).map (fun pool => (isUnexpired pool.store,
        (pool.store.past 2).any (isIssued 7 1001), pool.isQuiet)) = some (true, true, true) := by decide +kernel
  obtain ⟨pool, scheduled, facts⟩ := Option.map_eq_some_iff.mp played
  simp only [Prod.mk.injEq] at facts
  obtain ⟨unexpired, issued, quiet⟩ := facts
  have run : Logged.Run followed (IsRequest smallConfig twoLogins) (fun _ => True) pool :=
    schedule_run trivial (fun _ _ _ _ _ kept makes => ⟨makes, kept⟩) scheduled
  exact ⟨pool, Pool.quiet_of_isQuiet quiet, issued_of_isIssued issued,
    one_active (fun _ => rfl) run fun _ _ _ => unexpired_of_isUnexpired unexpired⟩

/-- Each login finds the session of the other before its own is revoked. -/
theorem none_active : ¬∀ pool : AuthPool,
    Logged.Run interleaved (IsRequest smallConfig twoLogins) (fun _ => True) pool →
      (∀ pid userId expiresAt, Issued pool.store pid userId expiresAt → pool.store.store.now < expiresAt) →
        OneActive pool := by
  intro one
  have played : (schedule smallConfig (fun _ => worldAt 1 (tablesWith 7 (plainUser 5))) (fun _ _ => false)
      (fun _ _ _ _ => true) twoLogins [1, 2] [(1, 8), (2, 10), (1, 9), (2, 9)]
      (storeWith 7 (plainUser 5))).map (fun pool => (isUnexpired pool.store,
        (pool.store.past 2).any (isIssued 7 1001), pool.isQuiet,
        pool.store.store.sessions.rows.all fun row => row.2.revokedAt.isSome)) =
      some (true, true, true, true) := by decide +kernel
  obtain ⟨pool, scheduled, facts⟩ := Option.map_eq_some_iff.mp played
  simp only [Prod.mk.injEq] at facts
  obtain ⟨unexpired, issued, quiet, revoked⟩ := facts
  have run : Logged.Run interleaved (IsRequest smallConfig twoLogins) (fun _ => True) pool :=
    schedule_run trivial (fun _ _ _ _ _ _ makes => makes) scheduled
  obtain ⟨id, ⟨session, found, -, isActive⟩, -⟩ := one pool run (fun _ _ _ => unexpired_of_isUnexpired unexpired)
    (Pool.quiet_of_isQuiet quiet) 7 ⟨2, 1001, issued_of_isIssued issued⟩
  have isRevoked := List.all_eq_true.mp revoked (id, session) (Table.mem_rows.mpr found)
  simp only [AuthSession.isActive, Bool.and_eq_true, Option.isNone_iff_eq_none] at isActive
  simp [isActive.1] at isRevoked

end Exchange.Auth.SingleSession
