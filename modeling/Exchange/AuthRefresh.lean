import Exchange.AuthSessions

/-! Refresh tokens are rotated. The row of a session holds the hash of one
token, and every token is new, so a token that was swapped is never held again;
whoever presents it afterwards revokes the session. -/
namespace Exchange.Auth.Refresh
open Ledger (UserId)
open Service

variable {config : Config} {requests : ℕ → Request} {x : History} {pid other : ℕ} {call : AuthCall}
  {reply : Except Failure call.Reply} {s s' : Store} {id : SessionId} {session : AuthSession}
  {token token' : RefreshToken} {past : Past} {made : Answered AuthCall AuthCall.Reply Failure}
  {pool pool' : AuthPool}

/-- A token that was handed out, by a login or by a refresh. -/
def Issued (x : History) (token : RefreshToken) : Prop :=
  ∃ pid, (∃ userId expiresAt, ⟨.createSession userId expiresAt, .ok token⟩ ∈ x.past pid) ∨
    ∃ id expected sub fid expiresAt count,
      ⟨.rotateSessionAtomic id expected sub fid expiresAt, .ok (count, token)⟩ ∈ x.past pid ∧ count ≠ 0

def Used (x : History) (token : RefreshToken) : Prop := ∃ pid, Rotated token (x.past pid)

/-- The request has made a token. -/
def Minted (past : Past) : Prop :=
  (∃ userId expiresAt token, ⟨.createSession userId expiresAt, .ok token⟩ ∈ past) ∨ ∃ token, Rotated token past

structure Kept (requests : ℕ → Request) (x : History) : Prop where
  logins : ∀ pid userId expiresAt token, ⟨.createSession userId expiresAt, .ok token⟩ ∈ x.past pid →
    (requests pid).isLogin
  shape : ∀ id session, x.store.sessions.lookup id = some session →
    session.refreshHash.sid = id ∧ session.refreshHash.fid = session.familyId ∧ session.familyId = id
  reads : ∀ pid id session, ⟨.findSessionById id, .ok (some session)⟩ ∈ x.past pid → session.familyId = id
  minted : ∀ id session, x.store.sessions.lookup id = some session → Minted (x.past session.refreshHash.jti)
  spent : ∀ pid token, Rotated token (x.past pid) → Minted (x.past token.jti) ∧ token.fid = token.sid ∧
    ∃ session, x.store.sessions.lookup token.sid = some session ∧ session.refreshHash ≠ token
  once : ∀ pid other token, Rotated token (x.past pid) → Rotated token (x.past other) → pid = other
  issued : ∀ token, Issued x token → Used x token ∨
    ∃ session, x.store.sessions.lookup token.sid = some session ∧ session.refreshHash = token

theorem kept_initial (opening : Opening s) : Kept requests ⟨s, []⟩ where
  logins pid userId expiresAt token member := by cases member
  shape id session found := by
    rw [opening] at found
    cases found
  reads pid id session member := by cases member
  minted id session found := by
    rw [opening] at found
    cases found
  spent pid token rotated := by
    obtain ⟨_, _, _, _, _, member, -⟩ := rotated
    cases member
  once pid other token rotated := by
    obtain ⟨_, _, _, _, _, member, -⟩ := rotated
    cases member
  issued token issued := by
    obtain ⟨pid, ⟨_, _, member⟩ | ⟨_, _, _, _, _, _, member, -⟩⟩ := issued
    · cases member
    · cases member

theorem Minted.grow {later : Past} (minted : Minted past) (grown : past <:+ later) : Minted later := by
  rcases minted with ⟨userId, expiresAt, token, member⟩ | ⟨token, rotated⟩
  · exact .inl ⟨userId, expiresAt, token, grown.subset member⟩
  · exact .inr ⟨token, rotated.grow grown⟩

theorem may_rotate {request : Request} {expected : RefreshToken} {sub : UserId} {fid : FamilyId} {expiresAt : Time}
    (call' : May config request past (.rotateSessionAtomic id expected sub fid expiresAt)) :
    request = .refresh expected ∧ ¬Swapped past ∧ ∃ session,
      ⟨.findSessionById id, .ok (some session)⟩ ∈ past ∧ fid = session.familyId := by
  cases call' with
  | neutral neutral => cases neutral
  | rotate isRefresh read unswapped free => exact ⟨isRefresh, unswapped, _, read, rfl⟩

/-- A request mints once: a refresh swaps once, and does not log in. -/
theorem Kept.unminted {expected : RefreshToken} {sub : UserId} {fid : FamilyId} {expiresAt : Time}
    (kept : Kept requests x)
    (call' : May config (requests pid) (x.past pid) (.rotateSessionAtomic id expected sub fid expiresAt)) :
    ¬Minted (x.past pid) := by
  obtain ⟨isRefresh, unswapped, -⟩ := may_rotate call'
  rintro (⟨userId, expiresAt, token, member⟩ | ⟨token, sub, fid, expiresAt, count, newToken, member, -⟩)
  · have isLogin := kept.logins pid userId expiresAt token member
    rw [isRefresh] at isLogin
    cases isLogin
  · exact unswapped ⟨_, _, _, _, _, _, member⟩

/-- A token that was swapped is not held after any further call. -/
theorem Kept.unheld (kept : Kept requests x) (call' : May config (requests pid) (x.past pid) call)
    (makes : Makes pid call x.store reply s') (used : Used x token)
    (found : s'.sessions.lookup token.sid = some session) : session.refreshHash ≠ token := by
  obtain ⟨user, rotated⟩ := used
  obtain ⟨minted, -, old, isOld, unheld⟩ := kept.spent user token rotated
  cases makes.effect.row found with
  | created own fresh => cases isOld.symm.trans fresh
  | rotated isRow unrevoked isMade =>
    cases isMade
    intro same
    rw [← same] at minted
    exact kept.unminted call' minted
  | revoked isRow =>
    cases isOld.symm.trans isRow
    exact unheld
  | same isRow =>
    cases isOld.symm.trans isRow
    exact unheld

/-- A row is as it was, or holds a token that was made just now. -/
theorem Kept.row (kept : Kept requests x) (call' : May config (requests pid) (x.past pid) call)
    (makes : Makes pid call x.store reply s') (found : s'.sessions.lookup id = some session) :
    session.refreshHash.sid = id ∧ session.refreshHash.fid = session.familyId ∧ session.familyId = id ∧
      Minted (Logged.past ⟨s', (pid, ⟨call, reply⟩) :: x.history⟩ session.refreshHash.jti) := by
  have earlier : ∀ row, x.store.sessions.lookup id = some row →
      row.refreshHash.sid = id ∧ row.refreshHash.fid = row.familyId ∧ row.familyId = id ∧
        Minted (Logged.past ⟨s', (pid, ⟨call, reply⟩) :: x.history⟩ row.refreshHash.jti) := by
    intro row isRow
    obtain ⟨isSid, isFid, isFamily⟩ := kept.shape id row isRow
    exact ⟨isSid, isFid, isFamily, (kept.minted id row isRow).grow (past_grows ..)⟩
  cases makes.effect.row found with
  | @created userId expiresAt own fresh isMade =>
    subst own
    cases isMade
    refine ⟨rfl, rfl, rfl, .inl ⟨userId, expiresAt, firstToken userId id, ?_⟩⟩
    exact Logged.mem_past_cons.mpr (.inl ⟨rfl, rfl⟩)
  | @rotated row sub fid expiresAt isRow unrevoked isMade =>
    obtain ⟨isSid, -, isFamily⟩ := kept.shape id row isRow
    cases isMade
    obtain ⟨-, -, read, isRead, rfl⟩ := may_rotate call'
    have isFid := kept.reads pid id read isRead
    refine ⟨rfl, isFid.trans isFamily.symm, isFamily, .inr ⟨row.refreshHash, sub, read.familyId, expiresAt, 1,
      ⟨sub, id, read.familyId, pid⟩, ?_, one_ne_zero⟩⟩
    rw [isSid]
    exact Logged.mem_past_cons.mpr (.inl ⟨rfl, rfl⟩)
  | @revoked row revokedAt isRow => exact earlier row isRow
  | same isRow => exact earlier session isRow

/-- A token that a row holds is held on, or was swapped just now. -/
theorem held_step (effect : Effect pid x.store made s') (found : x.store.sessions.lookup token.sid = some session)
    (held : session.refreshHash = token) : Used ⟨s', (pid, made) :: x.history⟩ token ∨
      ∃ session', s'.sessions.lookup token.sid = some session' ∧ session'.refreshHash = token := by
  obtain ⟨row, isRow⟩ := effect.stays found
  cases effect.row isRow with
  | created own fresh => cases found.symm.trans fresh
  | @rotated old sub fid expiresAt isOld unrevoked isMade =>
    cases found.symm.trans isOld
    rw [held] at isMade
    refine .inl ⟨pid, sub, fid, expiresAt, 1, ⟨sub, token.sid, fid, pid⟩, ?_, one_ne_zero⟩
    exact Logged.mem_past_cons.mpr (.inl ⟨isMade.symm, rfl⟩)
  | revoked isOld =>
    cases found.symm.trans isOld
    exact .inr ⟨_, isRow, held⟩
  | same isOld =>
    cases found.symm.trans isOld
    exact .inr ⟨_, isRow, held⟩

/-- The row of a session holds the token that was made last. -/
theorem issued_before (effect : Effect pid x.store made s') (issued : Issued ⟨s', (pid, made) :: x.history⟩ token) :
    Issued x token ∨ ∃ session, s'.sessions.lookup token.sid = some session ∧ session.refreshHash = token := by
  obtain ⟨other, ⟨userId, expiresAt, member⟩ | ⟨id, expected, sub, fid, expiresAt, count, member, swapped⟩⟩ := issued
  · rcases Logged.mem_past_cons.mp member with ⟨rfl, rfl⟩ | before
    · cases effect with
      | created fresh sessions => exact .inr ⟨_, by rw [sessions]; exact AList.lookup_insert _, rfl⟩
      | revoked isRevocation => cases isRevocation
      | neutral neutral => cases neutral
    · exact .inl ⟨other, .inl ⟨userId, expiresAt, before⟩⟩
  · rcases Logged.mem_past_cons.mp member with ⟨rfl, rfl⟩ | before
    · obtain ⟨rfl, row, -, -, -, sessions⟩ := swap_effect effect swapped
      exact .inr ⟨_, by rw [sessions]; exact AList.lookup_insert _, rfl⟩
    · exact .inl ⟨other, .inr ⟨id, expected, sub, fid, expiresAt, count, before, swapped⟩⟩

theorem kept_step (kept : Kept requests x) (call' : May config (requests pid) (x.past pid) call)
    (makes : Makes pid call x.store reply s') :
    Kept requests ⟨s', (pid, ⟨call, reply⟩) :: x.history⟩ where
  logins other userId expiresAt token member := by
    rcases Logged.mem_past_cons.mp member with ⟨same, rfl⟩ | before
    · cases same
      exact may_createSession call'
    · exact kept.logins other userId expiresAt token before
  shape id session found := by
    obtain ⟨isSid, isFid, isFamily, -⟩ := kept.row call' makes found
    exact ⟨isSid, isFid, isFamily⟩
  reads other id session member := by
    rcases Logged.mem_past_cons.mp member with ⟨same, rfl⟩ | before
    · have effect := makes.effect
      rw [← same] at effect
      cases effect with
      | neutral neutral read sessions => exact (kept.shape id session (read id _ rfl)).2.2
      | revoked isRevocation => cases isRevocation
    · exact kept.reads other id session before
  minted id session found := (kept.row call' makes found).2.2.2
  spent other token rotated := by
    rcases rotated_before rotated with before | ⟨rfl, sub, fid, expiresAt, count, newToken, same, swapped⟩
    · obtain ⟨minted, isFamily, old, isOld, -⟩ := kept.spent other token before
      obtain ⟨row, isRow⟩ := makes.effect.stays isOld
      exact ⟨minted.grow (past_grows ..), isFamily, row, isRow, kept.unheld call' makes ⟨other, before⟩ isRow⟩
    · cases same
      obtain ⟨isNew, old, isOld, rfl, -, sessions⟩ := swap_effect makes.effect swapped
      obtain ⟨-, isFid, isFamily⟩ := kept.shape _ old isOld
      have minted := kept.minted _ old isOld
      refine ⟨minted.grow (past_grows ..), isFid.trans isFamily, { old with refreshHash := newToken, expiresAt },
        by rw [sessions, AList.lookup_insert], ?_⟩
      intro held
      have own : old.refreshHash.jti = other := by rw [← held, isNew]
      rw [own] at minted
      exact kept.unminted call' minted
  once first second token rotated rotated' := by
    have unheld : ∀ {user sub fid expiresAt count newToken}, Rotated token (x.past user) →
        Effect pid x.store
          ⟨.rotateSessionAtomic token.sid token sub fid expiresAt, .ok (count, newToken)⟩ s' → count = 0 := by
      intro user sub fid expiresAt count newToken used effect
      by_contra swapped
      obtain ⟨-, row, isRow, held, -⟩ := swap_effect effect swapped
      obtain ⟨-, -, old, isOld, unheld⟩ := kept.spent user token used
      cases isOld.symm.trans isRow
      exact unheld held
    have effect := makes.effect
    rcases rotated_before rotated with before | ⟨rfl, sub, fid, expiresAt, count, newToken, same, swapped⟩
    · rcases rotated_before rotated' with before' | ⟨rfl, sub, fid, expiresAt, count, newToken, same, swapped⟩
      · exact kept.once first second token before before'
      · rw [same] at effect
        exact (swapped (unheld before effect)).elim
    · rcases rotated_before rotated' with before' | ⟨rfl, -⟩
      · rw [same] at effect
        exact (swapped (unheld before' effect)).elim
      · rfl
  issued token issued := by
    rcases issued_before makes.effect issued with before | held
    · rcases kept.issued token before with ⟨user, used⟩ | ⟨row, isRow, held⟩
      · exact .inl ⟨user, used.grow (past_grows ..)⟩
      · exact held_step makes.effect isRow held
    · exact .inr held

theorem kept_run (run : Logged.Run interleaved (IsRequest config requests) Opening pool) :
    Kept requests pool.store :=
  run.inv (isRequest_obeys requests) (fun _ => kept_initial) fun _ _ _ _ _ => kept_step

/-! ## Reuse -/

/-- Of a request that started after the token was used: no session that it read
held the token, and a family that it revoked stays revoked. -/
structure Late (token : RefreshToken) (pid : ℕ) (x : History) : Prop where
  used : Used x token
  reads : ∀ id session, ⟨.findSessionById id, .ok (some session)⟩ ∈ x.past pid → session.refreshHash ≠ token
  revoked : ⟨.revokeFamily token.sid, .ok ()⟩ ∈ x.past pid → Revoked x.store token.sid

theorem late_step (kept : Kept requests x) (late : Late token other x)
    (call' : May config (requests pid) (x.past pid) call) (makes : Makes pid call x.store reply s') :
    Late token other ⟨s', (pid, ⟨call, reply⟩) :: x.history⟩ where
  used := by
    obtain ⟨user, used⟩ := late.used
    exact ⟨user, used.grow (past_grows ..)⟩
  reads id session member := by
    rcases Logged.mem_past_cons.mp member with ⟨same, rfl⟩ | before
    · have effect := makes.effect
      rw [← same] at effect
      cases effect with
      | neutral neutral read sessions =>
        have found := read id _ rfl
        obtain ⟨user, used⟩ := late.used
        obtain ⟨-, -, old, isOld, unheld⟩ := kept.spent user token used
        intro held
        obtain ⟨isSid, -⟩ := kept.shape id session found
        rw [← isSid, held] at found
        cases isOld.symm.trans found
        exact unheld held
      | revoked isRevocation => cases isRevocation
    · exact late.reads id session before
  revoked member := by
    rcases Logged.mem_past_cons.mp member with ⟨same, rfl⟩ | before
    · obtain ⟨user, used⟩ := late.used
      obtain ⟨-, -, old, isOld, -⟩ := kept.spent user token used
      obtain ⟨row, isRow⟩ := makes.effect.stays isOld
      refine ⟨row, isRow, ?_⟩
      cases same
      cases makes.effect.row isRow with
      | created own fresh isMade => cases isMade
      | rotated found unrevoked isMade => cases isMade
      | revoked found isRevoked => exact isRevoked
      | same found spared =>
        have spared := spared ⟨(), rfl⟩
        have isFamily := (kept.shape token.sid row found).2.2
        intro unrevoked
        simp [AuthCall.revokes, isFamily, unrevoked] at spared
    · exact revoked_step makes.effect (late.revoked before)

theorem late_run (run : Logged.Run interleaved (IsRequest config requests) Opening pool)
    (steps : Relation.ReflTransGen (Pool.Step (Logged.protocol interleaved) (IsRequest config requests)) pool pool')
    (late : Kept requests pool.store ∧ Late token pid pool.store) :
    Kept requests pool'.store ∧ Late token pid pool'.store := by
  have step : ∀ (x : History) (pid' : ℕ) (call : AuthCall) (reply : Except Failure call.Reply) (s' : Store),
      Kept requests x ∧ Late token pid x → May config (requests pid') (x.past pid') call →
      interleaved pid' call x reply s' → Kept requests ⟨s', (pid', ⟨call, reply⟩) :: x.history⟩ ∧
        Late token pid ⟨s', (pid', ⟨call, reply⟩) :: x.history⟩ := by
    intro x pid' call reply s' ⟨kept, late⟩ call' makes
    exact ⟨kept_step kept call' makes, late_step kept late call' makes⟩
  exact Logged.Run.keeps (isRequest_obeys requests) step run steps late

/-- Why a refresh with a used token fails, and what it leaves. -/
theorem Late.refused (late : Late token pid x) (kept : Kept requests x) (refused : Refused token (x.past pid)) :
    Lost (x.past pid) ∨ Revoked x.store token.sid := by
  obtain ⟨user, used⟩ := late.used
  obtain ⟨-, isFamily, -⟩ := kept.spent user token used
  cases refused with
  | lost lost => exact .inl lost
  | family revoked =>
    rw [isFamily] at revoked
    exact .inr (late.revoked revoked)
  | session read revoked =>
    rw [kept.reads pid _ _ read] at revoked
    exact .inr (late.revoked revoked)
  | inactive read held => exact (late.reads _ _ read held).elim

/-- User 7 logs in, and the first token of the session is presented twice. -/
private def replay : ℕ → Request
  | 1 => .login ['a'] 5 noContext
  | _ => .refresh (firstToken 7 1)

private def present (_ : ℕ) : World := worldAt 1 (tablesWith 7 (plainUser 5))

private def isLost : Answered AuthCall AuthCall.Reply Failure → Bool
  | ⟨_, .error _⟩ => true
  | _ => false

end Exchange.Auth.Refresh
