import Exchange.Realtime

/-! Private events stay private. Only the handshake lets a socket into the room
of a user, and it is the user of the session that was looked up. But a socket
stays in that room when the session is revoked; so an event is kept from revoked
sessions only while no session is revoked that a socket still uses. -/
namespace Exchange.Realtime.Privacy
open Async
open Ledger (UserId)
open Auth (AuthCall AuthSession SessionId)

variable {config : Auth.Service.Config} {verify : Verify} {requests : ℕ → Request} {past : Past} {x : History}
  {pid other : ℕ} {call : RealtimeCall} {reply : Except Failure call.Reply} {s s' : Store} {id : SessionId}
  {userId : UserId} {payload : AccessTokenPayload} {request : Request} {pool : RealtimePool}

/-! ## The property -/

/-- There is a session of this user, and it is not revoked. -/
def IsLive (s : Store) (id : SessionId) (userId : UserId) : Prop :=
  ∃ session, s.auth.sessions.lookup id = some session ∧ session.userId = userId ∧ session.revokedAt = none

/-- What a step delivers of a user, it delivers to sockets whose session is this
user's and is not revoked. -/
def DeliversPrivately (s s' : Store) : Prop :=
  ∀ new, s'.delivered = new ++ s.delivered → ∀ delivery ∈ new, ∀ userId, delivery.event.concerns = some userId →
    ∃ socket, s.sockets.lookup delivery.socketId = some socket ∧ IsLive s socket.sessionId userId

def Private (step : ℕ → (call : RealtimeCall) → History → Except Failure call.Reply → Store → Prop)
    (Request : ℕ → RealtimeM Answer → Prop) (pool : RealtimePool) : Prop :=
  ∀ pool', Pool.Step (Logged.protocol step) Request pool pool' → DeliversPrivately pool.store.store pool'.store.store

/-! ## The condition -/

/-- A handshake that has found its session valid, and is about to connect. -/
def connecting (verify : Verify) : Request → Past → Option AccessTokenPayload
  | .connect handshake, ⟨.findSessionWithUserById _, .ok (found, now)⟩ :: _ =>
    (payloadOf verify handshake).filter fun payload => found.any (isValidSession payload.sub now)
  | _, _ => none

/-- A socket is in the room of its user, or about to join it, by this session. -/
def isInUse (verify : Verify) (requests : ℕ → Request) (x : History) (id : SessionId) : Bool :=
  (x.store.sockets.rows.any fun (_, socket) => socket.sessionId = id && userRoom socket.userId ∈ socket.rooms) ||
    x.history.any fun made => (connecting verify (requests made.1) (x.past made.1)).any fun payload => payload.sid = id

/-- No session is revoked that is in use. -/
def isOrderly (verify : Verify) (requests : ℕ → Request) (x : History) :
    (call : RealtimeCall) → Except Failure call.Reply → Bool
  | .auth call, reply => !reply.isOk || x.store.auth.sessions.rows.all fun (id, session) =>
      !(call.revokes id session && isInUse verify requests x id)
  | _, _ => true

def followed (verify : Verify) (requests : ℕ → Request) (pid : ℕ) (call : RealtimeCall) (x : History)
    (reply : Except Failure call.Reply) (s' : Store) : Prop :=
  Makes pid call x.store reply s' ∧ isOrderly verify requests x call reply

/-! ## What a request does -/

/-- Calls that neither look up a session nor connect or send anything. -/
def isNeutral : RealtimeCall → Bool
  | .findSessionWithUserById _ => false
  | .connect _ _ => false
  | .emit _ _ => false
  | _ => true

/-- The calls that a request may make. -/
inductive May (verify : Verify) (request : Request) (past : Past) : RealtimeCall → Prop
  | neutral {call : RealtimeCall} (neutral : isNeutral call) : May verify request past call
  | find {handshake : Handshake} {payload : AccessTokenPayload} (isConnect : request = .connect handshake)
      (isPayload : payloadOf verify handshake = some payload) :
      May verify request past (.findSessionWithUserById payload.sid)
  | connect {payload : AccessTokenPayload} (connecting : connecting verify request past = some payload) :
      May verify request past (.connect payload.sub payload.sid)
  | emit {room : Text} {event : ServerEvent}
      (isOwn : ∀ userId, event.concerns = some userId → room = userRoom userId) :
      May verify request past (.emit room event)

theorem lift_lawful {α : Type} (program : Auth.AuthM α) : ∀ past, Lawful (May verify request) past (lift program) := by
  induction program with
  | done result => exact fun _ => trivial
  | await call resume ih => exact fun past => ⟨.neutral rfl, fun reply => ih reply _⟩

theorem safe_lawful {program : RealtimeM Unit} (body : Lawful (May verify request) past program) :
    Lawful (May verify request) past (safe program) :=
  lawful_catch body fun _ _ => trivial

theorem emitOrderbookSnapshot_lawful {symbol : Text} :
    Lawful (May verify request) past (emitOrderbookSnapshot symbol) := by
  refine lawful_call (.neutral rfl) fun listens => ?_
  split
  · exact safe_lawful (lawful_call (.neutral rfl) fun _ => lawful_ask (.emit nofun))
  · trivial

theorem emitBalance_lawful : Lawful (May verify request) past (emitBalance userId) := by
  refine lawful_call (.neutral rfl) fun listens => ?_
  split
  · refine safe_lawful (lawful_call (.neutral rfl) fun balances => lawful_ask (.emit fun other isOther => ?_))
    cases isOther
    rfl
  · trivial

theorem onBusEvent_lawful (event : BusEvent) : Lawful (May verify request) past (onBusEvent event) := by
  cases event with
  | orderbookChanged symbol =>
    refine lawful_call (.neutral rfl) fun isNew => ?_
    split
    · exact lawful_call (.neutral rfl) fun _ => emitOrderbookSnapshot_lawful
    · trivial
  | orderUpdated userId order =>
    refine safe_lawful (lawful_ask (.emit fun other isOther => ?_))
    cases isOther
    rfl
  | balanceChanged userId => exact emitBalance_lawful
  | tradeExecuted symbol trade => exact safe_lawful (lawful_ask (.emit nofun))
  | marketTicker symbol data => exact safe_lawful (lawful_ask (.emit nofun))
  | marketCandle symbol data => exact safe_lawful (lawful_ask (.emit nofun))

theorem onMessage_lawful {socketId : SocketId} (message : Message) :
    Lawful (May verify request) past (onMessage socketId message) := by
  refine lawful_call (.neutral rfl) fun isConnected => ?_
  split
  · unfold snapshotOf
    split
    · split
      · exact emitOrderbookSnapshot_lawful
      · trivial
    · trivial
  · trivial

/-- A session that is found valid is the token's, and the socket is about to connect. -/
theorem validateAccessSession_obeys {handshake : Handshake} (isPayload : payloadOf verify handshake = some payload) :
    (validateAccessSession payload.sub payload.sid).Obeys (May verify (.connect handshake))
      (EndsWith (fun _ => True) fun userId later =>
        userId = payload.sub ∧ connecting verify (.connect handshake) later = some payload) past := by
  refine ⟨.find rfl isPayload, fun reply => ?_⟩
  rcases reply with failure | ⟨found, now⟩
  · trivial
  · simp only [Async.bind]
    split
    · trivial
    · rename_i session user isFound
      rw [Option.filter_eq_some_iff] at isFound
      obtain ⟨rfl, valid⟩ := isFound
      refine ⟨?_, ?_⟩
      · simp only [isValidSession, Bool.and_eq_true, decide_eq_true_eq] at valid
        exact valid.1.1.1.1
      · simp [connecting, isPayload, valid]

theorem isRequest_lawful (pid : ℕ) (program : RealtimeM Answer) (isRequest : IsRequest config verify requests pid program) :
    Lawful (May verify (requests pid)) [] program := by
  rw [isRequest]
  cases requests pid with
  | auth request => exact lawful_bind (lift_lawful _ _) fun _ _ => trivial
  | message socketId message => exact lawful_bind (onMessage_lawful message) fun _ _ => trivial
  | disconnect socketId => exact lawful_call (.neutral rfl) fun _ => trivial
  | event event => exact lawful_bind (onBusEvent_lawful event) fun _ _ => trivial
  | connect handshake =>
    unfold handle
    dsimp only
    unfold connect
    split
    · trivial
    · rename_i payload isPayload
      have denied : Lawful (May verify (.connect handshake)) [] (isDenied payload.sid) :=
        lawful_catch (lawful_call (.neutral rfl) fun _ => trivial) fun _ _ => trivial
      refine lawful_bind denied fun revoked later => ?_
      split
      · trivial
      · have validated : (tryCatch (validateAccessSession payload.sub payload.sid) fun _ => throw unauthenticated).Obeys
            (May verify (.connect handshake)) (EndsWith (fun _ => True) fun userId later =>
              userId = payload.sub ∧ connecting verify (.connect handshake) later = some payload) later :=
          (validateAccessSession_obeys isPayload).catch fun _ _ _ _ => trivial
        refine lawful_seq validated fun userId last _ ⟨isSub, connecting⟩ => ?_
        rw [isSub]
        exact lawful_call (.connect connecting) fun _ => trivial

/-! ## What a call does -/

/-- A session that is not revoked stays as it is, unless the call revokes it. -/
theorem stays_live {call : AuthCall} {reply : Except Failure call.Reply} {s s' : Auth.Store} {session : AuthSession}
    (makes : Auth.Makes pid call s reply s') (found : s.sessions.lookup id = some session)
    (live : session.revokedAt = none) (spared : reply.isOk → call.revokes id session = false) :
    ∃ session', s'.sessions.lookup id = some session' ∧ session'.userId = session.userId ∧ session'.revokedAt = none := by
  have effect := Auth.Makes.effect makes
  cases reply with
  | error failure =>
    have sessions : s'.sessions = s.sessions := by
      cases effect with
      | neutral _ _ sessions => exact sessions
      | failed sessions => exact sessions
    exact ⟨session, sessions ▸ found, rfl, live⟩
  | ok value =>
    obtain ⟨session', found'⟩ := effect.stays found
    refine ⟨session', found', ?_⟩
    cases effect.row found' with
    | created own fresh isMade => cases found.symm.trans fresh
    | rotated isRow unrevoked isMade =>
      cases found.symm.trans isRow
      exact ⟨rfl, live⟩
    | revoked isRow isRevoked isRevocation revokes =>
      cases found.symm.trans isRow
      rw [spared rfl] at revokes
      cases revokes
    | same isRow spared =>
      cases found.symm.trans isRow
      exact ⟨rfl, live⟩

/-- Calls to authentication leave the sockets alone, and all others the sessions. -/
theorem makes_auth {call : AuthCall} {reply : Except Failure call.Reply}
    (makes : Makes pid (.auth call) s reply s') :
    Auth.Makes pid call s.auth reply s'.auth ∧ s'.sockets = s.sockets ∧ s'.delivered = s.delivered := by
  rcases makes with ⟨world, ran⟩ | ⟨lost, rfl⟩
  · cases ran
    exact ⟨.inl ⟨world.auth, rfl⟩, rfl, rfl⟩
  · exact ⟨.inr ⟨lost, rfl⟩, rfl, rfl⟩

/-! ## The invariant -/

/-- Whoever is in the room of a user, or about to join it, belongs to a session
of this user that is not revoked. -/
structure Kept (verify : Verify) (requests : ℕ → Request) (x : History) : Prop where
  joined : ∀ socketId socket userId, x.store.sockets.lookup socketId = some socket → userRoom userId ∈ socket.rooms →
    userId = socket.userId ∧ IsLive x.store socket.sessionId userId
  connecting : ∀ pid payload, connecting verify (requests pid) (x.past pid) = some payload →
    IsLive x.store payload.sid payload.sub

theorem connecting_nil : connecting verify request [] = none := by
  cases request <;> rfl

theorem isInUse_of_joined {socketId : SocketId} {socket : Socket} (found : x.store.sockets.lookup socketId = some socket)
    (joined : userRoom socket.userId ∈ socket.rooms) : isInUse verify requests x socket.sessionId := by
  rw [isInUse, Bool.or_eq_true]
  refine .inl (List.any_eq_true.mpr ⟨_, Table.mem_rows.mpr found, ?_⟩)
  simp [joined]

theorem isInUse_of_connecting (isConnecting : connecting verify (requests pid) (x.past pid) = some payload) :
    isInUse verify requests x payload.sid := by
  rw [isInUse, Bool.or_eq_true]
  cases isPast : x.past pid with
  | nil =>
    rw [isPast, connecting_nil] at isConnecting
    cases isConnecting
  | cons made rest =>
    refine .inr (List.any_eq_true.mpr ⟨(pid, made), Logged.mem_past.mp (isPast ▸ List.mem_cons_self), ?_⟩)
    simp [isConnecting]

/-- One more call: sessions in use stay live, sockets are where they were or join
by a live session, and a session that is found is live. -/
theorem kept_next (kept : Kept verify requests x)
    (live : ∀ id userId, isInUse verify requests x id → IsLive x.store id userId → IsLive s' id userId)
    (joined : ∀ socketId socket userId, s'.sockets.lookup socketId = some socket → userRoom userId ∈ socket.rooms →
      (∃ before, x.store.sockets.lookup socketId = some before ∧ userRoom userId ∈ before.rooms ∧
        socket.userId = before.userId ∧ socket.sessionId = before.sessionId) ∨
      userId = socket.userId ∧ IsLive s' socket.sessionId userId)
    (found : ∀ payload, connecting verify (requests pid) (⟨call, reply⟩ :: x.past pid) = some payload →
      IsLive s' payload.sid payload.sub) :
    Kept verify requests ⟨s', (pid, ⟨call, reply⟩) :: x.history⟩ where
  joined socketId socket userId isSocket isJoined := by
    rcases joined socketId socket userId isSocket isJoined with ⟨before, isBefore, was, sameUser, sameSession⟩ | done
    · obtain ⟨rfl, isLive⟩ := kept.joined socketId before userId isBefore was
      rw [sameSession]
      exact ⟨sameUser.symm, live _ _ (isInUse_of_joined isBefore was) isLive⟩
    · exact done
  connecting other payload isConnecting := by
    rw [Logged.past_made] at isConnecting
    split at isConnecting
    · rename_i same
      subst same
      exact found payload isConnecting
    · exact live _ _ (isInUse_of_connecting isConnecting) (kept.connecting other payload isConnecting)

/-- Only after a lookup somebody is about to connect. -/
theorem found_of_connecting {made : Answered RealtimeCall RealtimeCall.Reply Failure}
    (isConnecting : connecting verify request (made :: past) = some payload) :
    ∃ id found now, made = ⟨.findSessionWithUserById id, .ok (found, now)⟩ := by
  unfold connecting at isConnecting
  split at isConnecting
  · rename_i isPast
    cases isPast
    exact ⟨_, _, _, rfl⟩
  · cases isConnecting

/-- A session that is found valid is live. -/
theorem live_of_found {handshake : Handshake} {token : AccessTokenPayload} {now : Auth.Time}
    (isToken : payloadOf verify handshake = some token)
    (isConnecting : connecting verify (.connect handshake)
      (⟨.findSessionWithUserById token.sid, .ok (findSessionWithUserById token.sid s.auth, now)⟩ :: past) = some payload) :
    IsLive s payload.sid payload.sub := by
  simp only [connecting, isToken, Option.filter_eq_some_iff, Option.any_eq_true, Option.some.injEq] at isConnecting
  obtain ⟨rfl, ⟨session, user⟩, isFound, valid⟩ := isConnecting
  simp only [findSessionWithUserById, Option.bind_eq_bind, Option.bind_eq_some_iff, Option.pure_def, Option.some.injEq,
    Prod.mk.injEq] at isFound
  obtain ⟨row, isRow, owner, isOwner, rfl, rfl⟩ := isFound
  simp only [isValidSession, Bool.and_eq_true, decide_eq_true_eq, Option.isNone_iff_eq_none] at valid
  exact ⟨row, isRow, valid.1.1.1.1, valid.1.1.1.2⟩

theorem kept_auth {call : AuthCall} {reply : Except Failure call.Reply} (kept : Kept verify requests x)
    (made : followed verify requests pid (.auth call) x reply s') :
    Kept verify requests ⟨s', (pid, ⟨.auth call, reply⟩) :: x.history⟩ := by
  obtain ⟨makes, orderly⟩ := made
  obtain ⟨authMakes, sockets, -⟩ := makes_auth makes
  refine kept_next kept (fun id userId inUse ⟨session, found, isUser, live⟩ => ?_) (fun socketId socket userId isSocket => ?_)
    fun payload isPayload => ?_
  · have spared : reply.isOk → call.revokes id session = false := by
      intro isOk
      simp only [isOrderly, isOk, Bool.not_true, Bool.false_or, List.all_eq_true] at orderly
      have row := orderly _ (Table.mem_rows.mpr found)
      simpa [inUse] using row
    obtain ⟨session', found', same, live'⟩ := stays_live authMakes found live spared
    exact ⟨session', found', same.trans isUser, live'⟩
  · rw [sockets] at isSocket
    exact fun isJoined => .inl ⟨socket, isSocket, isJoined, rfl, rfl⟩
  · obtain ⟨_, _, _, isFind⟩ := found_of_connecting isPayload
    cases isFind

/-- A call that changes no session, and finds none. -/
theorem kept_apart (kept : Kept verify requests x) (auth : s'.auth = x.store.auth)
    (notFind : ∀ id found now, (⟨call, reply⟩ : Answered RealtimeCall RealtimeCall.Reply Failure) ≠
      ⟨.findSessionWithUserById id, .ok (found, now)⟩)
    (joined : ∀ socketId socket userId, s'.sockets.lookup socketId = some socket → userRoom userId ∈ socket.rooms →
      (∃ before, x.store.sockets.lookup socketId = some before ∧ userRoom userId ∈ before.rooms ∧
        socket.userId = before.userId ∧ socket.sessionId = before.sessionId) ∨
      userId = socket.userId ∧ IsLive s' socket.sessionId userId) :
    Kept verify requests ⟨s', (pid, ⟨call, reply⟩) :: x.history⟩ := by
  refine kept_next kept (fun id userId _ isLive => ?_) joined fun payload isPayload => ?_
  · rw [IsLive, auth]
    exact isLive
  · obtain ⟨id, found, now, isFind⟩ := found_of_connecting isPayload
    exact absurd isFind (notFind id found now)

/-- Nor does it touch a socket. -/
theorem kept_same (kept : Kept verify requests x) (auth : s'.auth = x.store.auth) (sockets : s'.sockets = x.store.sockets)
    (notFind : ∀ id found now, (⟨call, reply⟩ : Answered RealtimeCall RealtimeCall.Reply Failure) ≠
      ⟨.findSessionWithUserById id, .ok (found, now)⟩) :
    Kept verify requests ⟨s', (pid, ⟨call, reply⟩) :: x.history⟩ := by
  refine kept_apart kept auth notFind fun socketId socket userId isSocket isJoined => ?_
  exact .inl ⟨socket, sockets ▸ isSocket, isJoined, rfl, rfl⟩

/-- A handshake that has found its session lets its socket into its user's room. -/
theorem kept_connect {reply : Except Failure Unit} (kept : Kept verify requests x)
    (isConnecting : connecting verify (requests pid) (x.past pid) = some payload) :
    Kept verify requests ⟨x.store.setSockets (x.store.sockets.insert pid
      ⟨payload.sub, payload.sid, [userRoom payload.sub], []⟩), (pid, ⟨.connect payload.sub payload.sid, reply⟩) :: x.history⟩ := by
  refine kept_apart kept rfl nofun fun socketId socket userId isSocket isJoined => ?_
  by_cases isNew : socketId = pid
  · subst isNew
    cases (AList.lookup_insert _).symm.trans isSocket
    obtain rfl := userRoom_injective (List.mem_singleton.mp isJoined)
    exact .inr ⟨rfl, kept.connecting socketId payload isConnecting⟩
  · exact .inl ⟨socket, (AList.lookup_insert_ne isNew).symm.trans isSocket, isJoined, rfl, rfl⟩

theorem kept_message {socketId : SocketId} {message : Message} {reply : Except Failure Bool} (kept : Kept verify requests x) :
    Kept verify requests ⟨x.store.setSockets (x.store.sockets.modify socketId (Socket.handle message)),
      (pid, ⟨.message socketId message, reply⟩) :: x.history⟩ := by
  refine kept_apart kept rfl nofun fun other socket userId isSocket isJoined => .inl ?_
  by_cases same : other = socketId
  · subst same
    obtain ⟨before, isBefore, rfl⟩ := Option.map_eq_some_iff.mp ((Table.lookup_modify_self _).symm.trans isSocket)
    exact ⟨before, isBefore, Socket.mem_handle isJoined, Socket.owner_handle message before⟩
  · exact ⟨socket, (Table.lookup_modify_ne _ same).symm.trans isSocket, isJoined, rfl, rfl⟩

theorem kept_disconnect {socketId : SocketId} {reply : Except Failure Unit} (kept : Kept verify requests x) :
    Kept verify requests ⟨x.store.setSockets (x.store.sockets.erase socketId),
      (pid, ⟨.disconnect socketId, reply⟩) :: x.history⟩ := by
  refine kept_apart kept rfl nofun fun other socket userId isSocket isJoined => .inl ?_
  by_cases same : other = socketId
  · subst same
    cases (AList.lookup_erase _ _).symm.trans isSocket
  · exact ⟨socket, (AList.lookup_erase_ne same).symm.trans isSocket, isJoined, rfl, rfl⟩

theorem kept_step (kept : Kept verify requests x) (may : May verify (requests pid) (x.past pid) call)
    (made : followed verify requests pid call x reply s') :
    Kept verify requests ⟨s', (pid, ⟨call, reply⟩) :: x.history⟩ := by
  rcases made.1 with ⟨world, ran⟩ | ⟨⟨failure, -, rfl⟩, rfl⟩
  · cases call with
    | auth call => exact kept_auth kept made
    | findSessionWithUserById id =>
      cases ran
      cases may with
      | neutral neutral => cases neutral
      | find isConnect isToken =>
        refine kept_next kept (fun _ _ _ isLive => isLive) (fun socketId socket userId isSocket isJoined => ?_)
          fun payload isConnecting => ?_
        · exact .inl ⟨socket, isSocket, isJoined, rfl, rfl⟩
        · rw [isConnect] at isConnecting
          exact live_of_found isToken isConnecting
    | connect userId sessionId =>
      cases ran
      cases may with
      | neutral neutral => cases neutral
      | connect isConnecting => exact kept_connect kept isConnecting
    | message socketId message =>
      cases ran
      exact kept_message kept
    | disconnect socketId =>
      cases ran
      exact kept_disconnect kept
    | _ =>
      cases ran
      exact kept_same kept rfl rfl nofun
  · exact kept_same kept rfl rfl nofun

/-! ## Private events -/

/-- Only `emit` delivers, and what is private only to the room of its user. -/
theorem private_of_made (kept : Kept verify requests x) (may : May verify (requests pid) (x.past pid) call)
    (makes : Makes pid call x.store reply s') : DeliversPrivately x.store s' := by
  intro new isNew delivery member userId isPrivate
  have unchanged : s'.delivered = x.store.delivered → False := by
    intro same
    rw [same] at isNew
    rw [List.self_eq_append_left.mp isNew] at member
    cases member
  rcases makes with ⟨world, ran⟩ | ⟨-, rfl⟩
  · cases call with
    | emit room event =>
      cases ran
      rw [← List.append_cancel_right isNew] at member
      obtain ⟨⟨socketId, socket⟩, listens, rfl⟩ := List.mem_map.mp member
      rw [List.mem_filter, Table.mem_rows, decide_eq_true_eq] at listens
      cases may with
      | neutral neutral => cases neutral
      | emit isOwn =>
        rw [isOwn userId isPrivate] at listens
        exact ⟨socket, listens.1, (kept.joined socketId socket userId listens.1 listens.2).2⟩
    | auth call => exact (unchanged (makes_auth (.inl ⟨world, ran⟩)).2.2).elim
    | _ =>
      cases ran
      exact (unchanged rfl).elim
  · exact (unchanged rfl).elim

/-- While no session is revoked that a socket still uses, every private event
reaches only sockets of the user whom it concerns, by sessions that are live. -/
theorem stays_private (run : Logged.Run (followed verify requests) (IsRequest config verify requests) Opening pool) :
    Private (followed verify requests) (IsRequest config verify requests) pool := by
  have lawful := @isRequest_lawful config verify requests
  have kept : Kept verify requests pool.store := run.inv lawful (fun s isOpening => ?_)
    fun x pid call reply s' kept may made => kept_step kept may made
  · intro pool' step
    rcases (Logged.Run.orderly lawful run).made step with same | ⟨pid, call, reply, s', may, made, grown⟩
    · intro new isNew delivery member
      rw [same] at isNew
      rw [List.self_eq_append_left.mp isNew] at member
      cases member
    · rw [grown]
      exact private_of_made kept may made.1
  · refine ⟨fun socketId socket userId isSocket => ?_, fun pid payload isConnecting => ?_⟩
    · rw [isOpening, AList.lookup_empty] at isSocket
      cases isSocket
    · rw [Logged.past_nil, connecting_nil] at isConnecting
      cases isConnecting

/-! ## A session that is logged out -/

def openSession : AuthSession := ⟨1, ⟨1, 5, 5, 5⟩, 5, 100, none⟩

/-- User 1 has a session, and nobody is connected. -/
def loggedIn : Store where
  auth := { Auth.storeWith 1 (Auth.plainUser 0) with sessions := (∅ : Table SessionId AuthSession).insert 5 openSession }
  sockets := ∅
  pendingBook := []
  delivered := []

/-- Request 1 connects a socket, 2 is an update of an order, 3 disconnects, and 4
logs out. -/
def oneSocket : ℕ → Request
  | 1 => .connect { token := some ['t'] }
  | 2 => .event (.orderUpdated 1 ['o'])
  | 3 => .disconnect 1
  | _ => .auth (.logout 5)

def oneToken : Verify := fun token => if token = ['t'] then some ⟨1, 5⟩ else none

def calmWorld : World := ⟨0, Auth.worldAt 0 loggedIn.auth.tables, [], []⟩

theorem opening_loggedIn : Opening loggedIn := rfl

/-- A socket that is told of an order, and is gone when its session is logged out. -/
theorem told_then_logged_out : ∃ pool : RealtimePool, pool.store.store.delivered = [⟨1, .orderUpdated 1 ['o']⟩] ∧
    Private (followed oneToken oneSocket) (IsRequest Auth.smallConfig oneToken oneSocket) pool := by
  have played : (Database.schedule perform (fun _ => calmWorld) (fun _ _ => false)
      (fun _ call x reply => isOrderly oneToken oneSocket x call reply)
      (fun pid => handle Auth.smallConfig oneToken (oneSocket pid)) [1, 2, 3, 4] [(1, 9), (2, 9), (3, 9), (4, 9)]
      loggedIn).map (fun pool => pool.store.store.delivered) = some [⟨1, .orderUpdated 1 ['o']⟩] := by
    decide +kernel
  obtain ⟨pool, scheduled, delivered⟩ := Option.map_eq_some_iff.mp played
  have run : Logged.Run (followed oneToken oneSocket) (IsRequest Auth.smallConfig oneToken oneSocket) Opening pool :=
    Database.schedule_run opening_loggedIn (fun _ => rfl) (fun _ _ _ _ _ allowed makes => ⟨makes, allowed⟩) scheduled
  exact ⟨pool, delivered, stays_private run⟩

/-- The session is logged out, and its socket is told of an order. -/
theorem told_after_logout : ¬∀ pool : RealtimePool,
    Logged.Run interleaved (IsRequest Auth.smallConfig oneToken oneSocket) Opening pool →
      Private interleaved (IsRequest Auth.smallConfig oneToken oneSocket) pool := by
  intro isPrivate
  have played : (Database.schedule perform (fun _ => calmWorld) (fun _ _ => false) (fun _ _ _ _ => true)
      (fun pid => handle Auth.smallConfig oneToken (oneSocket pid)) [1, 2, 4] [(1, 9), (4, 9)] loggedIn).map (fun pool =>
        (Logged.waitsFor pool 2, pool.store.store.sockets.rows, pool.store.store.auth.sessions.lookup 5)) =
      some (some (.emit (userRoom 1) (.orderUpdated 1 ['o'])), [(1, ⟨1, 5, [userRoom 1], []⟩)],
        some { openSession with revokedAt := some 0 }) := by decide +kernel
  obtain ⟨pool, scheduled, facts⟩ := Option.map_eq_some_iff.mp played
  simp only [Prod.mk.injEq] at facts
  obtain ⟨waits, sockets, revoked⟩ := facts
  obtain ⟨next, waiting⟩ := Logged.waiting_of_waitsFor waits
  have run : Logged.Run interleaved (IsRequest Auth.smallConfig oneToken oneSocket) Opening pool :=
    Database.schedule_run opening_loggedIn (fun _ => rfl) (fun _ _ _ _ _ _ makes => makes) scheduled
  have made : (Logged.protocol interleaved).step 2 (.emit (userRoom 1) (.orderUpdated 1 ['o'])) pool.store (.ok ())
      ⟨emitTo (userRoom 1) (.orderUpdated 1 ['o']) pool.store.store, (2, ⟨.emit _ _, .ok ()⟩) :: pool.store.history⟩ :=
    ⟨.inl ⟨calmWorld, rfl⟩, rfl⟩
  have told : (⟨1, .orderUpdated 1 ['o']⟩ : Delivery) ∈ (pool.store.store.sockets.rows.filter fun (_, socket) =>
      userRoom 1 ∈ socket.rooms).map fun (id, _) => ⟨id, .orderUpdated 1 ['o']⟩ := by
    rw [sockets]
    decide +kernel
  obtain ⟨socket, isSocket, session, found, -, live⟩ :=
    isPrivate pool run _ (.resume waiting made) _ rfl _ told 1 rfl
  have row := Table.mem_rows.mpr isSocket
  rw [sockets, List.mem_singleton] at row
  cases row
  cases revoked.symm.trans found
  cases live

end Exchange.Realtime.Privacy
