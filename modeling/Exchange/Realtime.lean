import Exchange.AuthSessions
import Mathlib.Data.Nat.Digits.Defs

/-! The socket gateway. A socket is admitted with an access token, joins the room
of its user, and then joins and leaves rooms of market data by messages. Events
of the bus are sent to rooms. Meanwhile the auth service issues and revokes
sessions. -/
namespace Exchange.Realtime
open Async
open Ledger (UserId)
open Auth (AuthCall AuthSession AuthM SessionId Time User)

/-- A socket is known by the request that connects it. -/
abbrev SocketId := ℕ

/-! ## Rooms -/

/-- An id as it is written in the name of a room. -/
def idText (id : ℕ) : Text := (Nat.digits 10 id).reverse.map Nat.digitChar

def marketRoom (symbol : Text) : Text := "market:".toList ++ symbol

def userRoom (userId : UserId) : Text := "user:".toList ++ idText userId

def symbolFromRoom (room : Text) : Text := room.drop "market:".length

def marketDataRoom (symbol : Text) : Text := "md:".toList ++ symbol

/-- `[A-Z0-9]` -/
def isSymbolChar (char : Char) : Bool := char.isUpper || char.isDigit

/-- `[A-Z0-9]+-[A-Z0-9]+` -/
def isMarketSymbol (symbol : Text) : Bool :=
  let base := symbol.takeWhile isSymbolChar
  match symbol.drop base.length with
  | '-' :: quote => !base.isEmpty && !quote.isEmpty && quote.all isSymbolChar
  | _ => false

/-- `^market:[A-Z0-9]+-[A-Z0-9]+$` -/
def isMarketRoom (room : Text) : Bool := "market:".toList.isPrefixOf room && isMarketSymbol (symbolFromRoom room)

def SUPPORTED_SYMBOLS : List Text := ["BTCUSDT", "ETHUSDT", "BNBUSDT", "USDTINR"].map String.toList

def isSupportedSymbol (symbol : Text) : Bool := symbol ∈ SUPPORTED_SYMBOLS

def MARKET_DATA_SUB_LIMIT : ℕ := 20

/-! ## Sockets -/

structure Socket where
  userId : UserId
  sessionId : SessionId
  rooms : List Text
  mdSubscriptions : List Text
  deriving DecidableEq, Repr

/-- What a client sends; of a payload that is no string nothing is known. -/
inductive Message where
  | subscribe (room : Option Text)
  | unsubscribe (room : Option Text)
  | mdSubscribe (symbol : Option Text)
  | mdUnsubscribe (symbol : Option Text)
  deriving DecidableEq, Repr

def Socket.join (room : Text) (socket : Socket) : Socket := { socket with rooms := socket.rooms.insert room }

def Socket.leave (room : Text) (socket : Socket) : Socket :=
  { socket with rooms := socket.rooms.filter fun joined => joined ≠ room }

def Socket.subscribe (room : Text) (socket : Socket) : Socket :=
  if isMarketRoom room then socket.join room else socket

def Socket.mdSubscribe (symbol : Text) (socket : Socket) : Socket :=
  if !isSupportedSymbol symbol || symbol ∈ socket.mdSubscriptions ||
      MARKET_DATA_SUB_LIMIT ≤ socket.mdSubscriptions.length then socket
  else { socket.join (marketDataRoom symbol) with mdSubscriptions := symbol :: socket.mdSubscriptions }

def Socket.mdUnsubscribe (symbol : Text) (socket : Socket) : Socket :=
  { socket.leave (marketDataRoom symbol) with
    mdSubscriptions := socket.mdSubscriptions.filter fun subscribed => subscribed ≠ symbol }

def Socket.handle : Message → Socket → Socket
  | .subscribe (some room), socket => socket.subscribe room
  | .unsubscribe (some room), socket => socket.leave room
  | .mdSubscribe (some symbol), socket => socket.mdSubscribe symbol
  | .mdUnsubscribe (some symbol), socket => socket.mdUnsubscribe symbol
  | _, socket => socket

/-- What a client receives: of a user's orders or balances, or of a symbol. What
they carry is serialized. -/
inductive ServerEvent where
  | orderUpdated (userId : UserId) (order : Text)
  | balanceUpdated (userId : UserId) (balances : Text)
  | orderbookUpdated (symbol : Text) (book : Text)
  | tradeExecuted (symbol : Text) (trade : Text)
  | ticker (symbol : Text) (data : Text)
  | candle (symbol : Text) (data : Text)
  deriving DecidableEq, Repr

/-- The user whom a private event concerns. -/
def ServerEvent.concerns : ServerEvent → Option UserId
  | .orderUpdated userId _ => some userId
  | .balanceUpdated userId _ => some userId
  | _ => none

structure Delivery where
  socketId : SocketId
  event : ServerEvent
  deriving DecidableEq, Repr

structure Store where
  auth : Auth.Store
  sockets : Table SocketId Socket
  /-- Symbols whose order book is about to be sent. -/
  pendingBook : List Text
  /-- Latest first. -/
  delivered : List Delivery

def Store.setSockets (s : Store) (sockets : Table SocketId Socket) : Store := { s with sockets := sockets }

/-! ## Calls -/

inductive RealtimeCall where
  | auth (call : AuthCall)
  | findSessionWithUserById (id : SessionId)
  | connect (userId : UserId) (sessionId : SessionId)
  | message (socketId : SocketId) (message : Message)
  | disconnect (socketId : SocketId)
  | hasListeners (room : Text)
  | listWallets (userId : UserId)
  | getOrderBook (symbol : Text)
  | emit (room : Text) (event : ServerEvent)
  | schedule (symbol : Text)
  | fire (symbol : Text)
  deriving DecidableEq

/-- A session comes with the time at which it is looked at. -/
abbrev RealtimeCall.Reply : RealtimeCall → Type
  | .auth call => call.Reply
  | .findSessionWithUserById _ => Option (AuthSession × User) × Time
  | .message _ _ => Bool
  | .hasListeners _ => Bool
  | .listWallets _ => Text
  | .getOrderBook _ => Text
  | .schedule _ => Bool
  | _ => Unit

/-- The clock of the process, what authentication sees, and what the ledger and
the market would answer. -/
structure World where
  now : Time
  auth : Auth.World
  wallets : Text
  book : Text

def findSessionWithUserById (id : SessionId) (s : Auth.Store) : Option (AuthSession × User) := do
  let session ← s.sessions.lookup id
  let user ← s.tables.users.lookup session.userId
  return (session, user)

/-- The sockets of a room receive an event. -/
def emitTo (room : Text) (event : ServerEvent) (s : Store) : Store :=
  let listeners := s.sockets.rows.filter fun (_, socket) => room ∈ socket.rooms
  { s with delivered := listeners.map (fun (id, _) => ⟨id, event⟩) ++ s.delivered }

def authCall (world : World) (pid : ℕ) (call : AuthCall) (s : Store) : Except Failure call.Reply × Store :=
  let (reply, auth) := Auth.perform world.auth pid call s.auth
  (reply, { s with auth := auth })

def perform (world : World) (pid : ℕ) : (call : RealtimeCall) → Store → Except Failure call.Reply × Store
  | .auth call, s => authCall world pid call s
  | .findSessionWithUserById id, s => (.ok (findSessionWithUserById id s.auth, world.now), s)
  | .connect userId sessionId, s =>
    (.ok (), s.setSockets (s.sockets.insert pid ⟨userId, sessionId, [userRoom userId], []⟩))
  | .message id message, s =>
    (.ok (s.sockets.lookup id).isSome, s.setSockets (s.sockets.modify id (Socket.handle message)))
  | .disconnect id, s => (.ok (), s.setSockets (s.sockets.erase id))
  | .hasListeners room, s => (.ok (s.sockets.rows.any fun (_, socket) => room ∈ socket.rooms), s)
  | .listWallets _, s => (.ok world.wallets, s)
  | .getOrderBook _, s => (.ok world.book, s)
  | .emit room event, s => (.ok (), emitTo room event s)
  | .schedule symbol, s => (.ok (symbol ∉ s.pendingBook), { s with pendingBook := s.pendingBook.insert symbol })
  | .fire symbol, s => (.ok (), { s with pendingBook := s.pendingBook.filter fun pending => pending ≠ symbol })

abbrev RealtimeM := Async RealtimeCall RealtimeCall.Reply Failure

abbrev ask (call : RealtimeCall) : RealtimeM call.Reply := Async.call call

/-- A program of the auth service. -/
def lift {α : Type} : AuthM α → RealtimeM α
  | .done result => .done result
  | .await call resume => .await (.auth call) fun reply => lift (resume reply)

/-! ## Handshake -/

/-- `auth.token`, if it is a string, and the `authorization` header. -/
structure Handshake where
  token : Option Text := none
  authorization : Option Text := none
  deriving DecidableEq, Repr

def bearerToken (header : Text) : Option Text :=
  if "Bearer ".toList.isPrefixOf header then some (Text.trim (header.drop "Bearer ".length)) else none

def extractToken (handshake : Handshake) : Option Text :=
  (handshake.token.filter fun token => !token.isEmpty).or (handshake.authorization.bind bearerToken)

structure AccessTokenPayload where
  sub : UserId
  sid : SessionId
  deriving DecidableEq, Repr

/-- What a token says, if it is valid. -/
abbrev Verify := Text → Option AccessTokenPayload

inductive Answer where
  | auth (response : Auth.Service.Response)
  | connected (userId : UserId)
  | done

def unauthenticated : Failure := .error "UNAUTHENTICATED"

/-- The session is of this user, who may use it now. -/
def isValidSession (userId : UserId) (now : Time) (found : AuthSession × User) : Bool :=
  found.1.userId = userId && found.1.revokedAt.isNone && now < found.1.expiresAt && found.2.status = .active &&
    found.2.deletedAt.isNone

def validateAccessSession (userId : UserId) (sessionId : SessionId) : RealtimeM UserId := do
  let (found, now) ← ask (.findSessionWithUserById sessionId)
  match found.filter (isValidSession userId now) with
  | none => throw (.unauthorizedError "Session is no longer valid" "SESSION_INVALID")
  | some (session, _) => return session.userId

/-- Whether a session is on the denylist; without Redis, none is. -/
def isDenied (sessionId : SessionId) : RealtimeM Bool :=
  tryCatch (do
    let reason ← ask (.auth (.redisGet (.sessionRevoked sessionId)))
    return reason.isSome) fun _ => return false

def authenticate (payload : AccessTokenPayload) : RealtimeM Answer := do
  let revoked ← isDenied payload.sid
  if revoked then throw (.error "SESSION_REVOKED")
  else do
    let userId ← tryCatch (validateAccessSession payload.sub payload.sid) fun _ => throw unauthenticated
    ask (.connect userId payload.sid)
    return .connected userId

/-- What the token of a handshake says. -/
def payloadOf (verifyAccessToken : Verify) (handshake : Handshake) : Option AccessTokenPayload :=
  ((extractToken handshake).filter fun token => !token.isEmpty).bind verifyAccessToken

def connect (verifyAccessToken : Verify) (handshake : Handshake) : RealtimeM Answer :=
  match payloadOf verifyAccessToken handshake with
  | none => throw unauthenticated
  | some payload => authenticate payload

/-! ## Messages and events -/

/-- An error of the fan-out is logged. -/
def safe (program : RealtimeM Unit) : RealtimeM Unit := tryCatch program fun _ => return ()

def sendOrderbook (symbol : Text) : RealtimeM Unit := do
  let book ← ask (.getOrderBook symbol)
  ask (.emit (marketRoom symbol) (.orderbookUpdated symbol book))

def emitOrderbookSnapshot (symbol : Text) : RealtimeM Unit := do
  let listens ← ask (.hasListeners (marketRoom symbol))
  if listens then safe (sendOrderbook symbol) else return ()

def sendBalances (userId : UserId) : RealtimeM Unit := do
  let balances ← ask (.listWallets userId)
  ask (.emit (userRoom userId) (.balanceUpdated userId balances))

def emitBalance (userId : UserId) : RealtimeM Unit := do
  let listens ← ask (.hasListeners (userRoom userId))
  if listens then safe (sendBalances userId) else return ()

/-- Of many changes at once, one snapshot is sent. -/
def scheduleOrderbookSnapshot (symbol : Text) : RealtimeM Unit := do
  let isNew ← ask (.schedule symbol)
  if isNew then do
    ask (.fire symbol)
    emitOrderbookSnapshot symbol
  else return ()

def snapshotOf (message : Message) : RealtimeM Unit :=
  match message with
  | .subscribe (some room) => if isMarketRoom room then emitOrderbookSnapshot (symbolFromRoom room) else return ()
  | _ => return ()

def onMessage (id : SocketId) (message : Message) : RealtimeM Unit := do
  let isConnected ← ask (.message id message)
  if isConnected then snapshotOf message else return ()

inductive BusEvent where
  | orderbookChanged (symbol : Text)
  | tradeExecuted (symbol trade : Text)
  | orderUpdated (userId : UserId) (order : Text)
  | balanceChanged (userId : UserId)
  | marketTicker (symbol data : Text)
  | marketCandle (symbol data : Text)
  deriving DecidableEq, Repr

def onBusEvent : BusEvent → RealtimeM Unit
  | .orderbookChanged symbol => scheduleOrderbookSnapshot symbol
  | .tradeExecuted symbol trade => safe (ask (.emit (marketRoom symbol) (.tradeExecuted symbol trade)))
  | .orderUpdated userId order => safe (ask (.emit (userRoom userId) (.orderUpdated userId order)))
  | .balanceChanged userId => emitBalance userId
  | .marketTicker symbol data => safe (ask (.emit (marketDataRoom symbol) (.ticker symbol data)))
  | .marketCandle symbol data => safe (ask (.emit (marketDataRoom symbol) (.candle symbol data)))

/-! ## Requests -/

inductive Request where
  | auth (request : Auth.Service.Request)
  | connect (handshake : Handshake)
  | message (socketId : SocketId) (message : Message)
  | disconnect (socketId : SocketId)
  | event (event : BusEvent)

def handle (config : Auth.Service.Config) (verifyAccessToken : Verify) : Request → RealtimeM Answer
  | .auth request => do
    let response ← lift (request.program config)
    return .auth response
  | .connect handshake => connect verifyAccessToken handshake
  | .message id message => do
    onMessage id message
    return .done
  | .disconnect id => do
    ask (.disconnect id)
    return .done
  | .event event => do
    onBusEvent event
    return .done

def IsRequest (config : Auth.Service.Config) (verifyAccessToken : Verify) (requests : ℕ → Request) (pid : ℕ)
    (program : RealtimeM Answer) : Prop :=
  program = handle config verifyAccessToken (requests pid)

abbrev History := Logged ℕ RealtimeCall RealtimeCall.Reply Failure Store

abbrev Past := List (Answered RealtimeCall RealtimeCall.Reply Failure)

abbrev RealtimePool := Pool ℕ RealtimeCall RealtimeCall.Reply Failure Answer History

/-- A call as a request may see it. -/
abbrev Makes (pid : ℕ) (call : RealtimeCall) (s : Store) (reply : Except Failure call.Reply) (s' : Store) : Prop :=
  Database.Makes perform pid call s reply s'

/-- Any call at any time. -/
def interleaved (pid : ℕ) (call : RealtimeCall) (x : History) (reply : Except Failure call.Reply) (s' : Store) : Prop :=
  Makes pid call x.store reply s'

/-- No socket is connected yet. -/
def Opening (s : Store) : Prop := s.sockets = ∅

/-! ## What a room's name tells -/

theorem digits_of_idText (id : ℕ) : (idText id).map (fun char => char.toNat - 48) = (Nat.digits 10 id).reverse := by
  have back : ∀ digit < 10, (Nat.digitChar digit).toNat - 48 = digit := by decide
  rw [idText, List.map_map]
  refine (List.map_congr_left fun digit member => ?_).trans (List.map_id _)
  exact back digit (Nat.digits_lt_base (by decide) (List.mem_reverse.mp member))

theorem idText_injective : Function.Injective idText := by
  intro a b same
  have digits : (Nat.digits 10 a).reverse = (Nat.digits 10 b).reverse := by
    rw [← digits_of_idText, same, digits_of_idText]
  exact Nat.digits.injective 10 (List.reverse_injective digits)

theorem userRoom_injective : Function.Injective userRoom := by
  intro a b same
  exact idText_injective (List.append_cancel_left same)

theorem ne_userRoom_of_market {room : Text} {userId : UserId} (isMarket : isMarketRoom room) :
    room ≠ userRoom userId := by
  rintro rfl
  rw [isMarketRoom, Bool.and_eq_true] at isMarket
  cases isMarket.1

theorem marketDataRoom_ne {symbol : Text} {userId : UserId} : marketDataRoom symbol ≠ userRoom userId := by
  intro same
  cases same

theorem Socket.mem_join {room other : Text} {socket : Socket} (ne : room ≠ other)
    (joined : other ∈ (socket.join room).rooms) : other ∈ socket.rooms :=
  (List.mem_insert_iff.mp joined).resolve_left (Ne.symm ne)

theorem Socket.mem_leave {room other : Text} {socket : Socket} (joined : other ∈ (socket.leave room).rooms) :
    other ∈ socket.rooms :=
  (List.mem_filter.mp joined).1

/-- No message lets a socket into the room of a user. -/
theorem Socket.mem_handle {message : Message} {socket : Socket} {userId : UserId}
    (joined : userRoom userId ∈ (socket.handle message).rooms) : userRoom userId ∈ socket.rooms := by
  cases message with
  | subscribe payload =>
    cases payload with
    | none => exact joined
    | some room =>
      rw [Socket.handle, Socket.subscribe] at joined
      split at joined
      · exact Socket.mem_join (ne_userRoom_of_market ‹_›) joined
      · exact joined
  | unsubscribe payload =>
    cases payload with
    | none => exact joined
    | some room => exact Socket.mem_leave joined
  | mdSubscribe payload =>
    cases payload with
    | none => exact joined
    | some symbol =>
      rw [Socket.handle, Socket.mdSubscribe] at joined
      split at joined
      · exact joined
      · exact Socket.mem_join marketDataRoom_ne joined
  | mdUnsubscribe payload =>
    cases payload with
    | none => exact joined
    | some symbol => exact Socket.mem_leave joined

/-- No message changes whom a socket belongs to. -/
theorem Socket.owner_handle (message : Message) (socket : Socket) :
    (socket.handle message).userId = socket.userId ∧ (socket.handle message).sessionId = socket.sessionId := by
  cases message with
  | subscribe payload =>
    cases payload with
    | none => exact ⟨rfl, rfl⟩
    | some room =>
      rw [Socket.handle, Socket.subscribe]
      split <;> exact ⟨rfl, rfl⟩
  | unsubscribe payload => cases payload <;> exact ⟨rfl, rfl⟩
  | mdSubscribe payload =>
    cases payload with
    | none => exact ⟨rfl, rfl⟩
    | some symbol =>
      rw [Socket.handle, Socket.mdSubscribe]
      split <;> exact ⟨rfl, rfl⟩
  | mdUnsubscribe payload => cases payload <;> exact ⟨rfl, rfl⟩

end Exchange.Realtime
