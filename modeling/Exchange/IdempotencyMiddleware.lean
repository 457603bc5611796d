import Exchange.AsyncDatabase
import Exchange.Ledger
import Exchange.Text

/-! The middleware in front of the routes that move money. A request claims the
key it carries, runs the handler behind it, and keeps the response; whoever
comes with the same key gets that response again. The data in a response are of
any type `δ`. -/
namespace Exchange.Idempotency
open Ledger (UserId)

/-! ## Responses -/

/-- The standard response envelope. -/
inductive Envelope (δ : Type) where
  | success (data : δ)
  | error (code message : String)
  deriving DecidableEq, Repr

/-- A body of `none` is `null`. -/
structure Response (δ : Type) where
  status : ℕ
  body : Option (Envelope δ)
  deriving DecidableEq, Repr

variable {δ : Type}

def sendSuccess (data : δ) (statusCode : ℕ) : Response δ := ⟨statusCode, some (.success data)⟩

def sendError (statusCode : ℕ) (code message : String) : Response δ :=
  ⟨statusCode, some (.error code message)⟩

/-- The central error handler. -/
def errorHandler (isProd : Bool) : Failure → Response δ
  | .app _ message statusCode errorCode => sendError statusCode errorCode message
  | .prisma code =>
    if code = "P2002" then sendError 409 "CONFLICT" "Resource already exists"
    else if code = "P2025" then sendError 404 "NOT_FOUND" "Resource not found"
    else sendError 400 "DB_REQUEST_ERROR" "Database request error"
  | failure => sendError 500 "INTERNAL_ERROR"
      (if isProd then "An unexpected error occurred" else failure.message)

/-- The response to what a controller has thrown or answered with. -/
def respond (isProd : Bool) : Except Failure (ℕ × δ) → Response δ
  | .ok (statusCode, data) => sendSuccess data statusCode
  | .error failure => errorHandler isProd failure

/-! ## Requests -/

structure Request where
  /-- Set by `authenticate`. -/
  user : Option UserId
  method : Text
  baseUrl : Text
  /-- `req.route?.path`. -/
  route : Option Text
  path : Text
  idempotencyKey : Option Text
  deriving DecidableEq, Repr

/-- The columns of the unique index. -/
structure Slot where
  userId : UserId
  endpoint : Text
  key : Text
  deriving DecidableEq, Repr

def KEY_MIN : ℕ := 8

def KEY_MAX : ℕ := 255

/-- Stable endpoint identity: method and mounted route, without the query string. -/
def endpointId (req : Request) : Text := req.method ++ ':' :: req.baseUrl ++ req.route.getD req.path

/-- The key of a request, under its user and endpoint. An empty header is none. -/
def slotOf (req : Request) : Except Failure Slot :=
  match req.user with
  | none => .error (.unauthorizedError "Authentication required" "UNAUTHORIZED")
  | some userId =>
    match req.idempotencyKey.filter (· ≠ []) with
    | none => .error (.badRequestError "Idempotency-Key header is required for this operation")
    | some header =>
      let key := Text.trim header
      if key.length < KEY_MIN ∨ KEY_MAX < key.length then
        .error (.badRequestError "Idempotency-Key has an invalid length")
      else .ok ⟨userId, endpointId req, key⟩

/-! ## The table -/

/-- A row of `idempotency_keys`; without a status it is a placeholder. -/
structure IdempotencyKey (δ : Type) where
  responseStatus : Option ℕ
  responseBody : Option (Envelope δ)
  deriving DecidableEq, Repr

structure Store (δ : Type) where
  keys : Table Slot (IdempotencyKey δ)

def create (slot : Slot) (s : Store δ) : Except Failure (Unit × Store δ) :=
  if (s.keys.lookup slot).isSome then .error .uniqueViolation
  else .ok ((), ⟨s.keys.insert slot ⟨none, none⟩⟩)

def update (slot : Slot) (response : Response δ) (s : Store δ) : Except Failure (Unit × Store δ) :=
  match s.keys.lookup slot with
  | some _ => .ok ((), ⟨s.keys.insert slot ⟨some response.status, response.body⟩⟩)
  | none => .error (.prisma "P2025")

/-- Only a placeholder is deleted. -/
def deleteMany (slot : Slot) (s : Store δ) : Store δ :=
  if (s.keys.lookup slot).any fun row => row.responseStatus = none then ⟨s.keys.erase slot⟩ else s

/-! ## Calls -/

/-- `handler` is the rest of the route; `finish` is its response handed over. -/
inductive IdempotencyCall (δ : Type) where
  | findUnique (slot : Slot)
  | create (slot : Slot)
  | handler
  | finish (response : Response δ)
  | deleteMany (slot : Slot)
  | update (slot : Slot) (response : Response δ)
  deriving DecidableEq, Repr

abbrev IdempotencyCall.Reply : IdempotencyCall δ → Type
  | .findUnique _ => Option (IdempotencyKey δ)
  | .create _ => Unit
  | .handler => ℕ × δ
  | .finish _ => Bool
  | .deleteMany _ => Unit
  | .update _ _ => Unit

/-- What the controller does, whether the client is still there, and whether the
answer of a call gets lost on its way back. -/
structure World (δ : Type) where
  controller : Except Failure (ℕ × δ)
  connected : Bool
  drops : IdempotencyCall δ → Bool

/-- What a call does; `finish` is emitted only if the client is still there. -/
def act (world : World δ) : (call : IdempotencyCall δ) → Store δ → Except Failure call.Reply × Store δ
  | .findUnique slot, s => (.ok (s.keys.lookup slot), s)
  | .create slot, s => Database.written s (create slot s)
  | .handler, s => (world.controller, s)
  | .finish _, s => (.ok world.connected, s)
  | .deleteMany slot, s => (.ok (), deleteMany slot s)
  | .update slot response, s => Database.written s (update slot response s)

def perform (world : World δ) (_pid : ℕ) (call : IdempotencyCall δ) (s : Store δ) :
    Except Failure call.Reply × Store δ :=
  let (reply, s') := act world call s
  (if world.drops call then .error (.error "Connection terminated") else reply, s')

/-- A call as a request may see it. -/
abbrev Makes (pid : ℕ) (call : IdempotencyCall δ) (s : Store δ) (reply : Except Failure call.Reply)
    (s' : Store δ) : Prop :=
  Database.Makes perform pid call s reply s'

abbrev IdempotencyM (δ : Type) := Async (IdempotencyCall δ) IdempotencyCall.Reply Failure

abbrev ask (call : IdempotencyCall δ) : IdempotencyM δ call.Reply := Async.call call

/-! ## The middleware -/

/-- What a request is answered with. -/
inductive Answer (δ : Type) where
  | original (response : Response δ)
  /-- With the header `Idempotent-Replayed`. -/
  | replayed (response : Response δ)
  deriving DecidableEq, Repr

/-- Claims the key with a placeholder. -/
def claim (slot : Slot) : IdempotencyM δ Unit :=
  tryCatch (ask (.create slot)) fun failure =>
    if failure = .uniqueViolation then
      throw (.conflictError "A request with this Idempotency-Key is already in progress" "IDEMPOTENCY_IN_PROGRESS")
    else throw failure

/-- A server error releases the claim, any other response is kept. What fails
here is logged. -/
def persist (slot : Slot) (response : Response δ) : IdempotencyM δ Unit :=
  tryCatch (if 500 ≤ response.status then ask (.deleteMany slot) else ask (.update slot response))
    fun _ => return ()

/-- The handler, and its errors. -/
def handle (isProd : Bool) : IdempotencyM δ (Response δ) :=
  tryCatch (do
      let answer ← ask .handler
      return respond isProd (.ok answer))
    fun failure => return respond isProd (.error failure)

/-- The first request with a key. -/
def original (isProd : Bool) (slot : Slot) : IdempotencyM δ (Answer δ) := do
  claim slot
  let response ← handle isProd
  let finished ← ask (.finish response)
  if finished then persist slot response
  return .original response

def idempotency (isProd : Bool) (req : Request) : IdempotencyM δ (Answer δ) :=
  match slotOf req with
  | .error failure => throw failure
  | .ok slot => do
    let existing ← ask (.findUnique slot)
    match existing with
    | none => original isProd slot
    | some row =>
      match row.responseStatus with
      | none => throw (.conflictError "A request with this Idempotency-Key is still being processed"
          "IDEMPOTENCY_IN_PROGRESS")
      | some status => return .replayed ⟨status, row.responseBody⟩

/-- The request of each number. -/
def IsRequest (isProd : Bool) (requests : ℕ → Request) (pid : ℕ) (program : IdempotencyM δ (Answer δ)) : Prop :=
  program = idempotency isProd (requests pid)

end Exchange.Idempotency
