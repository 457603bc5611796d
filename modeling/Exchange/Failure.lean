import Mathlib.Data.List.Defs

/-! What a service call can throw: the application errors of `lib/errors.ts`,
the database errors Prisma reports with a code, and any other rejection by
the database or its driver. -/
namespace Exchange

/-- The class a thrown application error is an instance of. -/
inductive ErrorClass where
  | appError
  | badRequest
  | forbidden
  | notFound
  | conflict
  deriving DecidableEq, Repr

inductive Failure where
  /-- An `AppError` or one of its subclasses. -/
  | app (errorClass : ErrorClass) (message : String) (statusCode : Nat) (errorCode : String)
  /-- `Prisma.PrismaClientKnownRequestError`. -/
  | prisma (code : String)
  | database (reason : String)
  /-- A plain `Error`. -/
  | error (message : String)
  deriving DecidableEq, Repr

namespace Failure

def appError (message : String) (statusCode : Nat) (errorCode : String) : Failure :=
  .app .appError message statusCode errorCode

def badRequestError (message : String) : Failure := .app .badRequest message 400 "BAD_REQUEST"

/-- Nothing asks whether an error is of this class. -/
def unauthorizedError (message errorCode : String) : Failure := .app .appError message 401 errorCode

def forbiddenError (message errorCode : String) : Failure := .app .forbidden message 403 errorCode

def notFoundError (message : String) (errorCode : String := "NOT_FOUND") : Failure :=
  .app .notFound message 404 errorCode

def conflictError (message errorCode : String) : Failure := .app .conflict message 409 errorCode

/-- A unique constraint was violated. -/
def uniqueViolation : Failure := .prisma "P2002"

/-- A serializable transaction lost a write conflict and was rolled back. -/
def writeConflict : Failure := .prisma "P2034"

/-- `err instanceof ConflictError`. -/
def isConflictError : Failure → Bool
  | .app .conflict _ _ _ => true
  | _ => false

/-- `err.message`; a database error is shown by what tells it apart. -/
def message : Failure → String
  | .app _ message _ _ => message
  | .prisma code => code
  | .database reason => reason
  | .error message => message

def errorCode : Failure → Option String
  | .app _ _ _ code => some code
  | _ => none

end Failure

/-- A bind that succeeds ran both of its parts. -/
theorem except_bind_ok {first : Except ε α} {next : α → Except ε β} :
    first >>= next = .ok result ↔ ∃ value, first = .ok value ∧ next value = .ok result := by
  cases first with
  | error failure => simp [bind, Except.bind]
  | ok value => simp [bind, Except.bind]

end Exchange
