import Exchange.AsyncHistory

/-! Calls that come in pairs. After a first call that went through, a program
makes the second one next, and does not end between the two. -/
namespace Exchange
open Async

/-- Which calls may be made while no pair is open, which answers open a pair,
and which calls close it. -/
structure Pairing (Call : Type) (Reply : Call → Type) (ε : Type) where
  may : List (Answered Call Reply ε) → Call → Prop
  opens : (call : Call) → Reply call → Prop
  closes : (call : Call) → Reply call → Call → Prop

namespace Pairing
variable {Call : Type} {Reply : Call → Type} {ε α β : Type} (P : Pairing Call Reply ε)

/-- The last call has opened a pair. -/
def Midway : List (Answered Call Reply ε) → Prop
  | ⟨call, .ok value⟩ :: _ => P.opens call value
  | _ => False

/-- The calls a program may make. -/
inductive Keeps : List (Answered Call Reply ε) → Call → Prop
  | free {past : List (Answered Call Reply ε)} {call : Call} (free : ¬P.Midway past) (may : P.may past call) :
      Keeps past call
  | close {past : List (Answered Call Reply ε)} {call second : Call} {value : Reply call} (opened : P.opens call value)
      (closes : P.closes call value second) : Keeps (⟨call, .ok value⟩ :: past) second

/-- A program that closes each pair it opens. -/
abbrev Whole (past : List (Answered Call Reply ε)) (program : Async Call Reply ε α) : Prop :=
  program.Obeys P.Keeps (fun later _ => ¬P.Midway later) past

variable {P} {past : List (Answered Call Reply ε)} {program : Async Call Reply ε α}

theorem whole_pure {value : α} (free : ¬P.Midway past) : P.Whole past (pure value : Async Call Reply ε α) := free

theorem whole_throw {failure : ε} (free : ¬P.Midway past) : P.Whole past (throw failure : Async Call Reply ε α) :=
  free

theorem whole_ask {call : Call} (keeps : P.Keeps past call) (closed : ∀ value, ¬P.opens call value) :
    P.Whole past (Async.call call : Async Call Reply ε (Reply call)) := by
  refine ⟨keeps, fun reply => ?_⟩
  cases reply with
  | error failure => exact not_false
  | ok value => exact closed value

/-- What comes after a call starts with its answer. -/
theorem whole_call {call : Call} {next : Reply call → Async Call Reply ε α} (keeps : P.Keeps past call)
    (rest : ∀ value, P.Whole (⟨call, .ok value⟩ :: past) (next value)) :
    P.Whole past (Async.call call >>= next) := by
  refine ⟨keeps, fun reply => ?_⟩
  cases reply with
  | error failure => exact not_false
  | ok value => exact rest value

/-- A call whose failure is handled. -/
theorem whole_attempt {call : Call} {next : Except ε (Reply call) → Async Call Reply ε α} (keeps : P.Keeps past call)
    (lost : ∀ failure, P.Whole (⟨call, .error failure⟩ :: past) (next (.error failure)))
    (rest : ∀ value, P.Whole (⟨call, .ok value⟩ :: past) (next (.ok value))) :
    P.Whole past ((Async.call call).settled >>= next) := by
  refine ⟨keeps, fun reply => ?_⟩
  cases reply with
  | error failure => exact lost failure
  | ok value => exact rest value

theorem whole_bind {next : α → Async Call Reply ε β} (first : P.Whole past program)
    (rest : ∀ value later, past <:+ later → ¬P.Midway later → P.Whole later (next value)) :
    P.Whole past (program >>= next) := by
  rw [Whole, obeys_bind]
  refine first.grows.imp fun later result ⟨grown, free⟩ => ?_
  cases result with
  | error failure => exact free
  | ok value => exact rest value later grown free

/-- As above, with what the first part's answer says. -/
theorem whole_seq {fact : α → List (Answered Call Reply ε) → Prop} {next : α → Async Call Reply ε β}
    (first : program.Obeys P.Keeps (EndsWith (fun later => ¬P.Midway later) fun value later =>
      ¬P.Midway later ∧ fact value later) past)
    (rest : ∀ value later, past <:+ later → ¬P.Midway later → fact value later → P.Whole later (next value)) :
    P.Whole past (program >>= next) := by
  rw [Whole, obeys_bind]
  refine first.grows.imp fun later result ⟨grown, ended⟩ => ?_
  cases result with
  | error failure => exact ended
  | ok value => exact rest value later grown ended.1 ended.2

theorem whole_catch {handler : ε → Async Call Reply ε α} (body : P.Whole past program)
    (handled : ∀ failure later, past <:+ later → ¬P.Midway later → P.Whole later (handler failure)) :
    P.Whole past (tryCatch program handler) := by
  rw [Whole, obeys_tryCatch]
  refine body.grows.imp fun later result ⟨grown, free⟩ => ?_
  cases result with
  | error failure => exact handled failure later grown free
  | ok value => exact free

theorem whole_settled (body : P.Whole past program) : P.Whole past program.settled := by
  induction program generalizing past with
  | done result => exact body
  | await call resume ih => exact ⟨body.1, fun reply => ih reply (body.2 reply)⟩

end Pairing
end Exchange
