import Exchange.Promises
import Mathlib.Logic.Relation

/-! Matching one market at a time. `withMarketLock` gives each call a section of
its own and chains it to the call before of the same market by promises. The
code around it, the sections included, makes calls, makes promises, chains to
those it knows of and resolves its own, at any time. -/
namespace Exchange.MarketLock
open Promises Relation

/-- What a job calls: the function of a call of `withMarketLock`, the one that
returns nothing, or code of others. -/
inductive Handler where
  | fn (n : ℕ)
  | ignore
  | outside
  deriving DecidableEq

/-- The promises of a call of `withMarketLock`. -/
structure Call where
  key : String
  prev : PromiseId
  run : PromiseId
  chain : PromiseId

/-- Calls and the functions they were given are numbered in the order of the
calls. `running` is the handler under execution with the promise it resolves,
`started` the functions that were called and `returned` what they came to. -/
structure State (α : Type) where
  heap : Heap Handler α
  marketChains : String → Option PromiseId
  calls : List Call
  running : Option (Handler × PromiseId)
  started : List ℕ
  returned : ℕ → Option (Completion α)

variable {α : Type}

def withMarketLock (key : String) (x : State α) : PromiseId × State α :=
  let fn := Handler.fn x.calls.length
  let (prev, heap) :=
    match x.marketChains key with
    | some prev => (prev, x.heap)
    | none => x.heap.makeResolved
  let (run, heap) := heap.thenDo prev fn fn
  let (chain, heap) := heap.thenDo run .ignore .ignore
  (run,
    { x with
      heap
      marketChains := Function.update x.marketChains key (some chain)
      calls := x.calls ++ [⟨key, prev, run, chain⟩] })

namespace State

def start : State α := ⟨⟨fun _ => .pending [], 0, []⟩, fun _ => none, [], none, [], fun _ => none⟩

/-- Executing the job at the head of the queue. -/
def execute (job : Job Handler α) (rest : List (Job Handler α)) (x : State α) : State α :=
  let heap := { x.heap with jobs := rest }
  match job with
  | .call (.fn n) _ derived => { x with heap, running := some (.fn n, derived), started := x.started ++ [n] }
  | .call .outside _ derived => { x with heap, running := some (.outside, derived) }
  | .call .ignore _ derived => { x with heap := heap.resolve derived (.value .undefined) }
  | .settle target outcome => { x with heap := heap.settle target outcome }
  | .adopt target source => { x with heap := heap.react source (.adopt target) }

/-- The end of the handler under execution. -/
def finish (handler : Handler) (derived : PromiseId) (completion : Completion α) (x : State α) : State α :=
  { x with
    heap := x.heap.resolve derived completion
    running := none
    returned := match handler with
      | .fn n => Function.update x.returned n (some completion)
      | _ => x.returned }

/-- Promises that `withMarketLock` did not make, so that others may resolve
them. -/
def Foreign (x : State α) (id : PromiseId) : Prop := ∀ call ∈ x.calls, id ≠ call.run ∧ id ≠ call.chain

/-- A function can only come to a promise that has been made. -/
def Known (x : State α) (completion : Completion α) : Prop := ∀ id, completion = .promise id → id < x.heap.size

/-- What code does while it runs, up to the end of a handler. -/
inductive Act (x : State α) : State α → Prop
  | call (key : String) : Act x (withMarketLock key x).2
  | make : Act x { x with heap := x.heap.make.2 }
  | thenDo (id : PromiseId) (made : id < x.heap.size) :
      Act x { x with heap := (x.heap.thenDo id .outside .outside).2 }
  | resolve (id : PromiseId) (completion : Completion α) (made : id < x.heap.size) (isForeign : x.Foreign id)
      (known : x.Known completion) : Act x { x with heap := x.heap.resolve id completion }
  | finish (handler : Handler) (derived : PromiseId) (completion : Completion α)
      (isRunning : x.running = some (handler, derived)) (known : x.Known completion) :
      Act x (x.finish handler derived completion)

/-- The next job is taken when nothing runs. -/
inductive Turn (x : State α) : State α → Prop
  | job (job : Job Handler α) (rest : List (Job Handler α)) (idle : x.running = none)
      (head : x.heap.jobs = job :: rest) : Turn x (x.execute job rest)

def Step (x y : State α) : Prop := Act x y ∨ Turn x y

/-- The states of all runs, of any calls and of functions that end in any way. -/
def Reached (x : State α) : Prop := ReflTransGen Step start x

/-- Steps of which so many are turns. -/
inductive Turns : ℕ → State α → State α → Prop
  | refl (x : State α) : Turns 0 x x
  | act {x y z : State α} {n : ℕ} (act : Act x y) (later : Turns n y z) : Turns n x z
  | turn {x y z : State α} {n : ℕ} (turn : Turn x y) (later : Turns n y z) : Turns (n + 1) x z

/-- As many turns as there are jobs in the queue. -/
def Round (x y : State α) : Prop := ∃ n ≥ x.heap.jobs.length, Turns n x y

def Rounds : ℕ → State α → State α → Prop
  | 0, x, y => x = y
  | n + 1, x, z => ∃ y, Round x y ∧ Rounds n y z

/-- A function has ended when it has thrown or returned and the promise it
returned is settled. -/
def Ended (x : State α) (n : ℕ) : Prop :=
  ∃ completion, x.returned n = some completion ∧ ∀ id, completion = .promise id → x.heap.outcome id ≠ none

/-- The section of a call lasts from the call of its function to its end. -/
def UnderWay (x : State α) (n : ℕ) : Prop := n ∈ x.started ∧ ¬ x.Ended n

def SameMarket (x : State α) (m n : ℕ) : Prop :=
  ∃ call other, x.calls[m]? = some call ∧ x.calls[n]? = some other ∧ call.key = other.key

/-- What a mutex for each market that serves its callers in their order gives. -/
structure FairMutex (x : State α) : Prop where
  exclusive : ∀ m n, x.SameMarket m n → x.UnderWay m → x.UnderWay n → m = n
  /-- A section begins after all before it of its market are over. -/
  behind : ∀ m n, x.SameMarket m n → m < n → n ∈ x.started → m ∈ x.started ∧ x.Ended m
  inOrder : x.started.Pairwise fun m n => x.SameMarket m n → m < n
  once : x.started.Nodup
  /-- However the sections before it ended, the next one begins within four
  rounds. -/
  served : ∀ n < x.calls.length, (∀ m < n, x.SameMarket m n → x.Ended m) → ∀ y, Rounds 4 x y → n ∈ y.started
  /-- When no job is left, every section has begun, unless one of its market is
  still under way. -/
  complete : x.heap.jobs = [] → ∀ n < x.calls.length, (∀ m, x.SameMarket m n → ¬ x.UnderWay m) → n ∈ x.started

variable {x y : State α} {job : Job Handler α} {rest : List (Job Handler α)} {n : ℕ} {call : Call} {id : PromiseId}

theorem SameMarket.symm {m : ℕ} (same : x.SameMarket m n) : x.SameMarket n m := by
  obtain ⟨call, other, isCall, isOther, isKey⟩ := same
  exact ⟨other, call, isOther, isCall, isKey.symm⟩

theorem SameMarket.trans {m i : ℕ} (first : x.SameMarket m n) (second : x.SameMarket n i) : x.SameMarket m i := by
  obtain ⟨call, middle, isCall, isMiddle, isKey⟩ := first
  obtain ⟨middle', last, isMiddle', isLast, isKey'⟩ := second
  cases isMiddle.symm.trans isMiddle'
  exact ⟨call, last, isCall, isLast, isKey.trans isKey'⟩

/-! ## What a call of `withMarketLock` does -/

/-- The state after a call whose predecessor and heap are known. -/
def linkedTo (key : String) (prev : PromiseId) (heap : Heap Handler α) (x : State α) : State α :=
  { x with
    heap := ((heap.thenDo prev (.fn x.calls.length) (.fn x.calls.length)).2.thenDo heap.size .ignore .ignore).2
    marketChains := Function.update x.marketChains key (some (heap.size + 1))
    calls := x.calls ++ [⟨key, prev, heap.size, heap.size + 1⟩] }

theorem withMarketLock_cases (key : String) (x : State α) :
    (∃ prev, x.marketChains key = some prev ∧ (withMarketLock key x).2 = x.linkedTo key prev x.heap) ∨
      x.marketChains key = none ∧ (withMarketLock key x).2 = x.linkedTo key x.heap.size x.heap.makeResolved.2 := by
  have chainAt : ∀ (prev : PromiseId) (heap : Heap Handler α) (fn : Handler),
      ((heap.thenDo prev fn fn).2.thenDo heap.size .ignore .ignore).1 = heap.size + 1 := fun _ _ _ => Heap.thenDo_size
  cases isChain : x.marketChains key with
  | some prev =>
    refine .inl ⟨prev, rfl, ?_⟩
    simp only [withMarketLock, isChain, linkedTo, ← chainAt prev x.heap (.fn x.calls.length)]
    rfl
  | none =>
    refine .inr ⟨rfl, ?_⟩
    simp only [withMarketLock, isChain, linkedTo, ← chainAt x.heap.size x.heap.makeResolved.2 (.fn x.calls.length)]
    rfl

/-! ## What steps do -/

theorem getElem?_concat_iff {calls : List Call} {last : Call} :
    (calls ++ [last])[n]? = some call ↔ calls[n]? = some call ∨ n = calls.length ∧ last = call := by
  rw [List.getElem?_append]
  split
  · rename_i made
    simp [Nat.ne_of_lt made]
  · rename_i unmade
    have late := Nat.le_of_not_lt unmade
    simp [List.getElem?_eq_none late, List.getElem?_singleton, Nat.sub_eq_zero_iff_le]
    omega

@[simp] theorem execute_calls : (x.execute job rest).calls = x.calls := by
  cases job with
  | call handler => cases handler <;> rfl
  | settle | adopt => rfl

theorem Act.calls (act : Act x y) (isCall : x.calls[n]? = some call) : y.calls[n]? = some call := by
  cases act with
  | call key =>
    obtain ⟨prev, -, called⟩ | ⟨-, called⟩ := withMarketLock_cases key x
    · rw [called]
      exact getElem?_concat_iff.mpr (.inl isCall)
    · rw [called]
      exact getElem?_concat_iff.mpr (.inl isCall)
  | make | thenDo | resolve | finish => exact isCall

theorem Step.calls (step : Step x y) (isCall : x.calls[n]? = some call) : y.calls[n]? = some call := by
  rcases step with act | ⟨job, rest, -, -⟩
  · exact act.calls isCall
  · rwa [execute_calls]

theorem Act.started (act : Act x y) : y.started = x.started := by
  cases act with
  | call key =>
    obtain ⟨prev, -, called⟩ | ⟨-, called⟩ := withMarketLock_cases key x <;> rw [called] <;> rfl
  | make | thenDo | resolve | finish => rfl

theorem execute_started (job : Job Handler α) (rest : List (Job Handler α)) (x : State α) :
    (x.execute job rest).started = x.started ∨
      ∃ n argument derived, job = .call (.fn n) argument derived ∧ (x.execute job rest).started = x.started ++ [n] := by
  cases job with
  | settle | adopt => exact .inl rfl
  | call handler argument derived =>
    cases handler with
    | fn n => exact .inr ⟨n, argument, derived, rfl, rfl⟩
    | ignore | outside => exact .inl rfl

theorem Step.outcome (step : Step x y) (settled : x.heap.outcome id ≠ none) : y.heap.outcome id ≠ none := by
  rcases step with act | ⟨job, rest, -, -⟩
  · cases act with
    | make => exact settled
    | thenDo => rwa [Heap.thenDo_outcome]
    | resolve | finish => exact Heap.resolve_outcome_stays settled
    | call key =>
      obtain ⟨prev, -, called⟩ | ⟨-, called⟩ := withMarketLock_cases key x
      · rw [called]
        simpa [linkedTo] using settled
      · have settled : x.heap.makeResolved.2.outcome id ≠ none := Heap.settle_outcome_stays settled
        rw [called]
        simpa [linkedTo] using settled
  · cases job with
    | settle => exact Heap.settle_outcome_stays settled
    | adopt => rwa [execute, Heap.react_outcome]
    | call handler =>
      cases handler with
      | ignore => exact Heap.resolve_outcome_stays settled
      | fn | outside => exact settled

theorem outcome_steps (steps : ReflTransGen Step x y) (settled : x.heap.outcome id ≠ none) :
    y.heap.outcome id ≠ none := by
  induction steps with
  | refl => exact settled
  | tail _ step ih => exact step.outcome ih

theorem linkedTo_jobs (key : String) (prev : PromiseId) (heap : Heap Handler α) :
    heap.jobs <+: (x.linkedTo key prev heap).heap.jobs := Heap.thenDo_prefix.trans Heap.thenDo_prefix

theorem Act.jobs (act : Act x y) : x.heap.jobs <+: y.heap.jobs := by
  cases act with
  | make => exact List.prefix_refl _
  | thenDo => exact Heap.thenDo_prefix
  | resolve | finish => exact Heap.resolve_prefix
  | call key =>
    obtain ⟨prev, -, called⟩ | ⟨-, called⟩ := withMarketLock_cases key x
    · rw [called]
      exact linkedTo_jobs key prev x.heap
    · rw [called]
      exact Heap.makeResolved_prefix.trans (linkedTo_jobs key x.heap.size x.heap.makeResolved.2)

theorem execute_jobs (job : Job Handler α) (rest : List (Job Handler α)) (x : State α) :
    rest <+: (x.execute job rest).heap.jobs := by
  let taken := { x.heap with jobs := rest }
  cases job with
  | settle => exact Heap.settle_prefix (x := taken)
  | adopt => exact Heap.react_prefix (x := taken)
  | call handler =>
    cases handler with
    | ignore => exact Heap.resolve_prefix (x := taken)
    | fn | outside => exact List.prefix_refl _

theorem Turns.steps {k : ℕ} (turns : Turns k x y) : ReflTransGen Step x y := by
  induction turns with
  | refl => exact .refl
  | act act _ ih => exact .head (.inl act) ih
  | turn turn _ ih => exact .head (.inr turn) ih

theorem Round.steps (round : Round x y) : ReflTransGen Step x y := by
  obtain ⟨k, -, turns⟩ := round
  exact turns.steps

end State
end Exchange.MarketLock
