import Exchange.Async
import Exchange.Table

/-! Programs in flight. A pool holds a store and the programs of all requests
that have arrived; a step makes one call of one of them. A sequential run
executes each program to its end before the next arrives. Both inherit what
the triples of the programs say. -/
namespace Exchange

/-- A store and, by request, what is left of each program. -/
structure Pool (Pid Call : Type) (Reply : Call → Type) (ε α σ : Type) where
  store : σ
  programs : Table Pid (Async Call Reply ε α)

namespace Pool
variable {Pid Call : Type} {Reply : Call → Type} {ε σ α : Type} [DecidableEq Pid]
variable (P : Protocol Pid Call Reply ε σ)
variable (Request : Pid → Async Call Reply ε α → Prop)

/-- A request with a fresh number arrives, or a program in flight makes its
next call. -/
inductive Step : Pool Pid Call Reply ε α σ → Pool Pid Call Reply ε α σ → Prop
  | arrive {pool : Pool Pid Call Reply ε α σ} {pid : Pid} {program : Async Call Reply ε α}
      (fresh : pool.programs.lookup pid = none) (request : Request pid program) :
      Step pool ⟨pool.store, pool.programs.insert pid program⟩
  | resume {pool : Pool Pid Call Reply ε α σ} {pid : Pid} {call : Call}
      {next : Except ε (Reply call) → Async Call Reply ε α} {reply : Except ε (Reply call)} {s' : σ}
      (waiting : pool.programs.lookup pid = some (.await call next))
      (made : P.step pid call pool.store reply s') :
      Step pool ⟨s', pool.programs.insert pid (next reply)⟩

/-- The pools reached from an initial store without programs. -/
inductive Run (Initial : σ → Prop) : Pool Pid Call Reply ε α σ → Prop
  | start {s : σ} (initial : Initial s) : Run Initial ⟨s, ∅⟩
  | step {pool pool' : Pool Pid Call Reply ε α σ} (before : Run Initial pool) (step : Step P Request pool pool') : Run Initial pool'

/-- No request is in flight. -/
def Quiet (pool : Pool Pid Call Reply ε α σ) : Prop :=
  ∀ pid program, pool.programs.lookup pid = some program → program.isDone

def isQuiet (pool : Pool Pid Call Reply ε α σ) : Bool :=
  pool.programs.rows.all fun (_, program) => program.isDone

theorem quiet_of_isQuiet {pool : Pool Pid Call Reply ε α σ} (isQuiet : pool.isQuiet) :
    pool.Quiet := fun pid program found =>
  List.all_eq_true.mp isQuiet (pid, program) (Table.mem_rows.mpr found)

/-- What a request has answered. -/
def answerOf (pool : Pool Pid Call Reply ε α σ) (pid : Pid) : Option α :=
  match pool.programs.lookup pid with
  | some (.done (.ok value)) => some value
  | _ => none

theorem ended_of_answerOf {pool : Pool Pid Call Reply ε α σ} {pid : Pid} {value : α}
    (answers : pool.answerOf pid = some value) : pool.programs.lookup pid = some (.done (.ok value)) := by
  unfold answerOf at answers
  split at answers
  · rename_i found
    cases answers
    exact found
  · cases answers

variable {P Request} {Initial : σ → Prop} {pool pool' : Pool Pid Call Reply ε α σ}

/-- Triples for the programs of all requests, with what holds of a number that
has not arrived yet, and of one whose program has ended. -/
structure Proved (P : Protocol Pid Call Reply ε σ) (Request : Pid → Async Call Reply ε α → Prop)
    (Initial : σ → Prop) (unused : Pid → σ → Prop) (ended : Pid → Except ε α → σ → Prop) :
    Prop where
  initial : ∀ s, Initial s → P.inv s ∧ ∀ pid, unused pid s
  noninterference : ∀ i j s s', i ≠ j → P.inv s → P.inv s' → P.guarantee i s s' → P.rely j s s'
  unused_stable : ∀ pid, P.Stable pid (unused pid)
  ended_stable : ∀ pid result, P.Stable pid (ended pid result)
  triple : ∀ pid program, Request pid program → P.Triple pid (unused pid) program (ended pid)

/-- What holds of one request in a pool. -/
private def Covered (P : Protocol Pid Call Reply ε σ) (unused : Pid → σ → Prop)
    (ended : Pid → Except ε α → σ → Prop) (pool : Pool Pid Call Reply ε α σ) (pid : Pid) : Prop :=
  match pool.programs.lookup pid with
  | none => unused pid pool.store
  | some program => P.Safe pid (ended pid) program pool.store

variable {unused : Pid → σ → Prop} {ended : Pid → Except ε α → σ → Prop}

private theorem covered_step (proved : Proved P Request Initial unused ended)
    (inv : P.inv pool.store) (covered : ∀ pid, Covered P unused ended pool pid)
    (step : Step P Request pool pool') :
    (P.inv pool'.store ∧ ∀ pid, Covered P unused ended pool' pid) ∧
      (pool'.store = pool.store ∨ ∃ pid, P.guarantee pid pool.store pool'.store) := by
  cases step with
  | @arrive pid program fresh request =>
    refine ⟨⟨inv, fun other => ?_⟩, .inl rfl⟩
    by_cases same : other = pid
    · subst same
      have before := covered other
      simp only [Covered, fresh] at before
      simpa only [Covered, AList.lookup_insert] using
        proved.triple other program request pool.store inv before
    · simpa only [Covered, AList.lookup_insert_ne same] using covered other
  | @resume pid call next reply store waiting made =>
    have safe := covered pid
    simp only [Covered, waiting] at safe
    obtain ⟨inv', guaranteed, rest⟩ := safe pool.store .refl reply store made
    refine ⟨⟨inv', fun other => ?_⟩, .inr ⟨pid, guaranteed⟩⟩
    by_cases same : other = pid
    · subst same
      simpa only [Covered, AList.lookup_insert] using rest
    · have rely := proved.noninterference pid other _ _ (Ne.symm same) inv inv' guaranteed
      have before := covered other
      simp only [Covered, AList.lookup_insert_ne same] at before ⊢
      cases found : pool.programs.lookup other with
      | none =>
        simp only [found] at before ⊢
        exact proved.unused_stable other _ _ inv before rely inv'
      | some program =>
        simp only [found] at before ⊢
        exact before.others (.single ⟨rely, inv'⟩) (proved.ended_stable other) inv

private theorem run_covered (proved : Proved P Request Initial unused ended)
    (run : Run P Request Initial pool) :
    P.inv pool.store ∧ ∀ pid, Covered P unused ended pool pid := by
  induction run with
  | @start store initial =>
    obtain ⟨inv, fresh⟩ := proved.initial store initial
    exact ⟨inv, fun pid => by simpa only [Covered, AList.lookup_empty] using fresh pid⟩
  | step before step ih => exact (covered_step proved ih.1 ih.2 step).1

/-- The invariant holds in every pool reached. -/
theorem Run.inv (proved : Proved P Request Initial unused ended)
    (run : Run P Request Initial pool) : P.inv pool.store :=
  (run_covered proved run).1

/-- Every step of a run changes the store as some request guarantees. -/
theorem Run.guarantee (proved : Proved P Request Initial unused ended)
    (run : Run P Request Initial pool) (step : Step P Request pool pool') :
    pool'.store = pool.store ∨ ∃ pid, P.guarantee pid pool.store pool'.store :=
  (covered_step proved (run_covered proved run).1 (run_covered proved run).2 step).2

/-- Of a request that is answered its postcondition holds, however the others go on. -/
theorem Run.answered (proved : Proved P Request Initial unused ended) (run : Run P Request Initial pool)
    {pid : Pid} {value : α} (answers : pool.answerOf pid = some value) : ended pid (.ok value) pool.store := by
  have covered := (run_covered proved run).2 pid
  unfold Covered at covered
  rw [ended_of_answerOf answers] at covered
  exact covered

/-- When no request is in flight, each has either not arrived or ended. -/
theorem Run.quiet (proved : Proved P Request Initial unused ended)
    (run : Run P Request Initial pool) (quiet : pool.Quiet) (pid : Pid) :
    unused pid pool.store ∨ ∃ result, ended pid result pool.store := by
  have covered := (run_covered proved run).2 pid
  unfold Covered at covered
  cases found : pool.programs.lookup pid with
  | none =>
    simp only [found] at covered
    exact .inl covered
  | some program =>
    simp only [found] at covered
    cases program with
    | done result => exact .inr ⟨result, covered⟩
    | await call next => cases quiet pid _ found

/-! ## Schedules -/

/-- Lets one program make up to `n` calls. -/
def advance (perform : Pid → (call : Call) → σ → Option (Except ε (Reply call) × σ)) (pid : Pid) :
    ℕ → Pool Pid Call Reply ε α σ → Option (Pool Pid Call Reply ε α σ)
  | 0, pool => some pool
  | n + 1, pool =>
    match pool.programs.lookup pid with
    | some (.await call next) =>
      match perform pid call pool.store with
      | some (reply, s') => advance perform pid n ⟨s', pool.programs.insert pid (next reply)⟩
      | none => none
    | _ => some pool

/-- The pools reached from a pool that was reached. -/
theorem Run.steps (run : Run P Request Initial pool)
    (steps : Relation.ReflTransGen (Step P Request) pool pool') : Run P Request Initial pool' := by
  induction steps with
  | refl => exact run
  | tail _ step ih => exact ih.step step

theorem advance_steps {perform : Pid → (call : Call) → σ → Option (Except ε (Reply call) × σ)}
    (sound : ∀ pid call s reply s', perform pid call s = some (reply, s') →
      P.step pid call s reply s')
    {pid : Pid} {n : ℕ} (advanced : advance perform pid n pool = some pool') :
    Relation.ReflTransGen (Step P Request) pool pool' := by
  induction n generalizing pool with
  | zero =>
    cases advanced
    exact .refl
  | succ n ih =>
    simp only [advance] at advanced
    split at advanced
    · rename_i call next waiting
      split at advanced
      · rename_i reply s' made
        exact .head (.resume waiting (sound pid call _ reply s' made)) (ih advanced)
      · cases advanced
    · cases advanced
      exact .refl

/-- A request arrives, or a program makes up to a number of calls. -/
inductive Move (Pid Call : Type) (Reply : Call → Type) (ε α : Type) where
  | arrive (pid : Pid) (program : Async Call Reply ε α)
  | calls (pid : Pid) (n : ℕ)

def play (perform : Pid → (call : Call) → σ → Option (Except ε (Reply call) × σ)) :
    List (Move Pid Call Reply ε α) → Pool Pid Call Reply ε α σ → Option (Pool Pid Call Reply ε α σ)
  | [], pool => some pool
  | .arrive pid program :: moves, pool =>
    if (pool.programs.lookup pid).isNone then
      play perform moves ⟨pool.store, pool.programs.insert pid program⟩
    else none
  | .calls pid n :: moves, pool => (advance perform pid n pool).bind (play perform moves)

theorem play_steps {perform : Pid → (call : Call) → σ → Option (Except ε (Reply call) × σ)}
    (sound : ∀ pid call s reply s', perform pid call s = some (reply, s') →
      P.step pid call s reply s')
    {moves : List (Move Pid Call Reply ε α)}
    (requests : ∀ pid program, .arrive pid program ∈ moves → Request pid program)
    (played : play perform moves pool = some pool') :
    Relation.ReflTransGen (Step P Request) pool pool' := by
  induction moves generalizing pool with
  | nil =>
    cases played
    exact .refl
  | cons move moves ih =>
    have later : ∀ pid program, .arrive pid program ∈ moves → Request pid program :=
      fun pid program member => requests pid program (by simp [member])
    cases move with
    | arrive pid program =>
      simp only [play] at played
      split at played
      · rename_i fresh
        exact .head (.arrive (by simpa using fresh) (requests pid program (by simp)))
          (ih later played)
      · cases played
    | calls pid n =>
      simp only [play, Option.bind_eq_some_iff] at played
      obtain ⟨mid, advanced, rest⟩ := played
      exact (advance_steps sound advanced).trans (ih later rest)

end Pool

/-! ## Sequential runs -/

namespace Async
variable {Call : Type} {Reply : Call → Type} {ε σ α : Type}

/-- Executing a program to its end, alone. -/
inductive Exec (step : (call : Call) → σ → Except ε (Reply call) → σ → Prop) :
    Async Call Reply ε α → σ → Except ε α → σ → Prop
  | done {result : Except ε α} {s : σ} : Exec step (.done result) s result s
  | await {c : Call} {next : Except ε (Reply c) → Async Call Reply ε α} {s s' s'' : σ}
      {reply : Except ε (Reply c)} {result : Except ε α} (made : step c s reply s')
      (rest : Exec step (next reply) s' result s'') : Exec step (.await c next) s result s''

theorem Exec.imp {step step' : (call : Call) → σ → Except ε (Reply call) → σ → Prop}
    (ran : Exec step program s result s')
    (weaker : ∀ call s reply s', step call s reply s' → step' call s reply s') :
    Exec step' program s result s' := by
  induction ran with
  | done => exact .done
  | await made rest ih => exact .await (weaker _ _ _ _ made) ih

/-- What a program that runs alone ends with, and the store it leaves, when a
function makes the calls. -/
def eval (perform : (call : Call) → σ → Except ε (Reply call) × σ) :
    Async Call Reply ε α → σ → Except ε α × σ
  | .done result, s => (result, s)
  | .await call next, s => eval perform (next (perform call s).1) (perform call s).2

@[simp] theorem eval_pure (perform : (call : Call) → σ → Except ε (Reply call) × σ) (value : α) (s : σ) :
    eval perform (Pure.pure value) s = (.ok value, s) := rfl

@[simp] theorem eval_throw (perform : (call : Call) → σ → Except ε (Reply call) × σ) (failure : ε) (s : σ) :
    eval perform (throw failure : Async Call Reply ε α) s = (.error failure, s) := rfl

@[simp] theorem eval_call (perform : (call : Call) → σ → Except ε (Reply call) × σ) (c : Call) (s : σ) :
    eval perform (Async.call c) s = perform c s := rfl

theorem eval_bind (perform : (call : Call) → σ → Except ε (Reply call) × σ)
    (program : Async Call Reply ε α) (next : α → Async Call Reply ε β) (s : σ) :
    eval perform (program >>= next) s = match eval perform program s with
      | (.ok value, s') => eval perform (next value) s'
      | (.error failure, s') => (.error failure, s') := by
  induction program generalizing s with
  | done result => cases result <;> rfl
  | await call resume ih => exact ih _ _

theorem eval_tryCatch (perform : (call : Call) → σ → Except ε (Reply call) × σ)
    (program : Async Call Reply ε α) (handler : ε → Async Call Reply ε α) (s : σ) :
    eval perform (tryCatch program handler) s = match eval perform program s with
      | (.ok value, s') => (.ok value, s')
      | (.error failure, s') => eval perform (handler failure) s' := by
  induction program generalizing s with
  | done result => cases result <;> rfl
  | await call resume ih => exact ih _ _

theorem exec_eval (perform : (call : Call) → σ → Except ε (Reply call) × σ) (program : Async Call Reply ε α) (s : σ) :
    Exec (fun call s reply s' => perform call s = (reply, s')) program s (eval perform program s).1
      (eval perform program s).2 := by
  induction program generalizing s with
  | done result => exact .done
  | await call next ih => exact .await rfl (ih _ _)

/-- Execution by a function that makes the calls, numbered from `n`, and may
find one blocked. -/
def execute (perform : ℕ → (call : Call) → σ → Option (Except ε (Reply call) × σ)) :
    ℕ → Async Call Reply ε α → σ → Option (Except ε α × σ)
  | _, .done result, s => some (result, s)
  | n, .await call next, s =>
    match perform n call s with
    | some (reply, s') => execute perform (n + 1) (next reply) s'
    | none => none

theorem exec_of_execute {step : (call : Call) → σ → Except ε (Reply call) → σ → Prop}
    {perform : ℕ → (call : Call) → σ → Option (Except ε (Reply call) × σ)}
    (sound : ∀ n call s reply s', perform n call s = some (reply, s') → step call s reply s')
    {n : ℕ} {program : Async Call Reply ε α} (ran : execute perform n program s = some (result, s')) :
    Exec step program s result s' := by
  induction program generalizing n s with
  | done value =>
    cases ran
    exact .done
  | await call next ih =>
    simp only [execute] at ran
    split at ran
    · rename_i reply s₁ made
      exact .await (sound n call s reply s₁ made) (ih reply ran)
    · cases ran

end Async

namespace Protocol
variable {Pid Call : Type} {Reply : Call → Type} {ε σ α : Type}
variable {P : Protocol Pid Call Reply ε σ} {pid : Pid}

theorem Safe.exec {post : Except ε α → σ → Prop} (safe : P.Safe pid post program s)
    (inv : P.inv s) (ran : Async.Exec (P.step pid) program s result s') :
    P.inv s' ∧ post result s' := by
  induction ran with
  | done => exact ⟨inv, safe⟩
  | await made rest ih =>
    obtain ⟨kept, -, later⟩ := safe _ .refl _ _ made
    exact ih later kept

/-- A triple speaks of executions without interference as well. -/
theorem Triple.exec {A : σ → Prop} {post : Except ε α → σ → Prop}
    (triple : P.Triple pid A program post) (inv : P.inv s) (holds : A s)
    (ran : Async.Exec (P.step pid) program s result s') : P.inv s' ∧ post result s' :=
  (triple s inv holds).exec inv ran

/-- Programs that run one after another: nobody else does anything. -/
def inTurn (step : Pid → (call : Call) → σ → Except ε (Reply call) → σ → Prop) : Protocol Pid Call Reply ε σ where
  step := step
  inv _ := True
  rely _ s s' := s' = s
  guarantee _ _ _ := True

variable {step : Pid → (call : Call) → σ → Except ε (Reply call) → σ → Prop} {A : σ → Prop}

theorem inTurn_stable : (inTurn step).Stable pid A := by
  rintro s s' - holds same -
  obtain rfl : s' = s := same
  exact holds

/-- A call that runs alone. -/
theorem Triple.call_inTurn {call : Call} {post : Except ε (Reply call) → σ → Prop}
    (effect : ∀ s reply s', A s → step pid call s reply s' → post reply s') :
    (inTurn step).Triple pid A (Async.call call) post :=
  Triple.call inTurn_stable fun s reply s' _ holds made => ⟨trivial, trivial, effect s reply s' holds made⟩

end Protocol

/-- The stores reached by requests that run one after another. A number is used
once. -/
inductive Sequential {Pid Call : Type} {Reply : Call → Type} {ε σ α : Type}
    (step : Pid → (call : Call) → σ → Except ε (Reply call) → σ → Prop)
    (Request : Pid → Async Call Reply ε α → Prop) (Initial : σ → Prop) : List Pid → σ → Prop
  | start (initial : Initial s) : Sequential step Request Initial [] s
  | request (before : Sequential step Request Initial used s) (fresh : pid ∉ used)
      (request : Request pid program) (ran : Async.Exec (step pid) program s result s') :
      Sequential step Request Initial (pid :: used) s'

/-- What each request passes on to the next holds after every run. -/
theorem Sequential.invariant {Pid Call : Type} {Reply : Call → Type} {ε σ α : Type}
    {step : Pid → (call : Call) → σ → Except ε (Reply call) → σ → Prop} {Request : Pid → Async Call Reply ε α → Prop}
    {Initial : σ → Prop} {holds : List Pid → σ → Prop} {used : List Pid} {s : σ}
    (initial : ∀ s, Initial s → holds [] s)
    (request : ∀ used pid program, pid ∉ used → Request pid program →
      (Protocol.inTurn step).Triple pid (holds used) program fun _ => holds (pid :: used))
    (run : Sequential step Request Initial used s) : holds used s := by
  induction run with
  | start isInitial => exact initial _ isInitial
  | request before fresh isRequest ran ih =>
    exact ((request _ _ _ fresh isRequest).exec trivial ih ran).2

end Exchange
