import Mathlib.Logic.Relation
import Mathlib.Tactic

/-! Asynchronous programs over a shared store, and a logic for them. A program
is a tree of awaited calls; between two of its calls other programs may run.
What it may rely on meanwhile, and what it guarantees with each call of its
own, are relations between stores. The rules follow the shape of the program:
an assertion that stands while the program waits has to be stable. -/
namespace Exchange

/-- A program that ends with a value or throws, or awaits a call. -/
inductive Async (Call : Type) (Reply : Call → Type) (ε α : Type) where
  | done (result : Except ε α)
  | await (call : Call) (resume : Except ε (Reply call) → Async Call Reply ε α)

namespace Async
variable {Call : Type} {Reply : Call → Type} {ε α β : Type}

protected def bind : Async Call Reply ε α → (α → Async Call Reply ε β) → Async Call Reply ε β
  | .done (.ok value), next => next value
  | .done (.error failure), _ => .done (.error failure)
  | .await call resume, next => .await call fun reply => (resume reply).bind next

instance : Monad (Async Call Reply ε) where
  pure value := .done (.ok value)
  bind := Async.bind

/-- `try … catch`. -/
protected def tryCatch :
    Async Call Reply ε α → (ε → Async Call Reply ε α) → Async Call Reply ε α
  | .done (.ok value), _ => .done (.ok value)
  | .done (.error failure), handler => handler failure
  | .await call resume, handler => .await call fun reply => (resume reply).tryCatch handler

instance : MonadExcept ε (Async Call Reply ε) where
  throw failure := .done (.error failure)
  tryCatch := Async.tryCatch

/-- The program's result as a value, thrown or not. -/
def settled : Async Call Reply ε α → Async Call Reply ε (Except ε α)
  | .done result => .done (.ok result)
  | .await call resume => .await call fun reply => (resume reply).settled

/-- Awaiting one call. -/
def call (call : Call) : Async Call Reply ε (Reply call) := .await call .done

def isDone : Async Call Reply ε α → Bool
  | .done _ => true
  | .await _ _ => false

end Async

/-- What the calls do to the store, what every call has to preserve, and what
the programs rely on and guarantee. -/
structure Protocol (Pid Call : Type) (Reply : Call → Type) (ε σ : Type) where
  step : Pid → (call : Call) → σ → Except ε (Reply call) → σ → Prop
  inv : σ → Prop
  rely : Pid → σ → σ → Prop
  guarantee : Pid → σ → σ → Prop

namespace Protocol
variable {Pid Call : Type} {Reply : Call → Type} {ε σ α β : Type}
variable (P : Protocol Pid Call Reply ε σ) {pid : Pid}

/-- What may happen while the program waits. -/
def Others (pid : Pid) : σ → σ → Prop :=
  Relation.ReflTransGen fun s s' => P.rely pid s s' ∧ P.inv s'

/-- An assertion that survives what others do. -/
def Stable (pid : Pid) (A : σ → Prop) : Prop :=
  ∀ s s', P.inv s → A s → P.rely pid s s' → P.inv s' → A s'

/-- From this store on every call of the program keeps the invariant and the
guarantee, whatever others do in between, and the end satisfies `post`. -/
def Safe (pid : Pid) (post : Except ε α → σ → Prop) : Async Call Reply ε α → σ → Prop
  | .done result, s => post result s
  | .await call resume, s => ∀ s', P.Others pid s s' → ∀ reply s'',
      P.step pid call s' reply s'' →
        P.inv s'' ∧ P.guarantee pid s' s'' ∧ Safe pid post (resume reply) s''

def Triple (pid : Pid) (A : σ → Prop) (program : Async Call Reply ε α)
    (post : Except ε α → σ → Prop) : Prop :=
  ∀ s, P.inv s → A s → P.Safe pid post program s

variable {P} {A A' : σ → Prop} {program : Async Call Reply ε α}
  {post post' : Except ε α → σ → Prop}

theorem Others.inv (others : P.Others pid s s') (inv : P.inv s) : P.inv s' := by
  induction others with
  | refl => exact inv
  | tail _ last _ => exact last.2

theorem Stable.others (stable : P.Stable pid A) (inv : P.inv s) (holds : A s)
    (others : P.Others pid s s') : A s' := by
  induction others with
  | refl => exact holds
  | tail before last ih => exact stable _ _ (Others.inv before inv) ih last.1 last.2

theorem stable_true : P.Stable pid fun _ => True := fun _ _ _ _ _ _ => trivial

theorem Stable.and (left : P.Stable pid A) (right : P.Stable pid A') :
    P.Stable pid fun s => A s ∧ A' s :=
  fun s s' inv holds rely inv' =>
    ⟨left s s' inv holds.1 rely inv', right s s' inv holds.2 rely inv'⟩

theorem Safe.others (safe : P.Safe pid post program s) (others : P.Others pid s s')
    (stable : ∀ result, P.Stable pid (post result)) (inv : P.inv s) :
    P.Safe pid post program s' := by
  cases program with
  | done result => exact (stable result).others inv safe others
  | await call resume => exact fun s'' later => safe s'' (others.trans later)

theorem Safe.imp (safe : P.Safe pid post program s) (inv : P.inv s)
    (weaker : ∀ result s, P.inv s → post result s → post' result s) :
    P.Safe pid post' program s := by
  induction program generalizing s with
  | done result => exact weaker result s inv safe
  | await call resume ih =>
    intro s' others reply s'' step
    obtain ⟨kept, guaranteed, rest⟩ := safe s' others reply s'' step
    exact ⟨kept, guaranteed, ih reply rest kept⟩

/-! ## Rules -/

theorem Triple.imp (triple : P.Triple pid A program post) (stronger : ∀ s, P.inv s → A' s → A s)
    (weaker : ∀ result s, P.inv s → post result s → post' result s) :
    P.Triple pid A' program post' :=
  fun s inv holds => (triple s inv (stronger s inv holds)).imp inv weaker

theorem Triple.done {result : Except ε α} (holds : ∀ s, P.inv s → A s → post result s) :
    P.Triple pid A (.done result) post := holds

theorem Triple.pure {value : α} (holds : ∀ s, P.inv s → A s → post (.ok value) s) :
    P.Triple pid A (Pure.pure value) post := holds

theorem Triple.throw {failure : ε} (holds : ∀ s, P.inv s → A s → post (.error failure) s) :
    P.Triple pid A (MonadExcept.throw failure) post := holds

/-- One call: what holds when it is made survives the wait before it. -/
theorem Triple.call {call : Call} {post : Except ε (Reply call) → σ → Prop}
    (stable : P.Stable pid A)
    (step : ∀ s reply s', P.inv s → A s → P.step pid call s reply s' →
      P.inv s' ∧ P.guarantee pid s s' ∧ post reply s') :
    P.Triple pid A (Async.call call) post := by
  intro s inv holds s' others reply s'' made
  exact step s' reply s'' (others.inv inv) (stable.others inv holds others) made

private theorem Safe.bind {M : Except ε α → σ → Prop} {post : Except ε β → σ → Prop}
    {next : α → Async Call Reply ε β} (safe : P.Safe pid M program s) (inv : P.inv s)
    (ok : ∀ value, P.Triple pid (M (.ok value)) (next value) post)
    (error : ∀ failure s, P.inv s → M (.error failure) s → post (.error failure) s) :
    P.Safe pid post (program.bind next) s := by
  induction program generalizing s with
  | done result =>
    cases result with
    | ok value => exact ok value s inv safe
    | error failure => exact error failure s inv safe
  | await call resume ih =>
    intro s' others reply s'' made
    obtain ⟨kept, guaranteed, rest⟩ := safe s' others reply s'' made
    exact ⟨kept, guaranteed, ih reply rest kept⟩

theorem Triple.bind {M : Except ε α → σ → Prop} {post : Except ε β → σ → Prop}
    {next : α → Async Call Reply ε β} (first : P.Triple pid A program M)
    (ok : ∀ value, P.Triple pid (M (.ok value)) (next value) post)
    (error : ∀ failure s, P.inv s → M (.error failure) s → post (.error failure) s) :
    P.Triple pid A (program >>= next) post :=
  fun s inv holds => (first s inv holds).bind inv ok error

private theorem Safe.tryCatch {M : Except ε α → σ → Prop}
    {handler : ε → Async Call Reply ε α} (safe : P.Safe pid M program s) (inv : P.inv s)
    (ok : ∀ value s, P.inv s → M (.ok value) s → post (.ok value) s)
    (error : ∀ failure, P.Triple pid (M (.error failure)) (handler failure) post) :
    P.Safe pid post (program.tryCatch handler) s := by
  induction program generalizing s with
  | done result =>
    cases result with
    | ok value => exact ok value s inv safe
    | error failure => exact error failure s inv safe
  | await call resume ih =>
    intro s' others reply s'' made
    obtain ⟨kept, guaranteed, rest⟩ := safe s' others reply s'' made
    exact ⟨kept, guaranteed, ih reply rest kept⟩

theorem Triple.tryCatch {M : Except ε α → σ → Prop} {handler : ε → Async Call Reply ε α}
    (body : P.Triple pid A program M)
    (ok : ∀ value s, P.inv s → M (.ok value) s → post (.ok value) s)
    (error : ∀ failure, P.Triple pid (M (.error failure)) (handler failure) post) :
    P.Triple pid A (MonadExcept.tryCatch program handler) post :=
  fun s inv holds => (body s inv holds).tryCatch inv ok error

private theorem Safe.settled {post : Except ε (Except ε α) → σ → Prop}
    {M : Except ε α → σ → Prop} (safe : P.Safe pid M program s) (inv : P.inv s)
    (ends : ∀ result s, P.inv s → M result s → post (.ok result) s) :
    P.Safe pid post program.settled s := by
  induction program generalizing s with
  | done result => exact ends result s inv safe
  | await call resume ih =>
    intro s' others reply s'' made
    obtain ⟨kept, guaranteed, rest⟩ := safe s' others reply s'' made
    exact ⟨kept, guaranteed, ih reply rest kept⟩

theorem Triple.settled {post : Except ε (Except ε α) → σ → Prop} {M : Except ε α → σ → Prop}
    (body : P.Triple pid A program M)
    (ends : ∀ result s, P.inv s → M result s → post (.ok result) s) :
    P.Triple pid A program.settled post :=
  fun s inv holds => (body s inv holds).settled inv ends

/-! ## Programs with one way to fail -/

/-- An assertion by how a program ends. -/
def ends (ok : α → σ → Prop) (failed : ε → σ → Prop) : Except ε α → σ → Prop
  | .ok value, s => ok value s
  | .error failure, s => failed failure s

variable {T : ε → σ → Prop}

theorem Triple.seq {M : α → σ → Prop} {ok : β → σ → Prop} {next : α → Async Call Reply ε β}
    (first : P.Triple pid A program (ends M T))
    (rest : ∀ value, P.Triple pid (M value) (next value) (ends ok T)) :
    P.Triple pid A (program >>= next) (ends ok T) :=
  first.bind rest fun _ _ _ threw => threw

/-- Sequencing where the end, however it comes, satisfies one assertion. -/
theorem Triple.ending {M : α → σ → Prop} {E : σ → Prop} {next : α → Async Call Reply ε β}
    (first : P.Triple pid A program (ends M T))
    (rest : ∀ value, P.Triple pid (M value) (next value) fun _ => E)
    (threw : ∀ failure s, P.inv s → T failure s → E s) :
    P.Triple pid A (program >>= next) fun _ => E :=
  first.bind rest threw

theorem Triple.returns {value : α} {ok : α → σ → Prop} (holds : ∀ s, P.inv s → A s → ok value s) :
    P.Triple pid A (Pure.pure value) (ends ok T) := holds

/-- Nothing is known of a program that cannot start. -/
theorem Triple.absurd (never : ∀ s, P.inv s → ¬A s) : P.Triple pid A program post :=
  fun s inv holds => (never s inv holds).elim

/-- A fact that is not about the store may be assumed. -/
theorem Triple.fact {fact : Prop} (given : fact → P.Triple pid (fun _ => True) program post) :
    P.Triple pid (fun _ => fact) program post := fun s inv holds => given holds s inv trivial

/-- Auxiliary facts about the start may be assumed one by one. -/
theorem Triple.exists {ι : Sort*} {A : ι → σ → Prop}
    (each : ∀ i, P.Triple pid (A i) program post) : P.Triple pid (fun s => ∃ i, A i s) program post :=
  fun s inv ⟨i, holds⟩ => each i s inv holds

end Protocol
end Exchange
