import Mathlib.Logic.Function.Basic
import Mathlib.Tactic.Common

/-! Promises and their jobs. A promise is pending, with the reactions that wait
for it, or settled for good. When it is settled its reactions become jobs, and
jobs run to their ends one after another in the order they were queued. -/
namespace Exchange.Promises

abbrev PromiseId := ℕ

/-- A value, as far as promises look into it. -/
inductive Value (α : Type) where
  | undefined
  /-- The reason of a promise that was resolved with itself. -/
  | selfResolution
  | of (value : α)

/-- The reason or the value with which a promise is settled. -/
abbrev Outcome (α : Type) := Except (Value α) (Value α)

/-- What waits for a promise: the handlers given to `then`, for the promise it
returned, or a promise that was resolved with this one. -/
inductive Reaction (η : Type) where
  | handle (onFulfilled onRejected : η) (derived : PromiseId)
  | adopt (target : PromiseId)

inductive PromiseState (η α : Type) where
  | pending (reactions : List (Reaction η))
  | settled (outcome : Outcome α)

inductive Job (η α : Type) where
  /-- Call a handler; what comes of it resolves the derived promise. -/
  | call (handler : η) (argument : Value α) (derived : PromiseId)
  /-- Settle a promise as the one it was resolved with. -/
  | settle (target : PromiseId) (outcome : Outcome α)
  /-- `source.then` with the functions that resolve the target. -/
  | adopt (target source : PromiseId)

/-- How a function ends. -/
inductive Completion (α : Type) where
  | value (value : Value α)
  | throws (reason : Value α)
  | promise (id : PromiseId)

/-- All promises, those from `size` on not made yet, and the queue of jobs. -/
structure Heap (η α : Type) where
  state : PromiseId → PromiseState η α
  size : PromiseId
  jobs : List (Job η α)

/-- What is to settle a promise. -/
inductive Supply (η α : Type) where
  | byReaction (source : PromiseId) (reaction : Reaction η)
  | byJob (job : Job η α)
  | absent

variable {η α : Type}

def Reaction.target : Reaction η → PromiseId
  | .handle _ _ derived => derived
  | .adopt target => target

def Job.target : Job η α → PromiseId
  | .call _ _ derived => derived
  | .settle target _ => target
  | .adopt target _ => target

/-- The job of a reaction whose promise is settled. -/
def Reaction.job : Reaction η → Outcome α → Job η α
  | .handle onFulfilled _ derived, .ok value => .call onFulfilled value derived
  | .handle _ onRejected derived, .error reason => .call onRejected reason derived
  | .adopt target, outcome => .settle target outcome

@[simp] theorem Reaction.job_target (reaction : Reaction η) (outcome : Outcome α) :
    (reaction.job outcome).target = reaction.target := by
  cases reaction with
  | handle => cases outcome <;> rfl
  | adopt => rfl

/-- What a handler is called with. -/
def Outcome.argument : Outcome α → Value α
  | .ok value => value
  | .error reason => reason

theorem Reaction.job_same (handler : η) (derived : PromiseId) (outcome : Outcome α) :
    (Reaction.handle handler handler derived).job outcome = .call handler outcome.argument derived := by
  cases outcome <;> rfl

/-- The promises of a job have been made. -/
structure Job.Made (size : PromiseId) (job : Job η α) : Prop where
  target : job.target < size
  source : ∀ target source, job = .adopt target source → source < size

theorem Reaction.job_made {size : PromiseId} {reaction : Reaction η} (made : reaction.target < size)
    (outcome : Outcome α) : (reaction.job outcome).Made size where
  target := by rwa [job_target]
  source target source isAdopt := by
    cases reaction with
    | handle => cases outcome <;> cases isAdopt
    | adopt => cases isAdopt

theorem Job.Made.mono {size larger : PromiseId} {job : Job η α} (made : job.Made size) (grown : size ≤ larger) :
    job.Made larger :=
  ⟨Nat.lt_of_lt_of_le made.target grown,
    fun target source isAdopt => Nat.lt_of_lt_of_le (made.source target source isAdopt) grown⟩

namespace Supply

def jobs : Supply η α → List (Job η α)
  | byJob job => [job]
  | _ => []

def waiting (source : PromiseId) : Supply η α → List (Reaction η)
  | byReaction other reaction => if source = other then [reaction] else []
  | _ => []

/-- The supply after a promise was settled. -/
def settle (id : PromiseId) (outcome : Outcome α) : Supply η α → Supply η α
  | byReaction source reaction => if source = id then byJob (reaction.job outcome) else byReaction source reaction
  | supply => supply

theorem settle_jobs (supply : Supply η α) (id : PromiseId) (outcome : Outcome α) :
    (supply.settle id outcome).jobs = supply.jobs ++ (supply.waiting id).map (·.job outcome) := by
  cases supply with
  | byReaction source reaction =>
    by_cases same : source = id
    · simp [settle, jobs, waiting, same]
    · simp [settle, jobs, waiting, same, Ne.symm same]
  | byJob | absent => simp [settle, jobs, waiting]

theorem settle_waiting (supply : Supply η α) (id source : PromiseId) (outcome : Outcome α) :
    (supply.settle id outcome).waiting source = if source = id then [] else supply.waiting source := by
  cases supply with
  | byReaction other reaction =>
    by_cases same : other = id
    · subst same
      by_cases here : source = other <;> simp [settle, waiting, here]
    · by_cases here : source = id
      · simp [settle, waiting, same, here, Ne.symm same]
      · simp [settle, waiting, same, here]
  | byJob | absent => simp [settle, waiting]

end Supply

namespace Heap

/-- The outcome of a settled promise. -/
def outcome (x : Heap η α) (id : PromiseId) : Option (Outcome α) :=
  match x.state id with
  | .pending _ => none
  | .settled outcome => some outcome

def waiting (x : Heap η α) (id : PromiseId) : List (Reaction η) :=
  match x.state id with
  | .pending reactions => reactions
  | .settled _ => []

def enqueue (job : Job η α) (x : Heap η α) : Heap η α := { x with jobs := x.jobs ++ [job] }

/-- Settling a promise; one that is settled stays as it is. -/
def settle (id : PromiseId) (outcome : Outcome α) (x : Heap η α) : Heap η α :=
  match x.state id with
  | .pending reactions =>
    { x with
      state := Function.update x.state id (.settled outcome)
      jobs := x.jobs ++ reactions.map (·.job outcome) }
  | .settled _ => x

/-- A reaction waits for the promise, or is queued if there is nothing to wait
for. -/
def react (id : PromiseId) (reaction : Reaction η) (x : Heap η α) : Heap η α :=
  match x.state id with
  | .pending reactions => { x with state := Function.update x.state id (.pending (reactions ++ [reaction])) }
  | .settled outcome => x.enqueue (reaction.job outcome)

/-- `new Promise` -/
def make (x : Heap η α) : PromiseId × Heap η α := (x.size, { x with size := x.size + 1 })

/-- `Promise.resolve()` -/
def makeResolved (x : Heap η α) : PromiseId × Heap η α := (x.size, x.make.2.settle x.size (.ok .undefined))

/-- `promise.then(onFulfilled, onRejected)` -/
def thenDo (id : PromiseId) (onFulfilled onRejected : η) (x : Heap η α) : PromiseId × Heap η α :=
  (x.size, x.make.2.react id (.handle onFulfilled onRejected x.size))

/-- Resolving a promise with what a function came to. -/
def resolve (id : PromiseId) (completion : Completion α) (x : Heap η α) : Heap η α :=
  match completion with
  | .value value => x.settle id (.ok value)
  | .throws reason => x.settle id (.error reason)
  | .promise source => if source = id then x.settle id (.error .selfResolution) else x.enqueue (.adopt id source)

/-- The supply is all that is to settle the promise. -/
structure Supplied (x : Heap η α) (id : PromiseId) (supply : Supply η α) : Prop where
  jobs : x.jobs.filter (·.target = id) = supply.jobs
  waiting : ∀ source, (x.waiting source).filter (·.target = id) = supply.waiting source

/-- Every job there is, and every job that may come of a reaction. -/
structure EveryJob (P : Job η α → Prop) (x : Heap η α) : Prop where
  jobs : ∀ job ∈ x.jobs, P job
  reactions : ∀ id, ∀ reaction ∈ x.waiting id, ∀ outcome, P (reaction.job outcome)

variable {x : Heap η α} {id other source : PromiseId} {supply : Supply η α} {o : Outcome α}
  {reaction : Reaction η} {job : Job η α} {rest : List (Job η α)} {completion : Completion α}
  {onFulfilled onRejected : η}

/-! ## What the operations do to one promise -/

theorem waiting_of_outcome (settled : x.outcome id ≠ none) : x.waiting id = [] := by
  unfold outcome at settled
  unfold waiting
  cases isState : x.state id with
  | pending reactions => simp [isState] at settled
  | settled outcome => rfl

@[simp] theorem settle_outcome :
    (x.settle id o).outcome other = if other = id then some ((x.outcome id).getD o) else x.outcome other := by
  unfold settle outcome
  cases isState : x.state id with
  | pending reactions => by_cases same : other = id <;> simp [same]
  | settled before => by_cases same : other = id <;> simp [same, isState]

@[simp] theorem settle_waiting :
    (x.settle id o).waiting other = if other = id then [] else x.waiting other := by
  unfold settle waiting
  cases isState : x.state id with
  | pending reactions => by_cases same : other = id <;> simp [same]
  | settled before => by_cases same : other = id <;> simp [same, isState]

@[simp] theorem settle_jobs : (x.settle id o).jobs = x.jobs ++ (x.waiting id).map (·.job o) := by
  unfold settle waiting
  cases isState : x.state id <;> simp

@[simp] theorem settle_size : (x.settle id o).size = x.size := by
  unfold settle
  cases x.state id <;> rfl

@[simp] theorem react_outcome : (x.react id reaction).outcome other = x.outcome other := by
  unfold react
  cases isState : x.state id with
  | pending reactions =>
    by_cases same : other = id
    · simp [outcome, same, isState]
    · simp [outcome, same]
  | settled outcome => rfl

@[simp] theorem react_size : (x.react id reaction).size = x.size := by
  unfold react
  cases x.state id <;> rfl

theorem react_pending (reaction : Reaction η) (pending : x.outcome id = none) :
    (x.react id reaction).jobs = x.jobs ∧
      ∀ other, (x.react id reaction).waiting other = x.waiting other ++ if other = id then [reaction] else [] := by
  unfold outcome at pending
  unfold react
  cases isState : x.state id with
  | pending reactions =>
    refine ⟨rfl, fun other => ?_⟩
    by_cases same : other = id
    · simp [waiting, same, isState]
    · simp [waiting, same]
  | settled outcome => simp [isState] at pending

theorem react_settled (settled : x.outcome id = some o) : x.react id reaction = x.enqueue (reaction.job o) := by
  unfold outcome at settled
  unfold react
  cases isState : x.state id with
  | pending reactions => simp [isState] at settled
  | settled outcome =>
    simp only [isState, Option.some.injEq] at settled
    rw [settled]

/-- Resolving a promise settles it, unless it was resolved with another
promise. -/
theorem resolve_cases (x : Heap η α) (id : PromiseId) (completion : Completion α) :
    (∃ o, x.resolve id completion = x.settle id o ∧ ∀ source, completion = .promise source → source = id) ∨
      ∃ source, completion = .promise source ∧ source ≠ id ∧
        x.resolve id completion = x.enqueue (.adopt id source) := by
  cases completion with
  | value value => exact .inl ⟨.ok value, rfl, by simp⟩
  | throws reason => exact .inl ⟨.error reason, rfl, by simp⟩
  | promise source =>
    by_cases same : source = id
    · exact .inl ⟨.error .selfResolution, by simp [resolve, same], by simp [same]⟩
    · exact .inr ⟨source, rfl, same, by simp [resolve, same]⟩

@[simp] theorem resolve_size : (x.resolve id completion).size = x.size := by
  obtain ⟨o, resolved, -⟩ | ⟨source, -, -, resolved⟩ := resolve_cases x id completion
  · rw [resolved, settle_size]
  · rw [resolved]
    rfl

theorem settle_outcome_stays (settled : x.outcome other ≠ none) : (x.settle id o).outcome other ≠ none := by
  rw [settle_outcome]
  split
  · simp
  · exact settled

theorem resolve_outcome_stays (settled : x.outcome other ≠ none) : (x.resolve id completion).outcome other ≠ none := by
  obtain ⟨o, resolved, -⟩ | ⟨source, -, -, resolved⟩ := resolve_cases x id completion
  · rw [resolved]
    exact settle_outcome_stays settled
  · rw [resolved]
    exact settled

/-! ## The queue only grows -/

theorem settle_prefix : x.jobs <+: (x.settle id o).jobs := ⟨_, settle_jobs.symm⟩

theorem react_prefix : x.jobs <+: (x.react id reaction).jobs := by
  cases settled : x.outcome id with
  | none => exact ⟨[], by rw [(react_pending reaction settled).1, List.append_nil]⟩
  | some outcome =>
    rw [react_settled settled]
    exact List.prefix_append _ _

theorem resolve_prefix : x.jobs <+: (x.resolve id completion).jobs := by
  obtain ⟨o, resolved, -⟩ | ⟨source, -, -, resolved⟩ := resolve_cases x id completion
  · rw [resolved]
    exact settle_prefix
  · rw [resolved]
    exact List.prefix_append _ _

theorem thenDo_prefix : x.jobs <+: (x.thenDo id onFulfilled onRejected).2.jobs := react_prefix (x := x.make.2)

theorem makeResolved_prefix : x.jobs <+: x.makeResolved.2.jobs := settle_prefix (x := x.make.2)

/-! ## What is to settle a promise -/

namespace Supplied

/-- A promise with a reaction that is to settle it waits for one that is
pending. -/
theorem pending (supplied : x.Supplied id (.byReaction source reaction)) : x.outcome source = none := by
  by_contra settled
  have waits := supplied.waiting source
  simp [waiting_of_outcome settled, Supply.waiting] at waits

theorem mem_jobs (supplied : x.Supplied id (.byJob job)) : job ∈ x.jobs ∧ job.target = id := by
  have member : job ∈ x.jobs.filter (·.target = id) := supplied.jobs ▸ List.mem_singleton_self job
  simpa using member

theorem settle (supplied : x.Supplied id supply) (other : PromiseId) (o : Outcome α) :
    (x.settle other o).Supplied id (supply.settle other o) where
  jobs := by
    rw [settle_jobs, List.filter_append, supplied.jobs, Supply.settle_jobs, ← supplied.waiting, List.filter_map]
    simp [Function.comp_def]
  waiting source := by
    rw [settle_waiting, Supply.settle_waiting, ← supplied.waiting]
    by_cases same : source = other <;> simp [same]

theorem enqueue_ne (supplied : x.Supplied id supply) (ne : job.target ≠ id) : (x.enqueue job).Supplied id supply where
  jobs := by simp [Heap.enqueue, supplied.jobs, ne]
  waiting := supplied.waiting

theorem enqueue (supplied : x.Supplied id .absent) (isTarget : job.target = id) :
    (x.enqueue job).Supplied id (.byJob job) where
  jobs := by simp [Heap.enqueue, supplied.jobs, isTarget, Supply.jobs]
  waiting := supplied.waiting

theorem dequeue_ne (supplied : x.Supplied id supply) (head : x.jobs = job :: rest) (ne : job.target ≠ id) :
    { x with jobs := rest }.Supplied id supply where
  jobs := by simpa [head, ne] using supplied.jobs
  waiting := supplied.waiting

theorem of_head (supplied : x.Supplied id supply) (head : x.jobs = job :: rest) (isTarget : job.target = id) :
    supply = .byJob job := by
  have jobs := supplied.jobs
  cases supply with
  | byJob other =>
    simp only [head, isTarget, decide_true, List.filter_cons_of_pos, Supply.jobs, List.cons.injEq] at jobs
    rw [jobs.1]
  | byReaction | absent => simp [head, isTarget, Supply.jobs] at jobs

theorem dequeue (supplied : x.Supplied id supply) (head : x.jobs = job :: rest) (isTarget : job.target = id) :
    { x with jobs := rest }.Supplied id .absent := by
  have isSupply := supplied.of_head head isTarget
  subst isSupply
  exact
    { jobs := by simpa [head, isTarget, Supply.jobs] using supplied.jobs
      waiting := supplied.waiting }

theorem react_ne (supplied : x.Supplied id supply) (source : PromiseId) (reaction : Reaction η)
    (ne : reaction.target ≠ id) :
    (x.react source reaction).Supplied id supply := by
  cases settled : x.outcome source with
  | none =>
    obtain ⟨jobs, waiting⟩ := react_pending reaction settled
    exact
      { jobs := by rw [jobs, supplied.jobs]
        waiting := fun other => by
          rw [waiting, List.filter_append, supplied.waiting]
          by_cases same : other = source <;> simp [same, ne] }
  | some outcome =>
    rw [react_settled settled]
    exact supplied.enqueue_ne (by rwa [Reaction.job_target])

/-- What a reaction becomes: it waits, or it is a job. -/
theorem react (supplied : x.Supplied id .absent) (source : PromiseId) (reaction : Reaction η)
    (isTarget : reaction.target = id) :
    (x.react source reaction).Supplied id
      (match x.outcome source with
        | none => .byReaction source reaction
        | some outcome => .byJob (reaction.job outcome)) := by
  cases settled : x.outcome source with
  | none =>
    obtain ⟨jobs, waiting⟩ := react_pending reaction settled
    exact
      { jobs := by rw [jobs, supplied.jobs]; rfl
        waiting := fun other => by
          rw [waiting, List.filter_append, supplied.waiting]
          by_cases same : other = source <;> simp [same, isTarget, Supply.waiting] }
  | some outcome =>
    rw [react_settled settled]
    exact supplied.enqueue (by rwa [Reaction.job_target])

theorem make (supplied : x.Supplied id supply) : x.make.2.Supplied id supply := ⟨supplied.jobs, supplied.waiting⟩

end Supplied

/-! ## Every job -/

namespace EveryJob

variable {P Q : Job η α → Prop}

theorem imp (every : x.EveryJob P) (implies : ∀ job, P job → Q job) : x.EveryJob Q :=
  ⟨fun job member => implies job (every.jobs job member),
    fun id reaction member outcome => implies _ (every.reactions id reaction member outcome)⟩

theorem settle (every : x.EveryJob P) : (x.settle id o).EveryJob P where
  jobs job member := by
    rw [settle_jobs, List.mem_append, List.mem_map] at member
    rcases member with member | ⟨reaction, member, rfl⟩
    · exact every.jobs job member
    · exact every.reactions id reaction member o
  reactions other reaction member outcome := by
    rw [settle_waiting] at member
    split at member
    · cases member
    · exact every.reactions other reaction member outcome

theorem enqueue (every : x.EveryJob P) (holds : P job) : (x.enqueue job).EveryJob P where
  jobs other member := by
    simp only [Heap.enqueue, List.mem_append, List.mem_singleton] at member
    rcases member with member | rfl
    · exact every.jobs other member
    · exact holds
  reactions := every.reactions

theorem dequeue (every : x.EveryJob P) (head : x.jobs = job :: rest) : { x with jobs := rest }.EveryJob P where
  jobs other member := every.jobs other (by rw [head]; exact List.mem_cons_of_mem _ member)
  reactions := every.reactions

theorem react (every : x.EveryJob P) (holds : ∀ outcome, P (reaction.job outcome)) :
    (x.react id reaction).EveryJob P := by
  cases settled : x.outcome id with
  | none =>
    obtain ⟨jobs, waiting⟩ := react_pending reaction settled
    refine ⟨by rw [jobs]; exact every.jobs, fun other held member outcome => ?_⟩
    rw [waiting, List.mem_append] at member
    rcases member with member | member
    · exact every.reactions other held member outcome
    · split at member
      · rw [List.mem_singleton] at member
        exact member ▸ holds outcome
      · cases member
  | some outcome =>
    rw [react_settled settled]
    exact every.enqueue (holds outcome)

theorem make (every : x.EveryJob P) : x.make.2.EveryJob P := ⟨every.jobs, every.reactions⟩

theorem resolve (every : x.EveryJob P) (adopts : ∀ source, completion = .promise source → P (.adopt id source)) :
    (x.resolve id completion).EveryJob P := by
  obtain ⟨o, resolved, -⟩ | ⟨source, isPromise, -, resolved⟩ := resolve_cases x id completion
  · rw [resolved]
    exact every.settle
  · rw [resolved]
    exact every.enqueue (adopts source isPromise)

end EveryJob

/-! ## What has not been made -/

/-- What has not been made is not there yet. -/
structure Formed (x : Heap η α) : Prop where
  fresh : ∀ id ≥ x.size, x.outcome id = none ∧ x.waiting id = []
  made : x.EveryJob (·.Made x.size)

namespace Formed

theorem supplied (formed : x.Formed) (unmade : x.size ≤ id) : x.Supplied id .absent where
  jobs := by
    refine List.filter_eq_nil_iff.mpr fun job member => ?_
    have bound := (formed.made.jobs job member).target
    simpa using Nat.ne_of_lt (Nat.lt_of_lt_of_le bound unmade)
  waiting source := by
    refine List.filter_eq_nil_iff.mpr fun reaction member => ?_
    have bound := (formed.made.reactions source reaction member (.ok .undefined)).target
    rw [Reaction.job_target] at bound
    simpa using Nat.ne_of_lt (Nat.lt_of_lt_of_le bound unmade)

theorem settle (formed : x.Formed) (made : id < x.size) : (x.settle id o).Formed where
  fresh other unmade := by
    rw [settle_size] at unmade
    have ne : other ≠ id := Nat.ne_of_gt (Nat.lt_of_lt_of_le made unmade)
    simpa [ne] using formed.fresh other unmade
  made := by simpa using formed.made.settle

theorem enqueue (formed : x.Formed) (made : job.Made x.size) : (x.enqueue job).Formed :=
  ⟨formed.fresh, formed.made.enqueue made⟩

theorem dequeue (formed : x.Formed) (head : x.jobs = job :: rest) : { x with jobs := rest }.Formed :=
  ⟨formed.fresh, formed.made.dequeue head⟩

theorem make (formed : x.Formed) : x.make.2.Formed where
  fresh id unmade := formed.fresh id (Nat.le_of_succ_le unmade)
  made := formed.made.make.imp fun _ made => made.mono (Nat.le_succ _)

theorem react (formed : x.Formed) (made : id < x.size) (target : reaction.target < x.size) :
    (x.react id reaction).Formed where
  fresh other unmade := by
    rw [react_size] at unmade
    have ne : other ≠ id := Nat.ne_of_gt (Nat.lt_of_lt_of_le made unmade)
    rw [react_outcome]
    refine ⟨(formed.fresh other unmade).1, ?_⟩
    cases settled : x.outcome id with
    | none => rw [(react_pending reaction settled).2, if_neg ne, (formed.fresh other unmade).2, List.append_nil]
    | some outcome =>
      rw [react_settled settled]
      exact (formed.fresh other unmade).2
  made := by
    rw [react_size]
    exact formed.made.react fun outcome => Reaction.job_made target outcome

theorem resolve (formed : x.Formed) (made : id < x.size)
    (known : ∀ source, completion = .promise source → source < x.size) : (x.resolve id completion).Formed := by
  obtain ⟨o, resolved, -⟩ | ⟨source, isPromise, -, resolved⟩ := resolve_cases x id completion
  · rw [resolved]
    exact formed.settle made
  · rw [resolved]
    refine formed.enqueue ⟨made, fun target adopted isAdopt => ?_⟩
    cases isAdopt
    exact known source isPromise

theorem makeResolved (formed : x.Formed) : x.makeResolved.2.Formed := formed.make.settle x.size.lt_succ_self

theorem thenDo (formed : x.Formed) (made : id < x.size) : (x.thenDo id onFulfilled onRejected).2.Formed :=
  formed.make.react (Nat.lt_succ_of_lt made) x.size.lt_succ_self

end Formed

/-! ## The promise of `then` -/

@[simp] theorem makeResolved_size : x.makeResolved.2.size = x.size + 1 := settle_size

@[simp] theorem thenDo_size : (x.thenDo id onFulfilled onRejected).2.size = x.size + 1 := react_size

theorem makeResolved_outcome (formed : x.Formed) :
    x.makeResolved.2.outcome other = if other = x.size then some (.ok .undefined) else x.outcome other := by
  have unmade : x.make.2.outcome x.size = none := (formed.fresh x.size (Nat.le_refl _)).1
  rw [makeResolved, settle_outcome, unmade]
  rfl

@[simp] theorem thenDo_outcome : (x.thenDo id onFulfilled onRejected).2.outcome other = x.outcome other :=
  react_outcome

theorem Supplied.makeResolved (supplied : x.Supplied id supply) :
    x.makeResolved.2.Supplied id (supply.settle x.size (.ok .undefined)) := supplied.make.settle x.size (.ok .undefined)

theorem Supplied.thenDo (supplied : x.Supplied id supply) (made : id < x.size) (source : PromiseId)
    (onFulfilled onRejected : η) :
    (x.thenDo source onFulfilled onRejected).2.Supplied id supply :=
  supplied.make.react_ne source (.handle onFulfilled onRejected x.size) (Nat.ne_of_gt made)

/-- The promise that `then` returns is settled by the handlers. -/
theorem Formed.supplied_thenDo (formed : x.Formed) (source : PromiseId) (onFulfilled onRejected : η) :
    (x.thenDo source onFulfilled onRejected).2.Supplied x.size
      (match x.outcome source with
        | none => .byReaction source (.handle onFulfilled onRejected x.size)
        | some outcome => .byJob ((Reaction.handle onFulfilled onRejected x.size).job outcome)) :=
  (formed.supplied (Nat.le_refl _)).make.react source (.handle onFulfilled onRejected x.size) rfl

theorem EveryJob.thenDo {P : Job η α → Prop} (every : x.EveryJob P)
    (holds : ∀ outcome, P ((Reaction.handle onFulfilled onRejected x.size).job outcome)) :
    (x.thenDo id onFulfilled onRejected).2.EveryJob P := every.make.react holds

theorem EveryJob.makeResolved {P : Job η α → Prop} (every : x.EveryJob P) : x.makeResolved.2.EveryJob P :=
  every.make.settle

end Heap
end Exchange.Promises
