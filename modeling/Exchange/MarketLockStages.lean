import Exchange.MarketLock

/-! How far each call of `withMarketLock` has come. What is to settle the two
promises of a call is its stage. The steps of all code leave a call at its stage
or take it on, and a turn whose job is the call's own takes it on. -/
namespace Exchange.MarketLock
open Promises Relation

variable {α : Type}

namespace State

inductive Stage (α : Type) where
  | waiting
  | ready (argument : Value α)
  | running
  | adopting (source : PromiseId)
  | adopted (source : PromiseId)
  | settling (outcome : Outcome α)
  | finishing (argument : Value α)
  | closed

namespace Stage

@[simp] def rank : Stage α → ℕ
  | waiting => 0
  | ready _ => 1
  | running => 2
  | adopting _ => 3
  | adopted _ => 4
  | settling _ => 5
  | finishing _ => 6
  | closed => 7

def runSupply (n : ℕ) (call : Call) : Stage α → Supply Handler α
  | waiting => .byReaction call.prev (.handle (.fn n) (.fn n) call.run)
  | ready argument => .byJob (.call (.fn n) argument call.run)
  | adopting source => .byJob (.adopt call.run source)
  | adopted source => .byReaction source (.adopt call.run)
  | settling outcome => .byJob (.settle call.run outcome)
  | _ => .absent

def chainSupply (call : Call) : Stage α → Supply Handler α
  | finishing argument => .byJob (.call .ignore argument call.chain)
  | closed => .absent
  | _ => .byReaction call.run (.handle .ignore .ignore call.chain)

/-- The stage after another promise was settled. -/
def settle (call : Call) (id : PromiseId) (outcome : Outcome α) : Stage α → Stage α
  | waiting => if call.prev = id then ready outcome.argument else waiting
  | adopted source => if source = id then settling outcome else adopted source
  | stage => stage

/-- What the function has come to at a stage. -/
def Returned (x : State α) (n : ℕ) : Stage α → Prop
  | waiting | ready _ | running => x.returned n = none
  | adopting source | adopted source => x.returned n = some (.promise source)
  | _ => x.Ended n

end Stage

/-- A call is at a stage. -/
structure Linked (x : State α) (n : ℕ) (call : Call) (stage : Stage α) : Prop where
  run : x.heap.Supplied call.run (stage.runSupply n call)
  chain : x.heap.Supplied call.chain (stage.chainSupply call)
  prev : 1 ≤ stage.rank → x.heap.outcome call.prev ≠ none
  closed : x.heap.outcome call.chain ≠ none ↔ stage.rank = 7
  running : x.running = some (.fn n, call.run) ↔ stage.rank = 2
  started : n ∈ x.started ↔ 2 ≤ stage.rank
  returned : stage.Returned x n

/-- The call `m` is the last of its market among the first `n`. -/
structure Latest (calls : List Call) (n : ℕ) (key : String) (m : ℕ) (call : Call) : Prop where
  before : m < n
  isCall : calls[m]? = some call
  isKey : call.key = key
  last : ∀ (i : ℕ) (other : Call), i < n → calls[i]? = some other → other.key = key → i ≤ m

/-- The functions of calls are only called for their own promises. -/
def Owned (calls : List Call) (job : Job Handler α) : Prop :=
  ∀ n argument derived, job = .call (.fn n) argument derived → ∃ call : Call, calls[n]? = some call ∧ derived = call.run

/-- The promise that a handler resolves: of a call, its own; else not one of a
call. -/
def Serves (x : State α) (derived : PromiseId) : Handler → Prop
  | .fn n => ∃ call : Call, x.calls[n]? = some call ∧ derived = call.run
  | _ => x.Foreign derived

/-- The promises of calls are ordered as the calls. -/
structure Ordered (x : State α) : Prop where
  own : ∀ (n : ℕ) (call : Call), x.calls[n]? = some call → call.run < call.chain ∧ call.chain < x.heap.size
  calls : ∀ (m n : ℕ) (call other : Call), m < n → x.calls[m]? = some call → x.calls[n]? = some other →
    call.chain < other.run

/-- The chains between calls and what runs for them. -/
structure Chained (x : State α) : Prop where
  formed : x.heap.Formed
  owned : x.heap.EveryJob (Owned x.calls)
  ordered : x.Ordered
  running : ∀ handler derived, x.running = some (handler, derived) → derived < x.heap.size ∧ x.Serves derived handler
  unmade : ∀ n ≥ x.calls.length, n ∉ x.started ∧ x.returned n = none
  chains : ∀ key, match x.marketChains key with
    | some chain => ∃ m call, Latest x.calls x.calls.length key m call ∧ call.chain = chain
    | none => ∀ call ∈ x.calls, call.key ≠ key
  follows : ∀ (n : ℕ) (call : Call), x.calls[n]? = some call →
    (∃ m other, Latest x.calls n call.key m other ∧ other.chain = call.prev) ∨
      (∀ (m : ℕ) (other : Call), m < n → x.calls[m]? = some other → other.key ≠ call.key) ∧
        x.heap.outcome call.prev ≠ none

/-- Each call is at its stage. -/
structure Kept (stages : ℕ → Stage α) (x : State α) : Prop extends Chained x where
  linked : ∀ n call, x.calls[n]? = some call → x.Linked n call (stages n)

variable {x y : State α} {n : ℕ} {call : Call} {stage : Stage α} {id : PromiseId} {o : Outcome α}
  {job : Job Handler α} {rest : List (Job Handler α)} {completion : Completion α}

/-! ## What the stage of a call does not rest on -/

theorem Ended.stays (ended : x.Ended n) (returned : y.returned n = x.returned n)
    (stays : ∀ id, x.heap.outcome id ≠ none → y.heap.outcome id ≠ none) : y.Ended n := by
  obtain ⟨completion, came, settled⟩ := ended
  exact ⟨completion, returned.trans came, fun id isPromise => stays id (settled id isPromise)⟩

theorem Stage.Returned.stays (before : stage.Returned x n) (returned : y.returned n = x.returned n)
    (stays : ∀ id, x.heap.outcome id ≠ none → y.heap.outcome id ≠ none) : stage.Returned y n := by
  cases stage with
  | waiting | ready | running | adopting | adopted => exact returned.trans before
  | settling | finishing | closed => exact Ended.stays before returned stays

namespace Stage

/-- Only what a call waits for takes it to another stage. -/
theorem settle_cases (stage : Stage α) (call : Call) (id : PromiseId) (o : Outcome α) :
    stage.settle call id o = stage ∧ (stage = waiting → call.prev ≠ id) ∨
      stage = waiting ∧ call.prev = id ∧ (∃ argument, stage.settle call id o = ready argument) ∨
      stage = adopted id ∧ stage.settle call id o = settling o := by
  cases stage with
  | waiting => by_cases same : call.prev = id <;> simp [settle, same]
  | adopted source => by_cases same : source = id <;> simp [settle, same]
  | ready | running | adopting | settling | finishing | closed => simp [settle]

theorem rank_le_settle : stage.rank ≤ (stage.settle call id o).rank := by
  obtain ⟨same, -⟩ | ⟨rfl, -, argument, same⟩ | ⟨rfl, same⟩ := settle_cases stage call id o
  · exact Nat.le_of_eq (congrArg rank same.symm)
  · rw [same]
    exact Nat.zero_le 1
  · rw [same]
    exact Nat.le_succ 4

theorem settle_runSupply : (stage.settle call id o).runSupply n call = (stage.runSupply n call).settle id o := by
  cases stage with
  | waiting =>
    by_cases same : call.prev = id
    · simp [settle, runSupply, Supply.settle, Reaction.job_same, same]
    · simp [settle, runSupply, Supply.settle, same]
  | adopted source =>
    by_cases same : source = id
    · simp [settle, runSupply, Supply.settle, Reaction.job, same]
    · simp [settle, runSupply, Supply.settle, same]
  | ready | running | adopting | settling | finishing | closed => rfl

theorem settle_chainSupply (notRun : id ≠ call.run) :
    (stage.settle call id o).chainSupply call = (stage.chainSupply call).settle id o := by
  have unchanged : (stage.chainSupply call).settle id o = stage.chainSupply call := by
    cases stage <;> simp [chainSupply, Supply.settle, notRun.symm]
  rw [unchanged]
  obtain ⟨same, -⟩ | ⟨rfl, -, argument, same⟩ | ⟨rfl, same⟩ := settle_cases stage call id o
  · rw [same]
  · rw [same]
    rfl
  · rw [same]
    rfl

/-- What has been said of a call by the rank of its stage stays. -/
theorem settle_rank : ((stage.settle call id o).rank = 7 ↔ stage.rank = 7) ∧
    ((stage.settle call id o).rank = 2 ↔ stage.rank = 2) ∧ (2 ≤ (stage.settle call id o).rank ↔ 2 ≤ stage.rank) := by
  obtain ⟨same, -⟩ | ⟨rfl, -, argument, same⟩ | ⟨rfl, same⟩ := settle_cases stage call id o
  · simp [same]
  · simp [same, rank]
  · simp [same, rank]

theorem running_of_rank (isRank : stage.rank = 2) : stage = running := by
  cases stage with
  | running => rfl
  | waiting | ready | adopting | adopted | settling | finishing | closed => cases isRank

end Stage

/-- The promises of two calls are four. -/
theorem Ordered.run_ne {m : ℕ} {other : Call} (ordered : x.Ordered) (isCall : x.calls[n]? = some call)
    (isOther : x.calls[m]? = some other) (ne : m ≠ n) : other.run ≠ call.run ∧ other.run ≠ call.chain := by
  have own := (ordered.own n call isCall).1
  have others := (ordered.own m other isOther).1
  rcases Nat.lt_or_gt_of_ne ne with before | after
  · have apart := Nat.lt_trans others (ordered.calls m n other call before isOther isCall)
    exact ⟨Nat.ne_of_lt apart, Nat.ne_of_lt (Nat.lt_trans apart own)⟩
  · have apart := ordered.calls n m call other after isCall isOther
    exact ⟨Nat.ne_of_gt (Nat.lt_trans own apart), Nat.ne_of_gt apart⟩

/-- What runs for others does not resolve the promises of a call. -/
theorem Chained.running_ne {handler : Handler} {derived : PromiseId} (chained : x.Chained)
    (isRunning : x.running = some (handler, derived)) (ne : handler ≠ .fn n) (isCall : x.calls[n]? = some call) :
    derived ≠ call.run ∧ derived ≠ call.chain := by
  have runs := (chained.running handler derived isRunning).2
  cases handler with
  | fn m =>
    obtain ⟨other, isOther, rfl⟩ := runs
    exact chained.ordered.run_ne isCall isOther fun same => ne (congrArg Handler.fn same)
  | ignore | outside => exact runs call (List.mem_of_getElem? isCall)

namespace Linked

/-- A stage is left to its call when what settles its promises is. -/
theorem kept (linked : x.Linked n call stage) (run : y.heap.Supplied call.run (stage.runSupply n call))
    (chain : y.heap.Supplied call.chain (stage.chainSupply call))
    (stays : ∀ id, x.heap.outcome id ≠ none → y.heap.outcome id ≠ none)
    (closed : y.heap.outcome call.chain = x.heap.outcome call.chain)
    (running : y.running = some (.fn n, call.run) ↔ x.running = some (.fn n, call.run))
    (started : n ∈ y.started ↔ n ∈ x.started) (returned : y.returned n = x.returned n) : y.Linked n call stage where
  run := run
  chain := chain
  prev begun := stays _ (linked.prev begun)
  closed := by rw [closed, linked.closed]
  running := running.trans linked.running
  started := started.trans linked.started
  returned := linked.returned.stays returned stays

theorem settle (linked : x.Linked n call stage) (notRun : id ≠ call.run) (notChain : id ≠ call.chain) :
    { x with heap := x.heap.settle id o }.Linked n call (stage.settle call id o) where
  run := by
    rw [Stage.settle_runSupply]
    exact linked.run.settle id o
  chain := by
    rw [Stage.settle_chainSupply notRun]
    exact linked.chain.settle id o
  prev begun := by
    obtain ⟨same, notPrev⟩ | ⟨-, isPrev, -⟩ | ⟨rfl, -⟩ := stage.settle_cases call id o
    · rw [same] at begun
      exact Heap.settle_outcome_stays (linked.prev begun)
    · simp [isPrev]
    · exact Heap.settle_outcome_stays (linked.prev (Nat.succ_le_succ (Nat.zero_le 3)))
  closed := by
    rw [Heap.settle_outcome, if_neg notChain.symm, linked.closed, Stage.settle_rank.1]
  running := by rw [linked.running, Stage.settle_rank.2.1]
  started := by rw [linked.started, Stage.settle_rank.2.2]
  returned := by
    have returned : stage.Returned { x with heap := x.heap.settle id o } n :=
      linked.returned.stays rfl fun _ => Heap.settle_outcome_stays
    obtain ⟨same, -⟩ | ⟨rfl, -, argument, same⟩ | ⟨rfl, same⟩ := stage.settle_cases call id o
    · rw [same]
      exact returned
    · rw [same]
      exact returned
    · rw [same]
      refine ⟨.promise id, returned, fun source isPromise => ?_⟩
      cases isPromise
      simp

theorem enqueue (linked : x.Linked n call stage) (notRun : job.target ≠ call.run) (notChain : job.target ≠ call.chain) :
    { x with heap := x.heap.enqueue job }.Linked n call stage :=
  linked.kept (linked.run.enqueue_ne notRun) (linked.chain.enqueue_ne notChain) (fun _ settled => settled) rfl
    Iff.rfl Iff.rfl rfl

theorem dequeue (linked : x.Linked n call stage) (head : x.heap.jobs = job :: rest) (notRun : job.target ≠ call.run)
    (notChain : job.target ≠ call.chain) : { x with heap := { x.heap with jobs := rest } }.Linked n call stage :=
  linked.kept (linked.run.dequeue_ne head notRun) (linked.chain.dequeue_ne head notChain) (fun _ settled => settled) rfl
    Iff.rfl Iff.rfl rfl

theorem react (linked : x.Linked n call stage) (source : PromiseId) (reaction : Reaction Handler)
    (notRun : reaction.target ≠ call.run) (notChain : reaction.target ≠ call.chain) :
    { x with heap := x.heap.react source reaction }.Linked n call stage :=
  linked.kept (linked.run.react_ne source reaction notRun) (linked.chain.react_ne source reaction notChain)
    (fun _ settled => by rwa [Heap.react_outcome]) Heap.react_outcome Iff.rfl Iff.rfl rfl

theorem make (linked : x.Linked n call stage) : { x with heap := x.heap.make.2 }.Linked n call stage :=
  linked.kept linked.run.make linked.chain.make (fun _ settled => settled) rfl Iff.rfl Iff.rfl rfl

/-- What runs, has begun or has come to something is another function. -/
theorem other (linked : x.Linked n call stage) (heap : y.heap = x.heap)
    (running : y.running = some (.fn n, call.run) ↔ x.running = some (.fn n, call.run))
    (started : n ∈ y.started ↔ n ∈ x.started) (returned : y.returned n = x.returned n) : y.Linked n call stage :=
  linked.kept (by rw [heap]; exact linked.run) (by rw [heap]; exact linked.chain)
    (fun _ settled => by rwa [heap]) (by rw [heap]) running started returned

theorem resolve (linked : x.Linked n call stage) (completion : Completion α) (notRun : id ≠ call.run)
    (notChain : id ≠ call.chain) :
    ∃ stage', stage.rank ≤ stage'.rank ∧ { x with heap := x.heap.resolve id completion }.Linked n call stage' := by
  obtain ⟨o, resolved, -⟩ | ⟨source, -, -, resolved⟩ := Heap.resolve_cases x.heap id completion
  · rw [resolved]
    exact ⟨_, Stage.rank_le_settle, linked.settle notRun notChain⟩
  · rw [resolved]
    exact ⟨stage, Nat.le_refl _, linked.enqueue notRun notChain⟩

/-! ## What takes a call from stage to stage -/

/-- The function is called. -/
theorem begin {argument : Value α} (linked : x.Linked n call (.ready argument)) (ne : call.run ≠ call.chain)
    (head : x.heap.jobs = .call (.fn n) argument call.run :: rest) :
    (x.execute (.call (.fn n) argument call.run) rest).Linked n call .running where
  run := linked.run.dequeue head rfl
  chain := linked.chain.dequeue_ne head ne
  prev _ := linked.prev (Nat.le_refl 1)
  closed := linked.closed.trans (iff_of_false (by simp) (by simp))
  running := iff_of_true rfl rfl
  started := iff_of_true (List.mem_append_right _ (List.mem_singleton_self n)) (Nat.le_refl 2)
  returned := linked.returned

/-- The promise of the call is settled, and the chain is next. -/
theorem close {heap : Heap Handler α} (linked : x.Linked n call stage) (begun : 2 ≤ stage.rank) (early : stage.rank < 6)
    (ne : call.run ≠ call.chain) (run : heap.Supplied call.run .absent)
    (chain : heap.Supplied call.chain (stage.chainSupply call)) (outcome : ∀ id, heap.outcome id = x.heap.outcome id)
    (settled : y.heap = heap.settle call.run o) (idle : y.running ≠ some (.fn n, call.run))
    (started : y.started = x.started) (ended : y.Ended n) : y.Linked n call (.finishing o.argument) where
  run := by
    rw [settled]
    exact run.settle call.run o
  chain := by
    have waits : stage.chainSupply call = .byReaction call.run (.handle .ignore .ignore call.chain) := by
      cases stage with
      | finishing | closed => exact absurd early (by simp)
      | waiting | ready | running | adopting | adopted | settling => rfl
    have supplied := chain.settle call.run o
    rw [waits, Supply.settle, if_pos rfl, Reaction.job_same] at supplied
    rwa [settled]
  prev _ := by
    rw [settled]
    refine Heap.settle_outcome_stays ?_
    rw [outcome]
    exact linked.prev (Nat.le_of_succ_le begun)
  closed := by
    rw [settled, Heap.settle_outcome, if_neg ne.symm, outcome, linked.closed]
    exact iff_of_false (Nat.ne_of_lt (Nat.lt_succ_of_lt early)) (by simp)
  running := iff_of_false idle (by simp)
  started := iff_of_true (by rw [started]; exact linked.started.mpr begun) (by simp)
  returned := ended

/-- The function ends. -/
theorem finish (linked : x.Linked n call .running) (ne : call.run ≠ call.chain) (completion : Completion α) :
    ∃ stage : Stage α, 2 < stage.rank ∧ (x.finish (.fn n) call.run completion).Linked n call stage := by
  have begun : n ∈ x.started := linked.started.mpr (Nat.le_refl 2)
  have returned : (x.finish (.fn n) call.run completion).returned n = some completion := by simp [State.finish]
  obtain ⟨o, resolved, same⟩ | ⟨source, rfl, -, resolved⟩ := Heap.resolve_cases x.heap call.run completion
  · refine ⟨.finishing o.argument, by simp, ?_⟩
    refine linked.close (by simp) (by simp) ne linked.run linked.chain (fun _ => rfl) resolved
      (by simp [State.finish]) rfl ⟨completion, returned, fun id isPromise => ?_⟩
    have heap : (x.finish (.fn n) call.run completion).heap = x.heap.settle call.run o := resolved
    rw [same id isPromise, heap]
    simp
  · have heap : (x.finish (.fn n) call.run (.promise source)).heap = x.heap.enqueue (.adopt call.run source) := resolved
    refine ⟨.adopting source, by simp, ?_⟩
    exact
      { run := by rw [heap]; exact linked.run.enqueue rfl
        chain := by rw [heap]; exact linked.chain.enqueue_ne ne
        prev := fun _ => by rw [heap]; exact linked.prev (by simp)
        closed := by rw [heap]; exact linked.closed.trans (iff_of_false (by simp) (by simp))
        running := iff_of_false (by simp [State.finish]) (by simp)
        started := iff_of_true begun (by simp)
        returned := returned }

/-- The promise of the call is chained to the one its function returned. -/
theorem adopt {source : PromiseId} (linked : x.Linked n call (.adopting source)) (ne : call.run ≠ call.chain)
    (head : x.heap.jobs = .adopt call.run source :: rest) :
    ∃ stage : Stage α, 3 < stage.rank ∧ (x.execute (.adopt call.run source) rest).Linked n call stage := by
  have run := (linked.run.dequeue head rfl).react source (.adopt call.run) rfl
  have chain := (linked.chain.dequeue_ne head ne).react_ne source (.adopt call.run) ne
  have stays : ∀ id, x.heap.outcome id ≠ none →
      ({ x.heap with jobs := rest }.react source (.adopt call.run)).outcome id ≠ none := fun id settled => by
    rwa [Heap.react_outcome]
  cases isOutcome : ({ x.heap with jobs := rest } : Heap Handler α).outcome source with
  | none =>
    rw [isOutcome] at run
    exact ⟨.adopted source, by simp,
      { run, chain
        prev := fun _ => stays _ (linked.prev (by simp))
        closed := (not_congr (by rw [execute, Heap.react_outcome]; rfl)).trans linked.closed |>.trans (by simp)
        running := linked.running.trans (by simp)
        started := linked.started.trans (by simp)
        returned := linked.returned }⟩
  | some outcome =>
    rw [isOutcome] at run
    exact ⟨.settling outcome, by simp,
      { run, chain
        prev := fun _ => stays _ (linked.prev (by simp))
        closed := (not_congr (by rw [execute, Heap.react_outcome]; rfl)).trans linked.closed |>.trans (by simp)
        running := linked.running.trans (by simp)
        started := linked.started.trans (by simp)
        returned := ⟨.promise source, linked.returned, fun id isPromise => by
          cases isPromise
          exact stays _ (by rw [← Option.isSome_iff_ne_none]; exact isOutcome ▸ rfl)⟩ }⟩

/-- The promise of the call is settled as the one its function returned. -/
theorem settleRun (linked : x.Linked n call (.settling o)) (ne : call.run ≠ call.chain)
    (head : x.heap.jobs = .settle call.run o :: rest) :
    (x.execute (.settle call.run o) rest).Linked n call (.finishing o.argument) :=
  linked.close (by simp) (by simp) ne (linked.run.dequeue head rfl) (linked.chain.dequeue_ne head ne) (fun _ => rfl) rfl
    (fun runs => by simpa using linked.running.mp runs) rfl
    (Ended.stays linked.returned rfl fun _ settled => Heap.settle_outcome_stays settled)

/-- The chain is settled. -/
theorem release {argument : Value α} (linked : x.Linked n call (.finishing argument)) (ne : call.run ≠ call.chain)
    (head : x.heap.jobs = .call .ignore argument call.chain :: rest) :
    (x.execute (.call .ignore argument call.chain) rest).Linked n call .closed where
  run := (linked.run.dequeue_ne head ne.symm).settle call.chain (.ok .undefined)
  chain := (linked.chain.dequeue head rfl).settle call.chain (.ok .undefined)
  prev _ := Heap.settle_outcome_stays (linked.prev (by simp))
  closed := iff_of_true (by simp [execute, Heap.resolve]) rfl
  running := linked.running.trans (by simp)
  started := linked.started.trans (by simp)
  returned := Ended.stays linked.returned rfl fun _ settled => Heap.settle_outcome_stays settled

/-! ## A call and the steps of all code -/

/-- A turn leaves the other calls at least where they were. -/
theorem turn_other (linked : x.Linked n call stage) (chained : x.Chained) (head : x.heap.jobs = job :: rest)
    (idle : x.running = none) (isCall : x.calls[n]? = some call)
    (notRun : job.target ≠ call.run) (notChain : job.target ≠ call.chain) :
    ∃ stage', stage.rank ≤ stage'.rank ∧ (x.execute job rest).Linked n call stage' := by
  have taken := linked.dequeue head notRun notChain
  cases job with
  | settle target outcome => exact ⟨_, Stage.rank_le_settle, taken.settle notRun notChain⟩
  | adopt target source =>
    exact ⟨stage, Nat.le_refl _, taken.react source (.adopt target) notRun notChain⟩
  | call handler argument derived =>
    cases handler with
    | ignore => exact taken.resolve (.value .undefined) notRun notChain
    | outside =>
      refine ⟨stage, Nat.le_refl _, taken.other rfl ?_ Iff.rfl rfl⟩
      simp [execute, idle]
    | fn m =>
      -- the function of another call
      have ne : n ≠ m := by
        rintro rfl
        obtain ⟨owner, isOwner, rfl⟩ :=
          chained.owned.jobs (.call (.fn n) argument derived) (by simp [head]) n argument derived rfl
        rw [isCall] at isOwner
        cases isOwner
        exact notRun rfl
      refine ⟨stage, Nat.le_refl _, taken.other rfl ?_ ?_ rfl⟩
      · simp [execute, idle, ne.symm]
      · simp [execute, ne]

/-- A turn whose job is the call's own takes it on. -/
theorem turn_own (linked : x.Linked n call stage) (head : x.heap.jobs = job :: rest) (ne : call.run ≠ call.chain)
    (own : job.target = call.run ∨ job.target = call.chain) :
    ∃ stage', stage.rank < stage'.rank ∧ (x.execute job rest).Linked n call stage' := by
  rcases own with isRun | isChain
  · have isSupply := linked.run.of_head head isRun
    cases stage with
    | ready argument =>
      cases isSupply
      exact ⟨.running, by simp, linked.begin ne head⟩
    | adopting source =>
      cases isSupply
      exact linked.adopt ne head
    | settling outcome =>
      cases isSupply
      exact ⟨.finishing outcome.argument, by simp, linked.settleRun ne head⟩
    | waiting | running | adopted | finishing | closed => cases isSupply
  · have isSupply := linked.chain.of_head head isChain
    cases stage with
    | finishing argument =>
      cases isSupply
      exact ⟨.closed, by simp, linked.release ne head⟩
    | waiting | ready | running | adopting | adopted | settling | closed => cases isSupply

theorem turn (linked : x.Linked n call stage) (chained : x.Chained) (isCall : x.calls[n]? = some call)
    (turn : Turn x y) : ∃ stage', stage.rank ≤ stage'.rank ∧ y.Linked n call stage' := by
  obtain ⟨job, rest, idle, head⟩ := turn
  by_cases own : job.target = call.run ∨ job.target = call.chain
  · obtain ⟨stage', further, linked'⟩ := linked.turn_own head (Nat.ne_of_lt (chained.ordered.own n call isCall).1) own
    exact ⟨stage', Nat.le_of_lt further, linked'⟩
  · rw [not_or] at own
    exact linked.turn_other chained head idle isCall own.1 own.2

theorem thenDo (linked : x.Linked n call stage) (source : PromiseId) (onFulfilled onRejected : Handler)
    (run : call.run < x.heap.size) (chain : call.chain < x.heap.size) :
    { x with heap := (x.heap.thenDo source onFulfilled onRejected).2 }.Linked n call stage :=
  linked.make.react source (.handle onFulfilled onRejected x.heap.size) (Nat.ne_of_gt run) (Nat.ne_of_gt chain)

theorem linkedTo (linked : x.Linked n call stage) (key : String) (prev : PromiseId)
    (run : call.run < x.heap.size) (chain : call.chain < x.heap.size) :
    (x.linkedTo key prev x.heap).Linked n call stage :=
  ((linked.thenDo prev (.fn x.calls.length) (.fn x.calls.length) run chain).thenDo x.heap.size .ignore .ignore
    (Nat.lt_of_lt_of_eq (Nat.lt_succ_of_lt run) Heap.thenDo_size.symm)
    (Nat.lt_of_lt_of_eq (Nat.lt_succ_of_lt chain) Heap.thenDo_size.symm)).other rfl Iff.rfl Iff.rfl rfl

theorem act (linked : x.Linked n call stage) (chained : x.Chained) (isCall : x.calls[n]? = some call)
    (act : Act x y) : ∃ stage', stage.rank ≤ stage'.rank ∧ y.Linked n call stage' := by
  obtain ⟨ordered, chainMade⟩ := chained.ordered.own n call isCall
  have runMade := Nat.lt_trans ordered chainMade
  cases act with
  | make => exact ⟨stage, Nat.le_refl _, linked.make⟩
  | thenDo id made => exact ⟨stage, Nat.le_refl _, linked.thenDo id .outside .outside runMade chainMade⟩
  | resolve id completion made isForeign known =>
    obtain ⟨notRun, notChain⟩ := isForeign call (List.mem_of_getElem? isCall)
    exact linked.resolve completion notRun notChain
  | finish handler derived completion isRunning known =>
    by_cases own : handler = .fn n
    · subst own
      obtain ⟨-, owner, isOwner, rfl⟩ := chained.running _ _ isRunning
      rw [isCall] at isOwner
      cases isOwner
      have isStage := Stage.running_of_rank (linked.running.mp isRunning)
      subst isStage
      obtain ⟨stage', further, linked'⟩ := linked.finish (Nat.ne_of_lt ordered) completion
      exact ⟨stage', Nat.le_of_lt further, linked'⟩
    · obtain ⟨notRun, notChain⟩ := chained.running_ne isRunning own isCall
      obtain ⟨stage', further, linked'⟩ := linked.resolve completion notRun notChain
      refine ⟨stage', further, linked'.other rfl ?_ Iff.rfl ?_⟩
      · simp [State.finish, isRunning, own]
      · cases handler with
        | fn m => exact Function.update_of_ne (fun same => own (congrArg Handler.fn same.symm)) _ _
        | ignore | outside => rfl
  | call key =>
    obtain ⟨prev, -, called⟩ | ⟨-, called⟩ := withMarketLock_cases key x
    · rw [called]
      exact ⟨stage, Nat.le_refl _, linked.linkedTo key prev runMade chainMade⟩
    · have resolved : { x with heap := x.heap.makeResolved.2 }.Linked n call _ :=
        linked.make.settle (Nat.ne_of_gt runMade) (Nat.ne_of_gt chainMade)
      rw [called]
      refine ⟨_, Stage.rank_le_settle, (resolved.linkedTo key x.heap.size ?_ ?_).other rfl Iff.rfl Iff.rfl rfl⟩
      · exact Nat.lt_of_lt_of_eq (Nat.lt_succ_of_lt runMade) Heap.makeResolved_size.symm
      · exact Nat.lt_of_lt_of_eq (Nat.lt_succ_of_lt chainMade) Heap.makeResolved_size.symm

end Linked

end State
end Exchange.MarketLock
