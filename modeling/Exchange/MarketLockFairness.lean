import Exchange.MarketLockChains

/-! The lock on a market is fair. A call that need not wait has all calls of its
market before it over, so sections do not overlap and keep their order. Once
they are over, however they ended, it takes four rounds of jobs to come to the
next. -/
namespace Exchange.MarketLock
open Promises Relation

variable {α : Type}

namespace State

variable {x y : State α} {n : ℕ} {call : Call} {stage : Stage α} {id : PromiseId} {o : Outcome α}
  {job : Job Handler α} {rest : List (Job Handler α)} {completion : Completion α}

namespace Kept
variable {stages : ℕ → Stage α}

/-! ## What comes before a call -/

/-- Once a call need not wait, all calls before it of its market are over. -/
theorem over_before (kept : Kept stages x) {m : ℕ} {other : Call} (isCall : x.calls[n]? = some call)
    (begun : 1 ≤ (stages n).rank) (before : m < n) (isOther : x.calls[m]? = some other) (isKey : other.key = call.key) :
    (stages m).rank = 7 := by
  induction n using Nat.strongRecOn generalizing call with
  | ind n ih =>
    have settled := (kept.linked n call isCall).prev begun
    rcases kept.follows n call isCall with ⟨i, last, latest, isPrev⟩ | ⟨first, -⟩
    · rw [← isPrev] at settled
      have closed := (kept.linked i last latest.isCall).closed.mp settled
      rcases Nat.lt_or_eq_of_le (latest.last m other before isOther isKey) with earlier | rfl
      · exact ih i latest.before latest.isCall (by omega) earlier (isKey.trans latest.isKey.symm)
      · exact closed
    · exact absurd isKey (first m other before isOther)

theorem ended_of_rank (kept : Kept stages x) (isCall : x.calls[n]? = some call) (late : 5 ≤ (stages n).rank) :
    x.Ended n := by
  have returned := (kept.linked n call isCall).returned
  cases isStage : stages n with
  | settling | finishing | closed =>
    rw [isStage] at returned
    exact returned
  | waiting | ready | running | adopting | adopted => simp [isStage] at late

theorem behind (kept : Kept stages x) {m : ℕ} (same : x.SameMarket m n) (before : m < n) (begun : n ∈ x.started) :
    m ∈ x.started ∧ x.Ended m := by
  obtain ⟨other, call, isOther, isCall, isKey⟩ := same
  have rank := (kept.linked n call isCall).started.mp begun
  have closed := kept.over_before isCall (Nat.le_of_succ_le rank) before isOther isKey
  exact ⟨(kept.linked m other isOther).started.mpr (by omega), kept.ended_of_rank isOther (by omega)⟩

theorem exclusive (kept : Kept stages x) {m : ℕ} (same : x.SameMarket m n) (first : x.UnderWay m)
    (second : x.UnderWay n) : m = n := by
  rcases Nat.lt_trichotomy m n with before | isSame | after
  · exact absurd (kept.behind same before second.1).2 first.2
  · exact isSame
  · exact absurd (kept.behind same.symm after first.1).2 second.2

theorem ready_of_head {argument : Value α} {derived : PromiseId} (kept : Kept stages x)
    (head : x.heap.jobs = .call (.fn n) argument derived :: rest) :
    ∃ call, x.calls[n]? = some call ∧ x.Linked n call (.ready argument) := by
  obtain ⟨call, isCall, rfl⟩ := kept.owned.jobs (.call (.fn n) argument derived) (by simp [head]) n argument derived rfl
  have linked := kept.linked n call isCall
  have isSupply := linked.run.of_head head rfl
  refine ⟨call, isCall, ?_⟩
  cases isStage : stages n with
  | ready =>
    rw [isStage] at linked isSupply
    cases isSupply
    exact linked
  | waiting | running | adopting | adopted | settling | finishing | closed =>
    simp [isStage, Stage.runSupply] at isSupply

/-- The function whose turn it is has not been called. -/
theorem fresh_of_head {argument : Value α} {derived : PromiseId} (kept : Kept stages x)
    (head : x.heap.jobs = .call (.fn n) argument derived :: rest) : n ∉ x.started := by
  obtain ⟨call, isCall, linked⟩ := kept.ready_of_head head
  simp [linked.started]

/-- A function that has come to its end is on its way to its chain. -/
theorem rank_of_ended (kept : Kept stages x) (isCall : x.calls[n]? = some call) (ended : x.Ended n) :
    3 ≤ (stages n).rank ∧ (stages n).rank ≠ 4 := by
  obtain ⟨completion, came, settled⟩ := ended
  have linked := kept.linked n call isCall
  have returned := linked.returned
  have run := linked.run
  cases isStage : stages n with
  | waiting | ready | running =>
    rw [isStage] at returned
    cases returned.symm.trans came
  | adopted source =>
    rw [isStage] at returned run
    cases returned.symm.trans came
    exact absurd run.pending (settled source rfl)
  | adopting | settling | finishing | closed => simp

/-- A call whose predecessor is over need not wait. -/
theorem ready_of_prev (kept : Kept stages x) (isCall : x.calls[n]? = some call)
    (settled : x.heap.outcome call.prev ≠ none) : 1 ≤ (stages n).rank := by
  have run := (kept.linked n call isCall).run
  cases isStage : stages n with
  | waiting =>
    rw [isStage] at run
    exact absurd run.pending settled
  | ready | running | adopting | adopted | settling | finishing | closed => simp

/-- At these stages the next job of a call is in the queue. -/
theorem queued (kept : Kept stages x) (isCall : x.calls[n]? = some call)
    (rank : (stages n).rank = 1 ∨ (stages n).rank = 3 ∨ (stages n).rank = 5 ∨ (stages n).rank = 6) :
    ∃ job ∈ x.heap.jobs, job.target = call.run ∨ job.target = call.chain := by
  have linked := kept.linked n call isCall
  have run := linked.run
  have chain := linked.chain
  cases isStage : stages n with
  | ready | adopting | settling =>
    rw [isStage] at run
    exact ⟨_, run.mem_jobs.1, .inl run.mem_jobs.2⟩
  | finishing =>
    rw [isStage] at chain
    exact ⟨_, chain.mem_jobs.1, .inr chain.mem_jobs.2⟩
  | waiting | running | adopted | closed => simp [isStage] at rank

end Kept

/-! ## Rounds -/

/-- A call is known to have come so far. -/
def AtLeast (x : State α) (n rank : ℕ) : Prop := ∃ stages, Kept stages x ∧ rank ≤ (stages n).rank

theorem AtLeast.steps {rank : ℕ} (atLeast : x.AtLeast n rank) (isCall : x.calls[n]? = some call)
    (steps : ReflTransGen Step x y) : y.AtLeast n rank ∧ y.calls[n]? = some call := by
  induction steps with
  | refl => exact ⟨atLeast, isCall⟩
  | tail _ step ih =>
    obtain ⟨⟨stages, kept, bound⟩, isCall⟩ := ih
    obtain ⟨stages', kept', further⟩ := kept.step step
    exact ⟨⟨stages', kept', Nat.le_trans bound (further n (List.getElem?_eq_some_iff.mp isCall).1)⟩, step.calls isCall⟩

/-- A job in the queue is taken when there have been as many turns as jobs
before it. -/
theorem Turns.advance {k rank : ℕ} {before after : List (Job Handler α)} (turns : Turns k x y)
    (atLeast : x.AtLeast n rank) (isCall : x.calls[n]? = some call) (queue : x.heap.jobs = before ++ job :: after)
    (own : job.target = call.run ∨ job.target = call.chain) (enough : before.length < k) : y.AtLeast n (rank + 1) := by
  induction turns generalizing before after with
  | refl => exact absurd enough (Nat.not_lt_zero _)
  | act act later ih =>
    obtain ⟨more, jobs⟩ := act.jobs
    obtain ⟨atLeast', isCall'⟩ := atLeast.steps isCall (.single (.inl act))
    exact ih atLeast' isCall' (by rw [← jobs, queue, List.append_assoc, List.cons_append]) enough
  | turn turn later ih =>
    have isTurn := turn
    obtain ⟨head, rest, idle, isHead⟩ := turn
    rw [queue] at isHead
    cases before with
    | nil =>
      cases isHead
      obtain ⟨stages, kept, bound⟩ := atLeast
      obtain ⟨stages', kept', further⟩ := kept.turn idle queue isCall own
      have advanced : AtLeast _ n (rank + 1) := ⟨stages', kept', Nat.succ_le_of_lt (Nat.lt_of_le_of_lt bound further)⟩
      exact (advanced.steps (by rwa [execute_calls]) later.steps).1
    | cons first before =>
      cases isHead
      obtain ⟨more, jobs⟩ := execute_jobs head (before ++ job :: after) _
      obtain ⟨atLeast', isCall'⟩ := atLeast.steps isCall (.single (.inr isTurn))
      have queue' := jobs.symm
      rw [List.append_assoc, List.cons_append] at queue'
      exact ih atLeast' isCall' queue' (Nat.lt_of_succ_lt_succ enough)

/-- The call whose next job is in the queue comes further in a round. -/
theorem AtLeast.round {rank : ℕ} (atLeast : x.AtLeast n rank) (isCall : x.calls[n]? = some call)
    (moves : rank = 1 ∨ rank = 3 ∨ rank = 5 ∨ rank = 6) (round : Round x y) : y.AtLeast n (rank + 1) := by
  obtain ⟨stages, kept, bound⟩ := atLeast
  obtain ⟨k, enough, turns⟩ := round
  rcases Nat.lt_or_eq_of_le bound with further | isRank
  · have further : x.AtLeast n (rank + 1) := ⟨stages, kept, further⟩
    exact (further.steps isCall turns.steps).1
  · rw [isRank] at moves
    obtain ⟨job, member, own⟩ := kept.queued isCall moves
    obtain ⟨before, after, queue⟩ := List.append_of_mem member
    have within : before.length < x.heap.jobs.length := by simp [queue]
    exact turns.advance ⟨stages, kept, bound⟩ isCall queue own (Nat.lt_of_lt_of_le within enough)

/-! ## The order of the sections -/

/-- Sections begin once, and in the order of the calls of their market. -/
def Lined (x : State α) : Prop := x.started.Pairwise fun m n => m ≠ n ∧ (x.SameMarket m n → m < n)

theorem Chained.call_of_started (chained : x.Chained) (begun : n ∈ x.started) :
    ∃ call, x.calls[n]? = some call := by
  by_contra unmade
  refine (chained.unmade n ?_).1 begun
  by_contra early
  exact unmade ⟨_, List.getElem?_eq_getElem (Nat.lt_of_not_le early)⟩

theorem Step.sameMarket {m : ℕ} (step : Step x y) (chained : x.Chained) (first : m ∈ x.started) (second : n ∈ x.started)
    (same : y.SameMarket m n) : x.SameMarket m n := by
  obtain ⟨call, isCall⟩ := chained.call_of_started first
  obtain ⟨other, isOther⟩ := chained.call_of_started second
  obtain ⟨call', other', isCall', isOther', isKey⟩ := same
  cases (step.calls isCall).symm.trans isCall'
  cases (step.calls isOther).symm.trans isOther'
  exact ⟨call, other, isCall, isOther, isKey⟩

theorem Lined.step {stages : ℕ → Stage α} (lined : x.Lined) (kept : Kept stages x) (step : Step x y) : y.Lined := by
  have old : x.started.Pairwise fun m n => m ≠ n ∧ (y.SameMarket m n → m < n) :=
    lined.imp_of_mem fun first second apart =>
      ⟨apart.1, fun same => apart.2 (step.sameMarket kept.toChained first second same)⟩
  have isStep := step
  rcases step with act | ⟨job, rest, idle, head⟩
  · unfold Lined
    rwa [act.started]
  · obtain same | ⟨n, argument, derived, rfl, begun⟩ := execute_started job rest x
    · unfold Lined
      rwa [same]
    · -- neither the function that is called nor one after it has been called before
      have fresh := kept.fresh_of_head head
      unfold Lined
      rw [begun, List.pairwise_append]
      refine ⟨old, List.pairwise_singleton _ _, fun m before other isLast => ?_⟩
      cases List.mem_singleton.mp isLast
      refine ⟨fun same => fresh (same ▸ before), fun same => ?_⟩
      have same : x.SameMarket m n := same
      by_contra late
      have ne : n ≠ m := fun isSame => fresh (isSame ▸ before)
      exact fresh (kept.behind same.symm (by omega) before).1

/-! ## The lock -/

theorem start_kept : Kept (fun _ => .waiting) (start : State α) where
  formed := ⟨fun _ _ => ⟨rfl, rfl⟩, ⟨by simp [start], by simp [start, Heap.waiting]⟩⟩
  owned := ⟨by simp [start], by simp [start, Heap.waiting]⟩
  ordered := ⟨by simp [start], by simp [start]⟩
  running := by simp [start]
  unmade := by simp [start]
  chains := by simp [start]
  follows := by simp [start]
  linked := by simp [start]

theorem Reached.kept (reached : x.Reached) : (∃ stages, Kept stages x) ∧ x.Lined := by
  induction reached with
  | refl => exact ⟨⟨_, start_kept⟩, List.Pairwise.nil⟩
  | tail _ step ih =>
    obtain ⟨⟨stages, kept⟩, lined⟩ := ih
    obtain ⟨stages', kept', -⟩ := kept.step step
    exact ⟨⟨stages', kept'⟩, lined.step kept step⟩

/-! ## A section that is over -/

namespace Kept
variable {stages : ℕ → Stage α}

theorem ended_step (kept : Kept stages x) (isCall : x.calls[n]? = some call) (ended : x.Ended n) (step : Step x y) :
    y.Ended n := by
  refine ended.stays ?_ fun id => step.outcome
  rcases step with act | ⟨job, rest, -, -⟩
  · cases act with
    | make | thenDo | resolve => rfl
    | call key =>
      obtain ⟨prev, -, called⟩ | ⟨-, called⟩ := withMarketLock_cases key x <;> rw [called] <;> rfl
    | finish handler derived completion isRunning known =>
      cases handler with
      | ignore | outside => rfl
      | fn m =>
        -- a function that has ended does not end again
        refine Function.update_of_ne ?_ _ _
        rintro rfl
        obtain ⟨-, owner, isOwner, rfl⟩ := kept.running (.fn n) derived isRunning
        cases isCall.symm.trans isOwner
        have rank := (kept.linked n call isCall).running.mp isRunning
        have late := (kept.rank_of_ended isCall ended).1
        omega
  · cases job with
    | settle | adopt => rfl
    | call handler => cases handler <;> rfl

theorem steps (kept : Kept stages x) (steps : ReflTransGen Step x y) : ∃ stages', Kept stages' y := by
  induction steps with
  | refl => exact ⟨stages, kept⟩
  | tail _ step ih =>
    obtain ⟨stages', kept'⟩ := ih
    obtain ⟨stages', kept', -⟩ := kept'.step step
    exact ⟨stages', kept'⟩

theorem ended_steps (kept : Kept stages x) (isCall : x.calls[n]? = some call) (ended : x.Ended n)
    (steps : ReflTransGen Step x y) : y.Ended n := by
  induction steps with
  | refl => exact ended
  | tail before step ih =>
    obtain ⟨stages', kept'⟩ := kept.steps before
    have atLeast : x.AtLeast n 0 := ⟨stages, kept, Nat.zero_le _⟩
    exact kept'.ended_step (atLeast.steps isCall before).2 ih step

end Kept

theorem AtLeast.started (atLeast : x.AtLeast n 2) (isCall : x.calls[n]? = some call) : n ∈ x.started := by
  obtain ⟨stages, kept, bound⟩ := atLeast
  exact (kept.linked n call isCall).started.mpr bound

theorem AtLeast.closed (atLeast : x.AtLeast n 7) (isCall : x.calls[n]? = some call) :
    x.heap.outcome call.chain ≠ none := by
  obtain ⟨stages, kept, bound⟩ := atLeast
  refine (kept.linked n call isCall).closed.mpr ?_
  cases isStage : stages n with
  | closed => rfl
  | waiting | ready | running | adopting | adopted | settling | finishing => simp [isStage] at bound

namespace Kept
variable {stages : ℕ → Stage α}

/-- A function that has ended lets go of the chain within three rounds. -/
theorem released (kept : Kept stages x) (isCall : x.calls[n]? = some call) (ended : x.Ended n)
    (rounds : Rounds 3 x y) : y.heap.outcome call.chain ≠ none := by
  obtain ⟨a, first, b, second, c, third, rfl⟩ := rounds
  have atLeast : x.AtLeast n 3 := ⟨stages, kept, (kept.rank_of_ended isCall ended).1⟩
  obtain ⟨stages', kept', bound⟩ := atLeast.round isCall (by simp) first
  have isCall₁ := (atLeast.steps isCall first.steps).2
  -- what the function returned is settled, so nothing is left to wait for
  have settled := (kept'.rank_of_ended isCall₁ (kept.ended_steps isCall ended first.steps)).2
  have atLeast₁ : a.AtLeast n 5 := ⟨stages', kept', by omega⟩
  have atLeast₂ := atLeast₁.round isCall₁ (by simp) second
  have isCall₂ := (atLeast₁.steps isCall₁ second.steps).2
  exact (atLeast₂.round isCall₂ (by simp) third).closed (atLeast₂.steps isCall₂ third.steps).2

theorem served (kept : Kept stages x) (made : n < x.calls.length) (ended : ∀ m < n, x.SameMarket m n → x.Ended m)
    (rounds : Rounds 4 x y) : n ∈ y.started := by
  have isCall := List.getElem?_eq_getElem made
  obtain ⟨a, first, b, second, c, third, d, fourth, rfl⟩ := rounds
  have atLeast : x.AtLeast n 0 := ⟨stages, kept, Nat.zero_le _⟩
  have steps := (first.steps.trans second.steps).trans third.steps
  have isCall' := (atLeast.steps isCall steps).2
  have settled : c.heap.outcome x.calls[n].prev ≠ none := by
    rcases kept.follows n _ isCall with ⟨m, other, latest, isPrev⟩ | ⟨-, settled⟩
    · rw [← isPrev]
      refine kept.released latest.isCall (ended m latest.before ?_) ⟨a, first, b, second, c, third, rfl⟩
      exact ⟨other, _, latest.isCall, isCall, latest.isKey⟩
    · exact outcome_steps steps settled
  obtain ⟨stages', kept'⟩ := kept.steps steps
  have ready : c.AtLeast n 1 := ⟨stages', kept', kept'.ready_of_prev isCall' settled⟩
  exact (ready.round isCall' (by simp) fourth).started (ready.steps isCall' fourth.steps).2

theorem complete (kept : Kept stages x) (quiet : x.heap.jobs = []) (made : n < x.calls.length)
    (free : ∀ m, x.SameMarket m n → ¬ x.UnderWay m) : n ∈ x.started := by
  induction n using Nat.strongRecOn with
  | ind n ih =>
    have isCall := List.getElem?_eq_getElem made
    have noJob : ∀ {m : ℕ} {other : Call}, x.calls[m]? = some other →
        ¬ ((stages m).rank = 1 ∨ (stages m).rank = 3 ∨ (stages m).rank = 5 ∨ (stages m).rank = 6) := by
      intro m other isOther rank
      obtain ⟨job, member, -⟩ := kept.queued isOther rank
      simp [quiet] at member
    have settled : x.heap.outcome x.calls[n].prev ≠ none := by
      rcases kept.follows n _ isCall with ⟨m, other, latest, isPrev⟩ | ⟨-, settled⟩
      · have same : x.SameMarket m n := ⟨other, _, latest.isCall, isCall, latest.isKey⟩
        have begun := ih m latest.before (Nat.lt_trans latest.before made) fun i isSame => free i (isSame.trans same)
        have ended : x.Ended m := by
          by_contra going
          exact free m same ⟨begun, going⟩
        have rank := kept.rank_of_ended latest.isCall ended
        have none := noJob latest.isCall
        have closed : x.AtLeast m 7 := ⟨stages, kept, by omega⟩
        rw [← isPrev]
        exact closed.closed latest.isCall
      · exact settled
    have ready := kept.ready_of_prev isCall settled
    have none := noJob isCall
    exact (kept.linked n _ isCall).started.mpr (by omega)

end Kept

/-- Whatever is called and however the functions end, the sections of a market
run one after another, in the order of the calls and each of them once. -/
theorem market_lock_fair (reached : x.Reached) : x.FairMutex := by
  obtain ⟨⟨stages, kept⟩, lined⟩ := reached.kept
  exact
    { exclusive := fun _ _ => kept.exclusive
      behind := fun _ _ => kept.behind
      inOrder := lined.imp fun apart => apart.2
      once := lined.imp fun apart => apart.1
      served := fun _ made ended _ => kept.served made ended
      complete := fun quiet _ made => kept.complete quiet made }

theorem Reached.turn (reached : x.Reached) (idle : x.running = none) (head : x.heap.jobs = job :: rest) :
    (x.execute job rest).Reached := reached.tail (.inr ⟨job, rest, idle, head⟩)

theorem fair_after_rejection :
    ∃ x : State Unit, x.started = [0, 1] ∧ x.returned 0 = some (.throws .undefined) ∧ x.SameMarket 0 1 ∧
      x.FairMutex := by
  have first : (withMarketLock "BTC-INR" (start : State Unit)).2.Reached := ReflTransGen.single (.inl (.call _))
  have second := ReflTransGen.tail first (.inl (.call "BTC-INR"))
  have begun := Reached.turn second rfl rfl
  have thrown := ReflTransGen.tail begun (.inl (.finish (.fn 0) 1 (.throws .undefined) rfl (by simp [Known])))
  have released := Reached.turn thrown rfl rfl
  have next := Reached.turn released rfl rfl
  exact ⟨_, rfl, rfl, ⟨⟨"BTC-INR", 0, 1, 2⟩, ⟨"BTC-INR", 2, 3, 4⟩, rfl, rfl, rfl⟩, market_lock_fair next⟩

/-! ## The lock that is held or free

Over the promises stands the lock as its users know it: a market is held by one
call or free. -/

/-- The call whose section is under way, by market. -/
def Held (x : State α) (locks : String → Option ℕ) : Prop :=
  ∀ key n, locks key = some n ↔ x.UnderWay n ∧ ∃ call : Call, x.calls[n]? = some call ∧ call.key = key

/-- A lock is acquired while it is free; any are released. -/
inductive LockStep (locks : String → Option ℕ) : (String → Option ℕ) → Prop
  | acquire (key : String) (n : ℕ) (free : locks key = none) : LockStep locks (Function.update locks key (some n))
  | release (locks' : String → Option ℕ) (fewer : ∀ key, locks' key = locks key ∨ locks' key = none) :
      LockStep locks locks'

namespace Held
variable {stages : ℕ → Stage α} {locks : String → Option ℕ}

/-- Where no function is called, sections can only end. -/
theorem release (held : x.Held locks) (kept : Kept stages x) (step : Step x y) (same : y.started = x.started) :
    ∃ locks', y.Held locks' ∧ LockStep locks locks' := by
  classical
  refine ⟨fun key => (locks key).filter fun n => ¬ y.Ended n, fun key n => ?_, .release _ fun key => ?_⟩
  · rw [Option.filter_eq_some_iff, held key n]
    constructor
    · rintro ⟨⟨⟨begun, -⟩, call, isCall, isKey⟩, going⟩
      exact ⟨⟨same ▸ begun, by simpa using going⟩, call, step.calls isCall, isKey⟩
    · rintro ⟨⟨begun, going⟩, call, isCall, isKey⟩
      rw [same] at begun
      obtain ⟨before, wasCall⟩ := kept.toChained.call_of_started begun
      cases (step.calls wasCall).symm.trans isCall
      have before : x.UnderWay n := ⟨begun, fun ended => going (kept.ended_step wasCall ended step)⟩
      exact ⟨⟨before, call, wasCall, isKey⟩, by simpa using going⟩
  · cases isHeld : locks key with
    | none => exact .inl rfl
    | some n => by_cases ended : y.Ended n <;> simp [Option.filter, ended]

/-- The function of a call is called while its market is free. -/
theorem acquire {argument : Value α} {derived : PromiseId} {stages' : ℕ → Stage α} (held : x.Held locks)
    (kept : Kept stages x) (head : x.heap.jobs = .call (.fn n) argument derived :: rest)
    (isNext : y = x.execute (.call (.fn n) argument derived) rest) (kept' : Kept stages' y) :
    ∃ locks', y.Held locks' ∧ LockStep locks locks' := by
  obtain ⟨call, isCall, linked⟩ := kept.ready_of_head head
  have fresh := kept.fresh_of_head head
  have ended : ∀ m, y.Ended m ↔ x.Ended m := by
    subst isNext
    exact fun m => Iff.rfl
  have calls : y.calls = x.calls := by rw [isNext, execute_calls]
  have started : ∀ m, m ∈ y.started ↔ m ∈ x.started ∨ m = n := by simp [isNext, execute]
  have going : y.UnderWay n := by
    refine ⟨(started n).mpr (.inr rfl), fun isEnded => ?_⟩
    obtain ⟨completion, came, -⟩ := (ended n).mp isEnded
    cases linked.returned.symm.trans came
  have stays : ∀ m, x.UnderWay m → y.UnderWay m := fun m before =>
    ⟨(started m).mpr (.inl before.1), fun isEnded => before.2 ((ended m).mp isEnded)⟩
  refine ⟨_, fun key m => ?_, .acquire call.key n ?_⟩
  · by_cases same : key = call.key
    · rw [same, Function.update_self, calls]
      constructor
      · rintro ⟨⟩
        exact ⟨going, call, isCall, rfl⟩
      · rintro ⟨underWay, other, isOther, isKey⟩
        exact congrArg some (kept'.exclusive ⟨call, other, calls ▸ isCall, calls ▸ isOther, isKey.symm⟩ going underWay)
    · rw [Function.update_of_ne same, held key m, calls]
      constructor
      · exact fun isHeld => ⟨stays m isHeld.1, isHeld.2⟩
      · rintro ⟨⟨begun, underWay⟩, other, isOther, isKey⟩
        rcases (started m).mp begun with before | rfl
        · exact ⟨⟨before, fun isEnded => underWay ((ended m).mpr isEnded)⟩, other, isOther, isKey⟩
        · cases isCall.symm.trans isOther
          exact absurd isKey.symm same
  · cases isHeld : locks call.key with
    | none => rfl
    | some m =>
      obtain ⟨before, other, isOther, isKey⟩ := (held call.key m).mp isHeld
      have same := kept'.exclusive ⟨other, call, calls ▸ isOther, calls ▸ isCall, isKey⟩ (stays m before) going
      exact absurd (same ▸ before.1) fresh

end Held

/-- The sections under way are those of a lock that is acquired only while it is
free. -/
theorem lock_refined (reached : x.Reached) :
    ∃ locks, x.Held locks ∧ ReflTransGen LockStep (fun _ => none) locks := by
  induction reached with
  | refl => exact ⟨_, fun key n => by simp [start, UnderWay], .refl⟩
  | @tail y z before step ih =>
    obtain ⟨locks, held, locked⟩ := ih
    obtain ⟨⟨stages, kept⟩, -⟩ := Reached.kept before
    have moves : ∃ locks', z.Held locks' ∧ LockStep locks locks' := by
      have isStep := step
      rcases step with act | ⟨job, rest, idle, head⟩
      · exact held.release kept isStep act.started
      · obtain same | ⟨n, argument, derived, rfl, -⟩ := execute_started job rest y
        · exact held.release kept isStep same
        · obtain ⟨stages', kept', -⟩ := kept.step isStep
          exact held.acquire kept head rfl kept'
    obtain ⟨locks', held', moved⟩ := moves
    exact ⟨locks', held', locked.tail moved⟩

end State
end Exchange.MarketLock
