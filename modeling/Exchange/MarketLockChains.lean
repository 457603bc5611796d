import Exchange.MarketLockStages
import Mathlib.Tactic.Choose

/-! The chains of promises between the calls for one market, under the steps of
all code: each call follows the last before it of its market, and the map has
the last of all. With it every call is kept at a stage. -/
namespace Exchange.MarketLock
open Promises Relation

variable {α : Type}

namespace State

variable {x y : State α} {n : ℕ} {call : Call} {stage : Stage α} {id : PromiseId} {o : Outcome α}
  {job : Job Handler α} {rest : List (Job Handler α)} {completion : Completion α}

theorem Latest.append {calls : List Call} {key : String} {m : ℕ} (latest : Latest calls n key m call) (last : Call)
    (old : n ≤ calls.length) : Latest (calls ++ [last]) n key m call where
  before := latest.before
  isCall := getElem?_concat_iff.mpr (.inl latest.isCall)
  isKey := latest.isKey
  last i other before isOther isKey := by
    rcases getElem?_concat_iff.mp isOther with isOther | ⟨isNew, -⟩
    · exact latest.last i other before isOther isKey
    · omega

/-- A call for another market is not the latest. -/
theorem Latest.append_ne {calls : List Call} {key : String} {m : ℕ} (latest : Latest calls calls.length key m call)
    {last : Call} (ne : last.key ≠ key) : Latest (calls ++ [last]) (calls ++ [last]).length key m call where
  before := Nat.lt_of_lt_of_le latest.before (by simp)
  isCall := getElem?_concat_iff.mpr (.inl latest.isCall)
  isKey := latest.isKey
  last i other before isOther isKey := by
    rcases getElem?_concat_iff.mp isOther with isOther | ⟨-, isNew⟩
    · exact latest.last i other (List.getElem?_eq_some_iff.mp isOther).1 isOther isKey
    · rw [isNew] at ne
      exact absurd isKey ne

theorem Latest.new (calls : List Call) (last : Call) :
    Latest (calls ++ [last]) (calls ++ [last]).length last.key calls.length last where
  before := by simp
  isCall := getElem?_concat_iff.mpr (.inr ⟨rfl, rfl⟩)
  isKey := rfl
  last i other before _ _ := by
    simp only [List.length_append, List.length_singleton] at before
    exact Nat.le_of_lt_succ before

theorem Owned.append {calls : List Call} (owned : Owned calls job) (last : Call) : Owned (calls ++ [last]) job := by
  intro n argument derived isCall
  obtain ⟨call, found, isRun⟩ := owned n argument derived isCall
  exact ⟨call, getElem?_concat_iff.mpr (.inl found), isRun⟩

namespace Chained

/-- No call is made. -/
theorem of_heap (chained : x.Chained) (calls : y.calls = x.calls) (chains : y.marketChains = x.marketChains)
    (formed : y.heap.Formed) (owned : y.heap.EveryJob (Owned x.calls)) (grown : x.heap.size ≤ y.heap.size)
    (stays : ∀ id, x.heap.outcome id ≠ none → y.heap.outcome id ≠ none)
    (running : ∀ handler derived, y.running = some (handler, derived) →
      derived < y.heap.size ∧ x.Serves derived handler)
    (unmade : ∀ n ≥ x.calls.length, n ∉ y.started ∧ y.returned n = none) : y.Chained where
  formed := formed
  owned := by rwa [calls]
  ordered := by
    refine ⟨?_, ?_⟩
    · rw [calls]
      exact fun n call isCall =>
        ⟨(chained.ordered.own n call isCall).1, Nat.lt_of_lt_of_le (chained.ordered.own n call isCall).2 grown⟩
    · rw [calls]
      exact chained.ordered.calls
  running handler derived isRunning := by
    obtain ⟨made, serves⟩ := running handler derived isRunning
    refine ⟨made, ?_⟩
    cases handler with
    | fn | ignore | outside => simpa only [Serves, Foreign, calls] using serves
  unmade := by rwa [calls]
  chains := by
    rw [calls, chains]
    exact chained.chains
  follows := by
    rw [calls]
    intro n call isCall
    exact (chained.follows n call isCall).imp_right fun first => ⟨first.1, stays _ first.2⟩

/-- A call is chained to the last of its market. -/
theorem linkedTo {key : String} {prev : PromiseId} (chained : x.Chained) (made : prev < x.heap.size)
    (follows : (∃ m other, Latest x.calls x.calls.length key m other ∧ other.chain = prev) ∨
      (∀ call ∈ x.calls, call.key ≠ key) ∧ x.heap.outcome prev ≠ none) : (x.linkedTo key prev x.heap).Chained where
  formed := (chained.formed.thenDo made).thenDo (Nat.lt_of_lt_of_eq x.heap.size.lt_succ_self Heap.thenDo_size.symm)
  owned := by
    refine ((chained.owned.imp fun job owned => owned.append _).thenDo fun outcome => ?_).thenDo fun outcome => ?_
    · rw [Reaction.job_same]
      rintro n argument derived ⟨⟩
      exact ⟨_, getElem?_concat_iff.mpr (.inr ⟨rfl, rfl⟩), rfl⟩
    · rw [Reaction.job_same]
      rintro n argument derived ⟨⟩
  ordered := by
    have size : (x.linkedTo key prev x.heap).heap.size = x.heap.size + 2 := by simp [State.linkedTo]
    refine ⟨fun n call isCall => ?_, fun m n call other before isCall isOther => ?_⟩
    · rw [size]
      rcases getElem?_concat_iff.mp isCall with isCall | ⟨-, rfl⟩
      · obtain ⟨own, made⟩ := chained.ordered.own n call isCall
        exact ⟨own, Nat.lt_add_right 2 made⟩
      · exact ⟨Nat.lt_succ_self _, Nat.lt_succ_self _⟩
    · rcases getElem?_concat_iff.mp isOther with isOther | ⟨isLast, rfl⟩
      · have old := (List.getElem?_eq_some_iff.mp isOther).1
        rcases getElem?_concat_iff.mp isCall with isCall | ⟨isLast, -⟩
        · exact chained.ordered.calls m n call other before isCall isOther
        · omega
      · rcases getElem?_concat_iff.mp isCall with isCall | ⟨isLast, -⟩
        · exact (chained.ordered.own m call isCall).2
        · omega
  running handler derived isRunning := by
    obtain ⟨before, serves⟩ := chained.running handler derived isRunning
    have size : (x.linkedTo key prev x.heap).heap.size = x.heap.size + 2 := by simp [State.linkedTo]
    refine ⟨by rw [size]; exact Nat.lt_add_right 2 before, ?_⟩
    have isForeign : x.Foreign derived → (x.linkedTo key prev x.heap).Foreign derived := by
      intro isForeign call member
      rcases List.mem_append.mp member with old | new
      · exact isForeign call old
      · cases List.mem_singleton.mp new
        exact ⟨Nat.ne_of_lt before, Nat.ne_of_lt (Nat.lt_succ_of_lt before)⟩
    cases handler with
    | fn n =>
      obtain ⟨call, isCall, isRun⟩ := serves
      exact ⟨call, getElem?_concat_iff.mpr (.inl isCall), isRun⟩
    | ignore | outside => exact isForeign serves
  unmade n late := chained.unmade n (Nat.le_trans (by simp [State.linkedTo]) late)
  chains other := by
    by_cases same : other = key
    · subst same
      simp only [State.linkedTo, Function.update_self]
      exact ⟨_, _, Latest.new x.calls _, rfl⟩
    · have old := chained.chains other
      simp only [State.linkedTo, Function.update_of_ne same]
      cases isChain : x.marketChains other with
      | some chain =>
        rw [isChain] at old
        obtain ⟨m, call, latest, rfl⟩ := old
        exact ⟨m, call, latest.append_ne fun isKey => same isKey.symm, rfl⟩
      | none =>
        rw [isChain] at old
        intro call member isKey
        rcases List.mem_append.mp member with member | member
        · exact old call member isKey
        · cases List.mem_singleton.mp member
          exact same isKey.symm
  follows n call isCall := by
    have stays : ∀ id, (x.linkedTo key prev x.heap).heap.outcome id = x.heap.outcome id := by simp [State.linkedTo]
    rw [stays]
    rcases getElem?_concat_iff.mp isCall with isCall | ⟨rfl, rfl⟩
    · have old := (List.getElem?_eq_some_iff.mp isCall).1
      rcases chained.follows n call isCall with ⟨m, other, latest, isChain⟩ | ⟨first, settled⟩
      · exact .inl ⟨m, other, latest.append _ (Nat.le_of_lt old), isChain⟩
      · refine .inr ⟨fun m other before isOther => ?_, settled⟩
        rcases getElem?_concat_iff.mp isOther with isOther | ⟨isLast, -⟩
        · exact first m other before isOther
        · omega
    · rcases follows with ⟨m, other, latest, isChain⟩ | ⟨first, settled⟩
      · exact .inl ⟨m, other, latest.append _ (Nat.le_refl _), isChain⟩
      · refine .inr ⟨fun m other before isOther => ?_, settled⟩
        rcases getElem?_concat_iff.mp isOther with isOther | ⟨isLast, -⟩
        · exact first other (List.mem_of_getElem? isOther)
        · omega

theorem resolved (chained : x.Chained) : { x with heap := x.heap.makeResolved.2 }.Chained :=
  chained.of_heap rfl rfl chained.formed.makeResolved chained.owned.makeResolved
    (Nat.le_trans (Nat.le_succ _) (Nat.le_of_eq Heap.makeResolved_size.symm))
    (fun _ settled => Heap.settle_outcome_stays settled)
    (fun handler derived isRunning =>
      ⟨Nat.lt_of_lt_of_eq (Nat.lt_succ_of_lt (chained.running handler derived isRunning).1) Heap.makeResolved_size.symm,
        (chained.running handler derived isRunning).2⟩)
    chained.unmade

/-- Where the chain of a market ends, or the promise that is made for it. -/
theorem follows_chain {key : String} {prev : PromiseId} (chained : x.Chained)
    (isChain : x.marketChains key = some prev) :
    prev < x.heap.size ∧ ∃ m other, Latest x.calls x.calls.length key m other ∧ other.chain = prev := by
  have chain := chained.chains key
  rw [isChain] at chain
  obtain ⟨m, call, latest, rfl⟩ := chain
  exact ⟨(chained.ordered.own m call latest.isCall).2, m, call, latest, rfl⟩

theorem first_of_chain {key : String} (chained : x.Chained) (isChain : x.marketChains key = none) :
    ∀ call ∈ x.calls, call.key ≠ key := by
  have chain := chained.chains key
  rwa [isChain] at chain

theorem act (chained : x.Chained) (act : Act x y) : y.Chained := by
  cases act with
  | make =>
    exact chained.of_heap rfl rfl chained.formed.make chained.owned.make (Nat.le_succ _) (fun _ settled => settled)
      (fun handler derived isRunning => (chained.running handler derived isRunning).imp_left Nat.lt_succ_of_lt)
      chained.unmade
  | thenDo id made =>
    refine chained.of_heap rfl rfl (chained.formed.thenDo made) (chained.owned.thenDo fun outcome => ?_) ?_ ?_ ?_
      chained.unmade
    · rw [Reaction.job_same]
      rintro n argument derived ⟨⟩
    · exact Nat.le_trans (Nat.le_succ _) (Nat.le_of_eq Heap.thenDo_size.symm)
    · exact fun _ settled => by rwa [Heap.thenDo_outcome]
    · intro handler derived isRunning
      refine (chained.running handler derived isRunning).imp_left fun made => ?_
      exact Nat.lt_of_lt_of_eq (Nat.lt_succ_of_lt made) Heap.thenDo_size.symm
  | resolve id completion made isForeign known =>
    refine chained.of_heap rfl rfl (chained.formed.resolve made known) (chained.owned.resolve ?_) ?_ ?_ ?_
      chained.unmade
    · rintro source - n argument derived ⟨⟩
    · exact Nat.le_of_eq Heap.resolve_size.symm
    · exact fun _ settled => Heap.resolve_outcome_stays settled
    · intro handler derived isRunning
      exact (chained.running handler derived isRunning).imp_left fun made =>
        Nat.lt_of_lt_of_eq made Heap.resolve_size.symm
  | finish handler derived completion isRunning known =>
    obtain ⟨made, serves⟩ := chained.running handler derived isRunning
    refine chained.of_heap rfl rfl (chained.formed.resolve made known) (chained.owned.resolve ?_) ?_ ?_ ?_ ?_
    · rintro source - n argument derived ⟨⟩
    · exact Nat.le_of_eq Heap.resolve_size.symm
    · exact fun _ settled => Heap.resolve_outcome_stays settled
    · rintro other id ⟨⟩
    · intro n late
      obtain ⟨unstarted, unreturned⟩ := chained.unmade n late
      refine ⟨unstarted, ?_⟩
      cases handler with
      | fn m =>
        obtain ⟨call, isCall, -⟩ := serves
        have old := (List.getElem?_eq_some_iff.mp isCall).1
        exact (Function.update_of_ne (by omega) _ _).trans unreturned
      | ignore | outside => exact unreturned
  | call key =>
    obtain ⟨prev, isChain, called⟩ | ⟨isChain, called⟩ := withMarketLock_cases key x
    · obtain ⟨made, follows⟩ := chained.follows_chain isChain
      rw [called]
      exact chained.linkedTo made (.inl follows)
    · rw [called]
      refine chained.resolved.linkedTo (x := { x with heap := x.heap.makeResolved.2 }) ?_ (.inr ⟨?_, ?_⟩)
      · exact Nat.lt_of_lt_of_eq x.heap.size.lt_succ_self Heap.makeResolved_size.symm
      · exact chained.first_of_chain isChain
      · simp [Heap.makeResolved_outcome chained.formed]

theorem turn (chained : x.Chained) (idle : x.running = none) (head : x.heap.jobs = job :: rest)
    (isForeign : ∀ argument derived, job = .call .outside argument derived → x.Foreign derived) :
    (x.execute job rest).Chained := by
  let taken := { x.heap with jobs := rest }
  have formed : taken.Formed := chained.formed.dequeue head
  have owned := chained.owned.dequeue head
  have isMade := chained.formed.made.jobs job (by simp [head])
  have made := isMade.target
  have none : ∀ handler derived, x.running = some (handler, derived) → False := by simp [idle]
  cases job with
  | settle target outcome =>
    exact chained.of_heap rfl rfl (formed.settle made) owned.settle (Nat.le_of_eq (Heap.settle_size (x := taken)).symm)
      (fun _ settled => Heap.settle_outcome_stays settled)
      (fun handler derived isRunning => (none handler derived isRunning).elim) chained.unmade
  | adopt target source =>
    refine chained.of_heap rfl rfl (formed.react (isMade.source target source rfl) made) (owned.react ?_)
      (Nat.le_of_eq (Heap.react_size (x := taken)).symm) ?_
      (fun handler derived isRunning => (none handler derived isRunning).elim) chained.unmade
    · rintro outcome n argument derived ⟨⟩
    · exact fun _ settled => by rwa [execute, Heap.react_outcome]
  | call handler argument derived =>
    cases handler with
    | ignore =>
      exact chained.of_heap rfl rfl (formed.settle made) owned.settle
        (Nat.le_of_eq (Heap.settle_size (x := taken)).symm) (fun _ settled => Heap.settle_outcome_stays settled)
        (fun handler derived isRunning => (none handler derived isRunning).elim) chained.unmade
    | outside =>
      refine chained.of_heap rfl rfl formed owned (Nat.le_refl _) (fun _ settled => settled) ?_ chained.unmade
      rintro handler id ⟨⟩
      exact ⟨made, isForeign argument derived rfl⟩
    | fn n =>
      obtain ⟨call, isCall, isRun⟩ :=
        chained.owned.jobs (.call (.fn n) argument derived) (by simp [head]) n argument derived rfl
      refine chained.of_heap rfl rfl formed owned (Nat.le_refl _) (fun _ settled => settled) ?_ ?_
      · rintro handler id ⟨⟩
        exact ⟨made, call, isCall, isRun⟩
      · intro m late
        have old := (List.getElem?_eq_some_iff.mp isCall).1
        refine ⟨?_, (chained.unmade m late).2⟩
        simp only [execute, List.mem_append, List.mem_singleton, not_or]
        exact ⟨(chained.unmade m late).1, by omega⟩

end Chained

/-- A new call waits for its predecessor, or is ready when that is over. -/
theorem Chained.linked_new {prev : PromiseId} (chained : x.Chained) (key : String) (made : prev < x.heap.size) :
    ∃ stage, (x.linkedTo key prev x.heap).Linked x.calls.length ⟨key, prev, x.heap.size, x.heap.size + 1⟩ stage := by
  obtain ⟨unstarted, unreturned⟩ := chained.unmade x.calls.length (Nat.le_refl _)
  let fn := Handler.fn x.calls.length
  let handled := (x.heap.thenDo prev fn fn).2
  have size : handled.size = x.heap.size + 1 := Heap.thenDo_size
  have formed : handled.Formed := chained.formed.thenDo made
  have unsettled : ∀ id ≥ x.heap.size, (handled.thenDo x.heap.size .ignore .ignore).2.outcome id = none := by
    intro id unmade
    rw [Heap.thenDo_outcome, Heap.thenDo_outcome, (chained.formed.fresh id unmade).1]
  have run := (chained.formed.supplied_thenDo prev fn fn).thenDo (x := handled) (by rw [size]; exact Nat.lt_succ_self _)
    x.heap.size .ignore .ignore
  have chain := formed.supplied_thenDo x.heap.size .ignore .ignore
  rw [Heap.thenDo_outcome, (chained.formed.fresh x.heap.size (Nat.le_refl _)).1, size] at chain
  have idle : x.running ≠ some (fn, x.heap.size) := fun isRunning =>
    Nat.lt_irrefl _ (chained.running fn x.heap.size isRunning).1
  cases isOutcome : x.heap.outcome prev with
  | none =>
    rw [isOutcome] at run
    exact ⟨.waiting,
      { run, chain
        prev := by simp
        closed := iff_of_false (fun settled => settled (unsettled _ (Nat.le_succ _))) (by simp)
        running := iff_of_false idle (by simp)
        started := iff_of_false unstarted (by simp)
        returned := unreturned }⟩
  | some outcome =>
    simp only [isOutcome, Reaction.job_same] at run
    exact ⟨.ready outcome.argument,
      { run, chain
        prev := fun _ => by simp [State.linkedTo, isOutcome]
        closed := iff_of_false (fun settled => settled (unsettled _ (Nat.le_succ _))) (by simp)
        running := iff_of_false idle (by simp)
        started := iff_of_false unstarted (by simp)
        returned := unreturned }⟩

/-- A call that a step has made is at a stage. -/
theorem Chained.step_new (chained : x.Chained) (step : Step x y) (unmade : x.calls[n]? = none)
    (isCall : y.calls[n]? = some call) : ∃ stage, y.Linked n call stage := by
  rcases step with act | ⟨job, rest, -, -⟩
  · cases act with
    | call key =>
      obtain ⟨prev, isChain, called⟩ | ⟨-, called⟩ := withMarketLock_cases key x
      · rw [called] at isCall ⊢
        rcases getElem?_concat_iff.mp isCall with made | ⟨rfl, rfl⟩
        · cases unmade.symm.trans made
        · exact chained.linked_new key (chained.follows_chain isChain).1
      · rw [called] at isCall ⊢
        rcases getElem?_concat_iff.mp isCall with made | ⟨rfl, rfl⟩
        · cases unmade.symm.trans made
        · refine chained.resolved.linked_new key ?_
          exact Nat.lt_of_lt_of_eq x.heap.size.lt_succ_self Heap.makeResolved_size.symm
    | make | thenDo | resolve | finish => cases unmade.symm.trans isCall
  · rw [execute_calls] at isCall
    cases unmade.symm.trans isCall

/-! ## All calls at their stages -/

namespace Kept
variable {stages : ℕ → Stage α}

theorem foreign_head (kept : Kept stages x) (head : x.heap.jobs = job :: rest) :
    ∀ argument derived, job = .call .outside argument derived → x.Foreign derived := by
  rintro argument derived rfl call member
  obtain ⟨n, isCall⟩ := List.mem_iff_getElem?.mp member
  have linked := kept.linked n call isCall
  refine ⟨fun isRun => ?_, fun isChain => ?_⟩
  · have isSupply := linked.run.of_head head isRun
    cases isStage : stages n <;> simp [isStage, Stage.runSupply] at isSupply
  · have isSupply := linked.chain.of_head head isChain
    cases isStage : stages n <;> simp [isStage, Stage.chainSupply] at isSupply

theorem chained_step (kept : Kept stages x) (step : Step x y) : y.Chained := by
  rcases step with act | ⟨job, rest, idle, head⟩
  · exact kept.toChained.act act
  · exact kept.toChained.turn idle head (kept.foreign_head head)

/-- No step takes a call back. -/
theorem step (kept : Kept stages x) (step : Step x y) :
    ∃ stages', Kept stages' y ∧ ∀ n < x.calls.length, (stages n).rank ≤ (stages' n).rank := by
  have each : ∀ n, ∃ stage, (∀ call, y.calls[n]? = some call → y.Linked n call stage) ∧
      (n < x.calls.length → (stages n).rank ≤ stage.rank) := by
    intro n
    cases isCall : x.calls[n]? with
    | some call =>
      have linked := kept.linked n call isCall
      have taken : ∃ stage, (stages n).rank ≤ stage.rank ∧ y.Linked n call stage := by
        rcases step with act | turn
        · exact linked.act kept.toChained isCall act
        · exact linked.turn kept.toChained isCall turn
      obtain ⟨stage, further, linked'⟩ := taken
      refine ⟨stage, fun other isOther => ?_, fun _ => further⟩
      rw [step.calls isCall] at isOther
      cases isOther
      exact linked'
    | none =>
      have late : ¬ n < x.calls.length := fun early => by simp [early] at isCall
      cases isNew : y.calls[n]? with
      | none => exact ⟨.waiting, by simp, fun early => absurd early late⟩
      | some call =>
        obtain ⟨stage, linked⟩ := kept.step_new step isCall isNew
        refine ⟨stage, fun other isOther => ?_, fun early => absurd early late⟩
        cases isOther
        exact linked
  choose stages' linked further using each
  exact ⟨stages', { toChained := kept.chained_step step, linked }, further⟩

theorem at_stage (kept : Kept stages x) (isCall : x.calls[n]? = some call) (linked : x.Linked n call stage) :
    Kept (Function.update stages n stage) x where
  toChained := kept.toChained
  linked m other isOther := by
    by_cases same : m = n
    · subst same
      rw [isCall] at isOther
      cases isOther
      rwa [Function.update_self]
    · rw [Function.update_of_ne same]
      exact kept.linked m other isOther

/-- A turn takes the call on whose job it is. -/
theorem turn (kept : Kept stages x) (idle : x.running = none) (head : x.heap.jobs = job :: rest)
    (isCall : x.calls[n]? = some call) (own : job.target = call.run ∨ job.target = call.chain) :
    ∃ stages', Kept stages' (x.execute job rest) ∧ (stages n).rank < (stages' n).rank := by
  obtain ⟨stages', kept', -⟩ := kept.step (.inr ⟨job, rest, idle, head⟩)
  have ne := Nat.ne_of_lt (kept.ordered.own n call isCall).1
  obtain ⟨stage, further, linked⟩ := (kept.linked n call isCall).turn_own head ne own
  refine ⟨_, kept'.at_stage (by rwa [execute_calls]) linked, ?_⟩
  rwa [Function.update_self]

end Kept
end State
end Exchange.MarketLock
