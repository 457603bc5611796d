import Exchange.AsyncPool

/-! Programs that follow rules. What a program may call next, and how it may
end, is said in terms of the calls it has made and the answers it got; that is
a fact about the program alone, whatever the store does meanwhile. When the
store keeps the history of all calls, an invariant of store and history has to
be shown for calls within the rules only. -/
namespace Exchange

/-- A call with its answer. -/
structure Answered (Call : Type) (Reply : Call → Type) (ε : Type) where
  call : Call
  reply : Except ε (Reply call)

namespace Async
variable {Call : Type} {Reply : Call → Type} {ε α β : Type}

/-- After the calls of its past, latest first, the program makes only calls it
may make, whatever the answers, and ends as `post` says. -/
def Obeys (may : List (Answered Call Reply ε) → Call → Prop)
    (post : List (Answered Call Reply ε) → Except ε α → Prop) :
    List (Answered Call Reply ε) → Async Call Reply ε α → Prop
  | past, .done result => post past result
  | past, .await call resume =>
    may past call ∧ ∀ reply, Obeys may post (⟨call, reply⟩ :: past) (resume reply)

variable {may : List (Answered Call Reply ε) → Call → Prop}
  {post post' : List (Answered Call Reply ε) → Except ε α → Prop}
  {past : List (Answered Call Reply ε)} {program : Async Call Reply ε α}

theorem Obeys.imp (obeys : program.Obeys may post past)
    (weaker : ∀ past result, post past result → post' past result) :
    program.Obeys may post' past := by
  induction program generalizing past with
  | done result => exact weaker past result obeys
  | await call resume ih => exact ⟨obeys.1, fun reply => ih reply (obeys.2 reply)⟩

/-- A program that obeys strict rules obeys those that allow more. -/
theorem Obeys.allow {may' : List (Answered Call Reply ε) → Call → Prop} (obeys : program.Obeys may post past)
    (weaker : ∀ past call, may past call → may' past call) : program.Obeys may' post past := by
  induction program generalizing past with
  | done result => exact obeys
  | await call resume ih => exact ⟨weaker past call obeys.1, fun reply => ih reply (obeys.2 reply)⟩

/-- Calls are added to a past, never taken out. -/
theorem Obeys.grows (obeys : program.Obeys may post past) :
    program.Obeys may (fun later result => past <:+ later ∧ post later result) past := by
  induction program generalizing past with
  | done result => exact ⟨List.suffix_refl past, obeys⟩
  | await call resume ih =>
    refine ⟨obeys.1, fun reply => (ih reply (obeys.2 reply)).imp ?_⟩
    exact fun later result ⟨suffix, ended⟩ => ⟨(List.suffix_cons _ past).trans suffix, ended⟩

@[simp] theorem obeys_pure {value : α} :
    (Pure.pure value : Async Call Reply ε α).Obeys may post past ↔ post past (.ok value) := Iff.rfl

@[simp] theorem obeys_throw {failure : ε} :
    (throw failure : Async Call Reply ε α).Obeys may post past ↔ post past (.error failure) :=
  Iff.rfl

@[simp] theorem obeys_call {call : Call}
    {post : List (Answered Call Reply ε) → Except ε (Reply call) → Prop} :
    (Async.call call).Obeys may post past ↔
      may past call ∧ ∀ reply, post (⟨call, reply⟩ :: past) reply := Iff.rfl

/-- Sequencing: the rest has to obey after whatever the first part has done. -/
theorem obeys_bind {next : α → Async Call Reply ε β}
    {post : List (Answered Call Reply ε) → Except ε β → Prop} :
    (program >>= next).Obeys may post past ↔ program.Obeys may (fun past result =>
      match result with
      | .ok value => (next value).Obeys may post past
      | .error failure => post past (.error failure)) past := by
  induction program generalizing past with
  | done result => cases result <;> exact Iff.rfl
  | await call resume ih => exact and_congr Iff.rfl (forall_congr' fun reply => ih reply)

theorem obeys_tryCatch {handler : ε → Async Call Reply ε α} :
    (tryCatch program handler).Obeys may post past ↔ program.Obeys may (fun past result =>
      match result with
      | .ok value => post past (.ok value)
      | .error failure => (handler failure).Obeys may post past) past := by
  induction program generalizing past with
  | done result => cases result <;> exact Iff.rfl
  | await call resume ih => exact and_congr Iff.rfl (forall_congr' fun reply => ih reply)

/-- How a program ends: with a fact if it answers, and as `failed` says if it throws. -/
def EndsWith (failed : List (Answered Call Reply ε) → Prop)
    (fact : α → List (Answered Call Reply ε) → Prop) (past : List (Answered Call Reply ε)) :
    Except ε α → Prop
  | .ok value => fact value past
  | .error _ => failed past

section EndsWith
variable {failed thrown : List (Answered Call Reply ε) → Prop}
  {fact : α → List (Answered Call Reply ε) → Prop} {fact' : β → List (Answered Call Reply ε) → Prop}

/-- A first part that throws ends the whole; the rest starts with its answer. -/
theorem Obeys.seq {next : α → Async Call Reply ε β} (first : program.Obeys may (EndsWith failed fact) past)
    (rest : ∀ value later, past <:+ later → fact value later →
      (next value).Obeys may (EndsWith failed fact') later) :
    (program >>= next).Obeys may (EndsWith failed fact') past := by
  rw [obeys_bind]
  refine first.grows.imp fun later result ⟨grown, ended⟩ => ?_
  cases result with
  | error failure => exact ended
  | ok value => exact rest value later grown ended

/-- A handler starts after whatever the body has done. -/
theorem Obeys.catch {handler : ε → Async Call Reply ε α}
    (body : program.Obeys may (EndsWith thrown fact) past)
    (handled : ∀ failure later, past <:+ later → thrown later →
      (handler failure).Obeys may (EndsWith failed fact) later) :
    (tryCatch program handler).Obeys may (EndsWith failed fact) past := by
  rw [obeys_tryCatch]
  refine body.grows.imp fun later result ⟨grown, ended⟩ => ?_
  cases result with
  | error failure => exact handled failure later grown ended
  | ok value => exact ended

theorem obeys_answers {call : Call} {fact : Reply call → List (Answered Call Reply ε) → Prop}
    (allowed : may past call) (lost : ∀ failure, failed (⟨call, .error failure⟩ :: past))
    (learned : ∀ value, fact value (⟨call, .ok value⟩ :: past)) :
    (Async.call call).Obeys may (EndsWith failed fact) past := by
  refine ⟨allowed, fun reply => ?_⟩
  cases reply with
  | error failure => exact lost failure
  | ok value => exact learned value

end EndsWith

section Lawful

/-- A program makes only calls it may make, however it ends. -/
abbrev Lawful (may : List (Answered Call Reply ε) → Call → Prop) (past : List (Answered Call Reply ε))
    (program : Async Call Reply ε α) : Prop :=
  program.Obeys may (fun _ _ => True) past

theorem lawful_bind {next : α → Async Call Reply ε β} (first : Lawful may past program)
    (rest : ∀ value later, Lawful may later (next value)) : Lawful may past (program >>= next) := by
  rw [Lawful, obeys_bind]
  refine first.imp fun later result _ => ?_
  cases result with
  | ok value => exact rest value later
  | error failure => trivial

/-- What comes after a first part starts with what the first part ends with. -/
theorem lawful_seq {failed : List (Answered Call Reply ε) → Prop} {fact : α → List (Answered Call Reply ε) → Prop}
    {next : α → Async Call Reply ε β} (first : program.Obeys may (EndsWith failed fact) past)
    (rest : ∀ value later, past <:+ later → fact value later → Lawful may later (next value)) :
    Lawful may past (program >>= next) := by
  rw [Lawful, obeys_bind]
  refine first.grows.imp fun later result ⟨grown, ended⟩ => ?_
  cases result with
  | ok value => exact rest value later grown ended
  | error failure => trivial

/-- What comes after a call starts with its answer. -/
theorem lawful_call {call : Call} {next : Reply call → Async Call Reply ε α} (allowed : may past call)
    (rest : ∀ value, Lawful may (⟨call, .ok value⟩ :: past) (next value)) :
    Lawful may past (Async.call call >>= next) := by
  refine ⟨allowed, fun reply => ?_⟩
  cases reply with
  | ok value => exact rest value
  | error failure => trivial

theorem lawful_ask {call : Call} (allowed : may past call) : Lawful may past (Async.call call) :=
  ⟨allowed, fun _ => trivial⟩

theorem lawful_catch {handler : ε → Async Call Reply ε α} (body : Lawful may past program)
    (handled : ∀ failure later, Lawful may later (handler failure)) : Lawful may past (tryCatch program handler) := by
  rw [Lawful, obeys_tryCatch]
  refine body.imp fun later result _ => ?_
  cases result with
  | ok value => trivial
  | error failure => exact handled failure later

end Lawful

/-- What the calls within its rules preserve holds when a program that runs
alone has ended. -/
theorem Obeys.exec {σ : Type} {step : (call : Call) → σ → Except ε (Reply call) → σ → Prop}
    {inv : List (Answered Call Reply ε) → σ → Prop} {s s' : σ} {result : Except ε α}
    (obeys : program.Obeys may post past) (holds : inv past s)
    (kept : ∀ past call s reply s', inv past s → may past call → step call s reply s' →
      inv (⟨call, reply⟩ :: past) s')
    (ran : Async.Exec step program s result s') : ∃ past, inv past s' ∧ post past result := by
  induction ran generalizing past with
  | done => exact ⟨past, holds, obeys⟩
  | await made rest ih => exact ih (obeys.2 _) (kept past _ _ _ _ holds obeys.1 made)

end Async

/-- A store with the calls made on it, latest first. -/
structure Logged (Pid Call : Type) (Reply : Call → Type) (ε σ : Type) where
  store : σ
  history : List (Pid × Answered Call Reply ε)

namespace Logged
variable {Pid Call : Type} {Reply : Call → Type} {ε σ α : Type} [DecidableEq Pid]

/-- The calls one program has made. -/
def past (x : Logged Pid Call Reply ε σ) (pid : Pid) : List (Answered Call Reply ε) :=
  x.history.filterMap fun made => if made.1 = pid then some made.2 else none

variable (step : Pid → (call : Call) → Logged Pid Call Reply ε σ → Except ε (Reply call) → σ → Prop)

/-- Calls that are added to the history. -/
def protocol : Protocol Pid Call Reply ε (Logged Pid Call Reply ε σ) where
  step pid call x reply x' :=
    step pid call x reply x'.store ∧ x'.history = (pid, ⟨call, reply⟩) :: x.history
  inv _ := True
  rely _ _ _ := True
  guarantee _ _ _ := True

def fresh (Initial : σ → Prop) (x : Logged Pid Call Reply ε σ) : Prop :=
  Initial x.store ∧ x.history = []

/-- The pools reached by requests that log their calls. -/
abbrev Run (Request : Pid → Async Call Reply ε α → Prop) (Initial : σ → Prop) :
    Pool Pid Call Reply ε α (Logged Pid Call Reply ε σ) → Prop :=
  Pool.Run (protocol step) Request (fresh Initial)

variable {step} {Request : Pid → Async Call Reply ε α → Prop} {Initial : σ → Prop}
  {pool pool' : Pool Pid Call Reply ε α (Logged Pid Call Reply ε σ)}
  {may : Pid → List (Answered Call Reply ε) → Call → Prop}
  {ends : Pid → List (Answered Call Reply ε) → Except ε α → Prop}

@[simp] theorem past_nil (s : σ) (pid : Pid) :
    (⟨s, []⟩ : Logged Pid Call Reply ε σ).past pid = [] := rfl

@[simp] theorem past_self (s : σ) (pid : Pid) (made : Answered Call Reply ε)
    (history : List (Pid × Answered Call Reply ε)) :
    (⟨s, (pid, made) :: history⟩ : Logged Pid Call Reply ε σ).past pid =
      made :: (⟨s, history⟩ : Logged Pid Call Reply ε σ).past pid := by
  simp [past]

theorem past_ne (s : σ) {pid other : Pid} (ne : other ≠ pid) (made : Answered Call Reply ε)
    (history : List (Pid × Answered Call Reply ε)) :
    (⟨s, (pid, made) :: history⟩ : Logged Pid Call Reply ε σ).past other =
      (⟨s, history⟩ : Logged Pid Call Reply ε σ).past other := by
  simp [past, Ne.symm ne]

/-- The pasts after one more call of a request. -/
theorem past_made (x : Logged Pid Call Reply ε σ) (s : σ) (pid other : Pid) (made : Answered Call Reply ε) :
    (⟨s, (pid, made) :: x.history⟩ : Logged Pid Call Reply ε σ).past other =
      if other = pid then made :: x.past pid else x.past other := by
  split
  · rename_i same
    subst same
    exact past_self ..
  · rename_i ne
    exact past_ne _ ne ..

theorem past_congr {x y : Logged Pid Call Reply ε σ} (same : x.history = y.history) (pid : Pid) :
    x.past pid = y.past pid := by
  rw [past, past, same]

theorem mem_past {x : Logged Pid Call Reply ε σ} {pid : Pid} {made : Answered Call Reply ε} :
    made ∈ x.past pid ↔ (pid, made) ∈ x.history := by
  simp only [past, List.mem_filterMap, Option.ite_none_right_eq_some, Option.some.injEq]
  constructor
  · rintro ⟨⟨_, _⟩, member, rfl, rfl⟩
    exact member
  · exact fun member => ⟨(pid, made), member, rfl, rfl⟩

/-- A call of the past after one more call. -/
theorem mem_past_cons {s : σ} {pid other : Pid} {made earlier : Answered Call Reply ε}
    {history : List (Pid × Answered Call Reply ε)} :
    earlier ∈ (⟨s, (pid, made) :: history⟩ : Logged Pid Call Reply ε σ).past other ↔
      earlier = made ∧ other = pid ∨ earlier ∈ (⟨s, history⟩ : Logged Pid Call Reply ε σ).past other := by
  rw [mem_past, mem_past, List.mem_cons, Prod.mk.injEq, and_comm]

/-- The history of a program that runs alone. -/
theorem past_alone (s : σ) (pid : Pid) (made : List (Answered Call Reply ε)) :
    (⟨s, made.map (pid, ·)⟩ : Logged Pid Call Reply ε σ).past pid = made := by
  simp [past, List.filterMap_map]

/-- Every program in flight obeys its rules from its past on. -/
def Orderly (may : Pid → List (Answered Call Reply ε) → Call → Prop)
    (ends : Pid → List (Answered Call Reply ε) → Except ε α → Prop)
    (pool : Pool Pid Call Reply ε α (Logged Pid Call Reply ε σ)) : Prop :=
  ∀ pid, (pool.programs.lookup pid = none → pool.store.past pid = []) ∧
    ∀ program, pool.programs.lookup pid = some program →
      program.Obeys (may pid) (ends pid) (pool.store.past pid)

private theorem orderly_step
    (obeys : ∀ pid program, Request pid program → program.Obeys (may pid) (ends pid) [])
    (orderly : Orderly may ends pool) (step' : Pool.Step (protocol step) Request pool pool') :
    Orderly may ends pool' := by
  intro other
  cases step' with
  | @arrive pid program fresh request =>
    by_cases same : other = pid
    · subst same
      refine ⟨fun missing => ?_, fun program' found => ?_⟩
      · rw [AList.lookup_insert] at missing
        cases missing
      · rw [AList.lookup_insert] at found
        cases found
        rw [(orderly other).1 fresh]
        exact obeys other program request
    · simpa only [AList.lookup_insert_ne same] using orderly other
  | @resume pid call next reply x' waiting made =>
    obtain ⟨-, grown⟩ := made
    by_cases same : other = pid
    · subst same
      refine ⟨fun missing => ?_, fun program' found => ?_⟩
      · rw [AList.lookup_insert] at missing
        cases missing
      · rw [AList.lookup_insert] at found
        cases found
        have past : x'.past other = ⟨call, reply⟩ :: pool.store.past other :=
          (past_congr (y := ⟨x'.store, (other, ⟨call, reply⟩) :: pool.store.history⟩) grown other).trans
            (past_self ..)
        rw [past]
        exact ((orderly other).2 _ waiting).2 reply
    · have past : x'.past other = pool.store.past other :=
        (past_congr (y := ⟨x'.store, (pid, ⟨call, reply⟩) :: pool.store.history⟩) grown other).trans
          (past_ne _ same ..)
      simpa only [AList.lookup_insert_ne same, past] using orderly other

/-- Programs that obey their rules when they arrive obey them along every run. -/
theorem Run.orderly
    (obeys : ∀ pid program, Request pid program → program.Obeys (may pid) (ends pid) [])
    (run : Run step Request Initial pool) : Orderly may ends pool := by
  induction run with
  | @start x initial =>
    obtain ⟨-, nothing⟩ := initial
    intro pid
    refine ⟨fun _ => ?_, fun program found => ?_⟩
    · exact past_congr (y := ⟨x.store, []⟩) nothing pid
    · rw [AList.lookup_empty] at found
      cases found
  | step _ step' ih => exact orderly_step obeys ih step'

/-- A call of a program in flight is within its rules. -/
theorem Orderly.waiting (orderly : Orderly may ends pool) {pid : Pid} {call : Call}
    {next : Except ε (Reply call) → Async Call Reply ε α}
    (waiting : pool.programs.lookup pid = some (.await call next)) :
    may pid (pool.store.past pid) call :=
  ((orderly pid).2 _ waiting).1

theorem Orderly.ended (orderly : Orderly may ends pool) {pid : Pid} {result : Except ε α}
    (ended : pool.programs.lookup pid = some (.done result)) :
    ends pid (pool.store.past pid) result :=
  (orderly pid).2 _ ended

/-- When no request is in flight, each has made no call or has ended. -/
theorem Orderly.quiet (orderly : Orderly may ends pool) (quiet : pool.Quiet) (pid : Pid) :
    pool.store.past pid = [] ∨ ∃ result, ends pid (pool.store.past pid) result := by
  cases found : pool.programs.lookup pid with
  | none => exact .inl ((orderly pid).1 found)
  | some program =>
    cases program with
    | done result => exact .inr ⟨result, orderly.ended found⟩
    | await call next => cases quiet pid _ found

/-- A step of a run adds nothing, or a call within the rules. -/
theorem Orderly.made (orderly : Orderly may ends pool)
    (step' : Pool.Step (protocol step) Request pool pool') :
    pool'.store = pool.store ∨ ∃ pid call reply s', may pid (pool.store.past pid) call ∧
      step pid call pool.store reply s' ∧
      pool'.store = ⟨s', (pid, ⟨call, reply⟩) :: pool.store.history⟩ := by
  cases step' with
  | arrive => exact .inl rfl
  | @resume pid call next reply x' waiting made =>
    refine .inr ⟨pid, call, reply, x'.store, orderly.waiting waiting, made.1, ?_⟩
    rw [← made.2]

/-- What calls within the rules preserve holds in every run. -/
theorem Run.inv {inv : Logged Pid Call Reply ε σ → Prop}
    (obeys : ∀ pid program, Request pid program → program.Obeys (may pid) (ends pid) [])
    (initial : ∀ s, Initial s → inv ⟨s, []⟩)
    (kept : ∀ x pid call reply s', inv x → may pid (x.past pid) call → step pid call x reply s' →
      inv ⟨s', (pid, ⟨call, reply⟩) :: x.history⟩)
    (run : Run step Request Initial pool) : inv pool.store := by
  induction run with
  | @start x isFresh =>
    obtain ⟨s, history⟩ := x
    obtain ⟨isInitial, rfl⟩ := isFresh
    exact initial s isInitial
  | step before step' ih =>
    rcases (Run.orderly obeys before).made step' with same | ⟨pid, call, reply, s', may, made, grown⟩
    · rwa [same]
    · rw [grown]
      exact kept _ pid call reply s' ih may made

/-- What calls within the rules preserve holds from some pool of a run on. -/
theorem Run.keeps {inv : Logged Pid Call Reply ε σ → Prop}
    (obeys : ∀ pid program, Request pid program → program.Obeys (may pid) (ends pid) [])
    (kept : ∀ x pid call reply s', inv x → may pid (x.past pid) call → step pid call x reply s' →
      inv ⟨s', (pid, ⟨call, reply⟩) :: x.history⟩)
    (run : Run step Request Initial pool)
    (steps : Relation.ReflTransGen (Pool.Step (protocol step) Request) pool pool') (holds : inv pool.store) :
    inv pool'.store := by
  induction steps with
  | refl => exact holds
  | tail earlier last ih =>
    rcases (Run.orderly obeys (run.steps earlier)).made last with same | ⟨pid, call, reply, s', may, made, grown⟩
    · rwa [same]
    · rw [grown]
      exact kept _ pid call reply s' ih may made

/-- Where a property is lost between two pools of a run, some call within the
rules loses it. -/
theorem Run.change {holds : Logged Pid Call Reply ε σ → Prop}
    (obeys : ∀ pid program, Request pid program → program.Obeys (may pid) (ends pid) [])
    (run : Run step Request Initial pool)
    (steps : Relation.ReflTransGen (Pool.Step (protocol step) Request) pool pool') (before : holds pool.store)
    (after : ¬holds pool'.store) :
    ∃ earlier later pid call reply s', Relation.ReflTransGen (Pool.Step (protocol step) Request) pool earlier ∧
      Pool.Step (protocol step) Request earlier later ∧
      Relation.ReflTransGen (Pool.Step (protocol step) Request) later pool' ∧ holds earlier.store ∧
      ¬holds later.store ∧ may pid (earlier.store.past pid) call ∧ step pid call earlier.store reply s' ∧
      later.store = ⟨s', (pid, ⟨call, reply⟩) :: earlier.store.history⟩ := by
  induction steps with
  | refl => exact absurd before after
  | @tail middle last earlier step' ih =>
    by_cases still : holds middle.store
    · rcases (Run.orderly obeys (run.steps earlier)).made step' with
        same | ⟨pid, call, reply, s', may, made, grown⟩
      · exact absurd (same ▸ still) after
      · exact ⟨middle, last, pid, call, reply, s', earlier, step', .refl, still, after, may, made, grown⟩
    · obtain ⟨first, second, pid, call, reply, s', reached, changed, rest, facts⟩ := ih still
      exact ⟨first, second, pid, call, reply, s', reached, changed, rest.tail step', facts⟩

/-- Each call of a history was made in some step of the run. -/
theorem Run.made_at {pid : Pid} {made : Answered Call Reply ε}
    (obeys : ∀ pid program, Request pid program → program.Obeys (may pid) (ends pid) [])
    (run : Run step Request Initial pool) (member : (pid, made) ∈ pool.store.history) :
    ∃ earlier later s', Run step Request Initial earlier ∧ Pool.Step (protocol step) Request earlier later ∧
      Relation.ReflTransGen (Pool.Step (protocol step) Request) later pool ∧
      may pid (earlier.store.past pid) made.call ∧ step pid made.call earlier.store made.reply s' ∧
      later.store = ⟨s', (pid, made) :: earlier.store.history⟩ := by
  induction run with
  | start isFresh =>
    rw [isFresh.2] at member
    cases member
  | @step before after run step' ih =>
    rcases (Run.orderly obeys run).made step' with same | ⟨other, call, reply, s', may, performed, grown⟩
    · obtain ⟨earlier, later, s', reached, changed, rest, facts⟩ := ih (same ▸ member)
      exact ⟨earlier, later, s', reached, changed, rest.tail step', facts⟩
    · rw [grown] at member
      rcases List.mem_cons.mp member with isLast | isEarlier
      · cases isLast
        exact ⟨before, after, s', run, step', .refl, may, performed, grown⟩
      · obtain ⟨earlier, later, s', reached, changed, rest, facts⟩ := ih isEarlier
        exact ⟨earlier, later, s', reached, changed, rest.tail step', facts⟩

/-- A history only grows. -/
theorem history_grows (steps : Relation.ReflTransGen (Pool.Step (protocol step) Request) pool pool') :
    pool.store.history <:+ pool'.store.history := by
  induction steps with
  | refl => exact List.suffix_refl _
  | tail earlier last ih =>
    cases last with
    | arrive => exact ih
    | resume waiting made =>
      rw [made.2]
      exact ih.trans (List.suffix_cons _ _)

/-- Without a call nothing changes. -/
theorem store_of_history (steps : Relation.ReflTransGen (Pool.Step (protocol step) Request) pool pool')
    (same : pool'.store.history = pool.store.history) : pool'.store = pool.store := by
  induction steps with
  | refl => rfl
  | tail earlier last ih =>
    cases last with
    | arrive => exact ih same
    | resume waiting made =>
      have grown := (history_grows earlier).length_le
      rw [made.2] at same
      have shorter := congrArg List.length same
      rw [List.length_cons] at shorter
      omega

/-- The only call between two pools of a run. -/
theorem Run.only_call {pid : Pid} {call : Call} {reply : Except ε (Reply call)}
    (obeys : ∀ pid program, Request pid program → program.Obeys (may pid) (ends pid) [])
    (run : Run step Request Initial pool)
    (steps : Relation.ReflTransGen (Pool.Step (protocol step) Request) pool pool')
    (only : pool'.store.history = (pid, ⟨call, reply⟩) :: pool.store.history) :
    may pid (pool.store.past pid) call ∧ step pid call pool.store reply pool'.store.store := by
  induction steps with
  | refl => exact absurd only (List.cons_ne_self _ _).symm
  | @tail middle last earlier step' ih =>
    rcases (Run.orderly obeys (run.steps earlier)).made step' with
      same | ⟨other, made, answer, s', may, performed, grown⟩
    · rw [same] at only ⊢
      exact ih only
    · rw [grown] at only ⊢
      obtain ⟨isCall, rest⟩ := List.cons.inj only
      cases isCall
      rw [store_of_history earlier rest] at may performed
      exact ⟨may, performed⟩

/-! ## Schedules -/

/-- Makes a call and logs it, if it is allowed. -/
def perform (perform : Pid → (call : Call) → σ → Option (Except ε (Reply call) × σ))
    (allows : Pid → (call : Call) → Logged Pid Call Reply ε σ → Except ε (Reply call) → Bool)
    (pid : Pid) (call : Call) (x : Logged Pid Call Reply ε σ) :
    Option (Except ε (Reply call) × Logged Pid Call Reply ε σ) :=
  ((perform pid call x.store).filter fun (reply, _) => allows pid call x reply).map
    fun (reply, s') => (reply, ⟨s', (pid, ⟨call, reply⟩) :: x.history⟩)

/-- The call that a program waits for. -/
def waitsFor (pool : Pool Pid Call Reply ε α σ) (pid : Pid) : Option Call :=
  match pool.programs.lookup pid with
  | some (.await call _) => some call
  | _ => none

theorem waiting_of_waitsFor {pool : Pool Pid Call Reply ε α σ} {pid : Pid} {call : Call}
    (waits : waitsFor pool pid = some call) :
    ∃ next, pool.programs.lookup pid = some (.await call next) := by
  unfold waitsFor at waits
  split at waits
  · rename_i next found
    cases waits
    exact ⟨next, found⟩
  · cases waits

/-- Some programs arrive, and then take turns, each making up to a number of
calls. -/
def schedule (perform : Pid → (call : Call) → σ → Option (Except ε (Reply call) × σ))
    (allows : Pid → (call : Call) → Logged Pid Call Reply ε σ → Except ε (Reply call) → Bool)
    (programs : Pid → Async Call Reply ε α) (arrivals : List Pid) (turns : List (Pid × ℕ)) :
    Pool Pid Call Reply ε α (Logged Pid Call Reply ε σ) →
      Option (Pool Pid Call Reply ε α (Logged Pid Call Reply ε σ)) :=
  Pool.play (Logged.perform perform allows)
    ((arrivals.map fun pid => .arrive pid (programs pid)) ++ turns.map fun (pid, n) => .calls pid n)

theorem schedule_steps {perform : Pid → (call : Call) → σ → Option (Except ε (Reply call) × σ)}
    {allows : Pid → (call : Call) → Logged Pid Call Reply ε σ → Except ε (Reply call) → Bool}
    {programs : Pid → Async Call Reply ε α} {arrivals : List Pid} {turns : List (Pid × ℕ)}
    (sound : ∀ pid call x reply s', perform pid call x.store = some (reply, s') →
      allows pid call x reply → step pid call x reply s')
    (requests : ∀ pid, Request pid (programs pid))
    (played : schedule perform allows programs arrivals turns pool = some pool') :
    Relation.ReflTransGen (Pool.Step (protocol step) Request) pool pool' := by
  refine Pool.play_steps (fun pid call x reply x' made => ?_) (fun pid program member => ?_) played
  · obtain ⟨⟨reply', s'⟩, allowed, same⟩ := Option.map_eq_some_iff.mp made
    obtain ⟨performed, allowed⟩ := Option.filter_eq_some_iff.mp allowed
    cases same
    exact ⟨sound pid call x reply s' performed allowed, rfl⟩
  · rcases List.mem_append.mp member with arrival | turn
    · obtain ⟨other, -, same⟩ := List.mem_map.mp arrival
      cases same
      exact requests pid
    · obtain ⟨turn, -, same⟩ := List.mem_map.mp turn
      cases same

end Logged
end Exchange
