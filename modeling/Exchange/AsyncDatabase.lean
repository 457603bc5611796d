import Exchange.AsyncHistory
import Exchange.Failure

/-! Programs whose calls go to a database over a connection that can fail. What
a call does is a function of the tables and of the world outside them at that
moment; a call that is lost does nothing. -/
namespace Exchange

/-- Thrown by the database or its driver, not by the code. -/
def Failure.isDatabase : Failure → Bool
  | .app _ _ _ _ => false
  | _ => true

namespace Database
variable {World Pid Call : Type} {Reply : Call → Type} {σ α β : Type}

/-- A write's answer, and the tables it leaves: a failed write changes none. -/
def written (s : σ) : Except Failure (α × σ) → Except Failure α × σ
  | .ok (value, s') => (.ok value, s')
  | .error failure => (.error failure, s)

theorem written_cases {result : Except Failure (α × σ)} {s s' : σ} {reply : Except Failure α}
    (made : written s result = (reply, s')) :
    (∃ value, reply = .ok value ∧ result = .ok (value, s')) ∨
      (∃ failure, reply = .error failure ∧ result = .error failure) ∧ s' = s := by
  cases result with
  | error failure =>
    cases made
    exact .inr ⟨⟨failure, rfl, rfl⟩, rfl⟩
  | ok pair =>
    cases made
    exact .inl ⟨_, rfl, rfl⟩

variable (perform : World → Pid → (call : Call) → σ → Except Failure (Reply call) × σ)

/-- A call as a request may see it: it runs, in whatever world, or it is lost
for a reason outside the code and nothing happens. -/
def Makes (pid : Pid) (call : Call) (s : σ) (reply : Except Failure (Reply call)) (s' : σ) : Prop :=
  (∃ world, perform world pid call s = (reply, s')) ∨
    (∃ failure, failure.isDatabase ∧ reply = .error failure) ∧ s' = s

/-! ## Schedules -/

/-- What a call does in the world of its request; some calls are lost. -/
def act (worlds : Pid → World) (isLost : Pid → Call → Bool) (pid : Pid) (call : Call) (s : σ) :
    Option (Except Failure (Reply call) × σ) :=
  some (if isLost pid call then (.error (.error "Connection terminated"), s)
    else perform (worlds pid) pid call s)

variable {perform}

theorem act_makes {worlds : Pid → World} {isLost : Pid → Call → Bool} {pid : Pid} {call : Call}
    {s s' : σ} {reply : Except Failure (Reply call)}
    (acted : act perform worlds isLost pid call s = some (reply, s')) :
    Makes perform pid call s reply s' := by
  have acted := Option.some.inj acted
  split at acted
  · cases acted
    exact .inr ⟨⟨_, rfl, rfl⟩, rfl⟩
  · exact .inl ⟨worlds pid, acted⟩

variable [DecidableEq Pid]

/-- A run from a store without programs: some requests arrive and take turns. -/
def schedule (perform : World → Pid → (call : Call) → σ → Except Failure (Reply call) × σ)
    (worlds : Pid → World) (isLost : Pid → Call → Bool)
    (allows : Pid → (call : Call) → Logged Pid Call Reply Failure σ → Except Failure (Reply call) → Bool)
    (programs : Pid → Async Call Reply Failure α) (arrivals : List Pid) (turns : List (Pid × ℕ))
    (s : σ) : Option (Pool Pid Call Reply Failure α (Logged Pid Call Reply Failure σ)) :=
  Logged.schedule (act perform worlds isLost) allows programs arrivals turns ⟨⟨s, []⟩, ∅⟩

theorem schedule_run {worlds : Pid → World} {isLost : Pid → Call → Bool}
    {allows : Pid → (call : Call) → Logged Pid Call Reply Failure σ → Except Failure (Reply call) → Bool}
    {programs : Pid → Async Call Reply Failure α} {arrivals : List Pid} {turns : List (Pid × ℕ)} {s : σ}
    {step : Pid → (call : Call) → Logged Pid Call Reply Failure σ → Except Failure (Reply call) → σ → Prop}
    {Request : Pid → Async Call Reply Failure α → Prop} {Initial : σ → Prop}
    {pool : Pool Pid Call Reply Failure α (Logged Pid Call Reply Failure σ)} (initial : Initial s)
    (isRequest : ∀ pid, Request pid (programs pid))
    (sound : ∀ pid call x reply s', allows pid call x reply →
      Makes perform pid call x.store reply s' → step pid call x reply s')
    (played : schedule perform worlds isLost allows programs arrivals turns s = some pool) :
    Logged.Run step Request Initial pool := by
  refine (Pool.Run.start ⟨initial, rfl⟩).steps (Logged.schedule_steps ?_ isRequest played)
  exact fun pid call x reply s' acted allowed => sound pid call x reply s' allowed (act_makes acted)

/-- More requests arrive at a pool, and the requests take turns. -/
def resume (perform : World → Pid → (call : Call) → σ → Except Failure (Reply call) × σ)
    (worlds : Pid → World) (isLost : Pid → Call → Bool)
    (allows : Pid → (call : Call) → Logged Pid Call Reply Failure σ → Except Failure (Reply call) → Bool)
    (programs : Pid → Async Call Reply Failure α) (arrivals : List Pid) (turns : List (Pid × ℕ)) :
    Pool Pid Call Reply Failure α (Logged Pid Call Reply Failure σ) →
      Option (Pool Pid Call Reply Failure α (Logged Pid Call Reply Failure σ)) :=
  Logged.schedule (act perform worlds isLost) allows programs arrivals turns

theorem resume_steps {worlds : Pid → World} {isLost : Pid → Call → Bool}
    {allows : Pid → (call : Call) → Logged Pid Call Reply Failure σ → Except Failure (Reply call) → Bool}
    {programs : Pid → Async Call Reply Failure α} {arrivals : List Pid} {turns : List (Pid × ℕ)}
    {step : Pid → (call : Call) → Logged Pid Call Reply Failure σ → Except Failure (Reply call) → σ → Prop}
    {Request : Pid → Async Call Reply Failure α → Prop}
    {pool pool' : Pool Pid Call Reply Failure α (Logged Pid Call Reply Failure σ)}
    (isRequest : ∀ pid, Request pid (programs pid))
    (sound : ∀ pid call x reply s', allows pid call x reply →
      Makes perform pid call x.store reply s' → step pid call x reply s')
    (played : resume perform worlds isLost allows programs arrivals turns pool = some pool') :
    Relation.ReflTransGen (Pool.Step (Logged.protocol step) Request) pool pool' := by
  refine Logged.schedule_steps ?_ isRequest played
  exact fun pid call x reply s' acted allowed => sound pid call x reply s' allowed (act_makes acted)

end Database
end Exchange
