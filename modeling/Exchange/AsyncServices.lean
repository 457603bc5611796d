import Exchange.AsyncHistory

/-! Several services in one run. Each has calls of its own and its own part of
the store, and a request belongs to one of them. What is known of a service that
runs alone holds here as well, if it does not matter what the others do to its
part. -/
namespace Exchange
variable {ι : Type} {Call : ι → Type} {Reply : (i : ι) → Call i → Type} {Pid ε α σ : Type}

/-- A call of one of the services. -/
abbrev AnyCall (Call : ι → Type) : Type := (i : ι) × Call i

abbrev AnyReply (Reply : (i : ι) → Call i → Type) (call : AnyCall Call) : Type := Reply call.1 call.2

/-- The calls of all services, latest first. -/
abbrev AnyPast (Reply : (i : ι) → Call i → Type) (ε : Type) : Type :=
  List (Answered (AnyCall Call) (AnyReply Reply) ε)

/-- A service's program among those of all. -/
def Async.lift (i : ι) : Async (Call i) (Reply i) ε α → Async (AnyCall Call) (AnyReply Reply) ε α
  | .done result => .done result
  | .await call resume => .await ⟨i, call⟩ fun reply => (resume reply).lift i

section DecidableEq
variable [DecidableEq ι]

/-- A call as the service it was made on sees it. -/
def Answered.of (i : ι) : Answered (AnyCall Call) (AnyReply Reply) ε → Option (Answered (Call i) (Reply i) ε)
  | ⟨⟨j, call⟩, reply⟩ =>
    if same : j = i then some (same ▸ (⟨call, reply⟩ : Answered (Call j) (Reply j) ε)) else none

@[simp] theorem Answered.of_self (i : ι) (call : Call i) (reply : Except ε (Reply i call)) :
    Answered.of i (⟨⟨i, call⟩, reply⟩ : Answered (AnyCall Call) (AnyReply Reply) ε) = some ⟨call, reply⟩ :=
  dif_pos rfl

theorem Answered.of_other {i : ι} {made : Answered (AnyCall Call) (AnyReply Reply) ε} (other : made.call.1 ≠ i) :
    Answered.of i made = none :=
  dif_neg other

/-- The calls made on one service. -/
abbrev pastOf (i : ι) (past : AnyPast Reply ε) : List (Answered (Call i) (Reply i) ε) :=
  past.filterMap (Answered.of i)

/-- The rules of the service a call is made on. -/
def AnyMay (may : (i : ι) → List (Answered (Call i) (Reply i) ε) → Call i → Prop) (past : AnyPast Reply ε)
    (call : AnyCall Call) : Prop :=
  may call.1 (pastOf call.1 past) call.2

variable {may : (i : ι) → List (Answered (Call i) (Reply i) ε) → Call i → Prop}
  {ends : (i : ι) → List (Answered (Call i) (Reply i) ε) → Prop}

namespace Async

omit [DecidableEq ι] in
/-- Two sets of rules that a program obeys. -/
theorem Obeys.and {Call : Type} {Reply : Call → Type} {may may' : List (Answered Call Reply ε) → Call → Prop}
    {ends ends' : List (Answered Call Reply ε) → Except ε α → Prop} {program : Async Call Reply ε α}
    {past : List (Answered Call Reply ε)} (obeys : program.Obeys may ends past)
    (obeys' : program.Obeys may' ends' past) :
    program.Obeys (fun past call => may past call ∧ may' past call) (fun past result => ends past result ∧ ends' past result)
      past := by
  induction program generalizing past with
  | done result => exact ⟨obeys, obeys'⟩
  | await call resume ih => exact ⟨⟨obeys.1, obeys'.1⟩, fun reply => ih reply (obeys.2 reply) (obeys'.2 reply)⟩

private theorem Obeys.lift_from {i : ι} {program : Async (Call i) (Reply i) ε α} {past : AnyPast Reply ε}
    (obeys : program.Obeys (may i) (fun past _ => ends i past) (pastOf i past))
    (own : ∀ made ∈ past, made.call.1 = i) (idle : ∀ j, ends j []) :
    (program.lift i).Obeys (AnyMay may) (fun past _ => ∀ j, ends j (pastOf j past)) past := by
  induction program generalizing past with
  | done result =>
    intro j
    by_cases same : i = j
    · exact same ▸ obeys
    · have none : pastOf j past = [] := List.filterMap_eq_nil_iff.mpr fun made member =>
        Answered.of_other (own made member ▸ same)
      rw [none]
      exact idle j
  | await call resume ih =>
    refine ⟨obeys.1, fun reply => ih reply ?_ (List.forall_mem_cons.mpr ⟨rfl, own⟩)⟩
    rw [pastOf, List.filterMap_cons_some (Answered.of_self i call reply)]
    exact obeys.2 reply

/-- A program that obeys its service's rules obeys those of all, and ends as it
would alone. -/
theorem Obeys.lift {i : ι} {program : Async (Call i) (Reply i) ε α}
    (obeys : program.Obeys (may i) (fun past _ => ends i past) []) (idle : ∀ j, ends j []) :
    (program.lift i).Obeys (AnyMay may) (fun past _ => ∀ j, ends j (pastOf j past)) [] :=
  lift_from obeys (fun _ member => by cases member) idle

end Async

namespace Logged
variable [DecidableEq Pid] {τ : ι → Type} (view : (i : ι) → σ → τ i)

/-- A service's part of the store, with the calls made on it. -/
def part (i : ι) (x : Logged Pid (AnyCall Call) (AnyReply Reply) ε σ) : Logged Pid (Call i) (Reply i) ε (τ i) :=
  ⟨view i x.store, x.history.filterMap fun (pid, made) => (made.of i).map (pid, ·)⟩

theorem past_part (i : ι) (x : Logged Pid (AnyCall Call) (AnyReply Reply) ε σ) (pid : Pid) :
    (x.part view i).past pid = pastOf i (x.past pid) := by
  simp only [past, part, pastOf, List.filterMap_filterMap]
  refine List.filterMap_congr fun made _ => ?_
  by_cases own : made.1 = pid
  · cases isOf : made.2.of i <;> simp [own, isOf]
  · cases made.2.of i <;> simp [own]

omit [DecidableEq Pid] in
theorem part_own {i : ι} {x : Logged Pid (AnyCall Call) (AnyReply Reply) ε σ} {s : σ} {pid : Pid} {call : Call i}
    {reply : Except ε (Reply i call)} :
    part view i ⟨s, (pid, ⟨⟨i, call⟩, reply⟩) :: x.history⟩ =
      ⟨view i s, (pid, ⟨call, reply⟩) :: (x.part view i).history⟩ := by
  simp [part]

omit [DecidableEq Pid] in
theorem part_other {i : ι} {x : Logged Pid (AnyCall Call) (AnyReply Reply) ε σ} {s : σ} {pid : Pid}
    {made : Answered (AnyCall Call) (AnyReply Reply) ε} (other : made.call.1 ≠ i) :
    part view i ⟨s, (pid, made) :: x.history⟩ = ⟨view i s, (x.part view i).history⟩ := by
  simp [part, Answered.of_other other]

/-- What each service's own calls preserve of its part, and other services'
calls do not disturb, holds in every run of all. -/
theorem Run.parts (may : Pid → (i : ι) → List (Answered (Call i) (Reply i) ε) → Call i → Prop)
    (inv : (i : ι) → Logged Pid (Call i) (Reply i) ε (τ i) → Prop)
    {step : Pid → (call : AnyCall Call) → Logged Pid (AnyCall Call) (AnyReply Reply) ε σ →
      Except ε (AnyReply Reply call) → σ → Prop}
    {Request : Pid → Async (AnyCall Call) (AnyReply Reply) ε α → Prop} {Initial : σ → Prop}
    {pool : Pool Pid (AnyCall Call) (AnyReply Reply) ε α (Logged Pid (AnyCall Call) (AnyReply Reply) ε σ)}
    {ends : Pid → AnyPast Reply ε → Except ε α → Prop}
    (obeys : ∀ pid program, Request pid program → program.Obeys (AnyMay (may pid)) (ends pid) [])
    (initial : ∀ s, Initial s → ∀ i, inv i ⟨view i s, []⟩)
    (own : ∀ i (x : Logged Pid (AnyCall Call) (AnyReply Reply) ε σ) pid call reply s', inv i (x.part view i) →
      may pid i ((x.part view i).past pid) call → step pid ⟨i, call⟩ x reply s' →
        inv i ⟨view i s', (pid, ⟨call, reply⟩) :: (x.part view i).history⟩)
    (others : ∀ i (x : Logged Pid (AnyCall Call) (AnyReply Reply) ε σ) pid call reply s', inv i (x.part view i) →
      call.1 ≠ i → step pid call x reply s' → inv i ⟨view i s', (x.part view i).history⟩)
    (run : Run step Request Initial pool) (i : ι) : inv i (pool.store.part view i) := by
  refine @Run.inv _ _ _ _ _ _ _ _ _ _ _ _ _ (fun x => inv i (x.part view i)) obeys
    (fun s isInitial => initial s isInitial i) ?_ run
  intro x pid call reply s' holds call' made
  by_cases mine : call.1 = i
  · obtain ⟨j, call⟩ := call
    subst mine
    rw [part_own]
    rw [AnyMay, ← past_part view] at call'
    exact own _ x pid call reply s' holds call' made
  · rw [part_other view mine]
    exact others i x pid call reply s' holds mine made

end Logged
end DecidableEq
end Exchange
