import Exchange.AsyncHistory

/-! Things that are booked in one place and recorded in another. A request that
books one records it with its next call, and owes that call until then. As long
as every record that is owed gets made, the two places agree whenever nobody
owes one. -/
namespace Exchange.Logged
variable {Pid Call : Type} {Reply : Call → Type} {ε σ α κ : Type} [DecidableEq Pid]

/-- Steps within the rules keep an invariant, and book and record as described;
`owes` says after which calls a request has a thing still to record. -/
structure Booking (step : Pid → (call : Call) → Logged Pid Call Reply ε σ → Except ε (Reply call) → σ → Prop)
    (may : Pid → List (Answered Call Reply ε) → Call → Prop) (inv : Logged Pid Call Reply ε σ → Prop)
    (booked recorded : σ → κ → Prop) (owes : List (Answered Call Reply ε) → κ → Prop) : Prop where
  idle : ∀ key, ¬owes [] key
  kept : ∀ {x pid call reply s'}, inv x → may pid (x.past pid) call → step pid call x reply s' →
    inv ⟨s', (pid, ⟨call, reply⟩) :: x.history⟩
  books : ∀ {x pid call reply s'}, inv x → may pid (x.past pid) call → step pid call x reply s' →
    ∀ key, booked s' key → booked x.store key ∨ owes (⟨call, reply⟩ :: x.past pid) key
  stays_booked : ∀ {x pid call reply s'}, inv x → may pid (x.past pid) call →
    step pid call x reply s' →
      ∀ key, booked x.store key ∨ owes (⟨call, reply⟩ :: x.past pid) key → booked s' key
  records : ∀ {x pid call reply s'}, inv x → may pid (x.past pid) call → step pid call x reply s' →
    ∀ key, recorded s' key → recorded x.store key ∨ owes (x.past pid) key
  stays_recorded : ∀ {x pid call reply s'}, inv x → may pid (x.past pid) call →
    step pid call x reply s' → ∀ key, recorded x.store key ∨ owes (x.past pid) key → recorded s' key

/-- What is recorded is booked, and what is booked is recorded or will be. -/
structure Accounted (inv : Logged Pid Call Reply ε σ → Prop) (booked recorded : σ → κ → Prop)
    (owes : List (Answered Call Reply ε) → κ → Prop) (x : Logged Pid Call Reply ε σ) : Prop where
  known : inv x
  booked_first : ∀ key, recorded x.store key → booked x.store key
  owed : ∀ pid key, owes (x.past pid) key → booked x.store key
  followed : ∀ key, booked x.store key → recorded x.store key ∨ ∃ pid, owes (x.past pid) key

variable {step : Pid → (call : Call) → Logged Pid Call Reply ε σ → Except ε (Reply call) → σ → Prop}
  {may : Pid → List (Answered Call Reply ε) → Call → Prop} {inv : Logged Pid Call Reply ε σ → Prop}
  {booked recorded : σ → κ → Prop} {owes : List (Answered Call Reply ε) → κ → Prop}
  {x : Logged Pid Call Reply ε σ} {pid : Pid} {call : Call} {reply : Except ε (Reply call)} {s s' : σ}

theorem Booking.accounted_initial (booking : Booking step may inv booked recorded owes)
    (known : inv ⟨s, []⟩) (agree : ∀ key, booked s key ↔ recorded s key) :
    Accounted inv booked recorded owes (⟨s, []⟩ : Logged Pid Call Reply ε σ) where
  known := known
  booked_first key := (agree key).mpr
  owed _ key owed := (booking.idle key owed).elim
  followed key isBooked := .inl ((agree key).mp isBooked)

theorem Booking.accounted_step (booking : Booking step may inv booked recorded owes)
    (before : Accounted inv booked recorded owes x) (call' : may pid (x.past pid) call)
    (made : step pid call x reply s') :
    Accounted inv booked recorded owes ⟨s', (pid, ⟨call, reply⟩) :: x.history⟩ where
  known := booking.kept before.known call' made
  booked_first key isRecorded := by
    refine booking.stays_booked before.known call' made key (.inl ?_)
    rcases booking.records before.known call' made key isRecorded with earlier | owed
    · exact before.booked_first key earlier
    · exact before.owed pid key owed
  owed other key owed := by
    by_cases own : other = pid
    · subst own
      rw [past_self] at owed
      exact booking.stays_booked before.known call' made key (.inr owed)
    · rw [past_ne _ own] at owed
      exact booking.stays_booked before.known call' made key (.inl (before.owed other key owed))
  followed key isBooked := by
    rcases booking.books before.known call' made key isBooked with earlier | owed
    · rcases before.followed key earlier with isRecorded | ⟨other, owed⟩
      · exact .inl (booking.stays_recorded before.known call' made key (.inl isRecorded))
      by_cases own : other = pid
      · subst own
        exact .inl (booking.stays_recorded before.known call' made key (.inr owed))
      · exact .inr ⟨other, by rwa [past_ne _ own]⟩
    · exact .inr ⟨pid, by rwa [past_self]⟩

variable {Request : Pid → Async Call Reply ε α → Prop}
  {ends : Pid → List (Answered Call Reply ε) → Except ε α → Prop} {Initial : σ → Prop}
  {pool pool' : Pool Pid Call Reply ε α (Logged Pid Call Reply ε σ)}

/-- Every run from two places that agree stays accounted for. -/
theorem Booking.run (booking : Booking step may inv booked recorded owes)
    (obeys : ∀ pid program, Request pid program → program.Obeys (may pid) (ends pid) [])
    (initial : ∀ s, Initial s → inv ⟨s, []⟩ ∧ ∀ key, booked s key ↔ recorded s key)
    (run : Run step Request Initial pool) : Accounted inv booked recorded owes pool.store :=
  run.inv obeys
    (fun s isInitial => booking.accounted_initial (initial s isInitial).1 (initial s isInitial).2)
    fun _ _ _ _ _ before call' made => booking.accounted_step before call' made

/-- When no request is in flight, the two places agree. -/
theorem Booking.quiet (booking : Booking step may inv booked recorded owes)
    (obeys : ∀ pid program, Request pid program → program.Obeys (may pid) (ends pid) [])
    (initial : ∀ s, Initial s → inv ⟨s, []⟩ ∧ ∀ key, booked s key ↔ recorded s key)
    (ended : ∀ pid past result key, ends pid past result → ¬owes past key)
    (run : Run step Request Initial pool) (quiet : pool.Quiet) (key : κ) :
    booked pool.store.store key ↔ recorded pool.store.store key := by
  have accounted := booking.run obeys initial run
  refine ⟨fun isBooked => ?_, accounted.booked_first key⟩
  rcases accounted.followed key isBooked with isRecorded | ⟨pid, owed⟩
  · exact isRecorded
  · rcases (run.orderly obeys).quiet quiet pid with nothing | ⟨result, isEnd⟩
    · rw [nothing] at owed
      exact (booking.idle key owed).elim
    · exact (ended pid _ result key isEnd owed).elim

/-- What is recorded stays recorded. -/
theorem Booking.recorded_step (booking : Booking step may inv booked recorded owes)
    (obeys : ∀ pid program, Request pid program → program.Obeys (may pid) (ends pid) [])
    (initial : ∀ s, Initial s → inv ⟨s, []⟩ ∧ ∀ key, booked s key ↔ recorded s key)
    (run : Run step Request Initial pool) (step' : Pool.Step (protocol step) Request pool pool')
    {key : κ} (isRecorded : recorded pool.store.store key) : recorded pool'.store.store key := by
  have accounted := booking.run obeys initial run
  rcases (run.orderly obeys).made step' with same | ⟨pid, call, reply, s', call', made, grown⟩
  · rwa [same]
  · rw [grown]
    exact booking.stays_recorded accounted.known call' made key (.inl isRecorded)

end Exchange.Logged
