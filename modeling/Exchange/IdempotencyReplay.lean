import Exchange.IdempotencyRules

/-! A key is used once. Whoever holds a key has the placeholder or the response
under it in the table, and a holder alone can take it out; so a handler starts
only where nobody holds the key. -/
namespace Exchange.Idempotency

abbrev History (δ : Type) := Logged ℕ (IdempotencyCall δ) IdempotencyCall.Reply Failure (Store δ)

abbrev IdempotencyPool (δ : Type) :=
  Pool ℕ (IdempotencyCall δ) IdempotencyCall.Reply Failure (Answer δ) (History δ)

variable {δ : Type}

def interleaved (pid : ℕ) (call : IdempotencyCall δ) (x : History δ) (reply : Except Failure call.Reply)
    (s' : Store δ) : Prop :=
  Makes pid call x.store reply s'

/-- The handler of a request runs from the claim until it answers or throws. -/
def Running (slot : Slot) (past : Past δ) : Prop := past.head? = some ⟨.create slot, .ok ()⟩

/-- A request with this key has run its handler to this response. -/
def Ran (isProd : Bool) (requests : ℕ → Request) (x : History δ) (pid : ℕ) (slot : Slot)
    (response : Response δ) : Prop :=
  slotOf (requests pid) = .ok slot ∧ ∃ outcome, ⟨.handler, outcome⟩ ∈ x.past pid ∧
    response = respond isProd outcome

/-- Handlers of one key do not overlap, none starts after one that has ended
without a server error, and replays repeat the response of that one. -/
structure ExactlyOnce (isProd : Bool) (requests : ℕ → Request) (pool : IdempotencyPool δ) : Prop where
  alone : ∀ pid other slot, Running slot (pool.store.past pid) → Running slot (pool.store.past other) →
    pid = other
  final : ∀ later other slot earlier,
    pool.store.history = later ++ (other, ⟨.create slot, .ok ()⟩) :: earlier →
    ∀ pid response, Ran isProd requests ⟨pool.store.store, earlier⟩ pid slot response → 500 ≤ response.status
  replayed : ∀ pid slot response, slotOf (requests pid) = .ok slot →
    pool.programs.lookup pid = some (.done (.ok (.replayed response))) →
    response.status < 500 ∧ ∃ other, Ran isProd requests pool.store other slot response
  original : ∀ pid other slot response response', Ran isProd requests pool.store pid slot response →
    Ran isProd requests pool.store other slot response' → response.status < 500 → response'.status < 500 →
    pid = other

variable {isProd : Bool} {requests : ℕ → Request} {x : History δ} {pid other : ℕ} {call : IdempotencyCall δ}
  {reply : Except Failure call.Reply} {s s' : Store δ} {slot : Slot} {response : Response δ}
  {made : Answered (IdempotencyCall δ) IdempotencyCall.Reply Failure} {row : IdempotencyKey δ}

/-! ## One call -/

/-- What a call did, by its answer; the answer of a write may be lost. -/
inductive Effect (s : Store δ) : Answered (IdempotencyCall δ) IdempotencyCall.Reply Failure → Store δ → Prop
  | claimed {slot : Slot} {reply : Except Failure Unit} (fresh : s.keys.lookup slot = none) :
      Effect s ⟨.create slot, reply⟩ ⟨s.keys.insert slot ⟨none, none⟩⟩
  | released {slot : Slot} {reply : Except Failure Unit} {row : IdempotencyKey δ}
      (found : s.keys.lookup slot = some row) (isOpen : row.responseStatus = none) :
      Effect s ⟨.deleteMany slot, reply⟩ ⟨s.keys.erase slot⟩
  | kept {slot : Slot} {response : Response δ} {reply : Except Failure Unit} :
      Effect s ⟨.update slot response, reply⟩ ⟨s.keys.insert slot ⟨some response.status, response.body⟩⟩
  | neutral {made : Answered (IdempotencyCall δ) IdempotencyCall.Reply Failure}
      (read : ∀ slot found, made = ⟨.findUnique slot, .ok found⟩ → s.keys.lookup slot = found)
      (unclaimed : ∀ slot, made ≠ ⟨.create slot, .ok ()⟩) : Effect s made s

theorem act_effect {world : World δ} (ran : act world call s = (reply, s')) : Effect s ⟨call, reply⟩ s' := by
  cases call with
  | findUnique slot =>
    cases ran
    refine .neutral (fun slot found same => ?_) nofun
    cases same
    rfl
  | create slot =>
    rcases Database.written_cases ran with ⟨value, -, wrote⟩ | ⟨⟨failure, rfl, -⟩, rfl⟩
    · unfold create at wrote
      split at wrote
      · cases wrote
      · rename_i fresh
        cases wrote
        exact .claimed (by simpa using fresh)
    · exact .neutral nofun nofun
  | handler =>
    cases ran
    exact .neutral nofun nofun
  | finish response =>
    cases ran
    exact .neutral nofun nofun
  | deleteMany slot =>
    cases ran
    unfold deleteMany
    split
    · rename_i isOpen
      obtain ⟨row, found, isOpen⟩ := (Option.any_eq_true _ _).mp isOpen
      exact .released found (of_decide_eq_true isOpen)
    · exact .neutral nofun nofun
  | update slot response =>
    rcases Database.written_cases ran with ⟨value, -, wrote⟩ | ⟨-, rfl⟩
    · unfold update at wrote
      split at wrote
      · cases wrote
        exact .kept
      · cases wrote
    · exact .neutral nofun nofun

/-- Every call has one of these effects. -/
theorem Makes.effect (makes : Makes pid call s reply s') : Effect s ⟨call, reply⟩ s' := by
  rcases makes with ⟨world, ran⟩ | ⟨⟨failure, -, rfl⟩, rfl⟩
  · unfold perform at ran
    cases acted : act world call s with
    | mk answer s₁ =>
      simp only [acted, Prod.mk.injEq] at ran
      obtain ⟨isReply, rfl⟩ := ran
      have effect := act_effect acted
      split at isReply
      · subst isReply
        cases effect with
        | claimed fresh => exact .claimed fresh
        | released found isOpen => exact .released found isOpen
        | kept => exact .kept
        | neutral read unclaimed => exact .neutral nofun nofun
      · rwa [← isReply]
  · exact .neutral nofun nofun

/-! ## Holders -/

theorem Holding.before {past : Past δ} (holding : Holding slot (made :: past)) :
    made = ⟨.create slot, .ok ()⟩ ∨ Holding slot past := by
  rcases List.mem_cons.mp holding.claimed with same | earlier
  · exact .inl same.symm
  · exact .inr ⟨earlier, fun reply released => holding.unreleased reply (List.mem_cons_of_mem _ released)⟩

theorem Progress.holding_of_running {past : Past δ} {own : Slot} (progress : Progress isProd own past)
    (running : Running slot past) : Holding slot past := by
  cases progress with
  | claims =>
    have same := Option.some.inj running
    exact ⟨by simp [same], by simp⟩
  | _ => cases running

/-- Only a holder gives a key back. -/
theorem May.holding {past : Past δ} {own : Slot} (call' : May isProd own past (.deleteMany slot)) :
    Holding slot past := by
  cases call' with
  | deleteMany => exact ⟨by simp [ran, claimed], by simp [ran, claimed]⟩

/-- What is stored under a key is the response of its handler. -/
theorem May.stores {past : Past δ} {own : Slot} (call' : May isProd own past (.update slot response)) :
    own = slot ∧ response.status < 500 ∧ ∃ outcome, ⟨.handler, outcome⟩ ∈ past ∧
      response = respond isProd outcome := by
  cases call' with
  | @update outcome isFinal => exact ⟨rfl, isFinal, outcome, by simp [ran], rfl⟩

theorem Ran.stays (ran : Ran isProd requests x other slot response) :
    Ran isProd requests ⟨s', (pid, made) :: x.history⟩ other slot response := by
  obtain ⟨isSlot, outcome, member, same⟩ := ran
  exact ⟨isSlot, outcome, Logged.mem_past_cons.mpr (.inr member), same⟩

/-! ## Runs -/

structure Kept (isProd : Bool) (requests : ℕ → Request) (x : History δ) : Prop where
  progress : ∀ pid, x.past pid = [] ∨
    ∃ slot, slotOf (requests pid) = .ok slot ∧ Progress isProd slot (x.past pid)
  placeholder : ∀ pid slot, Holding slot (x.past pid) → ∃ row, x.store.keys.lookup slot = some row
  one : ∀ pid other slot, Holding slot (x.past pid) → Holding slot (x.past other) → pid = other
  rows : ∀ slot row status, x.store.keys.lookup slot = some row → row.responseStatus = some status →
    status < 500 ∧ ∃ pid, Ran isProd requests x pid slot ⟨status, row.responseBody⟩
  reads : ∀ pid slot row status, ⟨.findUnique slot, .ok (some row)⟩ ∈ x.past pid →
    row.responseStatus = some status →
    status < 500 ∧ ∃ other, Ran isProd requests x other slot ⟨status, row.responseBody⟩
  final : ∀ later other slot earlier, x.history = later ++ (other, ⟨.create slot, .ok ()⟩) :: earlier →
    ∀ pid response, Ran isProd requests ⟨x.store, earlier⟩ pid slot response → 500 ≤ response.status

theorem kept_initial (opening : s.keys = ∅) : Kept isProd requests ⟨s, []⟩ where
  progress pid := .inl rfl
  placeholder pid slot holding := by cases holding.claimed
  one pid other slot holding := by cases holding.claimed
  rows slot row status found := by
    rw [opening] at found
    cases found
  reads pid slot row status member := by cases member
  final later other slot earlier split := by simp at split

/-- Who has ended without a server error holds the key. -/
theorem Kept.holding (kept : Kept isProd requests x) (ran : Ran isProd requests x pid slot response)
    (isFinal : response.status < 500) : Holding slot (x.past pid) := by
  obtain ⟨isSlot, outcome, ended, rfl⟩ := ran
  rcases kept.progress pid with nothing | ⟨own, isOwn, progress⟩
  · rw [nothing] at ended
    cases ended
  · cases isSlot.symm.trans isOwn
    exact progress.holding ended isFinal

/-- A holder's row stays. -/
theorem Kept.row_stays (kept : Kept isProd requests x) (call' : MayOf isProd (requests pid) (x.past pid) call)
    (effect : Effect x.store ⟨call, reply⟩ s') (before : Holding slot (x.past other))
    (after : Holding slot (Logged.past ⟨s', (pid, ⟨call, reply⟩) :: x.history⟩ other)) :
    ∃ row, s'.keys.lookup slot = some row := by
  have found := kept.placeholder other slot before
  cases effect with
  | @claimed key reply fresh =>
    by_cases same : slot = key
    · subst same
      exact ⟨_, AList.lookup_insert _⟩
    · rwa [AList.lookup_insert_ne same]
  | @kept key response reply =>
    by_cases same : slot = key
    · subst same
      exact ⟨_, AList.lookup_insert _⟩
    · rwa [AList.lookup_insert_ne same]
  | @released key reply row isRow isOpen =>
    by_cases same : slot = key
    · subst same
      obtain ⟨own, -, may⟩ := call'
      have isPid := kept.one other pid slot before (May.holding may)
      subst isPid
      rw [Logged.past_self] at after
      exact (after.unreleased _ List.mem_cons_self).elim
    · rwa [AList.lookup_erase_ne same]
  | neutral read unclaimed => exact found

/-- Nobody holds a key that is claimed. -/
theorem Kept.unheld (kept : Kept isProd requests x)
    (effect : Effect x.store ⟨.create slot, .ok ()⟩ s') : ¬Holding slot (x.past other) := by
  intro holding
  obtain ⟨row, found⟩ := kept.placeholder other slot holding
  cases effect with
  | claimed fresh => cases fresh.symm.trans found
  | neutral read unclaimed => exact unclaimed slot rfl

theorem Kept.holding_before (kept : Kept isProd requests x) (effect : Effect x.store ⟨call, reply⟩ s')
    (after : Holding slot (Logged.past ⟨s', (pid, ⟨call, reply⟩) :: x.history⟩ other)) :
    Holding slot (x.past other) ∨ other = pid ∧ (∃ row, s'.keys.lookup slot = some row) ∧
      ∀ holder, ¬Holding slot (x.past holder) := by
  by_cases own : other = pid
  · subst own
    rw [Logged.past_self] at after
    rcases after.before with same | before
    · cases same
      refine .inr ⟨rfl, ?_, fun holder => kept.unheld effect⟩
      cases effect with
      | claimed fresh => exact ⟨_, AList.lookup_insert _⟩
      | neutral read unclaimed => exact (unclaimed slot rfl).elim
    · exact .inl before
  · rw [Logged.past_ne _ own] at after
    exact .inl after

theorem kept_step (kept : Kept isProd requests x) (call' : MayOf isProd (requests pid) (x.past pid) call)
    (makes : Makes pid call x.store reply s') :
    Kept isProd requests ⟨s', (pid, ⟨call, reply⟩) :: x.history⟩ where
  progress other := by
    by_cases own : other = pid
    · subst own
      obtain ⟨slot, isSlot, may⟩ := call'
      rw [Logged.past_self]
      exact .inr ⟨slot, isSlot, may.progress reply⟩
    · rw [Logged.past_ne _ own]
      exact kept.progress other
  placeholder other slot holding := by
    rcases kept.holding_before makes.effect holding with before | ⟨-, found, -⟩
    · exact kept.row_stays call' makes.effect before holding
    · exact found
  one first second slot holds holds' := by
    rcases kept.holding_before makes.effect holds with before | ⟨rfl, -, unheld⟩
    · rcases kept.holding_before makes.effect holds' with before' | ⟨-, -, unheld⟩
      · exact kept.one first second slot before before'
      · exact (unheld first before).elim
    · rcases kept.holding_before makes.effect holds' with before' | ⟨rfl, -, -⟩
      · exact (unheld second before').elim
      · rfl
  rows slot row status found isStatus := by
    have earlier : ∀ {row : IdempotencyKey δ}, x.store.keys.lookup slot = some row →
        row.responseStatus = some status → status < 500 ∧
          ∃ other, Ran isProd requests ⟨s', (pid, ⟨call, reply⟩) :: x.history⟩ other slot
            ⟨status, row.responseBody⟩ := by
      intro row found isStatus
      obtain ⟨isFinal, other, ran⟩ := kept.rows slot row status found isStatus
      exact ⟨isFinal, other, ran.stays⟩
    cases makes.effect with
    | @claimed key reply fresh =>
      by_cases same : slot = key
      · subst same
        cases (AList.lookup_insert _).symm.trans found
        cases isStatus
      · exact earlier ((AList.lookup_insert_ne same).symm.trans found) isStatus
    | @kept key response reply =>
      by_cases same : slot = key
      · subst same
        cases (AList.lookup_insert _).symm.trans found
        cases isStatus
        obtain ⟨own, isOwn, may⟩ := call'
        obtain ⟨rfl, isFinal, outcome, ended, isResponse⟩ := May.stores may
        refine ⟨isFinal, pid, isOwn, outcome, ?_, isResponse⟩
        rw [Logged.past_self]
        exact List.mem_cons_of_mem _ ended
      · exact earlier ((AList.lookup_insert_ne same).symm.trans found) isStatus
    | @released key reply old isOld isOpen =>
      by_cases same : slot = key
      · subst same
        cases (AList.lookup_erase _ _).symm.trans found
      · exact earlier ((AList.lookup_erase_ne same).symm.trans found) isStatus
    | neutral read unclaimed => exact earlier found isStatus
  reads other slot row status member isStatus := by
    have shown : status < 500 ∧ ∃ origin, Ran isProd requests x origin slot ⟨status, row.responseBody⟩ := by
      rcases Logged.mem_past_cons.mp member with ⟨same, rfl⟩ | before
      · have effect := makes.effect
        rw [← same] at effect
        cases effect with
        | neutral read unclaimed => exact kept.rows slot row status (read slot _ rfl) isStatus
      · exact kept.reads other slot row status before isStatus
    obtain ⟨isFinal, origin, ran⟩ := shown
    exact ⟨isFinal, origin, ran.stays⟩
  final later other slot earlier split first response ran := by
    cases later with
    | nil =>
      obtain ⟨same, rfl⟩ := List.cons.inj split
      obtain ⟨rfl, isCreate⟩ := Prod.mk.inj same
      refine not_lt.mp fun isFinal => ?_
      have effect := makes.effect
      rw [isCreate] at effect
      exact kept.unheld effect (kept.holding ran isFinal)
    | cons latest later =>
      obtain ⟨-, split⟩ := List.cons.inj split
      exact kept.final later other slot earlier split first response ran

theorem kept_run {pool : IdempotencyPool δ}
    (run : Logged.Run interleaved (IsRequest isProd requests) (fun s => s.keys = ∅) pool) :
    Kept isProd requests pool.store :=
  run.inv (fun _ _ => isRequest_obeys) (fun _ => kept_initial) fun _ _ _ _ _ => kept_step

/-- In every run, each key is used once. -/
theorem key_used_once {pool : IdempotencyPool δ}
    (run : Logged.Run interleaved (IsRequest isProd requests) (fun s => s.keys = ∅) pool) :
    ExactlyOnce isProd requests pool := by
  have kept := kept_run run
  have orderly := Logged.Run.orderly (fun _ _ => isRequest_obeys) run
  refine ⟨?_, kept.final, ?_, ?_⟩
  · intro pid other slot running running'
    have holds : ∀ pid, Running slot (pool.store.past pid) → Holding slot (pool.store.past pid) := by
      intro pid running
      rcases kept.progress pid with nothing | ⟨own, -, progress⟩
      · rw [nothing] at running
        cases running
      · exact progress.holding_of_running running
    exact kept.one pid other slot (holds pid running) (holds other running')
  · intro pid slot response isSlot ended
    obtain ⟨row, read, isStatus, isBody⟩ := orderly.ended ended slot isSlot
    obtain ⟨isFinal, other, ran⟩ := kept.reads pid slot row response.status read isStatus
    rw [isBody] at ran
    exact ⟨isFinal, other, ran⟩
  · intro pid other slot response response' ran ran' isFinal isFinal'
    exact kept.one pid other slot (kept.holding ran isFinal) (kept.holding ran' isFinal')

/-- A deposit of user 7, three times under one key. -/
private def deposit (_pid : ℕ) : Request where
  user := some 7
  method := ['P', 'O', 'S', 'T']
  baseUrl := ['/', 'd', 'e', 'p', 'o', 's', 'i', 't', 's']
  route := some ['/']
  path := ['/']
  idempotencyKey := some ['k', 'e', 'y', '-', '0', '0', '0', '1', ' ']

/-- What the requests of a pool are answered with. -/
private def answered (pool : IdempotencyPool ℕ) (pid : ℕ) : Option (Except Failure (Answer ℕ)) :=
  match pool.programs.lookup pid with
  | some (.done result) => some result
  | _ => none

/-- The second comes too early, the third gets the response of the first. -/
theorem key_used_once_replayed : ∃ pool : IdempotencyPool ℕ, ExactlyOnce false deposit pool ∧
    answered pool 3 = some (.ok (.replayed ⟨201, some (.success 42)⟩)) := by
  have played : (Database.schedule perform (fun _ => ⟨.ok (201, 42), true, fun _ => false⟩) (fun _ _ => false)
      (fun _ _ _ _ => true) (fun pid => idempotency false (deposit pid)) [1, 2, 3]
      [(1, 2), (2, 1), (1, 3), (3, 1)] ⟨∅⟩).map (fun pool =>
        (answered pool 2, answered pool 3)) =
      some (some (.error (.conflictError "A request with this Idempotency-Key is still being processed"
        "IDEMPOTENCY_IN_PROGRESS")), some (.ok (.replayed ⟨201, some (.success 42)⟩))) := by decide +kernel
  obtain ⟨pool, scheduled, facts⟩ := Option.map_eq_some_iff.mp played
  obtain ⟨-, replay⟩ := Prod.mk.inj facts
  have run : Logged.Run interleaved (IsRequest false deposit) (fun s => s.keys = ∅) pool :=
    Database.schedule_run rfl (fun _ => rfl) (fun _ _ _ _ _ _ makes => makes) scheduled
  exact ⟨pool, key_used_once run, replay⟩

end Exchange.Idempotency
