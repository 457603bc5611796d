import Exchange.WithdrawalSchema

/-! The kill switch for withdrawals. Requests look at the flag; a worker that
broadcasts what was approved before does not. -/
namespace Exchange.Withdrawal.Freeze
open Ledger Service Schema

/-- Answered calls, latest first. -/
abbrev Calls := List (WithdrawalId × Answered WithdrawalCall WithdrawalCall.Reply Failure)

/-- What a call sets the flag to. -/
def flagSet : Answered WithdrawalCall WithdrawalCall.Reply Failure → Option Bool
  | ⟨.setWithdrawalFreeze enabled, .ok _⟩ => some enabled
  | _ => none

/-- The flag after some calls. -/
def flagAfter (initial : Option Bool) : Calls → Option Bool
  | [] => initial
  | (_, made) :: earlier => (flagSet made).or (flagAfter initial earlier)

def isClaim : Answered WithdrawalCall WithdrawalCall.Reply Failure → Bool
  | ⟨.updateMany _ .claimForBroadcast, _⟩ => true
  | _ => false

/-- The flag was set when the request's latest `broadcastWithdrawal` started,
which it does with its claim. -/
def startedFrozen (initial : Option Bool) (pid : WithdrawalId) : Calls → Bool
  | [] => false
  | (other, made) :: earlier =>
    if other = pid ∧ isClaim made then flagAfter initial earlier = some true
    else startedFrozen initial pid earlier

/-- No `broadcastWithdrawal` that started while the flag was set has called
`signer.broadcast`. -/
def Halted (initial : Option Bool) (calls : Calls) : Prop :=
  ∀ later earlier pid id signed reply,
    calls = later ++ (pid, ⟨.broadcast id signed, reply⟩) :: earlier →
      startedFrozen initial pid earlier = false

/-- The withdrawal has its hold and waits for the worker, who can claim it. -/
structure HeldBack (s : Store) (id : WithdrawalId) : Prop where
  placed : posted s REF_HOLD id
  unreleased : posted s REF_RELEASE id = false
  unfinalised : posted s REF_FINAL id = false
  listed : ∃ row ∈ listByStatus s CHAIN [.approved], row.id = id
  claimable : ∀ signer pid now, ∃ s',
    perform signer pid now (.updateMany id .claimForBroadcast) s = (.ok 1, s')

/-- A claim made while the flag is set takes no row. -/
def claimsUnfrozen (s : Store) : Answered WithdrawalCall WithdrawalCall.Reply Failure → Bool
  | ⟨.updateMany _ .claimForBroadcast, .ok count⟩ => count = 0 || s.withdrawalsFrozen ≠ some true
  | _ => true

def interleaved (pid : WithdrawalId) (call : WithdrawalCall) (x : History)
    (reply : Except Failure call.Reply) (s' : Store) : Prop :=
  Makes pid call x.store reply s'

def heeding (pid : WithdrawalId) (call : WithdrawalCall) (x : History)
    (reply : Except Failure call.Reply) (s' : Store) : Prop :=
  Makes pid call x.store reply s' ∧ claimsUnfrozen x.store ⟨call, reply⟩

structure Heeding (initial : Option Bool) (x : History) : Prop where
  formed : AllWellFormed x
  flag : x.store.withdrawalsFrozen = flagAfter initial x.history
  claimed : ∀ pid row, Claimed row (x.past pid) → startedFrozen initial pid x.history = false
  halted : Halted initial x.history

variable {config : Config} {requests : WithdrawalId → Request} {initial : Option Bool} {x : History}
  {pid id : WithdrawalId} {call : WithdrawalCall} {reply : Except Failure call.Reply} {s s' : Store}
  {row : CryptoWithdrawal} {earlier : Calls}

/-! ## Broadcasts -/

theorem flag_step (effect : Effect pid s ⟨call, reply⟩ s')
    (flag : s.withdrawalsFrozen = flagAfter initial earlier) :
    s'.withdrawalsFrozen = flagAfter initial ((pid, ⟨call, reply⟩) :: earlier) := by
  cases effect with
  | frozen => rfl
  | neutral neutral =>
    cases call with
    | setWithdrawalFreeze => cases neutral
    | _ => exact flag
  | failed => cases call <;> exact flag
  | _ => exact flag

theorem claimed_step (inv : Heeding initial x) (effect : Effect pid x.store ⟨call, reply⟩ s')
    (heeds : claimsUnfrozen x.store ⟨call, reply⟩) (other : WithdrawalId)
    (claimed : Claimed row ((⟨s', (pid, ⟨call, reply⟩) :: x.history⟩ : History).past other)) :
    startedFrozen initial other ((pid, ⟨call, reply⟩) :: x.history) = false := by
  by_cases own : other = pid
  · subst own
    rw [Logged.past_self] at claimed
    change Claimed row (⟨call, reply⟩ :: x.past other) at claimed
    cases claimed with
    | claim listed list effective =>
      have unfrozen : x.store.withdrawalsFrozen ≠ some true := by
        simpa [claimsUnfrozen, effective] using heeds
      simpa [startedFrozen, isClaim, ← inv.flag] using unfrozen
    | neutral claimed neutral =>
      have noClaim : isClaim ⟨call, reply⟩ = false := by
        cases call with
        | updateMany => cases neutral
        | _ => rfl
      simpa [startedFrozen, noClaim] using inv.claimed other row claimed
  · rw [Logged.past_ne _ own] at claimed
    simpa [startedFrozen, Ne.symm own] using inv.claimed other row claimed

theorem halted_step (inv : Heeding initial x) (call' : May config requests pid (x.past pid) call) :
    Halted initial ((pid, ⟨call, reply⟩) :: x.history) := by
  intro later earlier other id signed answer split
  cases later with
  | nil =>
    cases split
    obtain ⟨row, -, claimed⟩ := call'.broadcasting
    exact inv.claimed pid row claimed
  | cons made later =>
    exact inv.halted later earlier other id signed answer (List.cons.inj split).2

theorem heeding_unused (unused : Unused s) : Heeding s.withdrawalsFrozen ⟨s, []⟩ where
  formed := by
    refine ⟨sound_unused unused, fun id row found => ?_⟩
    rw [unused.withdrawals, AList.lookup_empty] at found
    cases found
  flag := rfl
  claimed pid row claimed := by cases claimed
  halted later earlier pid id signed reply split := by simp at split

theorem heeding_step (inv : Heeding initial x) (call' : May config requests pid (x.past pid) call)
    (made : heeding pid call x reply s') :
    Heeding initial ⟨s', (pid, ⟨call, reply⟩) :: x.history⟩ := by
  obtain ⟨makes, heeds⟩ := made
  have effect := call'.effect makes
  exact ⟨wellFormed_step inv.formed call' makes, flag_step effect inv.flag,
    fun other row claimed => claimed_step inv effect heeds other claimed, halted_step inv call'⟩

/-! ## Withdrawals that are held back -/

theorem mem_listByStatus_of {chain : String} {statuses : List WithdrawalStatus}
    (found : s.withdrawals.lookup id = some row) (isChain : row.chain = chain)
    (isStatus : row.status ∈ statuses) : row ∈ listByStatus s chain statuses := by
  unfold listByStatus
  rw [(List.perm_insertionSort _ _).mem_iff, List.mem_filter, List.mem_map]
  exact ⟨⟨(id, row), Table.mem_rows.mpr found, rfl⟩, by simp [isChain, isStatus]⟩

theorem claim_approved (formed : WellFormed row) (found : s.withdrawals.lookup id = some row)
    (approved : row.status = .approved) (signer : Signer) (now : Time) :
    ∃ s', perform signer pid now (.updateMany id .claimForBroadcast) s = (.ok 1, s') := by
  have unsent : row.nonce = none := by
    by_contra isNonce
    have late := formed.nonce (Option.isSome_iff_ne_none.mpr isNonce)
    rw [phase_held (held_of_phase (by omega)), approved] at late
    simp [rank] at late
  have applies : (s.withdrawals.lookup id).filter Change.claimForBroadcast.update.applies = some row :=
    Option.filter_eq_some_iff.mpr ⟨found, by simp [Change.update, claimForBroadcast, approved]⟩
  have net : netChk (Change.claimForBroadcast.update.set row) := netChk_set.trans formed.net
  have dual : dualChk (Change.claimForBroadcast.update.set row) := formed.dual
  have untaken : nonceTaken s (Change.claimForBroadcast.update.set row) = false := by
    simp [nonceTaken, Change.update, claimForBroadcast, unsent]
  have saved : saveRow (Change.claimForBroadcast.update.set row) s =
      .ok (Change.claimForBroadcast.update.set row, s.save (Change.claimForBroadcast.update.set row)) := by
    simp only [saveRow, net, dual, untaken]
    rfl
  exact ⟨s.save (Change.claimForBroadcast.update.set row), by
    simp only [perform, updateMany, applies, saved, Except.map, written]⟩

/-- An approved withdrawal waits for the worker with its hold. -/
theorem heldBack_of_approved (formed : AllWellFormed x)
    (found : x.store.withdrawals.lookup id = some row) (approved : row.status = .approved) :
    HeldBack x.store id := by
  obtain ⟨sound, formed⟩ := formed
  have isRow := sound.row id row found
  have held := isRow.regular.isHeld (by simp [approved])
  have phase : phase row = 2 := by rw [phase_held held, approved]; rfl
  refine ⟨(isRow.held held).1, ?_, ?_, ⟨row, ?_, isRow.keyed⟩, fun signer pid now =>
    claim_approved (formed id row found) found approved signer now⟩
  · by_contra isReleased
    obtain ⟨current, found', -, closed⟩ := sound.released id (by simpa using isReleased)
    cases found.symm.trans found'
    simp [approved] at closed
  · by_contra isFinal
    obtain ⟨current, found', late, -⟩ := sound.finalised id (by simpa using isFinal)
    cases found.symm.trans found'
    omega
  · exact mem_listByStatus_of found (formed id row found).chain (by simp [approved])

/-- An admin has rejected the withdrawal. -/
def RejectedBy (calls : Calls) (id : WithdrawalId) : Prop :=
  ∃ pid adminId reason, (pid, ⟨.updateMany id (.reject adminId reason), .ok 1⟩) ∈ calls

/-- While the flag is set, approved withdrawals stay approved unless rejected. -/
theorem approved_step (inv : Heeding initial x) (call' : May config requests pid (x.past pid) call)
    (made : heeding pid call x reply s') (frozen : x.store.withdrawalsFrozen = some true)
    (found : x.store.withdrawals.lookup id = some row) (approved : row.status = .approved) :
    (∃ new, s'.withdrawals.lookup id = some new ∧ new.status = .approved) ∨
      RejectedBy ((pid, ⟨call, reply⟩) :: x.history) id := by
  obtain ⟨makes, heeds⟩ := made
  have effect := call'.effect makes
  have sound := inv.formed.1
  have held := (sound.row id row found).regular.isHeld (by simp [approved])
  obtain ⟨new, found', -⟩ := sound.evolves call' effect found
  rcases sound.origin effect found' with same | ⟨rfl, fresh, -⟩ | ⟨change, old, applies, rfl, writes⟩
  · cases found.symm.trans same
    exact .inl ⟨row, found', approved⟩
  · cases fresh.symm.trans found
  · cases found.symm.trans applies.found
    have timely := sound.timely call'
      (writes.imp (congrArg Answered.call) (congrArg Answered.call)) applies
    have possible := applies.applies
    cases change with
    | setHold | markRequestFailed => simp [show row.holdTxnId = none from timely] at held
    | setBroadcast => cases approved.symm.trans timely
    | reject adminId reason =>
      rcases writes with made | made <;> cases made
      · cases call'.isBlind
      · exact .inr ⟨pid, adminId, reason, List.mem_cons_self⟩
    | claimForBroadcast =>
      rcases writes with made | made <;> cases made
      · cases call'.isBlind
      · simp [claimsUnfrozen, frozen] at heeds
    | markFailed reason =>
      rcases writes with made | made <;> cases made
      · cases call'.isBlind
      · obtain ⟨listed, rfl, failing⟩ := call'.failing
        rcases failing.cases with working | ⟨status, reported, -⟩
        · obtain ⟨current, isCurrent, signing⟩ := sound.working pid listed working
          cases found.symm.trans isCurrent
          cases approved.symm.trans signing
        · obtain ⟨late, -, -, current, isCurrent, evolves⟩ := sound.reported reported fun _ member => member
          cases found.symm.trans isCurrent
          have forward := evolves.forward
          rw [phase_held held, approved] at forward
          simp [rank] at forward
          omega
    | _ =>
      simp [Change.update, firstApprove, approveSmall, secondApprove, setConfirming, markCompleted,
        approved] at possible

variable {pool pool' : WithdrawalPool} {s₀ : Store}

/-- A step taken while the flag is set. -/
def FrozenStep (config : Config) (requests : WithdrawalId → Request) (pool pool' : WithdrawalPool) :
    Prop :=
  pool.store.store.withdrawalsFrozen = some true ∧
    Pool.Step (Logged.protocol heeding) (IsRequest config requests) pool pool'

theorem run_heeding (unused : Unused s₀)
    (run : Logged.Run heeding (IsRequest config requests) (· = s₀) pool) :
    Heeding s₀.withdrawalsFrozen pool.store := by
  refine run.inv (fun _ _ isRequest => isRequest_obeys isRequest) (fun s initial => ?_)
    fun _ _ _ _ _ inv call' => heeding_step inv call'.1
  subst initial
  exact heeding_unused unused

theorem run_approved (unused : Unused s₀)
    (run : Logged.Run heeding (IsRequest config requests) (· = s₀) pool)
    (later : Relation.ReflTransGen (FrozenStep config requests) pool pool')
    (found : pool.store.store.withdrawals.lookup id = some row) (approved : row.status = .approved) :
    Logged.Run heeding (IsRequest config requests) (· = s₀) pool' ∧
      ((∃ new, pool'.store.store.withdrawals.lookup id = some new ∧ new.status = .approved) ∨
        RejectedBy pool'.store.history id) := by
  induction later with
  | refl => exact ⟨run, .inl ⟨row, found, approved⟩⟩
  | @tail mid last before step ih =>
    obtain ⟨reached, outcome⟩ := ih
    obtain ⟨frozen, step⟩ := step
    refine ⟨reached.step step, ?_⟩
    rcases (run_orderly reached).made step with same | ⟨pid, call, reply, s', call', made, grown⟩
    · rwa [same]
    · rw [grown]
      rcases outcome with ⟨current, isCurrent, approved⟩ | ⟨admin, adminId, reason, member⟩
      · exact approved_step (run_heeding unused reached) call'.1 made frozen isCurrent approved
      · exact .inr ⟨admin, adminId, reason, List.mem_cons_of_mem _ member⟩

/-- In every run whose claims heed the flag, no broadcast is made by a
`broadcastWithdrawal` that started while the flag was set; and whatever is
approved keeps its hold and can be claimed afterwards, unless an admin rejects
it. -/
theorem freeze_stops_broadcasts (unused : Unused s₀)
    (run : Logged.Run heeding (IsRequest config requests) (· = s₀) pool) :
    Halted s₀.withdrawalsFrozen pool.store.history ∧
      ∀ pool' id row, Relation.ReflTransGen (FrozenStep config requests) pool pool' →
        pool.store.store.withdrawals.lookup id = some row → row.status = .approved →
          HeldBack pool'.store.store id ∨ RejectedBy pool'.store.history id := by
  refine ⟨(run_heeding unused run).halted, fun pool' id row later found approved => ?_⟩
  obtain ⟨reached, outcome⟩ := run_approved unused run later found approved
  exact outcome.imp_left fun ⟨current, isCurrent, approved⟩ =>
    heldBack_of_approved (run_heeding unused reached).formed isCurrent approved

private def frozenRequests : WithdrawalId → Request
  | 1 => .requestWithdrawal 1 tenUsdt
  | 2 => .approve 1 (some 7)
  | 3 => .setWithdrawalFreeze true
  | _ => .broadcastCycle

/-- Withdrawal 1 is approved before the flag is set. -/
theorem freeze_stops_broadcasts_approved : ∃ x : History,
    x.store.withdrawalsFrozen = some true ∧ Halted smallBank.withdrawalsFrozen x.history ∧
      (HeldBack x.store 1 ∨ RejectedBy x.history 1) := by
  have played : (schedule (fun _ => mockSigner ⟨true, 20, true⟩) (fun _ _ => false)
      (fun _ call x reply => claimsUnfrozen x.store ⟨call, reply⟩) frozenRequests [1, 2, 3]
      [(1, 20), (2, 10), (3, 1)]).map (fun pool => (pool.store.store.withdrawalsFrozen,
        (pool.store.store.withdrawals.lookup 1).map CryptoWithdrawal.status)) =
      some (some true, some .approved) := by decide +kernel
  obtain ⟨pool, scheduled, facts⟩ := Option.map_eq_some_iff.mp played
  simp only [Prod.mk.injEq] at facts
  obtain ⟨row, found, approved⟩ := Option.map_eq_some_iff.mp facts.2
  have run : Logged.Run heeding (IsRequest smallConfig frozenRequests) (· = smallBank) pool :=
    schedule_run rfl (fun _ _ _ _ _ heeds makes => ⟨makes, heeds⟩) scheduled
  obtain ⟨halted, kept⟩ := freeze_stops_broadcasts smallBank_unused run
  exact ⟨pool.store, facts.1, halted, kept pool 1 row .refl found approved⟩

private def isBroadcast (made : WithdrawalId × Answered WithdrawalCall WithdrawalCall.Reply Failure) :
    Bool :=
  match made with
  | (4, ⟨.broadcast _ _, _⟩) => true
  | _ => false

/-- The flag is set before the worker's cycle starts, and withdrawal 1 is
broadcast all the same. -/
theorem frozen_broadcast : ¬∀ pool : WithdrawalPool,
    Logged.Run interleaved (IsRequest smallConfig frozenRequests) (· = smallBank) pool →
      Halted smallBank.withdrawalsFrozen pool.store.history := by
  intro halted
  have played : (schedule (fun _ => mockSigner ⟨true, 20, true⟩) (fun _ _ => false)
      (fun _ _ _ _ => true) frozenRequests [1, 2, 3, 4] [(1, 20), (2, 10), (3, 1), (4, 8)]).map
        (fun pool => (pool.store.history.head?.any isBroadcast,
          startedFrozen none 4 pool.store.history.tail)) = some (true, true) := by decide +kernel
  obtain ⟨pool, scheduled, facts⟩ := Option.map_eq_some_iff.mp played
  simp only [Prod.mk.injEq] at facts
  have unbroken := halted pool (schedule_run rfl (fun _ _ _ _ _ _ makes => makes) scheduled)
  cases calls : pool.store.history with
  | nil => simp [calls] at facts
  | cons made earlier =>
    simp only [calls, List.head?_cons, Option.any_some, List.tail_cons, isBroadcast] at facts
    obtain ⟨sent, frozen⟩ := facts
    split at sent
    · cases frozen.symm.trans (unbroken [] earlier 4 _ _ _ calls)
    · cases sent

end Exchange.Withdrawal.Freeze
