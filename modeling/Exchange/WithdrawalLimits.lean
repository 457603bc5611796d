import Exchange.WithdrawalProgress

/-! The daily limit. A request reads what its user has withdrawn since midnight,
compares, and creates its row later; what other requests of the user create in
between is not in the sum it has read. -/
namespace Exchange.Withdrawal.Limits
open Ledger Service SignificantDigits

/-- The row counts towards its user's limit on the day that starts then. -/
def countsOn (userId : UserId) (day : Time) (row : CryptoWithdrawal) : Bool :=
  row.userId = userId && citext row.asset = citext ASSET && startOfDay row.requestedAt = day &&
    row.status ∉ NON_COUNTING_STATUSES

/-- What a user withdraws on one UTC day. -/
def dayTotal (s : Store) (userId : UserId) (day : Time) : Decimal :=
  s.withdrawals.total fun _ row => if countsOn userId day row then row.amount else 0

/-- No user withdraws more on one day than the tier allows; a negative limit
allows nothing. -/
def WithinLimits (s : Store) : Prop :=
  ∀ userId user usdtDailyWithdrawal day, s.users userId = some user →
    (s.tierLimits user.kycTier).join = some usdtDailyWithdrawal →
      dayTotal s userId day ≤ max 0 usdtDailyWithdrawal

/-- The sum a request has read covers the day on which it creates its row, and
adding the amount to it is not rounded down; a hold is not bound to a row that
did not count. -/
def readsCurrent (x : History) (pid : WithdrawalId) :
    Answered WithdrawalCall WithdrawalCall.Reply Failure → Bool
  | ⟨.createWithdrawal data, .ok row⟩ => (x.past pid).all fun made =>
    match made with
    | ⟨.sumTodayWithdrawals _ _, .ok today⟩ =>
      dayTotal x.store data.userId (startOfDay row.requestedAt) ≤ today &&
        today + data.amount ≤ today.add data.amount
    | _ => true
  | ⟨.update id (.setHold _), .ok _⟩ =>
    (x.store.withdrawals.lookup id).all fun row => row.status ∉ NON_COUNTING_STATUSES
  | _ => true

def interleaved (pid : WithdrawalId) (call : WithdrawalCall) (x : History)
    (reply : Except Failure call.Reply) (s' : Store) : Prop :=
  Makes pid call x.store reply s'

def current (pid : WithdrawalId) (call : WithdrawalCall) (x : History)
    (reply : Except Failure call.Reply) (s' : Store) : Prop :=
  Makes pid call x.store reply s' ∧ readsCurrent x pid ⟨call, reply⟩

structure Limited (x : History) : Prop where
  sound : Sound x
  nonneg : ∀ id row, x.store.withdrawals.lookup id = some row → 0 ≤ row.amount
  users : ∀ pid userId found, (pid, ⟨.findUserKyc userId, .ok found⟩) ∈ x.history →
    found = x.store.users userId
  limits : ∀ pid kycTier limit, (pid, ⟨.getTierLimit kycTier, .ok limit⟩) ∈ x.history →
    limit = x.store.tierLimits kycTier
  within : WithinLimits x.store

variable {config : Config} {requests : WithdrawalId → Request} {x : History} {pid id : WithdrawalId}
  {call : WithdrawalCall} {reply : Except Failure call.Reply} {s s' : Store}
  {row : CryptoWithdrawal} {change : Change} {past : Past} {userId : UserId} {day now : Time}

theorem limited_unused (unused : Unused s) : Limited ⟨s, []⟩ where
  sound := sound_unused unused
  nonneg id row found := by
    rw [unused.withdrawals, AList.lookup_empty] at found
    cases found
  users := by simp
  limits := by simp
  within userId user usdtDailyWithdrawal day _ _ := by
    have nothing : dayTotal s userId day = 0 := Table.total_eq_zero fun key row found => by
      rw [unused.withdrawals, AList.lookup_empty] at found
      cases found
    rw [nothing]
    exact le_max_left 0 usdtDailyWithdrawal

/-! ## A new row -/

/-- A row is created for an amount that was within the limit when the sum was
read. -/
theorem Limited.created (inv : Limited x) {data : NewWithdrawal}
    (call' : May config requests pid (x.past pid) (.createWithdrawal data))
    (reads : readsCurrent x pid ⟨.createWithdrawal data, .ok (newRow pid now data)⟩)
    {user : UserKyc} {usdtDailyWithdrawal : Decimal} (isUser : x.store.users data.userId = some user)
    (isLimit : (x.store.tierLimits user.kycTier).join = some usdtDailyWithdrawal) :
    dayTotal x.store data.userId (startOfDay now) + data.amount ≤ usdtDailyWithdrawal := by
  generalize isPast : x.past pid = past at call'
  cases call' with
  | neutral neutral => cases neutral
  | @create userId input net _ request isNet neutral limit =>
    obtain ⟨user', limit, foundUser, foundLimit, checked⟩ := limit
    rw [← isPast, Logged.mem_past] at foundUser foundLimit
    obtain rfl : user' = user := Option.some.inj ((inv.users pid _ _ foundUser).trans isUser)
    obtain rfl := inv.limits pid _ _ foundLimit
    obtain ⟨today, summed, allowed⟩ := checked usdtDailyWithdrawal isLimit
    have covers := List.all_eq_true.mp reads _ (isPast ▸ summed)
    simp only [Bool.and_eq_true, decide_eq_true_eq] at covers
    obtain ⟨covered, exact⟩ := covers
    calc dayTotal x.store userId (startOfDay now) + input.amount ≤ today + input.amount := by
          gcongr
          exact covered
      _ ≤ today.add input.amount := exact
      _ ≤ usdtDailyWithdrawal := allowed

theorem amount_stored {data : NewWithdrawal}
    (call' : May config requests pid past (.createWithdrawal data)) :
    (newRow pid now data).amount = data.amount ∧ 0 ≤ data.amount := by
  cases call' with
  | neutral neutral => cases neutral
  | @create userId input =>
    refine ⟨Numeric.rounded_of_onGrid (input.valid.2.mono ?_), input.valid.1.le⟩
    norm_num [Numeric.scale]

theorem dayTotal_created {data : NewWithdrawal} (fresh : s.withdrawals.lookup pid = none) :
    dayTotal (s.save (newRow pid now data)) userId day = dayTotal s userId day +
      if countsOn userId day (newRow pid now data) then (newRow pid now data).amount else 0 :=
  Table.total_insert_new fresh _

/-! ## A changed row -/

@[simp] theorem amount_set : (change.update.set row).amount = row.amount := by
  cases change <;> rfl

/-- Apart from binding a hold, no change makes a row count. -/
theorem counts_before (timely : Timely change row) (applies : change.update.applies row)
    (binds : ∀ holdTxnId, change = .setHold holdTxnId → row.status ∉ NON_COUNTING_STATUSES)
    (counting : countsOn userId day (change.update.set row)) : countsOn userId day row := by
  have isCounting : row.status ∉ NON_COUNTING_STATUSES := by
    cases change with
    | setHold holdTxnId => exact binds holdTxnId rfl
    | setBroadcast data => simp [show row.status = .signing from timely, NON_COUNTING_STATUSES]
    | markRequestFailed reason =>
      simp [countsOn, Change.update, markRequestFailed, NON_COUNTING_STATUSES] at counting
    | _ =>
      intro idle
      simp only [NON_COUNTING_STATUSES, List.mem_cons, List.not_mem_nil, or_false] at idle
      rcases idle with isStatus | isStatus | isStatus <;>
        simp [Change.update, firstApprove, approveSmall, secondApprove, reject, claimForBroadcast,
          setConfirming, markCompleted, markFailed, isStatus] at applies
  have same : (change.update.set row).userId = row.userId ∧ (change.update.set row).asset = row.asset ∧
      (change.update.set row).requestedAt = row.requestedAt := by
    cases change <;> exact ⟨rfl, rfl, rfl⟩
  simp only [countsOn, same, Bool.and_eq_true, decide_eq_true_eq] at counting ⊢
  exact ⟨counting.1, isCounting⟩

theorem dayTotal_changed (found : s.withdrawals.lookup row.id = some row) (nonneg : 0 ≤ row.amount)
    (before : countsOn userId day (change.update.set row) → countsOn userId day row) :
    dayTotal (s.save (change.update.set row)) userId day ≤ dayTotal s userId day := by
  have total := Table.total_insert s.withdrawals row.id (change.update.set row)
    fun _ row => if countsOn userId day row then row.amount else 0
  have saved : dayTotal (s.save (change.update.set row)) userId day = dayTotal s userId day -
      (if countsOn userId day row then row.amount else 0) +
        if countsOn userId day (change.update.set row) then row.amount else 0 := by
    rw [found] at total
    rw [dayTotal, Store.save, Change.set_id, total, amount_set]
    rfl
  rw [saved]
  by_cases now : countsOn userId day (change.update.set row)
  · simp [now, before now]
  · by_cases then' : countsOn userId day row
    · simp only [now, then', if_true]
      simpa using nonneg
    · simp [now, then']

/-! ## Runs -/

private theorem within_step (inv : Limited x) (call' : May config requests pid (x.past pid) call)
    (effect : Effect pid x.store ⟨call, reply⟩ s') (reads : readsCurrent x pid ⟨call, reply⟩) :
    WithinLimits s' := by
  intro userId user usdtDailyWithdrawal day isUser isLimit
  rw [effect.limits.1] at isUser
  rw [effect.limits.2] at isLimit
  have before := inv.within userId user usdtDailyWithdrawal day isUser isLimit
  rcases effect.rows with same | ⟨now, data, made, fresh, rfl⟩ |
    ⟨target, change, old, applies, rfl, writes⟩
  · rwa [dayTotal, same]
  · cases made
    rw [dayTotal_created fresh]
    have stored : (newRow pid now data).amount = data.amount := (amount_stored call').1
    by_cases counting : countsOn userId day (newRow pid now data)
    · rw [if_pos counting, stored]
      simp only [countsOn, newRow, Bool.and_eq_true] at counting
      obtain ⟨⟨⟨isSame, -⟩, isDay⟩, -⟩ := counting
      obtain rfl := of_decide_eq_true isSame
      obtain rfl := of_decide_eq_true isDay
      exact (inv.created call' reads isUser isLimit).trans (le_max_right 0 usdtDailyWithdrawal)
    · rwa [if_neg counting, add_zero]
  · have keyed := (inv.sound.row _ _ applies.found).keyed
    have timely := inv.sound.timely call'
      (writes.imp (congrArg Answered.call) (congrArg Answered.call)) applies
    refine (dayTotal_changed (keyed.symm ▸ applies.found) (inv.nonneg _ _ applies.found)
      (counts_before timely applies.applies ?_)).trans before
    rintro holdTxnId rfl
    rcases writes with made | made <;> cases made
    · simpa [readsCurrent, applies.found] using reads
    · cases call'.isGuarded

theorem limited_step (inv : Limited x) (call' : May config requests pid (x.past pid) call)
    (made : current pid call x reply s') : Limited ⟨s', (pid, ⟨call, reply⟩) :: x.history⟩ := by
  obtain ⟨makes, reads⟩ := made
  have effect := call'.effect makes
  refine ⟨sound_step inv.sound call' makes, fun id row found => ?_, fun other userId user member => ?_,
    fun other kycTier limit member => ?_, within_step inv call' effect reads⟩
  · rcases inv.sound.origin effect found with before | ⟨rfl, -, now, data, rfl, made⟩ |
      ⟨change, old, applies, rfl, -⟩
    · exact inv.nonneg id row before
    · cases made
      obtain ⟨stored, nonneg⟩ : (newRow id now data).amount = data.amount ∧ 0 ≤ data.amount :=
        amount_stored call'
      exact stored.symm ▸ nonneg
    · rw [amount_set]
      exact inv.nonneg id old applies.found
  · rw [effect.limits.1]
    rcases List.mem_cons.mp member with same | member
    · cases same
      exact makes.findUserKyc
    · exact inv.users other userId user member
  · rw [effect.limits.2]
    rcases List.mem_cons.mp member with same | member
    · cases same
      exact makes.getTierLimit
    · exact inv.limits other kycTier limit member

/-- In every run whose requests create their rows while the sums they have read
still cover the day, no user exceeds the daily limit. -/
theorem within_limits {pool : WithdrawalPool}
    (run : Logged.Run current (IsRequest config requests) Unused pool) :
    WithinLimits pool.store.store :=
  (run.inv (fun _ _ isRequest => isRequest_obeys isRequest) (fun _ => limited_unused)
    fun _ _ _ _ _ inv call' => limited_step inv call'.1).within

private def thirtyEach : WithdrawalId → Request :=
  fun _ => .requestWithdrawal 1 (wholeUsdt 30 (by omega))

/-- User 1 withdraws 30 USDT of 50; the next request is refused. -/
theorem within_limits_thirty : ∃ s : Store, dayTotal s 1 0 = 30 ∧ WithinLimits s := by
  have played : (schedule (fun _ => mockSigner ⟨true, 20, true⟩) (fun _ _ => false)
      (fun pid call x reply => readsCurrent x pid ⟨call, reply⟩) thirtyEach [1, 2]
      [(1, 20), (2, 20)]).map (fun pool => dayTotal pool.store.store 1 0) = some 30 := by
    decide +kernel
  obtain ⟨pool, scheduled, total⟩ := Option.map_eq_some_iff.mp played
  have run : Logged.Run current (IsRequest smallConfig thirtyEach) Unused pool :=
    schedule_run smallBank_unused (fun _ _ _ _ _ reads makes => ⟨makes, reads⟩) scheduled
  exact ⟨pool.store.store, total, within_limits run⟩

/-- Both requests read the sum before either creates its row. -/
theorem sixty_of_fifty : ¬∀ pool : WithdrawalPool,
    Logged.Run interleaved (IsRequest smallConfig thirtyEach) Unused pool →
      WithinLimits pool.store.store := by
  intro within
  have played : (schedule (fun _ => mockSigner ⟨true, 20, true⟩) (fun _ _ => false)
      (fun _ _ _ _ => true) thirtyEach [1, 2] [(1, 7), (2, 20), (1, 20)]).map (fun pool =>
        ((pool.store.store.users 1, pool.store.store.tierLimits 1), dayTotal pool.store.store 1 0)) =
      some ((some ⟨.active, .approved, 1, false⟩, some (some 50)), 60) := by decide +kernel
  obtain ⟨pool, scheduled, facts⟩ := Option.map_eq_some_iff.mp played
  simp only [Prod.mk.injEq] at facts
  obtain ⟨⟨isUser, isLimit⟩, total⟩ := facts
  have bound := within pool (schedule_run smallBank_unused (fun _ _ _ _ _ _ makes => makes) scheduled)
    1 _ 50 0 isUser (by rw [isLimit]; rfl)
  rw [total] at bound
  norm_num at bound

end Exchange.Withdrawal.Limits
