import Exchange.MonitoringSweep

/-! Coverage of a sweep. Its queries return a bounded number of rows, those for
the users one for each movement and not for each user, and deposits are
selected by when they were detected though they count from their credit. -/
namespace Exchange.Compliance.Sweep
open Async Service

/-! ## What there is to monitor -/

def withdrawalRows (userId : UserId) (since : Time) (s : Store) : List CryptoWithdrawal :=
  s.movements.cryptoWithdrawals.filter fun w => w.userId = userId && since ≤ w.requestedAt

/-- A deposit is of the window if it was detected or credited in it. -/
def isRecentDeposit (since : Time) (d : CryptoDeposit) : Bool :=
  since ≤ d.detectedAt || d.creditedAt.any fun time => since ≤ time

def depositRows (userId : UserId) (since : Time) (s : Store) : List CryptoDeposit :=
  s.movements.cryptoDeposits.filter fun d => d.userId = some userId && isRecentDeposit since d

def inrRows (userId : UserId) (since : Time) (s : Store) : List InrTransaction :=
  s.movements.inrTransactions.filter fun t => t.userId = userId && since ≤ t.createdAt

def tradeRows (userId : UserId) (since : Time) (s : Store) : List Trade :=
  s.movements.trades.filter fun t => (t.makerUserId = userId || t.takerUserId = userId) && since ≤ t.executedAt

/-- All the rows, latest first. -/
def latest {α : Type} (time : α → Time) (rows : List α) : List α := rows.insertionSort fun a b => time b ≤ time a

/-- What the rules find in all that a user did in the window. -/
def completeCandidates (config : Config) (now : Time) (s : Store) (userId : UserId) : List AlertCandidate :=
  evaluateRules (snapshotOf userId
    (activityOf (latest CryptoWithdrawal.requestedAt (withdrawalRows userId (windowStart config now) s))
      (latest CryptoDeposit.detectedAt (depositRows userId (windowStart config now) s))
      (latest InrTransaction.createdAt (inrRows userId (windowStart config now) s))
      (latest Trade.executedAt (tradeRows userId (windowStart config now) s)))
    (s.profiles.lookup userId) now) config.monitoring

/-- The user has moved money or traded in the window. -/
def Active (userId : UserId) (since : Time) (s : Store) : Prop :=
  withdrawalRows userId since s ≠ [] ∨ depositRows userId since s ≠ [] ∨ inrRows userId since s ≠ [] ∨
    tradeRows userId since s ≠ []

/-- The queries drop no user and no event. -/
structure NothingDropped (since : Time) (s : Store) : Prop where
  users : ∀ userId, Active userId since s → userId ∈ recentUsers since s
  withdrawals : ∀ userId, Active userId since s →
    withdrawalsOf userId since s = latest CryptoWithdrawal.requestedAt (withdrawalRows userId since s)
  deposits : ∀ userId, Active userId since s →
    depositsOf userId since s = latest CryptoDeposit.detectedAt (depositRows userId since s)
  inrTransactions : ∀ userId, Active userId since s →
    inrTransactionsOf userId since s = latest InrTransaction.createdAt (inrRows userId since s)
  trades : ∀ userId, Active userId since s → tradesOf userId since s = latest Trade.executedAt (tradeRows userId since s)

/-- Every active user has an alert for what the rules find, and what is new
besides is nobody's. -/
structure AlertsExact (config : Config) (now : Time) (s s' : Store) : Prop where
  raised : ∀ userId, Active userId (windowStart config now) s → ∀ c ∈ completeCandidates config now s userId,
    (s'.alerts.lookup c.dedupeKey).isSome
  only : ∀ key alert, s.alerts.lookup key = none → s'.alerts.lookup key = some alert →
    Active alert.userId (windowStart config now) s ∧
      ∃ c ∈ completeCandidates config now s alert.userId, c.dedupeKey = key ∧ IsOf alert.userId c alert

/-- The sweep does what the rules say of all there is. -/
def Complete (config : Config) (world : World) (s : Store) : Prop :=
  NothingDropped (windowStart config world.now) s ∧ AlertsExact config world.now s (after world (runAll config) s)

/-! ## Bounds -/

/-- The users of the rows in the window, of each of the five queries. -/
def userRows (since : Time) (s : Store) : List (List UserId) :=
  [(s.movements.cryptoWithdrawals.filter fun w => since ≤ w.requestedAt).map CryptoWithdrawal.userId,
    (s.movements.cryptoDeposits.filter fun d => since ≤ d.detectedAt).filterMap CryptoDeposit.userId,
    (s.movements.inrTransactions.filter fun t => since ≤ t.createdAt).map InrTransaction.userId,
    (s.movements.trades.filter fun t => since ≤ t.executedAt).map Trade.makerUserId,
    (s.movements.trades.filter fun t => since ≤ t.executedAt).map Trade.takerUserId]

/-- An active user has few enough rows, is early enough in one of the tables, and
has no deposit that was detected before the window and credited in it. -/
structure Bounded (userId : UserId) (since : Time) (s : Store) : Prop where
  listed : ∃ rows ∈ userRows since s, userId ∈ rows ∧ rows.idxOf userId < USERS_LIMIT
  withdrawals : (withdrawalRows userId since s).length ≤ 500
  deposits : (depositRows userId since s).length ≤ 500
  inrTransactions : (inrRows userId since s).length ≤ 500
  trades : (tradeRows userId since s).length ≤ 1000
  detected : ∀ d ∈ depositRows userId since s, since ≤ d.detectedAt

variable {config : Config} {world : World} {userId : UserId} {since : Time} {s s' : Store}

theorem latestFirst_eq {α : Type} {time : α → Time} {limit : ℕ} {rows : List α} :
    latestFirst time limit rows = latest time rows ↔ rows.length ≤ limit := by
  change (latest time rows).take limit = latest time rows ↔ _
  rw [List.take_eq_self_iff, latest, List.length_insertionSort]

theorem mem_recentUsers : userId ∈ recentUsers since s ↔
    ∃ rows ∈ userRows since s, userId ∈ rows ∧ rows.idxOf userId < USERS_LIMIT := by
  have taken : ∀ rows : List UserId, userId ∈ rows.take USERS_LIMIT ↔ userId ∈ rows ∧ rows.idxOf userId < USERS_LIMIT := by
    intro rows
    constructor
    · intro member
      have isRow := List.mem_of_mem_take member
      exact ⟨isRow, (List.mem_take_iff_idxOf_lt isRow).mp member⟩
    · rintro ⟨isRow, early⟩
      exact (List.mem_take_iff_idxOf_lt isRow).mpr early
  simp only [← taken]
  simp [recentUsers, recentWithdrawers, recentDepositors, recentInrUsers, recentMakers, recentTakers, userRows]

/-- A sweep takes active users only. -/
theorem active_of_mem (member : userId ∈ recentUsers since s) : Active userId since s := by
  obtain ⟨rows, isRows, isRow, -⟩ := mem_recentUsers.mp member
  simp only [userRows, List.mem_cons, List.not_mem_nil, or_false] at isRows
  rcases isRows with rfl | rfl | rfl | rfl | rfl
  · obtain ⟨w, isRecent, rfl⟩ := List.mem_map.mp isRow
    obtain ⟨isW, recent⟩ := List.mem_filter.mp isRecent
    exact .inl (List.ne_nil_of_mem (List.mem_filter.mpr ⟨isW, by simpa using recent⟩))
  · obtain ⟨d, isRecent, isUser⟩ := List.mem_filterMap.mp isRow
    obtain ⟨isD, recent⟩ := List.mem_filter.mp isRecent
    refine .inr (.inl (List.ne_nil_of_mem (List.mem_filter.mpr ⟨isD, ?_⟩)))
    rw [isUser, isRecentDeposit, recent]
    simp
  · obtain ⟨t, isRecent, rfl⟩ := List.mem_map.mp isRow
    obtain ⟨isT, recent⟩ := List.mem_filter.mp isRecent
    exact .inr (.inr (.inl (List.ne_nil_of_mem (List.mem_filter.mpr ⟨isT, by simpa using recent⟩))))
  · obtain ⟨t, isRecent, rfl⟩ := List.mem_map.mp isRow
    obtain ⟨isT, recent⟩ := List.mem_filter.mp isRecent
    exact .inr (.inr (.inr (List.ne_nil_of_mem (List.mem_filter.mpr ⟨isT, by simpa using recent⟩))))
  · obtain ⟨t, isRecent, rfl⟩ := List.mem_map.mp isRow
    obtain ⟨isT, recent⟩ := List.mem_filter.mp isRecent
    exact .inr (.inr (.inr (List.ne_nil_of_mem (List.mem_filter.mpr ⟨isT, by simpa using recent⟩))))

/-- The deposits that the query selects are those of the window that were
detected in it. -/
theorem depositsOf_eq : depositsOf userId since s = latest CryptoDeposit.detectedAt (depositRows userId since s) ↔
    (∀ d ∈ depositRows userId since s, since ≤ d.detectedAt) ∧ (depositRows userId since s).length ≤ 500 := by
  have selected : (∀ d ∈ depositRows userId since s, since ≤ d.detectedAt) →
      (s.movements.cryptoDeposits.filter fun d => d.userId = some userId && since ≤ d.detectedAt) =
        depositRows userId since s := by
    intro detected
    refine List.filter_congr fun d isD => ?_
    by_cases isRow : d.userId = some userId ∧ isRecentDeposit since d
    · have recent := detected d (List.mem_filter.mpr ⟨isD, by simpa using isRow⟩)
      simp [isRow, recent]
    · by_cases recent : since ≤ d.detectedAt
      · simp [isRecentDeposit, recent]
      · by_cases isUser : d.userId = some userId
        · have quiet : isRecentDeposit since d = false := by simpa [isUser] using isRow
          simp [recent, quiet]
        · simp [isUser]
  constructor
  · intro same
    have detected : ∀ d ∈ depositRows userId since s, since ≤ d.detectedAt := by
      intro d isRow
      have isTaken : d ∈ depositsOf userId since s := same ▸ (List.mem_insertionSort _).mpr isRow
      have isSorted := List.mem_of_mem_take isTaken
      have isSelected := (List.mem_filter.mp ((List.mem_insertionSort _).mp isSorted)).2
      simp only [Bool.and_eq_true, decide_eq_true_eq] at isSelected
      exact isSelected.2
    rw [depositsOf, selected detected, latestFirst_eq] at same
    exact ⟨detected, same⟩
  · rintro ⟨detected, few⟩
    rw [depositsOf, selected detected, latestFirst_eq]
    exact few

/-! ## Complete sweeps -/

theorem nothingDropped_iff : NothingDropped since s ↔ ∀ userId, Active userId since s → Bounded userId since s := by
  constructor
  · intro nothing userId active
    obtain ⟨detected, few⟩ := depositsOf_eq.mp (nothing.deposits userId active)
    exact ⟨mem_recentUsers.mp (nothing.users userId active), latestFirst_eq.mp (nothing.withdrawals userId active), few,
      latestFirst_eq.mp (nothing.inrTransactions userId active), latestFirst_eq.mp (nothing.trades userId active), detected⟩
  · intro bounded
    refine ⟨fun userId active => ?_, fun userId active => ?_, fun userId active => ?_, fun userId active => ?_,
      fun userId active => ?_⟩
    · exact mem_recentUsers.mpr (bounded userId active).listed
    · exact latestFirst_eq.mpr (bounded userId active).withdrawals
    · exact depositsOf_eq.mpr ⟨(bounded userId active).detected, (bounded userId active).deposits⟩
    · exact latestFirst_eq.mpr (bounded userId active).inrTransactions
    · exact latestFirst_eq.mpr (bounded userId active).trades

theorem candidates_complete {now : Time} (nothing : NothingDropped (windowStart config now) s)
    (active : Active userId (windowStart config now) s) :
    candidatesOn config now s userId = completeCandidates config now s userId := by
  rw [candidatesOn, completeCandidates, nothing.withdrawals userId active, nothing.deposits userId active,
    nothing.inrTransactions userId active, nothing.trades userId active]

/-- A sweep that drops nothing raises what there is to raise. -/
theorem exact_of_nothingDropped (nothing : NothingDropped (windowStart config world.now) s) :
    AlertsExact config world.now s (after world (runAll config) s) := by
  obtain ⟨s', ran, sweeps⟩ := @runAll_sweeps config world s
  rw [after, ran]
  constructor
  · intro userId active c isFound
    rw [← candidates_complete nothing active] at isFound
    exact sweeps.there userId (nothing.users userId active) c isFound
  · intro key alert missing found
    obtain ⟨userId, member, c, isFound, isKey, isOf⟩ := sweeps.new key alert missing found
    have active := active_of_mem member
    rw [candidates_complete nothing active] at isFound
    cases isOf.user
    exact ⟨active, c, isFound, isKey, isOf⟩

/-- A sweep is complete just when every active user is within the bounds of the
queries. -/
theorem sweep_complete_iff : Complete config world s ↔
    ∀ userId, Active userId (windowStart config world.now) s → Bounded userId (windowStart config world.now) s := by
  rw [Complete, nothingDropped_iff]
  constructor
  · exact fun complete => complete.1
  · exact fun bounded => ⟨bounded, exact_of_nothingDropped (nothingDropped_iff.mpr bounded)⟩

/-! ## A user behind 500 rows -/

def monitoringConfig : Config where
  risk := ⟨true, true, .medium⟩
  monitoring := ⟨7, 10000, 3, 60, 10000, 3, 100000⟩

def noon : World := ⟨43200000, .passed, [], ⟨.low, .clear, 0⟩⟩

/-- User 1 withdraws 500 times, user 2 once and much. -/
def crowded : Store :=
  { Store.ofUsers [1, 2] with
    movements := ⟨(List.range 500).map (fun i => ⟨i, 1, 10, .completed, 43000000⟩) ++
      [⟨500, 2, 50000, .completed, 43000000⟩], [], [], []⟩ }

/-- The withdrawal of user 2 raises nothing. -/
theorem crowded_out : ¬AlertsExact monitoringConfig noon.now crowded (after noon (runAll monitoringConfig) crowded) := by
  intro isExact
  have missing : ((after noon (runAll monitoringConfig) crowded).alerts.lookup (.highValueWithdrawal 500)).isNone := by
    decide +kernel
  have active : Active 2 (windowStart monitoringConfig noon.now) crowded := .inl (by decide +kernel)
  have found : candidate .highValueWithdrawal (.highValueWithdrawal 500) 100 ∈
      completeCandidates monitoringConfig noon.now crowded 2 := by
    decide +kernel
  have raised := isExact.raised 2 active _ found
  rw [candidate, Option.isNone_iff_eq_none.mp missing] at raised
  cases raised

end Exchange.Compliance.Sweep
