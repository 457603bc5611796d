import Exchange.AsyncPairs
import Exchange.ConversionRecords
import Exchange.LedgerFees

/-! The fees of conversions. The posting of a conversion credits its fee, and the
row that records it is the next thing its request writes. -/
namespace Exchange.Conversions.Fees
open Ledger Async Service SignificantDigits

/-- What a conversion has charged. -/
def chargesOf (row : Conversion) : Charges := [(INR, row.economics.feeInr)]

def planCharges (plan : ConversionPlan) : Charges := [(INR, plan.feeInr)]

/-! ## What a request does -/

/-- A posting is recorded next, and a plan's fee is in paise. -/
def pairing : Pairing ConversionCall ConversionCall.Reply Failure where
  may _ call := match call with
    | .setSnapshot snapshot _ => OnGrid 2 snapshot.plan.feeInr
    | _ => True
  opens call _ := match call with
    | .post _ => True
    | _ => False
  closes call _ second := match call with
    | .post input => ∃ data, input.referenceId = some data.quoteId ∧ second = .createConversion data
    | _ => False

variable {config : Config} {past : Past} {userId : UserId} {quoteId : QuoteId} {plan : ConversionPlan}

/-- A reading. -/
theorem whole_neutral {call : ConversionCall} (neutral : call.isNeutral) (free : ¬pairing.Midway past) :
    pairing.Whole past (ask call) := by
  cases call with
  | createQuote => cases neutral
  | setSnapshot => cases neutral
  | getDelSnapshot => cases neutral
  | post => cases neutral
  | createConversion => cases neutral
  | _ => exact Pairing.whole_ask (.free free trivial) fun _ => not_false

theorem assertKycApproved_whole (free : ¬pairing.Midway past) : pairing.Whole past (assertKycApproved userId) := by
  unfold assertKycApproved
  refine Pairing.whole_bind (whole_neutral rfl free) fun found past _ free => ?_
  cases found with
  | none => exact Pairing.whole_throw free
  | some user =>
    dsimp only
    split
    · exact Pairing.whole_throw free
    split
    · exact Pairing.whole_throw free
    · exact Pairing.whole_pure free

theorem computePlan_grid (side : ConversionSide) (amount rate : Decimal) (feeBps tdsBps : ℕ) :
    OnGrid 2 (computePlan side amount rate feeBps tdsBps).feeInr := by
  cases side <;> exact atPlaces_onGrid _ _ _

theorem createQuote_whole {side : ConversionSide} {amount : Decimal} (free : ¬pairing.Midway past) :
    pairing.Whole past (Service.createQuote config userId side amount) := by
  unfold Service.createQuote
  refine Pairing.whole_bind (assertKycApproved_whole free) fun _ past _ free => ?_
  dsimp only
  split
  · exact Pairing.whole_throw free
  unfold storeQuote
  refine Pairing.whole_bind (whole_neutral rfl free) fun now past _ free => ?_
  refine Pairing.whole_call (.free free trivial) fun ⟨id, quote⟩ => ?_
  exact Pairing.whole_call (.free not_false (computePlan_grid ..)) fun _ => Pairing.whole_pure not_false

theorem settle_whole (free : ¬pairing.Midway past) : pairing.Whole past (settle userId quoteId plan) := by
  unfold settle
  refine Pairing.whole_call (.free free trivial) fun txn => ?_
  refine Pairing.whole_call (.close trivial ⟨_, rfl, rfl⟩) fun row => ?_
  refine Pairing.whole_bind (?_ : pairing.Whole _ (consumeSnapshot quoteId)) fun _ past _ free => Pairing.whole_pure free
  unfold consumeSnapshot
  refine Pairing.whole_catch ?_ fun failure past _ free => Pairing.whole_pure free
  exact Pairing.whole_call (.free not_false trivial) fun _ => Pairing.whole_pure not_false

theorem executeSnapshot_whole (free : ¬pairing.Midway past) : pairing.Whole past (executeSnapshot userId quoteId) := by
  unfold executeSnapshot
  refine Pairing.whole_bind (whole_neutral rfl free) fun raw past _ free => ?_
  cases raw with
  | none => exact Pairing.whole_throw free
  | some snapshot =>
    dsimp only
    split
    · exact Pairing.whole_throw free
    refine Pairing.whole_bind (whole_neutral rfl free) fun liquidity past _ free => ?_
    split
    · exact Pairing.whole_throw free
    · exact settle_whole free

theorem executeConversion_whole (free : ¬pairing.Midway past) :
    pairing.Whole past (executeConversion userId quoteId) := by
  unfold executeConversion
  refine Pairing.whole_bind (assertKycApproved_whole free) fun _ past _ free => ?_
  refine Pairing.whole_bind (whole_neutral rfl free) fun quote past _ free => ?_
  cases quote.filter (·.userId = userId) with
  | none => exact Pairing.whole_throw free
  | some quote =>
    unfold executeQuote
    refine Pairing.whole_bind (whole_neutral rfl free) fun existing past _ free => ?_
    cases existing with
    | some existing => exact Pairing.whole_pure free
    | none =>
      refine Pairing.whole_bind (whole_neutral rfl free) fun now past _ free => ?_
      split
      · exact Pairing.whole_throw free
      · exact executeSnapshot_whole free

/-- Every request records what it posts. -/
theorem program_whole (request : Request) : pairing.Whole [] (request.program config) := by
  cases request with
  | createQuote userId side amount =>
    exact Pairing.whole_bind (createQuote_whole not_false) fun dto past _ free => Pairing.whole_pure free
  | executeConversion userId quoteId =>
    exact Pairing.whole_bind (executeConversion_whole not_false) fun dto past _ free => Pairing.whole_pure free

/-! ## Rows and postings -/

/-- The row of a conversion passes the checks of its table, and its quote has
none yet. -/
def isRecordable (pid : ℕ) (s : Store) : ConversionCall → Bool
  | .createConversion data => (createConversion pid data s).isOk && (conversionsOf s data.quoteId).isEmpty
  | _ => true

variable {x : History} {pid : ℕ} {call : ConversionCall} {reply : Except Failure call.Reply} {s s' : Store}
  {world : World} {snapshot : QuoteSnapshot} {row : Conversion}

/-- A request has posted a conversion, and is about to record it. -/
def Recording (x : History) (quoteId : QuoteId) : Prop :=
  ∃ pid input txn earlier, x.past pid = ⟨.post input, .ok txn⟩ :: earlier ∧ input.referenceId = some quoteId

/-- A request has read the snapshot of a quote. -/
def Read (x : History) (quoteId : QuoteId) (snapshot : QuoteSnapshot) : Prop :=
  ∃ pid, ⟨.getSnapshot quoteId, .ok (some snapshot)⟩ ∈ x.past pid

/-- Each posting credits the fee of its quote's plan, and has its row, or a
request is about to write it. -/
structure Kept (x : History) : Prop where
  consistent : Consistent x
  once : ∀ quoteId, (conversionsOf x.store quoteId).length ≤ 1
  planned : ∀ quoteId snapshot, Shown x quoteId snapshot → OnGrid 2 snapshot.plan.feeInr
  fees : FeesOf x.store.ledger REFERENCE_TYPE
  posted : ∀ txn ∈ x.store.ledger.ofType REFERENCE_TYPE, ∃ quoteId snapshot, txn.referenceId = some quoteId ∧
    Read x quoteId snapshot ∧ txn.fees.Perm (planCharges snapshot.plan).positive ∧
    ((∃ id row, x.store.conversions.lookup id = some row ∧ row.quoteId = quoteId) ∨ Recording x quoteId)

/-- The posting of a conversion credits its fee. -/
theorem settlement_fees : (settlement userId quoteId plan).fees = (planCharges plan).positive := by
  rw [planCharges, ← feeLine_charges]
  cases isSide : plan.side with
  | inrToUsdt =>
    simp [LedgerPostingInput.fees, settlement, buildLines, isSide, feeLine, LedgerPostingLine.isFee]
  | usdtToInr =>
    by_cases tds : 0 < plan.tdsAmount <;>
      simp [LedgerPostingInput.fees, settlement, buildLines, isSide, feeLine, LedgerPostingLine.isFee, tds]

/-- A request posts the plan of a snapshot it has read. -/
theorem posting_read {input : LedgerPostingInput QuoteId} (call' : May past (.post input)) :
    ∃ userId quoteId snapshot, ⟨.getSnapshot quoteId, .ok (some snapshot)⟩ ∈ past ∧
      input = settlement userId quoteId snapshot.plan := by
  cases call' with
  | neutral neutral => cases neutral
  | post quoted =>
    obtain ⟨-, snapshot, read, -, rfl⟩ := quoted
    exact ⟨_, _, snapshot, read, rfl⟩

theorem closing (call' : pairing.Keeps (x.past pid) call) {input : LedgerPostingInput QuoteId}
    {txn : LedgerTransaction QuoteId} {earlier : Past} (isPast : x.past pid = ⟨.post input, .ok txn⟩ :: earlier) :
    ∃ data, call = .createConversion data ∧ input.referenceId = some data.quoteId := by
  generalize x.past pid = past at call' isPast
  subst isPast
  cases call' with
  | free free => exact absurd trivial free
  | close opened closes =>
    obtain ⟨data, isTarget, rfl⟩ := closes
    exact ⟨data, rfl, isTarget⟩

theorem planned_set {ttlMs : ℕ} (call' : pairing.Keeps past (.setSnapshot snapshot ttlMs)) :
    OnGrid 2 snapshot.plan.feeInr := by
  cases call' with
  | free free may => exact may
  | @close past first second value opened closes =>
    cases first with
    | post input =>
      obtain ⟨data, -, same⟩ := closes
      cases same
    | _ => exact closes.elim

theorem kept_initial (opening : Opening s) (free : ∀ txn ∈ s.ledger.transactions, txn.fees = [])
    (unposted : s.ledger.ofType REFERENCE_TYPE = []) : Kept ⟨s, []⟩ where
  consistent := consistent_initial opening
  once quoteId := by
    have none : conversionsOf s quoteId = [] := by
      refine conversionsOf_eq_nil.mpr fun id row found => ?_
      rw [opening.conversions] at found
      cases found
    simp [none]
  planned quoteId snapshot shown := by
    cases shown with
    | stored found =>
      rw [opening.snapshots] at found
      cases found
    | read member => cases member
  fees := ⟨by simp [unposted], by simp [unposted], fun txn member _ => free txn member⟩
  posted := by simp [unposted]

section Step
variable (kept : Kept x) (call' : May (x.past pid) call) (closes : pairing.Keeps (x.past pid) call)
  (ran : perform world pid call x.store = (reply, s'))
include kept call' closes ran

private theorem planned_step (shown : Shown ⟨s', (pid, ⟨call, reply⟩) :: x.history⟩ quoteId snapshot) :
    OnGrid 2 snapshot.plan.feeInr := by
  rcases shown_step (.inl ⟨world, ran⟩) shown with before | ⟨ttlMs, made, -⟩
  · exact kept.planned quoteId snapshot before
  · cases made
    exact planned_set closes

private theorem fees_step : FeesOf s'.ledger REFERENCE_TYPE := by
  have effect := Makes.effect (.inl ⟨world, ran⟩)
  rcases effect.ledger with ⟨input, outcome, made, posted⟩ | ⟨same, -⟩
  · cases made
    rcases post_cases posted with ⟨failure, rfl, same⟩ | ⟨txn, rfl, same, -⟩ | ⟨txn, rfl, recorded, fresh⟩
    · exact same ▸ kept.fees
    · exact same ▸ kept.fees
    · obtain ⟨userId, quoteId, snapshot, -, rfl⟩ := posting_read call'
      exact kept.fees.recorded recorded fresh (by decide) (fun _ => nofun) fun other => absurd rfl other
  · exact same ▸ kept.fees

/-- A posting has its row once its request goes on. -/
private theorem recorded_step (recordable : isRecordable pid x.store call) (txn : LedgerTransaction QuoteId)
    (before : txn ∈ x.store.ledger.ofType REFERENCE_TYPE) : ∃ quoteId snapshot, txn.referenceId = some quoteId ∧
      Read ⟨s', (pid, ⟨call, reply⟩) :: x.history⟩ quoteId snapshot ∧
      txn.fees.Perm (planCharges snapshot.plan).positive ∧
      ((∃ id row, s'.conversions.lookup id = some row ∧ row.quoteId = quoteId) ∨
        Recording ⟨s', (pid, ⟨call, reply⟩) :: x.history⟩ quoteId) := by
  obtain ⟨quoteId, snapshot, isTarget, ⟨reader, read⟩, charged, recorded⟩ := kept.posted txn before
  refine ⟨quoteId, snapshot, isTarget, ⟨reader, Logged.mem_past_cons.mpr (.inr read)⟩, charged, ?_⟩
  have effect := Makes.effect (.inl ⟨world, ran⟩)
  rcases recorded with ⟨id, row, found, isQuote⟩ | ⟨other, input, txn', earlier, isPast, isQuote⟩
  · exact .inl ⟨id, row, effect.conversion_stays found, isQuote⟩
  by_cases own : other = pid
  · subst own
    obtain ⟨data, rfl, isQuote'⟩ := closing closes isPast
    cases isQuote'.symm.trans isQuote
    simp only [isRecordable, Bool.and_eq_true] at recordable
    cases created : createConversion other data x.store with
    | error failure =>
      rw [created] at recordable
      cases recordable.1
    | ok pair =>
      obtain ⟨row, store⟩ := pair
      rw [perform, created] at ran
      cases ran
      cases effect with
      | converted isStored fresh => exact .inl ⟨other, _, AList.lookup_insert _, rfl⟩
      | neutral neutral => cases neutral
  · exact .inr ⟨other, input, txn', earlier, by rwa [Logged.past_ne _ own], isQuote⟩

private theorem posted_step (recordable : isRecordable pid x.store call) (txn : LedgerTransaction QuoteId)
    (member : txn ∈ s'.ledger.ofType REFERENCE_TYPE) : ∃ quoteId snapshot, txn.referenceId = some quoteId ∧
      Read ⟨s', (pid, ⟨call, reply⟩) :: x.history⟩ quoteId snapshot ∧
      txn.fees.Perm (planCharges snapshot.plan).positive ∧
      ((∃ id row, s'.conversions.lookup id = some row ∧ row.quoteId = quoteId) ∨
        Recording ⟨s', (pid, ⟨call, reply⟩) :: x.history⟩ quoteId) := by
  have stays := recorded_step kept call' closes ran recordable txn
  have effect := Makes.effect (.inl ⟨world, ran⟩)
  rcases effect.ledger with ⟨input, outcome, made, posted⟩ | ⟨same, -⟩
  · cases made
    rcases post_cases posted with ⟨failure, rfl, same⟩ | ⟨other, rfl, same, -⟩ | ⟨other, rfl, recorded, -⟩
    · exact stays (same ▸ member)
    · exact stays (same ▸ member)
    · rw [ofType_recorded recorded, List.mem_append] at member
      rcases member with before | isNew
      · exact stays before
      obtain ⟨userId, quoteId, snapshot, read, rfl⟩ := posting_read call'
      obtain rfl : txn = other := by simpa [settlement] using isNew
      have stored : (planCharges snapshot.plan).stored = planCharges snapshot.plan := by
        have grid := kept.planned quoteId snapshot (.read read)
        simp [planCharges, Charges.stored, Numeric.rounded_of_onGrid (grid.mono (by norm_num [Numeric.scale]))]
      have asked : (settlement userId quoteId snapshot.plan).fees.Perm (planCharges snapshot.plan).positive := by
        rw [settlement_fees]
      exact ⟨quoteId, snapshot, recorded.reference.2, ⟨pid, Logged.mem_past_cons.mpr (.inr read)⟩,
        stored ▸ recorded_charges recorded asked, .inr ⟨pid, _, txn, x.past pid, Logged.past_self .., rfl⟩⟩
  · exact stays (same ▸ member)

private theorem once_step (recordable : isRecordable pid x.store call) (quoteId : QuoteId) :
    (conversionsOf s' quoteId).length ≤ 1 := by
  have effect := Makes.effect (.inl ⟨world, ran⟩)
  rcases effect.conversionsOf quoteId with same | ⟨data, row, made, rfl, grown⟩
  · exact same ▸ kept.once quoteId
  · cases made
    simp only [isRecordable, Bool.and_eq_true, List.isEmpty_iff] at recordable
    simp [grown, recordable.2]

/-- Every call keeps rows and postings together. -/
theorem kept_step (recordable : isRecordable pid x.store call) :
    Kept ⟨s', (pid, ⟨call, reply⟩) :: x.history⟩ where
  consistent := consistent_step kept.consistent call' (.inl ⟨world, ran⟩)
  once := once_step kept call' closes ran recordable
  planned _ _ := planned_step kept call' closes ran
  fees := fees_step kept call' closes ran
  posted := posted_step kept call' closes ran recordable

end Step

/-- What others do to balances does not matter. -/
theorem Kept.accounts {history : List (ℕ × Answered ConversionCall ConversionCall.Reply Failure)}
    (kept : Kept ⟨s, history⟩) (accounts : Table Account (Option Decimal)) :
    Kept ⟨{ s with ledger := { s.ledger with accounts } }, history⟩ := by
  have shown {quoteId : QuoteId} {snapshot : QuoteSnapshot}
      (shown : Shown ⟨{ s with ledger := { s.ledger with accounts } }, history⟩ quoteId snapshot) :
      Shown ⟨s, history⟩ quoteId snapshot := by
    cases shown with
    | stored found => exact .stored found
    | read member => exact .read member
  have consistent := kept.consistent
  refine ⟨⟨consistent.created, consistent.quote, fun _ _ isShown => consistent.owned _ _ (shown isShown),
    fun _ _ _ isShown isOther => consistent.one _ _ _ (shown isShown) (shown isOther),
    fun _ _ _ _ isPast _ isShown => consistent.unset _ _ _ _ isPast _ (shown isShown), consistent.settled,
    consistent.once, fun id row found => ?_, consistent.recorded⟩, kept.once,
    fun _ _ isShown => kept.planned _ _ (shown isShown), kept.fees.accounts accounts, kept.posted⟩
  have records := consistent.rows id row found
  exact ⟨records.economics, records.posting⟩

/-- The row of a quote has the fee of its plan. -/
theorem Kept.charges (kept : Kept x) {id : ℕ} (found : x.store.conversions.lookup id = some row)
    (read : Read x row.quoteId snapshot) : chargesOf row = planCharges snapshot.plan := by
  obtain ⟨reader, isRead⟩ := read
  obtain ⟨pid, other, isOther, isStored⟩ := (kept.consistent.rows id row found).economics
  obtain rfl := kept.consistent.one row.quoteId snapshot other (.read isRead) (.read isOther)
  have grid := kept.planned row.quoteId snapshot (.read isRead)
  simp only [storeEconomics, except_bind_ok] at isStored
  obtain ⟨_, _, _, _, _, _, feeInr, isFee, _, _, isStored⟩ := isStored
  have same : feeInr = snapshot.plan.feeInr := by
    unfold storeDecimal at isFee
    dsimp only at isFee
    split at isFee
    · exact (Except.ok.inj isFee).symm.trans (atPlaces_of_onGrid halfUp_mode grid)
    · cases isFee
  split at isStored
  · rw [chargesOf, planCharges, ← Except.ok.inj isStored, same]
  · cases isStored

/-- When no request is between the two, the rows charge what the postings
credit. -/
theorem Kept.total (kept : Kept x) (rest : ∀ pid, ¬pairing.Midway (x.past pid)) (asset : String) :
    Charges.totalIn ((x.store.ledger.ofType REFERENCE_TYPE).flatMap LedgerTransaction.fees) asset =
      Charges.totalIn ((x.store.conversions.rows.map Prod.snd).flatMap chargesOf) asset := by
  have quotes : ((x.store.conversions.rows.map Prod.snd).map Conversion.quoteId).Nodup := by
    refine List.nodup_iff_count_le_one.mpr fun quoteId => ?_
    have once := kept.once quoteId
    rw [conversionsOf, ← List.countP_eq_length_filter] at once
    rw [List.count_eq_countP, List.countP_map]
    simpa [Function.comp_def, beq_eq_decide] using once
  have keys : ((x.store.conversions.rows.map Prod.snd).map fun row => some row.quoteId).Nodup := by
    simpa [List.map_map, Function.comp_def] using quotes.map (Option.some_injective _)
  rw [Charges.totalIn_flatMap, Charges.totalIn_flatMap]
  refine sum_eq_of_matched kept.fees.distinct keys (fun txn member => ?_) fun row member => ?_
  · obtain ⟨quoteId, snapshot, isTarget, read, charged, recorded⟩ := kept.posted txn member
    rcases recorded with ⟨id, row, found, rfl⟩ | ⟨pid, input, other, earlier, isPast, -⟩
    · refine ⟨row, List.mem_map.mpr ⟨(id, row), Table.mem_rows.mpr found, rfl⟩, isTarget.symm, ?_⟩
      rw [kept.charges found read]
      have positive := (Charges.positive_perm charged).symm
      rw [Charges.positive_positive] at positive
      exact Charges.totalIn_perm positive asset
    · refine absurd ?_ (rest pid)
      rw [isPast]
      trivial
  · obtain ⟨⟨id, _⟩, isRow, rfl⟩ := List.mem_map.mp member
    obtain ⟨txn, isPosting, -⟩ := (kept.consistent.rows id _ (Table.mem_rows.mp isRow)).posting
    obtain ⟨present, isPosting⟩ := List.mem_filter.mp isPosting
    simp only [Bool.and_eq_true, decide_eq_true_eq] at isPosting
    exact ⟨txn, List.mem_filter.mpr ⟨present, by simpa using isPosting.1⟩, isPosting.2⟩

end Exchange.Conversions.Fees
