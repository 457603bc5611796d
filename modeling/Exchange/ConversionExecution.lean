import Exchange.ConversionRecords

/-! A quote is executed once. The posting, the row that records it and the
snapshot it was made from are kept in three places, written one after another;
a call that comes back looks for the row first. -/
namespace Exchange.Conversions.Execution
open Ledger Service

def isPosted (s : Store) (quoteId : QuoteId) : Bool := s.ledger.isPosted REFERENCE_TYPE quoteId

def isRecorded (s : Store) (quoteId : QuoteId) : Bool := !(conversionsOf s quoteId).isEmpty

def isOwner (s : Store) (userId : UserId) (quoteId : QuoteId) : Bool :=
  (s.quotes.lookup quoteId).any fun quote => quote.userId = userId

/-- What the plans a request has read need of the treasury. -/
def needs (past : Past) : List Decimal :=
  past.filterMap fun
    | ⟨.getSnapshot _, .ok (some snapshot)⟩ => some snapshot.plan.liquidityNeed
    | _ => none

/-- The user may convert, the quote has not expired, its snapshot is there, the
treasury holds what it needs, and the call is not lost. -/
def goesOn (s : Store) (quoteId : QuoteId) (past : Past) :
    Answered ConversionCall ConversionCall.Reply Failure → Bool
  | ⟨.findUserKyc _, reply⟩ => reply.toOption.any fun user => user.any UserKyc.isApproved
  | ⟨.now, reply⟩ => reply.toOption.any fun now => (s.quotes.lookup quoteId).any fun quote => now < quote.expiresAt
  | ⟨.getSnapshot _, reply⟩ => reply.toOption.any Option.isSome
  | ⟨.systemAccountBalance _ _, reply⟩ => reply.toOption.any fun liquidity => (needs past).all (· ≤ liquidity)
  | ⟨.getDelSnapshot _, _⟩ => true
  | ⟨_, reply⟩ => reply.isOk

/-- A row is made for a quote that has none. -/
def recordsOnce (s : Store) : Answered ConversionCall ConversionCall.Reply Failure → Bool
  | ⟨.createConversion data, reply⟩ => !reply.isOk || !isRecorded s data.quoteId
  | _ => true

/-- While a posting has no row, its owner is not turned away. -/
def resumes (s : Store) (past : Past) (made : Answered ConversionCall ConversionCall.Reply Failure) :
    Request → Bool
  | .createQuote _ _ _ => true
  | .executeConversion userId quoteId =>
    isRecorded s quoteId || !isPosted s quoteId || !isOwner s userId quoteId || goesOn s quoteId past made

def keeps (requests : ℕ → Request) (pid : ℕ) (x : History)
    (made : Answered ConversionCall ConversionCall.Reply Failure) : Bool :=
  recordsOnce x.store made && resumes x.store (x.past pid) made (requests pid)

def followed (requests : ℕ → Request) (pid : ℕ) (call : ConversionCall) (x : History)
    (reply : Except Failure call.Reply) (s' : Store) : Prop :=
  Makes pid call x.store reply s' ∧ keeps requests pid x ⟨call, reply⟩

/-- One posting, one row, and one answer. -/
structure ExactlyOnce (requests : ℕ → Request) (pool : ConversionPool) : Prop where
  posting : ∀ quoteId, (pool.store.store.ledger.postings REFERENCE_TYPE quoteId).length ≤ 1
  row : ∀ quoteId, (conversionsOf pool.store.store quoteId).length ≤ 1
  answer : ∀ pid other userId user quoteId dto dto', requests pid = .executeConversion userId quoteId →
    requests other = .executeConversion user quoteId →
    pool.programs.lookup pid = some (.done (.ok (.conversion dto))) →
    pool.programs.lookup other = some (.done (.ok (.conversion dto'))) → dto = dto'

/-- The posting of a quote is recorded by one row. -/
def RecordedOnce (s : Store) (quoteId : QuoteId) : Prop :=
  ∃ row txn, conversionsOf s quoteId = [row] ∧ s.ledger.postings REFERENCE_TYPE quoteId = [txn] ∧
    row.ledgerTxnId = txn.id

/-- Whoever comes back to a quote that is posted leaves it recorded. -/
def Resumed (step : ConversionPool → ConversionPool → Prop) (requests : ℕ → Request) (pool : ConversionPool) :
    Prop :=
  ∀ pool' pid userId quoteId result, isPosted pool.store.store quoteId →
    isOwner pool.store.store userId quoteId → requests pid = .executeConversion userId quoteId →
    pool.programs.lookup pid = none → Relation.ReflTransGen step pool pool' →
    pool'.programs.lookup pid = some (.done result) → RecordedOnce pool'.store.store quoteId

variable {config : Config} {requests : ℕ → Request} {x : History} {pid id : ℕ} {call : ConversionCall}
  {reply : Except Failure call.Reply} {s s' : Store} {userId : UserId} {quoteId : QuoteId} {row : Conversion}
  {past : Past} {made : Answered ConversionCall ConversionCall.Reply Failure} {pool pool' : ConversionPool}

/-! ## One call -/

theorem isRecorded_iff : isRecorded s quoteId ↔ ∃ id row, s.conversions.lookup id = some row ∧
    row.quoteId = quoteId := by
  have none := @conversionsOf_eq_nil quoteId s
  rw [← not_iff_not]
  simpa [isRecorded, List.isEmpty_iff] using none

theorem isRecorded_stays (effect : Effect pid s made s') (recorded : isRecorded s quoteId) :
    isRecorded s' quoteId := by
  obtain ⟨id, row, found, isQuote⟩ := isRecorded_iff.mp recorded
  exact isRecorded_iff.mpr ⟨id, row, effect.conversion_stays found, isQuote⟩

theorem isPosted_stays (effect : Effect pid s made s') (posted : isPosted s quoteId) : isPosted s' quoteId := by
  obtain ⟨txn, member⟩ := isPosted_iff.mp posted
  exact isPosted_iff.mpr ⟨txn, effect.postings_mono member⟩

theorem isOwner_iff : isOwner s userId quoteId ↔
    ∃ quote, s.quotes.lookup quoteId = some quote ∧ quote.userId = userId := by
  simp [isOwner, Option.any_eq_true]

theorem isOwner_stays (effect : Effect pid s made s') (owner : isOwner s userId quoteId) :
    isOwner s' userId quoteId := by
  obtain ⟨quote, found, isUser⟩ := isOwner_iff.mp owner
  exact isOwner_iff.mpr ⟨quote, effect.quote_stays found, isUser⟩

/-- A quote without a row gets one, and one with a row gets no other. -/
theorem conversionsOf_step (effect : Effect pid s made s') (kept : recordsOnce s made)
    (once : (conversionsOf s quoteId).length ≤ 1) : (conversionsOf s' quoteId).length ≤ 1 := by
  rcases effect.conversionsOf quoteId with same | ⟨data, row, rfl, rfl, grown⟩
  · rwa [same]
  · have none : conversionsOf s data.quoteId = [] := by
      simpa [recordsOnce, isRecorded, Except.isOk, Except.toBool, List.isEmpty_iff] using kept
    simp [grown, none]

private theorem mem_needs {snapshot : QuoteSnapshot}
    (member : ⟨.getSnapshot quoteId, .ok (some snapshot)⟩ ∈ past) : snapshot.plan.liquidityNeed ∈ needs past :=
  List.mem_filterMap.mpr ⟨_, member, rfl⟩

/-- An owner who goes on is not turned away. -/
theorem not_turnedAway (consistent : Consistent x) (makes : Makes pid call x.store reply s')
    (owner : isOwner x.store userId quoteId) (goes : goesOn x.store quoteId (x.past pid) ⟨call, reply⟩) :
    ¬TurnedAway userId quoteId (⟨call, reply⟩ :: x.past pid) := by
  obtain ⟨quote, found, isUser⟩ := isOwner_iff.mp owner
  intro away
  cases away with
  | lost needed =>
    cases call with
    | getDelSnapshot id => exact needed id rfl
    | _ => simp [goesOn, Except.isOk, Except.toBool, Except.toOption] at goes
  | user unapproved => exact unapproved goes
  | @quote read _ foreign =>
    have isRead := makes.read.1 quoteId read rfl
    rw [← isRead, found] at foreign
    exact foreign (by simp [isUser])
  | @expired read now _ member late =>
    have isRead := consistent.quote pid quoteId read member
    have early : now < read.expiresAt := by simpa [goesOn, isRead, Except.toOption] using goes
    exact absurd early (not_lt.mpr late)
  | @snapshot read _ foreign =>
    obtain ⟨snapshot, rfl⟩ : ∃ snapshot, read = some snapshot := Option.isSome_iff_exists.mp goes
    obtain ⟨expiry, isStored⟩ := makes.read.2.1 quoteId snapshot rfl
    obtain ⟨-, same, isSame, isOwn⟩ := consistent.owned quoteId snapshot (.stored isStored)
    cases found.symm.trans isSame
    exact foreign (by simp [← isOwn, isUser])
  | @treasury snapshot liquidity _ member short =>
    have enough := List.all_eq_true.mp goes _ (mem_needs member)
    exact absurd (of_decide_eq_true enough) (not_le.mpr short)

/-! ## Runs -/

theorem requests_obey (config : Config) (requests : ℕ → Request) (pid : ℕ) (program : ConversionM Response)
    (isRequest : IsRequest config requests pid program) : program.Obeys May (ends (requests pid)) [] :=
  isRequest_obeys isRequest

/-- The records are consistent, and no quote has two rows. -/
structure Kept (x : History) : Prop where
  consistent : Consistent x
  row : ∀ quoteId, (conversionsOf x.store quoteId).length ≤ 1

theorem kept_initial (opening : Opening s) : Kept ⟨s, []⟩ where
  consistent := consistent_initial opening
  row quoteId := by
    have none : conversionsOf s quoteId = [] := by
      refine conversionsOf_eq_nil.mpr fun id row found => ?_
      rw [opening.conversions] at found
      cases found
    simp [none]

theorem kept_step (kept : Kept x) (call' : May (x.past pid) call) (made : followed requests pid call x reply s') :
    Kept ⟨s', (pid, ⟨call, reply⟩) :: x.history⟩ where
  consistent := consistent_step kept.consistent call' made.1
  row quoteId := conversionsOf_step made.1.effect (Bool.and_eq_true_iff.mp made.2).1 (kept.row quoteId)

theorem kept_run (run : Logged.Run (followed requests) (IsRequest config requests) Opening pool) :
    Kept pool.store :=
  run.inv (requests_obey config requests) (fun _ => kept_initial)
    fun _ _ _ _ _ kept call' made => kept_step kept call' made

/-- A request that has come back to a posting was not turned away, unless the
posting was recorded. -/
structure Late (userId : UserId) (quoteId : QuoteId) (pid : ℕ) (x : History) : Prop where
  posted : isPosted x.store quoteId
  owner : isOwner x.store userId quoteId
  away : TurnedAway userId quoteId (x.past pid) → isRecorded x.store quoteId

theorem late_step {other : ℕ} (kept : Kept x) (late : Late userId quoteId pid x)
    (isRequest : requests pid = .executeConversion userId quoteId)
    (made : followed requests other call x reply s') :
    Late userId quoteId pid ⟨s', (other, ⟨call, reply⟩) :: x.history⟩ where
  posted := isPosted_stays made.1.effect late.posted
  owner := isOwner_stays made.1.effect late.owner
  away away := by
    refine Decidable.byContradiction fun unrecorded => ?_
    have before : ¬isRecorded x.store quoteId := fun recorded =>
      unrecorded (isRecorded_stays made.1.effect recorded)
    by_cases own : pid = other
    · subst own
      rw [Logged.past_self] at away
      have resumed := (Bool.and_eq_true_iff.mp made.2).2
      have goes : goesOn x.store quoteId (x.past pid) ⟨call, reply⟩ := by
        simpa [resumes, isRequest, before, late.posted, late.owner] using resumed
      exact not_turnedAway kept.consistent made.1 late.owner goes away
    · rw [Logged.past_ne _ own] at away
      exact before (late.away away)

theorem late_run (run : Logged.Run (followed requests) (IsRequest config requests) Opening pool)
    (isRequest : requests pid = .executeConversion userId quoteId) (late : Late userId quoteId pid pool.store)
    (steps : Relation.ReflTransGen (Pool.Step (Logged.protocol (followed requests)) (IsRequest config requests))
      pool pool') : Late userId quoteId pid pool'.store := by
  have both : ∀ (x : History) other call reply s', Kept x ∧ Late userId quoteId pid x → May (x.past other) call →
      followed requests other call x reply s' → Kept ⟨s', (other, ⟨call, reply⟩) :: x.history⟩ ∧
        Late userId quoteId pid ⟨s', (other, ⟨call, reply⟩) :: x.history⟩ :=
    fun _ _ _ _ _ held call' made => ⟨kept_step held.1 call' made, late_step held.1 held.2 isRequest made⟩
  exact (run.keeps (requests_obey config requests) both steps ⟨kept_run run, late⟩).2

private theorem eq_singleton {α : Type} {value : α} {values : List α} (member : value ∈ values)
    (once : values.length ≤ 1) : values = [value] := by
  cases values with
  | nil => cases member
  | cons first rest =>
    have none : rest = [] := by simpa using once
    subst none
    rw [List.mem_singleton.mp member]

/-- A request that ends after it came back leaves the quote recorded. -/
theorem recorded_late (kept : Kept x) (late : Late userId quoteId pid x)
    (isRequest : requests pid = .executeConversion userId quoteId) {result : Except Failure Response}
    (ended : ends (requests pid) (x.past pid) result) : RecordedOnce x.store quoteId := by
  have recorded : isRecorded x.store quoteId := by
    rw [isRequest] at ended
    cases result with
    | error failure => exact late.away ended
    | ok response =>
      obtain ⟨row, isRow, -⟩ := ended
      obtain ⟨⟨id, found⟩, isQuote⟩ := kept.consistent.recorded pid quoteId row isRow
      exact isRecorded_iff.mpr ⟨id, row, found, isQuote⟩
  obtain ⟨id, row, found, isQuote⟩ := isRecorded_iff.mp recorded
  have member : row ∈ conversionsOf x.store quoteId :=
    List.mem_filter.mpr ⟨List.mem_map.mpr ⟨(id, row), Table.mem_rows.mpr found, rfl⟩, by simpa using isQuote⟩
  obtain ⟨txn, isPosting, isTxn⟩ := (kept.consistent.rows id row found).posting
  rw [isQuote] at isPosting
  exact ⟨row, txn, eq_singleton member (kept.row quoteId),
    eq_singleton isPosting (kept.consistent.once quoteId), isTxn⟩

/-- In every run in which rows are made once and a posting without a row turns
nobody away, a quote is executed exactly once. -/
theorem exactly_once (run : Logged.Run (followed requests) (IsRequest config requests) Opening pool) :
    ExactlyOnce requests pool ∧
      Resumed (Pool.Step (Logged.protocol (followed requests)) (IsRequest config requests)) requests pool := by
  have kept := kept_run run
  have orderly := Logged.Run.orderly (requests_obey config requests) run
  refine ⟨⟨kept.consistent.once, kept.row, ?_⟩, ?_⟩
  · intro pid other userId user quoteId dto dto' isRequest isOther ended ended'
    have answered := orderly.ended ended
    have answered' := orderly.ended ended'
    rw [isRequest] at answered
    rw [isOther] at answered'
    obtain ⟨row, isRow, same⟩ := answered
    obtain ⟨row', isRow', same'⟩ := answered'
    cases same
    cases same'
    obtain ⟨⟨id, found⟩, isQuote⟩ := kept.consistent.recorded pid quoteId row isRow
    obtain ⟨⟨id', found'⟩, isQuote'⟩ := kept.consistent.recorded other quoteId row' isRow'
    rw [toConversionDto, toConversionDto,
      kept.consistent.same_economics found found' (isQuote.trans isQuote'.symm)]
  · intro pool' pid userId quoteId result posted owner isRequest fresh steps ended
    have late : Late userId quoteId pid pool.store := by
      refine ⟨posted, owner, fun away => ?_⟩
      rw [(orderly pid).1 fresh] at away
      cases away
    have reached := run.steps steps
    have orderly' := Logged.Run.orderly (requests_obey config requests) reached
    exact recorded_late (kept_run reached) (late_run run isRequest late steps) isRequest (orderly'.ended ended)

/-! ## One quote -/

/-- User 7 gets a quote and executes it twice. -/
private def twice : ℕ → Request
  | 1 => .createQuote 7 .inrToUsdt 1000
  | _ => .executeConversion 7 1

/-- The first execution stops after its posting; the second records it. -/
theorem exactly_once_retried : ∃ pool : ConversionPool, ExactlyOnce twice pool ∧
    RecordedOnce pool.store.store 1 := by
  have played : ((schedule smallConfig (fun _ => ⟨0, 0⟩) (fun _ _ => false)
      (fun pid call x reply => keeps twice pid x ⟨call, reply⟩) twice [1, 2] [(1, 9), (2, 7)] (openTreasury 100)).bind
        fun pool => (Logged.schedule (Database.act perform (fun _ => ⟨0, 0⟩) fun _ _ => false)
          (fun pid call x reply => keeps twice pid x ⟨call, reply⟩) (fun pid => (twice pid).program smallConfig)
          [3] [(3, 9)] pool).map fun pool' =>
            (isPosted pool.store.store 1, isOwner pool.store.store 7 1, (pool.programs.lookup 3).isNone,
              (pool'.programs.lookup 3).any Async.isDone)) = some (true, true, true, true) := by
    decide +kernel
  obtain ⟨pool, scheduled, played'⟩ := Option.bind_eq_some_iff.mp played
  obtain ⟨pool', resumed, facts⟩ := Option.map_eq_some_iff.mp played'
  simp only [Prod.mk.injEq, Option.isNone_iff_eq_none] at facts
  obtain ⟨posted, owner, fresh, isDone⟩ := facts
  have run : Logged.Run (followed twice) (IsRequest smallConfig twice) Opening pool :=
    schedule_run (openTreasury_opening 100) (fun _ _ _ _ _ kept makes => ⟨makes, kept⟩) scheduled
  have steps : Relation.ReflTransGen (Pool.Step (Logged.protocol (followed twice)) (IsRequest smallConfig twice))
      pool pool' :=
    Logged.schedule_steps (fun _ _ _ _ _ acted kept => ⟨Database.act_makes acted, kept⟩) (fun _ => rfl) resumed
  obtain ⟨program, found, isDone⟩ := (Option.any_eq_true _ _).mp isDone
  cases program with
  | await call next => cases isDone
  | done result =>
    obtain ⟨once, -⟩ := exactly_once (run.steps steps)
    obtain ⟨-, resumes⟩ := exactly_once run
    exact ⟨pool', once, resumes pool' 3 7 1 result posted owner rfl fresh steps found⟩

/-- Both executions look for a conversion before either has made one. -/
theorem converted_twice : ¬∀ pool : ConversionPool,
    Logged.Run interleaved (IsRequest smallConfig twice) Opening pool →
      ExactlyOnce twice pool ∧
        Resumed (Pool.Step (Logged.protocol interleaved) (IsRequest smallConfig twice)) twice pool := by
  intro once
  have played : (schedule smallConfig (fun _ => ⟨0, 0⟩) (fun _ _ => false) (fun _ _ _ _ => true) twice
      [1, 2, 3] [(1, 9), (2, 7), (3, 9), (2, 2)] (openTreasury 100)).map (fun pool =>
        (conversionsOf pool.store.store 1).length) = some 2 := by decide +kernel
  obtain ⟨pool, scheduled, two⟩ := Option.map_eq_some_iff.mp played
  have run : Logged.Run interleaved (IsRequest smallConfig twice) Opening pool :=
    schedule_run (openTreasury_opening 100) (fun _ _ _ _ _ _ makes => makes) scheduled
  have one := (once pool run).1.row 1
  omega

end Exchange.Conversions.Execution
