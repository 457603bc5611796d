import Exchange.ConversionRecords

/-! What the treasury owes. The ledger lets accounts of the platform go negative;
an execution reads the balance, and posts later. -/
namespace Exchange.Conversions.Liquidity
open Ledger Service

/-- No account of the treasury is negative. -/
def Solvent (s : Store) : Prop :=
  ∀ account, account.kind = .liquidity → 0 ≤ projectionForAccount s.ledger account

/-- The treasury holds what the plan needs. -/
def covers (s : Store) (plan : ConversionPlan) : Bool :=
  plan.liquidityNeed ≤ systemAccountBalance s .liquidity plan.liquidityAsset

/-- The plans a request has read. -/
def plans (past : Past) : List ConversionPlan :=
  past.filterMap fun
    | ⟨.getSnapshot _, .ok (some snapshot)⟩ => some snapshot.plan
    | _ => none

/-- A new posting finds the treasury holding what its plan needs. -/
def keeps (x : History) (pid : ℕ) : Answered ConversionCall ConversionCall.Reply Failure → Bool
  | ⟨.post input, reply⟩ => !reply.isOk || input.referenceId.any (x.store.ledger.isPosted REFERENCE_TYPE) ||
      (plans (x.past pid)).all (covers x.store)
  | _ => true

def followed (pid : ℕ) (call : ConversionCall) (x : History) (reply : Except Failure call.Reply) (s' : Store) :
    Prop :=
  Makes pid call x.store reply s' ∧ keeps x pid ⟨call, reply⟩

variable {config : Config} {requests : ℕ → Request} {x : History} {pid : ℕ} {call : ConversionCall}
  {reply : Except Failure call.Reply} {s s' : Store} {userId : UserId} {quoteId : QuoteId} {plan : ConversionPlan}
  {account : Account} {line : LedgerPostingLine} {ledger : Ledger.Store QuoteId} {past : Past}

/-! ## One posting -/

private theorem treasury_ne : treasury INR ≠ treasury USDT := by decide +kernel

private theorem feeLine_kind {kind : AccountKind} {amount : Decimal} (member : line ∈ feeLine kind amount) :
    line.kind = kind := by
  unfold feeLine at member
  split at member
  · rw [List.mem_singleton.mp member]
  · cases member

/-- One line of a posting takes from the treasury: what the plan needs. -/
structure Takes (plan : ConversionPlan) (earlier : List LedgerPostingLine) (line : LedgerPostingLine)
    (later : List LedgerPostingLine) : Prop where
  account : line.account = treasury plan.liquidityAsset
  direction : line.direction = .debit
  amount : line.amount = plan.liquidityNeed
  others : ∀ other ∈ earlier ++ later, other.kind = .liquidity →
    other.account ≠ line.account ∧ other.direction = .credit

theorem buildLines_takes (sound : plan.Sound) (userId : UserId) :
    ∃ earlier line later, buildLines userId plan = earlier ++ line :: later ∧ Takes plan earlier line later := by
  cases side : plan.side with
  | inrToUsdt =>
    obtain ⟨isAsset, isNeed⟩ := sound.buys side
    refine ⟨[⟨some userId, .userAvailable, INR, .debit, plan.inrAmount⟩,
        ⟨none, .liquidity, INR, .credit, Decimal.toFixed 2 (Decimal.sub plan.inrAmount plan.feeInr)⟩] ++
      feeLine .feeRevenue plan.feeInr, ⟨none, .liquidity, USDT, .debit, plan.usdtAmount⟩,
      [⟨some userId, .userAvailable, USDT, .credit, plan.usdtAmount⟩], ?_, ?_⟩
    · simp only [buildLines, side]
    refine ⟨by rw [isAsset]; rfl, rfl, isNeed.symm, fun other member isLiquidity => ?_⟩
    simp only [List.mem_append, List.mem_cons, List.not_mem_nil, or_false] at member
    rcases member with ((rfl | rfl) | fee) | rfl
    · cases isLiquidity
    · exact ⟨treasury_ne, rfl⟩
    · cases (feeLine_kind fee).symm.trans isLiquidity
    · cases isLiquidity
  | usdtToInr =>
    obtain ⟨isAsset, isNeed⟩ := sound.sells side
    refine ⟨[⟨some userId, .userAvailable, USDT, .debit, plan.usdtAmount⟩,
        ⟨none, .liquidity, USDT, .credit, plan.usdtAmount⟩], ⟨none, .liquidity, INR, .debit, plan.grossInr⟩,
      ⟨some userId, .userAvailable, INR, .credit, plan.inrAmount⟩ :: feeLine .feeRevenue plan.feeInr ++
        feeLine .tdsPayable plan.tdsAmount, ?_, ?_⟩
    · simp only [buildLines, side]
      rfl
    refine ⟨by rw [isAsset]; rfl, rfl, isNeed.symm, fun other member isLiquidity => ?_⟩
    simp only [List.mem_append, List.mem_cons, List.not_mem_nil, or_false] at member
    rcases member with (rfl | rfl) | (rfl | fee) | tds
    · cases isLiquidity
    · exact ⟨treasury_ne.symm, rfl⟩
    · cases isLiquidity
    · cases (feeLine_kind fee).symm.trans isLiquidity
    · cases (feeLine_kind tds).symm.trans isLiquidity

/-- A settlement the treasury can cover leaves no account of it negative. -/
theorem settled_nonneg (sound : plan.Sound) {ledger' : Ledger.Store QuoteId}
    (positive : ∀ line ∈ buildLines userId plan, 0 < line.amount)
    (posted : (buildLines userId plan).foldlM postLine ledger = .ok ledger')
    (covered : plan.liquidityNeed ≤ projectionForAccount ledger (treasury plan.liquidityAsset))
    (isLiquidity : account.kind = .liquidity) (nonneg : 0 ≤ projectionForAccount ledger account) :
    0 ≤ projectionForAccount ledger' account := by
  obtain ⟨earlier, line, later, isLines, takes⟩ := buildLines_takes sound userId
  by_cases own : account = line.account
  · subst own
    rw [isLines] at posted
    have single := postLines_single posted
      (fun other member same => (takes.others other (List.mem_append_left _ member)
        ((congrArg Account.kind same).trans isLiquidity)).1 same)
      fun other member same => (takes.others other (List.mem_append_right _ member)
        ((congrArg Account.kind same).trans isLiquidity)).1 same
    rw [single, takes.direction, takes.amount, takes.account]
    refine Numeric.rounded_nonneg ?_
    simp only [EntryDirection.signed]
    linarith
  · refine postLines_credited posted positive (fun other member same => ?_) nonneg
    have kind : other.kind = .liquidity := (congrArg Account.kind same).trans isLiquidity
    rw [isLines] at member
    rcases List.mem_append.mp member with before | after
    · exact (takes.others other (List.mem_append_left _ before) kind).2
    rcases List.mem_cons.mp after with rfl | after
    · exact (own same.symm).elim
    · exact (takes.others other (List.mem_append_right _ after) kind).2

theorem May.settles {input : LedgerPostingInput QuoteId} (call' : May past (.post input)) :
    ∃ userId quoteId plan, input = settlement userId quoteId plan ∧ Quoted userId quoteId plan past := by
  cases call' with
  | neutral neutral => cases neutral
  | post quoted covered unconverted => exact ⟨_, _, _, rfl, quoted⟩

private theorem mem_plans {snapshot : QuoteSnapshot}
    (member : ⟨.getSnapshot quoteId, .ok (some snapshot)⟩ ∈ past) : snapshot.plan ∈ plans past :=
  List.mem_filterMap.mpr ⟨_, member, rfl⟩

/-- A posting that is new finds the plan covered. -/
theorem covered_of_new {input : LedgerPostingInput QuoteId} {txn : LedgerTransaction QuoteId}
    (kept : keeps x pid ⟨.post input, .ok txn⟩) (quoted : Quoted userId quoteId plan (x.past pid))
    (isInput : input = settlement userId quoteId plan)
    (fresh : findExistingPosting x.store.ledger input.referenceType input.referenceId = none) :
    covers x.store plan := by
  subst isInput
  have unposted : x.store.ledger.isPosted REFERENCE_TYPE quoteId = false := isPosted_of_fresh (by decide) fresh
  have all : (plans (x.past pid)).all (covers x.store) := by
    simpa [keeps, Except.isOk, Except.toBool, settlement, unposted] using kept
  obtain ⟨-, snapshot, read, -, rfl⟩ := quoted
  exact List.all_eq_true.mp all _ (mem_plans read)

/-- Every call leaves the treasury solvent. -/
theorem solvent_step (consistent : Consistent x) (solvent : Solvent x.store) (call' : May (x.past pid) call)
    (made : followed pid call x reply s') : Solvent s' := by
  obtain ⟨makes, kept⟩ := made
  intro account isLiquidity
  have nonneg := solvent account isLiquidity
  rcases makes.effect.ledger with ⟨input, answer, isPost, ran⟩ | ⟨same, -⟩
  · cases isPost
    rcases post_cases ran with ⟨failure, -, same⟩ | ⟨txn, -, same, -⟩ | ⟨txn, rfl, recorded, fresh⟩
    · rwa [same]
    · rwa [same]
    obtain ⟨userId, quoteId, plan, isInput, quoted⟩ := May.settles call'
    have covered := covered_of_new kept quoted isInput fresh
    obtain ⟨snapshot, read, -, isPlan⟩ := quoted.snapshot
    have sound := (consistent.owned quoteId snapshot (.read read)).1
    obtain ⟨ledger', posted, isLedger⟩ := recorded.lines
    have positive := recorded.positive
    rw [isInput] at posted positive
    rw [isPlan] at sound
    have settled := settled_nonneg sound positive posted (of_decide_eq_true covered) isLiquidity nonneg
    simpa only [projectionForAccount, Ledger.Store.balance?, isLedger] using settled
  · rwa [same]

/-! ## Runs -/

/-- The tables before the first quote, with a treasury that is solvent. -/
def Funded (s : Store) : Prop := Opening s ∧ Solvent s

structure Kept (x : History) : Prop where
  consistent : Consistent x
  solvent : Solvent x.store

/-- In every run in which new postings find their plans covered, the treasury
stays solvent. -/
theorem never_oversold {pool : ConversionPool}
    (run : Logged.Run followed (IsRequest config requests) Funded pool) : Solvent pool.store.store := by
  have kept : Kept pool.store := by
    refine run.inv (fun pid program => isRequest_obeys) ?_ ?_
    · rintro s ⟨opening, solvent⟩
      exact ⟨consistent_initial opening, solvent⟩
    · intro x pid call reply s' kept call' made
      exact ⟨consistent_step kept.consistent call' made.1, solvent_step kept.consistent kept.solvent call' made⟩
  exact kept.solvent

/-! ## Two users -/

/-- Users 7 and 8 get a quote each and execute it. -/
private def together : ℕ → Request
  | 1 => .createQuote 7 .inrToUsdt 1000
  | 2 => .createQuote 8 .inrToUsdt 1000
  | 3 => .executeConversion 7 1
  | _ => .executeConversion 8 2

/-- The treasury holds 15 USDT: enough for one of them. -/
private theorem openTreasury_funded : Funded (openTreasury 15) := by
  refine ⟨openTreasury_opening 15, fun account isLiquidity => ?_⟩
  have rows : ((openTreasury 15).ledger.accounts.rows.all fun (account, balance) =>
      account.kind ≠ .liquidity || 0 ≤ balance.getD 0) = true := by decide +kernel
  unfold projectionForAccount Ledger.Store.balance?
  cases found : (openTreasury 15).ledger.accounts.lookup account with
  | none => exact le_refl 0
  | some balance =>
    have row := List.all_eq_true.mp rows _ (Table.mem_rows.mpr found)
    simpa [isLiquidity] using row

/-- One after the other, the second is turned away. -/
theorem never_oversold_in_turn : ∃ pool : ConversionPool, Solvent pool.store.store ∧
    (conversionsOf pool.store.store 1).length = 1 ∧ (pool.programs.lookup 4).any Async.isDone := by
  have played : (schedule smallConfig (fun _ => ⟨0, 0⟩) (fun _ _ => false)
      (fun pid call x reply => keeps x pid ⟨call, reply⟩) together [1, 2, 3, 4]
      [(1, 9), (2, 9), (3, 9), (4, 9)] (openTreasury 15)).map (fun pool =>
        ((conversionsOf pool.store.store 1).length, (pool.programs.lookup 4).any Async.isDone)) =
          some (1, true) := by decide +kernel
  obtain ⟨pool, scheduled, facts⟩ := Option.map_eq_some_iff.mp played
  obtain ⟨one, isDone⟩ := Prod.mk.inj facts
  have run : Logged.Run followed (IsRequest smallConfig together) Funded pool :=
    schedule_run openTreasury_funded (fun _ _ _ _ _ kept makes => ⟨makes, kept⟩) scheduled
  exact ⟨pool, never_oversold run, one, isDone⟩

/-- Both read the balance before either posts. -/
theorem oversold : ¬∀ pool : ConversionPool,
    Logged.Run interleaved (IsRequest smallConfig together) Funded pool → Solvent pool.store.store := by
  intro solvent
  have played : (schedule smallConfig (fun _ => ⟨0, 0⟩) (fun _ _ => false) (fun _ _ _ _ => true) together
      [1, 2, 3, 4] [(1, 9), (2, 9), (3, 6), (4, 6), (3, 9), (4, 9)] (openTreasury 15)).map (fun pool =>
        decide (projectionForAccount pool.store.store.ledger (treasury USDT) < 0)) = some true := by
    decide +kernel
  obtain ⟨pool, scheduled, negative⟩ := Option.map_eq_some_iff.mp played
  have run : Logged.Run interleaved (IsRequest smallConfig together) Funded pool :=
    schedule_run openTreasury_funded (fun _ _ _ _ _ _ makes => makes) scheduled
  exact absurd (solvent pool run (treasury USDT) rfl) (not_le.mpr (of_decide_eq_true negative))

end Exchange.Conversions.Liquidity
