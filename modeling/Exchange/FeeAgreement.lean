import Exchange.AsyncServices
import Exchange.ConversionFees
import Exchange.TradingFees
import Exchange.WithdrawalFees

/-! The report of fees against the ledger. Trades, withdrawals and conversions
draw on the same balances; each service keeps rows of its own, from which the
report is computed, next to what it has posted. -/
namespace Exchange.FeeAgreement
open Ledger Reports

/-! ## Three services -/

inductive Part where
  | trading
  | withdrawal
  | conversion
  deriving DecidableEq

abbrev CallOf : Part → Type
  | .trading => Trading.TradingCall
  | .withdrawal => Withdrawal.WithdrawalCall
  | .conversion => Conversions.ConversionCall

abbrev ReplyOf : (part : Part) → CallOf part → Type
  | .trading => Trading.TradingCall.Reply
  | .withdrawal => Withdrawal.WithdrawalCall.Reply
  | .conversion => Conversions.ConversionCall.Reply

abbrev StoreOf : Part → Type
  | .trading => Trading.Store
  | .withdrawal => Withdrawal.Store
  | .conversion => Conversions.Store

/-- The tables of the services. Each has its postings, under references of its
own; the balances are those of one ledger. -/
structure Store where
  trading : Trading.Store
  withdrawal : Withdrawal.Store
  conversion : Conversions.Store
  balances : withdrawal.ledger.accounts = trading.ledger.accounts ∧
    conversion.ledger.accounts = trading.ledger.accounts

def Store.view : (part : Part) → Store → StoreOf part
  | .trading, s => s.trading
  | .withdrawal, s => s.withdrawal
  | .conversion, s => s.conversion

/-- A service's tables, with balances others have changed. -/
def withAccounts (accounts : Table Account (Option Decimal)) : (part : Part) → StoreOf part → StoreOf part
  | .trading, s => { s with ledger := { s.ledger with accounts } }
  | .withdrawal, s => { s with ledger := { s.ledger with accounts } }
  | .conversion, s => { s with ledger := { s.ledger with accounts } }

def Store.afterTrading (s : Store) (trading : Trading.Store) : Store where
  trading := trading
  withdrawal := withAccounts trading.ledger.accounts .withdrawal s.withdrawal
  conversion := withAccounts trading.ledger.accounts .conversion s.conversion
  balances := ⟨rfl, rfl⟩

def Store.afterWithdrawal (s : Store) (withdrawal : Withdrawal.Store) : Store where
  trading := withAccounts withdrawal.ledger.accounts .trading s.trading
  withdrawal := withdrawal
  conversion := withAccounts withdrawal.ledger.accounts .conversion s.conversion
  balances := ⟨rfl, rfl⟩

def Store.afterConversion (s : Store) (conversion : Conversions.Store) : Store where
  trading := withAccounts conversion.ledger.accounts .trading s.trading
  withdrawal := withAccounts conversion.ledger.accounts .withdrawal s.withdrawal
  conversion := conversion
  balances := ⟨rfl, rfl⟩

/-- The time, the signer, and the row `findFirst` takes when several match. -/
structure World where
  now : ℕ
  signer : Withdrawal.Signer
  findFirst : ℕ

/-- What a call of request `pid` does. Only a lock that is held blocks. -/
def perform (world : World) (pid : ℕ) :
    (call : AnyCall CallOf) → Store → Option (Except Failure (AnyReply ReplyOf call) × Store)
  | ⟨.trading, call⟩, s =>
    (Trading.perform pid world.now call s.trading).map fun (reply, trading) => (reply, s.afterTrading trading)
  | ⟨.withdrawal, call⟩, s =>
    let (reply, withdrawal) := Withdrawal.perform world.signer pid world.now call s.withdrawal
    some (reply, s.afterWithdrawal withdrawal)
  | ⟨.conversion, call⟩, s =>
    let (reply, conversion) := Conversions.perform ⟨world.now, world.findFirst⟩ pid call s.conversion
    some (reply, s.afterConversion conversion)

structure Config where
  withdrawal : Withdrawal.Config
  conversion : Conversions.Config

inductive Request where
  | trading (request : Trading.Service.Request)
  | withdrawal (request : Withdrawal.Service.Request)
  | conversion (request : Conversions.Service.Request)

abbrev ServicesM := Async (AnyCall CallOf) (AnyReply ReplyOf) Failure

/-- What a conversion answers with does not matter here. -/
def answerless (config : Conversions.Config) (request : Conversions.Service.Request) : Conversions.ConversionM Unit := do
  let _ ← request.program config

def Request.program (config : Config) : Request → ServicesM Unit
  | .trading request => Async.lift Part.trading request.program
  | .withdrawal request => Async.lift Part.withdrawal (request.program config.withdrawal)
  | .conversion request => Async.lift Part.conversion (answerless config.conversion request)

def IsRequest (config : Config) (_ : ℕ) (program : ServicesM Unit) : Prop :=
  ∃ request : Request, program = request.program config

abbrev History := Logged ℕ (AnyCall CallOf) (AnyReply ReplyOf) Failure Store

abbrev ServicesPool := Pool ℕ (AnyCall CallOf) (AnyReply ReplyOf) Failure Unit History

/-! ## Runs -/

/-- A withdrawal's fail and finalize passes do not race. -/
def keepsApart (s : Store) : Answered (AnyCall CallOf) (AnyReply ReplyOf) Failure → Bool
  | ⟨⟨.withdrawal, call⟩, reply⟩ => Withdrawal.Settlement.keepsApart s.withdrawal ⟨call, reply⟩
  | _ => true

/-- The row that records a settlement is accepted by its table; a conversion's
is the first of its quote. -/
def isRecordable (pid : ℕ) (s : Store) : AnyCall CallOf → Bool
  | ⟨.trading, call⟩ => Trading.Fees.isRecordable s.trading call
  | ⟨.withdrawal, _⟩ => true
  | ⟨.conversion, call⟩ => Conversions.Fees.isRecordable pid s.conversion call

def interleaved (pid : ℕ) (call : AnyCall CallOf) (x : History) (reply : Except Failure (AnyReply ReplyOf call))
    (s' : Store) : Prop :=
  (∃ world, perform world pid call x.store = some (reply, s')) ∧ keepsApart x.store ⟨call, reply⟩

def followed (pid : ℕ) (call : AnyCall CallOf) (x : History) (reply : Except Failure (AnyReply ReplyOf call))
    (s' : Store) : Prop :=
  interleaved pid call x reply s' ∧ isRecordable pid x.store call

/-- Nothing has been traded, withdrawn or quoted, and no fee was ever credited. -/
structure Opening (s : Store) : Prop where
  untraded : Trading.Service.Untraded s.trading
  unused : Withdrawal.Service.Unused s.withdrawal
  unquoted : Conversions.Opening s.conversion
  unfinal : s.withdrawal.ledger.ofType Withdrawal.Service.REF_FINAL = []
  unconverted : s.conversion.ledger.ofType Conversions.REFERENCE_TYPE = []
  trading : ∀ txn ∈ s.trading.ledger.transactions, txn.fees = []
  withdrawal : ∀ txn ∈ s.withdrawal.ledger.transactions, txn.fees = []
  conversion : ∀ txn ∈ s.conversion.ledger.transactions, txn.fees = []

/-! ## The report -/

/-- What the postings with one type of reference have credited. -/
def creditsOf {ρ : Type} (ledger : Ledger.Store ρ) (reference asset : String) : ℚ :=
  Charges.totalIn ((ledger.ofType reference).flatMap LedgerTransaction.fees) asset

/-- The fees of the conversions that were executed. -/
def conversionFees (s : Store) (asset : String) : ℚ :=
  Charges.totalIn ((s.conversion.conversions.rows.map Prod.snd).flatMap Conversions.Fees.chargesOf) asset

/-- All entries of the ledger. -/
def Store.entries (s : Store) : List LedgerEntry :=
  s.trading.ledger.transactions.flatMap LedgerTransaction.entries ++
    s.withdrawal.ledger.transactions.flatMap LedgerTransaction.entries ++
    s.conversion.ledger.transactions.flatMap LedgerTransaction.entries

/-- What the queries answer with, in whatever order. -/
structure Answers (s : Store) (rows : FeeRows) : Prop where
  trades : rows.trades.Perm (listTradesForFees s.trading.trades)
  withdrawals : rows.withdrawals.Perm (listCompletedWithdrawalsForFees s.withdrawal.withdrawals)
  ledgerRevenue : ∃ entries, entries.Perm s.entries ∧ rows.ledgerRevenue.Perm (feeRevenueLedgerByAsset entries)

/-- No sum of an asset's fees is rounded. -/
structure Fitting (rows : FeeRows) : Prop where
  trades : ∀ asset, Fits (Charges.amountsIn (rows.trades.flatMap TradeFeeRow.charges) asset)
  withdrawals : ∀ asset, Fits (Charges.amountsIn (rows.withdrawals.flatMap WithdrawalFeeRow.charges) asset)
  ledgerRevenue : ∀ asset, Fits (Charges.amountsIn (rows.ledgerRevenue.flatMap LedgerFeeRevenueRow.charges) asset)

structure Agrees (s : Store) (report : FeeReportDto) : Prop where
  trading : ∀ asset, totalOf report.tradingFees asset = creditsOf s.trading.ledger "trade" asset
  withdrawal : ∀ asset, totalOf report.withdrawalFees asset =
    creditsOf s.withdrawal.ledger Withdrawal.Service.REF_FINAL asset
  ledger : ∀ asset, totalOf report.ledgerFeeRevenue asset = creditsOf s.trading.ledger "trade" asset +
    creditsOf s.withdrawal.ledger Withdrawal.Service.REF_FINAL asset + conversionFees s asset

/-! ## Rules -/

/-- What a request of each service may do. -/
def may (config : Config) (pid : ℕ) :
    (part : Part) → List (Answered (CallOf part) (ReplyOf part) Failure) → CallOf part → Prop
  | .trading, past, call => Trading.Fees.pairing.Keeps past call
  | .withdrawal, past, call => (∃ requests, Withdrawal.Service.May config.withdrawal requests pid past call) ∧
      Withdrawal.Fees.pairing.Keeps past call
  | .conversion, past, call => Conversions.Service.May past call ∧ Conversions.Fees.pairing.Keeps past call

/-- No pair of calls is open. -/
def ends : (part : Part) → List (Answered (CallOf part) (ReplyOf part) Failure) → Prop
  | .trading, past => ¬Trading.Fees.pairing.Midway past
  | .withdrawal, past => ¬Withdrawal.Fees.pairing.Midway past
  | .conversion, past => ¬Conversions.Fees.pairing.Midway past

theorem ends_nil (part : Part) : ends part [] := by
  cases part <;> exact not_false

variable {config : Config} {x : History} {pid : ℕ} {call : AnyCall CallOf}
  {reply : Except Failure (AnyReply ReplyOf call)} {s s' : Store} {world : World} {part : Part}

theorem answerless_obeys (request : Conversions.Service.Request) :
    (answerless config.conversion request).Obeys (may config pid .conversion) (fun past _ => ends .conversion past) [] := by
  have ruled : (request.program config.conversion).Obeys Conversions.Service.May (Conversions.Service.ends request) [] :=
    @Conversions.Service.isRequest_obeys _ (fun _ => request) 0 _ rfl
  have whole : Conversions.Fees.pairing.Whole [] (request.program config.conversion) :=
    Conversions.Fees.program_whole request
  refine Async.obeys_bind.mpr ((ruled.and whole).imp fun past result ended => ?_)
  cases result <;> exact ended.2

/-- Every request follows its service's rules. -/
theorem isRequest_obeys {program : ServicesM Unit} (isRequest : IsRequest config pid program) :
    program.Obeys (AnyMay (may config pid)) (fun past _ => ∀ part, ends part (pastOf part past)) [] := by
  obtain ⟨request, rfl⟩ := isRequest
  cases request with
  | trading request =>
    have whole : Trading.Fees.pairing.Whole [] request.program := @Trading.Fees.isRequest_whole pid _ ⟨request, rfl⟩
    exact Async.Obeys.lift (i := Part.trading) whole ends_nil
  | withdrawal request =>
    have ruled : (request.program config.withdrawal).Obeys
        (Withdrawal.Service.may config.withdrawal (fun _ => request) pid) Withdrawal.Service.ends [] :=
      Withdrawal.Service.isRequest_obeys rfl
    have whole : Withdrawal.Fees.pairing.Whole [] (request.program config.withdrawal) :=
      Withdrawal.Fees.program_whole request
    refine Async.Obeys.lift (i := Part.withdrawal) ?_ ends_nil
    exact ((ruled.and whole).allow fun past call rules => ⟨⟨_, rules.1.1⟩, rules.2⟩).imp fun _ _ ended => ended.2
  | conversion request => exact Async.Obeys.lift (i := Part.conversion) (answerless_obeys request) ends_nil

/-! ## Invariants -/

/-- What each service keeps of its part. -/
def Kept : (part : Part) → Logged ℕ (CallOf part) (ReplyOf part) Failure (StoreOf part) → Prop
  | .trading, x => Trading.Fees.Kept x
  | .withdrawal, x => Withdrawal.Fees.Kept x
  | .conversion, x => Conversions.Fees.Kept x

theorem kept_opening (opening : Opening s) (part : Part) : Kept part ⟨s.view part, []⟩ := by
  cases part with
  | trading => exact Trading.Fees.kept_initial opening.untraded opening.trading
  | withdrawal => exact Withdrawal.Fees.kept_unused opening.unused opening.withdrawal opening.unfinal
  | conversion => exact Conversions.Fees.kept_initial opening.unquoted opening.conversion opening.unconverted

/-- Another service's call touches the balances only. -/
theorem view_other (ran : perform world pid call s = some (reply, s')) (other : call.1 ≠ part) :
    ∃ accounts, s'.view part = withAccounts accounts part (s.view part) := by
  obtain ⟨made, call⟩ := call
  cases made with
  | trading =>
    obtain ⟨⟨_, trading⟩, -, same⟩ := Option.map_eq_some_iff.mp ran
    cases same
    cases part with
    | trading => exact absurd rfl other
    | withdrawal => exact ⟨_, rfl⟩
    | conversion => exact ⟨_, rfl⟩
  | withdrawal =>
    cases ran
    cases part with
    | trading => exact ⟨_, rfl⟩
    | withdrawal => exact absurd rfl other
    | conversion => exact ⟨_, rfl⟩
  | conversion =>
    cases ran
    cases part with
    | trading => exact ⟨_, rfl⟩
    | withdrawal => exact ⟨_, rfl⟩
    | conversion => exact absurd rfl other

theorem kept_accounts {t : StoreOf part} {history : List (ℕ × Answered (CallOf part) (ReplyOf part) Failure)}
    (kept : Kept part ⟨t, history⟩) (accounts : Table Account (Option Decimal)) :
    Kept part ⟨withAccounts accounts part t, history⟩ := by
  cases part with
  | trading => exact Trading.Fees.Kept.accounts kept accounts
  | withdrawal => exact Withdrawal.Fees.Kept.accounts kept accounts
  | conversion => exact Conversions.Fees.Kept.accounts kept accounts

/-- A service's own call keeps its part. -/
theorem kept_own {call : CallOf part} {reply : Except Failure (ReplyOf part call)}
    (kept : Kept part (x.part Store.view part)) (call' : may config pid part ((x.part Store.view part).past pid) call)
    (made : followed pid ⟨part, call⟩ x reply s') :
    Kept part ⟨s'.view part, (pid, ⟨call, reply⟩) :: (x.part Store.view part).history⟩ := by
  obtain ⟨⟨⟨world, ran⟩, apart⟩, recordable⟩ := made
  cases part with
  | trading =>
    obtain ⟨⟨_, trading⟩, performed, same⟩ := Option.map_eq_some_iff.mp ran
    cases same
    exact Trading.Fees.kept_step kept call' performed recordable
  | withdrawal =>
    obtain ⟨⟨requests, rules⟩, keeps⟩ := call'
    cases performed : Withdrawal.perform world.signer pid world.now call x.store.withdrawal with
    | mk outcome withdrawal =>
      simp only [perform, performed] at ran
      cases ran
      exact Withdrawal.Fees.kept_step kept rules keeps performed apart
  | conversion =>
    cases performed : Conversions.perform ⟨world.now, world.findFirst⟩ pid call x.store.conversion with
    | mk outcome conversion =>
      simp only [perform, performed] at ran
      cases ran
      exact Conversions.Fees.kept_step kept call'.1 call'.2 performed recordable

/-- Every service keeps its part in every run of all. -/
theorem kept_run {pool : ServicesPool} (run : Logged.Run followed (IsRequest config) Opening pool) (part : Part) :
    Kept part (pool.store.part Store.view part) := by
  refine Logged.Run.parts Store.view (may config) Kept
    (fun _ _ isRequest => isRequest_obeys isRequest) (fun _ opening part => kept_opening opening part)
    (fun part x pid call reply s' kept call' made => kept_own kept call' made) ?_ run part
  intro part x pid call reply s' kept other made
  obtain ⟨⟨⟨world, ran⟩, -⟩, -⟩ := made
  obtain ⟨accounts, same⟩ := view_other ran other
  rw [same]
  exact kept_accounts kept accounts

/-! ## Agreement -/

/-- What is credited is something, in one of the two assets. -/
def Known (charges : Charges) : Prop := ∀ charge ∈ charges, 0 < charge.2 ∧ charge.1 ∈ ["INR", "USDT"]

theorem known_perm {charges charges' : Charges} (perm : charges.Perm charges'.positive)
    (assets : ∀ charge ∈ charges', charge.1 ∈ ["INR", "USDT"]) : Known charges := by
  intro charge member
  obtain ⟨isCharge, positive⟩ := List.mem_filter.mp (perm.mem_iff.mp member)
  exact ⟨of_decide_eq_true positive, assets charge isCharge⟩

theorem spelled {charges : Charges} (known : Known charges) : ∀ charge ∈ charges, ∀ other ∈ charges,
    citext charge.1 = citext other.1 → charge.1 = other.1 := by
  have differ : citext "INR" ≠ citext "USDT" := by decide +kernel
  intro charge member other member' same
  have isAsset := (known charge member).2
  have isAsset' := (known other member').2
  simp only [List.mem_cons, List.not_mem_nil, or_false] at isAsset isAsset'
  rcases isAsset with isAsset | isAsset <;> rcases isAsset' with isAsset' | isAsset' <;>
    simp_all [eq_comm]

section Quiet
variable {pool : ServicesPool} (run : Logged.Run followed (IsRequest config) Opening pool) (quiet : pool.Quiet)
include run quiet

/-- When no request is in flight, no pair of calls is open. -/
theorem at_rest (part : Part) (pid : ℕ) : ends part ((pool.store.part Store.view part).past pid) := by
  rw [Logged.past_part]
  have orderly := Logged.Run.orderly (fun _ _ isRequest => isRequest_obeys isRequest) run
  rcases orderly.quiet quiet pid with nothing | ⟨result, ended⟩
  · rw [nothing]
    exact ends_nil part
  · exact ended part

theorem trades_total (asset : String) : creditsOf pool.store.store.trading.ledger "trade" asset =
    Charges.totalIn ((listTradesForFees pool.store.store.trading.trades).flatMap TradeFeeRow.charges) asset :=
  Trading.Fees.Kept.total (kept_run run .trading) (at_rest run quiet .trading) asset

theorem withdrawals_total (asset : String) :
    creditsOf pool.store.store.withdrawal.ledger Withdrawal.Service.REF_FINAL asset =
      Charges.totalIn ((listCompletedWithdrawalsForFees pool.store.store.withdrawal.withdrawals).flatMap
        WithdrawalFeeRow.charges) asset :=
  Withdrawal.Fees.Kept.total (kept_run run .withdrawal) (at_rest run quiet .withdrawal) asset

theorem conversions_total (asset : String) :
    creditsOf pool.store.store.conversion.ledger Conversions.REFERENCE_TYPE asset = conversionFees pool.store.store asset :=
  Conversions.Fees.Kept.total (kept_run run .conversion) (at_rest run quiet .conversion) asset

omit quiet in
/-- The ledger's credits are those of the three kinds of postings. -/
theorem entries_fees : feesIn pool.store.store.entries =
    (pool.store.store.trading.ledger.ofType "trade").flatMap LedgerTransaction.fees ++
      (pool.store.store.withdrawal.ledger.ofType Withdrawal.Service.REF_FINAL).flatMap LedgerTransaction.fees ++
      (pool.store.store.conversion.ledger.ofType Conversions.REFERENCE_TYPE).flatMap LedgerTransaction.fees := by
  have trading : Trading.Fees.Kept _ := kept_run run .trading
  have withdrawal : Withdrawal.Fees.Kept _ := kept_run run .withdrawal
  have conversion : Conversions.Fees.Kept _ := kept_run run .conversion
  have parts : feesIn pool.store.store.entries =
      pool.store.store.trading.ledger.transactions.flatMap LedgerTransaction.fees ++
        pool.store.store.withdrawal.ledger.transactions.flatMap LedgerTransaction.fees ++
        pool.store.store.conversion.ledger.transactions.flatMap LedgerTransaction.fees := by
    simp only [← feesIn_flatMap]
    simp [feesIn, Store.entries]
  rw [parts]
  exact congrArg₂ _ (congrArg₂ _ trading.fees.all withdrawal.fees.all) conversion.fees.all

/-- Every credit is known. -/
theorem entries_known : Known (feesIn pool.store.store.entries) := by
  have trading : Trading.Fees.Kept _ := kept_run run .trading
  have withdrawal : Withdrawal.Fees.Kept _ := kept_run run .withdrawal
  have conversion : Conversions.Fees.Kept _ := kept_run run .conversion
  have known {ρ : Type} {transactions : List (LedgerTransaction ρ)} (each : ∀ txn ∈ transactions, Known txn.fees) :
      Known (transactions.flatMap LedgerTransaction.fees) := by
    intro charge member
    obtain ⟨txn, isTxn, isCharge⟩ := List.mem_flatMap.mp member
    exact each txn isTxn charge isCharge
  rw [entries_fees run]
  refine List.forall_mem_append.mpr ⟨List.forall_mem_append.mpr ⟨known fun txn member => ?_, known fun txn member => ?_⟩,
    known fun txn member => ?_⟩
  · obtain ⟨fillId, -, ⟨row, -, charged⟩ | ⟨-, input, earlier, isPast, isTrade, -⟩⟩ := trading.posted txn member
    · refine known_perm charged ?_
      cases isSide : row.makerSide <;>
        simp [Trading.Fees.chargesOf, TradeFeeRow.charges, isSide, feeAssetForSide, opposite, Trading.baseAsset,
          Trading.quoteAsset]
    · refine absurd ?_ (at_rest run quiet .trading fillId.1)
      have opened : Trading.Fees.pairing.Midway ((pool.store.part Store.view Part.trading).past fillId.1) := by
        rw [isPast]
        exact isTrade
      exact opened
  · obtain ⟨id, row, -, found, charged⟩ := withdrawal.charged txn member
    refine known_perm charged ?_
    simp [Withdrawal.Fees.chargesOf, WithdrawalFeeRow.charges, (withdrawal.columns id row found).asset, Withdrawal.ASSET]
  · obtain ⟨quoteId, snapshot, -, -, charged, -⟩ := conversion.posted txn member
    refine known_perm charged ?_
    simp [Conversions.Fees.planCharges, Conversions.INR]

end Quiet

/-- In every run in which settlements are recorded, the report agrees with the
ledger when no request is in flight, if no sum is rounded. -/
theorem report_agrees {pool : ServicesPool} (run : Logged.Run followed (IsRequest config) Opening pool)
    (quiet : pool.Quiet) {rows : FeeRows} (answers : Answers pool.store.store rows) (fitting : Fitting rows)
    (localeCompare : String → String → ℤ) (feeUsdt : Decimal) :
    Agrees pool.store.store (feeReport localeCompare feeUsdt {} rows) where
  trading asset := by
    have perm := answers.trades.flatMap_right TradeFeeRow.charges
    rw [trades_total run quiet, ← Charges.totalIn_perm (Charges.positive_perm perm)]
    exact reported localeCompare (fun _ _ => rfl) (fitting.trades asset)
  withdrawal asset := by
    have perm := answers.withdrawals.flatMap_right WithdrawalFeeRow.charges
    rw [withdrawals_total run quiet, ← Charges.totalIn_perm (Charges.positive_perm perm)]
    exact reported localeCompare (fun _ _ => rfl) (fitting.withdrawals asset)
  ledger asset := by
    obtain ⟨entries, isEntries, isRevenue⟩ := answers.ledgerRevenue
    have adds (map : Table String Decimal) (row : LedgerFeeRevenueRow) : addLedgerRevenue map row =
        row.charges.foldl (fun map charge => addAmount map charge.1 charge.2) map := by
      cases isAmount : row.amount <;> simp [addLedgerRevenue, LedgerFeeRevenueRow.charges, addAmount, isAmount]
    have perm := isRevenue.flatMap_right LedgerFeeRevenueRow.charges
    have fees : (feesIn entries).Perm (feesIn pool.store.store.entries) := (isEntries.filter _).map _
    have known : Known (feesIn entries) := fun charge member =>
      entries_known run quiet charge (fees.mem_iff.mp member)
    have total : totalOf (feeReport localeCompare feeUsdt {} rows).ledgerFeeRevenue asset =
        Charges.totalIn (feesIn entries) asset := by
      rw [← revenue_total (spelled known) (fun charge member => (known charge member).1) asset,
        ← Charges.totalIn_perm (Charges.positive_perm perm)]
      exact reported localeCompare adds (fitting.ledgerRevenue asset)
    rw [total, Charges.totalIn_perm (Charges.positive_perm fees), entries_fees run, Charges.totalIn_append,
      Charges.totalIn_append, ← conversions_total run quiet]
    rfl

/-! ## One platform -/

/-- User 1 has deposited 110 USDT, users 2 and 7 each 1000 INR, and the treasury
holds 100 USDT. -/
private def opened : Ledger.Store Trading.Reference :=
  let treasury : LedgerPostingInput Trading.Reference :=
    { kind := "FUNDING", lines := [⟨none, .gatewayClearing, "USDT", .debit, 100⟩, ⟨none, .liquidity, "USDT", .credit, 100⟩] }
  [Trading.Service.deposit 1 "USDT" 110, Trading.Service.deposit 2 "INR" 1000, Trading.Service.deposit 7 "INR" 1000,
    treasury].foldl (fun ledger input => (Ledger.post input ledger).2) ∅

def smallPlatform : Store where
  trading := { Trading.Service.smallExchange with ledger := opened }
  withdrawal := { Withdrawal.Service.smallBank with ledger := ⟨opened.accounts, []⟩ }
  conversion := { Conversions.openTreasury 0 with ledger := ⟨opened.accounts, []⟩ }
  balances := ⟨rfl, rfl⟩

theorem smallPlatform_opening : Opening smallPlatform where
  untraded := ⟨rfl, rfl, by decide +kernel, fun _ => rfl⟩
  unused := ⟨rfl, fun _ _ _ => rfl⟩
  unquoted := ⟨rfl, rfl, rfl, fun _ => rfl⟩
  unfinal := rfl
  unconverted := rfl
  trading := by decide +kernel
  withdrawal := nofun
  conversion := nofun

private def smallConfig : Config := ⟨Withdrawal.Service.smallConfig, Conversions.smallConfig⟩

/-- Twenty confirmations. -/
private def confirmed : World := ⟨0, Withdrawal.Service.mockSigner ⟨true, 20, true⟩, 0⟩

private def schedule (allows : ℕ → (call : AnyCall CallOf) → History → Except Failure (AnyReply ReplyOf call) → Bool)
    (requests : ℕ → Request) (arrivals : List ℕ) (turns : List (ℕ × ℕ)) : Option ServicesPool :=
  Logged.schedule (perform confirmed) allows (fun pid => (requests pid).program smallConfig) arrivals turns
    ⟨⟨smallPlatform, []⟩, ∅⟩

private theorem schedule_run {allows : ℕ → (call : AnyCall CallOf) → History → Except Failure (AnyReply ReplyOf call) → Bool}
    {step : ℕ → (call : AnyCall CallOf) → History → Except Failure (AnyReply ReplyOf call) → Store → Prop}
    {requests : ℕ → Request} {arrivals : List ℕ} {turns : List (ℕ × ℕ)} {pool : ServicesPool}
    (sound : ∀ pid call x reply s', perform confirmed pid call x.store = some (reply, s') → allows pid call x reply →
      step pid call x reply s')
    (played : schedule allows requests arrivals turns = some pool) :
    Logged.Run step (IsRequest smallConfig) Opening pool :=
  (Pool.Run.start ⟨smallPlatform_opening, rfl⟩).steps
    (Logged.schedule_steps sound (fun pid => ⟨requests pid, rfl⟩) played)

/-- A trade, a withdrawal and a conversion. -/
private def oneOfEach : ℕ → Request
  | 1 => .trading (.placeOrder 1 Trading.Service.sellOne)
  | 2 => .trading (.placeOrder 2 Trading.Service.buyOne)
  | 3 => .withdrawal (.requestWithdrawal 1 Withdrawal.Service.tenUsdt)
  | 4 => .withdrawal (.approve 3 (some 7))
  | 5 => .withdrawal .withdrawalCycle
  | 6 => .conversion (.createQuote 7 .inrToUsdt 1000)
  | _ => .conversion (.executeConversion 7 6)

/-- What the queries answer with, as it comes. -/
private def answersOf (s : Store) : FeeRows :=
  ⟨listTradesForFees s.trading.trades, listCompletedWithdrawalsForFees s.withdrawal.withdrawals,
    feeRevenueLedgerByAsset s.entries, []⟩

private theorem answers_answersOf (s : Store) : Answers s (answersOf s) :=
  ⟨.refl _, .refl _, s.entries, .refl _, .refl _⟩

/-- One amount for an asset is not rounded. -/
private theorem fits_once {charges : Charges} (distinct : (charges.map Prod.fst).Nodup)
    (short : ∀ charge ∈ charges, SignificantDigits.Short Decimal.precision charge.2) (asset : String) :
    Fits (charges.amountsIn asset) := by
  have one : (charges.amountsIn asset).length ≤ 1 := by
    have keys : (charges.positive.map Prod.fst).Nodup := distinct.sublist (List.filter_sublist.map Prod.fst)
    have once := List.nodup_iff_count_le_one.mp keys asset
    rw [List.count_eq_countP, List.countP_map, List.countP_eq_length_filter] at once
    simpa [Charges.amountsIn, Function.comp_def, beq_eq_decide] using once
  intro before isBefore
  cases before with
  | nil => exact SignificantDigits.significant_zero _
  | cons amount rest =>
    have none : rest = [] := by simpa using isBefore.length_le.trans one
    subst none
    obtain ⟨charge, isCharge, rfl⟩ := List.mem_map.mp (isBefore.subset List.mem_cons_self)
    simpa using short charge (List.mem_of_mem_filter (List.mem_of_mem_filter isCharge))

theorem report_agrees_once : ∃ (s : Store) (rows : FeeRows), creditsOf s.trading.ledger "trade" "INR" = 9 / 100 ∧
    creditsOf s.withdrawal.ledger Withdrawal.Service.REF_FINAL "USDT" = 1 ∧ conversionFees s "INR" = 2 ∧
    Agrees s (feeReport (fun _ _ => 0) 1 {} rows) := by
  have played : (schedule (fun pid call x reply => keepsApart x.store ⟨call, reply⟩ && isRecordable pid x.store call)
      oneOfEach [1, 2, 3, 4, 5, 6, 7] [(1, 100), (6, 100), (3, 100), (2, 5), (7, 4), (4, 100), (2, 100), (5, 100), (7, 100)]).map
        (fun pool => (pool.isQuiet, (creditsOf pool.store.store.trading.ledger "trade" "INR",
          creditsOf pool.store.store.withdrawal.ledger Withdrawal.Service.REF_FINAL "USDT",
          conversionFees pool.store.store "INR"), answersOf pool.store.store)) =
      some (true, (9 / 100, 1, 2),
        ⟨[⟨9 / 100, 1 / 500, .sell⟩], [⟨"USDT", 1⟩], [⟨"USDT", some (501 / 500)⟩, ⟨"INR", some (209 / 100)⟩], []⟩) := by
    decide +kernel
  obtain ⟨pool, scheduled, facts⟩ := Option.map_eq_some_iff.mp played
  simp only [Prod.mk.injEq] at facts
  obtain ⟨isQuiet, ⟨trading, withdrawal, conversion⟩, rows⟩ := facts
  have run : Logged.Run followed (IsRequest smallConfig) Opening pool := by
    refine schedule_run (fun pid call x reply s' ran allowed => ?_) scheduled
    obtain ⟨apart, recordable⟩ := Bool.and_eq_true_iff.mp allowed
    exact ⟨⟨⟨confirmed, ran⟩, apart⟩, recordable⟩
  have fitting : Fitting (answersOf pool.store.store) := by
    rw [rows]
    refine ⟨fits_once (by decide) ?_, fits_once (by decide) ?_, fits_once (by decide) ?_⟩ <;>
      (unfold SignificantDigits.Short; decide +kernel)
  exact ⟨pool.store.store, answersOf pool.store.store, trading, withdrawal, conversion,
    report_agrees run (Pool.quiet_of_isQuiet isQuiet) (answers_answersOf _) fitting _ _⟩

private def sellAt9001 : Trading.CreateOrderDto :=
  ⟨⟨"USDT-INR", .sell, .limit, some (9001 / 100), some 1, none, none⟩, by decide +kernel⟩

private def buyThirdAt9001 : Trading.CreateOrderDto :=
  ⟨⟨"USDT-INR", .buy, .limit, some (9001 / 100), some (333333 / 1000000), none, none⟩, by decide +kernel⟩

private def twoOrders : ℕ → Request
  | 1 => .trading (.placeOrder 1 sellAt9001)
  | _ => .trading (.placeOrder 2 buyThirdAt9001)

/-- A trade of 0.333333 USDT at 90.01 is settled at 30.00 INR, and then refused
by the checks of its table. The report does not know its fees. -/
theorem unrecorded_trade : ¬∀ (pool : ServicesPool) (rows : FeeRows),
    Logged.Run interleaved (IsRequest smallConfig) Opening pool → pool.Quiet → Answers pool.store.store rows →
      Agrees pool.store.store (feeReport (fun _ _ => 0) 1 {} rows) := by
  intro agree
  have played : (schedule (fun _ call x reply => keepsApart x.store ⟨call, reply⟩) twoOrders [1, 2]
      [(1, 100), (2, 100)]).map (fun pool => (pool.isQuiet, creditsOf pool.store.store.trading.ledger "trade" "INR",
        (answersOf pool.store.store).trades)) = some (true, 3 / 100, []) := by decide +kernel
  obtain ⟨pool, scheduled, facts⟩ := Option.map_eq_some_iff.mp played
  simp only [Prod.mk.injEq] at facts
  obtain ⟨isQuiet, credits, unrecorded⟩ := facts
  have run : Logged.Run interleaved (IsRequest smallConfig) Opening pool :=
    schedule_run (fun pid call x reply s' ran apart => ⟨⟨confirmed, ran⟩, apart⟩) scheduled
  have same : totalOf (totals (fun _ _ => 0) ((answersOf pool.store.store).trades.foldl addTrade ∅)) "INR" =
      creditsOf pool.store.store.trading.ledger "trade" "INR" :=
    (agree pool _ run (Pool.quiet_of_isQuiet isQuiet) (answers_answersOf _)).trading "INR"
  rw [credits, unrecorded] at same
  have nothing : totalOf (totals (fun _ _ => 0) (List.foldl addTrade ∅ [])) "INR" ≠ 3 / 100 := by decide +kernel
  exact nothing same

end Exchange.FeeAgreement
