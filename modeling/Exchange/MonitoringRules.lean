import Exchange.ComplianceRisk
import Mathlib.Data.List.Sort
import Mathlib.Data.Rat.Floor

/-! The rules of suspicious-transaction monitoring: from a snapshot of what one
user did, the alerts that it calls for. Amounts are exact, times are
milliseconds. -/
namespace Exchange.Compliance
open Kyc (ScreeningStatus)

abbrev UserId := ℕ

abbrev EntityId := ℕ

abbrev Time := ℤ

abbrev Day := ℤ

def DAY_MS : ℤ := 24 * 60 * 60 * 1000

/-- The UTC day of a time. -/
def dayBucket (time : Time) : Day := time / DAY_MS

inductive ActivityOutcome where
  | success
  | failed
  | pending
  deriving DecidableEq, Repr

structure TransferActivity where
  id : EntityId
  amount : ℚ
  outcome : ActivityOutcome
  time : Time
  deriving DecidableEq, Repr

structure TradeActivity where
  quoteAmount : ℚ
  time : Time
  deriving DecidableEq, Repr

structure MonitoringSnapshot where
  userId : UserId
  withdrawals : List TransferActivity
  deposits : List TransferActivity
  trades : List TradeActivity
  riskLevel : Option ComplianceRiskLevel
  sanctionsStatus : Option ScreeningStatus
  pepStatus : Option ScreeningStatus
  adverseMediaStatus : Option ScreeningStatus
  now : Time

structure MonitoringConfig where
  lookbackDays : ℕ
  highValueWithdrawal : ℚ
  failedWithdrawalCount : ℕ
  rapidWindowMinutes : ℕ
  structuringBand : ℚ
  structuringCount : ℕ
  abnormalTradingVolume : ℚ

/-! ## Alerts -/

inductive ComplianceAlertType where
  | highValueWithdrawal
  | rapidDepositWithdrawal
  | structuringPattern
  | abnormalTradingVolume
  | repeatedFailedWithdrawals
  | highRiskUserActivity
  | screeningRiskActivity
  | walletRiskActivity
  deriving DecidableEq, Repr

inductive ComplianceCasePriority where
  | low
  | medium
  | high
  | critical
  deriving DecidableEq, Repr

def ComplianceCasePriority.rank : ComplianceCasePriority → ℕ
  | .low => 0
  | .medium => 1
  | .high => 2
  | .critical => 3

theorem ComplianceCasePriority.rank_injective : Function.Injective rank := by
  intro a b same
  cases a <;> cases b <;> first | rfl | cases same

instance : LinearOrder ComplianceCasePriority := .lift' _ ComplianceCasePriority.rank_injective

/-- `HIGH_OR_CRITICAL`. -/
def ComplianceCasePriority.isHighOrCritical (priority : ComplianceCasePriority) : Bool :=
  priority = .high || priority = .critical

/-- The keys by which alerts are unique. That of a wallet alert holds chain and
address joined by a colon. -/
inductive AlertKey where
  | highValueWithdrawal (withdrawal : EntityId)
  | repeatedFailedWithdrawals (userId : UserId) (day : Day)
  | rapidDepositWithdrawal (deposit withdrawal : EntityId)
  | structuringPattern (userId : UserId) (day : Day)
  | abnormalTradingVolume (userId : UserId) (day : Day)
  | highRiskUserActivity (userId : UserId) (day : Day)
  | screeningRiskActivity (userId : UserId) (day : Day)
  | walletRisk (location : Text) (day : Day)
  deriving DecidableEq, Repr

structure AlertCandidate where
  type : ComplianceAlertType
  dedupeKey : AlertKey
  score : ℕ
  priority : ComplianceCasePriority
  deriving DecidableEq, Repr

def priorityFromScore (score : ℕ) : ComplianceCasePriority :=
  if 80 ≤ score then .critical
  else if 60 ≤ score then .high
  else if 35 ≤ score then .medium
  else .low

/-- `Math.round`: halves go up. -/
def round (n : ℚ) : ℤ := ⌊n + 1 / 2⌋

def clamp (n : ℚ) : ℕ := (max 0 (min 100 (round n))).toNat

def candidate (type : ComplianceAlertType) (dedupeKey : AlertKey) (score : ℚ) : AlertCandidate :=
  ⟨type, dedupeKey, clamp score, priorityFromScore (clamp score)⟩

/-! ## Rules -/

def cutoff (now : Time) (days : ℕ) : Time := now - days * DAY_MS

def withinLookback (items : List TransferActivity) (now : Time) (days : ℕ) : List TransferActivity :=
  items.filter fun item => cutoff now days ≤ item.time

variable (snap : MonitoringSnapshot) (cfg : MonitoringConfig)

def recentWithdrawals : List TransferActivity := withinLookback snap.withdrawals snap.now cfg.lookbackDays

def recentDeposits : List TransferActivity := withinLookback snap.deposits snap.now cfg.lookbackDays

def recentTrades : List TradeActivity :=
  snap.trades.filter fun trade => cutoff snap.now cfg.lookbackDays ≤ trade.time

/-- R1: one for each withdrawal at or above the threshold that did not fail. -/
def ruleHighValueWithdrawal : List AlertCandidate :=
  ((recentWithdrawals snap cfg).filter fun w => w.outcome ≠ .failed && cfg.highValueWithdrawal ≤ w.amount).map
    fun w =>
      let ratio := if 0 < cfg.highValueWithdrawal then w.amount / cfg.highValueWithdrawal else 1
      let score : ℚ := 60 + (if 2 ≤ ratio then 20 else 0) + (if 5 ≤ ratio then 20 else 0)
      candidate .highValueWithdrawal (.highValueWithdrawal w.id) score

/-- R2. -/
def ruleRepeatedFailedWithdrawals : List AlertCandidate :=
  let failed := (recentWithdrawals snap cfg).filter fun w => w.outcome = .failed
  if failed.length < cfg.failedWithdrawalCount then []
  else [candidate .repeatedFailedWithdrawals (.repeatedFailedWithdrawals snap.userId (dayBucket snap.now))
    (40 + ((failed.length : ℚ) - cfg.failedWithdrawalCount) * 10)]

/-- The earliest withdrawal from the deposit on, within the window. -/
def rapidMatch (withdrawals : List TransferActivity) (d : TransferActivity) : Option TransferActivity :=
  let windowMs : ℤ := cfg.rapidWindowMinutes * 60 * 1000
  ((withdrawals.filter fun w => d.time ≤ w.time && w.time - d.time ≤ windowMs).insertionSort
    fun a b => a.time ≤ b.time).head?

/-- R3: one for each deposit that is followed by a withdrawal. -/
def ruleRapidDepositWithdrawal : List AlertCandidate :=
  let deposits := (recentDeposits snap cfg).filter fun d => d.outcome = .success
  let withdrawals := (recentWithdrawals snap cfg).filter fun w => w.outcome ≠ .failed
  deposits.filterMap fun d => (rapidMatch cfg withdrawals d).map fun w =>
    let score : ℚ := 55 + (if 0 < d.amount ∧ d.amount * (4 / 5) ≤ w.amount then 15 else 0)
    candidate .rapidDepositWithdrawal (.rapidDepositWithdrawal d.id w.id) score

/-- R4: transfers in the upper half below the band. -/
def ruleStructuringPattern : List AlertCandidate :=
  let lower := cfg.structuringBand * (1 / 2)
  let all := (recentWithdrawals snap cfg ++ recentDeposits snap cfg).filter fun t => t.outcome ≠ .failed
  let justUnder := all.filter fun t => lower ≤ t.amount && t.amount < cfg.structuringBand
  if justUnder.length < cfg.structuringCount then []
  else [candidate .structuringPattern (.structuringPattern snap.userId (dayBucket snap.now))
    (65 + ((justUnder.length : ℚ) - cfg.structuringCount) * 5)]

/-- R5. -/
def ruleAbnormalTradingVolume : List AlertCandidate :=
  let volume := ((recentTrades snap cfg).map TradeActivity.quoteAmount).sum
  if volume < cfg.abnormalTradingVolume then []
  else
    let ratio := if 0 < cfg.abnormalTradingVolume then volume / cfg.abnormalTradingVolume else 1
    [candidate .abnormalTradingVolume (.abnormalTradingVolume snap.userId (dayBucket snap.now))
      (50 + min 40 ((ratio - 1) * 25))]

def hasRecentActivity : Bool :=
  !(recentWithdrawals snap cfg).isEmpty || !(recentDeposits snap cfg).isEmpty || !(recentTrades snap cfg).isEmpty

/-- R6. -/
def ruleHighRiskUserActivity : List AlertCandidate :=
  if !hasRecentActivity snap cfg then []
  else if snap.riskLevel ≠ some .high ∧ snap.riskLevel ≠ some .prohibited then []
  else [candidate .highRiskUserActivity (.highRiskUserActivity snap.userId (dayBucket snap.now))
    (if snap.riskLevel = some .prohibited then 85 else 55)]

/-- R7. -/
def ruleScreeningRiskActivity : List AlertCandidate :=
  let postures := [snap.sanctionsStatus, snap.pepStatus, snap.adverseMediaStatus]
  if !hasRecentActivity snap cfg then []
  else if some .hit ∉ postures ∧ some .reviewRequired ∉ postures then []
  else [candidate .screeningRiskActivity (.screeningRiskActivity snap.userId (dayBucket snap.now))
    (if some .hit ∈ postures then 85 else 55)]

def ALL_RULES : List (MonitoringSnapshot → MonitoringConfig → List AlertCandidate) :=
  [ruleHighValueWithdrawal, ruleRepeatedFailedWithdrawals, ruleRapidDepositWithdrawal, ruleStructuringPattern,
    ruleAbnormalTradingVolume, ruleHighRiskUserActivity, ruleScreeningRiskActivity]

def evaluateRules : List AlertCandidate := ALL_RULES.flatMap fun rule => rule snap cfg

end Exchange.Compliance
