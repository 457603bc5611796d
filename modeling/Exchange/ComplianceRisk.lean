import Exchange.KycCompliance
import Mathlib.Order.Basic

/-! The risk score of a customer: reasons with weights, added up and cut into
levels. Some reasons block outright whatever the sum. -/
namespace Exchange.Compliance
open Kyc (ScreeningStatus)

inductive ComplianceRiskLevel where
  | low
  | medium
  | high
  | prohibited
  deriving DecidableEq, Repr

def ComplianceRiskLevel.rank : ComplianceRiskLevel → ℕ
  | .low => 0
  | .medium => 1
  | .high => 2
  | .prohibited => 3

theorem ComplianceRiskLevel.rank_injective : Function.Injective rank := by
  intro a b same
  cases a <;> cases b <;> first | rfl | cases same

instance : LinearOrder ComplianceRiskLevel := .lift' _ ComplianceRiskLevel.rank_injective

inductive LivenessStatus where
  | notStarted
  | pending
  | passed
  | failed
  | reviewRequired
  deriving DecidableEq, Repr

inductive RiskAdminFlag where
  | none
  | high
  | prohibited
  deriving DecidableEq, Repr

structure RiskScoreInput where
  countryOfResidence : Option Text
  hasPan : Bool
  hasAadhaar : Bool
  livenessStatus : LivenessStatus
  sanctionsStatus : ScreeningStatus
  pepStatus : ScreeningStatus
  adverseMediaStatus : ScreeningStatus
  /-- Prior reviews that rejected the user. -/
  rejectionCount : ℕ
  adminFlag : RiskAdminFlag
  geoCaptured : Bool
  openHighRiskCaseCount : ℕ

structure RiskScoreConfig where
  requireLiveness : Bool
  requireSanctionsBeforeApproval : Bool
  defaultRiskLevel : ComplianceRiskLevel

structure RiskReason where
  code : String
  message : String
  weight : ℕ
  deriving DecidableEq, Repr

structure RiskScoreResult where
  score : ℕ
  level : ComplianceRiskLevel
  reasons : List RiskReason
  deriving DecidableEq, Repr

/-! ## Reasons -/

def PROHIBITED_COUNTRIES : List Text := ["KP".toList, "IR".toList]

def HIGH_RISK_COUNTRIES : List Text := ["MM".toList, "SY".toList, "AF".toList, "YE".toList]

/-- Upper case without surrounding space; empty counts as missing. -/
def norm (country : Option Text) : Option Text :=
  (country.map fun country => Text.toUpperCase (Text.trim country)).filter fun country => !country.isEmpty

/-- The reason, if it applies. -/
def add (applies : Bool) (code message : String) (weight : ℕ) : List RiskReason :=
  if applies then [⟨code, message, weight⟩] else []

variable (input : RiskScoreInput) (cfg : RiskScoreConfig)

def hardBlocks : List RiskReason :=
  add (input.adminFlag = .prohibited) "ADMIN_PROHIBITED" "Manually flagged PROHIBITED by an administrator" 100 ++
  add (input.sanctionsStatus = .hit) "SANCTIONS_HIT" "Sanctions screening returned a positive hit" 100 ++
  add (input.livenessStatus = .failed) "LIVENESS_FAILED" "Liveness check failed" 60

def geography : List RiskReason :=
  match norm input.countryOfResidence with
  | none => [⟨"MISSING_COUNTRY", "Country of residence is missing", 25⟩]
  | some country =>
    if country ∈ PROHIBITED_COUNTRIES then
      [⟨"PROHIBITED_COUNTRY", s!"Country of residence {String.ofList country} is prohibited", 100⟩]
    else if country ∈ HIGH_RISK_COUNTRIES then
      [⟨"HIGH_RISK_COUNTRY", s!"Country of residence {String.ofList country} is high-risk", 40⟩]
    else []

def identityCompleteness : List RiskReason :=
  add (!input.hasPan) "MISSING_PAN" "PAN not provided" 20 ++
  add (!input.hasAadhaar) "MISSING_AADHAAR" "Aadhaar reference not provided" 10

def behavioural : List RiskReason :=
  if 2 ≤ input.rejectionCount then
    [⟨"REPEATED_REJECTION", s!"{input.rejectionCount} prior KYC rejections", 25⟩]
  else add (input.rejectionCount = 1) "PRIOR_REJECTION" "One prior KYC rejection" 10

def adminSignal : List RiskReason :=
  add (input.adminFlag = .high) "ADMIN_HIGH_RISK" "Manually flagged HIGH risk by an administrator" 50

/-- Capped, so that cases alone do not prohibit. -/
def monitoringCases : List RiskReason :=
  add (0 < input.openHighRiskCaseCount) "OPEN_COMPLIANCE_CASE"
    s!"{input.openHighRiskCaseCount} open HIGH/CRITICAL compliance case(s)" (min 40 (input.openHighRiskCaseCount * 25))

def screeningSignals : List RiskReason :=
  add (input.pepStatus = .hit) "PEP_HIT" "Politically Exposed Person match" 40 ++
  add (input.adverseMediaStatus = .hit) "ADVERSE_MEDIA" "Adverse media match" 20 ++
  add (input.sanctionsStatus = .reviewRequired) "SANCTIONS_REVIEW" "Possible sanctions match needs review" 50 ++
  add (input.pepStatus = .reviewRequired) "PEP_REVIEW" "Possible PEP match needs review" 30 ++
  add (input.adverseMediaStatus = .reviewRequired) "ADVERSE_MEDIA_REVIEW"
    "Possible adverse-media match needs review" 15 ++
  add (cfg.requireSanctionsBeforeApproval && input.sanctionsStatus = .notScreened) "SANCTIONS_NOT_SCREENED"
    "Sanctions screening required but not completed" 15

def livenessSignals : List RiskReason :=
  if input.livenessStatus = .reviewRequired then
    [⟨"LIVENESS_REVIEW", "Liveness check needs manual review", 20⟩]
  else add (cfg.requireLiveness && (input.livenessStatus = .notStarted || input.livenessStatus = .pending))
    "LIVENESS_INCOMPLETE" "Liveness required but not completed" 15

def minorSignals : List RiskReason :=
  add (!input.geoCaptured) "GEO_NOT_CAPTURED" "Onboarding geo/IP evidence was not captured" 5

def riskReasons : List RiskReason :=
  hardBlocks input ++ geography input ++ identityCompleteness input ++ behavioural input ++ adminSignal input ++
    monitoringCases input ++ screeningSignals input cfg ++ livenessSignals input cfg ++ minorSignals input

/-! ## The score -/

/-- Reasons that prohibit whatever the sum is. -/
def forceProhibited : Bool :=
  input.adminFlag = .prohibited || input.sanctionsStatus = .hit || input.livenessStatus = .failed ||
    (norm input.countryOfResidence).any fun country => country ∈ PROHIBITED_COUNTRIES

def totalWeight : ℕ := ((riskReasons input cfg).map RiskReason.weight).sum

def levelOfScore (score : ℕ) : ComplianceRiskLevel :=
  if 75 ≤ score then .prohibited
  else if 50 ≤ score then .high
  else if 20 ≤ score then .medium
  else .low

def scoreCustomerRisk : RiskScoreResult :=
  let reasons := riskReasons input cfg
  let score := min 100 (totalWeight input cfg)
  let level := if forceProhibited input then .prohibited
    else if reasons = [] then cfg.defaultRiskLevel
    else levelOfScore score
  ⟨score, level, reasons⟩

/-! ## What keeps a level up -/

/-- The least sum of a level. -/
def ComplianceRiskLevel.threshold : ComplianceRiskLevel → ℕ
  | .low => 0
  | .medium => 20
  | .high => 50
  | .prohibited => 75

/-- The signals call for a level: they block outright, or weigh enough, or there
are none and the default does. -/
def Sustains (level : ComplianceRiskLevel) : Prop :=
  forceProhibited input ∨
    (riskReasons input cfg = [] ∧ level ≤ cfg.defaultRiskLevel) ∨
    (riskReasons input cfg ≠ [] ∧ level.threshold ≤ totalWeight input cfg)

instance (level : ComplianceRiskLevel) : Decidable (Sustains input cfg level) :=
  inferInstanceAs (Decidable (_ ∨ _))

variable {input cfg} {level : ComplianceRiskLevel} {score : ℕ}

theorem le_prohibited (level : ComplianceRiskLevel) : level ≤ .prohibited := by
  cases level <;> decide

theorem le_iff_rank {a b : ComplianceRiskLevel} : a ≤ b ↔ a.rank ≤ b.rank := Iff.rfl

theorem le_levelOfScore : level ≤ levelOfScore score ↔ level.threshold ≤ score := by
  rw [le_iff_rank, levelOfScore]
  split_ifs with prohibited high medium
  all_goals
    cases level
    all_goals
      simp only [ComplianceRiskLevel.rank, ComplianceRiskLevel.threshold]
      omega

/-- A level is reached exactly where the signals call for it. -/
theorem le_level_iff : level ≤ (scoreCustomerRisk input cfg).level ↔ Sustains input cfg level := by
  unfold scoreCustomerRisk Sustains
  dsimp only
  split
  · rename_i forced
    exact ⟨fun _ => .inl forced, fun _ => le_prohibited level⟩
  rename_i unforced
  split
  · rename_i empty
    simp [unforced, empty]
  · rename_i nonempty
    have capped : level.threshold ≤ min 100 (totalWeight input cfg) ↔ level.threshold ≤ totalWeight input cfg := by
      rw [le_min_iff, and_iff_right]
      cases level <;> decide
    simp [unforced, nonempty, le_levelOfScore, capped]

/-- A flag of the administrator calls for its level by itself. -/
theorem flagged_sustains :
    (input.adminFlag = .prohibited → Sustains input cfg .prohibited) ∧
      (input.adminFlag = .high → Sustains input cfg .high) := by
  refine ⟨fun flagged => .inl ?_, fun flagged => ?_⟩
  · simp [forceProhibited, flagged]
  · have member : ⟨"ADMIN_HIGH_RISK", "Manually flagged HIGH risk by an administrator", 50⟩ ∈ riskReasons input cfg := by
      simp [riskReasons, adminSignal, add, flagged]
    refine .inr (.inr ⟨List.ne_nil_of_mem member, ?_⟩)
    have weight := List.mem_map_of_mem (f := RiskReason.weight) member
    exact List.single_le_sum (fun _ _ => Nat.zero_le _) 50 weight

end Exchange.Compliance
