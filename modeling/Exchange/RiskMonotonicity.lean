import Exchange.ComplianceRisk

/-! Worse signals against better ones. The weights add up monotonically, signal
by signal. The level does too, except from an input without any signal: that one
has the configured default, and a single light signal is graded below it. -/
namespace Exchange.Compliance
open Kyc (ScreeningStatus)

/-! ## Signals in order -/

/-- The same value, or one further up the scale; values off the scale compare
with themselves only. -/
def AtLeastAsBad (severity : α → Option ℕ) (a b : α) : Prop :=
  a = b ∨ ∃ m n, severity a = some m ∧ severity b = some n ∧ m ≤ n

def flagSeverity : RiskAdminFlag → Option ℕ
  | .none => some 0
  | .high => some 1
  | .prohibited => some 2

def screeningSeverity : ScreeningStatus → Option ℕ
  | .clear => some 0
  | .reviewRequired => some 1
  | .hit => some 2
  | _ => none

def livenessSeverity : LivenessStatus → Option ℕ
  | .passed => some 0
  | .reviewRequired => some 1
  | .failed => some 2
  | _ => none

/-- Of a country as `norm` leaves it. -/
def countrySeverity : Option Text → Option ℕ
  | none => none
  | some country =>
    if country ∈ PROHIBITED_COUNTRIES then some 2
    else if country ∈ HIGH_RISK_COUNTRIES then some 1
    else some 0

/-- Each signal of the second input is at least as bad as that of the first. -/
structure Worse (x y : RiskScoreInput) : Prop where
  adminFlag : AtLeastAsBad flagSeverity x.adminFlag y.adminFlag
  sanctionsStatus : AtLeastAsBad screeningSeverity x.sanctionsStatus y.sanctionsStatus
  pepStatus : AtLeastAsBad screeningSeverity x.pepStatus y.pepStatus
  adverseMediaStatus : AtLeastAsBad screeningSeverity x.adverseMediaStatus y.adverseMediaStatus
  livenessStatus : AtLeastAsBad livenessSeverity x.livenessStatus y.livenessStatus
  country : AtLeastAsBad countrySeverity (norm x.countryOfResidence) (norm y.countryOfResidence)
  hasPan : y.hasPan → x.hasPan
  hasAadhaar : y.hasAadhaar → x.hasAadhaar
  geoCaptured : y.geoCaptured → x.geoCaptured
  rejectionCount : x.rejectionCount ≤ y.rejectionCount
  openHighRiskCaseCount : x.openHighRiskCaseCount ≤ y.openHighRiskCaseCount

/-- A value for each of three places on a scale. -/
def graded (mild middling severe : β) : ℕ → β
  | 0 => mild
  | 1 => middling
  | _ => severe

theorem graded_mono [Preorder β] {mild middling severe : β} (low : mild ≤ middling) (high : middling ≤ severe) :
    Monotone (graded mild middling severe) := by
  refine monotone_nat_of_le_succ fun n => ?_
  match n with
  | 0 => exact low
  | 1 => exact high
  | _ + 2 => exact le_refl _

/-- A measure that goes up along the scale goes up with the signal. -/
theorem AtLeastAsBad.mono [Preorder β] {severity : α → Option ℕ} {scale : ℕ → β}
    (worse : AtLeastAsBad severity a b) (measure : α → β) (up : Monotone scale)
    (placed : ∀ a n, severity a = some n → measure a = scale n) : measure a ≤ measure b := by
  rcases worse with rfl | ⟨m, n, before, after, le⟩
  · exact le_refl _
  · rw [placed a m before, placed b n after]
    exact up le

/-! ## The weight of each signal -/

section Weights
variable (cfg : RiskScoreConfig)

def flagWeight : RiskAdminFlag → ℕ
  | .none => 0
  | .high => 50
  | .prohibited => 100

def sanctionsWeight : ScreeningStatus → ℕ
  | .hit => 100
  | .reviewRequired => 50
  | .notScreened => if cfg.requireSanctionsBeforeApproval then 15 else 0
  | _ => 0

def pepWeight : ScreeningStatus → ℕ
  | .hit => 40
  | .reviewRequired => 30
  | _ => 0

def adverseMediaWeight : ScreeningStatus → ℕ
  | .hit => 20
  | .reviewRequired => 15
  | _ => 0

def livenessWeight : LivenessStatus → ℕ
  | .failed => 60
  | .reviewRequired => 20
  | .notStarted | .pending => if cfg.requireLiveness then 15 else 0
  | .passed => 0

def countryWeight : Option Text → ℕ
  | none => 25
  | some country =>
    if country ∈ PROHIBITED_COUNTRIES then 100
    else if country ∈ HIGH_RISK_COUNTRIES then 40
    else 0

def missingWeight (present : Bool) (weight : ℕ) : ℕ := if present then 0 else weight

def rejectionWeight (count : ℕ) : ℕ := if 2 ≤ count then 25 else if count = 1 then 10 else 0

def caseWeight (count : ℕ) : ℕ := min 40 (count * 25)

end Weights

variable {input x y : RiskScoreInput} {cfg : RiskScoreConfig}

/-- What the reasons of a list weigh together. -/
def weigh (reasons : List RiskReason) : ℕ := (reasons.map RiskReason.weight).sum

theorem weigh_append (reasons others : List RiskReason) : weigh (reasons ++ others) = weigh reasons + weigh others := by
  rw [weigh, weigh, weigh, List.map_append, List.sum_append]

theorem weigh_add (applies : Bool) (code message : String) (weight : ℕ) :
    weigh (add applies code message weight) = if applies then weight else 0 := by
  cases applies with
  | true => simp [weigh, add]
  | false => rfl

theorem weigh_single (code message : String) (weight : ℕ) : weigh [⟨code, message, weight⟩] = weight := by
  simp [weigh]

theorem weigh_geography : weigh (geography input) = countryWeight (norm input.countryOfResidence) := by
  unfold geography
  cases norm input.countryOfResidence with
  | none => exact weigh_single _ _ _
  | some country =>
    simp only [countryWeight]
    split_ifs
    · exact weigh_single _ _ _
    · exact weigh_single _ _ _
    · rfl

theorem weigh_behavioural : weigh (behavioural input) = rejectionWeight input.rejectionCount := by
  unfold behavioural rejectionWeight
  split
  · exact weigh_single _ _ _
  · rw [weigh_add]
    simp

theorem weigh_monitoringCases : weigh (monitoringCases input) = caseWeight input.openHighRiskCaseCount := by
  rw [monitoringCases, weigh_add, caseWeight]
  cases input.openHighRiskCaseCount with
  | zero => rfl
  | succ count => simp

/-- Every signal weighs by itself. -/
theorem totalWeight_eq : totalWeight input cfg =
    flagWeight input.adminFlag + sanctionsWeight cfg input.sanctionsStatus + pepWeight input.pepStatus +
      adverseMediaWeight input.adverseMediaStatus + livenessWeight cfg input.livenessStatus +
      countryWeight (norm input.countryOfResidence) + missingWeight input.hasPan 20 +
      missingWeight input.hasAadhaar 10 + missingWeight input.geoCaptured 5 +
      rejectionWeight input.rejectionCount + caseWeight input.openHighRiskCaseCount := by
  have flag : flagWeight input.adminFlag =
      (if input.adminFlag = .prohibited then 100 else 0) + if input.adminFlag = .high then 50 else 0 := by
    cases input.adminFlag <;> rfl
  have sanctions : sanctionsWeight cfg input.sanctionsStatus =
      (if input.sanctionsStatus = .hit then 100 else 0) + (if input.sanctionsStatus = .reviewRequired then 50 else 0) +
        if (cfg.requireSanctionsBeforeApproval && input.sanctionsStatus = .notScreened) = true then 15 else 0 := by
    cases input.sanctionsStatus <;> simp [sanctionsWeight]
  have pep : pepWeight input.pepStatus =
      (if input.pepStatus = .hit then 40 else 0) + if input.pepStatus = .reviewRequired then 30 else 0 := by
    cases input.pepStatus <;> rfl
  have adverse : adverseMediaWeight input.adverseMediaStatus =
      (if input.adverseMediaStatus = .hit then 20 else 0) + if input.adverseMediaStatus = .reviewRequired then 15 else 0 := by
    cases input.adverseMediaStatus <;> rfl
  have liveness : livenessWeight cfg input.livenessStatus =
      (if input.livenessStatus = .failed then 60 else 0) + weigh (livenessSignals input cfg) := by
    unfold livenessSignals
    cases input.livenessStatus <;> simp [livenessWeight, weigh_single, weigh_add]
  have missing : ∀ (present : Bool) (weight : ℕ),
      missingWeight present weight = if (!present) = true then weight else 0 := by
    intro present weight
    cases present <;> rfl
  rw [flag, sanctions, pep, adverse, liveness, missing, missing, missing, ← weigh_geography, ← weigh_behavioural,
    ← weigh_monitoringCases]
  change weigh (riskReasons input cfg) = _
  simp only [riskReasons, hardBlocks, identityCompleteness, adminSignal, screeningSignals, minorSignals, weigh_append,
    weigh_add, decide_eq_true_eq]
  ring

/-! ## Worse signals weigh more -/

theorem flagWeight_mono (worse : AtLeastAsBad flagSeverity a b) : flagWeight a ≤ flagWeight b := by
  refine worse.mono _ (graded_mono (show 0 ≤ 50 by decide) (show 50 ≤ 100 by decide)) fun a n placed => ?_
  cases a <;> cases placed <;> rfl

theorem sanctionsWeight_mono (worse : AtLeastAsBad screeningSeverity a b) :
    sanctionsWeight cfg a ≤ sanctionsWeight cfg b := by
  refine worse.mono _ (graded_mono (show 0 ≤ 50 by decide) (show 50 ≤ 100 by decide)) fun a n placed => ?_
  cases a <;> cases placed <;> rfl

theorem pepWeight_mono (worse : AtLeastAsBad screeningSeverity a b) : pepWeight a ≤ pepWeight b := by
  refine worse.mono _ (graded_mono (show 0 ≤ 30 by decide) (show 30 ≤ 40 by decide)) fun a n placed => ?_
  cases a <;> cases placed <;> rfl

theorem adverseMediaWeight_mono (worse : AtLeastAsBad screeningSeverity a b) :
    adverseMediaWeight a ≤ adverseMediaWeight b := by
  refine worse.mono _ (graded_mono (show 0 ≤ 15 by decide) (show 15 ≤ 20 by decide)) fun a n placed => ?_
  cases a <;> cases placed <;> rfl

theorem livenessWeight_mono (worse : AtLeastAsBad livenessSeverity a b) :
    livenessWeight cfg a ≤ livenessWeight cfg b := by
  refine worse.mono _ (graded_mono (show 0 ≤ 20 by decide) (show 20 ≤ 60 by decide)) fun a n placed => ?_
  cases a <;> cases placed <;> rfl

theorem countryWeight_mono (worse : AtLeastAsBad countrySeverity a b) : countryWeight a ≤ countryWeight b := by
  refine worse.mono _ (graded_mono (show 0 ≤ 40 by decide) (show 40 ≤ 100 by decide)) fun country n placed => ?_
  cases country with
  | none => cases placed
  | some country =>
    simp only [countrySeverity] at placed
    simp only [countryWeight]
    split_ifs at placed ⊢ <;> cases placed <;> rfl

theorem missingWeight_mono (worse : b = true → a = true) (weight : ℕ) : missingWeight a weight ≤ missingWeight b weight := by
  cases b with
  | true => rw [worse rfl]
  | false => cases a <;> simp [missingWeight]

theorem rejectionWeight_mono : Monotone rejectionWeight := by
  intro m n le
  unfold rejectionWeight
  split_ifs <;> omega

theorem caseWeight_mono : Monotone caseWeight := by
  intro m n le
  exact min_le_min_left 40 (Nat.mul_le_mul_right 25 le)

theorem Worse.totalWeight_le (worse : Worse x y) : totalWeight x cfg ≤ totalWeight y cfg := by
  rw [totalWeight_eq, totalWeight_eq]
  have flag := flagWeight_mono worse.adminFlag
  have sanctions : sanctionsWeight cfg _ ≤ sanctionsWeight cfg _ := sanctionsWeight_mono worse.sanctionsStatus
  have pep := pepWeight_mono worse.pepStatus
  have adverse := adverseMediaWeight_mono worse.adverseMediaStatus
  have liveness : livenessWeight cfg _ ≤ livenessWeight cfg _ := livenessWeight_mono worse.livenessStatus
  have country := countryWeight_mono worse.country
  have pan := missingWeight_mono worse.hasPan 20
  have aadhaar := missingWeight_mono worse.hasAadhaar 10
  have geo := missingWeight_mono worse.geoCaptured 5
  have rejections := rejectionWeight_mono worse.rejectionCount
  have cases := caseWeight_mono worse.openHighRiskCaseCount
  omega

/-! ## Worse signals still block -/

theorem Worse.forceProhibited (worse : Worse x y) (forced : forceProhibited x) : forceProhibited y := by
  have up : Monotone (graded false false true) := graded_mono (le_refl _) (Bool.false_le _)
  have flag : decide (x.adminFlag = .prohibited) ≤ decide (y.adminFlag = .prohibited) := by
    refine worse.adminFlag.mono (fun flag => decide (flag = .prohibited)) up fun flag n placed => ?_
    cases flag <;> cases placed <;> rfl
  have sanctions : decide (x.sanctionsStatus = .hit) ≤ decide (y.sanctionsStatus = .hit) := by
    refine worse.sanctionsStatus.mono (fun status => decide (status = .hit)) up fun status n placed => ?_
    cases status <;> cases placed <;> rfl
  have liveness : decide (x.livenessStatus = .failed) ≤ decide (y.livenessStatus = .failed) := by
    refine worse.livenessStatus.mono (fun status => decide (status = .failed)) up fun status n placed => ?_
    cases status <;> cases placed <;> rfl
  have country : (norm x.countryOfResidence).any (fun country => country ∈ PROHIBITED_COUNTRIES) ≤
      (norm y.countryOfResidence).any fun country => country ∈ PROHIBITED_COUNTRIES := by
    refine worse.country.mono (fun country => country.any fun country => country ∈ PROHIBITED_COUNTRIES) up
      fun country n placed => ?_
    cases country with
    | none => cases placed
    | some country =>
      simp only [countrySeverity] at placed
      split_ifs at placed with prohibited <;> cases placed <;> simp [prohibited, graded]
  simp only [Compliance.forceProhibited, Bool.or_eq_true] at forced ⊢
  rcases forced with ((isFlag | isHit) | isFailed) | isCountry
  · exact .inl (.inl (.inl (flag isFlag)))
  · exact .inl (.inl (.inr (sanctions isHit)))
  · exact .inl (.inr (liveness isFailed))
  · exact .inr (country isCountry)

/-! ## Inputs without a signal -/

/-- Some signal speaks against the customer. -/
def shows (cfg : RiskScoreConfig) (input : RiskScoreInput) : Bool :=
  input.adminFlag ≠ .none ||
    (input.sanctionsStatus ∈ [.hit, .reviewRequired] ||
      (cfg.requireSanctionsBeforeApproval && input.sanctionsStatus = .notScreened)) ||
    input.pepStatus ∈ [.hit, .reviewRequired] ||
    input.adverseMediaStatus ∈ [.hit, .reviewRequired] ||
    (input.livenessStatus ∈ [.failed, .reviewRequired] ||
      (cfg.requireLiveness && input.livenessStatus ∈ [.notStarted, .pending])) ||
    (norm input.countryOfResidence).all (fun country => country ∈ PROHIBITED_COUNTRIES ++ HIGH_RISK_COUNTRIES) ||
    !input.hasPan || !input.hasAadhaar || !input.geoCaptured ||
    1 ≤ input.rejectionCount || 1 ≤ input.openHighRiskCaseCount

theorem add_eq_nil {applies : Bool} {code message : String} {weight : ℕ} :
    add applies code message weight = [] ↔ applies = false := by
  cases applies <;> simp [add]

theorem geography_eq_nil : geography input = [] ↔ (norm input.countryOfResidence).all
    (fun country => country ∈ PROHIBITED_COUNTRIES ++ HIGH_RISK_COUNTRIES) = false := by
  unfold geography
  cases norm input.countryOfResidence with
  | none => simp
  | some country =>
    dsimp only
    split_ifs with prohibited high
    · simp [prohibited]
    · simp [high]
    · simp [prohibited, high]

/-- Every signal gives a reason. -/
theorem riskReasons_eq_nil : riskReasons input cfg = [] ↔ shows cfg input = false := by
  have behaves : behavioural input = [] ↔ input.rejectionCount = 0 := by
    unfold behavioural
    split
    · simp
      omega
    · rw [add_eq_nil, decide_eq_false_iff_not]
      omega
  have live : livenessSignals input cfg = [] ↔ input.livenessStatus ≠ .reviewRequired ∧
      (cfg.requireLiveness && input.livenessStatus ∈ [.notStarted, .pending]) = false := by
    unfold livenessSignals
    split
    · rename_i review
      simp [review]
    · rename_i other
      rw [add_eq_nil]
      simp [other]
  simp only [riskReasons, hardBlocks, identityCompleteness, adminSignal, monitoringCases, screeningSignals, minorSignals,
    List.append_eq_nil_iff, add_eq_nil, geography_eq_nil, behaves, live, shows]
  cases input.adminFlag with
  | none =>
    simp
    grind
  | high => simp
  | prohibited => simp

theorem weight_pos : ∀ reason ∈ riskReasons input cfg, 0 < reason.weight := by
  have added : ∀ (applies : Bool) (code message : String) (weight : ℕ), (applies = true → 0 < weight) →
      ∀ reason ∈ add applies code message weight, 0 < reason.weight := by
    intro applies code message weight positive reason member
    cases applies with
    | false => cases member
    | true =>
      obtain rfl := List.mem_singleton.mp member
      exact positive rfl
  have placed : ∀ reason ∈ geography input, 0 < reason.weight := by
    unfold geography
    split
    · simp
    · split_ifs <;> simp
  have behaved : ∀ reason ∈ behavioural input, 0 < reason.weight := by
    unfold behavioural
    split
    · simp
    · exact added _ _ _ _ fun _ => by decide
  have cases : ∀ reason ∈ monitoringCases input, 0 < reason.weight := by
    refine added _ _ _ _ fun some => ?_
    have count := of_decide_eq_true some
    omega
  have live : ∀ reason ∈ livenessSignals input cfg, 0 < reason.weight := by
    unfold livenessSignals
    split
    · simp
    · exact added _ _ _ _ fun _ => by decide
  simp only [riskReasons, hardBlocks, identityCompleteness, adminSignal, screeningSignals, minorSignals,
    List.forall_mem_append]
  refine ⟨⟨⟨⟨⟨⟨⟨⟨⟨⟨?_, ?_⟩, ?_⟩, placed⟩, ⟨?_, ?_⟩⟩, behaved⟩, ?_⟩, cases⟩, ⟨⟨⟨⟨⟨?_, ?_⟩, ?_⟩, ?_⟩, ?_⟩, ?_⟩⟩, live⟩, ?_⟩
  all_goals exact added _ _ _ _ fun _ => by decide

/-- What shows a signal weighs something. -/
theorem totalWeight_pos : 0 < totalWeight input cfg ↔ shows cfg input := by
  rw [← Bool.not_eq_false, ← @riskReasons_eq_nil input]
  constructor
  · rintro positive none
    simp [totalWeight, none] at positive
  · intro some
    obtain ⟨reason, member⟩ := List.exists_mem_of_ne_nil _ some
    have weighs := List.single_le_sum (fun _ _ => Nat.zero_le _) _ (List.mem_map_of_mem (f := RiskReason.weight) member)
    exact (weight_pos reason member).trans_le weighs

theorem shows_of_forceProhibited (forced : forceProhibited input) : shows cfg input := by
  simp only [forceProhibited, Bool.or_eq_true, decide_eq_true_eq] at forced
  rcases forced with ((isFlag | isHit) | isFailed) | isCountry
  · simp [shows, isFlag]
  · simp [shows, isHit]
  · simp [shows, isFailed]
  · cases found : norm input.countryOfResidence with
    | none => simp [found] at isCountry
    | some country =>
      rw [found] at isCountry
      have prohibited : country ∈ PROHIBITED_COUNTRIES := by simpa using isCountry
      simp [shows, found, prohibited]

theorem Worse.shows (worse : Worse x y) (some : shows cfg x) : shows cfg y :=
  totalWeight_pos.mp ((totalWeight_pos.mpr some).trans_le worse.totalWeight_le)

/-! ## The score and the level -/

theorem Worse.score_le (worse : Worse x y) : (scoreCustomerRisk x cfg).score ≤ (scoreCustomerRisk y cfg).score :=
  min_le_min_left 100 worse.totalWeight_le

/-- A level that weights or blocks call for, worse signals call for as well. -/
theorem Worse.level_le (worse : Worse x y) (signals : cfg.defaultRiskLevel = .low ∨ Compliance.shows cfg x) :
    (scoreCustomerRisk x cfg).level ≤ (scoreCustomerRisk y cfg).level := by
  rw [le_level_iff]
  rcases le_level_iff.mp (le_refl (scoreCustomerRisk x cfg).level) with forced | ⟨empty, least⟩ | ⟨some, enough⟩
  · exact .inl (worse.forceProhibited forced)
  · rcases signals with isLow | shown
    · rw [isLow] at least
      by_cases none : riskReasons y cfg = []
      · exact .inr (.inl ⟨none, isLow ▸ least⟩)
      · have lowest := le_antisymm least (Nat.zero_le _)
        rw [lowest]
        exact .inr (.inr ⟨none, Nat.zero_le _⟩)
    · rw [riskReasons_eq_nil.mp empty] at shown
      cases shown
  · have shown := worse.shows (Bool.of_not_eq_false fun none => some (riskReasons_eq_nil.mpr none))
    refine .inr (.inr ⟨fun none => ?_, enough.trans worse.totalWeight_le⟩)
    rw [riskReasons_eq_nil.mp none] at shown
    cases shown

/-- The same customer without geo evidence. -/
def withoutGeo (input : RiskScoreInput) : RiskScoreInput := { input with geoCaptured := false }

theorem worse_withoutGeo (input : RiskScoreInput) : Worse input (withoutGeo input) where
  adminFlag := .inl rfl
  sanctionsStatus := .inl rfl
  pepStatus := .inl rfl
  adverseMediaStatus := .inl rfl
  livenessStatus := .inl rfl
  country := .inl rfl
  hasPan := id
  hasAadhaar := id
  geoCaptured captured := by cases captured
  rejectionCount := le_refl _
  openHighRiskCaseCount := le_refl _

/-- One missing signal, of weight 5, is graded LOW. -/
theorem level_withoutGeo (none : shows cfg input = false) :
    (scoreCustomerRisk input cfg).level = cfg.defaultRiskLevel ∧
      (scoreCustomerRisk (withoutGeo input) cfg).level = .low := by
  have empty := riskReasons_eq_nil.mpr none
  have unforced : forceProhibited input = false := by
    refine Bool.eq_false_iff.mpr fun forced => ?_
    rw [shows_of_forceProhibited forced] at none
    cases none
  have captured : input.geoCaptured = true := by
    simp only [shows, Bool.or_eq_false_iff, Bool.not_eq_false'] at none
    exact none.1.1.2
  have before : totalWeight input cfg = 0 := by simp [totalWeight, empty]
  have after : totalWeight (withoutGeo input) cfg = 5 := by
    rw [totalWeight_eq] at before ⊢
    have present : missingWeight input.geoCaptured 5 = 0 := by rw [captured]; rfl
    have missing : missingWeight (withoutGeo input).geoCaptured 5 = 5 := rfl
    simp only [missing]
    dsimp only [withoutGeo]
    omega
  have some : riskReasons (withoutGeo input) cfg ≠ [] := by
    intro none
    simp [totalWeight, none] at after
  have free : forceProhibited (withoutGeo input) = false := unforced
  simp [scoreCustomerRisk, unforced, free, empty, some, after, levelOfScore]

/-- For every configuration and every input, all worse inputs score and grade at
least as high exactly if the configured default is LOW or the input shows a
signal. -/
theorem risk_monotone_iff (cfg : RiskScoreConfig) (x : RiskScoreInput) :
    (∀ y, Worse x y → (scoreCustomerRisk x cfg).score ≤ (scoreCustomerRisk y cfg).score ∧
      (scoreCustomerRisk x cfg).level ≤ (scoreCustomerRisk y cfg).level) ↔
    cfg.defaultRiskLevel = .low ∨ shows cfg x := by
  refine ⟨fun monotone => ?_, fun signals y worse => ⟨worse.score_le, worse.level_le signals⟩⟩
  by_contra neither
  obtain ⟨notLow, none⟩ := not_or.mp neither
  obtain ⟨before, after⟩ := level_withoutGeo (by simpa using none)
  have level := (monotone (withoutGeo x) (worse_withoutGeo x)).2
  rw [before, after] at level
  exact notLow (le_antisymm level (Nat.zero_le _))

/-- A customer from India against whom nothing speaks. -/
def spotless : RiskScoreInput :=
  ⟨some "IN".toList, true, true, .passed, .clear, .clear, .clear, 0, .none, true, 0⟩

/-- With the default MEDIUM of the environment, missing geo evidence takes the
customer from MEDIUM to LOW. -/
theorem missing_geo_lowers :
    ¬∀ (cfg : RiskScoreConfig) (x y : RiskScoreInput), Worse x y →
      (scoreCustomerRisk x cfg).score ≤ (scoreCustomerRisk y cfg).score ∧
        (scoreCustomerRisk x cfg).level ≤ (scoreCustomerRisk y cfg).level := by
  intro monotone
  have level := (monotone ⟨true, true, .medium⟩ spotless (withoutGeo spotless) (worse_withoutGeo spotless)).2
  exact absurd level (by decide +kernel)

end Exchange.Compliance
