import Exchange.ComplianceEffects
import Exchange.ComplianceRules

/-! Levels that an admin has set. Every operation ends in a score that is
written over the level, and no score is told what the admin said; the level
stays up where what is read for the score calls for it anyway. -/
namespace Exchange.Compliance.Overrides
open Async Service

/-! ## Writes to a profile -/

/-- The write that was made. -/
def writes : Answered ComplianceCall ComplianceCall.Reply Failure → Option (UserId × ProfileUpdate)
  | ⟨.upsertProfile userId update, .ok _⟩ => some (userId, update)
  | ⟨.updateProfile userId update, .ok _⟩ => some (userId, update)
  | _ => none

variable {config : Config} {requests : ℕ → Request} {pid : ℕ} {call : ComplianceCall}
  {reply : Except Failure call.Reply} {s s' : Store} {userId : UserId} {update : ProfileUpdate}
  {made : Answered ComplianceCall ComplianceCall.Reply Failure} {profile : ComplianceProfile} {level : ComplianceRiskLevel}

theorem writes_read {value : call.Reply} (isRead : call.isRead) : writes ⟨call, .ok value⟩ = none := by
  cases call <;> first | rfl | cases isRead

theorem profiles_same (effect : Effect s made s') (nothing : writes made = none) : s'.profiles = s.profiles := by
  cases effect with
  | profileUpserted => cases nothing
  | profileUpdated => cases nothing
  | _ => rfl

theorem profiles_written (effect : Effect s made s') (wrote : writes made = some (userId, update)) :
    s'.profiles = s.profiles.insert userId (update.set (profileBefore s userId)) := by
  cases effect with
  | profileUpserted =>
    cases wrote
    rfl
  | profileUpdated =>
    cases wrote
    rfl
  | read isRead =>
    rw [writes_read isRead] at wrote
    cases wrote
  | failed =>
    unfold writes at wrote
    split at wrote
    · rename_i same
      cases same
    · rename_i same
      cases same
    · cases wrote
  | _ => cases wrote

theorem set_riskLevel : (update.set profile).riskLevel = (ProfileUpdate.level? update).getD profile.riskLevel := by
  cases update <;> rfl

/-! ## Overrides -/

/-- The level that is set for a user after a write. -/
def overrideAfter (userId : UserId) (before : Option ComplianceRiskLevel) :
    Option (UserId × ProfileUpdate) → Option ComplianceRiskLevel
  | some (other, .override level _ _) => if other = userId then some level else before
  | _ => before

/-- The level an admin has set last for a user. -/
def overrideOf (userId : UserId) : List Event → Option ComplianceRiskLevel
  | [] => none
  | (_, made) :: rest => overrideAfter userId (overrideOf userId rest) (writes made)

/-- No profile is below what an admin has set for it. -/
def Persists (x : History) : Prop :=
  ∀ userId level, overrideOf userId x.history = some level →
    ∃ profile, x.store.profiles.lookup userId = some profile ∧ level ≤ profile.riskLevel

/-- What was read for a score calls for the level that was set. -/
def isOrderly (config : Config) (x : History) (pid : ℕ) : ComplianceCall → Bool
  | .updateProfile userId (.scored _) =>
    match signalsOf userId (x.past pid), overrideOf userId x.history with
    | some input, some level => Sustains input config.risk level
    | _, _ => true
  | _ => true

def followed (config : Config) (pid : ℕ) (call : ComplianceCall) (x : History) (reply : Except Failure call.Reply)
    (s' : Store) : Prop :=
  Makes pid call x.store reply s' ∧ isOrderly config x pid call

variable {x : History} {pool : CompliancePool} {history : List Event}

theorem overrideAfter_other {other : UserId} {before : Option ComplianceRiskLevel} (ne : other ≠ userId) :
    overrideAfter userId before (some (other, update)) = before := by
  cases update with
  | override => exact if_neg ne
  | _ => rfl

/-- A score that is written is that of what the request has read. -/
theorem scored_read {past : Past} {result : RiskScoreResult} (may : May config past call)
    (wrote : writes ⟨call, reply⟩ = some (userId, .scored result)) :
    ∃ input, signalsOf userId past = some input ∧ result = scoreCustomerRisk input config.risk ∧
      call = .updateProfile userId (.scored result) := by
  unfold writes at wrote
  split at wrote
  · rename_i same
    cases same
    cases wrote
    cases may with
    | free free => cases free
  · rename_i same
    cases same
    cases wrote
    generalize isCall : ComplianceCall.updateProfile userId (.scored result) = call at may ⊢
    cases may with
    | free free =>
      subst isCall
      cases free
    | @scored other input read =>
      injection isCall with sameUser sameUpdate
      injection sameUpdate with isResult
      subst sameUser isResult
      exact ⟨input, read, rfl, rfl⟩
    | override => injection isCall with _ sameUpdate; cases sameUpdate
  · cases wrote

theorem scored_persists {result : RiskScoreResult} (may : May config (x.past pid) call)
    (orderly : isOrderly config x pid call) (wrote : writes ⟨call, reply⟩ = some (userId, .scored result))
    (overridden : overrideOf userId x.history = some level) : level ≤ result.level := by
  obtain ⟨input, read, rfl, rfl⟩ := scored_read may wrote
  simp only [isOrderly, read, overridden, decide_eq_true_eq] at orderly
  exact le_level_iff.mpr orderly

/-- A write to a profile keeps what is set for its user. -/
theorem kept_write (kept : Persists x) (may : May config (x.past pid) call) (orderly : isOrderly config x pid call)
    (wrote : writes ⟨call, reply⟩ = some (userId, update))
    (overridden : overrideAfter userId (overrideOf userId x.history) (some (userId, update)) = some level) :
    level ≤ (update.set (profileBefore x.store userId)).riskLevel := by
  rw [set_riskLevel]
  cases update with
  | override =>
    rw [overrideAfter, if_pos rfl] at overridden
    cases overridden
    exact le_refl _
  | scored result => exact scored_persists may orderly wrote overridden
  | _ =>
    obtain ⟨profile, found, above⟩ := kept userId level overridden
    rw [profileBefore, found]
    exact above

theorem kept_step (kept : Persists x) (may : May config (x.past pid) call) (made : followed config pid call x reply s') :
    Persists ⟨s', (pid, ⟨call, reply⟩) :: x.history⟩ := by
  obtain ⟨makes, orderly⟩ := made
  intro userId level overridden
  rw [overrideOf] at overridden
  cases wrote : writes ⟨call, reply⟩ with
  | none =>
    rw [wrote] at overridden
    rw [profiles_same makes.effect wrote]
    exact kept userId level overridden
  | some write =>
    obtain ⟨other, update⟩ := write
    rw [wrote] at overridden
    rw [profiles_written makes.effect wrote]
    by_cases isUser : other = userId
    · subst isUser
      exact ⟨_, AList.lookup_insert _, kept_write kept may orderly wrote overridden⟩
    · rw [overrideAfter_other isUser] at overridden
      rw [AList.lookup_insert_ne (Ne.symm isUser)]
      exact kept userId level overridden

/-- A score whose signals do not call for the level goes below it. -/
theorem unsustained_lowers {result : RiskScoreResult} (may : May config (x.past pid) call)
    (wrote : writes ⟨call, reply⟩ = some (userId, .scored result))
    (overridden : overrideOf userId x.history = some level) (makes : Makes pid call x.store reply s')
    (disorderly : isOrderly config x pid call = false) :
    ∃ profile, s'.profiles.lookup userId = some profile ∧ profile.riskLevel < level := by
  refine ⟨_, profiles_written makes.effect wrote ▸ AList.lookup_insert _, ?_⟩
  obtain ⟨input, read, rfl, rfl⟩ := scored_read may wrote
  simp only [isOrderly, read, overridden, decide_eq_false_iff_not] at disorderly
  exact not_le.mp fun above => disorderly (le_level_iff.mp above)

def defaultConfig : Config where
  risk := ⟨true, true, .medium⟩
  monitoring := ⟨7, 10000, 3, 60, 10000, 3, 100000⟩

/-- A profile against which nothing speaks. -/
def cleanProfile : ComplianceProfile where
  status := .approved
  countryOfResidence := some "IN".toList
  panLast4 := some "123F".toList
  aadhaarLast4 := some "9012".toList
  livenessStatus := .passed
  sanctionsStatus := .clear
  pepStatus := .clear
  adverseMediaStatus := .clear
  geoCaptureStatus := .captured
  riskLevel := .low
  riskScore := 0
  riskReason := none

def cleanStore : Store :=
  { Store.ofUsers [7] with profiles := (∅ : Table UserId ComplianceProfile).insert 7 cleanProfile }

/-- What the providers answer where liveness passes, or fails. -/
def worldWith (liveness : LivenessStatus) : World := ⟨0, liveness, [], ⟨.low, .clear, 0⟩⟩

def requestsOf (level : ComplianceRiskLevel) : ℕ → Request
  | 0 => .setRisk 7 level none (some "manual review")
  | _ => .verifyLiveness 7

abbrev schedule (level : ComplianceRiskLevel) (liveness : LivenessStatus)
    (allows : ℕ → (call : ComplianceCall) → History → Except Failure call.Reply → Bool) : Option CompliancePool :=
  Database.schedule perform (fun _ => worldWith liveness) (fun _ _ => false) allows
    (fun pid => (requestsOf level pid).program defaultConfig pid) [0, 1] [(0, 9), (1, 9)] cleanStore

end Exchange.Compliance.Overrides
