import Exchange.KycEffects

/-! What an approval rests on. The gate asks whether a check blocks; a category
without a check does not, and checks of an earlier submission count. A
screening that fails leaves no check, and the submission goes on. -/
namespace Exchange.Kyc.Screening
open Service

variable {config : Config} {requests : ℕ → Request} {x : History} {pid id : ℕ} {call : KycCall}
  {reply : Except Failure call.Reply} {s' : Store} {category : ScreeningCategory} {check : ScreeningCheck}
  {pool : KycPool}

/-- A user who has submitted nothing and was never screened. -/
structure Opening (s : Store) : Prop where
  compliance : s.compliance = none
  checks : s.checks = []

/-- The check that a call stored. -/
def stored : Answered KycCall KycCall.Reply Failure → Option (ℕ × ScreeningCategory)
  | ⟨.createCheck category _, .ok id⟩ => some (id, category)
  | _ => none

/-- The checks that were stored, latest first. -/
def storedChecks (x : History) : List (ℕ × ScreeningCategory) := x.history.filterMap fun made => stored made.2

def isSubmission : Answered KycCall KycCall.Reply Failure → Bool
  | ⟨.upsertProfile _, .ok _⟩ => true
  | _ => false

/-- The calls since the latest submission. -/
def sinceSubmission (x : History) : List (ℕ × Answered KycCall KycCall.Reply Failure) :=
  x.history.takeWhile fun made => !isSubmission made.2

/-- Screens the identity of the profile. -/
def screensIdentity (profile : ComplianceProfile) : Answered KycCall KycCall.Reply Failure → Bool
  | ⟨.screen subject, .ok _⟩ => subject.fullName = profile.fullName && subject.nationality = profile.nationality &&
      subject.countryOfResidence = profile.countryOfResidence
  | _ => false

/-- Stored since the latest submission, by a request that screened its identity. -/
def isCurrent (x : History) (id : ℕ) : Bool :=
  (sinceSubmission x).any fun made => (stored made.2).any (·.1 = id) &&
    x.store.compliance.all fun profile => (x.past made.1).any (screensIdentity profile)

/-- Each category has a latest check, of the identity that is approved, and it is
clear or was resolved by an admin. -/
def Cleared (x : History) : Prop :=
  ∀ category, ∃ check ∈ latestChecksByCategory x.store, check.category = category ∧ isCurrent x check.id ∧
    (check.status = .clear ∨ check.decision = some .approved ∨ check.decision = some .falsePositive)

def readLatest : Answered KycCall KycCall.Reply Failure → Option (List ScreeningCheck)
  | ⟨.latestChecksByCategory, .ok latest⟩ => some latest
  | _ => none

/-- Whatever blocks now is among the checks that the request has just read. -/
def isSteady (x : History) (pid : ℕ) : Bool :=
  ((x.past pid).head?.bind readLatest).all fun latest =>
    (latestChecksByCategory x.store).all fun check => !check.blocks || check ∈ latest

/-! ## Checks -/

/-- The rows are the checks that were stored. -/
def Kept (x : History) : Prop := x.store.checks.map (fun check => (check.id, check.category)) = storedChecks x

theorem kept_step (kept : Kept x) (made : Makes pid call x.store reply s') :
    Kept ⟨s', (pid, ⟨call, reply⟩) :: x.history⟩ := by
  unfold Kept storedChecks at kept ⊢
  cases made.effect with
  | checkStored => exact congrArg _ kept
  | @checkDecided id decision =>
    refine Eq.trans ?_ kept
    rw [List.map_map]
    refine List.map_congr_left fun check _ => ?_
    simp only [Function.comp_apply]
    split <;> rfl
  | failed => cases call <;> exact kept
  | read neutral => cases call <;> first | exact kept | cases neutral
  | eventKept neutral => cases call <;> first | exact kept | cases neutral
  | bothSet sets => cases call <;> first | exact kept | cases sets
  | _ => exact kept

theorem kept_run (run : Logged.Run interleaved (IsRequest config requests) Opening pool) : Kept pool.store :=
  run.inv (isRequest_obeys config requests) (fun _ opening => by simp [Kept, opening.checks, storedChecks])
    fun _ _ _ _ _ kept _ => kept_step kept

/-- The latest check of a category is the one that was stored last in it. -/
theorem Kept.find (kept : Kept x) (category : ScreeningCategory) :
    (storedChecks x).find? (·.2 = category) =
      (x.store.checks.find? (·.category = category)).map fun check => (check.id, check.category) := by
  rw [← kept, List.find?_map]
  rfl

/-! ## Approvals -/

/-- Where nothing came to block, an open gate is open still. -/
theorem unblocked_of_steady (gate : GateRead (x.past pid) .approve false) (steady : isSteady x pid)
    (member : check ∈ latestChecksByCategory x.store) : check.blocks = false := by
  obtain ⟨latest, read, isOpen⟩ := gate
  have unblocked : (computeGate latest).blocked = false := by simpa using isOpen
  simp only [isSteady, read, Option.bind_some, readLatest, Option.all_some, List.all_eq_true, Bool.or_eq_true,
    Bool.not_eq_true', decide_eq_true_eq] at steady
  rcases steady check member with clear | before
  · exact clear
  · exact not_blocked unblocked before

theorem may_approve {request : Request} {past : Past}
    (may : May config request past (.updateProfile (statusPatch .approved))) :
    ∃ canOverrideScreening, request = .review .approve canOverrideScreening ∧
      GateRead past .approve canOverrideScreening := by
  rcases may_update may with none | ⟨decision, canOverrideScreening, isPatch, isRequest, gate⟩
  · cases none
  cases decision with
  | approve => exact ⟨canOverrideScreening, isRequest, gate⟩
  | requestInfo => cases isPatch
  | reject => cases isPatch

private def submitted : ℕ → Request
  | 1 => .submitEnhanced smallSubmission
  | _ => .review .approve false

private theorem opening_small : Opening smallStore := ⟨rfl, rfl⟩

end Exchange.Kyc.Screening
