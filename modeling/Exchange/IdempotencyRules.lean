import Exchange.IdempotencyMiddleware

/-! The rules of a request with a key: its calls come in one order, so its past
says how far it has come. -/
namespace Exchange.Idempotency
open Async

/-- The calls a request has made, latest first. -/
abbrev Past (δ : Type) := List (Answered (IdempotencyCall δ) IdempotencyCall.Reply Failure)

variable {δ : Type} {isProd : Bool} {slot : Slot} {past : Past δ} {call : IdempotencyCall δ}
  {response : Response δ} {outcome : Except Failure (ℕ × δ)}

/-- The key was claimed; here the handler starts. -/
def claimed (slot : Slot) : Past δ := [⟨.create slot, .ok ()⟩, ⟨.findUnique slot, .ok none⟩]

/-- The handler has ended. -/
def ran (slot : Slot) (outcome : Except Failure (ℕ × δ)) : Past δ := ⟨.handler, outcome⟩ :: claimed slot

/-- The calls a request may make. -/
inductive May (isProd : Bool) (slot : Slot) : Past δ → IdempotencyCall δ → Prop
  | findUnique : May isProd slot [] (.findUnique slot)
  | create : May isProd slot [⟨.findUnique slot, .ok none⟩] (.create slot)
  | handler : May isProd slot (claimed slot) .handler
  | finish {outcome : Except Failure (ℕ × δ)} :
      May isProd slot (ran slot outcome) (.finish (respond isProd outcome))
  | deleteMany {outcome : Except Failure (ℕ × δ)} (isServerError : 500 ≤ (respond isProd outcome).status) :
      May isProd slot (⟨.finish (respond isProd outcome), .ok true⟩ :: ran slot outcome) (.deleteMany slot)
  | update {outcome : Except Failure (ℕ × δ)} (isFinal : (respond isProd outcome).status < 500) :
      May isProd slot (⟨.finish (respond isProd outcome), .ok true⟩ :: ran slot outcome)
        (.update slot (respond isProd outcome))

/-- A replay repeats a row that was read. -/
def Ends (slot : Slot) (past : Past δ) : Except Failure (Answer δ) → Prop
  | .ok (.replayed response) => ∃ row, ⟨.findUnique slot, .ok (some row)⟩ ∈ past ∧
      row.responseStatus = some response.status ∧ row.responseBody = response.body
  | _ => True

/-! ## The middleware -/

theorem claim_obeys : (claim slot).Obeys (May isProd slot)
    (EndsWith (fun _ => True) fun _ later => later = (claimed slot : Past δ)) [⟨.findUnique slot, .ok none⟩] := by
  unfold claim
  have creates : (ask (.create slot)).Obeys (May isProd slot)
      (EndsWith (fun _ => True) fun _ later => later = (claimed slot : Past δ)) [⟨.findUnique slot, .ok none⟩] :=
    obeys_answers .create (fun _ => trivial) fun _ => rfl
  refine creates.catch fun failure later _ _ => ?_
  split <;> trivial

theorem handle_obeys : (handle isProd).Obeys (May isProd slot)
    (EndsWith (fun _ => True) fun response later => ∃ outcome, response = respond isProd outcome ∧
      later = (ran slot outcome : Past δ)) (claimed slot) := by
  unfold handle
  rw [obeys_tryCatch, obeys_bind]
  refine obeys_call.mpr ⟨.handler, fun reply => ?_⟩
  cases reply with
  | ok answer => exact ⟨.ok answer, rfl, rfl⟩
  | error failure => exact ⟨.error failure, rfl, rfl⟩

theorem persist_obeys : (persist slot (respond isProd outcome)).Obeys (May isProd slot)
    (EndsWith (fun _ => True) fun _ _ => True)
    (⟨.finish (respond isProd outcome), .ok true⟩ :: ran slot outcome) := by
  unfold persist
  rw [obeys_tryCatch]
  split
  · rename_i isServerError
    refine obeys_call.mpr ⟨.deleteMany isServerError, ?_⟩
    rintro (failure | _) <;> trivial
  · rename_i isFinal
    refine obeys_call.mpr ⟨.update (not_le.mp isFinal), ?_⟩
    rintro (failure | _) <;> trivial

theorem original_obeys : (original isProd slot : IdempotencyM δ (Answer δ)).Obeys (May isProd slot)
    (Ends slot) [⟨.findUnique slot, .ok none⟩] := by
  have ends : (original isProd slot : IdempotencyM δ (Answer δ)).Obeys (May isProd slot)
      (EndsWith (fun _ => True) fun answer _ => ∃ response, answer = .original response)
      [⟨.findUnique slot, .ok none⟩] := by
    unfold original
    refine claim_obeys.seq ?_
    rintro _ later - rfl
    refine handle_obeys.seq ?_
    rintro response later - ⟨outcome, rfl, rfl⟩
    refine obeys_bind.mpr (obeys_call.mpr ⟨.finish, ?_⟩)
    rintro (failure | finished)
    · trivial
    cases finished with
    | false => exact ⟨_, rfl⟩
    | true => exact persist_obeys.seq fun _ _ _ _ => ⟨_, rfl⟩
  refine ends.imp fun later result ended => ?_
  cases result with
  | error failure => trivial
  | ok answer =>
    obtain ⟨response, rfl⟩ := ended
    trivial

/-- What a request may call, and how it ends. -/
def MayOf (isProd : Bool) (req : Request) (past : Past δ) (call : IdempotencyCall δ) : Prop :=
  ∃ slot, slotOf req = .ok slot ∧ May isProd slot past call

def EndsOf (req : Request) (past : Past δ) (result : Except Failure (Answer δ)) : Prop :=
  ∀ slot, slotOf req = .ok slot → Ends slot past result

/-- Every request follows the rules. -/
theorem isRequest_obeys {requests : ℕ → Request} {pid : ℕ} {program : IdempotencyM δ (Answer δ)}
    (isRequest : IsRequest isProd requests pid program) :
    program.Obeys (MayOf isProd (requests pid)) (EndsOf (requests pid)) [] := by
  unfold IsRequest at isRequest
  subst isRequest
  cases isSlot : slotOf (requests pid) with
  | error failure =>
    unfold idempotency
    rw [isSlot]
    intro slot same
    cases isSlot.symm.trans same
  | ok slot =>
    have obeys : (idempotency isProd (requests pid) : IdempotencyM δ (Answer δ)).Obeys (May isProd slot)
        (Ends slot) [] := by
      unfold idempotency
      rw [isSlot]
      refine obeys_bind.mpr (obeys_call.mpr ⟨.findUnique, ?_⟩)
      rintro (failure | existing)
      · trivial
      cases existing with
      | none => exact original_obeys
      | some row =>
        dsimp only
        split
        · trivial
        · rename_i status isStatus
          exact ⟨row, List.mem_singleton_self _, isStatus, rfl⟩
    have within : (idempotency isProd (requests pid) : IdempotencyM δ (Answer δ)).Obeys
        (MayOf isProd (requests pid)) (Ends slot) [] :=
      obeys.allow fun past call may => ⟨slot, isSlot, may⟩
    refine within.imp fun past result ended => ?_
    intro other same
    cases isSlot.symm.trans same
    exact ended

/-! ## Pasts -/

/-- How far a request has come. -/
inductive Progress (isProd : Bool) (slot : Slot) : Past δ → Prop
  | looked {reply : Except Failure (Option (IdempotencyKey δ))} :
      Progress isProd slot [⟨.findUnique slot, reply⟩]
  | claims {reply : Except Failure Unit} :
      Progress isProd slot [⟨.create slot, reply⟩, ⟨.findUnique slot, .ok none⟩]
  | handled {outcome : Except Failure (ℕ × δ)} : Progress isProd slot (ran slot outcome)
  | finished {outcome : Except Failure (ℕ × δ)} {reply : Except Failure Bool} :
      Progress isProd slot (⟨.finish (respond isProd outcome), reply⟩ :: ran slot outcome)
  | released {outcome : Except Failure (ℕ × δ)} {reply : Except Failure Unit}
      (isServerError : 500 ≤ (respond isProd outcome).status) :
      Progress isProd slot (⟨.deleteMany slot, reply⟩ :: ⟨.finish (respond isProd outcome), .ok true⟩ ::
        ran slot outcome)
  | kept {outcome : Except Failure (ℕ × δ)} {reply : Except Failure Unit}
      (isFinal : (respond isProd outcome).status < 500) :
      Progress isProd slot (⟨.update slot (respond isProd outcome), reply⟩ ::
        ⟨.finish (respond isProd outcome), .ok true⟩ :: ran slot outcome)

/-- A call within the rules is the next in order. -/
theorem May.progress (call' : May isProd slot past call) (reply : Except Failure call.Reply) :
    Progress isProd slot (⟨call, reply⟩ :: past) := by
  cases call' with
  | findUnique => exact .looked
  | create => exact .claims
  | handler => exact .handled
  | finish => exact .finished
  | deleteMany isServerError => exact .released isServerError
  | update isFinal => exact .kept isFinal

/-- The key is claimed, and was not given back. -/
structure Holding (slot : Slot) (past : Past δ) : Prop where
  claimed : ⟨.create slot, .ok ()⟩ ∈ past
  unreleased : ∀ reply, ⟨.deleteMany slot, reply⟩ ∉ past

/-- A handler whose response is not a server error keeps the key. -/
theorem Progress.holding (progress : Progress isProd slot past) (ended : ⟨.handler, outcome⟩ ∈ past)
    (isFinal : (respond isProd outcome).status < 500) : Holding slot past := by
  cases progress with
  | looked => simp at ended
  | claims => simp at ended
  | handled => exact ⟨by simp [ran, claimed], by simp [ran, claimed]⟩
  | finished => exact ⟨by simp [ran, claimed], by simp [ran, claimed]⟩
  | @released other reply isServerError =>
    have same : outcome = other := by simpa [ran, claimed] using ended
    subst same
    omega
  | kept => exact ⟨by simp [ran, claimed], by simp [ran, claimed]⟩

end Exchange.Idempotency
