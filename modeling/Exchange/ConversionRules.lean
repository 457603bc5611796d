import Exchange.ConversionService

/-! The rules of conversions: which calls a request makes after which answers,
and how an execution ends. -/
namespace Exchange.Conversions

/-- Calls that change nothing. -/
def ConversionCall.isNeutral : ConversionCall → Bool
  | .createQuote _ => false
  | .setSnapshot _ _ => false
  | .getDelSnapshot _ => false
  | .post _ => false
  | .createConversion _ => false
  | _ => true

/-- The user may convert. -/
def UserKyc.isApproved (user : UserKyc) : Bool :=
  user.status = .active && user.kycStatus = .approved && 1 ≤ user.kycTier

namespace Service
open Ledger Async

/-- The calls a request has made, latest first. -/
abbrev Past := List (Answered ConversionCall ConversionCall.Reply Failure)

/-- The request has found the quote, and its snapshot, to be the user's. -/
structure Quoted (userId : UserId) (quoteId : QuoteId) (plan : ConversionPlan) (past : Past) : Prop where
  quote : ∃ quote, ⟨.findQuoteById quoteId, .ok (some quote)⟩ ∈ past ∧ quote.userId = userId
  snapshot : ∃ snapshot, ⟨.getSnapshot quoteId, .ok (some snapshot)⟩ ∈ past ∧ snapshot.userId = userId ∧
    snapshot.plan = plan

/-- The request has found the treasury to hold what the plan needs. -/
def Covered (plan : ConversionPlan) (past : Past) : Prop :=
  ∃ liquidity, ⟨.systemAccountBalance .liquidity plan.liquidityAsset, .ok liquidity⟩ ∈ past ∧
    plan.liquidityNeed ≤ liquidity

/-- The calls a request may make. -/
inductive May : Past → ConversionCall → Prop
  | neutral {past : Past} {call : ConversionCall} (neutral : call.isNeutral) : May past call
  | createQuote {data : PriceQuote} {past : Past} : May past (.createQuote data)
  | setSnapshot {data quote : PriceQuote} {id : QuoteId} {plan : ConversionPlan} {ttlMs : ℕ} {past : Past}
      (sound : plan.Sound) :
      May (⟨.createQuote data, .ok (id, quote)⟩ :: past) (.setSnapshot ⟨id, data.userId, plan⟩ ttlMs)
  | post {userId : UserId} {quoteId : QuoteId} {plan : ConversionPlan} {past : Past}
      (quoted : Quoted userId quoteId plan past) (covered : Covered plan past)
      (unconverted : ⟨.findConversionByQuoteId quoteId, .ok none⟩ ∈ past) :
      May past (.post (settlement userId quoteId plan))
  | createConversion {userId : UserId} {quoteId : QuoteId} {plan : ConversionPlan}
      {txn : LedgerTransaction QuoteId} {past : Past} (quoted : Quoted userId quoteId plan past) :
      May (⟨.post (settlement userId quoteId plan), .ok txn⟩ :: past)
        (.createConversion ⟨userId, quoteId, economicsOf plan, txn.id⟩)
  | getDelSnapshot {data row : Conversion} {past : Past} :
      May (⟨.createConversion data, .ok row⟩ :: past) (.getDelSnapshot data.quoteId)

/-- The row a request has found or made. -/
inductive Recorded (quoteId : QuoteId) (row : Conversion) (past : Past) : Prop
  | found (member : ⟨.findConversionByQuoteId quoteId, .ok (some row)⟩ ∈ past)
  | created {data : Conversion} (isQuote : data.quoteId = quoteId)
      (member : ⟨.createConversion data, .ok row⟩ ∈ past)

/-- The last answer ends an execution with an error. -/
inductive TurnedAway (userId : UserId) (quoteId : QuoteId) : Past → Prop
  | lost {call : ConversionCall} {failure : Failure} {past : Past} (needed : ∀ id, call ≠ .getDelSnapshot id) :
      TurnedAway userId quoteId (⟨call, .error failure⟩ :: past)
  | user {found : Option UserKyc} {past : Past} (unapproved : ¬found.any UserKyc.isApproved) :
      TurnedAway userId quoteId (⟨.findUserKyc userId, .ok found⟩ :: past)
  | quote {found : Option PriceQuote} {past : Past} (foreign : ¬found.any (·.userId = userId)) :
      TurnedAway userId quoteId (⟨.findQuoteById quoteId, .ok found⟩ :: past)
  | expired {quote : PriceQuote} {now : Time} {past : Past}
      (found : ⟨.findQuoteById quoteId, .ok (some quote)⟩ ∈ past) (late : quote.expiresAt ≤ now) :
      TurnedAway userId quoteId (⟨.now, .ok now⟩ :: past)
  | snapshot {found : Option QuoteSnapshot} {past : Past} (foreign : ¬found.any (·.userId = userId)) :
      TurnedAway userId quoteId (⟨.getSnapshot quoteId, .ok found⟩ :: past)
  | treasury {snapshot : QuoteSnapshot} {liquidity : Decimal} {past : Past}
      (found : ⟨.getSnapshot quoteId, .ok (some snapshot)⟩ ∈ past)
      (short : liquidity < snapshot.plan.liquidityNeed) :
      TurnedAway userId quoteId
        (⟨.systemAccountBalance .liquidity snapshot.plan.liquidityAsset, .ok liquidity⟩ :: past)

/-- An execution ends with the row it found or made, or was turned away. -/
def ends : Request → Past → Except Failure Response → Prop
  | .createQuote _ _ _, _, _ => True
  | .executeConversion userId quoteId, past, result =>
    EndsWith (TurnedAway userId quoteId) (fun response past => ∃ row, Recorded quoteId row past ∧
      response = .conversion (toConversionDto row)) past result

variable {config : Config} {past later : Past} {userId : UserId} {quoteId : QuoteId} {plan : ConversionPlan}

/-! ## Pasts -/

theorem Recorded.grow {row : Conversion} (recorded : Recorded quoteId row past) (grown : past <:+ later) :
    Recorded quoteId row later := by
  cases recorded with
  | found member => exact .found (grown.subset member)
  | created isQuote member => exact .created isQuote (grown.subset member)

theorem obeys_neutral {failed : Past → Prop} {call : ConversionCall} (neutral : call.isNeutral)
    (lost : ∀ failure, failed (⟨call, .error failure⟩ :: past)) :
    (ask call).Obeys May (EndsWith failed fun value later => later = ⟨call, .ok value⟩ :: past) past :=
  obeys_answers (.neutral neutral) lost fun _ => rfl

/-! ## Quotes -/

theorem assertKycApproved_obeys : (assertKycApproved userId).Obeys May
    (EndsWith (TurnedAway userId quoteId) fun _ _ => True) past := by
  unfold assertKycApproved
  refine (obeys_neutral rfl fun _ => .lost (by simp)).seq ?_
  rintro found later - rfl
  cases found with
  | none => exact .user (by simp)
  | some user =>
    dsimp only
    split
    · rename_i inactive
      exact .user (by simp [UserKyc.isApproved, inactive])
    split
    · rename_i active unapproved
      refine .user ?_
      simp only [Option.any_some, UserKyc.isApproved, Bool.and_eq_true, decide_eq_true_eq]
      rintro ⟨⟨-, approved⟩, tier⟩
      rcases unapproved with unapproved | low
      · exact unapproved approved
      · omega
    · trivial

theorem storeQuote_obeys (sound : plan.Sound) :
    (storeQuote config userId plan).Obeys May (EndsWith (fun _ => True) fun _ _ => True) past := by
  unfold storeQuote
  refine (obeys_neutral rfl fun _ => trivial).seq fun now past _ _ => ?_
  refine obeys_bind.mpr (obeys_call.mpr ⟨.createQuote, ?_⟩)
  rintro (failure | ⟨id, quote⟩)
  · trivial
  dsimp only
  refine obeys_bind.mpr (obeys_call.mpr ⟨.setSnapshot sound, ?_⟩)
  rintro (failure | _) <;> trivial

theorem createQuote_obeys {side : ConversionSide} {amount : Decimal} :
    (createQuote config userId side amount).Obeys May (EndsWith (fun _ => True) fun _ _ => True) past := by
  unfold createQuote
  have executes : (assertKycApproved userId).Obeys May (EndsWith (TurnedAway userId 0) fun _ _ => True) past :=
    assertKycApproved_obeys
  have approved : (assertKycApproved userId).Obeys May (EndsWith (fun _ => True) fun _ _ => True) past := by
    refine executes.imp fun later result _ => ?_
    cases result <;> trivial
  refine approved.seq fun _ later _ _ => ?_
  dsimp only
  split
  · trivial
  · exact storeQuote_obeys (computePlan_sound ..)

/-! ## Execution -/

theorem consumeSnapshot_obeys {data row : Conversion} {failed : Past → Prop} :
    (consumeSnapshot data.quoteId).Obeys May (EndsWith failed fun _ _ => True)
      (⟨.createConversion data, .ok row⟩ :: past) := by
  unfold consumeSnapshot
  refine obeys_tryCatch.mpr (obeys_bind.mpr (obeys_call.mpr ⟨.getDelSnapshot, ?_⟩))
  rintro (failure | found) <;> trivial

/-- What an execution answers with. -/
def Answers (quoteId : QuoteId) (dto : ConversionDto) (past : Past) : Prop :=
  ∃ row, Recorded quoteId row past ∧ dto = toConversionDto row

theorem settle_obeys (quoted : Quoted userId quoteId plan past) (covered : Covered plan past)
    (unconverted : ⟨.findConversionByQuoteId quoteId, .ok none⟩ ∈ past) :
    (settle userId quoteId plan).Obeys May (EndsWith (TurnedAway userId quoteId) (Answers quoteId)) past := by
  unfold settle
  refine obeys_bind.mpr (obeys_call.mpr ⟨.post quoted covered unconverted, ?_⟩)
  rintro (failure | txn)
  · exact .lost (by simp)
  dsimp only
  refine obeys_bind.mpr (obeys_call.mpr ⟨.createConversion quoted, ?_⟩)
  rintro (failure | row)
  · exact .lost (by simp)
  dsimp only
  refine consumeSnapshot_obeys.seq fun _ later grown _ => ⟨row, ?_, rfl⟩
  exact (Recorded.created rfl List.mem_cons_self).grow grown

theorem executeSnapshot_obeys (quote : ∃ quote, ⟨.findQuoteById quoteId, .ok (some quote)⟩ ∈ past ∧
      quote.userId = userId) (unconverted : ⟨.findConversionByQuoteId quoteId, .ok none⟩ ∈ past) :
    (executeSnapshot userId quoteId).Obeys May
      (EndsWith (TurnedAway userId quoteId) (Answers quoteId)) past := by
  unfold executeSnapshot
  refine (obeys_neutral rfl fun _ => .lost (by simp)).seq ?_
  rintro found later - rfl
  cases found with
  | none => exact .snapshot (by simp)
  | some snapshot =>
    dsimp only
    split
    · rename_i foreign
      exact .snapshot (by simpa using foreign)
    rename_i owner
    refine (obeys_neutral rfl fun _ => .lost (by simp)).seq ?_
    rintro liquidity later - rfl
    split
    · rename_i short
      exact .treasury List.mem_cons_self short
    · rename_i enough
      obtain ⟨row, isRow, isUser⟩ := quote
      exact settle_obeys ⟨⟨row, by simp [isRow], isUser⟩, snapshot, by simp, not_not.mp owner, rfl⟩
        ⟨liquidity, by simp, not_lt.mp enough⟩ (by simp [unconverted])

theorem executeQuote_obeys {quote : PriceQuote} (found : ⟨.findQuoteById quoteId, .ok (some quote)⟩ ∈ past)
    (owner : quote.userId = userId) :
    (executeQuote userId quoteId quote).Obeys May
      (EndsWith (TurnedAway userId quoteId) (Answers quoteId)) past := by
  unfold executeQuote
  refine (obeys_neutral rfl fun _ => .lost (by simp)).seq ?_
  rintro existing later - rfl
  cases existing with
  | some row => exact ⟨row, .found List.mem_cons_self, rfl⟩
  | none =>
    refine (obeys_neutral rfl fun _ => .lost (by simp)).seq ?_
    rintro now later - rfl
    split
    · rename_i late
      exact .expired (List.mem_cons_of_mem _ found) late
    · exact executeSnapshot_obeys ⟨quote, by simp [found], owner⟩ (by simp)

theorem executeConversion_obeys :
    (executeConversion userId quoteId).Obeys May
      (EndsWith (TurnedAway userId quoteId) (Answers quoteId)) past := by
  unfold executeConversion
  refine assertKycApproved_obeys.seq fun _ past' _ _ => ?_
  refine (obeys_neutral rfl fun _ => .lost (by simp)).seq ?_
  rintro found later - rfl
  cases isOwn : found.filter (·.userId = userId) with
  | none =>
    refine .quote fun own => ?_
    obtain ⟨quote, rfl, isUser⟩ := (Option.any_eq_true _ _).mp own
    simp [of_decide_eq_true isUser] at isOwn
  | some quote =>
    obtain ⟨rfl, isUser⟩ := Option.filter_eq_some_iff.mp isOwn
    exact executeQuote_obeys List.mem_cons_self (by simpa using isUser)

/-! ## Requests -/

/-- Every request follows the rules. -/
theorem isRequest_obeys {requests : ℕ → Request} {pid : ℕ} {program : ConversionM Response}
    (isRequest : IsRequest config requests pid program) :
    program.Obeys May (ends (requests pid)) [] := by
  unfold IsRequest at isRequest
  subst isRequest
  cases requests pid with
  | createQuote userId side amount =>
    unfold Request.program
    rw [obeys_bind]
    refine createQuote_obeys.imp fun past result _ => ?_
    cases result <;> trivial
  | executeConversion userId quoteId =>
    unfold Request.program
    refine executeConversion_obeys.seq fun dto later _ ⟨row, recorded, same⟩ => ⟨row, recorded, ?_⟩
    rw [same]

end Service
end Exchange.Conversions
