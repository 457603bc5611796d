import Exchange.WithdrawalProgress

/-! The nonces of hot wallets. They are given out one after the other, whoever
asks; one that is given to a transfer which is then not sent stays out of the
chain's sequence for good. -/
namespace Exchange.Withdrawal.Nonces
open Async Service

/-- A call with its answer. -/
abbrev Made := Answered WithdrawalCall WithdrawalCall.Reply Failure

/-- The wallet and the nonce that an allocation has answered with. -/
def allocated : Made → Option (ℕ × ℕ)
  | ⟨.incrementNonce hotWalletId, .ok nonce⟩ => some (hotWalletId, nonce)
  | ⟨.createNonce hotWalletId, .ok nonce⟩ => some (hotWalletId, nonce)
  | _ => none

/-- The nonces of a wallet that have been given out, in this order. -/
def noncesOf (wallet : ℕ) (calls : List (WithdrawalId × Made)) : List ℕ :=
  (calls.filterMap fun (_, made) =>
    ((allocated made).filter fun (hotWalletId, _) => hotWalletId = wallet).map Prod.snd).reverse

/-- The nonce the chain expects of a wallet at first. -/
def firstNonce (s : Store) (wallet : ℕ) : ℕ := (s.nonces.lookup wallet).getD 0

/-- Pairwise distinct, and no number left out. -/
def Consecutive (s₀ : Store) (x : History) : Prop :=
  ∀ wallet, ∃ count, noncesOf wallet x.history = List.range' (firstNonce s₀ wallet) count

/-- A transaction with this nonce was signed and broadcast. -/
inductive Sent (wallet nonce : ℕ) : Past → Prop where
  | broadcast {made : Made} {input : SignTransferInput} {signed : SignedTransaction} {id : WithdrawalId}
      {txHash : String} {past : Past} : allocated made = some (wallet, nonce) → input.nonce = nonce →
      Sent wallet nonce (⟨.broadcast id signed, .ok txHash⟩ :: ⟨.signTransfer input, .ok signed⟩ :: made :: past)
  | earlier {made : Made} {past : Past} : Sent wallet nonce past → Sent wallet nonce (made :: past)

/-- The request has the nonce, and signs or broadcasts next. -/
inductive Holds (wallet nonce : ℕ) : Past → Prop where
  | given {made : Made} {past : Past} : allocated made = some (wallet, nonce) → Holds wallet nonce (made :: past)
  | signed {made : Made} {input : SignTransferInput} {signed : SignedTransaction} {past : Past} :
      allocated made = some (wallet, nonce) → input.nonce = nonce →
      Holds wallet nonce (⟨.signTransfer input, .ok signed⟩ :: made :: past)

/-- Some request in flight has the nonce. -/
def InHand (wallet nonce : ℕ) (pool : WithdrawalPool) : Prop :=
  ∃ pid call next, pool.programs.lookup pid = some (.await call next) ∧ Holds wallet nonce (pool.store.past pid)

/-- Below a nonce that was broadcast, each one was broadcast or still will be. -/
def NoGap (s₀ : Store) (pool : WithdrawalPool) : Prop :=
  ∀ wallet nonce later, firstNonce s₀ wallet ≤ nonce → nonce < later →
    (∃ pid, Sent wallet later (pool.store.past pid)) →
      (∃ pid, Sent wallet nonce (pool.store.past pid)) ∨ InHand wallet nonce pool

/-- The net amount is a whole number of the token's base units. -/
def isSendable (token : AssetChain) (row : CryptoWithdrawal) : Bool :=
  match humanToBase row.netAmount token.decimals with
  | .ok _ => true
  | .error _ => false

/-- What is listed for broadcast can be sent, and the signer does its work. -/
def succeeds (s : Store) : Made → Bool
  | ⟨.listForBroadcast _, .ok rows⟩ => (getSupportedToken s ASSET CHAIN).all fun token => rows.all (isSendable token)
  | ⟨.signTransfer _, reply⟩ => reply.isOk
  | ⟨.broadcast _ _, reply⟩ => reply.isOk
  | _ => true

def interleaved (pid : WithdrawalId) (call : WithdrawalCall) (x : History)
    (reply : Except Failure call.Reply) (s' : Store) : Prop :=
  Makes pid call x.store reply s'

def sending (pid : WithdrawalId) (call : WithdrawalCall) (x : History)
    (reply : Except Failure call.Reply) (s' : Store) : Prop :=
  Makes pid call x.store reply s' ∧ succeeds x.store ⟨call, reply⟩

/-! ## Rules -/

/-- The last call has left nothing to be done with a nonce. -/
def Idle : Past → Prop
  | ⟨.signTransfer _, .ok _⟩ :: _ => False
  | made :: _ => allocated made = none
  | [] => True

/-- A row was listed that the token has too few decimals for. -/
def Unsendable (past : Past) : Prop :=
  ∃ rows row token, ⟨.listForBroadcast CHAIN, .ok rows⟩ ∈ past ∧ row ∈ rows ∧
    ⟨.getSupportedToken ASSET CHAIN, .ok (some token)⟩ ∈ past ∧ isSendable token row = false

def isSending : WithdrawalCall → Bool
  | .signTransfer _ => true
  | .broadcast _ _ => true
  | _ => false

/-- What a request may call next. -/
inductive MaySend : Past → WithdrawalCall → Prop where
  | idle {past : Past} {call : WithdrawalCall} : Idle past → isSending call = false → MaySend past call
  | sign {made : Made} {past : Past} {wallet : ℕ} {input : SignTransferInput} :
      allocated made = some (wallet, input.nonce) → MaySend (made :: past) (.signTransfer input)
  | send {input : SignTransferInput} {signed : SignedTransaction} {id : WithdrawalId} {past : Past} :
      MaySend (⟨.signTransfer input, .ok signed⟩ :: past) (.broadcast id signed)
  | giveUp {past : Past} {call : WithdrawalCall} : Unsendable past → isSending call = false → MaySend past call

/-- Calls that neither allocate nor send. -/
def isApart : WithdrawalCall → Bool
  | .incrementNonce _ => false
  | .createNonce _ => false
  | call => !isSending call

variable {past : Past} {α : Type} {program : WithdrawalM α} {id : WithdrawalId}

theorem Holds.not_idle (holds : Holds wallet nonce past) : ¬Idle past := by
  cases holds with
  | @given made past given =>
    obtain ⟨call, reply⟩ := made
    cases call <;> cases reply <;> simp_all [allocated, Idle]
  | signed given same => exact not_false

theorem idle_apart {call : WithdrawalCall} {reply : Except Failure call.Reply} (apart : isApart call = true) :
    Idle (⟨call, reply⟩ :: past) := by
  cases call <;> first | rfl | cases apart

theorem idle_failed {call : WithdrawalCall} {failure : Failure} : Idle (⟨call, .error failure⟩ :: past) := by
  cases call <;> rfl

theorem not_sending_of_apart {call : WithdrawalCall} (apart : isApart call = true) : isSending call = false := by
  cases call <;> first | rfl | cases apart

/-! ## Requests without nonces -/

/-- A program that makes only calls apart from nonces. -/
abbrev Apart (past : Past) (program : WithdrawalM α) : Prop :=
  Lawful (fun _ call => isApart call = true) past program

theorem Apart.obeys (apart : Apart past program) (idle : Idle past) :
    program.Obeys MaySend (fun later _ => Idle later) past := by
  induction program generalizing past with
  | done result => exact idle
  | await call resume ih =>
    exact ⟨.idle idle (not_sending_of_apart apart.1), fun reply => ih reply (apart.2 reply) (idle_apart apart.1)⟩

theorem assertMayWithdraw_apart : Apart past (assertMayWithdraw userId) := by
  unfold assertMayWithdraw
  refine lawful_bind (lawful_ask rfl) fun freeze past => ?_
  split
  · trivial
  refine lawful_bind (lawful_ask rfl) fun found past => ?_
  cases found with
  | none => trivial
  | some user =>
    dsimp only
    repeat' split
    all_goals trivial

theorem assertAllowlisted_apart : Apart past (assertAllowlisted userId toAddress) := by
  unfold assertAllowlisted
  refine lawful_bind (lawful_ask rfl) fun token past => ?_
  split
  · trivial
  refine lawful_bind (lawful_ask rfl) fun allow past => ?_
  cases allow with
  | none => trivial
  | some address =>
    refine lawful_bind (lawful_ask rfl) fun now past => ?_
    split <;> trivial

theorem assertDailyLimit_apart {kycTier : ℤ} {amount : Decimal} :
    Apart past (assertDailyLimit userId kycTier amount) := by
  unfold assertDailyLimit
  refine lawful_bind (lawful_ask rfl) fun limit past => ?_
  split
  · trivial
  · refine lawful_bind (lawful_ask rfl) fun today past => ?_
    split <;> trivial

theorem holdFunds_apart : Apart past (holdFunds row) := by
  unfold holdFunds
  refine lawful_catch (lawful_bind (lawful_ask rfl) fun _ _ => lawful_ask rfl) fun failure past => ?_
  split
  · exact lawful_bind (lawful_ask rfl) fun _ _ => trivial
  · trivial

theorem requestWithdrawal_apart {input : CreateWithdrawalDto} :
    Apart past (requestWithdrawal config userId input) := by
  unfold requestWithdrawal
  refine lawful_bind assertMayWithdraw_apart fun user past => ?_
  refine lawful_bind assertAllowlisted_apart fun _ past => ?_
  split
  · trivial
  · refine lawful_bind assertDailyLimit_apart fun _ past => ?_
    exact lawful_bind (lawful_ask rfl) fun _ _ => holdFunds_apart

theorem reviewed_apart {adminId : AdminId} {action : String} : Apart past (reviewed id adminId action) := by
  unfold reviewed
  exact lawful_bind (lawful_ask rfl) fun _ _ => lawful_bind (lawful_ask rfl) fun _ _ => trivial

/-- An update that has to hit a row. -/
theorem review_apart {change : Change} {failure : Failure} {adminId : AdminId} {action : String} :
    Apart past (do
      let count ← ask (.updateMany id change)
      if count = 0 then throw failure
      reviewed id adminId action) := by
  refine lawful_bind (lawful_ask rfl) fun count past => ?_
  dsimp only
  split
  · trivial
  · exact reviewed_apart

theorem approve_apart : Apart past (approve config id actorId) := by
  cases actorId with
  | none => trivial
  | some adminId =>
    unfold approve
    refine lawful_bind (lawful_ask rfl) fun found past => ?_
    cases found with
    | none => trivial
    | some existing =>
      dsimp only
      split
      · split
        · trivial
        · exact review_apart
      · split
        · split <;> trivial
        · exact review_apart

theorem rejectWithdrawal_apart : Apart past (rejectWithdrawal id reason actorId) := by
  unfold rejectWithdrawal
  refine lawful_bind (lawful_ask rfl) fun found past => ?_
  cases found with
  | none => trivial
  | some existing =>
    cases actorId with
    | none => trivial
    | some adminId =>
      have ending (past : Past) : Apart past (do
          ask (.writeAdminLog adminId "crypto.withdrawal.rejected" id)
          ask (.findById id)) :=
        lawful_bind (lawful_ask rfl) fun _ _ => lawful_ask rfl
      refine lawful_bind (lawful_ask rfl) fun count past => ?_
      dsimp only
      split
      · split <;> trivial
      split
      · exact lawful_bind (lawful_ask rfl) fun _ past => ending past
      · exact ending past

theorem finalizeWithdrawal_apart : Apart past (finalizeWithdrawal row) := by
  unfold finalizeWithdrawal
  split
  · trivial
  · exact lawful_bind (lawful_ask rfl) fun _ _ => lawful_bind (lawful_ask rfl) fun _ _ => trivial

theorem released_apart {row : CryptoWithdrawal} : Apart past (do
    if row.holdTxnId.isSome then
      let _ ← ask (.post (releaseHold row))
    return true) := by
  split
  · exact lawful_bind (lawful_ask rfl) fun _ _ => trivial
  · trivial

theorem failWithdrawal_apart : Apart past (failWithdrawal row reason) := by
  unfold failWithdrawal
  refine lawful_bind (lawful_ask rfl) fun count past => ?_
  dsimp only
  split
  · trivial
  · exact released_apart

theorem confirmAll_apart {minConf : ℕ} (inFlight : List CryptoWithdrawal) :
    Apart past (confirmAll minConf inFlight) := by
  induction inFlight generalizing past with
  | nil => trivial
  | cons withdrawal inFlight ih =>
    unfold confirmAll
    split
    · exact ih
    refine lawful_bind (lawful_ask rfl) fun status past => ?_
    split
    · exact ih
    split
    · exact lawful_bind failWithdrawal_apart fun _ _ => lawful_bind ih fun _ _ => trivial
    split
    · exact lawful_bind finalizeWithdrawal_apart fun _ _ => lawful_bind ih fun _ _ => trivial
    split
    · exact lawful_bind (lawful_ask rfl) fun _ _ => lawful_bind ih fun _ _ => trivial
    · exact ih

theorem runConfirmationCycle_apart : Apart past runConfirmationCycle := by
  unfold runConfirmationCycle
  refine lawful_bind (lawful_ask rfl) fun _ _ => ?_
  exact lawful_bind (lawful_ask rfl) fun inFlight _ => confirmAll_apart inFlight

/-! ## Broadcasting -/

/-- The withdrawal can be failed now. -/
def CanFail (past : Past) : Prop := ∀ id reason, MaySend past (.updateMany id (.markFailed reason))

theorem canFail_of_idle (idle : Idle past) : CanFail past := fun _ _ => .idle idle rfl

/-- The nonce has just been given out. -/
def Given (nonce : ℕ) (past : Past) : Prop :=
  ∃ made earlier wallet, past = made :: earlier ∧ allocated made = some (wallet, nonce)

theorem allocateNonce_obeys {hotWalletId : ℕ} (idle : Idle past) :
    (allocateNonce hotWalletId).Obeys MaySend (EndsWith Idle Given) past := by
  unfold allocateNonce
  have increments {past : Past} (idle : Idle past) :
      (ask (.incrementNonce hotWalletId)).Obeys MaySend (EndsWith Idle Given) past :=
    obeys_answers (.idle idle rfl) (fun _ => idle_failed) fun nonce => ⟨_, _, hotWalletId, rfl, rfl⟩
  have creates {past : Past} (idle : Idle past) :
      (ask (.createNonce hotWalletId)).Obeys MaySend (EndsWith Idle Given) past :=
    obeys_answers (.idle idle rfl) (fun _ => idle_failed) fun nonce => ⟨_, _, hotWalletId, rfl, rfl⟩
  refine Obeys.catch (increments idle) fun failure past _ idle => ?_
  split
  · refine Obeys.catch (creates idle) fun failure past _ idle => ?_
    split
    · exact increments idle
    · exact idle
  · exact idle

theorem allocateNonce_canFail {hotWalletId : ℕ} (idle : Idle past) :
    (allocateNonce hotWalletId).Obeys MaySend (EndsWith CanFail Given) past := by
  refine (allocateNonce_obeys idle).imp fun later result ended => ?_
  cases result with
  | error failure => exact canFail_of_idle ended
  | ok nonce => exact ended

section Listed
variable {rows : List CryptoWithdrawal} {row : CryptoWithdrawal}

/-- A nonce is in vain only if the amount cannot be sent. -/
theorem transferInput_obeys (idle : Idle past) (listed : row ∈ rows)
    (list : ⟨.listForBroadcast CHAIN, .ok rows⟩ ∈ past) :
    (transferInput row).Obeys MaySend (EndsWith CanFail fun (_, input) later => Given input.nonce later) past := by
  unfold transferInput
  have asks : (ask (.getSupportedToken ASSET CHAIN)).Obeys MaySend (EndsWith CanFail fun token later =>
      Idle later ∧ ⟨.getSupportedToken ASSET CHAIN, .ok token⟩ ∈ later) past :=
    obeys_answers (.idle idle rfl) (fun _ => canFail_of_idle idle_failed) fun token =>
      ⟨idle_apart rfl, List.mem_cons_self⟩
  refine asks.seq fun token past grown ⟨idle, told⟩ => ?_
  have list := grown.subset list
  split
  · rename_i decimals _ _ _
    have picks : (ask (.pickActiveHotWallet CHAIN)).Obeys MaySend (EndsWith CanFail fun _ later => Idle later) past :=
      obeys_answers (.idle idle rfl) (fun _ => canFail_of_idle idle_failed) fun _ => idle_apart rfl
    refine picks.seq fun wallet past grown idle => ?_
    have list := grown.subset list
    have told := grown.subset told
    split
    · refine (allocateNonce_canFail idle).seq fun nonce past grown given => ?_
      have list := grown.subset list
      have told := grown.subset told
      cases converted : humanToBase row.netAmount decimals with
      | error failure =>
        refine fun id reason => .giveUp ⟨rows, row, _, list, listed, told, ?_⟩ rfl
        simp only [isSendable, converted]
      | ok amountBase => exact given
    · exact canFail_of_idle idle
  · exact canFail_of_idle idle

theorem signAndBroadcast_obeys (idle : Idle past) (listed : row ∈ rows)
    (list : ⟨.listForBroadcast CHAIN, .ok rows⟩ ∈ past) :
    (signAndBroadcast row).Obeys MaySend (EndsWith CanFail fun _ later => Idle later) past := by
  unfold signAndBroadcast
  refine (transferInput_obeys idle listed list).seq fun ⟨hot, input⟩ past _ given => ?_
  obtain ⟨made, earlier, wallet, rfl, given⟩ := given
  have signs : (ask (.signTransfer input)).Obeys MaySend (EndsWith CanFail fun signed later =>
      later = ⟨.signTransfer input, .ok signed⟩ :: made :: earlier) (made :: earlier) :=
    obeys_answers (.sign given) (fun _ => canFail_of_idle idle_failed) fun _ => rfl
  refine signs.seq fun signed past _ isPast => ?_
  subst isPast
  have sends : (ask (.broadcast row.id signed)).Obeys MaySend (EndsWith CanFail fun _ later => Idle later)
      (⟨.signTransfer input, .ok signed⟩ :: made :: earlier) :=
    obeys_answers .send (fun _ => canFail_of_idle idle_failed) fun _ => rfl
  refine sends.seq fun txHash past _ idle => ?_
  have sets : (ask (.update row.id (.setBroadcast ⟨hot.id, hot.address, input.nonce, txHash⟩))).Obeys MaySend
      (EndsWith CanFail fun _ later => Idle later) past :=
    obeys_answers (.idle idle rfl) (fun _ => canFail_of_idle idle_failed) fun _ => idle_apart rfl
  exact sets.seq fun _ past _ idle => idle

theorem failWithdrawal_obeys (canFail : CanFail past) :
    (failWithdrawal row reason).Obeys MaySend (fun later _ => Idle later) past := by
  unfold failWithdrawal
  rw [obeys_bind, obeys_call]
  refine ⟨canFail row.id reason, fun reply => ?_⟩
  cases reply with
  | error failure => exact idle_failed
  | ok count =>
    have rest : Apart (⟨.updateMany row.id (.markFailed reason), .ok count⟩ :: past) (do
        if count = 0 then return false
        if row.holdTxnId.isSome then
          let _ ← ask (.post (releaseHold row))
        return true) := by
      dsimp only
      split
      · trivial
      · exact released_apart
    exact rest.obeys (idle_apart rfl)

theorem broadcastWithdrawal_obeys (idle : Idle past) (listed : row ∈ rows)
    (list : ⟨.listForBroadcast CHAIN, .ok rows⟩ ∈ past) :
    (broadcastWithdrawal row).Obeys MaySend (fun later _ => Idle later) past := by
  unfold broadcastWithdrawal
  rw [obeys_bind, obeys_call]
  refine ⟨.idle idle rfl, fun reply => ?_⟩
  cases reply with
  | error failure => exact idle_failed
  | ok count =>
    have claimed : Idle (⟨.updateMany row.id .claimForBroadcast, .ok count⟩ :: past) := rfl
    dsimp only
    split
    · exact claimed
    rw [obeys_tryCatch, obeys_bind]
    have list := List.mem_cons_of_mem ⟨.updateMany row.id .claimForBroadcast, .ok count⟩ list
    refine (signAndBroadcast_obeys claimed listed list).imp fun past result ended => ?_
    cases result with
    | ok _ => exact ended
    | error failure =>
      dsimp only
      rw [obeys_bind]
      refine (failWithdrawal_obeys ended).imp fun past result idle => ?_
      cases result <;> exact idle

theorem broadcastAll_obeys {pending : List CryptoWithdrawal} (idle : Idle past) (listed : pending ⊆ rows)
    (list : ⟨.listForBroadcast CHAIN, .ok rows⟩ ∈ past) :
    (broadcastAll pending).Obeys MaySend (fun later _ => Idle later) past := by
  induction pending generalizing past with
  | nil => exact idle
  | cons row pending ih =>
    obtain ⟨isListed, listed⟩ := List.cons_subset.mp listed
    unfold broadcastAll
    rw [obeys_bind]
    refine (broadcastWithdrawal_obeys idle isListed list).grows.imp fun past result ended => ?_
    obtain ⟨grown, idle⟩ := ended
    cases result with
    | error failure => exact idle
    | ok broadcast =>
      dsimp only
      rw [obeys_bind]
      refine (ih idle listed (grown.subset list)).imp fun past result idle => ?_
      cases result <;> exact idle

end Listed

theorem runBroadcastCycle_obeys (idle : Idle past) :
    runBroadcastCycle.Obeys MaySend (fun later _ => Idle later) past := by
  unfold runBroadcastCycle
  rw [obeys_bind, obeys_call]
  refine ⟨.idle idle rfl, fun reply => ?_⟩
  cases reply with
  | error failure => exact idle_failed
  | ok pending => exact broadcastAll_obeys (idle_apart rfl) (List.Subset.refl pending) List.mem_cons_self

/-- Every request follows the rules, and ends with no nonce in hand. -/
theorem program_obeys (request : Request) :
    (request.program config).Obeys MaySend (fun later _ => Idle later) [] := by
  have discard {α : Type} {program : WithdrawalM α} (obeys : program.Obeys MaySend (fun later _ => Idle later) []) :
      (do let _ ← program).Obeys MaySend (fun later _ => Idle later) [] := by
    rw [obeys_bind]
    refine obeys.imp fun past result idle => ?_
    cases result <;> exact idle
  have opening : Idle [] := trivial
  cases request with
  | requestWithdrawal userId input => exact discard (requestWithdrawal_apart.obeys opening)
  | approve id actorId => exact discard (approve_apart.obeys opening)
  | reject id reason actorId => exact discard (rejectWithdrawal_apart.obeys opening)
  | broadcastCycle => exact discard (runBroadcastCycle_obeys opening)
  | confirmationCycle => exact discard (runConfirmationCycle_apart.obeys opening)
  | withdrawalCycle =>
    refine discard ?_
    unfold runWithdrawalCycle
    rw [obeys_bind]
    refine (runBroadcastCycle_obeys opening).imp fun past result idle => ?_
    cases result with
    | error failure => exact idle
    | ok broadcast =>
      have rest : Apart past (do
          let confirmed ← runConfirmationCycle
          return (broadcast, confirmed)) :=
        lawful_bind runConfirmationCycle_apart fun _ _ => trivial
      exact rest.obeys idle
  | setWithdrawalFreeze enabled =>
    have apart : Apart [] (ask (.setWithdrawalFreeze enabled)) := lawful_ask rfl
    exact apart.obeys opening

/-! ## Numbers in sequence -/

variable {config : Config} {requests : WithdrawalId → Request} {x : History} {pid : WithdrawalId}
  {call : WithdrawalCall} {reply : Except Failure call.Reply} {s s' s₀ : Store} {signer : Signer} {now : Time}

/-- What was given out is what the row has counted. -/
def Counted (s₀ : Store) (x : History) : Prop :=
  ∀ wallet, ∃ count, noncesOf wallet x.history = List.range' (firstNonce s₀ wallet) count ∧
    firstNonce x.store wallet = firstNonce s₀ wallet + count

/-- Nonces and tokens are left alone. -/
def Same (s s' : Store) : Prop := s'.nonces = s.nonces ∧ s'.assetChains = s.assetChains

theorem written_same {result : Except Failure (α × Store)} {reply : Except Failure α}
    (kept : ∀ value store, result = .ok (value, store) → Same s store) (made : written s result = (reply, s')) :
    Same s s' := by
  cases result with
  | error failure =>
    cases made
    exact ⟨rfl, rfl⟩
  | ok pair =>
    cases made
    exact kept _ _ rfl

theorem saveRow_same {row : CryptoWithdrawal} (saved : saveRow row s = .ok (value, s')) : Same s s' := by
  obtain ⟨-, -, -, rfl⟩ := saveRow_ok saved
  exact ⟨rfl, rfl⟩

/-- A call gives out the next number of one wallet, or none. -/
theorem performed_nonces (ran : perform signer pid now call s = (reply, s')) :
    (allocated ⟨call, reply⟩ = none ∧ Same s s') ∨
      ∃ wallet, allocated ⟨call, reply⟩ = some (wallet, firstNonce s wallet) ∧
        s' = { s with nonces := s.nonces.insert wallet (firstNonce s wallet + 1) } := by
  cases call with
  | incrementNonce wallet =>
    simp only [perform, incrementNonce] at ran
    cases found : s.nonces.lookup wallet with
    | none =>
      rw [found] at ran
      cases ran
      exact .inl ⟨rfl, rfl, rfl⟩
    | some nonce =>
      rw [found] at ran
      cases ran
      refine .inr ⟨wallet, ?_, ?_⟩ <;> simp [allocated, firstNonce, found]
  | createNonce wallet =>
    simp only [perform, createNonce] at ran
    cases found : s.nonces.lookup wallet with
    | none =>
      rw [found] at ran
      cases ran
      refine .inr ⟨wallet, ?_, ?_⟩ <;> simp [allocated, firstNonce, found]
    | some nonce =>
      rw [found] at ran
      cases ran
      exact .inl ⟨rfl, rfl, rfl⟩
  | createWithdrawal data =>
    refine .inl ⟨rfl, written_same (fun row store created => ?_) ran⟩
    obtain ⟨-, -, -, rfl⟩ := createWithdrawal_ok created
    exact ⟨rfl, rfl⟩
  | update id change =>
    refine .inl ⟨rfl, written_same (fun row store updated => ?_) ran⟩
    unfold update at updated
    split at updated
    · cases updated
    · exact saveRow_same updated
  | updateMany id change =>
    refine .inl ⟨rfl, written_same (fun count store updated => ?_) ran⟩
    unfold updateMany at updated
    split at updated
    · cases updated
      exact ⟨rfl, rfl⟩
    · rename_i row _
      cases saved : saveRow (change.update.set row) s with
      | error failure =>
        rw [saved] at updated
        cases updated
      | ok pair =>
        rw [saved] at updated
        cases updated
        exact saveRow_same saved
  | _ =>
    cases ran
    exact .inl ⟨rfl, rfl, rfl⟩

theorem made_nonces (makes : Makes pid call s reply s') :
    (allocated ⟨call, reply⟩ = none ∧ Same s s') ∨
      ∃ wallet, allocated ⟨call, reply⟩ = some (wallet, firstNonce s wallet) ∧
        s' = { s with nonces := s.nonces.insert wallet (firstNonce s wallet + 1) } := by
  rcases makes with ⟨signer, now, ran⟩ | ⟨⟨failure, -, rfl⟩, rfl⟩
  · exact performed_nonces ran
  · exact .inl ⟨by cases call <;> rfl, rfl, rfl⟩

theorem counted_step (counted : Counted s₀ x) (makes : Makes pid call x.store reply s') :
    Counted s₀ ⟨s', (pid, ⟨call, reply⟩) :: x.history⟩ := by
  intro wallet
  obtain ⟨count, given, next⟩ := counted wallet
  rcases made_nonces makes with ⟨nothing, same, -⟩ | ⟨other, number, rfl⟩
  · refine ⟨count, ?_, ?_⟩
    · rw [← given]
      simp [noncesOf, nothing]
    · rw [← next, firstNonce, firstNonce, same]
  · by_cases own : other = wallet
    · subst own
      refine ⟨count + 1, ?_, ?_⟩
      · rw [List.range'_1_concat, ← given, ← next]
        simp [noncesOf, number]
      · rw [← add_assoc, ← next]
        simp [firstNonce, AList.lookup_insert]
    · refine ⟨count, ?_, ?_⟩
      · rw [← given]
        simp [noncesOf, number, own]
      · rw [← next]
        simp [firstNonce, AList.lookup_insert_ne (Ne.symm own)]

theorem counted_fresh (s : Store) : Counted s ⟨s, []⟩ := fun _ => ⟨0, rfl, rfl⟩

/-! ## Nonces in hand -/

/-- While transfers succeed, each nonce is sent or about to be. -/
structure Kept (s₀ : Store) (x : History) : Prop where
  tokens : x.store.assetChains = s₀.assetChains
  told : ∀ pid token, (pid, ⟨.getSupportedToken ASSET CHAIN, .ok token⟩) ∈ x.history →
    token = getSupportedToken s₀ ASSET CHAIN
  listed : ∀ pid rows, (pid, ⟨.listForBroadcast CHAIN, .ok rows⟩) ∈ x.history →
    ∀ row ∈ rows, ∀ token, getSupportedToken s₀ ASSET CHAIN = some token → isSendable token row = true
  used : ∀ pid made wallet nonce, (pid, made) ∈ x.history → allocated made = some (wallet, nonce) →
    Sent wallet nonce (x.past pid) ∨ Holds wallet nonce (x.past pid)

theorem getSupportedToken_congr (same : s.assetChains = s'.assetChains) (asset chain : String) :
    getSupportedToken s asset chain = getSupportedToken s' asset chain := by
  rw [getSupportedToken, same, getSupportedToken]

theorem Kept.sendable (kept : Kept s₀ x) : ¬Unsendable (x.past pid) := by
  rintro ⟨rows, row, token, list, listed, told, unsendable⟩
  have isToken := kept.told pid _ (Logged.mem_past.mp told)
  rw [kept.listed pid rows (Logged.mem_past.mp list) row listed token isToken.symm] at unsendable
  cases unsendable

/-- The next call of a request that has a nonce uses it. -/
theorem holds_step (holds : Holds wallet nonce past) (may : MaySend past call) (sendable : ¬Unsendable past)
    (succeeded : succeeds s ⟨call, reply⟩ = true) :
    Sent wallet nonce (⟨call, reply⟩ :: past) ∨ Holds wallet nonce (⟨call, reply⟩ :: past) := by
  cases may with
  | idle idle other => exact absurd idle holds.not_idle
  | giveUp unsendable other => exact absurd unsendable sendable
  | sign given =>
    cases reply with
    | error failure => cases succeeded
    | ok signed =>
      cases holds with
      | given isGiven =>
        rw [given] at isGiven
        cases isGiven
        exact .inr (.signed given rfl)
      | signed => cases given
  | send =>
    cases reply with
    | error failure => cases succeeded
    | ok txHash =>
      cases holds with
      | given isGiven => cases isGiven
      | signed given same => exact .inl (.broadcast given same)

theorem kept_step (kept : Kept s₀ x) (may : MaySend (x.past pid) call) (made : sending pid call x reply s') :
    Kept s₀ ⟨s', (pid, ⟨call, reply⟩) :: x.history⟩ where
  tokens := by
    rcases made_nonces made.1 with ⟨-, -, same⟩ | ⟨wallet, -, rfl⟩
    · exact same.trans kept.tokens
    · exact kept.tokens
  told other token member := by
    rcases List.mem_cons.mp member with same | earlier
    · cases same
      rcases made.1 with ⟨signer, now, ran⟩ | ⟨⟨failure, -, failed⟩, -⟩
      · cases ran
        exact getSupportedToken_congr kept.tokens ASSET CHAIN
      · cases failed
    · exact kept.told other token earlier
  listed other rows member := by
    rcases List.mem_cons.mp member with same | earlier
    · cases same
      intro row isRow token isToken
      have succeeded := made.2
      simp only [succeeds, getSupportedToken_congr kept.tokens, isToken, Option.all_some, List.all_eq_true] at succeeded
      exact succeeded row isRow
    · exact kept.listed other rows earlier
  used other call' wallet nonce member given := by
    by_cases own : other = pid
    · subst own
      rw [Logged.past_self]
      rcases List.mem_cons.mp member with same | earlier
      · cases same
        exact .inr (.given given)
      · rcases kept.used other call' wallet nonce earlier given with sent | holds
        · exact .inl (.earlier sent)
        · exact holds_step holds may kept.sendable made.2
    · rw [Logged.past_ne _ own]
      rcases List.mem_cons.mp member with same | earlier
      · cases same
        exact absurd rfl own
      · exact kept.used other call' wallet nonce earlier given

theorem kept_fresh (s : Store) : Kept s ⟨s, []⟩ where
  tokens := rfl
  told _ _ member := absurd member List.not_mem_nil
  listed _ _ member := absurd member List.not_mem_nil
  used _ _ _ _ member := absurd member List.not_mem_nil

theorem Sent.given (sent : Sent wallet nonce past) : ∃ made ∈ past, allocated made = some (wallet, nonce) := by
  induction sent with
  | broadcast given same => exact ⟨_, by simp, given⟩
  | earlier sent ih =>
    obtain ⟨made, member, given⟩ := ih
    exact ⟨made, List.mem_cons_of_mem _ member, given⟩

theorem Sent.signed (sent : Sent wallet nonce past) :
    ∃ input signed, (⟨.signTransfer input, .ok signed⟩ : Made) ∈ past ∧ input.nonce = nonce := by
  induction sent with
  | broadcast given same => exact ⟨_, _, List.mem_cons_of_mem _ List.mem_cons_self, same⟩
  | earlier sent ih =>
    obtain ⟨input, signed, member, same⟩ := ih
    exact ⟨input, signed, List.mem_cons_of_mem _ member, same⟩

theorem mem_noncesOf : nonce ∈ noncesOf wallet x.history ↔
    ∃ pid made, (pid, made) ∈ x.history ∧ allocated made = some (wallet, nonce) := by
  simp only [noncesOf, List.mem_reverse, List.mem_filterMap, Prod.exists, Option.map_eq_some_iff,
    Option.filter_eq_some_iff, decide_eq_true_eq]
  constructor
  · rintro ⟨pid, made, member, _, _, ⟨given, rfl⟩, rfl⟩
    exact ⟨pid, made, member, given⟩
  · rintro ⟨pid, made, member, given⟩
    exact ⟨pid, made, member, wallet, nonce, ⟨given, rfl⟩, rfl⟩

theorem isRequest_obeys {program : WithdrawalM Unit} (isRequest : IsRequest config requests pid program) :
    program.Obeys MaySend (fun later _ => Idle later) [] := by
  rw [isRequest]
  exact program_obeys (requests pid)

section Runs
variable {pool : WithdrawalPool}

theorem run_counted (run : Logged.Run interleaved (IsRequest config requests) (· = s₀) pool) :
    Counted s₀ pool.store := by
  refine run.inv (fun _ _ isRequest => isRequest_obeys isRequest) (fun s initial => ?_)
    fun _ _ _ _ _ counted _ makes => counted_step counted makes
  subst initial
  exact counted_fresh s

theorem run_kept (run : Logged.Run sending (IsRequest config requests) (· = s₀) pool) : Kept s₀ pool.store := by
  refine run.inv (fun _ _ isRequest => isRequest_obeys isRequest) (fun s initial => ?_)
    fun _ _ _ _ _ kept may made => kept_step kept may made
  subst initial
  exact kept_fresh s

/-- A request that has ended has no nonce in hand. -/
theorem inHand_of_holds (run : Logged.Run sending (IsRequest config requests) (· = s₀) pool)
    (holds : Holds wallet nonce (pool.store.past pid)) : InHand wallet nonce pool := by
  have orderly : Logged.Orderly (fun _ => MaySend) (fun _ later _ => Idle later) pool :=
    run.orderly fun _ _ isRequest => isRequest_obeys isRequest
  cases found : pool.programs.lookup pid with
  | none =>
    rw [(orderly pid).1 found] at holds
    cases holds
  | some program =>
    cases program with
    | done result => exact absurd (orderly.ended found) holds.not_idle
    | await call next => exact ⟨pid, call, next, found, holds⟩

/-- Nonces are given out in sequence along every run; and where every transfer
succeeds that has been given one, none is left out among those broadcast. -/
theorem nonces_in_sequence (run : Logged.Run interleaved (IsRequest config requests) (· = s₀) pool) :
    Consecutive s₀ pool.store ∧
      (Logged.Run sending (IsRequest config requests) (· = s₀) pool → NoGap s₀ pool) := by
  have counted := run_counted run
  constructor
  · intro wallet
    obtain ⟨count, given, -⟩ := counted wallet
    exact ⟨count, given⟩
  · intro succeeding wallet nonce later first less ⟨pid, sent⟩
    obtain ⟨count, given, -⟩ := counted wallet
    obtain ⟨made, member, isLater⟩ := sent.given
    have laterGiven := mem_noncesOf.mpr ⟨pid, made, Logged.mem_past.mp member, isLater⟩
    rw [given, List.mem_range'_1] at laterGiven
    have isGiven : nonce ∈ noncesOf wallet pool.store.history := by
      rw [given, List.mem_range'_1]
      omega
    obtain ⟨other, made, member, isGiven⟩ := mem_noncesOf.mp isGiven
    rcases (run_kept succeeding).used other made wallet nonce member isGiven with sent | holds
    · exact .inl ⟨other, sent⟩
    · exact .inr (inHand_of_holds succeeding holds)

end Runs

/-! ## Two withdrawals -/

private def twoWithdrawals : WithdrawalId → Request
  | 1 => .requestWithdrawal 1 tenUsdt
  | 2 => .requestWithdrawal 1 tenUsdt
  | 3 => .approve 1 (some 7)
  | 4 => .approve 2 (some 7)
  | _ => .broadcastCycle

/-- The signer does not get at its key for the first transfer. -/
private def lateSigner : Signer where
  signTransfer input := if input.nonce = 0 then .error (.error "kms_unavailable") else .ok ⟨"tx", ""⟩
  broadcast signedTx := .ok signedTx.txHash
  getConfirmations _ := .ok ⟨true, 20, true⟩

/-- Somewhere in the past, three calls in a row send a transaction. -/
private def hasSent (wallet nonce : ℕ) : Past → Bool
  | [] => false
  | latest :: past =>
    hasSent wallet nonce past ||
      match latest, past with
      | ⟨.broadcast _ signedTx, .ok _⟩, ⟨.signTransfer input, .ok signed⟩ :: made :: _ =>
        signedTx = signed && input.nonce = nonce && allocated made = some (wallet, nonce)
      | _, _ => false

private theorem sent_of_hasSent (sent : hasSent wallet nonce past = true) : Sent wallet nonce past := by
  induction past with
  | nil => cases sent
  | cons latest past ih =>
    unfold hasSent at sent
    rcases Bool.or_eq_true_iff.mp sent with earlier | last
    · exact .earlier (ih earlier)
    · split at last
      · simp only [Bool.and_eq_true, decide_eq_true_eq] at last
        obtain ⟨⟨rfl, same⟩, given⟩ := last
        exact .broadcast given same
      · cases last

/-- No transaction was signed with this nonce. -/
private def unsigned (nonce : ℕ) : WithdrawalId × Made → Bool
  | (_, ⟨.signTransfer input, .ok _⟩) => input.nonce ≠ nonce
  | _ => true

private theorem Sent.isSigned (sent : Sent wallet nonce (x.past pid)) : x.history.all (unsigned nonce) = false := by
  obtain ⟨input, signed, member, same⟩ := sent.signed
  refine List.all_eq_false.mpr ⟨_, Logged.mem_past.mp member, ?_⟩
  simp [unsigned, same]

/-- Both withdrawals are sent. -/
theorem nonces_in_sequence_sent : ∃ pool : WithdrawalPool, noncesOf 1 pool.store.history = [0, 1] ∧
    Consecutive smallBank pool.store ∧ NoGap smallBank pool := by
  have played : (schedule (fun _ => mockSigner ⟨true, 20, true⟩) (fun _ _ => false)
      (fun _ call x reply => succeeds x.store ⟨call, reply⟩) twoWithdrawals [1, 2, 3, 4, 5]
      [(1, 20), (2, 20), (3, 10), (4, 10), (5, 40)]).map (fun pool => noncesOf 1 pool.store.history) =
      some [0, 1] := by decide +kernel
  obtain ⟨pool, scheduled, facts⟩ := Option.map_eq_some_iff.mp played
  have run : Logged.Run interleaved (IsRequest smallConfig twoWithdrawals) (· = smallBank) pool :=
    schedule_run rfl (fun _ _ _ _ _ _ makes => makes) scheduled
  have succeeding : Logged.Run sending (IsRequest smallConfig twoWithdrawals) (· = smallBank) pool :=
    schedule_run rfl (fun _ _ _ _ _ succeeded makes => ⟨makes, succeeded⟩) scheduled
  have sequenced := nonces_in_sequence run
  exact ⟨pool, facts, sequenced.1, sequenced.2 succeeding⟩

/-- Withdrawal 2 is given nonce 0 and fails, withdrawal 1 goes out with nonce 1. -/
theorem gap_after_failure : ¬∀ pool : WithdrawalPool,
    Logged.Run interleaved (IsRequest smallConfig twoWithdrawals) (· = smallBank) pool → NoGap smallBank pool := by
  intro noGap
  have played : (schedule (fun _ => lateSigner) (fun _ _ => false) (fun _ _ _ _ => true) twoWithdrawals
      [1, 2, 3, 4, 5] [(1, 20), (2, 20), (3, 10), (4, 10), (5, 40)]).map (fun pool =>
        (pool.isQuiet, hasSent 1 1 (pool.store.past 5), pool.store.history.all (unsigned 0))) =
      some (true, true, true) := by decide +kernel
  obtain ⟨pool, scheduled, facts⟩ := Option.map_eq_some_iff.mp played
  simp only [Prod.mk.injEq] at facts
  obtain ⟨quiet, second, unsent⟩ := facts
  have run : Logged.Run interleaved (IsRequest smallConfig twoWithdrawals) (· = smallBank) pool :=
    schedule_run rfl (fun _ _ _ _ _ _ makes => makes) scheduled
  rcases noGap pool run 1 0 1 (Nat.zero_le _) (by omega) ⟨5, sent_of_hasSent second⟩ with
    ⟨pid, first⟩ | ⟨pid, call, next, waiting, -⟩
  · cases unsent.symm.trans first.isSigned
  · cases Pool.quiet_of_isQuiet quiet pid _ waiting

end Exchange.Withdrawal.Nonces
