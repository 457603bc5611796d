import Exchange.Failure
import Exchange.Text
import Mathlib.Tactic

/-! What an admin allows one user to do. Without a row of controls a user has
the defaults; the row that the first look at it or the first edit makes goes by
the state of the account instead. -/
namespace Exchange.FeatureControls

/-! ## Controls -/

inductive ControlFlag where
  | canTradeSpot
  | canPlaceBuyOrders
  | canPlaceSellOrders
  | canCancelOrders
  | canDepositInr
  | canWithdrawInr
  | canDepositCrypto
  | canWithdrawCrypto
  | canAccessCryptoWallet
  | forceKycReview
  | requireEnhancedKyc
  | underComplianceReview
  | blockHighRiskActivity
  | manualReviewBeforeWithdrawal
  deriving DecidableEq, Repr

def POSITIVE_FLAGS : List ControlFlag :=
  [.canTradeSpot, .canPlaceBuyOrders, .canPlaceSellOrders, .canCancelOrders, .canDepositInr, .canWithdrawInr,
    .canDepositCrypto, .canWithdrawCrypto, .canAccessCryptoWallet]

/-- Positive flags whose default is off rather than on. -/
def POSITIVE_FLAGS_DEFAULT_OFF : List ControlFlag := [.canDepositCrypto, .canWithdrawCrypto, .canAccessCryptoWallet]

def RESTRICTION_FLAGS : List ControlFlag :=
  [.forceKycReview, .requireEnhancedKyc, .underComplianceReview, .blockHighRiskActivity,
    .manualReviewBeforeWithdrawal]

def ALL_CONTROL_FLAGS : List ControlFlag := POSITIVE_FLAGS ++ RESTRICTION_FLAGS

theorem mem_all (flag : ControlFlag) : flag ∈ ALL_CONTROL_FLAGS := by
  cases flag <;> decide

abbrev EffectiveControls := ControlFlag → Bool

def defaultEffectiveControls : EffectiveControls := fun flag =>
  if flag ∈ POSITIVE_FLAGS then flag ∉ POSITIVE_FLAGS_DEFAULT_OFF else false

/-- What the columns of a new row hold where nothing is given. -/
def columnDefaults : EffectiveControls
  | .canTradeSpot | .canPlaceBuyOrders | .canPlaceSellOrders | .canCancelOrders | .canDepositInr
  | .canWithdrawInr => true
  | _ => false

theorem columnDefaults_eq : columnDefaults = defaultEffectiveControls := by
  funext flag
  cases flag <;> rfl

inductive UserStatus where
  | active
  | frozen
  | locked
  | closed
  deriving DecidableEq, Repr

inductive RiskLevel where
  | low
  | medium
  | high
  deriving DecidableEq, Repr

structure UserState where
  status : UserStatus
  riskLevel : RiskLevel
  withdrawalsBlocked : Bool
  deriving DecidableEq, Repr

/-- Flags that are given a value, and others that are not. -/
abbrev PartialControls := ControlFlag → Option Bool

def deriveDefaultsFromUser (user : UserState) : PartialControls := fun flag =>
  if flag ∈ [.blockHighRiskActivity, .manualReviewBeforeWithdrawal] ∧ user.riskLevel = .high then some true
  else if flag ∈ [.canWithdrawInr, .canWithdrawCrypto] ∧ user.withdrawalsBlocked then some false
  else if flag ∈ [.canTradeSpot, .canPlaceBuyOrders, .canPlaceSellOrders, .canDepositInr, .canWithdrawInr,
      .canDepositCrypto, .canWithdrawCrypto] ∧ user.status ≠ .active then some false
  else none

def overlay (given : PartialControls) (base : EffectiveControls) : EffectiveControls :=
  fun flag => (given flag).getD (base flag)

/-! ## The global layer -/

structure GlobalFeatureFlags where
  cryptoDepositsGlobalEnabled : Bool
  cryptoWithdrawalsGlobalEnabled : Bool
  cryptoWalletGlobalEnabled : Bool
  inrDepositsGlobalEnabled : Bool
  inrWithdrawalsGlobalEnabled : Bool
  tradingGlobalEnabled : Bool
  deriving DecidableEq, Repr

def globalAllows (flags : GlobalFeatureFlags) : ControlFlag → Bool
  | .canTradeSpot | .canPlaceBuyOrders | .canPlaceSellOrders => flags.tradingGlobalEnabled
  | .canDepositInr => flags.inrDepositsGlobalEnabled
  | .canWithdrawInr => flags.inrWithdrawalsGlobalEnabled
  | .canDepositCrypto => flags.cryptoDepositsGlobalEnabled
  | .canWithdrawCrypto => flags.cryptoWithdrawalsGlobalEnabled
  | .canAccessCryptoWallet => flags.cryptoWalletGlobalEnabled
  | _ => true

def toEffectiveAccess (flags : GlobalFeatureFlags) (controls : EffectiveControls) : EffectiveControls := fun flag =>
  if flag ∈ POSITIVE_FLAGS then controls flag && globalAllows flags flag else controls flag

/-! ## The service -/

structure Row where
  controls : EffectiveControls
  notes : Option Text
  updatedByAdminId : Option ℕ

/-- The flags a call changed, with the values before and after it. -/
structure AdminLog where
  adminId : ℕ
  reason : Text
  beforeState : List (ControlFlag × Bool)
  afterState : List (ControlFlag × Bool)
  deriving DecidableEq

/-- What the database holds about one user. -/
structure Store where
  /-- Unless there is no such user, or only a deleted one. -/
  user : Option UserState
  row : Option Row
  /-- The newest entry first. -/
  adminLog : List AdminLog

def toEffectiveControls : Option Row → EffectiveControls
  | none => defaultEffectiveControls
  | some row => row.controls

def getEffective (store : Store) : EffectiveControls := toEffectiveControls store.row

def getEffectiveAccessControls (flags : GlobalFeatureFlags) (store : Store) : EffectiveControls :=
  toEffectiveAccess flags (getEffective store)

structure ControlsDto where
  controls : EffectiveControls
  isThere : Bool
  notes : Option Text
  updatedByAdminId : Option ℕ
  globalStatus : GlobalFeatureFlags
  effective : EffectiveControls

def toControlsDto (flags : GlobalFeatureFlags) (row : Option Row) : ControlsDto where
  controls := toEffectiveControls row
  isThere := row.isSome
  notes := row.bind Row.notes
  updatedByAdminId := row.bind Row.updatedByAdminId
  globalStatus := flags
  effective := toEffectiveAccess flags (toEffectiveControls row)

def userNotFound : Failure := .notFoundError "User not found" "USER_NOT_FOUND"

/-- `create`, with the column defaults for the rest. -/
def create (data : PartialControls) (notes : Option Text) (updatedByAdminId : Option ℕ) : Row :=
  ⟨overlay data columnDefaults, notes, updatedByAdminId⟩

def getForAdmin (flags : GlobalFeatureFlags) (store : Store) : Except Failure ControlsDto × Store :=
  match store.row with
  | some row => (.ok (toControlsDto flags row), store)
  | none =>
    match store.user with
    | none => (.error userNotFound, store)
    | some user =>
      let row := create (deriveDefaultsFromUser user) none none
      (.ok (toControlsDto flags row), { store with row := some row })

/-- The view that an edit is compared with. -/
def beforeEdit (user : UserState) : Option Row → EffectiveControls
  | some row => row.controls
  | none => overlay (deriveDefaultsFromUser user) defaultEffectiveControls

structure Change where
  field : ControlFlag
  old : Bool
  new : Bool
  deriving DecidableEq, Repr

def changesOf (input : PartialControls) (before : EffectiveControls) : List Change :=
  ALL_CONTROL_FLAGS.filterMap fun flag =>
    match input flag with
    | none => none
    | some next => if next ≠ before flag then some ⟨flag, before flag, next⟩ else none

/-- The new values of what changes. -/
def dataOf (changes : List Change) : PartialControls := fun flag =>
  (changes.find? fun change => change.field = flag).map Change.new

def updateForAdmin (flags : GlobalFeatureFlags) (input : PartialControls) (reason : Text) (actorId : Option ℕ)
    (store : Store) : Except Failure ControlsDto × Store :=
  match store.user with
  | none => (.error userNotFound, store)
  | some user =>
    let changes := changesOf input (beforeEdit user store.row)
    let reason := reason.trim
    let row : Row := match store.row with
      | some row => ⟨overlay (dataOf changes) row.controls, some reason, actorId⟩
      | none =>
        create (fun flag => (dataOf changes flag).orElse fun _ => deriveDefaultsFromUser user flag) (some reason) actorId
    let adminLog := match actorId with
      | some adminId =>
        ⟨adminId, reason, changes.map fun change => (change.field, change.old),
          changes.map fun change => (change.field, change.new)⟩ :: store.adminLog
      | none => store.adminLog
    (.ok (toControlsDto flags row), { store with row := some row, adminLog })

/-! ## Runs -/

inductive Call where
  | getEffective
  | getEffectiveAccessControls
  | getForAdmin
  | updateForAdmin (input : PartialControls) (reason : Text) (actorId : Option ℕ)
  /-- The state of the account changes, or the account goes. -/
  | setUser (user : Option UserState)

def Call.run (flags : GlobalFeatureFlags) (store : Store) : Call → Store
  | .getEffective | .getEffectiveAccessControls => store
  | .getForAdmin => (FeatureControls.getForAdmin flags store).2
  | .updateForAdmin input reason actorId => (FeatureControls.updateForAdmin flags input reason actorId store).2
  | .setUser user => { store with user }

def after (flags : GlobalFeatureFlags) (start : Store) (calls : List Call) : Store := calls.foldl (Call.run flags) start

def changedFlags (before after : EffectiveControls) : List ControlFlag :=
  ALL_CONTROL_FLAGS.filter fun flag => before flag ≠ after flag

/-- What an update changed is what it logged; nothing else changes anything. -/
def OnRecord (call : Call) (before after : Store) : Prop :=
  match call with
  | .updateForAdmin _ _ _ =>
    let changed := changedFlags (getEffective before) (getEffective after)
    (∃ entry, after.adminLog = entry :: before.adminLog ∧
      entry.beforeState = changed.map (fun flag => (flag, getEffective before flag)) ∧
      entry.afterState = changed.map fun flag => (flag, getEffective after flag)) ∨
    (after.adminLog = before.adminLog ∧ changed = [])
  | _ => getEffective after = getEffective before

/-- The account gives no cause for other controls than the default ones. -/
def Unremarkable (user : UserState) : Prop :=
  user.status = .active ∧ user.withdrawalsBlocked = false ∧ user.riskLevel ≠ .high

/-- A call makes no row, or makes it for an unremarkable account; and an update
by nobody changes nothing. -/
def Apparent (store : Store) : Call → Prop
  | .getForAdmin => store.row.isSome ∨ ∀ user ∈ store.user, Unremarkable user
  | .updateForAdmin input _ actorId => ∀ user ∈ store.user,
      if actorId.isSome then store.row.isSome ∨ Unremarkable user
      else ∀ flag, (input flag).getD (beforeEdit user store.row flag) = getEffective store flag
  | _ => True

/-! ## Derived defaults -/

theorem derived_eq_default (user : UserState) :
    overlay (deriveDefaultsFromUser user) defaultEffectiveControls = defaultEffectiveControls ↔ Unremarkable user := by
  constructor
  · intro same
    refine ⟨?_, ?_, ?_⟩
    · by_contra inactive
      have := congrFun same .canTradeSpot
      simp [overlay, deriveDefaultsFromUser, inactive, defaultEffectiveControls, POSITIVE_FLAGS,
        POSITIVE_FLAGS_DEFAULT_OFF] at this
    · refine eq_false_of_ne_true fun blocked => ?_
      have := congrFun same .canWithdrawInr
      simp [overlay, deriveDefaultsFromUser, blocked, defaultEffectiveControls, POSITIVE_FLAGS,
        POSITIVE_FLAGS_DEFAULT_OFF] at this
    · intro high
      have := congrFun same .blockHighRiskActivity
      simp [overlay, deriveDefaultsFromUser, high, defaultEffectiveControls, POSITIVE_FLAGS] at this
  · rintro ⟨active, unblocked, quiet⟩
    funext flag
    simp [overlay, deriveDefaultsFromUser, active, unblocked, quiet]

/-- Without a row, an edit starts from other controls than the user has, unless
the account is unremarkable. -/
theorem beforeEdit_eq_iff (user : UserState) (row : Option Row) :
    beforeEdit user row = toEffectiveControls row ↔ row.isSome ∨ Unremarkable user := by
  cases row with
  | some row => simp [beforeEdit, toEffectiveControls]
  | none => simp [beforeEdit, toEffectiveControls, derived_eq_default]

/-! ## What an update changes -/

theorem mem_changesOf {input : PartialControls} {before : EffectiveControls} {change : Change} :
    change ∈ changesOf input before ↔
      input change.field = some change.new ∧ change.old = before change.field ∧ change.new ≠ change.old := by
  obtain ⟨field, old, new⟩ := change
  simp only [changesOf, List.mem_filterMap]
  constructor
  · rintro ⟨flag, _, isChange⟩
    cases given : input flag with
    | none => simp [given] at isChange
    | some next =>
      simp only [given, Option.ite_none_right_eq_some, Option.some.injEq, Change.mk.injEq] at isChange
      obtain ⟨differs, rfl, rfl, rfl⟩ := isChange
      exact ⟨given, rfl, differs⟩
  · rintro ⟨given, rfl, differs⟩
    exact ⟨field, mem_all field, by simp [given, differs]⟩

theorem dataOf_changesOf (input : PartialControls) (before : EffectiveControls) (flag : ControlFlag) :
    dataOf (changesOf input before) flag = (input flag).filter (· ≠ before flag) := by
  rw [dataOf]
  cases found : (changesOf input before).find? fun change => change.field = flag with
  | some change =>
    have member := List.mem_of_find?_eq_some found
    have same : change.field = flag := by simpa using List.find?_some found
    obtain ⟨given, old, differs⟩ := mem_changesOf.mp member
    subst same
    rw [given, Option.map_some, Option.filter_some, if_pos]
    rw [old] at differs
    exact decide_eq_true differs
  | none =>
    rw [List.find?_eq_none] at found
    rw [Option.map_none, eq_comm, Option.filter_eq_none_iff]
    intro next given
    by_contra differs
    refine found ⟨flag, before flag, next⟩ (mem_changesOf.mpr ⟨given, rfl, ?_⟩) (decide_eq_true rfl)
    simpa using differs

theorem changesOf_eq (input : PartialControls) (before : EffectiveControls) : changesOf input before =
    (changedFlags before (overlay input before)).map fun flag => ⟨flag, before flag, overlay input before flag⟩ := by
  unfold changesOf changedFlags
  induction ALL_CONTROL_FLAGS with
  | nil => rfl
  | cons flag rest each =>
    rw [List.filterMap_cons, List.filter_cons, each]
    cases given : input flag with
    | none => simp [overlay, given]
    | some next =>
      by_cases same : next = before flag
      · simp [overlay, given, same]
      · simp [overlay, given, same, Ne.symm same]

section
variable {flags : GlobalFeatureFlags} {input : PartialControls} {reason : Text} {store : Store} {user : UserState}

theorem getEffective_update (isUser : store.user = some user) (actorId : Option ℕ) :
    getEffective (updateForAdmin flags input reason actorId store).2 =
      overlay input (beforeEdit user store.row) := by
  funext flag
  simp only [updateForAdmin, isUser, getEffective, toEffectiveControls]
  cases isRow : store.row with
  | some row =>
    simp only [overlay, dataOf_changesOf, beforeEdit]
    cases input flag with
    | none => rfl
    | some next => by_cases same : next = row.controls flag <;> simp [Option.filter, same]
  | none =>
    simp only [create, overlay, dataOf_changesOf, beforeEdit, columnDefaults_eq]
    cases input flag with
    | none => simp
    | some next =>
      by_cases same : next = (deriveDefaultsFromUser user flag).getD (defaultEffectiveControls flag) <;>
        simp [Option.filter, same]

theorem adminLog_update (isUser : store.user = some user) (adminId : ℕ) :
    let changed := changedFlags (beforeEdit user store.row) (overlay input (beforeEdit user store.row))
    (updateForAdmin flags input reason (some adminId) store).2.adminLog =
      ⟨adminId, reason.trim, changed.map fun flag => (flag, beforeEdit user store.row flag),
        changed.map fun flag => (flag, overlay input (beforeEdit user store.row) flag)⟩ :: store.adminLog := by
  simp only [updateForAdmin, isUser, changesOf_eq, List.map_map, Function.comp_def]

theorem changedFlags_eq_nil {before after : EffectiveControls} :
    changedFlags before after = [] ↔ after = before := by
  simp only [changedFlags, List.filter_eq_nil_iff, decide_eq_true_eq, not_not]
  constructor
  · intro same
    funext flag
    exact (same flag (mem_all flag)).symm
  · rintro rfl flag _
    rfl

theorem mem_changedFlags {before after : EffectiveControls} :
    flag ∈ changedFlags before after ↔ before flag ≠ after flag := by
  simp [changedFlags, mem_all]

/-- An edit logged by what it started from is right just if the user had that. -/
theorem logged_right_iff (effective before : EffectiveControls) (input : PartialControls) :
    ((changedFlags before (overlay input before)).map (fun flag => (flag, before flag)) =
        (changedFlags effective (overlay input before)).map (fun flag => (flag, effective flag)) ∧
      (changedFlags before (overlay input before)).map (fun flag => (flag, overlay input before flag)) =
        (changedFlags effective (overlay input before)).map fun flag => (flag, overlay input before flag)) ↔
      before = effective := by
  constructor
  · rintro ⟨logged, -⟩
    have fields := congrArg (List.map Prod.fst) logged
    simp only [List.map_map, Function.comp_def, List.map_id'] at fields
    funext flag
    by_contra differs
    -- a flag has two values: what is logged as changed back is not changed, and the other way round
    have member : before flag ≠ overlay input before flag ↔ effective flag ≠ overlay input before flag := by
      rw [← mem_changedFlags, ← mem_changedFlags, fields]
    revert member differs
    cases before flag <;> cases effective flag <;> cases overlay input before flag <;> decide
  · rintro rfl
    exact ⟨rfl, rfl⟩

end

/-- A call is on record just if it is apparent. -/
theorem onRecord_iff (flags : GlobalFeatureFlags) (store : Store) (call : Call) :
    OnRecord call store (call.run flags store) ↔ Apparent store call := by
  cases call with
  | getEffective => exact iff_of_true rfl trivial
  | getEffectiveAccessControls => exact iff_of_true rfl trivial
  | setUser user => exact iff_of_true rfl trivial
  | getForAdmin =>
    simp only [OnRecord, Apparent, Call.run]
    cases isRow : store.row with
    | some row => simp [getForAdmin, isRow]
    | none =>
      cases isUser : store.user with
      | none => simp [getForAdmin, isRow, isUser]
      | some user =>
        simp [getForAdmin, isRow, isUser, getEffective, toEffectiveControls, create, columnDefaults_eq,
          derived_eq_default]
  | updateForAdmin input reason actorId =>
    simp only [OnRecord, Apparent, Call.run]
    cases isUser : store.user with
    | none => simp [updateForAdmin, isUser, changedFlags_eq_nil]
    | some user =>
      rw [getEffective_update isUser]
      cases actorId with
      | some adminId =>
        rw [adminLog_update isUser]
        simp only [List.cons.injEq, and_true, exists_eq_left', List.cons_ne_self, false_and, or_false,
          Option.isSome_some, if_true, Option.mem_def, Option.some.injEq, forall_eq']
        rw [logged_right_iff, ← beforeEdit_eq_iff, getEffective]
      | none =>
        have unlogged : (updateForAdmin flags input reason none store).2.adminLog = store.adminLog := by
          simp only [updateForAdmin, isUser]
        simp only [unlogged, changedFlags_eq_nil, true_and, Option.isSome_none, Bool.false_eq_true, if_false,
          Option.mem_def, Option.some.injEq, forall_eq']
        constructor
        · rintro (⟨entry, longer, -⟩ | same)
          · exact absurd longer.symm (List.cons_ne_self _ _)
          · exact fun flag => congrFun same flag
        · exact fun same => .inr (funext same)

/-- In every run, what a user may do changes on record just if each call is
apparent in the state it meets. -/
theorem changes_on_record_iff (flags : GlobalFeatureFlags) (start : Store) (calls : List Call) :
    (∀ earlier call later, calls = earlier ++ call :: later →
      OnRecord call (after flags start earlier) (after flags start (earlier ++ [call]))) ↔
    ∀ earlier call later, calls = earlier ++ call :: later → Apparent (after flags start earlier) call := by
  refine forall₂_congr fun earlier call => forall₂_congr fun later _ => ?_
  have stepped : after flags start (earlier ++ [call]) = call.run flags (after flags start earlier) := by
    rw [after, List.foldl_append]
    rfl
  rw [stepped, onRecord_iff]

/-- Of a frozen account, without a row. -/
def frozenStore : Store := ⟨some ⟨.frozen, .low, false⟩, none, []⟩

def inrOnly : GlobalFeatureFlags := ⟨false, false, false, true, true, true⟩

/-- The first look at the controls takes trading away. -/
theorem look_takes_trading_away :
    ¬OnRecord .getForAdmin frozenStore (after inrOnly frozenStore [.getForAdmin]) := by
  intro unchanged
  have := congrFun unchanged .canTradeSpot
  exact absurd this (by decide)

end Exchange.FeatureControls
