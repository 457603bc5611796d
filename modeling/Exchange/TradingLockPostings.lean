import Exchange.TradingServiceRules

/-! What the ledger has posted for each order: its lock, the settlements of its
fills, and the release of what is left. What trading holds in a user's locked
balance is what these postings hold for the user's orders. -/
namespace Exchange.Trading.LockAccounting
open SignificantDigits Ledger Service

/-- What was posted for one order. -/
structure Postings where
  locks : List (LedgerTransaction Reference)
  unlocks : List (LedgerTransaction Reference)
  settlements : List (LedgerTransaction Reference)

namespace Postings

def none : Postings := ⟨[], [], []⟩

/-- What was posted as ORDER_LOCK. -/
def locked (posted : Postings) (asset : String) : ℚ := -(posted.locks.map (lockedDebit asset)).sum

/-- What was posted as ORDER_UNLOCK. -/
def unlocked (posted : Postings) (asset : String) : ℚ := (posted.unlocks.map (lockedDebit asset)).sum

/-- What the fills have settled. -/
def settled (posted : Postings) (asset : String) : ℚ := (posted.settlements.map (lockedDebit asset)).sum

/-- What is left of the lock. -/
def held (posted : Postings) (asset : String) : ℚ :=
  posted.locked asset - posted.settled asset - posted.unlocked asset

@[simp] theorem held_none (asset : String) : none.held asset = 0 := by
  simp [held, locked, unlocked, settled, none]

end Postings

/-- The transaction is of this type and refers to the order. -/
def refersTo (referenceType : String) (id : OrderId) (txn : LedgerTransaction Reference) : Bool :=
  txn.referenceType = some referenceType ∧ txn.referenceId = some (.order id)

def postings (s : Store) (id : OrderId) : Postings where
  locks := s.ledger.transactions.filter (refersTo "order_lock" id)
  unlocks := s.ledger.transactions.filter (refersTo "order_unlock" id)
  settlements := settlements s id

/-- A posting that an order has made. -/
def isTrading (txn : LedgerTransaction Reference) : Bool :=
  txn.referenceType ∈ [some "order_lock", some "order_unlock", some "trade"]

/-- The account of a user's locked balance. -/
def lockedAccount (userId : UserId) (asset : String) : Account := ⟨some userId, citext asset, .userLocked⟩

/-- What trading contributes to a user's USER_LOCKED balance. -/
def tradingLocked (s : Store) (userId : UserId) (asset : String) : ℚ :=
  ((s.ledger.transactions.filter isTrading).map fun txn => txn.net (lockedAccount userId asset)).sum

/-- The order is the user's and locks the asset. -/
def locksFor (userId : UserId) (asset : String) (order : Order) : Bool :=
  order.userId = userId && order.lockedAsset.map citext = some (citext asset)

/-- What an order's postings hold in a user's locked balance. -/
def share (s : Store) (userId : UserId) (asset : String) (id : OrderId) (order : Order) : ℚ :=
  if locksFor userId asset order then (postings s id).held asset else 0

/-- Every release of an order's lock comes after a lock of the order. -/
def LockFirst (s : Store) : Prop :=
  ∀ (i : ℕ) (id : OrderId) (txn : LedgerTransaction Reference), s.ledger.transactions[i]? = some txn →
    refersTo "order_unlock" id txn → ∃ (j : ℕ) (lock : LedgerTransaction Reference), j < i ∧
      s.ledger.transactions[j]? = some lock ∧ refersTo "order_lock" id lock

/-- The postings add up to what they hold for the orders. -/
structure Booked (s : Store) : Prop where
  keyed : Keyed s
  absent : ∀ id, s.orders.lookup id = none → postings s id = .none
  balance : ∀ userId asset, tradingLocked s userId asset = s.orders.total (share s userId asset)
  lockFirst : LockFirst s

variable {s s' : Store} {id : OrderId} {order row taker maker : Order} {required : LockRequirement}
  {input : LedgerPostingInput Reference} {txn : LedgerTransaction Reference} {ledger : Ledger.Store Reference}
  {asset : String} {amount : Decimal} {fill : EngineFill} {market : Market} {params : MarketParams} {userId : UserId}

/-! ## What a posting adds -/

theorem postings_recorded (recorded : Recorded s.ledger input txn ledger) (id : OrderId) :
    postings { s with ledger } id =
      ⟨(postings s id).locks ++ if refersTo "order_lock" id txn then [txn] else [],
        (postings s id).unlocks ++ if refersTo "order_unlock" id txn then [txn] else [],
        (postings s id).settlements ++ if settles id txn then [txn] else []⟩ := by
  have each (part : LedgerTransaction Reference → Bool) : ledger.transactions.filter part =
      s.ledger.transactions.filter part ++ if part txn then [txn] else [] := by
    rw [recorded.transactions, List.filter_append, List.filter_singleton]
    cases part txn <;> rfl
  simp only [postings, settlements, each]

theorem tradingLocked_recorded (recorded : Recorded s.ledger input txn ledger) (trading : isTrading txn)
    (userId : UserId) (asset : String) : tradingLocked { s with ledger } userId asset =
      tradingLocked s userId asset + changes input.lines (lockedAccount userId asset) := by
  rw [tradingLocked, recorded.transactions, List.filter_append, List.filter_singleton, trading, cond_true,
    List.map_append, List.sum_append, tradingLocked, List.map_singleton, List.sum_singleton, recorded.net]

/-- The lock of an order is posted for it alone. -/
theorem postings_lock (recorded : Recorded s.ledger (orderLock order required) txn ledger) (id : OrderId) :
    postings { s with ledger } id =
      if id = order.id then { postings s id with locks := (postings s id).locks ++ [txn] } else postings s id := by
  obtain ⟨kind, reference⟩ := recorded.reference
  rw [postings_recorded recorded]
  by_cases same : id = order.id
  · simp [refersTo, settles, kind, reference, orderLock, same]
  · simp [refersTo, settles, kind, reference, orderLock, same, Ne.symm same]

theorem postings_unlock (recorded : Recorded s.ledger (orderUnlock order asset amount) txn ledger) (id : OrderId) :
    postings { s with ledger } id =
      if id = order.id then { postings s id with unlocks := (postings s id).unlocks ++ [txn] }
      else postings s id := by
  obtain ⟨kind, reference⟩ := recorded.reference
  rw [postings_recorded recorded]
  by_cases same : id = order.id
  · simp [refersTo, settles, kind, reference, orderUnlock, same]
  · simp [refersTo, settles, kind, reference, orderUnlock, same, Ne.symm same]

/-- A settlement is posted for both of its orders. -/
theorem postings_settlement
    (recorded : Recorded s.ledger (settlement taker maker fill market params).input txn ledger) (id : OrderId) :
    postings { s with ledger } id =
      if taker.id = id ∨ maker.id = id then { postings s id with settlements := (postings s id).settlements ++ [txn] }
      else postings s id := by
  have party := settles_settlement recorded id
  obtain ⟨kind, reference⟩ := recorded.reference
  rw [postings_recorded recorded, party]
  by_cases same : taker.id = id ∨ maker.id = id
  · simp [refersTo, kind, reference, settlement, same]
  · simp [refersTo, kind, reference, settlement, same]

theorem lockedDebit_lock (recorded : Recorded s.ledger (orderLock order required) txn ledger) :
    lockedDebit asset txn = if citext required.asset = citext asset then -Numeric.rounded required.amount else 0 := by
  rw [lockedDebit_recorded recorded]
  simp [orderLock, transferLines, lineDebit, LedgerPostingLine.change, EntryDirection.signed]

theorem lockedDebit_unlock (recorded : Recorded s.ledger (orderUnlock order asset amount) txn ledger)
    (other : String) : lockedDebit other txn = if citext asset = citext other then Numeric.rounded amount else 0 := by
  rw [lockedDebit_recorded recorded]
  simp [orderUnlock, transferLines, lineDebit, LedgerPostingLine.change, EntryDirection.signed]


/-! ## The balance -/

theorem Postings.held_lock (posted : Postings) :
    Postings.held { posted with locks := posted.locks ++ [txn] } asset =
      posted.held asset - lockedDebit asset txn := by
  simp only [held, locked, unlocked, settled, List.map_append, List.sum_append, List.map_singleton,
    List.sum_singleton]
  ring

theorem Postings.held_unlock (posted : Postings) :
    Postings.held { posted with unlocks := posted.unlocks ++ [txn] } asset =
      posted.held asset - lockedDebit asset txn := by
  simp only [held, locked, unlocked, settled, List.map_append, List.sum_append, List.map_singleton,
    List.sum_singleton]
  ring

theorem Postings.held_settlement (posted : Postings) :
    Postings.held { posted with settlements := posted.settlements ++ [txn] } asset =
      posted.held asset - lockedDebit asset txn := by
  simp only [held, locked, unlocked, settled, List.map_append, List.sum_append, List.map_singleton,
    List.sum_singleton]
  ring

theorem share_congr (same : postings s' id = postings s id) :
    share s' userId asset id order = share s userId asset id order := by
  rw [share, same, share]

theorem share_less (held : (postings s' id).held asset = (postings s id).held asset - lockedDebit asset txn) :
    share s' userId asset id order =
      share s userId asset id order + if locksFor userId asset order then -lockedDebit asset txn else 0 := by
  unfold share
  split
  · rw [held, sub_eq_add_neg]
  · rw [add_zero]

theorem LockFirst.posted (first : LockFirst s) (recorded : Recorded s.ledger input txn ledger)
    (locked : ∀ id, refersTo "order_unlock" id txn → (postings s id).locks ≠ []) : LockFirst { s with ledger } := by
  intro i id released found refers
  simp only [recorded.transactions] at found ⊢
  rcases lt_or_ge i s.ledger.transactions.length with old | new
  · rw [List.getElem?_append_left old] at found
    obtain ⟨j, lock, before, isLock, isIts⟩ := first i id released found refers
    exact ⟨j, lock, before, (List.getElem?_append_left (before.trans old)).trans isLock, isIts⟩
  · rw [List.getElem?_append_right new, List.getElem?_singleton] at found
    split at found
    · cases found
      obtain ⟨lock, member⟩ := List.exists_mem_of_ne_nil _ (locked id refers)
      obtain ⟨inLog, isIts⟩ := List.mem_filter.mp member
      obtain ⟨j, isLock⟩ := List.getElem?_of_mem inLog
      obtain ⟨before, -⟩ := List.getElem?_eq_some_iff.mp isLock
      exact ⟨j, lock, before.trans_le new, (List.getElem?_append_left before).trans isLock, isIts⟩
    · cases found

/-- A posting of one order moves what it takes off this order's share. -/
theorem Booked.posted (booked : Booked s) (recorded : Recorded s.ledger input txn ledger) (trading : isTrading txn)
    (found : s.orders.lookup id = some row)
    (others : ∀ other ≠ id, postings { s with ledger } other = postings s other)
    (held : ∀ asset, (postings { s with ledger } id).held asset = (postings s id).held asset - lockedDebit asset txn)
    (moved : ∀ userId asset, changes input.lines (lockedAccount userId asset) =
      if locksFor userId asset row then -lockedDebit asset txn else 0)
    (lockFirst : LockFirst { s with ledger }) : Booked { s with ledger } := by
  refine ⟨booked.keyed, fun other missing => ?_, fun userId asset => ?_, lockFirst⟩
  · rw [others other ?_]
    · exact booked.absent other missing
    · rintro rfl
      cases found.symm.trans missing
  · rw [tradingLocked_recorded recorded trading, booked.balance, moved]
    refine (Table.total_add found fun other order isRow => ?_).symm
    by_cases same : other = id
    · subst same
      cases found.symm.trans isRow
      rw [if_pos rfl]
      exact share_less (held asset)
    · rw [if_neg same, add_zero]
      exact share_congr (others other same)

theorem locksFor_iff (isLocked : row.lockedAsset = some asset) {other : String} :
    locksFor userId other row ↔ row.userId = userId ∧ citext asset = citext other := by
  simp [locksFor, isLocked]

theorem Booked.lock (booked : Booked s) (recorded : Recorded s.ledger (orderLock order required) txn ledger)
    (found : s.orders.lookup order.id = some row) (user : row.userId = order.userId)
    (isLocked : row.lockedAsset = some required.asset) : Booked { s with ledger } := by
  have trading : isTrading txn := by simp [isTrading, recorded.reference.1, orderLock]
  refine booked.posted recorded trading found (fun other ne => by rw [postings_lock recorded, if_neg ne])
    (fun asset => by rw [postings_lock recorded, if_pos rfl, Postings.held_lock]) (fun userId asset => ?_)
    (booked.lockFirst.posted recorded fun id refers => ?_)
  · rw [lockedDebit_lock recorded]
    simp only [locksFor_iff isLocked, user]
    by_cases isUser : order.userId = userId <;> by_cases isAsset : citext required.asset = citext asset <;>
      simp [changes, orderLock, transferLines, lockedAccount, LedgerPostingLine.account, LedgerPostingLine.change,
        EntryDirection.signed, isUser, isAsset]
  · simp [refersTo, recorded.reference.1, orderLock] at refers

theorem Booked.unlock (booked : Booked s) (recorded : Recorded s.ledger (orderUnlock order asset amount) txn ledger)
    (found : s.orders.lookup order.id = some row) (user : row.userId = order.userId)
    (isLocked : row.lockedAsset = some asset) (locked : (postings s order.id).locks ≠ []) :
    Booked { s with ledger } := by
  have trading : isTrading txn := by simp [isTrading, recorded.reference.1, orderUnlock]
  refine booked.posted recorded trading found (fun other ne => by rw [postings_unlock recorded, if_neg ne])
    (fun asset => by rw [postings_unlock recorded, if_pos rfl, Postings.held_unlock]) (fun userId other => ?_)
    (booked.lockFirst.posted recorded fun id refers => ?_)
  · rw [lockedDebit_unlock recorded]
    simp only [locksFor_iff isLocked, user]
    by_cases isUser : order.userId = userId <;> by_cases isAsset : citext asset = citext other <;>
      simp [changes, orderUnlock, transferLines, lockedAccount, LedgerPostingLine.account, LedgerPostingLine.change,
        EntryDirection.signed, isUser, isAsset]
  · simp only [refersTo, recorded.reference, orderUnlock, Option.some.injEq, Reference.order.injEq, true_and,
      decide_eq_true_eq] at refers
    exact refers ▸ locked

/-- A buyer locks the quote asset, a seller the base asset. -/
def lockAsset : OrderSide → String
  | .buy => quoteAsset
  | .sell => baseAsset

theorem lock_asset (input : OrderBody) (params : MarketParams) :
    (computeLockRequirement input params).asset = lockAsset input.side := by
  unfold computeLockRequirement
  split <;> simp [*, lockAsset]

/-- The two orders of a fill are on opposite sides. -/
structure Opposed (taker maker : Order) : Prop where
  distinct : taker.id ≠ maker.id
  sides : maker.side = taker.side.opposite
  takerLocks : taker.lockedAsset = some (lockAsset taker.side)
  makerLocks : maker.lockedAsset = some (lockAsset maker.side)

/-- The fee lines leave locked balances alone. -/
private theorem fee_change (condition : Prop) [Decidable condition] (amount : Decimal) (feeAsset : String) :
    ((if condition then [(⟨none, .feeRevenue, feeAsset, .credit, amount⟩ : LedgerPostingLine)]
      else []).map fun line => if line.account = lockedAccount userId asset then line.change else 0).sum = 0 := by
  split <;> simp [lockedAccount, LedgerPostingLine.account]

/-- A settlement takes the quote amount from the buyer's lock and the quantity
from the seller's. -/
theorem changes_settlement (opposed : Opposed taker maker) (recorded : Recorded s.ledger
      (settlement taker maker fill market params).input txn ledger) (userId : UserId) (asset : String) :
    changes (settlement taker maker fill market params).input.lines (lockedAccount userId asset) =
      (if locksFor userId asset taker then -lockedDebit asset txn else 0) +
        if locksFor userId asset maker then -lockedDebit asset txn else 0 := by
  have assets : citext quoteAsset ≠ citext baseAsset := by decide +kernel
  rw [lockedDebit_recorded recorded]
  simp only [settlement, changes, List.map_append, List.sum_append, fee_change, fee_line, add_zero]
  simp only [locksFor_iff opposed.takerLocks, locksFor_iff opposed.makerLocks, opposed.sides]
  cases taker.side with
  | buy =>
    by_cases isQuote : citext quoteAsset = citext asset
    · have notBase : citext baseAsset ≠ citext asset := fun isBase => assets (isQuote.trans isBase.symm)
      simp [lockAsset, OrderSide.opposite, lineDebit, lockedAccount, LedgerPostingLine.account, isQuote, notBase]
    · by_cases isBase : citext baseAsset = citext asset <;>
        simp [lockAsset, OrderSide.opposite, lineDebit, lockedAccount, LedgerPostingLine.account, isQuote, isBase]
  | sell =>
    by_cases isQuote : citext quoteAsset = citext asset
    · have notBase : citext baseAsset ≠ citext asset := fun isBase => assets (isQuote.trans isBase.symm)
      simp [lockAsset, OrderSide.opposite, lineDebit, lockedAccount, LedgerPostingLine.account, isQuote, notBase]
    · by_cases isBase : citext baseAsset = citext asset <;>
        simp [lockAsset, OrderSide.opposite, lineDebit, lockedAccount, LedgerPostingLine.account, isQuote, isBase]

theorem Booked.settle (booked : Booked s) (opposed : Opposed taker maker)
    (recorded : Recorded s.ledger (settlement taker maker fill market params).input txn ledger)
    (isTaker : s.orders.lookup taker.id = some taker) (isMaker : s.orders.lookup maker.id = some maker) :
    Booked { s with ledger } := by
  have trading : isTrading txn := by simp [isTrading, recorded.reference.1, settlement]
  refine ⟨booked.keyed, fun other missing => ?_, fun userId asset => ?_,
    booked.lockFirst.posted recorded fun id refers => ?_⟩
  · rw [postings_settlement recorded, if_neg ?_]
    · exact booked.absent other missing
    · rintro (rfl | rfl)
      · cases isTaker.symm.trans missing
      · cases isMaker.symm.trans missing
  · rw [tradingLocked_recorded recorded trading, booked.balance, changes_settlement opposed recorded, ← add_assoc]
    -- first the taker's share changes, then the maker's
    let between (id : OrderId) (order : Order) : ℚ :=
      if id = taker.id then share { s with ledger } userId asset id order else share s userId asset id order
    have first : s.orders.total between = s.orders.total (share s userId asset) +
        if locksFor userId asset taker then -lockedDebit asset txn else 0 := by
      refine Table.total_add isTaker fun other order isRow => ?_
      by_cases same : other = taker.id
      · subst same
        cases isTaker.symm.trans isRow
        simp only [between, if_pos]
        exact share_less (by rw [postings_settlement recorded, if_pos (.inl rfl), Postings.held_settlement])
      · simp [between, same]
    have second : s.orders.total (share { s with ledger } userId asset) = s.orders.total between +
        if locksFor userId asset maker then -lockedDebit asset txn else 0 := by
      refine Table.total_add isMaker fun other order isRow => ?_
      by_cases same : other = maker.id
      · subst same
        cases isMaker.symm.trans isRow
        simp only [between, if_pos, if_neg opposed.distinct.symm]
        exact share_less (by rw [postings_settlement recorded, if_pos (.inr rfl), Postings.held_settlement])
      · by_cases isFirst : other = taker.id
        · simp [between, isFirst, opposed.distinct]
        · simp only [between, if_neg same, if_neg isFirst, add_zero]
          exact share_congr (by rw [postings_settlement recorded, if_neg (by simp [Ne.symm same, Ne.symm isFirst])])
    exact (congrArg (· + _) first).symm.trans second.symm
  · simp [refersTo, recorded.reference.1, settlement] at refers

/-! ## Rows -/

theorem Booked.update (booked : Booked s) (found : s.orders.lookup id = some order)
    (same : row.id = order.id ∧ row.userId = order.userId ∧ row.lockedAsset = order.lockedAsset) :
    Booked { s with orders := s.orders.insert id row } := by
  refine ⟨booked.keyed.insert (same.1.trans (booked.keyed id order found)), fun other missing => ?_,
    fun userId asset => ?_, booked.lockFirst⟩
  · by_cases here : other = id
    · subst here
      rw [AList.lookup_insert] at missing
      cases missing
    · rw [AList.lookup_insert_ne here] at missing
      exact booked.absent other missing
  · refine (booked.balance userId asset).trans ?_
    have kept : share s userId asset id row = share s userId asset id order := by
      rw [share, locksFor, same.2.1, same.2.2]
      rfl
    have total := Table.total_insert s.orders id row (share s userId asset)
    rw [found, Option.elim_some, kept, sub_add_cancel] at total
    exact total.symm

theorem Booked.create (booked : Booked s) (missing : s.orders.lookup id = none) (isId : row.id = id) :
    Booked { s with orders := s.orders.insert id row } := by
  refine ⟨booked.keyed.insert isId, fun other absent => ?_, fun userId asset => ?_, booked.lockFirst⟩
  · by_cases here : other = id
    · subst here
      rw [AList.lookup_insert] at absent
      cases absent
    · rw [AList.lookup_insert_ne here] at absent
      exact booked.absent other absent
  · refine (booked.balance userId asset).trans ?_
    have nothing : share s userId asset id row = 0 := by simp [share, booked.absent id missing]
    have added : Table.total (s.orders.insert id row) (share s userId asset) = _ := Table.total_insert_new missing _
    rw [nothing, add_zero] at added
    exact added.symm


end Exchange.Trading.LockAccounting
