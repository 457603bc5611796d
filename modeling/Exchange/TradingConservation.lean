import Exchange.LedgerHoldings
import Exchange.TradingTradeTerms

/-! Trading creates and destroys nothing: whatever is interleaved and whatever
fails, value moves between users and from users to the fees, and every other
account stays as it was. Every amount posted fits its columns, so no rounding
can add or lose a unit. -/
namespace Exchange.Trading.Conservation
open SignificantDigits Ledger Service Protocol

/-- The accounts of users in an asset. -/
def ofUsers (asset : String) (account : Account) : Bool :=
  isUserAccount account.kind && account.asset = asset

/-- The fee revenue in an asset. -/
def ofFees (asset : String) (account : Account) : Bool :=
  account.kind = .feeRevenue && account.asset = asset

/-- Value has moved among users and from them to the fees only. -/
structure Conserved (s s' : Ledger.Store Reference) : Prop where
  others : ∀ account, isUserAccount account.kind = false → account.kind ≠ .feeRevenue →
    projectionForAccount s' account = projectionForAccount s account
  total : ∀ asset, s'.held (ofUsers asset) + s'.held (ofFees asset) =
    s.held (ofUsers asset) + s.held (ofFees asset)
  fees : ∀ asset, s.held (ofFees asset) ≤ s'.held (ofFees asset)

/-- A line of trading: its amount fits the columns, and it is on a user's
account or credits the fees. -/
def Tradable (line : LedgerPostingLine) : Prop :=
  OnGrid Numeric.scale line.amount ∧
    (isUserAccount line.kind ∨ line.kind = .feeRevenue ∧ line.direction = .credit)

variable {ledger ledger' : Ledger.Store Reference} {lines : List LedgerPostingLine}

theorem Conserved.refl (ledger : Ledger.Store Reference) : Conserved ledger ledger :=
  ⟨fun _ _ _ => rfl, fun _ => rfl, fun _ => le_refl _⟩

theorem Conserved.trans (first : Conserved ledger ledger') (second : Conserved ledger' ledger'') :
    Conserved ledger ledger'' :=
  ⟨fun account user fee => (second.others account user fee).trans (first.others account user fee),
    fun asset => (second.total asset).trans (first.total asset),
    fun asset => (first.fees asset).trans (second.fees asset)⟩

/-- What the fees gain, the users together have paid. -/
theorem Conserved.users (conserved : Conserved ledger ledger') (asset : String) :
    ledger'.held (ofUsers asset) ≤ ledger.held (ofUsers asset) := by
  have total := conserved.total asset
  have fees := conserved.fees asset
  linarith

/-! ## One posting -/

theorem Tradable.kind_cases {line : LedgerPostingLine} (tradable : Tradable line) :
    isUserAccount line.kind ∧ line.kind ≠ .feeRevenue ∨
      isUserAccount line.kind = false ∧ line.kind = .feeRevenue ∧ line.direction = .credit := by
  rcases tradable.2 with user | ⟨fee, credit⟩
  · refine .inl ⟨user, fun fee => ?_⟩
    rw [fee] at user
    cases user
  · exact .inr ⟨by rw [fee]; rfl, fee, credit⟩

/-- Lines of trading record on users and fees what they record at all. -/
theorem groupChanges_add (tradable : ∀ line ∈ lines, Tradable line) (asset : String) :
    groupChanges lines (ofUsers asset) + groupChanges lines (ofFees asset) =
      assetChanges lines asset := by
  induction lines with
  | nil => simp [groupChanges, assetChanges]
  | cons line rest ih =>
    have tail := ih fun other member => tradable other (List.mem_cons_of_mem _ member)
    have head : (if ofUsers asset line.account then line.change else 0) +
        (if ofFees asset line.account then line.change else 0) =
        if citext line.asset = asset then line.change else 0 := by
      rcases (tradable line List.mem_cons_self).kind_cases with ⟨user, fee⟩ | ⟨user, fee, -⟩
      · by_cases here : citext line.asset = asset <;>
          simp [ofUsers, ofFees, LedgerPostingLine.account, user, fee, here]
      · have system : isUserAccount AccountKind.feeRevenue = false := rfl
        simp [ofUsers, ofFees, LedgerPostingLine.account, fee, system]
    simp only [groupChanges, assetChanges, List.map_cons, List.sum_cons] at tail ⊢
    linarith

theorem groupChanges_fees_nonneg (tradable : ∀ line ∈ lines, Tradable line)
    (positive : ∀ line ∈ lines, 0 < line.amount) (asset : String) :
    0 ≤ groupChanges lines (ofFees asset) := by
  apply List.sum_nonneg
  intro value member
  obtain ⟨line, isLine, rfl⟩ := List.mem_map.mp member
  rcases (tradable line isLine).kind_cases with ⟨-, fee⟩ | ⟨-, -, credit⟩
  · simp [ofFees, LedgerPostingLine.account, fee]
  · split
    · rw [LedgerPostingLine.change, credit]
      exact Numeric.rounded_nonneg (positive line isLine).le
    · exact le_refl _

theorem changes_eq_zero (tradable : ∀ line ∈ lines, Tradable line) {account : Account}
    (user : isUserAccount account.kind = false) (fee : account.kind ≠ .feeRevenue) :
    changes lines account = 0 := by
  refine List.sum_eq_zero fun value member => ?_
  obtain ⟨line, isLine, rfl⟩ := List.mem_map.mp member
  refine if_neg fun same => ?_
  have kind : line.kind = account.kind := by rw [← same]; rfl
  rcases (tradable line isLine).kind_cases with ⟨isUser, -⟩ | ⟨-, isFee, -⟩
  · rw [kind, user] at isUser
    cases isUser
  · exact fee (kind ▸ isFee)

theorem conserved_recorded {input : LedgerPostingInput Reference}
    {txn : LedgerTransaction Reference} (recorded : Recorded ledger input txn ledger')
    (solvent : Solvent ledger) (tradable : ∀ line ∈ input.lines, Tradable line) :
    Conserved ledger ledger' ∧ Solvent ledger' := by
  have moved := recorded.moved solvent fun line member => (tradable line member).1
  refine ⟨⟨fun account user fee => ?_, fun asset => ?_, fun asset => ?_⟩, moved.solvent⟩
  · rw [moved.balances, changes_eq_zero tradable user fee, add_zero]
  · have balanced := recorded.assetChanges_eq_zero asset
    rw [← groupChanges_add tradable] at balanced
    rw [moved.held, moved.held]
    linarith
  · rw [moved.held]
    have credited := groupChanges_fees_nonneg tradable recorded.positive asset
    linarith

/-! ## The calls -/

/-- The money columns of a row, where the loop keeps it current as well. -/
structure Storable (order : Order) : Prop where
  locked : ∀ amount ∈ order.lockedAmount, OnGrid Numeric.scale amount
  filled : OnGrid Numeric.scale order.filledQuantity
  spent : OnGrid Numeric.scale order.quoteSpent

/-- The assets have no more places than a money column. -/
def Fitting (assets : List (String × ℕ)) : Prop := ∀ asset ∈ assets, asset.2 ≤ 18

/-- What every call keeps, from the ledger at the start. -/
structure Invariant (start : Ledger.Store Reference) (s : Store) : Prop where
  solvent : Solvent s.ledger
  conserved : Conserved start s.ledger
  storable : ∀ id order, s.orders.lookup id = some order → Storable order
  fitting : Fitting s.assets

def protocol (start : Ledger.Store Reference) : TradingProtocol where
  step := Makes
  inv := Invariant start
  rely _ s s' := s'.markets = s.markets ∧ s'.assets = s.assets
  guarantee _ s s' := s'.markets = s.markets ∧ s'.assets = s.assets

variable {start : Ledger.Store Reference} {pid id : OrderId} {s s' : Store} {order : Order}
  {data : OrderPatch} {market : Market} {params : MarketParams} {A : Assertion}

theorem catalog_of_makes {call : TradingCall} {reply : Except Failure call.Reply}
    (made : Makes pid call s reply s') : s'.markets = s.markets ∧ s'.assets = s.assets :=
  (TradeTerms.kept_of_makes made).catalog

theorem serves : Serves (protocol start) pid where
  makes _ _ _ _ step := step
  idle _ _ := ⟨rfl, rfl⟩
  catalog _ _ rely := rely

theorem Storable.patched (storable : Storable order) : Storable (patched data order) := by
  refine ⟨storable.locked, ?_, ?_⟩
  · cases filled : data.filledQuantity with
    | none => simpa [Trading.patched, filled] using storable.filled
    | some value => simpa [Trading.patched, filled] using Numeric.rounded_onGrid value
  · cases quote : data.quoteSpent with
    | none => simpa [Trading.patched, quote] using storable.spent
    | some value => simpa [Trading.patched, quote] using Numeric.rounded_onGrid value

theorem storable_newRow (now : ℕ) (data : NewOrder) : Storable (newRow id now data) := by
  refine ⟨fun amount isLocked => ?_, onGrid_zero _, onGrid_zero _⟩
  cases isLocked
  exact Numeric.rounded_onGrid _

theorem Invariant.insert (inv : Invariant start s) (storable : Storable order) :
    Invariant start { s with orders := s.orders.insert id order } := by
  refine ⟨inv.solvent, inv.conserved, fun other row isRow => ?_, inv.fitting⟩
  by_cases same : other = id
  · subst same
    rw [AList.lookup_insert] at isRow
    cases isRow
    exact storable
  · rw [AList.lookup_insert_ne same] at isRow
    exact inv.storable other row isRow

theorem Invariant.makes {call : TradingCall} {reply : Except Failure call.Reply}
    (inv : Invariant start s) (made : Makes pid call s reply s')
    (tradable : ∀ input, call = .post input → ∀ line ∈ input.lines, Tradable line) :
    Invariant start s' := by
  cases call with
  | findUserKyc | findMarketBySymbol | assetDecimals | findOrderById | findOrderByClientId
  | loadRestingBook | findTradeByFillId =>
    rw [made.query rfl]
    exact inv
  | createOrder data =>
    rcases made.createOrder with ⟨now, -, -, -, rfl⟩ | ⟨-, rfl⟩
    · exact inv.insert (storable_newRow now data)
    · exact inv
  | updateOrder id data =>
    rcases made.updateOrder with ⟨row, found, -, -, rfl⟩ | ⟨-, rfl⟩
    · exact inv.insert (inv.storable id row found).patched
    · exact inv
  | createTrade data =>
    rcases made.createTrade with ⟨trade, -, rfl⟩ | ⟨-, rfl⟩
    · exact ⟨inv.solvent, inv.conserved, inv.storable, inv.fitting⟩
    · exact inv
  | post input =>
    rcases made.post with ⟨-, rfl⟩ | ⟨txn, -, rfl, -⟩ | ⟨txn, ledger, -, recorded, -, rfl⟩
    · exact inv
    · exact inv
    · obtain ⟨conserved, solvent⟩ := conserved_recorded recorded inv.solvent (tradable input rfl)
      exact ⟨solvent, inv.conserved.trans conserved, inv.storable, inv.fitting⟩
  | acquire marketId =>
    obtain ⟨-, -, rfl⟩ := made.acquire
    exact ⟨inv.solvent, inv.conserved, inv.storable, inv.fitting⟩
  | release marketId =>
    obtain ⟨-, rfl⟩ := made.release
    exact ⟨inv.solvent, inv.conserved, inv.storable, inv.fitting⟩

/-- A call from what is known without the tables. What it posts is of trading. -/
theorem call_triple {fact : Prop} {call : TradingCall} {post : Except Failure call.Reply → Assertion}
    (tradable : ∀ input, call = .post input → fact → ∀ line ∈ input.lines, Tradable line)
    (after : ∀ s reply s', Invariant start s → Makes pid call s reply s' → fact → post reply s') :
    (protocol start).Triple pid (fun _ => fact) (ask call) post := by
  apply Triple.call fun _ _ _ known _ _ => known
  intro s reply s' inv known made
  exact ⟨inv.makes made fun input isPost => tradable input isPost known, catalog_of_makes made,
    after s reply s' inv made known⟩

theorem call_keeps {fact : Prop} {call : TradingCall}
    (tradable : ∀ input, call = .post input → fact → ∀ line ∈ input.lines, Tradable line) :
    (protocol start).Triple pid (fun _ => fact) (ask call)
      (ends (fun _ _ => fact) fun _ _ => True) := by
  refine call_triple tradable fun _ reply _ _ _ known => ?_
  cases reply with
  | error => trivial
  | ok => exact known

theorem tradable_transfer {userId : UserId} {asset : String} {amount : Decimal}
    (grid : OnGrid Numeric.scale amount) (source target : AccountKind)
    (users : isUserAccount source ∧ isUserAccount target) :
    ∀ line ∈ transferLines userId source target asset amount, Tradable line := by
  intro line member
  simp only [transferLines, List.mem_cons, List.not_mem_nil, or_false] at member
  rcases member with rfl | rfl
  · exact ⟨grid, .inl users.1⟩
  · exact ⟨grid, .inl users.2⟩

/-- What is left of a lock fits the columns, since the lock and what was spent
of it do. -/
theorem surplus_onGrid {amount : Decimal} (storable : Storable order)
    (isLocked : order.lockedAmount = some amount) :
    OnGrid Numeric.scale (amount.sub (spent order)) := by
  refine significant_onGrid ((storable.locked amount isLocked).sub ?_)
  unfold spent
  split
  · exact storable.spent
  · exact storable.filled

theorem releaseSurplus_fits (order : Order) :
    (protocol start).Triple pid (fun _ => Storable order) (releaseSurplus order)
      (ends (fun _ _ => True) fun _ _ => True) := by
  apply releaseSurplus_triple
  · exact fun _ _ _ _ => trivial
  · intro asset amount _ isLocked _
    refine (call_keeps fun input isPost storable => ?_).imp (fun _ _ known => known) ?_
    · cases isPost
      exact tradable_transfer (surplus_onGrid storable isLocked) _ _ ⟨rfl, rfl⟩
    · rintro (failure | txn) s _ _ <;> trivial

/-! ## A matching pass -/

/-- The market's amounts fit the columns. -/
def Precise (params : MarketParams) : Prop := params.baseScale ≤ 18 ∧ params.quoteScale ≤ 18

theorem toFixed_fits {places : ℕ} (le : places ≤ 18) (amount : Decimal) :
    OnGrid Numeric.scale (amount.toFixed places) := by
  apply (atPlaces_onGrid halfUp places amount).mono
  simp only [Numeric.scale]
  exact_mod_cast le

theorem tradable_fee {condition : Prop} [Decidable condition] {asset : String} {amount : Decimal}
    (fits : OnGrid Numeric.scale amount) :
    ∀ line ∈ (if condition then [(⟨none, .feeRevenue, asset, .credit, amount⟩ : LedgerPostingLine)]
      else []), Tradable line := by
  intro line member
  split at member
  · rw [List.mem_singleton] at member
    subst member
    exact ⟨fits, .inr ⟨rfl, rfl⟩⟩
  · simp at member

theorem tradable_settlement {taker maker : Order} {fill : EngineFill} (precise : Precise params) :
    ∀ line ∈ (settlement taker maker fill market params).input.lines, Tradable line := by
  intro line member
  simp only [settlement, List.mem_append, or_assoc] at member
  rcases member with four | sellerFee | buyerFee
  · simp only [List.mem_cons, List.not_mem_nil, or_false] at four
    rcases four with rfl | rfl | rfl | rfl
    · exact ⟨toFixed_fits precise.2 _, .inl rfl⟩
    · exact ⟨toFixed_fits precise.2 _, .inl rfl⟩
    · exact ⟨toFixed_fits precise.1 _, .inl rfl⟩
    · exact ⟨toFixed_fits precise.1 _, .inl rfl⟩
  · exact tradable_fee (toFixed_fits precise.2 _) line sellerFee
  · exact tradable_fee (toFixed_fits precise.1 _) line buyerFee

/-- The amounts of a fill fit the columns. -/
def FillFits (fill : EngineFill) : Prop :=
  OnGrid Numeric.scale fill.quantity ∧ OnGrid Numeric.scale fill.quoteAmount

theorem Storable.advanced {maker : Order} {fill : EngineFill} (storable : Storable maker)
    (fits : FillFits fill) : Storable (advanced maker fill) :=
  ⟨storable.locked, significant_onGrid (storable.filled.add fits.1),
    significant_onGrid (storable.spent.add fits.2)⟩

/-- What a pass knows: the precision, its rows and its fills. -/
structure Working (params : MarketParams) (rows : List Order) (todo : List EngineFill) : Prop where
  precise : Precise params
  rows : ∀ row ∈ rows, Storable row
  fills : ∀ fill ∈ todo, FillFits fill

/-- The fill in hand and its maker. -/
structure Advancing (params : MarketParams) (rows : List Order) (maker : Order) (fill : EngineFill)
    (todo : List EngineFill) : Prop where
  working : Working params rows (fill :: todo)
  maker : Storable maker

theorem Advancing.next {maker : Order} {fill : EngineFill} {rows : List Order}
    {todo : List EngineFill} (advancing : Advancing params rows maker fill todo) :
    Working params (refreshed maker fill rows) todo := by
  have fits := advancing.working.fills fill List.mem_cons_self
  refine ⟨advancing.working.precise, fun row member => ?_, fun later member =>
    advancing.working.fills later (List.mem_cons_of_mem _ member)⟩
  obtain ⟨before, isRow, rfl⟩ := List.mem_map.mp member
  split
  · exact advancing.maker.advanced fits
  · exact advancing.working.rows before isRow

theorem working_matched {taker : Order} {loaded : List Order} (precise : Precise params)
    (rows : ∀ row ∈ loaded, Storable row) :
    Working params loaded (matched taker params loaded).fills := by
  refine ⟨precise, rows, fun fill member => ?_⟩
  simp only [matchOrder, matchBook_fills, List.nil_append, List.mem_map] at member
  obtain ⟨trade, -, rfl⟩ := member
  exact ⟨toFixed_fits precise.1 _, toFixed_fits precise.2 _⟩

def pass (pid : OrderId) (market : Market) (params : MarketParams) (taker : Order) :
    Pass (protocol start) pid taker market params where
  start _ := Precise params
  next _ rows todo _ := Working params rows todo
  settled _ rows maker fill todo _ := Advancing params rows maker fill todo
  traded _ rows maker fill todo _ := Advancing params rows maker fill todo
  advanced _ rows maker fill todo _ := Advancing params rows maker fill todo
  finalized _ updated _ := Storable updated
  done _ := True
  aborted _ := True
  load := by
    refine call_triple (fun _ isPost => by cases isPost) fun s reply s' inv made precise => ?_
    obtain ⟨rfl, answer⟩ := made.loadRestingBook
    cases reply with
    | error => trivial
    | ok loaded =>
      obtain rfl := answer loaded rfl
      refine working_matched precise fun row onBook => ?_
      obtain ⟨⟨key, found⟩, -⟩ := mem_loadRestingBook onBook
      exact inv.storable key row found
  skip _ _ _ _ _ _ working _ := ⟨working.precise, working.rows, fun later member =>
    working.fills later (List.mem_cons_of_mem _ member)⟩
  settle _ rows maker fill todo found := by
    refine (call_keeps fun input isPost working => ?_).imp (fun _ _ working => working) ?_
    · cases isPost
      exact tradable_settlement working.precise
    · rintro (failure | txn) s _ working
      · trivial
      · exact ⟨working, working.rows maker (List.mem_of_find?_eq_some found)⟩
  record _ rows maker fill todo _ := by
    apply recordTrade_triple (C := fun _ => Advancing params rows maker fill todo)
    · refine call_triple (fun _ isPost => by cases isPost) fun _ reply _ _ _ advancing => ?_
      cases reply with
      | error => exact advancing
      | ok => exact advancing
    · exact fun _ _ _ => trivial
    · refine call_triple (fun _ isPost => by cases isPost) fun _ reply _ _ _ advancing => ?_
      cases reply with
      | error => trivial
      | ok existing =>
        cases existing with
        | none => trivial
        | some existing => exact advancing
  advance _ _ _ _ _ := call_keeps fun _ isPost => by cases isPost
  release _ rows maker fill todo _ := by
    apply Triple.fact
    intro advancing
    apply (releaseSurplus_fits _).imp
    · exact fun _ _ _ => advancing.maker.advanced (advancing.working.fills fill List.mem_cons_self)
    · rintro (failure | _) s _ _
      · trivial
      · exact advancing.next
  keep _ _ _ _ _ _ _ _ advancing := advancing.next
  finalize _ _ := by
    refine call_triple (fun _ isPost => by cases isPost) fun s reply s' inv made _ => ?_
    rcases made.updateOrder with ⟨row, found, rfl, -, -⟩ | ⟨⟨failure, rfl⟩, -⟩
    · exact (inv.storable _ row found).patched
    · trivial
  close _ updated _ := releaseSurplus_fits updated
  rest _ _ _ _ _ _ := trivial

/-! ## Requests -/

theorem decimals_le {assets : List (String × ℕ)} (fitting : Fitting assets)
    (symbol : String) (fallback : ℕ) (le : fallback ≤ 18) :
    (assets.lookup symbol).getD fallback ≤ 18 := by
  cases found : assets.lookup symbol with
  | none => exact le
  | some decimals =>
    obtain ⟨before, after, rfl, -⟩ := List.lookup_eq_some_iff.mp found
    exact fitting (symbol, decimals) (by simp)

theorem Listed.precise (listed : Listed s market params) (fitting : Fitting s.assets) :
    Precise params := by
  have answered : Fitting (assetDecimals s [market.baseAsset, market.quoteAsset]) := by
    intro asset member
    obtain ⟨row, isRow, rfl⟩ := List.mem_map.mp member
    exact fitting row (List.mem_filter.mp isRow).1
  rw [listed.precision]
  exact ⟨decimals_le answered _ 6 (by decide), decimals_le answered _ 2 (by decide)⟩

theorem lock_fits {input : OrderBody} (precise : Precise params) :
    OnGrid Numeric.scale (computeLockRequirement input params).amount := by
  unfold computeLockRequirement
  split
  · exact toFixed_fits precise.1 _
  · exact toFixed_fits precise.2 _
  · exact toFixed_fits precise.2 _

def placement (pid : OrderId) (userId : UserId) (input : CreateOrderDto) :
    Placement (protocol start) pid userId input where
  unused _ := True
  placed _ params _ _ := Precise params
  locked _ params _ _ _ := Precise params
  opened _ params _ _ := Precise params
  closed _ _ := True
  ended _ := True
  unused_stable := stable_true
  ended_stable := stable_true
  unused_ended _ _ _ := trivial
  placed_ended _ _ _ _ _ _ := trivial
  create market params _ _ := by
    apply Triple.call (stable_true.and (Listed.stable serves))
    rintro s reply s' inv ⟨-, listed⟩ made
    refine ⟨inv.makes made (fun _ isPost => by cases isPost), catalog_of_makes made, ?_⟩
    cases reply with
    | error => trivial
    | ok => exact Listed.precise listed inv.fitting
  lock _ params order := by
    refine call_triple (fun input' isPost precise => ?_) fun _ reply _ _ _ precise => ?_
    · cases isPost
      exact tradable_transfer (lock_fits precise) _ _ ⟨rfl, rfl⟩
    · cases reply with
      | error => exact precise
      | ok => exact precise
  «open» _ _ _ _ := call_keeps fun _ isPost => by cases isPost
  reject _ _ _ := call_triple (fun _ isPost => by cases isPost) fun _ _ _ _ _ _ => trivial
  pass market params taker := pass pid market params taker
  acquire _ _ _ := call_keeps fun _ isPost => by cases isPost
  done_closed _ _ _ _ _ _ := trivial
  aborted_closed _ _ _ _ _ _ := trivial
  release _ := call_triple (fun _ isPost => by cases isPost) fun _ _ _ _ _ _ => trivial

def cancellation (pid orderId : OrderId) : Cancellation (protocol start) pid orderId where
  unused _ := True
  targeted _ _ := True
  entered _ _ := True
  seen _ _ _ := True
  cancelled _ updated _ := Storable updated
  closed _ _ := True
  ended _ := True
  unused_ended _ _ _ := trivial
  targeted_ended _ _ _ _ := trivial
  seen_closed _ _ _ _ _ := trivial
  find := by
    refine call_triple (fun _ isPost => by cases isPost) fun _ reply _ _ _ _ => ?_
    cases reply with
    | error => trivial
    | ok found => cases found <;> trivial
  acquire _ := call_keeps fun _ isPost => by cases isPost
  read _ := by
    refine call_triple (fun _ isPost => by cases isPost) fun _ reply _ _ _ _ => ?_
    cases reply with
    | error => trivial
    | ok found => cases found <;> trivial
  cancel _ _ _ := by
    refine call_triple (fun _ isPost => by cases isPost) fun s reply s' inv made _ => ?_
    rcases made.updateOrder with ⟨row, found, rfl, -, -⟩ | ⟨⟨failure, rfl⟩, -⟩
    · exact (inv.storable _ row found).patched
    · trivial
  surplus _ updated := releaseSurplus_fits updated
  release _ := call_triple (fun _ isPost => by cases isPost) fun _ _ _ _ _ _ => trivial

/-- An exchange that opens for trading with this ledger: its balances are
storable, users owe nothing, and its assets fit the money columns. -/
structure Opening (start : Ledger.Store Reference) (s : Store) : Prop where
  untraded : Untraded s
  ledger : s.ledger = start
  solvent : Solvent s.ledger
  fitting : Fitting s.assets

theorem proved : Pool.Proved (protocol start) IsRequest (Opening start) (fun _ _ => True)
    fun _ _ _ => True where
  initial s opening := by
    refine ⟨⟨opening.solvent, opening.ledger ▸ Conserved.refl _, fun id order found => ?_,
      opening.fitting⟩, fun _ => trivial⟩
    rw [opening.untraded.orders, AList.lookup_empty] at found
    cases found
  noninterference _ _ _ _ _ _ _ kept := kept
  unused_stable _ := stable_true
  ended_stable _ _ := stable_true
  triple pid := isRequest_triple serves (fun userId input => ⟨placement pid userId input, rfl, rfl⟩)
    fun orderId => ⟨cancellation pid orderId, rfl, rfl⟩

/-- However requests are interleaved and whatever fails, in every asset what
users hold and what the fees have earned add up to what they were when trading
opened; the fees only grow, every other account is untouched, and no user's
balance is negative. -/
theorem trading_conserves {pool : TradingPool}
    (run : Pool.Run interleaved IsRequest (Opening start) pool) :
    Conserved start pool.store.ledger ∧ ∀ account, isUserAccount account.kind →
      0 ≤ projectionForAccount pool.store.ledger account := by
  have inv := (TradeTerms.run_interleaved (P := protocol start) (fun _ _ _ _ _ made => made)
    run).inv proved
  exact ⟨inv.conserved, inv.solvent.userNonneg⟩

theorem smallExchange_opening : Opening smallExchange.ledger smallExchange := by
  have ten : OnGrid Numeric.scale 10 := ⟨10 * 10 ^ 18, by norm_num [Numeric.scale]⟩
  have thousand : OnGrid Numeric.scale 1000 := ⟨1000 * 10 ^ 18, by norm_num [Numeric.scale]⟩
  refine ⟨smallExchange_untraded, rfl, ?_, by simp [Fitting, smallExchange]⟩
  refine post_solvent rfl (post_solvent rfl solvent_empty ?_) ?_
  · intro line member
    simp only [deposit, List.mem_cons, List.not_mem_nil, or_false] at member
    rcases member with rfl | rfl <;> exact ten
  · intro line member
    simp only [deposit, List.mem_cons, List.not_mem_nil, or_false] at member
    rcases member with rfl | rfl <;> exact thousand

/-- User 2 buys one USDT from user 1 while user 1's cancellation waits, and both
pay their fees. -/
theorem trading_conserves_sold : ∃ ledger, Conserved smallExchange.ledger ledger ∧
    0 < ledger.held (ofFees "usdt") := by
  have played : (schedule (fun _ _ _ _ => true) [.arrive 1 (.placeOrder 1 sellOne), .calls 1 100,
      .arrive 2 (.placeOrder 2 buyOne), .calls 2 9, .arrive 3 (.cancelOrder 1 1), .calls 3 1,
      .calls 2 100, .calls 3 100] ⟨smallExchange, ∅⟩).map (fun pool =>
        pool.store.ledger.held (ofFees "usdt")) = some (1 / 500) := by
    decide +kernel
  obtain ⟨pool, scheduled, earned⟩ := Option.map_eq_some_iff.mp played
  have sound : ∀ pid call s reply s', true → Makes pid call s reply s' →
      interleaved.step pid call s reply s' := fun _ _ _ _ _ _ made => made
  exact ⟨pool.store.ledger, (trading_conserves
    ((Pool.Run.start smallExchange_opening).steps (schedule_steps sound scheduled))).1,
    by rw [earned]; norm_num⟩

end Exchange.Trading.Conservation
