import Exchange.ConversionEffects

/-! What quotes, snapshots, postings and conversions have to do with each other,
in every run. -/
namespace Exchange.Conversions
open Ledger Service

/-- The snapshot of a quote, as Redis holds it or a request has read it. -/
inductive Shown (x : History) (quoteId : QuoteId) (snapshot : QuoteSnapshot) : Prop
  | stored {expiry : Time} (found : x.store.snapshots.lookup quoteId = some (snapshot, expiry))
  | read {pid : ℕ} (member : ⟨.getSnapshot quoteId, .ok (some snapshot)⟩ ∈ x.past pid)

/-- The row records the posting of its quote, with the economics of its snapshot. -/
structure Records (x : History) (row : Conversion) : Prop where
  economics : ∃ pid snapshot, ⟨.getSnapshot row.quoteId, .ok (some snapshot)⟩ ∈ x.past pid ∧
    storeEconomics (economicsOf snapshot.plan) = .ok row.economics
  posting : ∃ txn ∈ x.store.ledger.postings REFERENCE_TYPE row.quoteId, row.ledgerTxnId = txn.id

structure Consistent (x : History) : Prop where
  created : ∀ pid data id quote, ⟨.createQuote data, .ok (id, quote)⟩ ∈ x.past pid →
    id = pid ∧ x.store.quotes.lookup pid = some quote ∧ quote.userId = data.userId
  quote : ∀ pid id quote, ⟨.findQuoteById id, .ok (some quote)⟩ ∈ x.past pid →
    x.store.quotes.lookup id = some quote
  owned : ∀ quoteId snapshot, Shown x quoteId snapshot → snapshot.plan.Sound ∧
    ∃ quote, x.store.quotes.lookup quoteId = some quote ∧ quote.userId = snapshot.userId
  one : ∀ quoteId snapshot other, Shown x quoteId snapshot → Shown x quoteId other → snapshot = other
  unset : ∀ pid data reply past, x.past pid = ⟨.createQuote data, .ok reply⟩ :: past →
    ∀ snapshot, ¬Shown x pid snapshot
  settled : ∀ pid input txn quoteId, ⟨.post input, .ok txn⟩ ∈ x.past pid →
    input.referenceType = some REFERENCE_TYPE → input.referenceId = some quoteId →
    txn ∈ x.store.ledger.postings REFERENCE_TYPE quoteId
  once : ∀ quoteId, (x.store.ledger.postings REFERENCE_TYPE quoteId).length ≤ 1
  rows : ∀ id row, x.store.conversions.lookup id = some row → Records x row
  recorded : ∀ pid quoteId row, Recorded quoteId row (x.past pid) →
    (∃ id, x.store.conversions.lookup id = some row) ∧ row.quoteId = quoteId

/-- The tables before the first quote. -/
structure Opening (s : Store) : Prop where
  quotes : s.quotes = ∅
  snapshots : s.snapshots = ∅
  conversions : s.conversions = ∅
  unposted : ∀ quoteId, s.ledger.postings REFERENCE_TYPE quoteId = []

variable {x : History} {pid id : ℕ} {call : ConversionCall} {reply : Except Failure call.Reply} {s s' : Store}
  {quoteId : QuoteId} {snapshot : QuoteSnapshot} {row : Conversion} {past : Past}
  {made : Answered ConversionCall ConversionCall.Reply Failure}

/-! ## Rules -/

/-- A snapshot is kept right after its quote was created. -/
theorem May.keeps {ttlMs : ℕ} (call' : May past (.setSnapshot snapshot ttlMs)) :
    ∃ data quote before, past = ⟨.createQuote data, .ok (snapshot.quoteId, quote)⟩ :: before ∧
      snapshot.userId = data.userId ∧ snapshot.plan.Sound := by
  cases call' with
  | neutral neutral => cases neutral
  | setSnapshot sound => exact ⟨_, _, _, rfl, rfl, sound⟩

/-- A conversion is recorded right after its posting. -/
theorem May.records {data : Conversion} (call' : May past (.createConversion data)) :
    ∃ userId plan txn before, past = ⟨.post (settlement userId data.quoteId plan), .ok txn⟩ :: before ∧
      data = ⟨userId, data.quoteId, economicsOf plan, txn.id⟩ ∧ Quoted userId data.quoteId plan before := by
  cases call' with
  | neutral neutral => cases neutral
  | createConversion quoted => exact ⟨_, _, _, _, rfl, rfl, quoted⟩

theorem recorded_cons (recorded : Recorded quoteId row (made :: past)) :
    made = ⟨.findConversionByQuoteId quoteId, .ok (some row)⟩ ∨
      (∃ data, data.quoteId = quoteId ∧ made = ⟨.createConversion data, .ok row⟩) ∨
      Recorded quoteId row past := by
  cases recorded with
  | found member =>
    rcases List.mem_cons.mp member with same | before
    · exact .inl same.symm
    · exact .inr (.inr (.found before))
  | created isQuote member =>
    rcases List.mem_cons.mp member with same | before
    · exact .inr (.inl ⟨_, isQuote, same.symm⟩)
    · exact .inr (.inr (.created isQuote before))

/-! ## One call -/

/-- A snapshot shown after a call was shown before, or the call has kept it. -/
theorem shown_step (makes : Makes pid call x.store reply s')
    (shown : Shown ⟨s', (pid, ⟨call, reply⟩) :: x.history⟩ quoteId snapshot) :
    Shown x quoteId snapshot ∨ ∃ ttlMs, (⟨call, reply⟩ : Answered _ _ _) = ⟨.setSnapshot snapshot ttlMs, .ok ()⟩ ∧
      snapshot.quoteId = quoteId := by
  cases shown with
  | stored found =>
    rcases makes.effect.snapshot_origin found with before | kept
    · exact .inl (.stored before)
    · exact .inr kept
  | read member =>
    rcases Logged.mem_past_cons.mp member with ⟨same, -⟩ | before
    · obtain ⟨expiry, found⟩ := makes.read.2.1 quoteId snapshot same.symm
      exact .inl (.stored found)
    · exact .inl (.read before)

/-- The snapshot a call keeps is that of the quote the request has created. -/
theorem Consistent.kept (consistent : Consistent x) (call' : May (x.past pid) call) {ttlMs : ℕ}
    (isKept : (⟨call, reply⟩ : Answered ConversionCall _ Failure) = ⟨.setSnapshot snapshot ttlMs, .ok ()⟩) :
    snapshot.quoteId = pid ∧ (∀ other, ¬Shown x pid other) ∧ snapshot.plan.Sound ∧
      ∃ quote, x.store.quotes.lookup pid = some quote ∧ quote.userId = snapshot.userId := by
  cases isKept
  obtain ⟨data, quote, before, isPast, isUser, sound⟩ := May.keeps call'
  have member : ⟨.createQuote data, .ok (snapshot.quoteId, quote)⟩ ∈ x.past pid := by
    rw [isPast]
    exact List.mem_cons_self
  obtain ⟨isId, found, sameUser⟩ := consistent.created pid data _ quote member
  exact ⟨isId, consistent.unset pid data _ before isPast, sound, quote, found, sameUser.trans isUser.symm⟩

theorem Records.stays (records : Records x row) (effect : Effect pid x.store made s') :
    Records ⟨s', (pid, made) :: x.history⟩ row := by
  obtain ⟨⟨reader, snapshot, member, isStored⟩, txn, isPosted, isTxn⟩ := records
  exact ⟨⟨reader, snapshot, Logged.mem_past_cons.mpr (.inr member), isStored⟩, txn,
    effect.postings_mono isPosted, isTxn⟩

/-- A new row records the posting before it. -/
theorem Consistent.records (consistent : Consistent x) {data : Conversion} {economics : Economics}
    (call' : May (x.past pid) (.createConversion data))
    (isStored : storeEconomics data.economics = .ok economics) : Records x { data with economics } := by
  obtain ⟨userId, plan, txn, before, isPast, isData, quoted⟩ := May.records call'
  obtain ⟨-, snapshot, read, -, isPlan⟩ := quoted
  have member : ⟨.getSnapshot data.quoteId, .ok (some snapshot)⟩ ∈ x.past pid := by
    rw [isPast]
    exact List.mem_cons_of_mem _ read
  have posted : ⟨.post (settlement userId data.quoteId plan), .ok txn⟩ ∈ x.past pid := by
    rw [isPast]
    exact List.mem_cons_self
  refine ⟨⟨pid, snapshot, member, ?_⟩, txn, consistent.settled pid _ txn data.quoteId posted rfl rfl, ?_⟩
  · rw [isData] at isStored
    rwa [isPlan]
  · rw [isData]

theorem consistent_initial (opening : Opening s) : Consistent ⟨s, []⟩ where
  created _ _ _ _ member := by cases member
  quote _ _ _ member := by cases member
  owned quoteId snapshot shown := by
    cases shown with
    | stored found =>
      rw [opening.snapshots] at found
      cases found
    | read member => cases member
  one quoteId snapshot other shown := by
    cases shown with
    | stored found =>
      rw [opening.snapshots] at found
      cases found
    | read member => cases member
  unset _ _ _ _ past := by cases past
  settled _ _ _ _ member := by cases member
  once quoteId := by simp [opening.unposted]
  rows id row found := by
    rw [opening.conversions] at found
    cases found
  recorded _ _ _ recorded := by
    cases recorded with
    | found member => cases member
    | created _ member => cases member

/-- Every call keeps the records consistent. -/
theorem consistent_step (consistent : Consistent x) (call' : May (x.past pid) call)
    (makes : Makes pid call x.store reply s') :
    Consistent ⟨s', (pid, ⟨call, reply⟩) :: x.history⟩ where
  created other data id quote member := by
    rcases Logged.mem_past_cons.mp member with ⟨same, rfl⟩ | before
    · have effect := makes.effect
      rw [← same] at effect
      cases effect with
      | quoted fresh => exact ⟨rfl, AList.lookup_insert _, rfl⟩
      | neutral neutral => cases neutral
    · obtain ⟨isId, found, isUser⟩ := consistent.created other data id quote before
      exact ⟨isId, makes.effect.quote_stays found, isUser⟩
  quote other id quote member := by
    refine makes.effect.quote_stays ?_
    rcases Logged.mem_past_cons.mp member with ⟨same, rfl⟩ | before
    · exact makes.read.1 id quote same.symm
    · exact consistent.quote other id quote before
  owned quoteId snapshot shown := by
    rcases shown_step makes shown with before | ⟨ttlMs, isKept, rfl⟩
    · obtain ⟨sound, quote, found, owner⟩ := consistent.owned quoteId snapshot before
      exact ⟨sound, quote, makes.effect.quote_stays found, owner⟩
    · obtain ⟨isId, -, sound, quote, found, owner⟩ := consistent.kept call' isKept
      rw [isId]
      exact ⟨sound, quote, makes.effect.quote_stays found, owner⟩
  one quoteId snapshot other shown shown' := by
    rcases shown_step makes shown with before | ⟨ttlMs, isKept, isQuote⟩
    · rcases shown_step makes shown' with before' | ⟨ttlMs', isKept', isQuote'⟩
      · exact consistent.one quoteId snapshot other before before'
      · obtain ⟨isId, unset, -⟩ := consistent.kept call' isKept'
        rw [← isQuote', isId] at before
        exact (unset snapshot before).elim
    · rcases shown_step makes shown' with before' | ⟨ttlMs', isKept', isQuote'⟩
      · obtain ⟨isId, unset, -⟩ := consistent.kept call' isKept
        rw [← isQuote, isId] at before'
        exact (unset other before').elim
      · cases isKept.symm.trans isKept'
        rfl
  unset other data reply' past isPast snapshot shown := by
    by_cases own : other = pid
    · subst own
      rw [Logged.past_self] at isPast
      obtain ⟨same, -⟩ := List.cons.inj isPast
      rcases shown_step makes shown with before | ⟨ttlMs, isKept, -⟩
      · obtain ⟨-, quote, found, -⟩ := consistent.owned other snapshot before
        have effect := makes.effect
        rw [same] at effect
        cases effect with
        | quoted fresh => cases fresh.symm.trans found
        | neutral neutral => cases neutral
      · cases same.symm.trans isKept
    · rw [Logged.past_ne _ own] at isPast
      rcases shown_step makes shown with before | ⟨ttlMs, isKept, isQuote⟩
      · exact consistent.unset other data reply' past isPast snapshot before
      · exact own (isQuote.symm.trans (consistent.kept call' isKept).1)
  settled other input txn quoteId member isType isTarget := by
    rcases Logged.mem_past_cons.mp member with ⟨same, -⟩ | before
    · rcases makes.effect.ledger with ⟨input', reply', isPost, ran⟩ | ⟨-, unposted⟩
      · cases same.trans isPost
        exact mem_postings_of_ok ran isType isTarget
      · exact (unposted input txn same.symm).elim
    · exact makes.effect.postings_mono (consistent.settled other input txn quoteId before isType isTarget)
  once quoteId := makes.effect.postings_once (consistent.once quoteId)
  rows id row found := by
    rcases makes.effect.conversion_origin found with before | ⟨-, data, economics, isCreate, isStored, rfl⟩
    · exact (consistent.rows id row before).stays makes.effect
    · refine Records.stays ?_ makes.effect
      have isCall : call = .createConversion data := congrArg Answered.call isCreate
      exact consistent.records (isCall ▸ call') isStored
  recorded other quoteId row recorded := by
    by_cases own : other = pid
    · subst own
      rw [Logged.past_self] at recorded
      rcases recorded_cons recorded with same | ⟨data, rfl, same⟩ | before
      · obtain ⟨⟨id, found⟩, isQuote⟩ := makes.read.2.2 quoteId row same
        exact ⟨⟨id, makes.effect.conversion_stays found⟩, isQuote⟩
      · have effect := makes.effect
        rw [same] at effect
        cases effect with
        | converted isStored fresh => exact ⟨⟨other, AList.lookup_insert _⟩, rfl⟩
        | neutral neutral => cases neutral
      · obtain ⟨⟨id, found⟩, isQuote⟩ := consistent.recorded other quoteId row before
        exact ⟨⟨id, makes.effect.conversion_stays found⟩, isQuote⟩
    · rw [Logged.past_ne _ own] at recorded
      obtain ⟨⟨id, found⟩, isQuote⟩ := consistent.recorded other quoteId row recorded
      exact ⟨⟨id, makes.effect.conversion_stays found⟩, isQuote⟩

/-- Rows of one quote have the same economics. -/
theorem Consistent.same_economics (consistent : Consistent x) {other : ℕ} {row' : Conversion}
    (found : x.store.conversions.lookup id = some row) (found' : x.store.conversions.lookup other = some row')
    (same : row.quoteId = row'.quoteId) : row.economics = row'.economics := by
  obtain ⟨pid, snapshot, read, isStored⟩ := (consistent.rows id row found).economics
  obtain ⟨pid', snapshot', read', isStored'⟩ := (consistent.rows other row' found').economics
  rw [← same] at read'
  have isOne := consistent.one row.quoteId snapshot snapshot' (.read read) (.read read')
  rw [← isOne, isStored] at isStored'
  exact Except.ok.inj isStored'

/-! ## One treasury -/

/-- 90 INR for a USDT, a spread of 50 basis points, a fee of 20 and TDS of 100. -/
def smallConfig : Config where
  mockUsdtInr := 90
  spreadBps := 50
  feeBps := 20
  tdsBps := 100
  quoteTtlMs := 30000

/-- A transfer from the clearing account. -/
private def funding (account : Account) (asset : String) (amount : Decimal) : LedgerPostingInput QuoteId where
  kind := "FUNDING"
  lines := [⟨none, .gatewayClearing, asset, .debit, amount⟩, ⟨account.userId, account.kind, asset, .credit, amount⟩]

/-- Users may convert; 7 and 8 hold INR, the treasury holds some USDT. -/
def openTreasury (held : Decimal) : Store where
  users _ := some ⟨.active, .approved, 1⟩
  quotes := ∅
  snapshots := ∅
  conversions := ∅
  ledger := (Ledger.post (funding ⟨some 7, "inr", .userAvailable⟩ INR 1000)
    (Ledger.post (funding ⟨some 8, "inr", .userAvailable⟩ INR 1000)
      (Ledger.post (funding (treasury USDT) USDT held) ∅).2).2).2

/-- A posting without a reference is not of a conversion. -/
private theorem funding_postings (account : Account) (asset : String) (amount : Decimal)
    (ledger : Ledger.Store QuoteId) (quoteId : QuoteId) :
    (Ledger.post (funding account asset amount) ledger).2.postings REFERENCE_TYPE quoteId =
      ledger.postings REFERENCE_TYPE quoteId := by
  cases posted : Ledger.post (funding account asset amount) ledger with
  | mk outcome ledger' =>
    rcases post_cases posted with ⟨failure, -, rfl⟩ | ⟨txn, -, rfl, -⟩ | ⟨txn, -, recorded, -⟩
    · rfl
    · rfl
    · rw [Store.postings, recorded.transactions, List.filter_append]
      simp [Store.postings, recorded.reference.1, funding]

theorem openTreasury_opening (held : Decimal) : Opening (openTreasury held) where
  quotes := rfl
  snapshots := rfl
  conversions := rfl
  unposted quoteId := by
    rw [openTreasury, funding_postings, funding_postings, funding_postings]
    rfl

end Exchange.Conversions
