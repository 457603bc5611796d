import Exchange.LedgerPostings
import Exchange.ConversionRules

/-! What the calls of conversions do to the tables. Quotes and conversions are
written once; snapshots come and go. -/
namespace Exchange.Conversions
open Ledger Service

variable {pid id : ℕ} {quoteId : QuoteId} {s s' : Store} {call : ConversionCall}
  {reply : Except Failure call.Reply} {made : Answered ConversionCall ConversionCall.Reply Failure}
  {row : Conversion} {quote : PriceQuote} {snapshot : QuoteSnapshot}

/-- What a call did, by its answer. -/
inductive Effect (pid : ℕ) (s : Store) :
    Answered ConversionCall ConversionCall.Reply Failure → Store → Prop
  | quoted {data : PriceQuote} {rate : Decimal} (fresh : s.quotes.lookup pid = none) :
      Effect pid s ⟨.createQuote data, .ok (pid, { data with rate })⟩
        { s with quotes := s.quotes.insert pid { data with rate } }
  | kept {snapshot : QuoteSnapshot} {ttlMs : ℕ} {expiry : Time} :
      Effect pid s ⟨.setSnapshot snapshot ttlMs, .ok ()⟩
        { s with snapshots := s.snapshots.insert snapshot.quoteId (snapshot, expiry) }
  | consumed {quoteId : QuoteId} {found : Option QuoteSnapshot} :
      Effect pid s ⟨.getDelSnapshot quoteId, .ok found⟩ { s with snapshots := s.snapshots.erase quoteId }
  | converted {data : Conversion} {economics : Economics} (isStored : storeEconomics data.economics = .ok economics)
      (fresh : s.conversions.lookup pid = none) :
      Effect pid s ⟨.createConversion data, .ok { data with economics }⟩
        { s with conversions := s.conversions.insert pid { data with economics } }
  | posted {input : LedgerPostingInput QuoteId} {reply : Except Failure (LedgerTransaction QuoteId)}
      {ledger : Ledger.Store QuoteId} (ran : Ledger.post input s.ledger = (reply, ledger)) :
      Effect pid s ⟨.post input, reply⟩ { s with ledger }
  | neutral {call : ConversionCall} {reply : Except Failure call.Reply} (neutral : call.isNeutral) :
      Effect pid s ⟨call, reply⟩ s
  | failed {call : ConversionCall} {failure : Failure} : Effect pid s ⟨call, .error failure⟩ s

private theorem createQuote_ok {data : PriceQuote} (ok : createQuote pid data s = .ok (quote, s')) :
    s.quotes.lookup pid = none ∧ ∃ rate, quote = { data with rate } ∧
      s' = { s with quotes := s.quotes.insert pid { data with rate } } := by
  simp only [createQuote, except_bind_ok] at ok
  obtain ⟨rate, -, ok⟩ := ok
  split at ok
  · cases ok
  · rename_i fresh
    cases ok
    exact ⟨by simpa using fresh, rate, rfl, rfl⟩

private theorem createConversion_ok {data : Conversion} (ok : createConversion pid data s = .ok (row, s')) :
    s.conversions.lookup pid = none ∧ ∃ economics, storeEconomics data.economics = .ok economics ∧
      row = { data with economics } ∧
      s' = { s with conversions := s.conversions.insert pid { data with economics } } := by
  simp only [createConversion, except_bind_ok] at ok
  obtain ⟨economics, isStored, ok⟩ := ok
  split at ok
  · cases ok
  · rename_i fresh
    cases ok
    exact ⟨by simpa using fresh, economics, isStored, rfl, rfl⟩

/-- Every call has one of these effects. -/
theorem Makes.effect (makes : Makes pid call s reply s') : Effect pid s ⟨call, reply⟩ s' := by
  rcases makes with ⟨world, ran⟩ | ⟨⟨failure, -, rfl⟩, rfl⟩
  · cases call with
    | createQuote data =>
      rcases Database.written_cases ran with ⟨⟨id, quote⟩, rfl, wrote⟩ | ⟨⟨failure, rfl, -⟩, rfl⟩
      · cases created : createQuote pid data s with
        | error failure => simp [created, Except.map] at wrote
        | ok pair =>
          simp only [created, Except.map, Except.ok.injEq, Prod.mk.injEq] at wrote
          obtain ⟨⟨rfl, rfl⟩, rfl⟩ := wrote
          obtain ⟨fresh, rate, isRow, isStore⟩ := createQuote_ok created
          rw [isRow, isStore]
          exact .quoted fresh
      · exact .failed
    | createConversion data =>
      rcases Database.written_cases ran with ⟨row, rfl, wrote⟩ | ⟨⟨failure, rfl, -⟩, rfl⟩
      · obtain ⟨fresh, economics, isStored, rfl, rfl⟩ := createConversion_ok wrote
        exact .converted isStored fresh
      · exact .failed
    | setSnapshot snapshot ttlMs =>
      cases ran
      exact .kept
    | getDelSnapshot quoteId =>
      cases ran
      exact .consumed
    | post input =>
      cases posted : Ledger.post input s.ledger with
      | mk outcome ledger =>
        simp only [perform, posted] at ran
        cases ran
        exact .posted posted
    | _ =>
      cases ran
      exact .neutral rfl
  · exact .failed

/-! ## Readings -/

theorem findConversionByQuoteId_some {pick : ℕ} (found : findConversionByQuoteId s pick quoteId = some row) :
    (∃ id, s.conversions.lookup id = some row) ∧ row.quoteId = quoteId := by
  have member := List.mem_of_getElem? found
  obtain ⟨isRow, isQuote⟩ := List.mem_filter.mp member
  obtain ⟨⟨id, other⟩, isEntry, rfl⟩ := List.mem_map.mp isRow
  exact ⟨⟨id, Table.mem_rows.mp isEntry⟩, by simpa using isQuote⟩

theorem conversionsOf_eq_nil :
    conversionsOf s quoteId = [] ↔ ∀ id row, s.conversions.lookup id = some row → row.quoteId ≠ quoteId := by
  simp only [conversionsOf, List.filter_eq_nil_iff, List.mem_map, decide_eq_true_eq]
  constructor
  · intro none id row found
    exact none row ⟨(id, row), Table.mem_rows.mpr found, rfl⟩
  · rintro none row ⟨⟨id, other⟩, member, rfl⟩
    exact none id other (Table.mem_rows.mp member)

/-- A reading answers with what is in the tables. -/
theorem Makes.read (makes : Makes pid call s reply s') :
    (∀ id found, (⟨call, reply⟩ : Answered _ _ _) = ⟨.findQuoteById id, .ok found⟩ →
      s.quotes.lookup id = found) ∧
    (∀ quoteId snapshot, (⟨call, reply⟩ : Answered _ _ _) = ⟨.getSnapshot quoteId, .ok (some snapshot)⟩ →
      ∃ expiry, s.snapshots.lookup quoteId = some (snapshot, expiry)) ∧
    ∀ quoteId row, (⟨call, reply⟩ : Answered _ _ _) = ⟨.findConversionByQuoteId quoteId, .ok (some row)⟩ →
      (∃ id, s.conversions.lookup id = some row) ∧ row.quoteId = quoteId := by
  rcases makes with ⟨world, ran⟩ | ⟨⟨failure, -, rfl⟩, rfl⟩
  · refine ⟨?_, ?_, ?_⟩
    · rintro id found same
      cases same
      exact Except.ok.inj (Prod.mk.inj ran).1
    · rintro quoteId snapshot same
      cases same
      have read : getSnapshot s world.now quoteId = some snapshot := Except.ok.inj (Prod.mk.inj ran).1
      obtain ⟨⟨found, expiry⟩, isEntry, rfl⟩ := Option.map_eq_some_iff.mp read
      exact ⟨expiry, (Option.filter_eq_some_iff.mp isEntry).1⟩
    · rintro quoteId row same
      cases same
      exact findConversionByQuoteId_some (Except.ok.inj (Prod.mk.inj ran).1)
  · refine ⟨?_, ?_, ?_⟩
    · rintro id found same
      cases same
    · rintro quoteId snapshot same
      cases same
    · rintro quoteId row same
      cases same

/-! ## Rows -/

/-- A row of a new key comes to the others. -/
theorem conversionsOf_insert (fresh : s.conversions.lookup id = none) (row : Conversion) (quoteId : QuoteId) :
    conversionsOf { s with conversions := s.conversions.insert id row } quoteId =
      (if row.quoteId = quoteId then [row] else []) ++ conversionsOf s quoteId := by
  have rows : Table.rows (s.conversions.insert id row) = (id, row) :: s.conversions.rows := by
    rw [Table.rows, AList.entries_insert_of_notMem (AList.lookup_eq_none.mp fresh)]
    rfl
  unfold conversionsOf
  dsimp only
  rw [rows, List.map_cons, List.filter_cons]
  by_cases same : row.quoteId = quoteId <;> simp [same]

/-- The conversions of a quote stay, and at most the one that is made joins them. -/
theorem Effect.conversionsOf (effect : Effect pid s made s') (quoteId : QuoteId) :
    conversionsOf s' quoteId = conversionsOf s quoteId ∨ ∃ data row,
      made = ⟨.createConversion data, .ok row⟩ ∧ data.quoteId = quoteId ∧
      conversionsOf s' quoteId = row :: conversionsOf s quoteId := by
  cases effect with
  | @converted data economics isStored fresh =>
    rw [conversionsOf_insert fresh]
    by_cases same : data.quoteId = quoteId
    · exact .inr ⟨data, _, rfl, same, by simp [same]⟩
    · exact .inl (by simp [same])
  | _ => exact .inl rfl

/-- A quote stays as it was written. -/
theorem Effect.quote_stays (effect : Effect pid s made s') (found : s.quotes.lookup id = some quote) :
    s'.quotes.lookup id = some quote := by
  cases effect with
  | quoted fresh =>
    have other : id ≠ pid := by
      rintro rfl
      cases fresh.symm.trans found
    exact (AList.lookup_insert_ne other).trans found
  | _ => exact found

theorem Effect.conversion_stays (effect : Effect pid s made s') (found : s.conversions.lookup id = some row) :
    s'.conversions.lookup id = some row := by
  cases effect with
  | converted isStored fresh =>
    have other : id ≠ pid := by
      rintro rfl
      cases fresh.symm.trans found
    exact (AList.lookup_insert_ne other).trans found
  | _ => exact found

/-- A conversion was there before, or is the one this call has made. -/
theorem Effect.conversion_origin (effect : Effect pid s made s') (found : s'.conversions.lookup id = some row) :
    s.conversions.lookup id = some row ∨ id = pid ∧ ∃ data economics,
      made = ⟨.createConversion data, .ok row⟩ ∧ storeEconomics data.economics = .ok economics ∧
      row = { data with economics } := by
  cases effect with
  | @converted data economics isStored fresh =>
    by_cases own : id = pid
    · subst own
      cases (AList.lookup_insert _).symm.trans found
      exact .inr ⟨rfl, data, economics, rfl, isStored, rfl⟩
    · exact .inl ((AList.lookup_insert_ne own).symm.trans found)
  | _ => exact .inl found

/-- A snapshot was there before, or is the one this call has kept. -/
theorem Effect.snapshot_origin {expiry : Time} (effect : Effect pid s made s')
    (found : s'.snapshots.lookup quoteId = some (snapshot, expiry)) :
    s.snapshots.lookup quoteId = some (snapshot, expiry) ∨
      ∃ ttlMs, made = ⟨.setSnapshot snapshot ttlMs, .ok ()⟩ ∧ snapshot.quoteId = quoteId := by
  cases effect with
  | @kept other ttlMs expiry =>
    by_cases own : quoteId = other.quoteId
    · subst own
      cases (AList.lookup_insert _).symm.trans found
      exact .inr ⟨ttlMs, rfl, rfl⟩
    · exact .inl ((AList.lookup_insert_ne own).symm.trans found)
  | @consumed other _ =>
    by_cases own : quoteId = other
    · subst own
      cases (AList.lookup_erase _ _).symm.trans found
    · exact .inl ((AList.lookup_erase_ne own).symm.trans found)
  | _ => exact .inl found

/-- Only a posting changes the ledger. -/
theorem Effect.ledger (effect : Effect pid s made s') :
    (∃ input reply, made = ⟨.post input, reply⟩ ∧ Ledger.post input s.ledger = (reply, s'.ledger)) ∨
      s'.ledger = s.ledger ∧ ∀ input txn, made ≠ ⟨.post input, .ok txn⟩ := by
  cases effect with
  | posted ran => exact .inl ⟨_, _, rfl, ran⟩
  | neutral neutral =>
    refine .inr ⟨rfl, fun input txn same => ?_⟩
    cases same
    cases neutral
  | _ => exact .inr ⟨rfl, fun input txn same => by cases same⟩

theorem Effect.postings_mono {txn : LedgerTransaction QuoteId} (effect : Effect pid s made s')
    (member : txn ∈ s.ledger.postings REFERENCE_TYPE quoteId) :
    txn ∈ s'.ledger.postings REFERENCE_TYPE quoteId := by
  rcases effect.ledger with ⟨input, reply, -, ran⟩ | ⟨same, -⟩
  · exact mem_postings_mono ran member
  · rwa [same]

theorem Effect.postings_once (effect : Effect pid s made s')
    (once : (s.ledger.postings REFERENCE_TYPE quoteId).length ≤ 1) :
    (s'.ledger.postings REFERENCE_TYPE quoteId).length ≤ 1 := by
  rcases effect.ledger with ⟨input, reply, -, ran⟩ | ⟨same, -⟩
  · exact postings_length_le ran (by decide) once
  · rwa [same]

/-! ## Runs -/

abbrev History := Logged ℕ ConversionCall ConversionCall.Reply Failure Store

abbrev ConversionPool := Pool ℕ ConversionCall ConversionCall.Reply Failure Response History

def interleaved (pid : ℕ) (call : ConversionCall) (x : History) (reply : Except Failure call.Reply)
    (s' : Store) : Prop :=
  Makes pid call x.store reply s'

/-- A schedule in which every request has its own time. -/
def schedule (config : Config) (worlds : ℕ → World) (isLost : ℕ → ConversionCall → Bool)
    (allows : ℕ → (call : ConversionCall) → History → Except Failure call.Reply → Bool)
    (requests : ℕ → Request) (arrivals : List ℕ) (turns : List (ℕ × ℕ)) (s : Store) : Option ConversionPool :=
  Database.schedule perform worlds isLost allows (fun pid => (requests pid).program config) arrivals turns s

theorem schedule_run {config : Config} {worlds : ℕ → World} {requests : ℕ → Request}
    {isLost : ℕ → ConversionCall → Bool}
    {allows : ℕ → (call : ConversionCall) → History → Except Failure call.Reply → Bool}
    {arrivals : List ℕ} {turns : List (ℕ × ℕ)} {pool : ConversionPool} {Initial : Store → Prop} {initial : Store}
    {step : ℕ → (call : ConversionCall) → History → Except Failure call.Reply → Store → Prop}
    (isInitial : Initial initial)
    (sound : ∀ pid call x reply s', allows pid call x reply → Makes pid call x.store reply s' →
      step pid call x reply s')
    (played : schedule config worlds isLost allows requests arrivals turns initial = some pool) :
    Logged.Run step (IsRequest config requests) Initial pool :=
  Database.schedule_run isInitial (fun _ => rfl) sound played

end Exchange.Conversions
