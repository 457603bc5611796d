import Exchange.Decimal
import Exchange.Text

/-! Tax records and the statements drawn up from them. Amounts are exact; a
statement reads a limited number of records and rounds its totals to eight
places. -/
namespace Exchange.Tax
open SignificantDigits

inductive TaxEventType where
  | tradeSell
  | withdrawal
  | conversion
  | fee
  | other
  deriving DecidableEq, Repr

/-- What the validator admits. -/
structure RateBps where
  value : ℕ
  admitted : value ≤ 10000
  deriving DecidableEq, Repr

structure TaxRule where
  eventType : TaxEventType
  rateBps : RateBps
  /-- Its status is `ACTIVE`. -/
  active : Bool
  deriving DecidableEq, Repr

def DEFAULT_RULES : List TaxRule :=
  [⟨.tradeSell, ⟨100, by decide⟩, true⟩, ⟨.conversion, ⟨100, by decide⟩, true⟩, ⟨.withdrawal, ⟨0, by decide⟩, true⟩,
    ⟨.fee, ⟨0, by decide⟩, true⟩, ⟨.other, ⟨0, by decide⟩, true⟩]

/-- Like `2025-26`. -/
structure FinancialYear where
  text : Text
  given : text ≠ []
  deriving DecidableEq, Repr

structure TaxEventInput where
  eventType : TaxEventType
  grossAmount : ℚ≥0
  asset : Option Text
  sourceType : Option Text
  sourceRef : Option Text
  financialYear : Option FinancialYear
  deriving DecidableEq

structure TdsRecord where
  userId : ℕ
  eventType : TaxEventType
  sourceType : Option Text
  sourceRef : Option Text
  grossAmount : ℚ
  asset : Option Text
  rateBps : ℕ
  tdsAmount : ℚ
  financialYear : FinancialYear
  deriving DecidableEq

structure EventTotals where
  count : ℕ
  gross : ℚ
  tds : ℚ
  deriving DecidableEq

structure Summary where
  financialYear : FinancialYear
  recordCount : ℕ
  totalGross : ℚ
  totalTds : ℚ
  byEvent : List (TaxEventType × EventTotals)
  deriving DecidableEq

structure TaxStatement where
  userId : ℕ
  financialYear : FinancialYear
  totalGross : ℚ
  totalTds : ℚ
  recordCount : ℕ
  payload : Summary
  deriving DecidableEq

structure Store where
  /-- One for an event type at most. -/
  rules : List TaxRule
  /-- `higherTdsApplicable` of each user's profile. -/
  profiles : ℕ → Option Bool
  /-- The newest first. -/
  records : List TdsRecord
  statements : List TaxStatement

/-! ## Calculation -/

/-- `Number(n.toFixed(8))`; from `10 ^ 21` on a number is printed as it is. -/
def round8 (n : ℚ) : ℚ := if |n| < 10 ^ 21 then Decimal.toFixed 8 n else n

/-- The rate and the amount. -/
def computeTds (grossAmount : ℚ) (rateBps : RateBps) (higherTds : Bool) : ℕ × ℚ :=
  let effectiveBps :=
    if higherTds then min (if rateBps.value = 0 then 100 else rateBps.value + 400) 2000 else rateBps.value
  (effectiveBps, round8 (grossAmount * effectiveBps / 10000))

/-! ## Recording -/

/-- With the rules that stand if there were none. -/
def listRules (store : Store) : List TaxRule × Store :=
  if store.rules = [] then (DEFAULT_RULES, { store with rules := DEFAULT_RULES }) else (store.rules, store)

def createTds (record : TdsRecord) (store : Store) : Except Failure Unit × Store :=
  match Numeric.store record.grossAmount, Numeric.store record.tdsAmount with
  | .ok grossAmount, .ok tdsAmount =>
    (.ok (), { store with records := { record with grossAmount, tdsAmount } :: store.records })
  | .error failure, _ => (.error failure, store)
  | _, .error failure => (.error failure, store)

/-- The record of an event. -/
def tdsOf (rules : List TaxRule) (higherTds : Bool) (today : FinancialYear) (userId : ℕ) (event : TaxEventInput) :
    TdsRecord :=
  let rule := rules.find? fun rule => rule.eventType = event.eventType
  let rateBps := match rule with
    | some rule => if rule.active then rule.rateBps else ⟨0, by decide⟩
    | none => ⟨0, by decide⟩
  let (effectiveBps, tdsAmount) := computeTds event.grossAmount rateBps higherTds
  { userId
    eventType := event.eventType
    sourceType := event.sourceType
    sourceRef := event.sourceRef
    grossAmount := event.grossAmount
    asset := event.asset
    rateBps := effectiveBps
    tdsAmount
    financialYear := event.financialYear.getD today }

/-- One record after the other; those that were made stay when a later one
cannot be. -/
def createAll (records : List TdsRecord) (store : Store) : Except Failure Unit × Store :=
  match records with
  | [] => (.ok (), store)
  | record :: rest =>
    let created := createTds record store
    if created.1.isOk then createAll rest created.2 else created

def recordEvents (today : FinancialYear) (userId : ℕ) (events : List TaxEventInput) (store : Store) :
    Except Failure Unit × Store :=
  let higherTds := (store.profiles userId).getD true
  let (rules, store) := listRules store
  createAll (events.map (tdsOf rules higherTds today userId)) store

/-! ## Statements -/

def tdsForUser (userId : ℕ) (financialYear : Option FinancialYear) (store : Store) : List TdsRecord :=
  (store.records.filter fun record =>
    record.userId = userId ∧ ∀ year ∈ financialYear, record.financialYear = year).take 1000

/-- `byEvent[k] = byEvent[k] ?? …`, and the record is counted in. -/
def addToEvent (key : TaxEventType) (gross tds : ℚ) (byEvent : List (TaxEventType × EventTotals)) :
    List (TaxEventType × EventTotals) :=
  match byEvent with
  | [] => [(key, ⟨1, gross, tds⟩)]
  | (name, totals) :: rest =>
    if name = key then (name, ⟨totals.count + 1, totals.gross + gross, totals.tds + tds⟩) :: rest
    else (name, totals) :: addToEvent key gross tds rest

structure Totals where
  gross : ℚ
  tds : ℚ
  byEvent : List (TaxEventType × EventTotals)

def Totals.add (totals : Totals) (record : TdsRecord) : Totals where
  gross := totals.gross + record.grossAmount
  tds := totals.tds + record.tdsAmount
  byEvent := addToEvent record.eventType record.grossAmount record.tdsAmount totals.byEvent

def totalsOf (records : List TdsRecord) : Totals := records.foldl Totals.add ⟨0, 0, []⟩

def summary (today : FinancialYear) (userId : ℕ) (financialYear : Option FinancialYear) (store : Store) : Summary :=
  let records := tdsForUser userId financialYear store
  let totals := totalsOf records
  { financialYear := financialYear.getD today
    recordCount := records.length
    totalGross := round8 totals.gross
    totalTds := round8 totals.tds
    byEvent := totals.byEvent }

def createStatement (statement : TaxStatement) (store : Store) : Except Failure TaxStatement × Store :=
  match Numeric.store statement.totalGross, Numeric.store statement.totalTds with
  | .ok totalGross, .ok totalTds =>
    let statement := { statement with totalGross, totalTds }
    (.ok statement, { store with statements := statement :: store.statements })
  | .error failure, _ => (.error failure, store)
  | _, .error failure => (.error failure, store)

def generateStatement (today : FinancialYear) (userId : ℕ) (financialYear : FinancialYear)
    (events : List TaxEventInput) (store : Store) : Except Failure TaxStatement × Store :=
  let recorded :=
    if events = [] then (.ok (), store)
    else recordEvents today userId (events.map fun event => { event with financialYear := some financialYear }) store
  match recorded with
  | (.error failure, store) => (.error failure, store)
  | (.ok (), store) =>
    let payload := summary today userId (some financialYear) store
    createStatement ⟨userId, financialYear, payload.totalGross, payload.totalTds, payload.recordCount, payload⟩ store

/-! ## Runs -/

inductive Call where
  | upsertRule (rule : TaxRule)
  | upsertProfile (userId : ℕ) (higherTds : Bool)
  | recordEvents (today : FinancialYear) (userId : ℕ) (events : List TaxEventInput)
  | generateStatement (today : FinancialYear) (userId : ℕ) (financialYear : FinancialYear)
      (events : List TaxEventInput)

def Call.run (store : Store) : Call → Store
  | .upsertRule rule => { store with rules := rule :: store.rules.filter (·.eventType ≠ rule.eventType) }
  | .upsertProfile userId higherTds => { store with profiles := Function.update store.profiles userId (some higherTds) }
  | .recordEvents today userId events => (Tax.recordEvents today userId events store).2
  | .generateStatement today userId financialYear events =>
    (Tax.generateStatement today userId financialYear events store).2

/-- Before the first call. -/
def emptyStore : Store := ⟨[], fun _ => none, [], []⟩

def after (calls : List Call) : Store := calls.foldl Call.run emptyStore

/-- All records of a user and year. -/
def recordsOf (userId : ℕ) (financialYear : FinancialYear) (store : Store) : List TdsRecord :=
  store.records.filter fun record => record.userId = userId ∧ record.financialYear = financialYear

/-- The statement says what the records say. -/
structure Complete (records : List TdsRecord) (statement : TaxStatement) : Prop where
  recordCount : statement.recordCount = records.length
  totalGross : statement.totalGross = (records.map TdsRecord.grossAmount).sum
  totalTds : statement.totalTds = (records.map TdsRecord.tdsAmount).sum
  counts : (statement.payload.byEvent.map fun event => event.2.count).sum = statement.recordCount
  grossAdds : (statement.payload.byEvent.map fun event => event.2.gross).sum = statement.totalGross
  tdsAdds : (statement.payload.byEvent.map fun event => event.2.tds).sum = statement.totalTds

/-- The higher TDS is no less than the ordinary one. -/
def NeverLower (grossAmount : ℚ≥0) (rateBps : RateBps) : Prop :=
  (computeTds grossAmount rateBps false).2 ≤ (computeTds grossAmount rateBps true).2

/-- With the events, the year has no more records than are read, and their gross
amounts come to eight places. -/
def Fits (userId : ℕ) (financialYear : FinancialYear) (events : List TaxEventInput) (store : Store) : Prop :=
  (recordsOf userId financialYear store).length + events.length ≤ 1000 ∧
    OnGrid 8 (((recordsOf userId financialYear store).map TdsRecord.grossAmount).sum +
      (events.map fun event => Numeric.rounded event.grossAmount).sum)

/-- The rate is not above the highest, or it makes no difference at eight places. -/
def Capped (grossAmount : ℚ≥0) (rateBps : RateBps) : Prop :=
  rateBps.value ≤ 2000 ∨ round8 (grossAmount * rateBps.value / 10000) = round8 (grossAmount * 2000 / 10000)

/-! ## Rounding to eight places -/

theorem round8_mono (le : x ≤ y) : round8 x ≤ round8 y := by
  have bound : OnGrid (8 : ℕ) (10 ^ 21) := ⟨10 ^ 29, by norm_num⟩
  have bound' : OnGrid (8 : ℕ) (-10 ^ 21) := bound.neg
  unfold round8 Decimal.toFixed
  split_ifs with hx hy hy
  · exact atPlaces_mono halfUp_mode le
  · rw [abs_lt] at hx
    rcases le_abs.mp (not_lt.mp hy) with high | low
    · exact (atPlaces_le halfUp_mode bound hx.2.le).trans high
    · linarith [hx.1]
  · rw [abs_lt] at hy
    rcases le_abs.mp (not_lt.mp hx) with high | low
    · linarith [hy.2]
    · refine le_trans ?_ (le_atPlaces halfUp_mode bound' hy.1.le)
      linarith
  · exact le

/-- What is stored of a rounded number has eight places. -/
theorem store_round8 (stored : Numeric.store (round8 x) = .ok y) : y = Decimal.toFixed 8 x := by
  obtain ⟨rfl, small⟩ := Numeric.store_ok stored
  by_cases printed : |x| < 10 ^ 21
  · rw [round8, if_pos printed]
    exact Numeric.rounded_of_onGrid ((atPlaces_onGrid _ _ _).mono (by decide))
  · rw [round8, if_neg printed] at small
    have bound : OnGrid Numeric.scale (10 ^ 21) := ⟨10 ^ 39, by norm_num [Numeric.scale]⟩
    rw [abs_lt] at small
    rcases le_abs.mp (not_lt.mp printed) with high | low
    · have := le_atPlaces halfUp_mode bound high
      unfold Numeric.rounded at small
      linarith [small.2]
    · have := atPlaces_le halfUp_mode bound.neg (le_neg_of_le_neg low)
      unfold Numeric.rounded at small
      linarith [small.1]

theorem toFixed_eq_iff {places : ℕ} : Decimal.toFixed places x = x ↔ OnGrid places x := by
  constructor
  · intro same
    rw [← same]
    exact atPlaces_onGrid _ _ _
  · exact Decimal.toFixed_of_onGrid

/-! ## The higher rate -/

theorem never_lower_iff (grossAmount : ℚ≥0) (rateBps : RateBps) :
    NeverLower grossAmount rateBps ↔ Capped grossAmount rateBps := by
  have nonneg : (0 : ℚ) ≤ grossAmount := grossAmount.coe_nonneg
  have ordered : ∀ {low high : ℕ}, low ≤ high →
      round8 ((grossAmount : ℚ) * low / 10000) ≤ round8 ((grossAmount : ℚ) * high / 10000) := by
    intro low high le
    refine round8_mono (div_le_div_of_nonneg_right (mul_le_mul_of_nonneg_left ?_ nonneg) (by norm_num))
    exact_mod_cast le
  simp only [NeverLower, Capped, computeTds, Bool.false_eq_true, if_false, if_true]
  by_cases low : rateBps.value ≤ 2000
  · refine iff_of_true (ordered ?_) (.inl low)
    split_ifs <;> omega
  · have highest : min (if rateBps.value = 0 then 100 else rateBps.value + 400) 2000 = 2000 := by
      split_ifs <;> omega
    have above := ordered (not_le.mp low).le
    rw [highest]
    push_cast at above ⊢
    constructor
    · intro le
      exact .inr (le_antisymm le above)
    · rintro (le | same)
      · exact absurd le low
      · exact same.le

/-! ## What is recorded -/

variable {store store' : Store} {record : TdsRecord} {failure : Failure}

/-- A record as the database holds it. -/
def TdsRecord.stored (record : TdsRecord) : TdsRecord :=
  { record with grossAmount := Numeric.rounded record.grossAmount, tdsAmount := Numeric.rounded record.tdsAmount }

theorem createTds_ok (created : createTds record store = (.ok (), store')) :
    store'.records = record.stored :: store.records ∧ ∃ tds, Numeric.store record.tdsAmount = .ok tds := by
  unfold createTds at created
  cases gross : Numeric.store record.grossAmount with
  | error failure => simp [gross] at created
  | ok grossAmount =>
    cases tds : Numeric.store record.tdsAmount with
    | error failure => simp [gross, tds] at created
    | ok tdsAmount =>
      simp only [gross, tds, Prod.mk.injEq, true_and] at created
      subst created
      refine ⟨?_, tdsAmount, rfl⟩
      rw [(Numeric.store_ok gross).1, (Numeric.store_ok tds).1]
      rfl

theorem createTds_error (created : createTds record store = (.error failure, store')) : store' = store := by
  unfold createTds at created
  split at created <;> simp_all

theorem createAll_ok {records : List TdsRecord} (created : createAll records store = (.ok (), store')) :
    store'.records = (records.map TdsRecord.stored).reverse ++ store.records := by
  induction records generalizing store with
  | nil =>
    rw [createAll, Prod.mk.injEq] at created
    rw [← created.2]
    rfl
  | cons record rest each =>
    rw [createAll] at created
    generalize first : createTds record store = outcome at created
    obtain ⟨result, middle⟩ := outcome
    cases result with
    | error failure => simp [Except.isOk, Except.toBool] at created
    | ok _ =>
      rw [each created, (createTds_ok first).1, List.map_cons, List.reverse_cons, List.append_assoc]
      rfl

/-- The TDS amounts have eight places. -/
def Rounded (store : Store) : Prop := ∀ record ∈ store.records, OnGrid (8 : ℕ) record.tdsAmount

theorem createAll_rounded {records : List TdsRecord} (rounded : Rounded store)
    (computed : ∀ record ∈ records, ∃ x, record.tdsAmount = round8 x) : Rounded (createAll records store).2 := by
  induction records generalizing store with
  | nil => exact rounded
  | cons record rest each =>
    rw [List.forall_mem_cons] at computed
    obtain ⟨⟨x, isRound⟩, computed⟩ := computed
    rw [createAll]
    generalize first : createTds record store = outcome
    obtain ⟨result, middle⟩ := outcome
    cases result with
    | error failure =>
      rw [createTds_error first]
      exact rounded
    | ok _ =>
      refine each ?_ computed
      obtain ⟨records, tds, stored⟩ := createTds_ok first
      have grid : OnGrid (8 : ℕ) record.stored.tdsAmount := by
        have value := (Numeric.store_ok stored).1
        rw [isRound] at stored
        rw [TdsRecord.stored, ← value, store_round8 stored]
        exact atPlaces_onGrid _ _ _
      rw [Rounded, records, List.forall_mem_cons]
      exact ⟨grid, rounded⟩

theorem listRules_records (store : Store) : (listRules store).2.records = store.records := by
  unfold listRules
  split <;> rfl

theorem recordEvents_eq (today : FinancialYear) (userId : ℕ) (events : List TaxEventInput) (store : Store) :
    recordEvents today userId events store =
      createAll (events.map (tdsOf (listRules store).1 ((store.profiles userId).getD true) today userId))
        (listRules store).2 := rfl

theorem recordEvents_rounded (rounded : Rounded store) (today : FinancialYear) (userId : ℕ)
    (events : List TaxEventInput) : Rounded (recordEvents today userId events store).2 := by
  rw [recordEvents_eq]
  refine createAll_rounded ?_ ?_
  · rw [Rounded, listRules_records]
    exact rounded
  · rw [List.forall_mem_map]
    intro event _
    exact ⟨_, rfl⟩

theorem createStatement_records (statement : TaxStatement) (store : Store) :
    (createStatement statement store).2.records = store.records := by
  unfold createStatement
  split <;> rfl

theorem generateStatement_rounded (rounded : Rounded store) (today : FinancialYear) (userId : ℕ)
    (financialYear : FinancialYear) (events : List TaxEventInput) :
    Rounded (generateStatement today userId financialYear events store).2 := by
  have recorded : Rounded (if events = [] then ((.ok (), store) : Except Failure Unit × Store)
      else recordEvents today userId
        (events.map fun event => { event with financialYear := some financialYear }) store).2 := by
    split_ifs
    · exact rounded
    · exact recordEvents_rounded rounded _ _ _
  unfold generateStatement
  generalize (if events = [] then ((.ok (), store) : Except Failure Unit × Store)
      else recordEvents today userId
        (events.map fun event => { event with financialYear := some financialYear }) store) = outcome at recorded
  obtain ⟨result, middle⟩ := outcome
  cases result with
  | error failure => exact recorded
  | ok _ =>
    rw [Rounded, createStatement_records]
    exact recorded

theorem after_rounded (calls : List Call) : Rounded (after calls) := by
  induction calls using List.reverseRecOn with
  | nil => exact fun _ member => absurd member List.not_mem_nil
  | append_singleton calls call each =>
    rw [after, List.foldl_append]
    cases call with
    | upsertRule rule => exact each
    | upsertProfile userId higherTds => exact each
    | recordEvents today userId events => exact recordEvents_rounded each _ _ _
    | generateStatement today userId financialYear events => exact generateStatement_rounded each _ _ _ _

/-! ## What a statement says -/

/-- The records that a call makes, newest first. -/
def made (today : FinancialYear) (userId : ℕ) (financialYear : FinancialYear) (events : List TaxEventInput)
    (store : Store) : List TdsRecord :=
  (events.map fun event =>
    (tdsOf (listRules store).1 ((store.profiles userId).getD true) today userId
      { event with financialYear := some financialYear }).stored).reverse

/-- What is stored of an accepted statement are its figures as the columns hold them. -/
theorem createStatement_ok {statement row : TaxStatement} (created : createStatement statement store = (.ok row, store')) :
    Numeric.store statement.totalGross = .ok row.totalGross ∧ Numeric.store statement.totalTds = .ok row.totalTds ∧
      row = { statement with totalGross := row.totalGross, totalTds := row.totalTds } ∧
      store' = { store with statements := row :: store.statements } := by
  unfold createStatement at created
  cases gross : Numeric.store statement.totalGross with
  | error failure => simp [gross] at created
  | ok totalGross =>
    cases tds : Numeric.store statement.totalTds with
    | error failure => simp [gross, tds] at created
    | ok totalTds =>
      simp only [gross, tds, Prod.mk.injEq, Except.ok.injEq] at created
      obtain ⟨rfl, rfl⟩ := created
      exact ⟨rfl, rfl, rfl, rfl⟩

theorem generateStatement_ok {today : FinancialYear} {userId : ℕ} {financialYear : FinancialYear}
    {events : List TaxEventInput} {statement : TaxStatement}
    (generated : generateStatement today userId financialYear events store = (.ok statement, store')) :
    store'.records = made today userId financialYear events store ++ store.records ∧
      statement.recordCount = (tdsForUser userId (some financialYear) store').length ∧
      statement.totalGross = Decimal.toFixed 8 (totalsOf (tdsForUser userId (some financialYear) store')).gross ∧
      statement.totalTds = Decimal.toFixed 8 (totalsOf (tdsForUser userId (some financialYear) store')).tds ∧
      statement.payload.byEvent = (totalsOf (tdsForUser userId (some financialYear) store')).byEvent := by
  have recorded : ∀ middle, (if events = [] then ((.ok (), store) : Except Failure Unit × Store)
      else recordEvents today userId
        (events.map fun event => { event with financialYear := some financialYear }) store) = (.ok (), middle) →
      middle.records = made today userId financialYear events store ++ store.records := by
    intro middle outcome
    split_ifs at outcome with none
    · rw [none, ← (Prod.mk.inj outcome).2]
      rfl
    · rw [recordEvents_eq] at outcome
      rw [createAll_ok outcome, listRules_records, made, List.map_map, List.map_map]
      rfl
  unfold generateStatement at generated
  generalize (if events = [] then ((.ok (), store) : Except Failure Unit × Store)
      else recordEvents today userId
        (events.map fun event => { event with financialYear := some financialYear }) store) = outcome
    at generated recorded
  obtain ⟨result, middle⟩ := outcome
  cases result with
  | error failure => simp at generated
  | ok _ =>
    obtain ⟨gross, tds, rest, rfl⟩ := createStatement_ok generated
    rw [rest]
    exact ⟨recorded middle rfl, rfl, store_round8 gross, store_round8 tds, rfl⟩

/-- Whatever is added up over the events gains what the record brings. -/
theorem addToEvent_sum [AddCommMonoid α] (measure : EventTotals → α) (key : TaxEventType) (gross tds : ℚ)
    (gains : ∀ totals, measure ⟨totals.count + 1, totals.gross + gross, totals.tds + tds⟩ =
      measure totals + measure ⟨1, gross, tds⟩) (byEvent : List (TaxEventType × EventTotals)) :
    ((addToEvent key gross tds byEvent).map fun event => measure event.2).sum =
      (byEvent.map fun event => measure event.2).sum + measure ⟨1, gross, tds⟩ := by
  induction byEvent with
  | nil => simp [addToEvent]
  | cons event rest each =>
    rw [addToEvent]
    split_ifs
    · rw [List.map_cons, List.sum_cons, gains, List.map_cons, List.sum_cons, add_right_comm]
    · rw [List.map_cons, List.sum_cons, each, List.map_cons, List.sum_cons, add_assoc]

theorem totalsOf_snoc (records : List TdsRecord) (record : TdsRecord) :
    totalsOf (records ++ [record]) = (totalsOf records).add record := by
  rw [totalsOf, List.foldl_append]
  rfl

/-- The totals of some records, overall and by event. -/
structure Sums (records : List TdsRecord) (totals : Totals) : Prop where
  gross : totals.gross = (records.map TdsRecord.grossAmount).sum
  tds : totals.tds = (records.map TdsRecord.tdsAmount).sum
  counts : (totals.byEvent.map fun event => event.2.count).sum = records.length
  grossAdds : (totals.byEvent.map fun event => event.2.gross).sum = totals.gross
  tdsAdds : (totals.byEvent.map fun event => event.2.tds).sum = totals.tds

theorem totalsOf_sums (records : List TdsRecord) : Sums records (totalsOf records) := by
  induction records using List.reverseRecOn with
  | nil => exact ⟨rfl, rfl, rfl, rfl, rfl⟩
  | append_singleton records record each =>
    rw [totalsOf_snoc]
    refine ⟨?_, ?_, ?_, ?_, ?_⟩
    · simp [Totals.add, each.gross]
    · simp [Totals.add, each.tds]
    · rw [Totals.add, addToEvent_sum EventTotals.count _ _ _ fun _ => rfl, each.counts, List.length_append]
      rfl
    · rw [Totals.add, addToEvent_sum EventTotals.gross _ _ _ fun _ => rfl, each.grossAdds]
    · rw [Totals.add, addToEvent_sum EventTotals.tds _ _ _ fun _ => rfl, each.tdsAdds]

theorem tdsForUser_eq (userId : ℕ) (financialYear : FinancialYear) (store : Store) :
    tdsForUser userId (some financialYear) store = (recordsOf userId financialYear store).take 1000 := by
  simp [tdsForUser, recordsOf]

theorem recordsOf_made {today : FinancialYear} {userId : ℕ} {financialYear : FinancialYear}
    {events : List TaxEventInput}
    (records : store'.records = made today userId financialYear events store ++ store.records) :
    recordsOf userId financialYear store' =
      made today userId financialYear events store ++ recordsOf userId financialYear store := by
  rw [recordsOf, records, List.filter_append, recordsOf, List.filter_eq_self.mpr]
  intro record member
  obtain ⟨event, _, rfl⟩ := List.mem_map.mp (List.mem_reverse.mp member)
  simp [TdsRecord.stored, tdsOf]

theorem gross_made (today : FinancialYear) (userId : ℕ) (financialYear : FinancialYear)
    (events : List TaxEventInput) (store : Store) :
    ((made today userId financialYear events store).map TdsRecord.grossAmount).sum =
      (events.map fun event => Numeric.rounded event.grossAmount).sum := by
  rw [made, List.map_reverse, List.sum_reverse, List.map_map]
  rfl

/-- After any calls, a statement is complete and the higher TDS never lower just
if the year's records fit into what is read, to eight places, and the rate under
the highest. -/
theorem statement_complete_iff (calls : List Call) (today : FinancialYear) (userId : ℕ)
    (financialYear : FinancialYear) (events : List TaxEventInput) (statement : TaxStatement) (result : Store)
    (grossAmount : ℚ≥0) (rateBps : RateBps)
    (generated : generateStatement today userId financialYear events (after calls) = (.ok statement, result)) :
    Complete (recordsOf userId financialYear result) statement ∧ NeverLower grossAmount rateBps ↔
      Fits userId financialYear events (after calls) ∧ Capped grossAmount rateBps := by
  rw [never_lower_iff]
  refine and_congr_left fun _ => ?_
  have rounded := generateStatement_rounded (after_rounded calls) today userId financialYear events
  rw [generated] at rounded
  obtain ⟨records, count, gross, tds, byEvent⟩ := generateStatement_ok generated
  rw [tdsForUser_eq] at count gross tds byEvent
  have all := recordsOf_made records
  have fits : Fits userId financialYear events (after calls) ↔
      (recordsOf userId financialYear result).length ≤ 1000 ∧
        OnGrid (8 : ℕ) ((recordsOf userId financialYear result).map TdsRecord.grossAmount).sum := by
    rw [Fits, all, List.length_append, List.map_append, List.sum_append, gross_made, made, List.length_reverse,
      List.length_map, Nat.add_comm, add_comm (List.sum _)]
    rfl
  rw [fits]
  constructor
  · intro complete
    have few := complete.recordCount
    rw [count, List.length_take, min_eq_right_iff] at few
    refine ⟨few, ?_⟩
    rw [List.take_of_length_le few, (totalsOf_sums _).gross] at gross
    rw [← toFixed_eq_iff, ← gross, complete.totalGross]
  · rintro ⟨few, grid⟩
    rw [List.take_of_length_le few] at count gross tds byEvent
    have sums := totalsOf_sums (recordsOf userId financialYear result)
    have tdsGrid : OnGrid (8 : ℕ) ((recordsOf userId financialYear result).map TdsRecord.tdsAmount).sum := by
      refine OnGrid.sum (List.forall_mem_map.mpr fun record member => ?_)
      exact rounded record (List.mem_filter.mp member).1
    rw [sums.gross, Decimal.toFixed_of_onGrid grid] at gross
    rw [sums.tds, Decimal.toFixed_of_onGrid tdsGrid] at tds
    exact ⟨count, gross, tds, by rw [byEvent, sums.counts, count], by rw [byEvent, sums.grossAdds, sums.gross, gross],
      by rw [byEvent, sums.tdsAdds, sums.tds, tds]⟩

/-! ## One sale -/

def yearOf2025 : FinancialYear := ⟨"2025-26".toList, by decide⟩

/-- One sale of a hundred, of a user without a profile. -/
def sale : TaxEventInput := ⟨.tradeSell, 100, none, none, none, none⟩

/-- What comes of its statement. -/
def saleOutcome : Except Failure TaxStatement × Store := generateStatement yearOf2025 1 yearOf2025 [sale] (after [])

def saleStatement : TaxStatement := ⟨1, yearOf2025, 100, 5, 1, ⟨yearOf2025, 1, 100, 5, [(.tradeSell, ⟨1, 100, 5⟩)]⟩⟩

theorem sale_generated : saleOutcome.1 = .ok saleStatement := by decide +kernel

theorem statement_complete_sale :
    Complete (recordsOf 1 yearOf2025 saleOutcome.2) saleStatement ∧ NeverLower 100 ⟨100, by decide⟩ ↔
      Fits 1 yearOf2025 [sale] (after []) ∧ Capped 100 ⟨100, by decide⟩ :=
  statement_complete_iff [] yearOf2025 1 yearOf2025 [sale] saleStatement saleOutcome.2 100 ⟨100, by decide⟩
    (Prod.ext sale_generated rfl)

/-- At half the amount the higher TDS is a fifth. -/
theorem higher_tds_lower : ¬NeverLower 100 ⟨5000, by decide⟩ := by
  rw [never_lower_iff, Capped]
  decide +kernel

end Exchange.Tax
