import Exchange.Csv
import Exchange.Decimal
import Exchange.EvidencePacks

/-! The exports of the audit log and of the deposits as comma-separated values.
Both quote a cell by the same rule, and both end after a number of rows. -/
namespace Exchange.CsvExports
open OwnProperties

/-! ## Values in JSON columns -/

/-- A number, as the language prints it. -/
structure Numeral where
  text : Units
  plain : ∀ unit ∈ text, unit ∈ units "0123456789+-.e"

theorem numeral_plain (n : ℕ) : ∀ unit ∈ numeral n, unit ∈ units "0123456789+-.e" := by
  intro unit member
  obtain ⟨char, isDigit, rfl⟩ := List.mem_map.mp member
  rw [Nat.repr, String.toList_ofList] at isDigit
  have digit := Nat.isDigit_of_mem_toDigits (by decide) (by decide) isDigit
  simp only [Char.isDigit, Bool.and_eq_true, decide_eq_true_eq] at digit
  obtain ⟨low, high⟩ : 48 ≤ char.toNat ∧ char.toNat ≤ 57 := digit
  generalize char.toNat = code at low high
  interval_cases code <;> decide +kernel

def Numeral.ofNat (n : ℕ) : Numeral where
  text := numeral n
  plain := numeral_plain n

inductive State where
  | null
  | boolean (value : Bool)
  | number (value : Numeral)
  | string (text : Units)
  | array (items : List State)
  | object (entries : List (Units × State))

/-- What counts as true. -/
def State.truthy : State → Bool
  | .null => false
  | .boolean value => value
  | .number value => value.text ≠ units "0"
  | .string text => text ≠ []
  | .array _ => true
  | .object _ => true

def hexDigit (n : ℕ) : CodeUnit := Fin.ofNat _ (if n < 10 then 48 + n else 87 + n)

/-- `\u` and four digits. -/
def unicodeEscape (unit : CodeUnit) : Units :=
  [92, 117, hexDigit (unit.val / 4096), hexDigit (unit.val / 256 % 16), hexDigit (unit.val / 16 % 16),
    hexDigit (unit.val % 16)]

def isHighSurrogate (unit : CodeUnit) : Bool := 0xD800 ≤ unit.val ∧ unit.val ≤ 0xDBFF

def isLowSurrogate (unit : CodeUnit) : Bool := 0xDC00 ≤ unit.val ∧ unit.val ≤ 0xDFFF

/-- A code unit that is no half of a pair. -/
def escaped (unit : CodeUnit) : Units :=
  if unit = 8 then units "\\b"
  else if unit = 9 then units "\\t"
  else if unit = 10 then units "\\n"
  else if unit = 12 then units "\\f"
  else if unit = 13 then units "\\r"
  else if unit = 34 then [92, 34]
  else if unit = 92 then [92, 92]
  else if unit.val < 32 || isHighSurrogate unit || isLowSurrogate unit then unicodeEscape unit
  else [unit]

def escapedUnits : Units → Units
  | [] => []
  | [unit] => escaped unit
  | unit :: next :: rest =>
    if isHighSurrogate unit && isLowSurrogate next then unit :: next :: escapedUnits rest
    else escaped unit ++ escapedUnits (next :: rest)

def quoteString (text : Units) : Units := [34] ++ escapedUnits text ++ [34]

mutual

/-- `JSON.stringify`. -/
def stringify (value : State) : Units :=
  match value with
  | .null => units "null"
  | .boolean value => units (if value then "true" else "false")
  | .number value => value.text
  | .string text => quoteString text
  | .array items => units "[" ++ [44].intercalate (stringifyItems items) ++ units "]"
  | .object entries => [123] ++ [44].intercalate (stringifyEntries entries) ++ [125]

def stringifyItems (items : List State) : List Units :=
  match items with
  | [] => []
  | item :: rest => stringify item :: stringifyItems rest

def stringifyEntries (entries : List (Units × State)) : List Units :=
  match entries with
  | [] => []
  | (key, item) :: rest => (quoteString key ++ units ":" ++ stringify item) :: stringifyEntries rest

end

/-! ## Rows -/

/-- A row of `admin_logs`, with the email of its admin. -/
structure AdminLog where
  id : ℤ
  adminId : Units
  adminEmail : Option Units
  action : Units
  targetType : Option Units
  targetId : Option Units
  beforeState : Option State
  afterState : Option State
  ip : Option Units
  occurredAt : ℤ

inductive InrTxnType where
  | deposit
  | withdrawal
  deriving DecidableEq, Repr

inductive InrTxnStatus where
  | initiated
  | pending
  | success
  | failed
  | reversed
  deriving DecidableEq, Repr

def InrTxnStatus.text : InrTxnStatus → Units
  | .initiated => units "INITIATED"
  | .pending => units "PENDING"
  | .success => units "SUCCESS"
  | .failed => units "FAILED"
  | .reversed => units "REVERSED"

/-- A row of `inr_transactions`, with the email of its user. -/
structure InrTransaction where
  id : Units
  userId : Units
  userEmail : Units
  type : InrTxnType
  amount : Decimal
  status : InrTxnStatus
  provider : Option Units
  utr : Option Units
  method : Option Units
  firstApprovedBy : Option Units
  reviewedBy : Option Units
  reviewedAt : Option ℤ
  createdAt : ℤ

structure Store where
  adminLogs : List AdminLog
  inrTransactions : List InrTransaction
  nextLogId : ℤ
  emailOf : Units → Option Units

/-! ## Filters -/

section
-- Whether the database finds the second text in the first.
variable (contains : Units → Units → Bool)

/-- A filter that is not given, or empty, lets everything through. -/
def given (value : Option Units) (condition : Units → Bool) : Bool :=
  match value with
  | none => true
  | some value => value = [] || condition value

def within (fromDate toDate : Option ℤ) (date : ℤ) : Bool :=
  fromDate.all (fun fromDate => fromDate ≤ date) && toDate.all fun toDate => date ≤ toDate

structure AuditFilter where
  adminId : Option Units := none
  action : Option Units := none
  targetId : Option Units := none
  fromDate : Option ℤ := none
  toDate : Option ℤ := none

def buildAuditWhere (input : AuditFilter) (log : AdminLog) : Bool :=
  given input.adminId (fun adminId => log.adminId = adminId) && given input.action (contains log.action) &&
    given input.targetId (fun targetId => log.targetId = some targetId) &&
    within input.fromDate input.toDate log.occurredAt

structure AdminDepositFilter where
  status : Option InrTxnStatus := none
  provider : Option Units := none
  userId : Option Units := none
  email : Option Units := none
  utr : Option Units := none
  fromDate : Option ℤ := none
  toDate : Option ℤ := none
  minAmount : Option Decimal := none
  maxAmount : Option Decimal := none

def buildAdminDepositWhere (input : AdminDepositFilter) (row : InrTransaction) : Bool :=
  row.type = .deposit && input.status.all (fun status => row.status = status) &&
    given input.provider (fun provider => row.provider = some provider) &&
    given input.userId (fun userId => row.userId = userId) &&
    given input.utr (fun utr => row.utr.any fun text => contains text utr) &&
    given input.email (contains row.userEmail) &&
    input.minAmount.all (fun minAmount => minAmount ≤ row.amount) &&
    input.maxAmount.all (fun maxAmount => row.amount ≤ maxAmount) && within input.fromDate input.toDate row.createdAt

/-- What matches, the newest first. -/
def matchingLogs (s : Store) (input : AuditFilter) : List AdminLog :=
  (s.adminLogs.filter (buildAuditWhere contains input)).mergeSort fun a b => b.id ≤ a.id

def matchingDeposits (s : Store) (input : AdminDepositFilter) : List InrTransaction :=
  (s.inrTransactions.filter (buildAdminDepositWhere contains input)).mergeSort fun a b => b.createdAt ≤ a.createdAt

def cap : ℕ := 5000

def exportAuditLogs (s : Store) (input : AuditFilter) : List AdminLog := (matchingLogs contains s input).take cap

def adminExportDeposits (s : Store) (input : AdminDepositFilter) : List InrTransaction :=
  (matchingDeposits contains s input).take cap

/-! ## Cells -/

/-- A comma, a quote, a carriage return and a line feed. -/
def dialect : Csv.Dialect CodeUnit := ⟨44, 34, 13, 10, by decide⟩

/-- `/[",\n]/`. -/
def isSpecial (unit : CodeUnit) : Bool := unit = 34 || unit = 44 || unit = 10

/-- Of the audit export. -/
def Operations.csvCell (value : Units) : Units := Csv.cell dialect isSpecial value

/-- Of the deposit export. -/
def Deposits.csvCell (value : Units) : Units := Csv.cell dialect isSpecial value

def stateCell (state : Option State) : Units :=
  match state with
  | none => []
  | some state => if state.truthy then stringify state else []

def auditHeader : List Units :=
  [units "id", units "occurred_at", units "actor_email", units "actor_admin_id", units "action", units "target_type",
    units "target_id", units "ip", units "before_state", units "after_state"]

def auditCells (log : AdminLog) : List Units :=
  [Evidence.digits log.id, Evidence.toISOString log.occurredAt, log.adminEmail.getD [], log.adminId, log.action,
    log.targetType.getD [], log.targetId.getD [], log.ip.getD [], stateCell log.beforeState, stateCell log.afterState]

/-- `toFixed(2)`. -/
def toFixed2 (amount : Decimal) : Units :=
  let hundredths := (amount.toFixed 2 * 100).num
  (if hundredths < 0 then units "-" else []) ++ numeral (hundredths.natAbs / 100) ++ units "." ++
    Evidence.padded 2 (hundredths.natAbs % 100)

def depositHeader : List Units :=
  [units "id", units "user_email", units "amount", units "utr", units "method", units "status",
    units "first_approved_by", units "reviewed_by", units "reviewed_at", units "created_at"]

def depositCells (row : InrTransaction) : List Units :=
  [row.id, row.userEmail, toFixed2 row.amount, row.utr.getD [], row.method.getD [], row.status.text,
    row.firstApprovedBy.getD [], row.reviewedBy.getD [], (row.reviewedAt.map Evidence.toISOString).getD [],
    Evidence.toISOString row.createdAt]

/-! ## Exports -/

def exportAuditCsv (s : Store) (input : AuditFilter) : Units :=
  let lines := [44].intercalate auditHeader ::
    (exportAuditLogs contains s input).map fun log => [44].intercalate ((auditCells log).map Operations.csvCell)
  [10].intercalate lines

structure DepositContext where
  actorId : Option Units := none
  ip : Option Units := none
  /-- The time of the export. -/
  now : ℤ

/-- The entry that tells of an export. -/
def exportLog (s : Store) (ctx : DepositContext) (actorId : Units) (count : ℕ) : AdminLog where
  id := s.nextLogId
  adminId := actorId
  adminEmail := s.emailOf actorId
  action := units "inr.deposit.export"
  targetType := some (units "inr_deposit_queue")
  targetId := none
  beforeState := none
  afterState := some (.object [(units "count", .number (Numeral.ofNat count))])
  ip := ctx.ip
  occurredAt := ctx.now

def writeAdminLog (s : Store) (log : AdminLog) : Store :=
  { s with adminLogs := s.adminLogs ++ [log], nextLogId := s.nextLogId + 1 }

def adminExportDepositsCsv (s : Store) (input : AdminDepositFilter) (ctx : DepositContext) : Units × Store :=
  let rows := adminExportDeposits contains s input
  let s' :=
    match ctx.actorId with
    | none => s
    | some actorId => if actorId = [] then s else writeAdminLog s (exportLog s ctx actorId rows.length)
  let lines := [44].intercalate depositHeader ::
    rows.map fun row => [44].intercalate ((depositCells row).map Deposits.csvCell)
  ([10].intercalate lines, s')

/-! ## Reading -/

def readCsv (text : Units) : Option (List (List Units)) := Csv.readFile dialect text

/-- What both exports are to contain. -/
def ExportsComplete (s : Store) : Prop :=
  (∀ input, readCsv (exportAuditCsv contains s input) =
    some (auditHeader :: (matchingLogs contains s input).map auditCells)) ∧
  ∀ input ctx, readCsv (adminExportDepositsCsv contains s input ctx).1 =
    some (depositHeader :: (matchingDeposits contains s input).map depositCells)

/-- A text with a carriage return is one that is quoted. -/
def Readable (text : Units) : Prop := 13 ∈ text → text.any isSpecial

instance (text : Units) : Decidable (Readable text) := inferInstanceAs (Decidable (_ → _))

/-- The texts of a row, other than numbers, dates and states. -/
def auditTexts (log : AdminLog) : List Units :=
  [log.adminEmail.getD [], log.adminId, log.action, log.targetType.getD [], log.targetId.getD [], log.ip.getD []]

def depositTexts (row : InrTransaction) : List Units :=
  [row.id, row.userEmail, row.utr.getD [], row.method.getD [], row.firstApprovedBy.getD [], row.reviewedBy.getD []]

end

/-! ## Texts without carriage returns -/

/-- Nothing printed by the language has a carriage return. -/
def Printed (text : Units) : Prop := ∀ unit ∈ text, unit ≠ 13

theorem Printed.append (left : Printed text) (right : Printed other) : Printed (text ++ other) :=
  List.forall_mem_append.mpr ⟨left, right⟩

theorem Printed.intercalate {texts : List Units} (separator : Printed sep) (printed : ∀ text ∈ texts, Printed text) :
    Printed (sep.intercalate texts) := by
  induction texts with
  | nil => exact List.forall_mem_nil _
  | cons first rest ih =>
    obtain ⟨isFirst, later⟩ := List.forall_mem_cons.mp printed
    cases rest with
    | nil => simpa only [List.intercalate_singleton] using isFirst
    | cons second rest =>
      rw [List.intercalate_cons_cons]
      exact (isFirst.append separator).append (ih later)

theorem units_printed (text : String) (plain : (units text).all fun unit => unit ≠ 13) : Printed (units text) := by
  simpa [Printed] using plain

theorem Numeral.printed (value : Numeral) : Printed value.text := by
  intro unit member
  exact units_printed "0123456789+-.e" (by decide +kernel) unit (value.plain unit member)

theorem numeral_printed (n : ℕ) : Printed (numeral n) := (Numeral.ofNat n).printed

theorem padded_printed (width n : ℕ) : Printed (Evidence.padded width n) := by
  induction width generalizing n with
  | zero => exact List.forall_mem_nil _
  | succ width ih => exact (ih _).append (numeral_printed _)

theorem digits_printed (value : ℤ) : Printed (Evidence.digits value) := by
  refine Printed.append ?_ (numeral_printed _)
  split
  · exact units_printed "-" (by decide +kernel)
  · exact List.forall_mem_nil _

theorem toISOString_printed (time : ℤ) : Printed (Evidence.toISOString time) := by
  have dash := units_printed "-" (by decide +kernel)
  have colon := units_printed ":" (by decide +kernel)
  have years : ∀ year : ℤ, Printed (if 0 ≤ year ∧ year ≤ 9999 then Evidence.padded 4 year.toNat
      else units (if year < 0 then "-" else "+") ++ Evidence.padded 6 year.natAbs) := by
    intro year
    split
    · exact padded_printed _ _
    · refine Printed.append ?_ (padded_printed _ _)
      split
      · exact dash
      · exact units_printed "+" (by decide +kernel)
  refine Printed.append ?_ (units_printed "Z" (by decide +kernel))
  refine Printed.append ?_ (padded_printed _ _)
  refine Printed.append ?_ (units_printed "." (by decide +kernel))
  refine Printed.append (Printed.append ?_ colon) (padded_printed _ _)
  refine Printed.append (Printed.append ?_ colon) (padded_printed _ _)
  refine Printed.append (Printed.append ?_ (units_printed "T" (by decide +kernel))) (padded_printed _ _)
  refine Printed.append (Printed.append ?_ dash) (padded_printed _ _)
  exact ((years _).append dash).append (padded_printed _ _)

theorem toFixed2_printed (amount : Decimal) : Printed (toFixed2 amount) := by
  refine Printed.append (Printed.append (Printed.append ?_ (numeral_printed _)) ?_) (padded_printed _ _)
  · split
    · exact units_printed "-" (by decide +kernel)
    · exact List.forall_mem_nil _
  · exact units_printed "." (by decide +kernel)

theorem hexDigit_ne (small : n < 16) : hexDigit n ≠ 13 := by
  interval_cases n <;> decide +kernel

theorem unicodeEscape_printed (unit : CodeUnit) : Printed (unicodeEscape unit) := by
  have bound := unit.isLt
  intro digit member
  simp only [unicodeEscape, List.mem_cons, List.not_mem_nil, or_false] at member
  rcases member with rfl | rfl | rfl | rfl | rfl | rfl
  · decide
  · decide
  · exact hexDigit_ne (by omega)
  · exact hexDigit_ne (by omega)
  · exact hexDigit_ne (by omega)
  · exact hexDigit_ne (by omega)

/-- The carriage return is among what is escaped. -/
theorem escaped_printed (unit : CodeUnit) : Printed (escaped unit) := by
  unfold escaped
  split
  · exact units_printed _ (by decide +kernel)
  split
  · exact units_printed _ (by decide +kernel)
  split
  · exact units_printed _ (by decide +kernel)
  split
  · exact units_printed _ (by decide +kernel)
  split
  · exact units_printed _ (by decide +kernel)
  split
  · simp [Printed]
  split
  · simp [Printed]
  split
  · exact unicodeEscape_printed unit
  · simpa [Printed] using ‹¬unit = 13›

theorem escapedUnits_printed (text : Units) : Printed (escapedUnits text) := by
  induction text using escapedUnits.induct with
  | case1 => exact List.forall_mem_nil _
  | case2 unit => exact escaped_printed unit
  | case3 unit next rest pair ih =>
    rw [escapedUnits, if_pos pair]
    rw [Bool.and_eq_true, isHighSurrogate, isLowSurrogate, decide_eq_true_eq, decide_eq_true_eq] at pair
    refine List.forall_mem_cons.mpr ⟨?_, List.forall_mem_cons.mpr ⟨?_, ih⟩⟩
    · rintro rfl
      exact absurd pair.1.1 (by decide)
    · rintro rfl
      exact absurd pair.2.1 (by decide)
  | case4 unit next rest noPair ih =>
    rw [escapedUnits, if_neg noPair]
    exact (escaped_printed unit).append ih

theorem quoteString_printed (text : Units) : Printed (quoteString text) := by
  have quote : Printed [34] := by simp [Printed]
  exact (quote.append (escapedUnits_printed text)).append quote

mutual

theorem stringify_printed (value : State) : Printed (stringify value) := by
  have comma : Printed [44] := by simp [Printed]
  cases value with
  | null => exact units_printed "null" (by decide +kernel)
  | boolean value => cases value <;> exact units_printed _ (by decide +kernel)
  | number value => exact value.printed
  | string text => exact quoteString_printed text
  | array items =>
    refine Printed.append (Printed.append ?_ (comma.intercalate (stringifyItems_printed items))) ?_
    · exact units_printed "[" (by decide +kernel)
    · exact units_printed "]" (by decide +kernel)
  | object entries =>
    refine Printed.append (Printed.append ?_ (comma.intercalate (stringifyEntries_printed entries))) ?_
    · simp [Printed]
    · simp [Printed]

theorem stringifyItems_printed (items : List State) : ∀ text ∈ stringifyItems items, Printed text := by
  cases items with
  | nil => exact List.forall_mem_nil _
  | cons item rest => exact List.forall_mem_cons.mpr ⟨stringify_printed item, stringifyItems_printed rest⟩

theorem stringifyEntries_printed (entries : List (Units × State)) : ∀ text ∈ stringifyEntries entries, Printed text := by
  cases entries with
  | nil => exact List.forall_mem_nil _
  | cons entry rest =>
    obtain ⟨key, item⟩ := entry
    refine List.forall_mem_cons.mpr ⟨?_, stringifyEntries_printed rest⟩
    refine Printed.append (Printed.append (quoteString_printed key) ?_) (stringify_printed item)
    exact units_printed ":" (by decide +kernel)

end

/-! ## Both exports -/

theorem Printed.readable (printed : Printed text) : Readable text := fun member => absurd rfl (printed 13 member)

theorem Readable.legible (readable : Readable text) : Csv.Legible dialect isSpecial text := by
  by_cases isQuoted : text.any isSpecial = true
  · exact .inl isQuoted
  · refine .inr fun unit member => ?_
    have plain : ¬isSpecial unit = true := fun special => isQuoted (List.any_eq_true.mpr ⟨unit, member, special⟩)
    simp only [isSpecial, Bool.or_eq_true, decide_eq_true_eq, not_or] at plain
    refine ⟨plain.1.2, plain.1.1, ?_, plain.2⟩
    rintro rfl
    exact isQuoted (readable member)

theorem stateCell_printed (state : Option State) : Printed (stateCell state) := by
  cases state with
  | none => exact List.forall_mem_nil _
  | some state =>
    rw [stateCell]
    split
    · exact stringify_printed state
    · exact List.forall_mem_nil _

theorem auditCells_legible {log : AdminLog} (readable : ∀ text ∈ auditTexts log, Readable text) :
    ∀ cell ∈ auditCells log, Csv.Legible dialect isSpecial cell := by
  simp only [auditTexts, List.forall_mem_cons] at readable
  obtain ⟨email, adminId, action, targetType, targetId, ip, -⟩ := readable
  simp only [auditCells, List.forall_mem_cons]
  exact ⟨(digits_printed _).readable.legible, (toISOString_printed _).readable.legible, email.legible, adminId.legible,
    action.legible, targetType.legible, targetId.legible, ip.legible, (stateCell_printed _).readable.legible,
    (stateCell_printed _).readable.legible, List.forall_mem_nil _⟩

theorem depositCells_legible {row : InrTransaction} (readable : ∀ text ∈ depositTexts row, Readable text) :
    ∀ cell ∈ depositCells row, Csv.Legible dialect isSpecial cell := by
  simp only [depositTexts, List.forall_mem_cons] at readable
  obtain ⟨id, email, utr, method, firstApprovedBy, reviewedBy, -⟩ := readable
  have status : Printed row.status.text := by
    cases row.status <;> exact units_printed _ (by decide +kernel)
  have reviewedAt : Printed ((row.reviewedAt.map Evidence.toISOString).getD []) := by
    cases row.reviewedAt with
    | none => exact List.forall_mem_nil _
    | some time => exact toISOString_printed time
  simp only [depositCells, List.forall_mem_cons]
  exact ⟨id.legible, email.legible, (toFixed2_printed _).readable.legible, utr.legible, method.legible,
    status.readable.legible, firstApprovedBy.legible, reviewedBy.legible, reviewedAt.readable.legible,
    (toISOString_printed _).readable.legible, List.forall_mem_nil _⟩

/-- A header, whose cells are not quoted, and lines of cells that are, where
needed. -/
theorem readCsv_lines (header : List Units) (plain : header.map (Csv.cell dialect isSpecial) = header)
    (isWide : 2 ≤ header.length) (isLegible : ∀ cell ∈ header, Readable cell) (rows : List (List Units))
    (wide : ∀ cells ∈ rows, 2 ≤ cells.length) (legible : ∀ cells ∈ rows, ∀ cell ∈ cells, Csv.Legible dialect isSpecial cell) :
    readCsv ([10].intercalate ([44].intercalate header ::
      rows.map fun cells => [44].intercalate (cells.map (Csv.cell dialect isSpecial)))) = some (header :: rows) := by
  have written : [10].intercalate ([44].intercalate header ::
      rows.map fun cells => [44].intercalate (cells.map (Csv.cell dialect isSpecial))) =
      Csv.writeFile dialect isSpecial (header :: rows) := by
    rw [Csv.writeFile, List.map_cons, Csv.writeRecord, plain]
    rfl
  rw [written, readCsv]
  exact Csv.read_writeFile _ (List.forall_mem_cons.mpr ⟨isWide, wide⟩)
    (List.forall_mem_cons.mpr ⟨fun cell member => (isLegible cell member).legible, legible⟩)

section
variable {contains : Units → Units → Bool} {s : Store}

theorem mem_exportAuditLogs (member : log ∈ exportAuditLogs contains s input) : log ∈ s.adminLogs := by
  have isMatch := List.mem_of_mem_take member
  rw [matchingLogs, List.mem_mergeSort] at isMatch
  exact (List.mem_filter.mp isMatch).1

theorem mem_adminExportDeposits (member : row ∈ adminExportDeposits contains s input) : row ∈ s.inrTransactions := by
  have isMatch := List.mem_of_mem_take member
  rw [matchingDeposits, List.mem_mergeSort] at isMatch
  exact (List.mem_filter.mp isMatch).1

theorem readCsv_audit (readable : ∀ log ∈ s.adminLogs, ∀ text ∈ auditTexts log, Readable text) (input : AuditFilter) :
    readCsv (exportAuditCsv contains s input) =
      some (auditHeader :: ((matchingLogs contains s input).take cap).map auditCells) := by
  have lines := readCsv_lines auditHeader (by decide +kernel) (by decide) (by decide +kernel)
    ((exportAuditLogs contains s input).map auditCells) ?_ ?_
  · rw [List.map_map] at lines
    exact lines
  · intro cells member
    obtain ⟨log, -, rfl⟩ := List.mem_map.mp member
    exact Nat.le_add_left 2 8
  · intro cells member
    obtain ⟨log, isLog, rfl⟩ := List.mem_map.mp member
    exact auditCells_legible (readable log (mem_exportAuditLogs isLog))

theorem readCsv_deposits (readable : ∀ row ∈ s.inrTransactions, ∀ text ∈ depositTexts row, Readable text)
    (input : AdminDepositFilter) (ctx : DepositContext) :
    readCsv (adminExportDepositsCsv contains s input ctx).1 =
      some (depositHeader :: ((matchingDeposits contains s input).take cap).map depositCells) := by
  have lines := readCsv_lines depositHeader (by decide +kernel) (by decide) (by decide +kernel)
    ((adminExportDeposits contains s input).map depositCells) ?_ ?_
  · rw [List.map_map] at lines
    exact lines
  · intro cells member
    obtain ⟨row, -, rfl⟩ := List.mem_map.mp member
    exact Nat.le_add_left 2 8
  · intro cells member
    obtain ⟨row, isRow, rfl⟩ := List.mem_map.mp member
    exact depositCells_legible (readable row (mem_adminExportDeposits isRow))

end

/-- Read back, an export is its header and the newest 5000 of the rows that
match, if every text with a carriage return is one that is quoted. -/
theorem exports_read_back (contains : Units → Units → Bool) (s : Store)
    (audit : ∀ log ∈ s.adminLogs, ∀ text ∈ auditTexts log, Readable text)
    (deposits : ∀ row ∈ s.inrTransactions, ∀ text ∈ depositTexts row, Readable text) :
    (∀ input, readCsv (exportAuditCsv contains s input) =
      some (auditHeader :: ((matchingLogs contains s input).take cap).map auditCells)) ∧
    ∀ input ctx, readCsv (adminExportDepositsCsv contains s input ctx).1 =
      some (depositHeader :: ((matchingDeposits contains s input).take cap).map depositCells) :=
  ⟨readCsv_audit audit, readCsv_deposits deposits⟩

def logOf (id : ℕ) (targetId : Units) : AdminLog where
  id := id
  adminId := units "1f0c"
  adminEmail := some (units "ops@exchange.test")
  action := units "kyc.approve"
  targetType := some (units "user")
  targetId := some targetId
  beforeState := none
  afterState := some (.object [(units "tier", .number (Numeral.ofNat 1))])
  ip := none
  occurredAt := 1782086400000

def depositOf (utr : Units) : InrTransaction where
  id := units "7a"
  userId := units "2b"
  userEmail := units "user@exchange.test"
  type := .deposit
  amount := 1500
  status := .pending
  provider := some (units "MANUAL")
  utr := some utr
  method := some (units "UPI")
  firstApprovedBy := none
  reviewedBy := none
  reviewedAt := none
  createdAt := 1782086400000

/-- Texts with a comma, a quote and line breaks. -/
def quotedStore : Store where
  adminLogs := [logOf 1 (units "a,\"b\"\r\n")]
  inrTransactions := [depositOf (units "UTR\r\n1,2")]
  nextLogId := 2
  emailOf _ := none

theorem quotedStore_read_back : (∀ input, readCsv (exportAuditCsv (fun _ _ => true) quotedStore input) =
      some (auditHeader :: ((matchingLogs (fun _ _ => true) quotedStore input).take cap).map auditCells)) ∧
    ∀ input ctx, readCsv (adminExportDepositsCsv (fun _ _ => true) quotedStore input ctx).1 =
      some (depositHeader :: ((matchingDeposits (fun _ _ => true) quotedStore input).take cap).map depositCells) :=
  exports_read_back (fun _ _ => true) quotedStore (by decide +kernel) (by decide +kernel)

def logs (count : ℕ) : List AdminLog := (List.range count).map fun id => logOf id (units "2b")

theorem logs_readable (member : log ∈ logs count) : ∀ text ∈ auditTexts log, Readable text := by
  obtain ⟨id, -, rfl⟩ := List.mem_map.mp member
  have texts : auditTexts (logOf id (units "2b")) = auditTexts (logOf 0 (units "2b")) := by
    simp only [auditTexts, logOf]
  rw [texts]
  decide +kernel

theorem logs_length (count : ℕ) : (logs count).length = count := by
  rw [logs, List.length_map, List.length_range]

/-- One entry more than is exported. -/
def busyStore : Store where
  adminLogs := logs 5001
  inrTransactions := []
  nextLogId := 5001
  emailOf _ := none

theorem oldest_entry_left_out : ¬ExportsComplete (fun _ _ => true) busyStore := by
  intro complete
  have all : (matchingLogs (fun _ _ => true) busyStore {}).length = 5001 := by
    have every : ∀ log ∈ busyStore.adminLogs, buildAuditWhere (fun _ _ => true) {} log = true := fun log _ => rfl
    rw [matchingLogs, List.length_mergeSort, List.filter_eq_self.mpr every, busyStore, logs_length]
  have same := (complete.1 {}).symm.trans (readCsv_audit (fun _ => logs_readable) {})
  have counted := congrArg (fun records => (records.map List.length).getD 0) same
  simp only [Option.map_some, Option.getD_some, List.length_cons, List.length_map, List.length_take, all, cap] at counted
  omega

end Exchange.CsvExports
