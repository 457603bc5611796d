import Exchange.OwnProperties

/-! What is written into an evidence pack: the payload without its secrets and
binary values, and a checksum over it that goes by sorted keys. The text of a
JSON document is given as the tree it is the rendering of, with the entries of
an object in the order they are written. -/
namespace Exchange.Evidence
open OwnProperties

/-! ## Values -/

/-- A number is `none` where it is not finite, and a date where it is invalid.
`undefined` stands for a function too. An object of a decimal library carries
the text that its `toJSON` answers, besides its own properties. -/
inductive Value where
  | null
  | undefined
  | boolean (value : Bool)
  | number (value : Option ℚ)
  | string (text : Units)
  | bigint (value : ℤ)
  | date (time : Option ℤ)
  | buffer (bytes : List UInt8)
  | uint8Array (bytes : List UInt8)
  | decimal (text : Units) (fields : List (Units × Value))
  | array (items : List Value)
  | object (entries : List (Units × Value))

/-- Induction over a value and what stands in its arrays and objects. -/
@[elab_as_elim]
theorem Value.induction {motive : Value → Prop} (null : motive .null) (undefined : motive .undefined)
    (boolean : ∀ value, motive (.boolean value)) (number : ∀ value, motive (.number value))
    (string : ∀ text, motive (.string text)) (bigint : ∀ value, motive (.bigint value))
    (date : ∀ time, motive (.date time)) (buffer : ∀ bytes, motive (.buffer bytes))
    (uint8Array : ∀ bytes, motive (.uint8Array bytes))
    (decimal : ∀ text fields, (∀ entry ∈ fields, motive entry.2) → motive (.decimal text fields))
    (array : ∀ items, (∀ item ∈ items, motive item) → motive (.array items))
    (object : ∀ entries, (∀ entry ∈ entries, motive entry.2) → motive (.object entries))
    (value : Value) : motive value :=
  @Value.rec motive (fun entries => ∀ entry ∈ entries, motive entry.2) (fun items => ∀ item ∈ items, motive item)
    (fun entry => motive entry.2)
    null undefined boolean number string bigint date buffer uint8Array decimal array object
    (List.forall_mem_nil _) (fun _ _ first rest => List.forall_mem_cons.mpr ⟨first, rest⟩)
    (List.forall_mem_nil _) (fun _ _ first rest => List.forall_mem_cons.mpr ⟨first, rest⟩)
    (fun _ _ item => item) value

theorem Value.sizeOf_item {items : List Value} (member : item ∈ items) :
    sizeOf item < sizeOf (Value.array items) := by
  have := List.sizeOf_lt_of_mem member
  simp only [Value.array.sizeOf_spec]
  omega

theorem Value.sizeOf_entry {entries : List (Units × Value)} (member : entry ∈ entries) :
    sizeOf entry.2 < sizeOf (Value.object entries) := by
  obtain ⟨key, item⟩ := entry
  have := List.sizeOf_lt_of_mem member
  simp only [Prod.mk.sizeOf_spec] at this
  simp only [Value.object.sizeOf_spec]
  omega

/-- The own properties of each object stand as the language goes through them. -/
def Formed : Value → Prop
  | .array items => ∀ item ∈ items, Formed item
  | .object entries => Enumerated entries ∧ ∀ entry ∈ entries, Formed entry.2
  | _ => True
decreasing_by
  · exact Value.sizeOf_item ‹_›
  · exact Value.sizeOf_entry ‹_›

/-! ## Texts -/

/-- The last `width` digits of a number. -/
def padded (width n : ℕ) : Units :=
  match width with
  | 0 => []
  | width + 1 => padded width (n / 10) ++ numeral (n % 10)

/-- Year, month and day of a count of days from 1970-01-01, in years that begin
with March. -/
def civil (days : ℤ) : ℤ × ℕ × ℕ :=
  let day := days + 719468
  let era := day / 146097
  let dayOfEra := (day % 146097).toNat
  let yearOfEra := (dayOfEra - dayOfEra / 1460 + dayOfEra / 36524 - dayOfEra / 146096) / 365
  let dayOfYear := dayOfEra - (365 * yearOfEra + yearOfEra / 4 - yearOfEra / 100)
  let shifted := (5 * dayOfYear + 2) / 153
  let month := if shifted < 10 then shifted + 3 else shifted - 9
  (yearOfEra + era * 400 + (if month ≤ 2 then 1 else 0), month, dayOfYear - (153 * shifted + 2) / 5 + 1)

/-- Of a time in milliseconds. Years out of four digits have a sign and six. -/
def toISOString (time : ℤ) : Units :=
  let (year, month, day) := civil (time / 86400000)
  let rest := (time % 86400000).toNat
  let years :=
    if 0 ≤ year ∧ year ≤ 9999 then padded 4 year.toNat
    else units (if year < 0 then "-" else "+") ++ padded 6 year.natAbs
  years ++ units "-" ++ padded 2 month ++ units "-" ++ padded 2 day ++ units "T" ++ padded 2 (rest / 3600000) ++
    units ":" ++ padded 2 (rest / 60000 % 60) ++ units ":" ++ padded 2 (rest / 1000 % 60) ++ units "." ++
    padded 3 (rest % 1000) ++ units "Z"

example : toISOString 1782086400000 = units "2026-06-22T00:00:00.000Z" := by decide +kernel

/-- Of a big integer. -/
def digits (value : ℤ) : Units :=
  (if value < 0 then units "-" else []) ++ numeral value.natAbs

/-- `toLowerCase` as far as it ends in ASCII: besides the capitals, the Kelvin
sign and the dotted capital I come to letters of ASCII, and no others. -/
def lowerUnit (unit : CodeUnit) : Units :=
  if 65 ≤ unit.val ∧ unit.val ≤ 90 then [unit + 32]
  else if unit.val = 0x212A then units "k"
  else if unit.val = 0x130 then [Fin.ofNat _ 105, Fin.ofNat _ 0x307]
  else [unit]

/-! ## Stripping -/

def REDACTED : Units := units "[REDACTED]"

def REDACTED_BINARY : Units := units "[REDACTED_BINARY]"

def TRUNCATED : Units := units "[TRUNCATED]"

/-- Substrings (lowercased key match) that must never appear in a pack. -/
def DENY_KEY_SUBSTRINGS : List Units :=
  ["password", "passwordhash", "secret", "totp", "privatekey", "private_key", "mnemonic", "jwt", "apikey",
    "api_key", "credential", "accesstoken", "refreshtoken", "dburl", "databaseurl", "connectionstring", "panenc",
    "aadhaarref", "aadhaarenc", "rawpan", "rawaadhaar"].map units

def isDenied (key : Units) : Bool :=
  DENY_KEY_SUBSTRINGS.any fun denied => denied <:+: key.flatMap lowerUnit

def PROTO : Units := units "__proto__"

/-- `out[key] = item` in a loop over distinct keys, from an empty object. To
assign `__proto__` sets the prototype and adds no property. -/
def assigned (assignments : List (Units × Value)) : List (Units × Value) :=
  build (assignments.filter fun assignment => assignment.1 ≠ PROTO)

mutual

/-- A date that is invalid makes it throw. -/
def stripSecrets (value : Value) (depth : ℕ) : Option Value :=
  if depth > 12 then some (.string TRUNCATED)
  else
    match value with
    | .null => some .null
    | .undefined => some .undefined
    | .buffer _ => some (.string REDACTED_BINARY)
    | .uint8Array _ => some (.string REDACTED_BINARY)
    | .date time => do
      let time ← time
      return .string (toISOString time)
    | .array items => do
      let items ← stripItems items (depth + 1)
      return .array items
    -- an object like any other to `Object.entries`
    | .decimal _ fields => do
      let assignments ← stripEntries fields (depth + 1)
      return .object (assigned assignments)
    | .object entries => do
      let assignments ← stripEntries entries (depth + 1)
      return .object (assigned assignments)
    | .bigint value => some (.string (digits value))
    | .boolean value => some (.boolean value)
    | .number value => some (.number value)
    | .string text => some (.string text)

def stripItems (items : List Value) (depth : ℕ) : Option (List Value) :=
  match items with
  | [] => some []
  | item :: rest => do
    let item ← stripSecrets item depth
    let rest ← stripItems rest depth
    return item :: rest

def stripEntries (entries : List (Units × Value)) (depth : ℕ) : Option (List (Units × Value)) :=
  match entries with
  | [] => some []
  | (key, item) :: rest => do
    let item ← (if isDenied key then some (.string REDACTED) else stripSecrets item depth)
    let rest ← stripEntries rest depth
    return (key, item) :: rest

end

/-! ## JSON -/

inductive Json where
  | null
  | boolean (value : Bool)
  | number (value : ℚ)
  | string (text : Units)
  | array (items : List Json)
  | object (entries : List (Units × Json))

def byteItems (bytes : List UInt8) : List ℚ := bytes.map fun byte => (byte.toNat : ℚ)

/-- The bytes of an array under their places. -/
def byteEntries (bytes : List UInt8) (rendered : ℚ → α) : List (Units × α) :=
  (byteItems bytes).mapIdx fun place byte => (numeral place, rendered byte)

mutual

/-- The form of a value in JSON, if it has one: an entry without is left out. -/
def jsonOf (value : Value) : Option Json :=
  match value with
  | .null => some .null
  | .undefined => none
  | .boolean value => some (.boolean value)
  | .number none => some .null
  | .number (some value) => some (.number value)
  | .string text => some (.string text)
  | .bigint _ => none
  | .date none => some .null
  | .date (some time) => some (.string (toISOString time))
  | .buffer bytes =>
    some (.object [(units "type", .string (units "Buffer")), (units "data", .array ((byteItems bytes).map .number))])
  | .uint8Array bytes => some (.object (byteEntries bytes .number))
  | .decimal text _ => some (.string text)
  | .array items => some (.array (jsonItems items))
  | .object entries => some (.object (jsonEntries entries))

def jsonItems (items : List Value) : List Json :=
  match items with
  | [] => []
  | item :: rest => (jsonOf item).getD .null :: jsonItems rest

def jsonEntries (entries : List (Units × Value)) : List (Units × Json) :=
  match entries with
  | [] => []
  | (key, item) :: rest =>
    match jsonOf item with
    | some item => (key, item) :: jsonEntries rest
    | none => jsonEntries rest

end

mutual

/-- A big integer is among what would be serialised. -/
def hasBigInt (value : Value) : Bool :=
  match value with
  | .bigint _ => true
  | .array items => itemsHaveBigInt items
  | .object entries => entriesHaveBigInt entries
  | _ => false

def itemsHaveBigInt (items : List Value) : Bool :=
  match items with
  | [] => false
  | item :: rest => hasBigInt item || itemsHaveBigInt rest

def entriesHaveBigInt (entries : List (Units × Value)) : Bool :=
  match entries with
  | [] => false
  | (_, item) :: rest => hasBigInt item || entriesHaveBigInt rest

end

inductive TypeError where
  | bigInt
  | notText
  deriving DecidableEq, Repr

/-- `JSON.stringify`: nothing comes of `undefined`. -/
def stringify (value : Value) : Except TypeError (Option Json) :=
  if hasBigInt value then .error .bigInt else .ok (jsonOf value)

mutual

/-- `JSON.parse`, which sets the properties as they come. -/
def parse (text : Json) : Value :=
  match text with
  | .null => .null
  | .boolean value => .boolean value
  | .number value => .number (some value)
  | .string text => .string text
  | .array items => .array (parseItems items)
  | .object entries => .object (build (parseEntries entries))

def parseItems (items : List Json) : List Value :=
  match items with
  | [] => []
  | item :: rest => parse item :: parseItems rest

def parseEntries (entries : List (Units × Json)) : List (Units × Value) :=
  match entries with
  | [] => []
  | (key, item) :: rest => (key, parse item) :: parseEntries rest

end

/-! ## The checksum -/

mutual

/-- The entries are sorted by key and then assigned to a new object, where array
indices come first again. -/
def sortKeys (value : Value) : Value :=
  match value with
  | .array items => .array (sortItems items)
  | .object entries => .object (assigned (sortEntries (sortedItems entries)))
  | .decimal _ fields => .object (assigned (sortEntries (sortedItems fields)))
  | .buffer bytes => .object (assigned (sortEntries (byteEntries bytes fun byte => .number (some byte))))
  | .uint8Array bytes => .object (assigned (sortEntries (byteEntries bytes fun byte => .number (some byte))))
  | value => value

def sortItems (items : List Value) : List Value :=
  match items with
  | [] => []
  | item :: rest => sortKeys item :: sortItems rest

def sortedItems (entries : List (Units × Value)) : List (Units × Value) :=
  match entries with
  | [] => []
  | (key, item) :: rest => (key, sortKeys item) :: sortedItems rest

end

/-- Stable JSON (sorted keys) so checksums are deterministic. -/
def canonicalize (value : Value) : Except TypeError (Option Json) := stringify (sortKeys value)

/-- SHA-256 hex over the canonical form of a value. -/
def checksumOf (sha256 : Json → Units) (value : Value) : Except TypeError Units :=
  match canonicalize value with
  | .error error => .error error
  | .ok none => .error .notText
  | .ok (some text) => .ok (sha256 text)

/-! ## What is asked of them -/

/-- The value with what stands under a denied key and what is binary redacted, big
integers written out, which JSON has no form for, and all else kept. -/
def mask : Value → Value
  | .buffer _ => .string REDACTED_BINARY
  | .uint8Array _ => .string REDACTED_BINARY
  | .bigint value => .string (digits value)
  | .array items => .array (items.map mask)
  | .object entries =>
    .object (entries.map fun entry => (entry.1, if isDenied entry.1 then .string REDACTED else mask entry.2))
  | value => value
decreasing_by
  · exact Value.sizeOf_item ‹_›
  · exact Value.sizeOf_entry ‹_›

/-- No value is left under a denied key, and no binary value anywhere. -/
def Safe : Value → Prop
  | .buffer _ => False
  | .uint8Array _ => False
  | .array items => ∀ item ∈ items, Safe item
  | .object entries => ∀ entry ∈ entries, (isDenied entry.1 = true → entry.2 = .string REDACTED) ∧ Safe entry.2
  | _ => True
decreasing_by
  · exact Value.sizeOf_item ‹_›
  · exact Value.sizeOf_entry ‹_›

/-- The same but for the order in which the properties of objects were set. -/
inductive Reordered : Value → Value → Prop where
  | object {entries others} : entries.Perm others → Enumerated others → Reordered (.object entries) (.object others)
  | item {before item other after} : Reordered item other →
      Reordered (.array (before ++ item :: after)) (.array (before ++ other :: after))
  | entry {before key item other after} : Reordered item other →
      Reordered (.object (before ++ (key, item) :: after)) (.object (before ++ (key, other) :: after))
  | refl {value} : Reordered value value
  | trans {value middle other} : Reordered value middle → Reordered middle other → Reordered value other

/-- A payload of a pack: the trees the language can build. -/
structure Payload where
  value : Value
  formed : Formed value

/-- A pack holds what it was given, without its secrets, and can be verified. -/
structure Sound (sha256 : Json → Units) (payload : Payload) (stripped : Value) : Prop where
  returned : stripSecrets payload.value 0 = some stripped
  safe : Safe stripped
  lossless : stringify stripped = stringify (mask payload.value)
  idempotent : stripSecrets stripped 0 = some stripped
  unordered : ∀ other, Reordered stripped other → checksumOf sha256 other = checksumOf sha256 stripped
  blind : ∀ other : Payload, Reordered payload.value other.value →
    ∃ result, stripSecrets other.value 0 = some result ∧ checksumOf sha256 result = checksumOf sha256 stripped
  readBack : ∀ text, stringify stripped = .ok (some text) →
    checksumOf sha256 (parse text) = checksumOf sha256 stripped

/-- Down to `depth` 12 there is no invalid date and no object of a decimal
library, nor a property named `__proto__` that holds anything; and below, nothing
but the text that stands for what was cut off. Under denied keys anything may be. -/
def Kept (depth : ℕ) (value : Value) : Prop :=
  if depth > 12 then jsonOf (mask value) = some (.string TRUNCATED)
  else
    match value with
    | .date time => time ≠ none
    | .decimal _ _ => False
    | .array items => ∀ item ∈ items, Kept (depth + 1) item
    | .object entries => ∀ entry ∈ entries, isDenied entry.1 = false →
        if entry.1 = PROTO then entry.2 = .undefined else Kept (depth + 1) entry.2
    | _ => True
termination_by sizeOf value
decreasing_by
  · exact Value.sizeOf_item ‹_›
  · exact Value.sizeOf_entry ‹_›

/-! ## What stripping returns -/

theorem exists_of_forall₂_right {related : α → β → Prop} (all : List.Forall₂ related xs ys) (member : y ∈ ys) :
    ∃ x ∈ xs, related x y := by
  induction all with
  | nil => exact absurd member List.not_mem_nil
  | cons head _ each =>
    rcases List.mem_cons.mp member with rfl | member
    · exact ⟨_, List.mem_cons_self, head⟩
    · obtain ⟨x, origin, holds⟩ := each member
      exact ⟨x, List.mem_cons_of_mem _ origin, holds⟩

theorem stripItems_eq_some {items results : List Value} :
    stripItems items depth = some results ↔
      List.Forall₂ (fun item result => stripSecrets item depth = some result) items results := by
  induction items generalizing results with
  | nil => simp [stripItems, eq_comm]
  | cons item rest each =>
    rw [stripItems]
    constructor
    · intro returned
      obtain ⟨first, head, returned⟩ := Option.bind_eq_some_iff.mp returned
      obtain ⟨others, tail, same⟩ := Option.bind_eq_some_iff.mp returned
      cases same
      exact .cons head (each.mp tail)
    · intro related
      cases related with
      | cons head tail => simp [head, each.mpr tail]

/-- The entry that is assigned for another. -/
def StripsTo (depth : ℕ) (entry result : Units × Value) : Prop :=
  result.1 = entry.1 ∧
    if isDenied entry.1 then result.2 = .string REDACTED else stripSecrets entry.2 depth = some result.2

theorem stripEntries_eq_some {entries results : List (Units × Value)} :
    stripEntries entries depth = some results ↔ List.Forall₂ (StripsTo depth) entries results := by
  induction entries generalizing results with
  | nil => simp [stripEntries, eq_comm]
  | cons entry rest each =>
    obtain ⟨key, item⟩ := entry
    rw [stripEntries]
    constructor
    · intro returned
      obtain ⟨first, head, returned⟩ := Option.bind_eq_some_iff.mp returned
      obtain ⟨others, tail, same⟩ := Option.bind_eq_some_iff.mp returned
      cases same
      refine .cons ⟨rfl, ?_⟩ (each.mp tail)
      split_ifs at head ⊢ with denied
      · exact (Option.some.inj head).symm
      · exact head
    · intro related
      cases related with
      | @cons _ result _ others head tail =>
        obtain ⟨name, first⟩ := result
        obtain ⟨same, head⟩ := head
        simp only at same head
        subst same
        split_ifs at head with denied
        · simp [denied, head, each.mpr tail]
        · simp [denied, head, each.mpr tail]

theorem strip_deep (deep : depth > 12) (value : Value) : stripSecrets value depth = some (.string TRUNCATED) := by
  cases value <;> simp [stripSecrets, deep]

theorem strip_array (shallow : ¬depth > 12) : stripSecrets (.array items) depth = some result ↔
    ∃ results, stripItems items (depth + 1) = some results ∧ result = .array results := by
  simp [stripSecrets, shallow, Option.bind_eq_some_iff, @eq_comm _ result]

theorem strip_object (shallow : ¬depth > 12) : stripSecrets (.object entries) depth = some result ↔
    ∃ results, stripEntries entries (depth + 1) = some results ∧ result = .object (assigned results) := by
  simp [stripSecrets, shallow, Option.bind_eq_some_iff, @eq_comm _ result]

theorem strip_decimal (shallow : ¬depth > 12) : stripSecrets (.decimal text fields) depth = some result ↔
    ∃ results, stripEntries fields (depth + 1) = some results ∧ result = .object (assigned results) := by
  simp [stripSecrets, shallow, Option.bind_eq_some_iff, @eq_comm _ result]

/-- What stripping leaves: plain values, with each object's properties in order. -/
def Stripped (depth : ℕ) (value : Value) : Prop :=
  if depth > 12 then value = .string TRUNCATED
  else
    match value with
    | .null => True
    | .undefined => True
    | .boolean _ => True
    | .number _ => True
    | .string _ => True
    | .array items => ∀ item ∈ items, Stripped (depth + 1) item
    | .object entries => Enumerated entries ∧ ∀ entry ∈ entries, entry.1 ≠ PROTO ∧
        if isDenied entry.1 then entry.2 = .string REDACTED else Stripped (depth + 1) entry.2
    | _ => False
termination_by sizeOf value
decreasing_by
  · exact Value.sizeOf_item ‹_›
  · exact Value.sizeOf_entry ‹_›

theorem stripped_deep (deep : depth > 12) (returned : stripSecrets value depth = some result) :
    Stripped depth result := by
  rw [strip_deep deep] at returned
  cases returned
  simp [Stripped, deep]

/-- What a loop assigns comes of the entries it goes through. -/
theorem stripped_assigned {entries results : List (Units × Value)} (shallow : ¬depth > 12)
    (each : ∀ entry ∈ entries, ∀ result, stripSecrets entry.2 (depth + 1) = some result → Stripped (depth + 1) result)
    (related : List.Forall₂ (StripsTo (depth + 1)) entries results) : Stripped depth (.object (assigned results)) := by
  simp only [Stripped, if_neg shallow]
  refine ⟨build_enumerated _, ?_⟩
  intro result member
  obtain ⟨member, proto⟩ := List.mem_filter.mp (mem_build member)
  obtain ⟨entry, origin, same, strips⟩ := exists_of_forall₂_right related member
  refine ⟨of_decide_eq_true proto, ?_⟩
  rw [same]
  split_ifs at strips ⊢ with denied
  · exact strips
  · exact each entry origin _ strips

theorem stripped_of_returned (value : Value) (returned : stripSecrets value depth = some result) :
    Stripped depth result := by
  induction value using Value.induction generalizing depth result with
  | array items each =>
    by_cases deep : depth > 12
    · exact stripped_deep deep returned
    · obtain ⟨results, related, rfl⟩ := (strip_array deep).mp returned
      simp only [Stripped, if_neg deep]
      intro result member
      obtain ⟨item, origin, returned⟩ := exists_of_forall₂_right (stripItems_eq_some.mp related) member
      exact each item origin returned
  | decimal text fields each =>
    by_cases deep : depth > 12
    · exact stripped_deep deep returned
    · obtain ⟨results, related, rfl⟩ := (strip_decimal deep).mp returned
      exact stripped_assigned deep (fun entry member _ => each entry member) (stripEntries_eq_some.mp related)
  | object entries each =>
    by_cases deep : depth > 12
    · exact stripped_deep deep returned
    · obtain ⟨results, related, rfl⟩ := (strip_object deep).mp returned
      exact stripped_assigned deep (fun entry member _ => each entry member) (stripEntries_eq_some.mp related)
  | date time =>
    by_cases deep : depth > 12
    · exact stripped_deep deep returned
    · cases time with
      | none => simp [stripSecrets, deep] at returned
      | some time =>
        simp only [stripSecrets, if_neg deep] at returned
        cases returned
        simp [Stripped, deep]
  | _ =>
    by_cases deep : depth > 12
    · exact stripped_deep deep returned
    · simp only [stripSecrets, if_neg deep] at returned
      cases returned
      simp [Stripped, deep]

theorem assigned_eq_self {entries : List (Units × Value)} (enumerated : Enumerated entries)
    (plain : ∀ entry ∈ entries, entry.1 ≠ PROTO) : assigned entries = entries := by
  rw [assigned, List.filter_eq_self.mpr fun entry member => decide_eq_true (plain entry member),
    build_eq_self enumerated]

/-- What was stripped stays as it is. -/
theorem strip_of_stripped (value : Value) (stripped : Stripped depth value) :
    stripSecrets value depth = some value := by
  induction value using Value.induction generalizing depth with
  | array items each =>
    by_cases deep : depth > 12
    · simp [Stripped, deep] at stripped
    · simp only [Stripped, if_neg deep] at stripped
      refine (strip_array deep).mpr ⟨items, stripItems_eq_some.mpr (List.forall₂_same.mpr ?_), rfl⟩
      exact fun item member => each item member (stripped item member)
  | object entries each =>
    by_cases deep : depth > 12
    · simp [Stripped, deep] at stripped
    · simp only [Stripped, if_neg deep] at stripped
      obtain ⟨enumerated, stripped⟩ := stripped
      refine (strip_object deep).mpr ⟨entries, stripEntries_eq_some.mpr (List.forall₂_same.mpr ?_), ?_⟩
      · intro entry member
        refine ⟨rfl, ?_⟩
        have inside := (stripped entry member).2
        split_ifs at inside ⊢ with denied
        · exact inside
        · exact each entry member inside
      · rw [assigned_eq_self enumerated fun entry member => (stripped entry member).1]
  | _ =>
    by_cases deep : depth > 12
    · simp_all [Stripped, strip_deep]
    · simp_all [Stripped, stripSecrets]

theorem safe_of_stripped (value : Value) (stripped : Stripped depth value) : Safe value := by
  induction value using Value.induction generalizing depth with
  | array items each =>
    by_cases deep : depth > 12
    · simp [Stripped, deep] at stripped
    · simp only [Stripped, if_neg deep] at stripped
      rw [Safe]
      exact fun item member => each item member (stripped item member)
  | object entries each =>
    by_cases deep : depth > 12
    · simp [Stripped, deep] at stripped
    · simp only [Stripped, if_neg deep] at stripped
      rw [Safe]
      intro entry member
      have inside := (stripped.2 entry member).2
      split_ifs at inside with denied
      · refine ⟨fun _ => inside, ?_⟩
        simp [inside, Safe]
      · exact ⟨fun secret => absurd secret denied, each entry member inside⟩
  | _ => by_cases deep : depth > 12 <;> simp_all [Stripped, Safe]

/-! ## Serialising -/

theorem jsonItems_eq (items : List Value) : jsonItems items = items.map fun item => (jsonOf item).getD .null := by
  induction items with
  | nil => rfl
  | cons item rest each => rw [jsonItems, each, List.map_cons]

theorem jsonEntries_eq (entries : List (Units × Value)) : jsonEntries entries = rewriteItems (fun _ => jsonOf) entries := by
  induction entries with
  | nil => rfl
  | cons entry rest each =>
    rw [jsonEntries, rewriteItems, List.filterMap_cons]
    cases form : jsonOf entry.2 <;> simp only [Option.map_none, Option.map_some, each, rewriteItems]

theorem itemsHaveBigInt_eq_false {items : List Value} :
    itemsHaveBigInt items = false ↔ ∀ item ∈ items, hasBigInt item = false := by
  induction items with
  | nil => simp [itemsHaveBigInt]
  | cons item rest each => simp [itemsHaveBigInt, each]

theorem entriesHaveBigInt_eq_false {entries : List (Units × Value)} :
    entriesHaveBigInt entries = false ↔ ∀ entry ∈ entries, hasBigInt entry.2 = false := by
  induction entries with
  | nil => simp [entriesHaveBigInt]
  | cons entry rest each => simp [entriesHaveBigInt, each]

/-- A masked value can be serialised. -/
theorem mask_hasBigInt (value : Value) : hasBigInt (mask value) = false := by
  induction value using Value.induction with
  | array items each =>
    rw [mask, hasBigInt, itemsHaveBigInt_eq_false, List.forall_mem_map]
    exact each
  | object entries each =>
    rw [mask, hasBigInt, entriesHaveBigInt_eq_false, List.forall_mem_map]
    intro entry member
    simp only
    split_ifs
    · rfl
    · exact each entry member
  | _ => simp [mask, hasBigInt]

/-- Nothing but `undefined` has no form. -/
theorem jsonOf_mask_eq_none (value : Value) : jsonOf (mask value) = none ↔ value = .undefined := by
  cases value with
  | number value => cases value <;> simp [mask, jsonOf]
  | date time => cases time <;> simp [mask, jsonOf]
  | _ => simp [mask, jsonOf]

/-- Values of JSON, and `undefined`. -/
def Plain : Value → Prop
  | .null => True
  | .undefined => True
  | .boolean _ => True
  | .number _ => True
  | .string _ => True
  | .array items => ∀ item ∈ items, Plain item
  | .object entries => ∀ entry ∈ entries, Plain entry.2
  | _ => False
decreasing_by
  · exact Value.sizeOf_item ‹_›
  · exact Value.sizeOf_entry ‹_›

theorem plain_of_stripped (value : Value) (stripped : Stripped depth value) : Plain value := by
  induction value using Value.induction generalizing depth with
  | array items each =>
    by_cases deep : depth > 12
    · simp [Stripped, deep] at stripped
    · simp only [Stripped, if_neg deep] at stripped
      rw [Plain]
      exact fun item member => each item member (stripped item member)
  | object entries each =>
    by_cases deep : depth > 12
    · simp [Stripped, deep] at stripped
    · simp only [Stripped, if_neg deep] at stripped
      rw [Plain]
      intro entry member
      have inside := (stripped.2 entry member).2
      split_ifs at inside with denied
      · rw [inside, Plain]
        trivial
      · exact each entry member inside
  | _ => by_cases deep : depth > 12 <;> simp_all [Stripped, Plain]

theorem hasBigInt_of_plain (value : Value) (plain : Plain value) : hasBigInt value = false := by
  induction value using Value.induction with
  | array items each =>
    rw [Plain] at plain
    rw [hasBigInt, itemsHaveBigInt_eq_false]
    exact fun item member => each item member (plain item member)
  | object entries each =>
    rw [Plain] at plain
    rw [hasBigInt, entriesHaveBigInt_eq_false]
    exact fun entry member => each entry member (plain entry member)
  | _ => simp_all [Plain, hasBigInt]

theorem stringify_of_plain (plain : Plain value) : stringify value = .ok (jsonOf value) := by
  rw [stringify, hasBigInt_of_plain value plain, if_neg Bool.false_ne_true]

theorem stringify_mask (value : Value) : stringify (mask value) = .ok (jsonOf (mask value)) := by
  rw [stringify, mask_hasBigInt, if_neg Bool.false_ne_true]

/-! ## Nothing else is lost -/

theorem exists_forall₂_iff {related : α → β → Prop} {xs : List α} :
    (∃ ys, List.Forall₂ related xs ys) ↔ ∀ x ∈ xs, ∃ y, related x y := by
  induction xs with
  | nil => simp
  | cons x rest each =>
    rw [List.forall_mem_cons, ← each]
    constructor
    · rintro ⟨ys, all⟩
      cases all with
      | cons head tail => exact ⟨⟨_, head⟩, ⟨_, tail⟩⟩
    · rintro ⟨⟨y, head⟩, ⟨ys, tail⟩⟩
      exact ⟨y :: ys, .cons head tail⟩

theorem forall₂_and {left right : α → β → Prop} {xs : List α} {ys : List β} :
    List.Forall₂ left xs ys ∧ List.Forall₂ right xs ys ↔ List.Forall₂ (fun x y => left x y ∧ right x y) xs ys := by
  constructor
  · rintro ⟨first, second⟩
    induction first with
    | nil => exact .nil
    | cons head _ each =>
      cases second with
      | cons head' second => exact .cons ⟨head, head'⟩ (each second)
  · intro both
    exact ⟨both.imp fun _ _ holds => holds.1, both.imp fun _ _ holds => holds.2⟩

theorem proto_not_denied : isDenied PROTO = false := by decide +kernel

theorem undefined_of_form (value : Value) (returned : stripSecrets value depth = some result)
    (form : jsonOf result = none) : value = .undefined := by
  by_cases deep : depth > 12
  · rw [strip_deep deep] at returned
    cases returned
    simp [jsonOf] at form
  · cases value with
    | undefined => rfl
    | number value =>
      simp only [stripSecrets, if_neg deep] at returned
      cases returned
      cases value <;> simp [jsonOf] at form
    | date time =>
      cases time with
      | none => simp [stripSecrets, deep] at returned
      | some time =>
        simp only [stripSecrets, if_neg deep] at returned
        cases returned
        simp [jsonOf] at form
    | array items =>
      obtain ⟨results, _, rfl⟩ := (strip_array deep).mp returned
      simp [jsonOf] at form
    | object entries =>
      obtain ⟨results, _, rfl⟩ := (strip_object deep).mp returned
      simp [jsonOf] at form
    | decimal text fields =>
      obtain ⟨results, _, rfl⟩ := (strip_decimal deep).mp returned
      simp [jsonOf] at form
    | _ =>
      simp only [stripSecrets, if_neg deep] at returned
      cases returned
      simp [jsonOf] at form

/-- In an array `undefined` reads as `null`, which no other value comes to. -/
theorem getD_form_eq_iff (value : Value) (returned : stripSecrets value depth = some result) :
    (jsonOf result).getD .null = (jsonOf (mask value)).getD .null ↔ jsonOf result = jsonOf (mask value) := by
  constructor
  · intro same
    by_cases absent : value = .undefined
    · subst absent
      by_cases deep : depth > 12
      · rw [strip_deep deep] at returned
        cases returned
        simp [jsonOf, mask] at same
      · simp only [stripSecrets, if_neg deep] at returned
        cases returned
        simp [mask]
    · obtain ⟨form, isForm⟩ := Option.ne_none_iff_exists'.mp (absent ∘ undefined_of_form value returned)
      obtain ⟨masked, isMasked⟩ := Option.ne_none_iff_exists'.mp (absent ∘ (jsonOf_mask_eq_none value).mp)
      rw [isForm, isMasked] at same ⊢
      exact congrArg some same
  · exact fun same => congrArg (fun form => form.getD Json.null) same

/-- The form of what a loop assigns. -/
theorem jsonEntries_assigned {results : List (Units × Value)} (enumerated : Enumerated results) :
    jsonEntries (assigned results) =
      rewriteItems (fun key item => if key = PROTO then none else jsonOf item) results := by
  rw [jsonEntries_eq, assigned, build_eq_self (enumerated.filter _), rewriteItems, rewriteItems,
    List.filterMap_filter]
  congr 1
  funext entry
  by_cases proto : entry.1 = PROTO <;> simp [proto]

theorem jsonEntries_mask (entries : List (Units × Value)) :
    jsonEntries (entries.map fun entry => (entry.1, if isDenied entry.1 then .string REDACTED else mask entry.2)) =
      rewriteItems (fun key item => jsonOf (if isDenied key then .string REDACTED else mask item)) entries := by
  rw [jsonEntries_eq, rewriteItems, rewriteItems, List.filterMap_map]
  rfl

theorem enumerated_of_same {entries results : List (Units × Value)} (enumerated : Enumerated entries)
    (same : List.Forall₂ (fun a b => b.1 = a.1) entries results) : Enumerated results := by
  refine List.pairwise_map.mp ?_
  rw [map_fst_eq same]
  exact List.pairwise_map.mpr enumerated

/-- An entry is written as it should be just if it is kept. -/
theorem entry_lossless_iff
    (each : (∃ result, stripSecrets item depth = some result ∧ jsonOf result = jsonOf (mask item)) ↔ Kept depth item)
    (returns : item = .undefined → ∃ result, stripSecrets item depth = some result) :
    (∃ result, StripsTo depth (key, item) result ∧
        (if result.1 = PROTO then none else jsonOf result.2) =
          jsonOf (if isDenied key then .string REDACTED else mask item)) ↔
      (isDenied key = false → if key = PROTO then item = .undefined else Kept depth item) := by
  by_cases denied : isDenied key = true
  · have named : key ≠ PROTO := by
      rintro rfl
      rw [proto_not_denied] at denied
      exact Bool.false_ne_true denied
    refine iff_of_true ⟨(key, .string REDACTED), ⟨rfl, ?_⟩, ?_⟩ fun clear => ?_
    · rw [if_pos denied]
    · rw [if_neg named, if_pos denied]
    · rw [denied] at clear
      exact absurd clear.symm Bool.false_ne_true
  · have clear : isDenied key = false := eq_false_of_ne_true denied
    simp only [clear, forall_const, StripsTo, Bool.false_eq_true, if_false]
    by_cases proto : key = PROTO
    · rw [if_pos proto, ← jsonOf_mask_eq_none]
      constructor
      · rintro ⟨result, ⟨same, _⟩, form⟩
        rw [if_pos (same.trans proto)] at form
        exact form.symm
      · intro form
        obtain ⟨result, returned⟩ := returns ((jsonOf_mask_eq_none item).mp form)
        exact ⟨(key, result), ⟨rfl, returned⟩, by rw [if_pos proto, form]⟩
    · rw [if_neg proto, ← each]
      constructor
      · rintro ⟨result, ⟨same, returned⟩, form⟩
        rw [if_neg (same ▸ proto)] at form
        exact ⟨result.2, returned, form⟩
      · rintro ⟨result, returned, form⟩
        exact ⟨(key, result), ⟨rfl, returned⟩, by rw [if_neg proto, form]⟩

theorem returns_of_undefined (undefined : item = .undefined) : ∃ result, stripSecrets item depth = some result := by
  subst undefined
  by_cases deep : depth > 12
  · exact ⟨_, strip_deep deep _⟩
  · exact ⟨.undefined, by simp [stripSecrets, deep]⟩

theorem jsonItems_mask_iff {items results : List Value} :
    jsonItems results = jsonItems (items.map mask) ↔ List.Forall₂
      (fun item result => (jsonOf result).getD .null = (jsonOf (mask item)).getD .null) items results := by
  rw [jsonItems_eq, jsonItems_eq, List.map_map, eq_comm, ← List.forall₂_eq_eq_eq, List.forall₂_map_left_iff,
    List.forall₂_map_right_iff]
  simp only [Function.comp_apply, eq_comm]

/-- A value is returned with its form in JSON just if it is kept. -/
theorem lossless_iff (value : Value) (formed : Formed value) :
    (∃ result, stripSecrets value depth = some result ∧ jsonOf result = jsonOf (mask value)) ↔ Kept depth value := by
  induction value using Value.induction generalizing depth with
  | array items each =>
    by_cases deep : depth > 12
    · simp [strip_deep deep, Kept, deep, jsonOf, eq_comm]
    · rw [Formed] at formed
      have inside : (∃ results, stripItems items (depth + 1) = some results ∧
          jsonItems results = jsonItems (items.map mask)) ↔ ∀ item ∈ items, Kept (depth + 1) item := by
        simp only [stripItems_eq_some, jsonItems_mask_iff, forall₂_and]
        rw [exists_forall₂_iff]
        refine forall₂_congr fun item member => ?_
        rw [← each item member (formed item member)]
        exact exists_congr fun result => and_congr_right (getD_form_eq_iff item)
      rw [Kept, if_neg deep, ← inside]
      simp [strip_array deep, mask, jsonOf]
  | object entries each =>
    by_cases deep : depth > 12
    · simp [strip_deep deep, Kept, deep, jsonOf, eq_comm]
    · rw [Formed] at formed
      obtain ⟨enumerated, formed⟩ := formed
      have inside : (∃ results, stripEntries entries (depth + 1) = some results ∧
          jsonEntries (assigned results) = jsonEntries (entries.map fun entry =>
            (entry.1, if isDenied entry.1 then .string REDACTED else mask entry.2))) ↔
          ∀ entry ∈ entries, isDenied entry.1 = false →
            if entry.1 = PROTO then entry.2 = .undefined else Kept (depth + 1) entry.2 := by
        have entrywise : ∀ results, stripEntries entries (depth + 1) = some results ∧
            jsonEntries (assigned results) = jsonEntries (entries.map fun entry =>
              (entry.1, if isDenied entry.1 then .string REDACTED else mask entry.2)) ↔
            List.Forall₂ (fun entry result => StripsTo (depth + 1) entry result ∧
              (if result.1 = PROTO then none else jsonOf result.2) =
                jsonOf (if isDenied entry.1 then .string REDACTED else mask entry.2)) entries results := by
          intro results
          rw [stripEntries_eq_some, ← forall₂_and]
          refine and_congr_right fun related => ?_
          have same := related.imp fun _ _ strips => strips.1
          rw [jsonEntries_assigned (enumerated_of_same enumerated same), jsonEntries_mask,
            rewriteItems_eq_iff same enumerated.nodup]
        simp only [entrywise]
        rw [exists_forall₂_iff]
        refine forall₂_congr fun entry member => ?_
        exact entry_lossless_iff (each entry member (formed entry member)) returns_of_undefined
      rw [Kept, if_neg deep, ← inside]
      simp [strip_object deep, mask, jsonOf]
  | decimal text fields =>
    by_cases deep : depth > 12
    · simp [strip_deep deep, Kept, deep, jsonOf, eq_comm]
    · rw [Kept, if_neg deep, iff_false]
      rintro ⟨result, returned, form⟩
      obtain ⟨results, _, rfl⟩ := (strip_decimal deep).mp returned
      simp [mask, jsonOf] at form
  | date time =>
    by_cases deep : depth > 12
    · simp [strip_deep deep, Kept, deep, jsonOf, eq_comm]
    · cases time <;> simp [stripSecrets, Kept, deep, mask, jsonOf]
  | number value =>
    by_cases deep : depth > 12
    · simp [strip_deep deep, Kept, deep, jsonOf, eq_comm]
    · cases value <;> simp [stripSecrets, Kept, deep, mask, jsonOf]
  | _ =>
    by_cases deep : depth > 12
    · simp [strip_deep deep, Kept, deep, jsonOf, eq_comm]
    · simp [stripSecrets, Kept, deep, mask, jsonOf]

/-! ## Sorted keys -/

theorem sortedItems_eq (entries : List (Units × Value)) :
    sortedItems entries = entries.map fun entry => (entry.1, sortKeys entry.2) := by
  induction entries with
  | nil => rfl
  | cons entry rest each => rw [sortedItems, each, List.map_cons]

theorem sortItems_eq (items : List Value) : sortItems items = items.map sortKeys := by
  induction items with
  | nil => rfl
  | cons item rest each => rw [sortItems, each, List.map_cons]

theorem parseEntries_eq (entries : List (Units × Json)) :
    parseEntries entries = entries.map fun entry => (entry.1, parse entry.2) := by
  induction entries with
  | nil => rfl
  | cons entry rest each => rw [parseEntries, each, List.map_cons]

theorem parseItems_eq (items : List Json) : parseItems items = items.map parse := by
  induction items with
  | nil => rfl
  | cons item rest each => rw [parseItems, each, List.map_cons]

/-- Assigning by sorted keys forgets the order the entries had. -/
theorem assigned_sortEntries (entries : List (Units × Value)) (plain : ∀ entry ∈ entries, entry.1 ≠ PROTO) :
    assigned (sortEntries entries) = arranged entries := by
  rw [assigned, arranged, List.filter_eq_self.mpr]
  intro entry member
  exact decide_eq_true (plain entry ((sortEntries_perm entries).mem_iff.mp member))

theorem sortKeys_object_of_perm {entries others : List (Units × Value)} (nodup : (entries.map Prod.fst).Nodup)
    (perm : entries.Perm others) : sortKeys (.object entries) = sortKeys (.object others) := by
  simp only [sortKeys, sortedItems_eq]
  rw [sortEntries_eq_of_perm _ (perm.map _)]
  rwa [List.map_map]

theorem nodup_of_perm {entries others : List (Units × Value)} (enumerated : Enumerated others)
    (perm : entries.Perm others) : (entries.map Prod.fst).Nodup :=
  (perm.map Prod.fst).nodup_iff.mpr enumerated.nodup

/-- The order in which properties were set is lost when keys are sorted. -/
theorem sortKeys_reordered (reordered : Reordered value other) : sortKeys value = sortKeys other := by
  induction reordered with
  | object perm enumerated => exact sortKeys_object_of_perm (nodup_of_perm enumerated perm) perm
  | item _ same => simp only [sortKeys, sortItems_eq, List.map_append, List.map_cons, same]
  | entry _ same => simp only [sortKeys, sortedItems_eq, List.map_append, List.map_cons, same]
  | refl => rfl
  | trans _ _ first second => exact first.trans second

theorem checksumOf_reordered (reordered : Reordered value other) :
    checksumOf sha256 value = checksumOf sha256 other := by
  rw [checksumOf, canonicalize, sortKeys_reordered reordered, checksumOf, canonicalize]

/-! ## Payloads in another order -/

theorem forall₂_append_left {related : α → β → Prop} {xs ys : List α}
    (all : List.Forall₂ related (xs ++ ys) zs) :
    ∃ left right, zs = left ++ right ∧ List.Forall₂ related xs left ∧ List.Forall₂ related ys right := by
  induction xs generalizing zs with
  | nil => exact ⟨[], zs, rfl, .nil, all⟩
  | cons x rest each =>
    cases all with
    | cons head tail =>
      obtain ⟨left, right, rfl, first, second⟩ := each tail
      exact ⟨_ :: left, right, rfl, .cons head first, second⟩

theorem sortKeys_assigned (results : List (Units × Value)) : sortKeys (.object (assigned results)) =
    .object (assigned (sortEntries (assigned (results.map fun entry => (entry.1, sortKeys entry.2))))) := by
  have moved : (assigned results).map (fun entry => (entry.1, sortKeys entry.2)) =
      assigned (results.map fun entry => (entry.1, sortKeys entry.2)) := by
    rw [assigned, build_map, assigned, List.filter_map]
    rfl
  rw [sortKeys, sortedItems_eq, moved]

/-- The loop over entries in another order assigns the same but for the order. -/
theorem sortKeys_assigned_of_perm {results others : List (Units × Value)} (nodup : (results.map Prod.fst).Nodup)
    (perm : results.Perm others) :
    sortKeys (.object (assigned results)) = sortKeys (.object (assigned others)) := by
  have filtered := perm.filter fun assignment => assignment.1 ≠ PROTO
  have nodup' : ((results.filter fun assignment => assignment.1 ≠ PROTO).map Prod.fst).Nodup :=
    nodup.sublist (List.filter_sublist.map _)
  refine sortKeys_object_of_perm (build_enumerated _).nodup ?_
  exact (build_perm nodup').trans (filtered.trans (build_perm ((filtered.map _).nodup_iff.mp nodup')).symm)

/-- A payload in another order is stripped to the same, as far as sorted keys go. -/
theorem strip_reordered (reordered : Reordered value other) (returned : stripSecrets value depth = some result) :
    ∃ result', stripSecrets other depth = some result' ∧ sortKeys result' = sortKeys result := by
  by_cases deep : depth > 12
  · rw [strip_deep deep] at returned ⊢
    cases returned
    exact ⟨_, rfl, rfl⟩
  · induction reordered generalizing depth result with
    | @object entries others perm enumerated =>
      obtain ⟨results, related, rfl⟩ := (strip_object deep).mp returned
      obtain ⟨results', related', perm'⟩ := List.perm_comp_forall₂ perm.symm (stripEntries_eq_some.mp related)
      refine ⟨_, (strip_object deep).mpr ⟨results', stripEntries_eq_some.mpr related', rfl⟩, ?_⟩
      refine sortKeys_assigned_of_perm ?_ perm'
      rw [map_fst_eq (related'.imp fun _ _ strips => strips.1)]
      exact enumerated.nodup
    | @item before item other after step same =>
      obtain ⟨results, related, rfl⟩ := (strip_array deep).mp returned
      obtain ⟨left, right, rfl, first, second⟩ := forall₂_append_left (stripItems_eq_some.mp related)
      cases second with
      | @cons _ here _ rest head tail =>
        obtain ⟨here', returned', equal⟩ : ∃ result', stripSecrets other (depth + 1) = some result' ∧
            sortKeys result' = sortKeys here := by
          by_cases deep' : depth + 1 > 12
          · rw [strip_deep deep'] at head ⊢
            cases head
            exact ⟨_, rfl, rfl⟩
          · exact same head deep'
        refine ⟨.array (left ++ here' :: rest), (strip_array deep).mpr ⟨_, stripItems_eq_some.mpr ?_, rfl⟩, ?_⟩
        · exact List.rel_append first (.cons returned' tail)
        · simp only [sortKeys, sortItems_eq, List.map_append, List.map_cons, equal]
    | @entry before key item other after step same =>
      obtain ⟨results, related, rfl⟩ := (strip_object deep).mp returned
      obtain ⟨left, right, rfl, first, second⟩ := forall₂_append_left (stripEntries_eq_some.mp related)
      cases second with
      | @cons _ here _ rest head tail =>
        obtain ⟨here', strips, equal⟩ : ∃ result', StripsTo (depth + 1) (key, other) (key, result') ∧
            sortKeys result' = sortKeys here.2 := by
          obtain ⟨_, head⟩ := head
          simp only [StripsTo, true_and]
          split_ifs at head ⊢ with denied
          · exact ⟨_, rfl, by rw [head]⟩
          · by_cases deep' : depth + 1 > 12
            · rw [strip_deep deep'] at head ⊢
              exact ⟨_, rfl, congrArg sortKeys (Option.some.inj head)⟩
            · exact same head deep'
        refine ⟨.object (assigned (left ++ (key, here') :: rest)),
          (strip_object deep).mpr ⟨_, stripEntries_eq_some.mpr ?_, rfl⟩, ?_⟩
        · exact List.rel_append first (.cons strips tail)
        · simp only [sortKeys_assigned, List.map_append, List.map_cons, equal, head.1]
    | refl => exact ⟨_, returned, rfl⟩
    | trans _ _ one two =>
      obtain ⟨middle, returned, equal⟩ := one returned deep
      obtain ⟨final, returned, equal'⟩ := two returned deep
      exact ⟨final, returned, equal'.trans equal⟩

/-! ## Reading back -/

theorem plain_sortKeys (value : Value) (plain : Plain value) : Plain (sortKeys value) := by
  induction value using Value.induction with
  | array items each =>
    rw [Plain] at plain
    rw [sortKeys, Plain, sortItems_eq, List.forall_mem_map]
    exact fun item member => each item member (plain item member)
  | object entries each =>
    rw [Plain] at plain
    rw [sortKeys, Plain, sortedItems_eq]
    intro result member
    have sorted := (sortEntries_perm _).mem_iff.mp (List.mem_filter.mp (mem_build member)).1
    obtain ⟨entry, origin, rfl⟩ := List.mem_map.mp sorted
    exact each entry origin (plain entry origin)
  | _ => simp_all [Plain, sortKeys]

theorem plain_parse (value : Value) (plain : Plain value) (form : jsonOf value = some text) :
    Plain (parse text) := by
  induction value using Value.induction generalizing text with
  | array items each =>
    rw [Plain] at plain
    simp only [jsonOf, jsonItems_eq, Option.some.injEq] at form
    subst form
    rw [parse, parseItems_eq, Plain, List.forall_mem_map, List.forall_mem_map]
    intro item member
    cases inside : jsonOf item with
    | none => simp [parse, Plain]
    | some text => exact each item member (plain item member) inside
  | object entries each =>
    rw [Plain] at plain
    simp only [jsonOf, jsonEntries_eq, Option.some.injEq] at form
    subst form
    rw [parse, parseEntries_eq, Plain]
    intro result member
    obtain ⟨written, isWritten, rfl⟩ := List.mem_map.mp (mem_build member)
    obtain ⟨entry, origin, rewritten⟩ := List.mem_filterMap.mp isWritten
    obtain ⟨text, inside, rfl⟩ := Option.map_eq_some_iff.mp rewritten
    exact each entry origin (plain entry origin) inside
  | number value =>
    cases value <;> simp only [jsonOf, Option.some.injEq] at form <;> subst form <;> simp [parse, Plain]
  | undefined => simp [jsonOf] at form
  | null | boolean _ | string _ =>
    simp only [jsonOf, Option.some.injEq] at form
    subst form
    simp [parse, Plain]
  | _ => simp [Plain] at plain

theorem undefined_of_plain (plain : Plain value) (form : jsonOf value = none) : value = .undefined := by
  cases value with
  | number value => cases value <;> simp [jsonOf] at form
  | undefined => rfl
  | _ => simp_all [Plain, jsonOf]

theorem jsonOf_sortKeys_object {entries : List (Units × Value)} (nodup : (entries.map Prod.fst).Nodup)
    (plain : ∀ entry ∈ entries, entry.1 ≠ PROTO) : jsonOf (sortKeys (.object entries)) =
      some (.object (arranged (rewriteItems (fun _ item => jsonOf (sortKeys item)) entries))) := by
  have nodup' : ((entries.map fun entry => (entry.1, sortKeys entry.2)).map Prod.fst).Nodup := by rwa [List.map_map]
  have plain' : ∀ entry ∈ entries.map fun entry => (entry.1, sortKeys entry.2), entry.1 ≠ PROTO :=
    List.forall_mem_map.mpr plain
  rw [sortKeys, sortedItems_eq, assigned_sortEntries _ plain', jsonOf, jsonEntries_eq,
    rewriteItems_arranged nodup', rewriteItems, List.filterMap_map]
  rfl

/-- What is read back has the form in JSON that it had, once its keys are sorted. -/
theorem readBack_form (value : Value) (stripped : Stripped depth value) (form : jsonOf value = some text) :
    jsonOf (sortKeys (parse text)) = jsonOf (sortKeys value) := by
  induction value using Value.induction generalizing depth text with
  | array items each =>
    have plain := plain_of_stripped _ stripped
    rw [Plain] at plain
    by_cases deep : depth > 12
    · simp [Stripped, deep] at stripped
    · simp only [Stripped, if_neg deep] at stripped
      simp only [jsonOf, jsonItems_eq, Option.some.injEq] at form
      subst form
      simp only [parse, parseItems_eq, sortKeys, sortItems_eq, jsonOf, jsonItems_eq, List.map_map]
      congr 2
      refine List.map_congr_left fun item member => ?_
      cases inside : jsonOf item with
      | none =>
        have absent := undefined_of_plain (plain item member) inside
        subst absent
        simp [inside, parse, sortKeys, jsonOf]
      | some text =>
        simp only [Function.comp_apply, inside, Option.getD_some, each item member (stripped item member) inside]
  | object entries each =>
    have plain := plain_of_stripped _ stripped
    rw [Plain] at plain
    by_cases deep : depth > 12
    · simp [Stripped, deep] at stripped
    · simp only [Stripped, if_neg deep] at stripped
      obtain ⟨enumerated, stripped⟩ := stripped
      simp only [jsonOf, jsonEntries_eq, Option.some.injEq] at form
      subst form
      have written : Enumerated ((rewriteItems (fun _ => jsonOf) entries).map fun entry => (entry.1, parse entry.2)) :=
        List.pairwise_map.mpr (rewriteItems_pairwise enumerated _)
      have named : ∀ entry ∈ (rewriteItems (fun _ => jsonOf) entries).map fun entry => (entry.1, parse entry.2),
          entry.1 ≠ PROTO := by
        rw [List.forall_mem_map]
        intro entry member
        obtain ⟨origin, origin_mem, same⟩ := List.mem_map.mp (key_of_mem_rewriteItems member)
        exact same ▸ (stripped origin origin_mem).1
      rw [parse, parseEntries_eq, build_eq_self written, jsonOf_sortKeys_object written.nodup named,
        jsonOf_sortKeys_object enumerated.nodup fun entry member => (stripped entry member).1]
      congr 3
      rw [rewriteItems, rewriteItems, rewriteItems, List.filterMap_map, List.filterMap_filterMap]
      refine List.filterMap_congr fun entry member => ?_
      cases inside : jsonOf entry.2 with
      | none =>
        have absent := undefined_of_plain (plain entry member) inside
        simp [absent, sortKeys, jsonOf]
      | some text =>
        have kept := (stripped entry member).2
        split_ifs at kept with denied
        · rw [kept] at inside ⊢
          cases inside
          rfl
        · simp only [Option.map_some, Option.bind_some, Function.comp_apply, each entry member kept inside]
  | number value =>
    cases value <;> simp only [jsonOf, Option.some.injEq] at form <;> subst form <;> simp [parse, sortKeys, jsonOf]
  | undefined => simp [jsonOf] at form
  | null | boolean _ | string _ =>
    simp only [jsonOf, Option.some.injEq] at form
    subst form
    simp [parse, sortKeys]
  | _ => by_cases deep : depth > 12 <;> simp [Stripped, deep] at stripped

theorem checksumOf_plain (plain : Plain value) (same : jsonOf (sortKeys value) = jsonOf (sortKeys other))
    (plain' : Plain other) : checksumOf sha256 value = checksumOf sha256 other := by
  simp only [checksumOf, canonicalize, stringify_of_plain (plain_sortKeys _ plain),
    stringify_of_plain (plain_sortKeys _ plain'), same]

/-! ## Evidence packs -/

theorem kept_of_sound (sound : Sound sha256 payload stripped) : Kept 0 payload.value := by
  have plain := plain_of_stripped _ (stripped_of_returned _ sound.returned)
  have lossless := sound.lossless
  rw [stringify_of_plain plain, stringify_mask] at lossless
  exact (lossless_iff payload.value payload.formed).mp ⟨stripped, sound.returned, Except.ok.inj lossless⟩

/-- A pack is sound just if its payload has nothing in it that the copy changes. -/
theorem evidence_pack_sound_iff (sha256 : Json → Units) (payload : Payload) :
    (∃ stripped, Sound sha256 payload stripped) ↔ Kept 0 payload.value := by
  constructor
  · rintro ⟨stripped, sound⟩
    exact kept_of_sound sound
  · intro kept
    obtain ⟨result, returned, form⟩ := (lossless_iff payload.value payload.formed).mpr kept
    have stripped := stripped_of_returned _ returned
    have plain := plain_of_stripped _ stripped
    refine ⟨result, { returned, safe := safe_of_stripped _ stripped,
                      lossless := ?_, idempotent := strip_of_stripped _ stripped,
                      unordered := ?_, blind := ?_, readBack := ?_ }⟩
    · rw [stringify_of_plain plain, stringify_mask, form]
    · intro other reordered
      exact (checksumOf_reordered reordered).symm
    · intro other reordered
      obtain ⟨result', returned', same⟩ := strip_reordered reordered returned
      refine ⟨result', returned', ?_⟩
      simp only [checksumOf, canonicalize, same]
    · intro text written
      rw [stringify_of_plain plain] at written
      have form := Except.ok.inj written
      exact checksumOf_plain (plain_parse _ plain form) (readBack_form _ stripped form) plain

/-- The amount of a transfer: one half. -/
def transferPayload : Payload where
  value := .object [(units "amount", .decimal (units "0.5")
    [(units "s", .number (some 1)), (units "e", .number (some (-1))),
      (units "d", .array [.number (some 5000000)])])]
  formed := by simp [Formed, Enumerated]

/-- The amount is not in the pack: the fields of the object that held it are. -/
theorem decimal_amount_lost : ¬∃ sha256 : Json → Units, ∃ stripped, Sound sha256 transferPayload stripped := by
  rintro ⟨sha256, stripped, sound⟩
  have kept := kept_of_sound sound
  have allowed : isDenied (units "amount") = false := by decide +kernel
  have named : units "amount" ≠ PROTO := by decide +kernel
  simp [transferPayload, Kept, allowed, named] at kept

end Exchange.Evidence
