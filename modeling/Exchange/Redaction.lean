import Mathlib.Data.List.Nodup
import Mathlib.Tactic

/-! The redaction of values on their way to a log. Arrays and objects have an
identity besides their contents: one of them may stand in several places of a
value, and the set of those seen is kept by identity. -/
namespace Exchange.Redaction

/-! ## Values -/

inductive Value (α : Type) where
  | null
  | undefined
  | boolean (value : Bool)
  | number (value : ℚ)
  | string (text : String)
  | date (time : ℤ)
  | buffer (bytes : List UInt8)
  | array (address : α) (items : List (Value α))
  | object (address : α) (entries : List (String × Value α))
  deriving Repr

/-- Induction over a value and what stands in its arrays and objects. -/
@[elab_as_elim]
theorem Value.induction {motive : Value α → Prop} (null : motive .null) (undefined : motive .undefined)
    (boolean : ∀ value, motive (.boolean value)) (number : ∀ value, motive (.number value))
    (string : ∀ text, motive (.string text)) (date : ∀ time, motive (.date time))
    (buffer : ∀ bytes, motive (.buffer bytes))
    (array : ∀ address items, (∀ item ∈ items, motive item) → motive (.array address items))
    (object : ∀ address entries, (∀ entry ∈ entries, motive entry.2) → motive (.object address entries))
    (value : Value α) : motive value :=
  @Value.rec α motive (fun items => ∀ item ∈ items, motive item)
    (fun entries => ∀ entry ∈ entries, motive entry.2) (fun entry => motive entry.2)
    null undefined boolean number string date buffer array object nofun
    (fun _ _ first rest => List.forall_mem_cons.mpr ⟨first, rest⟩) nofun
    (fun _ _ first rest => List.forall_mem_cons.mpr ⟨first, rest⟩) (fun _ _ item => item) value

theorem Value.sizeOf_item {items : List (Value α)} (member : item ∈ items) {address : α} :
    sizeOf item < sizeOf (Value.array address items) := by
  have := List.sizeOf_lt_of_mem member
  simp only [Value.array.sizeOf_spec]
  omega

theorem Value.sizeOf_entry {entries : List (String × Value α)} (member : entry ∈ entries) {address : α} :
    sizeOf entry.2 < sizeOf (Value.object address entries) := by
  obtain ⟨key, item⟩ := entry
  have := List.sizeOf_lt_of_mem member
  simp only [Prod.mk.sizeOf_spec] at this
  simp only [Value.object.sizeOf_spec]
  omega

/-! ## Sensitive keys -/

/-- What a key may contain: one word, or two with at most one character between. -/
inductive Words where
  | one (word : String)
  | two (first second : String)
  deriving DecidableEq, Repr

def SECRET_KEY_PATTERN : List Words :=
  [.one "authorization", .one "cookie", .one "password", .one "passcode", .one "passphrase", .one "secret",
    .one "credential", .one "token", .one "otp", .one "totp", .one "mnemonic", .two "private" "key",
    .two "database" "url", .two "redis" "url", .two "connection" "string", .two "access" "key",
    .two "api" "key", .one "key_secret", .one "webhook_secret"]

/-- `.` takes one code unit that ends no line. -/
def isAnyUnit (c : Char) : Bool :=
  c.toNat < 0x10000 && c ≠ '\n' && c ≠ '\r' && c.toNat ≠ 0x2028 && c.toNat ≠ 0x2029

/-- The words stand at the start of the text. -/
def Words.starts (text : List Char) : Words → Bool
  | .one word => word.toList.isPrefixOf text
  | .two first second =>
    first.toList.isPrefixOf text &&
      (second.toList.isPrefixOf (text.drop first.length) ||
        match text.drop first.length with
        | between :: rest => isAnyUnit between && second.toList.isPrefixOf rest
        | [] => false)

/-- Case-insensitive substring match against a key. -/
def isSensitiveKey (key : String) : Bool :=
  (key.toList.map Char.toLower).tails.any fun text => SECRET_KEY_PATTERN.any (Words.starts text)

/-! ## The redaction -/

def REDACTED : String := "[REDACTED]"

/-- Assigning `__proto__` sets the prototype of the object and adds no entry.
The keys of an object are distinct, so no other assignment overwrites one. -/
def assign (key : String) (item : Value α) (out : List (String × Value α)) : List (String × Value α) :=
  if key = "__proto__" then out else (key, item) :: out

section
variable [DecidableEq α]

mutual

/-- The copy of an array or an object goes by the identity of the original:
there is at most one. -/
def redactSensitive (value : Value α) (seen : List α) : Value α × List α :=
  match value with
  | .null => (.null, seen)
  | .undefined => (.undefined, seen)
  | .boolean value => (.boolean value, seen)
  | .number value => (.number value, seen)
  | .string text => (.string text, seen)
  | .date time => (.date time, seen)
  | .buffer _ => (.string REDACTED, seen)
  | .array address items =>
    if address ∈ seen then (.string "[Circular]", seen)
    else
      let (items, seen) := redactItems items (address :: seen)
      (.array address items, seen)
  | .object address entries =>
    if address ∈ seen then (.string "[Circular]", seen)
    else
      let (out, seen) := redactEntries entries (address :: seen)
      (.object address out, seen)

def redactItems (items : List (Value α)) (seen : List α) : List (Value α) × List α :=
  match items with
  | [] => ([], seen)
  | item :: rest =>
    let (item, seen) := redactSensitive item seen
    let (rest, seen) := redactItems rest seen
    (item :: rest, seen)

def redactEntries (entries : List (String × Value α)) (seen : List α) : List (String × Value α) × List α :=
  match entries with
  | [] => ([], seen)
  | (key, item) :: rest =>
    let (item, seen) := if isSensitiveKey key then (.string REDACTED, seen) else redactSensitive item seen
    let (out, seen) := redactEntries rest seen
    (assign key item out, seen)

end

/-- The value that is logged. -/
def redacted (value : Value α) : Value α := (redactSensitive value []).1

end

/-! ## What is asked of it -/

/-- The value with what stands under a sensitive key redacted, and all else kept. -/
def mask : Value α → Value α
  | .array address items => .array address (items.map mask)
  | .object address entries =>
    .object address (entries.map fun entry =>
      (entry.1, if isSensitiveKey entry.1 then .string REDACTED else mask entry.2))
  | value => value
decreasing_by
  · exact Value.sizeOf_item ‹_›
  · exact Value.sizeOf_entry ‹_›

/-- The arrays and objects in the places the redaction comes to, in their order. -/
def visited : Value α → List α
  | .array address items => address :: items.flatMap visited
  | .object address entries =>
    address :: entries.flatMap fun entry => if isSensitiveKey entry.1 then [] else visited entry.2
  | _ => []
decreasing_by
  · exact Value.sizeOf_item ‹_›
  · exact Value.sizeOf_entry ‹_›

/-- In these places, no bytes and no key that cannot be assigned. -/
def Plain : Value α → Prop
  | .buffer _ => False
  | .array _ items => ∀ item ∈ items, Plain item
  | .object _ entries => ∀ entry ∈ entries, entry.1 ≠ "__proto__" ∧ (isSensitiveKey entry.1 = false → Plain entry.2)
  | _ => True
decreasing_by
  · exact Value.sizeOf_item ‹_›
  · exact Value.sizeOf_entry ‹_›

/-- `item` is stored under `key` somewhere in the value. -/
inductive Stored (key : String) (item : Value α) : Value α → Prop where
  | here {address entries} : (key, item) ∈ entries → Stored key item (.object address entries)
  | inArray {address items child} : child ∈ items → Stored key item child → Stored key item (.array address items)
  | inObject {address entries entry} : entry ∈ entries → Stored key item entry.2 →
      Stored key item (.object address entries)

/-- No value is left under a sensitive key. -/
def Complete (value : Value α) : Prop :=
  ∀ key item, Stored key item value → isSensitiveKey key = true → item = .string REDACTED

structure Redacts [DecidableEq α] (value : Value α) : Prop where
  complete : Complete (redacted value)
  minimal : redacted value = mask value
  idempotent : redacted (redacted value) = redacted value

/-! ## What redaction does not touch -/

theorem complete_array {items : List (Value α)} :
    Complete (.array address items) ↔ ∀ item ∈ items, Complete item := by
  constructor
  · intro complete item member key secret stored
    exact complete key secret (.inArray member stored)
  · intro each key secret stored
    cases stored with
    | inArray member stored => exact each _ member key secret stored

theorem complete_object {entries : List (String × Value α)} :
    Complete (.object address entries) ↔ ∀ entry ∈ entries,
      (isSensitiveKey entry.1 = true → entry.2 = .string REDACTED) ∧ Complete entry.2 := by
  constructor
  · intro complete entry member
    refine ⟨complete entry.1 entry.2 (.here member), ?_⟩
    intro key secret stored
    exact complete key secret (.inObject member stored)
  · intro each key secret stored
    cases stored with
    | here member => exact (each _ member).1
    | inObject member stored => exact (each _ member).2 key secret stored

/-- Where no secret is left there is nothing to mask. -/
theorem mask_eq_self (value : Value α) (complete : Complete value) : mask value = value := by
  induction value using Value.induction with
  | array address items each =>
    rw [complete_array] at complete
    simp only [mask, Value.array.injEq, true_and]
    exact (List.map_congr_left fun item member => each item member (complete item member)).trans (List.map_id items)
  | object address entries each =>
    rw [complete_object] at complete
    simp only [mask, Value.object.injEq, true_and]
    refine Eq.trans (List.map_congr_left ?_) (List.map_id entries)
    intro entry member
    obtain ⟨hidden, inside⟩ := complete entry member
    cases sensitive : isSensitiveKey entry.1 with
    | true => rw [if_pos rfl, ← hidden sensitive, id]
    | false => rw [if_neg nofun, each entry member inside, id]
  | _ => simp [mask]

theorem visited_mask (value : Value α) : visited (mask value) = visited value := by
  induction value using Value.induction with
  | array address items each =>
    simp only [mask, visited, List.flatMap_map, List.cons.injEq, true_and]
    exact List.flatMap_congr each
  | object address entries each =>
    simp only [mask, visited, List.flatMap_map, List.cons.injEq, true_and]
    refine List.flatMap_congr ?_
    intro entry member
    cases sensitive : isSensitiveKey entry.1 with
    | true => rfl
    | false => exact each entry member
  | _ => simp [mask]

theorem plain_mask (value : Value α) : Plain (mask value) ↔ Plain value := by
  induction value using Value.induction with
  | array address items each =>
    simp only [mask, Plain, List.forall_mem_map]
    exact forall₂_congr each
  | object address entries each =>
    simp only [mask, Plain, List.forall_mem_map]
    refine forall₂_congr ?_
    intro entry member
    cases sensitive : isSensitiveKey entry.1 with
    | true => simp
    | false => simp [each entry member]
  | _ => simp [mask]

/-- What one part of a run does with the set of those seen. -/
structure Visits (before places after : List α) : Prop where
  grows : before ⊆ after
  enters : places ⊆ after
  fresh : ∀ address ∈ places, address ∉ before
  once : places.Nodup

theorem Visits.none (seen : List α) : Visits seen [] seen :=
  ⟨List.Subset.refl seen, List.nil_subset seen, nofun, List.nodup_nil⟩

theorem Visits.forget (visits : Visits before places after) : Visits before [] after :=
  ⟨visits.grows, List.nil_subset after, nofun, List.nodup_nil⟩

theorem Visits.append (first : Visits before places middle) (second : Visits middle others after) :
    Visits before (places ++ others) after := by
  refine ⟨fun _ seen => second.grows (first.grows seen), ?_, ?_, ?_⟩
  · rw [List.append_subset]
    exact ⟨fun _ place => second.grows (first.enters place), second.enters⟩
  · intro address member
    rcases List.mem_append.mp member with place | other
    · exact first.fresh address place
    · exact fun seen => second.fresh address other (first.grows seen)
  · refine List.Nodup.append first.once second.once ?_
    intro address place other
    exact second.fresh address other (first.enters place)

theorem Visits.cons (unseen : address ∉ before) (inside : Visits (address :: before) places after) :
    Visits before (address :: places) after := by
  refine ⟨fun _ seen => inside.grows (List.mem_cons_of_mem _ seen), ?_, ?_, ?_⟩
  · rw [List.cons_subset]
    exact ⟨inside.grows List.mem_cons_self, inside.enters⟩
  · rw [List.forall_mem_cons]
    exact ⟨unseen, fun other place seen => inside.fresh other place (List.mem_cons_of_mem _ seen)⟩
  · exact List.nodup_cons.mpr ⟨fun place => inside.fresh address place List.mem_cons_self, inside.once⟩

/-- What comes later is not met before either. -/
theorem unmet_behind {places others seen : List α} (apart : places.Disjoint others)
    (fresh : ∀ address ∈ others, address ∉ seen) : ∀ address ∈ others, address ∉ places.reverse ++ seen := by
  intro address other
  rw [List.mem_append, List.mem_reverse]
  exact not_or.mpr ⟨fun met => apart met other, fresh address other⟩

theorem unmet_inside {places seen : List α} (apart : address ∉ places) (fresh : ∀ place ∈ places, place ∉ seen) :
    ∀ place ∈ places, place ∉ address :: seen := by
  intro place member
  rw [List.mem_cons]
  exact not_or.mpr ⟨fun same => apart (same ▸ member), fresh place member⟩

/-! ## What redaction leaves -/

section
variable [DecidableEq α]

theorem redactItems_forall {motive : Value α → Prop} {items : List (Value α)}
    (each : ∀ item ∈ items, ∀ seen, motive (redactSensitive item seen).1) (seen : List α) :
    ∀ item ∈ (redactItems items seen).1, motive item := by
  induction items generalizing seen with
  | nil => simp [redactItems]
  | cons item rest others =>
    rw [List.forall_mem_cons] at each
    simp only [redactItems, List.forall_mem_cons]
    exact ⟨each.1 seen, others each.2 _⟩

theorem redactEntries_forall {motive : Value α → Prop} {entries : List (String × Value α)}
    (each : ∀ entry ∈ entries, ∀ seen, motive (redactSensitive entry.2 seen).1) (seen : List α) :
    ∀ entry ∈ (redactEntries entries seen).1, entry.1 ≠ "__proto__" ∧
      if isSensitiveKey entry.1 then entry.2 = .string REDACTED else motive entry.2 := by
  induction entries generalizing seen with
  | nil => simp [redactEntries]
  | cons entry rest others =>
    rw [List.forall_mem_cons] at each
    simp only [redactEntries, assign]
    split
    · exact others each.2 _
    · rename_i assigned
      rw [List.forall_mem_cons]
      refine ⟨⟨assigned, ?_⟩, others each.2 _⟩
      cases sensitive : isSensitiveKey entry.1 with
      | true => rfl
      | false => exact each.1 seen

theorem redactSensitive_complete (value : Value α) :
    ∀ seen : List α, Complete (redactSensitive value seen).1 := by
  induction value using Value.induction with
  | array address items each =>
    intro seen
    rw [redactSensitive]
    split
    · exact nofun
    · exact complete_array.mpr (redactItems_forall each _)
  | object address entries each =>
    intro seen
    rw [redactSensitive]
    split
    · exact nofun
    · rw [complete_object]
      intro entry member
      obtain ⟨-, left⟩ := redactEntries_forall each _ entry member
      cases sensitive : isSensitiveKey entry.1 with
      | true =>
        rw [if_pos sensitive] at left
        exact ⟨fun _ => left, left ▸ nofun⟩
      | false =>
        rw [if_neg (Bool.not_eq_true _ ▸ sensitive)] at left
        exact ⟨nofun, left⟩
  | _ => exact fun _ => nofun

theorem redactSensitive_plain (value : Value α) : ∀ seen : List α, Plain (redactSensitive value seen).1 := by
  induction value using Value.induction with
  | array address items each =>
    intro seen
    rw [redactSensitive]
    split
    · simp [Plain]
    · rw [Plain]
      exact redactItems_forall each _
  | object address entries each =>
    intro seen
    rw [redactSensitive]
    split
    · simp [Plain]
    · rw [Plain]
      intro entry member
      obtain ⟨assigned, left⟩ := redactEntries_forall each _ entry member
      refine ⟨assigned, fun shown => ?_⟩
      rwa [if_neg (Bool.not_eq_true _ ▸ shown)] at left
  | _ => simp [redactSensitive, Plain]

/-- A copy is made of what was not seen before, and once. -/
theorem redactSensitive_visits (value : Value α) :
    ∀ seen : List α, Visits seen (visited (redactSensitive value seen).1) (redactSensitive value seen).2 := by
  induction value using Value.induction with
  | array address items each =>
    intro seen
    rw [redactSensitive]
    split
    · simpa [visited] using Visits.none seen
    · rename_i unseen
      rw [visited]
      refine Visits.cons unseen ?_
      generalize address :: seen = seen
      induction items generalizing seen with
      | nil => exact Visits.none seen
      | cons item rest others =>
        rw [List.forall_mem_cons] at each
        simp only [redactItems, List.flatMap_cons]
        exact (each.1 seen).append (others each.2 _)
  | object address entries each =>
    intro seen
    rw [redactSensitive]
    split
    · simpa [visited] using Visits.none seen
    · rename_i unseen
      rw [visited]
      refine Visits.cons unseen ?_
      generalize address :: seen = seen
      induction entries generalizing seen with
      | nil => exact Visits.none seen
      | cons entry rest others =>
        rw [List.forall_mem_cons] at each
        simp only [redactEntries, assign]
        have rest := others each.2
        split
        · cases sensitive : isSensitiveKey entry.1 with
          | true => exact rest seen
          | false => exact (each.1 seen).forget.append (rest _)
        · rw [List.flatMap_cons]
          cases sensitive : isSensitiveKey entry.1 with
          | true => exact rest seen
          | false => exact (each.1 seen).append (rest _)
  | _ => exact fun seen => by simpa [redactSensitive, visited] using Visits.none seen

theorem redactItems_eq {items : List (Value α)} (once : (items.flatMap visited).Nodup)
    (each : ∀ item ∈ items, (visited item).Nodup → ∀ seen, (∀ address ∈ visited item, address ∉ seen) →
      redactSensitive item seen = (mask item, (visited item).reverse ++ seen)) (seen : List α)
    (fresh : ∀ address ∈ items.flatMap visited, address ∉ seen) :
    redactItems items seen = (items.map mask, (items.flatMap visited).reverse ++ seen) := by
  induction items generalizing seen with
  | nil => simp [redactItems]
  | cons item rest others =>
    rw [List.flatMap_cons] at once fresh
    rw [List.nodup_append'] at once
    rw [List.forall_mem_append] at fresh
    rw [List.forall_mem_cons] at each
    obtain ⟨here, behind, apart⟩ := once
    have later := unmet_behind apart fresh.2
    rw [redactItems, each.1 here seen fresh.1]
    simp only [others behind each.2 _ later, List.map_cons, List.flatMap_cons, List.reverse_append, List.append_assoc]

theorem redactEntries_eq {entries : List (String × Value α)} (assigned : ∀ entry ∈ entries, entry.1 ≠ "__proto__")
    (once : (entries.flatMap fun entry => if isSensitiveKey entry.1 then [] else visited entry.2).Nodup)
    (each : ∀ entry ∈ entries, isSensitiveKey entry.1 = false → (visited entry.2).Nodup →
      ∀ seen, (∀ address ∈ visited entry.2, address ∉ seen) →
        redactSensitive entry.2 seen = (mask entry.2, (visited entry.2).reverse ++ seen)) (seen : List α)
    (fresh : ∀ address ∈ entries.flatMap fun entry => if isSensitiveKey entry.1 then [] else visited entry.2,
      address ∉ seen) :
    redactEntries entries seen =
      (entries.map fun entry => (entry.1, if isSensitiveKey entry.1 then .string REDACTED else mask entry.2),
        (entries.flatMap fun entry => if isSensitiveKey entry.1 then [] else visited entry.2).reverse ++ seen) := by
  induction entries generalizing seen with
  | nil => simp [redactEntries]
  | cons entry rest others =>
    rw [List.flatMap_cons] at once fresh
    rw [List.nodup_append'] at once
    rw [List.forall_mem_append] at fresh
    rw [List.forall_mem_cons] at each assigned
    obtain ⟨here, behind, apart⟩ := once
    have rest := others assigned.2 behind each.2
    cases sensitive : isSensitiveKey entry.1 with
    | true => simp [redactEntries, assign, assigned.1, sensitive, rest seen fresh.2]
    | false =>
      simp only [sensitive, Bool.false_eq_true, if_false] at here apart fresh
      have later := unmet_behind apart fresh.2
      simp [redactEntries, assign, assigned.1, sensitive, each.1 sensitive here seen fresh.1, rest _ later]

/-- Where nothing is met twice, what is logged is what was asked for. -/
theorem redactSensitive_eq (value : Value α) (plain : Plain value) (once : (visited value).Nodup) :
    ∀ seen : List α, (∀ address ∈ visited value, address ∉ seen) →
      redactSensitive value seen = (mask value, (visited value).reverse ++ seen) := by
  induction value using Value.induction with
  | array address items each =>
    intro seen fresh
    rw [Plain] at plain
    rw [visited, List.nodup_cons] at once
    rw [visited, List.forall_mem_cons] at fresh
    have eachPlain := fun item member => each item member (plain item member)
    rw [redactSensitive, if_neg fresh.1, redactItems_eq once.2 eachPlain _ (unmet_inside once.1 fresh.2), mask,
      visited]
    simp
  | object address entries each =>
    intro seen fresh
    rw [Plain] at plain
    rw [visited, List.nodup_cons] at once
    rw [visited, List.forall_mem_cons] at fresh
    have eachPlain := fun entry member shown => each entry member ((plain entry member).2 shown)
    have assigned := fun entry member => (plain entry member).1
    rw [redactSensitive, if_neg fresh.1,
      redactEntries_eq assigned once.2 eachPlain _ (unmet_inside once.1 fresh.2), mask, visited]
    simp
  | buffer bytes => exact absurd plain (by simp [Plain])
  | _ => simp [redactSensitive, mask, visited]

theorem once_of_minimal (value : Value α) (minimal : redacted value = mask value) : (visited value).Nodup := by
  have visits : (visited (redacted value)).Nodup := (redactSensitive_visits value []).once
  rwa [minimal, visited_mask] at visits

theorem plain_of_minimal (value : Value α) (minimal : redacted value = mask value) : Plain value := by
  have plain : Plain (redacted value) := redactSensitive_plain value []
  rwa [minimal, plain_mask] at plain

theorem redacted_eq (value : Value α) (once : (visited value).Nodup) (plain : Plain value) :
    redacted value = mask value :=
  congrArg Prod.fst (redactSensitive_eq value plain once [] fun _ _ => List.not_mem_nil)

/-- What was redacted once is left as it is. -/
theorem redacted_redacted (value : Value α) : redacted (redacted value) = redacted value := by
  have once : (visited (redacted value)).Nodup := (redactSensitive_visits value []).once
  have plain : Plain (redacted value) := redactSensitive_plain value []
  have complete : Complete (redacted value) := redactSensitive_complete value []
  rw [redacted_eq _ once plain, mask_eq_self _ complete]

/-- No secret is left and once more changes nothing; all else is kept exactly
where no array or object is met twice and every entry can be assigned. -/
theorem redacts_iff (value : Value α) : Redacts value ↔ (visited value).Nodup ∧ Plain value := by
  constructor
  · intro redacts
    exact ⟨once_of_minimal value redacts.minimal, plain_of_minimal value redacts.minimal⟩
  · rintro ⟨once, plain⟩
    exact ⟨redactSensitive_complete value [], redacted_eq value once plain, redacted_redacted value⟩

end

/-- One object under two keys, and no cycle. -/
def moved : Value ℕ :=
  .object 0 [("before", .object 1 [("network", .string "TRC20")]),
    ("after", .object 1 [("network", .string "TRC20")])]

theorem moved_not_redacted : ¬∀ value : Value ℕ, Redacts value := by
  intro always
  have once := once_of_minimal moved (always moved).minimal
  have before : isSensitiveKey "before" = false := by decide +kernel
  have after : isSensitiveKey "after" = false := by decide +kernel
  revert once
  simp [moved, visited, before, after]

end Exchange.Redaction
