import Mathlib.Data.List.Basic
import Mathlib.Tactic.Common

/-! Comma-separated values: a reader that goes through a text once, and what it
makes of records written with some fields quoted. -/
namespace Exchange.Csv

/-- The symbols with a meaning. -/
structure Dialect (σ : Type*) where
  comma : σ
  quote : σ
  cr : σ
  lf : σ
  distinct : [comma, quote, cr, lf].Nodup

theorem Dialect.lf_ne_comma {σ : Type*} {d : Dialect σ} : d.lf ≠ d.comma := by
  have distinct := d.distinct
  simp only [List.nodup_cons, List.mem_cons, not_or] at distinct
  exact Ne.symm distinct.1.2.2.1

theorem Dialect.quote_ne {σ : Type*} {d : Dialect σ} : d.quote ≠ d.comma ∧ d.quote ≠ d.cr ∧ d.quote ≠ d.lf := by
  have distinct := d.distinct
  simp only [List.nodup_cons, List.mem_cons, not_or] at distinct
  exact ⟨Ne.symm distinct.1.1, distinct.2.1.1, distinct.2.1.2.1⟩

/-- Where the reader is. -/
inductive Place where
  | recordStart
  | fieldStart
  | plain
  | quoted
  /-- Behind a quote within a quoted field, which may be one half of a pair. -/
  | closed
  /-- Behind a carriage return, which is one half of a line break. -/
  | returned
  deriving DecidableEq, Repr

section
variable {σ : Type*} [DecidableEq σ] (d : Dialect σ)

/-- The records of a text, from the field and the record begun. A line ends with
a line feed, alone or behind a carriage return; the last line need not. A symbol
with a meaning stands in quoted fields only, where a quote is doubled. -/
def read (place : Place) (field : List σ) (record : List (List σ)) : List σ → Option (List (List (List σ)))
  | [] =>
    match place with
    | .recordStart => some []
    | .quoted => none
    | .returned => none
    | _ => some [record ++ [field]]
  | c :: rest =>
    if place = .quoted then
      if c = d.quote then read .closed field record rest else read .quoted (field ++ [c]) record rest
    else if place = .returned then
      if c = d.lf then (read .recordStart [] [] rest).map fun records => (record ++ [field]) :: records else none
    else if c = d.comma then read .fieldStart [] (record ++ [field]) rest
    else if c = d.lf then (read .recordStart [] [] rest).map fun records => (record ++ [field]) :: records
    else if c = d.cr then read .returned field record rest
    else if c = d.quote then
      if place = .closed then read .quoted (field ++ [c]) record rest
      else if place = .plain then none
      else read .quoted [] record rest
    else if place = .closed then none
    else read .plain (field ++ [c]) record rest

/-- The records of a file. -/
def readFile (text : List σ) : Option (List (List (List σ))) := read d .recordStart [] [] text

/-- With each quote doubled. -/
def doubled (text : List σ) : List σ := text.flatMap fun c => if c = d.quote then [c, c] else [c]

/-- A field, quoted if it has a symbol that asks for it. -/
def cell (special : σ → Bool) (text : List σ) : List σ :=
  if text.any special then d.quote :: (doubled d text ++ [d.quote]) else text

def writeRecord (special : σ → Bool) (fields : List (List σ)) : List σ :=
  [d.comma].intercalate (fields.map (cell d special))

def writeFile (special : σ → Bool) (records : List (List (List σ))) : List σ :=
  [d.lf].intercalate (records.map (writeRecord d special))

/-- No symbol with a meaning goes unquoted. -/
def Legible (special : σ → Bool) (text : List σ) : Prop :=
  text.any special ∨ ∀ c ∈ text, c ≠ d.comma ∧ c ≠ d.quote ∧ c ≠ d.cr ∧ c ≠ d.lf

/-- Where a field may end. -/
def Place.Open (place : Place) : Prop := place ≠ .quoted ∧ place ≠ .returned

variable {d} {place : Place} {special : σ → Bool}

theorem plain_open : Place.plain.Open := ⟨by decide, by decide⟩

theorem closed_open : Place.closed.Open := ⟨by decide, by decide⟩

theorem open_of_start (isStart : place = .recordStart ∨ place = .fieldStart) : place.Open ∧ place ≠ .closed := by
  rcases isStart with rfl | rfl <;> exact ⟨⟨by decide, by decide⟩, by decide⟩

theorem read_comma (isOpen : place.Open) (field rest : List σ) (record : List (List σ)) :
    read d place field record (d.comma :: rest) = read d .fieldStart [] (record ++ [field]) rest := by
  rw [read, if_neg isOpen.1, if_neg isOpen.2, if_pos rfl]

theorem read_lf (isOpen : place.Open) (field rest : List σ) (record : List (List σ)) :
    read d place field record (d.lf :: rest) =
      (read d .recordStart [] [] rest).map fun records => (record ++ [field]) :: records := by
  rw [read, if_neg isOpen.1, if_neg isOpen.2, if_neg Dialect.lf_ne_comma, if_pos rfl]

theorem read_end (isOpen : place.Open) (isField : place ≠ .recordStart) (field : List σ) (record : List (List σ)) :
    read d place field record [] = some [record ++ [field]] := by
  cases place with
  | recordStart => exact absurd rfl isField
  | quoted => exact absurd rfl isOpen.1
  | returned => exact absurd rfl isOpen.2
  | fieldStart => rfl
  | plain => rfl
  | closed => rfl

/-- A symbol without a meaning goes into the field. -/
theorem read_symbol (isOpen : place.Open) (isUnclosed : place ≠ .closed)
    (plain : c ≠ d.comma ∧ c ≠ d.quote ∧ c ≠ d.cr ∧ c ≠ d.lf) (field rest : List σ) (record : List (List σ)) :
    read d place field record (c :: rest) = read d .plain (field ++ [c]) record rest := by
  rw [read, if_neg isOpen.1, if_neg isOpen.2, if_neg plain.1, if_neg plain.2.2.2, if_neg plain.2.2.1,
    if_neg plain.2.1, if_neg isUnclosed]

theorem read_plain (plain : ∀ c ∈ text, c ≠ d.comma ∧ c ≠ d.quote ∧ c ≠ d.cr ∧ c ≠ d.lf) (field rest : List σ)
    (record : List (List σ)) :
    read d .plain field record (text ++ rest) = read d .plain (field ++ text) record rest := by
  induction text generalizing field with
  | nil => rw [List.nil_append, List.append_nil]
  | cons c text ih =>
    obtain ⟨first, later⟩ := List.forall_mem_cons.mp plain
    rw [List.cons_append, read_symbol plain_open (by decide) first, ih later, List.append_assoc, List.singleton_append]

/-- A quote at the start of a field, or behind another, opens. -/
theorem read_quote (isOpen : place.Open) (isOpening : place ≠ .plain) (field rest : List σ) (record : List (List σ)) :
    read d place field record (d.quote :: rest) =
      read d .quoted (if place = .closed then field ++ [d.quote] else []) record rest := by
  rw [read, if_neg isOpen.1, if_neg isOpen.2, if_neg Dialect.quote_ne.1, if_neg Dialect.quote_ne.2.2,
    if_neg Dialect.quote_ne.2.1, if_pos rfl, if_neg isOpening]
  split <;> rfl

/-- A quoted field is read to its last quote. -/
theorem read_doubled (text field rest : List σ) (record : List (List σ)) :
    read d .quoted field record (doubled d text ++ d.quote :: rest) = read d .closed (field ++ text) record rest := by
  induction text generalizing field with
  | nil => rw [doubled, List.flatMap_nil, List.nil_append, List.append_nil, read, if_pos rfl, if_pos rfl]
  | cons c text ih =>
    rw [doubled, List.flatMap_cons, List.append_assoc]
    by_cases isQuote : c = d.quote
    · subst isQuote
      rw [if_pos rfl, List.cons_append, List.cons_append, List.nil_append, read, if_pos rfl, if_pos rfl,
        read_quote closed_open (by decide), if_pos rfl, ← doubled, ih, List.append_assoc, List.singleton_append]
    · rw [if_neg isQuote, List.cons_append, List.nil_append, read, if_pos rfl, if_neg isQuote, ← doubled, ih,
        List.append_assoc, List.singleton_append]

/-- What is read of a field, whatever follows it. -/
theorem read_cell (legible : Legible d special text) (isStart : place = .recordStart ∨ place = .fieldStart)
    (record : List (List σ)) :
    ∃ place' : Place, place'.Open ∧ (place = .fieldStart → place' ≠ .recordStart) ∧
      ∀ rest, read d place [] record (cell d special text ++ rest) = read d place' text record rest := by
  obtain ⟨isOpen, isUnclosed⟩ := open_of_start isStart
  by_cases isSpecial : text.any special = true
  · refine ⟨.closed, closed_open, fun _ => by decide, fun rest => ?_⟩
    have isOpening : place ≠ .plain := by
      rintro rfl
      simp at isStart
    rw [cell, if_pos isSpecial, List.cons_append, List.append_assoc, List.singleton_append,
      read_quote isOpen isOpening, if_neg isUnclosed, read_doubled, List.nil_append]
  · have plain := legible.resolve_left isSpecial
    rw [cell, if_neg isSpecial]
    cases text with
    | nil => exact ⟨place, isOpen, fun isField => by rw [isField]; decide, fun rest => rfl⟩
    | cons c text =>
      obtain ⟨first, later⟩ := List.forall_mem_cons.mp plain
      refine ⟨.plain, plain_open, fun _ => by decide, fun rest => ?_⟩
      rw [List.cons_append, read_symbol isOpen isUnclosed first, List.nil_append, read_plain later,
        List.singleton_append]

/-- What is read of a record, whatever follows it. -/
theorem read_record (fields : List (List σ)) (nonempty : fields ≠ []) (legible : ∀ text ∈ fields, Legible d special text)
    (isStart : place = .recordStart ∨ place = .fieldStart) (record : List (List σ)) :
    ∃ (place' : Place) (last : List σ) (others : List (List σ)), fields = others ++ [last] ∧ place'.Open ∧
      (place = .fieldStart ∨ 2 ≤ fields.length → place' ≠ .recordStart) ∧
      ∀ rest, read d place [] record (writeRecord d special fields ++ rest) =
        read d place' last (record ++ others) rest := by
  induction fields generalizing place record with
  | nil => exact absurd rfl nonempty
  | cons first fields ih =>
    obtain ⟨isLegible, othersLegible⟩ := List.forall_mem_cons.mp legible
    obtain ⟨place', isOpen, isField, ofCell⟩ := read_cell isLegible isStart record
    cases fields with
    | nil =>
      refine ⟨place', first, [], rfl, isOpen, ?_, fun rest => ?_⟩
      · rintro (isStart | long)
        · exact isField isStart
        · exact absurd long (by simp)
      · rw [List.append_nil, ← ofCell, writeRecord, List.map_singleton, List.intercalate_singleton]
    | cons second fields =>
      obtain ⟨place'', last, others, isSplit, isOpen', isLast, ofRecord⟩ :=
        ih (List.cons_ne_nil _ _) othersLegible (.inr rfl) (record ++ [first])
      refine ⟨place'', last, first :: others, by rw [isSplit, List.cons_append], isOpen', fun _ => isLast (.inl rfl),
        fun rest => ?_⟩
      rw [writeRecord, List.map_cons, List.map_cons, List.intercalate_cons_cons, List.append_assoc, List.append_assoc,
        ofCell, List.singleton_append, read_comma isOpen, ← List.map_cons, ← writeRecord, ofRecord, List.append_assoc,
        List.singleton_append]

/-- Records of two fields or more are read as they were written. -/
theorem read_writeFile (records : List (List (List σ))) (wide : ∀ record ∈ records, 2 ≤ record.length)
    (legible : ∀ record ∈ records, ∀ text ∈ record, Legible d special text) :
    readFile d (writeFile d special records) = some records := by
  induction records with
  | nil => rfl
  | cons record records ih =>
    obtain ⟨isWide, othersWide⟩ := List.forall_mem_cons.mp wide
    obtain ⟨isLegible, othersLegible⟩ := List.forall_mem_cons.mp legible
    have nonempty : record ≠ [] := List.ne_nil_of_length_pos (Nat.lt_of_lt_of_le Nat.two_pos isWide)
    obtain ⟨place, last, others, rfl, isOpen, isField, ofRecord⟩ :=
      read_record record nonempty isLegible (.inl rfl) []
    rw [List.nil_append] at ofRecord
    cases records with
    | nil =>
      have ofEnd := ofRecord []
      rw [List.append_nil, read_end isOpen (isField (.inr isWide))] at ofEnd
      rw [readFile, writeFile, List.map_singleton, List.intercalate_singleton, ofEnd]
    | cons next records =>
      rw [readFile, writeFile, List.map_cons, List.map_cons, List.intercalate_cons_cons, List.append_assoc, ofRecord,
        List.singleton_append, read_lf isOpen, ← List.map_cons, ← writeFile, ← readFile, ih othersWide othersLegible,
        Option.map_some]

end

end Exchange.Csv
