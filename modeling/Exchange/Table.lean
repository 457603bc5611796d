import Mathlib.Algebra.BigOperators.Group.List.Basic
import Mathlib.Algebra.Group.Basic
import Mathlib.Data.List.AList
import Mathlib.Tactic

/-! Database tables with a primary key: association lists that hold every key
at most once. The order of the rows means nothing, so a total over a table
changes with one row by the difference that row makes. -/
namespace Exchange

abbrev Table (κ α : Type) := AList fun _ : κ => α

namespace Table
variable {κ α M : Type} [DecidableEq κ] [AddCommGroup M] {t : Table κ α} {key other : κ} {row : α}

/-- The rows with their keys. -/
def rows (t : Table κ α) : List (κ × α) := t.entries.map fun entry => (entry.1, entry.2)

/-- `UPDATE … WHERE key = …`; nothing happens to a table without the key. -/
def modify (key : κ) (change : α → α) (t : Table κ α) : Table κ α :=
  match t.lookup key with
  | some row => t.insert key (change row)
  | none => t

/-- `UPDATE` of every row; what does not change is set to itself. -/
def mapRows (change : κ → α → α) (t : Table κ α) : Table κ α where
  entries := t.entries.map fun entry => ⟨entry.1, change entry.1 entry.2⟩
  nodupKeys := by
    rw [List.NodupKeys, List.keys, List.map_map]
    exact t.nodupKeys

/-- The sum of a measure over all rows. -/
def total (t : Table κ α) (measure : κ → α → M) : M :=
  (t.entries.map fun entry => measure entry.1 entry.2).sum

theorem mem_rows : (key, row) ∈ t.rows ↔ t.lookup key = some row := by
  rw [← Option.mem_def, AList.mem_lookup_iff, rows, List.mem_map]
  constructor
  · rintro ⟨⟨k, r⟩, member, same⟩
    cases same
    exact member
  · exact fun member => ⟨⟨key, row⟩, member, rfl⟩

omit [DecidableEq κ] in
theorem rows_keys_nodup (t : Table κ α) : (t.rows.map Prod.fst).Nodup := by
  have keys : t.rows.map Prod.fst = t.entries.keys := by
    rw [rows, List.map_map]
    rfl
  rw [keys]
  exact t.nodupKeys

theorem lookup_modify_self (change : α → α) :
    (modify key change t).lookup key = (t.lookup key).map change := by
  unfold modify
  split
  · rename_i found
    rw [AList.lookup_insert, found]
    rfl
  · rename_i missing
    rw [missing]
    rfl

theorem lookup_modify_ne (change : α → α) (ne : other ≠ key) :
    (modify key change t).lookup other = t.lookup other := by
  unfold modify
  split
  · exact AList.lookup_insert_ne ne
  · rfl

theorem lookup_mapRows (change : κ → α → α) (t : Table κ α) (key : κ) :
    (t.mapRows change).lookup key = (t.lookup key).map (change key) := by
  obtain ⟨entries, nodup⟩ := t
  change List.dlookup key (entries.map _) = (List.dlookup key entries).map _
  clear nodup
  induction entries with
  | nil => rfl
  | cons head rest ih =>
    obtain ⟨k, row⟩ := head
    by_cases same : key = k
    · subst same
      rw [List.map_cons, List.dlookup_cons_eq, List.dlookup_cons_eq]
      rfl
    · rw [List.map_cons, List.dlookup_cons_ne _ _ same, List.dlookup_cons_ne _ _ same, ih]

/-- What one key adds to a total. -/
theorem total_erase (t : Table κ α) (key : κ) (measure : κ → α → M) :
    t.total measure = (t.lookup key).elim 0 (measure key) + total (t.erase key) measure := by
  obtain ⟨entries, nodup⟩ := t
  change (entries.map fun entry => measure entry.1 entry.2).sum =
    (entries.dlookup key).elim 0 (measure key) +
      ((entries.kerase key).map fun entry => measure entry.1 entry.2).sum
  induction entries with
  | nil => simp
  | cons head rest ih =>
    have nodup_rest := List.nodupKeys_cons.mp nodup
    obtain ⟨k, r⟩ := head
    by_cases same : key = k
    · subst same
      have erased : List.kerase key (⟨key, r⟩ :: rest : List (Σ _ : κ, α)) = rest :=
        List.kerase_cons_eq rfl
      rw [erased, List.dlookup_cons_eq]
      rfl
    · have kept : List.kerase key (⟨k, r⟩ :: rest : List (Σ _ : κ, α)) =
          ⟨k, r⟩ :: List.kerase key rest := List.kerase_cons_ne same
      rw [List.dlookup_cons_ne _ _ same, kept, List.map_cons, List.sum_cons, List.map_cons,
        List.sum_cons, ih nodup_rest.2]
      abel

theorem total_insert (t : Table κ α) (key : κ) (row : α) (measure : κ → α → M) :
    total (t.insert key row) measure =
      t.total measure - (t.lookup key).elim 0 (measure key) + measure key row := by
  have inserted : total (t.insert key row) measure =
      measure key row + total (t.erase key) measure := by
    rw [total, AList.entries_insert, List.map_cons, List.sum_cons]
    rfl
  rw [inserted, total_erase t key]
  abel

/-- A new row adds its measure. -/
theorem total_insert_new (new : t.lookup key = none) (measure : κ → α → M) :
    total (t.insert key row) measure = t.total measure + measure key row := by
  simp [total_insert, new]

theorem total_congr {measure measure' : κ → α → M}
    (same : ∀ key row, t.lookup key = some row → measure key row = measure' key row) :
    t.total measure = t.total measure' := by
  unfold total
  congr 1
  refine List.map_congr_left fun entry member => ?_
  exact same entry.1 entry.2 (AList.mem_lookup_iff.mpr member)

/-- A measure that changes at one row. -/
theorem total_add {measure measure' : κ → α → M} {change : M} (found : t.lookup key = some row)
    (same : ∀ other row, t.lookup other = some row →
      measure' other row = measure other row + if other = key then change else 0) :
    t.total measure' = t.total measure + change := by
  have others : total (t.erase key) measure' = total (t.erase key) measure := by
    refine total_congr fun other row isRow => ?_
    by_cases here : other = key
    · subst here
      cases (AList.lookup_erase _ _).symm.trans isRow
    · rw [AList.lookup_erase_ne here] at isRow
      rw [same other row isRow, if_neg here, add_zero]
  rw [total_erase t key measure', total_erase t key measure, others, found, Option.elim_some, Option.elim_some,
    same key row found, if_pos rfl]
  abel

theorem total_eq_zero {measure : κ → α → M}
    (zero : ∀ key row, t.lookup key = some row → measure key row = 0) : t.total measure = 0 := by
  calc t.total measure = t.total fun _ _ => (0 : M) := total_congr zero
    _ = 0 := by simp [total]

end Table
end Exchange
