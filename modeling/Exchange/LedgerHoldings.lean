import Exchange.LedgerInvariants

/-! What a group of accounts holds together, and how a posting changes it: by
what its lines record on the accounts of the group. -/
namespace Exchange

namespace Table
variable {κ α M : Type} [DecidableEq κ] [AddCommGroup M] {t : Table κ α}

/-- A total is a sum over any keys that include those of the table. -/
theorem total_eq_sum {keys : Finset κ} (covers : ∀ key row, t.lookup key = some row → key ∈ keys)
    (measure : κ → α → M) : t.total measure = ∑ key ∈ keys, (t.lookup key).elim 0 (measure key) := by
  induction keys using Finset.induction_on generalizing t with
  | empty =>
    rw [Finset.sum_empty]
    exact total_eq_zero fun key row found => absurd (covers key row found) (Finset.notMem_empty key)
  | @insert key keys new ih =>
    have rest : total (t.erase key) measure =
        ∑ other ∈ keys, ((t.erase key).lookup other).elim 0 (measure other) := by
      refine ih fun other row found => ?_
      have ne : other ≠ key := by
        rintro rfl
        cases (AList.lookup_erase _ _).symm.trans found
      rw [AList.lookup_erase_ne ne] at found
      exact (Finset.mem_insert.mp (covers other row found)).resolve_left ne
    rw [total_erase t key, rest, Finset.sum_insert new]
    congr 1
    refine Finset.sum_congr rfl fun other member => ?_
    have ne : other ≠ key := fun same => new (same ▸ member)
    rw [AList.lookup_erase_ne ne]

end Table

namespace Ledger
open SignificantDigits

variable {ρ : Type} {s s' : Store ρ} {lines : List LedgerPostingLine} {group : Account → Bool}

/-- What the accounts of a group hold. -/
def Store.held (s : Store ρ) (group : Account → Bool) : ℚ :=
  s.accounts.total fun account balance => if group account then balance.getD 0 else 0

/-- What lines record on a group of accounts. -/
def groupChanges (lines : List LedgerPostingLine) (group : Account → Bool) : ℚ :=
  (lines.map fun line => if group line.account then line.change else 0).sum

theorem held_eq_sum {accounts : Finset Account}
    (covers : ∀ account balance, s.accounts.lookup account = some balance → account ∈ accounts) :
    s.held group = ∑ account ∈ accounts,
      if group account then projectionForAccount s account else 0 := by
  rw [Store.held, Table.total_eq_sum covers]
  refine Finset.sum_congr rfl fun account _ => ?_
  cases found : s.accounts.lookup account with
  | none => simp [projectionForAccount, Store.balance?, found]
  | some balance => simp [projectionForAccount, Store.balance?, found]

theorem sum_changes {accounts : Finset Account}
    (covers : ∀ line ∈ lines, line.account ∈ accounts) :
    (∑ account ∈ accounts, if group account then changes lines account else 0) =
      groupChanges lines group := by
  induction lines with
  | nil => simp [changes, groupChanges]
  | cons line rest ih =>
    have tail := ih fun other member => covers other (List.mem_cons_of_mem _ member)
    have head : (∑ account ∈ accounts, if group account then
        (if line.account = account then line.change else 0) else 0) =
        if group line.account then line.change else 0 := by
      rw [Finset.sum_eq_single line.account]
      · simp
      · intro account _ ne
        simp [Ne.symm ne]
      · exact fun missing => absurd (covers line List.mem_cons_self) missing
    rw [groupChanges, List.map_cons, List.sum_cons, ← head, ← groupChanges, ← tail,
      ← Finset.sum_add_distrib]
    refine Finset.sum_congr rfl fun account _ => ?_
    rw [changes, List.map_cons, List.sum_cons, ← changes]
    split <;> simp

/-- A group's holdings change with the balances. -/
theorem held_of_projections
    (balances : ∀ account, projectionForAccount s' account =
      projectionForAccount s account + changes lines account) :
    s'.held group = s.held group + groupChanges lines group := by
  let accounts : Finset Account := s.accounts.keys.toFinset ∪ s'.accounts.keys.toFinset ∪
    (lines.map LedgerPostingLine.account).toFinset
  have before : ∀ account balance, s.accounts.lookup account = some balance → account ∈ accounts := by
    intro account balance found
    have isKey : account ∈ s.accounts := AList.lookup_isSome.mp (by rw [found]; rfl)
    simp [accounts, AList.mem_keys.mp isKey]
  have after : ∀ account balance, s'.accounts.lookup account = some balance → account ∈ accounts := by
    intro account balance found
    have isKey : account ∈ s'.accounts := AList.lookup_isSome.mp (by rw [found]; rfl)
    simp [accounts, AList.mem_keys.mp isKey]
  have lines' : ∀ line ∈ lines, line.account ∈ accounts := by
    intro line member
    simp only [accounts, Finset.mem_union, List.mem_toFinset, List.mem_map]
    exact .inr ⟨line, member, rfl⟩
  rw [held_eq_sum before, held_eq_sum after, ← sum_changes lines', ← Finset.sum_add_distrib]
  refine Finset.sum_congr rfl fun account _ => ?_
  rw [balances]
  split <;> simp

/-- What a posting with storable amounts does to the balances. -/
structure Moved (s : Store ρ) (lines : List LedgerPostingLine) (s' : Store ρ) : Prop where
  balances : ∀ account, projectionForAccount s' account =
    projectionForAccount s account + changes lines account
  held : ∀ group, s'.held group = s.held group + groupChanges lines group
  solvent : Solvent s'

theorem Recorded.moved {input : LedgerPostingInput ρ} {txn : LedgerTransaction ρ}
    (recorded : Recorded s input txn s') (solvent : Solvent s)
    (storable : ∀ line ∈ input.lines, OnGrid Numeric.scale line.amount) :
    Moved s input.lines s' := by
  obtain ⟨s₁, posted, same⟩ := recorded.lines
  have outward : TiesOutward s input.lines := by
    intro earlier line later split tie
    exact (Numeric.not_isTie_of_onGrid (storable line (by rw [split]; simp)) tie).elim
  have projection : ∀ account, projectionForAccount s' account = projectionForAccount s₁ account := by
    intro account
    rw [projectionForAccount, Store.balance?, same]
    rfl
  have balances : ∀ account, projectionForAccount s' account =
      projectionForAccount s account + changes input.lines account := fun account =>
    (projection account).trans ((postLines_record posted solvent recorded.positive outward).1 account)
  have solvent₁ := postLines_solvent posted solvent recorded.positive
  exact ⟨balances, fun _ => held_of_projections balances,
    fun account => by rw [projection]; exact solvent₁.storable account,
    fun account user => by rw [projection]; exact solvent₁.userNonneg account user⟩

theorem solvent_empty : Solvent (∅ : Store ρ) := ⟨fun _ => onGrid_zero _, fun _ _ => le_refl _⟩

theorem post_solvent [DecidableEq ρ] {input : LedgerPostingInput ρ}
    (posted : post input s = (outcome, s')) (solvent : Solvent s)
    (storable : ∀ line ∈ input.lines, OnGrid Numeric.scale line.amount) : Solvent s' := by
  rcases post_cases posted with ⟨failure, -, rfl⟩ | ⟨txn, -, rfl, -⟩ | ⟨txn, -, recorded, -⟩
  · exact solvent
  · exact solvent
  · exact (recorded.moved solvent storable).solvent

end Ledger
end Exchange
