import Exchange.LedgerInvariants

/-! Postings by reference. A service asks for a posting with a reference of its
own, any number of times; it is there once the first went through. -/
namespace Exchange.Ledger
variable {ρ : Type} [DecidableEq ρ] {s s' : Store ρ} {input : LedgerPostingInput ρ}
  {txn : LedgerTransaction ρ} {outcome : Except Failure (LedgerTransaction ρ)} {reference : String}
  {id : ρ}

/-- A transaction with this reference exists. -/
def Store.isPosted (s : Store ρ) (reference : String) (id : ρ) : Bool :=
  s.transactions.any fun txn => txn.referenceType = some reference && txn.referenceId = some id

theorem isPosted_of_found
    (found : findExistingPosting s (some reference) (some id) = some txn) : s.isPosted reference id := by
  unfold findExistingPosting at found
  split at found
  · cases found
  · exact List.any_eq_true.mpr ⟨txn, List.mem_of_find?_eq_some found,
      by simpa using List.find?_some found⟩

theorem isPosted_of_fresh (nonempty : reference ≠ "")
    (fresh : findExistingPosting s (some reference) (some id) = none) :
    s.isPosted reference id = false := by
  simp only [findExistingPosting, reduceCtorEq, Option.some.injEq, nonempty, or_self, if_false,
    List.find?_eq_none] at fresh
  refine List.any_eq_false.mpr fun txn member => ?_
  simpa using fresh txn member

theorem isPosted_recorded (recorded : Recorded s input txn s') (reference : String) (id : ρ) :
    s'.isPosted reference id ↔ s.isPosted reference id ∨
      input.referenceType = some reference ∧ input.referenceId = some id := by
  simp [Store.isPosted, recorded.transactions, recorded.reference.1, recorded.reference.2]

/-- A posting is there once it went through, and no other is added. -/
theorem post_isPosted (posted : post input s = (outcome, s')) (reference : String) (id : ρ) :
    s'.isPosted reference id ↔ s.isPosted reference id ∨ (∃ txn, outcome = .ok txn) ∧
      input.referenceType = some reference ∧ input.referenceId = some id := by
  rcases post_cases posted with ⟨failure, rfl, rfl⟩ | ⟨txn, rfl, rfl, found⟩ |
    ⟨txn, rfl, recorded, -⟩
  · simp
  · refine ⟨.inl, fun now => now.elim (fun before => before) ?_⟩
    rintro ⟨-, isType, isTarget⟩
    rw [isType, isTarget] at found
    exact isPosted_of_found found
  · rw [isPosted_recorded recorded]
    simp

/-- The transactions with this reference. -/
def Store.postings (s : Store ρ) (reference : String) (id : ρ) : List (LedgerTransaction ρ) :=
  s.transactions.filter fun txn => txn.referenceType = some reference && txn.referenceId = some id

theorem postings_of_not_isPosted (fresh : s.isPosted reference id = false) :
    s.postings reference id = [] := by
  refine List.filter_eq_nil_iff.mpr fun txn member => ?_
  simpa using List.any_eq_false.mp fresh txn member

/-- A reference is posted once, whoever asks and however often. -/
theorem postings_length_le (posted : post input s = (outcome, s')) (nonempty : reference ≠ "")
    (once : (s.postings reference id).length ≤ 1) : (s'.postings reference id).length ≤ 1 := by
  rcases post_cases posted with ⟨failure, -, rfl⟩ | ⟨txn, -, rfl, -⟩ | ⟨txn, -, recorded, fresh⟩
  · exact once
  · exact once
  rw [Store.postings, recorded.transactions, List.filter_append, List.length_append]
  by_cases same : txn.referenceType = some reference ∧ txn.referenceId = some id
  · obtain ⟨isType, isTarget⟩ := same
    rw [← recorded.reference.1, ← recorded.reference.2, isType, isTarget] at fresh
    have none := postings_of_not_isPosted (isPosted_of_fresh nonempty fresh)
    rw [Store.postings] at none
    simp [none, isType, isTarget]
  · simpa [Store.postings, same] using once

theorem isPosted_iff : s.isPosted reference id ↔ ∃ txn, txn ∈ s.postings reference id := by
  simp [Store.isPosted, Store.postings]

/-- A posting that went through is there, found or made. -/
theorem mem_postings_of_ok (posted : post input s = (.ok txn, s')) (isType : input.referenceType = some reference)
    (isTarget : input.referenceId = some id) : txn ∈ s'.postings reference id := by
  rcases post_cases posted with ⟨failure, failed, -⟩ | ⟨found, same, rfl, isFound⟩ | ⟨new, same, recorded, -⟩
  · cases failed
  · cases same
    rw [isType, isTarget] at isFound
    unfold findExistingPosting at isFound
    split at isFound
    · cases isFound
    · exact List.mem_filter.mpr ⟨List.mem_of_find?_eq_some isFound, by simpa using List.find?_some isFound⟩
  · cases same
    refine List.mem_filter.mpr ⟨?_, ?_⟩
    · rw [recorded.transactions]
      simp
    · simp [recorded.reference.1, recorded.reference.2, isType, isTarget]

/-- Postings are not removed. -/
theorem mem_postings_mono (posted : post input s = (outcome, s')) (member : txn ∈ s.postings reference id) :
    txn ∈ s'.postings reference id := by
  rcases post_cases posted with ⟨failure, -, rfl⟩ | ⟨found, -, rfl, -⟩ | ⟨new, -, recorded, -⟩
  · exact member
  · exact member
  · obtain ⟨before, isReference⟩ := List.mem_filter.mp member
    refine List.mem_filter.mpr ⟨?_, isReference⟩
    rw [recorded.transactions]
    exact List.mem_append_left _ before

/-! ## One account -/

variable {earlier later lines : List LedgerPostingLine} {line : LedgerPostingLine} {account : Account}

omit [DecidableEq ρ] in
/-- Lines of other accounts leave the balance of one alone. -/
theorem postLines_untouched (posted : lines.foldlM postLine s = .ok s')
    (untouched : ∀ line ∈ lines, line.account ≠ account) :
    projectionForAccount s' account = projectionForAccount s account := by
  induction lines generalizing s with
  | nil =>
    cases posted
    rfl
  | cons line rest ih =>
    rw [List.foldlM_cons, except_bind_ok] at posted
    obtain ⟨s₁, first, others⟩ := posted
    rw [ih others fun other member => untouched other (List.mem_cons_of_mem _ member)]
    exact (postLine_ok first).other account (untouched line List.mem_cons_self).symm

omit [DecidableEq ρ] in
/-- The only line of an account is rounded into its balance. -/
theorem postLines_single (posted : (earlier ++ line :: later).foldlM postLine s = .ok s')
    (before : ∀ other ∈ earlier, other.account ≠ line.account)
    (after : ∀ other ∈ later, other.account ≠ line.account) :
    projectionForAccount s' line.account =
      Numeric.rounded (projectionForAccount s line.account + line.direction.signed line.amount) := by
  rw [List.foldlM_append, except_bind_ok] at posted
  obtain ⟨s₁, first, posted⟩ := posted
  rw [List.foldlM_cons, except_bind_ok] at posted
  obtain ⟨s₂, applied, rest⟩ := posted
  rw [postLines_untouched rest after, (postLine_ok applied).self, postLines_untouched first before]

omit [DecidableEq ρ] in
/-- Credits leave an account with no less than nothing. -/
theorem postLines_credited (posted : lines.foldlM postLine s = .ok s')
    (positive : ∀ line ∈ lines, 0 < line.amount)
    (credits : ∀ line ∈ lines, line.account = account → line.direction = .credit)
    (nonneg : 0 ≤ projectionForAccount s account) : 0 ≤ projectionForAccount s' account := by
  induction lines generalizing s with
  | nil =>
    cases posted
    exact nonneg
  | cons line rest ih =>
    rw [List.foldlM_cons, except_bind_ok] at posted
    obtain ⟨s₁, first, others⟩ := posted
    have applied := postLine_ok first
    refine ih others (fun other member => positive other (List.mem_cons_of_mem _ member))
      (fun other member => credits other (List.mem_cons_of_mem _ member)) ?_
    by_cases here : line.account = account
    · have credit := credits line List.mem_cons_self here
      subst here
      have amount := positive line List.mem_cons_self
      rw [applied.self, credit]
      exact Numeric.rounded_nonneg (add_pos_of_nonneg_of_pos nonneg amount).le
    · rwa [applied.other account (Ne.symm here)]

end Exchange.Ledger
