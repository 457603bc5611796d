import Exchange.Ledger

/-! What every run of postings keeps: projections agree with entries, assets
sum to zero, users owe nothing, and a reference is posted at most once. One
line changes one balance; a posting adds up its lines; a run adds up its
postings. -/
namespace Exchange.Ledger
open SignificantDigits

variable {ρ : Type} {s s' : Store ρ} {lines : List LedgerPostingLine}

/-! ## What a posting records -/

/-- What the line's entry says, with the sign of its direction. -/
def LedgerPostingLine.change (line : LedgerPostingLine) : ℚ :=
  line.direction.signed (Numeric.rounded line.amount)

/-- What lines record on one account. -/
def changes (lines : List LedgerPostingLine) (account : Account) : ℚ :=
  (lines.map fun line => if line.account = account then line.change else 0).sum

/-- What lines record in one asset. -/
def assetChanges (lines : List LedgerPostingLine) (asset : String) : ℚ :=
  (lines.map fun line => if citext line.asset = asset then line.change else 0).sum

/-- CREDIT entries minus DEBIT entries of a transaction on an account. -/
def LedgerTransaction.net (txn : LedgerTransaction ρ) (account : Account) : ℚ :=
  (txn.entries.map fun entry => if entry.accountId = account then entry.signed else 0).sum

/-- CREDIT entries minus DEBIT entries of an account. -/
def Store.net (s : Store ρ) (account : Account) : ℚ :=
  (s.transactions.map fun txn => txn.net account).sum

/-- The balances of all accounts in an asset. -/
def Store.assetTotal (s : Store ρ) (asset : String) : ℚ :=
  s.accounts.total fun account balance => if account.asset = asset then balance.getD 0 else 0

/-- The entry that `createEntry` makes of a line. -/
def LedgerPostingLine.entry (line : LedgerPostingLine) : LedgerEntry :=
  ⟨line.account, line.direction, Numeric.rounded line.amount, line.asset⟩

theorem EntryDirection.signed_rounded (direction : EntryDirection) (amount : ℚ) :
    direction.signed (Numeric.rounded amount) = Numeric.rounded (direction.signed amount) := by
  cases direction with
  | debit => exact (Numeric.rounded_neg amount).symm
  | credit => rfl

theorem createEntry_ok (created : createEntry line = .ok entry) :
    entry = line.entry ∧ 0 < entry.amount := by
  simp only [createEntry, except_bind_ok] at created
  obtain ⟨amount, stored, made⟩ := created
  split at made
  · rename_i positive
    cases made
    exact ⟨by rw [(Numeric.store_ok stored).1]; rfl, positive⟩
  · cases made

theorem createEntries_ok (created : lines.mapM createEntry = .ok entries) :
    entries = lines.map LedgerPostingLine.entry ∧ ∀ entry ∈ entries, 0 < entry.amount := by
  induction lines generalizing entries with
  | nil =>
    cases created
    simp
  | cons line rest ih =>
    simp only [List.mapM_cons, except_bind_ok] at created
    obtain ⟨entry, first, others, made, done⟩ := created
    cases done
    obtain ⟨isEntry, positive⟩ := createEntry_ok first
    obtain ⟨areEntries, restPositive⟩ := ih made
    rw [List.map_cons, ← areEntries, ← isEntry]
    exact ⟨rfl, List.forall_mem_cons.mpr ⟨positive, restPositive⟩⟩

/-! ## One line -/

@[simp] theorem lookup_setBalance_self (s : Store ρ) (account : Account) (balance : Decimal) :
    (s.setBalance account balance).balance? account = some balance := by
  simp [Store.balance?, Store.setBalance]

theorem balance?_setBalance_ne (ne : other ≠ account) :
    (s.setBalance account balance).balance? other = Store.balance? s other := by
  simp [Store.balance?, Store.setBalance, AList.lookup_insert_ne ne]

theorem assetTotal_setBalance (s : Store ρ) (account : Account) (balance : Decimal)
    (asset : String) : (s.setBalance account balance).assetTotal asset =
      s.assetTotal asset +
        if account.asset = asset then balance - projectionForAccount s account else 0 := by
  simp only [Store.assetTotal, Store.setBalance, Table.total_insert, projectionForAccount,
    Store.balance?, Option.getD_some]
  cases s.accounts.lookup account with
  | none => by_cases same : account.asset = asset <;> simp [same]
  | some row =>
    by_cases same : account.asset = asset
    · simp only [Option.elim_some, same, ↓reduceIte, Option.join_some]
      ring
    · simp [same]

/-- The store in which the line's balance row is about to be updated. -/
private theorem prepared (s : Store ρ) (account : Account) :
    ∃ p, p = ensureBalance (findOrCreateAccount s account) account ∧
      p.transactions = s.transactions ∧
      p.balance? account = some (projectionForAccount s account) ∧
      (∀ other, projectionForAccount p other = projectionForAccount s other) ∧
      ∀ asset, p.assetTotal asset = s.assetTotal asset := by
  have created : ∀ other, (findOrCreateAccount s account).balance? other = s.balance? other := by
    intro other
    unfold findOrCreateAccount
    split
    · rfl
    · rename_i missing
      by_cases same : other = account
      · subst same
        simp [Store.balance?, missing]
      · simp [Store.balance?, AList.lookup_insert_ne same]
  have createdTotal : ∀ asset,
      (findOrCreateAccount s account).assetTotal asset = s.assetTotal asset := by
    intro asset
    unfold findOrCreateAccount
    split
    · rfl
    · rename_i missing
      simp [Store.assetTotal, Table.total_insert_new missing]
  have createdLog : (findOrCreateAccount s account).transactions = s.transactions := by
    unfold findOrCreateAccount
    split <;> rfl
  refine ⟨_, rfl, ?_⟩
  unfold ensureBalance
  rw [created]
  cases found : s.balance? account with
  | some balance =>
    refine ⟨createdLog, ?_, fun other => ?_, createdTotal⟩
    · rw [created, found, projectionForAccount, found]
      rfl
    · simp only [projectionForAccount, created]
  | none =>
    refine ⟨createdLog, ?_, fun other => ?_, fun asset => ?_⟩
    · simp [projectionForAccount, found]
    · by_cases same : other = account
      · subst same
        simp [projectionForAccount, found]
      · simp only [projectionForAccount, balance?_setBalance_ne same, created]
    · rw [assetTotal_setBalance, createdTotal, projectionForAccount, created, found]
      simp

/-- One line rounds the sum of its account's balance and its own signed amount
into that balance, and touches nothing else. -/
structure LineApplied (s : Store ρ) (line : LedgerPostingLine) (s' : Store ρ) : Prop where
  transactions : s'.transactions = s.transactions
  self : projectionForAccount s' line.account =
    Numeric.rounded (projectionForAccount s line.account + line.direction.signed line.amount)
  other : ∀ account ≠ line.account, projectionForAccount s' account = projectionForAccount s account
  total : ∀ asset, s'.assetTotal asset = s.assetTotal asset +
    if citext line.asset = asset then
      projectionForAccount s' line.account - projectionForAccount s line.account
    else 0
  covered : isUserAccount line.kind → line.direction = .debit →
    line.amount ≤ projectionForAccount s line.account

theorem postLine_ok (posted : postLine s line = .ok s') : LineApplied s line s' := by
  obtain ⟨p, shape, log, found, same, totals⟩ := prepared s line.account
  have written : ∀ balance, Numeric.store (projectionForAccount s line.account +
      line.direction.signed line.amount) = .ok balance → p.setBalance line.account balance = s' →
      (isUserAccount line.kind → line.direction = .debit →
        line.amount ≤ projectionForAccount s line.account) → LineApplied s line s' := by
    rintro balance stored rfl covered
    obtain ⟨rfl, -⟩ := Numeric.store_ok stored
    refine ⟨log, by simp [projectionForAccount], fun account ne => ?_, fun asset => ?_, covered⟩
    · rw [← same account, projectionForAccount, balance?_setBalance_ne ne, projectionForAccount]
    · rw [assetTotal_setBalance, totals, same]
      simp only [projectionForAccount, lookup_setBalance_self, Option.getD_some]
      rfl
  unfold postLine at posted
  split at posted
  · cases posted
  split at posted
  · cases posted
  rw [← shape] at posted
  cases direction : line.direction with
  | credit =>
    simp only [direction, creditBalance, found, except_bind_ok] at posted
    obtain ⟨balance, stored, done⟩ := posted
    cases done
    exact written balance (by simpa only [direction, EntryDirection.signed] using stored) rfl
      fun _ debit => by cases direction.symm.trans debit
  | debit =>
    simp only [direction, debitBalance, found, except_bind_ok] at posted
    obtain ⟨⟨s₁, count⟩, debited, done⟩ := posted
    split at debited
    · rename_i enough
      simp only [except_bind_ok] at debited
      obtain ⟨balance, stored, debited⟩ := debited
      cases debited
      cases done
      exact written balance
        (by simpa only [direction, EntryDirection.signed, sub_eq_add_neg] using stored) rfl
        fun user _ => enough.resolve_left (by simp [isSystemAccount, user])
    · cases debited
      cases done

/-! ## The lines of a posting -/

/-- A line with an amount half way between two storable ones takes its account,
found with this balance, to a balance of the line's own sign. -/
def LedgerPostingLine.TieOutward (line : LedgerPostingLine) (found : ℚ) : Prop :=
  Numeric.IsTie line.amount → match line.direction with
    | .credit => 0 < found + line.amount
    | .debit => found - line.amount < 0

/-- Every line of the posting meets that at the balance it finds: what the
account had, and what the earlier lines of the posting record on it. -/
def TiesOutward (s : Store ρ) (lines : List LedgerPostingLine) : Prop :=
  ∀ earlier line later, lines = earlier ++ line :: later →
    line.TieOutward (projectionForAccount s line.account + changes earlier line.account)

/-- Balances are values the column can hold, and no user's is negative. -/
structure Solvent (s : Store ρ) : Prop where
  storable : ∀ account, OnGrid Numeric.scale (projectionForAccount s account)
  userNonneg : ∀ account, isUserAccount account.kind → 0 ≤ projectionForAccount s account

theorem Numeric.isTie_signed (direction : EntryDirection) (tie : Numeric.IsTie (direction.signed x)) :
    Numeric.IsTie x := by
  cases direction with
  | credit => exact tie
  | debit =>
    obtain ⟨n, half⟩ := tie
    refine ⟨-n - 1, ?_⟩
    simp only [EntryDirection.signed] at half
    push_cast
    linarith

/-- A tie that goes outward is rounded as its entry is. -/
theorem LineApplied.exact (applied : LineApplied s line s') (solvent : Solvent s)
    (positive : 0 < line.amount) (outward : line.TieOutward (projectionForAccount s line.account)) :
    projectionForAccount s' line.account = projectionForAccount s line.account + line.change := by
  rw [applied.self, LedgerPostingLine.change, EntryDirection.signed_rounded]
  refine Numeric.rounded_add (solvent.storable _) fun tie => ?_
  have side := outward (Numeric.isTie_signed _ tie)
  cases direction : line.direction with
  | credit =>
    simp only [direction] at side
    exact mul_pos positive side
  | debit =>
    simp only [direction] at side
    simp only [EntryDirection.signed]
    nlinarith

theorem LineApplied.solvent (applied : LineApplied s line s') (solvent : Solvent s)
    (positive : 0 < line.amount) : Solvent s' := by
  refine ⟨fun account => ?_, fun account user => ?_⟩
  · by_cases here : account = line.account
    · rw [here, applied.self]
      exact Numeric.rounded_onGrid _
    · rw [applied.other account here]
      exact solvent.storable account
  · by_cases here : account = line.account
    · subst here
      rw [applied.self]
      apply Numeric.rounded_nonneg
      have before := solvent.userNonneg _ user
      cases direction : line.direction with
      | credit => exact (add_pos_of_nonneg_of_pos before positive).le
      | debit =>
        have covered := applied.covered user direction
        simp only [EntryDirection.signed]
        linarith
    · rw [applied.other account here]
      exact solvent.userNonneg account user

theorem postLines_transactions (posted : lines.foldlM postLine s = .ok s') :
    s'.transactions = s.transactions := by
  induction lines generalizing s with
  | nil =>
    cases posted
    rfl
  | cons line rest ih =>
    rw [List.foldlM_cons, except_bind_ok] at posted
    obtain ⟨s₁, first, others⟩ := posted
    exact (ih others).trans (postLine_ok first).transactions

theorem postLines_solvent (posted : lines.foldlM postLine s = .ok s') (solvent : Solvent s)
    (positive : ∀ line ∈ lines, 0 < line.amount) : Solvent s' := by
  induction lines generalizing s with
  | nil =>
    cases posted
    exact solvent
  | cons line rest ih =>
    rw [List.foldlM_cons, except_bind_ok] at posted
    obtain ⟨s₁, first, others⟩ := posted
    exact ih others ((postLine_ok first).solvent solvent (positive line (by simp)))
      fun other member => positive other (by simp [member])

/-- The lines of a posting change every balance, and the total of every asset,
by what their entries record. -/
theorem postLines_record (posted : lines.foldlM postLine s = .ok s') (solvent : Solvent s)
    (positive : ∀ line ∈ lines, 0 < line.amount) (outward : TiesOutward s lines) :
    (∀ account, projectionForAccount s' account =
      projectionForAccount s account + changes lines account) ∧
    ∀ asset, s'.assetTotal asset = s.assetTotal asset + assetChanges lines asset := by
  induction lines generalizing s with
  | nil =>
    cases posted
    simp [changes, assetChanges]
  | cons line rest ih =>
    rw [List.foldlM_cons, except_bind_ok] at posted
    obtain ⟨s₁, first, others⟩ := posted
    have applied := postLine_ok first
    have positiveLine := positive line (by simp)
    have outwardLine := outward [] line rest rfl
    simp only [changes, List.map_nil, List.sum_nil, add_zero] at outwardLine
    have self := applied.exact solvent positiveLine outwardLine
    have balance : ∀ account, projectionForAccount s₁ account =
        projectionForAccount s account + if line.account = account then line.change else 0 := by
      intro account
      by_cases here : line.account = account
      · subst here
        simpa using self
      · simpa [here] using applied.other account (Ne.symm here)
    obtain ⟨balances, totals⟩ := ih others (applied.solvent solvent positiveLine)
      (fun other member => positive other (by simp [member])) <| by
        rintro earlier found later rfl
        have outwardFound := outward (line :: earlier) found later rfl
        simpa only [balance, changes, List.map_cons, List.sum_cons, add_assoc] using outwardFound
    refine ⟨fun account => ?_, fun asset => ?_⟩
    · rw [balances, balance, changes, changes, List.map_cons, List.sum_cons, add_assoc]
    · rw [totals, applied.total, self, assetChanges, assetChanges, List.map_cons, List.sum_cons]
      simp [add_assoc]

/-! ## One posting -/

theorem positive_of_balanced {input : LedgerPostingInput ρ}
    (balanced : assertPostingBalanced input = .ok ()) : ∀ line ∈ input.lines, 0 < line.amount := by
  intro line member
  unfold assertPostingBalanced at balanced
  split at balanced
  · cases balanced
  split at balanced
  · cases balanced
  · rename_i none
    by_contra nonpositive
    exact none (List.any_eq_true.mpr ⟨line, member, decide_eq_true (not_lt.mp nonpositive)⟩)

/-- A posting that was made, and not found. -/
structure Recorded (s : Store ρ) (input : LedgerPostingInput ρ) (txn : LedgerTransaction ρ)
    (s' : Store ρ) : Prop where
  positive : ∀ line ∈ input.lines, 0 < line.amount
  reference : txn.referenceType = input.referenceType ∧ txn.referenceId = input.referenceId
  kind : txn.kind = input.kind
  entries : txn.entries = input.lines.map LedgerPostingLine.entry
  entries_pos : ∀ entry ∈ txn.entries, 0 < entry.amount
  balanced : assertLedgerBalanced txn
  transactions : s'.transactions = s.transactions ++ [txn]
  lines : ∃ s₁, input.lines.foldlM postLine s = .ok s₁ ∧ s'.accounts = s₁.accounts

theorem tx_cases (run : tx body s = (outcome, s')) :
    (∃ failure, outcome = .error failure ∧ s' = s) ∨
    ∃ txn, outcome = .ok txn ∧ body s = .ok (txn, s') ∧
      (s'.transactions.drop s.transactions.length).all assertLedgerBalanced := by
  unfold tx at run
  split at run
  · rename_i txn s₁ ran
    split at run
    · rename_i commits
      cases run
      exact .inr ⟨txn, rfl, ran, commits⟩
    · cases run
      exact .inl ⟨_, rfl, rfl⟩
  · cases run
    exact .inl ⟨_, rfl, rfl⟩

/-- A call of `post` throws and leaves the tables alone, or answers with the
posting it found, or makes a new one. -/
theorem post_cases [DecidableEq ρ] {input : LedgerPostingInput ρ}
    (posted : post input s = (outcome, s')) :
    (∃ failure, outcome = .error failure ∧ s' = s) ∨
    (∃ txn, outcome = .ok txn ∧ s' = s ∧
      findExistingPosting s input.referenceType input.referenceId = some txn) ∨
    ∃ txn, outcome = .ok txn ∧ Recorded s input txn s' ∧
      findExistingPosting s input.referenceType input.referenceId = none := by
  unfold post at posted
  split at posted
  · cases posted
    exact .inl ⟨_, rfl, rfl⟩
  rename_i valid
  refine (tx_cases posted).imp_right ?_
  rintro ⟨txn, rfl, ran, commits⟩
  split at ran
  · rename_i existing found
    cases ran
    exact .inl ⟨_, rfl, rfl, found⟩
  · rename_i fresh
    simp only [except_bind_ok, createLedgerTransaction] at ran
    obtain ⟨s₁, lines, entries, created, done⟩ := ran
    cases done
    have log := postLines_transactions lines
    refine .inr ⟨_, rfl, ⟨positive_of_balanced valid, ⟨rfl, rfl⟩, rfl, (createEntries_ok created).1,
      (createEntries_ok created).2, ?_, by simp [log], s₁, lines, rfl⟩, fresh⟩
    simpa [log] using commits

theorem post_error [DecidableEq ρ] {input : LedgerPostingInput ρ} {failure : Failure}
    (posted : post input s = (.error failure, s')) : s' = s := by
  rcases post_cases posted with ⟨_, _, same⟩ | ⟨_, ok, _⟩ | ⟨_, ok, _⟩
  · exact same
  · cases ok
  · cases ok

theorem Recorded.net (recorded : Recorded s input txn s') (account : Account) :
    txn.net account = changes input.lines account := by
  rw [LedgerTransaction.net, recorded.entries, List.map_map]
  rfl

/-- The trigger looks at the assets of the entries; in any other asset there is
nothing to balance. -/
theorem Recorded.assetChanges_eq_zero (recorded : Recorded s input txn s') (asset : String) :
    assetChanges input.lines asset = 0 := by
  have same : txn.assetSum asset = assetChanges input.lines asset := by
    rw [LedgerTransaction.assetSum, recorded.entries, List.map_map]
    rfl
  rw [← same]
  by_cases present : ∃ entry ∈ txn.entries, citext entry.asset = asset
  · obtain ⟨entry, member, rfl⟩ := present
    exact of_decide_eq_true (List.all_eq_true.mp recorded.balanced entry member)
  · refine List.sum_eq_zero fun value member => ?_
    obtain ⟨entry, present', rfl⟩ := List.mem_map.mp member
    exact if_neg fun same => present ⟨entry, present', same⟩

/-! ## Runs -/

/-- A call of `post` by anyone: it runs, or the database refuses or aborts its
transaction for a reason outside the code. -/
def PostStep [DecidableEq ρ] (s : Store ρ) (input : LedgerPostingInput ρ)
    (outcome : Except Failure (LedgerTransaction ρ)) (s' : Store ρ) : Prop :=
  post input s = (outcome, s') ∨ ∃ failure, outcome = .error failure ∧ s' = s

/-- The stores reached from the empty one by postings that, where they go
through, are admitted. -/
inductive Run [DecidableEq ρ] (Admitted : Store ρ → LedgerPostingInput ρ → Prop) : Store ρ → Prop
  | empty : Run Admitted ∅
  | post {s s' : Store ρ} (before : Run Admitted s) (step : PostStep s input outcome s')
      (admitted : outcome.isOk → Admitted s input) : Run Admitted s'

/-- What the ledger promises in every state. -/
structure Consistent [DecidableEq ρ] (s : Store ρ) : Prop where
  projection : ∀ account, projectionForAccount s account = s.net account
  assets : ∀ asset, s.assetTotal asset = 0
  userNonneg : ∀ account, isUserAccount account.kind → 0 ≤ projectionForAccount s account
  atMostOnce : ∀ (referenceType : String) (referenceId : ρ),
    (s.transactions.filter fun txn =>
      txn.referenceType = some referenceType ∧ txn.referenceId = some referenceId).length ≤ 1

/-- A new posting has no tie that goes inward, and no id under an empty
reference type. -/
def Exact [DecidableEq ρ] (s : Store ρ) (input : LedgerPostingInput ρ) : Prop :=
  findExistingPosting s input.referenceType input.referenceId = none →
    TiesOutward s input.lines ∧ (input.referenceType = some "" → input.referenceId = none)

section Runs
variable [DecidableEq ρ]

private structure Invariant (s : Store ρ) : Prop where
  solvent : Solvent s
  consistent : Consistent s
  named : ∀ txn ∈ s.transactions, txn.referenceType = some "" → txn.referenceId = none

private theorem invariant_empty : Invariant (∅ : Store ρ) := by
  have zero : ∀ account, projectionForAccount (∅ : Store ρ) account = 0 := fun account => rfl
  refine ⟨⟨fun account => ?_, fun account _ => (zero account).ge⟩,
    ⟨fun account => rfl, fun asset => rfl, fun account _ => (zero account).ge,
      fun referenceType referenceId => by simp [EmptyCollection.emptyCollection]⟩, ?_⟩
  · rw [zero]
    exact onGrid_zero _
  · intro txn member
    simp [EmptyCollection.emptyCollection] at member

private theorem atMostOnce_append {txn : LedgerTransaction ρ} (consistent : Consistent s)
    (fresh : findExistingPosting s txn.referenceType txn.referenceId = none)
    (named : txn.referenceType = some "" → txn.referenceId = none)
    (referenceType : String) (referenceId : ρ) :
    ((s.transactions ++ [txn]).filter fun txn =>
      txn.referenceType = some referenceType ∧ txn.referenceId = some referenceId).length ≤ 1 := by
  rw [List.filter_append, List.length_append]
  by_cases same : txn.referenceType = some referenceType ∧ txn.referenceId = some referenceId
  · obtain ⟨sameType, sameId⟩ := same
    have nonempty : referenceType ≠ "" := by
      rintro rfl
      rw [named sameType] at sameId
      cases sameId
    have absent := fresh
    simp only [findExistingPosting, sameType, sameId, reduceCtorEq, Option.some.injEq, nonempty,
      or_self, ↓reduceIte, List.find?_eq_none] at absent
    rw [List.filter_eq_nil_iff.mpr absent]
    simp [sameType, sameId]
  · simpa [same] using consistent.atMostOnce referenceType referenceId

private theorem invariant_post (inv : Invariant s) (recorded : Recorded s input txn s')
    (fresh : findExistingPosting s input.referenceType input.referenceId = none)
    (exact : Exact s input) : Invariant s' := by
  obtain ⟨outward, named⟩ := exact fresh
  obtain ⟨s₁, posted, accounts⟩ := recorded.lines
  obtain ⟨balances, totals⟩ := postLines_record posted inv.solvent recorded.positive outward
  have solvent₁ := postLines_solvent posted inv.solvent recorded.positive
  have projection : ∀ account, projectionForAccount s' account = projectionForAccount s₁ account :=
    fun account => by simp only [projectionForAccount, Store.balance?, accounts]
  have total : ∀ asset, s'.assetTotal asset = s₁.assetTotal asset :=
    fun asset => by simp only [Store.assetTotal, accounts]
  have solvent : Solvent s' := ⟨fun account => projection account ▸ solvent₁.storable account,
    fun account user => projection account ▸ solvent₁.userNonneg account user⟩
  obtain ⟨sameType, sameId⟩ := recorded.reference
  refine ⟨solvent, ⟨fun account => ?_, fun asset => ?_, solvent.userNonneg, ?_⟩, ?_⟩
  · rw [projection, balances, inv.consistent.projection, Store.net, Store.net,
      recorded.transactions, List.map_append, List.sum_append, List.map_singleton,
      List.sum_singleton, recorded.net]
  · rw [total, totals, inv.consistent.assets, recorded.assetChanges_eq_zero, add_zero]
  · rw [recorded.transactions]
    rw [← sameType, ← sameId] at fresh named
    exact atMostOnce_append inv.consistent fresh named
  · intro old member
    rw [recorded.transactions, List.mem_append, List.mem_singleton] at member
    rcases member with earlier | rfl
    · exact inv.named old earlier
    · rw [sameType, sameId]
      exact named

private theorem run_invariant (run : Run Exact s) : Invariant s := by
  induction run with
  | empty => exact invariant_empty
  | post before step admitted inv =>
    rcases step with posted | ⟨failure, rfl, rfl⟩
    · rcases post_cases posted with ⟨_, _, rfl⟩ | ⟨_, _, rfl, _⟩ | ⟨txn, rfl, recorded, fresh⟩
      · exact inv
      · exact inv
      · exact invariant_post inv recorded fresh (admitted rfl)
    · exact inv

/-- What has a reference is found again under it. -/
private theorem find_posted (inv : Invariant s) (member : txn ∈ s.transactions)
    (isType : txn.referenceType = some referenceType) (isId : txn.referenceId = some referenceId) :
    findExistingPosting s (some referenceType) (some referenceId) = some txn := by
  have nonempty : referenceType ≠ "" := by
    rintro rfl
    cases isId.symm.trans (inv.named txn member isType)
  have matching : txn ∈ s.transactions.filter fun txn =>
      txn.referenceType = some referenceType ∧ txn.referenceId = some referenceId := by
    simp [member, isType, isId]
  have alone := inv.consistent.atMostOnce referenceType referenceId
  obtain ⟨only, single⟩ := List.length_eq_one_iff.mp
    (alone.antisymm (List.length_pos_of_mem matching))
  rw [single, List.mem_singleton] at matching
  subst matching
  simp only [findExistingPosting, reduceCtorEq, Option.some.injEq, nonempty, or_self, ↓reduceIte]
  rw [← List.head?_filter, single]
  rfl

/-- The ledger store invariant over whole runs: after any postings, failing
ones included, the store is consistent, a reference posted again answers with
the posting it has and changes nothing, and a call that throws leaves every
table as it was. -/
theorem run_consistent (run : Run Exact s) :
    Consistent s ∧
    (∀ txn ∈ s.transactions, ∀ (referenceType : String) (referenceId : ρ),
      txn.referenceType = some referenceType → txn.referenceId = some referenceId →
      ∀ input, input.referenceType = some referenceType → input.referenceId = some referenceId →
        assertPostingBalanced input = .ok () → post input s = (.ok txn, s)) ∧
    ∀ input failure s', PostStep s input (.error failure) s' → s' = s := by
  have inv := run_invariant run
  refine ⟨inv.consistent, ?_, ?_⟩
  · intro txn member referenceType referenceId isType isId input sameType sameId valid
    have found := find_posted inv member isType isId
    simp only [post, valid, tx, sameType, sameId, found, pure, Except.pure]
    simp
  · rintro input failure s' (posted | ⟨_, _, same⟩)
    · exact post_error posted
    · exact same

end Runs

private def bankDeposit (user : UserId) (amount : Decimal) : LedgerPostingInput ℕ :=
  { kind := "INR_DEPOSIT", referenceType := some "inr_deposit", referenceId := some user, lines :=
    [⟨none, .manualBankClearing, "INR", .debit, amount⟩,
     ⟨some user, .userAvailable, "INR", .credit, amount⟩] }

private def transfer (sender receiver : UserId) (amount : Decimal) : LedgerPostingInput ℕ :=
  { kind := "INTERNAL_TRANSFER", lines :=
    [⟨some sender, .userAvailable, "INR", .debit, amount⟩,
     ⟨some receiver, .userAvailable, "INR", .credit, amount⟩] }

private theorem run_of_posts {s : Store ℕ} {Admitted : Store ℕ → LedgerPostingInput ℕ → Prop}
    (posts : List (LedgerPostingInput ℕ)) (before : Run Admitted s)
    (admitted : ∀ s, ∀ input ∈ posts, Admitted s input) :
    Run Admitted (posts.foldl (fun s input => (post input s).2) s) := by
  induction posts generalizing s with
  | nil => exact before
  | cons input rest ih =>
    exact ih (.post before (.inl rfl) fun _ => admitted s input (by simp))
      fun s other member => admitted s other (by simp [member])

/-- Half of the last decimal place is rounded up in the receiver's balance and
in both entries, and rounds the sender's balance back to what it was. -/
theorem half_unit_transfer : ¬∀ s : Store ℕ, Run (fun _ _ => True) s → Consistent s := by
  intro consistent
  have sender := (consistent _ (run_of_posts [bankDeposit 1 10, transfer 1 2 (5 / 10 ^ 19)] .empty
    fun _ _ _ => trivial)).projection ⟨some 1, citext "INR", .userAvailable⟩
  revert sender
  decide +kernel

/-- A deposit and a transfer of a whole amount. -/
theorem run_consistent_transfer : ∃ s : Store ℕ, s.transactions.length = 2 ∧ Consistent s := by
  have whole : ∀ n : ℤ, ¬Numeric.IsTie n := fun n =>
    Numeric.not_isTie_of_onGrid ⟨n * 10 ^ 18, by push_cast; norm_num [Numeric.scale]⟩
  have admitted : ∀ s : Store ℕ, ∀ input ∈ [bankDeposit 1 10, transfer 1 2 4], Exact s input := by
    intro s input member _
    refine ⟨fun earlier line later split tie => ?_, ?_⟩
    · have among : line ∈ input.lines := split ▸ by simp
      exfalso
      simp only [List.mem_cons, List.not_mem_nil, or_false] at member
      rcases member with rfl | rfl <;>
        simp only [bankDeposit, transfer, List.mem_cons, List.not_mem_nil, or_false] at among <;>
        rcases among with rfl | rfl
      · exact whole 10 tie
      · exact whole 10 tie
      · exact whole 4 tie
      · exact whole 4 tie
    · simp only [List.mem_cons, List.not_mem_nil, or_false] at member
      rcases member with rfl | rfl
      · simp [bankDeposit]
      · simp [transfer]
  exact ⟨_, by decide +kernel,
    (run_consistent (run_of_posts [bankDeposit 1 10, transfer 1 2 4] .empty admitted)).1⟩

end Exchange.Ledger
