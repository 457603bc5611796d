import Exchange.LedgerPostings

/-! Fees in the ledger: what a posting credits to FEE_REVENUE, and what all
postings with one kind of reference credit to it. -/
namespace Exchange.Ledger
variable {ρ : Type} {s s' : Store ρ} {input : LedgerPostingInput ρ} {txn : LedgerTransaction ρ} {reference : String}

/-- Amounts, each in its asset. -/
abbrev Charges := List (String × Decimal)

/-- The charges that are more than nothing. -/
def Charges.positive (charges : Charges) : Charges := charges.filter fun charge => 0 < charge.2

/-- The charges as a money column holds them. -/
def Charges.stored (charges : Charges) : Charges := charges.map fun charge => (charge.1, Numeric.rounded charge.2)

/-- The positive amounts in one asset. -/
def Charges.amountsIn (charges : Charges) (asset : String) : List Decimal :=
  (charges.positive.filter fun charge => charge.1 = asset).map Prod.snd

def Charges.totalIn (charges : Charges) (asset : String) : ℚ := (charges.amountsIn asset).sum

def LedgerPostingLine.isFee (line : LedgerPostingLine) : Bool := line.kind = .feeRevenue && line.direction = .credit

/-- What a posting is to credit to FEE_REVENUE. -/
def LedgerPostingInput.fees (input : LedgerPostingInput ρ) : Charges :=
  (input.lines.filter LedgerPostingLine.isFee).map fun line => (line.asset, line.amount)

def LedgerEntry.isFee (entry : LedgerEntry) : Bool := entry.accountId.kind = .feeRevenue && entry.direction = .credit

/-- What entries credit to FEE_REVENUE. -/
def feesIn (entries : List LedgerEntry) : Charges :=
  (entries.filter LedgerEntry.isFee).map fun entry => (entry.asset, entry.amount)

def LedgerTransaction.fees (txn : LedgerTransaction ρ) : Charges := feesIn txn.entries

/-- The transactions whose reference is of a type. -/
def Store.ofType (s : Store ρ) (reference : String) : List (LedgerTransaction ρ) :=
  s.transactions.filter fun txn => txn.referenceType = some reference

/-! ## One posting -/

theorem Charges.positive_perm {charges charges' : Charges} (perm : charges.Perm charges') :
    charges.positive.Perm charges'.positive := perm.filter _

theorem Charges.totalIn_perm {charges charges' : Charges} (perm : charges.positive.Perm charges'.positive)
    (asset : String) : charges.totalIn asset = charges'.totalIn asset :=
  ((perm.filter _).map Prod.snd).sum_eq

theorem Charges.positive_positive (charges : Charges) : charges.positive.positive = charges.positive := by
  simp [positive]

theorem Charges.positive_cons (charge : String × Decimal) (charges : Charges) :
    Charges.positive (charge :: charges) = Charges.positive [charge] ++ charges.positive :=
  List.filter_append [charge] charges

theorem Charges.totalIn_append (charges charges' : Charges) (asset : String) :
    Charges.totalIn (charges ++ charges') asset = charges.totalIn asset + charges'.totalIn asset := by
  simp [totalIn, amountsIn, positive]

theorem Charges.totalIn_flatMap {α : Type} (values : List α) (charges : α → Charges) (asset : String) :
    Charges.totalIn (values.flatMap charges) asset = (values.map fun value => (charges value).totalIn asset).sum := by
  induction values with
  | nil => rfl
  | cons value rest ih => rw [List.flatMap_cons, totalIn_append, ih, List.map_cons, List.sum_cons]

/-- Storing keeps what is not positive so, and the rest if no amount vanishes. -/
theorem Charges.positive_stored {charges : Charges}
    (lasting : ∀ charge ∈ charges.positive, 0 < Numeric.rounded charge.2) :
    charges.stored.positive = charges.positive.stored := by
  simp only [positive, stored, List.filter_map]
  refine congrArg (List.map _) (List.filter_congr fun charge member => ?_)
  by_cases positive : 0 < charge.2
  · simp [positive, lasting charge (List.mem_filter.mpr ⟨member, by simpa using positive⟩)]
  · have nonpositive := Numeric.rounded_nonneg (neg_nonneg.mpr (not_lt.mp positive))
    rw [Numeric.rounded_neg] at nonpositive
    simpa [positive] using nonpositive

theorem feesIn_flatMap (transactions : List (LedgerTransaction ρ)) :
    feesIn (transactions.flatMap LedgerTransaction.entries) = transactions.flatMap LedgerTransaction.fees := by
  induction transactions with
  | nil => rfl
  | cons txn rest ih =>
    rw [List.flatMap_cons, List.flatMap_cons, ← ih, LedgerTransaction.fees]
    simp [feesIn]

theorem recorded_fees (recorded : Recorded s input txn s') : txn.fees = input.fees.stored := by
  rw [LedgerTransaction.fees, feesIn, recorded.entries, LedgerPostingInput.fees, Charges.stored, List.filter_map,
    List.map_map, List.map_map]
  rfl

/-- A transaction credits just what its posting asks for. -/
theorem recorded_charges (recorded : Recorded s input txn s') {charges : Charges}
    (asked : input.fees.Perm charges.positive) : txn.fees.Perm charges.stored.positive := by
  have lasting : ∀ charge ∈ charges.positive, 0 < Numeric.rounded charge.2 := by
    intro charge member
    obtain ⟨line, isLine, rfl⟩ := List.mem_map.mp (asked.mem_iff.mpr member)
    have isEntry : line.entry ∈ txn.entries := by
      rw [recorded.entries]
      exact List.mem_map_of_mem (List.mem_of_mem_filter isLine)
    exact recorded.entries_pos _ isEntry
  rw [recorded_fees recorded, Charges.positive_stored lasting]
  exact asked.map _

/-- The lines that credit a fee, if there is one. -/
theorem feeLine_charges (asset : String) (fee : Decimal) :
    ((if 0 < fee then [(⟨none, .feeRevenue, asset, .credit, fee⟩ : LedgerPostingLine)] else []).filter
      LedgerPostingLine.isFee).map (fun line => (line.asset, line.amount)) = Charges.positive [(asset, fee)] := by
  by_cases positive : 0 < fee <;> simp [positive, Charges.positive, LedgerPostingLine.isFee]

/-! ## Postings of one kind -/

/-- Fees are credited by postings with one type of reference only, each with a
reference of its own. -/
structure FeesOf (s : Store ρ) (reference : String) : Prop where
  identified : ∀ txn ∈ s.ofType reference, txn.referenceId ≠ none
  distinct : ((s.ofType reference).map LedgerTransaction.referenceId).Nodup
  others : ∀ txn ∈ s.transactions, txn.referenceType ≠ some reference → txn.fees = []

theorem ofType_recorded (recorded : Recorded s input txn s') : s'.ofType reference =
    s.ofType reference ++ if input.referenceType = some reference then [txn] else [] := by
  rw [Store.ofType, recorded.transactions, List.filter_append, List.filter_singleton, recorded.reference.1]
  by_cases isType : input.referenceType = some reference <;> simp [isType, Store.ofType]

/-- A posting that was found has the reference. -/
theorem mem_ofType_of_found [DecidableEq ρ]
    (found : findExistingPosting s input.referenceType input.referenceId = some txn)
    (isType : input.referenceType = some reference) : txn ∈ s.ofType reference ∧ txn.referenceId = input.referenceId := by
  unfold findExistingPosting at found
  split at found
  · cases found
  · have same := List.find?_some found
    simp only [isType, decide_eq_true_eq] at same
    exact ⟨List.mem_filter.mpr ⟨List.mem_of_find?_eq_some found, by simpa using same.1⟩, same.2⟩

/-- A posting that was made had no other with its reference before it. -/
theorem not_found [DecidableEq ρ] (fresh : findExistingPosting s input.referenceType input.referenceId = none)
    (isType : input.referenceType = some reference) (nonempty : reference ≠ "") (identified : input.referenceId ≠ none)
    (member : txn ∈ s.ofType reference) : txn.referenceId ≠ input.referenceId := by
  obtain ⟨present, sameType⟩ := List.mem_filter.mp member
  simp only [findExistingPosting, isType, reduceCtorEq, Option.some.injEq, nonempty, identified, or_self, if_false,
    List.find?_eq_none] at fresh
  intro same
  exact fresh txn present (by simpa [same] using sameType)

/-- Another posting keeps that, with a reference of the type or without fees. -/
theorem FeesOf.recorded [DecidableEq ρ] (fees : FeesOf s reference) (recorded : Recorded s input txn s')
    (fresh : findExistingPosting s input.referenceType input.referenceId = none) (nonempty : reference ≠ "")
    (identified : input.referenceType = some reference → input.referenceId ≠ none)
    (free : input.referenceType ≠ some reference → input.fees = []) : FeesOf s' reference := by
  obtain ⟨isType, isId⟩ := recorded.reference
  rw [← isType] at identified free
  refine ⟨fun other member => ?_, ?_, fun other member differs => ?_⟩
  · rw [ofType_recorded recorded, ← isType] at member
    rcases List.mem_append.mp member with before | new
    · exact fees.identified other before
    · split at new
      · rename_i same
        cases List.mem_singleton.mp new
        exact isId ▸ identified same
      · cases new
  · rw [ofType_recorded recorded, ← isType]
    split
    · rename_i same
      rw [List.map_append, List.nodup_append]
      refine ⟨fees.distinct, by simp, ?_⟩
      rintro _ before _ new
      obtain ⟨other, member, rfl⟩ := List.mem_map.mp before
      obtain rfl : _ = txn.referenceId := by simpa using new
      rw [isId]
      exact not_found fresh (isType ▸ same) nonempty (identified same) member
    · simpa using fees.distinct
  · rw [recorded.transactions] at member
    rcases List.mem_append.mp member with before | new
    · exact fees.others other before differs
    · cases List.mem_singleton.mp new
      rw [recorded_fees recorded, free differs]
      rfl

/-- What all postings credit is what those of the type credit. -/
theorem FeesOf.all (fees : FeesOf s reference) :
    s.transactions.flatMap LedgerTransaction.fees = (s.ofType reference).flatMap LedgerTransaction.fees := by
  have others := fees.others
  rw [Store.ofType]
  generalize s.transactions = transactions at others
  induction transactions with
  | nil => rfl
  | cons txn rest ih =>
    have rest' := ih fun other member => others other (List.mem_cons_of_mem _ member)
    by_cases isType : txn.referenceType = some reference
    · simp [isType, rest']
    · simp [isType, others txn List.mem_cons_self isType, rest']

/-- Balances have no part in it. -/
theorem FeesOf.accounts (fees : FeesOf s reference) (accounts : Table Account (Option Decimal)) :
    FeesOf { s with accounts } reference := ⟨fees.identified, fees.distinct, fees.others⟩

/-! ## Postings and records -/

/-- Values that match by distinct keys add up to the same. -/
theorem sum_eq_of_matched {α β κ : Type} {xs : List α} {ys : List β} {key : α → κ} {key' : β → κ} {f : α → ℚ}
    {g : β → ℚ} (distinct : (xs.map key).Nodup) (distinct' : (ys.map key').Nodup)
    (there : ∀ x ∈ xs, ∃ y ∈ ys, key' y = key x ∧ g y = f x) (back : ∀ y ∈ ys, ∃ x ∈ xs, key x = key' y) :
    (xs.map f).sum = (ys.map g).sum := by
  have pairs : (xs.map fun x => (key x, f x)).Perm (ys.map fun y => (key' y, g y)) := by
    refine (List.perm_ext_iff_of_nodup ?_ ?_).mpr fun pair => ⟨fun member => ?_, fun member => ?_⟩
    · exact List.Nodup.of_map Prod.fst (by simpa [Function.comp_def] using distinct)
    · exact List.Nodup.of_map Prod.fst (by simpa [Function.comp_def] using distinct')
    · obtain ⟨x, isX, rfl⟩ := List.mem_map.mp member
      obtain ⟨y, isY, sameKey, sameValue⟩ := there x isX
      exact List.mem_map.mpr ⟨y, isY, by rw [sameKey, sameValue]⟩
    · obtain ⟨y, isY, rfl⟩ := List.mem_map.mp member
      obtain ⟨x, isX, sameKey⟩ := back y isY
      obtain ⟨y', isY', sameKey', sameValue⟩ := there x isX
      have same : y' = y := List.inj_on_of_nodup_map distinct' isY' isY (sameKey'.trans sameKey)
      subst same
      exact List.mem_map.mpr ⟨x, isX, by rw [sameKey, sameValue]⟩
  simpa [List.map_map, Function.comp_def] using (pairs.map Prod.snd).sum_eq

end Exchange.Ledger
