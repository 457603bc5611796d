import Exchange.LedgerInvariants

/-! The balance check of a posting against exact sums. `assertPostingBalanced`
keeps one running total for each spelling of an asset, and rounds it to 20
digits at every line; the columns hold 38 digits, and the trigger adds them up
exactly, over all spellings of an asset. What the running totals lose is said
line by line, and decides where the two agree. -/
namespace Exchange.Ledger
open SignificantDigits

variable {ρ : Type} {lines : List LedgerPostingLine}

/-- The column takes the amount and holds it as it is. -/
def Admissible (amount : Decimal) : Prop := Numeric.store amount = .ok amount

def LedgerPostingLine.signed (line : LedgerPostingLine) : ℚ := line.direction.signed line.amount

/-- Credits minus debits in an asset, exactly. -/
def exactSum (lines : List LedgerPostingLine) (asset : String) : ℚ :=
  (lines.map fun line => if line.asset = asset then line.signed else 0).sum

/-- The transaction with the posting's entries, as the trigger reads it. -/
def LedgerPostingInput.transaction (input : LedgerPostingInput ρ) : LedgerTransaction ρ :=
  ⟨0, input.kind, input.referenceType, input.referenceId, input.lines.map LedgerPostingLine.entry⟩

/-- One more line on a running total. -/
def nextTotal (total : Decimal) (line : LedgerPostingLine) : Decimal :=
  significant Decimal.precision (total + line.signed)

/-- What rounding adds to the running total of an asset, over all lines. -/
def losses (asset : String) : Decimal → List LedgerPostingLine → ℚ
  | _, [] => 0
  | total, line :: rest =>
    if line.asset = asset then
      nextTotal total line - (total + line.signed) + losses asset (nextTotal total line) rest
    else losses asset total rest

/-- The guards before the totals. -/
def Postable (lines : List LedgerPostingLine) : Prop :=
  2 ≤ lines.length ∧ ∀ line ∈ lines, 0 < line.amount

theorem Admissible.rounded (admissible : Admissible amount) : Numeric.rounded amount = amount :=
  (Numeric.store_ok admissible).1.symm

/-- As long as every partial sum has at most 20 digits, nothing is lost. -/
theorem losses_eq_zero {total : Decimal}
    (short : ∀ part, part <+: lines → Short Decimal.precision (total + exactSum part asset)) :
    losses asset total lines = 0 := by
  induction lines generalizing total with
  | nil => rfl
  | cons line rest ih =>
    have here := short [line] (List.prefix_cons_inj line |>.mpr List.nil_prefix)
    have later : ∀ part, part <+: rest → Short Decimal.precision (total + exactSum (line :: part) asset) :=
      fun part isPart => short (line :: part) ((List.prefix_cons_inj line).mpr isPart)
    by_cases same : line.asset = asset
    · simp only [exactSum, List.map_cons, List.sum_cons, same, ↓reduceIte, ← add_assoc] at here later
      simp only [List.map_nil, List.sum_nil, add_zero] at here
      have kept : nextTotal total line = total + line.signed := here
      rw [losses, if_pos same, kept, sub_self, zero_add]
      exact ih later
    · simp only [exactSum, List.map_cons, List.sum_cons, same, ↓reduceIte, zero_add] at later
      rw [losses, if_neg same]
      exact ih later

instance (amount : Decimal) : Decidable (Admissible amount) :=
  inferInstanceAs (Decidable (Numeric.store amount = .ok amount))

end Exchange.Ledger
