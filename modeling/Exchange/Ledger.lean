import Exchange.Decimal
import Exchange.Table

/-! The double-entry ledger: accounts with their projected balances, and an
append-only list of transactions with their entries. `post` is the one way to
move money; it runs in a serializable transaction, so it is one step here, and
what it throws rolls its writes back. Reference ids are of any type `ρ`. -/
namespace Exchange.Ledger

/-- A user's uuid. -/
abbrev UserId := ℕ

inductive AccountKind where
  | userAvailable
  | userLocked
  | feeRevenue
  | tdsPayable
  | hotWallet
  | coldWallet
  | gatewayClearing
  | manualBankClearing
  | sweepClearing
  | liquidity
  | system
  deriving DecidableEq, Repr

inductive EntryDirection where
  | debit
  | credit
  deriving DecidableEq, Repr

/-- An amount with the sign its direction gives it on the account. -/
def EntryDirection.signed : EntryDirection → ℚ → ℚ
  | .credit, amount => amount
  | .debit, amount => -amount

/-- Equality of `citext` columns is equality of this. -/
def citext (text : String) : String := text.toLower

structure LedgerPostingLine where
  userId : Option UserId
  kind : AccountKind
  asset : String
  direction : EntryDirection
  amount : Decimal
  deriving DecidableEq, Repr

structure LedgerPostingInput (ρ : Type) where
  kind : String
  referenceType : Option String := none
  referenceId : Option ρ := none
  lines : List LedgerPostingLine
  deriving DecidableEq, Repr

/-- A row of `accounts`: the columns of its unique index, which identify it. -/
structure Account where
  userId : Option UserId
  asset : String
  kind : AccountKind
  deriving DecidableEq, Repr

structure LedgerEntry where
  accountId : Account
  direction : EntryDirection
  amount : Decimal
  asset : String
  deriving DecidableEq, Repr

structure LedgerTransaction (ρ : Type) where
  id : ℕ
  kind : String
  referenceType : Option String
  referenceId : Option ρ
  entries : List LedgerEntry
  deriving DecidableEq, Repr

/-- The tables of the ledger. An account's row comes with its row of
`account_balances`, once that exists. -/
structure Store (ρ : Type) where
  accounts : Table Account (Option Decimal)
  transactions : List (LedgerTransaction ρ)

instance : EmptyCollection (Store ρ) := ⟨⟨∅, []⟩⟩

def isUserAccount (kind : AccountKind) : Bool := kind ∈ [.userAvailable, .userLocked]

def isSystemAccount (kind : AccountKind) : Bool := !isUserAccount kind

def LedgerPostingLine.account (line : LedgerPostingLine) : Account :=
  ⟨line.userId, citext line.asset, line.kind⟩

def LedgerEntry.signed (entry : LedgerEntry) : ℚ := entry.direction.signed entry.amount

/-! ## The repository -/

def Store.balance? (s : Store ρ) (account : Account) : Option Decimal :=
  (s.accounts.lookup account).join

def Store.setBalance (s : Store ρ) (account : Account) (balance : Decimal) : Store ρ :=
  { s with accounts := s.accounts.insert account (some balance) }

def projectionForAccount (s : Store ρ) (account : Account) : Decimal :=
  (s.balance? account).getD 0

/-- A missing or empty reference type, like a missing id, is no reference. -/
def findExistingPosting [DecidableEq ρ] (s : Store ρ) (referenceType : Option String)
    (referenceId : Option ρ) : Option (LedgerTransaction ρ) :=
  if referenceType = none ∨ referenceType = some "" ∨ referenceId = none then none
  else s.transactions.find? fun txn =>
    txn.referenceType = referenceType ∧ txn.referenceId = referenceId

def findOrCreateAccount (s : Store ρ) (account : Account) : Store ρ :=
  match s.accounts.lookup account with
  | some _ => s
  | none => { s with accounts := s.accounts.insert account none }

def ensureBalance (s : Store ρ) (account : Account) : Store ρ :=
  match s.balance? account with
  | some _ => s
  | none => s.setBalance account 0

def creditBalance (s : Store ρ) (account : Account) (amount : Decimal) :
    Except Failure (Store ρ) :=
  match s.balance? account with
  | some balance => do
    let balance ← Numeric.store (balance + amount)
    return s.setBalance account balance
  | none => throw (.prisma "P2025")

/-- The number of rows updated comes with the new tables. -/
def debitBalance (s : Store ρ) (account : Account) (amount : Decimal) (allowNegative : Bool) :
    Except Failure (Store ρ × ℕ) :=
  match s.balance? account with
  | some balance =>
    if allowNegative ∨ amount ≤ balance then do
      let balance ← Numeric.store (balance - amount)
      return (s.setBalance account balance, 1)
    else return (s, 0)
  | none => return (s, 0)

/-- The row of `ledger_entries` for a line, with the check of its amount. -/
def createEntry (line : LedgerPostingLine) : Except Failure LedgerEntry := do
  let amount ← Numeric.store line.amount
  if 0 < amount then .ok ⟨line.account, line.direction, amount, line.asset⟩
  else .error (.database "ledger_entries_amount_chk")

def createLedgerTransaction (s : Store ρ) (input : LedgerPostingInput ρ) :
    Except Failure (LedgerTransaction ρ × Store ρ) := do
  let entries ← input.lines.mapM createEntry
  let txn := ⟨s.transactions.length, input.kind, input.referenceType, input.referenceId, entries⟩
  return (txn, { s with transactions := s.transactions ++ [txn] })

/-- What a transaction's entries in one asset add up to. -/
def LedgerTransaction.assetSum (txn : LedgerTransaction ρ) (asset : String) : ℚ :=
  (txn.entries.map fun entry => if citext entry.asset = asset then entry.signed else 0).sum

/-- The deferred trigger `assert_ledger_balanced` on the new entries. -/
def assertLedgerBalanced (txn : LedgerTransaction ρ) : Bool :=
  txn.entries.all fun entry => txn.assetSum (citext entry.asset) = 0

/-! ## The service -/

/-- The running totals, in the order the assets first appear. -/
def addToTotals (totals : List (String × Decimal)) (line : LedgerPostingLine) :
    List (String × Decimal) :=
  let next (current : Decimal) : Decimal := match line.direction with
    | .credit => current.add line.amount
    | .debit => current.sub line.amount
  match totals with
  | [] => [(line.asset, next 0)]
  | (asset, total) :: rest =>
    if asset = line.asset then (asset, next total) :: rest
    else (asset, total) :: addToTotals rest line

def assertPostingBalanced (input : LedgerPostingInput ρ) : Except Failure Unit :=
  if input.lines.length < 2 then
    .error (.badRequestError "A ledger posting requires at least two lines")
  else if input.lines.any fun line => line.amount ≤ 0 then
    .error (.badRequestError "Ledger amounts must be positive")
  else match (input.lines.foldl addToTotals []).find? fun (_, total) => total ≠ 0 with
    | some (asset, _) => .error (.badRequestError s!"Ledger transaction is unbalanced for {asset}")
    | none => .ok ()

/-- One line of a posting, in the order `post` works them off. -/
def postLine (s : Store ρ) (line : LedgerPostingLine) : Except Failure (Store ρ) :=
  if isUserAccount line.kind && line.userId.isNone then
    .error (.badRequestError "User ledger accounts require a userId")
  else if isSystemAccount line.kind && line.userId.isSome then
    .error (.badRequestError "System ledger accounts must not have a userId")
  else
    let s := ensureBalance (findOrCreateAccount s line.account) line.account
    match line.direction with
    | .credit => creditBalance s line.account line.amount
    | .debit => do
      let (s, count) ← debitBalance s line.account line.amount (isSystemAccount line.kind)
      if count ≠ 1 then
        .error (.conflictError "Insufficient balance for ledger debit" "INSUFFICIENT_BALANCE")
      else .ok s

/-- `prisma.$transaction`: what throws, in the body or at commit, leaves the
tables as they were. The trigger runs at commit for what was inserted. -/
def tx (body : Store ρ → Except Failure (LedgerTransaction ρ × Store ρ)) (s : Store ρ) :
    Except Failure (LedgerTransaction ρ) × Store ρ :=
  match body s with
  | .ok (txn, s') =>
    if (s'.transactions.drop s.transactions.length).all assertLedgerBalanced then (.ok txn, s')
    else (.error (.database "ledger transaction is unbalanced (per-asset sum <> 0)"), s)
  | .error failure => (.error failure, s)

/-- `ledgerService.post`. Both answers of the callback, the posting found and
the posting made, are returned to the caller. -/
def post [DecidableEq ρ] (input : LedgerPostingInput ρ) (s : Store ρ) :
    Except Failure (LedgerTransaction ρ) × Store ρ :=
  match assertPostingBalanced input with
  | .error failure => (.error failure, s)
  | .ok () => s |> tx fun s =>
    match findExistingPosting s input.referenceType input.referenceId with
    | some existing => return (existing, s)
    | none => do
      let s ← input.lines.foldlM postLine s
      createLedgerTransaction s input

end Exchange.Ledger
