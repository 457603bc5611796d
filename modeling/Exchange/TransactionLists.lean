import Exchange.DepositRepository
import Exchange.InrWithdrawalRepository
import Exchange.KeysetPaging

/-! The paged lists of ledger entries, INR transactions, deposits and
withdrawals: which rows each query selects, how it sorts them, and where the
service takes the next cursor from. Ids are numbers here; a uuid is compared as
its 16 bytes. -/
namespace Exchange.TransactionLists
open Ledger (UserId citext)
open KeysetPaging KeysetPaging.Listing
open Deposits (InrTxnType InrTxnStatus)
open InrWithdrawals (InrWithdrawalStatus)

/-- An entry with the user of its account. -/
structure LedgerEntry where
  id : ℕ
  userId : Option UserId
  asset : String
  createdAt : ℕ
  deriving DecidableEq, Repr

/-- A transaction with the email of its user. -/
structure InrTransaction where
  id : ℕ
  userId : UserId
  email : String
  type : InrTxnType
  amount : Decimal
  status : InrTxnStatus
  provider : Option String
  utr : Option String
  createdAt : ℕ
  deriving DecidableEq, Repr

structure InrWithdrawal where
  id : ℕ
  userId : UserId
  email : String
  status : InrWithdrawalStatus
  createdAt : ℕ
  deriving DecidableEq, Repr

structure AdminWithdrawalFilter where
  status : Option InrWithdrawalStatus := none
  userId : Option UserId := none
  email : Option String := none
  fromDate : Option ℕ := none
  toDate : Option ℕ := none

structure AdminDepositFilter where
  status : Option InrTxnStatus := none
  provider : Option String := none
  userId : Option UserId := none
  email : Option String := none
  utr : Option String := none
  fromDate : Option ℕ := none
  toDate : Option ℕ := none
  minAmount : Option Decimal := none
  maxAmount : Option Decimal := none

/-! ## The pages -/

/-- The page of the deposit and the INR withdrawal services: the cursor is the
id of the last item. -/
def page (id : α → ℕ) (limit : ℕ) (rows : List α) : Page α ℕ :=
  let hasMore := rows.length > limit
  let slice := if hasMore then rows.take limit else rows
  { items := slice
    nextCursor := if hasMore then slice.getLast?.map id else none }

/-! ## The lists -/

def listUserWithdrawals (withdrawals : List InrWithdrawal) (userId : UserId) (status : Option InrWithdrawalStatus)
    (limit : ℕ) : Listing InrWithdrawal ℕ ℕ where
  id := (·.id)
  key := (·.createdAt)
  rows := withdrawals.filter fun row => row.userId = userId ∧ status.all (row.status = ·)
  limit
  page := page (·.id) limit

def listUserDeposits (transactions : List InrTransaction) (userId : UserId) (status : Option InrTxnStatus)
    (limit : ℕ) : Listing InrTransaction ℕ ℕ where
  id := (·.id)
  key := (·.createdAt)
  rows := transactions.filter fun row => row.userId = userId ∧ row.type = .deposit ∧ status.all (row.status = ·)
  limit
  page := page (·.id) limit

section Admin
-- `contains` is the `LIKE` of the database
variable (contains : String → String → Bool)

def buildAdminWhere (input : AdminWithdrawalFilter) (row : InrWithdrawal) : Bool :=
  input.status.all (row.status = ·) && input.userId.all (row.userId = ·) && input.email.all (contains · row.email) &&
    input.fromDate.all (· ≤ row.createdAt) && input.toDate.all (row.createdAt ≤ ·)

def buildAdminDepositWhere (input : AdminDepositFilter) (row : InrTransaction) : Bool :=
  row.type = .deposit && input.status.all (row.status = ·) && input.provider.all (row.provider = some ·) &&
    input.userId.all (row.userId = ·) && input.utr.all (fun utr => row.utr.any (contains utr)) &&
    input.email.all (contains · row.email) && input.minAmount.all (· ≤ row.amount) &&
    input.maxAmount.all (row.amount ≤ ·) && input.fromDate.all (· ≤ row.createdAt) &&
    input.toDate.all (row.createdAt ≤ ·)

def adminList (withdrawals : List InrWithdrawal) (input : AdminWithdrawalFilter) (limit : ℕ) :
    Listing InrWithdrawal ℕ ℕ where
  id := (·.id)
  key := (·.createdAt)
  rows := withdrawals.filter (buildAdminWhere contains input)
  limit
  page := page (·.id) limit

def adminListDeposits (transactions : List InrTransaction) (input : AdminDepositFilter) (limit : ℕ) :
    Listing InrTransaction ℕ ℕ where
  id := (·.id)
  key := (·.createdAt)
  rows := transactions.filter (buildAdminDepositWhere contains input)
  limit
  page := page (·.id) limit

end Admin

/-! ## What the pages have in common -/

section Pages
variable {α κ : Type} {listing : Listing α ℕ κ}

theorem page_nextCursor (id : α → ℕ) (limit : ℕ) (answer : List α) (more : limit < answer.length) :
    (page id limit answer).nextCursor = ((answer.take limit).getLast?).map id := by
  simp [page, more]

theorem regular_page (positive : 1 ≤ listing.limit) (isPage : listing.page = page listing.id listing.limit) :
    listing.Regular where
  items answer := by
    rw [isPage, page]
    dsimp only
    split
    · rfl
    · rename_i short
      rw [List.take_of_length_le (not_lt.mp short)]
  cursor answer next isNext := by
    rw [isPage] at isNext
    by_cases more : listing.limit < answer.length
    · rw [page_nextCursor _ _ _ more, Option.map_eq_some_iff] at isNext
      obtain ⟨row, isLast, rfl⟩ := isNext
      exact ⟨row, List.mem_of_mem_take (List.mem_of_getLast? isLast), rfl⟩
    · simp [page, more] at isNext
  ended answer := by
    rw [isPage]
    by_cases more : listing.limit < answer.length
    · have full : answer.take listing.limit ≠ [] := by
        rw [ne_eq, List.take_eq_nil_iff]
        rintro (none | nothing)
        · omega
        · simp [nothing] at more
      rw [page_nextCursor _ _ _ more, List.getLast?_eq_some_getLast full]
      exact ⟨nofun, fun short => absurd more (not_lt.mpr short)⟩
    · simp [page, more, not_lt.mp more]

theorem byLastItem_page (isPage : listing.page = page listing.id listing.limit) : listing.ByLastItem := by
  intro answer more
  rw [isPage, page_nextCursor _ _ _ more]

end Pages

/-! ## What a reader gets -/

theorem nodup_filter {α : Type} {id : α → ℕ} {rows : List α} (distinct : (rows.map id).Nodup) (selects : α → Bool) :
    ((rows.filter selects).map id).Nodup :=
  distinct.sublist (List.filter_sublist.map id)

/-- The lists of deposits and withdrawals go on below the id of the last item,
while they are sorted by time. -/
theorem inr_lists_lossless_iff (contains : String → String → Bool) (withdrawals : List InrWithdrawal)
    (transactions : List InrTransaction) (userId : UserId) (status : Option InrWithdrawalStatus)
    (depositStatus : Option InrTxnStatus) (filter : AdminWithdrawalFilter) (depositFilter : AdminDepositFilter)
    (limit : ℕ) (positive : 1 ≤ limit) (distinctWithdrawals : (withdrawals.map (·.id)).Nodup)
    (distinctTransactions : (transactions.map (·.id)).Nodup) :
    ((listUserWithdrawals withdrawals userId status limit).Lossless ↔
      (listUserWithdrawals withdrawals userId status limit).CutsAgree) ∧
    ((adminList contains withdrawals filter limit).Lossless ↔
      (adminList contains withdrawals filter limit).CutsAgree) ∧
    ((listUserDeposits transactions userId depositStatus limit).Lossless ↔
      (listUserDeposits transactions userId depositStatus limit).CutsAgree) ∧
    ((adminListDeposits contains transactions depositFilter limit).Lossless ↔
      (adminListDeposits contains transactions depositFilter limit).CutsAgree) :=
  ⟨byLastItem_lossless_iff (regular_page positive rfl) (byLastItem_page rfl) positive (nodup_filter distinctWithdrawals _),
    byLastItem_lossless_iff (regular_page positive rfl) (byLastItem_page rfl) positive (nodup_filter distinctWithdrawals _),
    byLastItem_lossless_iff (regular_page positive rfl) (byLastItem_page rfl) positive (nodup_filter distinctTransactions _),
    byLastItem_lossless_iff (regular_page positive rfl) (byLastItem_page rfl) positive (nodup_filter distinctTransactions _)⟩

/-- An older withdrawal with the greater id, and a newer one. -/
def crossed : List InrWithdrawal := [⟨2, 1, "user@example.com", .pending, 1⟩, ⟨1, 1, "user@example.com", .pending, 2⟩]

theorem inr_lists_lossless_iff_crossed :
    ((listUserWithdrawals crossed 1 none 1).Lossless ↔ (listUserWithdrawals crossed 1 none 1).CutsAgree) ∧
    ((adminList (· == ·) crossed {} 1).Lossless ↔ (adminList (· == ·) crossed {} 1).CutsAgree) ∧
    ((listUserDeposits [] 1 none 1).Lossless ↔ (listUserDeposits [] 1 none 1).CutsAgree) ∧
    ((adminListDeposits (· == ·) [] {} 1).Lossless ↔ (adminListDeposits (· == ·) [] {} 1).CutsAgree) :=
  inr_lists_lossless_iff (· == ·) crossed [] 1 none none {} {} 1 le_rfl (by decide) (by decide)

/-- On pages of one, the older of the two is never shown. -/
theorem withdrawal_skipped : ¬∀ (withdrawals : List InrWithdrawal) (userId : UserId)
    (status : Option InrWithdrawalStatus) (limit : ℕ), 1 ≤ limit → (withdrawals.map (·.id)).Nodup →
    (listUserWithdrawals withdrawals userId status limit).Lossless := by
  intro always
  have agree := (byLastItem_lossless_iff (regular_page le_rfl rfl) (byLastItem_page rfl) le_rfl (by decide)).mp
    (always crossed 1 none 1 le_rfl (by decide))
  have below := (agree [] ⟨1, 1, "user@example.com", .pending, 2⟩ [⟨2, 1, "user@example.com", .pending, 1⟩]
    (List.Perm.swap _ _ _) (by unfold Sorted; decide) (by decide) (by decide)).2 _ List.mem_cons_self
  revert below
  decide

end Exchange.TransactionLists
