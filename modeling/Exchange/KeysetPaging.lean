import Mathlib.Data.List.Sort
import Mathlib.Order.WellFounded
import Mathlib.Tactic

/-! Paging through rows with a cursor on their id. A query returns the rows
below the cursor, the greatest key first and rows of one key in any order; a
page keeps the first few of them and names the next cursor. What a reader gets
who follows the cursors is said of every answer the database may give. -/
namespace Exchange.KeysetPaging

structure Page (α ι : Type) where
  items : List α
  nextCursor : Option ι

/-- Rows with their ids and the key they are sorted by, and how a page is made
of an answer. -/
structure Listing (α ι κ : Type) where
  id : α → ι
  key : α → κ
  rows : List α
  limit : ℕ
  page : List α → Page α ι

namespace Listing
variable {α ι κ : Type}

/-- Distinct ids make distinct rows, in whatever order they come. -/
theorem nodup_of_perm {listing : Listing α ι κ} {items : List α} (distinct : (listing.rows.map listing.id).Nodup)
    (perm : items.Perm listing.rows) : items.Nodup :=
  perm.nodup_iff.mpr distinct.of_map

/-- A page has the first rows of the answer, and its cursor is the id of a row
of the answer, where there are more. -/
structure Regular (listing : Listing α ι κ) : Prop where
  items : ∀ answer, (listing.page answer).items = answer.take listing.limit
  cursor : ∀ answer next, (listing.page answer).nextCursor = some next → ∃ row ∈ answer, listing.id row = next
  ended : ∀ answer, (listing.page answer).nextCursor = none ↔ answer.length ≤ listing.limit

/-- The cursor is the id of the last item. -/
def ByLastItem (listing : Listing α ι κ) : Prop :=
  ∀ answer, listing.limit < answer.length →
    (listing.page answer).nextCursor = ((answer.take listing.limit).getLast?).map listing.id

/-- A page that is not the last one ends with the row its cursor names. -/
theorem page_split {listing : Listing α ι κ} (regular : listing.Regular) (byLast : listing.ByLastItem)
    (positive : 1 ≤ listing.limit) {sorted : List α} (more : listing.limit < sorted.length) : ∃ front row,
    (listing.page (sorted.take (listing.limit + 1))).items = front ++ [row] ∧
    (listing.page (sorted.take (listing.limit + 1))).nextCursor = some (listing.id row) ∧
    sorted = front ++ row :: sorted.drop listing.limit ∧ front.length + 1 = listing.limit := by
  have items : (listing.page (sorted.take (listing.limit + 1))).items = sorted.take listing.limit := by
    rw [regular.items, List.take_take, min_eq_left (by omega)]
  have length : (sorted.take listing.limit).length = listing.limit := by
    rw [List.length_take]
    omega
  rcases List.eq_nil_or_concat' (sorted.take listing.limit) with nothing | ⟨front, row, isFront⟩
  · rw [nothing, List.length_nil] at length
    omega
  · refine ⟨front, row, items.trans isFront, ?_, ?_, ?_⟩
    · rw [byLast _ (by rw [List.length_take]; omega), List.take_take, min_eq_left (by omega), isFront]
      simp
    · conv_lhs => rw [← List.take_append_drop listing.limit sorted, isFront, List.append_assoc]
      rfl
    · rw [isFront, List.length_append] at length
      exact length

variable [LinearOrder ι]

/-- The rows with an id below the cursor. -/
def remaining (listing : Listing α ι κ) (cursor : Option ι) : List α :=
  listing.rows.filter fun row => cursor.all (listing.id row < ·)

@[simp] theorem remaining_none (listing : Listing α ι κ) : listing.remaining none = listing.rows := by
  simp [remaining]

theorem mem_remaining {listing : Listing α ι κ} :
    row ∈ listing.remaining (some cursor) ↔ row ∈ listing.rows ∧ listing.id row < cursor := by
  simp [remaining]

/-- Behind a cut that agrees, what remains is what comes later. -/
theorem remaining_cut {listing : Listing α ι κ} {earlier later : List α} {row : α}
    (perm : (earlier ++ row :: later).Perm listing.rows)
    (before : ∀ other ∈ earlier, listing.id row < listing.id other)
    (after : ∀ other ∈ later, listing.id other < listing.id row) :
    (listing.remaining (some (listing.id row))).Perm later := by
  have filtered := (perm.filter (listing.id · < listing.id row)).symm
  have none : earlier.filter (listing.id · < listing.id row) = [] :=
    List.filter_eq_nil_iff.mpr fun other member => by simpa using (before other member).le
  have all : later.filter (listing.id · < listing.id row) = later :=
    List.filter_eq_self.mpr fun other member => by simpa using after other member
  rw [List.filter_append, none, List.filter_cons_of_neg (by simp), all] at filtered
  exact filtered

variable [LinearOrder κ] (listing : Listing α ι κ)

def Sorted (rows : List α) : Prop := rows.Pairwise fun earlier later => listing.key later ≤ listing.key earlier

/-- What the query may answer: it takes one row more than a page has. -/
def Answers (cursor : Option ι) (answer : List α) : Prop :=
  ∃ sorted, sorted.Perm (listing.remaining cursor) ∧ listing.Sorted sorted ∧
    answer = sorted.take (listing.limit + 1)

/-- The items of all pages from a cursor on. -/
inductive Walk : Option ι → List α → Prop
  | last : listing.Answers cursor answer → (listing.page answer).nextCursor = none →
      Walk cursor (listing.page answer).items
  | more : listing.Answers cursor answer → (listing.page answer).nextCursor = some next →
      Walk (some next) items → Walk cursor ((listing.page answer).items ++ items)

/-- One cursor may come after another. -/
def Leads (next cursor : Option ι) : Prop :=
  ∃ answer, listing.Answers cursor answer ∧ (listing.page answer).nextCursor = next ∧ next ≠ none

/-- Every reader comes to an end, and has then every row exactly once. -/
structure Lossless : Prop where
  ends : WellFounded listing.Leads
  once : ∀ items, listing.Walk none items → items.Perm listing.rows

/-- What a reader gets is in the order of the key. -/
def InOrder : Prop := ∀ items, listing.Walk none items → listing.Sorted items

variable {listing}

theorem Answers.subset (answers : listing.Answers cursor answer) : ∀ row ∈ answer, row ∈ listing.remaining cursor := by
  obtain ⟨sorted, perm, -, rfl⟩ := answers
  exact fun row member => perm.mem_iff.mp (List.mem_of_mem_take member)

/-- The database always has an answer. -/
theorem exists_answer (listing : Listing α ι κ) (cursor : Option ι) : ∃ answer, listing.Answers cursor answer := by
  let before (a b : α) : Prop := listing.key b ≤ listing.key a
  have : Std.Total before := ⟨fun a b => le_total (listing.key b) (listing.key a)⟩
  have : IsTrans α before := ⟨fun a b c first second => le_trans second first⟩
  exact ⟨_, (listing.remaining cursor).insertionSort before, List.perm_insertionSort before _,
    List.pairwise_insertionSort before _, rfl⟩

section Regular
variable (regular : listing.Regular)
include regular

theorem next_mem (answers : listing.Answers cursor answer)
    (next : (listing.page answer).nextCursor = some c) : ∃ row ∈ listing.remaining cursor, listing.id row = c := by
  obtain ⟨row, member, rfl⟩ := regular.cursor answer c next
  exact ⟨row, answers.subset row member, rfl⟩

/-- What lies below the next cursor is the part of what remained that does. -/
theorem remaining_next (answers : listing.Answers cursor answer)
    (next : (listing.page answer).nextCursor = some c) :
    listing.remaining (some c) = (listing.remaining cursor).filter (listing.id · < c) := by
  obtain ⟨last, member, rfl⟩ := next_mem regular answers next
  have within : cursor.all (listing.id last < ·) := (List.mem_filter.mp member).2
  rw [remaining, remaining, List.filter_filter]
  refine List.filter_congr fun row _ => ?_
  cases cursor with
  | none => simp
  | some cursor =>
    have below : listing.id row < listing.id last → listing.id row < cursor := fun lt =>
      lt.trans (by simpa using within)
    by_cases lt : listing.id row < listing.id last <;> simp [lt, below]

/-- Fewer rows remain behind the next cursor. -/
theorem leads_shrinks (leads : listing.Leads next cursor) :
    (listing.remaining next).length < (listing.remaining cursor).length := by
  obtain ⟨answer, answers, rfl, isSome⟩ := leads
  obtain ⟨c, isNext⟩ := Option.ne_none_iff_exists'.mp isSome
  obtain ⟨last, member, isLast⟩ := next_mem regular answers isNext
  rw [isNext, remaining_next regular answers isNext]
  exact List.length_filter_lt_length_iff_exists.mpr ⟨last, member, by simp [isLast]⟩

theorem ends : WellFounded listing.Leads :=
  Subrelation.wf (fun leads => leads_shrinks regular leads)
    (measure fun cursor => (listing.remaining cursor).length).wf

/-- Every reader can go on to the end. -/
theorem exists_walk (cursor : Option ι) : ∃ items, listing.Walk cursor items := by
  induction cursor using (ends regular).induction with
  | _ cursor ih =>
    obtain ⟨answer, answers⟩ := listing.exists_answer cursor
    cases isNext : (listing.page answer).nextCursor with
    | none => exact ⟨_, .last answers isNext⟩
    | some next =>
      obtain ⟨items, walk⟩ := ih (some next) ⟨answer, answers, isNext, nofun⟩
      exact ⟨_, .more answers isNext walk⟩

/-- From every answer one can go on to the end. -/
theorem exists_walk_of_answer (answers : listing.Answers cursor answer) :
    ∃ rest, listing.Walk cursor ((listing.page answer).items ++ rest) := by
  cases isNext : (listing.page answer).nextCursor with
  | none => exact ⟨[], by rw [List.append_nil]; exact .last answers isNext⟩
  | some next =>
    obtain ⟨items, walk⟩ := exists_walk regular (some next)
    exact ⟨items, .more answers isNext walk⟩

/-- What is read behind a cursor remained behind it. -/
theorem walk_subset (walk : listing.Walk cursor items) : ∀ row ∈ items, row ∈ listing.remaining cursor := by
  have inAnswer : ∀ {cursor answer}, listing.Answers cursor answer →
      ∀ row ∈ (listing.page answer).items, row ∈ listing.remaining cursor := by
    intro cursor answer answers row member
    rw [regular.items] at member
    exact answers.subset row (List.mem_of_mem_take member)
  induction walk with
  | last answers _ => exact inAnswer answers
  | more answers isNext _ ih =>
    intro row member
    rcases List.mem_append.mp member with here | later
    · exact inAnswer answers row here
    · have below := ih row later
      rw [remaining_next regular answers isNext] at below
      exact List.mem_of_mem_filter below

theorem walk_lt (walk : listing.Walk (some cursor) items) : ∀ row ∈ items, listing.id row < cursor :=
  fun row member => (mem_remaining.mp (walk_subset regular walk row member)).2

end Regular

/-! ## A cursor on the row that was fetched too many -/

/-- Wherever a page may end, in any order that the key allows, the ids tell the
rows before the last item from those behind it. -/
def CutsAgree (listing : Listing α ι κ) : Prop :=
  ∀ earlier row later, (earlier ++ row :: later).Perm listing.rows → listing.Sorted (earlier ++ row :: later) →
    listing.limit ∣ earlier.length + 1 → later ≠ [] →
    (∀ other ∈ earlier, listing.id row < listing.id other) ∧ ∀ other ∈ later, listing.id other < listing.id row

/-- What is read again or left out behind a cut that does not agree. -/
theorem agree_of_walks {listing : Listing α ι κ} (regular : listing.Regular) (positive : 1 ≤ listing.limit)
    {earlier later : List α} {row : α} (distinct : (listing.rows.map listing.id).Nodup)
    (lossless : listing.Lossless) (whole : (earlier ++ row :: later).Perm listing.rows)
    (ordered : listing.Sorted (earlier ++ row :: later))
    (reached : ∀ items, listing.Walk (some (listing.id row)) items → listing.Walk none (earlier ++ row :: items)) :
    (∀ other ∈ earlier, listing.id row < listing.id other) ∧ ∀ other ∈ later, listing.id other < listing.id row := by
  have nodup := nodup_of_perm distinct whole
  have apart : ∀ other ∈ earlier ++ row :: later, other ≠ row → listing.id other ≠ listing.id row := by
    have ids : ((earlier ++ row :: later).map listing.id).Nodup := (whole.map listing.id).nodup_iff.mpr distinct
    exact fun other member ne same => ne (List.inj_on_of_nodup_map ids member (by simp) same)
  have rowFresh : row ∉ earlier := fun member => List.disjoint_of_nodup_append nodup member List.mem_cons_self
  constructor
  · intro other member
    by_contra notAbove
    have below : listing.id other < listing.id row :=
      (not_lt.mp notAbove).lt_of_ne (apart other (by simp [member]) fun same => rowFresh (same ▸ member))
    -- the rows below the cursor, in the same order, begin with an earlier one
    let again := (earlier ++ row :: later).filter (listing.id · < listing.id row)
    have answers : listing.Answers (some (listing.id row)) (again.take (listing.limit + 1)) :=
      ⟨again, whole.filter _, List.Pairwise.sublist List.filter_sublist ordered, rfl⟩
    obtain ⟨first, tail, isFirst⟩ : ∃ first tail, earlier.filter (listing.id · < listing.id row) = first :: tail :=
      List.exists_cons_of_ne_nil (List.ne_nil_of_mem (List.mem_filter.mpr ⟨member, by simpa using below⟩))
    have firstEarlier : first ∈ earlier :=
      List.mem_of_mem_filter (isFirst ▸ List.mem_cons_self : first ∈ earlier.filter _)
    have repeated : first ∈ (listing.page (again.take (listing.limit + 1))).items := by
      have begins : again = first :: (tail ++ (row :: later).filter (listing.id · < listing.id row)) := by
        simp only [again, List.filter_append, isFirst, List.cons_append]
      obtain ⟨limit, isLimit⟩ := Nat.exists_eq_add_of_le' positive
      rw [regular.items, begins, isLimit, List.take_succ_cons, List.take_succ_cons]
      exact List.mem_cons_self
    obtain ⟨rest, walk⟩ := exists_walk_of_answer regular answers
    have once := nodup_of_perm distinct (lossless.once _ (reached _ walk))
    exact List.disjoint_of_nodup_append once firstEarlier (by simp [repeated])
  · intro other member
    have inRows : other ∈ listing.rows := whole.mem_iff.mp (by simp [member])
    obtain ⟨items, walk⟩ := exists_walk regular (some (listing.id row))
    have found := (lossless.once _ (reached _ walk)).mem_iff.mpr inRows
    rcases List.mem_append.mp found with before | behind
    · exact absurd (by simp [member]) (List.disjoint_of_nodup_append nodup before)
    · rcases List.mem_cons.mp behind with same | read
      · exact absurd (same ▸ member) (List.nodup_cons.mp (List.nodup_append.mp nodup).2.1).1
      · exact walk_lt regular walk other read

section ByLastItem
variable {listing : Listing α ι κ} (regular : listing.Regular) (byLast : listing.ByLastItem)
  (positive : 1 ≤ listing.limit)
include regular byLast positive

/-- The walk goes on from what is done with what is left, in every order. -/
theorem walk_perm (agree : listing.CutsAgree) (walk : listing.Walk cursor items) : ∀ past : List α,
    listing.limit ∣ past.length →
    (∀ sorted : List α, sorted.Perm (listing.remaining cursor) → listing.Sorted sorted →
      (past ++ sorted).Perm listing.rows ∧ listing.Sorted (past ++ sorted)) →
    (past ++ items).Perm listing.rows := by
  induction walk with
  | last answers ended =>
    intro past _ onward
    obtain ⟨sorted, perm, isSorted, rfl⟩ := answers
    have short := (regular.ended _).mp ended
    rw [List.length_take] at short
    rw [regular.items, List.take_take, min_eq_left (by omega), List.take_of_length_le (by omega)]
    exact (onward sorted perm isSorted).1
  | @more cursor answer next items answers isNext _ ih =>
    intro past divides onward
    obtain ⟨sorted, perm, isSorted, rfl⟩ := answers
    have more : listing.limit < sorted.length := by
      by_contra short
      have ended := (regular.ended (sorted.take (listing.limit + 1))).mpr (by rw [List.length_take]; omega)
      rw [isNext] at ended
      cases ended
    obtain ⟨front, row, isPage, isCursor, split, length⟩ := page_split regular byLast positive more
    obtain ⟨whole, ordered⟩ := onward sorted perm isSorted
    rw [split, ← List.append_assoc] at whole ordered
    have behind : sorted.drop listing.limit ≠ [] := by
      rw [ne_eq, List.drop_eq_nil_iff]
      omega
    obtain ⟨before, after⟩ := agree (past ++ front) row _ whole ordered
      (by rw [List.length_append, add_assoc, length]; exact Nat.dvd_add_self_right.mpr divides) behind
    have rest := remaining_cut whole before after
    cases isNext.symm.trans isCursor
    rw [← List.append_assoc, isPage]
    refine ih (past ++ (front ++ [row])) ?_ fun sorted' perm' isSorted' => ?_
    · simp only [List.length_append, List.length_singleton, length]
      exact Nat.dvd_add_self_right.mpr divides
    · have same := perm'.trans rest
      have joined : past ++ front ++ row :: sorted.drop listing.limit =
          past ++ (front ++ [row]) ++ sorted.drop listing.limit := by simp
      rw [joined] at whole ordered
      obtain ⟨sofar, -, across⟩ := List.pairwise_append.mp ordered
      exact ⟨(same.append_left _).trans whole, List.pairwise_append.mpr
        ⟨sofar, isSorted', fun x member y later => across x member y (same.mem_iff.mp later)⟩⟩

/-- One full page, and the rest of the walk. -/
theorem walk_page {front later : List α} {row : α} (perm : (front ++ row :: later).Perm (listing.remaining cursor))
    (ordered : listing.Sorted (front ++ row :: later)) (length : front.length + 1 = listing.limit)
    (behind : later ≠ []) (walk : listing.Walk (some (listing.id row)) items) :
    listing.Walk cursor (front ++ row :: items) := by
  have more : listing.limit < (front ++ row :: later).length := by
    have := List.length_pos_of_ne_nil behind
    simp only [List.length_append, List.length_cons]
    omega
  obtain ⟨front', row', isPage, isCursor, split, length'⟩ := page_split regular byLast positive more
  obtain ⟨rfl, same⟩ := List.append_inj split (by omega)
  obtain ⟨rfl, -⟩ := List.cons.inj same
  have joined := Walk.more ⟨_, perm, ordered, rfl⟩ isCursor walk
  rwa [isPage, List.append_assoc] at joined

/-- The walk along an order reaches each of its cuts, if the ones before agree. -/
theorem walk_to_cut {earlier later : List α} {row : α} (whole : (earlier ++ row :: later).Perm listing.rows)
    (ordered : listing.Sorted (earlier ++ row :: later)) (divides : listing.limit ∣ earlier.length + 1)
    (behind : later ≠ [])
    (agree : ∀ front cut back, front ++ cut :: back = earlier ++ row :: later → front.length < earlier.length →
      listing.limit ∣ front.length + 1 →
      (∀ other ∈ front, listing.id cut < listing.id other) ∧ ∀ other ∈ back, listing.id other < listing.id cut)
    (walk : listing.Walk (some (listing.id row)) items) : listing.Walk none (earlier ++ row :: items) := by
  induction length : earlier.length using Nat.strong_induction_on generalizing earlier row later items with
  | _ n ih =>
    subst length
    obtain ⟨pages, isPages⟩ := divides
    by_cases single : pages = 1
    · rw [single, mul_one] at isPages
      exact walk_page regular byLast positive (by rwa [remaining_none]) ordered isPages behind walk
    · -- the cut one page before
      have several : 2 ≤ pages := by
        rcases pages with _ | _ | pages
        · omega
        · exact absurd rfl single
        · omega
      have room : listing.limit + listing.limit ≤ earlier.length + 1 := by
        rw [isPages]
        nlinarith
      obtain ⟨front, cut, middle, rfl, isPage⟩ : ∃ front cut middle,
          earlier = front ++ cut :: middle ∧ middle.length + 1 = listing.limit := by
        have inside : earlier.length - listing.limit < earlier.length := by omega
        refine ⟨earlier.take (earlier.length - listing.limit), earlier[earlier.length - listing.limit],
          earlier.drop (earlier.length - listing.limit + 1), ?_, ?_⟩
        · rw [← List.drop_eq_getElem_cons inside, List.take_append_drop]
        · rw [List.length_drop]
          omega
      have joined : front ++ cut :: (middle ++ row :: later) = (front ++ cut :: middle) ++ row :: later := by simp
      rw [← joined] at whole ordered
      have length : (front ++ cut :: middle).length = front.length + listing.limit := by
        rw [List.length_append, List.length_cons, isPage]
      have divides : listing.limit ∣ front.length + 1 := by
        rw [length, add_right_comm] at isPages
        exact (Nat.dvd_add_left (dvd_refl _)).mp ⟨pages, isPages⟩
      have shorter : front.length < (front ++ cut :: middle).length := by omega
      obtain ⟨before, after⟩ := agree front cut (middle ++ row :: later) joined shorter divides
      have page : listing.Walk (some (listing.id cut)) (middle ++ row :: items) := by
        refine walk_page regular byLast positive (remaining_cut whole before after).symm ?_ isPage behind walk
        exact (List.pairwise_cons.mp (List.pairwise_append.mp ordered).2.1).2
      rw [List.append_assoc, List.cons_append]
      refine ih front.length shorter whole ordered divides (by simp) ?_ page rfl
      intro front' cut' back same less
      exact agree front' cut' back (same.trans joined) (less.trans shorter)

/-- What a reader gets is lossless exactly when all cuts agree. -/
theorem byLastItem_lossless_iff (distinct : (listing.rows.map listing.id).Nodup) :
    listing.Lossless ↔ listing.CutsAgree := by
  constructor
  · intro lossless earlier row later whole ordered divides behind
    induction length : earlier.length using Nat.strong_induction_on generalizing earlier row later with
    | _ n ih =>
      refine agree_of_walks regular positive distinct lossless whole ordered fun items walk => ?_
      refine walk_to_cut regular byLast positive whole ordered divides behind ?_ walk
      intro front cut back same shorter divides'
      have goesOn : back ≠ [] := by
        rintro rfl
        have lengths := congrArg List.length same
        simp only [List.length_append, List.length_cons, List.length_nil] at lengths
        omega
      rw [← same] at whole ordered
      exact ih front.length (length ▸ shorter) front cut back whole ordered divides' goesOn rfl
  · intro agree
    refine ⟨ends regular, fun items walk => ?_⟩
    exact walk_perm regular byLast positive agree walk [] (by simp) fun sorted perm isSorted =>
      ⟨by rwa [remaining_none] at perm, isSorted⟩

end ByLastItem

end Listing
end Exchange.KeysetPaging
