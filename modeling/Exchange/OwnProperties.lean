import Mathlib.Data.List.Sort
import Mathlib.Data.List.Lex
import Mathlib.Tactic

/-! The own properties of an object of the language, in the order its loops go
through them: the array indices upwards, then the other keys as they came. A
string is its 16-bit code units. -/
namespace Exchange.OwnProperties

abbrev CodeUnit := Fin (2 ^ 16)

instance neZero_codeUnits : NeZero (2 ^ 16) := ⟨by decide⟩

/-- A string of the language. -/
abbrev Units := List CodeUnit

/-- The code units of a text of the basic plane. -/
def units (text : String) : Units := text.toList.map fun char => Fin.ofNat (2 ^ 16) char.toNat

/-! ## Array indices -/

def numeral (n : ℕ) : Units := units n.repr

/-- A key that is the numeral of a number below `2 ^ 32 - 1`. -/
def arrayIndex (key : Units) : Option ℕ :=
  let n := key.foldl (fun n unit => 10 * n + (unit.val - 48)) 0
  if numeral n = key ∧ n < 2 ^ 32 - 1 then some n else none

theorem arrayIndex_numeral (index : arrayIndex key = some n) : numeral n = key := by
  simp only [arrayIndex, Option.ite_none_right_eq_some, Option.some.injEq] at index
  obtain ⟨⟨same, -⟩, rfl⟩ := index
  exact same

theorem arrayIndex_inj (left : arrayIndex a = some n) (right : arrayIndex b = some n) : a = b := by
  rw [← arrayIndex_numeral left, arrayIndex_numeral right]

/-! ## Order of keys -/

/-- The first key comes ahead of the second: array indices upwards, then the
other keys, among which `rest` decides. -/
def Ahead (rest : Units → Units → Prop) (a b : Units) : Prop :=
  match arrayIndex a, arrayIndex b with
  | some i, some j => i < j
  | some _, none => True
  | none, some _ => False
  | none, none => rest a b

theorem Ahead.ne {rest : Units → Units → Prop} (distinct : ∀ a b, rest a b → a ≠ b) (ahead : Ahead rest a b) :
    a ≠ b := by
  rintro rfl
  cases index : arrayIndex a with
  | some i => simp [Ahead, index] at ahead
  | none =>
    simp only [Ahead, index] at ahead
    exact distinct a a ahead rfl

theorem Ahead.asymm {rest : Units → Units → Prop} (asymm : ∀ a b, rest a b → ¬rest b a) (ahead : Ahead rest a b) :
    ¬Ahead rest b a := by
  cases left : arrayIndex a <;> cases right : arrayIndex b <;> simp only [Ahead, left, right] at ahead ⊢
  · exact asymm a b ahead
  · exact not_false
  · exact not_lt_of_gt ahead

/-- The entries stand as the language goes through them: each key once. -/
def Enumerated (entries : List (Units × α)) : Prop := entries.Pairwise fun a b => Ahead (· ≠ ·) a.1 b.1

theorem Enumerated.nodup {entries : List (Units × α)} (enumerated : Enumerated entries) :
    (entries.map Prod.fst).Nodup :=
  List.pairwise_map.mpr (enumerated.imp fun ahead => ahead.ne fun _ _ distinct => distinct)

/-! ## Setting a property -/

/-- A new key goes ahead of the other one. -/
def comesFirst (key other : Units) : Bool :=
  match arrayIndex key, arrayIndex other with
  | some i, some j => i < j
  | some _, none => true
  | none, _ => false

/-- A key that is there keeps its place. -/
def put (entries : List (Units × α)) (key : Units) (item : α) : List (Units × α) :=
  match entries with
  | [] => [(key, item)]
  | (other, old) :: rest =>
    if other = key then (key, item) :: rest
    else if comesFirst key other then (key, item) :: (other, old) :: rest
    else (other, old) :: put rest key item

theorem mem_put {entries : List (Units × α)} (member : entry ∈ put entries key item) :
    entry = (key, item) ∨ entry ∈ entries := by
  induction entries with
  | nil => exact .inl (List.mem_singleton.mp member)
  | cons first rest each =>
    rw [put] at member
    split_ifs at member with same before
    · exact (List.mem_cons.mp member).imp_right (List.mem_cons_of_mem _)
    · exact List.mem_cons.mp member
    · rcases List.mem_cons.mp member with rfl | member
      · exact .inr List.mem_cons_self
      · exact (each member).imp_right (List.mem_cons_of_mem _)

theorem comesFirst_ahead (rest : Units → Units → Prop) (first : comesFirst key other = true) :
    Ahead rest key other := by
  cases left : arrayIndex key <;> cases right : arrayIndex other <;> simp_all [comesFirst, Ahead]

theorem ahead_of_not_comesFirst {rest : Units → Units → Prop} (distinct : other ≠ key)
    (later : comesFirst key other = false) (among : rest other key) : Ahead rest other key := by
  cases left : arrayIndex key <;> cases right : arrayIndex other
  · simpa [Ahead, left, right] using among
  · simp [Ahead, left, right]
  · simp [comesFirst, left, right] at later
  · rename_i i j
    simp only [comesFirst, left, right, decide_eq_false_iff_not, not_lt] at later
    have differ : i ≠ j := by
      rintro rfl
      exact distinct (arrayIndex_inj right left)
    simpa [Ahead, left, right] using lt_of_le_of_ne later differ.symm

theorem not_comesFirst_of_ahead {rest : Units → Units → Prop} (ahead : Ahead rest other key) :
    comesFirst key other = false := by
  cases left : arrayIndex key <;> cases right : arrayIndex other <;> simp_all [comesFirst, Ahead]
  exact ahead.le

/-- What comes ahead of an entry that stands first comes ahead of all. -/
theorem Ahead.trans {rest : Units → Units → Prop} (first : comesFirst a b = true) (ahead : Ahead rest b c) :
    Ahead rest a c := by
  cases one : arrayIndex a <;> cases two : arrayIndex b <;> cases three : arrayIndex c <;>
    simp_all [comesFirst, Ahead]
  exact first.trans ahead

/-- A key set in order leaves the entries in order. -/
theorem put_pairwise {rest : Units → Units → Prop} {entries : List (Units × α)}
    (ordered : entries.Pairwise fun a b => Ahead rest a.1 b.1)
    (among : ∀ entry ∈ entries, entry.1 ≠ key → rest entry.1 key) :
    (put entries key item).Pairwise fun a b => Ahead rest a.1 b.1 := by
  induction entries with
  | nil => exact List.pairwise_singleton _ _
  | cons first tail each =>
    rw [List.pairwise_cons] at ordered
    obtain ⟨ahead, ordered⟩ := ordered
    rw [put]
    split_ifs with same before
    · rw [List.pairwise_cons]
      exact ⟨fun entry member => same ▸ ahead entry member, ordered⟩
    · rw [List.pairwise_cons, List.pairwise_cons]
      refine ⟨List.forall_mem_cons.mpr ⟨comesFirst_ahead rest before, ?_⟩, ahead, ordered⟩
      intro entry member
      exact Ahead.trans before (ahead entry member)
    · rw [List.pairwise_cons]
      refine ⟨?_, each ordered fun entry member => among entry (List.mem_cons_of_mem _ member)⟩
      intro entry member
      rcases mem_put member with rfl | member
      · exact ahead_of_not_comesFirst same (by simpa using before) (among first List.mem_cons_self same)
      · exact ahead entry member

theorem put_enumerated {entries : List (Units × α)} (enumerated : Enumerated entries) :
    Enumerated (put entries key item) :=
  put_pairwise enumerated fun _ _ distinct => distinct

/-- A key that all others are ahead of goes to the end. -/
theorem put_last {entries : List (Units × α)} (last : ∀ entry ∈ entries, Ahead (· ≠ ·) entry.1 key) :
    put entries key item = entries ++ [(key, item)] := by
  induction entries with
  | nil => rfl
  | cons first rest each =>
    rw [List.forall_mem_cons] at last
    obtain ⟨ahead, last⟩ := last
    rw [put, if_neg (ahead.ne fun _ _ distinct => distinct), not_comesFirst_of_ahead ahead, each last]
    rfl

theorem put_perm {entries : List (Units × α)} (fresh : ∀ entry ∈ entries, entry.1 ≠ key) :
    (put entries key item).Perm ((key, item) :: entries) := by
  induction entries with
  | nil => exact .refl _
  | cons first rest each =>
    rw [List.forall_mem_cons] at fresh
    obtain ⟨distinct, fresh⟩ := fresh
    rw [put, if_neg distinct]
    split_ifs
    · exact .refl _
    · exact ((each fresh).cons first).trans (.swap _ _ _)

/-! ## Building an object -/

/-- The properties set one after the other. -/
def build (assignments : List (Units × α)) : List (Units × α) :=
  assignments.foldl (fun out assignment => put out assignment.1 assignment.2) []

theorem foldl_put_enumerated {assignments out : List (Units × α)} (enumerated : Enumerated out) :
    Enumerated (assignments.foldl (fun out assignment => put out assignment.1 assignment.2) out) := by
  induction assignments generalizing out with
  | nil => exact enumerated
  | cons first rest each => exact each (put_enumerated enumerated)

theorem build_enumerated (assignments : List (Units × α)) : Enumerated (build assignments) :=
  foldl_put_enumerated .nil

theorem foldl_put_mem {assignments out : List (Units × α)}
    (member : entry ∈ assignments.foldl (fun out assignment => put out assignment.1 assignment.2) out) :
    entry ∈ assignments ∨ entry ∈ out := by
  induction assignments generalizing out with
  | nil => exact .inr member
  | cons first rest each =>
    rcases each member with member | member
    · exact .inl (List.mem_cons_of_mem _ member)
    · rcases mem_put member with rfl | member
      · exact .inl List.mem_cons_self
      · exact .inr member

theorem mem_build {assignments : List (Units × α)} (member : entry ∈ build assignments) : entry ∈ assignments :=
  (foldl_put_mem member).resolve_right List.not_mem_nil

theorem foldl_put_append {assignments out : List (Units × α)} (enumerated : Enumerated (out ++ assignments)) :
    assignments.foldl (fun out assignment => put out assignment.1 assignment.2) out = out ++ assignments := by
  induction assignments generalizing out with
  | nil => rw [List.foldl_nil, List.append_nil]
  | cons first rest each =>
    have last := (List.pairwise_append.mp enumerated).2.2
    rw [List.foldl_cons, put_last fun entry member => last entry member first List.mem_cons_self, each,
      List.append_assoc, List.singleton_append]
    rwa [List.append_assoc, List.singleton_append]

/-- Properties set in the order of the language stay as they are. -/
theorem build_eq_self {assignments : List (Units × α)} (enumerated : Enumerated assignments) :
    build assignments = assignments :=
  foldl_put_append enumerated

theorem foldl_put_perm {assignments out : List (Units × α)} (nodup : ((out ++ assignments).map Prod.fst).Nodup) :
    (assignments.foldl (fun out assignment => put out assignment.1 assignment.2) out).Perm (out ++ assignments) := by
  induction assignments generalizing out with
  | nil => rw [List.foldl_nil, List.append_nil]
  | cons first rest each =>
    have moved : (put out first.1 first.2 ++ rest).Perm (out ++ first :: rest) := by
      refine ((put_perm ?_).append_right rest).trans List.perm_middle.symm
      intro entry member same
      rw [List.map_append, List.map_cons, List.nodup_append] at nodup
      exact nodup.2.2 entry.1 (List.mem_map_of_mem member) first.1 List.mem_cons_self same
    exact (each ((moved.map Prod.fst).nodup_iff.mpr nodup)).trans moved

theorem build_perm {assignments : List (Units × α)} (nodup : (assignments.map Prod.fst).Nodup) :
    (build assignments).Perm assignments := by
  have perm := @foldl_put_perm _ assignments [] nodup
  rwa [List.nil_append] at perm

theorem put_map (rewrite : α → β) (entries : List (Units × α)) :
    (put entries key item).map (fun entry => (entry.1, rewrite entry.2)) =
      put (entries.map fun entry => (entry.1, rewrite entry.2)) key (rewrite item) := by
  induction entries with
  | nil => rfl
  | cons first rest each =>
    rw [put, List.map_cons, put]
    split_ifs
    · rfl
    · rfl
    · rw [List.map_cons, each]

/-- Items may be rewritten before they are set or after. -/
theorem build_map (rewrite : α → β) (assignments : List (Units × α)) :
    (build assignments).map (fun entry => (entry.1, rewrite entry.2)) =
      build (assignments.map fun entry => (entry.1, rewrite entry.2)) := by
  have general : ∀ out, (assignments.foldl (fun out assignment => put out assignment.1 assignment.2) out).map
      (fun entry => (entry.1, rewrite entry.2)) = (assignments.map fun entry => (entry.1, rewrite entry.2)).foldl
        (fun out assignment => put out assignment.1 assignment.2) (out.map fun entry => (entry.1, rewrite entry.2)) := by
    induction assignments with
    | nil => exact fun _ => rfl
    | cons first rest each =>
      intro out
      rw [List.foldl_cons, each, put_map, List.map_cons, List.foldl_cons]
  exact general []

/-! ## Sorted keys -/

/-- The entries by their keys, code unit by code unit. -/
def sortEntries (entries : List (Units × α)) : List (Units × α) :=
  entries.mergeSort fun a b => a.1 ≤ b.1

/-- An object with the properties set by sorted keys. -/
def arranged (entries : List (Units × α)) : List (Units × α) := build (sortEntries entries)

theorem sortEntries_perm (entries : List (Units × α)) : (sortEntries entries).Perm entries :=
  List.mergeSort_perm entries _

theorem sortEntries_sorted {entries : List (Units × α)} (nodup : (entries.map Prod.fst).Nodup) :
    (sortEntries entries).Pairwise fun a b => a.1 < b.1 := by
  have sorted : (sortEntries entries).Pairwise fun a b => a.1 ≤ b.1 := by
    refine (List.pairwise_mergeSort ?_ ?_ entries).imp fun le => of_decide_eq_true le
    · intro a b c left right
      exact decide_eq_true ((of_decide_eq_true left).trans (of_decide_eq_true right))
    · intro a b
      simpa using le_total a.1 b.1
  have distinct := ((sortEntries_perm entries).map Prod.fst).nodup_iff.mpr nodup
  exact (sorted.and (List.pairwise_map.mp distinct)).imp fun both => lt_of_le_of_ne both.1 both.2

theorem foldl_put_sorted {assignments out : List (Units × α)}
    (ordered : out.Pairwise fun a b => Ahead (· < ·) a.1 b.1)
    (sorted : assignments.Pairwise fun a b => a.1 < b.1)
    (below : ∀ entry ∈ out, ∀ assignment ∈ assignments, entry.1 < assignment.1) :
    (assignments.foldl (fun out assignment => put out assignment.1 assignment.2) out).Pairwise
      fun a b => Ahead (· < ·) a.1 b.1 := by
  induction assignments generalizing out with
  | nil => exact ordered
  | cons first rest each =>
    rw [List.pairwise_cons] at sorted
    obtain ⟨ahead, sorted⟩ := sorted
    refine each (put_pairwise ordered fun entry member _ => below entry member first List.mem_cons_self) sorted ?_
    intro entry member assignment later
    rcases mem_put member with rfl | member
    · exact ahead assignment later
    · exact below entry member assignment (List.mem_cons_of_mem _ later)

theorem arranged_ordered {entries : List (Units × α)} (nodup : (entries.map Prod.fst).Nodup) :
    (arranged entries).Pairwise fun a b => Ahead (· < ·) a.1 b.1 :=
  foldl_put_sorted .nil (sortEntries_sorted nodup) fun _ member => absurd member List.not_mem_nil

theorem arranged_perm {entries : List (Units × α)} (nodup : (entries.map Prod.fst).Nodup) :
    (arranged entries).Perm entries :=
  (build_perm (((sortEntries_perm entries).map Prod.fst).nodup_iff.mpr nodup)).trans (sortEntries_perm entries)

/-- The order of an object with sorted keys is one only. -/
theorem ordered_unique {entries others : List (Units × α)}
    (left : entries.Pairwise fun a b => Ahead (· < ·) a.1 b.1)
    (right : others.Pairwise fun a b => Ahead (· < ·) a.1 b.1) (perm : entries.Perm others) : entries = others := by
  refine List.Perm.eq_of_pairwise ?_ left right perm
  intro a b _ _ ahead behind
  exact absurd behind (ahead.asymm fun _ _ => not_lt_of_gt)

/-- Sorting by keys forgets the order the entries had. -/
theorem sortEntries_eq_of_perm {entries others : List (Units × α)} (nodup : (entries.map Prod.fst).Nodup)
    (perm : entries.Perm others) : sortEntries entries = sortEntries others := by
  have nodup' := (perm.map Prod.fst).nodup_iff.mp nodup
  refine List.Perm.eq_of_pairwise ?_ (sortEntries_sorted nodup) (sortEntries_sorted nodup')
    ((sortEntries_perm entries).trans (perm.trans (sortEntries_perm others).symm))
  intro a b _ _ below above
  exact absurd above (not_lt_of_gt below)

/-! ## Rewriting the items -/

/-- Each item rewritten under its key, or left out. -/
def rewriteItems (rewrite : Units → α → Option β) (entries : List (Units × α)) : List (Units × β) :=
  entries.filterMap fun entry => (rewrite entry.1 entry.2).map fun item => (entry.1, item)

theorem rewriteItems_pairwise {related : Units → Units → Prop} {entries : List (Units × α)}
    (ordered : entries.Pairwise fun a b => related a.1 b.1) (rewrite : Units → α → Option β) :
    (rewriteItems rewrite entries).Pairwise fun a b => related a.1 b.1 := by
  refine ordered.filterMap _ ?_
  intro a b ahead a' left b' right
  simp only [Option.map_eq_some_iff] at left right
  obtain ⟨_, _, rfl⟩ := left
  obtain ⟨_, _, rfl⟩ := right
  exact ahead

theorem rewriteItems_nodup {entries : List (Units × α)} (nodup : (entries.map Prod.fst).Nodup)
    (rewrite : Units → α → Option β) : ((rewriteItems rewrite entries).map Prod.fst).Nodup :=
  List.pairwise_map.mpr (rewriteItems_pairwise (List.pairwise_map.mp nodup) rewrite)

/-- Items may be rewritten before the keys are sorted or after. -/
theorem rewriteItems_arranged {entries : List (Units × α)} (nodup : (entries.map Prod.fst).Nodup)
    (rewrite : Units → α → Option β) :
    rewriteItems rewrite (arranged entries) = arranged (rewriteItems rewrite entries) := by
  have nodup' := rewriteItems_nodup nodup rewrite
  exact ordered_unique (rewriteItems_pairwise (arranged_ordered nodup) rewrite) (arranged_ordered nodup')
    (((arranged_perm nodup).filterMap _).trans (arranged_perm nodup').symm)

theorem key_of_mem_rewriteItems {rewrite : Units → α → Option β} {entries : List (Units × α)}
    (member : entry ∈ rewriteItems rewrite entries) : entry.1 ∈ entries.map Prod.fst := by
  obtain ⟨origin, origin_mem, rewritten⟩ := List.mem_filterMap.mp member
  obtain ⟨item, _, rfl⟩ := Option.map_eq_some_iff.mp rewritten
  exact List.mem_map_of_mem origin_mem

theorem map_fst_eq {entries : List (Units × α)} {others : List (Units × β)}
    (same : List.Forall₂ (fun a b => b.1 = a.1) entries others) : others.map Prod.fst = entries.map Prod.fst := by
  induction same with
  | nil => rfl
  | cons head _ each => rw [List.map_cons, List.map_cons, head, each]

/-- Entries under the same keys are rewritten alike just if each of them is. -/
theorem rewriteItems_eq_iff {entries : List (Units × α)} {others : List (Units × β)}
    (same : List.Forall₂ (fun a b => b.1 = a.1) entries others) (nodup : (entries.map Prod.fst).Nodup)
    (left : Units → α → Option γ) (right : Units → β → Option γ) :
    rewriteItems right others = rewriteItems left entries ↔
      List.Forall₂ (fun a b => right b.1 b.2 = left a.1 a.2) entries others := by
  induction same with
  | nil => simp [rewriteItems]
  | @cons entry other entries others head tail each =>
    rw [List.map_cons, List.nodup_cons] at nodup
    obtain ⟨fresh, nodup⟩ := nodup
    rw [List.forall₂_cons, ← each nodup]
    simp only [rewriteItems, List.filterMap_cons, head]
    cases one : right entry.1 other.2 <;> cases two : left entry.1 entry.2 <;>
      simp only [Option.map_none, Option.map_some, true_and, reduceCtorEq, false_and, iff_false, List.cons.injEq,
        Prod.mk.injEq, Option.some.injEq]
    · intro equal
      refine fresh ?_
      rw [← map_fst_eq tail]
      exact @key_of_mem_rewriteItems _ _ (entry.1, _) right others (equal ▸ List.mem_cons_self)
    · intro equal
      exact fresh (@key_of_mem_rewriteItems _ _ (entry.1, _) left entries (equal ▸ List.mem_cons_self))

end Exchange.OwnProperties
