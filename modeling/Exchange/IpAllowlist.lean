import Mathlib.Data.List.DropRight
import Mathlib.Tactic

/-! The IPv4 allowlist of an administrator. Texts are their characters, and an
address is its 32 bits; what stands here of IPv6 is the prefix of a mapped form. -/
namespace Exchange.IpAllowlist

/-! ## Blocks of addresses -/

/-- Two words agree in their first bits. -/
def SamePrefix (length : ℕ) (a b : BitVec w) : Prop := ∀ i < length, a.getMsbD i = b.getMsbD i

theorem SamePrefix.refl (length : ℕ) (a : BitVec w) : SamePrefix length a a := fun _ _ => rfl

theorem samePrefix_zero (a b : BitVec w) : SamePrefix 0 a b := nofun

theorem getMsbD_mask {length i : ℕ} (inside : i < w) :
    (BitVec.allOnes w <<< (w - length)).getMsbD i = decide (i < length) := by
  rw [BitVec.getMsbD_shiftLeft, BitVec.getMsbD_allOnes, decide_eq_decide]
  omega

/-- Comparing under a mask compares the bits it keeps. -/
theorem mask_eq_iff {length : ℕ} (fits : length ≤ w) {a b : BitVec w} :
    a &&& BitVec.allOnes w <<< (w - length) = b &&& BitVec.allOnes w <<< (w - length) ↔
      SamePrefix length a b := by
  constructor
  · intro masked i inside
    have bit := congrArg (BitVec.getMsbD · i) masked
    simpa [BitVec.getMsbD_and, getMsbD_mask (inside.trans_le fits), inside] using bit
  · intro same
    refine BitVec.eq_of_getMsbD_eq ?_
    intro i inside
    rw [BitVec.getMsbD_and, BitVec.getMsbD_and, getMsbD_mask inside]
    by_cases kept : i < length
    · rw [same i kept]
    · simp [kept]

/-! ## Addresses as text -/

/-- The white space and line ends that `trim` takes off. -/
def isWhiteSpace (c : Char) : Bool :=
  let code := c.toNat
  (9 ≤ code && code ≤ 13) || code = 32 || code = 160 || code = 5760 || (8192 ≤ code && code ≤ 8202) ||
    code = 8232 || code = 8233 || code = 8239 || code = 8287 || code = 12288 || code = 65279

/-- `text.trim()` -/
def trim (text : List Char) : List Char := (text.dropWhile isWhiteSpace).rdropWhile isWhiteSpace

/-- `\d{1,most}` -/
def isDigits (most : ℕ) (text : List Char) : Bool :=
  text ≠ [] && text.length ≤ most && text.all Char.isDigit

/-- `Number(digits)` -/
def number (digits : List Char) : ℕ := Nat.ofDigitChars 10 digits 0

structure Quad where
  first : List Char
  second : List Char
  third : List Char
  fourth : List Char
  deriving DecidableEq, Repr

def Quad.parts (quad : Quad) : List (List Char) := [quad.first, quad.second, quad.third, quad.fourth]

def Quad.text (quad : Quad) : List Char :=
  quad.first ++ '.' :: quad.second ++ '.' :: quad.third ++ '.' :: quad.fourth

/-- The groups of `IPV4`. -/
def IPV4 (text : List Char) : Option Quad :=
  match text.splitOn '.' with
  | [first, second, third, fourth] =>
    let quad : Quad := { first, second, third, fourth }
    if quad.parts.all (isDigits 3) then some quad else none
  | _ => none

/-- The groups of `IPV4_CIDR`, of which the last is the prefix. -/
def IPV4_CIDR (text : List Char) : Option (Quad × List Char) :=
  match text.splitOn '/' with
  | [address, length] =>
    match IPV4 address with
    | some quad => if isDigits 2 length then some (quad, length) else none
    | none => none
  | _ => none

/-- Strip an IPv4-mapped IPv6 prefix so "::ffff:1.2.3.4" matches "1.2.3.4". -/
def normalizeIp (ip : Option (List Char)) : List Char :=
  match ip with
  | none => []
  | some ip =>
    if ip = [] then []
    else
      let trimmed := trim ip
      if "::ffff:".toList.isPrefixOf (trimmed.map Char.toLower) then trimmed.drop "::ffff:".length else trimmed

def ipv4ToInt (ip : List Char) : Option (BitVec 32) :=
  match IPV4 ip with
  | none => none
  | some m =>
    let octets := m.parts.map number
    if octets.any (255 < ·) then none
    else
      some (BitVec.ofNat 32 (number m.first) <<< 24 ||| BitVec.ofNat 32 (number m.second) <<< 16 |||
        BitVec.ofNat 32 (number m.third) <<< 8 ||| BitVec.ofNat 32 (number m.fourth))

/-- True when `entry` is a syntactically valid IPv4 address or IPv4 CIDR. -/
def isValidIpv4OrCidr (entry : List Char) : Bool :=
  let v := trim entry
  if (IPV4 v).isSome then (ipv4ToInt v).isSome
  else
    match IPV4_CIDR v with
    | none => false
    | some (quad, length) => if 32 < number length then false else (ipv4ToInt quad.text).isSome

/-- A shift by the width would shift by nothing: its count is taken modulo 32. -/
def matchesEntry (ipInt : BitVec 32) (entry : List Char) : Bool :=
  let v := trim entry
  match ipv4ToInt v with
  | some exact => exact = ipInt
  | none =>
    match IPV4_CIDR v with
    | none => false
    | some (quad, length) =>
      match ipv4ToInt quad.text with
      | none => false
      | some base =>
        let prefixLength := number length
        if 32 < prefixLength then false
        else if prefixLength = 0 then true
        else
          let mask := BitVec.allOnes 32 <<< ((32 - prefixLength) % 32)
          ipInt &&& mask = base &&& mask

/-- Whether `clientIp` is allowed; an empty allowlist allows everything. -/
def isIpAllowed (clientIp : Option (List Char)) (allowlist : Option (List (List Char))) : Bool :=
  match allowlist with
  | none => true
  | some allowlist =>
    if allowlist.length = 0 then true
    else
      match ipv4ToInt (normalizeIp clientIp) with
      | none => false
      | some ipInt => allowlist.any (matchesEntry ipInt)

/-! ## What the texts mean -/

/-- Four numbers of one to three digits, each a byte of the address. -/
def IsAddress (text : List Char) (address : BitVec 32) : Prop :=
  ∃ quad : Quad, text = quad.text ∧ (∀ part ∈ quad.parts, isDigits 3 part = true ∧ number part ≤ 255) ∧
    address.toNat = number quad.first * 2 ^ 24 + number quad.second * 2 ^ 16 + number quad.third * 2 ^ 8 +
      number quad.fourth

/-- An address, a slash and how many of its bits count. -/
def IsBlock (text : List Char) (base : BitVec 32) (length : ℕ) : Prop :=
  ∃ address digits, text = address ++ '/' :: digits ∧ IsAddress address base ∧ isDigits 2 digits = true ∧
    number digits = length ∧ length ≤ 32

/-- What the entry stands for holds the address. -/
def Lists (entry : List Char) (address : BitVec 32) : Prop :=
  IsAddress (trim entry) address ∨
    ∃ base length, IsBlock (trim entry) base length ∧ SamePrefix length address base

/-- What stands in front of the slash, if there is one. -/
def baseAddress (entry : List Char) : List Char := (trim entry).takeWhile (· ≠ '/')

theorem Quad.text_eq (quad : Quad) : quad.text = ['.'].intercalate quad.parts := by
  simp [Quad.text, Quad.parts, List.intercalate]

theorem isDigit_of_isDigits (digits : isDigits most text = true) : ∀ c ∈ text, c.isDigit = true := by
  simp only [isDigits, Bool.and_eq_true, List.all_eq_true] at digits
  exact digits.2

theorem not_mem_of_isDigits (digits : isDigits most text = true) (other : c.isDigit = false) : c ∉ text := by
  intro member
  rw [isDigit_of_isDigits digits c member] at other
  cases other

/-- The groups are what stands between the points. -/
theorem IPV4_eq_some {text : List Char} {quad : Quad} :
    IPV4 text = some quad ↔ text = quad.text ∧ ∀ part ∈ quad.parts, isDigits 3 part = true := by
  constructor
  · intro read
    unfold IPV4 at read
    split at read
    · rename_i first second third fourth split
      dsimp only at read
      split at read
      · rename_i digits
        cases read
        refine ⟨?_, List.all_eq_true.mp digits⟩
        have joined : ['.'].intercalate (text.splitOn '.') = text := List.intercalate_splitOn '.'
        rw [Quad.text_eq, ← joined, split]
        rfl
      · cases read
    · cases read
  · rintro ⟨rfl, digits⟩
    have split : quad.text.splitOn '.' = quad.parts := by
      rw [Quad.text_eq]
      refine List.splitOn_intercalate '.' ?_ nofun
      intro part member
      exact not_mem_of_isDigits (digits part member) rfl
    simp only [IPV4, split, Quad.parts]
    exact if_pos (List.all_eq_true.mpr digits)

theorem Quad.isDigit_or_point {quad : Quad} (digits : ∀ part ∈ quad.parts, isDigits 3 part = true) :
    ∀ c ∈ quad.text, c.isDigit = true ∨ c = '.' := by
  intro c member
  simp only [Quad.text, List.mem_append, List.mem_cons] at member
  simp only [Quad.parts, List.forall_mem_cons] at digits
  obtain ⟨first, second, third, fourth, -⟩ := digits
  rcases member with ((member | rfl | member) | rfl | member) | rfl | member
  · exact .inl (isDigit_of_isDigits first c member)
  · exact .inr rfl
  · exact .inl (isDigit_of_isDigits second c member)
  · exact .inr rfl
  · exact .inl (isDigit_of_isDigits third c member)
  · exact .inr rfl
  · exact .inl (isDigit_of_isDigits fourth c member)

theorem Quad.not_mem_text {quad : Quad} (digits : ∀ part ∈ quad.parts, isDigits 3 part = true)
    (other : c.isDigit = false) (noPoint : c ≠ '.') : c ∉ quad.text := by
  intro member
  rcases Quad.isDigit_or_point digits c member with digit | point
  · rw [digit] at other
    cases other
  · exact noPoint point

theorem IPV4_CIDR_eq_some {text length : List Char} {quad : Quad} :
    IPV4_CIDR text = some (quad, length) ↔
      text = quad.text ++ '/' :: length ∧ (∀ part ∈ quad.parts, isDigits 3 part = true) ∧
        isDigits 2 length = true := by
  constructor
  · intro read
    unfold IPV4_CIDR at read
    split at read
    · rename_i address digits split
      split at read
      · rename_i groups isQuad
        split at read
        · rename_i isLength
          cases read
          obtain ⟨rfl, parts⟩ := IPV4_eq_some.mp isQuad
          refine ⟨?_, parts, isLength⟩
          have joined : ['/'].intercalate (text.splitOn '/') = text := List.intercalate_splitOn '/'
          rw [← joined, split]
          simp [List.intercalate]
        · cases read
      · cases read
    · cases read
  · rintro ⟨rfl, parts, isLength⟩
    have split : (quad.text ++ '/' :: length).splitOn '/' = [quad.text, length] := by
      rw [List.splitOn_append_cons_self_of_not_mem (Quad.not_mem_text parts rfl (by decide)),
        List.splitOn_eq_singleton (not_mem_of_isDigits isLength rfl)]
    simp only [IPV4_CIDR, split]
    rw [IPV4_eq_some.mpr ⟨rfl, parts⟩]
    exact if_pos isLength

theorem toNat_octets {a b c d : ℕ} (first : a ≤ 255) (second : b ≤ 255) (third : c ≤ 255) (fourth : d ≤ 255) :
    (BitVec.ofNat 32 a <<< 24 ||| BitVec.ofNat 32 b <<< 16 ||| BitVec.ofNat 32 c <<< 8 |||
      BitVec.ofNat 32 d).toNat = a * 2 ^ 24 + b * 2 ^ 16 + c * 2 ^ 8 + d := by
  have shifted (n places : ℕ) (fits : n * 2 ^ places < 2 ^ 32) :
      (BitVec.ofNat 32 n <<< places).toNat = n <<< places := by
    have small : n < 2 ^ 32 := (Nat.le_mul_of_pos_right n (by positivity)).trans_lt fits
    rw [BitVec.toNat_shiftLeft, BitVec.toNat_ofNat, Nat.mod_eq_of_lt small, Nat.shiftLeft_eq, Nat.mod_eq_of_lt fits]
  rw [BitVec.toNat_or, BitVec.toNat_or, BitVec.toNat_or, shifted a 24 (by omega), shifted b 16 (by omega),
    shifted c 8 (by omega), BitVec.toNat_ofNat, Nat.mod_eq_of_lt (by omega : d < 2 ^ 32)]
  rw [Nat.or_assoc, Nat.or_assoc, ← Nat.shiftLeft_add_eq_or_of_lt (by omega) c,
    ← Nat.shiftLeft_add_eq_or_of_lt (by rw [Nat.shiftLeft_eq]; omega) b,
    ← Nat.shiftLeft_add_eq_or_of_lt (by simp only [Nat.shiftLeft_eq]; omega) a]
  simp only [Nat.shiftLeft_eq]
  omega

theorem ipv4ToInt_eq_some {text : List Char} {address : BitVec 32} :
    ipv4ToInt text = some address ↔ IsAddress text address := by
  unfold ipv4ToInt IsAddress
  constructor
  · intro read
    split at read
    · cases read
    · rename_i quad isQuad
      obtain ⟨rfl, digits⟩ := IPV4_eq_some.mp isQuad
      dsimp only at read
      split at read
      · cases read
      · rename_i bytes
        cases read
        have small : ∀ part ∈ quad.parts, number part ≤ 255 := by simpa using bytes
        refine ⟨quad, rfl, fun part member => ⟨digits part member, small part member⟩, ?_⟩
        exact toNat_octets (small _ (by simp [Quad.parts])) (small _ (by simp [Quad.parts]))
          (small _ (by simp [Quad.parts])) (small _ (by simp [Quad.parts]))
  · rintro ⟨quad, rfl, octets, value⟩
    rw [IPV4_eq_some.mpr ⟨rfl, fun part member => (octets part member).1⟩]
    have small : ¬(quad.parts.map number).any (255 < ·) = true := by
      simpa using fun part member => (octets part member).2
    dsimp only
    rw [if_neg small, Option.some.injEq]
    refine BitVec.eq_of_toNat_eq ?_
    rw [value]
    exact toNat_octets (octets _ (by simp [Quad.parts])).2 (octets _ (by simp [Quad.parts])).2
      (octets _ (by simp [Quad.parts])).2 (octets _ (by simp [Quad.parts])).2

theorem IsAddress.not_mem (isAddress : IsAddress text address) (other : c.isDigit = false) (noPoint : c ≠ '.') :
    c ∉ text := by
  obtain ⟨quad, rfl, octets, -⟩ := isAddress
  exact Quad.not_mem_text (fun part member => (octets part member).1) other noPoint

/-- With a slash in it, a text is no address. -/
theorem IsBlock.not_address (isBlock : IsBlock text base length) : ¬IsAddress text address := by
  rintro isAddress
  obtain ⟨base, digits, rfl, -⟩ := isBlock
  exact isAddress.not_mem (c := '/') rfl (by decide) (by simp)

theorem isBlock_iff {text : List Char} {base : BitVec 32} {length : ℕ} :
    IsBlock text base length ↔ ∃ quad digits, IPV4_CIDR text = some (quad, digits) ∧
      ipv4ToInt quad.text = some base ∧ number digits = length ∧ length ≤ 32 := by
  constructor
  · rintro ⟨_, digits, rfl, ⟨quad, rfl, octets, value⟩, isDigits, rfl, fits⟩
    have isCidr := IPV4_CIDR_eq_some.mpr ⟨rfl, fun part member => (octets part member).1, isDigits⟩
    refine ⟨quad, digits, isCidr, ?_, rfl, fits⟩
    exact ipv4ToInt_eq_some.mpr ⟨quad, rfl, octets, value⟩
  · rintro ⟨quad, digits, isCidr, isBase, rfl, fits⟩
    obtain ⟨rfl, -, isDigits⟩ := IPV4_CIDR_eq_some.mp isCidr
    exact ⟨quad.text, digits, rfl, ipv4ToInt_eq_some.mp isBase, isDigits, rfl, fits⟩

/-- The entries that are accepted are addresses and blocks. -/
theorem isValidIpv4OrCidr_iff (entry : List Char) :
    isValidIpv4OrCidr entry = true ↔
      (∃ address, IsAddress (trim entry) address) ∨ ∃ base length, IsBlock (trim entry) base length := by
  unfold isValidIpv4OrCidr
  dsimp only
  simp only [isBlock_iff, ← ipv4ToInt_eq_some]
  cases isQuad : IPV4 (trim entry) with
  | some quad =>
    have noBlock : ∀ groups, IPV4_CIDR (trim entry) ≠ some groups := by
      rintro ⟨other, digits⟩ isCidr
      obtain ⟨isText, parts⟩ := IPV4_eq_some.mp isQuad
      obtain ⟨slashed, -⟩ := IPV4_CIDR_eq_some.mp isCidr
      exact Quad.not_mem_text (c := '/') parts rfl (by decide) (by rw [← isText, slashed]; simp)
    simp [noBlock, Option.isSome_iff_exists]
  | none =>
    have noAddress : ipv4ToInt (trim entry) = none := by rw [ipv4ToInt, isQuad]
    cases isCidr : IPV4_CIDR (trim entry) with
    | none => simp [noAddress]
    | some groups =>
      obtain ⟨quad, digits⟩ := groups
      simp [noAddress, Option.isSome_iff_exists, and_comm]

/-- At length 0 nothing is compared; above it the shift stays below the width. -/
theorem compare_iff {length : ℕ} (fits : length ≤ 32) (address base : BitVec 32) :
    (length = 0 ∨ address &&& BitVec.allOnes 32 <<< ((32 - length) % 32) =
        base &&& BitVec.allOnes 32 <<< ((32 - length) % 32)) ↔ SamePrefix length address base := by
  by_cases all : length = 0
  · subst all
    exact iff_of_true (.inl rfl) (samePrefix_zero address base)
  · rw [Nat.mod_eq_of_lt (by omega), mask_eq_iff fits, or_iff_right all]

theorem matchesEntry_iff (address : BitVec 32) (entry : List Char) :
    matchesEntry address entry = true ↔ Lists entry address := by
  unfold matchesEntry Lists
  dsimp only
  cases isExact : ipv4ToInt (trim entry) with
  | some exact =>
    have isAddress := ipv4ToInt_eq_some.mp isExact
    simp only [decide_eq_true_eq]
    constructor
    · rintro rfl
      exact .inl isAddress
    · rintro (other | ⟨base, length, isBlock, -⟩)
      · rw [ipv4ToInt_eq_some.mpr other] at isExact
        exact (Option.some.inj isExact).symm
      · exact absurd isAddress isBlock.not_address
  | none =>
    have noAddress : ¬IsAddress (trim entry) address := by
      rw [← ipv4ToInt_eq_some, isExact]
      exact nofun
    simp only [isBlock_iff, noAddress, false_or]
    cases isCidr : IPV4_CIDR (trim entry) with
    | none => simp
    | some groups =>
      obtain ⟨quad, digits⟩ := groups
      cases isBase : ipv4ToInt quad.text with
      | none => simp [isBase]
      | some base =>
        simp only [Option.some.injEq, Prod.mk.injEq, isBase]
        constructor
        · intro accepted
          split at accepted
          · cases accepted
          · rename_i fits
            refine ⟨base, number digits, ⟨quad, digits, ⟨rfl, rfl⟩, isBase, rfl, not_lt.mp fits⟩, ?_⟩
            rw [← compare_iff (not_lt.mp fits)]
            split at accepted
            · exact .inl ‹_›
            · exact .inr (decide_eq_true_eq.mp accepted)
        · rintro ⟨_, _, ⟨_, _, ⟨rfl, rfl⟩, sameBase, rfl, fits⟩, same⟩
          rw [isBase] at sameBase
          cases sameBase
          rw [if_neg (not_lt.mpr fits)]
          rcases (compare_iff fits address base).mpr same with all | masked
          · rw [if_pos all]
          · rw [decide_eq_true masked, ite_self]

/-! ## An entry and its own address -/

theorem code_of_isDigit {c : Char} (digit : c.isDigit = true) : 48 ≤ c.toNat ∧ c.toNat ≤ 57 := by
  simp only [Char.isDigit, Bool.and_eq_true, decide_eq_true_eq] at digit
  exact ⟨UInt32.le_iff_toNat_le.mp digit.1, UInt32.le_iff_toNat_le.mp digit.2⟩

theorem isWhiteSpace_of_isDigit {c : Char} (digit : c.isDigit = true) : isWhiteSpace c = false := by
  obtain ⟨low, high⟩ := code_of_isDigit digit
  simp only [isWhiteSpace, Bool.or_eq_false_iff, Bool.and_eq_false_iff, decide_eq_false_iff_not]
  omega

theorem toLower_of_isDigit {c : Char} (digit : c.isDigit = true) : c.toLower = c := by
  obtain ⟨low, high⟩ := code_of_isDigit digit
  unfold Char.toLower
  rw [dif_neg]
  rintro ⟨upper, -⟩
  have := UInt32.le_iff_toNat_le.mp upper
  change 65 ≤ c.toNat at this
  omega

theorem trim_eq_self (solid : ∀ c ∈ text, isWhiteSpace c = false) : trim text = text := by
  have front : text.dropWhile isWhiteSpace = text := by
    cases text with
    | nil => rfl
    | cons first rest =>
      rw [List.dropWhile_cons_of_neg]
      rw [solid first List.mem_cons_self]
      exact nofun
  unfold trim
  rw [front, List.rdropWhile_eq_self_iff]
  intro some
  rw [solid _ (List.getLast_mem some)]
  exact nofun

theorem IsAddress.isDigit_or_point (isAddress : IsAddress text address) :
    ∀ c ∈ text, c.isDigit = true ∨ c = '.' := by
  obtain ⟨quad, rfl, octets, -⟩ := isAddress
  exact Quad.isDigit_or_point fun part member => (octets part member).1

/-- A dotted quad is left as it is. -/
theorem IsAddress.normalizeIp (isAddress : IsAddress text address) : normalizeIp (some text) = text := by
  have solid : ∀ c ∈ text, isWhiteSpace c = false ∧ c.toLower = c := by
    intro c member
    rcases isAddress.isDigit_or_point c member with digit | rfl
    · exact ⟨isWhiteSpace_of_isDigit digit, toLower_of_isDigit digit⟩
    · exact ⟨rfl, rfl⟩
  have noColon : ':' ∉ text := isAddress.not_mem rfl (by decide)
  have lower : text.map Char.toLower = text := by
    conv_rhs => rw [← List.map_id text]
    exact List.map_congr_left fun c member => (solid c member).2
  unfold IpAllowlist.normalizeIp
  dsimp only
  rw [trim_eq_self fun c member => (solid c member).1, lower]
  split
  · exact (‹text = []›).symm
  · rw [if_neg]
    intro mapped
    obtain ⟨rest, rfl⟩ := List.isPrefixOf_iff_prefix.mp mapped
    exact noColon (by simp)

theorem IsAddress.noSlash (isAddress : IsAddress text address) : ∀ c ∈ text, decide (c ≠ '/') = true := by
  intro c member
  refine decide_eq_true ?_
  rintro rfl
  exact isAddress.not_mem rfl (by decide) member

theorem baseAddress_isAddress (valid : isValidIpv4OrCidr entry = true) :
    ∃ address, IsAddress (baseAddress entry) address ∧ Lists entry address := by
  rcases (isValidIpv4OrCidr_iff entry).mp valid with ⟨address, isAddress⟩ | ⟨base, length, isBlock⟩
  · refine ⟨address, ?_, .inl isAddress⟩
    have whole : baseAddress entry = trim entry := List.takeWhile_eq_self_iff.mpr isAddress.noSlash
    rwa [whole]
  · refine ⟨base, ?_, .inr ⟨base, length, isBlock, SamePrefix.refl length base⟩⟩
    obtain ⟨address, digits, isText, isAddress, -⟩ := isBlock
    have front : baseAddress entry = address := by
      unfold baseAddress
      rw [isText, List.takeWhile_append_of_pos isAddress.noSlash]
      simp
    rwa [front]

/-- An address is let in if there is no list, or what remains of it after
normalization is an IPv4 address in a listed block. -/
theorem isIpAllowed_iff (clientIp : Option (List Char)) (allowlist : Option (List (List Char))) :
    isIpAllowed clientIp allowlist = true ↔ allowlist.getD [] = [] ∨
      ∃ address, IsAddress (normalizeIp clientIp) address ∧ ∃ entry ∈ allowlist.getD [], Lists entry address := by
  unfold isIpAllowed
  cases allowlist with
  | none => simp
  | some entries =>
    simp only [Option.getD_some, List.length_eq_zero_iff]
    by_cases empty : entries = []
    · simp [empty]
    · rw [if_neg empty, or_iff_right empty]
      cases isClient : ipv4ToInt (normalizeIp clientIp) with
      | none =>
        simp only [← ipv4ToInt_eq_some, isClient]
        simp
      | some address => simp [← ipv4ToInt_eq_some, isClient, matchesEntry_iff]

/-- And what an accepted entry is written with is let in by it. -/
theorem allows_exactly_listed (clientIp : Option (List Char)) (allowlist : Option (List (List Char))) :
    (isIpAllowed clientIp allowlist = true ↔ allowlist.getD [] = [] ∨
      ∃ address, IsAddress (normalizeIp clientIp) address ∧ ∃ entry ∈ allowlist.getD [], Lists entry address) ∧
    ∀ entry ∈ allowlist.getD [], isValidIpv4OrCidr entry = true →
      isIpAllowed (some (baseAddress entry)) allowlist = true := by
  refine ⟨isIpAllowed_iff clientIp allowlist, ?_⟩
  intro entry member valid
  obtain ⟨address, isAddress, lists⟩ := baseAddress_isAddress valid
  refine (isIpAllowed_iff _ _).mpr (.inr ⟨address, ?_, entry, member, lists⟩)
  rwa [isAddress.normalizeIp]

theorem office_range_listed :
    (isIpAllowed (some "::ffff:10.1.2.3".toList) (some [" 10.0.0.0/8".toList]) = true ↔
      (some [" 10.0.0.0/8".toList]).getD [] = [] ∨ ∃ address, IsAddress (normalizeIp (some "::ffff:10.1.2.3".toList)) address ∧
        ∃ entry ∈ (some [" 10.0.0.0/8".toList]).getD [], Lists entry address) ∧
    isIpAllowed (some "10.0.0.0".toList) (some [" 10.0.0.0/8".toList]) = true := by
  have listed := allows_exactly_listed (some "::ffff:10.1.2.3".toList) (some [" 10.0.0.0/8".toList])
  exact ⟨listed.1, listed.2 " 10.0.0.0/8".toList (by decide) (by decide +kernel)⟩

/-- An IPv6 address is not let in by a list it stands in. -/
theorem ipv6_not_allowed : ¬∀ (clientIp : List Char) (allowlist : List (List Char)),
    isIpAllowed (some clientIp) (some allowlist) = true ↔ ∃ entry ∈ allowlist,
      entry = clientIp ∨ ∃ address, IsAddress (normalizeIp (some clientIp)) address ∧ Lists entry address := by
  intro always
  have allowed := (always "2001:db8::1".toList ["2001:db8::1".toList]).mpr ⟨_, List.mem_singleton_self _, .inl rfl⟩
  revert allowed
  decide +kernel

end Exchange.IpAllowlist
