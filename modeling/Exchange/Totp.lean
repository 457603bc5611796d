import Exchange.BitGroups
import Exchange.Numerals
import Exchange.Text

/-! One-time passwords: those of users and the copy for admins. Secrets are
exchanged in base 32, whose text regroups the bits of the bytes by five. -/
namespace Exchange.Totp
open BitGroups

abbrev Bytes := List UInt8

def BASE32_ALPHABET : Text := "ABCDEFGHIJKLMNOPQRSTUVWXYZ234567".toList

/-! ## Base 32 -/

def symbol (group : List Bool) : Char := BASE32_ALPHABET.getD (value group) 'A'

def padEnd (length : ℕ) (digits : List Bool) : List Bool := digits ++ List.replicate (length - digits.length) false

def base32Encode (buf : Bytes) : Text :=
  let digits := buf.flatMap fun byte => bits 8 byte.toNat
  let out := (pieces 5 digits).map symbol
  if digits.length % 5 ≠ 0 then out ++ [symbol (padEnd 5 (remainder 5 digits))] else out

/-- Nothing, if a character is none of the alphabet. -/
def decode (input : Text) : Bytes :=
  match input.mapM fun char => BASE32_ALPHABET.idxOf? char with
  | none => []
  | some values => (pieces 8 (values.flatMap (bits 5))).map fun piece => UInt8.ofNat (value piece)

/-- `toUpperCase` as far as it ends in characters of the alphabet: besides the
small letters these are the dotless i, the long s, the sharp s and ligatures. -/
def upperCase (char : Char) : Text :=
  match char.toNat with
  | 0xDF => "SS".toList
  | 0x131 => "I".toList
  | 0x17F => "S".toList
  | 0xFB00 => "FF".toList
  | 0xFB01 => "FI".toList
  | 0xFB02 => "FL".toList
  | 0xFB03 => "FFI".toList
  | 0xFB04 => "FFL".toList
  | 0xFB05 => "ST".toList
  | 0xFB06 => "ST".toList
  | _ => [char.toUpper]

def normalizeBase32 (input : Text) : Text :=
  ((input.rdropWhile fun char => char = '=').filter fun char => !Text.isSpace char).flatMap upperCase

def base32ToBuffer (input : Text) : Bytes := decode (normalizeBase32 input)

/-! ## Codes -/

section
variable (hmacSha1 : Bytes → Bytes → Bytes)

/-- What is out of range throws. -/
def writeBigUInt64BE (counter : ℤ) : Option Bytes :=
  if 0 ≤ counter ∧ counter < 2 ^ 64 then
    some ((List.range 8).map fun i => UInt8.ofNat (counter.toNat / 256 ^ (7 - i)))
  else none

/-- The number that a digest is cut down to. -/
def truncated (digest : Bytes) : ℕ :=
  let offset := (digest.getD (digest.length - 1) 0).toNat &&& 0x0f
  (((digest.getD offset 0).toNat &&& 0x7f) <<< 24) ||| (((digest.getD (offset + 1) 0).toNat &&& 0xff) <<< 16) |||
    (((digest.getD (offset + 2) 0).toNat &&& 0xff) <<< 8) ||| ((digest.getD (offset + 3) 0).toNat &&& 0xff)

/-- The code of a period, with so many digits. -/
def codeAt (period : ℤ) (modulus digits : ℕ) (secret : Bytes) (timestamp : ℤ) : Option Text := do
  let msg ← writeBigUInt64BE (timestamp / period)
  return Numerals.padStart digits (toString (truncated (hmacSha1 secret msg) % modulus)).toList

/-- The first of the skews whose code is presented decides. -/
def matchesAny (codeOf : ℤ → Option Text) (presented : Text) : List ℤ → Option Bool
  | [] => some false
  | skew :: skews => do
    let expected ← codeOf skew
    if presented = expected then return true else matchesAny codeOf presented skews

def PERIOD_MS : ℤ := 30000

def DIGITS : ℕ := 6

def totpCode (secretBase32 : Text) (timestamp : ℤ) : Option Text :=
  let secret := base32ToBuffer secretBase32
  if secret = [] then some [] else codeAt hmacSha1 PERIOD_MS (10 ^ DIGITS) DIGITS secret timestamp

/-- `/^\d{6}$/`. -/
def isSixDigits (code : Text) : Bool := code.length = 6 && code.all Char.isDigit

def verifyTotp (secretBase32 code : Text) (timestamp : ℤ) : Option Bool :=
  let candidate := Text.trim code
  if !isSixDigits candidate then some false
  else if base32ToBuffer secretBase32 = [] then some false
  else matchesAny (fun skew => totpCode hmacSha1 secretBase32 (timestamp + skew)) candidate [-PERIOD_MS, 0, PERIOD_MS]

namespace AdminRbac

def base32Encode (buf : Bytes) : Text := Totp.base32Encode buf

def normalizeBase32Str (input : Text) : Text := normalizeBase32 input

/-- Of a text that is normal already. -/
def base32ToBuffer (input : Text) : Bytes := decode input

def totp (secret : Bytes) (timestamp : ℤ) : Option Text := codeAt hmacSha1 30000 1000000 6 secret timestamp

/-- Of a secret as it was unsealed, which is then brought into normal form. -/
def verifyTotp (unsealed code : Text) (now : ℤ) : Option Bool :=
  let secret := base32ToBuffer (normalizeBase32Str unsealed)
  if secret = [] then some false
  else matchesAny (fun skew => totp hmacSha1 secret (now + skew)) code [-30000, 0, 30000]

end AdminRbac

/-! ## What is asked of the copies -/

structure CopiesAgree : Prop where
  roundTrip : ∀ b, base32ToBuffer (base32Encode b) = b
  adminRoundTrip : ∀ b, AdminRbac.base32ToBuffer (AdminRbac.base32Encode b) = b
  code : ∀ secret timestamp, AdminRbac.totp hmacSha1 secret timestamp =
    totpCode hmacSha1 (base32Encode secret) timestamp

/-- What holds of the copies. -/
structure CopiesMatch : Prop where
  roundTrip : ∀ b, base32ToBuffer (base32Encode b) = b
  adminRoundTrip : ∀ b, AdminRbac.base32ToBuffer (AdminRbac.base32Encode b) = b
  code : ∀ secret timestamp, secret ≠ [] → AdminRbac.totp hmacSha1 secret timestamp =
    totpCode hmacSha1 (base32Encode secret) timestamp
  /-- For secrets in any form, the same codes are accepted. -/
  window : ∀ secretBase32 code timestamp, isSixDigits code →
    AdminRbac.verifyTotp hmacSha1 secretBase32 code timestamp = verifyTotp hmacSha1 secretBase32 code timestamp

end

/-! ## The round trip -/

theorem indexOf_symbol (isGroup : group.length = 5) : BASE32_ALPHABET.idxOf? (symbol group) = some (value group) := by
  have small : value group < 32 := by
    have bound := value_lt group
    rwa [isGroup] at bound
  rw [symbol]
  generalize value group = n at small
  have each : ∀ n < 32, BASE32_ALPHABET.idxOf? (BASE32_ALPHABET.getD n 'A') = some n := by decide +kernel
  exact each n small

theorem symbol_mem (isGroup : group.length = 5) : symbol group ∈ BASE32_ALPHABET := by
  obtain ⟨inRange, same, -⟩ := List.idxOf?_eq_some_iff.mp (indexOf_symbol isGroup)
  rw [← same]
  exact List.getElem_mem inRange

/-- Symbols are decoded to the bits they stand for. -/
theorem decode_symbols (groups : List (List Bool)) (isGroup : ∀ group ∈ groups, group.length = 5) :
    decode (groups.map symbol) = (pieces 8 groups.flatten).map fun piece => UInt8.ofNat (value piece) := by
  have values : (groups.map symbol).mapM (fun char => BASE32_ALPHABET.idxOf? char) = some (groups.map value) := by
    induction groups with
    | nil => rfl
    | cons group groups ih =>
      obtain ⟨isFirst, later⟩ := List.forall_mem_cons.mp isGroup
      rw [List.map_cons, List.mapM_cons, indexOf_symbol isFirst, ih later]
      rfl
  have regrouped : (groups.map value).flatMap (bits 5) = groups.flatten := by
    rw [List.flatMap_map, ← List.flatMap_id]
    refine List.flatMap_congr fun group member => ?_
    have same := bits_value group
    rwa [isGroup group member] at same
  rw [decode, values]
  dsimp only
  rw [regrouped]

/-- The text of some bytes is that of groups of their bits, with less than a
group of zeros at the end. -/
theorem base32Encode_groups (b : Bytes) : ∃ (groups : List (List Bool)) (padding : List Bool),
    base32Encode b = groups.map symbol ∧ (∀ group ∈ groups, group.length = 5) ∧ padding.length < 5 ∧
      groups.flatten = (b.flatMap fun byte => bits 8 byte.toNat) ++ padding := by
  rw [base32Encode]
  generalize (b.flatMap fun byte => bits 8 byte.toNat) = digits
  have whole := flatten_pieces (by decide : 0 < 5) digits
  have left := length_remainder 5 digits
  have some' : digits.length % 5 < 5 := Nat.mod_lt _ (by decide)
  by_cases none : digits.length % 5 = 0
  · have isNil : remainder 5 digits = [] := List.eq_nil_of_length_eq_zero (left.trans none)
    refine ⟨pieces 5 digits, [], if_neg (not_not.mpr none), fun group => length_piece, by decide, ?_⟩
    rw [isNil] at whole
    rw [List.append_nil, ← List.append_nil (pieces 5 digits).flatten, whole]
  · refine ⟨pieces 5 digits ++ [padEnd 5 (remainder 5 digits)],
      List.replicate (5 - (remainder 5 digits).length) false, ?_, fun group member => ?_, ?_, ?_⟩
    · rw [if_pos none, List.map_append, List.map_singleton]
    · rcases List.mem_append.mp member with piece | last
      · exact length_piece piece
      · rw [List.mem_singleton.mp last, padEnd, List.length_append, List.length_replicate]
        omega
    · rw [List.length_replicate]
      omega
    · rw [List.flatten_append, List.flatten_singleton, padEnd, ← List.append_assoc, whole]

theorem decode_base32Encode (b : Bytes) : decode (base32Encode b) = b := by
  obtain ⟨groups, padding, isText, isGroup, short, isFlat⟩ := base32Encode_groups b
  have eights : pieces 8 ((b.map fun byte => bits 8 byte.toNat).flatten ++ padding) = b.map fun byte => bits 8 byte.toNat := by
    refine pieces_flatten (by decide) _ (fun piece member => ?_) (by omega)
    obtain ⟨byte, -, rfl⟩ := List.mem_map.mp member
    exact length_bits 8 _
  rw [isText, decode_symbols groups isGroup, isFlat, List.flatMap_def, eights, List.map_map]
  refine (List.map_congr_left fun byte _ => ?_).trans (List.map_id b)
  rw [Function.comp_apply, value_bits byte.toNat_lt, UInt8.ofNat_toNat, id]

theorem upperCase_ascii (ascii : char.toNat < 128) : upperCase char = [char.toUpper] := by
  unfold upperCase
  split
  all_goals first | rfl | omega

theorem printable_not_space (low : 32 < char.toNat) (high : char.toNat < 128) : Text.isSpace char = false := by
  simp only [Text.isSpace, List.mem_cons, List.not_mem_nil, or_false, Bool.or_eq_false_iff, decide_eq_false_iff_not,
    Bool.and_eq_false_iff]
  omega

/-- The text of some bytes is normal. -/
theorem normalizeBase32_base32Encode (b : Bytes) : normalizeBase32 (base32Encode b) = base32Encode b := by
  have capitals : BASE32_ALPHABET.all fun char =>
      32 < char.toNat && char.toNat < 128 && char != '=' && char.toUpper == char := by decide +kernel
  have normal (char : Char) (member : char ∈ BASE32_ALPHABET) :
      char ≠ '=' ∧ Text.isSpace char = false ∧ upperCase char = [char] := by
    obtain ⟨⟨⟨low, high⟩, unpadded⟩, upper⟩ : ((32 < char.toNat ∧ char.toNat < 128) ∧ char ≠ '=') ∧ char.toUpper = char := by
      simpa using List.all_eq_true.mp capitals char member
    exact ⟨unpadded, printable_not_space low high, by rw [upperCase_ascii high, upper]⟩
  obtain ⟨groups, -, isText, isGroup, -, -⟩ := base32Encode_groups b
  have inAlphabet : ∀ char ∈ base32Encode b, char ∈ BASE32_ALPHABET := by
    intro char member
    rw [isText] at member
    obtain ⟨group, isMember, rfl⟩ := List.mem_map.mp member
    exact symbol_mem (isGroup group isMember)
  generalize base32Encode b = text at inAlphabet
  have unpadded : (text.rdropWhile fun char => char = '=') = text := by
    refine List.rdropWhile_eq_self_iff.mpr fun nonempty => ?_
    simpa using (normal _ (inAlphabet _ (List.getLast_mem nonempty))).1
  have unspaced : (text.filter fun char => !Text.isSpace char) = text := by
    refine List.filter_eq_self.mpr fun char member => ?_
    rw [(normal char (inAlphabet char member)).2.1]
    rfl
  have capital : text.flatMap upperCase = text :=
    (List.flatMap_congr fun char member => (normal char (inAlphabet char member)).2.2).trans (List.flatMap_singleton' text)
  rw [normalizeBase32, unpadded, unspaced, capital]

theorem base32ToBuffer_base32Encode (b : Bytes) : base32ToBuffer (base32Encode b) = b := by
  rw [base32ToBuffer, normalizeBase32_base32Encode, decode_base32Encode]

/-! ## The copies -/

theorem dropWhile_of_none {text : Text} (none : ∀ char ∈ text, Text.isSpace char = false) :
    text.dropWhile Text.isSpace = text := by
  cases text with
  | nil => rfl
  | cons char text => rw [List.dropWhile_cons_of_neg (by rw [none char List.mem_cons_self]; decide)]

theorem digit_not_space (digit : char.isDigit) : Text.isSpace char = false := by
  simp only [Char.isDigit, Bool.and_eq_true, decide_eq_true_eq] at digit
  obtain ⟨low, high⟩ : 48 ≤ char.toNat ∧ char.toNat ≤ 57 := digit
  exact printable_not_space (by omega) (by omega)

/-- Six digits have no white space around them. -/
theorem trim_sixDigits (sixDigits : isSixDigits code) : Text.trim code = code := by
  simp only [isSixDigits, Bool.and_eq_true, List.all_eq_true] at sixDigits
  have none : ∀ char ∈ code, Text.isSpace char = false := fun char member => digit_not_space (sixDigits.2 char member)
  rw [Text.trim, dropWhile_of_none none, dropWhile_of_none, List.reverse_reverse]
  exact fun char member => none char (List.mem_reverse.mp member)

theorem totpCode_of_nonempty {hmacSha1 : Bytes → Bytes → Bytes} (nonempty : base32ToBuffer secretBase32 ≠ []) :
    totpCode hmacSha1 secretBase32 timestamp = AdminRbac.totp hmacSha1 (base32ToBuffer secretBase32) timestamp := by
  rw [totpCode, if_neg nonempty]
  rfl

/-- The copies differ in what they make of an empty secret only. -/
theorem totp_copies_match (hmacSha1 : Bytes → Bytes → Bytes) : CopiesMatch hmacSha1 where
  roundTrip := base32ToBuffer_base32Encode
  adminRoundTrip := decode_base32Encode
  code secret timestamp nonempty := by
    have isSecret := base32ToBuffer_base32Encode secret
    rw [totpCode_of_nonempty (isSecret.symm ▸ nonempty), isSecret]
  window secretBase32 code timestamp sixDigits := by
    have isSecret : AdminRbac.base32ToBuffer (AdminRbac.normalizeBase32Str secretBase32) = base32ToBuffer secretBase32 :=
      rfl
    rw [verifyTotp, AdminRbac.verifyTotp, trim_sixDigits sixDigits, sixDigits, isSecret, Bool.not_true,
      if_neg Bool.false_ne_true]
    split
    · rfl
    · rename_i nonempty
      simp only [totpCode_of_nonempty nonempty]
      rfl

/-- The key of the test vectors, and its digest at the first counter. -/
def vectorKey : Bytes := [49, 50, 51, 52, 53, 54, 55, 56, 57, 48, 49, 50, 51, 52, 53, 54, 55, 56, 57, 48]

def vectorDigest : Bytes :=
  [117, 164, 138, 25, 212, 203, 225, 0, 100, 78, 138, 193, 57, 126, 234, 116, 122, 45, 51, 171]

example : totpCode (fun _ _ => vectorDigest) (base32Encode vectorKey) 59000 = some "287082".toList := by
  decide +kernel

/-- The digest for an empty key, at counter zero. -/
def emptyKeyDigest : Bytes :=
  [218, 182, 154, 217, 142, 40, 118, 79, 151, 126, 226, 72, 126, 79, 63, 104, 115, 178, 162, 151]

/-- The copy has a code where there is no secret. -/
theorem empty_secret_has_code : ¬CopiesAgree fun _ _ => emptyKeyDigest := by
  intro agree
  have same := agree.code [] 0
  revert same
  decide +kernel

end Exchange.Totp
