import Mathlib

/-! Text and numbers as bytes: UTF-8, lossy decoding, decimal digits and big-endian lengths. -/

namespace Nightdrop

/-- Raw bytes. -/
abbrev Bytes := List UInt8

/-- The UTF-8 bytes of a text. -/
def utf8 (text : String) : Bytes := text.toUTF8.data.toList

/-- The text whose UTF-8 bytes these are, if they are valid. -/
def fromUtf8 (bytes : Bytes) : Option String := String.fromUTF8? ⟨bytes.toArray⟩

/-- Whether `b` continues a multi-byte character. -/
def continues (b : UInt8) : Bool := 0x80 ≤ b ∧ b ≤ 0xBF

/-- Whether `second` may follow the leading byte `first` of a character of three or four bytes. -/
def mayFollow (first second : UInt8) : Bool :=
  if first = 0xE0 then 0xA0 ≤ second ∧ second ≤ 0xBF
  else if first = 0xED then 0x80 ≤ second ∧ second ≤ 0x9F
  else if first = 0xF0 then 0x90 ≤ second ∧ second ≤ 0xBF
  else if first = 0xF4 then 0x80 ≤ second ∧ second ≤ 0x8F
  else continues second

/-- How many bytes after its leading byte a character promises; `none` if no character leads so. -/
def promised (first : UInt8) : Option Nat :=
  if first < 0x80 then some 0
  else if 0xC2 ≤ first ∧ first ≤ 0xDF then some 1
  else if 0xE0 ≤ first ∧ first ≤ 0xEF then some 2
  else if 0xF0 ≤ first ∧ first ≤ 0xF4 then some 3
  else none

/-- How many of the promised bytes are really there. -/
def present (first : UInt8) (rest : Bytes) : Nat :=
  match promised first, rest with
  | some (k + 1), second :: more =>
    if (if k = 0 then continues second else mayFollow first second)
    then 1 + ((more.take k).takeWhile continues).length else 0
  | _, _ => 0

/-- The characters of possibly invalid bytes, each maximal broken run read as U+FFFD. -/
def lossyChars : Nat → Bytes → List Char
  | 0, _ => []
  | _ + 1, [] => []
  | fuel + 1, first :: rest =>
    let n := present first rest
    let char :=
      if promised first = some n then
        ((fromUtf8 (first :: rest.take n)).bind (·.toList.head?)).getD '\uFFFD'
      else '\uFFFD'
    char :: lossyChars fuel (rest.drop n)

/-- The text of possibly invalid bytes. -/
def fromUtf8Lossy (bytes : Bytes) : String :=
  match fromUtf8 bytes with
  | some text => text
  | none => String.ofList (lossyChars bytes.length bytes)

/-- Reading back the bytes of a text gives the text. -/
@[simp] theorem fromUtf8_utf8 (text : String) : fromUtf8 (utf8 text) = some text := by
  unfold fromUtf8 utf8 String.fromUTF8?
  simp only [String.toUTF8_eq_toByteArray, Array.toArray_toList]
  rw [dif_pos text.isValidUTF8]
  rfl

/-- Nothing is lost on bytes that were a text. -/
@[simp] theorem fromUtf8Lossy_utf8 (text : String) : fromUtf8Lossy (utf8 text) = text := by
  simp [fromUtf8Lossy]

/-- A text takes as many bytes as its length says. -/
@[simp] theorem length_utf8 (text : String) : (utf8 text).length = text.utf8ByteSize := by
  simp [utf8]

/-- Different texts have different bytes. -/
theorem utf8_inj {a b : String} : utf8 a = utf8 b ↔ a = b := by
  constructor
  · intro same
    have read := congrArg fromUtf8 same
    simpa using read
  · rintro rfl
    rfl

example : fromUtf8Lossy [0x61, 0xF0, 0x9F, 0x62, 0xFF] = "a\uFFFDb\uFFFD" := by decide +kernel

/-- The decimal digits of a number, as bytes of text. -/
def decimal (n : Nat) : Bytes := utf8 n.repr

/-- The number a run of decimal digits says, if it is one and at most `max`; a sign may lead. -/
def parseDecimal (max : Nat) (text : String) : Option Nat :=
  let digits := if text.toList.head? = some '+' then text.toList.tail else text.toList
  if digits ≠ [] ∧ digits.all Char.isDigit ∧ Nat.ofDigitChars 10 digits 0 ≤ max then
    some (Nat.ofDigitChars 10 digits 0)
  else none

/-- A number's own digits say that number. -/
theorem parseDecimal_repr {max n : Nat} (fits : n ≤ max) : parseDecimal max n.repr = some n := by
  have digits : n.repr.toList = Nat.toDigits 10 n := Nat.toList_repr
  -- The first digit is a digit, so it is no sign.
  have noSign : n.repr.toList.head? ≠ some '+' := by
    intro leads
    have member : '+' ∈ Nat.toDigits 10 n := by
      rw [← digits]
      exact List.mem_of_head? leads
    exact absurd (Nat.isDigit_of_mem_toDigits (by decide) (by decide) member) (by decide)
  unfold parseDecimal
  rw [if_neg noSign, digits]
  have allDigits : (Nat.toDigits 10 n).all Char.isDigit = true := by
    rw [List.all_eq_true]
    intro c member
    exact Nat.isDigit_of_mem_toDigits (by decide) (by decide) member
  simp [allDigits, Nat.toDigits_ne_nil, fits]

/-- A text of single-byte characters takes one byte for each. -/
theorem utf8ByteSize_ofList_of_narrow {chars : List Char} (narrow : ∀ c ∈ chars, c.utf8Size = 1) :
    (String.ofList chars).utf8ByteSize = chars.length := by
  induction chars with
  | nil => rfl
  | cons c rest ih =>
    have head : c.utf8Size = 1 := narrow c (by simp)
    have tail := ih (fun d member => narrow d (by simp [member]))
    rw [String.ofList_cons, String.utf8ByteSize_append, String.utf8ByteSize_singleton, tail, head]
    simp [Nat.add_comm]

/-- A number has as many bytes as decimal digits. -/
theorem length_decimal (n : Nat) : (decimal n).length = (Nat.toDigits 10 n).length := by
  unfold decimal
  rw [length_utf8, Nat.repr_eq_ofList_toDigits]
  apply utf8ByteSize_ofList_of_narrow
  intro c member
  have digit : c.isDigit := Nat.isDigit_of_mem_toDigits (by decide) (by decide) member
  rw [Char.utf8Size_eq_one_iff]
  simp only [Char.isDigit, Bool.and_eq_true, decide_eq_true_eq] at digit
  exact UInt32.le_trans digit.2 (by decide)

/-- A length as four bytes, most significant first. -/
def be32 (n : Nat) : Bytes :=
  [UInt8.ofNat (n / 2 ^ 24), UInt8.ofNat (n / 2 ^ 16), UInt8.ofNat (n / 2 ^ 8), UInt8.ofNat n]

/-- The length four bytes say. -/
def ofBe32 (a b c d : UInt8) : Nat :=
  a.toNat * 2 ^ 24 + b.toNat * 2 ^ 16 + c.toNat * 2 ^ 8 + d.toNat

/-- The field a length leads, and what follows it. -/
def takeField : Bytes → Option (Bytes × Bytes)
  | a :: b :: c :: d :: rest =>
    let n := ofBe32 a b c d
    if n ≤ rest.length then some (rest.take n, rest.drop n) else none
  | _ => none

/-- A field led by its length. -/
def putField (field : Bytes) : Bytes := be32 field.length ++ field

/-- A field is taken back whole, with what follows it untouched. -/
@[simp] theorem takeField_putField {field : Bytes} (rest : Bytes) (fits : field.length < 2 ^ 32) :
    takeField (putField field ++ rest) = some (field, rest) := by
  have length : ofBe32 (UInt8.ofNat (field.length / 2 ^ 24)) (UInt8.ofNat (field.length / 2 ^ 16))
      (UInt8.ofNat (field.length / 2 ^ 8)) (UInt8.ofNat field.length) = field.length := by
    simp only [ofBe32, UInt8.toNat_ofNat']
    omega
  simp only [putField, be32, List.cons_append, List.nil_append, takeField]
  rw [length]
  simp

/-- What follows a mark that leads some bytes. -/
def stripMark (mark bytes : Bytes) : Option Bytes :=
  if mark.isPrefixOf bytes then some (bytes.drop mark.length) else none

/-- What was put behind a mark is what follows it. -/
@[simp] theorem stripMark_append (mark rest : Bytes) : stripMark mark (mark ++ rest) = some rest := by
  simp [stripMark]

end Nightdrop
