import Mathlib.Data.List.Basic

/-! Base64 with the standard alphabet and canonical padding, and its round trip. -/

namespace Nightdrop.Base64

/-- The character of one six-bit digit. -/
def digit (n : Nat) : Char :=
  if n < 26 then Char.ofNat (65 + n)
  else if n < 52 then Char.ofNat (97 + (n - 26))
  else if n < 62 then Char.ofNat (48 + (n - 52))
  else if n = 62 then '+' else '/'

/-- The six-bit digit of a character of the alphabet. -/
def value (c : Char) : Option Nat :=
  if 65 ≤ c.toNat ∧ c.toNat ≤ 90 then some (c.toNat - 65)
  else if 97 ≤ c.toNat ∧ c.toNat ≤ 122 then some (c.toNat - 97 + 26)
  else if 48 ≤ c.toNat ∧ c.toNat ≤ 57 then some (c.toNat - 48 + 52)
  else if c = '+' then some 62
  else if c = '/' then some 63
  else none

/-- Three bytes at a time, with padding behind the last group. -/
def encodeChars : List UInt8 → List Char
  | [] => []
  | [a] => [digit (a.toNat / 4), digit (a.toNat % 4 * 16), '=', '=']
  | [a, b] =>
    [digit (a.toNat / 4), digit (a.toNat % 4 * 16 + b.toNat / 16), digit (b.toNat % 16 * 4), '=']
  | a :: b :: c :: rest =>
    digit (a.toNat / 4) :: digit (a.toNat % 4 * 16 + b.toNat / 16)
      :: digit (b.toNat % 16 * 4 + c.toNat / 64) :: digit (c.toNat % 64) :: encodeChars rest

/-- The bytes of one full group. -/
def decodeFull (w x y z : Char) : Option (List UInt8) :=
  (value w).bind fun w => (value x).bind fun x => (value y).bind fun y => (value z).bind fun z =>
    some [UInt8.ofNat (w * 4 + x / 16), UInt8.ofNat (x % 16 * 16 + y / 4),
      UInt8.ofNat (y % 4 * 64 + z)]

/-- The bytes of the last group, which may be padded; bits that padding cuts off must be zero. -/
def decodeLast (w x y z : Char) : Option (List UInt8) :=
  if z ≠ '=' then decodeFull w x y z
  else if y ≠ '=' then
    (value w).bind fun w => (value x).bind fun x => (value y).bind fun y =>
      if y % 4 = 0 then
        some [UInt8.ofNat (w * 4 + x / 16), UInt8.ofNat (x % 16 * 16 + y / 4)]
      else none
  else
    (value w).bind fun w => (value x).bind fun x =>
      if x % 16 = 0 then some [UInt8.ofNat (w * 4 + x / 16)] else none

def decodeChars : List Char → Option (List UInt8)
  | [] => some []
  | [w, x, y, z] => decodeLast w x y z
  | w :: x :: y :: z :: rest =>
    (decodeFull w x y z).bind fun group => (decodeChars rest).map (group ++ ·)
  | _ => none

def encode (bytes : List UInt8) : String := String.ofList (encodeChars bytes)

def decode (text : String) : Option (List UInt8) := decodeChars text.toList

theorem value_digit {n : Nat} (small : n < 64) : value (digit n) = some n := by
  have all : ∀ n : Fin 64, value (digit n) = some n.val := by decide
  exact all ⟨n, small⟩

theorem digit_ne_pad {n : Nat} (small : n < 64) : digit n ≠ '=' := by
  have all : ∀ n : Fin 64, digit n ≠ '=' := by decide
  exact all ⟨n, small⟩

theorem ofNat_toNat_of_eq {b : UInt8} {n : Nat} (same : n = b.toNat) : UInt8.ofNat n = b := by
  subst same
  exact UInt8.ofNat_toNat

/-- A full group of digits gives back its three bytes. -/
theorem decodeFull_digits (a b c : UInt8) :
    decodeFull (digit (a.toNat / 4)) (digit (a.toNat % 4 * 16 + b.toNat / 16))
      (digit (b.toNat % 16 * 4 + c.toNat / 64)) (digit (c.toNat % 64)) = some [a, b, c] := by
  have boundA := a.toNat_lt
  have boundB := b.toNat_lt
  have boundC := c.toNat_lt
  simp only [decodeFull, value_digit (show a.toNat / 4 < 64 by omega),
    value_digit (show a.toNat % 4 * 16 + b.toNat / 16 < 64 by omega),
    value_digit (show b.toNat % 16 * 4 + c.toNat / 64 < 64 by omega),
    value_digit (show c.toNat % 64 < 64 by omega), Option.bind_some, Option.some.injEq,
    List.cons.injEq, and_true]
  exact ⟨ofNat_toNat_of_eq (by omega), ofNat_toNat_of_eq (by omega),
    ofNat_toNat_of_eq (by omega)⟩

/-- Decoding gives back what was encoded. -/
theorem decodeChars_encodeChars (bytes : List UInt8) :
    decodeChars (encodeChars bytes) = some bytes := by
  induction bytes using encodeChars.induct with
  | case1 => rfl
  | case2 a =>
    have bound := a.toNat_lt
    simp only [encodeChars, decodeChars, decodeLast, ne_eq, not_true_eq_false, if_false,
      value_digit (show a.toNat / 4 < 64 by omega),
      value_digit (show a.toNat % 4 * 16 < 64 by omega), Option.bind_some]
    rw [if_pos (by omega)]
    simp only [Option.some.injEq, List.cons.injEq, and_true]
    exact ofNat_toNat_of_eq (by omega)
  | case3 a b =>
    have boundA := a.toNat_lt
    have boundB := b.toNat_lt
    simp only [encodeChars, decodeChars, decodeLast, ne_eq, not_true_eq_false, if_false,
      digit_ne_pad (show b.toNat % 16 * 4 < 64 by omega), not_false_eq_true, if_true,
      value_digit (show a.toNat / 4 < 64 by omega),
      value_digit (show a.toNat % 4 * 16 + b.toNat / 16 < 64 by omega),
      value_digit (show b.toNat % 16 * 4 < 64 by omega), Option.bind_some]
    rw [if_pos (by omega)]
    simp only [Option.some.injEq, List.cons.injEq, and_true]
    exact ⟨ofNat_toNat_of_eq (by omega), ofNat_toNat_of_eq (by omega)⟩
  | case4 a b c rest ih =>
    have group := decodeFull_digits a b c
    have unpadded := digit_ne_pad (show c.toNat % 64 < 64 by omega)
    cases more : encodeChars rest with
    | nil =>
      -- Only an empty rest encodes to nothing.
      rw [more] at ih
      obtain rfl : [] = rest := by simpa [decodeChars] using ih
      simp [encodeChars, decodeChars, decodeLast, unpadded, group]
    | cons first others =>
      rw [more] at ih
      simp [encodeChars, more, decodeChars, group, ih]

theorem decode_encode (bytes : List UInt8) : decode (encode bytes) = some bytes := by
  simp [decode, encode, decodeChars_encodeChars]

end Nightdrop.Base64
