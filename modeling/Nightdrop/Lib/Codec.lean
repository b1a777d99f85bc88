import Nightdrop.Lib.Text

/-! Packers and their unpackers, and numbers as a run of bytes. -/

namespace Nightdrop

/-- A packer, its unpacker, and how many bytes of the input a value holds. -/
structure Codec (V : Type) where
  pack : V → Bytes
  unpack : Bytes → Option V
  size : V → Nat

/-- What is packed within the limits is unpacked as it was; what is unpacked within `kept` is no larger than its bytes, and is unpacked again from its own packing. -/
structure Codec.Faithful {V : Type} (codec : Codec V) (within kept : V → Prop) : Prop where
  round : ∀ v, within v → codec.unpack (codec.pack v) = some v
  apart : ∀ v w, within v → within w → codec.pack v = codec.pack w → v = w
  again : ∀ buf v, codec.unpack buf = some v → kept v → codec.unpack (codec.pack v) = some v
  small : ∀ buf v, codec.unpack buf = some v → kept v → codec.size v ≤ buf.length

/-- A codec that reads what it wrote, and reads only values within its limits, is faithful. -/
theorem Codec.Faithful.of_round {V : Type} {codec : Codec V} {within kept : V → Prop}
    (round : ∀ v, within v → codec.unpack (codec.pack v) = some v)
    (valid : ∀ buf v, codec.unpack buf = some v → kept v → within v)
    (small : ∀ buf v, codec.unpack buf = some v → kept v → codec.size v ≤ buf.length) : codec.Faithful within kept where
  round := round
  apart v w first second same := by
    have read := round v first
    rw [same, round w second] at read
    exact (Option.some.inj read).symm
  again buf v read stays := round v (valid buf v read stays)
  small := small

/-- A number in so many bytes, most significant first. -/
def bigEndian : Nat → Nat → Bytes
  | 0, _ => []
  | width + 1, n => bigEndian width (n / 256) ++ [UInt8.ofNat n]

/-- The number that bytes say, most significant first. -/
def ofBigEndian (bytes : Bytes) : Nat := bytes.foldl (fun n byte => n * 256 + byte.toNat) 0

@[simp] theorem length_bigEndian (width n : Nat) : (bigEndian width n).length = width := by
  induction width generalizing n with
  | zero => rfl
  | succ width ih => simp [bigEndian, ih]

theorem ofBigEndian_concat (bytes : Bytes) (byte : UInt8) :
    ofBigEndian (bytes ++ [byte]) = ofBigEndian bytes * 256 + byte.toNat := by
  simp [ofBigEndian]

/-- A number that fits is read as it was written. -/
theorem ofBigEndian_bigEndian {width n : Nat} (fits : n < 256 ^ width) : ofBigEndian (bigEndian width n) = n := by
  induction width generalizing n with
  | zero =>
    rw [Nat.pow_zero] at fits
    have zero : n = 0 := by omega
    rw [zero]
    rfl
  | succ width ih =>
    rw [bigEndian, ofBigEndian_concat]
    rw [Nat.pow_succ] at fits
    rw [ih (Nat.div_lt_of_lt_mul (by rw [Nat.mul_comm]; exact fits)), UInt8.toNat_ofNat']
    omega

/-- What bytes say fits into as many. -/
theorem ofBigEndian_lt (bytes : Bytes) : ofBigEndian bytes < 256 ^ bytes.length := by
  induction bytes using List.reverseRecOn with
  | nil => decide
  | append_singleton bytes byte ih =>
    rw [ofBigEndian_concat, List.length_append, List.length_singleton, Nat.pow_succ]
    have digit := byte.toNat_lt
    omega

/-- A field and what follows it are what follows its length. -/
theorem takeField_length {buf field rest : Bytes} (taken : takeField buf = some (field, rest)) :
    field.length + rest.length + 4 = buf.length ∧ field.length < 2 ^ 32 := by
  unfold takeField at taken
  split at taken
  · rename_i a b c d tail
    dsimp only at taken
    split at taken
    · rename_i fits
      cases taken
      have bound : ofBe32 a b c d < 2 ^ 32 := by
        have top := a.toNat_lt
        have second := b.toNat_lt
        have third := c.toNat_lt
        have last := d.toNat_lt
        unfold ofBe32
        omega
      rw [List.length_take, List.length_drop]
      simp only [List.length_cons]
      omega
    · cases taken
  · cases taken

end Nightdrop
