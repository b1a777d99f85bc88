import Nightdrop.Node.Wire

/-! Frames as bytes: the length, the versioned JSON, the padding, and who sent a frame of an older version. -/

namespace Nightdrop
namespace Wire

/-- The sizes a frame is padded up to. -/
def PAD_BUCKETS : List Nat := [1024, 4096, 16384]

/-- What a larger frame is rounded up to a multiple of. -/
def PAD_BLOCK : Nat := 16 * 1024

/-- The padded length of so many bytes, the length's own four among them. -/
def paddedLen (raw : Nat) : Nat :=
  match PAD_BUCKETS.find? (raw ≤ ·) with
  | some bucket => bucket
  | none => (raw + PAD_BLOCK - 1) / PAD_BLOCK * PAD_BLOCK

/-- A JSON value. -/
inductive Json where
  | null
  | bool (b : Bool)
  | number (n : Nat)
  | otherNumber (text : String)
  | string (s : String)
  | array (items : List Json)
  /-- An object, its last value for each key. -/
  | object (fields : List (String × Json))

/-- The value an object has for a key. -/
def Json.get (key : String) : Json → Option Json
  | .object fields => (fields.find? (·.1 = key)).map (·.2)
  | _ => none

/-- A number that fits 64 bits without a sign. -/
def Json.asU64 : Json → Option Nat
  | .number n => if n ≤ U64_MAX then some n else none
  | _ => none

/-- A text. -/
def Json.asStr : Json → Option String
  | .string s => some s
  | _ => none

/-- How the serializer writes an envelope of a version, and what it reads in some bytes. -/
structure Serde (F : Type) where
  toVec : Nat → F → Bytes
  envelope : Bytes → Option (Nat × F)
  value : Bytes → Option Json

/-- What the serializer's documentation promises. -/
structure Serde.Documented {F : Type} (serde : Serde F) : Prop where
  /-- An envelope that is written is read back. -/
  round_trip : ∀ v f, v = WIRE_VERSION ∨ v = LEGACY_WIRE_VERSION → serde.envelope (serde.toVec v f) = some (v, f)
  /-- An envelope's version is what its bytes, read as any JSON value, have for `v`. -/
  version : ∀ body v f json, serde.envelope body = some (v, f) → serde.value body = some json →
    (json.get "v").bind Json.asU64 = some v
  /-- An object ends with its closing brace, so it is not read before its end. -/
  whole : ∀ v f n, n < (serde.toVec v f).length → serde.envelope ((serde.toVec v f).take n) = none

/-- Why a frame is not decoded. -/
inductive DecodeError where
  /-- Bad frame: shorter than its length prefix. -/
  | short
  /-- Bad frame: the length prefix exceeds the buffer. -/
  | exceeds (len : Nat)
  /-- Bad frame: the envelope cannot be read. -/
  | unreadable
  /-- An unsupported wire version: the peer is likely on a different app version. -/
  | unsupported (v : Nat)
  deriving DecidableEq

variable {F : Type} (serde : Serde F)

/-- A frame as bytes: its length, its envelope, and zeros up to a bucket. -/
def encodeAt (frame : F) (v : Nat) : Bytes :=
  let json := serde.toVec v frame
  let out := be32 json.length ++ json
  out ++ List.replicate (paddedLen (4 + json.length) - out.length) 0

/-- A frame as this version sends it. -/
def encode (frame : F) : Bytes := encodeAt serde frame WIRE_VERSION

/-- A frame as 0.1 sends it. -/
def encodeLegacy (frame : F) : Bytes := encodeAt serde frame LEGACY_WIRE_VERSION

/-- The bytes a length prefix declares, or what is wrong with it. -/
def declared : Bytes → Except DecodeError Bytes
  | a :: b :: c :: d :: rest =>
    if ofBe32 a b c d ≤ rest.length then .ok (rest.take (ofBe32 a b c d)) else .error (.exceeds (ofBe32 a b c d))
  | _ => .error .short

/-- The frame some bytes hold. -/
def decode (bytes : Bytes) : Except DecodeError F :=
  match declared bytes with
  | .error e => .error e
  | .ok body =>
    match serde.envelope body with
    | none => .error .unreadable
    | some (v, frame) => if v ≠ WIRE_VERSION then .error (.unsupported v) else .ok frame

/-- Who sent a frame in an older version, if its envelope tells. -/
def legacySender (bytes : Bytes) : Option String :=
  match declared bytes with
  | .error _ => none
  | .ok body => do
    let env ← serde.value body
    let v ← (← env.get "v").asU64
    if v ≥ WIRE_VERSION then none
    else
      let f ← env.get "f"
      (← (f.get "from").or (f.get "identity_key")).asStr

/-- Whether frames are padded to so many bytes. -/
def IsBucket (n : Nat) : Prop := n ∈ PAD_BUCKETS ∨ ∃ blocks > 0, n = blocks * PAD_BLOCK

/-- The smallest bucket some bytes fit in. -/
structure LeastBucket (raw n : Nat) : Prop where
  bucket : IsBucket n
  fits : raw ≤ n
  least : ∀ m, IsBucket m → raw ≤ m → n ≤ m

end Wire
end Nightdrop
