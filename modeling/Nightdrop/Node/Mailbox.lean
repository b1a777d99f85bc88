import Nightdrop.Node.Route

/-! Mailbox handles: one for each pair, direction and UTC day, derived from a secret both hold. -/

namespace Nightdrop

/-- How far a sender's clock may be off before its mail can go unpolled. -/
def SKEW_MARGIN_SECS : Nat := 3 * 60 * 60

/-- How many polling fragments each epoch has. -/
def POLL_FRAGMENTS : Nat := 7

/-- The handles of an epoch are padded with dummies to a multiple of this. -/
def POLL_PAD : Nat := 8

/-- The hash functions behind the handles. -/
structure Hashes where
  /-- HKDF-SHA256 of a salt, a key and a label, 32 bytes long. -/
  derive : Bytes → Bytes → Bytes → Bytes
  /-- HKDF-SHA256's expansion of a 32-byte key by a label, 15 bytes long. -/
  expand : Bytes → Bytes → Bytes
  sha256 : Bytes → Bytes
  base64Handle : Bytes → String
  /-- What a text in that base64 stands for. -/
  unbase64Handle : String → Option Bytes

namespace Hashes

variable (H : Hashes)

/-- The lower of two values, then the higher. -/
def ordered {α : Type} [LE α] [DecidableLE α] (a b : α) : α × α := if a ≤ b then (a, b) else (b, a)

/-- The pair secret: both contributions in order, bound to both identity keys in order. -/
def pairSecret (me them : String) (own peer : Bytes) : Bytes :=
  let contributions := ordered own peer
  let keys := ordered me them
  H.derive (utf8 "nightdrop/mailbox/v2/pair") (contributions.1 ++ contributions.2)
    (utf8 keys.1 ++ [0] ++ utf8 keys.2)

/-- What a peer sends to prove that it holds a secret. -/
def confirmHash (secret : Bytes) : Bytes :=
  H.sha256 (utf8 "nightdrop/mailbox/v2/confirm" ++ secret)

/-- A 64-bit number as eight bytes, the highest first. -/
def toBeBytes (n : Nat) : Bytes := (List.range 8).reverse.map (fun i => UInt8.ofNat (n >>> (8 * i)))

/-- The handle for mail to a recipient within a pair, on one UTC day. -/
def v2Handle (secret : Bytes) (recipient : String) (epoch : Nat) : String :=
  "mbx:" ++ H.base64Handle
    (H.expand secret (utf8 "nightdrop/mailbox/v2" ++ utf8 recipient ++ toBeBytes epoch))

/-- A stable 64-bit id from labelled parts. -/
def groupId (parts : List Bytes) : Nat :=
  ((H.sha256 (parts.flatMap (fun part => toBeBytes part.length ++ part))).take 8).foldl
    (fun id b => 256 * id + b.toNat) 0

/-- The handle bytes of a dummy, in the shape of a real one. -/
def dummyBytes (id : Nat) (seed : Bytes) : Bytes :=
  (H.sha256 (utf8 "nightdrop/poll/dummy-handle" ++ seed ++ toBeBytes id)).take 15

/-- The order of two values does not depend on which is named first. -/
theorem ordered_comm {α : Type} [LE α] [DecidableLE α] [Std.IsLinearOrder α] (a b : α) :
    ordered a b = ordered b a := by
  unfold ordered
  by_cases below : a ≤ b
  · by_cases above : b ≤ a
    · rw [Std.le_antisymm below above]
    · rw [if_pos below, if_neg above]
  · have above : b ≤ a := (Std.le_total (a := a) (b := b)).resolve_left below
    rw [if_neg below, if_pos above]

/-- Both sides of a pair derive the same secret from each other's contributions. -/
theorem pairSecret_comm (me them : String) (own peer : Bytes) :
    H.pairSecret me them own peer = H.pairSecret them me peer own := by
  unfold pairSecret
  rw [ordered_comm own peer, ordered_comm me them]

end Hashes

/-- The outside packages, with the mailbox functions made of the hash functions. -/
def Externals.hashing (X : Externals) (H : Hashes) : Externals :=
  { X with
    v2Handle := fun me contact own peer day =>
      H.v2Handle (H.pairSecret me contact own peer) contact day
    confirmHash := fun me contact own peer => H.confirmHash (H.pairSecret me contact own peer) }

end Nightdrop
