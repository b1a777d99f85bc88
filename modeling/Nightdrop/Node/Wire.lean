import Nightdrop.Node.Limits

/-! The frames two peers exchange, the envelopes sealed inside them, and what lies outside. -/

namespace Nightdrop

/-- Someone's complete relay set: the Night Drop relay or not, and the onions they added. -/
structure RelaySet where
  nightdrop : Bool := false
  relays : List String := []
deriving DecidableEq, Repr

/-- The plaintext of a `Hello`. -/
structure HelloBody where
  relays : RelaySet
  clientKey : Option String := none
  pass : Option String := none
  mailbox : Option String := none
deriving DecidableEq, Repr

/-- The public keys an invite carries. -/
structure PreKeyBundle where
  identityKey : String
  oneTimeKey : String
deriving DecidableEq, Repr

/-- What the program takes from other packages: Olm sessions, key derivation and JSON. -/
structure Externals where
  /-- One side of a double-ratchet session. -/
  Session : Type
  /-- One Olm ciphertext. -/
  OlmMessage : Type
  /-- The long-term account that opens and accepts sessions. -/
  Account : Type
  decOlmMessage : DecidableEq OlmMessage
  /-- Seals one plaintext and advances the ratchet; `none` on an unusable ratchet key. -/
  encrypt : Session → Bytes → Option (Session × OlmMessage)
  /-- Opens one ciphertext and advances the ratchet; `none` leaves the session as it was. -/
  decrypt : Session → OlmMessage → Option (Session × Bytes)
  /-- Opens a session to a peer from their bundle. -/
  openOutbound : Account → PreKeyBundle → Option Session
  /-- Accepts a peer's first ciphertext: the session it opens and what it said. -/
  acceptInbound : Account → String → OlmMessage → Option (Account × Session × Bytes)
  /-- Whether the session has opened any ciphertext yet. -/
  hasReceived : Session → Bool
  /-- The one-time key a first ciphertext was sealed to. -/
  oneTimeKey : OlmMessage → Option String
  /-- The handle of a pair's mailbox on one day, from both contributions. -/
  v2Handle : String → String → Bytes → Bytes → Nat → String
  /-- What proves to a contact that we computed the pair's secret, from both contributions. -/
  confirmHash : String → String → Bytes → Bytes → Bytes
  /-- The 32 bytes a secret's text form stands for. -/
  decodeSecret : String → Option Bytes
  /-- The text form of a 32-byte secret. -/
  encodeSecret : Bytes → String
  /-- Whether a client key can be authorized on an onion. -/
  validateKey : String → Bool
  /-- Writes a relay set. -/
  writeRelaySet : RelaySet → Bytes
  /-- Reads a relay set. -/
  readRelaySet : Bytes → Option RelaySet
  /-- Reads a `Hello` plaintext. -/
  readHello : Bytes → Option HelloBody
  /-- Writes a `Hello` plaintext. -/
  writeHello : HelloBody → Bytes

instance (X : Externals) : DecidableEq X.OlmMessage := X.decOlmMessage

/-- A serialized Olm ciphertext, which a hostile sender may have filled with anything. -/
inductive WireOlm (M : Type) where
  | valid (message : M)
  | malformed (messageType : Nat) (body : String)
deriving DecidableEq, Repr

/-- What a ciphertext looks like on the wire. -/
def WireOlm.fromOlm {M : Type} (message : M) : WireOlm M := .valid message

/-- The ciphertext read back from the wire. -/
def WireOlm.toOlm {M : Type} : WireOlm M → Option M
  | .valid message => some message
  | .malformed _ _ => none

/-- The frames that carry a sender and one ciphertext, and nothing else in the clear. -/
inductive SealedKind where
  | edit | unsend | burnMedia | viewed | storage | disappearing | closed | backedUp | verified
  | captures | burns | mailboxKey | ack | name | address | relaySet | version | clientKeySealed
  | media | mediaIncoming | screenshot | delivered
deriving DecidableEq, Repr

/-- One framed unit on a peer-to-peer stream. -/
inductive Frame (M : Type) where
  /-- Session opener: long-term key, reply address and first ciphertext. -/
  | hello (identityKey address : String) (message : WireOlm M)
  /-- One leg of the short-code exchange. -/
  | pake (data : String)
  /-- A text on an established session; `id` names it for receipts, edits and unsends. -/
  | message (sender id : String) (message : WireOlm M)
  /-- A text with a burn timer inside the ciphertext. -/
  | burn (sender id : String) (message : WireOlm M)
  /-- Any frame that is a sender and one ciphertext. -/
  | sealed (kind : SealedKind) (sender : String) (message : WireOlm M)
  | approved (sender code : String)
  | codeInUse (sender code : String)
  | clientKey (sender clientKey : String)
  /-- Cover traffic to ourselves. -/
  | cover (padding : Bytes)
deriving DecidableEq, Repr

namespace Frame

variable {M : Type}

@[match_pattern] abbrev edit (sender : String) (m : WireOlm M) : Frame M := .sealed .edit sender m
@[match_pattern] abbrev unsend (sender : String) (m : WireOlm M) : Frame M :=
  .sealed .unsend sender m
@[match_pattern] abbrev delivered (sender : String) (m : WireOlm M) : Frame M :=
  .sealed .delivered sender m

/-- The ciphertext a frame carries, if it carries one. -/
def ciphertext : Frame M → Option M
  | .hello _ _ m | .message _ _ m | .burn _ _ m | .sealed _ _ m => m.toOlm
  | .pake _ | .approved _ _ | .codeInUse _ _ | .clientKey _ _ | .cover _ => none

/-- Who a frame says it is from. -/
def claimedSender : Frame M → Option String
  | .hello sender _ _ | .message sender _ _ | .burn sender _ _ | .sealed _ sender _
  | .approved sender _ | .codeInUse sender _ | .clientKey sender _ => some sender
  | .pake _ | .cover _ => none

end Frame

/-- The wire protocol version this build speaks. -/
def WIRE_VERSION : Nat := 3

/-- The version 0.1.x speaks. -/
def LEGACY_WIRE_VERSION : Nat := 2

/-- The versioned envelope that crosses the wire; equal envelopes are equal bytes. -/
structure Envelope (M : Type) where
  v : Nat
  f : Frame M
deriving DecidableEq, Repr

/-- A frame as this build puts it on the wire. -/
def encode {M : Type} (frame : Frame M) : Envelope M := ⟨WIRE_VERSION, frame⟩

/-- A frame as 0.1.x puts it on the wire. -/
def encodeLegacy {M : Type} (frame : Frame M) : Envelope M := ⟨LEGACY_WIRE_VERSION, frame⟩

/-- The frame in an envelope, if this build speaks its version. -/
def decode {M : Type} (bytes : Envelope M) : Option (Frame M) :=
  if bytes.v = WIRE_VERSION then some bytes.f else none

/-- Who sent an envelope in an older version than ours. -/
def legacySender {M : Type} (bytes : Envelope M) : Option String :=
  if WIRE_VERSION ≤ bytes.v then none else bytes.f.claimedSender

@[simp] theorem decode_encode {M : Type} (frame : Frame M) : decode (encode frame) = some frame :=
  rfl

/-- What this build cannot read of its own making is the legacy form only. -/
@[simp] theorem decode_encodeLegacy {M : Type} (frame : Frame M) :
    decode (encodeLegacy frame) = none := rfl

def U64_MAX : Nat := 2 ^ 64 - 1

/-- An `Edit` envelope: the target id, then the new text. -/
def packEdit (targetMsgId newText : String) : Bytes :=
  putField (utf8 targetMsgId) ++ utf8 newText

/-- The target and new text of an `Edit` envelope. -/
def unpackEdit (buf : Bytes) : Option (String × String) := do
  let (target, rest) ← takeField buf
  let target ← fromUtf8 target
  let text ← fromUtf8 rest
  return (target, clampText text)

/-- A `Burn` envelope: the timer in decimal, then the text. -/
def packBurn (burnSecs : Nat) (text : String) : Bytes :=
  putField (decimal burnSecs) ++ utf8 text

/-- The timer and text of a `Burn` envelope; a timer that cannot be read is 0. -/
def unpackBurn (buf : Bytes) : Option (Nat × String) := do
  let (secs, rest) ← takeField buf
  let secs ← fromUtf8 secs
  let text ← fromUtf8 rest
  return ((parseDecimal U64_MAX secs).getD 0, clampText text)

/-- An `Unsend` envelope: the target id. -/
def packUnsend (targetMsgId : String) : Bytes := utf8 targetMsgId

/-- The target of an `Unsend` envelope. -/
def unpackUnsend (buf : Bytes) : Option String := fromUtf8 buf

/-- A `Media` envelope: transfer id, kind, mime, then the data. -/
def packMedia (transferId kind mime : String) (data : Bytes) : Bytes :=
  putField (utf8 transferId) ++ putField (utf8 kind) ++ putField (utf8 mime) ++ data

/-- A `BurnMedia` envelope: the timer, then a `Media` envelope. -/
def packBurnMedia (burnSecs : Nat) (transferId kind mime : String) (data : Bytes) : Bytes :=
  putField (decimal burnSecs) ++ packMedia transferId kind mime data

/-- An edit is unpacked as it was packed. -/
theorem unpackEdit_packEdit {target text : String} (named : target.utf8ByteSize < 2 ^ 32)
    (fits : text.utf8ByteSize ≤ MAX_TEXT_BYTES) :
    unpackEdit (packEdit target text) = some (target, text) := by
  have field : (utf8 target).length < 2 ^ 32 := by simpa using named
  simp [unpackEdit, packEdit, takeField_putField _ field, clampText_of_le fits]

/-- A burn message is unpacked as it was packed. -/
theorem unpackBurn_packBurn {secs : Nat} {text : String} (timer : secs ≤ U64_MAX)
    (fits : text.utf8ByteSize ≤ MAX_TEXT_BYTES) :
    unpackBurn (packBurn secs text) = some (secs, text) := by
  -- A timer of the source's width has at most twenty digits.
  have digits : (decimal secs).length < 2 ^ 32 := by
    have few : (Nat.toDigits 10 secs).length ≤ 20 := by
      rw [Nat.length_toDigits_le_iff (by decide) (by decide)]
      unfold U64_MAX at timer
      omega
    rw [length_decimal]
    omega
  unfold unpackBurn packBurn
  rw [takeField_putField _ digits]
  simp [decimal, clampText_of_le fits, parseDecimal_repr timer]

/-- An unsend is unpacked as it was packed. -/
@[simp] theorem unpackUnsend_packUnsend (target : String) :
    unpackUnsend (packUnsend target) = some target := by
  simp [unpackUnsend, packUnsend]

end Nightdrop
