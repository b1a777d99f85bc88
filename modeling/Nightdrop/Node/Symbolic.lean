import Nightdrop.Node.State

/-! Symbolic packages: sessions that name their pairing and count what they seal and open. -/

namespace Nightdrop

namespace Symbolic

/-- One end of a session: its pairing, which end it is, and the indexes used so far. -/
structure Session where
  pairing : String
  opener : Bool
  used : Nat := 0
  opened : List Nat := []
deriving DecidableEq, Repr

/-- A ciphertext says who sealed it and under which index; only the other end opens it, once. -/
structure Cipher where
  pairing : String
  opener : Bool
  index : Nat
  plaintext : Bytes
deriving DecidableEq, Repr

/-- The one-time keys an account published and nobody used. -/
abbrev Account := List String

def encrypt (s : Session) (plaintext : Bytes) : Session × Cipher :=
  ({ s with used := s.used + 1 }, ⟨s.pairing, s.opener, s.used, plaintext⟩)

def decrypt (s : Session) (m : Cipher) : Option (Session × Bytes) :=
  if m.pairing = s.pairing ∧ m.opener ≠ s.opener ∧ m.index ∉ s.opened then
    some ({ s with opened := m.index :: s.opened }, m.plaintext)
  else none

/-- The other end of a first ciphertext, whose one-time key is spent. -/
def accept (account : Account) (m : Cipher) : Option (Account × Session × Bytes) :=
  if m.opener = true ∧ m.pairing ∈ account then
    some (account.erase m.pairing,
      { pairing := m.pairing, opener := false, opened := [m.index] }, m.plaintext)
  else none

/-- An optional text as a field of its own. -/
def writeOption : Option String → Bytes
  | none => [0]
  | some text => 1 :: putField (utf8 text)

def readOption : Bytes → Option (Option String × Bytes)
  | 0 :: rest => some (none, rest)
  | 1 :: rest => do
    let (field, rest) ← takeField rest
    return (some (← fromUtf8 field), rest)
  | _ => none

def writeRelaySet (set : RelaySet) : Bytes :=
  (if set.nightdrop then 1 else 0) :: set.relays.flatMap (fun relay => putField (utf8 relay))

/-- The texts of a run of fields. -/
def readTexts : Nat → Bytes → Option (List String)
  | _, [] => some []
  | 0, _ => none
  | fuel + 1, bytes => do
    let (field, rest) ← takeField bytes
    return (← fromUtf8 field) :: (← readTexts fuel rest)

def readRelaySet : Bytes → Option RelaySet
  | flag :: rest => do
    if 1 < flag then none
    return { nightdrop := flag = 1, relays := ← readTexts rest.length rest }
  | [] => none

def writeHello (body : HelloBody) : Bytes :=
  putField (writeRelaySet body.relays) ++ writeOption body.clientKey ++ writeOption body.pass
    ++ writeOption body.mailbox

def readHello (bytes : Bytes) : Option HelloBody := do
  let (relays, rest) ← takeField bytes
  let (clientKey, rest) ← readOption rest
  let (pass, rest) ← readOption rest
  let (mailbox, _) ← readOption rest
  return { relays := ← readRelaySet relays, clientKey := clientKey, pass := pass, mailbox := mailbox }

/-- A secret as text: one character a byte, clear of ASCII. -/
def encodeSecret (secret : Bytes) : String :=
  String.ofList (secret.map (fun b => Char.ofNat (0x100 + b.toNat)))

def decodeSecret (text : String) : Option Bytes :=
  if text.length = 32 ∧ text.toList.all (fun c => 0x100 ≤ c.toNat ∧ c.toNat < 0x200) then
    some (text.toList.map (fun c => UInt8.ofNat (c.toNat - 0x100)))
  else none

end Symbolic

/-- The outside packages with symbolic cryptography. -/
def symbolic : Externals where
  Session := Symbolic.Session
  OlmMessage := Symbolic.Cipher
  Account := Symbolic.Account
  decOlmMessage := inferInstance
  encrypt s plaintext := some (Symbolic.encrypt s plaintext)
  decrypt := Symbolic.decrypt
  openOutbound _ bundle := some { pairing := bundle.oneTimeKey, opener := true }
  acceptInbound account _ := Symbolic.accept account
  hasReceived s := s.opened ≠ []
  oneTimeKey m := if m.opener then some m.pairing else none
  v2Handle _ contact _ _ day := "mbx:" ++ contact ++ ":" ++ day.repr
  confirmHash _ _ own peer := List.zipWith (· + ·) own peer
  decodeSecret := Symbolic.decodeSecret
  encodeSecret := Symbolic.encodeSecret
  validateKey key := key.length = 52
  writeRelaySet := Symbolic.writeRelaySet
  readRelaySet := Symbolic.readRelaySet
  readHello := Symbolic.readHello
  writeHello := Symbolic.writeHello

namespace Symbolic

/-- An approved chat on an established session. -/
def chat : Chat symbolic where
  peerAddress := "them.onion"
  session := ({ pairing := "first", opener := true, used := 1, opened := [0] } : Session)
  authorized := true
  relaySet := some {}

/-- A device with that one chat and a published key. -/
def device : Node symbolic where
  identityKey := "me"
  account := (["second"] : Account)
  address := "me.onion"
  chats := (∅ : KeyedMap String (Chat symbolic)).insert "them" chat

/-- What the contact seals on the session of that chat. -/
def fromThem (index : Nat) (plaintext : Bytes) : WireOlm symbolic.OlmMessage :=
  .valid (⟨"first", false, index, plaintext⟩ : Cipher)

/-- What someone else seals, on a session of their own. -/
def fromStranger (plaintext : Bytes) : WireOlm symbolic.OlmMessage :=
  .valid (⟨"theirs", false, 0, plaintext⟩ : Cipher)

/-- The first ciphertext of a pairing with the published key. -/
def pairing (body : HelloBody) : WireOlm symbolic.OlmMessage :=
  .valid (⟨"second", true, 0, symbolic.writeHello body⟩ : Cipher)

/-- The contact's own device, with the other end of that session. -/
def theirDevice : Node symbolic where
  identityKey := "them"
  account := ([] : Account)
  address := "them.onion"
  chats := (∅ : KeyedMap String (Chat symbolic)).insert "me"
    { chat with
      peerAddress := "me.onion"
      session := ({ pairing := "first", opener := false, used := 1, opened := [0] } : Session) }

end Symbolic

end Nightdrop
