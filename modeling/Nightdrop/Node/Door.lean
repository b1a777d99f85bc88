import Nightdrop.Node.Pairing
import Nightdrop.Node.Persist

/-! Whom our onion admits: pairing passes, the keys of contacts, and our own keys for theirs. -/

namespace Nightdrop

variable {X : Externals}

/-- How long an unused pass admits anyone, in seconds. -/
def PASS_TTL_SECS : Nat := 24 * 60 * 60

/-- The name a pass is authorized under, from its invite's one-time key. -/
def passName (otk : String) : String := "pass:" ++ otk

/-- One pass on offer. -/
structure Pass where
  name : String
  otk : String
  /-- When it lapses, in unix seconds. -/
  expires : Nat
deriving DecidableEq, Repr

/-- Whether a text can be an identity key, which is the base64 of 32 bytes. -/
def isKeyText (text : String) : Bool :=
  text.toList.all (fun c => c.isAlphanum || c = '+' || c = '/' || c = '=')

/-- Whether a chat is approved. -/
def Node.approves (n : Node X) (contact : String) : Bool :=
  (n.chats.lookup contact).any (·.authorized)

variable (X) in
/-- What a state file keeps of a device and its passes. -/
structure SavedDoor where
  state : PersistedState X
  passes : List Pass := []

variable (X) in
/-- A device, its passes, and what its transport keeps for it; every authorization is counted from the
call that makes it to the call that revokes it. -/
structure Door where
  node : Node X
  passes : List Pass := []
  /-- Whom our onion admits, and by which key. -/
  clients : KeyedMap String String := ∅
  /-- Our keys for the onions of others. -/
  keys : KeyedMap String Bytes := ∅
  /-- The state file as last written. -/
  saved : SavedDoor X

namespace Door

/-- A device as it stands, with no pass out and nobody admitted. -/
def setUp (node : Node X) : Door X where
  node := node
  saved := { state := node.exportState }

/-- Acts on a value if there is one. -/
def given {α : Type} (d : Door X) (value : Option α) (act : Door X → α → Door X) : Door X :=
  match value with
  | some a => act d a
  | none => d

/-- Whether our onion admits a client. -/
def admits (d : Door X) (name : String) : Bool := (d.clients.lookup name).isSome

/-- Admits a client by its key, if the key can be one. -/
def authorizeClient (d : Door X) (name key : String) : Door X :=
  if X.validateKey key then { d with clients := d.clients.insert name key } else d

def revokeClient (d : Door X) (name : String) : Door X :=
  { d with clients := d.clients.erase name }

def insertClientKey (d : Door X) (peerOnion : String) (secret : Bytes) : Door X :=
  { d with keys := d.keys.insert peerOnion secret }

def forgetPeerKey (d : Door X) (peerOnion : String) : Door X :=
  { d with keys := d.keys.erase peerOnion }

/-- Issues a pass for an invite; `minted` is what the transport made of a key pair, if it could. -/
def issuePass (d : Door X) (otk : String) (minted : Option (String × Bytes)) (now : Nat) : Door X :=
  match minted with
  | none => d
  | some (pub, _) =>
    if X.validateKey pub then
      { d.authorizeClient (passName otk) pub with
        passes := d.passes ++ [⟨passName otk, otk, now + PASS_TTL_SECS⟩]
        node := { d.node with dirty := true } }
    else d

/-- Revokes the listed passes that are done with, and keeps the others. -/
def retirePasses (d : Door X) (done : Pass → Bool) : Door X :=
  { (d.passes.filter done).foldl (fun d p => d.revokeClient p.name) d with
    passes := d.passes.filter (!done ·)
    node := { d.node with dirty := d.node.dirty || d.passes.any done } }

/-- Revokes the pass of the invite whose one-time key a `Hello` just used. -/
def spendPass (d : Door X) (otk : String) : Door X := d.retirePasses (fun p => p.otk = otk)

/-- Revokes the passes nobody used in time. -/
def expirePasses (d : Door X) (now : Nat) : Door X := d.retirePasses (fun p => !(now < p.expires))

/-- Accepting a request: the joiner's key is admitted, and their reply pass becomes our key for them. -/
def applyPendingKeys (d : Door X) (contact : String) : Door X :=
  match d.node.chats.lookup contact with
  | none => d
  | some chat =>
    let d := d.given chat.peerKeyPending (fun d key => d.authorizeClient contact key)
    let d := d.given chat.passPending (fun d pass =>
      if chat.peerAddress ≠ "" then d.insertClientKey chat.peerAddress pass else d)
    { d with node := d.node.applyPendingKeys contact }

/-- Hands a contact the key we reach its onion with, which the transport keeps. -/
def announceClientKey (d : Door X) (contact peerAddress : String) (minted : Option (String × Bytes))
    (now : Nat) : Door X :=
  let d := d.given minted (fun d key => d.insertClientKey peerAddress key.2)
  { d with node := d.node.announceClientKey contact peerAddress minted now }

/-- The one-time key whose invite a `Hello` answers, if we can accept the `Hello` at all. -/
def opensWith (d : Door X) (contact : String) (message : WireOlm X.OlmMessage) : Option String :=
  match message.toOlm with
  | none => none
  | some olm =>
    if isKeyText contact && (X.acceptInbound d.node.account contact olm).isSome then X.oneTimeKey olm
    else none

/-- A `Hello`: a peer opens a session with us, and the pass it came by is spent. -/
def receiveHello (d : Door X) (fromAddress : Option String) (contact address : String)
    (message : WireOlm X.OlmMessage) (inputs : Node.PairingInputs) (now : Nat) : Door X :=
  match message.toOlm with
  | none => d
  | some olm =>
    if !isKeyText contact then d
    else match X.acceptInbound d.node.account contact olm with
    | none => d
    | some (account, session, plaintext) =>
      let d := { d with node := { d.node with account := account } }
      let d := d.given (X.oneTimeKey olm) spendPass
      let body := X.readHello plaintext
      let peerAddress := if saneAddress address then address else fromAddress.getD ""
      let d := { d with node := d.node.adoptHello contact peerAddress session body now }
      let authorized := (d.node.chats.lookup contact).any (·.authorized)
      let d := if authorized then d.applyPendingKeys contact else d
      let d := if peerAddress ≠ "" && ((body.bind (·.pass)).bind X.decodeSecret).isNone then
          d.announceClientKey contact peerAddress inputs.minted now else d
      if peerAddress ≠ "" && authorized then
        let n := (d.node.announceStanding contact now).announceRelaySetTo contact now
        { d with node := if n.mailboxAgreed contact then n
            else n.sendMailboxKey contact inputs.fresh now }
      else d

/-- Puts the kept keys back at startup, and makes one for every chat that has none. -/
def restoreClientKeys (d : Door X) (minted : String → Option (String × Bytes)) (now : Nat) : Door X :=
  d.node.chats.entries.foldl (fun d e =>
    if e.2.peerAddress = "" then d
    else match e.2.clientKey with
      | some secret => d.insertClientKey e.2.peerAddress secret
      | none => d.announceClientKey e.1 e.2.peerAddress (minted e.1) now) d

/-- Writes the state file. -/
def save (d : Door X) : Door X :=
  { d with saved := { state := d.node.exportState, passes := d.passes } }

/-- Restarts the app from its state file: whom the onion admits stays on disk, our keys do not. -/
def restart (d : Door X) (platform : Node.Platform) (minted : String → Option (String × Bytes))
    (now : Nat) : Door X :=
  restoreClientKeys
    { d with
      node := Node.restore d.saved.state platform now
      passes := d.saved.passes
      keys := ∅ } minted now

end Door

variable (X) in
/-- What happens around the passes, each event at its own time `now`. -/
inductive PassEvent where
  | issue (otk : String) (minted : Option (String × Bytes)) (now : Nat)
  | hello (fromAddress : Option String) (contact address : String) (message : WireOlm X.OlmMessage)
      (inputs : Node.PairingInputs) (now : Nat)
  | spend (otk : String)
  | expire (now : Nat)
  | save
  | restart (platform : Node.Platform) (minted : String → Option (String × Bytes)) (now : Nat)

/-- What became of a pass at an event. -/
inductive PassMark where
  /-- A pass was issued for the invite with this one-time key. -/
  | issued (otk : String) (now : Nat)
  /-- A `Hello` used this one-time key. -/
  | used (otk : String)
  /-- The passes that lapsed by then were revoked. -/
  | swept (now : Nat)
  | saved
  | restarted
deriving DecidableEq, Repr

namespace Door

/-- What a door does at an event. -/
def meet (d : Door X) : PassEvent X → Door X
  | .issue otk minted now => d.issuePass otk minted now
  | .hello fromAddress contact address message inputs now =>
    d.receiveHello fromAddress contact address message inputs now
  | .spend otk => d.spendPass otk
  | .expire now => d.expirePasses now
  | .save => d.save
  | .restart platform minted now => d.restart platform minted now

/-- What an event comes to for the passes. -/
def marks (d : Door X) : PassEvent X → List PassMark
  | .issue otk minted now => if minted.any (X.validateKey ·.1) then [.issued otk now] else []
  | .hello _ contact _ message _ _ => ((d.opensWith contact message).map PassMark.used).toList
  | .spend otk => [.used otk]
  | .expire now => [.swept now]
  | .save => [.saved]
  | .restart _ _ _ => [.restarted]

/-- A run of events, and what became of the passes in it, in order. -/
def run (d : Door X) : List (PassEvent X) → Door X × List PassMark
  | [] => (d, [])
  | event :: rest =>
    let later := (d.meet event).run rest
    (later.1, d.marks event ++ later.2)

end Door

end Nightdrop
