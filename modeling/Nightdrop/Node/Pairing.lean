import Nightdrop.Node.Receive

/-! Joining a contact's invite, deciding on a request, and deleting a chat. -/

namespace Nightdrop

variable {X : Externals}

/-- Most open contacts a device keeps. -/
def MAX_CONTACTS : Nat := 50

/-- The refusal at the contact cap. -/
def AT_CONTACT_CAP : String :=
  "You have 50 contacts, the most Night Drop allows. Delete a chat to add a new one. The limit keeps " ++
    "a relay from rebuilding your contact list from the mailboxes your device checks."

def REJOINED_TEXT : String :=
  "🔑 Re-paired with a new secure session. Compare the safety number again if you want to confirm " ++
    "who this is."

/-- What an invite carried besides its keys. -/
structure InviteExtras where
  relays : Option RelaySet := none
  pass : Option Bytes := none

/-- What the transport and chance add to a join: our client key, a reply pass, a mailbox seed. -/
structure JoinInputs where
  ownKey : Option (String × Bytes) := none
  replyPass : Option Bytes := none
  mailboxSeed : Bytes := []
  minted : Option (String × Bytes) := none

/-- The keys a join leaves with its chat. -/
def setJoinKeys (pass own : Option Bytes) (chat : Chat X) : Chat X :=
  match pass with
  | some pass => { chat with clientKey := some pass, ownKeyPending := own }
  | none => { chat with clientKey := own.orElse (fun _ => chat.clientKey), ownKeyPending := none }

namespace Node

/-- How many contacts are open. -/
def openContacts (n : Node X) : Nat :=
  (n.chats.entries.filter (fun e => e.2.authorized && !e.2.closed)).length

/-- Whether a new contact is one too many; re-pairing a known one is not new. -/
def atContactCap (n : Node X) (contact : String) : Bool :=
  !(n.chats.lookup contact).any (fun chat => chat.authorized && !chat.closed)
    && MAX_CONTACTS ≤ n.openContacts

/-- The plaintext of the `Hello` a join sends. -/
def helloBody (n : Node X) (inputs : JoinInputs) : HelloBody where
  relays := n.myRelaySet
  clientKey := inputs.ownKey.map (·.1)
  pass := inputs.replyPass.map X.encodeSecret
  mailbox := some (X.encodeSecret inputs.mailboxSeed)

/-- The `Hello` of a join, held for delivery until it lands, directly only. -/
def queueHello (n : Node X) (contact peerAddress : String) (message : X.OlmMessage) (now : Nat) :
    Node X :=
  n.queuePendingControl
    { recipientIk := contact
      peerAddress := peerAddress
      relays := []
      nightdrop := false
      bytes := encode (.hello n.identityKey n.address (.fromOlm message))
      handle := (n.postHandle contact now).getD "" }
    .directThenRelay

/-- A known chat adopts the session of a join and keeps its conversation. -/
def rejoined (session : X.Session) (peerAddress : String) (extras : InviteExtras)
    (mine : RelaySet) (inputs : JoinInputs) (now : Nat) (chat : Chat X) : Chat X :=
  let chat :=
    { chat with
      session := session
      peerAddress := peerAddress
      authorized := true
      closed := false
      verified := false
      peerVerified := false
      relaySet := extras.relays.orElse (fun _ => chat.relaySet)
      relaysTold := some mine
      mailbox := some (.seeded inputs.mailboxSeed) }
  let chat := setJoinKeys extras.pass (inputs.ownKey.map (·.2)) chat
  { chat with history := chat.history ++ [.ofSystem REJOINED_TEXT now] }

/-- The chat a join opens with someone new. -/
def joined (session : X.Session) (peerAddress : String) (extras : InviteExtras)
    (mine : RelaySet) (inputs : JoinInputs) (now : Nat) : Chat X :=
  setJoinKeys extras.pass (inputs.ownKey.map (·.2))
    { Chat.newPaired peerAddress session true none now with
      relaySet := extras.relays
      relaysTold := some mine
      mailbox := some (.seeded inputs.mailboxSeed) }

/-- Joins from an invite: opens the session and queues the `Hello`. -/
def connectWithInvite (n : Node X) (peerAddress : String) (bundle : PreKeyBundle)
    (extras : InviteExtras) (inputs : JoinInputs) (now : Nat) : Except String (Node X) :=
  let contact := bundle.identityKey
  if n.atContactCap contact then .error AT_CONTACT_CAP
  else match X.openOutbound n.account bundle with
  | none => .error "create outbound session"
  | some session =>
    match X.encrypt session (X.writeHello (n.helloBody inputs)) with
    | none => .error "encrypt: the peer's ratchet key is unusable"
    | some (session, message) =>
      let mine := n.myRelaySet
      let n := n.queueHello contact peerAddress message now
      let n := match n.chats.lookup contact with
        | some _ => n.modifyChat contact (rejoined session peerAddress extras mine inputs now)
        | none =>
          let chat := joined session peerAddress extras mine inputs now
          { n with chats := n.chats.insert contact chat }
      let n := if inputs.ownKey.isNone then n.announceClientKey contact peerAddress inputs.minted now
        else n
      .ok (n.announceStanding contact now)

/-- Deletes a chat: the peer is told first, and the chat goes. -/
def deleteChat (n : Node X) (contact : String) (now : Nat) : Except String (Node X) :=
  match n.chats.lookup contact with
  | none => .error "unknown contact"
  | some chat =>
    let n := match n.authedControl contact MARK_CLOSED .closed with
      | none => n
      | some (n, address, frame) =>
        let set := chat.relaySet.getD {}
        n.queuePendingControl
          { recipientIk := contact
            peerAddress := address
            relays := set.relays
            nightdrop := set.nightdrop
            bytes := encode frame
            handle := (n.postHandle contact now).getD "" }
          .relayThenDirect
    .ok { n with chats := n.chats.erase contact }

/-- Decides on a request: declined it goes; accepted, the contact is told, unless its code is
already that of another contact. -/
def authorize (n : Node X) (contact : String) (accept : Bool) (now : Nat) :
    Except String (Node X) :=
  if !accept then .ok { n with chats := n.chats.erase contact }
  else match n.chats.lookup contact with
  | none => .error "unknown request"
  | some chat =>
    if !chat.authorized && n.atContactCap contact then .error AT_CONTACT_CAP
    else if chat.authorized then .ok n
    else if chat.code.isSome
        && n.chats.entries.any (fun e => e.1 ≠ contact && e.2.authorized && e.2.code = chat.code) then
      let n := n.deliverWith chat.peerAddress contact
        (.codeInUse n.identityKey (chat.code.getD "")) false .nothing now
      .ok { n with chats := n.chats.erase contact }
    else
      let n := n.modifyChat contact (fun chat => { chat with authorized := true })
      let n := n.applyPendingKeys contact
      let n := n.deliverWith chat.peerAddress contact
        (.approved n.identityKey (chat.code.getD "")) false (.caller none) now
      .ok ((n.announceRelaySetTo contact now).announceStanding contact now)

end Node

end Nightdrop
