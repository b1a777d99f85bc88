import Nightdrop.Node.Door
import Nightdrop.Node.Process

/-! Onion access: every place where the transport is told whom to admit, beside what it does to the chats. -/

namespace Nightdrop

variable {X : Externals}

namespace Node

/-- What a sealed frame of a known contact says, if it opens on the session of their chat. -/
def reading (n : Node X) (sender : String) (message : WireOlm X.OlmMessage) : Option Bytes :=
  (n.chats.lookup sender).bind (fun chat => message.toOlm.bind (fun olm =>
    (X.decrypt chat.session olm).map (·.2)))

/-- The client key a frame hands us for our onion. -/
def heardClientKey (n : Node X) (sender : String) (message : WireOlm X.OlmMessage) : Option String :=
  ((n.reading sender message).bind (stripMark MARK_CLIENT_KEY_PREFIX)).bind fromUtf8

end Node

namespace Door

/-- A frame of the peer's, with what its handler asks of the transport. -/
def receiveFrame (d : Door X) (fromAddress : Option String) (frame : Frame X.OlmMessage)
    (inputs : Node.FrameInputs) (now : Nat) : Door X :=
  match frame with
  | .hello contact address message =>
    { d with node := { d.node with dirty := true } }.receiveHello fromAddress contact address message
      inputs.toPairingInputs now
  -- A key from an approved contact is admitted; a request's key waits in its chat.
  | .sealed .clientKeySealed sender message =>
    let admitted := if d.node.approves sender then
        d.given (d.node.heardClientKey sender message) (fun d key => d.authorizeClient sender key)
      else d
    { admitted with node := (d.node.processFrame fromAddress frame inputs now).1 }
  -- A new address gets a new key of ours.
  | .sealed .address sender message =>
    let heard := (d.node.reading sender message).filter (fun plaintext =>
      d.node.approves sender && d.node.shows sender (Chat.hearAddress plaintext now))
    let keyed := d.given heard (fun d plaintext => d.given inputs.minted (fun d key =>
      d.insertClientKey (fromUtf8Lossy plaintext) key.2))
    { keyed with node := (d.node.processFrame fromAddress frame inputs now).1 }
  -- An approved chat's relay set puts our own key in use.
  | .sealed .relaySet sender message =>
    let own := (d.node.chats.lookup sender).bind (fun chat =>
      if chat.authorized && ((d.node.reading sender message).bind X.readRelaySet).isSome then
        chat.ownKeyPending.map (fun own => (chat.peerAddress, own))
      else none)
    let keyed := d.given own (fun d key => d.insertClientKey key.1 key.2)
    { keyed with node := (d.node.processFrame fromAddress frame inputs now).1 }
  | frame => { d with node := (d.node.processFrame fromAddress frame inputs now).1 }

/-- Joins from an invite: the inviter gets a reply pass for our onion, `reply` being what the transport
minted for one. -/
def connectWithInvite (d : Door X) (peerAddress : String) (bundle : PreKeyBundle)
    (extras : InviteExtras) (reply : Option (String × Bytes)) (inputs : JoinInputs) (now : Nat) :
    Door X × Except String Unit :=
  let contact := bundle.identityKey
  if d.node.atContactCap contact then (d, .error AT_CONTACT_CAP)
  else match X.openOutbound d.node.account bundle with
  | none => (d, .error "create outbound session")
  | some _ =>
    let d := d.given extras.pass (fun d pass => d.insertClientKey peerAddress pass)
    let d := if extras.pass.isNone then
        d.given inputs.ownKey (fun d key => d.insertClientKey peerAddress key.2) else d
    let reply := reply.filter (fun key => X.validateKey key.1)
    let d := d.given reply (fun d key => d.authorizeClient contact key.1)
    let inputs := { inputs with replyPass := reply.map (·.2) }
    match d.node.connectWithInvite peerAddress bundle extras inputs now with
    | .error reason => (d, .error reason)
    | .ok n =>
      let d := if inputs.ownKey.isNone then
          d.given inputs.minted (fun d key => d.insertClientKey peerAddress key.2) else d
      ({ d with node := n }, .ok ())

/-- What goes with a chat: the contact's key for our onion, and our key for theirs. -/
def forgetContact (d : Door X) (contact peerAddress : String) : Door X :=
  let d := d.revokeClient contact
  if peerAddress ≠ "" then d.forgetPeerKey peerAddress else d

/-- Deletes a chat and the keys of both directions. -/
def deleteChat (d : Door X) (contact : String) (now : Nat) : Door X × Except String Unit :=
  match d.node.chats.lookup contact with
  | none => (d, .error "unknown contact")
  | some chat => match d.node.deleteChat contact now with
    | .error reason => (d, .error reason)
    | .ok n => ({ d with node := n }.forgetContact contact chat.peerAddress, .ok ())

/-- Decides on a request: a decline undoes the keys of both directions, an approval puts those held
until now to use, and a refusal for a used code does neither. -/
def authorize (d : Door X) (contact : String) (accept : Bool) (now : Nat) :
    Door X × Except String Unit :=
  if !accept then
    match d.node.chats.lookup contact with
    | none => (d, .ok ())
    | some chat =>
      ({ d with node := { d.node with chats := d.node.chats.erase contact } }.forgetContact contact
        chat.peerAddress, .ok ())
  else match d.node.chats.lookup contact with
  | none => (d, .error "unknown request")
  | some chat =>
    if !chat.authorized && d.node.atContactCap contact then (d, .error AT_CONTACT_CAP)
    else if chat.authorized then (d, .ok ())
    else if chat.code.isSome && d.node.chats.entries.any
        (fun e => e.1 ≠ contact && e.2.authorized && e.2.code = chat.code) then
      let n := d.node.deliverWith chat.peerAddress contact
        (.codeInUse d.node.identityKey (chat.code.getD "")) false .nothing now
      ({ d with node := { n with chats := n.chats.erase contact } }, .ok ())
    else
      let n := d.node.modifyChat contact (fun chat => { chat with authorized := true })
      let d := { d with node := n }.applyPendingKeys contact
      let n := d.node.deliverWith chat.peerAddress contact
        (.approved d.node.identityKey (chat.code.getD "")) false (.caller none) now
      ({ d with node := (n.announceRelaySetTo contact now).announceStanding contact now }, .ok ())

end Door

variable (X) in
/-- What may happen around a device's onion, each event at its own time `now`. -/
inductive GateEvent where
  | frame (fromAddress : Option String) (frame : Frame X.OlmMessage) (inputs : Node.FrameInputs)
      (now : Nat)
  | join (peerAddress : String) (bundle : PreKeyBundle) (extras : InviteExtras)
      (reply : Option (String × Bytes)) (inputs : JoinInputs) (now : Nat)
  | authorize (contact : String) (accept : Bool) (now : Nat)
  | delete (contact : String) (now : Nat)
  | save
  | restart (platform : Node.Platform) (minted : String → Option (String × Bytes)) (now : Nat)

namespace Door

/-- What a device does at an event. -/
def face (d : Door X) : GateEvent X → Door X
  | .frame fromAddress frame inputs now => d.receiveFrame fromAddress frame inputs now
  | .join peerAddress bundle extras reply inputs now =>
    (d.connectWithInvite peerAddress bundle extras reply inputs now).1
  | .authorize contact accept now => (d.authorize contact accept now).1
  | .delete contact now => (d.deleteChat contact now).1
  | .save => d.save
  | .restart platform minted now => d.restart platform minted now

/-- Whether a `Hello` comes from someone whose closed chat still has them admitted, and is answered by
a request. -/
def reopens (d : Door X) (contact : String) (message : WireOlm X.OlmMessage) : Bool :=
  d.node.requireAuthorization && d.admits contact
    && (d.node.chats.lookup contact).any (·.closed)
    && isKeyText contact
    && message.toOlm.any (fun olm => (X.acceptInbound d.node.account contact olm).isSome)

/-- Whether an event is one that access can follow: no `Hello` of someone whose closed chat still has
them admitted, and no restart from a state file that lacks the approval of someone admitted. -/
def Orderly (d : Door X) : GateEvent X → Prop
  | .frame _ (.hello contact _ message) _ _ => d.reopens contact message = false
  | .restart _ _ _ => ∀ name, d.admits name = true → (∃ otk, name = passName otk)
      ∨ ∃ p ∈ d.saved.state.chats, p.contactId = name ∧ p.authorized = true
  | _ => True

/-- Whether every event of a run is orderly where it happens. -/
def AllOrderly (d : Door X) : List (GateEvent X) → Prop
  | [] => True
  | event :: rest => d.Orderly event ∧ (d.face event).AllOrderly rest

/-- Whether our onion admits only those whose chat is approved, pairing passes aside. -/
def AccessFollows (d : Door X) : Prop :=
  ∀ name, d.admits name = true → (∃ otk, name = passName otk) ∨ d.node.approves name = true

end Door

end Nightdrop
