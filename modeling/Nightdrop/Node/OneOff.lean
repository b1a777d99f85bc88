import Nightdrop.Node.Pairing
import Nightdrop.Node.Process
import Nightdrop.Node.Revise
import Nightdrop.Node.Setting

/-! The one-off control frames: what sends each, and what may become of one. -/

namespace Nightdrop

variable {X : Externals}

/-- The control frames that no message and no announcement remembers. -/
inductive Notice where
  | rename
  | timer
  | storage
  | approval
  /-- The approval a contact hears again when it pairs anew. -/
  | approvalEcho
  | edit
  | unsend
  | clientKey
  | verified
deriving DecidableEq, Repr

namespace Notice

/-- Whether the call that sends it waits for the send. -/
def waits : Notice → Bool
  | timer | approval | edit | unsend => true
  | rename | storage | approvalEcho | clientKey | verified => false

/-- Whether that call returns the failure, too: a timer's does not. -/
def reported : Notice → Bool
  | approval | edit | unsend => true
  | rename | timer | storage | approvalEcho | clientKey | verified => false

/-- What is recorded once it went out. -/
def done (notice : Notice) : OutboundDone X := if notice.waits then .caller none else .nothing

end Notice

namespace Node

/-- Marks a contact's safety number as compared, or not, and tells them. -/
def setVerified (n : Node X) (contact : String) (verified : Bool) (now : Nat) : Node X :=
  match n.chats.lookup contact with
  | none => n
  | some _ =>
    (n.modifyChat contact ({ · with verified := verified })).sendControl contact
      (if verified then MARK_VERIFIED else MARK_UNVERIFIED) .verified false .nothing now

/-- The call that decides on a request: an approval is sent before it returns. -/
def authorizeCall (n : Node X) (contact : String) (accept : Bool) (net : CallNetwork) (now : Nat) :
    Node X × Except String Unit :=
  match n.authorize contact accept now with
  | .error reason => (n, .error reason)
  | .ok n => n.takeCallerOutbox.1.sendForCaller n.takeCallerOutbox.2 net now

/-- The call that sets a timer: it waits for the send, and drops its failure. -/
def setDisappearingCall (n : Node X) (contact : String) (secs : Nat) (net : CallNetwork) (now : Nat) :
    Node X × Except String Unit :=
  match n.setDisappearing contact secs now with
  | (n, .error reason) => (n, .error reason)
  | (n, .ok ()) => ((n.takeCallerOutbox.1.sendForCaller n.takeCallerOutbox.2 net now).1, .ok ())

/-- An operation that produces a one-off frame for a contact, and the device it leaves. -/
inductive Produces (n : Node X) (contact : String) (now : Nat) :
    Notice → Envelope X.OlmMessage → Node X → Prop where
  | rename {name address : String} {n1 : Node X} {frame : Frame X.OlmMessage}
      (told : n.changeAndSeal contact ({ · with myName := resolveName name }) (utf8 (resolveName name))
        .name = (n1, .ok (some (address, frame)))) :
      Produces n contact now .rename (encode frame) (n.setMyName contact name now).1
  | timer {secs : Nat} {address : String} {n1 : Node X} {frame : Frame X.OlmMessage}
      (told : n.changeAndSeal contact (Chat.setTimer secs now) (decimal secs) .disappearing
        = (n1, .ok (some (address, frame)))) :
      Produces n contact now .timer (encode frame) (n.setDisappearing contact secs now).1
  | storage {on : Bool} {address : String} {n1 : Node X} {frame : Frame X.OlmMessage}
      (available : on = true → n.serverStorageAvailable contact = true)
      (told : n.changeAndSeal contact (Chat.setStorage on now) (utf8 (if on then "on" else "off"))
        .storage = (n1, .ok (some (address, frame)))) :
      Produces n contact now .storage (encode frame) (n.setRemoteStorage contact on now).1
  | approval {chat : Chat X} {n' : Node X} (found : n.chats.lookup contact = some chat)
      (waiting : chat.authorized = false) (decided : n.authorize contact true now = .ok n')
      (approved : (n'.chats.lookup contact).any (·.authorized) = true) :
      Produces n contact now .approval (encode (.approved n.identityKey (chat.code.getD ""))) n'
  | approvalEcho {prior : Chat X} {fromAddress : Option String} {address : String}
      {message : WireOlm X.OlmMessage} {olm : X.OlmMessage} {account : X.Account}
      {session : X.Session} {plaintext : Bytes} {inputs : PairingInputs}
      (found : n.chats.lookup contact = some prior) (approved : prior.authorized = true)
      (isOpen : prior.closed = false) (readable : message.toOlm = some olm)
      (accepted : X.acceptInbound n.account contact olm = some (account, session, plaintext)) :
      Produces n contact now .approvalEcho (encode (.approved n.identityKey (prior.code.getD "")))
        (n.receiveHello fromAddress contact address message inputs now).1
  | edit {msgId newText : String} {recalled : Option Bool} {n1 n' : Node X} {message : X.OlmMessage}
      (told : n.heldUnsent contact msgId = none ∧ recalled ≠ some true)
      (enciphered : n.sealFor contact (packEdit msgId newText) = some (n1, message))
      (finished : n.finishEdit contact msgId newText recalled now = .ok n') :
      Produces n contact now .edit (encode (.edit n1.identityKey (.fromOlm message))) n'
  | unsend {msgId : String} {recalled : Option Bool} {chat : Chat X} {i : Nat} {n1 : Node X}
      {message : X.OlmMessage} (found : n.chats.lookup contact = some chat)
      (told : n.heldUnsent contact msgId = none ∧ recalled ≠ some true)
      (there : chat.history.findIdx? (fun m => m.fromMe && !m.system && m.msgId = msgId) = some i)
      (enciphered : (n.modifyChat contact (fun chat =>
          { chat with history := chat.history.modify i ChatMessage.tombstone })).sealFor contact
        (packUnsend msgId) = some (n1, message)) :
      Produces n contact now .unsend (encode (.unsend n1.identityKey (.fromOlm message)))
        (n.finishUnsend contact msgId recalled now).1
  | clientKey {peerAddress address clientKey : String} {secret : Bytes} {n1 : Node X}
      {frame : Frame X.OlmMessage}
      (enciphered : Node.authedControl { n.modifyChat contact (fun chat =>
            { chat with clientKey := some secret }) with
          dirty := n.dirty || (n.chats.lookup contact).isSome } contact
        (MARK_CLIENT_KEY_PREFIX ++ utf8 clientKey) .clientKeySealed = some (n1, address, frame)) :
      Produces n contact now .clientKey (encode frame)
        (n.announceClientKey contact peerAddress (some (clientKey, secret)) now)
  | verified {on : Bool} {address : String} {chat : Chat X} {n1 : Node X} {frame : Frame X.OlmMessage}
      (found : n.chats.lookup contact = some chat)
      (enciphered : (n.modifyChat contact ({ · with verified := on })).authedControl contact
        (if on then MARK_VERIFIED else MARK_UNVERIFIED) .verified = some (n1, address, frame)) :
      Produces n contact now .verified (encode frame) (n.setVerified contact on now)

/-- A frame waits in the held queue, which is retried. -/
def Holds (n : Node X) (contact : String) (bytes : Envelope X.OlmMessage) : Prop :=
  { contactId := contact, msgId := "", bytes := bytes } ∈ n.held

/-- A send of a one-off frame ends well: it landed, is held anew, or its caller hears of the failure. -/
def EndsWell (n : Node X) (notice : Notice) (f : Finished X) (later : Nat) : Prop :=
  f.delivery ≠ .failed
    ∨ (n.applyFinished f later).held
        = n.held ++ [{ contactId := f.recipient, msgId := "", bytes := f.bytes }]
    ∨ (notice.reported = true ∧ f.callerFailed = true)

instance [DecidableEq (HeldSend X)] (n : Node X) (notice : Notice) (f : Finished X) (later : Nat) :
    Decidable (n.EndsWell notice f later) :=
  inferInstanceAs (Decidable (_ ∨ _ ∨ _))

end Node

/-- Whether a send has somewhere to go: a dial that is answered, a relay that takes a copy, or no
relay route at all, so that a failure is held. -/
def Outbound.reaches (o : Outbound X) (answered : Bool) (answers : RelayAnswers) : Bool :=
  (o.send.peerAddress ≠ "" && answered) || (o.send.primary.isNone && o.send.peerRelays = [])
    || (queueOnRelays answers o.send.primary o.send.peerRelays o.send.handle).isSome

end Nightdrop
