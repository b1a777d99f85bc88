import Nightdrop.Lib.Reach
import Nightdrop.Node.Process
import Nightdrop.Node.Setting

/-! Two devices that tell each other settings and values, over a network that loses no order or count. -/

namespace Nightdrop

variable {X : Externals}

/-- What one device can tell the other. -/
inductive Topic where
  | timer | storage | name | address | relaySet | version | captures
deriving DecidableEq, Repr

/-- One thing told. -/
inductive Told where
  | timer (secs : Nat)
  | storage (on : Bool)
  | name (chosen : String)
  | address (onion : String)
  | relaySet (set : RelaySet)
  | version (runs : String)
  | captures (visible : Bool)
deriving DecidableEq, Repr

def Told.topic : Told → Topic
  | .timer _ => .timer
  | .storage _ => .storage
  | .name _ => .name
  | .address _ => .address
  | .relaySet _ => .relaySet
  | .version _ => .version
  | .captures _ => .captures

/-- What is sealed to tell it. -/
def Told.payload (X : Externals) : Told → Bytes
  | .timer secs => decimal secs
  | .storage on => utf8 (if on then "on" else "off")
  | .name chosen => utf8 chosen
  | .address onion => utf8 onion
  | .relaySet set => X.writeRelaySet set
  | .version runs => MARK_VERSION_PREFIX ++ utf8 runs
  | .captures visible => if visible then MARK_CAPTURES_VISIBLE else MARK_CAPTURES_SILENT

namespace Topic

/-- The frame that carries it. -/
def carrier : Topic → SealedKind
  | timer => .disappearing
  | storage => .storage
  | name => .name
  | address => .address
  | relaySet => .relaySet
  | version => .version
  | captures => .captures

/-- Both sides set it, and both hold it. -/
def shared : Topic → Bool
  | timer | storage => true
  | _ => false

/-- Only an approved contact is heard. -/
def approved : Topic → Bool
  | version | captures => false
  | _ => true

/-- A change counts against the contact's daily allowance, and is dropped when over it. -/
def counted : Topic → Bool
  | timer | storage | address => true
  | _ => false

/-- What a payload says on a topic, if it says anything. -/
def reads (X : Externals) (plaintext : Bytes) : Topic → Option Told
  | timer => some (.timer (readTimer plaintext))
  | storage => some (.storage (plaintext = utf8 "on"))
  | name => some (.name (cleanDisplayName (fromUtf8Lossy plaintext)))
  | address =>
    if saneAddress (fromUtf8Lossy plaintext) then some (.address (fromUtf8Lossy plaintext)) else none
  | relaySet => (X.readRelaySet plaintext).map (fun set => .relaySet (sanitizePeerSet set))
  | version => (readVersion plaintext).map .version
  | captures =>
    if plaintext = MARK_CAPTURES_VISIBLE then some (.captures true)
    else if (stripMark MARK_NEARBY_PREFIX plaintext).isSome then none
    else if plaintext = MARK_CAPTURES_SILENT then some (.captures false)
    else none

end Topic

/-- What a chat holds on a topic: the setting, or what the contact last told. -/
def Chat.record (chat : Chat X) : Topic → Option Told
  | .timer => some (.timer chat.disappearingSecs)
  | .storage => some (.storage chat.remoteStorage)
  | .name => some (.name chat.theirName)
  | .address => some (.address chat.peerAddress)
  | .relaySet => chat.relaySet.map .relaySet
  | .version => chat.peerAppVersion.map .version
  | .captures => chat.peerCapturesSilent.map (fun silent => .captures (!silent))

namespace Node

/-- What a device holds on a topic in its chat with a contact. -/
def record (n : Node X) (contact : String) (topic : Topic) : Option Told :=
  (n.chats.lookup contact).bind (·.record topic)

/-- What telling a contact makes of a device, by the operation for each topic. -/
inductive Tells (n : Node X) (contact : String) (now : Nat) : Told → Node X → Prop where
  | timer {secs : Nat} (fits : secs ≤ U64_MAX) :
      Tells n contact now (.timer secs) (n.setDisappearing contact secs now).1
  | storage {on : Bool} : Tells n contact now (.storage on) (n.setRemoteStorage contact on now).1
  | name {name : String} :
      Tells n contact now (.name (resolveName name)) (n.setMyName contact name now).1
  | address : Tells n contact now (.address n.address) (n.sendAddressTo contact now)
  | relaySet : Tells n contact now (.relaySet n.myRelaySet) (n.announceRelaySetTo contact now)
  | version {version : String} (runs : n.appVersion = some version) :
      Tells n contact now (.version version) (n.announceVersionTo contact now)
  | captures {visible : Bool} (reports : n.capturesVisible = some visible) :
      Tells n contact now (.captures visible) (n.announceCapturesTo contact now)

/-- One more frame is on its way out: in the outbox, or held. -/
def Hands (n n' : Node X) (bytes : Envelope X.OlmMessage) : Prop :=
  (n'.held = n.held ∧ ∃ o, n'.outbox = n.outbox ++ [o] ∧ o.send.bytes = bytes)
    ∨ (n'.outbox = n.outbox ∧ ∃ h, n'.held = n.held ++ [h] ∧ h.bytes = bytes)

end Node

/-- One end of the conversation. -/
inductive Side where
  | left | right
deriving DecidableEq, Repr

def Side.other : Side → Side
  | left => right
  | right => left

variable (X) in
/-- One frame that was sent, and whether the other side has processed it. -/
structure SentFrame where
  author : Side
  told : Told
  bytes : Envelope X.OlmMessage
  heard : Bool := false

variable (X) in
/-- The two devices, and every frame that was ever sent between them, the oldest first. -/
structure Talk where
  left : Node X
  right : Node X
  sent : List (SentFrame X) := []

namespace Talk

def node (w : Talk X) : Side → Node X
  | .left => w.left
  | .right => w.right

def setNode (w : Talk X) (side : Side) (n : Node X) : Talk X :=
  match side with
  | .left => { w with left := n }
  | .right => { w with right := n }

end Talk

variable (X) in
/-- One step: a device tells something, hears a frame, or does something else. -/
inductive TalkEvent where
  | tell (side : Side) (told : Told) (now : Nat)
  /-- Any frame ever sent arrives, in any order and any number of times. -/
  | hear (side : Side) (fromAddress : Option String) (e : SentFrame X) (inputs : Node.FrameInputs)
      (now : Nat)
  | elsewhere (side : Side)

/-- What each step does; `key` is the name each side's contact knows it by. -/
inductive TalkStep (key : Side → String) (w : Talk X) : TalkEvent X → Talk X → Prop where
  | tell {side : Side} {told : Told} {now : Nat} {n : Node X} {bytes : Envelope X.OlmMessage}
      (did : (w.node side).Tells (key side.other) now told n) (handed : (w.node side).Hands n bytes) :
      TalkStep key w (.tell side told now)
        { w.setNode side n with sent := w.sent ++ [{ author := side, told := told, bytes := bytes }] }
  /-- Nothing went out: the contact is not live, or has been told. -/
  | keep {side : Side} {told : Told} {now : Nat} {n : Node X}
      (did : (w.node side).Tells (key side.other) now told n)
      (unsent : n.outbox = (w.node side).outbox ∧ n.held = (w.node side).held) :
      TalkStep key w (.tell side told now) (w.setNode side n)
  | hear {side : Side} {fromAddress : Option String} {e : SentFrame X} {inputs : Node.FrameInputs}
      {now : Nat} {front back : List (SentFrame X)} (pooled : w.sent = front ++ e :: back)
      (across : e.author = side.other) :
      TalkStep key w (.hear side fromAddress e inputs now)
        { w.setNode side ((w.node side).takeIn fromAddress e.bytes inputs now).1 with
          sent := front ++ { e with heard := true } :: back }
  /-- Anything that is neither: it keeps who we are and what the chat holds. -/
  | elsewhere {side : Side} {n : Node X} (same : n.identityKey = (w.node side).identityKey)
      (holds : ∀ topic, n.record (key side.other) topic = (w.node side).record (key side.other) topic) :
      TalkStep key w (.elsewhere side) (w.setNode side n)

end Nightdrop
