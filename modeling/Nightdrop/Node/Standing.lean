import Mathlib
import Nightdrop.Lib.Reach
import Nightdrop.Node.Nearby
import Nightdrop.Node.Setting

/-! What each contact was told of the values this device announces, while they change under way. -/

namespace Nightdrop

variable {X : Externals}

/-- Whether every contact is told again at each start, which tells them when we came online. -/
def ANNOUNCE_ONLINE_ON_START : Bool := false

/-- What a standing announcement is about. -/
inductive Matter where
  | burns | version | address | captures | block | relaySet | nearby
deriving DecidableEq, Repr

/-- What a standing announcement says. -/
inductive Tiding where
  | burns
  | version (runs : String)
  | address (onion : String)
  | captures (visible : Bool)
  | block (on : Bool)
  | relaySet (set : RelaySet)
  /-- Our nearby state of that number; a change of it takes a higher one. -/
  | nearby (seq : Nat)
deriving DecidableEq, Repr

namespace Tiding

def matter : Tiding → Matter
  | burns => .burns
  | version _ => .version
  | address _ => .address
  | captures _ => .captures
  | block _ => .block
  | relaySet _ => .relaySet
  | nearby _ => .nearby

/-- What the completion of its send is told: only two of them carry what was sent. -/
def announce : Tiding → Announce
  | burns => .burns
  | version _ => .version
  | address _ => .address
  | captures _ => .captures
  | block on => .block on
  | relaySet _ => .relaySet
  | nearby seq => .nearby seq

/-- The frame that carries it. -/
def carrier : Tiding → SealedKind
  | burns => .burns
  | version _ => .version
  | address _ => .address
  | captures _ | block _ | nearby _ => .captures
  | relaySet _ => .relaySet

end Tiding

/-- What a chat records its contact as told. -/
def Chat.told (chat : Chat X) : Matter → Option Tiding
  | .burns => if chat.toldBurns then some .burns else none
  | .version => chat.toldVersion.map .version
  | .address => chat.toldAddress.map .address
  | .captures => chat.toldCaptures.map .captures
  | .block => chat.toldBlock.map .block
  | .relaySet => chat.relaysTold.map .relaySet
  | .nearby => if chat.toldNearbySeq = 0 then none else some (.nearby chat.toldNearbySeq)

/-- Our nearby state in a chat, once it was ever switched. -/
def Chat.nearbyState (chat : Chat X) : Option Tiding :=
  if chat.nearbySeq = 0 then none else some (.nearby chat.nearbySeq)

/-- What a retry asks of every chat: approved, open, not on its way, not told it, and time to. -/
def Chat.due (chat : Chat X) (flagged told retry : Bool) : Bool :=
  chat.authorized && !chat.closed && !flagged && (ANNOUNCE_ONLINE_ON_START || !told) && retry

namespace Node

/-- What a contact is recorded as told. -/
def told (n : Node X) (contact : String) (matter : Matter) : Option Tiding :=
  (n.chats.lookup contact).bind (·.told matter)

/-- What is flagged as on its way to a contact, or as sent to it in this run. -/
def flagged (n : Node X) (contact : String) : Matter → Option Tiding
  | .burns => if contact ∈ n.burnsAnnounced then some .burns else none
  | .version => (n.versionAnnounced.lookup contact).map .version
  | .address => (n.addressAnnounced.lookup contact).map .address
  | .captures => (n.capturesAnnounced.lookup contact).map .captures
  | .block => (n.blockAnnounced.lookup contact).map .block
  | .relaySet => (n.relaySetInFlight.lookup contact).map .relaySet
  | .nearby => (n.nearbyAnnounced.lookup contact).map .nearby

/-- What there is to tell a contact now. -/
def current (n : Node X) (contact : String) : Matter → Option Tiding
  | .burns => some .burns
  | .version => n.appVersion.map .version
  | .address => some (.address n.address)
  | .captures => n.capturesVisible.map .captures
  | .block => n.captureBlock.map .block
  | .relaySet => some (.relaySet n.myRelaySet)
  | .nearby => (n.chats.lookup contact).bind Chat.nearbyState

def burnsDue (n : Node X) (now : Nat) (contact : String) (chat : Chat X) : Bool :=
  chat.due (contact ∈ n.burnsAnnounced) chat.toldBurns (n.mayRetry contact now)

/-- Even a contact we take to be outdated: it is how one that has updated learns that we have. -/
def versionDue (n : Node X) (now : Nat) (contact : String) (chat : Chat X) : Bool :=
  n.appVersion.isSome && chat.due (n.versionAnnounced.lookup contact).isSome
    (chat.toldVersion = n.appVersion) (n.retryDueEvenIfOutdated contact now)

def addressDue (n : Node X) (now : Nat) (contact : String) (chat : Chat X) : Bool :=
  chat.due (n.addressAnnounced.lookup contact).isSome (chat.toldAddress = some n.address)
    (n.mayRetry contact now)

def capturesDue (n : Node X) (now : Nat) (contact : String) (chat : Chat X) : Bool :=
  n.capturesVisible.isSome && chat.due (n.capturesAnnounced.lookup contact).isSome
    (chat.toldCaptures = n.capturesVisible) (n.mayRetry contact now)

def blockDue (n : Node X) (now : Nat) (contact : String) (chat : Chat X) : Bool :=
  n.captureBlock.isSome && chat.due (n.blockAnnounced.lookup contact).isSome
    (chat.toldBlock = n.captureBlock) (n.mayRetry contact now)

def relaySetDue (n : Node X) (now : Nat) (contact : String) (chat : Chat X) : Bool :=
  chat.due (n.relaySetInFlight.lookup contact).isSome (chat.relaysTold = some n.myRelaySet)
    (n.mayRetry contact now)

/-- Whether a later tick tells a contact of a matter. -/
def due (n : Node X) (now : Nat) (contact : String) (chat : Chat X) : Matter → Bool
  | .burns => n.burnsDue now contact chat
  | .version => n.versionDue now contact chat
  | .address => n.addressDue now contact chat
  | .captures => n.capturesDue now contact chat
  | .block => n.blockDue now contact chat
  | .relaySet => n.relaySetDue now contact chat
  | .nearby => n.nearbyDue now contact chat

/-- Whether enough time went by to try a contact. -/
def retries (n : Node X) (now : Nat) (contact : String) : Matter → Bool
  | .version => n.retryDueEvenIfOutdated contact now
  | _ => n.mayRetry contact now

/-- Tells one contact of a matter. -/
def tell (n : Node X) (matter : Matter) (contact : String) (now : Nat) : Node X :=
  match matter with
  | .burns => n.announceBurnsTo contact now
  | .version => n.announceVersionTo contact now
  | .address => n.sendAddressTo contact now
  | .captures => n.announceCapturesTo contact now
  | .block => n.announceBlockTo contact now
  | .relaySet => n.announceRelaySetTo contact now
  | .nearby => n.announceNearbyTo contact now

/-- What is sealed to tell a contact of it. -/
def payload (n : Node X) (contact : String) : Tiding → Bytes
  | .burns => MARK_BURNS_V1
  | .version runs => MARK_VERSION_PREFIX ++ utf8 runs
  | .address onion => utf8 onion
  | .captures visible => if visible then MARK_CAPTURES_VISIBLE else MARK_CAPTURES_SILENT
  | .block on => MARK_CAPTURE_BLOCK_PREFIX
      ++ (utf8 (if on then "1" else "0") ++ utf8 ":" ++ decimal n.captureBlockSeq)
  | .relaySet set => X.writeRelaySet set
  | .nearby _ => MARK_NEARBY_PREFIX
      ++ ((n.chats.lookup contact).map (·.nearbyBody n.nearbyAddress)).getD []

/-- Records this build's version; a changed one is to be told again. -/
def setAppVersion (n : Node X) (version : String) : Node X :=
  let version := trimText ((version.splitOn "+").headD "")
  if !isPlausibleVersion version || n.appVersion = some version then n
  else { n with appVersion := some version, versionAnnounced := ∅ }

/-- Records whether this device reports captures; a changed answer is to be told again. -/
def setCapturesVisible (n : Node X) (visible : Bool) : Node X :=
  if n.capturesVisible = some visible then n
  else { n with capturesVisible := some visible, capturesAnnounced := ∅ }

/-- Records whether this device blocks captures; a changed answer is to be told to all again, for
what a chat holds may be an older value still under way. -/
def setCaptureBlock (n : Node X) (blocked : Bool) (nowMs : Nat) : Node X :=
  if n.captureBlock = some blocked then n
  else
    { n.mapChats (fun chat => { chat with toldBlock := none }) with
      captureBlock := some blocked
      captureBlockSeq := max nowMs (n.captureBlockSeq + 1)
      blockAnnounced := ∅ }

end Node

variable (X) in
/-- A device, the announcements it has under way, and those delivered since each contact's pairing. -/
structure Telling where
  node : Node X
  /-- Each frame on its way, as its contact and what it says. -/
  way : List (String × Tiding) := []
  /-- What was delivered to whom, in order. -/
  heard : List (String × Tiding) := []

/-- Whether a flag for a matter stands for what there is to tell now: a change takes it down. -/
def Matter.follows : Matter → Bool
  | .version | .address | .captures | .block => true
  | .burns | .relaySet | .nearby => false

/-- What else a device does: what was told or flagged stays, or is forgotten. -/
structure Node.Forgets (n n' : Node X) : Prop where
  told : ∀ contact matter, n'.told contact matter = n.told contact matter
    ∨ n'.told contact matter = none
  flagged : ∀ contact matter, n'.flagged contact matter = n.flagged contact matter
    ∨ n'.flagged contact matter = none
  /-- A value that changes takes its flags down. -/
  current : ∀ contact matter, matter.follows = true → n'.current contact matter = n.current contact matter
    ∨ n'.flagged contact matter = none
  /-- No chat is begun, and the number of a nearby state only grows. -/
  chats : ∀ contact chat', n'.chats.lookup contact = some chat' →
    ∃ chat, n.chats.lookup contact = some chat
      ∧ (chat'.toldNearbySeq = 0
        ∨ chat'.toldNearbySeq = chat.toldNearbySeq ∧ chat.nearbySeq ≤ chat'.nearbySeq)

variable (X) in
/-- What may happen between a device and its contacts. -/
inductive TellEvent where
  | elsewhere (n : Node X)
  /-- The address changes while the device runs. -/
  | moved (address : String)
  | tell (matter : Matter) (contact : String) (now : Nat)
  /-- The send of an announcement ended. -/
  | done (contact : String) (tiding : Tiding) (delivered : Bool) (now : Nat)
  /-- A contact is paired, or paired again, with this chat. -/
  | paired (contact : String) (chat : Chat X)
  /-- The app is started again: what was flagged and under way is gone. -/
  | restart (n : Node X)

/--
Whether a completed delivery finds on file what its frame carried, so that it records just that; a
nearby state is on file as the newest told, and as the chat's own.
-/
def Node.Files (n : Node X) (contact : String) (tiding : Tiding) : Prop :=
  match tiding with
  | .burns => True
  | .version _ => n.flagged contact .version = some tiding
      ∧ ∀ chat, n.chats.lookup contact = some chat → chat.outdated = false
  | .address _ => n.flagged contact .address = some tiding
  | .captures _ => n.flagged contact .captures = some tiding
  | .block _ => n.current contact .block = some tiding
  | .relaySet _ => n.flagged contact .relaySet = some tiding
  | .nearby seq => ∀ chat, n.chats.lookup contact = some chat →
      chat.toldNearbySeq ≤ seq ∧ seq ≤ chat.nearbySeq

namespace Telling

/-- What was last delivered to a contact on a matter since its pairing. -/
def last (w : Telling X) (contact : String) (matter : Matter) : Option Tiding :=
  ((w.heard.filter (fun h => h.1 = contact ∧ h.2.matter = matter)).map (·.2)).getLast?

/-- One event. -/
inductive Step (w : Telling X) : TellEvent X → Telling X → Prop where
  | elsewhere {n : Node X} (kept : w.node.Forgets n) :
      Step w (.elsewhere n) { w with node := n }
  | moved {address : String} :
      Step w (.moved address) { w with node := { w.node with address := address } }
  /-- Nothing goes out where nothing can be sealed, or to an outdated contact. -/
  | silent {matter : Matter} {contact : String} {now : Nat}
      (quiet : (w.node.tell matter contact now).outbox = w.node.outbox) :
      Step w (.tell matter contact now) { w with node := w.node.tell matter contact now }
  | tell {matter : Matter} {contact : String} {now : Nat} {sent : Outbound X} {tiding : Tiding}
      (handed : (w.node.tell matter contact now).outbox = w.node.outbox ++ [sent])
      (carries : w.node.current contact matter = some tiding) :
      Step w (.tell matter contact now)
        { w with node := w.node.tell matter contact now, way := w.way ++ [(contact, tiding)] }
  | done {front back : List (String × Tiding)} {contact : String} {tiding : Tiding}
      {delivered : Bool} {now : Nat} (under : w.way = front ++ (contact, tiding) :: back) :
      Step w (.done contact tiding delivered now)
        { node := w.node.applyAnnounced tiding.announce contact delivered now
          way := front ++ back
          heard := if delivered then w.heard ++ [(contact, tiding)] else w.heard }
  | paired {contact : String} {chat : Chat X} :
      Step w (.paired contact chat)
        { w with
          node := { w.node with chats := w.node.chats.insert contact chat }
          heard := w.heard.filter (fun h => h.1 ≠ contact) }
  | restart {n : Node X} (kept : w.node.Forgets n)
      (none : ∀ contact matter, n.flagged contact matter = none) :
      Step w (.restart n) { w with node := n, way := [] }

/--
An event that keeps the record of one contact and matter true: a delivery finds on file what it
carried, the address changes only before it was announced, and a pairing starts with nothing told.
-/
def Orderly (contact : String) (matter : Matter) (w : Telling X) : TellEvent X → Prop
  | .done other tiding delivered _ =>
    other = contact → tiding.matter = matter → delivered = true → w.node.Files contact tiding
  | .moved _ => matter = .address → w.node.flagged contact .address = none
  | .paired other chat =>
    other = contact → chat.told matter = none ∧ w.node.flagged contact matter = none
  | _ => True

/-- A step of an orderly run. -/
def OrderlyStep (contact : String) (matter : Matter) (w : Telling X) (event : TellEvent X)
    (w' : Telling X) : Prop :=
  w.Orderly contact matter event ∧ Step w event w'

/-- A device that is just set up: no chats yet, and nothing told. -/
structure Begins (w : Telling X) : Prop where
  chats : w.node.chats = ∅
  flagged : ∀ contact matter, w.node.flagged contact matter = none

end Telling

end Nightdrop
