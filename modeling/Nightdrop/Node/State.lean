import Nightdrop.Lib.KeyedMap
import Nightdrop.Nearby.Address
import Nightdrop.Node.Wire

/-! One device: its chats with their histories, and the queues a composed message moves through. -/

namespace Nightdrop

/-- Delivery state of a message. -/
inductive Status where
  /-- Not applicable: incoming, a system notice, or a tombstone. -/
  | none
  /-- Handed to the peer's onion, which answered. -/
  | sent
  /-- On a relay until they collect it, or on its way there. -/
  | queued
  /-- Held on this device: no relay connects us and they were offline. -/
  | waiting
  /-- Held on this device until the contact updates. -/
  | update
  /-- Named by a receipt. -/
  | delivered
  /-- Queued past the relay's time to live. -/
  | expired
deriving DecidableEq, Repr

/-- What a history entry is. -/
inductive Kind where
  | text | image | video | deleted | burnExpired | awaitApproval | approved
deriving DecidableEq, Repr

/-- One entry of a conversation. -/
structure ChatMessage where
  fromMe : Bool
  text : String
  system : Bool := false
  kind : Kind := .text
  mediaId : String := ""
  thumbId : String := ""
  transferId : String := ""
  delivery : Status := .none
  msgId : String := ""
  edited : Bool := false
  /-- When it was created or received, in unix seconds; 0 from before timestamps existed. -/
  stamp : Nat
  burnSecs : Nat := 0
  viewedAt : Nat := 0
deriving DecidableEq, Repr

namespace ChatMessage

/-- A plain text message. -/
def ofText (fromMe : Bool) (text msgId : String) (now : Nat) : ChatMessage where
  fromMe := fromMe
  text := text
  msgId := msgId
  stamp := now

/-- A local system notice. -/
def ofSystem (text : String) (now : Nat) : ChatMessage where
  fromMe := false
  text := text
  system := true
  stamp := now

/-- A system notice that can be found and removed later. -/
def ofSystemTagged (text : String) (kind : Kind) (now : Nat) : ChatMessage :=
  { ofSystem text now with kind := kind }

/-- An attachment, whose bytes live in sealed files. -/
def ofMedia (fromMe : Bool) (kind : Kind) (mediaId transferId thumbId : String) (now : Nat) :
    ChatMessage where
  fromMe := fromMe
  text := ""
  kind := kind
  mediaId := mediaId
  transferId := transferId
  thumbId := thumbId
  stamp := now

/-- A "deleted" tombstone in place of a message: it keeps its id and position. -/
def tombstone (m : ChatMessage) : ChatMessage :=
  { m with text := "", kind := .deleted, edited := false, delivery := .none }

/-- A marker in place of a burn message nobody opened: only position and arrival time stay. -/
def burnTombstone (m : ChatMessage) : ChatMessage :=
  { m with
    text := "", kind := .burnExpired, mediaId := "", thumbId := "", transferId := "", msgId := "",
    edited := false, delivery := .none, burnSecs := 0, viewedAt := 0 }

/-- One of our own messages, which `id` names: a text by its id, an attachment by its transfer. -/
def isSent (id : String) (m : ChatMessage) : Bool :=
  m.fromMe && !m.system && (m.msgId = id || (m.msgId = "" && m.transferId = id))

/-- One of our own messages with this id. -/
def isOwn (id : String) (m : ChatMessage) : Bool := m.fromMe && m.msgId = id

/-- One of our own texts that can still be edited or unsent by its id. -/
def isOwnText (id : String) (m : ChatMessage) : Bool :=
  m.fromMe && !m.system && m.kind = .text && m.msgId = id

/-- One of the contact's texts that can still be edited or unsent by its id. -/
def isTheirText (id : String) (now window : Nat) (m : ChatMessage) : Bool :=
  !m.fromMe && !m.system && m.kind = .text && m.msgId ≠ "" && m.msgId = id && m.stamp ≠ 0
    && now - m.stamp ≤ window

/-- A message of the contact's we already hold under this id. -/
def isTheirs (id : String) (m : ChatMessage) : Bool := !m.fromMe && m.msgId = id && !m.system

end ChatMessage

/-- Changes the first entry that satisfies `p`. -/
def updateFirst {α : Type} (p : α → Bool) (f : α → α) : List α → List α
  | [] => []
  | a :: rest => if p a then f a :: rest else a :: updateFirst p f rest

/-- A client for one relay. -/
structure RelayClient where
  addr : Option String := none
deriving DecidableEq, Repr

/-- An entry of our own relay list. -/
inductive RelayEntry where
  | nightDrop
  | onion (addr : String)
deriving DecidableEq, Repr

/-- Our side of the agreement on a pair's mailbox. -/
structure MailboxPair where
  own : Bytes
  peer : Option Bytes := none
  peerConfirmed : Bool := false
  confirmSent : Bool := false
  announcedAt : Option Nat := none
deriving DecidableEq, Repr

/-- A pair agreed at pairing, from the seed in the `Hello`. -/
def MailboxPair.seeded (seed : Bytes) : MailboxPair where
  own := seed
  peer := some seed
  peerConfirmed := true
  confirmSent := true

/-- What recalls one still-queued copy of a message. -/
structure QueuedReceipt where
  /-- `none` for the Night Drop relay. -/
  relayAddr : Option String := none
  /-- The mailbox it was posted under; empty for a copy no recall can reach. -/
  handle : String := ""
  msgId : String := ""
  deleteToken : String := ""
deriving DecidableEq, Repr

/-- The copy handed straight to the peer before a relay copy was put behind it. -/
def QueuedReceipt.handedDirectly : QueuedReceipt := {}

/-- What we call a contact who never named themselves. -/
def DEFAULT_NAME : String := "Anon"

variable (X : Externals)

/-- One conversation. -/
structure Chat where
  theirName : String := DEFAULT_NAME
  myName : String := DEFAULT_NAME
  peerAddress : String
  session : X.Session
  history : List ChatMessage := []
  lastSeen : Option Nat := none
  /-- False while an inbound request awaits the user's approval. -/
  authorized : Bool
  code : Option String := none
  closed : Bool := false
  /-- Recall receipts for our still-queued messages, by message id. -/
  relayReceipts : KeyedMap String (List QueuedReceipt) := ∅
  disappearingSecs : Nat := 0
  disappearingTimeline : List (Nat × Nat) := []
  storageTimeline : List (Nat × Bool) := []
  remoteStorage : Bool := false
  remoteStorageHealthy : Bool := true
  peerSupportsBurn : Option Bool := none
  peerAppVersion : Option String := none
  verified : Bool := false
  peerVerified : Bool := false
  peerBackedUp : Bool := false
  /-- Whether the peer's device cannot report captures, once it said. -/
  peerCapturesSilent : Option Bool := none
  /-- Whether the peer asks us to block captures, and the number of that announcement. -/
  peerBlocksCapture : Option Bool := none
  peerBlockSeq : Nat := 0
  /-- Our user allows captures here although the peer asks us to block them. -/
  captureOverride : Bool := false
  mailbox : Option MailboxPair := none
  relaySet : Option RelaySet := none
  relaysTold : Option RelaySet := none
  ownKeyPending : Option Bytes := none
  peerKeyPending : Option String := none
  passPending : Option Bytes := none
  clientKey : Option Bytes := none
  /-- The peer last reached us in an older wire version. -/
  peerWireOld : Bool := false
  /-- What the peer last confirmed hearing of each standing announcement. -/
  toldBurns : Bool := false
  toldVersion : Option String := none
  toldAddress : Option String := none
  toldCaptures : Option Bool := none
  toldBlock : Option Bool := none
  toldNearbySeq : Nat := 0
  toldUpgrade : Bool := false
  /-- The token we gave the peer for the local network, while nearby is on here. -/
  nearbyToken : Option String := none
  nearbySeq : Nat := 0
  /-- Whether nearby is on at the peer's, and where they listen. -/
  peerNearbyOn : Bool := false
  peerNearby : Option (SocketAddr × String) := none
  peerNearbySeq : Nat := 0
  aliveCount : Nat := 0
  allowance : Allowance := {}

/-- A message composed on an asynchronous transport, waiting for the poller. -/
structure PendingRelaySend where
  contactId : String
  msgId : String
  bytes : Envelope X.OlmMessage
deriving DecidableEq

/-- One frame in the held queue. -/
structure HeldSend where
  contactId : String
  /-- The message it carries, or empty for a control frame. -/
  msgId : String
  bytes : Envelope X.OlmMessage
  /-- In the outbox right now. -/
  inFlight : Bool := false
deriving DecidableEq

/-- A frame that must not be lost, with its own routing so that it survives its chat. -/
structure PendingControl where
  recipientIk : String
  peerAddress : String
  relays : List String
  nightdrop : Bool
  bytes : Envelope X.OlmMessage
  handle : String
  inFlight : Bool := false
deriving DecidableEq

/-- A message handed to the peer's onion that no receipt has named yet. -/
structure AwaitingReceipt where
  contactId : String
  msgId : String
  /-- When the direct send succeeded. -/
  since : Nat
deriving DecidableEq, Repr

/-- One sealed frame with the routing snapshotted for it. -/
structure DetachedSend where
  primary : Option RelayClient
  peerRelays : List String
  recipientIk : String
  handle : String
  peerAddress : String
  bytes : Envelope X.OlmMessage
  fresh : Bool
deriving DecidableEq

/-- One deferred message with the routing snapshotted for it. -/
structure PlannedSend where
  contactId : String
  handle : String
  msgId : String
  bytes : Envelope X.OlmMessage
  peerAddress : String
  primary : Option RelayClient
  relayTargets : List String
  remoteStorage : Bool
deriving DecidableEq

/-- What sending one planned message came to. -/
structure SendOutcome where
  contactId : String
  msgId : String
  bytes : Envelope X.OlmMessage
  delivered : Bool
  /-- The receipts, if at least one relay took a copy. -/
  copies : Option (List QueuedReceipt)
  /-- A relay post was tried and every relay refused it. -/
  relayFailed : Bool
deriving DecidableEq

/-- Which path a frame tries, in order. -/
inductive Route where
  | directThenRelay
  | relayThenDirect
  | relayOnly
deriving DecidableEq, Repr

/-- What took a frame. -/
inductive Delivery where
  | direct
  | relay (copies : List QueuedReceipt)
  | failed
deriving DecidableEq, Repr

/-- Which standing announcement a frame stands for. -/
inductive Announce where
  | burns | version | mailbox | address | relaySet | captures
  | block (on : Bool)
  | nearby (seq : Nat)
  | upgradeNotice
deriving DecidableEq, Repr

/-- What a finished send changes in the core. -/
inductive OutboundDone where
  /-- Best-effort: nothing to record. -/
  | nothing
  /-- An API call waits on it; with a message, relay receipts are recorded against that message. -/
  | caller (record : Option (String × String))
  | announced (kind : Announce) (contactId : String)
  /-- A pending control frame, named by its bytes. -/
  | pendingControl (bytes : Envelope X.OlmMessage)
  /-- A held frame, named by its bytes. -/
  | held (bytes : Envelope X.OlmMessage)
  /-- A relay copy behind a message no receipt has named. -/
  | unconfirmed (waiting : AwaitingReceipt)
  /-- Cover traffic. -/
  | cover
deriving DecidableEq

/-- A frame sealed under the lock and delivered without it. -/
structure Outbound where
  send : DetachedSend X
  route : Route
  done : OutboundDone X
deriving DecidableEq

/-- A frame after its network round. -/
structure Finished where
  done : OutboundDone X
  delivery : Delivery
  recipient : String
  bytes : Envelope X.OlmMessage
  /-- The send had no relay to fall back on. -/
  relayless : Bool
deriving DecidableEq

/-- One device. -/
structure Node where
  identityKey : String
  account : X.Account
  address : String
  /-- The client for the Night Drop relay. -/
  relay : Option RelayClient := none
  /-- Our relay list; empty is direct only. -/
  relays : List RelayEntry := [.nightDrop]
  discoveredRelays : List String := []
  chats : KeyedMap String (Chat X) := ∅
  requireAuthorization : Bool := false
  lastInviteCode : Option String := none
  dirty : Bool := false
  /-- The sealed frames already taken in. -/
  seenFrames : List (Envelope X.OlmMessage) := []
  held : List (HeldSend X) := []
  /-- When each contact with no relay route is next tried: delay and time. -/
  heldBackoff : KeyedMap String (Nat × Nat) := ∅
  background : Bool := false
  pendingSends : List (PendingRelaySend X) := []
  pendingControl : List (PendingControl X) := []
  outbox : List (Outbound X) := []
  receiptSends : List (DetachedSend X) := []
  awaitingReceipt : List AwaitingReceipt := []
  /-- Contact and id of every user message accepted and not yet receipted. -/
  pendingReceipts : List (String × String) := []
  /-- What is on its way to each contact, by announcement. -/
  upgradeNoticeInFlight : List String := []
  relaySetInFlight : KeyedMap String RelaySet := ∅
  burnsAnnounced : List String := []
  versionAnnounced : KeyedMap String String := ∅
  mailboxAnnounced : List String := []
  addressAnnounced : KeyedMap String String := ∅
  capturesAnnounced : KeyedMap String Bool := ∅
  blockAnnounced : KeyedMap String Bool := ∅
  nearbyAnnounced : KeyedMap String Nat := ∅
  /-- What this device announces about itself, as the app last said. -/
  appVersion : Option String := none
  capturesVisible : Option Bool := none
  captureBlock : Option Bool := none
  captureBlockSeq : Nat := 0
  /-- When each contact was last told again that captures stay allowed. -/
  overrideRetold : KeyedMap String Nat := ∅
  /-- The sealed files of the media store, by id. -/
  media : List String := []
  /-- Where this device listens on the local network, and the routes the transport was given. -/
  nearbyAddress : Option SocketAddr := none
  nearbyRoutes : KeyedMap String NearbyRoute := ∅
  directFailures : Nat := 0
  directEverSucceeded : Bool := false
  relayEverSucceeded : Bool := false

variable {X}

namespace Node

/-- Changes one chat, if it is there. -/
def modifyChat (n : Node X) (contact : String) (f : Chat X → Chat X) : Node X :=
  { n with chats := n.chats.modify contact f }

@[simp] theorem lookup_modifyChat (n : Node X) (contact other : String) (f : Chat X → Chat X) :
    (n.modifyChat contact f).chats.lookup other
      = if other = contact then (n.chats.lookup contact).map f else n.chats.lookup other :=
  KeyedMap.lookup_modify n.chats contact other f

end Node

end Nightdrop
