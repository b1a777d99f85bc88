import Nightdrop.Node.Receive

/-! What a state file keeps of a device, and the device a restart makes of it. -/

namespace Nightdrop

variable (X : Externals)

/-- One relay copy's recall receipt, carrying the message it is for. -/
structure PersistedReceipt where
  targetMsgId : String
  receipt : QueuedReceipt
deriving DecidableEq, Repr

/-- One chat in the state file. -/
structure PersistedChat where
  contactId : String
  theirName : String
  myName : String
  peerAddress : String
  session : X.Session
  history : List ChatMessage
  lastSeen : Option Nat
  authorized : Bool
  closed : Bool
  queuedReceipts : List PersistedReceipt
  /-- Absent from a state of before 0.2. -/
  disappearingTimeline : Option (List (Nat × Nat))
  storageTimeline : Option (List (Nat × Bool))
  disappearingSecs : Nat
  remoteStorage : Bool
  peerSupportsBurn : Option Bool
  peerAppVersion : Option String
  verified : Bool
  peerVerified : Bool
  peerBackedUp : Bool
  peerCapturesSilent : Option Bool
  peerBlocksCapture : Option Bool
  peerBlockSeq : Nat
  captureOverride : Bool
  mailbox : Option MailboxPair
  relaySet : Option RelaySet
  relaySetUnknown : Bool
  peerRelays : List String
  relaysTold : Option RelaySet
  ownKeyPending : Option Bytes
  peerKeyPending : Option String
  passPending : Option Bytes
  clientKey : Option Bytes
  peerWireOld : Bool
  toldBurns : Bool
  toldVersion : Option String
  toldAddress : Option String
  toldCaptures : Option Bool
  toldBlock : Option Bool
  toldNearbySeq : Nat
  toldUpgrade : Bool
  nearbyToken : Option String
  nearbySeq : Nat
  peerNearbyOn : Bool
  peerNearby : Option (SocketAddr × String)
  peerNearbySeq : Nat

/-- One held frame in the state file. -/
structure PersistedHeld where
  contactId : String
  msgId : String
  bytes : Envelope X.OlmMessage
deriving DecidableEq

/-- One pending control frame in the state file. -/
structure PersistedPendingControl where
  recipientIk : String
  peerAddress : String
  relays : List String
  nightdrop : Bool
  bytes : Envelope X.OlmMessage
  handle : String
deriving DecidableEq

/-- The state file. -/
structure PersistedState where
  account : X.Account
  chats : List (PersistedChat X)
  held : List (PersistedHeld X)
  pendingControl : List (PersistedPendingControl X)
  /-- Absent from a state of before 0.2. -/
  relays : Option (List RelayEntry)
  myRelays : List String
  discoveredRelays : List String

variable {X}

/-- The by-message receipts as one list, each carrying its target. -/
def flattenReceipts (receipts : KeyedMap String (List QueuedReceipt)) : List PersistedReceipt :=
  receipts.entries.flatMap (fun e => e.2.map (fun r => { targetMsgId := e.1, receipt := r }))

/-- The receipts gathered under their targets again. -/
def gatherReceipts (persisted : List PersistedReceipt) : KeyedMap String (List QueuedReceipt) :=
  persisted.foldl (fun receipts p =>
    receipts.insert p.targetMsgId ((receipts.lookup p.targetMsgId).getD [] ++ [p.receipt])) ∅

/-- One chat as the state file keeps it. -/
def Chat.toPersisted (contact : String) (chat : Chat X) : PersistedChat X where
  contactId := contact
  theirName := chat.theirName
  myName := chat.myName
  peerAddress := chat.peerAddress
  session := chat.session
  history := chat.history
  lastSeen := chat.lastSeen
  authorized := chat.authorized
  closed := chat.closed
  queuedReceipts := flattenReceipts chat.relayReceipts
  disappearingTimeline := some chat.disappearingTimeline
  storageTimeline := some chat.storageTimeline
  disappearingSecs := chat.disappearingSecs
  remoteStorage := chat.remoteStorage
  peerSupportsBurn := chat.peerSupportsBurn
  peerAppVersion := chat.peerAppVersion
  verified := chat.verified
  peerVerified := chat.peerVerified
  peerBackedUp := chat.peerBackedUp
  peerCapturesSilent := chat.peerCapturesSilent
  peerBlocksCapture := chat.peerBlocksCapture
  peerBlockSeq := chat.peerBlockSeq
  captureOverride := chat.captureOverride
  mailbox := chat.mailbox
  relaySet := chat.relaySet
  relaySetUnknown := chat.relaySet.isNone
  peerRelays := (chat.relaySet.map (·.relays)).getD []
  relaysTold := chat.relaysTold
  ownKeyPending := chat.ownKeyPending
  peerKeyPending := chat.peerKeyPending
  passPending := chat.passPending
  clientKey := chat.clientKey
  peerWireOld := chat.peerWireOld
  toldBurns := chat.toldBurns
  toldVersion := chat.toldVersion
  toldAddress := chat.toldAddress
  toldCaptures := chat.toldCaptures
  toldBlock := chat.toldBlock
  toldNearbySeq := chat.toldNearbySeq
  toldUpgrade := chat.toldUpgrade
  nearbyToken := chat.nearbyToken
  nearbySeq := chat.nearbySeq
  peerNearbyOn := chat.peerNearbyOn
  peerNearby := chat.peerNearby
  peerNearbySeq := chat.peerNearbySeq

/-- The agreement on a mailbox, read back: never confirmed without what it confirms. -/
def MailboxPair.restored (pair : MailboxPair) : MailboxPair :=
  { pair with
    peerConfirmed := pair.peer.isSome && pair.peerConfirmed
    confirmSent := pair.peer.isSome && pair.confirmSent }

/-- The chat a restart makes of its persisted form. -/
def PersistedChat.toChat (p : PersistedChat X) (now : Nat) : Chat X where
  theirName := cleanDisplayName p.theirName
  myName := p.myName
  peerAddress := p.peerAddress
  session := p.session
  history := p.history
  lastSeen := p.lastSeen
  authorized := p.authorized
  closed := p.closed
  relayReceipts := gatherReceipts p.queuedReceipts
  disappearingTimeline := p.disappearingTimeline.getD
    (if 0 < p.disappearingSecs then [(0, p.disappearingSecs)] else [])
  disappearingSecs := p.disappearingSecs
  storageTimeline := p.storageTimeline.getD (if p.remoteStorage then [(now, true)] else [])
  remoteStorage := p.remoteStorage
  peerSupportsBurn := p.peerSupportsBurn
  peerAppVersion := p.peerAppVersion
  verified := p.verified
  peerVerified := p.peerVerified
  peerBackedUp := p.peerBackedUp
  peerCapturesSilent := p.peerCapturesSilent
  peerBlocksCapture := p.peerBlocksCapture
  peerBlockSeq := p.peerBlockSeq
  captureOverride := p.captureOverride
  mailbox := p.mailbox.map MailboxPair.restored
  relaySet := match p.relaySet with
    | some set => some (sanitizePeerSet set)
    | none => if p.relaySetUnknown then none
      else some (sanitizePeerSet { nightdrop := true, relays := p.peerRelays })
  relaysTold := p.relaysTold
  ownKeyPending := p.ownKeyPending
  peerKeyPending := p.peerKeyPending
  passPending := p.passPending
  clientKey := p.clientKey
  peerWireOld := p.peerWireOld
  toldBurns := p.toldBurns
  toldVersion := p.toldVersion
  toldAddress := p.toldAddress
  toldCaptures := p.toldCaptures
  toldBlock := p.toldBlock
  toldNearbySeq := p.toldNearbySeq
  toldUpgrade := p.toldUpgrade
  nearbyToken := p.nearbyToken.filter validToken
  nearbySeq := p.nearbySeq
  peerNearbyOn := p.peerNearbyOn
  -- Checked as on receipt: a stored address is still only ever one that may be dialed.
  peerNearby := p.peerNearby.filter (fun listens =>
    isPrivate listens.1.ip && validPort listens.1.port && validToken listens.2)
  peerNearbySeq := p.peerNearbySeq

/-- A relay list as stored: trimmed, without blanks and repetitions, and capped. -/
def normalizeRelays : List RelayEntry → List RelayEntry → List RelayEntry
  | kept, [] => kept
  | kept, entry :: rest =>
    let entry := match entry with
      | .onion addr => RelayEntry.onion (trimText addr)
      | .nightDrop => .nightDrop
    if entry = .onion "" ∨ entry ∈ kept ∨ kept.length = MAX_RELAYS then normalizeRelays kept rest
    else normalizeRelays (kept ++ [entry]) rest

/-- The relay list a saved state stands for. -/
def PersistedState.restoredRelays (state : PersistedState X) : List RelayEntry :=
  normalizeRelays [] (state.relays.getD (.nightDrop :: state.myRelays.map .onion))

namespace Node

/-- The full state of a device, as the state file keeps it. -/
def exportState (n : Node X) : PersistedState X where
  account := n.account
  chats := n.chats.entries.map (fun e => e.2.toPersisted e.1)
  held := n.held.map (fun h => { contactId := h.contactId, msgId := h.msgId, bytes := h.bytes })
  pendingControl := n.pendingControl.map (fun p =>
    { recipientIk := p.recipientIk, peerAddress := p.peerAddress, relays := p.relays
      nightdrop := p.nightdrop, bytes := p.bytes, handle := p.handle })
  relays := some n.relays
  myRelays := n.relays.filterMap (fun
    | .onion addr => some addr
    | .nightDrop => none)
  discoveredRelays := n.discoveredRelays

/-- What a restart brings besides the state file: who we are and where our transport listens. -/
structure Platform where
  identityKey : String
  address : String
  relay : Option RelayClient := none

/-- The device a restart makes of a state file; nothing is in flight. -/
def restore (state : PersistedState X) (platform : Platform) (now : Nat) : Node X :=
  let n : Node X :=
    { identityKey := platform.identityKey
      account := state.account
      address := platform.address
      relay := platform.relay
      relays := state.restoredRelays
      discoveredRelays := state.discoveredRelays
      requireAuthorization := true
      held := state.held.map (fun h =>
        { contactId := h.contactId, msgId := h.msgId, bytes := h.bytes, inFlight := false })
      pendingControl := state.pendingControl.map (fun p =>
        { recipientIk := p.recipientIk, peerAddress := p.peerAddress, relays := p.relays
          nightdrop := p.nightdrop, bytes := p.bytes, handle := p.handle, inFlight := false })
      chats := state.chats.foldl (fun chats p => chats.insert p.contactId (p.toChat now)) ∅ }
  -- A state from before 0.2 has no relay list: its unconfirmed texts are held again.
  if state.relays.isNone then n.resendAfterUpgrade else n

end Node

end Nightdrop
