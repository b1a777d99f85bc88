import Nightdrop.Node.Route

/-! The held queue, the outbox and the pending control frames: what waits, and what becomes of it. -/

namespace Nightdrop

variable {X : Externals}

/-- Whether a frame announces our version, which an outdated contact is still told. -/
def OutboundDone.isVersion : OutboundDone X → Bool
  | .announced .version _ => true
  | _ => false

/-- Whether nothing else remembers a frame: it is no message's, and no announcement's. -/
def OutboundDone.isOneOff : OutboundDone X → Bool
  | .nothing | .caller _ => true
  | _ => false

namespace Node

/-- Seals one plaintext on a chat's session. -/
def sealFor (n : Node X) (contact : String) (plaintext : Bytes) : Option (Node X × X.OlmMessage) := do
  let chat ← n.chats.lookup contact
  let (session, message) ← X.encrypt chat.session plaintext
  return (n.modifyChat contact (fun chat => { chat with session := session }), message)

/-- Holds a message that reached neither the peer nor a relay. -/
def holdMessage (n : Node X) (contact msgId : String) (bytes : Envelope X.OlmMessage) : Node X :=
  let status : Status :=
    if n.peerOutdated contact then .update
    else if !n.hasRelayRoute contact then .waiting
    else .queued
  let n := n.modifyChat contact (fun chat =>
    { chat with history := updateFirst (·.isOwn msgId) ({ · with delivery := status }) chat.history })
  { n with held := n.held ++ [{ contactId := contact, msgId := msgId, bytes := bytes }]
           dirty := true }

/-- The index of a held message that is not on its way right now. -/
def heldUnsent (n : Node X) (contact msgId : String) : Option Nat :=
  n.held.findIdx? (fun h => !h.inFlight && msgId ≠ "" && h.contactId = contact && h.msgId = msgId)

/-- Queues a send for delivery without the lock. -/
def sendOrQueue (n : Node X) (send : DetachedSend X) (route : Route) (done : OutboundDone X) :
    Node X :=
  { n with outbox := n.outbox ++ [{ send := send, route := route, done := done }] }

/-- Everything queued for delivery, and the node without it. -/
def takeOutbox (n : Node X) : Node X × List (Outbound X) := ({ n with outbox := [] }, n.outbox)

/-- Only the sends an API call waits on; the rest stay for the poller. -/
def takeCallerOutbox (n : Node X) : Node X × List (Outbound X) :=
  ({ n with outbox := n.outbox.filter (!·.isCaller) }, n.outbox.filter (·.isCaller))

/-- The receipts and acks queued for the poller to send once the messages have surfaced. -/
def takeReceiptSends (n : Node X) : Node X × List (DetachedSend X) :=
  ({ n with receiptSends := [] }, n.receiptSends)

/-- The held queue without the frames of deleted and closed chats. -/
def dropGone (n : Node X) : Node X :=
  let kept := n.held.filter (fun h => (n.chats.lookup h.contactId).any (!·.closed))
  { n with held := kept, dirty := n.dirty || kept.length ≠ n.held.length }

/-- Which held frames go out now, and by which route: of a contact with no relay route only the
oldest (`busy` are those whose oldest was passed), of one with relays every one not on its way. -/
def heldDue (n : Node X) (only : Option String) (directFirst : Bool) (now : Nat) :
    List String → List (HeldSend X) → List (HeldSend X × Option Route)
  | _, [] => []
  | busy, h :: rest =>
    if only.any (· ≠ h.contactId) then (h, none) :: heldDue n only directFirst now busy rest
    else if n.peerOutdated h.contactId then (h, none) :: heldDue n only directFirst now busy rest
    else if n.hasRelayRoute h.contactId then
      let route : Route := if directFirst then .directThenRelay else .relayOnly
      (h, if h.inFlight then none else some route) :: heldDue n only directFirst now busy rest
    else if h.contactId ∈ busy then (h, none) :: heldDue n only directFirst now busy rest
    else
      let due := !h.inFlight && n.mayRetry h.contactId now
      (h, if due then some .directThenRelay else none)
        :: heldDue n only directFirst now (busy ++ [h.contactId]) rest

/-- The peer address a chat dials, empty for no chat. -/
def dialAddress (n : Node X) (contact : String) : String :=
  ((n.chats.lookup contact).map (·.peerAddress)).getD ""

/-- Retries the held queue, for one contact when `only` is set. -/
def flushHeldFor (n : Node X) (only : Option String) (directFirst : Bool) (now : Nat) : Node X :=
  let n := n.dropGone
  let due := n.heldDue only directFirst now [] n.held
  { n with
    held := due.map (fun d => { d.1 with inFlight := d.1.inFlight || d.2.isSome })
    outbox := n.outbox ++ due.filterMap (fun d => d.2.map (fun route =>
      { send := n.detach (n.dialAddress d.1.contactId) d.1.contactId d.1.bytes true now
        route := route
        done := .held d.1.bytes })) }

/-- Retries the whole held queue. -/
def flushHeld (n : Node X) (now : Nat) : Node X := n.flushHeldFor none false now

/-- Records in a chat what the peer now holds of a standing announcement. -/
def recordTold (n : Node X) (kind : Announce) (contact : String) (now : Nat) (chat : Chat X) :
    Chat X :=
  match kind with
  | .burns => { chat with toldBurns := true }
  | .captures =>
    if (n.capturesAnnounced.lookup contact).isSome then
      { chat with toldCaptures := n.capturesAnnounced.lookup contact } else chat
  | .block sent => if n.captureBlock = some sent then { chat with toldBlock := some sent } else chat
  | .nearby seq => { chat with toldNearbySeq := max chat.toldNearbySeq seq }
  | .version =>
    if (n.versionAnnounced.lookup contact).isSome && !chat.outdated then
      { chat with toldVersion := n.versionAnnounced.lookup contact } else chat
  | .upgradeNotice =>
    if chat.outdated then
      { chat with toldUpgrade := true
                  history := chat.history ++ [.ofSystem UPGRADE_NOTE_TEXT now] } else chat
  | .address =>
    if (n.addressAnnounced.lookup contact).isSome then
      { chat with toldAddress := n.addressAnnounced.lookup contact } else chat
  | .mailbox | .relaySet => chat

/-- The agreement frame reached the peer or a relay: its first time is kept. -/
def mailboxAnnouncedAt (now : Nat) (chat : Chat X) : Chat X :=
  { chat with mailbox := chat.mailbox.map (fun pair =>
      { pair with announcedAt := some (pair.announcedAt.getD now) }) }

/-- The flag of an announcement that failed comes down, so the next tick retries. -/
def retractAnnounced (n : Node X) (kind : Announce) (contact : String) : Node X :=
  match kind with
  | .relaySet => n
  | .upgradeNotice => { n with upgradeNoticeInFlight := n.upgradeNoticeInFlight.filter (· ≠ contact) }
  | .burns => { n with burnsAnnounced := n.burnsAnnounced.filter (· ≠ contact) }
  | .version => { n with versionAnnounced := n.versionAnnounced.erase contact }
  | .mailbox => { n with mailboxAnnounced := n.mailboxAnnounced.filter (· ≠ contact) }
  | .address => { n with addressAnnounced := n.addressAnnounced.erase contact }
  | .captures => { n with capturesAnnounced := n.capturesAnnounced.erase contact }
  | .block sent =>
    if n.blockAnnounced.lookup contact = some sent then
      { n with blockAnnounced := n.blockAnnounced.erase contact } else n
  | .nearby seq =>
    if n.nearbyAnnounced.lookup contact = some seq then
      { n with nearbyAnnounced := n.nearbyAnnounced.erase contact } else n

/-- The outcome of one standing announcement. -/
def applyAnnounced (n : Node X) (kind : Announce) (contact : String) (delivered : Bool) (now : Nat) :
    Node X :=
  let known := (n.chats.lookup contact).isSome
  let paired := ((n.chats.lookup contact).bind (·.mailbox)).isSome
  let n := if kind = .mailbox && delivered then
      { n.modifyChat contact (mailboxAnnouncedAt now) with dirty := n.dirty || paired } else n
  if kind = .relaySet then
    let sent := n.relaySetInFlight.lookup contact
    let n := { n with relaySetInFlight := n.relaySetInFlight.erase contact }
    if delivered then
      { n.modifyChat contact (fun chat => { chat with relaysTold := sent }) with
        dirty := n.dirty || known }
    else n
  else if delivered then
    let n := { n.modifyChat contact (n.recordTold kind contact now) with dirty := n.dirty || known }
    match kind with
    | .nearby seq =>
      if n.nearbyAnnounced.lookup contact = some seq then
        { n with nearbyAnnounced := n.nearbyAnnounced.erase contact } else n
    | _ => n
  else n.retractAnnounced kind contact

/-- Sends a frame to a contact, or holds it while their app is too old to read it. -/
def deliverWith (n : Node X) (peerAddress recipientIk : String) (frame : Frame X.OlmMessage)
    (fresh : Bool) (done : OutboundDone X) (now : Nat) : Node X :=
  if !done.isVersion && n.peerOutdated recipientIk then
    match done with
    | .announced kind id => n.applyAnnounced kind id false now
    | .nothing | .caller _ =>
      { n with
        held := n.held ++ [{ contactId := recipientIk, msgId := "", bytes := encode frame }]
        dirty := true }
    | _ => n
  else
    n.sendOrQueue (n.detach peerAddress recipientIk (encode frame) fresh now) .directThenRelay done

/-- Seals a control frame on a chat's session; `none` if the chat or its session is unusable. -/
def authedControl (n : Node X) (contact : String) (marker : Bytes) (kind : SealedKind) :
    Option (Node X × String × Frame X.OlmMessage) := do
  let chat ← n.chats.lookup contact
  let (n, message) ← n.sealFor contact marker
  return (n, chat.peerAddress, .sealed kind n.identityKey (.fromOlm message))

/-- Seals a control frame and sends it: what every announcement and setting change comes to. -/
def sendControl (n : Node X) (contact : String) (marker : Bytes) (kind : SealedKind) (fresh : Bool)
    (done : OutboundDone X) (now : Nat) : Node X :=
  match n.authedControl contact marker kind with
  | none => n
  | some (n, address, frame) => n.deliverWith address contact frame fresh done now

/-- Queues a sealed receipt or ack for the poller to send after this tick. -/
def sendAfterSurfacing (n : Node X) (contact peerAddress : String) (frame : Frame X.OlmMessage)
    (fresh : Bool) (now : Nat) : Node X :=
  { n with receiptSends := n.receiptSends ++ [n.detach peerAddress contact (encode frame) fresh now] }

/-- Sends one sealed receipt for each contact and id, the first to each contact on a fresh dial. -/
def sendReceipts (n : Node X) (now : Nat) :
    List String → List (String × String) → Node X
  | _, [] => n
  | proven, (contact, msgId) :: rest =>
    match n.authedControl contact (utf8 msgId) .delivered with
    | none => sendReceipts n now proven rest
    | some (n, address, frame) =>
      let fresh := contact ∉ proven
      sendReceipts (n.sendAfterSurfacing contact address frame fresh now) now
        (if fresh then proven ++ [contact] else proven) rest

/-- Holds a control frame until a copy lands, and sends it now. -/
def queuePendingControl (n : Node X) (p : PendingControl X) (route : Route) : Node X :=
  let p := { p with inFlight := true }
  let send := n.detachPending p
  { n with pendingControl := n.pendingControl ++ [p], dirty := true }.sendOrQueue send route
    (.pendingControl p.bytes)

/-- Whether a pending control frame is due for a retry. -/
def controlDue (n : Node X) (only : Option String) (now : Nat) (p : PendingControl X) : Bool :=
  !p.inFlight && only.all (· = p.recipientIk)
    && (n.relayRouteForPending p || n.mayRetry p.recipientIk now)

/-- Retries the pending control frames, for one contact when `only` is set. -/
def flushPendingControlFor (n : Node X) (only : Option String) (now : Nat) : Node X :=
  let due := n.pendingControl.filter (n.controlDue only now)
  let pending := n.pendingControl.map (fun p =>
    { p with inFlight := p.inFlight || n.controlDue only now p })
  let n := { n with pendingControl := pending }
  { n with outbox := n.outbox ++ due.filterMap (fun d =>
      (pending.find? (fun p => p.bytes = d.bytes)).map (fun p =>
        { send := n.detachPending p, route := .relayThenDirect, done := .pendingControl d.bytes })) }

/-- A contact was just heard from directly: its retry clock is reset and what we hold goes out. -/
def heardFrom (n : Node X) (contact : String) (now : Nat) : Node X :=
  let waited := (n.heldBackoff.lookup contact).isSome
  let n := { n with heldBackoff := n.heldBackoff.erase contact }
  let holding := n.held.any (·.contactId = contact)
    || n.pendingControl.any (·.recipientIk = contact)
  if waited || holding then
    (n.flushHeldFor (some contact) true now).flushPendingControlFor (some contact) now
  else n

/-- Moves a contact's retry clock by what a finished send shows. -/
def noteReach (n : Node X) (f : Finished X) (now : Nat) : Node X :=
  if f.recipient ≠ "" && f.recipient ≠ n.identityKey then
    if f.delivery = .direct then { n with heldBackoff := n.heldBackoff.erase f.recipient }
    else if f.delivery = .failed && f.relayless then n.heldRetryFailed f.recipient now
    else n
  else n

/-- A one-off control frame to an offline contact with no relay route is held, not lost. -/
def holdLost (n : Node X) (f : Finished X) : Node X :=
  if f.delivery = .failed && f.relayless && f.done.isOneOff
      && (n.chats.lookup f.recipient).any (!·.closed) then
    { n with
      held := n.held ++ [{ contactId := f.recipient, msgId := "", bytes := f.bytes }]
      dirty := true }
  else n

/-- Records relay copies of a message in its chat. -/
def recordCopies (n : Node X) (contact msgId : String) (copies : List QueuedReceipt) : Node X :=
  n.modifyChat contact (fun chat =>
    { chat with relayReceipts := chat.relayReceipts.insert msgId copies })

/-- Sets the status of our first message with this id. -/
def setStatus (n : Node X) (contact msgId : String) (status : Status) : Node X :=
  n.modifyChat contact (fun chat =>
    { chat with history := updateFirst (fun m => m.fromMe && msgId ≠ "" && m.msgId = msgId)
                             ({ · with delivery := status }) chat.history })

/-- The outcome of a held frame, named by its bytes. -/
def applyHeld (n : Node X) (bytes : Envelope X.OlmMessage) (delivery : Delivery) (now : Nat) :
    Node X :=
  match n.held.findIdx? (·.bytes = bytes) with
  | none => n
  | some i => match n.held[i]? with
    | none => n
    | some h =>
      match delivery with
      | .failed => { n with held := n.held.modify i ({ · with inFlight := false }) }
      | .direct =>
        let n := { n with held := n.held.eraseIdx i, dirty := true }
        let n := n.setStatus h.contactId h.msgId .sent
        let n := if h.msgId ≠ "" then
            { n with awaitingReceipt := n.awaitingReceipt
                       ++ [{ contactId := h.contactId, msgId := h.msgId, since := now }] }
          else n
        n.flushHeldFor (some h.contactId) true now
      | .relay copies =>
        let n := { n with held := n.held.eraseIdx i, dirty := true }
        let n := n.setStatus h.contactId h.msgId .queued
        if h.msgId ≠ "" then n.recordCopies h.contactId h.msgId copies else n

/-- The outcome of a copy put behind a message no receipt has named. -/
def applyUnconfirmed (n : Node X) (a : AwaitingReceipt) (delivery : Delivery) (now : Nat) : Node X :=
  match delivery with
  | .relay copies =>
    n.modifyChat a.contactId (fun chat =>
      { chat with
        relayReceipts := chat.relayReceipts.insert a.msgId (copies ++ [.handedDirectly])
        -- A receipt that landed meanwhile has already moved the message on.
        history := updateFirst (fun m => m.isOwn a.msgId && m.delivery = .sent)
          ({ · with delivery := .queued }) chat.history })
  | .direct => { n with awaitingReceipt := n.awaitingReceipt ++ [{ a with since := now }] }
  | .failed => { n with awaitingReceipt := n.awaitingReceipt ++ [a] }

/-- The outcome of a pending control frame, named by its bytes. -/
def applyPendingControl (n : Node X) (bytes : Envelope X.OlmMessage) (delivery : Delivery) : Node X :=
  if delivery ≠ .failed then
    { n with pendingControl := n.pendingControl.filter (·.bytes ≠ bytes), dirty := true }
  else
    { n with pendingControl :=
        updateFirst (·.bytes = bytes) ({ · with inFlight := false }) n.pendingControl }

/-- Records what one finished send achieved. -/
def applyFinished (n : Node X) (f : Finished X) (now : Nat) : Node X :=
  let n := (n.noteReach f now).holdLost f
  match f.done, f.delivery with
  | .caller (some (contact, msgId)), .relay copies =>
    { n.recordCopies contact msgId copies with
      dirty := n.dirty || (n.chats.lookup contact).isSome }
  | .announced kind contact, delivery => n.applyAnnounced kind contact (delivery ≠ .failed) now
  | .pendingControl bytes, delivery => n.applyPendingControl bytes delivery
  | .held bytes, delivery => n.applyHeld bytes delivery now
  | .unconfirmed a, delivery => n.applyUnconfirmed a delivery now
  | _, _ => n

/-- Records what a round of sends achieved. -/
def applyOutbound (n : Node X) (finished : List (Finished X)) (now : Nat) : Node X :=
  finished.foldl (fun n f => n.applyFinished f now) n

end Node

end Nightdrop
