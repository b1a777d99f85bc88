import Nightdrop.Node.Agreement
import Nightdrop.Node.Door
import Nightdrop.Node.OneOff
import Nightdrop.Node.Run
import Nightdrop.Node.Standing

/-! A pending request: every sender of the device, and what of it goes to a chat not yet accepted. -/

namespace Nightdrop

variable {X : Externals}

def SCREENSHOT_SENT_TEXT : String := "📸 You took a screenshot. The other person was told."

def RECORDING_SENT_TEXT : String := "🔴 Your screen is being recorded. The other person was told."

def OVERRIDE_SET_TEXT : String :=
  "🔓 You allowed screenshots in this chat, although they asked for them to be blocked. They were told."

def OVERRIDE_CLEARED_TEXT : String :=
  "🔒 You blocked screenshots in this chat again, as they asked. They were told."

namespace Node

/-- Whether a contact waits for the user's decision. -/
def asks (n : Node X) (contact : String) : Bool := (n.chats.lookup contact).any (!·.authorized)

/-- The contacts whose chats pass a test, in the order of the chats. -/
def contactsWhere (n : Node X) (test : String → Chat X → Bool) : List String :=
  (n.chats.entries.filter (fun e => test e.1 e.2)).map (·.1)

/-- Acks that we took a contact's mail off the relays. -/
def sendAck (n : Node X) (contact : String) (now : Nat) : Node X :=
  match n.authedControl contact MARK_ACK .ack with
  | none => n
  | some (n, address, frame) => n.sendAfterSurfacing contact address frame false now

/-- Acks what a drain took off the relays, once for each sender. -/
def sendAcks (n : Node X) (landed : List String) (now : Nat) : Node X :=
  landed.foldl (fun n contact => n.sendAck contact now) n

/-- A tick tells every contact of a matter that is due to hear of it. -/
def announceMatter (n : Node X) (matter : Matter) (now : Nat) : Node X :=
  (n.contactsWhere (fun contact chat => n.due now contact chat matter)).foldl
    (fun n contact => n.tell matter contact now) n

/-- Tells every contact the address we listen on. -/
def announceAddress (n : Node X) (now : Nat) : Node X :=
  (n.contactsWhere (fun _ chat => chat.authorized && !chat.closed)).foldl
    (fun n contact => n.sendAddressTo contact now) n

/-- A tick sends our mailbox contribution to every contact that is not yet confirmed; `fresh` are the
random contributions of pairs that have none. -/
def announceMailbox (n : Node X) (fresh : String → Bytes) (now : Nat) : Node X :=
  n.chats.keys.foldl (fun n contact => n.announceMailboxTo contact (fresh contact) now) n

/-- After a backup: a full one is told to the contacts it covers. -/
def markBackedUp (n : Node X) (contacts : List String) (full : Bool) (now : Nat) : Node X :=
  (contacts.filter (fun contact => full && (n.chats.lookup contact).any (!·.closed))).foldl
    (fun n contact => n.sendControl contact MARK_BACKEDUP .backedUp false .nothing now) n

/-- The user captured this chat, and its contact is told. -/
def reportCapture (n : Node X) (contact : String) (recording : Bool) (now : Nat) : Node X :=
  match n.chats.lookup contact with
  | none => n
  | some chat =>
    -- Nobody is left to tell.
    if chat.closed then n
    else (n.modifyChat contact
      (Chat.note (if recording then RECORDING_SENT_TEXT else SCREENSHOT_SENT_TEXT) now)).sendCaptureNotice
        contact (if recording then MARK_RECORDING else MARK_SCREENSHOT) now

/-- Allows captures in a chat whose contact asks for them to be blocked, or no more; the contact is told. -/
def setCaptureOverride (n : Node X) (contact : String) (allow : Bool) (now : Nat) : Node X :=
  match n.chats.lookup contact with
  | none => n
  | some chat =>
    if chat.closed || chat.captureOverride = allow then n
    else
      let n := (n.modifyChat contact (fun chat => { chat with captureOverride := allow }.note
          (if allow then OVERRIDE_SET_TEXT else OVERRIDE_CLEARED_TEXT) now)).sendCaptureNotice contact
        (if allow then MARK_CAPTURE_OVERRIDE_ON else MARK_CAPTURE_OVERRIDE_OFF) now
      { n with dirty := true }

/-- At startup every chat without a key of ours for its onion is made one, and told it. -/
def restoreClientKeys (n : Node X) (minted : String → Option (String × Bytes)) (now : Nat) : Node X :=
  n.chats.entries.foldl (fun n e =>
    if e.2.peerAddress = "" || e.2.clientKey.isSome then n
    else n.announceClientKey e.1 e.2.peerAddress (minted e.1) now) n

/-- The identity is deleted: the contacts of all open chats are told, at once, but for those a backup
covers unless everyone is. `covered` says which ones that is. -/
def logout (n : Node X) (everyone : Bool) (covered : String → Bool) :
    Node X × List (String × Envelope X.OlmMessage) :=
  ({ n with chats := ∅ },
    (n.contactsWhere (fun contact chat => (everyone || !covered contact) && !chat.closed)).filterMap
      (fun contact => (n.authedControl contact MARK_CLOSED .closed).map
        (fun told => (contact, encode told.2.2))))

/-- Every frame some queue holds, with its contact. -/
def frames (n : Node X) : List (String × Envelope X.OlmMessage) :=
  n.held.map (fun h => (h.contactId, h.bytes))
    ++ n.pendingSends.map (fun p => (p.contactId, p.bytes))
    ++ n.pendingControl.map (fun p => (p.recipientIk, p.bytes))
    ++ n.outbox.map (fun o => (o.send.recipientIk, o.send.bytes))
    ++ n.receiptSends.map (fun s => (s.recipientIk, s.bytes))

/-- The node after a call that may have been refused. -/
def orElse (n : Node X) (result : Except String (Node X)) : Node X :=
  match result with
  | .ok n' => n'
  | .error _ => n

end Node

variable (X) in
/-- What may happen on a device that has requests, each event at its own time `now`. -/
inductive RequestEvent where
  /-- An envelope arrives, from the transport or out of a relay mailbox. -/
  | frame (fromAddress : Option String) (bytes : Envelope X.OlmMessage) (inputs : Node.FrameInputs)
      (now : Nat)
  /-- A drain acks those whose messages it took. -/
  | acks (landed : List String) (now : Nat)
  | receipts (now : Nat)
  | announceMatter (matter : Matter) (now : Nat)
  | announceAddress (now : Nat)
  | nearbyTick (address : Option SocketAddr) (nowMs now : Nat)
  | announceMailbox (fresh : String → Bytes) (now : Nat)
  | upgradeNotices (ready : Bool) (ids : String → String) (now : Nat)
  | sweepUnconfirmed (now : Nat)
  | sweepTime (now : Nat)
  | flushHeld (now : Nat)
  | flushControl (now : Nat)
  | heardFrom (contact : String) (now : Nat)
  /-- The poller plans the deferred sends, and later records the outcome of each. -/
  | plan (now : Nat)
  | outcome (p : PlannedSend X) (delivered : Bool) (answers : RelayAnswers) (now : Nat)
  /-- It takes what waits to be sent, and later records what became of each. -/
  | takeOutbox
  | takeReceiptSends
  | finish (o : Outbound X) (answered : Bool) (answers : RelayAnswers) (now : Nat)
  | text (contact text id : String) (burnSecs now : Nat)
  | media (contact : String) (kind : Kind) (kindName mime : String) (data : Bytes) (burnSecs : Nat)
      (transferId mediaId thumbId : String) (now : Nat)
  | disappearing (contact : String) (secs now : Nat)
  | storage (contact : String) (enabled : Bool) (now : Nat)
  | rename (contact name : String) (now : Nat)
  | finishEdit (contact msgId newText : String) (recalled : Option Bool) (now : Nat)
  | finishUnsend (contact msgId : String) (recalled : Option Bool) (now : Nat)
  | verified (contact : String) (verified : Bool) (now : Nat)
  | capture (contact : String) (recording : Bool) (now : Nat)
  | captureOverride (contact : String) (allow : Bool) (now : Nat)
  /-- A backup was made of these chats. -/
  | backedUp (contacts : List String) (full : Bool) (now : Nat)
  | authorize (contact : String) (accept : Bool) (now : Nat)
  | delete (contact : String) (now : Nat)
  | join (peerAddress : String) (bundle : PreKeyBundle) (extras : InviteExtras) (inputs : JoinInputs)
      (now : Nat)
  /-- The app is started again, and makes the client keys it lacks. -/
  | restart (platform : Node.Platform) (minted : String → Option (String × Bytes)) (now : Nat)
  /-- The user logs out, or the duress wipe does. -/
  | logout (everyone : Bool) (covered : String → Bool)

variable (X) in
/-- A device, what was ever taken off its queues, and what it handed out for a request. -/
structure Lobby where
  node : Node X
  /-- The frames taken off the queues, with their contacts. -/
  way : List (String × Envelope X.OlmMessage) := []
  /-- The frames sealed for a request and handed out, but for the answers to its `Hello`. -/
  leaked : List (String × Envelope X.OlmMessage) := []

namespace Lobby

/-- What an event makes of the device, with the frames it posts itself. -/
def act (l : Lobby X) : RequestEvent X → Node X × List (String × Envelope X.OlmMessage)
  | .frame fromAddress bytes inputs now => ((l.node.takeIn fromAddress bytes inputs now).1, [])
  | .acks landed now => (l.node.sendAcks landed now, [])
  | .receipts now => (l.node.sendPendingReceipts now, [])
  | .announceMatter matter now => (l.node.announceMatter matter now, [])
  | .announceAddress now => (l.node.announceAddress now, [])
  | .nearbyTick address nowMs now => (l.node.nearbyTick address nowMs now, [])
  | .announceMailbox fresh now => (l.node.announceMailbox fresh now, [])
  | .upgradeNotices ready ids now => (l.node.sendUpgradeNotices ready ids now, [])
  | .sweepUnconfirmed now => (l.node.sweepUnconfirmed now, [])
  | .sweepTime now => (l.node.sweepTime now, [])
  | .flushHeld now => (l.node.flushHeld now, [])
  | .flushControl now => (l.node.flushPendingControlFor none now, [])
  | .heardFrom contact now => (l.node.heardFrom contact now, [])
  | .plan now => ((l.node.planPendingSends now).1, [])
  -- Only what was planned or taken has an outcome.
  | .outcome p delivered answers now =>
    (if (p.contactId, p.bytes) ∈ l.way then l.node.applySendOutcome (p.execute delivered answers) now
      else l.node, [])
  | .takeOutbox => (l.node.takeOutbox.1, [])
  | .takeReceiptSends => (l.node.takeReceiptSends.1, [])
  | .finish o answered answers now =>
    (if (o.send.recipientIk, o.send.bytes) ∈ l.way then
        l.node.applyFinished (o.run answered answers) now
      else l.node, [])
  | .text contact text id burnSecs now =>
    (l.node.orElse (if burnSecs = 0 then l.node.send contact text id now
      else l.node.sendBurn contact text burnSecs id now), [])
  | .media contact kind kindName mime data burnSecs transferId mediaId thumbId now =>
    (l.node.orElse (l.node.queueMedia contact kind kindName mime data burnSecs transferId mediaId
      thumbId now), [])
  | .disappearing contact secs now => ((l.node.setDisappearing contact secs now).1, [])
  | .storage contact enabled now => ((l.node.setRemoteStorage contact enabled now).1, [])
  | .rename contact name now => ((l.node.setMyName contact name now).1, [])
  | .finishEdit contact msgId newText recalled now =>
    (l.node.orElse (l.node.finishEdit contact msgId newText recalled now), [])
  | .finishUnsend contact msgId recalled now =>
    ((l.node.finishUnsend contact msgId recalled now).1, [])
  | .verified contact verified now => (l.node.setVerified contact verified now, [])
  | .capture contact recording now => (l.node.reportCapture contact recording now, [])
  | .captureOverride contact allow now => (l.node.setCaptureOverride contact allow now, [])
  | .backedUp contacts full now => (l.node.markBackedUp contacts full now, [])
  | .authorize contact accept now => (l.node.orElse (l.node.authorize contact accept now), [])
  | .delete contact now => (l.node.orElse (l.node.deleteChat contact now), [])
  | .join peerAddress bundle extras inputs now =>
    (l.node.orElse (l.node.connectWithInvite peerAddress bundle extras inputs now), [])
  | .restart platform minted now =>
    ((Node.restore l.node.exportState platform now).restoreClientKeys minted now, [])
  | .logout everyone covered => l.node.logout everyone covered

/-- What an event takes off the queues. -/
def taken (l : Lobby X) : RequestEvent X → List (String × Envelope X.OlmMessage)
  | .plan now => (l.node.planPendingSends now).2.map (fun p => (p.contactId, p.bytes))
  | .takeOutbox => l.node.takeOutbox.2.map (fun o => (o.send.recipientIk, o.send.bytes))
  | .takeReceiptSends => l.node.takeReceiptSends.2.map (fun s => (s.recipientIk, s.bytes))
  | _ => []

/-- The answer to a `Hello` that carried no reply pass: our client key for the sender's onion, sealed on
the session they just opened. -/
def keyAnswer (l : Lobby X) : RequestEvent X → Option (String × Envelope X.OlmMessage)
  | .frame _ bytes inputs _ => do
    let .hello contact _ message ← decode bytes | none
    let olm ← message.toOlm
    let (_, session, plaintext) ← X.acceptInbound l.node.account contact olm
    if (((X.readHello plaintext).bind (·.pass)).bind X.decodeSecret).isSome then none
    let (clientKey, _) ← inputs.minted
    let (_, answer) ← X.encrypt session (MARK_CLIENT_KEY_PREFIX ++ utf8 clientKey)
    return (contact, encode (.sealed .clientKeySealed l.node.identityKey (.fromOlm answer)))
  | _ => none

/-- The contact whose `Hello` an event is. -/
def greeter : RequestEvent X → Option String
  | .frame _ bytes _ _ => do
    let .hello contact _ _ ← decode bytes | none
    return contact
  | _ => none

/-- Whether what an event seals for a contact is sealed for a request: their chat is not approved once it
happened, and was not before, unless it is their own `Hello`. -/
def unaccepted (l : Lobby X) (event : RequestEvent X) (contact : String) : Bool :=
  !(l.act event).1.approves contact && (!l.node.approves contact || greeter event = some contact)

/-- What an event hands out for a request: sealed frames that it posts, or that some queue has now and none
had before. -/
def leaks (l : Lobby X) (event : RequestEvent X) : List (String × Envelope X.OlmMessage) :=
  (((l.act event).1.frames.filter (fun f => f ∉ l.node.frames ++ l.way)) ++ (l.act event).2).filter
    (fun f => f.2.f.ciphertext.isSome && l.unaccepted event f.1 && l.keyAnswer event ≠ some f)

/-- One event. -/
def step (l : Lobby X) (event : RequestEvent X) : Lobby X where
  node := (l.act event).1
  way := l.way ++ l.taken event
  leaked := l.leaked ++ l.leaks event

/-- A run of events, in order. -/
def run (l : Lobby X) (events : List (RequestEvent X)) : Lobby X := events.foldl step l

/-- A chat that still waits for the user's decision and was not closed. -/
def waits (l : Lobby X) (contact : String) : Bool :=
  (l.node.chats.lookup contact).any (fun chat => !chat.authorized && !chat.closed)

/--
Whether an event keeps from every request: no frame that a handler answers without looking whether its
sender is approved, and none of the calls that look only whether a chat is open, or not even that.
-/
def Orderly (l : Lobby X) : RequestEvent X → Prop
  | .frame _ bytes _ _ => ∀ contact chat, l.node.chats.lookup contact = some chat →
      chat.authorized = false →
      (∀ code, decode bytes = some (.approved contact code) → chat.awaitingApproval = false)
        ∧ ∀ message, decode bytes = some (.sealed .captures contact message) →
          chat.captureOverride = false
  | .acks landed _ => ∀ contact ∈ landed, l.node.asks contact = false
  | .receipts _ => ∀ r ∈ l.node.pendingReceipts, l.node.asks r.1 = false
  | .sweepUnconfirmed _ => ∀ a ∈ l.node.awaitingReceipt, ∀ chat,
      l.node.chats.lookup a.contactId = some chat → chat.authorized = false → chat.closed = false →
      Node.unconfirmedText chat a.msgId = none
  | .finishUnsend contact msgId _ _ => ∀ chat, l.node.chats.lookup contact = some chat →
      chat.authorized = false →
      chat.history.any (fun m => m.fromMe && !m.system && m.msgId = msgId) = false
  | .finishEdit contact _ _ _ _ | .verified contact _ _ | .delete contact _ =>
    l.node.asks contact = false
  | .capture contact _ _ | .captureOverride contact _ _ => l.waits contact = false
  | .backedUp contacts full _ => full = true → ∀ contact ∈ contacts, l.waits contact = false
  | .restart platform minted now => ∀ contact chat,
      (Node.restore l.node.exportState platform now).chats.lookup contact = some chat →
      chat.authorized = false →
      chat.peerAddress = "" ∨ chat.clientKey.isSome = true ∨ minted contact = none
  | .logout everyone covered => ∀ contact, l.waits contact = true →
      everyone = false ∧ covered contact = true
  | _ => True

/-- Whether every event of a run keeps from the requests where it happens. -/
def AllOrderly (l : Lobby X) : List (RequestEvent X) → Prop
  | [] => True
  | event :: rest => l.Orderly event ∧ (l.step event).AllOrderly rest

end Lobby

end Nightdrop
