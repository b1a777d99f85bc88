import Nightdrop.Lib.Reach
import Nightdrop.Node.Pairing
import Nightdrop.Node.Persist
import Nightdrop.Node.Process

/-! One device taking step after step: what is in flight around it, and every step it can take. -/

namespace Nightdrop

variable {X : Externals}

/-- The session only opened ciphertexts since. -/
def Externals.Opened (X : Externals) : X.Session → X.Session → Prop :=
  Relation.ReflTransGen (fun s t => ∃ message plaintext, X.decrypt s message = some (t, plaintext))

/-- A message without the time it was opened. -/
def ChatMessage.unviewed (m : ChatMessage) : ChatMessage := { m with viewedAt := 0 }

/-- What the handlers and settings outside this development do to a chat: they open ciphertexts,
let messages go or note when one was opened, add notices and attachments, and change settings. -/
structure Chat.Peripheral (chat chat' : Chat X) : Prop where
  session : X.Opened chat.session chat'.session
  own : ((chat'.history.filter (·.fromMe)).map ChatMessage.unviewed).Sublist
    ((chat.history.filter (·.fromMe)).map ChatMessage.unviewed)
  theirs : ∀ m ∈ chat'.history, m.fromMe = false → m.msgId ≠ "" →
    ∃ m' ∈ chat.history, m.unviewed = m'.unviewed
  authorized : chat'.authorized = chat.authorized
  closed : chat.closed = true → chat'.closed = true
  relayReceipts : chat'.relayReceipts = chat.relayReceipts
  outdated : chat'.outdated = chat.outdated

/-- What they do to a device: nothing to its queues, and only that to its chats. -/
structure Node.Peripheral (n n' : Node X) : Prop where
  identityKey : n'.identityKey = n.identityKey
  chats : ∀ contact, Option.Rel Chat.Peripheral (n.chats.lookup contact) (n'.chats.lookup contact)
  held : n'.held = n.held
  pendingSends : n'.pendingSends = n.pendingSends
  pendingControl : n'.pendingControl = n.pendingControl
  outbox : n'.outbox = n.outbox
  receiptSends : n'.receiptSends = n.receiptSends
  awaitingReceipt : n'.awaitingReceipt = n.awaitingReceipt

/-- An edit or unsend under way: its first half is done, and its relay copies are being recalled. -/
structure Begun where
  contactId : String
  msgId : String
  /-- The new text of an edit; `none` for an unsend. -/
  newText : Option String
  plan : Option RecallPlan
deriving DecidableEq, Repr

variable (X) in
/-- A device and what is in flight around it, off its lock. -/
structure World where
  node : Node X
  /-- Planned sends whose outcome is still to be recorded. -/
  plans : List (PlannedSend X) := []
  /-- Sends taken from the outbox and not yet recorded. -/
  flying : List (Outbound X) := []
  /-- Receipts and acks taken for sending. -/
  receipts : List (DetachedSend X) := []
  begun : List Begun := []
  /-- The random ids drawn so far. -/
  drawn : List String := []

/-- A device just set up: no chats yet, and nothing waiting. -/
def World.start (identityKey address : String) (account : X.Account) (relay : Option RelayClient) :
    World X where
  node := { identityKey := identityKey, account := account, address := address, relay := relay }

variable (X) in
/-- One step of a run; every step takes place at its own time `now`. -/
inductive Event where
  /-- The user sends a text, with a burn timer unless `burnSecs` is 0. -/
  | text (contact text id : String) (burnSecs now : Nat)
  /-- The same on a synchronous transport: the delivery is attempted at once. -/
  | textNow (contact text id : String) (burnSecs : Nat) (answered : Bool) (answers : RelayAnswers)
      (now : Nat)
  | incoming (contact transferId : String) (notice : Bytes)
  | media (contact : String) (kind : Kind) (kindName mime : String) (data : Bytes) (burnSecs : Nat)
      (transferId mediaId thumbId : String) (now : Nat)
  /-- The poller plans the deferred sends. -/
  | plan (now : Nat)
  /-- The outcome of one planned send is recorded. -/
  | outcome (p : PlannedSend X) (delivered : Bool) (answers : RelayAnswers) (now : Nat)
  | flushHeld (now : Nat)
  | heardFrom (contact : String) (now : Nat)
  | flushControl (now : Nat)
  /-- The receipt sweep looks at one message. -/
  | sweep (a : AwaitingReceipt) (now : Nat)
  | takeOutbox
  | takeCallerOutbox
  | takeReceiptSends
  | receiptSent (s : DetachedSend X)
  /-- One outbound send is run and recorded. -/
  | finish (o : Outbound X) (answered : Bool) (answers : RelayAnswers) (now : Nat)
  | abandon (o : Outbound X) (now : Nat)
  | beginEdit (contact msgId newText : String) (now : Nat)
  | finishEdit (b : Begun) (newText : String) (recalled : QueuedReceipt → Bool) (now : Nat)
  | beginUnsend (contact msgId : String) (now : Nat)
  | finishUnsend (b : Begun) (recalled : QueuedReceipt → Bool) (now : Nat)
  /-- An envelope arrives, from the transport or out of a relay mailbox. -/
  | receive (fromAddress : Option String) (bytes : Envelope X.OlmMessage) (inputs : Node.FrameInputs)
      (now : Nat)
  | receiptAll (now : Nat)
  /-- A one-off control frame: a setting, a viewed mark, a key. -/
  | control (contact : String) (marker : Bytes) (kind : SealedKind) (fresh caller : Bool) (now : Nat)
  /-- A standing announcement, whose flags `raise` puts up. -/
  | announce (contact : String) (kind : Announce) (carrier : SealedKind) (marker : Bytes)
      (raise : Node X → Node X) (now : Nat)
  | mailboxKey (contact : String) (fresh : Bytes) (now : Nat)
  | captureNotice (contact : String) (marker : Bytes) (now : Nat)
  | upgradeNotice (contact id : String) (now : Nat)
  | connect (peerAddress : String) (bundle : PreKeyBundle) (extras : InviteExtras)
      (inputs : JoinInputs) (now : Nat)
  | deleteChat (contact : String) (now : Nat)
  | authorize (contact : String) (accept : Bool) (now : Nat)
  | sweepBurns (now : Nat)
  | sweepTime (now : Nat)
  /-- The app is restarted from the state it exported. -/
  | restart (address : String) (relay : Option RelayClient) (now : Nat)
  /-- The same from a state of before 0.2, which has no relay list. -/
  | upgrade (address : String) (relay : Option RelayClient) (now : Nat)
  | peripheral

namespace World

/-- The user's send of a text, as a plain or as a burn message. -/
def sendText (w : World X) (contact text id : String) (burnSecs now : Nat) : Except String (Node X) :=
  if burnSecs = 0 then w.node.send contact text id now
  else w.node.sendBurn contact text burnSecs id now

/-- A device restarted from a state file: what was in flight is gone. -/
def reloaded (w : World X) (state : PersistedState X) (address : String)
    (relay : Option RelayClient) (now : Nat) : World X where
  node := Node.restore state
    { identityKey := w.node.identityKey, address := address, relay := relay } now
  drawn := w.drawn

/-- The node after a call that may have been refused. -/
def orSame (w : World X) (result : Except String (Node X)) : Node X :=
  match result with
  | .ok n => n
  | .error _ => w.node

end World

/-- What each step does. -/
inductive Step (w : World X) : Event X → World X → Prop where
  | text {contact text id : String} {burnSecs now : Nat} {n : Node X} (random : isMsgId id = true)
      (unused : id ∉ w.drawn) (sent : w.sendText contact text id burnSecs now = .ok n) :
      Step w (.text contact text id burnSecs now) { w with node := n, drawn := id :: w.drawn }
  | textNow {contact text id : String} {burnSecs now : Nat} {answered : Bool}
      {answers : RelayAnswers} {n : Node X} {bytes : Envelope X.OlmMessage}
      (random : isMsgId id = true) (unused : id ∉ w.drawn)
      (composed : w.node.compose contact text burnSecs id now = .ok (n, bytes)) :
      Step w (.textNow contact text id burnSecs answered answers now)
        { w with
          node := n.attemptDelivery contact id bytes answered answers now
          drawn := id :: w.drawn }
  | incoming {contact transferId : String} {notice : Bytes} {n : Node X}
      (queued : w.node.queueIncoming contact transferId notice = .ok n) :
      Step w (.incoming contact transferId notice) { w with node := n }
  | media {contact : String} {kind : Kind} {kindName mime : String} {data : Bytes} {burnSecs : Nat}
      {transferId mediaId thumbId : String} {now : Nat} {n : Node X}
      (attached : kind = .image ∨ kind = .video)
      (random : isTransferId transferId = true) (unused : transferId ∉ w.drawn)
      (queued : w.node.queueMedia contact kind kindName mime data burnSecs transferId mediaId thumbId
        now = .ok n) :
      Step w (.media contact kind kindName mime data burnSecs transferId mediaId thumbId now)
        { w with node := n, drawn := transferId :: w.drawn }
  | plan {now : Nat} :
      Step w (.plan now)
        { w with
          node := (w.node.planPendingSends now).1
          plans := w.plans ++ (w.node.planPendingSends now).2 }
  | outcome {front back : List (PlannedSend X)} {p : PlannedSend X} {delivered : Bool}
      {answers : RelayAnswers} {now : Nat} (planned : w.plans = front ++ p :: back) :
      Step w (.outcome p delivered answers now)
        { w with
          node := w.node.applySendOutcome (p.execute delivered answers) now
          plans := front ++ back }
  | flushHeld {now : Nat} : Step w (.flushHeld now) { w with node := w.node.flushHeld now }
  | heardFrom {contact : String} {now : Nat} :
      Step w (.heardFrom contact now) { w with node := w.node.heardFrom contact now }
  | flushControl {now : Nat} :
      Step w (.flushControl now) { w with node := w.node.flushPendingControlFor none now }
  | sweep {front back : List AwaitingReceipt} {a : AwaitingReceipt} {now : Nat}
      (waiting : w.node.awaitingReceipt = front ++ a :: back) :
      Step w (.sweep a now)
        (let swept := Node.sweepOne now { w.node with awaitingReceipt := front ++ back } a
         { w with
           node := { swept.1 with
             awaitingReceipt := swept.1.awaitingReceipt ++ swept.2.toList } })
  | takeOutbox :
      Step w .takeOutbox
        { w with node := w.node.takeOutbox.1, flying := w.flying ++ w.node.takeOutbox.2 }
  | takeCallerOutbox :
      Step w .takeCallerOutbox
        { w with node := w.node.takeCallerOutbox.1, flying := w.flying ++ w.node.takeCallerOutbox.2 }
  | takeReceiptSends :
      Step w .takeReceiptSends
        { w with
          node := w.node.takeReceiptSends.1, receipts := w.receipts ++ w.node.takeReceiptSends.2 }
  | receiptSent {front back : List (DetachedSend X)} {s : DetachedSend X}
      (taken : w.receipts = front ++ s :: back) :
      Step w (.receiptSent s) { w with receipts := front ++ back }
  | finish {front back : List (Outbound X)} {o : Outbound X} {answered : Bool}
      {answers : RelayAnswers} {now : Nat} (taken : w.flying = front ++ o :: back) :
      Step w (.finish o answered answers now)
        { w with
          node := w.node.applyFinished (o.run answered answers) now
          flying := front ++ back }
  | abandon {front back : List (Outbound X)} {o : Outbound X} {now : Nat}
      (taken : w.flying = front ++ o :: back) :
      Step w (.abandon o now)
        { w with node := w.node.applyFinished o.abandon now, flying := front ++ back }
  | beginEdit {contact msgId newText : String} {now : Nat} {n : Node X} {plan : Option RecallPlan}
      (begun : w.node.beginEdit contact msgId newText now = .ok (n, plan)) :
      Step w (.beginEdit contact msgId newText now)
        { w with node := n, begun := w.begun ++ [⟨contact, msgId, some newText, plan⟩] }
  | finishEdit {front back : List Begun} {b : Begun} {newText : String}
      {recalled : QueuedReceipt → Bool} {now : Nat} (under : w.begun = front ++ b :: back)
      (edits : b.newText = some newText) :
      Step w (.finishEdit b newText recalled now)
        { w with
          node := w.orSame
            (w.node.finishEdit b.contactId b.msgId newText (b.plan.map (·.run recalled)) now)
          begun := front ++ back }
  | beginUnsend {contact msgId : String} {now : Nat} {n : Node X} {plan : Option RecallPlan}
      (begun : w.node.beginUnsend contact msgId now = .ok (n, plan)) :
      Step w (.beginUnsend contact msgId now)
        { w with node := n, begun := w.begun ++ [⟨contact, msgId, none, plan⟩] }
  | finishUnsend {front back : List Begun} {b : Begun} {recalled : QueuedReceipt → Bool} {now : Nat}
      (under : w.begun = front ++ b :: back) (unsends : b.newText = none) :
      Step w (.finishUnsend b recalled now)
        { w with
          node := (w.node.finishUnsend b.contactId b.msgId (b.plan.map (·.run recalled)) now).1
          begun := front ++ back }
  | receive {fromAddress : Option String} {bytes : Envelope X.OlmMessage} {inputs : Node.FrameInputs}
      {now : Nat} :
      Step w (.receive fromAddress bytes inputs now)
        { w with node := (w.node.takeIn fromAddress bytes inputs now).1 }
  | receiptAll {now : Nat} :
      Step w (.receiptAll now) { w with node := w.node.sendPendingReceipts now }
  | control {contact : String} {marker : Bytes} {kind : SealedKind} {fresh caller : Bool} {now : Nat} :
      Step w (.control contact marker kind fresh caller now)
        { w with
          node := w.node.sendControl contact marker kind fresh
            (if caller then .caller none else .nothing) now }
  | announce {contact : String} {kind : Announce} {carrier : SealedKind} {marker : Bytes}
      {raise : Node X → Node X} {now : Nat} (flags : ∀ n, Node.Peripheral n (raise n)) :
      Step w (.announce contact kind carrier marker raise now)
        { w with node := w.node.announce contact kind carrier marker raise now }
  | mailboxKey {contact : String} {fresh : Bytes} {now : Nat} :
      Step w (.mailboxKey contact fresh now)
        { w with node := w.node.sendMailboxKey contact fresh now }
  | captureNotice {contact : String} {marker : Bytes} {now : Nat} :
      Step w (.captureNotice contact marker now)
        { w with node := w.node.sendCaptureNotice contact marker now }
  | upgradeNotice {contact id : String} {now : Nat} (random : isMsgId id = true)
      (unused : id ∉ w.drawn) :
      Step w (.upgradeNotice contact id now)
        { w with node := w.node.sendUpgradeNotice contact id now, drawn := id :: w.drawn }
  | connect {peerAddress : String} {bundle : PreKeyBundle} {extras : InviteExtras}
      {inputs : JoinInputs} {now : Nat} {n : Node X}
      (joined : w.node.connectWithInvite peerAddress bundle extras inputs now = .ok n) :
      Step w (.connect peerAddress bundle extras inputs now) { w with node := n }
  | deleteChat {contact : String} {now : Nat} {n : Node X}
      (deleted : w.node.deleteChat contact now = .ok n) :
      Step w (.deleteChat contact now) { w with node := n }
  | authorize {contact : String} {accept : Bool} {now : Nat} {n : Node X}
      (decided : w.node.authorize contact accept now = .ok n) :
      Step w (.authorize contact accept now) { w with node := n }
  | sweepBurns {now : Nat} : Step w (.sweepBurns now) { w with node := w.node.sweepBurns now }
  | sweepTime {now : Nat} : Step w (.sweepTime now) { w with node := w.node.sweepTime now }
  | restart {address : String} {relay : Option RelayClient} {now : Nat} :
      Step w (.restart address relay now) (w.reloaded w.node.exportState address relay now)
  | upgrade {address : String} {relay : Option RelayClient} {now : Nat} :
      Step w (.upgrade address relay now)
        (w.reloaded { w.node.exportState with relays := none } address relay now)
  | peripheral {n : Node X} (aside : Node.Peripheral w.node n) :
      Step w .peripheral { w with node := n }

end Nightdrop
