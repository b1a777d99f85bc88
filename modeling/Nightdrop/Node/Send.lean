import Nightdrop.Node.Queue

/-! Composing a message and getting it out: the deferred sends, the receipt sweep, the re-sends. -/

namespace Nightdrop

variable {X : Externals}

/-- What an old app shows once we have updated. -/
def UPGRADE_NOTICE_TEXT : String :=
  "🔄 Automatic message from Night Drop: I've updated to Night Drop 0.2, which can't exchange " ++
    "messages with the version you're using. Please update Night Drop to keep talking — my messages " ++
    "to you will arrive once you do."

/-- A character of the URL-safe base64 alphabet. -/
def urlSafe (c : Char) : Bool :=
  ('a' ≤ c ∧ c ≤ 'z') ∨ ('A' ≤ c ∧ c ≤ 'Z') ∨ ('0' ≤ c ∧ c ≤ '9') ∨ c = '-' ∨ c = '_'

/-- What a fresh message id looks like: 96 random bits in URL-safe base64. -/
def isMsgId (id : String) : Bool := id.length = 16 && id.toList.all urlSafe

/-- What a fresh transfer id looks like: upper-case letters, digits and dashes. -/
def isTransferId (id : String) : Bool :=
  id.length = 23 && id.toList.all (fun c => ('A' ≤ c ∧ c ≤ 'Z') ∨ ('0' ≤ c ∧ c ≤ '9') ∨ c = '-')

/-- The frame a text is sealed in: an ordinary message, or a burn message if it has a timer. -/
def userFrame (sender id : String) (burnSecs : Nat) (message : WireOlm X.OlmMessage) :
    Frame X.OlmMessage :=
  if burnSecs = 0 then .message sender id message else .burn sender id message

/-- What is sealed of a text: the text itself, or its timer and the text. -/
def userPlaintext (burnSecs : Nat) (text : String) : Bytes :=
  if burnSecs = 0 then utf8 text else packBurn burnSecs text

namespace Node

/-- Checks and seals a text, and stores it as queued; `id` is the random id it gets. -/
def compose (n : Node X) (contact text : String) (burnSecs : Nat) (id : String) (now : Nat) :
    Except String (Node X × Envelope X.OlmMessage) :=
  if MAX_TEXT_BYTES < text.utf8ByteSize then .error "message too long (the limit is 64 KB)"
  else match n.chats.lookup contact with
  | none => .error "unknown contact"
  | some chat =>
    if !chat.authorized then .error "authorize this contact before messaging"
    else if chat.awaitingApproval then
      .error "waiting for the other person to accept the chat before messages can be sent"
    else if chat.closed then .error "this chat was deleted; create a new one to keep talking"
    else match n.sealFor contact (userPlaintext burnSecs text) with
    | none => .error "encrypt: the peer's ratchet key is unusable"
    | some (n, message) =>
      let m := { ChatMessage.ofText true text id now with delivery := .queued, burnSecs := burnSecs }
      .ok (n.modifyChat contact (fun chat => { chat with history := chat.history ++ [m] }),
        encode (userFrame n.identityKey id burnSecs (.fromOlm message)))

/-- Sends a text on an asynchronous transport: delivery is left to the poller. -/
def sendInner (n : Node X) (contact text : String) (burnSecs : Nat) (id : String) (now : Nat) :
    Except String (Node X) :=
  match n.compose contact text burnSecs id now with
  | .error reason => .error reason
  | .ok (n, bytes) =>
    .ok { n with pendingSends :=
      n.pendingSends ++ [{ contactId := contact, msgId := id, bytes := bytes }] }

/-- Sends an ordinary text. -/
def send (n : Node X) (contact text id : String) (now : Nat) : Except String (Node X) :=
  n.sendInner contact text 0 id now

/-- Sends a burn message, if the contact's app can burn it. -/
def sendBurn (n : Node X) (contact text : String) (burnSecs : Nat) (id : String) (now : Nat) :
    Except String (Node X) :=
  if burnSecs = 0 then .error "a burn message needs a timer"
  else if ((n.chats.lookup contact).bind (·.peerSupportsBurn)) ≠ some true then
    .error "this contact's app version cannot burn messages — it would keep this one"
  else n.sendInner contact text burnSecs id now

/-- Delivers a stored and sealed message at once: `answered` says whether the dial got through. -/
def attemptDelivery (n : Node X) (contact msgId : String) (bytes : Envelope X.OlmMessage)
    (answered : Bool) (answers : RelayAnswers) (now : Nat) : Node X :=
  if n.peerOutdated contact then n.holdMessage contact msgId bytes
  else match n.chats.lookup contact with
  | none => n
  | some chat =>
    let posts := !answered || chat.remoteStorage
    let posted := queueOnRelays answers (n.routeTo contact).1 (n.routeTo contact).2
      ((n.postHandle contact now).getD "")
    let n := if !posts then n else match posted with
      | some copies =>
        { n.modifyChat contact (fun chat =>
            { chat with
              relayReceipts := if !answered then chat.relayReceipts.insert msgId copies
                else chat.relayReceipts
              remoteStorageHealthy := chat.remoteStorage || chat.remoteStorageHealthy }) with
          relayEverSucceeded := true }
      | none =>
        if !answered then n
        else n.modifyChat contact (fun chat => { chat with remoteStorageHealthy := false })
    let n := n.modifyChat contact (fun chat =>
      { chat with
        history := updateFirst (·.isOwn msgId)
          (fun m => { m with delivery := if answered then .sent else .queued }) chat.history })
    let n := n.noteDirectResult answered
    let n := if answered then
        { n with
          awaitingReceipt := n.awaitingReceipt
            ++ [{ contactId := contact, msgId := msgId, since := now }]
          heldBackoff := n.heldBackoff.erase contact }
      else if !n.hasRelayRoute contact then n.heldRetryFailed contact now
      else n
    if posts && posted.isNone && !answered then n.holdMessage contact msgId bytes else n

/-- The checks every attachment passes first. -/
def mediaRefused (n : Node X) (contact : String) : Option String :=
  match n.chats.lookup contact with
  | none => some "unknown contact"
  | some chat =>
    if !chat.authorized then some "authorize this contact before messaging"
    else if chat.awaitingApproval then
      some "waiting for the other person to accept the chat before messages can be sent"
    else if chat.closed then some "this chat was deleted; create a new one to keep talking"
    else none

/-- Queues the notice that a video is on its way, ahead of the video. -/
def queueIncoming (n : Node X) (contact transferId : String) (incoming : Bytes) :
    Except String (Node X) :=
  match n.mediaRefused contact with
  | some reason => .error reason
  | none => match n.sealFor contact incoming with
    | none => .error "encrypt: the peer's ratchet key is unusable"
    | some (n, message) =>
      let bytes := encode (.sealed .mediaIncoming n.identityKey (.fromOlm message))
      .ok { n with pendingSends := n.pendingSends
        ++ [{ contactId := contact, msgId := "t:" ++ transferId ++ ":incoming", bytes := bytes }] }

/-- Stores and queues a cleaned attachment, already sealed at rest under `mediaId`. -/
def queueMedia (n : Node X) (contact : String) (kind : Kind) (kindName mime : String) (data : Bytes)
    (burnSecs : Nat) (transferId mediaId thumbId : String) (now : Nat) : Except String (Node X) :=
  match n.mediaRefused contact with
  | some reason => .error reason
  | none =>
    let plaintext := if burnSecs = 0 then packMedia transferId kindName mime data
      else packBurnMedia burnSecs transferId kindName mime data
    match n.sealFor contact plaintext with
    | none => .error "encrypt: the peer's ratchet key is unusable"
    | some (n, message) =>
      let frame := .sealed (if burnSecs = 0 then .media else .burnMedia) n.identityKey
        (.fromOlm message)
      let m := { ChatMessage.ofMedia true kind mediaId transferId thumbId now with
        delivery := .queued, burnSecs := burnSecs }
      let n := n.modifyChat contact (fun chat => { chat with history := chat.history ++ [m] })
      .ok { n with pendingSends := n.pendingSends
        ++ [{ contactId := contact, msgId := transferId, bytes := encode frame }] }

/-- What sending one deferred message needs. -/
def planSend (n : Node X) (chat : Chat X) (p : PendingRelaySend X) (now : Nat) : PlannedSend X where
  contactId := p.contactId
  handle := (n.postHandle p.contactId now).getD ""
  msgId := p.msgId
  bytes := p.bytes
  peerAddress := chat.peerAddress
  primary := (n.routeTo p.contactId).1
  relayTargets := (n.routeTo p.contactId).2
  remoteStorage := chat.remoteStorage

/-- Plans the deferred sends one by one: dropped with their chat, held for an outdated contact. -/
def planEach (now : Nat) : Node X → List (PendingRelaySend X) → Node X × List (PlannedSend X)
  | n, [] => (n, [])
  | n, p :: rest =>
    match n.chats.lookup p.contactId with
    | none => planEach now n rest
    | some chat =>
      if chat.outdated then planEach now (n.holdMessage p.contactId p.msgId p.bytes) rest
      else
        let later := planEach now n rest
        (later.1, n.planSend chat p now :: later.2)

/-- Snapshots the deferred sends so that they can be performed off the lock. -/
def planPendingSends (n : Node X) (now : Nat) : Node X × List (PlannedSend X) :=
  planEach now { n with pendingSends := [] } n.pendingSends

/-- Folds the relay posts of one deferred send back into its chat. -/
def recordPosts (o : SendOutcome X) (chat : Chat X) : Chat X :=
  match o.copies with
  | some copies =>
    { chat with
      relayReceipts := if !o.delivered then chat.relayReceipts.insert o.msgId copies
        else chat.relayReceipts
      remoteStorageHealthy := chat.remoteStorage || chat.remoteStorageHealthy }
  | none =>
    if o.relayFailed && o.delivered && chat.remoteStorage then
      { chat with remoteStorageHealthy := false }
    else chat

/-- Folds what one deferred send came to back into its chat. -/
def recordOutcome (o : SendOutcome X) (chat : Chat X) : Chat X :=
  let chat := recordPosts o chat
  if o.msgId = "" then chat
  else
    { chat with
      history := updateFirst (·.isSent o.msgId)
        (fun m => { m with delivery := if o.delivered then .sent else .queued }) chat.history }

/-- Folds what one deferred send came to back into the node. -/
def applySendOutcome (n : Node X) (o : SendOutcome X) (now : Nat) : Node X :=
  let n := n.noteDirectResult o.delivered
  let n := { n.modifyChat o.contactId (recordOutcome o) with
    relayEverSucceeded := n.relayEverSucceeded
      || ((n.chats.lookup o.contactId).isSome && o.copies.isSome) }
  if o.delivered then
    { n with
      awaitingReceipt := n.awaitingReceipt
        ++ [{ contactId := o.contactId, msgId := o.msgId, since := now }]
      heldBackoff := n.heldBackoff.erase o.contactId }
  else if o.relayFailed then
    (if !n.hasRelayRoute o.contactId then n.heldRetryFailed o.contactId now else n).holdMessage
      o.contactId o.msgId o.bytes
  else n

/-- Folds the results of an off-lock batch back into the node. -/
def applySendOutcomes (n : Node X) (outcomes : List (SendOutcome X)) (now : Nat) : Node X :=
  outcomes.foldl (fun n o => n.applySendOutcome o now) n

/-- The text of our message that is still sent and unconfirmed, and is not a burn message. -/
def unconfirmedText (chat : Chat X) (msgId : String) : Option String :=
  (chat.history.find? (fun m => m.isOwn msgId && m.delivery = .sent && m.burnSecs = 0)).map (·.text)

/-- Puts a relay copy behind one message whose receipt is overdue, or keeps it waiting. -/
def sweepOne (now : Nat) (n : Node X) (a : AwaitingReceipt) : Node X × Option AwaitingReceipt :=
  if now - a.since < RECEIPT_TIMEOUT then (n, some a)
  else match n.chats.lookup a.contactId with
  | none => (n, none)
  | some chat =>
    if chat.closed then (n, none)
    else match unconfirmedText chat a.msgId with
    -- An edit, an unsend or a receipt came first, or it burns: nothing to re-send.
    | none => (n, none)
    | some text => match n.sealFor a.contactId (utf8 text) with
      | none => (n, none)
      | some (n, message) =>
        let bytes := encode (.message n.identityKey a.msgId (.fromOlm message))
        let relayless := !n.hasRelayRoute a.contactId
        if relayless && !n.mayRetry a.contactId now then (n, some a)
        else
          let address := if relayless then chat.peerAddress else ""
          let route : Route := if relayless then .directThenRelay else .relayOnly
          (n.sendOrQueue (n.detach address a.contactId bytes relayless now) route (.unconfirmed a),
            none)

/-- Goes through the messages waiting for a receipt, collecting those that still wait. -/
def sweepEach (now : Nat) : Node X → List AwaitingReceipt → Node X × List AwaitingReceipt
  | n, [] => (n, [])
  | n, a :: rest =>
    let swept := n.sweepOne now a
    let later := sweepEach now swept.1 rest
    (later.1, swept.2.toList ++ later.2)

/-- Puts a relay copy behind any directly-sent message that no receipt confirmed in time. -/
def sweepUnconfirmed (n : Node X) (now : Nat) : Node X :=
  let swept := sweepEach now { n with awaitingReceipt := [] } n.awaitingReceipt
  { swept.1 with awaitingReceipt := swept.1.awaitingReceipt ++ swept.2 }

/-- Our texts in a chat that no receipt confirmed: what an upgrade sends again. -/
def unconfirmedTexts (chat : Chat X) : List (String × String) :=
  (chat.history.filter (fun m => m.fromMe && !m.system && m.kind = .text && m.burnSecs = 0
    && m.msgId ≠ "" && (m.delivery = .sent || m.delivery = .queued))).map (fun m => (m.msgId, m.text))

/-- Seals texts again under their ids; an unusable session gets no retry. -/
def resealTexts (contact : String) :
    Node X → List (String × String) → Node X × List (String × String × Envelope X.OlmMessage)
  | n, [] => (n, [])
  | n, (id, text) :: rest =>
    match n.sealFor contact (utf8 text) with
    | none => (n, [])
    | some (n, message) =>
      let later := resealTexts contact n rest
      (later.1, (contact, id, encode (.message n.identityKey id (.fromOlm message))) :: later.2)

/-- Seals the unconfirmed texts of every open chat again. -/
def resealChats : Node X → List String → Node X × List (String × String × Envelope X.OlmMessage)
  | n, [] => (n, [])
  | n, contact :: rest =>
    match n.chats.lookup contact with
    | none => resealChats n rest
    | some chat =>
      let sealed := if chat.authorized && !chat.closed then
          resealTexts contact n (unconfirmedTexts chat) else (n, [])
      let later := resealChats sealed.1 rest
      (later.1, sealed.2 ++ later.2)

/-- First load of a 0.1.x state: every text of ours no receipt confirmed is held again. -/
def resendAfterUpgrade (n : Node X) : Node X :=
  let sealed := resealChats n n.chats.keys
  sealed.2.foldl (fun n r => n.holdMessage r.1 r.2.1 r.2.2) sealed.1

/-- Tells one contact on 0.1.x, in its own format, that we have updated. -/
def sendUpgradeNotice (n : Node X) (contact id : String) (now : Nat) : Node X :=
  match n.chats.lookup contact with
  | none => n
  | some chat => match n.sealFor contact (utf8 UPGRADE_NOTICE_TEXT) with
    | none => n
    | some (n, message) =>
      let bytes := encodeLegacy (.message n.identityKey id (.fromOlm message))
      let n := { n with upgradeNoticeInFlight := n.upgradeNoticeInFlight ++ [contact] }
      n.sendOrQueue (n.detach chat.peerAddress contact bytes true now) .directThenRelay
        (.announced .upgradeNotice contact)

/-- Whether a contact is still to be told that we have updated. -/
def upgradeNoticeDue (n : Node X) (now : Nat) (contact : String) (chat : Chat X) : Bool :=
  chat.authorized && !chat.closed && !chat.toldUpgrade && chat.outdated
    && contact ∉ n.upgradeNoticeInFlight && n.retryDueEvenIfOutdated contact now

/-- Tells each contact still on 0.1.x, once, that we have updated; `ids` are the random ids. -/
def sendUpgradeNotices (n : Node X) (ready : Bool) (ids : String → String) (now : Nat) : Node X :=
  if !ready then n
  else
    let due := n.chats.entries.filter (fun e => n.upgradeNoticeDue now e.1 e.2)
    (due.map (·.1)).foldl (fun n contact => n.sendUpgradeNotice contact (ids contact) now) n

end Node

end Nightdrop
