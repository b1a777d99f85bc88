import Nightdrop.Node.Announce
import Nightdrop.Node.Edit

/-! The inbound frames: what processing one changes, and the sweeps that let messages go. -/

namespace Nightdrop

variable {X : Externals}

/-- What processing a frame reports: the contact and text to surface, if any, or an error. -/
abbrev Processed := Except String (Option (String × String))

/-- Counts a received message against the daily allowance; over it, the chat gets one notice. -/
def withinAllowance (chat : Chat X) (mediaBytes now : Nat) : Chat X × Bool :=
  match chat.allowance.admit now mediaBytes with
  | (allowance, .yes) => ({ chat with allowance := allowance }, true)
  | (allowance, .dropAndNotice) =>
    ({ chat with allowance := allowance
                 history := chat.history ++ [.ofSystem OVER_ALLOWANCE_NOTICE now] }, false)
  | (allowance, .drop) => ({ chat with allowance := allowance }, false)

/-- Removes the transient notices of these kinds. -/
def Chat.clearSystemNotices (kinds : List Kind) (chat : Chat X) : Chat X :=
  { chat with history := chat.history.filter (fun m => !(m.system && m.kind ∈ kinds)) }

/-- Takes in a user message once it is open: a resend of one we hold is receipted only, and so is
one past the daily allowance. -/
def Chat.takeIn (chat : Chat X) (m : ChatMessage) (now : Nat) : Chat X × Bool :=
  if m.msgId ≠ "" && chat.history.any (·.isTheirs m.msgId) then (chat, false)
  else
    let (chat, within) := withinAllowance chat 0 now
    if within then
      ({ chat with history := chat.history ++ [m] }.clearSystemNotices [.awaitApproval, .approved],
        true)
    else (chat, false)

/-- The notice a re-paired chat gets. -/
def REPAIRED_VERIFIED_TEXT : String :=
  "🔑 This contact re-paired with a new secure session. Your earlier verification no longer applies " ++
    "— compare their safety number again before trusting this chat."

def REPAIRED_TEXT : String :=
  "🔑 This contact re-paired, starting a new secure session. Verify their safety number if you want " ++
    "to confirm who they are."

def CLOSED_TEXT : String :=
  "👻 The other person deleted this chat. A new chat will need to be created to keep talking."

def APPROVED_TEXT : String := "✅ Your chat request was approved. You can start chatting."

namespace Node

/-- Accepting a request: the keys held unused until now are put to use. -/
def applyPendingKeys (n : Node X) (contact : String) : Node X :=
  match n.chats.lookup contact with
  | none => n
  | some _ =>
    { n.modifyChat contact (fun chat =>
        { chat with
          peerKeyPending := none
          passPending := none
          clientKey := if chat.passPending.isSome then chat.passPending else chat.clientKey }) with
      dirty := true }

/-- A chat adopts the session of a fresh `Hello` and keeps its conversation. -/
def rekeyed (session : X.Session) (peerAddress : String) (body : Option HelloBody)
    (chat : Chat X) : Chat X :=
  { chat with
    session := session
    peerAddress := peerAddress
    closed := false
    relaySet := body.map (fun b => sanitizePeerSet b.relays)
    relaysTold := none
    peerKeyPending := (body.bind (·.clientKey)).filter X.validateKey
    passPending := (body.bind (·.pass)).bind X.decodeSecret
    mailbox := ((body.bind (·.mailbox)).bind X.decodeSecret).map MailboxPair.seeded
    verified := false
    peerVerified := false }

/-- A chat opened by a `Hello` from someone new, or again after it was closed. -/
def greeted (n : Node X) (session : X.Session) (peerAddress : String) (body : Option HelloBody)
    (now : Nat) : Chat X :=
  { Chat.newPaired peerAddress session (!n.requireAuthorization) n.lastInviteCode now with
    relaySet := body.map (fun b => sanitizePeerSet b.relays)
    peerKeyPending := (body.bind (·.clientKey)).filter X.validateKey
    passPending := (body.bind (·.pass)).bind X.decodeSecret
    mailbox := ((body.bind (·.mailbox)).bind X.decodeSecret).map MailboxPair.seeded }

/-- What the transport and chance add to a pairing: a minted client key and a random secret. -/
structure PairingInputs where
  minted : Option (String × Bytes) := none
  fresh : Bytes := []

/-- The chat of an accepted `Hello`: a new one, or a known one on its new session. -/
def adoptHello (n : Node X) (contact peerAddress : String) (session : X.Session)
    (body : Option HelloBody) (now : Nat) : Node X :=
  match n.chats.lookup contact with
  | some prior =>
    let n :=
      if !prior.closed then
        let n := n.modifyChat contact (rekeyed session peerAddress body)
        -- Someone already approved sees no request from us, so the approval is echoed.
        if prior.authorized then
          n.deliverWith peerAddress contact (.approved n.identityKey (prior.code.getD "")) false
            .nothing now
        else n
      else
        { n with chats := n.chats.insert contact (n.greeted session peerAddress body now) }
    let notice := if prior.verified then REPAIRED_VERIFIED_TEXT else REPAIRED_TEXT
    n.modifyChat contact (fun chat =>
      { chat with history := chat.history ++ [.ofSystem notice now] })
  | none => { n with chats := n.chats.insert contact (n.greeted session peerAddress body now) }

/-- A `Hello`: a peer opens a session with us. -/
def receiveHello (n : Node X) (fromAddress : Option String) (contact address : String)
    (message : WireOlm X.OlmMessage) (inputs : PairingInputs) (now : Nat) : Node X × Processed :=
  match message.toOlm with
  | none => (n, .error "invalid olm message")
  | some olm => match X.acceptInbound n.account contact olm with
    | none => (n, .error "create inbound session")
    | some (account, session, plaintext) =>
      let n := { n with account := account }
      let body := X.readHello plaintext
      let peerAddress := if saneAddress address then address else fromAddress.getD ""
      let n := n.adoptHello contact peerAddress session body now
      let authorized := (n.chats.lookup contact).any (·.authorized)
      let n := if authorized then n.applyPendingKeys contact else n
      let n := if peerAddress ≠ "" && ((body.bind (·.pass)).bind X.decodeSecret).isNone then
          n.announceClientKey contact peerAddress inputs.minted now else n
      let n := if peerAddress ≠ "" && authorized then
          let n := (n.announceStanding contact now).announceRelaySetTo contact now
          if n.mailboxAgreed contact then n else n.sendMailboxKey contact inputs.fresh now
        else n
      (n, .ok none)

/-- Takes in one user message of a contact: `open?` reads the decrypted payload. -/
def receiveUser (n : Node X) (sender id : String) (message : WireOlm X.OlmMessage)
    (open? : Bytes → Except String (Option ChatMessage)) (shown : ChatMessage → String) (now : Nat) :
    Node X × Processed :=
  if !saneId id then (n, .ok none)
  else match message.toOlm with
  | none => (n, .error "invalid olm message")
  | some olm => match n.chats.lookup sender with
    | none => (n, .ok none)
    | some chat =>
      if !chat.authorized then (n, .ok none)
      else match X.decrypt chat.session olm with
      | none => (n, .error "decrypt")
      | some (session, plaintext) =>
        let n := n.modifyChat sender (fun chat => { chat with session := session }.markAlive now)
        match open? plaintext with
        | .error reason => (n, .error reason)
        | .ok none => (n, .ok none)
        | .ok (some m) =>
          let landed := (n.chats.lookup sender).any (fun chat => (chat.takeIn m now).2)
          let n := n.modifyChat sender (fun chat => (chat.takeIn m now).1)
          ({ n with pendingReceipts := n.pendingReceipts ++ [(sender, id)] },
            .ok (if landed then some (sender, shown m) else none))

/-- A text of a contact. -/
def receiveMessage (n : Node X) (sender id : String) (message : WireOlm X.OlmMessage) (now : Nat) :
    Node X × Processed :=
  n.receiveUser sender id message
    (fun plaintext => .ok (some (.ofText false (clampText (fromUtf8Lossy plaintext)) id now)))
    (·.text) now

/-- A burn message of a contact: one whose timer cannot be read is dropped. -/
def receiveBurn (n : Node X) (sender id : String) (message : WireOlm X.OlmMessage) (now : Nat) :
    Node X × Processed :=
  n.receiveUser sender id message
    (fun plaintext =>
      match unpackBurn plaintext with
      | none => .error "corrupt media envelope"
      | some (0, _) => .ok none
      | some (burnSecs, text) => .ok (some { ChatMessage.ofText false text id now with
          burnSecs := burnSecs }))
    (fun _ => "") now

/-- A change a contact makes to one of their texts: `target?` reads whom it names and how. -/
def receiveChange (n : Node X) (sender : String) (message : WireOlm X.OlmMessage)
    (target? : Bytes → Option (String × (ChatMessage → ChatMessage))) (now : Nat) :
    Node X × Processed :=
  match message.toOlm with
  | none => (n, .error "invalid olm message")
  | some olm => match n.chats.lookup sender with
    | none => (n, .ok none)
    | some chat =>
      if !chat.authorized then (n, .ok none)
      else match X.decrypt chat.session olm with
      | none => (n, .error "decrypt")
      | some (session, plaintext) =>
        let n := n.modifyChat sender (fun chat => { chat with session := session })
        match target? plaintext with
        | none => (n, .error "corrupt media envelope")
        | some (id, change) =>
          let isTarget := ChatMessage.isTheirText id now EDIT_WINDOW
          if chat.history.any isTarget then
            (n.modifyChat sender (fun chat =>
                { chat with history := updateFirst isTarget change chat.history }),
              .ok (some (sender, "")))
          else (n, .ok none)

/-- A contact edited one of their texts. -/
def receiveEdit (n : Node X) (sender : String) (message : WireOlm X.OlmMessage) (now : Nat) :
    Node X × Processed :=
  n.receiveChange sender message
    (fun plaintext => (unpackEdit plaintext).map (fun e =>
      (e.1, fun m => { m with text := e.2, edited := true }))) now

/-- A contact unsent one of their texts. -/
def receiveUnsend (n : Node X) (sender : String) (message : WireOlm X.OlmMessage) (now : Nat) :
    Node X × Processed :=
  n.receiveChange sender message
    (fun plaintext => (unpackUnsend plaintext).map (fun id => (id, ChatMessage.tombstone))) now

/-- What a receipt names in our history: a text by its id, an attachment by its transfer. -/
def isReceipted (named : String) (m : ChatMessage) : Bool :=
  if named.toList.take 2 = ['t', ':'] then
    m.fromMe && m.transferId ≠ "" && m.transferId = String.ofList (named.toList.drop 2)
  else m.fromMe && m.msgId ≠ "" && m.msgId = named

/-- A receipt: the contact has processed the message it names. -/
def receiveDelivered (n : Node X) (sender : String) (message : WireOlm X.OlmMessage) (now : Nat) :
    Node X × Processed :=
  match message.toOlm with
  | none => (n, .error "invalid olm message")
  | some olm => match n.chats.lookup sender with
    | none => (n, .ok none)
    | some chat => match X.decrypt chat.session olm with
      | none => (n, .ok none)
      | some (session, plaintext) =>
        let named := fromUtf8Lossy plaintext
        let n := n.modifyChat sender (fun chat => { chat with session := session }.markAlive now)
        -- An empty payload names nothing; it would match the first attachment of the chat.
        if named = "" then (n, .ok none)
        else
          let n := n.modifyChat sender (fun chat =>
            { chat with
              history := updateFirst (isReceipted named)
                (fun m => { m with delivery := .delivered }) chat.history })
          ({ n with
              awaitingReceipt := n.awaitingReceipt.filter
                (fun a => !(a.contactId = sender && a.msgId = named)) }, .ok none)

/-- An approval: the wait for the invitee is over. -/
def receiveApproved (n : Node X) (sender : String) (now : Nat) : Node X × Processed :=
  match n.chats.lookup sender with
  | none => (n, .ok none)
  | some chat =>
    let wasWaiting := chat.awaitingApproval
    let n := n.modifyChat sender (·.clearSystemNotices [.awaitApproval])
    let n := if wasWaiting then n.modifyChat sender (fun chat =>
        { chat with
          history := chat.history ++ [.ofSystemTagged APPROVED_TEXT .approved now] }) else n
    let n := n.announceRelaySetTo sender now
    let n := if wasWaiting then
        let n := n.modifyChat sender (fun chat =>
          { chat with toldCaptures := none, toldBlock := none, toldBurns := false
                      toldVersion := none, toldNearbySeq := 0 })
        { n with
          capturesAnnounced := n.capturesAnnounced.erase sender
          blockAnnounced := n.blockAnnounced.erase sender
          nearbyAnnounced := n.nearbyAnnounced.erase sender
          burnsAnnounced := n.burnsAnnounced.filter (· ≠ sender)
          versionAnnounced := n.versionAnnounced.erase sender }.announceStanding sender now
      else n
    (n, .ok (some (sender, "")))

/-- The peer deleted the chat, if the frame is genuine. -/
def receiveClosed (n : Node X) (sender : String) (message : WireOlm X.OlmMessage) (now : Nat) :
    Node X × Processed :=
  match n.verifyControl sender message MARK_CLOSED now with
  | (n, false) => (n, .ok none)
  | (n, true) =>
    if (n.chats.lookup sender).any (!·.closed) then
      (n.modifyChat sender (fun chat =>
          { chat with closed := true, history := chat.history ++ [.ofSystem CLOSED_TEXT now] }),
        .ok (some (sender, "")))
    else (n, .ok none)

/-- The peer drained our relay mailbox: proof of life, and nothing more. -/
def receiveAck (n : Node X) (sender : String) (message : WireOlm X.OlmMessage) (now : Nat) :
    Node X × Processed :=
  match n.verifyControl sender message MARK_ACK now with
  | (n, false) => (n, .ok none)
  | (n, true) => (n.modifyChat sender (·.markAlive now), .ok none)

/-- Receipts what a round accepted. -/
def sendPendingReceipts (n : Node X) (now : Nat) : Node X :=
  { n with pendingReceipts := [] }.sendReceipts now [] n.pendingReceipts

/-- Whether a burn message nobody opened is past its day, and leaves a tombstone. -/
def burnsUnopened (now : Nat) (m : ChatMessage) : Bool :=
  0 < m.burnSecs && m.stamp ≠ 0 && !m.fromMe && m.viewedAt = 0 && RELAY_TTL ≤ now - m.stamp

/-- Whether a burn message's time is up. -/
def burnDone (now : Nat) (m : ChatMessage) : Bool :=
  if m.burnSecs = 0 ∨ m.stamp = 0 then false
  else if m.viewedAt ≠ 0 then m.burnSecs ≤ now - m.viewedAt
  else RELAY_TTL ≤ now - m.stamp

/-- The history once burn messages whose time is up are gone. -/
def sweptBurns (now : Nat) (history : List ChatMessage) : List ChatMessage :=
  (history.map (fun m => if burnsUnopened now m then m.burnTombstone else m)).filter
    (!burnDone now ·)

/-- Every chat changed alike. -/
def mapChats (n : Node X) (f : Chat X → Chat X) : Node X :=
  { n with chats := n.chats.mapMaybe (fun _ chat => some (f chat)) }

/-- Lets the burn messages go whose time is up. -/
def sweepBurns (n : Node X) (now : Nat) : Node X :=
  let changed := n.chats.entries.any (fun e => sweptBurns now e.2.history ≠ e.2.history)
  { n.mapChats (fun chat => { chat with history := sweptBurns now chat.history }) with
    dirty := n.dirty || changed }

/-- Whether server storage was on for a message stamped `at`. -/
def storageOnAt (timeline : List (Nat × Bool)) (stamp : Nat) : Bool :=
  ((timeline.reverse.find? (·.1 ≤ stamp)).map (·.2)).getD false

/-- The disappearing timer that applies to a message stamped `at`. -/
def timerAt (timeline : List (Nat × Nat)) (stamp : Nat) : Nat :=
  ((timeline.reverse.find? (·.1 ≤ stamp)).map (·.2)).getD 0

/-- Whether one of our messages sat queued past the relay's time to live. -/
def expires (now : Nat) (m : ChatMessage) : Bool :=
  m.fromMe && m.delivery = .queued && m.stamp ≠ 0 && RELAY_TTL < now - m.stamp

/-- Whether a message is to disappear from this device. -/
def disappears (chat : Chat X) (now : Nat) (m : ChatMessage) : Bool :=
  let age := now - m.stamp
  let bombed := !m.system && storageOnAt chat.storageTimeline m.stamp
  let timer := if m.system then 0 else timerAt chat.disappearingTimeline m.stamp
  m.stamp ≠ 0 && ((bombed && RELAY_TTL < age) || (0 < timer && timer < age))

/-- One chat after the time-based housekeeping. -/
def sweptChat (now : Nat) (chat : Chat X) : Chat X :=
  let old := (chat.history.filter (expires now)).map (·.msgId)
  let chat :=
    { chat with
      relayReceipts := old.foldl (fun receipts id => receipts.erase id) chat.relayReceipts
      history := chat.history.map (fun m =>
        if expires now m then { m with delivery := .expired } else m) }
  if chat.storageTimeline = [] ∧ chat.disappearingTimeline = [] then chat
  else { chat with history := chat.history.filter (!disappears chat now ·) }

/-- Time-based housekeeping: burns, expiry of queued messages, and disappearing messages. -/
def sweepTime (n : Node X) (now : Nat) : Node X :=
  let n := n.sweepBurns now
  let changed := n.chats.entries.any (fun e => (sweptChat now e.2).history ≠ e.2.history)
  { n.mapChats (sweptChat now) with dirty := n.dirty || changed }

end Node

end Nightdrop
