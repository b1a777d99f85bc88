import Nightdrop.Node.State

/-! Where a frame goes: outdated contacts, relay routes, retry clocks, and one network round. -/

namespace Nightdrop

/-- How long an offline message sits on a relay, in seconds. -/
def RELAY_TTL : Nat := 24 * 60 * 60

/-- How long a directly-sent message may sit unconfirmed. -/
def RECEIPT_TIMEOUT : Nat := 30

/-- How long after sending a text can still be edited. -/
def EDIT_WINDOW : Nat := 15 * 60

/-- One UTC day, at which mailbox handles rotate. -/
def EPOCH_SECS : Nat := 24 * 60 * 60

/-- The most entries a relay list holds. -/
def MAX_RELAYS : Nat := 4

def HELD_RETRY_FIRST_SECS : Nat := 60
def HELD_RETRY_CAP_OPEN_SECS : Nat := 5 * 60
def HELD_RETRY_CAP_BACKGROUND_SECS : Nat := 15 * 60

def U32_MAX : Nat := 2 ^ 32 - 1

/-- The note in our own chat once the upgrade notice went out. -/
def UPGRADE_NOTE_TEXT : String :=
  "🔄 Their app is too old to read your messages, so Night Drop sent them a message saying you've " ++
    "updated and asking them to update too."

/-- The oldest app version that speaks our protocol. -/
def MIN_PEER_VERSION : Nat × Nat := (0, 2)

/-- Whether an announced app version predates `MIN_PEER_VERSION`. -/
def versionOutdated (version : String) : Bool :=
  let parts := (version.toList.splitOn '.').map
    (fun part => (parseDecimal U32_MAX (String.ofList part)).getD 0)
  let major := parts.headD 0
  let minor := parts.tail.headD 0
  major < MIN_PEER_VERSION.1 ∨ (major = MIN_PEER_VERSION.1 ∧ minor < MIN_PEER_VERSION.2)

example : versionOutdated "0.1.27" = true ∧ versionOutdated "0.2.0" = false := by decide +kernel

/-- White space, as Unicode has it. -/
def isSpace (c : Char) : Bool :=
  (0x9 ≤ c.toNat ∧ c.toNat ≤ 0xD) ∨ (0x2000 ≤ c.toNat ∧ c.toNat ≤ 0x200A)
    ∨ c.toNat ∈ [0x20, 0x85, 0xA0, 0x1680, 0x2028, 0x2029, 0x202F, 0x205F, 0x3000]

/-- A text without the white space at its ends. -/
def trimText (text : String) : String :=
  String.ofList (((text.toList.dropWhile isSpace).reverse.dropWhile isSpace).reverse)

/-- Longest display name a contact may give themselves, in characters. -/
def MAX_NAME_CHARS : Nat := 64

/-- A control or invisible formatting character, which could reorder or hide the text around it. -/
def invisible (c : Char) : Bool :=
  c.toNat < 0x20 ∨ (0x7F ≤ c.toNat ∧ c.toNat ≤ 0x9F)
    ∨ c.toNat ∈ [0xAD, 0x34F, 0x61C, 0x115F, 0x1160, 0x17B4, 0x17B5, 0x200B, 0x200E, 0x200F, 0x3164,
        0xFEFF, 0xFFA0]
    ∨ (0x180B ≤ c.toNat ∧ c.toNat ≤ 0x180F) ∨ (0x202A ≤ c.toNat ∧ c.toNat ≤ 0x202E)
    ∨ (0x2060 ≤ c.toNat ∧ c.toNat ≤ 0x206F) ∨ (0xFE00 ≤ c.toNat ∧ c.toNat ≤ 0xFE0D)
    ∨ (0xFFF0 ≤ c.toNat ∧ c.toNat ≤ 0xFFFB) ∨ (0xE0000 ≤ c.toNat ∧ c.toNat ≤ 0xE0FFF)

/-- The visible characters of a name, each run of white space made one space, up to the limit;
`pending` says that a space is due before the next character. -/
def collapseName (out : List Char) (pending : Bool) : List Char → List Char
  | [] => out
  | c :: rest =>
    if isSpace c then collapseName out (out ≠ []) rest
    else if MAX_NAME_CHARS ≤ out.length then out
    else
      let out := if pending ∧ out.length + 1 < MAX_NAME_CHARS then out ++ [' '] else out
      collapseName (out ++ [c]) false rest

/-- A contact's self-chosen name, made safe to show. -/
def cleanDisplayName (raw : String) : String :=
  let out := collapseName [] false (raw.toList.filter (!invisible ·))
  if out = [] then DEFAULT_NAME else String.ofList out

example : cleanDisplayName " ‮Bob​  
 A. " = "Bob A." := by decide +kernel

/-- The onions of a set a contact told us, made safe to post to. -/
def sanitizeOnions : List String → List String → List String
  | kept, [] => kept
  | kept, addr :: rest =>
    let addr := trimText addr
    if addr = "" ∨ 128 < addr.utf8ByteSize ∨ addr ∈ kept then sanitizeOnions kept rest
    else if kept.length = MAX_RELAYS then kept
    else sanitizeOnions (kept ++ [addr]) rest

/-- A relay set a contact told us, made safe to post to. -/
def sanitizePeerSet (set : RelaySet) : RelaySet :=
  { set with relays := sanitizeOnions [] set.relays }

variable {X : Externals}

namespace Chat

/-- The peer runs a release older than ours can talk to. -/
def outdated (chat : Chat X) : Bool :=
  chat.peerWireOld || chat.peerAppVersion.any versionOutdated

/-- The peer is on 0.2 or later: the note about their old app goes. -/
def forgetUpgradeNotice (chat : Chat X) : Chat X :=
  if chat.toldUpgrade then
    { chat with
      toldUpgrade := false
      history := chat.history.filter (fun m => !(m.system && m.text = UPGRADE_NOTE_TEXT)) }
  else chat

/-- The peer just proved it is alive. -/
def markAlive (now : Nat) (chat : Chat X) : Chat X :=
  let chat := { chat with lastSeen := some now, aliveCount := chat.aliveCount + 1
                          peerWireOld := false }
  let chat := if chat.peerAppVersion.any versionOutdated then { chat with peerAppVersion := none }
    else chat
  chat.forgetUpgradeNotice

/-- A chat just opened by pairing. -/
def newPaired (peerAddress : String) (session : X.Session) (authorized : Bool)
    (code : Option String) (now : Nat) : Chat X where
  peerAddress := peerAddress
  session := session
  lastSeen := some now
  authorized := authorized
  code := code

/-- Whether a short-code join still waits for the invitee. -/
def awaitingApproval (chat : Chat X) : Bool :=
  chat.history.any (fun m => m.system && m.kind = .awaitApproval)

end Chat

namespace Node

/-- Whether a contact runs a release too old to read what we send. -/
def peerOutdated (n : Node X) (contact : String) : Bool :=
  (n.chats.lookup contact).any Chat.outdated

/-- An older-format frame arrived from a contact: it runs 0.1.x, unless it announced otherwise. -/
def noteLegacyFrame (n : Node X) (contact : String) : Node X :=
  match n.chats.lookup contact with
  | none => n
  | some chat =>
    let announcedNew := chat.peerAppVersion.any (fun v => !versionOutdated v)
    if !chat.peerWireOld && !announcedNew then
      { n.modifyChat contact (fun chat => { chat with peerWireOld := true }) with dirty := true }
    else n

/-- The handle to post mail for a contact under right now, once the pair is confirmed. -/
def postHandle (n : Node X) (contact : String) (now : Nat) : Option String := do
  let chat ← n.chats.lookup contact
  let pair ← chat.mailbox
  let peer ← pair.peer
  if pair.peerConfirmed then
    return X.v2Handle n.identityKey contact pair.own peer (now / EPOCH_SECS)
  else none

/-- Whether the pair with a contact has a confirmed mailbox. -/
def mailboxAgreed (n : Node X) (contact : String) : Bool :=
  ((n.chats.lookup contact).bind (·.mailbox)).any (fun pair => pair.peerConfirmed && pair.peer.isSome)

/-- The list without its repetitions, in first-occurrence order. -/
def eachOnce (addrs : List String) : List String :=
  addrs.foldl (fun kept addr => if addr ∈ kept then kept else kept ++ [addr]) []

/-- A set as clients to talk to: the Night Drop client, and the onions besides it, each once. -/
def expandRelaySet (n : Node X) (set : RelaySet) : Option RelayClient × List String :=
  (if set.nightdrop then n.relay else none,
    eachOnce (set.relays.take MAX_RELAYS ++ if set.nightdrop then n.discoveredRelays else []))

/-- Where a relay copy for someone with this set goes; nowhere while we are direct only. -/
def postRoute (n : Node X) (set : RelaySet) : Option RelayClient × List String :=
  if n.relays = [] then (none, []) else n.expandRelaySet set

/-- The relays between us and a contact, whether or not the pair has a mailbox yet. -/
def relaysBetween (n : Node X) (contact : String) : Option RelayClient × List String :=
  match (n.chats.lookup contact).bind (·.relaySet) with
  | some set => n.postRoute set
  | none => (none, [])

/-- Where a relay copy for a contact goes: nowhere without an agreed mailbox. -/
def routeTo (n : Node X) (contact : String) : Option RelayClient × List String :=
  if n.mailboxAgreed contact then n.relaysBetween contact else (none, [])

/-- Whether a frame to a contact has any relay to go to. -/
def hasRelayRoute (n : Node X) (contact : String) : Bool :=
  (n.routeTo contact).1.isSome || (n.routeTo contact).2 ≠ []

/-- Whether a retry to a contact is due, its app's age aside. -/
def retryDueEvenIfOutdated (n : Node X) (contact : String) (now : Nat) : Bool :=
  n.hasRelayRoute contact || (n.heldBackoff.lookup contact).all (fun next => next.2 ≤ now)

/-- Whether a retry to a contact may go out now. -/
def mayRetry (n : Node X) (contact : String) (now : Nat) : Bool :=
  !n.peerOutdated contact && n.retryDueEvenIfOutdated contact now

/-- A direct attempt to a contact with no relay route failed: wait longer before the next. -/
def heldRetryFailed (n : Node X) (contact : String) (now : Nat) : Node X :=
  let cap := if n.background then HELD_RETRY_CAP_BACKGROUND_SECS else HELD_RETRY_CAP_OPEN_SECS
  let delay := match n.heldBackoff.lookup contact with
    | some (delay, _) => min (delay * 2) cap
    | none => HELD_RETRY_FIRST_SECS
  { n with heldBackoff := n.heldBackoff.insert contact (delay, now + delay) }

/-- Snapshots what delivering a frame to one peer needs. -/
def detach (n : Node X) (peerAddress recipientIk : String) (bytes : Envelope X.OlmMessage)
    (fresh : Bool) (now : Nat) : DetachedSend X where
  primary := (n.routeTo recipientIk).1
  peerRelays := (n.routeTo recipientIk).2
  recipientIk := recipientIk
  handle := (n.postHandle recipientIk now).getD ""
  peerAddress := peerAddress
  bytes := bytes
  fresh := fresh

/-- The same for a pending control frame, which carries its own routing. -/
def detachPending (n : Node X) (p : PendingControl X) : DetachedSend X :=
  let route := if p.handle = "" then (none, [])
    else n.postRoute { nightdrop := p.nightdrop, relays := p.relays }
  { primary := route.1
    peerRelays := route.2
    recipientIk := p.recipientIk
    handle := p.handle
    peerAddress := p.peerAddress
    bytes := p.bytes
    fresh := false }

/-- Whether a pending control frame has a relay to go to. -/
def relayRouteForPending (n : Node X) (p : PendingControl X) : Bool :=
  (n.detachPending p).primary.isSome || (n.detachPending p).peerRelays ≠ []

/-- Records the outcome of a direct send. -/
def noteDirectResult (n : Node X) (delivered : Bool) : Node X :=
  if delivered then { n with directFailures := 0, directEverSucceeded := true }
  else { n with directFailures := min (n.directFailures + 1) U32_MAX }

end Node

/-- What each relay, asked to take a copy, answers: the blob's id and its delete token. -/
abbrev RelayAnswers := Option String → Option (String × String)

/-- The receipt for a copy one relay took. -/
def receiptFrom (handle : String) (relay : Option String) (taken : String × String) :
    QueuedReceipt where
  relayAddr := relay
  handle := handle
  msgId := taken.1
  deleteToken := taken.2

/-- The copies the onions took, each onion asked once and none that was posted to before. -/
def postOnions (answers : RelayAnswers) (handle : String) :
    List String → List String → List QueuedReceipt
  | _, [] => []
  | posted, addr :: rest =>
    if addr ∈ posted then postOnions answers handle posted rest
    else ((answers (some addr)).map (receiptFrom handle (some addr))).toList
      ++ postOnions answers handle (posted ++ [addr]) rest

/-- Posts a sealed copy to every relay of a recipient; `none` if no relay took one. -/
def queueOnRelays (answers : RelayAnswers) (primary : Option RelayClient)
    (peerRelays : List String) (handle : String) : Option (List QueuedReceipt) :=
  if primary.isNone ∧ peerRelays = [] then none
  else if handle = "" then none
  else
    let first := if primary.isSome then ((answers none).map (receiptFrom handle none)).toList
      else []
    let copies := first
      ++ postOnions answers handle (primary.bind (·.addr)).toList peerRelays
    if copies = [] then none else some copies

/-- Delivers a detached frame by a route: `answered` is whether a direct dial got through. -/
def DetachedSend.run (s : DetachedSend X) (route : Route) (answered : Bool)
    (answers : RelayAnswers) : Delivery :=
  let direct := s.peerAddress ≠ "" && answered
  let relay := queueOnRelays answers s.primary s.peerRelays s.handle
  match route with
  | .directThenRelay =>
    if direct then .direct
    else if s.primary.isNone && s.peerRelays = [] then .failed
    else match relay with
      | some copies => .relay copies
      | none => .failed
  | .relayThenDirect =>
    match relay with
    | some copies => .relay copies
    | none => if direct then .direct else .failed
  | .relayOnly =>
    match relay with
    | some copies => .relay copies
    | none => .failed

/-- Runs one queued send. -/
def Outbound.run (o : Outbound X) (answered : Bool) (answers : RelayAnswers) : Finished X where
  done := o.done
  delivery := o.send.run o.route answered answers
  recipient := o.send.recipientIk
  bytes := o.send.bytes
  relayless := o.send.primary.isNone && o.send.peerRelays = []

/-- A send the core shut down before running, applied as a failure. -/
def Outbound.abandon (o : Outbound X) : Finished X where
  done := o.done
  delivery := .failed
  recipient := o.send.recipientIk
  bytes := o.send.bytes
  relayless := o.send.primary.isNone && o.send.peerRelays = []

/-- Whether an API call waits on a send. -/
def Outbound.isCaller (o : Outbound X) : Bool :=
  match o.done with
  | .caller _ => true
  | _ => false

/-- Sends one planned message: the peer's onion, then a relay copy if it needs one. -/
def PlannedSend.execute (p : PlannedSend X) (delivered : Bool) (answers : RelayAnswers) :
    SendOutcome X :=
  let posted := if !delivered || p.remoteStorage then
      some (queueOnRelays answers p.primary p.relayTargets p.handle) else none
  { contactId := p.contactId
    msgId := p.msgId
    bytes := p.bytes
    delivered := delivered
    copies := posted.bind id
    relayFailed := posted = some none }

/-- Performs a batch of sends; the network answers each in turn. -/
def executeSends (plan : List (PlannedSend X)) (network : List (Bool × RelayAnswers)) :
    List (SendOutcome X) :=
  plan.zipWith (fun p answer => p.execute answer.1 answer.2) network

/-- What the relays took is never an empty list of copies. -/
theorem queueOnRelays_ne_nil {answers : RelayAnswers} {primary : Option RelayClient}
    {peerRelays : List String} {handle : String} {copies : List QueuedReceipt}
    (taken : queueOnRelays answers primary peerRelays handle = some copies) : copies ≠ [] := by
  rintro rfl
  unfold queueOnRelays at taken
  split at taken
  · cases taken
  · split at taken
    · cases taken
    · -- The last branch answers only when the copies are not empty.
      simp only [] at taken
      split at taken <;> grind

/-- A send that did not reach the peer has copies on relays or has failed at them too. -/
theorem PlannedSend.execute_undelivered {p : PlannedSend X} {answers : RelayAnswers}
    (missed : (p.execute false answers).copies = none) :
    (p.execute false answers).relayFailed = true := by
  simpa [PlannedSend.execute] using missed

/-- The copies an executed send reports are never none at all. -/
theorem PlannedSend.execute_copies {p : PlannedSend X} {delivered : Bool} {answers : RelayAnswers}
    {copies : List QueuedReceipt} (taken : (p.execute delivered answers).copies = some copies) :
    copies ≠ [] := by
  simp only [PlannedSend.execute] at taken
  split at taken
  · exact queueOnRelays_ne_nil taken
  · simp at taken

/-- The copies a detached frame left on relays are never none at all. -/
theorem DetachedSend.run_copies {s : DetachedSend X} {route : Route} {answered : Bool}
    {answers : RelayAnswers} {copies : List QueuedReceipt}
    (taken : s.run route answered answers = .relay copies) : copies ≠ [] := by
  have posted : queueOnRelays answers s.primary s.peerRelays s.handle = some copies := by
    unfold DetachedSend.run at taken
    cases route <;> simp only [] at taken <;> split at taken <;> grind
  exact queueOnRelays_ne_nil posted

end Nightdrop
