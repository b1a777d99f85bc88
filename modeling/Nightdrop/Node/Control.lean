import Nightdrop.Node.Receive

/-! The sealed control frames: announcements, shared settings and notices a contact sends. -/

namespace Nightdrop

variable {X : Externals}

def MARK_BACKEDUP : Bytes := utf8 "nightdrop/ctl/backedup/v1"
def MARK_SCREENSHOT : Bytes := utf8 "nightdrop/ctl/screenshot/v1"
def MARK_RECORDING : Bytes := utf8 "nightdrop/ctl/recording/v1"
def MARK_CAPTURE_OVERRIDE_ON : Bytes := utf8 "nightdrop/ctl/capture-override-on/v1"
def MARK_CAPTURE_OVERRIDE_OFF : Bytes := utf8 "nightdrop/ctl/capture-override-off/v1"
def MARK_VERIFIED : Bytes := utf8 "nightdrop/ctl/verified/v1"
def MARK_UNVERIFIED : Bytes := utf8 "nightdrop/ctl/unverified/v1"
def MARK_NEARBY_PREFIX : Bytes := utf8 "nightdrop/ctl/nearby/v1:"

/-- How long before a contact who asks again is told again that captures stay allowed. -/
def RETELL_SECS : Nat := 3600

def STORAGE_ON_TEXT : String :=
  "☁️ The other person enabled 24h server storage for this chat. Messages are held (encrypted) on " ++
    "the relay for up to 24 hours."

def STORAGE_OFF_TEXT : String :=
  "☁️ The other person disabled server storage for this chat. Messages stay on your devices only."

def CODE_IN_USE_TEXT : String :=
  "⚠️ That invite code has already been used. Ask for a new code to start a chat."

def SCREENSHOT_TEXT : String := "📸 The other person took a screenshot of this chat."

def RECORDING_TEXT : String :=
  "🔴 The other person is recording their screen with this chat open."

def OVERRIDE_ON_TEXT : String :=
  "🔓 The other person turned off screenshot blocking for this chat on their phone. You are still " ++
    "told about each screenshot they take."

def OVERRIDE_OFF_TEXT : String :=
  "🔒 The other person blocks screenshots in this chat again, as you asked."

def BACKED_UP_TEXT : String :=
  "🗄️ The other person is keeping a backup of this chat, so your messages may persist in their backup."

def PEER_VERIFIED_TEXT : String :=
  "✅ The other person marked this chat's safety number verified. Compare it yourself too to be sure " ++
    "— this is only what they told you."

def PEER_UNVERIFIED_TEXT : String :=
  "⚠️ The other person cleared their verification of this chat's safety number."

def ADDRESS_TEXT : String :=
  "🔄 The other person's connection address changed; messages will keep reaching them."

def RETOLD_TEXT : String :=
  "🔓 They asked again for this chat not to be captured. Screenshots stay allowed here, as you chose; " ++
    "they were told."

def NEARBY_ASKED_TEXT : String :=
  "📶 They'd like to also connect on the same Wi-Fi. Turn it on in this chat's menu if you agree."

/-- A number of units, with the unit's plural where it needs one. -/
def countUnits (n : Nat) (one : String) : String :=
  n.repr ++ " " ++ one ++ if n = 1 then "" else "s"

/-- A human label for a disappearing-messages timer. -/
def disappearingLabel (secs : Nat) : String :=
  if secs = 0 then "off"
  else if secs % 604800 = 0 then countUnits (secs / 604800) "week"
  else if secs % 86400 = 0 then countUnits (secs / 86400) "day"
  else if secs % 3600 = 0 then countUnits (secs / 3600) "hour"
  else if secs % 60 = 0 then countUnits (secs / 60) "minute"
  else countUnits secs "second"

/-- Whether an announced version is three short numbers. -/
def isPlausibleVersion (version : String) : Bool :=
  let parts := version.toList.splitOn '.'
  version.utf8ByteSize ≤ 16 && parts.length = 3
    && parts.all (fun part => part ≠ [] && part.length ≤ 4 && part.all Char.isDigit)

example : isPlausibleVersion "0.2.13" = true ∧ isPlausibleVersion "0.2" = false := by decide +kernel

/-- The version an announcement says. -/
def readVersion (plaintext : Bytes) : Option String :=
  ((stripMark MARK_VERSION_PREFIX plaintext).bind fromUtf8).filter isPlausibleVersion

/-- The timer a `Disappearing` payload says; 0 if it cannot be read. -/
def readTimer (plaintext : Bytes) : Nat :=
  ((fromUtf8 plaintext).bind (parseDecimal U64_MAX)).getD 0

/-- The state and number of a capture-block announcement. -/
def readBlock (rest : Bytes) : Option (Bool × Nat) := do
  let text ← fromUtf8 rest
  let value := text.toList.takeWhile (· ≠ ':')
  let seq ← if ':' ∈ text.toList then
      parseDecimal U64_MAX (String.ofList (text.toList.drop (value.length + 1)))
    else none
  return (value = ['1'], seq)

/-- The contribution and confirmation of a mailbox agreement frame. -/
def decodePayload (payload : Bytes) : Option (Bytes × Option Bytes) := do
  let rest ← stripMark MARK_MAILBOX_V2 payload
  if rest.length = 32 then return (rest, none)
  else if rest.length = 64 then return (rest.take 32, some (rest.drop 32))
  else none

/-- The pair once the peer's contribution is heard: a changed one undoes the agreement. -/
def MailboxPair.heard (theirs : Bytes) (pair : MailboxPair) : MailboxPair :=
  if pair.peer = some theirs then pair
  else { pair with peer := some theirs, peerConfirmed := false, confirmSent := false }

namespace Chat

/-- A change that counts against the contact's daily allowance, and whether it was made. -/
def counted (now : Nat) (change : Chat X → Chat X) (chat : Chat X) : Chat X × Bool :=
  let within := withinAllowance chat 0 now
  if within.2 then (change within.1, true) else within

/-- A system notice at the end of the conversation. -/
def note (text : String) (now : Nat) (chat : Chat X) : Chat X :=
  { chat with history := chat.history ++ [.ofSystem text now] }

/-- The peer switched server storage. -/
def hearStorage (plaintext : Bytes) (now : Nat) (chat : Chat X) : Chat X × Bool :=
  let enabled : Bool := plaintext = utf8 "on"
  if enabled = chat.remoteStorage then (chat, false)
  else chat.counted now (fun chat =>
    { chat with
      remoteStorage := enabled
      storageTimeline := chat.storageTimeline ++ [(now, enabled)] }.note
        (if enabled then STORAGE_ON_TEXT else STORAGE_OFF_TEXT) now)

/-- The peer changed the disappearing timer. -/
def hearDisappearing (plaintext : Bytes) (now : Nat) (chat : Chat X) : Chat X × Bool :=
  let secs := readTimer plaintext
  if secs = chat.disappearingSecs then (chat, false)
  else chat.counted now (fun chat =>
    { chat with
      disappearingSecs := secs
      disappearingTimeline := chat.disappearingTimeline ++ [(now, secs)] }.note
        ("⏱️ The other person set disappearing messages to " ++ disappearingLabel secs ++ ".") now)

/-- The note a capture notice leaves; `none` for a kind this build does not know. -/
def captureNote (plaintext : Bytes) : Option String :=
  if plaintext = MARK_SCREENSHOT then some SCREENSHOT_TEXT
  else if plaintext = MARK_RECORDING then some RECORDING_TEXT
  else if plaintext = MARK_CAPTURE_OVERRIDE_ON then some OVERRIDE_ON_TEXT
  else if plaintext = MARK_CAPTURE_OVERRIDE_OFF then some OVERRIDE_OFF_TEXT
  else none

/-- The peer captured the conversation, or changed whether it may. -/
def hearScreenshot (plaintext : Bytes) (now : Nat) (chat : Chat X) : Chat X × Bool :=
  match captureNote plaintext with
  | none => (chat, false)
  | some text => (chat.markAlive now).counted now (note text now)

/-- The peer keeps a backup of this chat, noted once. -/
def hearBackedUp (now : Nat) (chat : Chat X) : Chat X × Bool :=
  if chat.peerBackedUp then (chat, false)
  else ({ chat with peerBackedUp := true }.note BACKED_UP_TEXT now, true)

/-- Whether the peer says they verified the safety number; `none` for anything else. -/
def readVerified (plaintext : Bytes) : Option Bool :=
  if plaintext = MARK_VERIFIED then some true
  else if plaintext = MARK_UNVERIFIED then some false
  else none

/-- The peer marked the safety number verified, or cleared that. -/
def hearVerified (plaintext : Bytes) (now : Nat) (chat : Chat X) : Chat X × Bool :=
  match readVerified plaintext with
  | none => (chat, false)
  | some verified =>
    if chat.peerVerified = verified then (chat, false)
    else chat.counted now (fun chat =>
      { chat with peerVerified := verified }.note
        (if verified then PEER_VERIFIED_TEXT else PEER_UNVERIFIED_TEXT) now)

/-- The peer said whether their device can report captures. -/
def hearCaptures (visible : Bool) (chat : Chat X) : Chat X × Bool :=
  if chat.peerCapturesSilent = some (!visible) then (chat, false)
  else ({ chat with peerCapturesSilent := some (!visible) }, true)

/-- The peer asks us to block captures, or no longer does; one older than the last is ignored. -/
def hearBlock (on : Bool) (seq now : Nat) (chat : Chat X) : Chat X × Bool :=
  let chat := chat.markAlive now
  if seq ≤ chat.peerBlockSeq then (chat, false)
  else
    let chat := { chat with peerBlockSeq := seq }
    if chat.peerBlocksCapture = some on then (chat, false)
    else chat.counted now ({ · with peerBlocksCapture := some on })

/-- The peer turned nearby on or off, or listens elsewhere; one older than the last is ignored. -/
def hearNearby (peer : PeerNearby) (now : Nat) (chat : Chat X) : Chat X × Bool :=
  let chat := chat.markAlive now
  if peer.seq ≤ chat.peerNearbySeq then (chat, false)
  else
    let chat := { chat with peerNearbySeq := peer.seq }
    if chat.peerNearbyOn = peer.on ∧ chat.peerNearby = peer.listens then (chat, false)
    else chat.counted now (fun chat =>
      let asked := peer.on && !chat.peerNearbyOn && chat.nearbyToken.isNone
      { (if asked then chat.note NEARBY_ASKED_TEXT now else chat) with
        peerNearbyOn := peer.on
        peerNearby := peer.listens })

/-- The peer renamed themselves. -/
def hearName (plaintext : Bytes) (chat : Chat X) : Chat X × Bool :=
  ({ chat with theirName := cleanDisplayName (fromUtf8Lossy plaintext) }, true)

/-- The peer's address changed. -/
def hearAddress (plaintext : Bytes) (now : Nat) (chat : Chat X) : Chat X × Bool :=
  let address := fromUtf8Lossy plaintext
  if !saneAddress address || address = chat.peerAddress then (chat, false)
  else chat.counted now (fun chat => { chat with peerAddress := address }.note ADDRESS_TEXT now)

/-- The peer told their relay set, which only an approved chat is told: our own key goes in use. -/
def hearRelaySet (plaintext : Bytes) (chat : Chat X) : Chat X × Bool :=
  match X.readRelaySet plaintext with
  | none => (chat, false)
  | some set =>
    let set := sanitizePeerSet set
    let chat :=
      { chat with
        clientKey := chat.ownKeyPending.orElse (fun _ => chat.clientKey)
        ownKeyPending := none }
    if chat.relaySet = some set then (chat, false) else ({ chat with relaySet := some set }, true)

/-- The peer told the version they run: what an older build was told is told again. -/
def hearVersion (version : String) (now : Nat) (chat : Chat X) : Chat X × Bool :=
  let chat := if versionOutdated version then chat
    else { chat with peerWireOld := false }.forgetUpgradeNotice
  if chat.peerAppVersion = some version then (chat, false)
  else if chat.peerAppVersion.isNone then ({ chat with peerAppVersion := some version }, true)
  else
    -- Each change makes us announce again, so it counts; over the allowance only the value changes.
    let heard := chat.counted now ({ · with toldCaptures := none, toldBlock := none })
    ({ heard.1 with peerAppVersion := some version }, true)

/-- Whether a version is news that makes us announce again: they had told another before. -/
def versionUpdates (version : String) (now : Nat) (chat : Chat X) : Bool :=
  let chat := if versionOutdated version then chat
    else { chat with peerWireOld := false }.forgetUpgradeNotice
  chat.peerAppVersion.isSome && chat.peerAppVersion ≠ some version && (withinAllowance chat 0 now).2

end Chat

namespace Node

/-- Opens a frame that only an approved contact may send; a ciphertext that fails is an error. -/
def openApproved (n : Node X) (sender : String) (message : WireOlm X.OlmMessage)
    (act : Node X → Bytes → Node X × Processed) : Node X × Processed :=
  match message.toOlm with
  | none => (n, .error "invalid olm message")
  | some olm => match n.chats.lookup sender with
    | none => (n, .ok none)
    | some chat =>
      if !chat.authorized then (n, .ok none)
      else match X.decrypt chat.session olm with
      | none => (n, .error "decrypt")
      | some (session, plaintext) =>
        act (n.modifyChat sender (fun chat => { chat with session := session })) plaintext

/-- Opens a frame of anyone with a chat; a ciphertext that fails is ignored. -/
def openKnown (n : Node X) (sender : String) (message : WireOlm X.OlmMessage)
    (act : Node X → Bytes → Node X × Processed) : Node X × Processed :=
  match n.chats.lookup sender, message.toOlm with
  | some chat, some olm => match X.decrypt chat.session olm with
    | none => (n, .ok none)
    | some (session, plaintext) =>
      act (n.modifyChat sender (fun chat => { chat with session := session })) plaintext
  | _, _ => (n, .ok none)

/-- Applies what an open frame changes in its chat; a change that shows is reported. -/
def hearChat (n : Node X) (sender : String) (hear : Chat X → Chat X × Bool) : Node X × Processed :=
  (n.modifyChat sender (fun chat => (hear chat).1),
    .ok (if (n.chats.lookup sender).any (fun chat => (hear chat).2) then some (sender, "") else none))

/-- Whether what an open frame changes in its chat shows. -/
def shows (n : Node X) (sender : String) (hear : Chat X → Chat X × Bool) : Bool :=
  (n.chats.lookup sender).any (fun chat => (hear chat).2)

/-- The peer's contribution to the pair's mailbox; `fresh` is ours, if we have none yet. -/
def onMailboxKey (n : Node X) (sender : String) (message : WireOlm X.OlmMessage) (fresh : Bytes)
    (now : Nat) : Node X :=
  match n.chats.lookup sender, message.toOlm with
  | some chat, some olm =>
    if !chat.authorized then n
    else match X.decrypt chat.session olm with
    | none => n
    | some (session, plaintext) =>
      let n := n.modifyChat sender (fun chat => { chat with session := session })
      match decodePayload plaintext with
      | none => n
      | some (theirs, theirConfirm) =>
        let pair := (chat.mailbox.getD { own := fresh }).heard theirs
        let proven := theirConfirm = some (X.confirmHash n.identityKey sender pair.own theirs)
        let pair := if proven then { pair with peerConfirmed := true } else pair
        let n := { n.modifyChat sender (fun chat => { chat.markAlive now with mailbox := some pair })
          with dirty := true }
        if theirConfirm.isNone || !pair.confirmSent then n.sendMailboxKey sender fresh now else n
  | _, _ => n

/-- The peer's build understands burn messages. -/
def receiveBurns (n : Node X) (sender : String) (message : WireOlm X.OlmMessage) (now : Nat) :
    Node X × Processed :=
  match n.verifyControl sender message MARK_BURNS_V1 now with
  | (n, false) => (n, .ok none)
  | (n, true) => n.hearChat sender (fun chat =>
      if chat.peerSupportsBurn = some true then (chat, false)
      else ({ chat with peerSupportsBurn := some true }, true))

/-- The contact needs to hear our nearby state again. -/
def forgetNearbyTold (n : Node X) (contact : String) : Node X :=
  { n.modifyChat contact (fun chat => { chat with toldNearbySeq := 0 }) with
    nearbyAnnounced := n.nearbyAnnounced.erase contact }

/-- The peer told the version they run. -/
def receiveVersion (n : Node X) (sender : String) (message : WireOlm X.OlmMessage) (now : Nat) :
    Node X × Processed :=
  n.openKnown sender message (fun n plaintext =>
    match readVersion plaintext with
    | none => (n, .ok none)
    | some version =>
      let updated := (n.chats.lookup sender).any (Chat.versionUpdates version now)
      let heard := n.hearChat sender (Chat.hearVersion version now)
      if updated then
        ({ heard.1 with
            capturesAnnounced := heard.1.capturesAnnounced.erase sender
            blockAnnounced := heard.1.blockAnnounced.erase sender }.forgetNearbyTold sender, heard.2)
      else heard)

/-- The peer switched server storage. -/
def receiveStorage (n : Node X) (sender : String) (message : WireOlm X.OlmMessage) (now : Nat) :
    Node X × Processed :=
  n.openApproved sender message (fun n plaintext => n.hearChat sender (Chat.hearStorage plaintext now))

/-- The peer changed the disappearing timer. -/
def receiveDisappearing (n : Node X) (sender : String) (message : WireOlm X.OlmMessage) (now : Nat) :
    Node X × Processed :=
  n.openApproved sender message
    (fun n plaintext => n.hearChat sender (Chat.hearDisappearing plaintext now))

/-- The code we joined with was spent: a request that still waits is closed. -/
def receiveCodeInUse (n : Node X) (sender : String) (now : Nat) : Node X × Processed :=
  if (n.chats.lookup sender).any (fun chat => !X.hasReceived chat.session) then
    (n.modifyChat sender (fun chat => { chat with closed := true }.note CODE_IN_USE_TEXT now),
      .ok (some (sender, "")))
  else (n, .ok none)

/-- The peer captured the conversation. -/
def receiveScreenshot (n : Node X) (sender : String) (message : WireOlm X.OlmMessage) (now : Nat) :
    Node X × Processed :=
  n.openKnown sender message (fun n plaintext => n.hearChat sender (Chat.hearScreenshot plaintext now))

/-- The peer keeps a backup of this chat. -/
def receiveBackedUp (n : Node X) (sender : String) (message : WireOlm X.OlmMessage) (now : Nat) :
    Node X × Processed :=
  match n.verifyControl sender message MARK_BACKEDUP now with
  | (n, false) => (n, .ok none)
  | (n, true) => n.hearChat sender (Chat.hearBackedUp now)

/-- The peer marked the safety number verified, or cleared that. -/
def receiveVerified (n : Node X) (sender : String) (message : WireOlm X.OlmMessage) (now : Nat) :
    Node X × Processed :=
  n.openKnown sender message (fun n plaintext => n.hearChat sender (Chat.hearVerified plaintext now))

/-- The routes of the chats with nearby on, by the peer's address. -/
def routesNearby (n : Node X) : KeyedMap String NearbyRoute :=
  n.chats.entries.foldl (fun routes e =>
    match e.2.nearbyToken with
    | some token =>
      if e.2.closed then routes
      else routes.insert e.2.peerAddress { ourToken := token, peer := e.2.peerNearby }
    | none => routes) ∅

/-- Hands the transport the current routes. -/
def pushNearbyRoutes (n : Node X) : Node X := { n with nearbyRoutes := n.routesNearby }

/-- The peer's nearby announcement. -/
def receiveNearby (n : Node X) (sender : String) (body : Bytes) (now : Nat) : Node X × Processed :=
  match parseBody body with
  | none => (n, .ok none)
  | some peer =>
    let heard := n.hearChat sender (Chat.hearNearby peer now)
    if n.shows sender (Chat.hearNearby peer now) then
      ({ heard.1 with dirty := true }.pushNearbyRoutes, heard.2)
    else heard

/-- The peer asks us to block captures: they are told again while our user's override stands. -/
def receiveBlock (n : Node X) (sender : String) (on : Bool) (seq now : Nat) : Node X × Processed :=
  let heard := n.hearChat sender (Chat.hearBlock on seq now)
  let retell := n.shows sender (Chat.hearBlock on seq now) && on
    && (n.chats.lookup sender).any (·.captureOverride)
    && (n.overrideRetold.lookup sender).all (fun told => RETELL_SECS ≤ now - told)
  if retell then
    ({ heard.1.modifyChat sender (Chat.note RETOLD_TEXT now) with
        overrideRetold := n.overrideRetold.insert sender now }.sendCaptureNotice sender
          MARK_CAPTURE_OVERRIDE_ON now, heard.2)
  else heard

/-- What the peer's device says of captures: whether it reports them, nearby, and the block. -/
def receiveCaptures (n : Node X) (sender : String) (message : WireOlm X.OlmMessage) (now : Nat) :
    Node X × Processed :=
  n.openKnown sender message (fun n plaintext =>
    if plaintext = MARK_CAPTURES_VISIBLE then n.hearChat sender (Chat.hearCaptures true)
    else match stripMark MARK_NEARBY_PREFIX plaintext with
    | some body => n.receiveNearby sender body now
    | none =>
      if plaintext = MARK_CAPTURES_SILENT then n.hearChat sender (Chat.hearCaptures false)
      else match (stripMark MARK_CAPTURE_BLOCK_PREFIX plaintext).bind readBlock with
      | some (on, seq) => n.receiveBlock sender on seq now
      | none => (n, .ok none))

/-- The peer renamed themselves. -/
def receiveName (n : Node X) (sender : String) (message : WireOlm X.OlmMessage) :
    Node X × Processed :=
  n.openApproved sender message (fun n plaintext => n.hearChat sender (Chat.hearName plaintext))

/-- The peer's address changed: they are handed a key for the new one. -/
def receiveAddress (n : Node X) (sender : String) (message : WireOlm X.OlmMessage)
    (minted : Option (String × Bytes)) (now : Nat) : Node X × Processed :=
  n.openApproved sender message (fun n plaintext =>
    let heard := n.hearChat sender (Chat.hearAddress plaintext now)
    if n.shows sender (Chat.hearAddress plaintext now) then
      (heard.1.announceClientKey sender (fromUtf8Lossy plaintext) minted now, heard.2)
    else heard)

/-- The peer told their relay set. -/
def receiveRelaySet (n : Node X) (sender : String) (message : WireOlm X.OlmMessage) :
    Node X × Processed :=
  n.openApproved sender message (fun n plaintext => n.hearChat sender (Chat.hearRelaySet plaintext))

/-- The peer handed us their key for our onion: a pending request's key waits for the decision, an
approved contact's goes to the transport. -/
def receiveClientKey (n : Node X) (sender : String) (message : WireOlm X.OlmMessage) :
    Node X × Processed :=
  n.openKnown sender message (fun n plaintext =>
    match (stripMark MARK_CLIENT_KEY_PREFIX plaintext).bind fromUtf8 with
    | none => (n, .ok none)
    | some clientKey =>
      (n.modifyChat sender (fun chat =>
          if !chat.authorized && X.validateKey clientKey then
            { chat with peerKeyPending := some clientKey } else chat), .ok none))

end Node

end Nightdrop
