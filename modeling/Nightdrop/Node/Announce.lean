import Nightdrop.Node.Queue

/-! The standing announcements about this device, each sealed, flagged as on its way, and sent. -/

namespace Nightdrop

variable {X : Externals}

def MARK_CLOSED : Bytes := utf8 "nightdrop/ctl/closed/v1"
def MARK_ACK : Bytes := utf8 "nightdrop/ctl/ack/v1"
def MARK_BURNS_V1 : Bytes := utf8 "nightdrop/ctl/burns/v1"
def MARK_VERSION_PREFIX : Bytes := utf8 "nightdrop/ctl/version/v1:"
def MARK_CLIENT_KEY_PREFIX : Bytes := utf8 "nightdrop/ctl/client-key/v1:"
def MARK_CAPTURES_VISIBLE : Bytes := utf8 "nightdrop/ctl/captures-visible/v1"
def MARK_CAPTURES_SILENT : Bytes := utf8 "nightdrop/ctl/captures-silent/v1"
def MARK_CAPTURE_BLOCK_PREFIX : Bytes := utf8 "nightdrop/ctl/capture-block/v1:"
def MARK_MAILBOX_V2 : Bytes := utf8 "nightdrop/ctl/mailbox/v2"

/-- The set a relay list stands for. -/
def RelaySet.of (entries : List RelayEntry) : RelaySet :=
  entries.foldl (fun set entry =>
    match entry with
    | .nightDrop => { set with nightdrop := true }
    | .onion addr => if addr ∈ set.relays then set else { set with relays := set.relays ++ [addr] })
    {}

/-- The payload of a mailbox agreement frame: our contribution, and our confirmation if any. -/
def encodePayload (own : Bytes) (confirm : Option Bytes) : Bytes :=
  MARK_MAILBOX_V2 ++ own ++ confirm.getD []

namespace Node

/-- Our relay set, as contacts are told it. -/
def myRelaySet (n : Node X) : RelaySet := .of n.relays

/-- Seals an announcement, raises its flag and sends it. -/
def announce (n : Node X) (contact : String) (kind : Announce) (carrier : SealedKind)
    (marker : Bytes) (raise : Node X → Node X) (now : Nat) : Node X :=
  match n.authedControl contact marker carrier with
  | none => n
  | some (n, address, frame) =>
    (raise n).deliverWith address contact frame false (.announced kind contact) now

/-- Tells one chat that this build understands burn messages. -/
def announceBurnsTo (n : Node X) (contact : String) (now : Nat) : Node X :=
  n.announce contact .burns .burns MARK_BURNS_V1
    (fun n => { n with burnsAnnounced := n.burnsAnnounced ++ [contact] }) now

/-- Tells one chat our app version. -/
def announceVersionTo (n : Node X) (contact : String) (now : Nat) : Node X :=
  match n.appVersion with
  | none => n
  | some version =>
    n.announce contact .version .version (MARK_VERSION_PREFIX ++ utf8 version)
      (fun n => { n with versionAnnounced := n.versionAnnounced.insert contact version }) now

/-- Tells one chat whether this device can report screenshots. -/
def announceCapturesTo (n : Node X) (contact : String) (now : Nat) : Node X :=
  match n.capturesVisible with
  | none => n
  | some visible =>
    n.announce contact .captures .captures
      (if visible then MARK_CAPTURES_VISIBLE else MARK_CAPTURES_SILENT)
      (fun n => { n with capturesAnnounced := n.capturesAnnounced.insert contact visible }) now

/-- Tells one chat whether this device blocks captures. -/
def announceBlockTo (n : Node X) (contact : String) (now : Nat) : Node X :=
  match n.captureBlock with
  | none => n
  | some blocked =>
    let value := utf8 (if blocked then "1" else "0") ++ utf8 ":" ++ decimal n.captureBlockSeq
    n.announce contact (.block blocked) .captures (MARK_CAPTURE_BLOCK_PREFIX ++ value)
      (fun n => { n with blockAnnounced := n.blockAnnounced.insert contact blocked }) now

/-- Tells one chat our relay set, unless it has confirmed it or hears it already. -/
def announceRelaySetTo (n : Node X) (contact : String) (now : Nat) : Node X :=
  let mine := n.myRelaySet
  match n.chats.lookup contact with
  | none => n
  | some chat =>
    if !chat.authorized || chat.closed || chat.relaysTold = some mine
        || (n.relaySetInFlight.lookup contact).isSome then n
    else
      n.announce contact .relaySet .relaySet (X.writeRelaySet mine)
        (fun n => { n with relaySetInFlight := n.relaySetInFlight.insert contact mine }) now

/-- Sends our contribution to a pair's mailbox, with our confirmation once we hold theirs; `fresh`
is the random contribution of a pair that has none yet. -/
def sendMailboxKey (n : Node X) (contact : String) (fresh : Bytes) (now : Nat) : Node X :=
  if (n.relaysBetween contact).1.isNone && (n.relaysBetween contact).2 = [] then n
  else match n.chats.lookup contact with
  | none => n
  | some chat =>
    if !chat.authorized || chat.closed then n
    else
      let pair := chat.mailbox.getD { own := fresh }
      let confirm := pair.peer.map (X.confirmHash n.identityKey contact pair.own)
      let n := { n.modifyChat contact (fun chat => { chat with mailbox := some pair }) with
        dirty := n.dirty || chat.mailbox.isNone }
      match n.authedControl contact (encodePayload pair.own confirm) .mailboxKey with
      | none => n
      | some (n, address, frame) =>
        let n := { n.modifyChat contact (fun chat => { chat with
            mailbox := some { pair with confirmSent := pair.confirmSent || confirm.isSome } }) with
          dirty := true }
        n.deliverWith address contact frame false (.announced .mailbox contact) now

/-- Hands a contact the key we reach its onion with; `minted` is what the transport made of one. -/
def announceClientKey (n : Node X) (contact peerAddress : String)
    (minted : Option (String × Bytes)) (now : Nat) : Node X :=
  match minted with
  | none => n
  | some (clientKey, secret) =>
    let n := { n.modifyChat contact (fun chat => { chat with clientKey := some secret }) with
      dirty := n.dirty || (n.chats.lookup contact).isSome }
    match n.authedControl contact (MARK_CLIENT_KEY_PREFIX ++ utf8 clientKey) .clientKeySealed with
    | none => n
    | some (n, _, frame) => n.deliverWith peerAddress contact frame false .nothing now

/-- Sends a contact a capture notice, held until a copy lands. -/
def sendCaptureNotice (n : Node X) (contact : String) (marker : Bytes) (now : Nat) : Node X :=
  match n.authedControl contact marker .screenshot with
  | none => n
  | some (n, address, frame) =>
    let set := ((n.chats.lookup contact).bind (·.relaySet)).getD {}
    n.queuePendingControl
      { recipientIk := contact
        peerAddress := address
        relays := set.relays
        nightdrop := set.nightdrop
        bytes := encode frame
        handle := (n.postHandle contact now).getD "" }
      .directThenRelay

/-- What a contact just accepted, or just paired with, is told about this device. -/
def announceStanding (n : Node X) (contact : String) (now : Nat) : Node X :=
  (((n.announceCapturesTo contact now).announceBlockTo contact now).announceBurnsTo contact
    now).announceVersionTo contact now

/-- Whether a control frame is genuine: it decrypts on the sender's session to its marker. -/
def verifyControl (n : Node X) (sender : String) (message : WireOlm X.OlmMessage) (marker : Bytes)
    (now : Nat) : Node X × Bool :=
  match n.chats.lookup sender, message.toOlm with
  | some chat, some olm => match X.decrypt chat.session olm with
    | none => (n, false)
    | some (session, plaintext) =>
      if plaintext = marker then
        (n.modifyChat sender (fun chat => { chat with session := session }.markAlive now), true)
      else (n.modifyChat sender (fun chat => { chat with session := session }), false)
  | _, _ => (n, false)

end Node

end Nightdrop
