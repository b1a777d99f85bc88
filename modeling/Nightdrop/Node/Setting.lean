import Nightdrop.Node.Control

/-! What the user sets for a chat and its contact is told: shared settings, our name, our address. -/

namespace Nightdrop

variable {X : Externals}

namespace Chat

/-- Our own change of the disappearing timer. -/
def setTimer (secs now : Nat) (chat : Chat X) : Chat X :=
  { chat with
    disappearingSecs := secs
    disappearingTimeline := chat.disappearingTimeline ++ [(now, secs)] }.note
      ("⏱️ You set disappearing messages to " ++ disappearingLabel secs ++ ".") now

/-- Our own switch of server storage, taken to work until a send finds it does not. -/
def setStorage (enabled : Bool) (now : Nat) (chat : Chat X) : Chat X :=
  { chat with
    remoteStorage := enabled
    storageTimeline := chat.storageTimeline ++ [(now, enabled)]
    remoteStorageHealthy := true }

end Chat

/-- The name a chat shows us by: blank is no name. -/
def resolveName (name : String) : String := if trimText name = "" then DEFAULT_NAME else trimText name

namespace Node

/-- A change made in a chat at once, and the frame that tells a live contact of it. -/
def changeAndSeal (n : Node X) (contact : String) (change : Chat X → Chat X) (payload : Bytes)
    (carrier : SealedKind) : Node X × Except String (Option (String × Frame X.OlmMessage)) :=
  match n.chats.lookup contact with
  | none => (n, .error "unknown contact")
  | some chat =>
    let n := n.modifyChat contact change
    if chat.authorized && !chat.closed then
      match n.authedControl contact payload carrier with
      -- The change stays made where the session cannot seal.
      | none => (n, .error "encrypt: the peer's ratchet key is unusable")
      | some (n, address, frame) => (n, .ok (some (address, frame)))
    else (n, .ok none)

/-- Makes a change and sends the frame that tells of it; whether it arrives is nobody's concern. -/
def changeAndTell (n : Node X) (contact : String) (change : Chat X → Chat X) (payload : Bytes)
    (carrier : SealedKind) (done : OutboundDone X) (now : Nat) : Node X × Except String Unit :=
  match n.changeAndSeal contact change payload carrier with
  | (n, .error reason) => (n, .error reason)
  | (n, .ok none) => (n, .ok ())
  | (n, .ok (some (address, frame))) => (n.deliverWith address contact frame false done now, .ok ())

/-- Sets this chat's disappearing timer, on both devices; 0 is off. -/
def setDisappearing (n : Node X) (contact : String) (secs now : Nat) : Node X × Except String Unit :=
  n.changeAndTell contact (Chat.setTimer secs now) (decimal secs) .disappearing (.caller none) now

/-- Our relay list is empty. -/
def directOnly (n : Node X) : Bool := n.relays = []

/-- Whether server storage can work in this chat: it needs relays on both sides. -/
def serverStorageAvailable (n : Node X) (contact : String) : Bool :=
  !n.directOnly && ((n.chats.lookup contact).bind (·.relaySet)).any
    (fun set => set.nightdrop || set.relays ≠ [])

/-- Switches server storage for a chat, on both devices. -/
def setRemoteStorage (n : Node X) (contact : String) (enabled : Bool) (now : Nat) :
    Node X × Except String Unit :=
  if enabled && !n.serverStorageAvailable contact then
    (n, .error (if n.directOnly then "server storage needs a relay, and you are on direct only"
      else "server storage needs a relay on both sides, and this contact has none"))
  else
    n.changeAndTell contact (Chat.setStorage enabled now) (utf8 (if enabled then "on" else "off"))
      .storage .nothing now

/-- Sets the name a contact sees us by. -/
def setMyName (n : Node X) (contact name : String) (now : Nat) : Node X × Except String Unit :=
  n.changeAndTell contact ({ · with myName := resolveName name }) (utf8 (resolveName name)) .name
    .nothing now

/-- Tells one chat the address we listen on. -/
def sendAddressTo (n : Node X) (contact : String) (now : Nat) : Node X :=
  let n := { n with addressAnnounced := n.addressAnnounced.insert contact n.address }
  match n.authedControl contact (utf8 n.address) .address with
  | none => { n with addressAnnounced := n.addressAnnounced.erase contact }
  | some (n, address, frame) => n.deliverWith address contact frame false (.announced .address contact) now

end Node

end Nightdrop
