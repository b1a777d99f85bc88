import Nightdrop.Node.Announce
import Nightdrop.Node.Control

/-! The nearby switch of each chat, what the contact is told of it, and the tick that keeps it so. -/

namespace Nightdrop

variable {X : Externals}

def NEARBY_ON_TEXT : String :=
  "📶 You turned on \"Also connect on the same Wi-Fi\". They were told; it is used once they turn it " ++
    "on too and you are on the same network."

def NEARBY_OFF_TEXT : String :=
  "📶 You turned off \"Also connect on the same Wi-Fi\". They were told."

/-- A dotted address. -/
def Ipv4.text (ip : Ipv4) : Bytes :=
  decimal ip.a.toNat ++ utf8 "." ++ decimal ip.b.toNat ++ utf8 "." ++ decimal ip.c.toNat ++ utf8 "."
    ++ decimal ip.d.toNat

/-- The announcement of our nearby state in a chat. -/
def Chat.nearbyBody (chat : Chat X) (address : Option SocketAddr) : Bytes :=
  match chat.nearbyToken, address with
  | none, _ => decimal chat.nearbySeq ++ utf8 ":0"
  | some _, none => decimal chat.nearbySeq ++ utf8 ":1"
  | some token, some listens =>
    decimal chat.nearbySeq ++ utf8 ":1:" ++ listens.ip.text ++ utf8 ":" ++ decimal listens.port.toNat
      ++ utf8 ":" ++ utf8 token

namespace Node

/-- Tells one chat whether nearby is on here, and where we listen. -/
def announceNearbyTo (n : Node X) (contact : String) (now : Nat) : Node X :=
  match n.chats.lookup contact with
  | none => n
  | some chat =>
    n.announce contact (.nearby chat.nearbySeq) .captures
      (MARK_NEARBY_PREFIX ++ chat.nearbyBody n.nearbyAddress)
      (fun n => { n with nearbyAnnounced := n.nearbyAnnounced.insert contact chat.nearbySeq }) now

/-- Whether a contact is still to be told our nearby state. -/
def nearbyDue (n : Node X) (now : Nat) (contact : String) (chat : Chat X) : Bool :=
  chat.authorized && !chat.closed && chat.toldNearbySeq < chat.nearbySeq
    && (n.nearbyAnnounced.lookup contact).isNone && n.mayRetry contact now

/-- Notices where the transport listens now: a change is announced to every chat with nearby on. -/
def noteNearbyAddress (n : Node X) (address : Option SocketAddr) (nowMs : Nat) : Node X :=
  if address = n.nearbyAddress then n
  else
    { n.mapChats (fun chat =>
        if chat.nearbyToken.isSome then { chat with nearbySeq := max nowMs (chat.nearbySeq + 1) }
        else chat) with
      nearbyAddress := address
      nearbyAnnounced := ∅
      dirty := true }

/-- Every tick: the transport is handed the routes, whose `address` it then says, and every contact
that has not confirmed ours is told. -/
def nearbyTick (n : Node X) (address : Option SocketAddr) (nowMs now : Nat) : Node X :=
  let n := n.pushNearbyRoutes.noteNearbyAddress address nowMs
  let due := (n.chats.entries.filter (fun e => n.nearbyDue now e.1 e.2)).map (·.1)
  due.foldl (fun n contact => n.announceNearbyTo contact now) n

/-- Turns nearby on or off in an approved, open chat, under a fresh token each time it goes on;
`none` if there is nothing to change. -/
def switchNearby (n : Node X) (contact : String) (on : Bool) (fresh : String) (nowMs now : Nat) :
    Option (Node X) :=
  match n.chats.lookup contact with
  | none => none
  | some chat =>
    if chat.closed || !chat.authorized then none
    else if chat.nearbyToken.isSome = on then none
    else
      let n := n.modifyChat contact (fun chat =>
        { chat with
          nearbyToken := if on then some fresh else none
          nearbySeq := max nowMs (chat.nearbySeq + 1) }.note
            (if on then NEARBY_ON_TEXT else NEARBY_OFF_TEXT) now)
      some { n with nearbyAnnounced := n.nearbyAnnounced.erase contact, dirty := true }

end Node

end Nightdrop
