import Nightdrop.Nearby.Transport
import Nightdrop.Node.Nearby
import Nightdrop.Node.Pairing
import Nightdrop.Node.Process

/-! A device on a local network: its core, the local side of its transport, and what each step does. -/

namespace Nightdrop

variable (X : Externals)

/-- A device and the local side of its transport; the core keeps the routes the transport was given. -/
structure LocalWorld where
  node : Node X
  net : LocalNet

/-- One step of a device on a local network. -/
inductive LocalEvent where
  /-- A frame arrives by any path: an announcement, a closing, a pairing or anything else. -/
  | receive (fromAddress : Option String) (bytes : Envelope X.OlmMessage) (inputs : Node.FrameInputs)
      (bound : Option UInt16) (now : Nat)
  /-- The user turns nearby on or off in one chat. -/
  | setNearby (contact : String) (on : Bool) (fresh : String) (bound : Option UInt16) (nowMs now : Nat)
  | tick (bound : Option UInt16) (nowMs now : Nat)
  | deleteChat (contact : String) (now : Nat)
  /-- Anything else the core does: it may close, move, open or drop chats. -/
  | core
  /-- The app lists the interfaces. -/
  | setLocalAddresses (interfaces : List (String × Ipv4))
  /-- The system's default route changes. -/
  | reroute (address : Option Ipv4)
  /-- A frame is handed to the transport for a peer. -/
  | send (peer : String) (answer : Option Bytes) (wrote : Bool) (now : Nat)
  /-- A probe runs. -/
  | probe (peer : String) (answer : Option Bytes) (now : Nat)
  /-- Someone connects and presents a token. -/
  | accept (source : Ipv4) (hello : Bytes) (c : Connection) (now : Nat)
  /-- A served connection looks whether it must stop, and then waits for a frame. -/
  | await (c : Connection)
  /-- The frame it waited for is handed to the core. -/
  | deliver (c : Connection) (now : Nat)
  /-- A served connection ends. -/
  | hangUp (c : Connection)

variable {X}

/-- An address the contact may have us dial, announced by a contact whose nearby is on. -/
def Chat.Located (chat : Chat X) : Prop :=
  ∀ listens, chat.peerNearby = some listens → chat.peerNearbyOn = true ∧ Dialable listens

/-- Every peer's place is one they may have us dial. -/
def Node.Located (n : Node X) : Prop :=
  ∀ contact chat, n.chats.lookup contact = some chat → chat.Located

namespace LocalWorld

/-- The core hands the transport its current routes. -/
def pushed (w : LocalWorld X) (bound : Option UInt16) : LocalNet :=
  w.net.setNearby w.node.routesNearby bound

/-- One round of the nearby tick: routes, probes, and what the contacts are told. -/
def tick (w : LocalWorld X) (bound : Option UInt16) (nowMs now : Nat) : LocalWorld X :=
  let net := (w.pushed bound).startProbes w.node.routesNearby now
  { node := w.node.nearbyTick net.address nowMs now, net := net }

/-- Turns nearby on or off in a chat, which ends with a tick. -/
def setNearby (w : LocalWorld X) (contact : String) (on : Bool) (fresh : String)
    (bound : Option UInt16) (nowMs now : Nat) : LocalWorld X :=
  match w.node.switchNearby contact on fresh nowMs now with
  | none => w
  | some n => { w with node := n }.tick bound nowMs now

end LocalWorld

/-- What each step does. -/
inductive LocalStep (w : LocalWorld X) : LocalEvent X → LocalWorld X → Prop where
  | receive {fromAddress : Option String} {bytes : Envelope X.OlmMessage} {inputs : Node.FrameInputs}
      {bound : Option UInt16} {now : Nat} {n : Node X} {net : LocalNet}
      (taken : n = (w.node.takeIn fromAddress bytes inputs now).1)
      -- Routes are handed over only when an announcement changed them.
      (routed : n.nearbyRoutes = w.node.nearbyRoutes ∧ net = w.net
        ∨ net = w.net.setNearby n.nearbyRoutes bound) :
      LocalStep w (.receive fromAddress bytes inputs bound now) { node := n, net := net }
  | setNearby {contact : String} {on : Bool} {fresh : String} {bound : Option UInt16}
      {nowMs now : Nat} :
      LocalStep w (.setNearby contact on fresh bound nowMs now)
        (w.setNearby contact on fresh bound nowMs now)
  | tick {bound : Option UInt16} {nowMs now : Nat} :
      LocalStep w (.tick bound nowMs now) (w.tick bound nowMs now)
  | deleteChat {contact : String} {now : Nat} {n : Node X}
      (deleted : w.node.deleteChat contact now = .ok n) :
      LocalStep w (.deleteChat contact now) { w with node := n }
  | core {n : Node X} (located : w.node.Located → n.Located)
      (routes : n.nearbyRoutes = w.node.nearbyRoutes) : LocalStep w .core { w with node := n }
  | setLocalAddresses {interfaces : List (String × Ipv4)} :
      LocalStep w (.setLocalAddresses interfaces)
        { w with net := { w.net with interfaces := some interfaces } }
  | reroute {address : Option Ipv4} :
      LocalStep w (.reroute address) { w with net := { w.net with defaultRoute := address } }
  | send {peer : String} {answer : Option Bytes} {wrote : Bool} {now : Nat} :
      LocalStep w (.send peer answer wrote now)
        { w with net := (w.net.send w.node.nearbyRoutes peer answer wrote now).1 }
  | probe {peer : String} {answer : Option Bytes} {now : Nat} (running : peer ∈ w.net.probing) :
      LocalStep w (.probe peer answer now)
        { w with net := w.net.probe w.node.nearbyRoutes peer answer now }
  | accept {source : Ipv4} {hello : Bytes} {c : Connection} {now : Nat}
      (accepted : w.net.accept w.node.nearbyRoutes source hello = some c) :
      LocalStep w (.accept source hello c now)
        { w with net := { w.net.record c.onion true now with
            connections := w.net.connections ++ [c] } }
  | await {front back : List Connection} {c : Connection}
      (served : w.net.connections = front ++ c :: back) (running : c.halted = false)
      (idle : c.reading = false) :
      LocalStep w (.await c)
        { w with net := { w.net with
            connections := front ++ { c with reading := true } :: back } }
  | deliver {front back : List Connection} {c : Connection} {now : Nat}
      (served : w.net.connections = front ++ c :: back) (reading : c.reading = true) :
      LocalStep w (.deliver c now)
        { w with net := { w.net with
            connections := front ++ { c with reading := false } :: back
            reachable := w.net.reachable.insert c.onion now } }
  | hangUp {front back : List Connection} {c : Connection}
      (served : w.net.connections = front ++ c :: back) :
      LocalStep w (.hangUp c) { w with net := { w.net with connections := front ++ back } }

end Nightdrop
