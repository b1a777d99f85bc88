import Nightdrop.Lib.Sequenced
import Nightdrop.Node.Nearby
import Nightdrop.Node.Standing

/-! One contact's numbered announcements: what they change, what is sent of it, and how we hear it in any order. -/

namespace Nightdrop

variable {X : Externals}

/-- What a capture-block announcement of a device says behind its mark. -/
def blockBody (blocked : Bool) (seq : Nat) : Bytes := utf8 (if blocked then "1" else "0") ++ utf8 ":" ++ decimal seq

/-- Whether a change of a chat leaves what its contact announced by number. -/
def KeepsAnnounced (change : Chat X → Chat X) : Prop :=
  ∀ chat, (change chat).peerBlockSeq = chat.peerBlockSeq ∧ (change chat).peerBlocksCapture = chat.peerBlocksCapture
    ∧ (change chat).peerNearbySeq = chat.peerNearbySeq ∧ (change chat).peerNearbyOn = chat.peerNearbyOn
    ∧ (change chat).peerNearby = chat.peerNearby

variable (X) in
/-- The contact's device, our chat with them, what they sent, and what of it was heard. -/
structure Announcing where
  sender : Node X
  chat : Chat X
  /-- Each capture-block announcement sent, with its number. -/
  blocks : List (Nat × Bytes) := []
  /-- Each nearby announcement sent, with its number. -/
  bodies : List (Nat × Bytes) := []
  heardBlocks : List (Nat × Bool) := []
  heardNearby : List (Nat × Bool × Option (SocketAddr × String)) := []

variable (X) in
/-- One step: a change at the contact's, an announcement of it, or one that is processed here. -/
inductive Announcing.Action where
  | setBlock (blocked : Bool) (nowMs : Nat)
  | sendBlock
  | switchNearby (us : String) (on : Bool) (fresh : String) (nowMs now : Nat)
  | noteAddress (address : Option SocketAddr) (nowMs : Nat)
  | sendNearby
  /-- The announcement at a place among those sent is processed. -/
  | hearBlock (place now : Nat)
  | hearNearby (place now : Nat)
  /-- Whatever else happens in our chat, its allowance included. -/
  | others (change : {change : Chat X → Chat X // KeepsAnnounced change})

namespace Announcing

variable (us : String)

/-- The contact's chat with us. -/
def theirs (a : Announcing X) : Option (Chat X) := a.sender.chats.lookup us

/-- One step. -/
def step (a : Announcing X) : Action X → Announcing X
  | .setBlock blocked nowMs => { a with sender := a.sender.setCaptureBlock blocked nowMs }
  | .sendBlock =>
    match a.sender.captureBlock with
    | none => a
    | some blocked =>
      { a with blocks := a.blocks ++ [(a.sender.captureBlockSeq, blockBody blocked a.sender.captureBlockSeq)] }
  | .switchNearby who on fresh nowMs now =>
    { a with sender := (a.sender.switchNearby who on fresh nowMs now).getD a.sender }
  | .noteAddress address nowMs => { a with sender := a.sender.noteNearbyAddress address nowMs }
  | .sendNearby =>
    match a.theirs us with
    | none => a
    | some chat =>
      if chat.nearbySeq = 0 then a
      else { a with bodies := a.bodies ++ [(chat.nearbySeq, chat.nearbyBody a.sender.nearbyAddress)] }
  | .hearBlock place now =>
    match a.blocks[place]?.bind fun frame => readBlock frame.2 with
    | none => a
    | some (on, seq) =>
      { a with chat := (a.chat.hearBlock on seq now).1, heardBlocks := a.heardBlocks ++ [(seq, on)] }
  | .hearNearby place now =>
    match a.bodies[place]?.bind fun frame => parseBody frame.2 with
    | none => a
    | some peer =>
      { a with
        chat := (a.chat.hearNearby peer now).1
        heardNearby := a.heardNearby ++ [(peer.seq, peer.on, peer.listens)] }
  | .others change => { a with chat := change.1 a.chat }

/-- A run. -/
def run (a : Announcing X) (actions : List (Action X)) : Announcing X := actions.foldl (step us) a

/-- Whether the allowance admits a frame. -/
def Admits (chat : Chat X) (now : Nat) : Prop := ( chat.allowance.admit now 0).2 = .yes

/-- Whether what is processed in a step is admitted by the allowance, if it is new and says another value. -/
def Admitted (a : Announcing X) : Action X → Prop
  | .hearBlock place now => ∀ on seq, (a.blocks[place]?.bind fun frame => readBlock frame.2) = some (on, seq) →
    a.chat.peerBlockSeq < seq → a.chat.peerBlocksCapture ≠ some on → Admits a.chat now
  | .hearNearby place now => ∀ peer, (a.bodies[place]?.bind fun frame => parseBody frame.2) = some peer →
    a.chat.peerNearbySeq < peer.seq → ¬ (a.chat.peerNearbyOn = peer.on ∧ a.chat.peerNearby = peer.listens) →
      Admits a.chat now
  | _ => True

/-- Whether every step of a run is admitted where it happens. -/
def AllAdmitted (a : Announcing X) : List (Action X) → Prop
  | [] => True
  | action :: rest => a.Admitted action ∧ AllAdmitted (a.step us action) rest

/-- Whether what is recorded is what the highest announcement heard said, which is one. -/
structure Right (a : Announcing X) : Prop where
  block : Settled a.heardBlocks a.chat.peerBlockSeq fun on => a.chat.peerBlocksCapture = some on
  nearby : Settled a.heardNearby a.chat.peerNearbySeq fun said => a.chat.peerNearbyOn = said.1 ∧ a.chat.peerNearby = said.2
  blockApart : ∀ f ∈ a.heardBlocks, ∀ g ∈ a.heardBlocks, f.1 = g.1 → f = g
  nearbyApart : ∀ f ∈ a.heardNearby, ∀ g ∈ a.heardNearby, f.1 = g.1 → f = g

/-- A device that has announced nothing yet, and a chat that has heard nothing. -/
structure Fresh (a : Announcing X) : Prop where
  noBlocks : a.blocks = []
  noBodies : a.bodies = []
  unheard : a.heardBlocks = [] ∧ a.heardNearby = []
  numbers : a.chat.peerBlockSeq = 0 ∧ a.chat.peerNearbySeq = 0
  unset : a.sender.captureBlock = none

end Announcing
end Nightdrop
