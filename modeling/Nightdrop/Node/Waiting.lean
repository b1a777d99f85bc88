import Nightdrop.Node.Flood
import Nightdrop.Proofs.Node.Unread

/-! One attachment's notices and frames, processed in any order among whatever else happens. -/

namespace Nightdrop

variable {X : Externals}

/-- The entries of one transfer. -/
def entriesOf (transferId : String) (history : List ChatMessage) : List ChatMessage :=
  history.filter (·.transferId = transferId)

/-- Whether a handler reports something to show. -/
def Processed.shows : Processed → Bool
  | .ok (some _) => true
  | _ => false

/-- Whether a handler ends without an error. -/
def Processed.ended : Processed → Bool
  | .ok _ => true
  | .error _ => false

namespace Node

/-- What a frame of an approved contact says once it is opened. -/
def openedBy (n : Node X) (sender : String) (message : WireOlm X.OlmMessage) : Option Bytes :=
  if (n.chats.lookup sender).any (·.authorized) then (n.opens sender message).map (·.2) else none

/-- The entries of a transfer in a chat. -/
def transferEntries (n : Node X) (contact transferId : String) : List ChatMessage :=
  entriesOf transferId (n.historyOf contact)

/-- Whether a notice is about the transfer. -/
def announces (n : Node X) (contact transferId : String) (message : WireOlm X.OlmMessage) : Bool :=
  ((n.openedBy contact message).bind fun plaintext => (unpackMediaIncoming plaintext).toOption).any (·.1 = transferId)

/-- Whether an attachment is of the transfer. -/
def carries (n : Node X) (contact transferId : String) (message : WireOlm X.OlmMessage) : Bool :=
  ((n.openedBy contact message).bind fun plaintext => (unpackMedia plaintext).toOption).any (·.1 = transferId)

/-- Whether a change of the device leaves the entries of a transfer in a chat. -/
def LeavesTransfer (contact transferId : String) (change : Node X → Node X) : Prop :=
  ∀ n, (change n).transferEntries contact transferId = n.transferEntries contact transferId

end Node

variable (X) in
/-- A device, and what was processed of one transfer. -/
structure Waiting where
  node : Node X
  /-- An attachment of the transfer was stored. -/
  stored : Bool := false
  /-- A notice was shown, and no attachment of the transfer was stored or refused since. -/
  waiting : Bool := false

variable (X) in
/-- One step: a notice, an attachment (each under a fresh id, if the store takes it), or anything else. -/
inductive Waiting.Action (contact transferId : String) where
  | notice (message : WireOlm X.OlmMessage) (inputs : Node.FrameInputs) (named : inputs.mediaId ≠ some "") (now : Nat)
  | media (message : WireOlm X.OlmMessage) (inputs : Node.FrameInputs) (named : inputs.mediaId ≠ some "") (now : Nat)
  | others (change : {change : Node X → Node X // Node.LeavesTransfer contact transferId change})

namespace Waiting

variable {contact transferId : String}

/-- One step. -/
def step (w : Waiting X) : Action X contact transferId → Waiting X
  | .notice message inputs _ now =>
    let did := w.node.receiveMediaIncoming contact message inputs now
    { w with
      node := did.1
      waiting := w.waiting || (w.node.announces contact transferId message && did.2.shows) }
  | .media message inputs _ now =>
    let did := w.node.receiveMedia contact message inputs now
    { node := did.1
      stored := w.stored || (w.node.carries contact transferId message && did.2.shows)
      waiting := w.waiting && !(w.node.carries contact transferId message && did.2.ended) }
  | .others change => { w with node := change.1 w.node }

/-- A run. -/
def run (w : Waiting X) (actions : List (Action X contact transferId)) : Waiting X := actions.foldl step w

/-- Whether a notice of the transfer is processed only while the chat shows no entry of it. -/
def Timely (w : Waiting X) : Action X contact transferId → Prop
  | .notice message _ _ _ => w.node.announces contact transferId message = true → w.node.transferEntries contact transferId = []
  | _ => True

/-- Whether every step of a run is timely where it happens. -/
def AllTimely (w : Waiting X) : List (Action X contact transferId) → Prop
  | [] => True
  | action :: rest => w.Timely action ∧ AllTimely (w.step action) rest

variable (contact transferId) in
/-- Whether the chat shows one entry of the transfer: the attachment once it was stored, or else its placeholder while it is awaited. -/
structure Right (w : Waiting X) : Prop where
  stored : w.stored = true → ∃ m, w.node.transferEntries contact transferId = [m] ∧ m.mediaId ≠ ""
  awaited : w.stored = false → w.waiting = true → ∃ m, w.node.transferEntries contact transferId = [m] ∧ m.mediaId = ""
  idle : w.stored = false → w.waiting = false → w.node.transferEntries contact transferId = []

variable (contact transferId) in
/-- A transfer of which nothing was processed yet. -/
structure Fresh (w : Waiting X) : Prop where
  named : transferId ≠ ""
  none' : w.node.transferEntries contact transferId = []
  unstored : w.stored = false
  unawaited : w.waiting = false

end Waiting
end Nightdrop
