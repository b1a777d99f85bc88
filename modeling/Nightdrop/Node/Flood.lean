import Nightdrop.Lib.Surplus
import Nightdrop.Node.Process
import Nightdrop.Proofs.Node.Unread

/-! What the frames of one contact add to this device: entries, notices and attachments. -/

namespace Nightdrop

variable {X : Externals}

namespace ChatMessage

/-- What an entry is told apart by, whatever is changed in it: who wrote it, when, and under which ids. -/
def key (m : ChatMessage) : Bool × Bool × Nat × String × String :=
  (m.fromMe, m.system, m.stamp, m.msgId, m.transferId)

/-- The notice that a contact is past their allowance. -/
def isOverAllowance (m : ChatMessage) : Bool := m.system && m.text = OVER_ALLOWANCE_NOTICE

end ChatMessage

/-- The frames that count against the daily allowance of their sender, if they say anything new. -/
def Frame.counts {M : Type} : Frame M → Bool
  | .message _ _ _ | .burn _ _ _ => true
  | .sealed kind _ _ => kind ∈ [SealedKind.media, .mediaIncoming, .burnMedia, .storage, .disappearing,
      .verified, .screenshot, .captures, .address, .version]
  | _ => false

namespace Node

/-- The conversation with a contact. -/
def historyOf (n : Node X) (contact : String) : List ChatMessage :=
  ((n.chats.lookup contact).map (·.history)).getD []

/-- A contact's use of their daily allowance. -/
def allowanceOf (n : Node X) (contact : String) : Allowance :=
  ((n.chats.lookup contact).map (·.allowance)).getD {}

/-- How many entries the conversations of a device gained. -/
def entriesAdded (n n' : Node X) : Nat :=
  KeyedMap.total (fun contact chat => surplus ChatMessage.key (n.historyOf contact) chat.history) n'.chats

/-- How many notices of an allowance used up the conversations gained. -/
def noticesAdded (n n' : Node X) : Nat :=
  KeyedMap.total (fun contact chat => chat.history.countP ChatMessage.isOverAllowance
    - (n.historyOf contact).countP ChatMessage.isOverAllowance) n'.chats

/-- What a frame carries to be sealed at rest: an attachment, or the preview of one. -/
def attachmentOf (n : Node X) (frame : Frame X.OlmMessage) : Bytes :=
  match frame with
  | .sealed .media sender message =>
    ((n.opens sender message).map (fun opened => match unpackMedia opened.2 with
      | .ok (_, _, data) => data
      | .error _ => [])).getD []
  | .sealed .burnMedia sender message =>
    ((n.opens sender message).map (fun opened => match unpackBurnMedia opened.2 with
      | .ok (_, _, _, data) => data
      | .error _ => [])).getD []
  | .sealed .mediaIncoming sender message =>
    ((n.opens sender message).map (fun opened => match unpackMediaIncoming opened.2 with
      | .ok (_, _, thumb) => if MAX_THUMB_BYTES < thumb.length then [] else thumb
      | .error _ => [])).getD []
  | _ => []

/-- How many bytes of a frame are stored if it makes this of the device. -/
def bytesStored (n n' : Node X) (bytes : Envelope X.OlmMessage) : Nat :=
  if n'.media = n.media then 0 else (((decode bytes).map n.attachmentOf).getD []).length

/-- Whether a frame is from whom it claims: its ciphertext opens on their session, or opens one. -/
def authentic (n : Node X) (bytes : Envelope X.OlmMessage) : Bool :=
  match decode bytes with
  | some (.hello sender _ message) => (message.toOlm.bind (X.acceptInbound n.account sender)).isSome
  | some (.message sender _ message) | some (.burn sender _ message) | some (.sealed _ sender message) =>
    (n.opens sender message).isSome
  | _ => false

end Node

variable (X) in
/-- A frame as it reaches the device. -/
structure Hearing where
  fromAddress : Option String := none
  bytes : Envelope X.OlmMessage
  inputs : Node.FrameInputs := {}
  now : Nat

variable (X) in
/-- A device, and what a run of frames added to it so far. -/
structure Flood where
  node : Node X
  entries : Nat := 0
  /-- The notices of an allowance used up, among the entries. -/
  notices : Nat := 0
  /-- The bytes of attachments that were stored. -/
  stored : Nat := 0
  /-- The entries that frames added which fail authentication. -/
  unproven : Nat := 0

namespace Flood

/-- One frame more. -/
def step (s : Flood X) (a : Hearing X) : Flood X :=
  let n := (s.node.takeIn a.fromAddress a.bytes a.inputs a.now).1
  { node := n
    entries := s.entries + s.node.entriesAdded n
    notices := s.notices + s.node.noticesAdded n
    stored := s.stored + s.node.bytesStored n a.bytes
    unproven := s.unproven + if s.node.authentic a.bytes then 0 else s.node.entriesAdded n }

/-- A run of frames, in order. -/
def run (s : Flood X) (arrivals : List (Hearing X)) : Flood X := arrivals.foldl step s

/--
Whether a frame of a contact adds nothing that is not counted, given their allowance when the run began: what
it counts against is not a window other than the one the run used before; it does not pair again with a chat
that is there; and it does not report a spent code for a chat that is closed already.
-/
def Counted (whom : String) (base : Allowance) (s : Flood X) (a : Hearing X) : Prop :=
  ∀ chat, s.node.chats.lookup whom = some chat →
    ((decode a.bytes).any Frame.counts = true →
      chat.allowance = base ∨ chat.allowance.current a.now = chat.allowance)
    ∧ (∀ address message, decode a.bytes = some (.hello whom address message) →
      s.node.authentic a.bytes = false)
    ∧ ∀ code, decode a.bytes = some (.codeInUse whom code) → chat.closed = true →
      X.hasReceived chat.session = true

/-- Whether every frame of a run is counted where it arrives. -/
def AllCounted (whom : String) (base : Allowance) (s : Flood X) : List (Hearing X) → Prop
  | [] => True
  | a :: rest => s.Counted whom base a ∧ (s.step a).AllCounted whom base rest

end Flood

end Nightdrop
