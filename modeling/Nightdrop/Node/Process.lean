import Nightdrop.Node.Attach

/-! The dispatcher: every frame to its handler, and an envelope taken in once. -/

namespace Nightdrop

variable {X : Externals}

namespace Node

/-- Processes one sealed frame: a sender and a ciphertext. -/
def processSealed (n : Node X) (kind : SealedKind) (sender : String) (message : WireOlm X.OlmMessage)
    (inputs : FrameInputs) (now : Nat) : Node X × Processed :=
  match kind with
  | .edit => n.receiveEdit sender message now
  | .unsend => n.receiveUnsend sender message now
  | .burnMedia => n.receiveBurnMedia sender message inputs now
  | .viewed => n.receiveViewed sender message
  | .storage => n.receiveStorage sender message now
  | .disappearing => n.receiveDisappearing sender message now
  | .closed => n.receiveClosed sender message now
  | .backedUp => n.receiveBackedUp sender message now
  | .verified => n.receiveVerified sender message now
  | .captures => n.receiveCaptures sender message now
  | .burns => n.receiveBurns sender message now
  | .mailboxKey => (n.onMailboxKey sender message inputs.fresh now, .ok none)
  | .ack => n.receiveAck sender message now
  | .name => n.receiveName sender message
  | .address => n.receiveAddress sender message inputs.minted now
  | .relaySet => n.receiveRelaySet sender message
  | .version => n.receiveVersion sender message now
  | .clientKeySealed => n.receiveClientKey sender message
  | .media => n.receiveMedia sender message inputs now
  | .mediaIncoming => n.receiveMediaIncoming sender message inputs now
  | .screenshot => n.receiveScreenshot sender message now
  | .delivered => n.receiveDelivered sender message now

/-- Processes one frame, whether it came from the transport or out of a relay mailbox. -/
def processFrame (n : Node X) (fromAddress : Option String) (frame : Frame X.OlmMessage)
    (inputs : FrameInputs) (now : Nat) : Node X × Processed :=
  let n := { n with dirty := true }
  match frame with
  | .hello contact address message =>
    n.receiveHello fromAddress contact address message inputs.toPairingInputs now
  | .message sender id message => n.receiveMessage sender id message now
  | .burn sender id message => n.receiveBurn sender id message now
  | .sealed kind sender message => n.processSealed kind sender message inputs now
  | .approved sender _ => n.receiveApproved sender now
  | .codeInUse sender _ => n.receiveCodeInUse sender now
  -- An unsealed client key only claims its sender; the short-code exchange runs elsewhere.
  | .pake _ | .cover _ | .clientKey _ _ => (n, .ok none)

/-- The frames whose second copy cannot be decrypted: those that carry user content. -/
def isUserFrame : Frame X.OlmMessage → Bool
  | .message _ _ _ | .sealed .media _ _ | .sealed .mediaIncoming _ _ | .edit _ _ | .unsend _ _ => true
  | _ => false

/-- Whether a frame has been taken in before, by either path; it is remembered if not. -/
def isDuplicateUserFrame (n : Node X) (frame : Frame X.OlmMessage) (bytes : Envelope X.OlmMessage) :
    Node X × Bool :=
  if !isUserFrame frame then (n, false)
  else
    let n := if 8192 < n.seenFrames.length then { n with seenFrames := [] } else n
    if bytes ∈ n.seenFrames then (n, true)
    else ({ n with seenFrames := n.seenFrames ++ [bytes] }, false)

/-- Takes in one envelope, from the transport or a relay. -/
def takeIn (n : Node X) (fromAddress : Option String) (bytes : Envelope X.OlmMessage)
    (inputs : FrameInputs) (now : Nat) : Node X × Processed :=
  match decode bytes with
  | none => match legacySender bytes with
    | some sender => (n.noteLegacyFrame sender, .ok none)
    | none => (n, .ok none)
  | some frame => match n.isDuplicateUserFrame frame bytes with
    | (n, true) => (n, .ok none)
    | (n, false) => n.processFrame fromAddress frame inputs now

end Node

end Nightdrop
