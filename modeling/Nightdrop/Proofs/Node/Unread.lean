import Nightdrop.Node.Process
import Nightdrop.Proofs.Node.Keeps

/-! Frames that do not open on the session of the contact they claim: processing one does nothing. -/

namespace Nightdrop

variable {X : Externals}

namespace Node

/-- What a ciphertext gives on the session of the contact it claims to come from. -/
def opens (n : Node X) (sender : String) (message : WireOlm X.OlmMessage) :
    Option (X.Session × Bytes) := do
  let chat ← n.chats.lookup sender
  let olm ← message.toOlm
  X.decrypt chat.session olm

/-- What opens was sealed for a chat that is there, and reads as a ciphertext. -/
theorem opens_eq_some {n : Node X} {sender : String} {message : WireOlm X.OlmMessage}
    {session : X.Session} {plaintext : Bytes} :
    n.opens sender message = some (session, plaintext) ↔
      ∃ chat olm, n.chats.lookup sender = some chat ∧ message.toOlm = some olm
        ∧ X.decrypt chat.session olm = some (session, plaintext) := by
  simp [opens, Option.bind_eq_some_iff]

variable {n : Node X} {sender : String} {message : WireOlm X.OlmMessage}

/-- An unread ciphertext fails on the session of the chat it names. -/
theorem decrypt_unread (unread : n.opens sender message = none) {chat : Chat X} {olm : X.OlmMessage}
    (found : n.chats.lookup sender = some chat) (readable : message.toOlm = some olm) :
    X.decrypt chat.session olm = none := by
  simpa [opens, found, readable] using unread

theorem openApproved_unread (unread : n.opens sender message = none)
    (act : Node X → Bytes → Node X × Processed) : (n.openApproved sender message act).1 = n := by
  unfold openApproved
  cases readable : message.toOlm with
  | none => rfl
  | some olm =>
    cases found : n.chats.lookup sender with
    | none => rfl
    | some chat =>
      simp only [decrypt_unread unread found readable]
      split <;> rfl

theorem openKnown_unread (unread : n.opens sender message = none)
    (act : Node X → Bytes → Node X × Processed) :
    n.openKnown sender message act = (n, .ok none) := by
  unfold openKnown
  cases found : n.chats.lookup sender with
  | none => rfl
  | some chat =>
    cases readable : message.toOlm with
    | none => rfl
    | some olm => simp only [decrypt_unread unread found readable]

theorem verifyControl_unread (unread : n.opens sender message = none) (marker : Bytes) (now : Nat) :
    n.verifyControl sender message marker now = (n, false) := by
  unfold verifyControl
  cases found : n.chats.lookup sender with
  | none => rfl
  | some chat =>
    cases readable : message.toOlm with
    | none => rfl
    | some olm => simp only [decrypt_unread unread found readable]

theorem receiveUser_unread (unread : n.opens sender message = none) (id : String)
    (open? : Bytes → Except String (Option ChatMessage)) (shown : ChatMessage → String) (now : Nat) :
    (n.receiveUser sender id message open? shown now).1 = n := by
  unfold receiveUser
  split
  · rfl
  · cases readable : message.toOlm with
    | none => rfl
    | some olm =>
      cases found : n.chats.lookup sender with
      | none => rfl
      | some chat =>
        simp only [decrypt_unread unread found readable]
        split <;> rfl

theorem receiveChange_unread (unread : n.opens sender message = none)
    (target? : Bytes → Option (String × (ChatMessage → ChatMessage))) (now : Nat) :
    (n.receiveChange sender message target? now).1 = n := by
  unfold receiveChange
  cases readable : message.toOlm with
  | none => rfl
  | some olm =>
    cases found : n.chats.lookup sender with
    | none => rfl
    | some chat =>
      simp only [decrypt_unread unread found readable]
      split <;> rfl

theorem receiveDelivered_unread (unread : n.opens sender message = none) (now : Nat) :
    (n.receiveDelivered sender message now).1 = n := by
  unfold receiveDelivered
  cases readable : message.toOlm with
  | none => rfl
  | some olm =>
    cases found : n.chats.lookup sender with
    | none => rfl
    | some chat => simp only [decrypt_unread unread found readable]

theorem onMailboxKey_unread (unread : n.opens sender message = none) (fresh : Bytes) (now : Nat) :
    n.onMailboxKey sender message fresh now = n := by
  unfold onMailboxKey
  cases found : n.chats.lookup sender with
  | none => rfl
  | some chat =>
    cases readable : message.toOlm with
    | none => rfl
    | some olm =>
      simp only [decrypt_unread unread found readable]
      split <;> rfl

/-- Every handler of a sealed frame opens the frame before it does anything. -/
theorem processSealed_unread (kind : SealedKind) (unread : n.opens sender message = none)
    (inputs : FrameInputs) (now : Nat) :
    (n.processSealed kind sender message inputs now).1 = n := by
  cases kind with
  | edit | unsend => exact receiveChange_unread unread _ now
  | burnMedia | viewed | storage | disappearing | name | address | relaySet | media | mediaIncoming =>
    exact openApproved_unread unread _
  | verified | captures | version | clientKeySealed | screenshot =>
    exact congrArg Prod.fst (openKnown_unread unread _)
  | closed =>
    simp only [processSealed, receiveClosed, verifyControl_unread unread]
  | backedUp =>
    simp only [processSealed, receiveBackedUp, verifyControl_unread unread]
  | burns =>
    simp only [processSealed, receiveBurns, verifyControl_unread unread]
  | ack =>
    simp only [processSealed, receiveAck, verifyControl_unread unread]
  | mailboxKey => exact onMailboxKey_unread unread _ now
  | delivered => exact receiveDelivered_unread unread now

/-- Whether a frame was seen before is noted beside the chats, and only for user frames. -/
theorem isDuplicateUserFrame_noted (n : Node X) (frame : Frame X.OlmMessage)
    (bytes : Envelope X.OlmMessage) :
    ∃ seen twice, n.isDuplicateUserFrame frame bytes = ({ n with seenFrames := seen }, twice)
      ∧ (twice = true → isUserFrame frame = true) := by
  unfold isDuplicateUserFrame
  cases user : isUserFrame frame with
  | false => exact ⟨n.seenFrames, false, rfl, by simp⟩
  | true =>
    simp only [Bool.not_true, Bool.false_eq_true, if_false]
    split <;> split <;> exact ⟨_, _, rfl, by simp⟩

end Node

end Nightdrop
