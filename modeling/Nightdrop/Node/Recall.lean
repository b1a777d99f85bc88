import Nightdrop.Node.Revise
import Nightdrop.Node.Talk

/-! The copies of a message that may still reach its contact, and what a revision makes of them. -/

namespace Nightdrop

variable {X : Externals}

/-- What becomes of the request that a relay take a copy: the blob's id and delete token. -/
inductive PostFate where
  | refused
  | answered (taken : String × String)
  /-- The copy is stored, and the answer is lost. -/
  | unheard (taken : String × String)
deriving DecidableEq, Repr

namespace PostFate

/-- What the sender hears. -/
def heard : PostFate → Option (String × String)
  | answered taken => some taken
  | refused | unheard _ => none

/-- What the relay has. -/
def kept : PostFate → Option (String × String)
  | answered taken | unheard taken => some taken
  | refused => none

end PostFate

/-- The copies of one of our messages from which its contact may still get it. -/
structure Copies where
  /-- Those on relays, each as the receipt that takes it back. -/
  relays : List QueuedReceipt := []
  /-- One on no relay may still arrive: it was handed to the contact's onion, or is about to be. -/
  direct : Bool := false
deriving DecidableEq, Repr

namespace Copies

/-- No copy can reach the contact any more. -/
def Gone (c : Copies) : Prop := c.relays = [] ∧ c.direct = false

/-- Every copy is on record: by a relay's receipt, or by the mark of one handed over directly. -/
def OnRecord (c : Copies) (receipts : List QueuedReceipt) : Prop :=
  (∀ r ∈ c.relays, r ∈ receipts) ∧ (c.direct = true → QueuedReceipt.handedDirectly ∈ receipts)

instance (c : Copies) (receipts : List QueuedReceipt) : Decidable (c.OnRecord receipts) :=
  inferInstanceAs (Decidable (_ ∧ _))

/-- What a recall leaves: a relay that says so has taken its copy off. -/
def after (c : Copies) (plan : Option RecallPlan) (recalled : QueuedReceipt → Bool) : Copies :=
  { c with
    relays := c.relays.filter (fun r => r ∉ (plan.map (·.taken recalled)).getD []) }

end Copies

namespace Node

/-- The first half of a revision. -/
def beginRevision (n : Node X) (contact msgId : String) (revision : Revision) (now : Nat) :
    Except String (Node X × Option RecallPlan) :=
  match revision with
  | .edit newText => n.beginEdit contact msgId newText now
  | .unsend => n.beginUnsend contact msgId now

/-- The second half, on the device as it is once the relays have answered. -/
def finishRevision (n : Node X) (contact msgId : String) (revision : Revision)
    (recalled : Option Bool) (later : Nat) : Node X × Except String Unit :=
  match revision with
  | .edit newText => match n.finishEdit contact msgId newText recalled later with
    | .ok n' => (n', .ok ())
    | .error reason => (n, .error reason)
  | .unsend => n.finishUnsend contact msgId recalled later

end Node

namespace Revision

/-- What is sealed to tell the contact of a revision. -/
def payload (msgId : String) : Revision → Bytes
  | .edit newText => packEdit msgId newText
  | .unsend => packUnsend msgId

/-- The frame that tells it. -/
def frame (sender : String) (message : X.OlmMessage) : Revision → Frame X.OlmMessage
  | .edit _ => .edit sender (.fromOlm message)
  | .unsend => .unsend sender (.fromOlm message)

end Revision

namespace Node

/-- The `Edit` or `Unsend` frame goes out to the contact. -/
def FollowsUp (n n' : Node X) (contact msgId : String) (revision : Revision) : Prop :=
  ∃ chat session message, n.chats.lookup contact = some chat
    ∧ X.encrypt chat.session (revision.payload msgId) = some (session, message)
    ∧ n.Hands n' (encode (revision.frame n.identityKey message))

/--
A revision that ends without a frame about it ends well, and no copy of the original can reach the
contact any more; every other one sends its frame. `n` is the device once the relays have answered.
-/
def AllOrNothing (n : Node X) (contact msgId : String) (revision : Revision)
    (plan : Option RecallPlan) (copies : Copies) (recalled : QueuedReceipt → Bool) (later : Nat) :
    Prop :=
  let result := n.finishRevision contact msgId revision (plan.map (·.run recalled)) later
  n.FollowsUp result.1 contact msgId revision
    ∨ (result.2 = .ok () ∧ (copies.after plan recalled).Gone)

/-- Where an entry of ours stands that an unsend buries. -/
def buries (chat : Chat X) (msgId : String) : Option Nat :=
  chat.history.findIdx? (fun m => m.fromMe && !m.system && m.msgId = msgId)

end Node

end Nightdrop
