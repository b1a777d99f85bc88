import Nightdrop.Node.Backup
import Nightdrop.Node.Run

/-! What a deleted chat may leave behind, and what brings one back. -/

namespace Nightdrop

variable {X : Externals}

/-- There is no chat with a contact, and nothing is held for them. -/
structure Node.Gone (n : Node X) (contact : String) : Prop where
  chat : n.chats.lookup contact = none
  held : ∀ h ∈ n.held, h.contactId ≠ contact

/-- Whether a state file names a contact anywhere but in a control frame that waits for them. -/
def PersistedState.names (state : PersistedState X) (contact : String) : Bool :=
  state.chats.any (·.contactId = contact) || state.held.any (·.contactId = contact)

/-- Whether an envelope is a `Hello` of a contact that opens a session. -/
def Node.greets (n : Node X) (contact : String) (bytes : Envelope X.OlmMessage) : Bool :=
  match decode bytes with
  | some (.hello sender _ message) =>
    sender = contact && message.toOlm.any (fun olm => (X.acceptInbound n.account sender olm).isSome)
  | _ => false

variable (X) in
/-- What may happen after a deletion: a step of the device, or the user merges a backup. -/
inductive AfterEvent where
  | step (event : Event X)
  | merge (opened : Except String (Backup X)) (now : Nat)

namespace AfterEvent

/-- Whether an event may begin a chat with a contact: they pair, the user joins their invite, or a
backup that has their chat is merged. -/
def revives (w : World X) (contact : String) : AfterEvent X → Bool
  | .step (.receive _ bytes _ _) => w.node.greets contact bytes
  | .step (.connect _ bundle _ _ _) => bundle.identityKey = contact
  | .merge (.ok backup) _ => backup.chats.any (·.chat.contactId = contact)
  | _ => false

/-- Whether an event records that a send planned for a contact reached neither them nor a relay. -/
def strands (contact : String) : AfterEvent X → Bool
  | .step (.outcome p delivered answers _) =>
    p.contactId = contact && !(p.execute delivered answers).delivered
      && (p.execute delivered answers).relayFailed
  | _ => false

end AfterEvent

/-- What such an event does. -/
inductive World.After (w : World X) : AfterEvent X → World X → Prop where
  | step {event : Event X} {w' : World X} (taken : Step w event w') : After w (.step event) w'
  | merge {opened : Except String (Backup X)} {now : Nat} :
      After w (.merge opened now) { w with node := (w.node.mergeBackup opened now).1 }

/-- A step that brings no chat with a contact back. -/
def World.Passes (contact : String) (w : World X) (event : AfterEvent X) (w' : World X) : Prop :=
  event.revives w contact = false ∧ w.After event w'

/-- One that does not record either that a send to them was lost. -/
def World.PassesOn (contact : String) (w : World X) (event : AfterEvent X) (w' : World X) : Prop :=
  w.Passes contact event w' ∧ event.strands contact = false

end Nightdrop
