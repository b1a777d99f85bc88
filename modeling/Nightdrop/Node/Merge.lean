import Nightdrop.Node.Pairing
import Nightdrop.Node.Persist
import Nightdrop.Node.Process

/-! Merging a backup into a live device, and who may bring a contact's words into a chat. -/

namespace Nightdrop

variable {X : Externals}

/-- A history with the messages of a backup it lacks, in the order of their stamps. -/
def mergeHistory (history backup : List ChatMessage) : List ChatMessage :=
  -- A message without an id cannot be told from one we have, so it is left out.
  let missing := backup.filter (fun m =>
    m.msgId ≠ "" && !history.any (fun held => held.msgId ≠ "" && held.msgId = m.msgId))
  (history ++ missing).mergeSort (fun a b => a.stamp ≤ b.stamp)

/-- What a contact said in a chat: its messages that are neither ours nor notices. -/
def Chat.contents (chat : Chat X) : List ChatMessage :=
  chat.history.filter (fun m => !m.fromMe && !m.system)

namespace Node

/-- Merges the chats of a backup one by one; the contact cap ends it with what was merged so far. -/
def mergeChats (now : Nat) : List (PersistedChat X) → Node X → Nat → Node X × Except String Nat
  | [], n, added => (n, .ok added)
  | p :: rest, n, added =>
    match n.chats.lookup p.contactId with
    | none =>
      if p.authorized && !p.closed && MAX_CONTACTS ≤ n.openContacts then
        (n, .error AT_CONTACT_CAP)
      else
        let chat := { p.toChat now with relayReceipts := ∅ }
        mergeChats now rest { n with chats := n.chats.insert p.contactId chat }
          (added + chat.history.length)
    | some chat =>
      -- The live session stays; only messages we lack are folded in.
      let merged := mergeHistory chat.history p.history
      mergeChats now rest (n.modifyChat p.contactId (fun chat => { chat with history := merged }))
        (added + (merged.length - chat.history.length))

/-- Merges a backup of our own identity; one of another identity is refused. -/
def mergeFromBackup (n : Node X) (state : PersistedState X) (identity : String) (now : Nat) :
    Node X × Except String Nat :=
  if identity ≠ n.identityKey then
    (n, .error "this backup belongs to a different identity; restore it instead of merging")
  else mergeChats now state.chats n 0

end Node

variable (X) in
/-- What can bear on who is let in: frames, restores, merges, and what the user decides. -/
inductive AccessEvent where
  /-- An envelope arrives: directly, out of a relay mailbox, or over the local network. -/
  | frame (fromAddress : Option String) (bytes : Envelope X.OlmMessage) (inputs : Node.FrameInputs)
      (now : Nat)
  | restore (state : PersistedState X) (platform : Node.Platform) (now : Nat)
  | merge (state : PersistedState X) (identity : String) (now : Nat)
  | authorize (contact : String) (accept : Bool) (now : Nat)
  | join (peerAddress : String) (bundle : PreKeyBundle) (extras : InviteExtras)
      (inputs : JoinInputs) (now : Nat)
  | delete (contact : String) (now : Nat)
  /-- The user wants requests to be asked about, or not. -/
  | require (on : Bool)

/-- The device after an event; a decision that is refused changes nothing. -/
def Node.access (n : Node X) : AccessEvent X → Node X
  | .frame fromAddress bytes inputs now => (n.takeIn fromAddress bytes inputs now).1
  | .restore state platform now => .restore state platform now
  | .merge state identity now => (n.mergeFromBackup state identity now).1
  | .authorize contact accept now => (n.authorize contact accept now).toOption.getD n
  | .join peerAddress bundle extras inputs now =>
    (n.connectWithInvite peerAddress bundle extras inputs now).toOption.getD n
  | .delete contact now => (n.deleteChat contact now).toOption.getD n
  | .require on => { n with requireAuthorization := on }

/-- The device after a run of events. -/
def Node.accessAll : Node X → List (AccessEvent X) → Node X
  | n, [] => n
  | n, event :: events => (n.access event).accessAll events

/-- The chats of a saved state that an event brings in. -/
def AccessEvent.brings : AccessEvent X → List (PersistedChat X)
  | .restore state _ _ | .merge state _ _ => state.chats
  | _ => []

/-- Whether an event lets a contact in, given the device it happens to. -/
def AccessEvent.LetsIn (n : Node X) (contact : String) : AccessEvent X → Prop
  | .frame _ bytes _ _ =>
    n.requireAuthorization = false ∧ ∃ address message, decode bytes = some (.hello contact address message)
  | .restore state _ _ | .merge state _ _ =>
    ∃ p ∈ state.chats, p.contactId = contact ∧ p.authorized = true
  | .authorize decided accept _ => decided = contact ∧ accept = true
  | .join _ bundle _ _ _ => bundle.identityKey = contact
  | .delete _ _ | .require _ => False

/-- Whether the user let a contact in. -/
def Node.letIn (n : Node X) (contact : String) : Bool :=
  (n.chats.lookup contact).any (·.authorized)

/-- What a contact said, in the chat we have with them. -/
def Node.saidBy (n : Node X) (contact : String) : List ChatMessage :=
  ((n.chats.lookup contact).map Chat.contents).getD []

end Nightdrop
