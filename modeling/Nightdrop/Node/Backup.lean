import Nightdrop.Lib.Reach
import Nightdrop.Node.Merge

/-! A backup as its password opens it, and the merge that folds its chats into a live device. -/

namespace Nightdrop

variable (X : Externals)

/-- One chat of a backup, and whether its session opens under the backup's key. -/
structure CarriedChat where
  chat : PersistedChat X
  opens : Bool

/-- What the password of a backup opens; it is written from a map of chats, so no contact is twice. -/
structure Backup where
  /-- The identity of its account, if the account opens. -/
  identity : Option String
  chats : List (CarriedChat X)
  distinct : (chats.map (·.chat.contactId)).Nodup

variable {X}

/-- The chat a backup has with a contact. -/
def Backup.carried (backup : Backup X) (contact : String) : Option (CarriedChat X) :=
  backup.chats.find? (·.chat.contactId = contact)

/-- The messages a backup has of a contact's chat. -/
def Backup.historyOf (backup : Backup X) (contact : String) : List ChatMessage :=
  ((backup.carried contact).map (·.chat.history)).getD []

/-- The messages of a backup's history that can be told apart and that ours lacks. -/
def missingFrom (history backup : List ChatMessage) : List ChatMessage :=
  backup.filter (fun m =>
    m.msgId ≠ "" && !history.any (fun held => held.msgId ≠ "" && held.msgId = m.msgId))

/-- The chat a backup brings that we have none for: it comes whole, without relay receipts. -/
def CarriedChat.whole (p : CarriedChat X) (now : Nat) : Chat X :=
  { p.chat.toChat now with relayReceipts := ∅ }

/-- The messages of all chats. -/
def Node.messages (n : Node X) : Nat :=
  KeyedMap.total (fun _ chat => chat.history.length) n.chats

namespace Node

/-- Whether the contact cap stops a merge at a chat. -/
def refuses (n : Node X) (p : CarriedChat X) : Bool :=
  (n.chats.lookup p.chat.contactId).isNone && p.chat.authorized && !p.chat.closed
    && MAX_CONTACTS ≤ n.openContacts

/-- Folds one chat of a backup in, with the number of messages it adds: one we have gains what it
lacks, and one we have not comes whole if its session opens. -/
def foldIn (now : Nat) (n : Node X) (p : CarriedChat X) : Node X × Nat :=
  match n.chats.lookup p.chat.contactId with
  | none =>
    if p.opens then
      ({ n with chats := n.chats.insert p.chat.contactId (p.whole now) }, (p.whole now).history.length)
    else (n, 0)
  | some chat =>
    let merged := mergeHistory chat.history p.chat.history
    (n.modifyChat p.chat.contactId (fun chat => { chat with history := merged }),
      merged.length - chat.history.length)

/-- Folds the chats of a backup in one by one, until the contact cap stops it. -/
def mergeCarried (now : Nat) : List (CarriedChat X) → Node X → Nat → Node X × Except String Nat
  | [], n, added => (n, .ok added)
  | p :: rest, n, added =>
    if n.refuses p then (n, .error AT_CONTACT_CAP)
    else mergeCarried now rest (n.foldIn now p).1 (added + (n.foldIn now p).2)

/-- Merges what a backup opened to; one that does not open or is of another identity is refused. -/
def mergeBackup (n : Node X) (opened : Except String (Backup X)) (now : Nat) :
    Node X × Except String Nat :=
  match opened with
  | .error reason => (n, .error reason)
  | .ok backup =>
    if backup.identity ≠ some n.identityKey then
      (n, .error
        "this backup belongs to a different identity; restore it instead of merging")
    else mergeCarried now backup.chats n 0

/-- Where every session opens, this is the merge of the saved chats. -/
theorem mergeCarried_opens (now : Nat) (saved : List (PersistedChat X)) (n : Node X) (added : Nat) :
    mergeCarried now (saved.map (fun p => ⟨p, true⟩)) n added = mergeChats now saved n added := by
  induction saved generalizing n added with
  | nil => rfl
  | cons p rest ih =>
    simp only [List.map_cons, mergeCarried, mergeChats, refuses, foldIn]
    cases found : n.chats.lookup p.contactId with
    | none =>
      simp only [Option.isNone_none, Bool.true_and, if_true, ih]
      rfl
    | some chat => simp [ih]

end Node

variable (X) in
/-- What can make someone an open contact, or end that. -/
inductive ContactEvent where
  /-- An envelope arrives: directly or out of a relay mailbox. -/
  | frame (fromAddress : Option String) (bytes : Envelope X.OlmMessage) (inputs : Node.FrameInputs)
      (now : Nat)
  | authorize (contact : String) (accept : Bool) (now : Nat)
  | join (peerAddress : String) (bundle : PreKeyBundle) (extras : InviteExtras)
      (inputs : JoinInputs) (now : Nat)
  | delete (contact : String) (now : Nat)
  /-- The user merges what a backup file and its password opened to. -/
  | merge (opened : Except String (Backup X)) (now : Nat)

/-- The node after an operation that may be refused, and the refusal. -/
def Node.orRefused (n : Node X) (result : Except String (Node X)) : Node X × Option String :=
  match result with
  | .ok n' => (n', none)
  | .error reason => (n, some reason)

/-- The device after an event, and the refusal if it is refused. -/
def Node.meet (n : Node X) : ContactEvent X → Node X × Option String
  | .frame fromAddress bytes inputs now => ((n.takeIn fromAddress bytes inputs now).1, none)
  | .authorize contact accept now => n.orRefused (n.authorize contact accept now)
  | .join peerAddress bundle extras inputs now =>
    n.orRefused (n.connectWithInvite peerAddress bundle extras inputs now)
  | .delete contact now => n.orRefused (n.deleteChat contact now)
  | .merge opened now =>
    let merged := n.mergeBackup opened now
    (merged.1, match merged.2 with
      | .ok _ => none
      | .error reason => some reason)

/-- The devices that events make of one that asks about requests. -/
def Node.Meets : Node X → Node X → Prop :=
  fun start => Reach start (fun n event n' => n.requireAuthorization = true ∧ n' = (n.meet event).1)

end Nightdrop
