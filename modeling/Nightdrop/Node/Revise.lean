import Nightdrop.Node.Edit

/-! Editing and unsending as the app calls them: two halves under the lock, the network in between. -/

namespace Nightdrop

/-- What the network does during a call. -/
structure CallNetwork where
  /-- Whether a relay gives back the copy it is asked for. -/
  recalled : QueuedReceipt → Bool
  /-- Whether a direct dial gets through. -/
  answered : Bool
  answers : RelayAnswers

variable {X : Externals}

/-- A caller's entry that reached neither the peer nor any relay, and is not held here either. -/
def Finished.callerFailed (f : Finished X) : Bool :=
  match f.done with
  | .caller _ => f.delivery = .failed && !f.relayless
  | _ => false

/-- The copies a recall takes off the relays. -/
def RecallPlan.taken (plan : RecallPlan) (recalled : QueuedReceipt → Bool) : List QueuedReceipt :=
  plan.copies.filter (fun r =>
    (r.relayAddr.isSome || plan.primary.isSome) && r.handle ≠ "" && recalled r)

/-- What the user does to a text already sent. -/
inductive Revision where
  | edit (newText : String)
  | unsend
deriving DecidableEq, Repr

/-- What a revision makes of our history. -/
def Revision.apply (msgId : String) (history : List ChatMessage) : Revision → List ChatMessage
  | .edit newText =>
    updateFirst (·.isOwnText msgId) (fun m => { m with text := newText, edited := true }) history
  | .unsend =>
    updateFirst (fun m => m.fromMe && !m.system && m.msgId = msgId) ChatMessage.tombstone history

variable (X) in
/-- What there is of one of our messages: what is shown, and what still brings it to the contact. -/
structure Standing where
  shown : List (Kind × String × Bool)
  receipts : List QueuedReceipt
  pendingSends : List (PendingRelaySend X)
  awaitingReceipt : List AwaitingReceipt
  /-- All that waits here for the contact, as an edit of the message has no id of its own. -/
  held : List (HeldSend X)
  outbox : List (Outbound X)

/-- How the entries with one of our ids are shown. -/
def shownAs (msgId : String) (history : List ChatMessage) : List (Kind × String × Bool) :=
  (history.filter (·.isOwn msgId)).map (fun m => (m.kind, m.text, m.edited))

namespace Node

/-- What there is of one of our messages on this device. -/
def standing (n : Node X) (contact msgId : String) : Standing X where
  shown := ((n.chats.lookup contact).map (fun chat => shownAs msgId chat.history)).getD []
  receipts := ((n.chats.lookup contact).bind (·.relayReceipts.lookup msgId)).getD []
  pendingSends := n.pendingSends.filter (fun p => p.contactId = contact && p.msgId = msgId)
  awaitingReceipt := n.awaitingReceipt.filter (fun a => a.contactId = contact && a.msgId = msgId)
  held := n.held.filter (·.contactId = contact)
  outbox := n.outbox.filter (·.send.recipientIk = contact)

/-- Runs the sends an API call waits on, and records what became of them. -/
def sendForCaller (n : Node X) (sends : List (Outbound X)) (net : CallNetwork) (now : Nat) :
    Node X × Except String Unit :=
  let finished := sends.map (fun o => o.run net.answered net.answers)
  (n.applyOutbound finished now,
    if finished.any (·.callerFailed) then .error "peer offline and no relay accepted the message"
    else .ok ())

/-- Edits one of our texts: changed here, its relay copies recalled, and then told. -/
def editMessage (n : Node X) (contact msgId newText : String) (net : CallNetwork)
    (now later : Nat) : Node X × Except String Unit :=
  match n.beginEdit contact msgId newText now with
  | .error reason => (n, .error reason)
  | .ok (n, plan) =>
    match n.finishEdit contact msgId newText (plan.map (·.run net.recalled)) later with
    | .error reason => (n, .error reason)
    | .ok n => n.takeCallerOutbox.1.sendForCaller n.takeCallerOutbox.2 net later

/-- Takes one of our texts back on both sides, in the same three steps. -/
def unsendMessage (n : Node X) (contact msgId : String) (net : CallNetwork) (now later : Nat) :
    Node X × Except String Unit :=
  match n.beginUnsend contact msgId now with
  | .error reason => (n, .error reason)
  | .ok (n, plan) =>
    match n.finishUnsend contact msgId (plan.map (·.run net.recalled)) later with
    | (n, .error reason) => (n, .error reason)
    | (n, .ok ()) => n.takeCallerOutbox.1.sendForCaller n.takeCallerOutbox.2 net later

/-- The call that makes a revision. -/
def revise (n : Node X) (contact msgId : String) (revision : Revision) (net : CallNetwork)
    (now later : Nat) : Node X × Except String Unit :=
  match revision with
  | .edit newText => n.editMessage contact msgId newText net now later
  | .unsend => n.unsendMessage contact msgId net now later

/-- The relay copies a call takes back. -/
def takenBack (n : Node X) (contact msgId : String) (revision : Revision) (net : CallNetwork)
    (now : Nat) : List QueuedReceipt :=
  let begun := match revision with
    | .edit newText => n.beginEdit contact msgId newText now
    | .unsend => n.beginUnsend contact msgId now
  match begun with
  | .ok (_, some plan) => plan.taken net.recalled
  | _ => []

end Node

variable (X) in
/-- A device between two calls: each takes the sends it waits on before it lets go of the lock. -/
structure Core where
  node : Node X
  served : ∀ o ∈ node.outbox, o.isCaller = false

end Nightdrop
