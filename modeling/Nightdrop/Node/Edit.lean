import Nightdrop.Node.Send

/-! Editing and unsending one of our own texts, around the recall of its relay copies. -/

namespace Nightdrop

variable {X : Externals}

/-- The relay copies an edit or unsend must recall before it knows which path it takes. -/
structure RecallPlan where
  primary : Option RelayClient
  contactId : String
  copies : List QueuedReceipt
deriving DecidableEq, Repr

/-- Recalls every copy: true only if there are some and every one was recalled. -/
def recallReceipts (primary : Option RelayClient) (recalled : QueuedReceipt → Bool)
    (receipts : List QueuedReceipt) : Bool :=
  receipts ≠ [] && receipts.all (fun r =>
    (r.relayAddr.isSome || primary.isSome) && r.handle ≠ "" && recalled r)

/-- Runs a recall; `recalled` is what each relay answers. -/
def RecallPlan.run (plan : RecallPlan) (recalled : QueuedReceipt → Bool) : Bool :=
  recallReceipts plan.primary recalled plan.copies

/-- Whether one of our texts may still be edited or unsent. -/
def ChatMessage.changeable (m : ChatMessage) (now : Nat) : Bool :=
  m.delivery = .queued || m.delivery = .waiting || (m.stamp ≠ 0 && now - m.stamp ≤ EDIT_WINDOW)

namespace Node

/-- What recalling copies of a message needs. -/
def recallPlan (n : Node X) (contact : String) (copies : List QueuedReceipt) : RecallPlan where
  primary := n.relay
  contactId := contact
  copies := copies

/-- Takes the receipts of a message out of its chat, for a recall. -/
def takeReceipts (n : Node X) (contact msgId : String) : Node X × List QueuedReceipt :=
  (n.modifyChat contact (fun chat =>
      { chat with relayReceipts := chat.relayReceipts.erase msgId }),
    ((n.chats.lookup contact).bind (·.relayReceipts.lookup msgId)).getD [])

/-- First half of an edit: the message is changed here, and the copies to recall handed over. -/
def beginEdit (n : Node X) (contact msgId newText : String) (now : Nat) :
    Except String (Node X × Option RecallPlan) :=
  match n.chats.lookup contact with
  | none => .error "unknown contact"
  | some chat =>
    if chat.closed then .error "this chat was deleted"
    else match chat.history.find? (·.isOwnText msgId) with
    | none => .error "message not found or not editable"
    | some m =>
      if !m.changeable now then
        .error "messages can only be edited within 15 minutes of sending"
      else
        let n := n.modifyChat contact (fun chat =>
          { chat with
            history := updateFirst (·.isOwnText msgId)
              (fun m => { m with text := newText, edited := true }) chat.history })
        if m.delivery ≠ .queued then .ok (n, none)
        else
          let taken := n.takeReceipts contact msgId
          .ok (taken.1, some (n.recallPlan contact taken.2))

/-- Seals the new text of a message again, as the kind of message it is. -/
def resealHeld (n : Node X) (contact msgId newText : String) (i : Nat) : Except String (Node X) :=
  match n.chats.lookup contact with
  | none => .error "unknown contact"
  | some chat =>
    let burnSecs := ((chat.history.find? (·.isOwn msgId)).map (·.burnSecs)).getD 0
    match n.sealFor contact (userPlaintext burnSecs newText) with
    | none => .error "encrypt: the peer's ratchet key is unusable"
    | some (n, message) =>
      let bytes := encode (userFrame n.identityKey msgId burnSecs (.fromOlm message))
      .ok { n with held := n.held.modify i ({ · with bytes := bytes }), dirty := true }

/-- Second half of an edit; `recalled` is whether every queued copy was recalled. -/
def finishEdit (n : Node X) (contact msgId newText : String) (recalled : Option Bool) (now : Nat) :
    Except String (Node X) :=
  -- Still held here and not on its way: the held copy itself becomes the new text.
  match n.heldUnsent contact msgId with
  | some i => n.resealHeld contact msgId newText i
  | none => match n.chats.lookup contact with
    | none => .error "unknown contact"
    | some chat =>
      if recalled = some true then
        match n.sealFor contact (utf8 newText) with
        | none => .error "encrypt: the peer's ratchet key is unusable"
        | some (n, message) =>
          let bytes := encode (.message n.identityKey msgId (.fromOlm message))
          .ok (n.sendOrQueue (n.detach "" contact bytes false now) .relayOnly
            (.caller (some (contact, msgId))))
      else
        match n.sealFor contact (packEdit msgId newText) with
        | none => .error "encrypt: the peer's ratchet key is unusable"
        | some (n, message) =>
          .ok (n.deliverWith chat.peerAddress contact (.edit n.identityKey (.fromOlm message)) false
            (.caller none) now)

/-- First half of an unsend: the same checks, and nothing changed but the receipts. -/
def beginUnsend (n : Node X) (contact msgId : String) (now : Nat) :
    Except String (Node X × Option RecallPlan) :=
  match n.chats.lookup contact with
  | none => .error "unknown contact"
  | some chat =>
    if chat.closed then .error "this chat was deleted"
    else match chat.history.find? (·.isOwnText msgId) with
    | none => .error "message not found or not deletable"
    | some m =>
      if !m.changeable now then
        .error "messages can only be unsent within 15 minutes of sending"
      else if m.delivery ≠ .queued then .ok (n, none)
      else
        let taken := n.takeReceipts contact msgId
        .ok (taken.1, some (n.recallPlan contact taken.2))

/-- Second half of an unsend: the message goes, or leaves a tombstone on both sides. -/
def finishUnsend (n : Node X) (contact msgId : String) (recalled : Option Bool) (now : Nat) :
    Node X × Except String Unit :=
  match n.heldUnsent contact msgId with
  | some i =>
    let n := { n with held := n.held.eraseIdx i, dirty := true }
    (n.modifyChat contact (fun chat =>
      { chat with history := chat.history.filter (fun m => !m.isOwn msgId) }), .ok ())
  | none => match n.chats.lookup contact with
    | none => (n, .error "unknown contact")
    | some chat =>
      let isTarget := fun m : ChatMessage => m.fromMe && !m.system && m.msgId = msgId
      match chat.history.findIdx? isTarget with
      | none => (n, .ok ())
      | some i =>
        if recalled = some true then
          (n.modifyChat contact (fun chat => { chat with history := chat.history.eraseIdx i }),
            .ok ())
        else
          let n := n.modifyChat contact (fun chat =>
            { chat with history := chat.history.modify i ChatMessage.tombstone })
          match n.sealFor contact (packUnsend msgId) with
          | none => (n, .error "encrypt: the peer's ratchet key is unusable")
          | some (n, message) =>
            (n.deliverWith chat.peerAddress contact (.unsend n.identityKey (.fromOlm message))
              false (.caller none) now, .ok ())

end Node

end Nightdrop
