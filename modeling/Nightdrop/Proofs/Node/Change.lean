import Nightdrop.Node.Run

/-! The few changes every operation of a device is made of, each with what the code ensures of it. -/

namespace Nightdrop

variable {X : Externals}

/-- One use of a ratchet: a ciphertext sealed or opened. -/
def Externals.Turn (X : Externals) (s t : X.Session) : Prop :=
  (∃ plaintext message, X.encrypt s plaintext = some (t, message))
    ∨ ∃ message plaintext, X.decrypt s message = some (t, plaintext)

/-- The session as it is after some uses. -/
abbrev Externals.Advanced (X : Externals) : X.Session → X.Session → Prop :=
  Relation.ReflTransGen X.Turn

/-- What names one of our messages in an outcome: a text's id, or an attachment's transfer. -/
def ChatMessage.name (m : ChatMessage) : String := if m.msgId = "" then m.transferId else m.msgId

/-- What may become of one of our messages without its outcome: it stays, or leaves a tombstone. -/
structure ChatMessage.Kept (m m' : ChatMessage) : Prop where
  fromMe : m'.fromMe = m.fromMe
  system : m'.system = m.system
  msgId : m'.msgId = m.msgId
  transferId : m'.transferId = m.transferId
  burnSecs : m'.burnSecs = m.burnSecs
  content : (m'.kind = m.kind ∧ m'.text = m.text ∧ m'.delivery = m.delivery)
    ∨ (m'.kind = .deleted ∧ m'.text = "" ∧ m'.delivery = .none)

/-- The names of our messages in a history, in order. -/
def ownNames (history : List ChatMessage) : List String :=
  (history.filter (·.fromMe)).map ChatMessage.name

/-- What a history keeps of itself: no message of ours is new or changes but to go, and no message
of theirs comes under an id or loses its timer. -/
structure HistoryKept (history history' : List ChatMessage) : Prop where
  own : ∀ m' ∈ history', m'.fromMe = true → ∃ m ∈ history, m.Kept m'
  names : (ownNames history').Sublist (ownNames history)
  theirs : ∀ m' ∈ history', m'.fromMe = false → m'.msgId ≠ "" →
    ∃ m ∈ history, m.fromMe = false ∧ m.msgId = m'.msgId ∧ m.burnSecs = m'.burnSecs

/-- What a chat keeps when none of our messages is composed, sent or receipted in it. -/
structure Chat.Alike (chat chat' : Chat X) : Prop where
  session : X.Advanced chat.session chat'.session
  history : HistoryKept chat.history chat'.history
  closed : chat.closed = true → chat'.closed = true
  relayReceipts : chat'.relayReceipts = chat.relayReceipts

/-- The same, without news that the contact's app is too old. -/
structure Chat.Aside (chat chat' : Chat X) : Prop extends Chat.Alike chat chat' where
  outdated : chat'.outdated = true → chat.outdated = true

/-- What a device keeps then: its queues, and that much of its chats. -/
structure Node.Aside (n n' : Node X) : Prop where
  chats : ∀ contact, Option.Rel Chat.Aside (n.chats.lookup contact) (n'.chats.lookup contact)
  held : n'.held = n.held
  pendingSends : n'.pendingSends = n.pendingSends
  pendingControl : n'.pendingControl = n.pendingControl
  outbox : n'.outbox = n.outbox
  receiptSends : n'.receiptSends = n.receiptSends
  awaitingReceipt : n'.awaitingReceipt = n.awaitingReceipt

/-- A frame some queue of the device holds for a contact. -/
inductive Node.Queued (n : Node X) : String → Envelope X.OlmMessage → Prop where
  | held {h : HeldSend X} (member : h ∈ n.held) : n.Queued h.contactId h.bytes
  | pendingSends {p : PendingRelaySend X} (member : p ∈ n.pendingSends) :
      n.Queued p.contactId p.bytes
  | pendingControl {p : PendingControl X} (member : p ∈ n.pendingControl) :
      n.Queued p.recipientIk p.bytes
  | outbox {o : Outbound X} (member : o ∈ n.outbox) : n.Queued o.send.recipientIk o.send.bytes
  | receiptSends {s : DetachedSend X} (member : s ∈ n.receiptSends) :
      n.Queued s.recipientIk s.bytes

/-- A ciphertext sealed from a plaintext on the session a chat still has. -/
def Node.Sealed (n : Node X) (contact : String) (plaintext : Bytes) (message : X.OlmMessage) : Prop :=
  ∃ chat s t, n.chats.lookup contact = some chat ∧ X.encrypt s plaintext = some (t, message)
    ∧ X.Advanced t chat.session

variable (X) in
/-- What one operation is about, and what it may therefore do. -/
structure Scope where
  /-- Frames in flight around the device. -/
  frames : String → Envelope X.OlmMessage → Prop := fun _ _ => False
  /-- Names drawn for the messages composed. -/
  names : String → Prop := fun _ => False
  /-- What the user says under an id, and the burn timer it has. -/
  texts : String → Nat → String → Prop := fun _ _ _ => False
  /-- Contact and name of the messages whose outcome is recorded. -/
  targets : String → String → Prop := fun _ _ => False
  /-- Contact and name of the messages a receipt names. -/
  receipted : String → String → Prop := fun _ _ => False
  /-- Contact and id of the messages whose relay copies are to be recalled. -/
  recalls : String → String → Prop := fun _ _ => False
  /-- Contact, id and timer of a message of theirs that arrives. -/
  arrives : String → String → Nat → Prop := fun _ _ _ => False
  /-- Contact and id of the messages that could not be sealed again. -/
  unsealed : String → String → Prop := fun _ _ => False
  /-- Contacts it sends to without asking how old their app is. -/
  bypasses : String → Prop := fun _ => False
  /-- Contacts it finds to run an old app. -/
  outdates : String → Prop := fun _ => False
  /-- Contacts it pairs with anew. -/
  rekeys : String → Prop := fun _ => False
  /-- Held frames whose outcome is recorded. -/
  settled : String → Envelope X.OlmMessage → Prop := fun _ _ => False
  /-- Whether it lets held frames of chats that are gone or closed go. -/
  drops : Prop := False

/-- What a plain message frame may say under an id: what the user says now, or the present text of
a message of ours without a timer. -/
def Node.Licensed (S : Scope X) (n : Node X) (contact id : String) (plaintext : Bytes) : Prop :=
  (∃ text, plaintext = utf8 text ∧ S.texts id 0 text)
    ∨ ∃ chat m, n.chats.lookup contact = some chat ∧ m ∈ chat.history ∧ m.isOwn id = true
        ∧ m.burnSecs = 0 ∧ plaintext = utf8 m.text

/-- What the device may queue for a contact: a frame without a ciphertext, one it has already, or
one just sealed on the contact's session. -/
inductive Node.Sendable (S : Scope X) (n : Node X) (contact : String)
    (bytes : Envelope X.OlmMessage) : Prop where
  | clear (plain : bytes.f.ciphertext = none)
  | queued (known : n.Queued contact bytes)
  | flying (known : S.frames contact bytes)
  | fresh {plaintext : Bytes} {message : X.OlmMessage} (carries : bytes.f.ciphertext = some message)
      (onSession : n.Sealed contact plaintext message)
      (licensed : ∀ sender id wire, bytes.f = .message sender id wire →
        n.Licensed S contact id plaintext)

/-- A frame an outdated contact may be sent: our version, and the notice that we have updated. -/
def OutboundDone.isForOutdated (done : OutboundDone X) : Bool :=
  match done with
  | .announced .version _ | .announced .upgradeNotice _ => true
  | _ => false

/-- Whether a send spares an outdated contact what their app would throw away. -/
def Node.Spares (n : Node X) (o : Outbound X) : Prop :=
  n.peerOutdated o.send.recipientIk = true → o.done.isForOutdated = true

/-- A token of a message: the queue or chat that will see to it that it is not forgotten. -/
inductive Node.Solid (n : Node X) (contact id : String) : Prop where
  | pending {p : PendingRelaySend X} (member : p ∈ n.pendingSends) (of : p.contactId = contact)
      (names : p.msgId = id)
  | held {h : HeldSend X} (member : h ∈ n.held) (of : h.contactId = contact) (names : h.msgId = id)
  | relayed {chat : Chat X} {copies : List QueuedReceipt} (found : n.chats.lookup contact = some chat)
      (copied : chat.relayReceipts.lookup id = some copies) (left : copies ≠ [])

/-- Whether a chat, if it is there, has receipts for a message. -/
def Node.Copied (n : Node X) (contact id : String) : Prop :=
  ∀ chat, n.chats.lookup contact = some chat →
    ∃ copies, chat.relayReceipts.lookup id = some copies ∧ copies ≠ []

/-- Whether two held entries are one frame, whatever their marks. -/
def HeldSend.SameFrame (h h' : HeldSend X) : Prop :=
  h'.contactId = h.contactId ∧ h'.msgId = h.msgId ∧ h'.bytes = h.bytes

/-- Whether a message waits for its receipt. -/
def Node.Awaits (n : Node X) (contact id : String) : Prop :=
  ∃ a ∈ n.awaitingReceipt, a.contactId = contact ∧ a.msgId = id

/-- What must see to a message of ours that gets a status. -/
def Node.Backed (n : Node X) (contact id : String) (status : Status) : Prop :=
  (status = .sent ∧ n.Awaits contact id)
    ∨ ((status = .queued ∨ status = .waiting ∨ status = .update) ∧ n.Solid contact id)

/-- Whether a test picks only messages of ours by an id. -/
def Picks (id : String) (p : ChatMessage → Bool) : Prop :=
  ∀ m, p m = true → m.fromMe = true ∧ (m.msgId = id ∨ (m.msgId = "" ∧ m.transferId = id))

/-- One history rewritten. -/
def Chat.mapHistory (f : List ChatMessage → List ChatMessage) (chat : Chat X) : Chat X :=
  { chat with history := f chat.history }

/-- Receipts changed. -/
def Chat.mapReceipts (f : KeyedMap String (List QueuedReceipt) → KeyedMap String (List QueuedReceipt))
    (chat : Chat X) : Chat X :=
  { chat with relayReceipts := f chat.relayReceipts }

/-- Our messages queued too long are expired, and their receipts dropped. -/
def Chat.expired (now : Nat) (chat : Chat X) : Chat X :=
  { chat with
    relayReceipts := ((chat.history.filter (Node.expires now)).map (·.msgId)).foldl
      (fun receipts id => receipts.erase id) chat.relayReceipts
    history := chat.history.map (fun m =>
      if Node.expires now m then { m with delivery := .expired } else m) }

/-- The changes operations are made of. -/
inductive Change (S : Scope X) (n : Node X) : Node X → Prop where
  | aside {n' : Node X} (aside : n.Aside n') : Change S n n'
  /-- A frame joins a queue. -/
  | hold (h : HeldSend X) (sendable : n.Sendable S h.contactId h.bytes) :
      Change S n { n with held := n.held ++ [h] }
  | pend (p : PendingRelaySend X) (sendable : n.Sendable S p.contactId p.bytes)
      (named : p.msgId ≠ "") : Change S n { n with pendingSends := n.pendingSends ++ [p] }
  | control (p : PendingControl X) (sendable : n.Sendable S p.recipientIk p.bytes) :
      Change S n { n with pendingControl := n.pendingControl ++ [p] }
  | queue (o : Outbound X) (sendable : n.Sendable S o.send.recipientIk o.send.bytes)
      (spares : S.bypasses o.send.recipientIk ∨ n.Spares o) :
      Change S n { n with outbox := n.outbox ++ [o] }
  | receipt (s : DetachedSend X) (sendable : n.Sendable S s.recipientIk s.bytes)
      (bypasses : S.bypasses s.recipientIk) :
      Change S n { n with receiptSends := n.receiptSends ++ [s] }
  /-- Control frames leave, or are marked. -/
  | controlled (rest : List (PendingControl X))
      (old : ∀ p ∈ rest, ∃ q ∈ n.pendingControl, q.recipientIk = p.recipientIk ∧ q.bytes = p.bytes) :
      Change S n { n with pendingControl := rest }
  /-- Held frames are marked. -/
  | mark (marked : List (HeldSend X)) (same : List.Forall₂ HeldSend.SameFrame n.held marked) :
      Change S n { n with held := marked }
  /-- The frame of a held message is sealed again. -/
  | reseal (i : Nat) (bytes : Envelope X.OlmMessage)
      (sendable : ∀ h, n.held[i]? = some h → n.Sendable S h.contactId bytes)
      (named : ∀ h, n.held[i]? = some h → h.msgId ≠ "") :
      Change S n { n with held := n.held.modify i ({ · with bytes := bytes }) }
  /-- Held frames of chats that are gone or closed are dropped. -/
  | drop (keep : HeldSend X → Bool) (may : S.drops)
      (gone : ∀ h ∈ n.held, keep h = false → ∀ chat, n.chats.lookup h.contactId = some chat →
        chat.closed = true) :
      Change S n { n with held := n.held.filter keep }
  /-- A held frame got through. -/
  | settle (i : Nat) (h : HeldSend X) (status : Status) (here : n.held[i]? = some h)
      (backed : h.msgId ≠ "" → status = .sent ∧ n.Awaits h.contactId h.msgId
        ∨ status = .queued ∧ n.Copied h.contactId h.msgId)
      (target : h.msgId ≠ "" → S.targets h.contactId h.msgId)
      (settled : S.settled h.contactId h.bytes) :
      Change S n ({ n with held := n.held.eraseIdx i }.setStatus h.contactId h.msgId status)
  /-- A held message is unsent: nothing of it is left in its chat. -/
  | unhold (i : Nat) (h : HeldSend X) (here : n.held[i]? = some h) (named : h.msgId ≠ "")
      (unsent : ∀ chat, n.chats.lookup h.contactId = some chat →
        ∀ m ∈ chat.history, m.isOwn h.msgId = false) :
      Change S n { n with held := n.held.eraseIdx i }
  /-- A message begins to wait for its receipt. -/
  | await (a : AwaitingReceipt) : Change S n { n with awaitingReceipt := n.awaitingReceipt ++ [a] }
  /-- A message stops waiting: a copy was put behind it, or there is nothing to put there. -/
  | unawait {front back : List AwaitingReceipt} {a : AwaitingReceipt}
      (waiting : n.awaitingReceipt = front ++ a :: back)
      (why : (∃ o ∈ n.outbox, o.done = .unconfirmed a) ∨ S.unsealed a.contactId a.msgId
        ∨ ∀ chat, n.chats.lookup a.contactId = some chat →
            chat.closed = true ∨ Node.unconfirmedText chat a.msgId = none) :
      Change S n { n with awaitingReceipt := front ++ back }
  /-- A receipt names a message. -/
  | receipted (contact named : String) (named' : S.receipted contact named) :
      Change S n
        { n.modifyChat contact (Chat.mapHistory (updateFirst (Node.isReceipted named)
            (fun m => { m with delivery := .delivered }))) with
          awaitingReceipt := n.awaitingReceipt.filter
            (fun a => !(a.contactId = contact && a.msgId = named)) }
  /-- The outcome of a message is recorded. -/
  | write (contact id : String) (p : ChatMessage → Bool) (status : Status) (picks : Picks id p)
      (named : id ≠ "")
      (backed : (n.chats.lookup contact).isSome = true → n.Backed contact id status)
      (target : S.targets contact id) :
      Change S n (n.modifyChat contact (Chat.mapHistory (updateFirst p ({ · with delivery := status }))))
  /-- A copy was put behind a message still unconfirmed. -/
  | requeue (contact id : String)
      (copied : n.Copied contact id) :
      Change S n (n.modifyChat contact (Chat.mapHistory
        (updateFirst (fun m => m.isOwn id && m.delivery = .sent) ({ · with delivery := .queued }))))
  /-- Relay copies of a message are recorded. -/
  | record (contact id : String) (copies : List QueuedReceipt) (copied : copies ≠ []) :
      Change S n (n.modifyChat contact (Chat.mapReceipts (·.insert id copies)))
  /-- The receipts of a message are taken for a recall. -/
  | take (contact id : String) (recalled : S.recalls contact id) :
      Change S n (n.modifyChat contact (Chat.mapReceipts (·.erase id)))
  /-- One of our texts is changed. -/
  | edit (contact id newText : String)
      (said : ∀ chat, n.chats.lookup contact = some chat → ∀ m ∈ chat.history,
        m.isOwnText id = true → S.texts id m.burnSecs newText) :
      Change S n (n.modifyChat contact (Chat.mapHistory
        (updateFirst (·.isOwnText id) (fun m => { m with text := newText, edited := true }))))
  /-- One of our messages joins its chat. -/
  | compose (contact : String) (m : ChatMessage) (ours : m.fromMe = true)
      (unsystem : m.system = false) (named : S.names m.name)
      (form : isMsgId m.msgId = true
        ∨ m.msgId = "" ∧ isTransferId m.transferId = true ∧ m.kind ≠ .text ∧ m.text = "")
      (said : m.msgId ≠ "" → S.texts m.msgId m.burnSecs m.text)
      (backed : n.Backed contact m.name m.delivery) :
      Change S n (n.modifyChat contact (Chat.mapHistory (· ++ [m])))
  /-- A message of theirs joins its chat, under an id no other has there. -/
  | arrive (contact : String) (m : ChatMessage) (theirs : m.fromMe = false)
      (arrived : S.arrives contact m.msgId m.burnSecs)
      (new : ∀ chat, n.chats.lookup contact = some chat → ∀ m' ∈ chat.history,
        m'.isTheirs m.msgId = false) :
      Change S n (n.modifyChat contact (Chat.mapHistory (· ++ [m])))
  /-- Messages queued too long expire. -/
  | expire (now : Nat) : Change S n (n.mapChats (Chat.expired now))
  /-- A contact is found to run an old app. -/
  | outdate (contact : String) (f : Chat X → Chat X) (found : S.outdates contact)
      (alike : ∀ chat, n.chats.lookup contact = some chat → chat.Alike (f chat)) :
      Change S n (n.modifyChat contact f)
  /-- A chat gets a new session and keeps its conversation. -/
  | rekey (contact : String) (f : Chat X → Chat X) (pairs : S.rekeys contact)
      (history : ∀ chat, n.chats.lookup contact = some chat → HistoryKept chat.history (f chat).history)
      (relayReceipts : ∀ chat, n.chats.lookup contact = some chat →
        (f chat).relayReceipts = chat.relayReceipts)
      (outdated : ∀ chat, n.chats.lookup contact = some chat → (f chat).outdated = true →
        chat.outdated = true) :
      Change S n (n.modifyChat contact f)
  /-- A chat begins. -/
  | greet (contact : String) (chat : Chat X) (pairs : S.rekeys contact) (history : chat.history = [])
      (relayReceipts : chat.relayReceipts = ∅) (outdated : chat.outdated = false) :
      Change S n { n with chats := n.chats.insert contact chat }
  /-- A chat goes. -/
  | forget (contact : String) : Change S n { n with chats := n.chats.erase contact }

/-- What an operation does to a device: one change after another. -/
def Changes (S : Scope X) : Node X → Node X → Prop := Relation.ReflTransGen (Change S)

namespace Changes

variable {S : Scope X} {a b c : Node X}

theorem refl (S : Scope X) (n : Node X) : Changes S n n := Relation.ReflTransGen.refl

theorem one (change : Change S a b) : Changes S a b := Relation.ReflTransGen.single change

theorem trans (first : Changes S a b) (second : Changes S b c) : Changes S a c :=
  Relation.ReflTransGen.trans first second

theorem next (first : Changes S a b) (change : Change S b c) : Changes S a c :=
  Relation.ReflTransGen.tail first change

/-- What every change keeps, an operation keeps. -/
theorem keep {P : Node X → Prop} (kept : ∀ n n', Change S n n' → P n → P n')
    (changes : Changes S a b) (holds : P a) : P b := by
  induction changes with
  | refl => exact holds
  | tail _ change ih => exact kept _ _ change ih

end Changes


/-! ### What is left aside -/

theorem ChatMessage.Kept.rfl {m : ChatMessage} : m.Kept m :=
  ⟨Eq.refl _, Eq.refl _, Eq.refl _, Eq.refl _, Eq.refl _, .inl ⟨Eq.refl _, Eq.refl _, Eq.refl _⟩⟩

theorem ChatMessage.Kept.trans {a b c : ChatMessage} (first : a.Kept b) (second : b.Kept c) :
    a.Kept c where
  fromMe := second.fromMe.trans first.fromMe
  system := second.system.trans first.system
  msgId := second.msgId.trans first.msgId
  transferId := second.transferId.trans first.transferId
  burnSecs := second.burnSecs.trans first.burnSecs
  content := by
    -- A tombstone stays one.
    rcases second.content with ⟨kind, text, delivery⟩ | gone
    · rw [kind, text, delivery]
      exact first.content
    · exact .inr gone

/-- What is kept keeps its name. -/
theorem ChatMessage.Kept.name {m m' : ChatMessage} (kept : m.Kept m') : m'.name = m.name := by
  simp [ChatMessage.name, kept.msgId, kept.transferId]

/-- A tombstone is what is kept of a message. -/
theorem ChatMessage.kept_tombstone (m : ChatMessage) : m.Kept m.tombstone :=
  ⟨rfl, rfl, rfl, rfl, rfl, .inr ⟨rfl, rfl, rfl⟩⟩

/-- What a history keeps of one message, ours or theirs. -/
def ChatMessage.Stays (m m' : ChatMessage) : Prop :=
  (m.fromMe = true → m.Kept m') ∧ (m.fromMe = false → m'.fromMe = false
    ∧ (m'.msgId ≠ "" → m.msgId = m'.msgId ∧ m.burnSecs = m'.burnSecs))

theorem ChatMessage.Stays.rfl {m : ChatMessage} : m.Stays m :=
  ⟨fun _ => .rfl, fun theirs => ⟨theirs, fun _ => ⟨Eq.refl _, Eq.refl _⟩⟩⟩

namespace HistoryKept

theorem refl (history : List ChatMessage) : HistoryKept history history where
  own m' member _ := ⟨m', member, .rfl⟩
  names := .refl _
  theirs m' member theirs _ := ⟨m', member, theirs, rfl, rfl⟩

theorem trans {a b c : List ChatMessage} (first : HistoryKept a b) (second : HistoryKept b c) :
    HistoryKept a c where
  own m' member ours := by
    obtain ⟨m, inB, kept⟩ := second.own m' member ours
    obtain ⟨m0, inA, kept0⟩ := first.own m inB (kept.fromMe ▸ ours)
    exact ⟨m0, inA, kept0.trans kept⟩
  names := second.names.trans first.names
  theirs m' member theirs named := by
    obtain ⟨m, inB, theirsB, sameId, sameTimer⟩ := second.theirs m' member theirs named
    obtain ⟨m0, inA, theirsA, id0, timer0⟩ := first.theirs m inB theirsB (sameId ▸ named)
    exact ⟨m0, inA, theirsA, id0.trans sameId, timer0.trans sameTimer⟩

/-- Messages that only go leave the rest as it was. -/
theorem filter (history : List ChatMessage) (p : ChatMessage → Bool) :
    HistoryKept history (history.filter p) where
  own m' member _ := ⟨m', List.mem_of_mem_filter member, .rfl⟩
  names := by
    unfold ownNames
    apply List.Sublist.map
    exact List.filter_sublist.filter _
  theirs m' member theirs _ := ⟨m', List.mem_of_mem_filter member, theirs, rfl, rfl⟩

/-- A notice, or an attachment of theirs, joins without changing anything else. -/
theorem notice (history : List ChatMessage) (m : ChatMessage) (theirs : m.fromMe = false)
    (unnamed : m.msgId = "") : HistoryKept history (history ++ [m]) where
  own m' member ours := by
    rcases List.mem_append.mp member with old | new
    · exact ⟨m', old, .rfl⟩
    · rw [List.mem_singleton.mp new, theirs] at ours
      cases ours
  names := by simp [ownNames, theirs]
  theirs m' member theirs' named := by
    rcases List.mem_append.mp member with old | new
    · exact ⟨m', old, theirs', rfl, rfl⟩
    · rw [List.mem_singleton.mp new] at named
      exact absurd unnamed named

/-- A change message by message keeps a history if it keeps each message. -/
theorem of_forall₂ {history history' : List ChatMessage}
    (each : List.Forall₂ ChatMessage.Stays history history') : HistoryKept history history' := by
  induction each with
  | nil => exact refl []
  | @cons m m' rest rest' stays _ ih =>
    refine ⟨?_, ?_, ?_⟩
    · intro a member ours
      rcases List.mem_cons.mp member with rfl | old
      · cases side : m.fromMe with
        | true => exact ⟨m, .head _, stays.1 side⟩
        | false => rw [(stays.2 side).1] at ours; cases ours
      · obtain ⟨b, inRest, kept⟩ := ih.own a old ours
        exact ⟨b, .tail _ inRest, kept⟩
    · -- Ours stay at their places under their names.
      have names := ih.names
      unfold ownNames at names ⊢
      cases side : m.fromMe with
      | true =>
        have ours : m'.fromMe = true := (stays.1 side).fromMe.trans side
        simpa [side, ours, (stays.1 side).name] using names
      | false => simpa [side, (stays.2 side).1] using names
    · intro a member theirs named
      rcases List.mem_cons.mp member with rfl | old
      · cases side : m.fromMe with
        | true => rw [(stays.1 side).fromMe, side] at theirs; cases theirs
        | false => exact ⟨m, .head _, side, (stays.2 side).2 named⟩
      · obtain ⟨b, inRest, kept⟩ := ih.theirs a old theirs named
        exact ⟨b, .tail _ inRest, kept⟩

/-- Every message changed alike. -/
theorem map (history : List ChatMessage) (f : ChatMessage → ChatMessage)
    (stays : ∀ m ∈ history, m.Stays (f m)) : HistoryKept history (history.map f) :=
  of_forall₂ (List.forall₂_map_right_iff.mpr (List.forall₂_same.mpr stays))

/-- The first match changed. -/
theorem updateFirst (history : List ChatMessage) (p : ChatMessage → Bool)
    (f : ChatMessage → ChatMessage) (stays : ∀ m ∈ history, p m = true → m.Stays (f m)) :
    HistoryKept history (updateFirst p f history) := by
  apply of_forall₂
  induction history with
  | nil => exact .nil
  | cons m rest ih =>
    unfold Nightdrop.updateFirst
    cases found : p m with
    | true => exact .cons (stays m (.head _) found) (List.forall₂_same.mpr fun m _ => .rfl)
    | false => exact .cons .rfl (ih fun m' inRest => stays m' (.tail _ inRest))

end HistoryKept

/-- The first match is rewritten at its place. -/
theorem updateFirst_eq_modify {α : Type} (p : α → Bool) (f : α → α) (l : List α) :
    updateFirst p f l = match l.findIdx? p with
      | some i => l.modify i f
      | none => l := by
  induction l with
  | nil => rfl
  | cons a rest ih =>
    cases found : p a with
    | true => simp [updateFirst, found, List.findIdx?_cons]
    | false =>
      simp only [updateFirst, found, List.findIdx?_cons, ih]
      cases rest.findIdx? p <;> simp

/-- An entry after a rewriting was there before, or is the rewriting of a match. -/
theorem mem_updateFirst {α : Type} {p : α → Bool} {f : α → α} {l : List α} {a : α}
    (member : a ∈ updateFirst p f l) : a ∈ l ∨ ∃ b ∈ l, p b = true ∧ a = f b := by
  induction l with
  | nil => simp [updateFirst] at member
  | cons b rest ih =>
    unfold updateFirst at member
    cases found : p b with
    | true =>
      simp only [found, if_true, List.mem_cons] at member
      rcases member with rfl | old
      · exact .inr ⟨b, .head _, found, rfl⟩
      · exact .inl (.tail _ old)
    | false =>
      simp only [found, if_false, Bool.false_eq_true, List.mem_cons] at member
      rcases member with rfl | old
      · exact .inl (.head _)
      · rcases ih old with kept | ⟨c, inRest, picked, rfl⟩
        · exact .inl (.tail _ kept)
        · exact .inr ⟨c, .tail _ inRest, picked, rfl⟩

namespace Chat.Alike

theorem refl (chat : Chat X) : chat.Alike chat :=
  ⟨.refl, .refl _, id, rfl⟩

theorem trans {a b c : Chat X} (first : a.Alike b) (second : b.Alike c) : a.Alike c where
  session := first.session.trans second.session
  history := first.history.trans second.history
  closed := fun closed => second.closed (first.closed closed)
  relayReceipts := second.relayReceipts.trans first.relayReceipts

/-- Fields outside a chat's session, history, receipts and closing may change freely. -/
theorem of_same {chat chat' : Chat X} (session : chat'.session = chat.session)
    (history : chat'.history = chat.history) (closed : chat'.closed = chat.closed)
    (relayReceipts : chat'.relayReceipts = chat.relayReceipts) : chat.Alike chat' where
  session := session ▸ .refl
  history := history ▸ .refl _
  closed := closed ▸ id
  relayReceipts := relayReceipts

end Chat.Alike

namespace Chat.Aside

theorem refl (chat : Chat X) : chat.Aside chat :=
  ⟨.refl chat, id⟩

theorem trans {a b c : Chat X} (first : a.Aside b) (second : b.Aside c) : a.Aside c where
  toAlike := first.toAlike.trans second.toAlike
  outdated := fun outdated => first.outdated (second.outdated outdated)

/-- So may those that do not make its contact's app too old. -/
theorem of_same {chat chat' : Chat X} (session : chat'.session = chat.session)
    (history : chat'.history = chat.history) (closed : chat'.closed = chat.closed)
    (relayReceipts : chat'.relayReceipts = chat.relayReceipts)
    (outdated : chat'.outdated = chat.outdated) : chat.Aside chat' where
  toAlike := .of_same session history closed relayReceipts
  outdated := outdated ▸ id

/-- A change of the history that keeps it. -/
theorem mapHistory (chat : Chat X) {f : List ChatMessage → List ChatMessage}
    (kept : HistoryKept chat.history (f chat.history)) : chat.Aside (chat.mapHistory f) :=
  ⟨⟨.refl, kept, id, rfl⟩, id⟩

end Chat.Aside

namespace Node.Aside

theorem refl (n : Node X) : n.Aside n := by
  refine ⟨fun contact => ?_, rfl, rfl, rfl, rfl, rfl, rfl⟩
  cases n.chats.lookup contact with
  | none => exact .none
  | some chat => exact .some (.refl chat)

theorem trans {a b c : Node X} (first : a.Aside b) (second : b.Aside c) : a.Aside c where
  chats contact := by
    have ab := first.chats contact
    have bc := second.chats contact
    generalize b.chats.lookup contact = middle at ab bc
    generalize a.chats.lookup contact = before at ab ⊢
    generalize c.chats.lookup contact = after at bc ⊢
    cases ab with
    | none => cases bc; exact .none
    | some early =>
      cases bc with
      | some late => exact .some (early.trans late)
  held := second.held.trans first.held
  pendingSends := second.pendingSends.trans first.pendingSends
  pendingControl := second.pendingControl.trans first.pendingControl
  outbox := second.outbox.trans first.outbox
  receiptSends := second.receiptSends.trans first.receiptSends
  awaitingReceipt := second.awaitingReceipt.trans first.awaitingReceipt

/-- One chat left aside leaves the device aside. -/
theorem modifyChat (n : Node X) (contact : String) (f : Chat X → Chat X)
    (aside : ∀ chat, n.chats.lookup contact = some chat → chat.Aside (f chat)) :
    n.Aside (n.modifyChat contact f) := by
  refine ⟨fun other => ?_, rfl, rfl, rfl, rfl, rfl, rfl⟩
  rw [lookup_modifyChat]
  by_cases same : other = contact
  · subst same
    simp only [if_true]
    cases found : n.chats.lookup other with
    | none => exact .none
    | some chat => exact .some (aside chat found)
  · simp only [same, if_false]
    exact (refl n).chats other

/-- Every chat left aside. -/
theorem mapChats (n : Node X) (f : Chat X → Chat X) (aside : ∀ chat : Chat X, chat.Aside (f chat)) :
    n.Aside (n.mapChats f) := by
  refine ⟨fun contact => ?_, rfl, rfl, rfl, rfl, rfl, rfl⟩
  unfold Node.mapChats
  rw [KeyedMap.lookup_mapMaybe]
  cases n.chats.lookup contact with
  | none => exact .none
  | some chat => exact .some (aside chat)

/-- Chats found as before, and the queues as before. -/
theorem of_lookup {n n' : Node X} (chats : ∀ contact, n'.chats.lookup contact = n.chats.lookup contact)
    (held : n'.held = n.held) (pendingSends : n'.pendingSends = n.pendingSends)
    (pendingControl : n'.pendingControl = n.pendingControl) (outbox : n'.outbox = n.outbox)
    (receiptSends : n'.receiptSends = n.receiptSends)
    (awaitingReceipt : n'.awaitingReceipt = n.awaitingReceipt) : n.Aside n' :=
  ⟨fun contact => chats contact ▸ (refl n).chats contact, held, pendingSends, pendingControl, outbox,
    receiptSends, awaitingReceipt⟩

/-- The parts of a device that its invariants speak of. -/
def core (n : Node X) : KeyedMap String (Chat X) × List (HeldSend X) × List (PendingRelaySend X)
    × List (PendingControl X) × List (Outbound X) × List (DetachedSend X) × List AwaitingReceipt :=
  (n.chats, n.held, n.pendingSends, n.pendingControl, n.outbox, n.receiptSends, n.awaitingReceipt)

/-- A change outside them leaves the device aside. -/
theorem of_core {n n' : Node X} (same : core n' = core n) : n.Aside n' := by
  simp only [core, Prod.mk.injEq] at same
  obtain ⟨chats, held, pendingSends, pendingControl, outbox, receiptSends, awaitingReceipt⟩ := same
  exact of_lookup (fun contact => by rw [chats]) held pendingSends pendingControl outbox receiptSends
    awaitingReceipt

/-- What a chat is after an operation that left it aside. -/
theorem lookup {n n' : Node X} (aside : n.Aside n') {contact : String} {chat' : Chat X}
    (found : n'.chats.lookup contact = some chat') :
    ∃ chat, n.chats.lookup contact = some chat ∧ chat.Aside chat' := by
  have related := aside.chats contact
  rw [found] at related
  cases before : n.chats.lookup contact with
  | none => rw [before] at related; cases related
  | some chat =>
    rw [before] at related
    cases related with
    | some kept => exact ⟨chat, rfl, kept⟩

/-- What becomes of a chat. -/
theorem lookup' {n n' : Node X} (aside : n.Aside n') {contact : String} {chat : Chat X}
    (found : n.chats.lookup contact = some chat) :
    ∃ chat', n'.chats.lookup contact = some chat' ∧ chat.Aside chat' := by
  have related := aside.chats contact
  rw [found] at related
  cases after : n'.chats.lookup contact with
  | none => rw [after] at related; cases related
  | some chat' =>
    rw [after] at related
    cases related with
    | some kept => exact ⟨chat', rfl, kept⟩

/-- A contact whose app reads what we send still reads it. -/
theorem young {n n' : Node X} (aside : n.Aside n') {contact : String}
    (reads : n.peerOutdated contact = false) : n'.peerOutdated contact = false := by
  unfold Node.peerOutdated at reads ⊢
  cases found : n'.chats.lookup contact with
  | none => rfl
  | some chat' =>
    obtain ⟨chat, before, kept⟩ := aside.lookup found
    rw [before] at reads
    cases outdated : chat'.outdated with
    | false => simp [outdated]
    | true => simp [kept.outdated outdated] at reads

end Node.Aside

/-- What the handlers outside this development do leaves the device aside. -/
theorem Node.Peripheral.aside {n n' : Node X} (peripheral : n.Peripheral n') : n.Aside n' := by
  refine ⟨fun contact => ?_, peripheral.held, peripheral.pendingSends, peripheral.pendingControl,
    peripheral.outbox, peripheral.receiptSends, peripheral.awaitingReceipt⟩
  have related := peripheral.chats contact
  revert related
  cases n.chats.lookup contact <;> cases n'.chats.lookup contact <;> intro related <;>
    cases related
  · exact .none
  · rename_i chat chat' kept
    -- A message that differs from another only in when it was opened is kept by it.
    have viewed : ∀ {m m' : ChatMessage}, m'.unviewed = m.unviewed → m.Kept m' := by
      intro m m' same
      cases m
      cases m'
      simp only [ChatMessage.unviewed, ChatMessage.mk.injEq] at same
      obtain ⟨h1, h2, h3, h4, -, -, h7, h8, h9, -, -, h12, -⟩ := same
      exact ⟨h1, h3, h9, h7, h12, .inl ⟨h4, h2, h8⟩⟩
    refine .some ⟨⟨?_, ⟨?_, ?_, ?_⟩, kept.closed, kept.relayReceipts⟩, kept.outdated ▸ id⟩
    · exact Relation.ReflTransGen.mono (fun s t opened => Or.inr opened) _ _ kept.session
    · intro m' member ours
      have image : m'.unviewed ∈ (chat'.history.filter (·.fromMe)).map ChatMessage.unviewed :=
        List.mem_map_of_mem (List.mem_filter.mpr ⟨member, ours⟩)
      obtain ⟨m, inOld, same⟩ := List.mem_map.mp (kept.own.subset image)
      exact ⟨m, (List.mem_filter.mp inOld).1, viewed same.symm⟩
    · have sameName : ChatMessage.name ∘ ChatMessage.unviewed = ChatMessage.name := rfl
      have names := kept.own.map ChatMessage.name
      rwa [List.map_map, List.map_map, sameName] at names
    · intro m' member theirs named
      obtain ⟨m, inOld, same⟩ := kept.theirs m' member theirs named
      have kept := viewed same
      exact ⟨m, inOld, by rw [← kept.fromMe, theirs], kept.msgId.symm, kept.burnSecs.symm⟩

namespace Node

/-- What was sealed stays sealed on a session that is only used since. -/
theorem Sealed.aside {n n' : Node X} {contact : String} {plaintext : Bytes} {message : X.OlmMessage}
    (onSession : n.Sealed contact plaintext message) (aside : n.Aside n') :
    n'.Sealed contact plaintext message := by
  obtain ⟨chat, s, t, found, encrypted, since⟩ := onSession
  obtain ⟨chat', found', kept⟩ := aside.lookup' found
  exact ⟨chat', s, t, found', encrypted, since.trans kept.session⟩

/-- Sealing advances one session, and what it returns is sealed on it. -/
theorem sealFor_spec {n n' : Node X} {contact : String} {plaintext : Bytes} {message : X.OlmMessage}
    (did : n.sealFor contact plaintext = some (n', message)) :
    n.Aside n' ∧ n'.Sealed contact plaintext message := by
  unfold sealFor at did
  cases found : n.chats.lookup contact with
  | none => simp [found] at did
  | some chat =>
    cases encrypted : X.encrypt chat.session plaintext with
    | none => simp [found, encrypted] at did
    | some sealed =>
      obtain ⟨session, sealedMessage⟩ := sealed
      simp only [found, encrypted, Option.bind_eq_bind, Option.bind_some, Option.pure_def,
        Option.some.injEq, Prod.mk.injEq] at did
      obtain ⟨rfl, rfl⟩ := did
      constructor
      · apply Aside.modifyChat
        intro chat' found'
        obtain rfl : chat = chat' := by simpa [found] using found'
        exact ⟨⟨.single (.inl ⟨plaintext, sealedMessage, encrypted⟩), .refl _, id, rfl⟩, id⟩
      · refine ⟨{ chat with session := session }, chat.session, session, ?_, encrypted, .refl⟩
        simp [found]

/-- Only the chat of the contact is changed by sealing. -/
theorem sealFor_eq {n n' : Node X} {contact : String} {plaintext : Bytes} {message : X.OlmMessage}
    (did : n.sealFor contact plaintext = some (n', message)) :
    ∃ session, n' = n.modifyChat contact (fun chat => { chat with session := session }) := by
  unfold sealFor at did
  cases found : n.chats.lookup contact with
  | none => simp [found] at did
  | some chat =>
    cases encrypted : X.encrypt chat.session plaintext with
    | none => simp [found, encrypted] at did
    | some sealed =>
      simp only [found, encrypted, Option.bind_eq_bind, Option.bind_some, Option.pure_def,
        Option.some.injEq, Prod.mk.injEq] at did
      exact ⟨sealed.1, did.1.symm⟩

end Node

/-- Two changes of one chat are one. -/
theorem Node.modifyChat_modifyChat (n : Node X) (contact : String) (f g : Chat X → Chat X) :
    (n.modifyChat contact f).modifyChat contact g = n.modifyChat contact (fun chat => g (f chat)) := by
  simp [Node.modifyChat, KeyedMap.modify_modify]

/-- A control frame just sealed may be queued. -/
theorem Node.Sendable.control {S : Scope X} {n : Node X} {contact : String} {plaintext : Bytes}
    {message : X.OlmMessage} (kind : SealedKind) (sender : String)
    (onSession : n.Sealed contact plaintext message) :
    n.Sendable S contact (encode (.sealed kind sender (.fromOlm message))) :=
  .fresh rfl onSession (fun _ _ _ plain => by cases plain)

/-- A change left aside is one change. -/
theorem Changes.aside {S : Scope X} {n n' : Node X} (aside : n.Aside n') : Changes S n n' :=
  .one (.aside aside)

/-- A change outside what the invariants speak of is one change. -/
theorem Changes.of_core {S : Scope X} {n n' : Node X} (same : Node.Aside.core n' = Node.Aside.core n) :
    Changes S n n' :=
  .aside (.of_core same)

end Nightdrop
