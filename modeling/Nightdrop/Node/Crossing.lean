import Nightdrop.Node.Pairing
import Nightdrop.Node.Talk

/-! Two users who each join the other's invite, and the sessions they end up on. -/

namespace Nightdrop

variable {X : Externals}

/-- The session after any number of plaintexts sealed on it. -/
abbrev Externals.Seals (X : Externals) : X.Session → X.Session → Prop :=
  Relation.ReflTransGen (fun s t => ∃ plaintext message, X.encrypt s plaintext = some (t, message))

/-- The session after any number of ciphertexts sealed on it and opened by it. -/
abbrev Externals.Uses (X : Externals) : X.Session → X.Session → Prop :=
  Relation.ReflTransGen (fun s t => (∃ plaintext message, X.encrypt s plaintext = some (t, message))
    ∨ ∃ message plaintext, X.decrypt s message = some (t, plaintext))

/-- A ciphertext that was sealed on a session on its way to where it is now. -/
def Externals.SealedOn (X : Externals) (s : X.Session) (message : X.OlmMessage) : Prop :=
  ∃ before after plaintext, X.encrypt before plaintext = some (after, message) ∧ X.Uses after s

/-- What the pairing relies on of Olm: sessions have identities, and two ends of one session, used
in any way, go on opening what the other seals. -/
structure Olm (X : Externals) where
  /-- The session a ratchet belongs to. -/
  id : X.Session → String
  /-- Two ratchets are the two ends of one session. -/
  Linked : X.Session → X.Session → Prop
  linked_symm : ∀ {s t}, Linked s t → Linked t s
  linked_id : ∀ {s t}, Linked s t → id s = id t
  seal_id : ∀ {s t plaintext message}, X.encrypt s plaintext = some (t, message) → id t = id s
  open_id : ∀ {s t plaintext message}, X.decrypt s message = some (t, plaintext) → id t = id s
  linked_seal : ∀ {s s' t plaintext message}, Linked s t →
    X.encrypt s plaintext = some (s', message) → Linked s' t
  linked_open : ∀ {s s' t plaintext message}, Linked s t → X.SealedOn t message →
    X.decrypt s message = some (s', plaintext) → Linked s' t
  linked_reads : ∀ {s s' t plaintext message}, Linked s t →
    X.encrypt s plaintext = some (s', message) →
      ∃ t', X.decrypt t message = some (t', plaintext)
  /-- A ciphertext of another session does not open. -/
  foreign : ∀ {s s' t plaintext message}, id s ≠ id t →
    X.encrypt s plaintext = some (s', message) → X.decrypt t message = none
  /-- Accepting the first ciphertext of a session makes its other end, and reads it. -/
  accepted : ∀ {account bundle s s' plaintext message account' contact account'' t read},
    X.openOutbound account bundle = some s → X.encrypt s plaintext = some (s', message) →
      X.acceptInbound account' contact message = some (account'', t, read) →
        read = plaintext ∧ Linked s' t

/-- What both sides put into a pair's mailbox. -/
def Chat.contributions (chat : Chat X) : Option (Bytes × Option Bytes) :=
  chat.mailbox.map (fun pair => (pair.own, pair.peer))

variable (X) in
/-- The `Hello` of a join: the session right after it, its ciphertext, and the mailbox seed in it. -/
structure Offer where
  session : X.Session
  message : X.OlmMessage
  seed : Bytes

variable (X) in
/-- One of the two users: the device, and what it did about the pairing so far. -/
structure Joiner where
  node : Node X
  /-- The contact the other user knows this device as. -/
  name : String
  /-- The sessions with the other user that were replaced. -/
  past : List X.Session := []
  /-- The `Hello` of our own join. -/
  offer : Option (Offer X) := none
  /-- The other user's `Hello` was processed. -/
  heard : Bool := false
  /-- It was processed when we joined. -/
  heardFirst : Bool := false
  /-- Our own join came last: it replaced the session of their `Hello`. -/
  ownLast : Bool := false

namespace Joiner

/-- The chat with the other user. -/
def chat (me them : Joiner X) : Option (Chat X) := me.node.chats.lookup them.name

/-- The session with the other user, if there is one. -/
def current (me them : Joiner X) : List X.Session := ((me.chat them).map (·.session)).toList

/-- Every session with the other user, past and present. -/
def sessions (me them : Joiner X) : List X.Session := me.past ++ me.current them

/-- The sessions of our own join. -/
def offered (me : Joiner X) : List X.Session := (me.offer.map (·.session)).toList

/-- A ciphertext that this user sealed for the other, on any session they had. -/
def Sealed (me them : Joiner X) (message : X.OlmMessage) : Prop :=
  ∃ s ∈ me.sessions them, X.SealedOn s message

end Joiner

/-- What one of the two can do. -/
inductive CrossEvent where
  | join | hear | accept | seals | opens | aside
deriving DecidableEq, Repr

/-- What each does to the device of the one who does it. -/
inductive Joiner.Acts (R : Olm X) (me them : Joiner X) : CrossEvent → Joiner X → Prop
  /-- The user joins the other's invite; the session it opens is a new one. -/
  | join {peerAddress : String} {bundle : PreKeyBundle} {extras : InviteExtras} {inputs : JoinInputs}
      {now : Nat} {n : Node X} {s s' : X.Session} {message : X.OlmMessage} (once : me.offer = none)
      (whose : bundle.identityKey = them.name)
      (opens : X.openOutbound me.node.account bundle = some s)
      (seals : X.encrypt s (X.writeHello (me.node.helloBody inputs)) = some (s', message))
      (legible : ((X.readHello (X.writeHello (me.node.helloBody inputs))).bind (·.mailbox)).bind
        X.decodeSecret = some inputs.mailboxSeed)
      (new : ∀ t ∈ me.sessions them ++ me.offered ++ (them.sessions me ++ them.offered),
        R.id t ≠ R.id s)
      (joins : me.node.connectWithInvite peerAddress bundle extras inputs now = .ok n) :
      Acts R me them .join
        { me with
          node := n
          past := me.sessions them
          offer := some ⟨s', message, inputs.mailboxSeed⟩
          heardFirst := me.heard
          ownLast := true }
  /-- The other user's `Hello` arrives, directly or by relay, and is accepted. -/
  | hear {offer : Offer X} {fromAddress : Option String} {address : String}
      {inputs : Node.PairingInputs} {now : Nat} {account : X.Account} {t : X.Session} {read : Bytes}
      (theirs : them.offer = some offer) (once : me.heard = false)
      (accepted : X.acceptInbound me.node.account them.name offer.message = some (account, t, read)) :
      Acts R me them .hear
        { me with
          node := (me.node.receiveHello fromAddress them.name address (.fromOlm offer.message)
            inputs now).1
          past := me.sessions them
          heard := true
          ownLast := false }
  /-- The user accepts the other, and the chat stays. -/
  | accept {now : Nat} {n : Node X} (accepts : me.node.authorize them.name true now = .ok n)
      (stays : (n.chats.lookup them.name).isSome = true) :
      Acts R me them .accept { me with node := n }
  /-- Something is sealed for the other. -/
  | seals {n : Node X} {chat chat' : Chat X} {plaintext : Bytes} {message : X.OlmMessage}
      (here : me.chat them = some chat)
      (sealed : X.encrypt chat.session plaintext = some (chat'.session, message))
      (kept : chat'.contributions = chat.contributions)
      (there : n.chats.lookup them.name = some chat') :
      Acts R me them .seals { me with node := n }
  /-- Something the other sealed is opened, on whatever session, however late. -/
  | opens {n : Node X} {chat chat' : Chat X} {plaintext : Bytes} {message : X.OlmMessage}
      (here : me.chat them = some chat) (genuine : them.Sealed me message)
      (opened : X.decrypt chat.session message = some (chat'.session, plaintext))
      (kept : chat'.contributions = chat.contributions)
      (there : n.chats.lookup them.name = some chat') :
      Acts R me them .opens { me with node := n }
  /-- Anything else happens on the device. -/
  | aside {n : Node X}
      (kept : (n.chats.lookup them.name).map (fun chat => (chat.session, chat.contributions))
        = (me.chat them).map (fun chat => (chat.session, chat.contributions))) :
      Acts R me them .aside { me with node := n }

variable (X) in
/-- The two users. -/
structure Crossing where
  left : Joiner X
  right : Joiner X

namespace Crossing

def of (w : Crossing X) : Side → Joiner X
  | .left => w.left
  | .right => w.right

def set (w : Crossing X) (side : Side) (me : Joiner X) : Crossing X :=
  match side with
  | .left => { w with left := me }
  | .right => { w with right := me }

/-- One of the two does something. -/
def Step (R : Olm X) (w : Crossing X) (event : Side × CrossEvent) (w' : Crossing X) : Prop :=
  ∃ me, (w.of event.1).Acts R (w.of event.1.other) event.2 me ∧ w' = w.set event.1 me

/-- Neither has done anything yet, whatever chats they have. -/
def Begins (w : Crossing X) : Prop :=
  ∀ side, (w.of side).offer = none ∧ (w.of side).heard = false ∧ (w.of side).heardFirst = false
    ∧ (w.of side).ownLast = false ∧ (w.of side).past = []

/-- Both have joined, and both `Hello`s have been processed. -/
def Done (w : Crossing X) : Prop :=
  ∀ side, (w.of side).offer.isSome = true ∧ (w.of side).heard = true

/-- What either seals next, the other opens. -/
def Readable (w : Crossing X) : Prop :=
  ∀ side, ∃ mine theirs, (w.of side).chat (w.of side.other) = some mine
    ∧ (w.of side.other).chat (w.of side) = some theirs
    ∧ ∀ plaintext s message, X.encrypt mine.session plaintext = some (s, message) →
      ∃ t, X.decrypt theirs.session message = some (t, plaintext)

/-- Nothing either seals next opens at the other. -/
def Parted (w : Crossing X) : Prop :=
  ∀ side mine theirs, (w.of side).chat (w.of side.other) = some mine →
    (w.of side.other).chat (w.of side) = some theirs →
      ∀ plaintext s message, X.encrypt mine.session plaintext = some (s, message) →
        X.decrypt theirs.session message = none

/-- Both put the same into the mailbox. -/
def SameMailbox (w : Crossing X) : Prop :=
  ∃ seed, ∀ side, ((w.of side).chat (w.of side.other)).map Chat.contributions
    = some (some (seed, some seed))

end Crossing

end Nightdrop
