import Nightdrop.Lib.Reach
import Nightdrop.Node.Control
import Nightdrop.Node.Mailbox

/-! The agreement on a pair's mailbox: both sides, and the key frames on their way between them. -/

namespace Nightdrop

/-- What a mailbox key frame carries: a contribution, and a confirmation if any. -/
abbrev KeyFrame := Bytes × Option Bytes

namespace MailboxPair

/-- What our next frame carries; `prove` is the confirmation of two contributions. -/
def payload (prove : Bytes → Bytes → Bytes) (pair : MailboxPair) : KeyFrame :=
  (pair.own, pair.peer.map (prove pair.own))

/-- The pair once a frame of ours is sealed. -/
def told (prove : Bytes → Bytes → Bytes) (pair : MailboxPair) : MailboxPair :=
  { pair with confirmSent := pair.confirmSent || (pair.payload prove).2.isSome }

/-- The pair once a frame of theirs is heard. -/
def hears (prove : Bytes → Bytes → Bytes) (frame : KeyFrame) (pair : MailboxPair) : MailboxPair :=
  let pair := pair.heard frame.1
  if frame.2 = some (prove pair.own frame.1) then { pair with peerConfirmed := true } else pair

/-- Whether the pair, having heard a frame, calls for a reply. -/
def answers (frame : KeyFrame) (pair : MailboxPair) : Bool := frame.2.isNone || !pair.confirmSent

/-- The persisted fields of an agreement. -/
def toPersisted (H : Hashes) : Option MailboxPair →
    Option String × Option String × Bool × Bool × Option Nat
  | none => (none, none, false, false, none)
  | some pair => (some (H.base64Handle pair.own), pair.peer.map H.base64Handle, pair.peerConfirmed,
      pair.confirmSent, pair.announcedAt)

/-- The 32 bytes a persisted field stands for. -/
def unb64 (H : Hashes) (text : String) : Option Bytes :=
  (H.unbase64Handle text).filter (fun bytes => bytes.length = 32)

/-- Rebuilds an agreement from its persisted fields. -/
def fromPersisted (H : Hashes) :
    Option String × Option String × Bool × Bool × Option Nat → Option MailboxPair
  | (own, peer, confirmed, sent, announcedAt) =>
    (own.bind (unb64 H)).map (fun own =>
      let peer := peer.bind (unb64 H)
      { own := own
        peer := peer
        peerConfirmed := peer.isSome && confirmed
        confirmSent := peer.isSome && sent
        announcedAt := announcedAt })

end MailboxPair

/-- A key frame is read back as it was written. -/
theorem decodePayload_encodePayload {frame : KeyFrame} (sized : frame.1.length = 32)
    (sizedProof : ∀ confirm, frame.2 = some confirm → confirm.length = 32) :
    decodePayload (encodePayload frame.1 frame.2) = some frame := by
  obtain ⟨own, confirm⟩ := frame
  have stripped :
      stripMark MARK_MAILBOX_V2 (encodePayload own confirm) = some (own ++ confirm.getD []) := by
    simp [stripMark, encodePayload]
  unfold decodePayload
  simp only [stripped, Option.bind_eq_bind, Option.bind_some]
  have first : own.length = 32 := sized
  cases confirm with
  | none => simp [first]
  | some confirm => simp [first, sizedProof confirm rfl]

variable {X : Externals}

namespace Node

/-- Sends our contribution to a contact not yet confirmed, once per run. -/
def announceMailboxTo (n : Node X) (contact : String) (fresh : Bytes) (now : Nat) : Node X :=
  match n.chats.lookup contact with
  | none => n
  | some chat =>
    if chat.authorized && !chat.closed && !chat.mailbox.any (·.peerConfirmed)
        && contact ∉ n.mailboxAnnounced
        && ((n.relaysBetween contact).1.isSome || (n.relaysBetween contact).2 ≠ []) then
      let frame := (chat.mailbox.getD { own := fresh }).payload (X.confirmHash n.identityKey contact)
      let told := { n with mailboxAnnounced := n.mailboxAnnounced ++ [contact] }.sendMailboxKey contact
        fresh now
      -- The flag stays only while a frame is out.
      if (X.encrypt chat.session (encodePayload frame.1 frame.2)).isSome then told
      else { told with mailboxAnnounced := told.mailboxAnnounced.erase contact }
    else n

/-- A confirmed side announces nothing. -/
theorem announceMailboxTo_confirmed {n : Node X} {contact : String} {fresh : Bytes} {now : Nat}
    {chat : Chat X} (found : n.chats.lookup contact = some chat)
    (confirmed : chat.mailbox.any (·.peerConfirmed) = true) :
    n.announceMailboxTo contact fresh now = n := by
  unfold announceMailboxTo
  rw [found]
  simp [confirmed]

/-- What a frame that opens does to the pair is `hears`, and a reply is sent when it `answers`. -/
theorem onMailboxKey_eq {n : Node X} {sender : String} {message : WireOlm X.OlmMessage}
    {fresh : Bytes} {now : Nat} {chat : Chat X} {olm : X.OlmMessage} {session : X.Session}
    {plaintext : Bytes} {frame : KeyFrame} (found : n.chats.lookup sender = some chat)
    (valid : message.toOlm = some olm) (authorized : chat.authorized = true)
    (opened : X.decrypt chat.session olm = some (session, plaintext))
    (decoded : decodePayload plaintext = some frame) :
    n.onMailboxKey sender message fresh now
      = let pair := (chat.mailbox.getD { own := fresh }).hears (X.confirmHash n.identityKey sender) frame
        let heard := { (n.modifyChat sender (fun chat => { chat with session := session })).modifyChat
            sender (fun chat => { chat.markAlive now with mailbox := some pair }) with dirty := true }
        if pair.answers frame then heard.sendMailboxKey sender fresh now else heard := by
  unfold onMailboxKey
  rw [found, valid]
  simp only [authorized, opened, decoded, Bool.not_true, Bool.false_eq_true, if_false]
  rfl

/-- A frame of ours carries the pair's payload, and leaves the pair `told`. -/
theorem sendMailboxKey_eq {n : Node X} {contact : String} {fresh : Bytes} {now : Nat} {chat : Chat X}
    (meets : ¬ ((n.relaysBetween contact).1.isNone && (n.relaysBetween contact).2 = []))
    (found : n.chats.lookup contact = some chat) (authorized : chat.authorized = true)
    (still : chat.closed = false) :
    n.sendMailboxKey contact fresh now
      = let pair := chat.mailbox.getD { own := fresh }
        let frame := pair.payload (X.confirmHash n.identityKey contact)
        let held := { n.modifyChat contact (fun chat => { chat with mailbox := some pair }) with
          dirty := n.dirty || chat.mailbox.isNone }
        match held.authedControl contact (encodePayload frame.1 frame.2) .mailboxKey with
        | none => held
        | some (m, address, out) =>
          { m.modifyChat contact (fun chat =>
              { chat with mailbox := some (pair.told (X.confirmHash n.identityKey contact)) }) with
            dirty := true }.deliverWith address contact out false (.announced .mailbox contact) now := by
  unfold sendMailboxKey
  rw [if_neg meets, found]
  simp only [authorized, still, Bool.not_true, Bool.or_self, Bool.false_eq_true, if_false]
  rfl

end Node

/-- One side of an agreement. -/
structure Party where
  pair : MailboxPair
  /-- Every state the pair has been in. -/
  held : List MailboxPair
  /-- The frames on their way to the other side, each with how many replies led to it. -/
  flying : List (KeyFrame × Nat)

/-- Both sides of an agreement. -/
abbrev Joint := Bool → Party

def Party.become (pair : MailboxPair) (side : Party) : Party :=
  { side with pair := pair, held := pair :: side.held }

/-- A side seals a frame, as the last of `depth` replies. -/
def Party.send (prove : Bytes → Bytes → Bytes) (depth : Nat) (side : Party) : Party :=
  { side.become (side.pair.told prove) with
    flying := (side.pair.payload prove, depth) :: side.flying }

/-- A side hears a frame. -/
def Party.hear (prove : Bytes → Bytes → Bytes) (frame : KeyFrame) (side : Party) : Party :=
  side.become (side.pair.hears prove frame)

/-- What happens to an agreement. -/
inductive AgreeEvent where
  /-- A side sends its contribution of its own accord. -/
  | announce (s : Bool)
  /-- A side processes a frame; `replied` says that its reply could be sealed, `again` that a copy
  of the frame is still to be processed. -/
  | deliver (s : Bool) (frame : KeyFrame) (depth : Nat) (replied again : Bool)
  | lose (s : Bool) (frame : KeyFrame) (depth : Nat)
  /-- A side restarts from its saved state. -/
  | restart (s : Bool)
  /-- A side is re-paired or restored without its contribution, and makes a new one. -/
  | change (s : Bool) (own : Bytes)

/-- Events with the contributions fixed, each frame processed at most once. -/
def AgreeEvent.Settled : AgreeEvent → Prop
  | .change _ _ => False
  | .deliver _ _ _ _ again => again = false
  | _ => True

/-- The confirmation one side computes. -/
def Hashes.prove (H : Hashes) (keys : Bool → String) (s : Bool) (own peer : Bytes) : Bytes :=
  H.confirmHash (H.pairSecret (keys s) (keys !s) own peer)

/-- A frame of side `s` that is no longer on its way. -/
def Joint.without (w : Joint) (s : Bool) (frame : KeyFrame) (depth : Nat) : Joint :=
  Function.update w s { w s with flying := (w s).flying.erase (frame, depth) }

/-- What each event does. -/
def Joint.Step (H : Hashes) (keys : Bool → String) (w : Joint) (event : AgreeEvent) (w' : Joint) :
    Prop :=
  match event with
  | .announce s => w' = Function.update w s ((w s).send (H.prove keys s) 0)
  | .deliver s frame depth replied again =>
    let heard := (w s).hear (H.prove keys s) frame
    (frame, depth) ∈ (w !s).flying ∧ (replied = true → heard.pair.answers frame = true)
      ∧ w' = Function.update (if again then w else w.without (!s) frame depth) s
          (if replied then heard.send (H.prove keys s) (depth + 1) else heard)
  | .lose s frame depth => w' = w.without s frame depth
  | .restart s => ∃ pair,
      MailboxPair.fromPersisted H (MailboxPair.toPersisted H (some (w s).pair)) = some pair
        ∧ w' = Function.update w s ((w s).become pair)
  | .change s own => own.length = 32 ∧ w' = Function.update w s ((w s).become { own := own })

/-- Two sides with nothing on its way. -/
def Joint.start (pairs : Bool → MailboxPair) : Joint := fun s => ⟨pairs s, [pairs s], []⟩

end Nightdrop
