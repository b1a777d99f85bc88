import Nightdrop.Lib.Ask
import Nightdrop.Node.Pairing

/-! The posts a relay copy is made of, one relay asked after another. -/

namespace Nightdrop

variable {X : Externals}

/-- What a relay asked to take a copy answers: the blob's id and its delete token, or a refusal. -/
abbrev PostAnswer := Option (String × String)

/-- One copy posted: the relay asked, `none` for the Night Drop client, and what it answered. -/
abbrev Post := Option String × PostAnswer

/-- A program that posts copies. -/
abbrev Posting (A : Type) := Ask (Option String) PostAnswer A

/-- Posts one copy, and writes the receipt if it is taken. -/
def postCopy (handle : String) (relay : Option String) : Posting (List QueuedReceipt) :=
  .ask relay (fun answer => .done (answer.map (receiptFrom handle relay)).toList)

/-- Posts a copy to every onion that none was posted to before. -/
def postCopies (handle : String) : List String → List String → Posting (List QueuedReceipt)
  | _, [] => pure []
  | posted, addr :: rest =>
    if addr ∈ posted then postCopies handle posted rest
    else do
      let copy ← postCopy handle (some addr)
      let later ← postCopies handle (posted ++ [addr]) rest
      return copy ++ later

/-- Posts a copy to the Night Drop relay, if the recipient's set includes it. -/
def postClient (handle : String) (primary : Option RelayClient) : Posting (List QueuedReceipt) :=
  if primary.isSome then postCopy handle none else pure []

/-- Seals a frame once and posts it to every relay of a recipient. -/
def queueOnRelaysPosts (primary : Option RelayClient) (peerRelays : List String) (handle : String) :
    Posting (Option (List QueuedReceipt)) :=
  if primary.isNone ∧ peerRelays = [] then pure none
  else if handle = "" then pure none
  else do
    let first ← postClient handle primary
    let more ← postCopies handle (primary.bind (·.addr)).toList peerRelays
    let copies := first ++ more
    return if copies = [] then none else some copies

/-- What a posting program comes to where the relays answer as given. -/
def Posting.against {A : Type} (answers : RelayAnswers) : Posting A → A
  | .done result => result
  | .ask relay next => Posting.against answers (next (answers relay))

/-- The record of the posts made so far. -/
def recordPost (relay : Option String) (log : List Post) (answer : PostAnswer) (log' : List Post) :
    Prop :=
  log' = log ++ [(relay, answer)]

/-- The address a copy goes to: that of the Night Drop client, if it is known, or an onion's. -/
def postAddress (primary : Option RelayClient) : Option String → Option String
  | none => primary.bind (·.addr)
  | some addr => some addr

/-- The relay posts a send may make, by whichever route. -/
def DetachedSend.posts (s : DetachedSend X) : Posting (Option (List QueuedReceipt)) :=
  queueOnRelaysPosts s.primary s.peerRelays s.handle

/-- The relay posts a planned message may make. -/
def PlannedSend.posts (p : PlannedSend X) : Posting (Option (List QueuedReceipt)) :=
  queueOnRelaysPosts p.primary p.relayTargets p.handle

/-- Whether a posting program asks no relay at all. -/
def Posting.asksNobody {A : Type} : Posting A → Bool
  | .done _ => true
  | .ask _ _ => false

namespace Node

/-- The relay posts an attempt to deliver a message may make. -/
def deliveryPosts (n : Node X) (contact : String) (now : Nat) :
    Posting (Option (List QueuedReceipt)) :=
  queueOnRelaysPosts (n.routeTo contact).1 (n.routeTo contact).2
    ((n.postHandle contact now).getD "")

/-- Whether a contact has no relay to take our mail for them: their set is unknown or empty, or the
pair has no agreed mailbox. -/
def pairApart (n : Node X) (contact : String) : Bool :=
  ((n.chats.lookup contact).bind (·.relaySet)).all (fun set => !set.nightdrop && set.relays = [])
    || !n.mailboxAgreed contact

/-- Whether nothing connects us and a contact by relay. -/
def relaysApart (n : Node X) (contact : String) : Bool := n.relays = [] || n.pairApart contact

end Node

/-- Whether a pending control frame was queued without a relay to go to. -/
def PendingControl.direct (p : PendingControl X) : Bool :=
  p.handle = "" || (!p.nightdrop && p.relays = [])

end Nightdrop
