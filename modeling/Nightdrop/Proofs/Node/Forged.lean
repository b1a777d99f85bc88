import Nightdrop.Node.Symbolic
import Nightdrop.Proofs.Node.Unread

/-! Frames that only claim to come from a contact: what any number of them can do to a device. -/

namespace Nightdrop

variable {X : Externals}

/-- The sender a frame claims and the ciphertext it carries for them, if it carries one. -/
def Frame.sealedBy {M : Type} : Frame M → Option (String × WireOlm M)
  | .hello sender _ m | .message sender _ m | .burn sender _ m | .sealed _ sender m => some (sender, m)
  | .pake _ | .approved _ _ | .codeInUse _ _ | .clientKey _ _ | .cover _ => none

/-- The ratchet after any number of uses that sealed this one plaintext. -/
abbrev Externals.Sealing (X : Externals) (plaintext : Bytes) : X.Session → X.Session → Prop :=
  Relation.ReflTransGen (fun s t => ∃ message, X.encrypt s plaintext = some (t, message))

/-- The contact's app is known to be on 0.2 or later. -/
def Chat.announcedNew (chat : Chat X) : Bool := chat.peerAppVersion.any (fun v => !versionOutdated v)

/-- What forged frames may do to the chat they name: mark its contact as on the old format, unless
they are known not to be, and make us seal our own relay set for a contact who was not told it. -/
structure Chat.OnlyHeld (mine : RelaySet) (chat chat' : Chat X) : Prop where
  rest : chat' = { chat with session := chat'.session, peerWireOld := chat'.peerWireOld }
  wire : chat'.peerWireOld = chat.peerWireOld ∨ chat'.peerWireOld = true ∧ chat.announcedNew = false
  session : chat'.session = chat.session
    ∨ chat.authorized = true ∧ chat.closed = false ∧ chat.relaysTold ≠ some mine
        ∧ X.Sealing (X.writeRelaySet mine) chat.session chat'.session

/-- One envelope as it arrives, with what the transport and chance add to it. -/
structure Arrival (X : Externals) where
  fromAddress : Option String
  bytes : Envelope X.OlmMessage
  inputs : Node.FrameInputs
  now : Nat

namespace Node

/-- The device after taking in one envelope. -/
def take (n : Node X) (a : Arrival X) : Node X := (n.takeIn a.fromAddress a.bytes a.inputs a.now).1

/-- The device after taking in some envelopes, one after the other. -/
def takeAll (n : Node X) (arrivals : List (Arrival X)) : Node X := arrivals.foldl take n

/-- Whether our account accepts a frame as a pairing. -/
def accepts (n : Node X) : Frame X.OlmMessage → Bool
  | .hello contact _ message => (message.toOlm.bind (X.acceptInbound n.account contact)).isSome
  | _ => false

/-- A frame that claims a contact, but opens on no session of theirs and pairs nobody. -/
structure Forged (n : Node X) (contact : String) (frame : Frame X.OlmMessage) : Prop where
  claims : frame.claimedSender = some contact
  unread : ∀ sender message, frame.sealedBy = some (sender, message) → n.opens sender message = none
  unpaired : n.accepts frame = false

/-- Envelopes each of which is forged when it is taken in. -/
def Forgeries (contact : String) : Node X → List (Arrival X) → Prop
  | _, [] => True
  | n, a :: rest => n.Forged contact a.bytes.f ∧ Forgeries contact (n.take a) rest

/-- What one or more forged frames may do to a device, seen in its chats. -/
structure OnlyHeld (contact : String) (mine : RelaySet) (n n' : Node X) : Prop where
  relays : n'.relays = n.relays
  others : ∀ other, other ≠ contact → n'.chats.lookup other = n.chats.lookup other
  named : Option.Rel (Chat.OnlyHeld mine) (n.chats.lookup contact) (n'.chats.lookup contact)

end Node

namespace Chat.OnlyHeld

theorem refl (mine : RelaySet) (chat : Chat X) : chat.OnlyHeld mine chat := ⟨rfl, .inl rfl, .inl rfl⟩

theorem trans {mine : RelaySet} {a b c : Chat X} (first : a.OnlyHeld mine b)
    (second : b.OnlyHeld mine c) : a.OnlyHeld mine c := by
  obtain ⟨restB, wireB, sessionB⟩ := first
  obtain ⟨restC, wireC, sessionC⟩ := second
  have told : b.relaysTold = a.relaysTold ∧ b.authorized = a.authorized ∧ b.closed = a.closed
      ∧ b.peerAppVersion = a.peerAppVersion := by
    rw [restB]
    exact ⟨rfl, rfl, rfl, rfl⟩
  obtain ⟨sameTold, sameAuthorized, sameClosed, sameVersion⟩ := told
  refine ⟨?_, ?_, ?_⟩
  · rw [restC, restB]
  · have sameNew : b.announcedNew = a.announcedNew := by rw [announcedNew, sameVersion, announcedNew]
    rw [sameNew] at wireC
    rcases wireC with same | marked
    · rw [same]
      exact wireB
    · exact .inr marked
  · rw [sameTold, sameAuthorized, sameClosed] at sessionC
    rcases sessionC with same | ⟨authorized, closed, untold, later⟩
    · rw [same]
      exact sessionB
    · rcases sessionB with same | ⟨-, -, -, earlier⟩
      · exact .inr ⟨authorized, closed, untold, same ▸ later⟩
      · exact .inr ⟨authorized, closed, untold, earlier.trans later⟩

end Chat.OnlyHeld

namespace Node.OnlyHeld

variable {contact : String} {mine : RelaySet}

/-- The same chats and the same relay list are as good as no step. -/
theorem of_chats {n n' : Node X} (relays : n'.relays = n.relays) (chats : n'.chats = n.chats) :
    OnlyHeld contact mine n n' := by
  refine ⟨relays, fun other _ => by rw [chats], ?_⟩
  rw [chats]
  cases n.chats.lookup contact with
  | none => exact .none
  | some chat => exact .some (.refl mine chat)

theorem refl (n : Node X) : OnlyHeld contact mine n n := of_chats rfl rfl

theorem trans {a b c : Node X} (first : OnlyHeld contact mine a b)
    (second : OnlyHeld contact mine b c) : OnlyHeld contact mine a c := by
  refine ⟨second.relays.trans first.relays,
    fun other away => (second.others other away).trans (first.others other away), ?_⟩
  have ab := first.named
  have bc := second.named
  generalize a.chats.lookup contact = before at ab ⊢
  generalize b.chats.lookup contact = middle at ab bc
  generalize c.chats.lookup contact = after at bc ⊢
  cases ab with
  | none => cases bc; exact .none
  | some early => cases bc with | some late => exact .some (early.trans late)

/-- A change of the named chat that is no more than allowed. -/
theorem modifyChat (n : Node X) (f : Chat X → Chat X)
    (held : ∀ chat, n.chats.lookup contact = some chat → chat.OnlyHeld mine (f chat)) :
    OnlyHeld contact mine n (n.modifyChat contact f) := by
  refine ⟨rfl, fun other away => by rw [lookup_modifyChat, if_neg away], ?_⟩
  rw [lookup_modifyChat, if_pos rfl]
  cases found : n.chats.lookup contact with
  | none => exact .none
  | some chat => exact .some (held chat found)

end Node.OnlyHeld

namespace Node

/-- An old-format frame marks its contact, unless they are known to be on 0.2 or later. -/
theorem noteLegacyFrame_onlyHeld (n : Node X) (contact : String) (mine : RelaySet) :
    OnlyHeld contact mine n (n.noteLegacyFrame contact) := by
  unfold noteLegacyFrame
  cases found : n.chats.lookup contact with
  | none => exact .refl n
  | some chat =>
    simp only []
    split
    · rename_i marks
      rw [Bool.and_eq_true, Bool.not_eq_true', Bool.not_eq_true'] at marks
      refine (OnlyHeld.modifyChat n (fun chat => { chat with peerWireOld := true }) ?_).trans
        (.of_chats rfl rfl)
      intro chat' found'
      obtain rfl : chat = chat' := by simpa [found] using found'
      exact ⟨rfl, .inr ⟨rfl, marks.2⟩, .inl rfl⟩
    · exact .refl n

/-- Telling a contact our relay set seals that set, for one who was not told it yet. -/
theorem announceRelaySetTo_onlyHeld (n : Node X) (contact : String) (now : Nat) :
    OnlyHeld contact n.myRelaySet n (n.announceRelaySetTo contact now) := by
  unfold announceRelaySetTo
  simp only []
  cases found : n.chats.lookup contact with
  | none => exact .refl n
  | some chat =>
    simp only []
    split
    · exact .refl n
    · rename_i untold
      simp only [Bool.or_eq_true, decide_eq_true_eq, Bool.not_eq_true', not_or] at untold
      obtain ⟨⟨⟨authorized, closed⟩, untold⟩, -⟩ := untold
      unfold announce
      split
      · exact .refl n
      · rename_i n1 address frame did
        obtain ⟨chat', session, message, found', encrypted, rfl, -, -⟩ := authedControl_eq did
        obtain rfl : chat = chat' := by simpa [found] using found'
        refine (OnlyHeld.modifyChat n (fun chat => { chat with session := session }) ?_).trans
          (.of_chats (deliverWith_relays _ _ _ _ _ _ _) (deliverWith_chats _ _ _ _ _ _ _))
        intro chat' found'
        obtain rfl : chat = chat' := by simpa [found] using found'
        refine ⟨rfl, .inl rfl, .inr ⟨by simpa using authorized, by simpa using closed, untold, ?_⟩⟩
        exact .single ⟨message, encrypted⟩

/-- An approval nobody waits for changes nothing in its chat. -/
theorem receiveApproved_onlyHeld (n : Node X) (contact : String) (now : Nat)
    (settled : ∀ chat, n.chats.lookup contact = some chat → chat.awaitingApproval = false) :
    OnlyHeld contact n.myRelaySet n (n.receiveApproved contact now).1 := by
  unfold receiveApproved
  cases found : n.chats.lookup contact with
  | none => exact .refl n
  | some chat =>
    have idle := settled chat found
    simp only [idle, Bool.false_eq_true, if_false]
    -- No notice waits, so clearing the notices that wait clears none.
    have cleared : chat.clearSystemNotices [.awaitApproval] = chat := by
      unfold Chat.awaitingApproval at idle
      rw [List.any_eq_false] at idle
      have all : chat.history.filter (fun m => !(m.system && m.kind ∈ [Kind.awaitApproval]))
          = chat.history := by
        rw [List.filter_eq_self]
        intro m member
        have other := idle m member
        cases byUs : m.system with
        | false => simp
        | true => simpa [byUs] using other
      simp only [Chat.clearSystemNotices, all]
    have first : OnlyHeld contact n.myRelaySet n
        (n.modifyChat contact (·.clearSystemNotices [.awaitApproval])) := by
      refine .modifyChat n _ ?_
      intro chat' found'
      obtain rfl : chat = chat' := by simpa [found] using found'
      rw [cleared]
      exact .refl _ chat
    exact first.trans (announceRelaySetTo_onlyHeld
      (n.modifyChat contact (·.clearSystemNotices [.awaitApproval])) contact now)

/-- A forged frame of the current format: at most a settled contact's approval makes us tell them
our relay set. -/
theorem processFrame_onlyHeld {n : Node X} {contact : String} {frame : Frame X.OlmMessage}
    (forged : n.Forged contact frame) (fromAddress : Option String) (inputs : FrameInputs) (now : Nat)
    (established : ∀ chat, n.chats.lookup contact = some chat → X.hasReceived chat.session = true)
    (settled : ∀ chat, n.chats.lookup contact = some chat → chat.awaitingApproval = false) :
    OnlyHeld contact n.myRelaySet n (n.processFrame fromAddress frame inputs now).1 := by
  obtain ⟨claims, unread, unpaired⟩ := forged
  let noted : Node X := { n with dirty := true }
  have marked : OnlyHeld contact n.myRelaySet n noted := .of_chats rfl rfl
  have nothing {n' : Node X} (same : n' = noted) : OnlyHeld contact n.myRelaySet n n' := same ▸ marked
  cases frame with
  | hello sender address message =>
    apply nothing
    simp only [processFrame, receiveHello]
    cases readable : message.toOlm with
    | none => rfl
    | some olm =>
      have refused : X.acceptInbound n.account sender olm = none := by
        simpa [accepts, readable] using unpaired
      simp only [refused]
      rfl
  | message sender id message => exact nothing (receiveUser_unread (n := noted) (unread _ _ rfl) _ _ _ _)
  | burn sender id message => exact nothing (receiveUser_unread (n := noted) (unread _ _ rfl) _ _ _ _)
  | «sealed» kind sender message => exact nothing (processSealed_unread (n := noted) kind (unread _ _ rfl) _ _)
  | approved sender code =>
    obtain rfl : sender = contact := by simpa [Frame.claimedSender] using claims
    exact marked.trans (receiveApproved_onlyHeld noted sender now settled)
  | codeInUse sender code =>
    obtain rfl : sender = contact := by simpa [Frame.claimedSender] using claims
    apply nothing
    -- The chat is established, so the report that its code was spent is ignored.
    have deaf : (n.chats.lookup sender).any (fun chat => !X.hasReceived chat.session) = false := by
      cases found : n.chats.lookup sender with
      | none => rfl
      | some chat => simp [established chat found]
    simp only [processFrame, receiveCodeInUse, deaf]
    rfl
  | pake data => exact nothing rfl
  | clientKey sender key => exact nothing rfl
  | cover padding => exact nothing rfl

/-- A forged envelope of any format. -/
theorem take_onlyHeld {n : Node X} {contact : String} {a : Arrival X}
    (forged : n.Forged contact a.bytes.f)
    (established : ∀ chat, n.chats.lookup contact = some chat → X.hasReceived chat.session = true)
    (settled : ∀ chat, n.chats.lookup contact = some chat → chat.awaitingApproval = false) :
    OnlyHeld contact n.myRelaySet n (n.take a) := by
  unfold take takeIn
  cases read : decode a.bytes with
  | none =>
    cases legacy : legacySender a.bytes with
    | none => exact .refl n
    | some sender =>
      -- The old format names its sender in the clear, as the current one does.
      have named : a.bytes.f.claimedSender = some sender := by
        unfold legacySender at legacy
        split at legacy
        · cases legacy
        · exact legacy
      obtain rfl : contact = sender := by simpa [forged.claims] using named
      exact noteLegacyFrame_onlyHeld n contact _
  | some frame =>
    have same : frame = a.bytes.f := by
      unfold decode at read
      split at read
      · simpa using read.symm
      · cases read
    subst same
    simp only []
    obtain ⟨seen, twice, noted, -⟩ := isDuplicateUserFrame_noted n a.bytes.f a.bytes
    rw [noted]
    cases twice with
    | true => exact .of_chats rfl rfl
    | false =>
      let noted : Node X := { n with seenFrames := seen }
      have forged' : noted.Forged contact a.bytes.f :=
        ⟨forged.claims, forged.unread, forged.unpaired⟩
      have first : OnlyHeld contact n.myRelaySet n noted := .of_chats rfl rfl
      exact first.trans (processFrame_onlyHeld (n := noted) forged' a.fromAddress a.inputs a.now
        established settled)

/--
Forged frames are powerless: whatever is sent in the name of a contact whose chat is established
and settled, every chat stays as it was.

All that may change is the named chat's mark for the old format, unless its contact announced 0.2
or later, and its ratchet, by sealing our own relay set for a contact who was not told it.
-/
theorem forged_powerless
    (heard : ∀ (s t : X.Session) plaintext message, X.encrypt s plaintext = some (t, message) →
      X.hasReceived t = X.hasReceived s)
    (n : Node X) (contact : String) (chat : Chat X) (found : n.chats.lookup contact = some chat)
    (established : X.hasReceived chat.session = true) (settled : chat.awaitingApproval = false)
    (arrivals : List (Arrival X)) (forged : Forgeries contact n arrivals) :
    OnlyHeld contact n.myRelaySet n (n.takeAll arrivals) := by
  induction arrivals generalizing n chat with
  | nil => exact .refl n
  | cons a rest ih =>
    obtain ⟨first, later⟩ := forged
    have one : OnlyHeld contact n.myRelaySet n (n.take a) := by
      apply take_onlyHeld first
      · intro chat' found'
        obtain rfl : chat = chat' := by simpa [found] using found'
        exact established
      · intro chat' found'
        obtain rfl : chat = chat' := by simpa [found] using found'
        exact settled
    -- The chat is still established and settled, so the rest does no more.
    have related := one.named
    rw [found] at related
    cases after : (n.take a).chats.lookup contact with
    | none => rw [after] at related; cases related
    | some chat' =>
      rw [after] at related
      cases related with
      | some held =>
        have established' : X.hasReceived chat'.session = true := by
          rcases held.session with same | ⟨-, -, -, sealings⟩
          · rw [same]
            exact established
          · revert sealings
            generalize chat'.session = last
            intro sealings
            induction sealings with
            | refl => exact established
            | tail _ used earlier =>
              obtain ⟨message, encrypted⟩ := used
              rw [heard _ _ _ _ encrypted]
              exact earlier
        have settled' : chat'.awaitingApproval = false := by
          rw [held.rest]
          exact settled
        have mine : (n.take a).myRelaySet = n.myRelaySet := by rw [myRelaySet, one.relays, myRelaySet]
        have tail := ih (n.take a) chat' after established' settled' later
        rw [mine] at tail
        exact one.trans tail

/-- A forged receipt, approval and old-format text do nothing to a chat but mark it. -/
theorem forged_powerless_three :
    OnlyHeld "them" Symbolic.device.myRelaySet Symbolic.device (Symbolic.device.takeAll
      [⟨none, encode (.delivered "them" (Symbolic.fromStranger (utf8 "id"))), {}, 5⟩,
        ⟨none, encode (.approved "them" ""), {}, 6⟩,
        ⟨none, encodeLegacy (.message "them" "id" (Symbolic.fromStranger (utf8 "hi"))), {}, 7⟩]) := by
  have heard : ∀ (s t : symbolic.Session) plaintext message,
      symbolic.encrypt s plaintext = some (t, message) → symbolic.hasReceived t = symbolic.hasReceived s := by
    rintro s t plaintext message encrypted
    cases encrypted
    rfl
  refine forged_powerless heard Symbolic.device "them" Symbolic.chat rfl rfl rfl _
    ⟨⟨rfl, ?_, rfl⟩, ⟨rfl, ?_, rfl⟩, ⟨rfl, ?_, rfl⟩, trivial⟩
  · rintro sender message ⟨⟩
    exact Option.isNone_iff_eq_none.mp (by decide +kernel)
  · rintro sender message ⟨⟩
  · rintro sender message ⟨⟩
    exact Option.isNone_iff_eq_none.mp (by decide +kernel)

/-- A pairing does not open on the session it replaces, and moves the chat to another address. -/
theorem pairing_not_powerless :
    let hello : Frame symbolic.OlmMessage :=
      .hello "them" "elsewhere.onion" (Symbolic.pairing { relays := {} })
    let after := Symbolic.device.takeAll [⟨none, encode hello, {}, 5⟩]
    Symbolic.device.opens "them" (Symbolic.pairing { relays := {} }) = none
      ∧ symbolic.hasReceived Symbolic.chat.session = true ∧ Symbolic.chat.awaitingApproval = false
      ∧ (Symbolic.device.chats.lookup "them").map (·.peerAddress) = some "them.onion"
      ∧ (after.chats.lookup "them").map (·.peerAddress) = some "elsewhere.onion" := by
  refine ⟨Option.isNone_iff_eq_none.mp ?_, ?_, ?_, ?_, ?_⟩ <;> decide +kernel

end Node

end Nightdrop
