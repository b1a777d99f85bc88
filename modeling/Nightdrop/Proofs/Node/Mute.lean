import Nightdrop.Node.Door
import Nightdrop.Proofs.Node.Queue
import Nightdrop.Proofs.Node.Handlers

/-! What a device does without a word to one contact: no chat of theirs begins, and nothing is queued. -/

namespace Nightdrop

variable {X : Externals} {whom : String}

/-- Nothing is begun with a contact and no frame is queued for them that was not before. -/
structure Node.Mute (whom : String) (n n' : Node X) : Prop where
  absent : n.chats.lookup whom = none → n'.chats.lookup whom = none
  held : ∀ h' ∈ n'.held, h'.contactId = whom → ∃ h ∈ n.held, h.contactId = whom
  queued : ∀ bytes, n'.Queued whom bytes → n.Queued whom bytes

namespace Node

namespace Mute

theorem refl (n : Node X) : n.Mute whom n := ⟨id, fun h member same => ⟨h, member, same⟩, fun _ => id⟩

theorem trans {a b c : Node X} (first : a.Mute whom b) (second : b.Mute whom c) : a.Mute whom c where
  absent none := second.absent (first.absent none)
  held h' member same := by
    obtain ⟨h, there, theirs⟩ := second.held h' member same
    exact first.held h there theirs
  queued bytes after := first.queued bytes (second.queued bytes after)

/-- Where the queues are as they were, only the chats matter. -/
theorem of_queues {n n' : Node X} (absent : n.chats.lookup whom = none → n'.chats.lookup whom = none)
    (held : n'.held = n.held) (pendingSends : n'.pendingSends = n.pendingSends)
    (pendingControl : n'.pendingControl = n.pendingControl) (outbox : n'.outbox = n.outbox)
    (receiptSends : n'.receiptSends = n.receiptSends) : n.Mute whom n' where
  absent := absent
  held h' member same := ⟨h', held ▸ member, same⟩
  queued bytes after := by
    cases after with
    | held member => exact .held (held ▸ member)
    | pendingSends member => exact .pendingSends (pendingSends ▸ member)
    | pendingControl member => exact .pendingControl (pendingControl ▸ member)
    | outbox member => exact .outbox (outbox ▸ member)
    | receiptSends member => exact .receiptSends (receiptSends ▸ member)

/-- A change of one chat begins none, whatever else changes beside the queues. -/
theorem of_modify {n n' : Node X} {contact : String} {f : Chat X → Chat X}
    (chats : n'.chats = n.chats.modify contact f)
    (held : n'.held = n.held) (pendingSends : n'.pendingSends = n.pendingSends)
    (pendingControl : n'.pendingControl = n.pendingControl) (outbox : n'.outbox = n.outbox)
    (receiptSends : n'.receiptSends = n.receiptSends) : n.Mute whom n' := by
  refine of_queues (fun absent => ?_) held pendingSends pendingControl outbox receiptSends
  rw [chats, KeyedMap.lookup_modify]
  split
  · rename_i here
    subst here
    rw [absent]
    rfl
  · exact absent

theorem modifyChat (n : Node X) (contact : String) (f : Chat X → Chat X) :
    n.Mute whom (n.modifyChat contact f) :=
  of_modify rfl rfl rfl rfl rfl rfl

/-- A frame joins the outbox for someone else. -/
theorem queue (n : Node X) {o : Outbound X} (apart : o.send.recipientIk ≠ whom) :
    n.Mute whom { n with outbox := n.outbox ++ [o] } where
  absent := id
  held h' member same := ⟨h', member, same⟩
  queued bytes after := by
    cases after with
    | held member => exact .held member
    | pendingSends member => exact .pendingSends member
    | pendingControl member => exact .pendingControl member
    | receiptSends member => exact .receiptSends member
    | outbox member =>
      rcases List.mem_append.mp member with old | new
      · exact .outbox old
      · cases List.mem_singleton.mp new
        exact absurd rfl apart

/-- A frame is held for someone else. -/
theorem hold (n : Node X) {h : HeldSend X} (apart : h.contactId ≠ whom) :
    n.Mute whom { n with held := n.held ++ [h] } where
  absent := id
  held h' member same := by
    rcases List.mem_append.mp member with old | new
    · exact ⟨h', old, same⟩
    · cases List.mem_singleton.mp new
      exact absurd same apart
  queued bytes after := by
    cases after with
    | pendingSends member => exact .pendingSends member
    | pendingControl member => exact .pendingControl member
    | outbox member => exact .outbox member
    | receiptSends member => exact .receiptSends member
    | held member =>
      rcases List.mem_append.mp member with old | new
      · exact .held old
      · cases List.mem_singleton.mp new
        exact absurd rfl apart

/-- A control frame is kept for someone else. -/
theorem control (n : Node X) {p : PendingControl X} (apart : p.recipientIk ≠ whom) :
    n.Mute whom { n with pendingControl := n.pendingControl ++ [p] } where
  absent := id
  held h' member same := ⟨h', member, same⟩
  queued bytes after := by
    cases after with
    | held member => exact .held member
    | pendingSends member => exact .pendingSends member
    | outbox member => exact .outbox member
    | receiptSends member => exact .receiptSends member
    | pendingControl member =>
      rcases List.mem_append.mp member with old | new
      · exact .pendingControl old
      · cases List.mem_singleton.mp new
        exact absurd rfl apart

/-- A message is deferred for someone else. -/
theorem pend (n : Node X) {p : PendingRelaySend X} (apart : p.contactId ≠ whom) :
    n.Mute whom { n with pendingSends := n.pendingSends ++ [p] } where
  absent := id
  held h' member same := ⟨h', member, same⟩
  queued bytes after := by
    cases after with
    | held member => exact .held member
    | pendingControl member => exact .pendingControl member
    | outbox member => exact .outbox member
    | receiptSends member => exact .receiptSends member
    | pendingSends member =>
      rcases List.mem_append.mp member with old | new
      · exact .pendingSends old
      · cases List.mem_singleton.mp new
        exact absurd rfl apart

/-- A receipt is queued for someone else. -/
theorem receipt (n : Node X) {s : DetachedSend X} (apart : s.recipientIk ≠ whom) :
    n.Mute whom { n with receiptSends := n.receiptSends ++ [s] } where
  absent := id
  held h' member same := ⟨h', member, same⟩
  queued bytes after := by
    cases after with
    | held member => exact .held member
    | pendingSends member => exact .pendingSends member
    | pendingControl member => exact .pendingControl member
    | outbox member => exact .outbox member
    | receiptSends member =>
      rcases List.mem_append.mp member with old | new
      · exact .receiptSends old
      · cases List.mem_singleton.mp new
        exact absurd rfl apart

end Mute

/-- An announcement's outcome queues nothing. -/
theorem applyAnnounced_mute (n : Node X) (kind : Announce) (contact : String) (delivered : Bool)
    (now : Nat) : n.Mute whom (n.applyAnnounced kind contact delivered now) := by
  have changed (n : Node X) (f : Chat X → Chat X) (noted : Bool) :
      n.Mute whom { n.modifyChat contact f with dirty := noted } :=
    (Mute.modifyChat n contact f).trans (.of_queues id rfl rfl rfl rfl rfl)
  have retracted (n : Node X) : n.Mute whom (n.retractAnnounced kind contact) := by
    cases kind with
    | block on | nearby seq =>
      simp only [retractAnnounced]
      split
      · exact .of_queues id rfl rfl rfl rfl rfl
      · exact .refl n
    | _ => exact .of_queues id rfl rfl rfl rfl rfl
  unfold applyAnnounced
  simp only []
  have begun : n.Mute whom (if kind = .mailbox && delivered then
      { n.modifyChat contact (mailboxAnnouncedAt now) with
        dirty := n.dirty || ((n.chats.lookup contact).bind (·.mailbox)).isSome } else n) := by
    split
    · exact changed n _ _
    · exact .refl n
  refine begun.trans ?_
  generalize (if kind = .mailbox && delivered then
    { n.modifyChat contact (mailboxAnnouncedAt now) with
      dirty := n.dirty || ((n.chats.lookup contact).bind (·.mailbox)).isSome } else n) = n1
  split
  · have lowered : n1.Mute whom
        { n1 with relaySetInFlight := n1.relaySetInFlight.erase contact } :=
      .of_queues id rfl rfl rfl rfl rfl
    split
    · exact lowered.trans (changed _ _ _)
    · exact lowered
  · split
    · cases kind with
      | nearby seq =>
        simp only []
        split
        · refine Mute.trans (changed n1 (n1.recordTold (.nearby seq) contact now)
            (n1.dirty || (n.chats.lookup contact).isSome)) (.of_queues ?_ rfl rfl rfl rfl rfl)
          exact id
        · exact changed n1 _ _
      | _ => exact changed n1 _ _
    · exact retracted n1

/-- A frame for someone else goes to no one but them. -/
theorem deliverWith_mute (n : Node X) (peerAddress : String) {contact : String}
    (frame : Frame X.OlmMessage) (fresh : Bool) (done : OutboundDone X) (now : Nat)
    (apart : contact ≠ whom) :
    n.Mute whom (n.deliverWith peerAddress contact frame fresh done now) := by
  have held : n.Mute whom { n with
      held := n.held ++ [{ contactId := contact, msgId := "", bytes := encode frame }]
      dirty := true } :=
    (Mute.hold n apart).trans (.of_queues id rfl rfl rfl rfl rfl)
  unfold deliverWith
  split
  · cases done with
    | announced kind id => exact applyAnnounced_mute n kind id false now
    | nothing => exact held
    | caller _ => exact held
    | _ => exact .refl n
  · exact .queue n apart

/-- Sealing a control frame begins no chat. -/
theorem authedControl_mute {n n' : Node X} {contact address : String} {marker : Bytes}
    {kind : SealedKind} {frame : Frame X.OlmMessage}
    (did : n.authedControl contact marker kind = some (n', address, frame)) : n.Mute whom n' := by
  obtain ⟨_, _, _, -, -, rfl, -, -⟩ := authedControl_eq did
  exact .modifyChat n contact _

theorem sendControl_mute (n : Node X) {contact : String} (marker : Bytes) (kind : SealedKind)
    (fresh : Bool) (done : OutboundDone X) (now : Nat) (apart : contact ≠ whom) :
    n.Mute whom (n.sendControl contact marker kind fresh done now) := by
  unfold sendControl
  split
  · exact .refl n
  · rename_i n1 address frame did
    exact (authedControl_mute did).trans (deliverWith_mute n1 address frame fresh done now apart)

/-- An announcement to someone else. -/
theorem announce_mute (n : Node X) {contact : String} (kind : Announce) (carrier : SealedKind)
    (marker : Bytes) {raise : Node X → Node X} (now : Nat)
    (flags : ∀ n : Node X, n.Mute whom (raise n)) (apart : contact ≠ whom) :
    n.Mute whom (n.announce contact kind carrier marker raise now) := by
  unfold announce
  split
  · exact .refl n
  · rename_i n1 address frame did
    exact ((authedControl_mute did).trans (flags n1)).trans
      (deliverWith_mute _ address frame false _ now apart)

theorem announceBurnsTo_mute (n : Node X) {contact : String} (now : Nat) (apart : contact ≠ whom) :
    n.Mute whom (n.announceBurnsTo contact now) :=
  announce_mute n _ _ _ now (fun _ => .of_queues id rfl rfl rfl rfl rfl) apart

theorem announceVersionTo_mute (n : Node X) {contact : String} (now : Nat) (apart : contact ≠ whom) :
    n.Mute whom (n.announceVersionTo contact now) := by
  unfold announceVersionTo
  split
  · exact .refl n
  · exact announce_mute n _ _ _ now (fun _ => .of_queues id rfl rfl rfl rfl rfl) apart

theorem announceCapturesTo_mute (n : Node X) {contact : String} (now : Nat) (apart : contact ≠ whom) :
    n.Mute whom (n.announceCapturesTo contact now) := by
  unfold announceCapturesTo
  split
  · exact .refl n
  · exact announce_mute n _ _ _ now (fun _ => .of_queues id rfl rfl rfl rfl rfl) apart

theorem announceBlockTo_mute (n : Node X) {contact : String} (now : Nat) (apart : contact ≠ whom) :
    n.Mute whom (n.announceBlockTo contact now) := by
  unfold announceBlockTo
  split
  · exact .refl n
  · exact announce_mute n _ _ _ now (fun _ => .of_queues id rfl rfl rfl rfl rfl) apart

theorem announceStanding_mute (n : Node X) {contact : String} (now : Nat) (apart : contact ≠ whom) :
    n.Mute whom (n.announceStanding contact now) :=
  (((announceCapturesTo_mute n now apart).trans (announceBlockTo_mute _ now apart)).trans
    (announceBurnsTo_mute _ now apart)).trans (announceVersionTo_mute _ now apart)

/-- A contact with an approved chat is not one without. -/
theorem unapproved_apart {n : Node X} {contact : String} {chat : Chat X}
    (quiet : contact ≠ whom ∨ n.approves whom = false)
    (found : n.chats.lookup contact = some chat) (approved : chat.authorized = true) : contact ≠ whom := by
  rintro rfl
  rcases quiet with apart | unapproved
  · exact apart rfl
  · simp [approves, found, approved] at unapproved

/-- Our relay set is told to approved contacts only. -/
theorem announceRelaySetTo_mute (n : Node X) (contact : String) (now : Nat)
    (quiet : contact ≠ whom ∨ n.approves whom = false) : n.Mute whom (n.announceRelaySetTo contact now) := by
  unfold announceRelaySetTo
  simp only []
  split
  · exact .refl n
  · rename_i chat found
    split
    · exact .refl n
    · rename_i goes
      have approved : chat.authorized = true := by
        by_contra not
        simp [not] at goes
      exact announce_mute n _ _ _ now (fun _ => .of_queues id rfl rfl rfl rfl rfl)
        (unapproved_apart quiet found approved)

/-- And so is our contribution to a mailbox. -/
theorem sendMailboxKey_mute (n : Node X) (contact : String) (fresh : Bytes) (now : Nat)
    (quiet : contact ≠ whom ∨ n.approves whom = false) : n.Mute whom (n.sendMailboxKey contact fresh now) := by
  unfold sendMailboxKey
  split
  · exact .refl n
  · split
    · exact .refl n
    · rename_i chat found
      split
      · exact .refl n
      · rename_i goes
        have approved : chat.authorized = true := by
          by_contra not
          simp [not] at goes
        have apart := unapproved_apart quiet found approved
        simp only []
        generalize (Option.getD _ _ : MailboxPair) = pair
        have changed (n : Node X) (pair : MailboxPair) (noted : Bool) : n.Mute whom
            { n.modifyChat contact (fun chat => { chat with mailbox := some pair }) with
              dirty := noted } :=
          (Mute.modifyChat n contact _).trans (.of_queues id rfl rfl rfl rfl rfl)
        split
        · exact changed n pair _
        · rename_i n1 address frame did
          exact (((changed n pair _).trans (authedControl_mute did)).trans (changed n1 _ _)).trans
            (deliverWith_mute _ address frame false _ now apart)

/-- A key is handed to someone else. -/
theorem announceClientKey_mute (n : Node X) {contact : String} (peerAddress : String)
    (minted : Option (String × Bytes)) (now : Nat) (apart : contact ≠ whom) :
    n.Mute whom (n.announceClientKey contact peerAddress minted now) := by
  unfold announceClientKey
  split
  · exact .refl n
  · rename_i clientKey secret
    simp only []
    have kept : n.Mute whom { n.modifyChat contact (fun chat => { chat with clientKey := some secret })
        with dirty := n.dirty || (n.chats.lookup contact).isSome } :=
      (Mute.modifyChat n contact _).trans (.of_queues id rfl rfl rfl rfl rfl)
    split
    · exact kept
    · rename_i n1 address frame did
      exact (kept.trans (authedControl_mute did)).trans
        (deliverWith_mute n1 peerAddress frame false _ now apart)

/-- A control frame that is held until it lands, for someone else. -/
theorem queuePendingControl_mute (n : Node X) {p : PendingControl X} (route : Route)
    (apart : p.recipientIk ≠ whom) : n.Mute whom (n.queuePendingControl p route) := by
  unfold queuePendingControl
  simp only []
  refine Mute.trans ?_ (.queue _ (by exact apart))
  exact (Mute.control n (p := { p with inFlight := true }) apart).trans
    (.of_queues id rfl rfl rfl rfl rfl)

theorem sendCaptureNotice_mute (n : Node X) {contact : String} (marker : Bytes) (now : Nat)
    (apart : contact ≠ whom) : n.Mute whom (n.sendCaptureNotice contact marker now) := by
  unfold sendCaptureNotice
  split
  · exact .refl n
  · rename_i n1 address frame did
    exact (authedControl_mute did).trans (queuePendingControl_mute n1 _ apart)

/-- A retried held queue has the frames it had. -/
theorem flushHeldFor_mute (n : Node X) (only : Option String) (directFirst : Bool) (now : Nat) :
    n.Mute whom (n.flushHeldFor only directFirst now) := by
  have dropped : n.Mute whom n.dropGone := {
    absent := id
    held := fun h' member same => ⟨h', (List.mem_filter.mp member).1, same⟩
    queued := fun bytes after => by
      cases after with
      | held member => exact .held (List.mem_filter.mp member).1
      | pendingSends member => exact .pendingSends member
      | pendingControl member => exact .pendingControl member
      | outbox member => exact .outbox member
      | receiptSends member => exact .receiptSends member }
  unfold flushHeldFor
  refine dropped.trans ?_
  generalize n.dropGone = n
  simp only []
  generalize walked : n.heldDue only directFirst now [] n.held = due
  have same : due.map Prod.fst = n.held := walked ▸ heldDue_fst n only directFirst now [] n.held
  have inHeld {d : HeldSend X × Option Route} (member : d ∈ due) : d.1 ∈ n.held :=
    same ▸ List.mem_map_of_mem member
  refine ⟨id, fun h' member theirs => ?_, fun bytes after => ?_⟩
  · obtain ⟨d, inDue, rfl⟩ := List.mem_map.mp member
    exact ⟨d.1, inHeld inDue, theirs⟩
  · cases after with
    | held member =>
      obtain ⟨d, inDue, rfl⟩ := List.mem_map.mp member
      exact .held (h := d.1) (inHeld inDue)
    | pendingSends member => exact .pendingSends member
    | pendingControl member => exact .pendingControl member
    | receiptSends member => exact .receiptSends member
    | outbox member =>
      rcases List.mem_append.mp member with old | new
      · exact .outbox old
      · -- What goes out now was held.
        obtain ⟨d, inDue, sent⟩ := List.mem_filterMap.mp new
        obtain ⟨route, -, rfl⟩ := Option.map_eq_some_iff.mp sent
        exact .held (h := d.1) (inHeld inDue)

/-- And so have the retried control frames. -/
theorem flushPendingControlFor_mute (n : Node X) (only : Option String) (now : Nat) :
    n.Mute whom (n.flushPendingControlFor only now) := by
  unfold flushPendingControlFor
  simp only []
  have marked {p : PendingControl X} (member : p ∈ n.pendingControl.map (fun p =>
      { p with inFlight := p.inFlight || n.controlDue only now p })) :
      n.Queued p.recipientIk p.bytes := by
    obtain ⟨q, there, rfl⟩ := List.mem_map.mp member
    exact .pendingControl (p := q) there
  refine ⟨id, fun h' member theirs => ⟨h', member, theirs⟩, fun bytes after => ?_⟩
  cases after with
  | held member => exact .held member
  | pendingSends member => exact .pendingSends member
  | pendingControl member => exact marked member
  | receiptSends member => exact .receiptSends member
  | outbox member =>
    rcases List.mem_append.mp member with old | new
    · exact .outbox old
    · obtain ⟨d, -, sent⟩ := List.mem_filterMap.mp new
      obtain ⟨p, found, rfl⟩ := Option.map_eq_some_iff.mp sent
      exact marked (List.mem_of_find?_eq_some found)

/-- Hearing from someone lets out what waits, and no more. -/
theorem heardFrom_mute (n : Node X) (contact : String) (now : Nat) :
    n.Mute whom (n.heardFrom contact now) := by
  unfold heardFrom
  simp only []
  have cleared : n.Mute whom { n with heldBackoff := n.heldBackoff.erase contact } :=
    .of_queues id rfl rfl rfl rfl rfl
  split
  · exact (cleared.trans (flushHeldFor_mute _ _ _ now)).trans (flushPendingControlFor_mute _ _ now)
  · exact cleared

end Node

end Nightdrop
