import Nightdrop.Node.Request
import Nightdrop.Node.Symbolic
import Nightdrop.Proofs.Node.Gone

/-! A request is told nothing before it is accepted, wherever the senders look who it is. -/

namespace Nightdrop

variable {X : Externals} {whom : String}

namespace Node

variable {n n' : Node X}

/-- The frames of the queues, by their contacts. -/
theorem mem_frames {contact : String} {bytes : Envelope X.OlmMessage} :
    (contact, bytes) ∈ n.frames ↔ n.Queued contact bytes := by
  constructor
  · intro member
    simp only [frames, List.mem_append, List.mem_map, Prod.mk.injEq] at member
    rcases member with (((⟨h, there, rfl, rfl⟩ | ⟨p, there, rfl, rfl⟩) | ⟨p, there, rfl, rfl⟩)
      | ⟨o, there, rfl, rfl⟩) | ⟨s, there, rfl, rfl⟩
    · exact .held there
    · exact .pendingSends there
    · exact .pendingControl there
    · exact .outbox there
    · exact .receiptSends there
  · intro queued
    simp only [frames, List.mem_append, List.mem_map, Prod.mk.injEq]
    cases queued with
    | held member => exact .inl (.inl (.inl (.inl ⟨_, member, rfl, rfl⟩)))
    | pendingSends member => exact .inl (.inl (.inl (.inr ⟨_, member, rfl, rfl⟩)))
    | pendingControl member => exact .inl (.inl (.inr ⟨_, member, rfl, rfl⟩))
    | outbox member => exact .inl (.inr ⟨_, member, rfl, rfl⟩)
    | receiptSends member => exact .inr ⟨_, member, rfl, rfl⟩

/-- A contact without an approved chat is a request, or has no chat. -/
theorem absent_of_quiet {contact : String} (quiet : n.approves contact = false)
    (decided : n.asks contact = false) : n.chats.lookup contact = none := by
  cases found : n.chats.lookup contact with
  | none => rfl
  | some chat =>
    unfold approves at quiet
    unfold asks at decided
    rw [found] at quiet decided
    cases approved : chat.authorized <;> simp [approved] at quiet decided

/-- A contact whose chat passes a test of the senders is approved. -/
theorem contactsWhere_apart {test : String → Chat X → Bool} (quiet : n.approves whom = false)
    (approved : ∀ contact chat, test contact chat = true → chat.authorized = true) :
    ∀ contact ∈ n.contactsWhere test, contact ≠ whom := by
  rintro contact member rfl
  simp only [contactsWhere, List.mem_map, List.mem_filter] at member
  obtain ⟨⟨name, chat⟩, ⟨entry, passes⟩, rfl⟩ := member
  have found : n.chats.lookup name = some chat := AList.mem_lookup_iff.mpr entry
  simp [approves, found, approved name chat passes] at quiet

/-- Senders that go through contacts say nothing to one who is none of them. -/
theorem Mute.foldl {A : Type} (send : Node X → A → Node X) (list : List A)
    (each : ∀ (n : Node X), ∀ a ∈ list, n.Mute whom (send n a)) (n : Node X) :
    n.Mute whom (list.foldl send n) := by
  induction list generalizing n with
  | nil => exact .refl n
  | cons a rest ih =>
    exact (each n a (.head _)).trans (ih (fun n b member => each n b (.tail _ member)) _)

/-- The address of this device is told to someone else. -/
theorem sendAddressTo_mute (n : Node X) {contact : String} (now : Nat) (apart : contact ≠ whom) :
    n.Mute whom (n.sendAddressTo contact now) := by
  unfold sendAddressTo
  simp only []
  have flagged : n.Mute whom
      { n with addressAnnounced := n.addressAnnounced.insert contact n.address } :=
    .of_queues id rfl rfl rfl rfl rfl
  refine flagged.trans ?_
  split
  · exact .of_queues id rfl rfl rfl rfl rfl
  · rename_i n1 address frame did
    exact (authedControl_mute did).trans (deliverWith_mute n1 _ _ _ _ now apart)

theorem announceNearbyTo_mute (n : Node X) {contact : String} (now : Nat) (apart : contact ≠ whom) :
    n.Mute whom (n.announceNearbyTo contact now) := by
  unfold announceNearbyTo
  split
  · exact .refl n
  · exact announce_mute n _ _ _ now (fun _ => .of_queues id rfl rfl rfl rfl rfl) apart

/-- A matter is told to someone else. -/
theorem tell_mute (n : Node X) (matter : Matter) {contact : String} (now : Nat)
    (apart : contact ≠ whom) : n.Mute whom (n.tell matter contact now) := by
  cases matter with
  | burns => exact announceBurnsTo_mute n now apart
  | version => exact announceVersionTo_mute n now apart
  | address => exact sendAddressTo_mute n now apart
  | captures => exact announceCapturesTo_mute n now apart
  | block => exact announceBlockTo_mute n now apart
  | relaySet => exact announceRelaySetTo_mute n contact now (.inl apart)
  | nearby => exact announceNearbyTo_mute n now apart

/-- Nobody is due to be told anything before they are approved. -/
theorem authorized_of_due {now : Nat} {contact : String} {chat : Chat X} {matter : Matter}
    (due : n.due now contact chat matter = true) : chat.authorized = true := by
  cases matter <;>
    simp only [Node.due, burnsDue, versionDue, addressDue, capturesDue, blockDue, relaySetDue,
      nearbyDue, Chat.due, Bool.and_eq_true] at due <;> simp_all

theorem announceMatter_mute (quiet : n.approves whom = false) (matter : Matter) (now : Nat) :
    n.Mute whom (n.announceMatter matter now) :=
  .foldl _ _ (fun n' contact member => tell_mute n' matter now
    (contactsWhere_apart quiet (fun _ _ due => authorized_of_due due) contact member)) n

theorem announceAddress_mute (quiet : n.approves whom = false) (now : Nat) :
    n.Mute whom (n.announceAddress now) := by
  refine .foldl _ _ (fun n' contact member => sendAddressTo_mute n' now ?_) n
  refine contactsWhere_apart quiet (fun _ chat passes => ?_) contact member
  simp only [Bool.and_eq_true] at passes
  exact passes.1

/-- The nearby tick tells only those it finds due when it begins. -/
theorem nearbyTick_mute (quiet : n.approves whom = false) (address : Option SocketAddr)
    (nowMs now : Nat) : n.Mute whom (n.nearbyTick address nowMs now) := by
  have noted : n.Mute whom (n.pushNearbyRoutes.noteNearbyAddress address nowMs) := by
    have pushed : n.Mute whom n.pushNearbyRoutes := .of_queues id rfl rfl rfl rfl rfl
    refine pushed.trans ?_
    unfold noteNearbyAddress
    split
    · exact .refl _
    · exact (mapChats_mute _ _).trans (.of_queues id rfl rfl rfl rfl rfl)
  have quiet : (n.pushNearbyRoutes.noteNearbyAddress address nowMs).approves whom = false := by
    have kept : n.Keeps Chat.authorized (n.pushNearbyRoutes.noteNearbyAddress address nowMs) := by
      unfold noteNearbyAddress
      split
      · exact .of_chats rfl
      · intro contact
        simp only [mapChats, KeyedMap.lookup_mapMaybe, pushNearbyRoutes]
        cases n.chats.lookup contact with
        | none => rfl
        | some chat =>
          simp only [Option.bind_some, Option.map_some]
          split <;> rfl
    rw [kept.approves whom]
    exact quiet
  unfold nearbyTick
  refine noted.trans (.foldl _ _ (fun n' contact member => announceNearbyTo_mute n' now ?_) _)
  have approved (n : Node X) (contact : String) (chat : Chat X)
      (due : n.nearbyDue now contact chat = true) : chat.authorized = true := by
    simp only [nearbyDue, Bool.and_eq_true] at due
    exact due.1.1.1.1
  exact contactsWhere_apart quiet (approved _) contact member

/-- The tick of the mailboxes looks who is approved when it comes to each. -/
theorem announceMailbox_mute (quiet : n.approves whom = false) (fresh : String → Bytes) (now : Nat) :
    n.Mute whom (n.announceMailbox fresh now) := by
  have one (n : Node X) (contact : String) (quiet : n.approves whom = false) :
      n.Mute whom (n.announceMailboxTo contact (fresh contact) now)
        ∧ (n.announceMailboxTo contact (fresh contact) now).approves whom = false := by
    have noted : n.Mute whom { n with mailboxAnnounced := n.mailboxAnnounced ++ [contact] } :=
      .of_queues id rfl rfl rfl rfl rfl
    have told := noted.trans (sendMailboxKey_mute _ contact (fresh contact) now (.inr quiet))
    have kept : n.Keeps Chat.authorized
        ({ n with mailboxAnnounced := n.mailboxAnnounced ++ [contact] }.sendMailboxKey contact
          (fresh contact) now) :=
      sendMailboxKey_keeps (fun _ _ => rfl) (fun _ _ => rfl)
        { n with mailboxAnnounced := n.mailboxAnnounced ++ [contact] } contact _ now
    have still := (kept.approves whom).trans quiet
    unfold announceMailboxTo
    split
    · exact ⟨.refl n, quiet⟩
    · simp only []
      split
      · split
        · exact ⟨told, still⟩
        · exact ⟨told.trans (.of_queues id rfl rfl rfl rfl rfl), still⟩
      · exact ⟨.refl n, quiet⟩
  unfold announceMailbox
  generalize n.chats.keys = contacts
  induction contacts generalizing n with
  | nil => exact .refl n
  | cons contact rest ih =>
    obtain ⟨told, still⟩ := one n contact quiet
    exact told.trans (ih still)

theorem sendUpgradeNotices_mute (quiet : n.approves whom = false) (ready : Bool) (ids : String → String)
    (now : Nat) : n.Mute whom (n.sendUpgradeNotices ready ids now) := by
  unfold sendUpgradeNotices
  split
  · exact .refl n
  · refine .foldl _ _ (fun n' contact member => sendUpgradeNotice_mute contact (ids contact) now fun _ => ?_) n
    refine contactsWhere_apart quiet (fun name chat due => ?_) contact member
    simp only [upgradeNoticeDue, Bool.and_eq_true] at due
    exact due.1.1.1.1.1

/-- The receipt sweep leaves the chat of a contact alone to whom it has nothing to send again. -/
theorem sweepOne_still (now : Nat) (a : AwaitingReceipt)
    (apart : ∀ chat, n.chats.lookup a.contactId = some chat → chat.closed = false →
      unconfirmedText chat a.msgId ≠ none → a.contactId ≠ whom) :
    (sweepOne now n a).1.chats.lookup whom = n.chats.lookup whom := by
  unfold sweepOne
  split
  · rfl
  · split
    · rfl
    · rename_i chat found
      split
      · rfl
      · rename_i isOpen
        split
        · rfl
        · rename_i text unconfirmed
          have apart : a.contactId ≠ whom :=
            apart chat found (by simpa using isOpen) (by simp [unconfirmed])
          split
          · rfl
          · rename_i n1 message enciphered
            obtain ⟨session, rfl⟩ := sealFor_eq enciphered
            simp only []
            split
            · rw [lookup_modifyChat, if_neg apart.symm]
            · show (n.modifyChat a.contactId _).chats.lookup whom = _
              rw [lookup_modifyChat, if_neg apart.symm]

theorem sweepUnconfirmed_mute (now : Nat) (apart : ∀ a ∈ n.awaitingReceipt, ∀ chat,
      n.chats.lookup a.contactId = some chat → chat.closed = false →
      unconfirmedText chat a.msgId ≠ none → a.contactId ≠ whom) :
    n.Mute whom (n.sweepUnconfirmed now) := by
  have each (waiting : List AwaitingReceipt) (n : Node X) (apart : ∀ a ∈ waiting, ∀ chat,
      a.contactId = whom → n.chats.lookup whom = some chat → chat.closed = false →
      unconfirmedText chat a.msgId = none) : n.Mute whom (sweepEach now n waiting).1 := by
    induction waiting generalizing n with
    | nil => exact .refl n
    | cons a rest ih =>
      have first : ∀ chat, n.chats.lookup a.contactId = some chat → chat.closed = false →
          unconfirmedText chat a.msgId ≠ none → a.contactId ≠ whom := by
        intro chat found isOpen text same
        exact text (apart a (.head _) chat same (same ▸ found) isOpen)
      refine (sweepOne_mute now a first).trans (ih _ fun b member chat same found => ?_)
      rw [sweepOne_still now a first] at found
      exact apart b (.tail _ member) chat same found
  have emptied : n.Mute whom { n with awaitingReceipt := [] } := .of_queues id rfl rfl rfl rfl rfl
  refine (emptied.trans (each n.awaitingReceipt _ fun a member chat same found isOpen => ?_)).trans
    (.of_queues id rfl rfl rfl rfl rfl)
  by_contra text
  exact apart a member chat (same ▸ found) isOpen text same

/-- Acks go to those they are owed to, if there is a chat. -/
theorem sendAcks_mute (landed : List String) (now : Nat)
    (apart : n.chats.lookup whom = none ∨ ∀ contact ∈ landed, contact ≠ whom) :
    n.Mute whom (n.sendAcks landed now) := by
  unfold sendAcks
  induction landed generalizing n with
  | nil => exact .refl n
  | cons contact rest ih =>
    have first : n.Mute whom (n.sendAck contact now) := by
      unfold sendAck
      split
      · exact .refl n
      · rename_i n1 address frame did
        have apart : contact ≠ whom := by
          rcases apart with absent | others
          · exact authedControl_apart absent did
          · exact others _ (.head _)
        exact (authedControl_mute did).trans (.receipt n1 apart)
    rw [List.foldl_cons]
    exact first.trans (ih (apart.imp first.absent fun others c member => others c (.tail _ member)))

theorem sendPendingReceipts_mute (now : Nat)
    (apart : n.chats.lookup whom = none ∨ ∀ r ∈ n.pendingReceipts, r.1 ≠ whom) :
    n.Mute whom (n.sendPendingReceipts now) := by
  have taken : n.Mute whom { n with pendingReceipts := [] } := .of_queues id rfl rfl rfl rfl rfl
  exact taken.trans (sendReceipts_mute now _ _ _ apart)

/-- A setting is told to approved contacts only. -/
theorem changeAndTell_mute (quiet : n.approves whom = false) (contact : String)
    (change : Chat X → Chat X) (payload : Bytes) (carrier : SealedKind) (done : OutboundDone X)
    (now : Nat) : n.Mute whom (n.changeAndTell contact change payload carrier done now).1 := by
  unfold changeAndTell changeAndSeal
  cases found : n.chats.lookup contact with
  | none => exact .refl n
  | some chat =>
    have changed : n.Mute whom (n.modifyChat contact change) := .modifyChat n contact change
    simp only []
    by_cases live : (chat.authorized && !chat.closed) = true
    · have apart : contact ≠ whom := by
        simp only [Bool.and_eq_true] at live
        exact unapproved_apart (.inr quiet) found live.1
      rw [if_pos live]
      cases did : (n.modifyChat contact change).authedControl contact payload carrier with
      | none => exact changed
      | some told =>
        exact (changed.trans (authedControl_mute did)).trans (deliverWith_mute _ _ _ _ _ now apart)
    · rw [if_neg live]
      exact changed

theorem setRemoteStorage_mute (quiet : n.approves whom = false) (contact : String) (enabled : Bool)
    (now : Nat) : n.Mute whom (n.setRemoteStorage contact enabled now).1 := by
  unfold setRemoteStorage
  split
  · exact .refl n
  · exact changeAndTell_mute quiet contact _ _ _ _ now

theorem setVerified_mute (contact : String) (verified : Bool) (now : Nat)
    (apart : (n.chats.lookup contact).isSome = true → contact ≠ whom) :
    n.Mute whom (n.setVerified contact verified now) := by
  unfold setVerified
  split
  · exact .refl n
  · rename_i found
    exact (Mute.modifyChat n contact _).trans (sendControl_mute _ _ _ _ _ now (apart (by simp [found])))

/-- A capture is told of in a chat that is open. -/
theorem reportCapture_mute (contact : String) (recording : Bool) (now : Nat)
    (apart : (n.chats.lookup contact).any (!·.closed) = true → contact ≠ whom) :
    n.Mute whom (n.reportCapture contact recording now) := by
  unfold reportCapture
  split
  · exact .refl n
  · rename_i chat found
    split
    · exact .refl n
    · rename_i isOpen
      exact (Mute.modifyChat n contact _).trans
        (sendCaptureNotice_mute _ _ now (apart (by simpa [found] using isOpen)))

theorem setCaptureOverride_mute (contact : String) (allow : Bool) (now : Nat)
    (apart : (n.chats.lookup contact).any (!·.closed) = true → contact ≠ whom) :
    n.Mute whom (n.setCaptureOverride contact allow now) := by
  unfold setCaptureOverride
  split
  · exact .refl n
  · rename_i chat found
    split
    · exact .refl n
    · rename_i goes
      have isOpen : chat.closed = false := by
        by_contra closed
        simp [closed] at goes
      exact ((Mute.modifyChat n contact _).trans
        (sendCaptureNotice_mute _ _ now (apart (by simp [found, isOpen])))).trans
          (.of_queues id rfl rfl rfl rfl rfl)

theorem markBackedUp_mute (contacts : List String) (full : Bool) (now : Nat)
    (apart : ∀ contact ∈ contacts, full = true →
      (n.chats.lookup contact).any (!·.closed) = true → contact ≠ whom) :
    n.Mute whom (n.markBackedUp contacts full now) := by
  refine .foldl _ _ (fun n' contact member => sendControl_mute n' _ _ _ _ now ?_) n
  simp only [List.mem_filter, Bool.and_eq_true] at member
  exact apart contact member.1 member.2.1 member.2.2

/-- A frame that is held joins those of its contact. -/
theorem holdMessage_queued {contact msgId : String} {held bytes : Envelope X.OlmMessage}
    (after : (n.holdMessage contact msgId held).Queued whom bytes) :
    n.Queued whom bytes ∨ (contact = whom ∧ held = bytes) := by
  unfold holdMessage at after
  simp only [] at after
  cases after with
  | held member =>
    rcases List.mem_append.mp member with old | new
    · exact .inl (.held old)
    · cases List.mem_singleton.mp new
      exact .inr ⟨rfl, rfl⟩
  | pendingSends member => exact .inl (.pendingSends member)
  | pendingControl member => exact .inl (.pendingControl member)
  | outbox member => exact .inl (.outbox member)
  | receiptSends member => exact .inl (.receiptSends member)

/-- Planning holds some frames that were deferred. -/
theorem planEach_queued (now : Nat) (sends : List (PendingRelaySend X)) {bytes : Envelope X.OlmMessage}
    (after : (planEach now n sends).1.Queued whom bytes) :
    n.Queued whom bytes ∨ ∃ p ∈ sends, p.contactId = whom ∧ p.bytes = bytes := by
  induction sends generalizing n with
  | nil => exact .inl after
  | cons p rest ih =>
    have later {n' : Node X} (after : (planEach now n' rest).1.Queued whom bytes) :
        n'.Queued whom bytes ∨ ∃ q ∈ p :: rest, q.contactId = whom ∧ q.bytes = bytes :=
      (ih after).imp_right fun ⟨q, member, same⟩ => ⟨q, .tail _ member, same⟩
    unfold planEach at after
    split at after
    · exact later after
    · split at after
      · rcases later after with held | deferred
        · exact (holdMessage_queued held).imp_right fun same => ⟨p, .head _, same⟩
        · exact .inr deferred
      · exact later after

theorem planPendingSends_queued (now : Nat) {bytes : Envelope X.OlmMessage}
    (after : (n.planPendingSends now).1.Queued whom bytes) : n.Queued whom bytes := by
  have emptied : n.Mute whom { n with pendingSends := [] } :=
    .of_fewer rfl rfl (fun _ member => by cases member) rfl (fun _ => id) (fun _ => id)
  rcases planEach_queued now _ after with before | ⟨p, member, rfl, rfl⟩
  · exact emptied.queued bytes before
  · exact .pendingSends member

/-- A planned send that reached nobody is held again. -/
theorem applySendOutcome_queued (o : SendOutcome X) (now : Nat) {bytes : Envelope X.OlmMessage}
    (after : (n.applySendOutcome o now).Queued whom bytes) :
    n.Queued whom bytes ∨ (o.contactId = whom ∧ o.bytes = bytes) := by
  by_cases reached : o.contactId = whom → o.delivered = true ∨ o.relayFailed = false
  · exact .inl ((applySendOutcome_mute n o now reached).queued bytes after)
  · simp only [Classical.not_imp, not_or, Bool.not_eq_true, Bool.not_eq_false] at reached
    obtain ⟨rfl, undelivered, failed⟩ := reached
    unfold applySendOutcome at after
    simp only [undelivered, failed, Bool.false_eq_true, if_false, if_true] at after
    refine (holdMessage_queued after).imp_left fun before => ?_
    -- What is recorded of the outcome queues nothing.
    have recorded : n.Mute o.contactId { (n.noteDirectResult false).modifyChat o.contactId
        (recordOutcome o) with
          relayEverSucceeded := (n.noteDirectResult false).relayEverSucceeded
            || (((n.noteDirectResult false).chats.lookup o.contactId).isSome && o.copies.isSome) } :=
      (noteDirectResult_mute n false).trans (.of_modify rfl rfl rfl rfl rfl rfl)
    have clocked (n1 : Node X) : n1.Mute o.contactId (n1.heldRetryFailed o.contactId now) :=
      .of_queues id rfl rfl rfl rfl rfl
    refine recorded.queued bytes ?_
    split at before
    · exact (clocked _).queued bytes before
    · exact before

/-- A frame that was lost on its way is held again. -/
theorem applyFinished_queued (f : Finished X) (now : Nat) {bytes : Envelope X.OlmMessage}
    (after : (n.applyFinished f now).Queued whom bytes) :
    n.Queued whom bytes ∨ (f.recipient = whom ∧ f.bytes = bytes) := by
  -- The device as it would be, had the frame been held already.
  let holding : Node X := { n.noteReach f now with
    held := (n.noteReach f now).held ++ [⟨f.recipient, "", f.bytes, false⟩] }
  have lost : holding.Mute whom ((n.noteReach f now).holdLost f) := by
    unfold holdLost
    split
    · exact .of_queues id rfl rfl rfl rfl rfl
    · refine ⟨id, fun h' member theirs => ⟨h', List.mem_append_left _ member, theirs⟩, ?_⟩
      intro bytes before
      cases before with
      | held member => exact .held (List.mem_append_left _ member)
      | pendingSends member => exact .pendingSends member
      | pendingControl member => exact .pendingControl member
      | outbox member => exact .outbox member
      | receiptSends member => exact .receiptSends member
  have before := (applyFinished_mute_of now lost).queued bytes after
  have noted (queued : (n.noteReach f now).Queued whom bytes) : n.Queued whom bytes :=
    (noteReach_mute n f now).queued bytes queued
  cases before with
  | held member =>
    rcases List.mem_append.mp member with old | new
    · exact .inl (noted (.held old))
    · cases List.mem_singleton.mp new
      exact .inr ⟨rfl, rfl⟩
  | pendingSends member => exact .inl (noted (.pendingSends member))
  | pendingControl member => exact .inl (noted (.pendingControl member))
  | outbox member => exact .inl (noted (.outbox member))
  | receiptSends member => exact .inl (noted (.receiptSends member))

/-- A frame that is delivered joins those of its contact. -/
theorem deliverWith_queued {peerAddress contact : String} {frame : Frame X.OlmMessage} {fresh : Bool}
    {done : OutboundDone X} {now : Nat} {bytes : Envelope X.OlmMessage}
    (after : (n.deliverWith peerAddress contact frame fresh done now).Queued whom bytes) :
    n.Queued whom bytes ∨ (contact = whom ∧ encode frame = bytes) := by
  unfold deliverWith at after
  split at after
  · have held (after : Node.Queued { n with
        held := n.held ++ [{ contactId := contact, msgId := "", bytes := encode frame }]
        dirty := true } whom bytes) : n.Queued whom bytes ∨ (contact = whom ∧ encode frame = bytes) := by
      cases after with
      | held member =>
        rcases List.mem_append.mp member with old | new
        · exact .inl (.held old)
        · cases List.mem_singleton.mp new
          exact .inr ⟨rfl, rfl⟩
      | pendingSends member => exact .inl (.pendingSends member)
      | pendingControl member => exact .inl (.pendingControl member)
      | outbox member => exact .inl (.outbox member)
      | receiptSends member => exact .inl (.receiptSends member)
    cases done with
    | announced kind id => exact .inl ((applyAnnounced_mute n kind id false now).queued bytes after)
    | nothing => exact held after
    | caller _ => exact held after
    | _ => exact .inl after
  · cases after with
    | outbox member =>
      rcases List.mem_append.mp member with old | new
      · exact .inl (.outbox old)
      · cases List.mem_singleton.mp new
        exact .inr ⟨rfl, rfl⟩
    | held member => exact .inl (.held member)
    | pendingSends member => exact .inl (.pendingSends member)
    | pendingControl member => exact .inl (.pendingControl member)
    | receiptSends member => exact .inl (.receiptSends member)

/-- A restart has the chats that were saved, approved or not as they were. -/
theorem restore_quiet (platform : Platform) (now : Nat) (quiet : n.approves whom = false) :
    (Node.restore n.exportState platform now).approves whom = false := by
  cases found : n.chats.lookup whom with
  | none =>
    have absent := (restore_buries (n := n) n.exportState platform now rfl rfl).absent found
    exact quiet_of_absent absent
  | some chat =>
    have named : n.exportState.chats.map (·.contactId) = n.chats.keys := by
      unfold exportState AList.keys List.keys
      simp [Chat.toPersisted]
    have distinct : (n.exportState.chats.map (·.contactId)).Nodup := by
      rw [named]
      exact n.chats.nodupKeys
    have written : chat.toPersisted whom ∈ n.exportState.chats :=
      List.mem_map.mpr ⟨⟨whom, chat⟩, AList.mem_lookup_iff.mp found, rfl⟩
    have there := KeyedMap.lookup_foldl_insert (·.contactId) (fun p : PersistedChat X => p.toChat now)
      distinct ∅ written
    show Option.any _ ((n.exportState.chats.foldl
      (fun (chats : KeyedMap String (Chat X)) p => chats.insert p.contactId (p.toChat now)) ∅).lookup
        whom) = false
    have same : (n.exportState.chats.foldl
        (fun (chats : KeyedMap String (Chat X)) p => chats.insert p.contactId (p.toChat now)) ∅).lookup
          whom = some ((chat.toPersisted whom).toChat now) := there
    rw [same]
    simpa [approves, found, PersistedChat.toChat, Chat.toPersisted] using quiet

/-- It has no frame that was not saved. -/
theorem restore_mute (platform : Platform) (now : Nat) :
    n.Mute whom (Node.restore n.exportState platform now) where
  absent := (restore_buries (n := n) n.exportState platform now rfl rfl).absent
  held h' member same := by
    obtain ⟨p, saved, rfl⟩ := List.mem_map.mp member
    obtain ⟨h, there, rfl⟩ := List.mem_map.mp saved
    exact ⟨h, there, same⟩
  queued bytes after := by
    cases after with
    | held member =>
      obtain ⟨p, saved, rfl⟩ := List.mem_map.mp member
      obtain ⟨h, there, rfl⟩ := List.mem_map.mp saved
      exact .held (h := h) there
    | pendingControl member =>
      obtain ⟨p, saved, rfl⟩ := List.mem_map.mp member
      obtain ⟨q, there, rfl⟩ := List.mem_map.mp saved
      exact .pendingControl (p := q) there
    | pendingSends member => cases member
    | outbox member => cases member
    | receiptSends member => cases member

/-- At startup no key is made for a request that has no address, has one, or gets none. -/
theorem restoreClientKeys_mute (quiet : n.approves whom = false)
    (minted : String → Option (String × Bytes)) (now : Nat)
    (none : ∀ chat, n.chats.lookup whom = some chat → chat.authorized = false →
      chat.peerAddress = "" ∨ chat.clientKey.isSome = true ∨ minted whom = none) :
    n.Mute whom (n.restoreClientKeys minted now) := by
  refine .foldl _ _ (fun n' e member => ?_) n
  obtain ⟨contact, chat⟩ := e
  have found : n.chats.lookup contact = some chat := AList.mem_lookup_iff.mpr member
  simp only []
  split
  · exact .refl n'
  · rename_i goes
    by_cases same : contact = whom
    · subst same
      have unapproved : chat.authorized = false := by simpa [approves, found] using quiet
      rcases none chat found unapproved with lone | keyed | unmade
      · simp [lone] at goes
      · simp [keyed] at goes
      · rw [unmade]
        exact .refl n'
    · exact announceClientKey_mute n' _ _ now same

/-- What a decision queues for its own contact before they are approved carries no ciphertext. -/
theorem authorize_queued {contact : String} {accept : Bool} {now : Nat}
    (decided : n.authorize contact accept now = .ok n') (quiet : n'.approves contact = false)
    {bytes : Envelope X.OlmMessage} (after : n'.Queued contact bytes) :
    n.Queued contact bytes ∨ bytes.f.ciphertext = none := by
  have erased {n : Node X} (after : ({ n with chats := n.chats.erase contact } : Node X).Queued contact
      bytes) : n.Queued contact bytes := (erase_mute n contact).queued bytes after
  unfold authorize at decided
  split at decided
  · cases decided
    exact .inl (erased after)
  · split at decided
    · cases decided
    · rename_i chat found
      split at decided
      · cases decided
      · split at decided
        · cases decided
          exact .inl after
        · split at decided
          · cases decided
            refine (deliverWith_queued (erased after)).imp_right fun sent => ?_
            rw [← sent.2]
            rfl
          · simp only [] at decided
            cases decided
            -- From here on the contact is approved.
            have approved : (n.modifyChat contact (fun chat =>
                { chat with authorized := true })).approves contact = true := by
              simp [approves, found]
            have unsealed : Chat.Unsealed (Chat.authorized (X := X)) := fun _ _ => rfl
            have kept (n1 : Node X) (frame : Frame X.OlmMessage) : n1.Keeps Chat.authorized
                ((((n1.applyPendingKeys contact).deliverWith chat.peerAddress contact frame false
                  (.caller none) now).announceRelaySetTo contact now).announceStanding contact now) :=
              (((applyPendingKeys_approval n1 contact).trans (.of_chats (deliverWith_chats _ _ _ _ _ _ _))).trans
                (announceRelaySetTo_keeps unsealed _ contact now)).trans
                (announceStanding_keeps unsealed _ contact now)
            have still := ((kept _ _).approves contact).symm.trans quiet
            rw [approved] at still
            cases still

/-- Where a `Hello` leaves a request, its chat has the session it opened, and nothing is queued for it. -/
theorem adoptHello_request {contact peerAddress : String} {session : X.Session} {body : Option HelloBody}
    {now : Nat} (quiet : (n.adoptHello contact peerAddress session body now).approves contact = false) :
    (∃ chat, (n.adoptHello contact peerAddress session body now).chats.lookup contact = some chat
        ∧ chat.session = session)
      ∧ (n.adoptHello contact peerAddress session body now).identityKey = n.identityKey
      ∧ ∀ bytes, (n.adoptHello contact peerAddress session body now).Queued contact bytes →
        n.Queued contact bytes := by
  -- A chat that is begun anew, with or without a notice.
  have begun (note : List ChatMessage → List ChatMessage) :
      (∃ chat, (({ n with chats := n.chats.insert contact (n.greeted session peerAddress body now) }
        : Node X).modifyChat contact (fun chat => { chat with history := note chat.history })).chats.lookup
          contact = some chat ∧ chat.session = session)
      ∧ ∀ bytes, (({ n with chats := n.chats.insert contact (n.greeted session peerAddress body now) }
        : Node X).modifyChat contact (fun chat => { chat with history := note chat.history })).Queued
          contact bytes → n.Queued contact bytes := by
    refine ⟨⟨_, by rw [lookup_modifyChat, if_pos rfl, KeyedMap.lookup_insert_if, if_pos rfl]; rfl, rfl⟩, ?_⟩
    intro bytes after
    cases after with
    | held member => exact .held member
    | pendingSends member => exact .pendingSends member
    | pendingControl member => exact .pendingControl member
    | outbox member => exact .outbox member
    | receiptSends member => exact .receiptSends member
  unfold adoptHello at quiet ⊢
  cases found : n.chats.lookup contact with
  | none =>
    refine ⟨⟨_, by rw [KeyedMap.lookup_insert_if, if_pos rfl], rfl⟩, rfl, fun bytes after => ?_⟩
    cases after with
    | held member => exact .held member
    | pendingSends member => exact .pendingSends member
    | pendingControl member => exact .pendingControl member
    | outbox member => exact .outbox member
    | receiptSends member => exact .receiptSends member
  | some prior =>
    simp only [found] at quiet ⊢
    cases closed : prior.closed with
    | true =>
      simp only [Bool.not_true, Bool.false_eq_true, if_false]
      obtain ⟨session, queued⟩ := begun (· ++ [.ofSystem
        (if prior.verified then REPAIRED_VERIFIED_TEXT else REPAIRED_TEXT) now])
      exact ⟨session, rfl, queued⟩
    | false =>
      cases approved : prior.authorized with
      | true =>
        -- An open chat that was approved is approved still.
        simp [closed, approved, approves, found, rekeyed] at quiet
      | false =>
        simp only [Bool.not_false, if_true, Bool.false_eq_true, if_false]
        refine ⟨⟨_, by rw [lookup_modifyChat, if_pos rfl, lookup_modifyChat, if_pos rfl, found]; rfl, rfl⟩,
          rfl, fun bytes after => ?_⟩
        have moved : n.Mute contact ((n.modifyChat contact (rekeyed session peerAddress body)).modifyChat
            contact (fun chat => { chat with history := chat.history ++ [.ofSystem
              (if prior.verified then REPAIRED_VERIFIED_TEXT else REPAIRED_TEXT) now] })) :=
          (Mute.modifyChat n contact _).trans (.modifyChat _ contact _)
        exact moved.queued bytes after

/-- What handing out a client key queues: the key, sealed on the session of the chat. -/
theorem announceClientKey_queued {contact peerAddress : String} {minted : Option (String × Bytes)}
    {now : Nat} {chat : Chat X} (found : n.chats.lookup contact = some chat) {bytes : Envelope X.OlmMessage}
    (after : (n.announceClientKey contact peerAddress minted now).Queued whom bytes) :
    n.Queued whom bytes ∨ ∃ key secret session answer, minted = some (key, secret)
      ∧ X.encrypt chat.session (MARK_CLIENT_KEY_PREFIX ++ utf8 key) = some (session, answer)
      ∧ bytes = encode (.sealed .clientKeySealed n.identityKey (.fromOlm answer)) := by
  unfold announceClientKey at after
  cases minted with
  | none => exact .inl after
  | some made =>
    obtain ⟨key, secret⟩ := made
    simp only [] at after
    have stored : n.Mute whom { n.modifyChat contact (fun chat =>
          { chat with clientKey := some secret }) with
        dirty := n.dirty || (n.chats.lookup contact).isSome } :=
      .of_modify rfl rfl rfl rfl rfl rfl
    split at after
    · exact .inl (stored.queued bytes after)
    · rename_i n1 address frame did
      obtain ⟨chat', session, message, there, enciphered, rfl, -, rfl⟩ := authedControl_eq did
      have keyed : chat' = { chat with clientKey := some secret } := by
        have modified : (n.modifyChat contact (fun chat =>
            { chat with clientKey := some secret })).chats.lookup contact = some chat' := there
        rw [lookup_modifyChat, if_pos rfl, found] at modified
        cases modified
        rfl
      subst keyed
      rcases deliverWith_queued after with old | ⟨-, rfl⟩
      · exact .inl (stored.queued bytes ((Mute.modifyChat _ contact _).queued bytes old))
      · exact .inr ⟨key, secret, session, message, rfl, enciphered, rfl⟩

/-- A `Hello` that leaves a request is answered with a client key at most, and only without a reply pass. -/
theorem receiveHello_queued {fromAddress : Option String} {contact address : String}
    {message : WireOlm X.OlmMessage} {inputs : PairingInputs} {now : Nat}
    (quiet : (n.receiveHello fromAddress contact address message inputs now).1.approves contact = false)
    {bytes : Envelope X.OlmMessage}
    (after : (n.receiveHello fromAddress contact address message inputs now).1.Queued contact bytes) :
    n.Queued contact bytes ∨ ∃ olm account session plaintext key secret session' answer,
      message.toOlm = some olm
        ∧ X.acceptInbound n.account contact olm = some (account, session, plaintext)
        ∧ ((X.readHello plaintext).bind (·.pass)).bind X.decodeSecret = none
        ∧ inputs.minted = some (key, secret)
        ∧ X.encrypt session (MARK_CLIENT_KEY_PREFIX ++ utf8 key) = some (session', answer)
        ∧ bytes = encode (.sealed .clientKeySealed n.identityKey (.fromOlm answer)) := by
  cases readable : message.toOlm with
  | none =>
    simp only [receiveHello, readable] at after
    exact .inl after
  | some olm =>
    cases accepted : X.acceptInbound n.account contact olm with
    | none =>
      simp only [receiveHello, readable, accepted] at after
      exact .inl after
    | some opened =>
      obtain ⟨account, session, plaintext⟩ := opened
      -- What follows the adoption moves no approval, so the chat adopted is not approved either.
      have kept : Keeps Chat.authorized _ _ := receiveHello_keeps (fun _ _ => rfl) (fun _ _ _ _ => rfl)
        (fun _ _ => rfl) n readable accepted fromAddress address inputs now
      have unapproved := (kept.approves contact).symm.trans quiet
      simp only [receiveHello, readable, accepted] at after
      generalize (if saneAddress address then address else fromAddress.getD "") = peerAddress
        at unapproved after
      obtain ⟨⟨chat, found, same⟩, identity, queued⟩ := adoptHello_request unapproved
      have begun : n.Mute contact { n with account := account } := .of_queues id rfl rfl rfl rfl rfl
      have waits : ((adoptHello { n with account := account } contact peerAddress session
          (X.readHello plaintext) now).chats.lookup contact).any (fun chat => chat.authorized) = false :=
        unapproved
      simp only [waits, Bool.false_eq_true, if_false, Bool.and_false] at after
      split at after
      · rename_i unanswered
        rcases announceClientKey_queued found after with old | ⟨key, secret, session', answer, made, sealed', rfl⟩
        · exact .inl (begun.queued bytes (queued bytes old))
        · refine .inr ⟨olm, account, session, plaintext, key, secret, session', answer, rfl, accepted, ?_, made,
            same ▸ sealed', by rw [identity]⟩
          simp only [Bool.and_eq_true] at unanswered
          exact Option.isNone_iff_eq_none.mp unanswered.2
      · exact .inl (begun.queued bytes (queued bytes after))

end Node

namespace Lobby

variable {l : Lobby X} {event : RequestEvent X}

/-- The contact of a request is not approved; one that is no request has no chat then. -/
theorem apart_of_decided {n : Node X} {contact : String} (quiet : n.approves whom = false)
    (decided : n.asks contact = false) (known : (n.chats.lookup contact).isSome = true) :
    contact ≠ whom := by
  rintro rfl
  rw [Node.absent_of_quiet quiet decided] at known
  cases known

/-- Nor does one that is no open request have an open chat. -/
theorem apart_of_idle {contact : String} (quiet : l.node.approves whom = false)
    (idle : l.waits contact = false) (isOpen : (l.node.chats.lookup contact).any (!·.closed) = true) :
    contact ≠ whom := by
  rintro rfl
  unfold waits at idle
  unfold Node.approves at quiet
  cases found : l.node.chats.lookup contact with
  | none => simp [found] at isOpen
  | some chat => simp_all

/-- A call that is refused leaves the device as it is. -/
theorem orElse_mute {n : Node X} {result : Except String (Node X)}
    (did : ∀ n', result = .ok n' → n.Mute whom n') : n.Mute whom (n.orElse result) := by
  unfold Node.orElse
  split
  · exact did _ rfl
  · exact .refl n

/-- An orderly event queues nothing for a contact not approved before it, but for the outcome of what was on
its way, for their own `Hello`, and for the decision about them. -/
theorem act_mute (orderly : l.Orderly event) (quiet : l.node.approves whom = false)
    (stranger : greeter event ≠ some whom)
    (undecided : ∀ accept now, event ≠ .authorize whom accept now)
    (unjoined : ∀ peerAddress bundle extras inputs now, event = .join peerAddress bundle extras inputs now →
      bundle.identityKey ≠ whom) {bytes : Envelope X.OlmMessage}
    (after : (l.act event).1.Queued whom bytes) :
    l.node.Queued whom bytes ∨ (whom, bytes) ∈ l.way := by
  have mute (moved : l.node.Mute whom (l.act event).1) : l.node.Queued whom bytes ∨ (whom, bytes) ∈ l.way :=
    .inl (moved.queued bytes after)
  cases event with
  | frame fromAddress envelope inputs now =>
    refine mute (Node.takeIn_mute (fun frame read => ⟨quiet, ?_, ?_⟩) fromAddress inputs now ?_)
    · rintro code rfl chat found
      have unapproved : chat.authorized = false := by simpa [Node.approves, found] using quiet
      exact (orderly whom chat found unapproved).1 code read
    · rintro message rfl chat found
      have unapproved : chat.authorized = false := by simpa [Node.approves, found] using quiet
      exact (orderly whom chat found unapproved).2 message read
    · intro address message read
      exact stranger (by simp [greeter, read])
  | acks landed now =>
    refine mute (Node.sendAcks_mute landed now ?_)
    by_cases owed : whom ∈ landed
    · exact .inl (Node.absent_of_quiet quiet (orderly whom owed))
    · exact .inr fun contact member same => owed (same ▸ member)
  | receipts now =>
    refine mute (Node.sendPendingReceipts_mute now ?_)
    by_cases owed : ∃ r ∈ l.node.pendingReceipts, r.1 = whom
    · obtain ⟨r, member, rfl⟩ := owed
      exact .inl (Node.absent_of_quiet quiet (orderly r member))
    · exact .inr fun r member same => owed ⟨r, member, same⟩
  | announceMatter matter now => exact mute (Node.announceMatter_mute quiet matter now)
  | announceAddress now => exact mute (Node.announceAddress_mute quiet now)
  | nearbyTick address nowMs now => exact mute (Node.nearbyTick_mute quiet address nowMs now)
  | announceMailbox fresh now => exact mute (Node.announceMailbox_mute quiet fresh now)
  | upgradeNotices ready ids now => exact mute (Node.sendUpgradeNotices_mute quiet ready ids now)
  | sweepUnconfirmed now =>
    refine mute (Node.sweepUnconfirmed_mute now fun a member chat found isOpen text same => ?_)
    subst same
    have unapproved : chat.authorized = false := by simpa [Node.approves, found] using quiet
    exact text (orderly a member chat found unapproved isOpen)
  | sweepTime now => exact mute (Node.sweepTime_mute _ now)
  | flushHeld now => exact mute (Node.flushHeldFor_mute _ _ _ now)
  | flushControl now => exact mute (Node.flushPendingControlFor_mute _ _ now)
  | heardFrom contact now => exact mute (Node.heardFrom_mute _ contact now)
  | plan now => exact .inl (Node.planPendingSends_queued now after)
  | outcome p delivered answers now =>
    simp only [act] at after
    split at after
    · rename_i planned
      refine (Node.applySendOutcome_queued _ now after).imp_right ?_
      rintro ⟨rfl, rfl⟩
      exact planned
    · exact .inl after
  | takeOutbox =>
    have emptied : l.node.Mute whom l.node.takeOutbox.1 :=
      .of_fewer rfl rfl (fun _ => id) rfl (fun _ member => absurd member List.not_mem_nil) fun _ => id
    exact mute emptied
  | takeReceiptSends =>
    have emptied : l.node.Mute whom l.node.takeReceiptSends.1 :=
      .of_fewer rfl rfl (fun _ => id) rfl (fun _ => id) fun _ member => absurd member List.not_mem_nil
    exact mute emptied
  | finish o answered answers now =>
    simp only [act] at after
    split at after
    · rename_i taken
      refine (Node.applyFinished_queued _ now after).imp_right ?_
      rintro ⟨rfl, rfl⟩
      exact taken
    · exact .inl after
  | text contact text id burnSecs now =>
    refine mute (orElse_mute fun n' sent => ?_)
    split at sent
    · exact Node.sendInner_mute quiet sent
    · unfold Node.sendBurn at sent
      split at sent
      · cases sent
      · split at sent
        · cases sent
        · exact Node.sendInner_mute quiet sent
  | media => exact mute (orElse_mute fun n' queued => Node.queueMedia_mute quiet queued)
  | disappearing contact secs now => exact mute (Node.changeAndTell_mute quiet contact _ _ _ _ now)
  | storage contact enabled now => exact mute (Node.setRemoteStorage_mute quiet contact enabled now)
  | rename contact name now => exact mute (Node.changeAndTell_mute quiet contact _ _ _ _ now)
  | finishEdit =>
    exact mute (orElse_mute fun n' finished => Node.finishEdit_mute (apart_of_decided quiet orderly) finished)
  | finishUnsend contact msgId recalled now =>
    refine mute (Node.finishUnsend_mute contact msgId recalled now fun chat found own same => ?_)
    subst same
    have unapproved : chat.authorized = false := by simpa [Node.approves, found] using quiet
    rw [orderly chat found unapproved] at own
    cases own
  | verified contact verified now =>
    exact mute (Node.setVerified_mute contact verified now (apart_of_decided quiet orderly))
  | capture contact recording now =>
    exact mute (Node.reportCapture_mute contact recording now (apart_of_idle quiet orderly))
  | captureOverride contact allow now =>
    exact mute (Node.setCaptureOverride_mute contact allow now (apart_of_idle quiet orderly))
  | backedUp contacts full now =>
    exact mute (Node.markBackedUp_mute contacts full now fun contact member told =>
      apart_of_idle quiet (orderly told contact member))
  | authorize contact accept now =>
    refine mute (orElse_mute fun n' decided => Node.authorize_mute (fun _ => ?_) decided)
    rintro rfl
    exact undecided accept now rfl
  | delete contact now =>
    exact mute (orElse_mute fun n' deleted => Node.deleteChat_mute (apart_of_decided quiet orderly) deleted)
  | join peerAddress bundle extras inputs now =>
    exact mute (orElse_mute fun n' joined =>
      Node.connectWithInvite_mute (unjoined peerAddress bundle extras inputs now rfl) joined)
  | restart platform minted now =>
    have restored := Node.restore_quiet platform now quiet
    exact mute ((Node.restore_mute platform now).trans
      (Node.restoreClientKeys_mute restored minted now (orderly whom)))
  | logout everyone covered =>
    refine mute (.of_queues (fun _ => rfl) rfl rfl rfl rfl rfl)

/-- What a `Hello` queues for its own request is the answer it is owed. -/
theorem greeted_queued (greets : greeter event = some whom)
    (quiet : (l.act event).1.approves whom = false) {bytes : Envelope X.OlmMessage}
    (after : (l.act event).1.Queued whom bytes) :
    l.node.Queued whom bytes ∨ l.keyAnswer event = some (whom, bytes) := by
  cases event with
  | frame fromAddress envelope inputs now =>
    cases read : decode envelope with
    | none => simp [greeter, read] at greets
    | some frame =>
      cases frame with
      | hello contact address message =>
        have same : contact = whom := by simpa [greeter, read] using greets
        subst same
        -- A `Hello` is no user frame, so it is always processed.
        simp only [act, Node.takeIn, read, Node.isDuplicateUserFrame, Node.isUserFrame, Bool.not_false,
          if_true, Node.processFrame] at quiet after
        rcases Node.receiveHello_queued quiet after with old | answered
        · have noted : l.node.Mute contact { l.node with dirty := true } := .of_queues id rfl rfl rfl rfl rfl
          exact .inl (noted.queued bytes old)
        · obtain ⟨olm, account, session, plaintext, key, secret, session', answer, readable, accepted,
            passless, made, enciphered, rfl⟩ := answered
          have accepted : X.acceptInbound l.node.account contact olm = some (account, session, plaintext) :=
            accepted
          refine .inr ?_
          simp [keyAnswer, read, readable, accepted, passless, made, enciphered]
      | _ => simp [greeter, read] at greets
  | _ => simp [greeter] at greets

/-- An orderly event hands out nothing for a request but the answer to its `Hello`. -/
theorem leaks_orderly (orderly : l.Orderly event) : l.leaks event = [] := by
  refine List.filter_eq_nil_iff.mpr fun f member leaks => ?_
  obtain ⟨whom, bytes⟩ := f
  simp only [unaccepted, Bool.and_eq_true, Bool.not_eq_true', Bool.or_eq_true, decide_eq_true_eq]
    at leaks
  obtain ⟨⟨carries, quiet, stranger⟩, unowed⟩ := leaks
  rcases List.mem_append.mp member with queued | posted
  · simp only [List.mem_filter, List.mem_append, not_or, decide_eq_true_eq, Node.mem_frames] at queued
    obtain ⟨after, unqueued, untaken⟩ := queued
    by_cases greets : greeter event = some whom
    · rcases greeted_queued greets quiet after with old | owed
      · exact unqueued old
      · exact unowed owed
    · have unapproved : l.node.approves whom = false := stranger.resolve_right greets
      by_cases decided : ∃ accept now, event = .authorize whom accept now
      · obtain ⟨accept, now, rfl⟩ := decided
        -- Before the approval nothing is sealed, and after it the contact is approved.
        simp only [act, Node.orElse] at quiet after
        cases did : l.node.authorize whom accept now with
        | error reason =>
          rw [did] at after
          exact unqueued after
        | ok n =>
          rw [did] at quiet after
          rcases Node.authorize_queued did quiet after with old | clear
          · exact unqueued old
          · rw [clear] at carries
            cases carries
      · by_cases joined : ∃ peerAddress bundle extras inputs now,
            event = .join peerAddress bundle extras inputs now ∧ bundle.identityKey = whom
        · obtain ⟨peerAddress, bundle, extras, inputs, now, rfl, rfl⟩ := joined
          simp only [act, Node.orElse] at quiet after
          cases did : l.node.connectWithInvite peerAddress bundle extras inputs now with
          | error reason =>
            rw [did] at after
            exact unqueued after
          | ok n =>
            rw [did] at quiet
            have approved := (Node.connectWithInvite_approves did).1
            rw [quiet] at approved
            cases approved
        · have kept := act_mute orderly unapproved greets
            (fun accept now same => decided ⟨accept, now, same⟩)
            (fun peerAddress bundle extras inputs now same named =>
              joined ⟨peerAddress, bundle, extras, inputs, now, same, named⟩) after
          exact kept.elim unqueued untaken
  · cases event with
    | logout everyone covered =>
      have unapproved : l.node.approves whom = false := stranger.resolve_right (by simp [greeter])
      simp only [act, Node.logout, List.mem_filterMap, Option.map_eq_some_iff, Prod.mk.injEq] at posted
      obtain ⟨contact, notified, told, -, rfl, -⟩ := posted
      simp only [Node.contactsWhere, List.mem_map, List.mem_filter, Bool.and_eq_true, Bool.or_eq_true,
        Bool.not_eq_true'] at notified
      obtain ⟨⟨name, chat⟩, ⟨entry, told, isOpen⟩, rfl⟩ := notified
      have found : l.node.chats.lookup name = some chat := AList.mem_lookup_iff.mpr entry
      have isOpen : chat.closed = false := isOpen
      have waiting : l.waits name = true := by
        simp only [Node.approves, found, Option.any_some] at unapproved
        simp [waits, found, unapproved, isOpen]
      obtain ⟨few, kept⟩ := orderly name waiting
      rcases told with all | uncovered
      · rw [few] at all
        cases all
      · rw [kept] at uncovered
        cases uncovered
    | _ => cases posted

/--
In a run whose events all keep from the requests, no frame sealed on the session of a chat not yet accepted
is handed to the transport or posted to a relay, but for the client key that answers a `Hello` without a
reply pass; and declining a request sends nothing.
-/
theorem request_learns_nothing {l : Lobby X} {events : List (RequestEvent X)}
    (orderly : l.AllOrderly events) :
    (l.run events).leaked = l.leaked
      ∧ ∀ contact now, ((l.run events).act (.authorize contact false now)).1.frames
          = (l.run events).node.frames
        ∧ ((l.run events).act (.authorize contact false now)).2 = [] := by
  refine ⟨?_, fun contact now => ⟨rfl, rfl⟩⟩
  induction events generalizing l with
  | nil => rfl
  | cons event rest ih =>
    obtain ⟨first, later⟩ := orderly
    have kept : (l.step event).leaked = l.leaked := by
      show l.leaked ++ l.leaks event = l.leaked
      rw [leaks_orderly first, List.append_nil]
    exact (ih later).trans kept

end Lobby

namespace Symbolic

/-- A device that asks about requests, with a published key and no chat. -/
def doorstep : Lobby symbolic where
  node :=
    { identityKey := "me"
      account := (["second"] : Account)
      address := "me.onion"
      requireAuthorization := true }

/-- A stranger's `Hello`, which carries a reply pass. -/
def knock : RequestEvent symbolic :=
  .frame none (encode (.hello "them" "them.onion"
    (pairing { relays := {}, pass := some (encodeSecret (List.replicate 32 7)) }))) {} 0

/-- What is handed out for the request if an event follows. -/
def toldAfter (event : RequestEvent symbolic) : Nat := ((doorstep.run [knock, event]).leaked).length

end Symbolic

/-- A knock that is declined after a tick is told nothing. -/
theorem declined_knock_learns_nothing : (Symbolic.doorstep.run [Symbolic.knock,
    .announceMatter .burns 1, .authorize "them" false 2]).leaked = [] := by
  have orderly : Symbolic.doorstep.AllOrderly [Symbolic.knock, .announceMatter .burns 1,
      .authorize "them" false 2] := by
    refine ⟨fun contact chat found => ?_, trivial, trivial, trivial⟩
    have nobody : Symbolic.doorstep.node.chats.lookup contact = none := rfl
    rw [nobody] at found
    cases found
  exact (Lobby.request_learns_nothing orderly).1

/-- A request is told when the user logs out, makes a full backup, captures its chat, allows captures in it,
compares its safety number or deletes it, and when the app is started again. -/
theorem request_is_told :
    Symbolic.doorstep.node.requireAuthorization = true
    ∧ ((Symbolic.doorstep.run [Symbolic.knock]).node.chats.lookup "them").map (·.authorized) = some false
    ∧ (Symbolic.doorstep.run [Symbolic.knock]).leaked = []
    ∧ 0 < Symbolic.toldAfter (.logout false fun _ => false)
    ∧ 0 < Symbolic.toldAfter (.backedUp ["them"] true 1)
    ∧ 0 < Symbolic.toldAfter (.capture "them" false 1)
    ∧ 0 < Symbolic.toldAfter (.captureOverride "them" true 1)
    ∧ 0 < Symbolic.toldAfter (.restart { identityKey := "me", address := "me.onion" }
        (fun _ => some ("key", [1])) 1)
    ∧ 0 < Symbolic.toldAfter (.verified "them" true 1)
    ∧ 0 < Symbolic.toldAfter (.delete "them" 1) := by
  decide +kernel

end Nightdrop
