import Nightdrop.Node.Gone
import Nightdrop.Node.Symbolic
import Nightdrop.Proofs.Node.Backup
import Nightdrop.Proofs.Node.Gate
import Nightdrop.Proofs.Node.Hush
import Nightdrop.Proofs.Node.Life
import Nightdrop.Proofs.Node.Send

/-! A deleted chat stays gone, whatever of it was still under way. -/

namespace Nightdrop

variable {X : Externals} {whom : String}

namespace Node

/-- A change after which a contact without a chat has none, and no more held for them. -/
structure Buries (whom : String) (n n' : Node X) : Prop where
  absent : n.chats.lookup whom = none → n'.chats.lookup whom = none
  held : n.chats.lookup whom = none →
    ∀ h' ∈ n'.held, h'.contactId = whom → ∃ h ∈ n.held, h.contactId = whom

theorem Mute.buries {n n' : Node X} (mute : n.Mute whom n') : n.Buries whom n' :=
  ⟨mute.absent, fun _ => mute.held⟩

namespace Buries

theorem trans {a b c : Node X} (first : a.Buries whom b) (second : b.Buries whom c) :
    a.Buries whom c where
  absent none := second.absent (first.absent none)
  held none h' member same := by
    obtain ⟨h, there, theirs⟩ := second.held (first.absent none) h' member same
    exact first.held none h there theirs

theorem gone {n n' : Node X} (buries : n.Buries whom n') (gone : n.Gone whom) : n'.Gone whom where
  chat := buries.absent gone.chat
  held h' member same := by
    obtain ⟨h, there, theirs⟩ := buries.held gone.chat h' member same
    exact gone.held h there theirs

end Buries

/-- Sealing takes a chat. -/
theorem sealFor_mute {n n' : Node X} {contact : String} {plaintext : Bytes} {message : X.OlmMessage}
    (did : n.sealFor contact plaintext = some (n', message)) :
    n.Mute whom n' ∧ (n.chats.lookup contact).isSome = true := by
  unfold sealFor at did
  cases found : n.chats.lookup contact with
  | none => simp [found] at did
  | some chat =>
    cases encrypted : X.encrypt chat.session plaintext with
    | none => simp [found, encrypted] at did
    | some sealed =>
      simp only [found, encrypted, Option.bind_eq_bind, Option.bind_some, Option.pure_def,
        Option.some.injEq, Prod.mk.injEq] at did
      obtain ⟨rfl, -⟩ := did
      exact ⟨.modifyChat n contact _, rfl⟩

/-- Whoever has a chat is not one who has none. -/
theorem apart_of_absent {n : Node X} {contact : String} (absent : n.chats.lookup whom = none)
    (known : (n.chats.lookup contact).isSome = true) : contact ≠ whom := by
  rintro rfl
  simp [absent] at known

theorem authedControl_apart {n n' : Node X} {contact address : String} {marker : Bytes}
    {kind : SealedKind} {frame : Frame X.OlmMessage} (absent : n.chats.lookup whom = none)
    (did : n.authedControl contact marker kind = some (n', address, frame)) : contact ≠ whom := by
  obtain ⟨_, _, _, found, -, -, -, -⟩ := authedControl_eq did
  exact apart_of_absent absent (by simp [found])

variable {n n' : Node X} {contact : String}

theorem unapproved_of_absent (absent : n.chats.lookup whom = none) (frame : Frame X.OlmMessage) :
    n.Unapproved whom frame where
  quiet := by simp [approves, absent]
  unasked _ _ chat found := by simp [absent] at found
  blocked _ _ chat found := by simp [absent] at found

/-- A message held for someone else. -/
theorem holdMessage_mute (n : Node X) {contact : String} (msgId : String)
    (bytes : Envelope X.OlmMessage) (apart : contact ≠ whom) :
    n.Mute whom (n.holdMessage contact msgId bytes) := by
  unfold holdMessage
  simp only []
  generalize (if n.peerOutdated contact then Status.update
    else if !n.hasRelayRoute contact then Status.waiting else Status.queued) = status
  have shown : n.Mute whom (n.modifyChat contact (fun chat => { chat with
      history := updateFirst (·.isOwn msgId) ({ · with delivery := status }) chat.history })) :=
    .modifyChat n contact _
  revert shown
  generalize n.modifyChat contact (fun chat => { chat with
    history := updateFirst (·.isOwn msgId) ({ · with delivery := status }) chat.history }) = n1
  intro shown
  exact (shown.trans (.hold n1 (h := ⟨contact, msgId, bytes, false⟩) apart)).trans
    (.of_queues id rfl rfl rfl rfl rfl)

/-- A text is composed in a chat that is there. -/
theorem compose_mute {text id : String} {burnSecs now : Nat} {bytes : Envelope X.OlmMessage}
    (did : n.compose contact text burnSecs id now = .ok (n', bytes)) :
    n.Mute whom n' ∧ (n.chats.lookup contact).isSome = true := by
  obtain ⟨n1, message, enciphered, -, rfl⟩ := compose_spec did
  obtain ⟨kept, known⟩ : n.Mute whom n1 ∧ _ := sealFor_mute enciphered
  exact ⟨kept.trans (.modifyChat n1 contact _), known⟩

/-- Only an approved contact is written to. -/
theorem compose_approved {text id : String} {burnSecs now : Nat} {bytes : Envelope X.OlmMessage}
    (did : n.compose contact text burnSecs id now = .ok (n', bytes)) : n.approves contact = true := by
  unfold compose at did
  split at did
  · cases did
  · split at did
    · cases did
    · rename_i chat found
      split at did
      · cases did
      · rename_i goes
        simpa [approves, found] using goes

theorem mediaRefused_approved (passes : n.mediaRefused contact = none) : n.approves contact = true := by
  unfold mediaRefused at passes
  split at passes
  · cases passes
  · rename_i chat found
    split at passes
    · cases passes
    · rename_i goes
      simpa [approves, found] using goes

theorem apart_of_approves (quiet : n.approves whom = false) (approved : n.approves contact = true) :
    contact ≠ whom := by
  rintro rfl
  rw [quiet] at approved
  cases approved

theorem quiet_of_absent (absent : n.chats.lookup whom = none) : n.approves whom = false := by
  simp [approves, absent]

theorem sendInner_mute (quiet : n.approves whom = false) {text id : String} {burnSecs now : Nat}
    (did : n.sendInner contact text burnSecs id now = .ok n') : n.Mute whom n' := by
  unfold sendInner at did
  split at did
  · cases did
  · rename_i n1 bytes composed
    have kept : n.Mute whom n1 := (compose_mute composed).1
    cases did
    exact kept.trans (.pend n1 (apart_of_approves quiet (compose_approved composed)))

theorem noteDirectResult_mute (n : Node X) (delivered : Bool) :
    n.Mute whom (n.noteDirectResult delivered) := by
  unfold noteDirectResult
  split <;> exact .of_queues id rfl rfl rfl rfl rfl

/-- What an attempt says of the reach of its contact. -/
theorem attempted_mute (n : Node X) (contact msgId : String) (answered : Bool) (now : Nat) :
    n.Mute whom (if answered then
        { n with
          awaitingReceipt := n.awaitingReceipt
            ++ [{ contactId := contact, msgId := msgId, since := now }]
          heldBackoff := n.heldBackoff.erase contact }
      else if !n.hasRelayRoute contact then n.heldRetryFailed contact now
      else n) := by
  split
  · exact .of_queues id rfl rfl rfl rfl rfl
  · split
    · exact .of_queues id rfl rfl rfl rfl rfl
    · exact .refl n

/-- The delivery attempt of a message to someone else. -/
theorem attemptDelivery_mute (n : Node X) {contact : String} (msgId : String)
    (bytes : Envelope X.OlmMessage) (answered : Bool) (answers : RelayAnswers) (now : Nat)
    (apart : contact ≠ whom) :
    n.Mute whom (n.attemptDelivery contact msgId bytes answered answers now) := by
  -- The status and the reach of the contact follow whatever the posts left in the chat.
  have noted (n1 : Node X) (recorded : n.Mute whom n1) : n.Mute whom
      ((n1.modifyChat contact (fun chat =>
        { chat with
          history := updateFirst (·.isOwn msgId)
            (fun m => { m with delivery := if answered then .sent else .queued })
            chat.history })).noteDirectResult answered) :=
    (recorded.trans (.modifyChat n1 contact _)).trans (noteDirectResult_mute _ answered)
  have reached (n1 : Node X) (recorded : n.Mute whom n1) :=
    (noted n1 recorded).trans (attempted_mute _ contact msgId answered now)
  unfold attemptDelivery
  split
  · exact holdMessage_mute n msgId bytes apart
  · split
    · exact .refl n
    · rename_i chat _
      simp only []
      split
      · refine (reached _ ?_).trans (holdMessage_mute _ msgId bytes apart)
        split
        · exact .refl n
        · split
          · exact .of_modify rfl rfl rfl rfl rfl rfl
          · split
            · exact .refl n
            · exact .modifyChat n contact _
      · refine reached _ ?_
        split
        · exact .refl n
        · split
          · exact .of_modify rfl rfl rfl rfl rfl rfl
          · split
            · exact .refl n
            · exact .modifyChat n contact _

/-- An attachment, and the notice ahead of one, are deferred for a chat that is there. -/
theorem queueIncoming_mute (quiet : n.approves whom = false) {transferId : String}
    {incoming : Bytes} (did : n.queueIncoming contact transferId incoming = .ok n') :
    n.Mute whom n' := by
  unfold queueIncoming at did
  split at did
  · cases did
  · rename_i passes
    split at did
    · cases did
    · rename_i n1 message enciphered
      have kept : n.Mute whom n1 := (sealFor_mute enciphered).1
      cases did
      exact kept.trans (.pend n1 (apart_of_approves quiet (mediaRefused_approved passes)))

theorem queueMedia_mute (quiet : n.approves whom = false)
    {kindName mime transferId mediaId thumbId : String} {kind : Kind} {data : Bytes} {burnSecs now : Nat}
    (did : n.queueMedia contact kind kindName mime data burnSecs transferId mediaId thumbId now = .ok n') :
    n.Mute whom n' := by
  unfold queueMedia at did
  split at did
  · cases did
  · rename_i passes
    simp only [] at did
    split at did
    · cases did
    · rename_i n1 message enciphered
      have kept : n.Mute whom n1 := (sealFor_mute enciphered).1
      cases did
      refine kept.trans ?_
      refine Mute.trans (.modifyChat n1 contact (fun chat => { chat with history := chat.history
        ++ [{ ChatMessage.ofMedia true kind mediaId transferId thumbId now with
          delivery := .queued, burnSecs := burnSecs }] })) ?_
      exact .pend _ (apart_of_approves quiet (mediaRefused_approved passes))

/-- What is planned goes to contacts with a chat, and so does what is held meanwhile. -/
theorem planEach_mute (now : Nat) (n : Node X) (sends : List (PendingRelaySend X))
    (absent : n.chats.lookup whom = none) : n.Mute whom (planEach now n sends).1 := by
  induction sends generalizing n with
  | nil => exact .refl n
  | cons p rest ih =>
    unfold planEach
    split
    · exact ih n absent
    · rename_i chat found
      split
      · have apart : p.contactId ≠ whom := apart_of_absent absent (by simp [found])
        have held := holdMessage_mute n p.msgId p.bytes apart
        exact held.trans (ih _ (held.absent absent))
      · exact ih n absent

/-- Fewer frames wait. -/
theorem Mute.of_fewer (same : n'.chats = n.chats) (held : n'.held = n.held)
    (pendingSends : ∀ p ∈ n'.pendingSends, p ∈ n.pendingSends)
    (pendingControl : n'.pendingControl = n.pendingControl)
    (outbox : ∀ o ∈ n'.outbox, o ∈ n.outbox)
    (receiptSends : ∀ s ∈ n'.receiptSends, s ∈ n.receiptSends) : n.Mute whom n' where
  absent none := by rw [same]; exact none
  held h' member theirs := ⟨h', held ▸ member, theirs⟩
  queued bytes after := by
    cases after with
    | held member => exact .held (held ▸ member)
    | pendingSends member => exact .pendingSends (pendingSends _ member)
    | pendingControl member => exact .pendingControl (pendingControl ▸ member)
    | outbox member => exact .outbox (outbox _ member)
    | receiptSends member => exact .receiptSends (receiptSends _ member)

theorem planPendingSends_mute (now : Nat) (absent : n.chats.lookup whom = none) :
    n.Mute whom (n.planPendingSends now).1 := by
  have emptied : n.Mute whom { n with pendingSends := [] } :=
    .of_fewer rfl rfl (fun _ member => by cases member) rfl (fun _ => id) (fun _ => id)
  exact emptied.trans (planEach_mute now _ _ absent)

/-- The outcome of a planned send is held only if it reached nobody. -/
theorem applySendOutcome_mute (n : Node X) (o : SendOutcome X) (now : Nat)
    (reached : o.contactId = whom → o.delivered = true ∨ o.relayFailed = false) :
    n.Mute whom (n.applySendOutcome o now) := by
  -- What is recorded in the chat and of the reach of the contact comes first.
  have recorded : n.Mute whom { (n.noteDirectResult o.delivered).modifyChat o.contactId (recordOutcome o) with
      relayEverSucceeded := (n.noteDirectResult o.delivered).relayEverSucceeded
        || (((n.noteDirectResult o.delivered).chats.lookup o.contactId).isSome && o.copies.isSome) } := by
    refine (noteDirectResult_mute n o.delivered).trans ?_
    exact .of_modify rfl rfl rfl rfl rfl rfl
  have settled (n1 : Node X) : n1.Mute whom (if o.delivered then
      { n1 with
        awaitingReceipt := n1.awaitingReceipt
          ++ [{ contactId := o.contactId, msgId := o.msgId, since := now }]
        heldBackoff := n1.heldBackoff.erase o.contactId }
      else if o.relayFailed then
        (if !n1.hasRelayRoute o.contactId then n1.heldRetryFailed o.contactId now else n1).holdMessage
          o.contactId o.msgId o.bytes
      else n1) := by
    split
    · exact .of_queues id rfl rfl rfl rfl rfl
    · rename_i undelivered
      split
      · rename_i failed
        have apart : o.contactId ≠ whom := by
          intro same
          rcases reached same with delivered | relayed
          · exact undelivered delivered
          · rw [relayed] at failed
            cases failed
        have clocked : n1.Mute whom (if !n1.hasRelayRoute o.contactId then
            n1.heldRetryFailed o.contactId now else n1) := by
          split
          · exact .of_queues id rfl rfl rfl rfl rfl
          · exact .refl n1
        exact clocked.trans (holdMessage_mute _ o.msgId o.bytes apart)
      · exact .refl n1
  exact recorded.trans (settled _)

/-- Whatever it is, it begins no chat. -/
theorem applySendOutcome_absent (absent : n.chats.lookup whom = none) (o : SendOutcome X) (now : Nat) :
    (n.applySendOutcome o now).chats.lookup whom = none := by
  by_cases reached : o.contactId = whom → o.delivered = true ∨ o.relayFailed = false
  · exact (applySendOutcome_mute n o now reached).absent absent
  · simp only [Classical.not_imp, not_or, Bool.not_eq_true, Bool.not_eq_false] at reached
    obtain ⟨rfl, undelivered, failed⟩ := reached
    -- All it changes of the chats is the one it is about, which is not there.
    have held (n : Node X) (gone : n.chats.lookup o.contactId = none) :
        (n.holdMessage o.contactId o.msgId o.bytes).chats.lookup o.contactId = none := by
      simp [holdMessage, gone]
    unfold applySendOutcome
    simp only [undelivered, failed, Bool.false_eq_true, if_false, if_true]
    refine held _ ?_
    have noted : (n.noteDirectResult false).chats.lookup o.contactId = none := absent
    split <;> simp [heldRetryFailed, noted]

/-- The receipt sweep seals again what an open chat has unconfirmed. -/
theorem sweepOne_mute (now : Nat) (a : AwaitingReceipt)
    (apart : ∀ chat, n.chats.lookup a.contactId = some chat → chat.closed = false →
      unconfirmedText chat a.msgId ≠ none → a.contactId ≠ whom) :
    n.Mute whom (sweepOne now n a).1 := by
  unfold sweepOne
  split
  · exact .refl n
  · split
    · exact .refl n
    · rename_i chat found
      split
      · exact .refl n
      · rename_i isOpen
        split
        · exact .refl n
        · rename_i text unconfirmed
          have apart : a.contactId ≠ whom :=
            apart chat found (by simpa using isOpen) (by simp [unconfirmed])
          split
          · exact .refl n
          · rename_i n1 message enciphered
            have kept : n.Mute whom n1 := (sealFor_mute enciphered).1
            simp only []
            split
            · exact kept
            · exact kept.trans (.queue n1 apart)

/-- A frame lost on its way is held again only for an open chat. -/
theorem holdLost_mute (f : Finished X) (absent : n.chats.lookup whom = none) :
    n.Mute whom (n.holdLost f) := by
  unfold holdLost
  split
  · rename_i lost
    have apart : f.recipient ≠ whom := by
      rintro rfl
      simp [absent] at lost
    exact (Mute.hold n (h := ⟨f.recipient, "", f.bytes, false⟩) apart).trans
      (.of_queues id rfl rfl rfl rfl rfl)
  · exact .refl n

/-- Control frames that are settled or marked go to whom they went. -/
theorem applyPendingControl_mute (n : Node X) (bytes : Envelope X.OlmMessage) (delivery : Delivery) :
    n.Mute whom (n.applyPendingControl bytes delivery) := by
  have known (pending : List (PendingControl X)) (noted : Bool)
      (old : ∀ p ∈ pending, ∃ q ∈ n.pendingControl, q.recipientIk = p.recipientIk ∧ q.bytes = p.bytes) :
      n.Mute whom { n with pendingControl := pending, dirty := noted } := by
    refine ⟨id, fun h' member theirs => ⟨h', member, theirs⟩, fun other after => ?_⟩
    cases after with
    | held member => exact .held member
    | pendingSends member => exact .pendingSends member
    | outbox member => exact .outbox member
    | receiptSends member => exact .receiptSends member
    | pendingControl member =>
      obtain ⟨q, there, recipient, frame⟩ := old _ member
      rw [← recipient, ← frame]
      exact .pendingControl there
  unfold applyPendingControl
  split
  · exact known _ true fun p member => ⟨p, (List.mem_filter.mp member).1, rfl, rfl⟩
  · refine known _ n.dirty fun p member => ?_
    rcases mem_updateFirst member with old | ⟨q, there, -, rfl⟩
    · exact ⟨p, old, rfl, rfl⟩
    · exact ⟨q, there, rfl, rfl⟩

/-- A held frame that is settled or marked was held. -/
theorem applyHeld_mute (n : Node X) (bytes : Envelope X.OlmMessage) (delivery : Delivery) (now : Nat) :
    n.Mute whom (n.applyHeld bytes delivery now) := by
  -- Whatever is left of the held queue was in it.
  have fewer (held : List (HeldSend X)) (noted : Bool) (old : ∀ h' ∈ held, ∃ h ∈ n.held,
      h.contactId = h'.contactId ∧ h.bytes = h'.bytes) :
      n.Mute whom { n with held := held, dirty := noted } := by
    refine ⟨id, fun h' member theirs => ?_, fun other after => ?_⟩
    · obtain ⟨h, there, contact, -⟩ := old h' member
      exact ⟨h, there, contact.trans theirs⟩
    · cases after with
      | held member =>
        obtain ⟨h, there, contact, frame⟩ := old _ member
        rw [← contact, ← frame]
        exact .held there
      | pendingSends member => exact .pendingSends member
      | pendingControl member => exact .pendingControl member
      | outbox member => exact .outbox member
      | receiptSends member => exact .receiptSends member
  unfold applyHeld
  split
  · exact .refl n
  · rename_i i _
    split
    · exact .refl n
    · rename_i h _
      have erased : n.Mute whom { n with held := n.held.eraseIdx i, dirty := true } :=
        fewer _ true fun h' member => ⟨h', List.mem_of_mem_eraseIdx member, rfl, rfl⟩
      cases delivery with
      | failed =>
        refine fewer _ n.dirty fun h' member => ?_
        obtain ⟨j, within, rfl⟩ := List.mem_iff_getElem.mp member
        rw [List.length_modify] at within
        refine ⟨n.held[j], List.getElem_mem within, ?_⟩
        rw [List.getElem_modify]
        split <;> exact ⟨rfl, rfl⟩
      | direct =>
        simp only []
        have marked := erased.trans (.modifyChat _ h.contactId (fun chat => { chat with
          history := updateFirst (fun m => m.fromMe && h.msgId ≠ "" && m.msgId = h.msgId)
            ({ · with delivery := .sent }) chat.history }))
        refine Mute.trans ?_ (flushHeldFor_mute _ _ _ now)
        split
        · exact marked.trans (.of_queues (fun none => none) rfl rfl rfl rfl rfl)
        · exact marked
      | relay copies =>
        simp only []
        have marked := erased.trans (.modifyChat _ h.contactId (fun chat => { chat with
          history := updateFirst (fun m => m.fromMe && h.msgId ≠ "" && m.msgId = h.msgId)
            ({ · with delivery := .queued }) chat.history }))
        split
        · exact marked.trans (.modifyChat _ h.contactId _)
        · exact marked

/-- What becomes of a finished send, once its reach is noted and it is held if it was lost. -/
theorem applyFinished_mute_of {n0 : Node X} {f : Finished X} (now : Nat)
    (lost : n0.Mute whom ((n.noteReach f now).holdLost f)) : n0.Mute whom (n.applyFinished f now) := by
  unfold applyFinished
  revert lost
  generalize (n.noteReach f now).holdLost f = n1
  intro lost
  refine lost.trans ?_
  simp only []
  split
  · exact .of_modify rfl rfl rfl rfl rfl rfl
  · exact applyAnnounced_mute n1 _ _ _ now
  · exact applyPendingControl_mute n1 _ _
  · exact applyHeld_mute n1 _ _ now
  · unfold applyUnconfirmed
    split
    · exact .modifyChat n1 _ _
    · exact .of_queues id rfl rfl rfl rfl rfl
    · exact .of_queues id rfl rfl rfl rfl rfl
  · exact .refl n1

theorem noteReach_mute (n : Node X) (f : Finished X) (now : Nat) : n.Mute whom (n.noteReach f now) := by
  unfold noteReach
  split
  · split
    · exact .of_queues id rfl rfl rfl rfl rfl
    · split
      · exact .of_queues id rfl rfl rfl rfl rfl
      · exact .refl n
  · exact .refl n

/-- What a finished send came to is recorded without a word to someone who has no chat. -/
theorem applyFinished_mute (f : Finished X) (now : Nat) (absent : n.chats.lookup whom = none) :
    n.Mute whom (n.applyFinished f now) :=
  have reached := noteReach_mute n f now
  applyFinished_mute_of now (reached.trans (holdLost_mute f (reached.absent absent)))

theorem takeReceipts_mute (n : Node X) (contact msgId : String) :
    n.Mute whom (n.takeReceipts contact msgId).1 := .modifyChat n contact _

/-- The first half of an edit changes one chat. -/
theorem beginEdit_mute {msgId newText : String} {now : Nat} {plan : Option RecallPlan}
    (did : n.beginEdit contact msgId newText now = .ok (n', plan)) : n.Mute whom n' := by
  unfold beginEdit at did
  split at did
  · cases did
  · split at did
    · cases did
    · split at did
      · cases did
      · split at did
        · cases did
        · simp only [] at did
          split at did
          · cases did
            exact .modifyChat n contact _
          · cases did
            exact (Mute.modifyChat n contact _).trans (takeReceipts_mute _ contact msgId)

theorem beginUnsend_mute {msgId : String} {now : Nat} {plan : Option RecallPlan}
    (did : n.beginUnsend contact msgId now = .ok (n', plan)) : n.Mute whom n' := by
  unfold beginUnsend at did
  split at did
  · cases did
  · split at did
    · cases did
    · split at did
      · cases did
      · split at did
        · cases did
        · split at did
          · cases did
            exact .refl n
          · cases did
            exact takeReceipts_mute n contact msgId

/-- A held message that is sealed again is held for whom it was. -/
theorem resealHeld_mute {msgId newText : String} {i : Nat}
    (apart : (n.chats.lookup contact).isSome = true → contact ≠ whom)
    (here : n.heldUnsent contact msgId = some i)
    (did : n.resealHeld contact msgId newText i = .ok n') : n.Mute whom n' := by
  unfold resealHeld at did
  split at did
  · cases did
  · rename_i chat found
    have apart : contact ≠ whom := apart (by simp [found])
    simp only [] at did
    split at did
    · cases did
    · rename_i n1 message enciphered
      obtain ⟨kept, same⟩ : n.Mute whom n1 ∧ n1.held = n.held := by
        refine ⟨(sealFor_mute enciphered).1, ?_⟩
        obtain ⟨session, rfl⟩ := sealFor_eq enciphered
        rfl
      cases did
      -- Only the entry of that contact changes.
      obtain ⟨within, theirs, -⟩ := List.findIdx?_eq_some_iff_getElem.mp here
      have mine : n.held[i].contactId = contact := by
        simp only [Bool.and_eq_true, decide_eq_true_eq] at theirs
        exact theirs.1.2
      have old : ∀ h' ∈ n1.held.modify i ({ · with
          bytes := encode (userFrame n1.identityKey msgId
            (((chat.history.find? (·.isOwn msgId)).map (·.burnSecs)).getD 0) (.fromOlm message)) }),
          h'.contactId = whom → h' ∈ n1.held := by
        intro h' member same'
        obtain ⟨j, below, rfl⟩ := List.mem_iff_getElem.mp member
        rw [List.length_modify] at below
        rw [List.getElem_modify] at same' ⊢
        split
        · rename_i here
          subst here
          rw [if_pos rfl] at same'
          have theirs : n1.held[i].contactId = contact := by simpa [same] using mine
          exact absurd (theirs.symm.trans same') apart
        · exact List.getElem_mem below
      refine kept.trans ⟨id, fun h' member theirs => ⟨h', old h' member theirs, theirs⟩, ?_⟩
      intro bytes after
      generalize named : whom = name at after
      cases after with
      | held member => exact .held (old _ member named.symm)
      | pendingSends member => exact .pendingSends member
      | pendingControl member => exact .pendingControl member
      | outbox member => exact .outbox member
      | receiptSends member => exact .receiptSends member

/-- The second half of an edit, in a chat that is there. -/
theorem finishEdit_mute (apart : (n.chats.lookup contact).isSome = true → contact ≠ whom)
    {msgId newText : String} {recalled : Option Bool} {now : Nat}
    (did : n.finishEdit contact msgId newText recalled now = .ok n') : n.Mute whom n' := by
  unfold finishEdit at did
  split at did
  · rename_i i here
    exact resealHeld_mute apart here did
  · split at did
    · cases did
    · rename_i chat found
      have apart : contact ≠ whom := apart (by simp [found])
      split at did
      · split at did
        · cases did
        · rename_i n1 message enciphered
          have kept : n.Mute whom n1 := (sealFor_mute enciphered).1
          cases did
          exact kept.trans (.queue n1 apart)
      · split at did
        · cases did
        · rename_i n1 message enciphered
          have kept : n.Mute whom n1 := (sealFor_mute enciphered).1
          cases did
          exact kept.trans (deliverWith_mute n1 _ _ _ _ now apart)

/-- And of an unsend, where there is something to take back. -/
theorem finishUnsend_mute (contact msgId : String) (recalled : Option Bool) (now : Nat)
    (apart : ∀ chat, n.chats.lookup contact = some chat →
      chat.history.any (fun m => m.fromMe && !m.system && m.msgId = msgId) = true → contact ≠ whom) :
    n.Mute whom (n.finishUnsend contact msgId recalled now).1 := by
  unfold finishUnsend
  split
  · rename_i i _
    have erased : n.Mute whom { n with held := n.held.eraseIdx i, dirty := true } := by
      refine ⟨id, fun h' member theirs => ⟨h', List.mem_of_mem_eraseIdx member, theirs⟩, ?_⟩
      intro bytes after
      cases after with
      | held member => exact .held (List.mem_of_mem_eraseIdx member)
      | pendingSends member => exact .pendingSends member
      | pendingControl member => exact .pendingControl member
      | outbox member => exact .outbox member
      | receiptSends member => exact .receiptSends member
    exact erased.trans (.modifyChat _ contact _)
  · split
    · exact .refl n
    · rename_i chat found
      simp only []
      split
      · exact .refl n
      · rename_i i here
        have apart : contact ≠ whom := by
          obtain ⟨within, theirs, -⟩ := List.findIdx?_eq_some_iff_getElem.mp here
          exact apart chat found (List.any_eq_true.mpr ⟨_, List.getElem_mem within, theirs⟩)
        split
        · exact .modifyChat n contact _
        · have marked (i : Nat) : n.Mute whom (n.modifyChat contact (fun chat =>
              { chat with history := chat.history.modify i ChatMessage.tombstone })) :=
            .modifyChat n contact _
          split
          · exact marked _
          · rename_i n1 message enciphered
            exact ((marked _).trans (sealFor_mute enciphered).1).trans
              (deliverWith_mute n1 _ _ _ _ now apart)

/-- Receipts go to those they are owed to, if there is a chat. -/
theorem sendReceipts_mute (now : Nat) (n : Node X) (proven : List String)
    (receipts : List (String × String))
    (apart : n.chats.lookup whom = none ∨ ∀ r ∈ receipts, r.1 ≠ whom) :
    n.Mute whom (n.sendReceipts now proven receipts) := by
  induction receipts generalizing n proven with
  | nil => exact .refl n
  | cons receipt rest ih =>
    obtain ⟨contact, msgId⟩ := receipt
    have later (n' : Node X) (kept : n.Mute whom n') :
        n'.chats.lookup whom = none ∨ ∀ r ∈ rest, r.1 ≠ whom :=
      apart.imp kept.absent fun others r member => others r (.tail _ member)
    unfold sendReceipts
    split
    · exact ih n proven (later n (.refl n))
    · rename_i n1 address frame did
      have apart : contact ≠ whom := by
        rcases apart with absent | others
        · exact authedControl_apart absent did
        · exact others _ (.head _)
      have kept : n.Mute whom n1 := authedControl_mute did
      have queued : n1.Mute whom
          (n1.sendAfterSurfacing contact address frame (decide (contact ∉ proven)) now) :=
        .receipt n1 apart
      have sent := kept.trans queued
      exact sent.trans (ih _ _ (later _ sent))

/-- A control frame or an announcement needs a chat. -/
theorem sendControl_absent (absent : n.chats.lookup whom = none) (contact : String) (marker : Bytes)
    (kind : SealedKind) (fresh : Bool) (done : OutboundDone X) (now : Nat) :
    n.Mute whom (n.sendControl contact marker kind fresh done now) := by
  by_cases apart : contact = whom
  · unfold sendControl
    split
    · exact .refl n
    · rename_i did
      exact absurd apart (authedControl_apart absent did)
  · exact sendControl_mute n marker kind fresh done now apart

theorem announce_absent (absent : n.chats.lookup whom = none) (contact : String) (kind : Announce)
    (carrier : SealedKind) (marker : Bytes) {raise : Node X → Node X} (now : Nat)
    (flags : ∀ n : Node X, n.Mute whom (raise n)) :
    n.Mute whom (n.announce contact kind carrier marker raise now) := by
  by_cases apart : contact = whom
  · unfold announce
    split
    · exact .refl n
    · rename_i did
      exact absurd apart (authedControl_apart absent did)
  · exact announce_mute n kind carrier marker now flags apart

theorem sendCaptureNotice_absent (absent : n.chats.lookup whom = none) (contact : String)
    (marker : Bytes) (now : Nat) : n.Mute whom (n.sendCaptureNotice contact marker now) := by
  by_cases apart : contact = whom
  · unfold sendCaptureNotice
    split
    · exact .refl n
    · rename_i did
      exact absurd apart (authedControl_apart absent did)
  · exact sendCaptureNotice_mute n marker now apart

theorem sendUpgradeNotice_mute (contact id : String) (now : Nat)
    (apart : (n.chats.lookup contact).isSome = true → contact ≠ whom) :
    n.Mute whom (n.sendUpgradeNotice contact id now) := by
  unfold sendUpgradeNotice
  split
  · exact .refl n
  · rename_i chat found
    have apart : contact ≠ whom := apart (by simp [found])
    split
    · exact .refl n
    · rename_i n1 message enciphered
      have kept : n.Mute whom n1 := (sealFor_mute enciphered).1
      simp only []
      refine (kept.trans ?_).trans (.queue _ apart)
      exact .of_queues (fun none => none) rfl rfl rfl rfl rfl

/-- What arrives begins no chat with a contact, unless it is a `Hello` of theirs that opens. -/
theorem takeIn_absent (absent : n.chats.lookup whom = none) (fromAddress : Option String)
    {bytes : Envelope X.OlmMessage} (inputs : FrameInputs) (now : Nat)
    (ungreeted : n.greets whom bytes = false) :
    n.Mute whom (n.takeIn fromAddress bytes inputs now).1 := by
  by_cases hello : ∃ address message, decode bytes = some (.hello whom address message)
  · obtain ⟨address, message, read⟩ := hello
    simp only [greets, read, decide_true, Bool.true_and] at ungreeted
    simp only [takeIn, read, isDuplicateUserFrame, isUserFrame, Bool.not_false, if_true, processFrame,
      receiveHello]
    split
    · exact .of_queues id rfl rfl rfl rfl rfl
    · rename_i olm readable
      split
      · exact .of_queues id rfl rfl rfl rfl rfl
      · rename_i accepted
        rw [readable, Option.any_some] at ungreeted
        rw [accepted] at ungreeted
        cases ungreeted
  · refine takeIn_mute (fun frame _ => unapproved_of_absent absent frame) fromAddress inputs now
      fun address message read => ?_
    exact hello ⟨address, message, read⟩

/-- Joining someone else's invite. -/
theorem connectWithInvite_mute {peerAddress : String} {bundle : PreKeyBundle} {extras : InviteExtras}
    {inputs : JoinInputs} {now : Nat} (apart : bundle.identityKey ≠ whom)
    (did : n.connectWithInvite peerAddress bundle extras inputs now = .ok n') : n.Mute whom n' := by
  unfold connectWithInvite at did
  simp only [] at did
  split at did
  · cases did
  · split at did
    · cases did
    · split at did
      · cases did
      · rename_i session message _
        cases did
        have queued : n.Mute whom (n.queueHello bundle.identityKey peerAddress message now) :=
          queuePendingControl_mute n _ apart
        have keyed (n1 : Node X) (begun : n.Mute whom n1) : n.Mute whom (if inputs.ownKey.isNone then
            n1.announceClientKey bundle.identityKey peerAddress inputs.minted now else n1) := by
          split
          · exact begun.trans (announceClientKey_mute _ _ _ now apart)
          · exact begun
        refine Mute.trans ?_ (announceStanding_mute _ now apart)
        refine keyed _ (queued.trans ?_)
        split
        · exact .modifyChat _ _ _
        · refine .of_queues (fun none => ?_) rfl rfl rfl rfl rfl
          rw [KeyedMap.lookup_insert_if, if_neg apart.symm]
          exact none

/-- A chat that goes takes nothing with it but itself. -/
theorem erase_mute (n : Node X) (contact : String) :
    n.Mute whom { n with chats := n.chats.erase contact } := by
  refine .of_queues (fun none => ?_) rfl rfl rfl rfl rfl
  rw [KeyedMap.lookup_erase_if]
  split
  · rfl
  · exact none

theorem deleteChat_mute {now : Nat} (apart : (n.chats.lookup contact).isSome = true → contact ≠ whom)
    (deleted : n.deleteChat contact now = .ok n') : n.Mute whom n' := by
  unfold deleteChat at deleted
  split at deleted
  · cases deleted
  · rename_i chat found
    have apart : contact ≠ whom := apart (by simp [found])
    cases deleted
    refine Mute.trans ?_ (erase_mute _ contact)
    split
    · exact .refl n
    · rename_i n1 address frame did
      exact (authedControl_mute did).trans (queuePendingControl_mute n1 _ apart)

theorem authorize_mute {accept : Bool} {now : Nat}
    (apart : (n.chats.lookup contact).isSome = true → contact ≠ whom)
    (decided : n.authorize contact accept now = .ok n') : n.Mute whom n' := by
  unfold authorize at decided
  split at decided
  · cases decided
    exact erase_mute n contact
  · split at decided
    · cases decided
    · rename_i chat found
      have apart : contact ≠ whom := apart (by simp [found])
      split at decided
      · cases decided
      · split at decided
        · cases decided
          exact .refl n
        · split at decided
          · cases decided
            exact (deliverWith_mute n _ _ _ _ now apart).trans (erase_mute _ contact)
          · simp only [] at decided
            cases decided
            have applied (n : Node X) : n.Mute whom (n.applyPendingKeys contact) := by
              unfold applyPendingKeys
              split
              · exact .refl n
              · exact .of_modify rfl rfl rfl rfl rfl rfl
            refine Mute.trans ?_ (announceStanding_mute _ now apart)
            refine Mute.trans ?_ (announceRelaySetTo_mute _ contact now (.inl apart))
            refine Mute.trans ?_ (deliverWith_mute _ _ _ _ _ now apart)
            exact (Mute.modifyChat n contact _).trans (applied _)

theorem mapChats_mute (n : Node X) (f : Chat X → Chat X) : n.Mute whom (n.mapChats f) := by
  refine .of_queues (fun none => ?_) rfl rfl rfl rfl rfl
  unfold mapChats
  rw [KeyedMap.lookup_mapMaybe, none]
  rfl

theorem sweepBurns_mute (n : Node X) (now : Nat) : n.Mute whom (n.sweepBurns now) :=
  (mapChats_mute n _).trans (.of_queues id rfl rfl rfl rfl rfl)

theorem sweepTime_mute (n : Node X) (now : Nat) : n.Mute whom (n.sweepTime now) :=
  ((sweepBurns_mute n now).trans (mapChats_mute _ _)).trans (.of_queues id rfl rfl rfl rfl rfl)

/-- Texts are sealed again in their own chat. -/
theorem resealTexts_mute (n : Node X) (contact : String) (texts : List (String × String)) :
    n.Mute whom (resealTexts contact n texts).1
      ∧ ∀ r ∈ (resealTexts contact n texts).2, r.1 = contact := by
  induction texts generalizing n with
  | nil => exact ⟨.refl n, fun r member => by cases member⟩
  | cons text rest ih =>
    obtain ⟨id, text⟩ := text
    unfold resealTexts
    split
    · exact ⟨.refl n, fun r member => by cases member⟩
    · rename_i n1 message enciphered
      have kept : n.Mute whom n1 := (sealFor_mute enciphered).1
      obtain ⟨later, theirs⟩ := ih n1
      refine ⟨kept.trans later, fun r member => ?_⟩
      rcases List.mem_cons.mp member with rfl | old
      · rfl
      · exact theirs r old

theorem resealChats_mute (n : Node X) (contacts : List String) (absent : n.chats.lookup whom = none) :
    n.Mute whom (resealChats n contacts).1 ∧ ∀ r ∈ (resealChats n contacts).2, r.1 ≠ whom := by
  induction contacts generalizing n with
  | nil => exact ⟨.refl n, fun r member => by cases member⟩
  | cons contact rest ih =>
    unfold resealChats
    split
    · exact ih n absent
    · rename_i chat found
      have apart : contact ≠ whom := apart_of_absent absent (by simp [found])
      have resealed : n.Mute whom (if chat.authorized && !chat.closed then
            resealTexts contact n (unconfirmedTexts chat) else (n, [])).1
          ∧ ∀ r ∈ (if chat.authorized && !chat.closed then
            resealTexts contact n (unconfirmedTexts chat) else (n, [])).2, r.1 = contact := by
        split
        · exact resealTexts_mute n contact _
        · exact ⟨.refl n, fun r member => by cases member⟩
      revert resealed
      generalize (if chat.authorized && !chat.closed then
        resealTexts contact n (unconfirmedTexts chat) else (n, [])) = resealed
      rintro ⟨kept, theirs⟩
      obtain ⟨later, others⟩ := ih resealed.1 (kept.absent absent)
      refine ⟨kept.trans later, fun r member => ?_⟩
      rcases List.mem_append.mp member with here | old
      · rw [theirs r here]
        exact apart
      · exact others r old

/-- What an upgrade holds again is for contacts with a chat. -/
theorem resendAfterUpgrade_mute (absent : n.chats.lookup whom = none) :
    n.Mute whom n.resendAfterUpgrade := by
  obtain ⟨kept, others⟩ := resealChats_mute n n.chats.keys absent
  unfold resendAfterUpgrade
  refine kept.trans ?_
  simp only []
  generalize (resealChats n n.chats.keys).1 = n1
  revert others
  generalize (resealChats n n.chats.keys).2 = resealed
  intro others
  induction resealed generalizing n1 with
  | nil => exact .refl n1
  | cons r rest ih =>
    rw [List.foldl_cons]
    exact (holdMessage_mute n1 r.2.1 r.2.2 (others r (.head _))).trans
      (ih _ fun r' member => others r' (.tail _ member))

/-- A device restarted from its own state has no more of a contact than it had. -/
theorem restore_buries (state : PersistedState X) (platform : Platform) (now : Nat)
    (chats : state.chats = n.exportState.chats) (held : state.held = n.exportState.held) :
    n.Buries whom (Node.restore state platform now) := by
  have begun (absent : n.chats.lookup whom = none) :
      (state.chats.foldl (fun (chats : KeyedMap String (Chat X)) p =>
        chats.insert p.contactId (p.toChat now)) ∅).lookup whom = none := by
    have names : state.chats.map (·.contactId) = n.chats.keys := by
      rw [chats]
      unfold exportState AList.keys List.keys
      simp [Chat.toPersisted]
    have unnamed : whom ∉ state.chats.map (·.contactId) := by
      rw [names]
      exact AList.lookup_eq_none.mp absent
    exact (KeyedMap.lookup_foldl_insert_of_notMem (fun p : PersistedChat X => p.contactId)
      (fun p => p.toChat now) state.chats ∅ unnamed).trans rfl
  have kept (h' : HeldSend X) (member : h' ∈ state.held.map (fun h =>
      ({ contactId := h.contactId, msgId := h.msgId, bytes := h.bytes, inFlight := false } : HeldSend X)))
      (theirs : h'.contactId = whom) : ∃ h ∈ n.held, h.contactId = whom := by
    rw [held] at member
    obtain ⟨p, there, rfl⟩ := List.mem_map.mp member
    obtain ⟨h, was, rfl⟩ := List.mem_map.mp there
    exact ⟨h, was, theirs⟩
  unfold Node.restore
  simp only []
  split
  · refine ⟨fun absent => (resendAfterUpgrade_mute (begun absent)).absent (begun absent),
      fun absent h' member theirs => ?_⟩
    obtain ⟨h, there, same⟩ := (resendAfterUpgrade_mute (begun absent)).held h' member theirs
    exact kept h there same
  · exact ⟨begun, fun _ => kept⟩

/-- Nor has one that did something aside. -/
theorem Peripheral.mute (aside : Node.Peripheral n n') : n.Mute whom n' := by
  refine .of_queues (fun absent => ?_) aside.held aside.pendingSends aside.pendingControl aside.outbox
    aside.receiptSends
  have same := aside.chats whom
  rw [absent] at same
  revert same
  generalize n'.chats.lookup whom = found
  intro same
  cases same
  rfl

/-- A merged backup brings back only the chats it has. -/
theorem mergeCarried_mute (now : Nat) (chats : List (CarriedChat X)) (n : Node X) (added : Nat)
    (others : ∀ p ∈ chats, p.chat.contactId ≠ whom) :
    n.Mute whom (mergeCarried now chats n added).1 := by
  induction chats generalizing n added with
  | nil => exact .refl n
  | cons p rest ih =>
    have folded : n.Mute whom (n.foldIn now p).1 := by
      rw [foldIn_beside]
      refine .of_queues (fun absent => ?_) rfl rfl rfl rfl rfl
      show (n.foldIn now p).1.chats.lookup whom = none
      rw [foldIn_lookup, if_neg fun same => others p (.head _) same.symm]
      exact absent
    unfold mergeCarried
    split
    · exact .refl n
    · exact folded.trans (ih _ _ fun p' member => others p' (.tail _ member))

/-- A sealed frame that claims a sender we have no chat with changes nothing. -/
theorem processSealed_ignored (absent : n.chats.lookup whom = none) (kind : SealedKind)
    (message : WireOlm X.OlmMessage) (inputs : FrameInputs) (now : Nat) :
    (n.processSealed kind whom message inputs now).1 = n := by
  have approved (act : Node X → Bytes → Node X × Processed) :
      (n.openApproved whom message act).1 = n := by
    unfold openApproved
    cases message.toOlm with
    | none => rfl
    | some olm => simp [absent]
  have known (act : Node X → Bytes → Node X × Processed) : (n.openKnown whom message act).1 = n := by
    simp [openKnown, absent]
  have unchecked (marker : Bytes) : n.verifyControl whom message marker now = (n, false) := by
    simp [verifyControl, absent]
  have unchanged (target? : Bytes → Option (String × (ChatMessage → ChatMessage))) :
      (n.receiveChange whom message target? now).1 = n := by
    unfold receiveChange
    cases message.toOlm with
    | none => rfl
    | some olm => simp [absent]
  cases kind with
  | edit => exact unchanged _
  | unsend => exact unchanged _
  | burnMedia => exact approved _
  | viewed => exact approved _
  | media => exact approved _
  | mediaIncoming => exact approved _
  | storage => exact approved _
  | disappearing => exact approved _
  | name => exact approved _
  | address => exact approved _
  | relaySet => exact approved _
  | captures => exact known _
  | verified => exact known _
  | screenshot => exact known _
  | version => exact known _
  | clientKeySealed => exact known _
  | closed => simp [processSealed, receiveClosed, unchecked]
  | backedUp => simp [processSealed, receiveBackedUp, unchecked]
  | burns => simp [processSealed, receiveBurns, unchecked]
  | ack => simp [processSealed, receiveAck, unchecked]
  | mailboxKey => simp [processSealed, onMailboxKey, absent]
  | delivered =>
    simp only [processSealed, receiveDelivered]
    cases message.toOlm with
    | none => rfl
    | some olm => simp [absent]

/-- Nor does any other, unless it is a `Hello` that opens. -/
theorem processFrame_ignored (absent : n.chats.lookup whom = none) (fromAddress : Option String)
    {frame : Frame X.OlmMessage} (inputs : FrameInputs) (now : Nat)
    (claims : frame.claimedSender = some whom)
    (ungreeted : ∀ address message, frame = .hello whom address message →
      message.toOlm.any (fun olm => (X.acceptInbound n.account whom olm).isSome) = false) :
    (n.processFrame fromAddress frame inputs now).1 = { n with dirty := true } := by
  have absent : ({ n with dirty := true } : Node X).chats.lookup whom = none := absent
  have unread (id : String) (message : WireOlm X.OlmMessage)
      (open? : Bytes → Except String (Option ChatMessage)) (shown : ChatMessage → String) :
      (({ n with dirty := true } : Node X).receiveUser whom id message open? shown now).1
        = { n with dirty := true } := by
    unfold receiveUser
    split
    · rfl
    · cases message.toOlm with
      | none => rfl
      | some olm => simp [absent]
  cases frame with
  | hello contact address message =>
    cases Option.some.inj claims
    have closed := ungreeted address message rfl
    simp only [processFrame, receiveHello]
    cases readable : message.toOlm with
    | none => rfl
    | some olm =>
      rw [readable, Option.any_some, Option.isSome_eq_false_iff, Option.isNone_iff_eq_none] at closed
      simp [closed]
  | message sender id message =>
    cases Option.some.inj claims
    exact unread id message _ _
  | burn sender id message =>
    cases Option.some.inj claims
    exact unread id message _ _
  | «sealed» kind sender message =>
    cases Option.some.inj claims
    exact processSealed_ignored absent kind message inputs now
  | approved sender code =>
    cases Option.some.inj claims
    simp only [processFrame, receiveApproved, absent]
  | codeInUse sender code =>
    cases Option.some.inj claims
    simp [processFrame, receiveCodeInUse, absent]
  | pake => rfl
  | cover => rfl
  | clientKey => rfl

/-- A frame that claims a sender we have no chat with is forgotten but for its bytes. -/
theorem takeIn_ignored (absent : n.chats.lookup whom = none) (fromAddress : Option String)
    {bytes : Envelope X.OlmMessage} {frame : Frame X.OlmMessage} (inputs : FrameInputs) (now : Nat)
    (read : decode bytes = some frame) (claims : frame.claimedSender = some whom)
    (ungreeted : n.greets whom bytes = false) :
    ∃ noted seen, (n.takeIn fromAddress bytes inputs now).1
      = { n with dirty := noted, seenFrames := seen } := by
  have kept : ∃ seen, (n.isDuplicateUserFrame frame bytes).1 = { n with seenFrames := seen } :=
    isDuplicateUserFrame_node n frame bytes
  obtain ⟨seen, kept⟩ := kept
  simp only [takeIn, read]
  revert kept
  generalize checked : n.isDuplicateUserFrame frame bytes = result
  obtain ⟨n1, again⟩ := result
  rintro rfl
  cases again with
  | true => exact ⟨n.dirty, seen, rfl⟩
  | false =>
    refine ⟨true, seen, ?_⟩
    exact processFrame_ignored (n := { n with seenFrames := seen }) absent fromAddress inputs now claims
      fun address message same => by simpa [greets, read, same] using ungreeted

end Node

namespace World

variable {w w' : World X}

/-- A step that does not bring a chat back, and records no lost send to a contact, buries theirs. -/
theorem step_buries {event : Event X} (absent : w.node.chats.lookup whom = none)
    (taken : Step w event w') (passes : (AfterEvent.step event).revives w whom = false)
    (spared : (AfterEvent.step event).strands whom = false) : w.node.Buries whom w'.node := by
  cases taken with
  | text _ _ sent =>
    refine Node.Mute.buries ?_
    unfold sendText at sent
    split at sent
    · exact Node.sendInner_mute (Node.quiet_of_absent absent) sent
    · unfold Node.sendBurn at sent
      split at sent
      · cases sent
      · split at sent
        · cases sent
        · exact Node.sendInner_mute (Node.quiet_of_absent absent) sent
  | textNow _ _ composed =>
    obtain ⟨kept, known⟩ : w.node.Mute whom _ ∧ _ := Node.compose_mute composed
    exact (kept.trans (Node.attemptDelivery_mute _ _ _ _ _ _ (Node.apart_of_absent absent known))).buries
  | incoming queued => exact (Node.queueIncoming_mute (Node.quiet_of_absent absent) queued).buries
  | media _ _ _ queued => exact (Node.queueMedia_mute (Node.quiet_of_absent absent) queued).buries
  | plan => exact (Node.planPendingSends_mute _ absent).buries
  | @outcome front back p delivered answers now planned =>
    refine (Node.applySendOutcome_mute _ _ _ fun same => ?_).buries
    have theirs : p.contactId = whom := same
    simp only [AfterEvent.strands, theirs, decide_true, Bool.true_and, Bool.and_eq_false_iff,
      Bool.not_eq_false'] at spared
    exact spared
  | flushHeld => exact (Node.flushHeldFor_mute _ _ _ _).buries
  | heardFrom => exact (Node.heardFrom_mute _ _ _).buries
  | flushControl => exact (Node.flushPendingControlFor_mute _ _ _).buries
  | @sweep front back a now waiting =>
    have taken : w.node.Mute whom { w.node with awaitingReceipt := front ++ back } :=
      .of_queues id rfl rfl rfl rfl rfl
    have swept := taken.trans (Node.sweepOne_mute now a fun chat found _ _ =>
      Node.apart_of_absent (taken.absent absent) (by simp [found]))
    refine (swept.trans ?_).buries
    exact .of_queues (fun none => none) rfl rfl rfl rfl rfl
  | takeOutbox =>
    have emptied : w.node.Mute whom w.node.takeOutbox.1 :=
      .of_fewer rfl rfl (fun _ => id) rfl (fun _ member => absurd member List.not_mem_nil) fun _ => id
    exact emptied.buries
  | takeCallerOutbox =>
    have fewer : w.node.Mute whom w.node.takeCallerOutbox.1 :=
      .of_fewer rfl rfl (fun _ => id) rfl (fun _ member => (List.mem_filter.mp member).1) fun _ => id
    exact fewer.buries
  | takeReceiptSends =>
    have emptied : w.node.Mute whom w.node.takeReceiptSends.1 :=
      .of_fewer rfl rfl (fun _ => id) rfl (fun _ => id) fun _ member => absurd member List.not_mem_nil
    exact emptied.buries
  | receiptSent _ => exact (Node.Mute.refl _).buries
  | finish _ => exact (Node.applyFinished_mute _ _ absent).buries
  | abandon _ => exact (Node.applyFinished_mute _ _ absent).buries
  | beginEdit begun => exact (Node.beginEdit_mute begun).buries
  | finishEdit _ _ =>
    unfold orSame
    split
    · rename_i n finished
      exact (Node.finishEdit_mute (Node.apart_of_absent absent) finished).buries
    · exact (Node.Mute.refl _).buries
  | beginUnsend begun => exact (Node.beginUnsend_mute begun).buries
  | finishUnsend _ _ => exact (Node.finishUnsend_mute _ _ _ _ fun chat found _ =>
      Node.apart_of_absent absent (by simp [found])).buries
  | receive => exact (Node.takeIn_absent absent _ _ _ passes).buries
  | receiptAll =>
    have taken : w.node.Mute whom { w.node with pendingReceipts := [] } :=
      .of_queues id rfl rfl rfl rfl rfl
    exact (taken.trans (Node.sendReceipts_mute _ _ _ _ (.inl (taken.absent absent)))).buries
  | control => exact (Node.sendControl_absent absent _ _ _ _ _ _).buries
  | announce flags => exact (Node.announce_absent absent _ _ _ _ _ fun n => (flags n).mute).buries
  | mailboxKey =>
    exact (Node.sendMailboxKey_mute _ _ _ _ (.inr (by simp [Node.approves, absent]))).buries
  | captureNotice => exact (Node.sendCaptureNotice_absent absent _ _ _).buries
  | upgradeNotice _ _ => exact (Node.sendUpgradeNotice_mute _ _ _ (Node.apart_of_absent absent)).buries
  | connect joined =>
    exact (Node.connectWithInvite_mute (by simpa [AfterEvent.revives] using passes) joined).buries
  | deleteChat deleted => exact (Node.deleteChat_mute (Node.apart_of_absent absent) deleted).buries
  | authorize decided => exact (Node.authorize_mute (Node.apart_of_absent absent) decided).buries
  | sweepBurns => exact (Node.sweepBurns_mute _ _).buries
  | sweepTime => exact (Node.sweepTime_mute _ _).buries
  | restart => exact Node.restore_buries _ _ _ rfl rfl
  | upgrade => exact Node.restore_buries { w.node.exportState with relays := none } _ _ rfl rfl
  | peripheral aside => exact aside.mute.buries

/-- A merge of a backup without a chat of theirs brings none back. -/
theorem after_buries {event : AfterEvent X} (absent : w.node.chats.lookup whom = none)
    (taken : w.PassesOn whom event w') : w.node.Buries whom w'.node := by
  obtain ⟨⟨passes, after⟩, spared⟩ := taken
  cases after with
  | step taken => exact step_buries absent taken passes spared
  | @merge opened now =>
    refine Node.Mute.buries ?_
    unfold Node.mergeBackup
    cases opened with
    | error reason => exact .refl _
    | ok backup =>
      simp only []
      split
      · exact .refl _
      · refine Node.mergeCarried_mute now backup.chats _ 0 fun p member same => ?_
        simp only [AfterEvent.revives, List.any_eq_false, decide_eq_true_eq] at passes
        exact passes p member same

/-- Until the held queue is next flushed, the chat at least stays away. -/
theorem passes_absent {event : AfterEvent X} (absent : w.node.chats.lookup whom = none)
    (taken : w.Passes whom event w') : w'.node.chats.lookup whom = none := by
  by_cases stranded : event.strands whom = true
  · -- The outcome of a lost send is held, and moves no chat but one that is there.
    obtain ⟨passes, after⟩ := taken
    cases after with
    | merge => simp [AfterEvent.strands] at stranded
    | @step event _ taken =>
      cases taken with
      | @outcome front back p delivered answers now planned =>
        exact Node.applySendOutcome_absent absent _ now
      | _ => simp [AfterEvent.strands] at stranded
  · exact (after_buries absent ⟨taken, by simpa using stranded⟩).absent absent

/-- A flush of the held queue lets go what is held for a contact without a chat. -/
theorem flushHeld_gone {n : Node X} (absent : n.chats.lookup whom = none) (now : Nat) :
    (n.flushHeld now).Gone whom := by
  have dropped : ∀ h ∈ n.dropGone.held, h.contactId ≠ whom := by
    intro h member same
    have there := (List.mem_filter.mp member).2
    rw [same, absent] at there
    cases there
  refine ⟨(Node.flushHeldFor_mute n none false now).absent absent, fun h' member same => ?_⟩
  unfold Node.flushHeld Node.flushHeldFor at member
  simp only [] at member
  obtain ⟨d, inDue, rfl⟩ := List.mem_map.mp member
  have inHeld : d.1 ∈ n.dropGone.held := by
    rw [← Node.heldDue_fst n.dropGone none false now [] n.dropGone.held]
    exact List.mem_map_of_mem inDue
  exact dropped d.1 inHeld same

/-- The state file of a device names only those it has a chat with or holds something for. -/
theorem names_of_gone {n : Node X} (gone : n.Gone whom) : n.exportState.names whom = false := by
  have unlisted : whom ∉ n.exportState.chats.map (·.contactId) := by
    have names : n.exportState.chats.map (·.contactId) = n.chats.keys := by
      unfold Node.exportState AList.keys List.keys
      simp [Chat.toPersisted]
    rw [names]
    exact AList.lookup_eq_none.mp gone.chat
  simp only [PersistedState.names, Bool.or_eq_false_iff, List.any_eq_false, decide_eq_true_eq]
  refine ⟨fun p member same => unlisted (List.mem_map.mpr ⟨p, member, same⟩), fun p member => ?_⟩
  obtain ⟨h, held, rfl⟩ := List.mem_map.mp member
  exact gone.held h held

/-- Once a chat is deleted and the held queue was flushed, no order of steps brings the chat back or
holds anything for its contact, and the state file names them only in the control frames still on their
way to them, unless they pair anew, the user joins their invite or merges a backup that has the chat, or
a send planned before reached nobody. What claims to be from them changes nothing, and a control frame
that landed is not kept. -/
theorem deleted_stays_gone {contact : String} {now later : Nat} {w1 w2 w3 w4 : World X}
    (deleted : Step w (.deleteChat contact now) w1)
    (between : Reach w1 (Passes contact) w2)
    (flushed : Step w2 (.flushHeld later) w3)
    (afterwards : Reach w3 (PassesOn contact) w4) :
    w4.node.Gone contact ∧ w4.node.exportState.names contact = false
      ∧ (∀ fromAddress bytes frame inputs now, decode bytes = some frame →
        frame.claimedSender = some contact → w4.node.greets contact bytes = false →
        ∃ noted seen, (w4.node.takeIn fromAddress bytes inputs now).1
          = { w4.node with dirty := noted, seenFrames := seen })
      ∧ ∀ (f : Finished X) bytes now, f.done = .pendingControl bytes → f.delivery ≠ .failed →
        ∀ p ∈ (w4.node.applyFinished f now).pendingControl, p.bytes ≠ bytes := by
  have erased : w1.node.chats.lookup contact = none := by
    cases deleted with
    | deleteChat did => exact (Node.deleteChat_approves did).1
  have away : w2.node.chats.lookup contact = none :=
    between.invariant (P := fun w => w.node.chats.lookup contact = none) erased
      fun w event w' _ absent taken => passes_absent absent taken
  have first : w3.node.Gone contact := by
    cases flushed with
    | flushHeld => exact flushHeld_gone away later
  have gone : w4.node.Gone contact :=
    afterwards.invariant (P := fun w => w.node.Gone contact) first
      fun w event w' _ gone taken => (after_buries gone.chat taken).gone gone
  refine ⟨gone, names_of_gone gone, fun fromAddress bytes frame inputs now read claims ungreeted =>
    Node.takeIn_ignored gone.chat fromAddress inputs now read claims ungreeted,
    fun f bytes now done landed p member => ?_⟩
  simp only [Node.applyFinished, done] at member
  rw [Node.applyPendingControl, if_pos landed] at member
  simpa using (List.mem_filter.mp member).2

end World

/-- Once the chat is deleted and the queue flushed, the state file does not name the contact. -/
theorem deletion_names_nobody : ∃ n : Node symbolic, Symbolic.device.deleteChat "them" 0 = .ok n
    ∧ (n.flushHeld 1).exportState.names "them" = false := by
  obtain ⟨n, did⟩ : ∃ n, Symbolic.device.deleteChat "them" 0 = .ok n := by
    cases did : Symbolic.device.deleteChat "them" 0 with
    | ok n => exact ⟨n, rfl⟩
    | error reason =>
      have goes : (Symbolic.device.deleteChat "them" 0).toOption.isSome = true := by decide +kernel
      rw [did] at goes
      cases goes
  let w : World symbolic := { node := Symbolic.device }
  have flushed : Step { w with node := n } (.flushHeld 1) { w with node := n.flushHeld 1 } := .flushHeld
  have gone := World.deleted_stays_gone (w := w) (.deleteChat did) .start flushed .start
  exact ⟨n, did, gone.2.1⟩

namespace Symbolic

/-- A backup of the device while it had the chat. -/
def earlierBackup : Backup symbolic where
  identity := some "me"
  chats := [⟨chat.toPersisted "them", true⟩]
  distinct := List.nodup_singleton _

/-- The device with a message planned for the contact, and then without their chat. -/
def planned : Option (Node symbolic × PlannedSend symbolic) := do
  let n ← (device.send "them" "hello" "id" 0).toOption
  let (n, plan) := n.planPendingSends 0
  let p ← plan.head?
  let n ← (n.deleteChat "them" 1).toOption
  return (n.flushHeld 2, p)

end Symbolic

/-- Merging a backup brings a deleted chat back, and a send planned before the deletion that reaches
nobody is held for the contact after it. -/
theorem merge_brings_back :
    ((Symbolic.device.deleteChat "them" 0).toOption.map (fun n =>
        (n.chats.lookup "them", ((n.mergeBackup (.ok Symbolic.earlierBackup) 1).1.chats.lookup "them").isSome))
      ).map (fun seen => (seen.1.isNone, seen.2)) = some (true, true)
    ∧ Symbolic.planned.map (fun r => (r.1.exportState.names "them",
        (r.1.applySendOutcome (r.2.execute false fun _ => none) 3).exportState.names "them"))
      = some (false, true) := by
  decide +kernel

end Nightdrop
