import Nightdrop.Proofs.Node.Change

/-! The queues' operations as changes: holding, flushing, announcing, and recording what was sent. -/

namespace Nightdrop

variable {X : Externals} {S : Scope X}

namespace Node

/-- The tests by which outcomes find their message pick messages of ours by an id. -/
theorem picks_isOwn (id : String) : Picks id (·.isOwn id) := by
  intro m picked
  simp only [ChatMessage.isOwn, Bool.and_eq_true, decide_eq_true_eq] at picked
  exact ⟨picked.1, .inl picked.2⟩

theorem picks_isSent (id : String) : Picks id (·.isSent id) := by
  intro m picked
  simp only [ChatMessage.isSent, Bool.and_eq_true, Bool.or_eq_true, decide_eq_true_eq] at picked
  exact ⟨picked.1.1, picked.2⟩

/-- Once its frame is held, a held message gets its state. -/
theorem holdMessage_held (n : Node X) {contact id : String} (bytes : Envelope X.OlmMessage)
    (named : id ≠ "") (target : S.targets contact id) :
    Changes S { n with held := n.held ++ [{ contactId := contact, msgId := id, bytes := bytes }] }
      (n.holdMessage contact id bytes) := by
  let entry : HeldSend X := { contactId := contact, msgId := id, bytes := bytes }
  let status : Status :=
    if n.peerOutdated contact then .update else if !n.hasRelayRoute contact then .waiting else .queued
  have backed : ({ n with held := n.held ++ [entry] } : Node X).Backed contact id status := by
    refine .inr ⟨?_, .held (h := entry) (by simp) rfl rfl⟩
    unfold status
    split
    · exact .inr (.inr rfl)
    · split
      · exact .inr (.inl rfl)
      · exact .inl rfl
  have written := Change.write (S := S) (n := { n with held := n.held ++ [entry] }) contact id
    (·.isOwn id) status (picks_isOwn id) named (fun _ => backed) target
  exact (Changes.one written).trans (.of_core rfl)

/-- Holding a message puts its frame in the held queue and its state in its chat. -/
theorem holdMessage_changes {n : Node X} {contact id : String} {bytes : Envelope X.OlmMessage}
    (sendable : n.Sendable S contact bytes) (named : id ≠ "") (target : S.targets contact id) :
    Changes S n (n.holdMessage contact id bytes) :=
  (Changes.one (.hold { contactId := contact, msgId := id, bytes := bytes } sendable)).trans
    (holdMessage_held n bytes named target)

/-- Frames the device has already may go to its outbox. -/
theorem queueAll_changes (n : Node X) (sends : List (Outbound X))
    (known : ∀ o ∈ sends, n.Queued o.send.recipientIk o.send.bytes)
    (spares : ∀ o ∈ sends, S.bypasses o.send.recipientIk ∨ n.Spares o) :
    Changes S n { n with outbox := n.outbox ++ sends } := by
  induction sends generalizing n with
  | nil => exact .of_core (by simp [Aside.core])
  | cons o rest ih =>
    have first : Change S n { n with outbox := n.outbox ++ [o] } :=
      .queue o (.queued (known o (.head _))) (spares o (.head _))
    -- What was queued is still queued with one frame more in the outbox.
    have still : ∀ o' ∈ rest, ({ n with outbox := n.outbox ++ [o] } : Node X).Queued
        o'.send.recipientIk o'.send.bytes := by
      intro o' inRest
      have before := known o' (.tail _ inRest)
      generalize o'.send.recipientIk = contact at before ⊢
      generalize o'.send.bytes = bytes at before ⊢
      cases before with
      | held member => exact .held member
      | pendingSends member => exact .pendingSends member
      | pendingControl member => exact .pendingControl member
      | outbox member => exact .outbox (List.mem_append_left _ member)
      | receiptSends member => exact .receiptSends member
    have later := ih { n with outbox := n.outbox ++ [o] } still
      fun o' inRest => spares o' (.tail _ inRest)
    simpa using (Changes.one first).trans later

/-- A frame the device may queue goes to its outbox. -/
theorem sendOrQueue_changes {n : Node X} {send : DetachedSend X} {route : Route}
    {done : OutboundDone X} (sendable : n.Sendable S send.recipientIk send.bytes)
    (spares : S.bypasses send.recipientIk ∨ n.Spares ⟨send, route, done⟩) :
    Changes S n (n.sendOrQueue send route done) :=
  .one (.queue { send := send, route := route, done := done } sendable spares)

/-- Only frames of chats that are gone or closed are dropped. -/
theorem dropGone_changes (n : Node X) (may : S.drops) : Changes S n n.dropGone := by
  have dropped : Change S n { n with
      held := n.held.filter (fun h => (n.chats.lookup h.contactId).any (!·.closed)) } := by
    apply Change.drop _ may
    intro h _ out chat found
    simpa [found] using out
  exact (Changes.one dropped).trans (.of_core rfl)

/-- The frames gone through are the frames held, in order. -/
theorem heldDue_fst (n : Node X) (only : Option String) (directFirst : Bool) (now : Nat)
    (busy : List String) (held : List (HeldSend X)) :
    (n.heldDue only directFirst now busy held).map Prod.fst = held := by
  induction held generalizing busy with
  | nil => rfl
  | cons h rest ih =>
    unfold heldDue
    -- Every branch keeps the entry and goes on with the rest.
    split
    · simp [ih]
    · split
      · simp [ih]
      · split
        · simp [ih]
        · split <;> simp [ih]

/-- What goes out now goes to a contact whose app reads it. -/
theorem heldDue_young (n : Node X) (only : Option String) (directFirst : Bool) (now : Nat)
    (busy : List String) (held : List (HeldSend X)) :
    ∀ d ∈ n.heldDue only directFirst now busy held, d.2.isSome = true →
      n.peerOutdated d.1.contactId = false := by
  induction held generalizing busy with
  | nil => simp [heldDue]
  | cons h rest ih =>
    unfold heldDue
    split
    · simpa using ih busy
    · split
      · simpa using ih busy
      · rename_i young
        have here : n.peerOutdated h.contactId = false := by simpa using young
        split
        · simpa [here] using ih busy
        · split
          · simpa using ih busy
          · simpa [here] using ih _

/-- Flushing marks held frames and hands them to the outbox. -/
theorem flushHeldFor_changes (n : Node X) (only : Option String) (directFirst : Bool) (now : Nat)
    (may : S.drops) : Changes S n (n.flushHeldFor only directFirst now) := by
  unfold flushHeldFor
  refine (dropGone_changes n may).trans ?_
  generalize n.dropGone = n
  simp only []
  generalize walked : n.heldDue only directFirst now [] n.held = due
  have same : due.map Prod.fst = n.held := walked ▸ heldDue_fst n only directFirst now [] n.held
  refine (queueAll_changes n (due.filterMap (fun d => d.2.map (fun route =>
      { send := n.detach (n.dialAddress d.1.contactId) d.1.contactId d.1.bytes true now
        route := route
        done := .held d.1.bytes }))) ?_ ?_).trans (.one (.mark _ ?_))
  · intro o member
    obtain ⟨d, inDue, sent⟩ := List.mem_filterMap.mp member
    obtain ⟨route, -, rfl⟩ := Option.map_eq_some_iff.mp sent
    have inHeld : d.1 ∈ n.held := same ▸ List.mem_map_of_mem inDue
    exact .held inHeld
  · intro o member
    obtain ⟨d, inDue, sent⟩ := List.mem_filterMap.mp member
    obtain ⟨route, goes, rfl⟩ := Option.map_eq_some_iff.mp sent
    have young := heldDue_young n only directFirst now [] n.held d (walked.symm ▸ inDue)
      (by simp [goes])
    exact .inr fun old => absurd (young.symm.trans old) (by decide)
  · -- The marks change no frame.
    show List.Forall₂ HeldSend.SameFrame n.held _
    rw [← same]
    exact List.forall₂_map_left_iff.mpr (List.forall₂_map_right_iff.mpr
      (List.forall₂_same.mpr fun d _ => ⟨rfl, rfl, rfl⟩))

/-- What a peer holds of an announcement is noted beside the conversation. -/
theorem recordTold_aside (n : Node X) (kind : Announce) (contact : String) (now : Nat)
    (chat : Chat X) : chat.Aside (n.recordTold kind contact now chat) := by
  cases kind with
  | upgradeNotice =>
    simp only [recordTold]
    split
    · exact ⟨⟨.refl, .notice _ _ rfl rfl, id, rfl⟩, id⟩
    · exact .refl chat
  | burns | nearby seq => exact .of_same rfl rfl rfl rfl rfl
  | mailbox | relaySet => exact .refl chat
  | version | address | captures | block on =>
    simp only [recordTold]
    split
    · exact .of_same rfl rfl rfl rfl rfl
    · exact .refl chat

/-- A failed announcement takes its flag down and nothing else. -/
theorem retractAnnounced_aside (n : Node X) (kind : Announce) (contact : String) :
    n.Aside (n.retractAnnounced kind contact) := by
  cases kind with
  | block on | nearby seq =>
    simp only [retractAnnounced]
    split
    · exact .of_core rfl
    · exact .refl n
  | burns | version | mailbox | address | relaySet | captures | upgradeNotice => exact .of_core rfl

/-- The outcome of an announcement is noted beside the conversation. -/
theorem applyAnnounced_aside (n : Node X) (kind : Announce) (contact : String) (delivered : Bool)
    (now : Nat) : n.Aside (n.applyAnnounced kind contact delivered now) := by
  unfold applyAnnounced
  simp only []
  -- First the mailbox's time, then what each kind records.
  have first : n.Aside (if kind = .mailbox && delivered then
      { n.modifyChat contact (mailboxAnnouncedAt now) with
        dirty := n.dirty || ((n.chats.lookup contact).bind (·.mailbox)).isSome } else n) := by
    split
    · refine (Aside.modifyChat n contact (mailboxAnnouncedAt now) ?_).trans (.of_core rfl)
      exact fun chat _ => .of_same rfl rfl rfl rfl rfl
    · exact .refl n
  refine first.trans ?_
  generalize (if kind = .mailbox && delivered then
      { n.modifyChat contact (mailboxAnnouncedAt now) with
        dirty := n.dirty || ((n.chats.lookup contact).bind (·.mailbox)).isSome } else n) = n1
  split
  · split
    · refine Aside.trans (b := n1.modifyChat contact
        (fun chat => { chat with relaysTold := n1.relaySetInFlight.lookup contact })) ?_ (.of_core rfl)
      exact .modifyChat n1 contact _ fun chat _ => .of_same rfl rfl rfl rfl rfl
    · exact .of_core rfl
  · split
    · have told : n1.Aside (n1.modifyChat contact (n1.recordTold kind contact now)) :=
        .modifyChat n1 contact _ fun chat _ => recordTold_aside n1 kind contact now chat
      refine told.trans ?_
      cases kind with
      | nearby seq => simp only []; split <;> exact .of_core rfl
      | burns | version | mailbox | address | relaySet | captures | block on | upgradeNotice =>
        exact .of_core rfl
    · exact retractAnnounced_aside n1 kind contact

/-- A frame to a contact is queued, or held while their app is too old, or given up. -/
theorem deliverWith_changes {n : Node X} (peerAddress : String) {contact : String}
    {frame : Frame X.OlmMessage} (fresh : Bool) (done : OutboundDone X) (now : Nat)
    (sendable : n.Sendable S contact (encode frame)) :
    Changes S n (n.deliverWith peerAddress contact frame fresh done now) := by
  have holds : Changes S n { n with
      held := n.held ++ [{ contactId := contact, msgId := "", bytes := encode frame }]
      dirty := true } := by
    refine Changes.trans (.one (.hold { contactId := contact, msgId := "", bytes := encode frame }
      sendable)) (.of_core rfl)
  unfold deliverWith
  split
  · cases done with
    | announced kind id => exact .aside (applyAnnounced_aside n kind id false now)
    | nothing => exact holds
    | caller record => exact holds
    | pendingControl _ | held _ | unconfirmed _ | cover => exact .refl S n
  · rename_i passes
    refine sendOrQueue_changes sendable (.inr fun old => ?_)
    -- Past the check, only our version goes to an outdated contact.
    have outdated : n.peerOutdated contact = true := old
    simp only [outdated, Bool.and_true, Bool.not_eq_true', Bool.not_eq_false] at passes
    unfold OutboundDone.isVersion at passes
    split at passes
    · rfl
    · cases passes

/-- A control frame is sealed on the contact's session, and may be queued from then on. -/
theorem authedControl_spec {n n' : Node X} {contact address : String} {marker : Bytes}
    {kind : SealedKind} {frame : Frame X.OlmMessage}
    (did : n.authedControl contact marker kind = some (n', address, frame)) :
    n.Aside n' ∧ ∀ later, n'.Aside later → later.Sendable S contact (encode frame) := by
  unfold authedControl at did
  cases found : n.chats.lookup contact with
  | none => simp [found] at did
  | some chat =>
    cases sealed : n.sealFor contact marker with
    | none => simp [found, sealed] at did
    | some result =>
      obtain ⟨n1, message⟩ := result
      simp only [found, sealed, Option.bind_eq_bind, Option.bind_some, Option.pure_def,
        Option.some.injEq, Prod.mk.injEq] at did
      obtain ⟨rfl, -, rfl⟩ := did
      obtain ⟨aside, onSession⟩ := sealFor_spec sealed
      exact ⟨aside, fun later since => .control kind _ (onSession.aside since)⟩

/-- A control frame is sealed and sent. -/
theorem sendControl_changes (n : Node X) (contact : String) (marker : Bytes) (kind : SealedKind)
    (fresh : Bool) (done : OutboundDone X) (now : Nat) :
    Changes S n (n.sendControl contact marker kind fresh done now) := by
  unfold sendControl
  split
  · exact .refl S n
  · rename_i n1 address frame did
    obtain ⟨aside, sendable⟩ := authedControl_spec (S := S) did
    exact (Changes.aside aside).trans (deliverWith_changes address fresh done now
      (sendable n1 (.refl n1)))

/-- Receipts are sealed one by one, and queued for the poller. -/
theorem sendReceipts_changes (n : Node X) (now : Nat) (proven : List String)
    (named : List (String × String)) (bypasses : ∀ e ∈ named, S.bypasses e.1) :
    Changes S n (n.sendReceipts now proven named) := by
  induction named generalizing n proven with
  | nil => exact .refl S n
  | cons e rest ih =>
    obtain ⟨contact, id⟩ := e
    have later := fun e inRest => bypasses e (.tail _ inRest)
    unfold sendReceipts
    split
    · exact ih n proven later
    · rename_i n1 address frame did
      obtain ⟨aside, sendable⟩ := authedControl_spec (S := S) did
      have queued : Changes S n1 (n1.sendAfterSurfacing contact address frame (contact ∉ proven) now) :=
        .one (.receipt (n1.detach address contact (encode frame) (contact ∉ proven) now)
          (sendable n1 (.refl n1)) (bypasses (contact, id) (.head _)))
      exact ((Changes.aside aside).trans queued).trans (ih _ _ later)

/-- A pending control frame is kept, and sent now. -/
theorem queuePendingControl_changes {n : Node X} (p : PendingControl X) (route : Route)
    (sendable : n.Sendable S p.recipientIk p.bytes)
    (spares : S.bypasses p.recipientIk ∨ n.peerOutdated p.recipientIk = false) :
    Changes S n (n.queuePendingControl p route) := by
  let kept : PendingControl X := { p with inFlight := true }
  have first : Change S n { n with pendingControl := n.pendingControl ++ [kept] } :=
    .control kept sendable
  -- The copy that is sent now is one the device has.
  have second : Changes S { n with pendingControl := n.pendingControl ++ [kept] }
      { n with
        pendingControl := n.pendingControl ++ [kept]
        outbox := n.outbox ++ [{ send := n.detachPending kept, route := route,
                                 done := .pendingControl p.bytes }] } :=
    .one (.queue { send := n.detachPending kept, route := route, done := .pendingControl p.bytes }
      (.queued (.pendingControl (p := kept) (by simp)))
      (spares.imp_right fun young old => absurd (young.symm.trans old) (by decide)))
  exact ((Changes.one first).trans second).trans (.of_core rfl)

/-- Retrying the pending control frames marks them and hands them to the outbox. -/
theorem flushPendingControlFor_changes (n : Node X) (only : Option String) (now : Nat)
    (bypasses : ∀ d ∈ n.pendingControl, n.controlDue only now d = true →
      ∀ p ∈ n.pendingControl, p.bytes = d.bytes → S.bypasses p.recipientIk) :
    Changes S n (n.flushPendingControlFor only now) := by
  unfold flushPendingControlFor
  simp only []
  generalize marks : n.pendingControl.map (fun p : PendingControl X =>
      { p with inFlight := p.inFlight || n.controlDue only now p }) = pending
  have marked : Change S n { n with pendingControl := pending } := by
    apply Change.controlled
    intro p member
    rw [← marks] at member
    obtain ⟨q, inOld, rfl⟩ := List.mem_map.mp member
    exact ⟨q, inOld, rfl, rfl⟩
  refine (Changes.one marked).trans (queueAll_changes _ _ ?_ ?_)
  · intro o member
    obtain ⟨d, -, sent⟩ := List.mem_filterMap.mp member
    obtain ⟨p, found, rfl⟩ := Option.map_eq_some_iff.mp sent
    exact .pendingControl (List.mem_of_find?_eq_some found)
  · intro o member
    obtain ⟨d, isDue, sent⟩ := List.mem_filterMap.mp member
    obtain ⟨p, found, rfl⟩ := Option.map_eq_some_iff.mp sent
    obtain ⟨inOld, due⟩ := List.mem_filter.mp isDue
    have inNew := List.mem_of_find?_eq_some found
    rw [← marks] at inNew
    obtain ⟨q, here, rfl⟩ := List.mem_map.mp inNew
    have same : q.bytes = d.bytes := by simpa using List.find?_some found
    exact .inl (bypasses d inOld due q here same)

/-- Hearing from a contact lets what is held for them go out. -/
theorem heardFrom_changes (n : Node X) (contact : String) (now : Nat) (may : S.drops)
    (bypasses : ∀ d ∈ n.pendingControl, d.recipientIk = contact →
      ∀ p ∈ n.pendingControl, p.bytes = d.bytes → S.bypasses p.recipientIk) :
    Changes S n (n.heardFrom contact now) := by
  unfold heardFrom
  simp only []
  have cleared : Changes S n { n with heldBackoff := n.heldBackoff.erase contact } := .of_core rfl
  refine cleared.trans ?_
  split
  · refine (flushHeldFor_changes _ _ _ _ may).trans (flushPendingControlFor_changes _ _ _ ?_)
    -- Only what waits for this contact is due.
    intro d waits due
    have only : d.recipientIk = contact := by
      simp only [controlDue, Bool.and_eq_true, Option.all_some, decide_eq_true_eq] at due
      exact due.1.2.symm
    exact bypasses d waits only
  · exact .refl S _

/-- A retry clock moves and nothing else. -/
theorem noteReach_aside (n : Node X) (f : Finished X) (now : Nat) : n.Aside (n.noteReach f now) := by
  unfold noteReach
  split
  · split
    · exact .of_core rfl
    · split
      · exact .of_core rfl
      · exact .refl n
  · exact .refl n

/-- A one-off frame that reached nobody is held, if it was in flight. -/
theorem holdLost_changes {n : Node X} {f : Finished X} (known : S.frames f.recipient f.bytes) :
    Changes S n (n.holdLost f) := by
  unfold holdLost
  split
  · have held : Change S n { n with
        held := n.held ++ [{ contactId := f.recipient, msgId := "", bytes := f.bytes }] } :=
      .hold { contactId := f.recipient, msgId := "", bytes := f.bytes } (.flying known)
    exact (Changes.one held).trans (.of_core rfl)
  · exact .refl S n

/-- A change of an absent chat is none. -/
theorem modifyChat_absent {n : Node X} {contact : String} (absent : n.chats.lookup contact = none)
    (f : Chat X → Chat X) : n.modifyChat contact f = n := by
  simp [modifyChat, KeyedMap.modify, absent]

/-- After copies are recorded under an id, they are found under it. -/
theorem copied_record (n : Node X) (contact id : String) (copies : List QueuedReceipt)
    (copied : copies ≠ []) :
    (n.modifyChat contact (Chat.mapReceipts (·.insert id copies))).Copied contact id := by
  intro chat found
  simp only [lookup_modifyChat, if_true] at found
  obtain ⟨chat0, -, rfl⟩ := Option.map_eq_some_iff.mp found
  exact ⟨copies, by simp [Chat.mapReceipts], copied⟩

/-- Frames may be marked one by one. -/
theorem mark_modify (n : Node X) (i : Nat) (f : HeldSend X → HeldSend X)
    (same : ∀ h, HeldSend.SameFrame h (f h)) :
    Change S n { n with held := n.held.modify i f } := by
  apply Change.mark
  induction n.held generalizing i with
  | nil => simp
  | cons h rest ih =>
    cases i with
    | zero => exact .cons (same h) (List.forall₂_same.mpr fun _ _ => ⟨rfl, rfl, rfl⟩)
    | succ i => exact .cons ⟨rfl, rfl, rfl⟩ (ih i)

/-- The outcome of a held frame: its message gets its state, and the frame goes. -/
theorem applyHeld_changes {n : Node X} {bytes : Envelope X.OlmMessage} {delivery : Delivery}
    (now : Nat) (may : S.drops) (settled : delivery ≠ .failed → ∀ contact, S.settled contact bytes)
    (copied : ∀ copies, delivery = .relay copies → copies ≠ [])
    (target : delivery ≠ .failed → ∀ i h, n.held.findIdx? (·.bytes = bytes) = some i →
      n.held[i]? = some h → h.msgId ≠ "" → S.targets h.contactId h.msgId) :
    Changes S n (n.applyHeld bytes delivery now) := by
  unfold applyHeld
  cases found : n.held.findIdx? (·.bytes = bytes) with
  | none => exact .refl S n
  | some i =>
    cases here : n.held[i]? with
    | none => simpa [here] using .refl S n
    | some h =>
      simp only [here]
      have named : h.bytes = bytes := by
        obtain ⟨isIn, matched, -⟩ := List.findIdx?_eq_some_iff_getElem.mp found
        rw [List.getElem?_eq_getElem isIn, Option.some.injEq] at here
        simpa [here] using matched
      cases delivery with
      | failed => exact .one (mark_modify n i _ fun _ => ⟨rfl, rfl, rfl⟩)
      | direct =>
        have aims := target (by simp) i h found here
        have done := named.symm ▸ settled (by simp) h.contactId
        simp only []
        refine Changes.trans ?_ (flushHeldFor_changes _ _ _ _ may)
        -- The message waits for its receipt before the frame goes.
        split
        · let waits : Node X := { n with awaitingReceipt := n.awaitingReceipt
              ++ [{ contactId := h.contactId, msgId := h.msgId, since := now }] }
          have awaited : Change S n waits := .await _
          have settled := Change.settle (S := S) (n := waits) i h .sent here
            (fun _ => .inl ⟨rfl, ⟨_, List.mem_append_right _ (.head _), rfl, rfl⟩⟩) aims done
          exact ((Changes.one awaited).next settled).trans (.of_core rfl)
        · rename_i unnamed
          have settled := Change.settle (S := S) (n := n) i h .sent here
            (fun named => absurd named unnamed) aims done
          exact (Changes.one settled).trans (.of_core rfl)
      | relay copies =>
        have aims := target (by simp) i h found here
        have done := named.symm ▸ settled (by simp) h.contactId
        simp only []
        split
        · -- The copies are recorded before the frame goes.
          have recorded := Change.record (S := S) (n := n) h.contactId h.msgId copies (copied copies rfl)
          have settled := Change.settle (S := S)
            (n := n.modifyChat h.contactId (Chat.mapReceipts (·.insert h.msgId copies))) i h .queued
            here (fun _ => .inr ⟨rfl, copied_record n h.contactId h.msgId copies (copied copies rfl)⟩) aims
            done
          refine ((Changes.one recorded).next settled).trans (.aside (.of_lookup ?_ rfl rfl rfl rfl
            rfl rfl))
          intro contact
          simp only [recordCopies, setStatus, lookup_modifyChat]
          split
          · rename_i same
            subst same
            simp [Option.map_map, Function.comp_def, Chat.mapReceipts]
          · rfl
        · rename_i unnamed
          have settled := Change.settle (S := S) (n := n) i h .queued here
            (fun named => absurd named unnamed) aims done
          exact (Changes.one settled).trans (.of_core rfl)

/-- The outcome of a copy behind an unconfirmed message. -/
theorem applyUnconfirmed_changes (n : Node X) (a : AwaitingReceipt) {delivery : Delivery} (now : Nat) :
    Changes S n (n.applyUnconfirmed a delivery now) := by
  cases delivery with
  | direct => exact .one (.await _)
  | failed => exact .one (.await _)
  | relay copies =>
    have copied : copies ++ [.handedDirectly] ≠ [] := by simp
    have recorded := Change.record (S := S) (n := n) a.contactId a.msgId _ copied
    have requeued := Change.requeue (S := S)
      (n := n.modifyChat a.contactId (Chat.mapReceipts (·.insert a.msgId (copies ++ [.handedDirectly]))))
      a.contactId a.msgId (copied_record n a.contactId a.msgId _ copied)
    refine ((Changes.one recorded).next requeued).trans (.of_core ?_)
    simp only [Aside.core, applyUnconfirmed, modifyChat_modifyChat]
    rfl

/-- The outcome of a pending control frame: it goes, or its mark comes down. -/
theorem applyPendingControl_changes (n : Node X) (bytes : Envelope X.OlmMessage)
    (delivery : Delivery) : Changes S n (n.applyPendingControl bytes delivery) := by
  unfold applyPendingControl
  split
  · have fewer : Change S n { n with
        pendingControl := n.pendingControl.filter (·.bytes ≠ bytes) } :=
      .controlled _ fun p member => ⟨p, List.mem_of_mem_filter member, rfl, rfl⟩
    exact (Changes.one fewer).trans (.of_core rfl)
  · refine .one (.controlled _ fun p member => ?_)
    rcases mem_updateFirst member with old | ⟨q, inOld, -, rfl⟩
    · exact ⟨p, old, rfl, rfl⟩
    · exact ⟨q, inOld, rfl, rfl⟩

/-- Recording a finished send. -/
theorem applyFinished_changes {n : Node X} {f : Finished X} (now : Nat) (may : S.drops)
    (known : S.frames f.recipient f.bytes)
    (settled : ∀ bytes, f.done = .held bytes → f.delivery ≠ .failed →
      ∀ contact, S.settled contact bytes)
    (copied : ∀ copies, f.delivery = .relay copies → copies ≠ [])
    (target : ∀ bytes, f.done = .held bytes → f.delivery ≠ .failed →
      ∀ i h, n.held.findIdx? (·.bytes = bytes) = some i → n.held[i]? = some h → h.msgId ≠ "" →
        S.targets h.contactId h.msgId) :
    Changes S n (n.applyFinished f now) := by
  unfold applyFinished
  simp only []
  have reached : Changes S n (n.noteReach f now) := .aside (noteReach_aside n f now)
  have heldSame : (n.noteReach f now).held = n.held := (noteReach_aside n f now).held
  refine (reached.trans (holdLost_changes known)).trans ?_
  split
  · rename_i contact msgId copies _ delivery
    exact Changes.trans (.one (.record contact msgId copies (copied copies delivery))) (.of_core rfl)
  · exact .aside (applyAnnounced_aside _ _ _ _ _)
  · exact applyPendingControl_changes _ _ _
  · rename_i bytes isHeld
    -- The frame of a held message is no one-off: nothing was held for it again.
    have none : (n.noteReach f now).holdLost f = n.noteReach f now := by
      simp [holdLost, isHeld, OutboundDone.isOneOff]
    rw [none]
    apply applyHeld_changes now may (settled bytes isHeld) copied
    rw [heldSame]
    exact target bytes isHeld
  · exact applyUnconfirmed_changes _ _ _
  · exact .refl S _

end Node

end Nightdrop
