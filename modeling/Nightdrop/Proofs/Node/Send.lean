import Nightdrop.Proofs.Node.Announce

/-! Composing, sending and re-sending as changes. -/

namespace Nightdrop

variable {X : Externals} {S : Scope X}

/-- A fresh message id is not empty. -/
theorem isMsgId_ne_empty {id : String} (random : isMsgId id = true) : id ≠ "" := by
  rintro rfl
  exact absurd random (by decide +kernel)

/-- Neither is a fresh transfer id. -/
theorem isTransferId_ne_empty {id : String} (random : isTransferId id = true) : id ≠ "" := by
  rintro rfl
  exact absurd random (by decide +kernel)

namespace Node

/-- A text just sealed is sendable in its frame: a plain one says what the user says. -/
theorem sendable_userFrame {n : Node X} {contact text id sender : String} {burnSecs : Nat}
    {message : X.OlmMessage} (onSession : n.Sealed contact (userPlaintext burnSecs text) message)
    (said : S.texts id burnSecs text) :
    n.Sendable S contact (encode (userFrame sender id burnSecs (.fromOlm message))) := by
  have carries : (encode (userFrame sender id burnSecs (WireOlm.fromOlm message))).f.ciphertext
      = some message := by
    unfold userFrame
    split <;> rfl
  refine .fresh carries onSession ?_
  · intro sender' id' wire plain
    unfold userFrame at plain
    split at plain
    · rename_i untimed
      simp only [encode, Frame.message.injEq] at plain
      obtain ⟨-, rfl, -⟩ := plain
      subst untimed
      exact .inl ⟨text, by simp [userPlaintext], said⟩
    · cases plain

/-- What composing comes to: the text is sealed on the session, and joins the chat as queued. -/
theorem compose_spec {n n' : Node X} {contact text id : String} {burnSecs now : Nat}
    {bytes : Envelope X.OlmMessage} (did : n.compose contact text burnSecs id now = .ok (n', bytes)) :
    ∃ n1 message, n.sealFor contact (userPlaintext burnSecs text) = some (n1, message)
      ∧ bytes = encode (userFrame n1.identityKey id burnSecs (.fromOlm message))
      ∧ n' = n1.modifyChat contact (Chat.mapHistory (· ++ [{ ChatMessage.ofText true text id now with
          delivery := .queued, burnSecs := burnSecs }])) := by
  unfold compose at did
  split at did
  · cases did
  · split at did
    · cases did
    · split at did
      · cases did
      · split at did
        · cases did
        · split at did
          · cases did
          · split at did
            · cases did
            · rename_i n1 message sealed
              simp only [Except.ok.injEq, Prod.mk.injEq] at did
              exact ⟨n1, message, sealed, did.2.symm, did.1.symm⟩

/-- A text sent on an asynchronous transport joins its chat and the pending sends. -/
theorem sendInner_changes {n n' : Node X} {contact text id : String} {burnSecs now : Nat}
    (did : n.sendInner contact text burnSecs id now = .ok n') (random : isMsgId id = true)
    (named : S.names id) (said : S.texts id burnSecs text) : Changes S n n' := by
  unfold sendInner at did
  split at did
  · cases did
  · rename_i n2 bytes composed
    obtain rfl := Except.ok.inj did
    obtain ⟨n1, message, sealed, rfl, rfl⟩ := compose_spec composed
    obtain ⟨aside, onSession⟩ := sealFor_spec sealed
    -- The frame waits before its message shows, so that the message is backed.
    let p : PendingRelaySend X :=
      ⟨contact, id, encode (userFrame n1.identityKey id burnSecs (.fromOlm message))⟩
    let m : ChatMessage := { ChatMessage.ofText true text id now with
      delivery := .queued, burnSecs := burnSecs }
    have name : m.name = id := by simp [m, ChatMessage.name, ChatMessage.ofText, isMsgId_ne_empty random]
    have pended : Change S n1 { n1 with pendingSends := n1.pendingSends ++ [p] } :=
      .pend p (sendable_userFrame onSession said) (isMsgId_ne_empty random)
    have joined := Change.compose (S := S)
      (n := { n1 with pendingSends := n1.pendingSends ++ [p] }) contact m rfl rfl
      (name.symm ▸ named) (.inl random) (fun _ => said)
      (.inr ⟨.inl rfl, .pending (p := p) (List.mem_append_right _ (.head _)) rfl name.symm⟩)
    exact (((Changes.aside aside).next pended).next joined).trans (.of_core rfl)

/-- The notice ahead of a video joins the pending sends. -/
theorem queueIncoming_changes {n n' : Node X} {contact transferId : String} {incoming : Bytes}
    (did : n.queueIncoming contact transferId incoming = .ok n') : Changes S n n' := by
  unfold queueIncoming at did
  split at did
  · cases did
  · split at did
    · cases did
    · rename_i n1 message sealed
      obtain rfl := Except.ok.inj did
      obtain ⟨aside, onSession⟩ := sealFor_spec sealed
      have named : "t:" ++ transferId ++ ":incoming" ≠ "" := by
        intro empty
        simpa using congrArg String.length empty
      exact (Changes.aside aside).next (.pend ⟨contact, _, _⟩
        (.control .mediaIncoming _ onSession) named)

/-- An attachment joins its chat and the pending sends. -/
theorem queueMedia_changes {n n' : Node X} {contact kindName mime transferId mediaId thumbId : String}
    {kind : Kind} {data : Bytes} {burnSecs now : Nat}
    (did : n.queueMedia contact kind kindName mime data burnSecs transferId mediaId thumbId now = .ok n')
    (attached : kind ≠ .text) (random : isTransferId transferId = true)
    (named : S.names transferId) : Changes S n n' := by
  unfold queueMedia at did
  split at did
  · cases did
  · simp only [] at did
    split at did
    · cases did
    · rename_i n1 message sealed
      obtain rfl := Except.ok.inj did
      obtain ⟨aside, onSession⟩ := sealFor_spec sealed
      let carrier : SealedKind := if burnSecs = 0 then .media else .burnMedia
      let p : PendingRelaySend X :=
        ⟨contact, transferId, encode (.sealed carrier n1.identityKey (.fromOlm message))⟩
      let m : ChatMessage := { ChatMessage.ofMedia true kind mediaId transferId thumbId now with
        delivery := .queued, burnSecs := burnSecs }
      have name : m.name = transferId := rfl
      have pended : Change S n1 { n1 with pendingSends := n1.pendingSends ++ [p] } :=
        .pend p (.control carrier _ onSession) (isTransferId_ne_empty random)
      have joined := Change.compose (S := S)
        (n := { n1 with pendingSends := n1.pendingSends ++ [p] }) contact m rfl rfl
        named (.inr ⟨rfl, random, attached, rfl⟩) (fun named => absurd rfl named)
        (.inr ⟨.inl rfl, .pending (p := p) (List.mem_append_right _ (.head _)) rfl rfl⟩)
      exact (((Changes.aside aside).next pended).next joined).trans (.of_core rfl)

/-- Planning holds what goes to outdated contacts, and leaves the device as it is for the rest. -/
theorem planEach_changes (now : Nat) (n : Node X) (sends : List (PendingRelaySend X))
    (known : ∀ p ∈ sends, S.frames p.contactId p.bytes) (named : ∀ p ∈ sends, p.msgId ≠ "")
    (target : ∀ p ∈ sends, n.peerOutdated p.contactId = true → S.targets p.contactId p.msgId) :
    Changes S n (planEach now n sends).1 := by
  induction sends generalizing n with
  | nil => exact .refl S n
  | cons p rest ih =>
    unfold planEach
    have knownRest := fun q inRest => known q (.tail p inRest)
    have namedRest := fun q inRest => named q (.tail p inRest)
    split
    · exact ih n knownRest namedRest fun q inRest => target q (.tail p inRest)
    · rename_i chat found
      split
      · rename_i outdated
        have aims := target p (.head _) (by simp [peerOutdated, found, outdated])
        refine (holdMessage_changes (.flying (known p (.head _))) (named p (.head _)) aims).trans
          (ih _ knownRest namedRest ?_)
        -- Holding a message does not change how old a contact's app is.
        intro q inRest old
        apply target q (.tail p inRest)
        unfold peerOutdated holdMessage at old
        unfold peerOutdated
        simp only [lookup_modifyChat] at old
        split at old
        · rename_i same
          rw [same]
          simpa [Option.any_map, Function.comp_def, Chat.outdated, found] using old
        · exact old
      · exact ih n knownRest namedRest fun q inRest => target q (.tail p inRest)

/-- A direct result moves counters only. -/
theorem noteDirectResult_aside (n : Node X) (delivered : Bool) :
    n.Aside (n.noteDirectResult delivered) := by
  unfold noteDirectResult
  split <;> exact .of_core rfl

/-- A delivered message leaves at most a mark of how its relays do. -/
theorem recordPosts_aside {o : SendOutcome X} (settled : o.delivered = true ∨ o.copies = none)
    (chat : Chat X) : chat.Aside (recordPosts o chat) := by
  unfold recordPosts
  cases copied : o.copies with
  | none =>
    simp only []
    split
    · exact .of_same rfl rfl rfl rfl rfl
    · exact .refl chat
  | some copies =>
    have delivered : o.delivered = true := by simpa [copied] using settled
    exact .of_same rfl rfl rfl (by simp [delivered]) rfl

/-- What is recorded of an outcome is what is recorded of its posts, and then its state. -/
theorem recordOutcome_eq {o : SendOutcome X} (named : o.msgId ≠ "") (chat : Chat X) :
    recordOutcome o chat = Chat.mapHistory (updateFirst (·.isSent o.msgId)
      ({ · with delivery := if o.delivered then .sent else .queued })) (recordPosts o chat) := by
  simp [recordOutcome, named, Chat.mapHistory]

/-- A message whose direct attempt failed and whom no relay took is held, its frame first. -/
theorem holdFailed_changes {n : Node X} {o : SendOutcome X} (now : Nat) (named : o.msgId ≠ "")
    (known : S.frames o.contactId o.bytes) (target : S.targets o.contactId o.msgId)
    (marked n' : Node X) (posted : n.Aside marked)
    (recorded : Aside.core n' = Aside.core (marked.modifyChat o.contactId (Chat.mapHistory
      (updateFirst (·.isSent o.msgId) ({ · with delivery := .queued }))))) :
    Changes S n ((if !n'.hasRelayRoute o.contactId then n'.heldRetryFailed o.contactId now
      else n').holdMessage o.contactId o.msgId o.bytes) := by
  let entry : HeldSend X := { contactId := o.contactId, msgId := o.msgId, bytes := o.bytes }
  let holds : Node X := { marked with held := marked.held ++ [entry] }
  have held : Change S marked holds := .hold entry (.flying known)
  have written := Change.write (S := S) (n := holds) o.contactId o.msgId (·.isSent o.msgId) .queued
    (picks_isSent _) named
    (fun _ => .inr ⟨.inl rfl, .held (h := entry) (List.mem_append_right _ (.head _)) rfl rfl⟩) target
  -- The retry clock stands beside all this.
  have clock : Aside.core (if !n'.hasRelayRoute o.contactId then n'.heldRetryFailed o.contactId now
      else n') = Aside.core n' := by
    split <;> rfl
  generalize (if !n'.hasRelayRoute o.contactId then n'.heldRetryFailed o.contactId now
      else n') = n2 at clock ⊢
  refine ((((Changes.aside posted).next held).next written).trans (.of_core ?_)).trans
    (holdMessage_held n2 o.bytes named target)
  rw [recorded] at clock
  simp only [Aside.core, Prod.mk.injEq] at clock ⊢
  obtain ⟨chats, held, pendingSends, pendingControl, outbox, receiptSends, awaitingReceipt⟩ := clock
  refine ⟨chats, ?_, pendingSends, pendingControl, outbox, receiptSends, awaitingReceipt⟩
  rw [held]
  rfl

/-- Recording the outcome of a deferred send: what backs the message is there before its state. -/
theorem applySendOutcome_changes {n : Node X} {o : SendOutcome X} (now : Nat) (named : o.msgId ≠ "")
    (known : S.frames o.contactId o.bytes) (target : S.targets o.contactId o.msgId)
    (copied : ∀ copies, o.copies = some copies → copies ≠ [])
    (tried : o.delivered = false → o.copies = none → o.relayFailed = true)
    (once : o.copies.isSome = true → o.relayFailed = false) :
    Changes S n (n.applySendOutcome o now) := by
  unfold applySendOutcome
  simp only []
  refine (Changes.aside (noteDirectResult_aside n o.delivered)).trans ?_
  generalize n.noteDirectResult o.delivered = n
  have recorded : ∀ status, (if o.delivered then Status.sent else .queued) = status →
      recordOutcome o = fun chat => Chat.mapHistory (updateFirst (·.isSent o.msgId)
        ({ · with delivery := status })) (recordPosts o chat) := by
    rintro status rfl
    exact funext fun chat => recordOutcome_eq named chat
  cases delivered : o.delivered with
  | true =>
    -- The peer's onion answered: the message waits for its receipt, and is sent.
    simp only [if_true]
    let marked : Node X := n.modifyChat o.contactId (recordPosts o)
    let waits : Node X := { marked with awaitingReceipt := marked.awaitingReceipt
      ++ [{ contactId := o.contactId, msgId := o.msgId, since := now }] }
    have posted : n.Aside marked :=
      .modifyChat n _ _ fun chat _ => recordPosts_aside (.inl delivered) chat
    have awaited : Change S marked waits := .await _
    have written := Change.write (S := S) (n := waits) o.contactId o.msgId (·.isSent o.msgId) .sent
      (picks_isSent _) named
      (fun _ => .inl ⟨rfl, ⟨_, List.mem_append_right _ (.head _), rfl, rfl⟩⟩) target
    refine (((Changes.aside posted).next awaited).next written).trans (.of_core ?_)
    simp only [Aside.core, waits, marked, modifyChat, KeyedMap.modify_modify,
      recorded .sent (by simp [delivered])]
  | false =>
    simp only [Bool.false_eq_true, if_false]
    have stated := recorded .queued (by simp [delivered])
    cases posts : o.copies with
    | some copies =>
      -- Relays took copies: their receipts back the queued message.
      have nonempty := copied copies posts
      let noted : Node X := n.modifyChat o.contactId (Chat.mapReceipts (·.insert o.msgId copies))
      let marked : Node X := n.modifyChat o.contactId (recordPosts o)
      have posted : noted.Aside marked := by
        refine ⟨fun contact => ?_, rfl, rfl, rfl, rfl, rfl, rfl⟩
        simp only [noted, marked, lookup_modifyChat]
        split
        · cases n.chats.lookup o.contactId with
          | none => exact .none
          | some chat =>
            exact .some (.of_same (by simp [recordPosts, posts, Chat.mapReceipts])
              (by simp [recordPosts, posts, Chat.mapReceipts])
              (by simp [recordPosts, posts, Chat.mapReceipts])
              (by simp [recordPosts, posts, delivered, Chat.mapReceipts])
              (by simp [recordPosts, posts, Chat.mapReceipts, Chat.outdated]))
        · exact (Aside.refl n).chats contact
      have written := Change.write (S := S) (n := marked) o.contactId o.msgId (·.isSent o.msgId)
        .queued (picks_isSent _) named (by
          intro present
          obtain ⟨chat, found⟩ := Option.isSome_iff_exists.mp present
          obtain ⟨chat0, found0, kept⟩ := posted.lookup found
          obtain ⟨taken, at?, left⟩ := copied_record n o.contactId o.msgId copies nonempty chat0 found0
          exact .inr ⟨.inl rfl, .relayed found (kept.relayReceipts ▸ at?) left⟩) target
      simp only [once (by simp [posts]), Bool.false_eq_true, if_false]
      refine (((Changes.one (.record o.contactId o.msgId copies nonempty)).trans
        (.aside posted)).next written).trans (.of_core ?_)
      simp only [Aside.core, marked, modifyChat, KeyedMap.modify_modify, stated]
    | none =>
      -- No relay took one: the message is held here.
      simp only [tried delivered posts, if_true]
      apply holdFailed_changes now named known target (n.modifyChat o.contactId (recordPosts o))
      · exact .modifyChat n _ _ fun chat _ => recordPosts_aside (.inr posts) chat
      · simp only [Aside.core, modifyChat, KeyedMap.modify_modify, stated]

end Node

end Nightdrop
