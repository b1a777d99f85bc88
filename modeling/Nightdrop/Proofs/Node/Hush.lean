import Nightdrop.Proofs.Node.Mute

/-! The handlers are mute to whoever is not approved: no frame but a `Hello` has us answer them. -/

namespace Nightdrop

variable {X : Externals} {whom : String}

namespace Node

/-- A control frame's check begins no chat and sends nothing. -/
theorem verifyControl_mute (n : Node X) (sender : String) (message : WireOlm X.OlmMessage)
    (marker : Bytes) (now : Nat) : n.Mute whom (n.verifyControl sender message marker now).1 := by
  unfold verifyControl
  split
  · split
    · exact .refl n
    · split
      · exact .modifyChat n sender _
      · exact .modifyChat n sender _
  · exact .refl n

theorem hearChat_mute (n : Node X) (sender : String) (hear : Chat X → Chat X × Bool) :
    n.Mute whom (n.hearChat sender hear).1 :=
  .modifyChat n sender _

/-- A frame that only an approved contact may send is as mute as its handler is for that contact. -/
theorem openApproved_mute (n : Node X) (sender : String) (message : WireOlm X.OlmMessage)
    (act : Node X → Bytes → Node X × Processed) (quiet : n.approves whom = false)
    (each : sender ≠ whom → ∀ (n' : Node X) (plaintext : Bytes), n'.Mute whom (act n' plaintext).1) :
    n.Mute whom (n.openApproved sender message act).1 := by
  unfold openApproved
  split
  · exact .refl n
  · split
    · exact .refl n
    · rename_i chat found
      split
      · exact .refl n
      · rename_i approved
        split
        · exact .refl n
        · rename_i session plaintext _
          exact (Mute.modifyChat n sender _).trans
            (each (unapproved_apart (.inr quiet) found (by simpa using approved)) _ plaintext)

/-- A frame of a known contact is as mute as its handler. -/
theorem openKnown_mute (n : Node X) (sender : String) (message : WireOlm X.OlmMessage)
    (act : Node X → Bytes → Node X × Processed)
    (each : ∀ (n' : Node X) (plaintext : Bytes),
      n'.approves whom = n.approves whom →
      (n'.chats.lookup sender).map (·.captureOverride) = (n.chats.lookup sender).map (·.captureOverride) →
      (n.chats.lookup sender).isSome = true → n'.Mute whom (act n' plaintext).1) :
    n.Mute whom (n.openKnown sender message act).1 := by
  unfold openKnown
  split
  · rename_i chat olm found readable
    split
    · exact .refl n
    · rename_i session plaintext _
      refine (Mute.modifyChat n sender _).trans (each _ plaintext ?_ ?_ (by simp [found]))
      · unfold approves
        rw [lookup_modifyChat]
        split
        · rename_i same
          rw [same, found]
          rfl
        · rfl
      · rw [lookup_modifyChat, if_pos rfl, found]
        rfl
  · exact .refl n

/-- A user message of a contact is answered once it surfaces, and not before. -/
theorem receiveUser_mute (n : Node X) (sender id : String) (message : WireOlm X.OlmMessage)
    (open? : Bytes → Except String (Option ChatMessage)) (shown : ChatMessage → String) (now : Nat) :
    n.Mute whom (n.receiveUser sender id message open? shown now).1 := by
  unfold receiveUser
  split
  · exact .refl n
  · split
    · exact .refl n
    · split
      · exact .refl n
      · split
        · exact .refl n
        · split
          · exact .refl n
          · rename_i session plaintext _
            have alive : n.Mute whom (n.modifyChat sender
                (fun chat => { chat with session := session }.markAlive now)) :=
              .modifyChat n sender _
            simp only []
            split
            · exact alive
            · exact alive
            · exact (alive.trans (.modifyChat _ sender _)).trans (.of_queues (fun none => none)
                rfl rfl rfl rfl rfl)

theorem receiveChange_mute (n : Node X) (sender : String) (message : WireOlm X.OlmMessage)
    (target? : Bytes → Option (String × (ChatMessage → ChatMessage))) (now : Nat) :
    n.Mute whom (n.receiveChange sender message target? now).1 := by
  unfold receiveChange
  split
  · exact .refl n
  · split
    · exact .refl n
    · split
      · exact .refl n
      · split
        · exact .refl n
        · rename_i session plaintext _
          have opened : n.Mute whom (n.modifyChat sender (fun chat => { chat with session := session })) :=
            .modifyChat n sender _
          simp only []
          split
          · exact opened
          · split
            · exact opened.trans (.modifyChat _ sender _)
            · exact opened

theorem receiveDelivered_mute (n : Node X) (sender : String) (message : WireOlm X.OlmMessage)
    (now : Nat) : n.Mute whom (n.receiveDelivered sender message now).1 := by
  unfold receiveDelivered
  split
  · exact .refl n
  · split
    · exact .refl n
    · split
      · exact .refl n
      · rename_i session plaintext _
        have alive : n.Mute whom (n.modifyChat sender
            (fun chat => { chat with session := session }.markAlive now)) := .modifyChat n sender _
        simp only []
        split
        · exact alive
        · exact (alive.trans (.modifyChat _ sender _)).trans (.of_queues (fun none => none)
            rfl rfl rfl rfl rfl)

/-- A handler that acts on genuine frames only is as mute as what it does then. -/
theorem checked_mute {n n' : Node X} (sender : String) (message : WireOlm X.OlmMessage)
    (marker : Bytes) (now : Nat)
    (refused : ∀ n1, n.verifyControl sender message marker now = (n1, false) → n' = n1)
    (acted : ∀ n1, n.verifyControl sender message marker now = (n1, true) → n1.Mute whom n') :
    n.Mute whom n' := by
  have checked : Mute whom _ _ := verifyControl_mute n sender message marker now
  revert checked refused acted
  generalize n.verifyControl sender message marker now = verdict
  obtain ⟨n1, genuine⟩ := verdict
  intro refused acted checked
  cases genuine with
  | false => rwa [refused n1 rfl]
  | true => exact checked.trans (acted n1 rfl)

/-- A contact we have not approved, in whose chat nothing of ours waits for what a frame of theirs says. -/
structure Unapproved (n : Node X) (whom : String) (frame : Frame X.OlmMessage) : Prop where
  quiet : n.approves whom = false
  unasked : ∀ code, frame = .approved whom code →
    ∀ chat, n.chats.lookup whom = some chat → chat.awaitingApproval = false
  blocked : ∀ message, frame = .sealed .captures whom message →
    ∀ chat, n.chats.lookup whom = some chat → chat.captureOverride = false

/-- An approval is answered only where one was awaited. -/
theorem receiveApproved_mute {n : Node X} {sender code : String}
    (unapproved : n.Unapproved whom (.approved sender code)) (now : Nat) :
    n.Mute whom (n.receiveApproved sender now).1 := by
  unfold receiveApproved
  split
  · exact .refl n
  · rename_i chat found
    simp only []
    have cleared : n.Mute whom (n.modifyChat sender (·.clearSystemNotices [.awaitApproval])) :=
      .modifyChat n sender _
    split
    · rename_i waiting
      have apart : sender ≠ whom := by
        rintro rfl
        rw [unapproved.unasked code rfl chat found] at waiting
        cases waiting
      generalize n.modifyChat sender (·.clearSystemNotices [.awaitApproval]) = n1 at cleared ⊢
      have noted : n.Mute whom (n1.modifyChat sender (fun chat =>
          { chat with history := chat.history ++ [.ofSystemTagged APPROVED_TEXT .approved now] })) :=
        cleared.trans (.modifyChat n1 sender _)
      revert noted
      generalize n1.modifyChat sender (fun chat =>
        { chat with history := chat.history ++ [.ofSystemTagged APPROVED_TEXT .approved now] }) = n2
      intro noted
      have announced := noted.trans (announceRelaySetTo_mute n2 sender now (.inl apart))
      revert announced
      generalize n2.announceRelaySetTo sender now = n3
      intro announced
      have forgot : n.Mute whom (n3.modifyChat sender (fun chat =>
          { chat with toldCaptures := none, toldBlock := none, toldBurns := false
                      toldVersion := none, toldNearbySeq := 0 })) :=
        announced.trans (.modifyChat n3 sender _)
      refine Mute.trans ?_ (announceStanding_mute _ now apart)
      exact forgot.trans (.of_queues (fun none => none) rfl rfl rfl rfl rfl)
    · refine cleared.trans (announceRelaySetTo_mute _ sender now (.inr ?_))
      have same : n.Keeps Chat.authorized
          (n.modifyChat sender (·.clearSystemNotices [.awaitApproval])) :=
        .modifyChat n sender _ fun _ _ => rfl
      have kept := same whom
      have quiet := unapproved.quiet
      unfold approves at quiet ⊢
      revert kept quiet
      cases (n.modifyChat sender (·.clearSystemNotices [.awaitApproval])).chats.lookup whom
        <;> cases n.chats.lookup whom <;> simp_all

/-- A request to block captures is answered only where an override stands. -/
theorem receiveCaptures_mute {n : Node X} {sender : String} {message : WireOlm X.OlmMessage}
    (unapproved : n.Unapproved whom (.sealed .captures sender message)) (now : Nat) :
    n.Mute whom (n.receiveCaptures sender message now).1 := by
  refine openKnown_mute n sender message _ fun n' plaintext _ override known => ?_
  split
  · exact hearChat_mute n' sender _
  · split
    · unfold receiveNearby
      split
      · exact .refl n'
      · rename_i peer _
        have heard : Mute whom _ _ := hearChat_mute n' sender (Chat.hearNearby peer now)
        simp only []
        split
        · exact heard.trans (.of_queues (fun none => none) rfl rfl rfl rfl rfl)
        · exact heard
    · split
      · exact hearChat_mute n' sender _
      · split
        · rename_i on seq _
          have heard : Mute whom _ _ := hearChat_mute n' sender (Chat.hearBlock on seq now)
          unfold receiveBlock
          simp only []
          split
          · rename_i retells
            have apart : sender ≠ whom := by
              rintro rfl
              obtain ⟨chat, found⟩ := Option.isSome_iff_exists.mp known
              rw [found, Option.map_some, unapproved.blocked message rfl chat found] at override
              obtain ⟨chat', found', same⟩ := Option.map_eq_some_iff.mp override
              simp [found', same] at retells
            have noted := heard.trans (.modifyChat _ sender (Chat.note RETOLD_TEXT now))
            refine Mute.trans ?_ (sendCaptureNotice_mute _ _ now apart)
            exact noted.trans (.of_queues (fun none => none) rfl rfl rfl rfl rfl)
          · exact heard
        · exact .refl n'

/-- The peer's contribution to a mailbox is answered if they are approved. -/
theorem onMailboxKey_mute {n : Node X} (quiet : n.approves whom = false) (sender : String)
    (message : WireOlm X.OlmMessage) (fresh : Bytes) (now : Nat) :
    n.Mute whom (n.onMailboxKey sender message fresh now) := by
  unfold onMailboxKey
  split
  · rename_i chat olm found readable
    split
    · exact .refl n
    · rename_i approved
      have apart := unapproved_apart (.inr quiet) found (by simpa using approved)
      split
      · exact .refl n
      · rename_i session plaintext _
        have opened : n.Mute whom (n.modifyChat sender (fun chat => { chat with session := session })) :=
          .modifyChat n sender _
        simp only []
        split
        · exact opened
        · have agreed (pair : Option MailboxPair) := opened.trans (Mute.modifyChat _ sender
            (fun chat => { chat.markAlive now with mailbox := pair }))
          split
          all_goals
            split
            · refine Mute.trans ?_ (sendMailboxKey_mute _ sender fresh now (.inl apart))
              exact (agreed _).trans (.of_queues (fun none => none) rfl rfl rfl rfl rfl)
            · exact (agreed _).trans (.of_queues (fun none => none) rfl rfl rfl rfl rfl)
  · exact .refl n

/-- Sealed files are kept apart from what is sent. -/
theorem forgetMedia_mute (n : Node X) (files : List String) :
    n.Mute whom (files.foldl forgetMedia n) := by
  induction files generalizing n with
  | nil => exact .refl n
  | cons id rest ih =>
    rw [List.foldl_cons]
    refine Mute.trans ?_ (ih _)
    unfold forgetMedia
    split
    · exact .of_queues (fun none => none) rfl rfl rfl rfl rfl
    · exact .refl n

/-- An attachment of a contact is answered once it surfaces, and not before. -/
theorem receiveMedia_mute (n : Node X) (sender : String) (message : WireOlm X.OlmMessage)
    (inputs : FrameInputs) (now : Nat) (quiet : n.approves whom = false) :
    n.Mute whom (n.receiveMedia sender message inputs now).1 := by
  refine openApproved_mute n sender message _ quiet fun _ n plaintext => ?_
  split
  · exact .refl n
  · rename_i transferId kind data _
    split
    · exact .of_queues (fun none => none) rfl rfl rfl rfl rfl
    · have admitted : n.Mute whom (n.admitMedia sender data.length now).1 := .modifyChat n sender _
      revert admitted
      generalize n.admitMedia sender data.length now = admission
      intro admitted
      obtain ⟨n1, within⟩ := admission
      cases within with
      | false =>
        refine admitted.trans ?_
        exact .of_modify rfl rfl rfl rfl rfl rfl
      | true =>
        simp only [storeMedia]
        cases inputs.mediaId with
        | none => exact admitted
        | some id =>
          refine admitted.trans ?_
          exact .of_modify rfl rfl rfl rfl rfl rfl

theorem receiveBurnMedia_mute (n : Node X) (sender : String) (message : WireOlm X.OlmMessage)
    (inputs : FrameInputs) (now : Nat) (quiet : n.approves whom = false) :
    n.Mute whom (n.receiveBurnMedia sender message inputs now).1 := by
  refine openApproved_mute n sender message _ quiet fun _ n plaintext => ?_
  split
  · exact .refl n
  · rename_i burnSecs transferId kind data _
    split
    · exact .refl n
    · split
      · exact .of_queues (fun none => none) rfl rfl rfl rfl rfl
      · have admitted : n.Mute whom (n.admitMedia sender data.length now).1 := .modifyChat n sender _
        revert admitted
        generalize n.admitMedia sender data.length now = admission
        intro admitted
        obtain ⟨n1, within⟩ := admission
        cases within with
        | false => exact admitted.trans (.of_queues (fun none => none) rfl rfl rfl rfl rfl)
        | true =>
          simp only [storeMedia]
          cases inputs.mediaId with
          | none => exact admitted
          | some id =>
            refine admitted.trans ?_
            exact .of_modify rfl rfl rfl rfl rfl rfl

theorem receiveMediaIncoming_mute (n : Node X) (sender : String) (message : WireOlm X.OlmMessage)
    (inputs : FrameInputs) (now : Nat) (quiet : n.approves whom = false) :
    n.Mute whom (n.receiveMediaIncoming sender message inputs now).1 := by
  refine openApproved_mute n sender message _ quiet fun _ n plaintext => ?_
  split
  · exact .refl n
  · rename_i transferId kind thumb _
    simp only []
    generalize (if MAX_THUMB_BYTES < thumb.length then [] else thumb) = thumb
    have admitted : n.Mute whom (n.admitMedia sender thumb.length now).1 := .modifyChat n sender _
    revert admitted
    generalize n.admitMedia sender thumb.length now = admission
    intro admitted
    obtain ⟨n1, within⟩ := admission
    cases within with
    | false => exact admitted
    | true =>
      simp only []
      split
      · exact admitted
      · rename_i n2 thumbId stored
        have kept : n1.Mute whom n2 := by
          split at stored
          · cases stored
            exact .refl n1
          · unfold storeMedia at stored
            obtain ⟨id, -, made⟩ := Option.map_eq_some_iff.mp stored
            cases made
            exact .of_queues (fun none => none) rfl rfl rfl rfl rfl
        exact (admitted.trans kept).trans (.modifyChat n2 sender _)

/-- No sealed frame has us say anything to a contact we have not approved. -/
theorem processSealed_mute {n : Node X} {kind : SealedKind} {sender : String}
    {message : WireOlm X.OlmMessage} (unapproved : n.Unapproved whom (.sealed kind sender message))
    (inputs : FrameInputs) (now : Nat) :
    n.Mute whom (n.processSealed kind sender message inputs now).1 := by
  have approved (act : Node X → Bytes → Node X × Processed)
      (each : sender ≠ whom → ∀ (n' : Node X) plaintext, n'.Mute whom (act n' plaintext).1) :
      n.Mute whom (n.openApproved sender message act).1 :=
    openApproved_mute n sender message act unapproved.quiet each
  have known (act : Node X → Bytes → Node X × Processed)
      (each : ∀ (n' : Node X) plaintext, n'.Mute whom (act n' plaintext).1) :
      n.Mute whom (n.openKnown sender message act).1 :=
    openKnown_mute n sender message act fun n' plaintext _ _ _ => each n' plaintext
  cases kind with
  | edit => exact receiveChange_mute n sender message _ now
  | unsend => exact receiveChange_mute n sender message _ now
  | burnMedia => exact receiveBurnMedia_mute n sender message inputs now unapproved.quiet
  | viewed =>
    refine approved _ fun _ n plaintext => ?_
    split
    · exact .refl n
    · exact (Mute.modifyChat n sender _).trans (forgetMedia_mute _ _)
  | media => exact receiveMedia_mute n sender message inputs now unapproved.quiet
  | mediaIncoming => exact receiveMediaIncoming_mute n sender message inputs now unapproved.quiet
  | captures => exact receiveCaptures_mute unapproved now
  | mailboxKey => exact onMailboxKey_mute unapproved.quiet sender message inputs.fresh now
  | delivered => exact receiveDelivered_mute n sender message now
  | storage => exact approved _ fun _ n _ => hearChat_mute n sender _
  | disappearing => exact approved _ fun _ n _ => hearChat_mute n sender _
  | verified => exact known _ fun n _ => hearChat_mute n sender _
  | screenshot => exact known _ fun n _ => hearChat_mute n sender _
  | name => exact approved _ fun _ n _ => hearChat_mute n sender _
  | address =>
    refine approved _ fun apart n plaintext => ?_
    have heard : Mute whom _ _ := hearChat_mute n sender (Chat.hearAddress plaintext now)
    simp only []
    split
    · exact heard.trans (announceClientKey_mute _ _ _ now apart)
    · exact heard
  | relaySet => exact approved _ fun _ n _ => hearChat_mute n sender _
  | version =>
    refine known _ fun n plaintext => ?_
    split
    · exact .refl n
    · rename_i version _
      have heard : Mute whom _ _ := hearChat_mute n sender (Chat.hearVersion version now)
      simp only []
      split
      · exact (heard.trans (.modifyChat _ sender ({ · with toldNearbySeq := 0 }))).trans
          (.of_queues (fun none => none) rfl rfl rfl rfl rfl)
      · exact heard
  | clientKeySealed =>
    refine known _ fun n plaintext => ?_
    split
    · exact .refl n
    · exact .modifyChat n sender _
  | closed =>
    refine checked_mute sender message MARK_CLOSED now (fun n1 refused => ?_) fun n1 genuine => ?_
    · simp only [processSealed, receiveClosed, refused]
    · simp only [processSealed, receiveClosed, genuine]
      split
      · exact .modifyChat n1 sender _
      · exact .refl n1
  | backedUp =>
    refine checked_mute sender message MARK_BACKEDUP now (fun n1 refused => ?_) fun n1 genuine => ?_
    · simp only [processSealed, receiveBackedUp, refused]
    · simp only [processSealed, receiveBackedUp, genuine]
      exact hearChat_mute n1 sender _
  | burns =>
    refine checked_mute sender message MARK_BURNS_V1 now (fun n1 refused => ?_) fun n1 genuine => ?_
    · simp only [processSealed, receiveBurns, refused]
    · simp only [processSealed, receiveBurns, genuine]
      exact hearChat_mute n1 sender _
  | ack =>
    refine checked_mute sender message MARK_ACK now (fun n1 refused => ?_) fun n1 genuine => ?_
    · simp only [processSealed, receiveAck, refused]
    · simp only [processSealed, receiveAck, genuine]
      exact .modifyChat n1 sender _

/-- Someone else's pairing is none of theirs. -/
theorem receiveHello_mute (n : Node X) (fromAddress : Option String) {contact : String}
    (address : String) (message : WireOlm X.OlmMessage) (inputs : PairingInputs) (now : Nat)
    (apart : contact ≠ whom) :
    n.Mute whom (n.receiveHello fromAddress contact address message inputs now).1 := by
  have inserted (n : Node X) (chat : Chat X) :
      n.Mute whom { n with chats := n.chats.insert contact chat } := by
    refine .of_queues (fun none => ?_) rfl rfl rfl rfl rfl
    rw [KeyedMap.lookup_insert_if, if_neg apart.symm]
    exact none
  have adopted (n : Node X) (peerAddress : String) (session : X.Session) (body : Option HelloBody) :
      n.Mute whom (n.adoptHello contact peerAddress session body now) := by
    unfold adoptHello
    split
    · rename_i prior _
      simp only []
      refine Mute.trans ?_ (.modifyChat _ contact _)
      split
      · split
        · exact (Mute.modifyChat n contact _).trans (deliverWith_mute _ _ _ _ _ now apart)
        · exact .modifyChat n contact _
      · exact inserted n _
    · exact inserted n _
  unfold receiveHello
  split
  · exact .refl n
  · split
    · exact .refl n
    · rename_i account session plaintext _
      simp only []
      generalize (if saneAddress address then address else fromAddress.getD "") = peerAddress
      have begun : n.Mute whom
          (adoptHello { n with account := account } contact peerAddress session (X.readHello plaintext)
            now) := by
        refine Mute.trans ?_ (adopted _ _ _ _)
        exact .of_queues (fun none => none) rfl rfl rfl rfl rfl
      revert begun
      generalize adoptHello { n with account := account } contact peerAddress session
        (X.readHello plaintext) now = n1
      intro begun
      have keyed : n1.Mute whom (if (n1.chats.lookup contact).any (·.authorized) then
          n1.applyPendingKeys contact else n1) := by
        split
        · unfold applyPendingKeys
          split
          · exact .refl n1
          · exact (Mute.modifyChat n1 contact _).trans
              (.of_queues (fun none => none) rfl rfl rfl rfl rfl)
        · exact .refl n1
      have keyed := begun.trans keyed
      revert keyed
      generalize (if (n1.chats.lookup contact).any (·.authorized) then
        n1.applyPendingKeys contact else n1) = n2
      intro keyed
      have answered : n2.Mute whom (if peerAddress ≠ ""
          && (((X.readHello plaintext).bind (·.pass)).bind X.decodeSecret).isNone then
          n2.announceClientKey contact peerAddress inputs.minted now else n2) := by
        split
        · exact announceClientKey_mute n2 _ _ now apart
        · exact .refl n2
      have answered := keyed.trans answered
      revert answered
      generalize (if peerAddress ≠ ""
        && (((X.readHello plaintext).bind (·.pass)).bind X.decodeSecret).isNone then
        n2.announceClientKey contact peerAddress inputs.minted now else n2) = n3
      intro answered
      split
      · have told := answered.trans ((announceStanding_mute n3 now apart).trans
          (announceRelaySetTo_mute _ contact now (.inl apart)))
        split
        · exact told
        · exact told.trans (sendMailboxKey_mute _ contact _ now (.inl apart))
      · exact answered

/-- No frame but their own `Hello` has us say anything to a contact we have not approved. -/
theorem processFrame_mute {n : Node X} {frame : Frame X.OlmMessage}
    (unapproved : n.Unapproved whom frame) (fromAddress : Option String) (inputs : FrameInputs) (now : Nat)
    (pairs : ∀ address message, frame ≠ .hello whom address message) :
    n.Mute whom (n.processFrame fromAddress frame inputs now).1 := by
  have noted : n.Mute whom { n with dirty := true } := .of_queues (fun none => none) rfl rfl rfl rfl rfl
  have unapproved : ({ n with dirty := true } : Node X).Unapproved whom frame :=
    ⟨unapproved.quiet, unapproved.unasked, unapproved.blocked⟩
  refine noted.trans ?_
  cases frame with
  | hello contact address message =>
    refine receiveHello_mute _ fromAddress address message _ now ?_
    rintro rfl
    exact pairs address message rfl
  | message sender id message => exact receiveUser_mute _ sender id message _ _ now
  | burn sender id message => exact receiveUser_mute _ sender id message _ _ now
  | «sealed» kind sender message => exact processSealed_mute unapproved inputs now
  | approved sender code => exact receiveApproved_mute unapproved now
  | codeInUse sender code =>
    simp only [processFrame, receiveCodeInUse]
    split
    · exact .modifyChat _ sender _
    · exact .refl _
  | pake => exact .refl _
  | cover => exact .refl _
  | clientKey => exact .refl _

/-- Taking note of a frame changes nothing but what was seen. -/
theorem isDuplicateUserFrame_node (n : Node X) (frame : Frame X.OlmMessage)
    (bytes : Envelope X.OlmMessage) :
    ∃ frames, (n.isDuplicateUserFrame frame bytes).1 = { n with seenFrames := frames } := by
  have kept : ∃ frames, (if 8192 < n.seenFrames.length then { n with seenFrames := [] } else n)
      = { n with seenFrames := frames } := by
    split
    · exact ⟨[], rfl⟩
    · exact ⟨n.seenFrames, rfl⟩
  obtain ⟨frames, kept⟩ := kept
  unfold isDuplicateUserFrame
  split
  · exact ⟨n.seenFrames, rfl⟩
  · simp only [kept]
    split
    · exact ⟨frames, rfl⟩
    · exact ⟨frames ++ [bytes], rfl⟩

/-- What arrives is taken in without a word to a contact we have not approved. -/
theorem takeIn_mute {n : Node X} {bytes : Envelope X.OlmMessage}
    (unapproved : ∀ frame, decode bytes = some frame → n.Unapproved whom frame)
    (fromAddress : Option String) (inputs : FrameInputs) (now : Nat)
    (pairs : ∀ address message, decode bytes ≠ some (.hello whom address message)) :
    n.Mute whom (n.takeIn fromAddress bytes inputs now).1 := by
  have legacy (sender : String) : n.Mute whom (n.noteLegacyFrame sender) := by
    unfold noteLegacyFrame
    split
    · exact .refl n
    · simp only []
      split
      · exact (Mute.modifyChat n sender _).trans (.of_queues (fun none => none) rfl rfl rfl rfl rfl)
      · exact .refl n
  unfold takeIn
  split
  · split
    · exact legacy _
    · exact .refl n
  · rename_i frame read
    have seen := isDuplicateUserFrame_node n frame bytes
    obtain ⟨frames, seen⟩ := seen
    have noted : n.Mute whom { n with seenFrames := frames } :=
      .of_queues (fun none => none) rfl rfl rfl rfl rfl
    revert seen
    generalize n.isDuplicateUserFrame frame bytes = checked
    obtain ⟨n1, again⟩ := checked
    rintro rfl
    cases again with
    | true => exact noted
    | false =>
      have still : ({ n with seenFrames := frames } : Node X).Unapproved whom frame :=
        ⟨(unapproved frame read).quiet, (unapproved frame read).unasked, (unapproved frame read).blocked⟩
      refine noted.trans (processFrame_mute still fromAddress inputs now fun address message same => ?_)
      rw [same] at read
      exact pairs address message read

end Node

end Nightdrop
