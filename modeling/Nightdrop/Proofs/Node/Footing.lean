import Nightdrop.Proofs.Node.Handlers

/-! How a chat stands with us: what only pairing, closing and our own decisions move. -/

namespace Nightdrop

variable {X : Externals}

namespace Chat

/-- How a chat stands: whether it is approved and closed, by which code, and what relays hold of it. -/
def footing (chat : Chat X) : Bool × Bool × Option String × KeyedMap String (List QueuedReceipt) :=
  (chat.authorized, chat.closed, chat.code, chat.relayReceipts)

theorem beside_footing : Chat.Beside (Chat.footing (X := X)) :=
  ⟨fun _ _ => rfl, fun _ _ => rfl, fun _ _ => rfl⟩

theorem footing_forgetUpgradeNotice (chat : Chat X) :
    chat.forgetUpgradeNotice.footing = chat.footing := by
  unfold forgetUpgradeNotice
  split <;> rfl

theorem footing_markAlive (now : Nat) (chat : Chat X) :
    (chat.markAlive now).footing = chat.footing := by
  unfold markAlive
  simp only []
  rw [footing_forgetUpgradeNotice]
  split <;> rfl

theorem footing_hearVersion (version : String) (now : Nat) (chat : Chat X) :
    (chat.hearVersion version now).1.footing = chat.footing := by
  have updated : (if versionOutdated version then chat
      else { chat with peerWireOld := false }.forgetUpgradeNotice).footing = chat.footing := by
    split
    · rfl
    · exact footing_forgetUpgradeNotice { chat with peerWireOld := false }
  unfold hearVersion
  revert updated
  generalize (if versionOutdated version then chat
    else { chat with peerWireOld := false }.forgetUpgradeNotice) = chat1
  intro updated
  simp only []
  split
  · exact updated
  · split
    · exact updated
    · refine Eq.trans ?_ updated
      refine beside_footing.counted (fun chat => ?_) chat1
      rfl

/-- A counted change after a sign of life stands as the change does. -/
theorem footing_counted_alive {now : Nat} {change : Chat X → Chat X}
    (same : ∀ chat, (change chat).footing = chat.footing) (chat : Chat X) :
    ((chat.markAlive now).counted now change).1.footing = chat.footing :=
  (beside_footing.counted same _).trans (footing_markAlive now chat)

end Chat

namespace Node

variable {n : Node X} {sender : String} {message : WireOlm X.OlmMessage}

/-- A control frame's check leaves every chat as it stands. -/
theorem verifyControl_footing (n : Node X) (sender : String) (message : WireOlm X.OlmMessage)
    (marker : Bytes) (now : Nat) :
    n.Keeps Chat.footing (n.verifyControl sender message marker now).1 := by
  unfold verifyControl
  split
  · split
    · exact .refl n
    · rename_i session plaintext _
      split
      · exact .modifyChat n sender _ fun chat _ =>
          Chat.footing_markAlive now { chat with session := session }
      · exact .modifyChat n sender _ fun _ _ => rfl
  · exact .refl n

/-- A handler that acts on genuine frames only leaves the chats as what it does then. -/
theorem checked_footing {n n' : Node X} (sender : String) (message : WireOlm X.OlmMessage)
    (marker : Bytes) (now : Nat)
    (refused : ∀ n1, n.verifyControl sender message marker now = (n1, false) → n' = n1)
    (acted : ∀ n1, n.verifyControl sender message marker now = (n1, true) →
      n1.Keeps Chat.footing n') : n.Keeps Chat.footing n' := by
  have checked := verifyControl_footing n sender message marker now
  revert checked refused acted
  generalize n.verifyControl sender message marker now = verdict
  obtain ⟨n1, genuine⟩ := verdict
  intro refused acted checked
  cases genuine with
  | false => rwa [refused n1 rfl]
  | true => exact checked.trans (acted n1 rfl)

/-- A user message leaves every chat as it stands. -/
theorem receiveUser_footing (n : Node X) (sender id : String) (message : WireOlm X.OlmMessage)
    (open? : Bytes → Except String (Option ChatMessage)) (shown : ChatMessage → String) (now : Nat) :
    n.Keeps Chat.footing (n.receiveUser sender id message open? shown now).1 := by
  unfold receiveUser
  split
  · exact .refl n
  · split
    · exact .refl n
    · split
      · exact .refl n
      · split
        · exact .refl n
        · split
          · exact .refl n
          · rename_i session plaintext _
            have alive : n.Keeps Chat.footing (n.modifyChat sender
                (fun chat => { chat with session := session }.markAlive now)) :=
              .modifyChat n sender _ fun chat _ =>
                Chat.footing_markAlive now { chat with session := session }
            simp only []
            split
            · exact alive
            · exact alive
            · rename_i m _
              refine alive.trans (Keeps.trans (.modifyChat _ sender _ fun chat _ => ?_) (.of_chats rfl))
              exact Chat.beside_footing.takeIn chat m now

/-- A receipt leaves every chat as it stands. -/
theorem receiveDelivered_footing (n : Node X) (sender : String) (message : WireOlm X.OlmMessage)
    (now : Nat) : n.Keeps Chat.footing (n.receiveDelivered sender message now).1 := by
  unfold receiveDelivered
  split
  · exact .refl n
  · split
    · exact .refl n
    · split
      · exact .refl n
      · rename_i session plaintext _
        have alive : n.Keeps Chat.footing (n.modifyChat sender
            (fun chat => { chat with session := session }.markAlive now)) :=
          .modifyChat n sender _ fun chat _ =>
            Chat.footing_markAlive now { chat with session := session }
        simp only []
        split
        · exact alive
        · refine alive.trans (Keeps.trans (.modifyChat _ sender _ fun chat _ => ?_) (.of_chats rfl))
          exact Chat.beside_footing.history chat _

/-- The pair's mailbox leaves every chat as it stands. -/
theorem onMailboxKey_footing (n : Node X) (sender : String) (message : WireOlm X.OlmMessage)
    (fresh : Bytes) (now : Nat) :
    n.Keeps Chat.footing (n.onMailboxKey sender message fresh now) := by
  unfold onMailboxKey
  split
  · split
    · exact .refl n
    · split
      · exact .refl n
      · rename_i session plaintext _
        have opened : n.Keeps Chat.footing
            (n.modifyChat sender (fun chat => { chat with session := session })) :=
          .modifyChat n sender _ fun _ _ => rfl
        simp only []
        split
        · exact opened
        · have agreed (pair : Option MailboxPair) := opened.trans (Keeps.modifyChat _ sender
            (fun chat => { chat.markAlive now with mailbox := pair })
            fun chat _ => Chat.footing_markAlive now chat)
          -- Whether the confirmation proved right or not, only the pair changes.
          split
          all_goals
            split
            · refine Keeps.trans ?_ (sendMailboxKey_keeps Chat.beside_footing.session
                (fun _ _ => rfl) _ sender fresh now)
              exact (agreed _).trans (.of_chats rfl)
            · exact (agreed _).trans (.of_chats rfl)
  · exact .refl n

/-- What the contact's device says of captures leaves every chat as it stands. -/
theorem receiveCaptures_footing (n : Node X) (sender : String) (message : WireOlm X.OlmMessage)
    (now : Nat) : n.Keeps Chat.footing (n.receiveCaptures sender message now).1 := by
  refine openKnown_keeps Chat.beside_footing.session n sender message _ fun n plaintext => ?_
  have heardCaptures (visible : Bool) :
      n.Keeps Chat.footing (n.hearChat sender (Chat.hearCaptures visible)).1 := by
    refine hearChat_keeps n sender fun chat => ?_
    unfold Chat.hearCaptures
    split <;> rfl
  split
  · exact heardCaptures true
  · split
    · unfold receiveNearby
      split
      · exact .refl n
      · rename_i peer _
        have heard : n.Keeps Chat.footing (n.hearChat sender (Chat.hearNearby peer now)).1 := by
          refine hearChat_keeps n sender fun chat => ?_
          unfold Chat.hearNearby
          simp only []
          split
          · exact Chat.footing_markAlive now chat
          · split
            · exact Chat.footing_markAlive now chat
            · refine (Chat.beside_footing.counted (fun chat => ?_) _).trans
                (Chat.footing_markAlive now chat)
              split <;> rfl
        simp only []
        split
        · exact heard.trans (.of_chats rfl)
        · exact heard
    · split
      · exact heardCaptures false
      · split
        · rename_i on seq _
          have heard : n.Keeps Chat.footing (n.hearChat sender (Chat.hearBlock on seq now)).1 := by
            refine hearChat_keeps n sender fun chat => ?_
            unfold Chat.hearBlock
            simp only []
            split
            · exact Chat.footing_markAlive now chat
            · split
              · exact Chat.footing_markAlive now chat
              · refine (Chat.beside_footing.counted (fun chat => ?_) _).trans
                  (Chat.footing_markAlive now chat)
                rfl
          exact heard.trans (receiveBlock_keeps Chat.beside_footing.session n sender on seq now fun chat =>
            Chat.beside_footing.note RETOLD_TEXT now chat)
        · exact .refl n

/-- No sealed frame but a goodbye moves how a chat stands. -/
theorem processSealed_footing (n : Node X) {kind : SealedKind} (sender : String)
    (message : WireOlm X.OlmMessage) (inputs : FrameInputs) (now : Nat) (stays : kind ≠ .closed) :
    n.Keeps Chat.footing (n.processSealed kind sender message inputs now).1 := by
  have beside := Chat.beside_footing (X := X)
  have approved (act : Node X → Bytes → Node X × Processed)
      (each : ∀ (n' : Node X) plaintext, n'.Keeps Chat.footing (act n' plaintext).1) :
      n.Keeps Chat.footing (n.openApproved sender message act).1 :=
    openApproved_keeps beside.session n sender message act each
  have known (act : Node X → Bytes → Node X × Processed)
      (each : ∀ (n' : Node X) plaintext, n'.Keeps Chat.footing (act n' plaintext).1) :
      n.Keeps Chat.footing (n.openKnown sender message act).1 :=
    openKnown_keeps beside.session n sender message act each
  cases kind with
  | edit => exact receiveChange_keeps beside n sender message _ now
  | unsend => exact receiveChange_keeps beside n sender message _ now
  | burnMedia => exact receiveBurnMedia_keeps beside n sender message inputs now
  | viewed => exact receiveViewed_keeps beside n sender message
  | media => exact receiveMedia_keeps beside n sender message inputs now
  | mediaIncoming => exact receiveMediaIncoming_keeps beside n sender message inputs now
  | captures => exact receiveCaptures_footing n sender message now
  | mailboxKey => exact onMailboxKey_footing n sender message inputs.fresh now
  | delivered => exact receiveDelivered_footing n sender message now
  | closed => exact absurd rfl stays
  | storage =>
    refine approved _ fun n plaintext => hearChat_keeps n sender fun chat => ?_
    unfold Chat.hearStorage
    simp only []
    split
    · rfl
    · refine beside.counted (fun chat => ?_) chat
      rfl
  | disappearing =>
    refine approved _ fun n plaintext => hearChat_keeps n sender fun chat => ?_
    unfold Chat.hearDisappearing
    simp only []
    split
    · rfl
    · refine beside.counted (fun chat => ?_) chat
      rfl
  | verified =>
    refine known _ fun n plaintext => hearChat_keeps n sender fun chat => ?_
    unfold Chat.hearVerified
    split
    · rfl
    · split
      · rfl
      · refine beside.counted (fun chat => ?_) chat
        rfl
  | screenshot =>
    refine known _ fun n plaintext => hearChat_keeps n sender fun chat => ?_
    unfold Chat.hearScreenshot
    split
    · rfl
    · refine Chat.footing_counted_alive (fun chat => ?_) chat
      rfl
  | name => exact approved _ fun n plaintext => hearChat_keeps n sender fun _ => rfl
  | address =>
    refine approved _ fun n plaintext => ?_
    have heard : n.Keeps Chat.footing (n.hearChat sender (Chat.hearAddress plaintext now)).1 := by
      refine hearChat_keeps n sender fun chat => ?_
      unfold Chat.hearAddress
      simp only []
      split
      · rfl
      · refine beside.counted (fun chat => ?_) chat
        rfl
    simp only []
    split
    · exact heard.trans (announceClientKey_keeps beside.session (fun _ _ => rfl) _ sender _ _ now)
    · exact heard
  | relaySet =>
    refine approved _ fun n plaintext => hearChat_keeps n sender fun chat => ?_
    unfold Chat.hearRelaySet
    split
    · rfl
    · simp only []
      split <;> rfl
  | version =>
    refine known _ fun n plaintext => ?_
    split
    · exact .refl n
    · rename_i version _
      have heard : n.Keeps Chat.footing (n.hearChat sender (Chat.hearVersion version now)).1 :=
        hearChat_keeps n sender (Chat.footing_hearVersion version now)
      simp only []
      split
      · have forgot : Keeps Chat.footing _ _ :=
          .modifyChat (n.hearChat sender (Chat.hearVersion version now)).1
          sender (fun chat => { chat with toldNearbySeq := 0 }) fun _ _ => rfl
        exact (heard.trans forgot).trans (.of_chats rfl)
      · exact heard
  | clientKeySealed =>
    refine known _ fun n plaintext => ?_
    split
    · exact .refl n
    · refine .modifyChat n sender _ fun chat _ => ?_
      split <;> rfl
  | backedUp =>
    refine checked_footing sender message MARK_BACKEDUP now
      (fun n1 refused => ?_) (fun n1 genuine => ?_)
    · simp only [processSealed, receiveBackedUp, refused]
    · simp only [processSealed, receiveBackedUp, genuine]
      refine hearChat_keeps n1 sender fun chat => ?_
      unfold Chat.hearBackedUp
      split <;> rfl
  | burns =>
    refine checked_footing sender message MARK_BURNS_V1 now
      (fun n1 refused => ?_) (fun n1 genuine => ?_)
    · simp only [processSealed, receiveBurns, refused]
    · simp only [processSealed, receiveBurns, genuine]
      refine hearChat_keeps n1 sender fun chat => ?_
      split <;> rfl
  | ack =>
    refine checked_footing sender message MARK_ACK now
      (fun n1 refused => ?_) (fun n1 genuine => ?_)
    · simp only [processSealed, receiveAck, refused]
    · simp only [processSealed, receiveAck, genuine]
      exact .modifyChat n1 sender _ fun chat _ => Chat.footing_markAlive now chat

/-- No frame but a `Hello` and those that close a chat move how one stands. -/
theorem processFrame_footing (n : Node X) (fromAddress : Option String) {frame : Frame X.OlmMessage}
    (inputs : FrameInputs) (now : Nat)
    (pairs : ∀ contact address message, frame ≠ .hello contact address message)
    (closes : ∀ sender message, frame ≠ .sealed .closed sender message)
    (refuses : ∀ sender code, frame ≠ .codeInUse sender code) :
    n.Keeps Chat.footing (n.processFrame fromAddress frame inputs now).1 := by
  have noted : n.Keeps Chat.footing { n with dirty := true } := .of_chats rfl
  refine noted.trans ?_
  cases frame with
  | hello contact address message => exact absurd rfl (pairs contact address message)
  | message sender id message => exact receiveUser_footing _ sender id message _ _ now
  | burn sender id message => exact receiveUser_footing _ sender id message _ _ now
  | «sealed» kind sender message =>
    refine processSealed_footing _ sender message inputs now fun same => ?_
    rw [same] at closes
    exact closes sender message rfl
  | approved sender code =>
    exact receiveApproved_keeps Chat.beside_footing.session sender now (fun _ => rfl)
      (fun _ => rfl) (fun _ => rfl) _
  | codeInUse sender code => exact absurd rfl (refuses sender code)
  | pake => exact .refl _
  | cover => exact .refl _
  | clientKey => exact .refl _

end Node

end Nightdrop
