import Nightdrop.Node.Local
import Nightdrop.Proofs.Node.Handlers

/-! Where peers listen: whatever frames a device takes in, it keeps no place it may not dial. -/

namespace Nightdrop

variable {X : Externals}

/-- Where a contact listens on the local network, as far as they told. -/
def Chat.place (chat : Chat X) : Bool × Option (SocketAddr × String) :=
  (chat.peerNearbyOn, chat.peerNearby)

namespace Chat

theorem beside_place : Chat.Beside (Chat.place (X := X)) :=
  ⟨fun _ _ => rfl, fun _ _ => rfl, fun _ _ => rfl⟩

/-- A chat is located by its place alone. -/
theorem Located.of_place {chat chat' : Chat X} (located : chat.Located)
    (same : chat'.place = chat.place) : chat'.Located := by
  simp only [place, Prod.mk.injEq] at same
  intro listens told
  rw [same.1]
  exact located listens (same.2 ▸ told)

/-- Who has told no place has told none that may not be dialed. -/
theorem Located.of_none {chat : Chat X} (untold : chat.peerNearby = none) : chat.Located := by
  intro listens told
  rw [untold] at told
  cases told

/-- Being alive is no place. -/
theorem place_markAlive (now : Nat) (chat : Chat X) : (chat.markAlive now).place = chat.place := by
  cases told : chat.toldUpgrade <;> cases old : chat.peerAppVersion.any versionOutdated <;>
    simp [place, markAlive, forgetUpgradeNotice, told, old]

/-- A nearby announcement that was read leaves a place that may be dialed. -/
theorem Located.hearNearby {chat : Chat X} (located : chat.Located) {body : Bytes} {peer : PeerNearby}
    (read : parseBody body = some peer) (now : Nat) : (chat.hearNearby peer now).1.Located := by
  have alive : (chat.markAlive now).Located := located.of_place (place_markAlive now chat)
  unfold Chat.hearNearby
  simp only []
  split
  · exact alive
  · split
    · exact alive.of_place rfl
    · unfold Chat.counted
      simp only []
      split
      · -- The announcement is taken up: what it says of a place was checked when it was read.
        intro listens told
        exact parseBody_dialable read told
      · exact alive.of_place (beside_place.withinAllowance _ 0 now)

end Chat

namespace Node

variable {n n' : Node X} {sender contact : String}

/-- What shows no place leaves every place. -/
theorem Located.keeps (located : n.Located) (keeps : n.Keeps Chat.place n') : n'.Located := by
  intro contact chat' found'
  have same := keeps contact
  rw [found'] at same
  obtain ⟨chat, found, shown⟩ := Option.map_eq_some_iff.mp same.symm
  exact (located contact chat found).of_place shown.symm

/-- One chat changed, and located still. -/
theorem Located.modifyChat (located : n.Located) {f : Chat X → Chat X}
    (each : ∀ chat, chat.Located → (f chat).Located) : (n.modifyChat contact f).Located := by
  intro other chat' found'
  rw [lookup_modifyChat] at found'
  split at found'
  · obtain ⟨chat, found, rfl⟩ := Option.map_eq_some_iff.mp found'
    exact each chat (located contact chat found)
  · exact located other chat' found'

/-- A chat begun anew has no place. -/
theorem Located.insert (located : n.Located) {chat : Chat X} (untold : chat.peerNearby = none) :
    Located { n with chats := n.chats.insert contact chat } := by
  intro other chat' found'
  by_cases same : other = contact
  · subst same
    rw [AList.lookup_insert] at found'
    cases found'
    exact .of_none untold
  · rw [AList.lookup_insert_ne same] at found'
    exact located other chat' found'

/-- A user message shows no place. -/
theorem receiveUser_place (n : Node X) (sender id : String) (message : WireOlm X.OlmMessage)
    (open? : Bytes → Except String (Option ChatMessage)) (shown : ChatMessage → String) (now : Nat) :
    n.Keeps Chat.place (n.receiveUser sender id message open? shown now).1 := by
  unfold receiveUser
  split
  · exact .refl n
  · split
    · exact .refl n
    · split
      · exact .refl n
      · split
        · exact .refl n
        · split
          · exact .refl n
          · rename_i session plaintext _
            have alive : n.Keeps Chat.place
                (n.modifyChat sender (fun chat => { chat with session := session }.markAlive now)) :=
              .modifyChat n sender _ fun chat _ => Chat.place_markAlive now { chat with session := session }
            simp only []
            split
            · exact alive
            · exact alive
            · exact (alive.trans (.modifyChat _ sender _ fun chat _ =>
                Chat.beside_place.takeIn chat _ now)).trans (.of_chats rfl)

/-- A receipt shows no place. -/
theorem receiveDelivered_place (n : Node X) (sender : String) (message : WireOlm X.OlmMessage)
    (now : Nat) : n.Keeps Chat.place (n.receiveDelivered sender message now).1 := by
  unfold receiveDelivered
  split
  · exact .refl n
  · split
    · exact .refl n
    · split
      · exact .refl n
      · rename_i session plaintext _
        have alive : n.Keeps Chat.place
            (n.modifyChat sender (fun chat => { chat with session := session }.markAlive now)) :=
          .modifyChat n sender _ fun chat _ => Chat.place_markAlive now { chat with session := session }
        simp only []
        split
        · exact alive
        · exact (alive.trans (.modifyChat _ sender _ fun chat _ => Chat.beside_place.history chat _)).trans
            (.of_chats rfl)

/-- Checking a control frame shows no place. -/
theorem verifyControl_place (n : Node X) (sender : String) (message : WireOlm X.OlmMessage)
    (marker : Bytes) (now : Nat) : n.Keeps Chat.place (n.verifyControl sender message marker now).1 := by
  unfold verifyControl
  split
  · split
    · exact .refl n
    · rename_i session plaintext _
      split
      · exact .modifyChat n sender _ fun chat _ =>
          Chat.place_markAlive now { chat with session := session }
      · exact .modifyChat n sender _ fun chat _ => rfl
  · exact .refl n

/-- The mailbox agreement shows no place. -/
theorem onMailboxKey_place (n : Node X) (sender : String) (message : WireOlm X.OlmMessage)
    (fresh : Bytes) (now : Nat) : n.Keeps Chat.place (n.onMailboxKey sender message fresh now) := by
  unfold onMailboxKey
  split
  · rename_i chat olm _ _
    split
    · exact .refl n
    · split
      · exact .refl n
      · rename_i session plaintext _
        have used : n.Keeps Chat.place (n.modifyChat sender (fun chat => { chat with session := session })) :=
          .modifyChat n sender _ fun chat _ => rfl
        simp only []
        split
        · exact used
        · rename_i theirs theirConfirm _
          have agreed (pair : Option MailboxPair) := used.trans (Keeps.modifyChat _ sender (fun chat =>
            { chat.markAlive now with mailbox := pair }) fun chat _ => Chat.place_markAlive now chat)
          split
          all_goals
            split
            · refine Keeps.trans ?_ (sendMailboxKey_keeps Chat.beside_place.session (fun _ _ => rfl) _ sender
                fresh now)
              exact (agreed _).trans (.of_chats rfl)
            · exact (agreed _).trans (.of_chats rfl)
  · exact .refl n

/-- What a device says of captures leaves the places located: only a nearby announcement moves one. -/
theorem Located.receiveCaptures (located : n.Located) (sender : String) (message : WireOlm X.OlmMessage)
    (now : Nat) : (n.receiveCaptures sender message now).1.Located := by
  unfold Node.receiveCaptures openKnown
  split
  · split
    · exact located
    · rename_i session plaintext _
      have used : (n.modifyChat sender (fun chat => { chat with session := session })).Located :=
        located.modifyChat fun chat told => told.of_place rfl
      revert used
      generalize n.modifyChat sender (fun chat => { chat with session := session }) = n1
      intro used
      have silent (on : Bool) : (n1.hearChat sender (Chat.hearCaptures on)).1.Located := by
        refine used.modifyChat fun chat told => ?_
        unfold Chat.hearCaptures
        split <;> exact told.of_place rfl
      simp only []
      split
      · exact silent true
      · split
        · rename_i body _
          unfold receiveNearby
          split
          · exact used
          · rename_i peer read
            have heard : (n1.hearChat sender (Chat.hearNearby peer now)).1.Located :=
              used.modifyChat fun chat told => told.hearNearby read now
            simp only []
            split
            · exact heard
            · exact heard
        · split
          · exact silent false
          · split
            · rename_i on seq _
              have heard : n1.Keeps Chat.place (n1.hearChat sender (Chat.hearBlock on seq now)).1 := by
                refine hearChat_keeps n1 sender fun chat => ?_
                unfold Chat.hearBlock
                simp only []
                split
                · exact Chat.place_markAlive now chat
                · split
                  · exact Chat.place_markAlive now chat
                  · refine Eq.trans (Chat.beside_place.counted (fun chat => ?_) _)
                      (Chat.place_markAlive now chat)
                    rfl
              exact used.keeps (heard.trans (receiveBlock_keeps Chat.beside_place.session n1 sender on seq now fun chat =>
                Chat.beside_place.note RETOLD_TEXT now chat))
            · exact used
  · exact located

/-- A sealed frame leaves the places located. -/
theorem Located.processSealed (located : n.Located) (kind : SealedKind) (sender : String)
    (message : WireOlm X.OlmMessage) (inputs : FrameInputs) (now : Nat) :
    (n.processSealed kind sender message inputs now).1.Located := by
  have checked (marker : Bytes) : (n.verifyControl sender message marker now).1.Located :=
    located.keeps (verifyControl_place n sender message marker now)
  cases kind with
  | edit | unsend | burnMedia | viewed | storage | disappearing | verified | name | address | relaySet
  | version | clientKeySealed | media | mediaIncoming =>
    exact located.keeps ((processSealed_quiet inputs now (by simp)).coarser (·.2))
  | captures => exact located.receiveCaptures sender message now
  | delivered => exact located.keeps (receiveDelivered_place n sender message now)
  | mailboxKey => exact located.keeps (onMailboxKey_place n sender message inputs.fresh now)
  | screenshot =>
    refine located.keeps (openKnown_keeps Chat.beside_place.session n sender message _
      fun n plaintext => hearChat_keeps n sender fun chat => ?_)
    unfold Chat.hearScreenshot
    split
    · rfl
    · exact (Chat.beside_place.counted (Chat.beside_place.note _ now) _).trans
        (Chat.place_markAlive now chat)
  | closed =>
    have known := checked MARK_CLOSED
    simp only [Node.processSealed, receiveClosed]
    split
    · rename_i refused
      rwa [refused] at known
    · rename_i n1 genuine
      rw [genuine] at known
      split
      · exact known.modifyChat fun chat told => told.of_place rfl
      · exact known
  | backedUp =>
    have known := checked MARK_BACKEDUP
    simp only [Node.processSealed, receiveBackedUp]
    split
    · rename_i refused
      rwa [refused] at known
    · rename_i n1 genuine
      rw [genuine] at known
      refine known.modifyChat fun chat told => ?_
      unfold Chat.hearBackedUp
      split <;> exact told.of_place rfl
  | burns =>
    have known := checked MARK_BURNS_V1
    simp only [Node.processSealed, receiveBurns]
    split
    · rename_i refused
      rwa [refused] at known
    · rename_i n1 genuine
      rw [genuine] at known
      refine known.modifyChat fun chat told => ?_
      beta_reduce
      split <;> exact told.of_place rfl
  | ack =>
    have known := checked MARK_ACK
    simp only [Node.processSealed, receiveAck]
    split
    · rename_i refused
      rwa [refused] at known
    · rename_i n1 genuine
      rw [genuine] at known
      exact known.modifyChat fun chat told => told.of_place (Chat.place_markAlive now chat)

/-- A chat that adopts a pairing keeps its place, and one that is begun anew has none. -/
theorem Located.adoptHello (located : n.Located) (contact peerAddress : String) (session : X.Session)
    (body : Option HelloBody) (now : Nat) :
    (n.adoptHello contact peerAddress session body now).Located := by
  unfold Node.adoptHello
  split
  · rename_i prior _
    simp only []
    refine Located.modifyChat ?_ fun chat told => told.of_place rfl
    split
    · have rekeys : (n.modifyChat contact (rekeyed session peerAddress body)).Located :=
        located.modifyChat fun chat told => told.of_place rfl
      split
      · exact rekeys.keeps (.of_chats (deliverWith_chats _ _ _ _ _ _ _))
      · exact rekeys
    · exact located.insert rfl
  · exact located.insert rfl

/-- Whatever envelope is taken in, no place is kept that may not be dialed. -/
theorem Located.takeIn (located : n.Located) (fromAddress : Option String)
    (bytes : Envelope X.OlmMessage) (inputs : FrameInputs) (now : Nat) :
    (n.takeIn fromAddress bytes inputs now).1.Located := by
  unfold Node.takeIn
  split
  · split
    · unfold noteLegacyFrame
      split
      · exact located
      · simp only []
        split
        · exact located.modifyChat fun chat told => told.of_place rfl
        · exact located
    · exact located
  · rename_i frame _
    have same : (n.isDuplicateUserFrame frame bytes).1.chats = n.chats := by
      unfold isDuplicateUserFrame
      grind
    split
    · rename_i seen
      rw [seen] at same
      exact located.keeps (.of_chats same)
    · rename_i n1 unseen
      rw [unseen] at same
      have noted : Located { n1 with dirty := true } := located.keeps (.of_chats same)
      unfold processFrame
      simp only []
      revert noted
      generalize ({ n1 with dirty := true } : Node X) = n2
      intro noted
      cases frame with
      | hello contact address message =>
        cases readable : message.toOlm with
        | none => simpa only [receiveHello, readable] using noted
        | some olm =>
          cases accepted : X.acceptInbound n2.account contact olm with
          | none => simpa only [receiveHello, readable, accepted] using noted
          | some opened =>
            obtain ⟨account, session, plaintext⟩ := opened
            have adopted := Located.adoptHello (n := { n2 with account := account }) noted contact
              (if saneAddress address then address else fromAddress.getD "") session
              (X.readHello plaintext) now
            exact adopted.keeps (receiveHello_keeps Chat.beside_place.session (fun _ _ _ _ => rfl)
              (fun _ _ => rfl) n2 readable accepted fromAddress address inputs.toPairingInputs now)
      | message sender id message => exact noted.keeps (receiveUser_place n2 sender id message _ _ now)
      | burn sender id message => exact noted.keeps (receiveUser_place n2 sender id message _ _ now)
      | «sealed» kind sender message => exact noted.processSealed kind sender message inputs now
      | approved sender code =>
        exact noted.keeps (receiveApproved_keeps Chat.beside_place.session sender now
          (fun _ => rfl) (fun _ => rfl) (fun _ => rfl) n2)
      | codeInUse sender code =>
        exact noted.keeps (receiveCodeInUse_keeps now (fun _ => rfl) n2 sender)
      | pake _ | cover _ | clientKey _ _ => exact noted

end Node

end Nightdrop
