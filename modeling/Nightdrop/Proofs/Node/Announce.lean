import Nightdrop.Proofs.Node.Queue

/-! The announcements as changes: each seals one control frame and sends it, and flags are aside. -/

namespace Nightdrop

variable {X : Externals} {S : Scope X}

namespace Node

/-- An announcement seals its frame, raises its flag and sends it. -/
theorem announce_changes (n : Node X) (contact : String) (kind : Announce) (carrier : SealedKind)
    (marker : Bytes) {raise : Node X → Node X} (now : Nat) (flags : ∀ n, Aside n (raise n)) :
    Changes S n (n.announce contact kind carrier marker raise now) := by
  unfold announce
  split
  · exact .refl S n
  · rename_i n1 address frame did
    obtain ⟨aside, sendable⟩ := authedControl_spec (S := S) did
    exact ((Changes.aside (aside.trans (flags n1)))).trans
      (deliverWith_changes address false _ now (sendable _ (flags n1)))

theorem announceBurnsTo_changes (n : Node X) (contact : String) (now : Nat) :
    Changes S n (n.announceBurnsTo contact now) :=
  announce_changes n contact _ _ _ now fun _ => .of_core rfl

theorem announceVersionTo_changes (n : Node X) (contact : String) (now : Nat) :
    Changes S n (n.announceVersionTo contact now) := by
  unfold announceVersionTo
  split
  · exact .refl S n
  · exact announce_changes n contact _ _ _ now fun _ => .of_core rfl

theorem announceCapturesTo_changes (n : Node X) (contact : String) (now : Nat) :
    Changes S n (n.announceCapturesTo contact now) := by
  unfold announceCapturesTo
  split
  · exact .refl S n
  · exact announce_changes n contact _ _ _ now fun _ => .of_core rfl

theorem announceBlockTo_changes (n : Node X) (contact : String) (now : Nat) :
    Changes S n (n.announceBlockTo contact now) := by
  unfold announceBlockTo
  split
  · exact .refl S n
  · exact announce_changes n contact _ _ _ now fun _ => .of_core rfl

theorem announceRelaySetTo_changes (n : Node X) (contact : String) (now : Nat) :
    Changes S n (n.announceRelaySetTo contact now) := by
  unfold announceRelaySetTo
  simp only []
  split
  · exact .refl S n
  · split
    · exact .refl S n
    · exact announce_changes n contact _ _ _ now fun _ => .of_core rfl

/-- What a contact just accepted is told, one announcement after the other. -/
theorem announceStanding_changes (n : Node X) (contact : String) (now : Nat) :
    Changes S n (n.announceStanding contact now) :=
  (((announceCapturesTo_changes n contact now).trans (announceBlockTo_changes _ contact now)).trans
    (announceBurnsTo_changes _ contact now)).trans (announceVersionTo_changes _ contact now)

/-- The mailbox agreement is noted, sealed and sent. -/
theorem sendMailboxKey_changes (n : Node X) (contact : String) (fresh : Bytes) (now : Nat) :
    Changes S n (n.sendMailboxKey contact fresh now) := by
  unfold sendMailboxKey
  split
  · exact .refl S n
  · split
    · exact .refl S n
    · rename_i chat found
      split
      · exact .refl S n
      · simp only []
        generalize chat.mailbox.getD { own := fresh } = pair
        -- Our contribution is stored with the chat before it is sealed.
        have stored : n.Aside { n.modifyChat contact (fun chat => { chat with mailbox := some pair }) with
            dirty := n.dirty || chat.mailbox.isNone } := by
          refine (Aside.modifyChat n contact (fun chat => { chat with mailbox := some pair }) ?_).trans
            (.of_core rfl)
          exact fun chat _ => .of_same rfl rfl rfl rfl rfl
        refine (Changes.aside stored).trans ?_
        split
        · exact .refl S _
        · rename_i n1 address frame did
          obtain ⟨aside, sendable⟩ := authedControl_spec (S := S) did
          have confirmed : n1.Aside { n1.modifyChat contact (fun chat => { chat with
              mailbox := some { pair with
                confirmSent := pair.confirmSent
                  || (pair.peer.map (X.confirmHash n.identityKey contact pair.own)).isSome } }) with
              dirty := true } := by
            refine (Aside.modifyChat n1 contact (fun chat => { chat with
              mailbox := some { pair with
                confirmSent := pair.confirmSent
                  || (pair.peer.map (X.confirmHash n.identityKey contact pair.own)).isSome } })
              ?_).trans (.of_core rfl)
            exact fun chat _ => .of_same rfl rfl rfl rfl rfl
          exact (Changes.aside (aside.trans confirmed)).trans
            (deliverWith_changes address false _ now (sendable _ confirmed))

/-- Our key for a contact's onion is noted, sealed and sent. -/
theorem announceClientKey_changes (n : Node X) (contact peerAddress : String)
    (minted : Option (String × Bytes)) (now : Nat) :
    Changes S n (n.announceClientKey contact peerAddress minted now) := by
  unfold announceClientKey
  split
  · exact .refl S n
  · rename_i clientKey secret
    simp only []
    have stored : n.Aside { n.modifyChat contact (fun chat => { chat with clientKey := some secret }) with
        dirty := n.dirty || (n.chats.lookup contact).isSome } := by
      refine (Aside.modifyChat n contact (fun chat => { chat with clientKey := some secret }) ?_).trans
        (.of_core rfl)
      exact fun chat _ => .of_same rfl rfl rfl rfl rfl
    refine (Changes.aside stored).trans ?_
    split
    · exact .refl S _
    · rename_i n1 address frame did
      obtain ⟨aside, sendable⟩ := authedControl_spec (S := S) did
      exact (Changes.aside aside).trans
        (deliverWith_changes peerAddress false _ now (sendable n1 (.refl n1)))

/-- A capture notice is sealed, and kept until a copy lands; nobody asks how old their app is. -/
theorem sendCaptureNotice_changes (n : Node X) (contact : String) (marker : Bytes) (now : Nat)
    (spares : S.bypasses contact ∨ n.peerOutdated contact = false) :
    Changes S n (n.sendCaptureNotice contact marker now) := by
  unfold sendCaptureNotice
  split
  · exact .refl S n
  · rename_i n1 address frame did
    obtain ⟨aside, sendable⟩ := authedControl_spec (S := S) did
    exact (Changes.aside aside).trans
      (queuePendingControl_changes _ _ (sendable n1 (.refl n1)) (spares.imp_right aside.young))

/-- A chat whose peer is alive is left aside: at most the notice about their old app goes. -/
theorem markAlive_aside (now : Nat) (chat : Chat X) : chat.Aside (chat.markAlive now) := by
  unfold Chat.markAlive
  simp only []
  generalize alive : (if ({ chat with lastSeen := some now, aliveCount := chat.aliveCount + 1
                                      peerWireOld := false } : Chat X).peerAppVersion.any versionOutdated
    then ({ chat with lastSeen := some now, aliveCount := chat.aliveCount + 1
                      peerWireOld := false, peerAppVersion := none } : Chat X)
    else { chat with lastSeen := some now, aliveCount := chat.aliveCount + 1
                     peerWireOld := false }) = seen
  have first : chat.Aside seen := by
    rw [← alive]
    split
    · -- The old version is forgotten.
      exact ⟨.of_same rfl rfl rfl rfl, fun outdated => by simp [Chat.outdated] at outdated⟩
    · refine ⟨.of_same rfl rfl rfl rfl, fun outdated => ?_⟩
      simp only [Chat.outdated, Bool.false_or] at outdated
      simp [Chat.outdated, outdated]
  refine first.trans ?_
  unfold Chat.forgetUpgradeNotice
  split
  · exact ⟨⟨.refl, .filter _ _, id, rfl⟩, id⟩
  · exact .refl seen

/-- Opening a ciphertext is one use of the session. -/
theorem opened_aside {chat : Chat X} {session : X.Session} {message : X.OlmMessage}
    {plaintext : Bytes} (opened : X.decrypt chat.session message = some (session, plaintext)) :
    chat.Aside { chat with session := session } :=
  ⟨⟨.single (.inr ⟨message, plaintext, opened⟩), .refl _, id, rfl⟩, id⟩

/-- A frame that is checked uses the session, whether it is genuine or not. -/
theorem verifyControl_aside (n : Node X) (sender : String) (message : WireOlm X.OlmMessage)
    (marker : Bytes) (now : Nat) : n.Aside (n.verifyControl sender message marker now).1 := by
  unfold verifyControl
  split
  · rename_i chat olm found readable
    split
    · exact .refl n
    · rename_i session plaintext opened
      split
      · refine .modifyChat n sender _ fun chat' found' => ?_
        obtain rfl : chat = chat' := by simpa [found] using found'
        exact (opened_aside opened).trans (markAlive_aside now _)
      · refine .modifyChat n sender _ fun chat' found' => ?_
        obtain rfl : chat = chat' := by simpa [found] using found'
        exact opened_aside opened
  · exact .refl n

end Node

end Nightdrop
