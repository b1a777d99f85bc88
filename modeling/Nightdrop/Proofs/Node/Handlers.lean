import Nightdrop.Node.Process
import Nightdrop.Proofs.Node.Keeps

/-! What the handlers leave as it was: a view of every chat beside its conversation. -/

namespace Nightdrop

variable {X : Externals} {β : Type*} {view : Chat X → β}

/-- A view of a chat beside its conversation: neither the use of its session nor its history nor its
contact's allowance shows in it. -/
structure Chat.Beside (view : Chat X → β) : Prop where
  session : Chat.Unsealed view
  history : ∀ (chat : Chat X) history, view { chat with history := history } = view chat
  allowance : ∀ (chat : Chat X) allowance, view { chat with allowance := allowance } = view chat

namespace Chat.Beside

/-- Counting against the allowance does not show. -/
theorem withinAllowance (beside : Chat.Beside view) (chat : Chat X) (size now : Nat) :
    view (withinAllowance chat size now).1 = view chat := by
  unfold Nightdrop.withinAllowance
  split
  · exact beside.allowance chat _
  · rename_i allowance _
    exact (beside.history { chat with allowance := allowance } _).trans (beside.allowance chat _)
  · exact beside.allowance chat _

/-- A counted change shows as the change does. -/
theorem counted (beside : Chat.Beside view) {now : Nat} {change : Chat X → Chat X}
    (same : ∀ chat, view (change chat) = view chat) (chat : Chat X) :
    view (chat.counted now change).1 = view chat := by
  unfold Chat.counted
  simp only []
  split
  · rw [same, beside.withinAllowance]
  · exact beside.withinAllowance chat 0 now

/-- A notice does not show. -/
theorem note (beside : Chat.Beside view) (text : String) (now : Nat) (chat : Chat X) :
    view (chat.note text now) = view chat := beside.history chat _

/-- Taking in a message does not show. -/
theorem takeIn (beside : Chat.Beside view) (chat : Chat X) (m : ChatMessage) (now : Nat) :
    view (chat.takeIn m now).1 = view chat := by
  unfold Chat.takeIn
  split
  · rfl
  · have same := beside.withinAllowance chat 0 now
    revert same
    generalize Nightdrop.withinAllowance chat 0 now = counted
    intro same
    simp only []
    split
    · exact ((beside.history _ _).trans (beside.history counted.1 _)).trans same
    · exact same

end Chat.Beside

namespace Node

/-- A frame of an approved contact shows as its handler does. -/
theorem openApproved_keeps (unsealed : Chat.Unsealed view) (n : Node X) (sender : String)
    (message : WireOlm X.OlmMessage) (act : Node X → Bytes → Node X × Processed)
    (each : ∀ (n' : Node X) (plaintext : Bytes), n'.Keeps view (act n' plaintext).1) :
    n.Keeps view (n.openApproved sender message act).1 := by
  unfold openApproved
  split
  · exact .refl n
  · split
    · exact .refl n
    · split
      · exact .refl n
      · split
        · exact .refl n
        · rename_i session plaintext _
          exact (Keeps.modifyChat n sender (fun chat => { chat with session := session })
            fun chat _ => unsealed chat session).trans (each _ plaintext)

/-- A frame of a known contact shows as its handler does. -/
theorem openKnown_keeps (unsealed : Chat.Unsealed view) (n : Node X) (sender : String)
    (message : WireOlm X.OlmMessage) (act : Node X → Bytes → Node X × Processed)
    (each : ∀ (n' : Node X) (plaintext : Bytes), n'.Keeps view (act n' plaintext).1) :
    n.Keeps view (n.openKnown sender message act).1 := by
  unfold openKnown
  split
  · split
    · exact .refl n
    · rename_i session plaintext _
      exact (Keeps.modifyChat n sender (fun chat => { chat with session := session })
        fun chat _ => unsealed chat session).trans (each _ plaintext)
  · exact .refl n

/-- What an open frame changes in its chat is all that shows. -/
theorem hearChat_keeps (n : Node X) (sender : String) {hear : Chat X → Chat X × Bool}
    (same : ∀ chat, view (hear chat).1 = view chat) : n.Keeps view (n.hearChat sender hear).1 :=
  .modifyChat n sender _ fun chat _ => same chat

/-- A change of a text does not show. -/
theorem receiveChange_keeps (beside : Chat.Beside view) (n : Node X) (sender : String)
    (message : WireOlm X.OlmMessage)
    (target? : Bytes → Option (String × (ChatMessage → ChatMessage))) (now : Nat) :
    n.Keeps view (n.receiveChange sender message target? now).1 := by
  unfold receiveChange
  split
  · exact .refl n
  · split
    · exact .refl n
    · split
      · exact .refl n
      · split
        · exact .refl n
        · rename_i session plaintext _
          have opened : n.Keeps view (n.modifyChat sender (fun chat => { chat with session := session })) :=
            .modifyChat n sender _ fun chat _ => beside.session chat session
          simp only []
          split
          · exact opened
          · split
            · exact opened.trans (.modifyChat _ sender _ fun chat _ => beside.history chat _)
            · exact opened

/-- Sealed files are kept beside the chats. -/
theorem forgetMedia_chats (n : Node X) (files : List String) :
    (files.foldl forgetMedia n).chats = n.chats := by
  induction files generalizing n with
  | nil => rfl
  | cons id rest ih =>
    rw [List.foldl_cons, ih]
    unfold forgetMedia
    split <;> rfl

/-- Admitting an attachment does not show. -/
theorem admitMedia_keeps (beside : Chat.Beside view) (n : Node X) (sender : String) (size now : Nat) :
    n.Keeps view (n.admitMedia sender size now).1 :=
  .modifyChat n sender _ fun chat _ => beside.withinAllowance chat size now

/-- A placeholder does not show. -/
theorem receiveMediaIncoming_keeps (beside : Chat.Beside view) (n : Node X) (sender : String)
    (message : WireOlm X.OlmMessage) (inputs : FrameInputs) (now : Nat) :
    n.Keeps view (n.receiveMediaIncoming sender message inputs now).1 := by
  refine openApproved_keeps beside.session n sender message _ fun n plaintext => ?_
  split
  · exact .refl n
  · rename_i transferId kind thumb _
    simp only []
    generalize (if MAX_THUMB_BYTES < thumb.length then [] else thumb) = thumb
    have admitted := admitMedia_keeps beside n sender thumb.length now
    revert admitted
    generalize n.admitMedia sender thumb.length now = admission
    intro admitted
    obtain ⟨n1, within⟩ := admission
    cases within with
    | false => exact admitted
    | true =>
      simp only []
      split
      · exact admitted
      · rename_i n2 thumbId stored
        -- Sealing the preview leaves the chats alone.
        have same : n2.chats = n1.chats := by
          split at stored
          · cases stored; rfl
          · unfold storeMedia at stored
            obtain ⟨id, -, made⟩ := Option.map_eq_some_iff.mp stored
            cases made
            rfl
        exact (admitted.trans (.of_chats same)).trans
          (.modifyChat n2 sender _ fun chat _ => beside.history chat _)

/-- An attachment does not show. -/
theorem receiveMedia_keeps (beside : Chat.Beside view) (n : Node X) (sender : String)
    (message : WireOlm X.OlmMessage) (inputs : FrameInputs) (now : Nat) :
    n.Keeps view (n.receiveMedia sender message inputs now).1 := by
  refine openApproved_keeps beside.session n sender message _ fun n plaintext => ?_
  split
  · exact .refl n
  · rename_i transferId kind data _
    split
    · exact .of_chats rfl
    · have admitted := admitMedia_keeps beside n sender data.length now
      revert admitted
      generalize n.admitMedia sender data.length now = admission
      intro admitted
      obtain ⟨n1, within⟩ := admission
      cases within with
      | false =>
        refine admitted.trans (Keeps.trans (.modifyChat n1 sender _ fun chat _ => ?_) (.of_chats rfl))
        exact beside.history chat _
      | true =>
        simp only [storeMedia]
        cases inputs.mediaId with
        | none => exact admitted
        | some id =>
          refine (admitted.trans (.of_chats rfl)).trans
            (Keeps.trans (.modifyChat _ sender _ fun chat _ => ?_) (.of_chats rfl))
          exact beside.history chat _

/-- A burn attachment does not show. -/
theorem receiveBurnMedia_keeps (beside : Chat.Beside view) (n : Node X) (sender : String)
    (message : WireOlm X.OlmMessage) (inputs : FrameInputs) (now : Nat) :
    n.Keeps view (n.receiveBurnMedia sender message inputs now).1 := by
  refine openApproved_keeps beside.session n sender message _ fun n plaintext => ?_
  split
  · exact .refl n
  · rename_i burnSecs transferId kind data _
    split
    · exact .refl n
    · split
      · exact .of_chats rfl
      · have admitted := admitMedia_keeps beside n sender data.length now
        revert admitted
        generalize n.admitMedia sender data.length now = admission
        intro admitted
        obtain ⟨n1, within⟩ := admission
        cases within with
        | false => exact admitted.trans (.of_chats rfl)
        | true =>
          simp only [storeMedia]
          cases inputs.mediaId with
          | none => exact admitted
          | some id =>
            refine (admitted.trans (.of_chats rfl)).trans
              (Keeps.trans (.modifyChat _ sender _ fun chat _ => ?_) (.of_chats rfl))
            exact beside.history chat _

/-- A burn message that was opened does not show. -/
theorem receiveViewed_keeps (beside : Chat.Beside view) (n : Node X) (sender : String)
    (message : WireOlm X.OlmMessage) : n.Keeps view (n.receiveViewed sender message).1 := by
  refine openApproved_keeps beside.session n sender message _ fun n plaintext => ?_
  split
  · exact .refl n
  · refine Keeps.trans (.modifyChat n sender _ fun chat _ => ?_) (.of_chats (forgetMedia_chats _ _))
    exact beside.history chat _

/-- An approval shows in the notices, and in what the contact was told. -/
theorem receiveApproved_keeps (unsealed : Chat.Unsealed view) (sender : String) (now : Nat)
    (cleared : ∀ chat : Chat X, view (chat.clearSystemNotices [.awaitApproval]) = view chat)
    (noticed : ∀ chat : Chat X, view { chat with
      history := chat.history ++ [.ofSystemTagged APPROVED_TEXT .approved now] } = view chat)
    (told : ∀ chat : Chat X, view { chat with
      toldCaptures := none, toldBlock := none, toldBurns := false, toldVersion := none
      toldNearbySeq := 0 } = view chat) (n : Node X) :
    n.Keeps view (n.receiveApproved sender now).1 := by
  unfold receiveApproved
  split
  · exact .refl n
  · rename_i chat _
    simp only []
    have cleared : n.Keeps view (n.modifyChat sender (·.clearSystemNotices [.awaitApproval])) :=
      .modifyChat n sender _ fun chat _ => cleared chat
    split
    · -- The wait is over: a notice says so, and everything is announced again.
      generalize n.modifyChat sender (·.clearSystemNotices [.awaitApproval]) = n1 at cleared ⊢
      have noted : n.Keeps view (n1.modifyChat sender (fun chat =>
          { chat with history := chat.history ++ [.ofSystemTagged APPROVED_TEXT .approved now] })) :=
        cleared.trans (.modifyChat n1 sender _ fun chat _ => noticed chat)
      revert noted
      generalize n1.modifyChat sender (fun chat =>
        { chat with history := chat.history ++ [.ofSystemTagged APPROVED_TEXT .approved now] }) = n2
      intro noted
      have announced := noted.trans (announceRelaySetTo_keeps unsealed n2 sender now)
      revert announced
      generalize n2.announceRelaySetTo sender now = n3
      intro announced
      have forgot : n.Keeps view (n3.modifyChat sender (fun chat =>
          { chat with toldCaptures := none, toldBlock := none, toldBurns := false
                      toldVersion := none, toldNearbySeq := 0 })) :=
        announced.trans (.modifyChat n3 sender _ fun chat _ => told chat)
      exact (forgot.trans (.of_chats rfl)).trans (announceStanding_keeps unsealed _ sender now)
    · exact cleared.trans (announceRelaySetTo_keeps unsealed _ sender now)

/-- A code reported as spent closes a chat at most. -/
theorem receiveCodeInUse_keeps (now : Nat) (closes : ∀ chat : Chat X,
    view ({ chat with closed := true }.note CODE_IN_USE_TEXT now) = view chat) (n : Node X)
    (sender : String) :
    n.Keeps view (n.receiveCodeInUse sender now).1 := by
  unfold receiveCodeInUse
  split
  · exact .modifyChat n sender _ fun chat _ => closes chat
  · exact .refl n

/-- What follows the adoption of a pairing shows only where keys and the mailbox pair do. -/
theorem receiveHello_keeps (unsealed : Chat.Unsealed view)
    (unkeyed : ∀ (chat : Chat X) peerKey pass own, view { chat with
      peerKeyPending := peerKey, passPending := pass, clientKey := own } = view chat)
    (unpaired : ∀ (chat : Chat X) pair, view { chat with mailbox := pair } = view chat) (n : Node X)
    {contact : String} {message : WireOlm X.OlmMessage} {olm : X.OlmMessage} {account : X.Account}
    {session : X.Session} {plaintext : Bytes} (readable : message.toOlm = some olm)
    (accepted : X.acceptInbound n.account contact olm = some (account, session, plaintext))
    (fromAddress : Option String) (address : String) (inputs : PairingInputs) (now : Nat) :
    ({ n with account := account }.adoptHello contact
        (if saneAddress address then address else fromAddress.getD "") session
        (X.readHello plaintext) now).Keeps view
      (n.receiveHello fromAddress contact address message inputs now).1 := by
  unfold receiveHello
  simp only [readable, accepted]
  generalize (if saneAddress address then address else fromAddress.getD "") = peerAddress
  generalize { n with account := account }.adoptHello contact peerAddress session
    (X.readHello plaintext) now = n1
  have keyed : n1.Keeps view (if (n1.chats.lookup contact).any (·.authorized) then
      n1.applyPendingKeys contact else n1) := by
    split
    · unfold applyPendingKeys
      split
      · exact .refl n1
      · exact (Keeps.modifyChat n1 contact _ fun chat _ => unkeyed chat none none _).trans
          (.of_chats rfl)
    · exact .refl n1
  revert keyed
  generalize (if (n1.chats.lookup contact).any (·.authorized) then
    n1.applyPendingKeys contact else n1) = n2
  intro keyed
  have announced : n2.Keeps view (if peerAddress ≠ ""
      && (((X.readHello plaintext).bind (·.pass)).bind X.decodeSecret).isNone then
      n2.announceClientKey contact peerAddress inputs.minted now else n2) := by
    split
    · exact announceClientKey_keeps unsealed
        (fun chat key => unkeyed chat chat.peerKeyPending chat.passPending key) n2 contact
        peerAddress _ now
    · exact .refl n2
  revert announced
  generalize (if peerAddress ≠ ""
      && (((X.readHello plaintext).bind (·.pass)).bind X.decodeSecret).isNone then
      n2.announceClientKey contact peerAddress inputs.minted now else n2) = n3
  intro announced
  have standing : n3.Keeps view
      (if peerAddress ≠ "" && (n1.chats.lookup contact).any (·.authorized) then
        let n := (n3.announceStanding contact now).announceRelaySetTo contact now
        if n.mailboxAgreed contact then n else n.sendMailboxKey contact inputs.fresh now
      else n3) := by
    split
    · have told := (announceStanding_keeps unsealed n3 contact now).trans
        (announceRelaySetTo_keeps unsealed _ contact now)
      simp only []
      split
      · exact told
      · exact told.trans (sendMailboxKey_keeps unsealed unpaired _ contact _ now)
    · exact .refl n3
  exact (keyed.trans announced).trans standing

/-- Telling again what stays allowed does not show: a request to block captures shows as what is heard of it does. -/
theorem receiveBlock_keeps (unsealed : Chat.Unsealed view) (n : Node X) (sender : String) (on : Bool) (seq now : Nat)
    (noted : ∀ chat : Chat X, view (Chat.note RETOLD_TEXT now chat) = view chat) :
    (n.hearChat sender (Chat.hearBlock on seq now)).1.Keeps view (n.receiveBlock sender on seq now).1 := by
  unfold receiveBlock
  generalize n.hearChat sender (Chat.hearBlock on seq now) = heard
  simp only []
  split
  · have told := Keeps.modifyChat heard.1 sender (Chat.note RETOLD_TEXT now) fun chat _ => noted chat
    generalize heard.1.modifyChat sender (Chat.note RETOLD_TEXT now) = n1 at told ⊢
    generalize n.overrideRetold.insert sender now = retold
    have moved : n1.Keeps view { n1 with overrideRetold := retold } := .of_chats rfl
    exact (told.trans moved).trans (sendCaptureNotice_keeps unsealed _ sender MARK_CAPTURE_OVERRIDE_ON now)
  · exact .refl heard.1

end Node

/-- What of a chat only a sign of life or a nearby announcement moves. -/
def Chat.bearing (chat : Chat X) : Nat × Bool × Option (SocketAddr × String) :=
  (chat.aliveCount, chat.peerNearbyOn, chat.peerNearby)

theorem Chat.beside_bearing : Chat.Beside (Chat.bearing (X := X)) :=
  ⟨fun _ _ => rfl, fun _ _ => rfl, fun _ _ => rfl⟩

/-- A version is no sign of life, and says nothing of a place. -/
theorem Chat.hearVersion_bearing (version : String) (now : Nat) (chat : Chat X) :
    (chat.hearVersion version now).1.bearing = chat.bearing := by
  have updated : (if versionOutdated version then chat
      else { chat with peerWireOld := false }.forgetUpgradeNotice).bearing = chat.bearing := by
    split
    · rfl
    · unfold forgetUpgradeNotice
      split <;> rfl
  unfold hearVersion
  revert updated
  generalize (if versionOutdated version then chat
    else { chat with peerWireOld := false }.forgetUpgradeNotice) = chat1
  intro updated
  simp only []
  split
  · exact updated
  · split
    · exact updated
    · refine Eq.trans ?_ updated
      refine beside_bearing.counted (fun chat => ?_) chat1
      rfl

namespace Node

/-- The handlers that note no sign of life keep their count, and where the peer listens. -/
theorem processSealed_quiet {n : Node X} {sender : String} {message : WireOlm X.OlmMessage}
    {kind : SealedKind} (inputs : FrameInputs) (now : Nat)
    (quiet : kind ∈ [SealedKind.edit, .unsend, .burnMedia, .viewed, .storage, .disappearing, .verified,
      .name, .address, .relaySet, .version, .clientKeySealed, .media, .mediaIncoming]) :
    n.Keeps Chat.bearing (n.processSealed kind sender message inputs now).1 := by
  have beside := Chat.beside_bearing (X := X)
  cases kind with
  | edit => exact receiveChange_keeps beside n sender message _ now
  | unsend => exact receiveChange_keeps beside n sender message _ now
  | burnMedia => exact receiveBurnMedia_keeps beside n sender message inputs now
  | viewed => exact receiveViewed_keeps beside n sender message
  | media => exact receiveMedia_keeps beside n sender message inputs now
  | mediaIncoming => exact receiveMediaIncoming_keeps beside n sender message inputs now
  | storage =>
    refine openApproved_keeps beside.session n sender message _ fun n plaintext =>
      hearChat_keeps n sender fun chat => ?_
    unfold Chat.hearStorage
    simp only []
    split
    · rfl
    · refine beside.counted (fun chat => ?_) chat
      rfl
  | disappearing =>
    refine openApproved_keeps beside.session n sender message _ fun n plaintext =>
      hearChat_keeps n sender fun chat => ?_
    unfold Chat.hearDisappearing
    simp only []
    split
    · rfl
    · refine beside.counted (fun chat => ?_) chat
      rfl
  | verified =>
    refine openKnown_keeps beside.session n sender message _ fun n plaintext =>
      hearChat_keeps n sender fun chat => ?_
    unfold Chat.hearVerified
    split
    · rfl
    · split
      · rfl
      · refine beside.counted (fun chat => ?_) chat
        rfl
  | name =>
    exact openApproved_keeps beside.session n sender message _ fun n plaintext =>
      hearChat_keeps n sender fun chat => rfl
  | address =>
    refine openApproved_keeps beside.session n sender message _ fun n plaintext => ?_
    have heard : n.Keeps Chat.bearing (n.hearChat sender (Chat.hearAddress plaintext now)).1 := by
      refine hearChat_keeps n sender fun chat => ?_
      unfold Chat.hearAddress
      simp only []
      split
      · rfl
      · refine beside.counted (fun chat => ?_) chat
        rfl
    simp only []
    split
    · exact heard.trans (announceClientKey_keeps beside.session (fun _ _ => rfl) _ sender _ _ now)
    · exact heard
  | relaySet =>
    refine openApproved_keeps beside.session n sender message _ fun n plaintext =>
      hearChat_keeps n sender fun chat => ?_
    unfold Chat.hearRelaySet
    split
    · rfl
    · simp only []
      split <;> rfl
  | version =>
    refine openKnown_keeps beside.session n sender message _ fun n plaintext => ?_
    split
    · exact .refl n
    · rename_i version _
      have heard : n.Keeps Chat.bearing (n.hearChat sender (Chat.hearVersion version now)).1 := by
        exact hearChat_keeps n sender (Chat.hearVersion_bearing version now)
      simp only []
      split
      · have forgot : Keeps Chat.bearing _ _ :=
          .modifyChat (n.hearChat sender (Chat.hearVersion version now)).1
          sender (fun chat => { chat with toldNearbySeq := 0 }) fun _ _ => rfl
        exact (heard.trans forgot).trans (.of_chats rfl)
      · exact heard
  | clientKeySealed =>
    refine openKnown_keeps beside.session n sender message _ fun n plaintext => ?_
    split
    · exact .refl n
    · refine .modifyChat n sender _ fun chat _ => ?_
      split <;> rfl
  | closed | backedUp | captures | burns | mailboxKey | ack | screenshot | delivered => simp at quiet

end Node

end Nightdrop
