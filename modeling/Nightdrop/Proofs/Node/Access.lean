import Nightdrop.Node.Merge
import Nightdrop.Proofs.Node.Handlers

/-! Who is let in: a contact's words enter only an authorized chat, and only the user authorizes. -/

namespace Nightdrop

variable {X : Externals}

namespace Chat

/-- Whether the contact is let in, and what they said. -/
def admitted (chat : Chat X) : Bool × List ChatMessage := (chat.authorized, chat.contents)

/-- Whether the contact is let in, and what they said if not. -/
def guarded (chat : Chat X) : Bool × List ChatMessage :=
  (chat.authorized, if chat.authorized then [] else chat.contents)

/-- The guarded view is coarser. -/
theorem guarded_eq (chat : Chat X) :
    chat.guarded = (chat.admitted.1, if chat.admitted.1 then [] else chat.admitted.2) := rfl

theorem unsealed_admitted : Chat.Unsealed (Chat.admitted (X := X)) := fun _ _ => rfl

/-- Messages that are no words of the contact may go or come. -/
theorem contents_append {chat : Chat X} {history : List ChatMessage} {m : ChatMessage}
    (quiet : (!m.fromMe && !m.system) = false) :
    ({ chat with history := history ++ [m] } : Chat X).contents
      = ({ chat with history := history } : Chat X).contents := by
  simp [contents, quiet]

/-- Notices that go take no words of the contact along. -/
theorem contents_filter_system {history : List ChatMessage} {gone : ChatMessage → Bool} :
    (history.filter (fun m => !(m.system && gone m))).filter (fun m => !m.fromMe && !m.system)
      = history.filter (fun m => !m.fromMe && !m.system) := by
  rw [List.filter_filter]
  refine List.filter_congr (fun m _ => ?_)
  cases m.fromMe <;> cases m.system <;> simp

/-- Our own messages are none of the contact's words, however they change. -/
theorem contents_updateFirst {chosen : ChatMessage → Bool} {change : ChatMessage → ChatMessage}
    (ours : ∀ m, chosen m = true → m.fromMe = true)
    (stays : ∀ m, chosen m = true → (change m).fromMe = true) (history : List ChatMessage) :
    (updateFirst chosen change history).filter (fun m => !m.fromMe && !m.system)
      = history.filter (fun m => !m.fromMe && !m.system) := by
  induction history with
  | nil => rfl
  | cons m rest ih =>
    unfold updateFirst
    split
    · rename_i named
      simp [ours m named, stays m named]
    · simp only [List.filter_cons, ih]

/-- A notice is none of the contact's words. -/
theorem admitted_note (text : String) (now : Nat) (chat : Chat X) :
    (chat.note text now).admitted = chat.admitted := by
  have same : (chat.note text now).contents = chat.contents := contents_append rfl
  simp only [admitted, same]
  rfl

theorem admitted_forgetUpgradeNotice (chat : Chat X) :
    chat.forgetUpgradeNotice.admitted = chat.admitted := by
  unfold forgetUpgradeNotice
  split
  · simp only [admitted, contents, contents_filter_system]
  · rfl

theorem admitted_markAlive (now : Nat) (chat : Chat X) :
    (chat.markAlive now).admitted = chat.admitted := by
  unfold markAlive
  simp only []
  rw [admitted_forgetUpgradeNotice]
  split <;> rfl

/-- Counting against the allowance brings a notice at most. -/
theorem admitted_withinAllowance (chat : Chat X) (size now : Nat) :
    (withinAllowance chat size now).1.admitted = chat.admitted := by
  unfold withinAllowance
  split
  · rfl
  · rename_i allowance _
    exact admitted_note OVER_ALLOWANCE_NOTICE now { chat with allowance := allowance }
  · rfl

/-- A counted change shows as the change does. -/
theorem admitted_counted {now : Nat} {change : Chat X → Chat X}
    (same : ∀ chat, (change chat).admitted = chat.admitted) (chat : Chat X) :
    (chat.counted now change).1.admitted = chat.admitted := by
  unfold counted
  simp only []
  split
  · rw [same, admitted_withinAllowance]
  · exact admitted_withinAllowance chat 0 now

end Chat

namespace Node

/-- Every chat but one is as it was. -/
def Elsewhere (sender : String) (n n' : Node X) : Prop :=
  ∀ contact, contact ≠ sender → n'.chats.lookup contact = n.chats.lookup contact

namespace Elsewhere

variable {sender : String}

theorem refl (n : Node X) : Elsewhere sender n n := fun _ _ => rfl

theorem trans {a b c : Node X} (first : Elsewhere sender a b) (second : Elsewhere sender b c) :
    Elsewhere sender a c :=
  fun contact apart => (second contact apart).trans (first contact apart)

theorem of_chats {n n' : Node X} (same : n'.chats = n.chats) : Elsewhere sender n n' :=
  fun contact _ => by rw [same]

theorem modifyChat (n : Node X) (f : Chat X → Chat X) :
    Elsewhere sender n (n.modifyChat sender f) := by
  intro contact apart
  rw [lookup_modifyChat, if_neg apart]

/-- Where only an authorized chat changed, and stays authorized, nothing guarded changed. -/
theorem guarded {n n' : Node X} (elsewhere : Elsewhere sender n n')
    (keeps : n.Keeps (·.authorized) n') (letIn : n.letIn sender = true) :
    n.Keeps Chat.guarded n' := by
  intro contact
  by_cases here : contact = sender
  · subst here
    unfold Node.letIn at letIn
    cases found : n.chats.lookup contact with
    | none => simp [found] at letIn
    | some chat =>
      obtain ⟨chat', found', same⟩ := keeps.lookup found
      have authorized : chat.authorized = true := by simpa [found] using letIn
      have still : chat'.authorized = true := by rw [same, authorized]
      simp [found', Chat.guarded, authorized, still]
  · rw [elsewhere contact here]

end Elsewhere

/-- What shows no words and no decision shows nothing guarded. -/
theorem Keeps.guarded {n n' : Node X} (keeps : n.Keeps Chat.admitted n') :
    n.Keeps Chat.guarded n' :=
  keeps.coarser (fun seen => (seen.1, if seen.1 then [] else seen.2))

/-- A frame only an approved contact may send is not even opened for another. -/
theorem openApproved_guarded (n : Node X) (sender : String) (message : WireOlm X.OlmMessage)
    (act : Node X → Bytes → Node X × Processed)
    (kept : n.Keeps (·.authorized) (n.openApproved sender message act).1)
    (elsewhere : ∀ n' plaintext, Elsewhere sender n' (act n' plaintext).1) :
    n.Keeps Chat.guarded (n.openApproved sender message act).1 := by
  revert kept
  unfold openApproved
  split
  · exact fun _ => .refl n
  · split
    · exact fun _ => .refl n
    · rename_i chat found
      split
      · exact fun _ => .refl n
      · rename_i approved
        have letIn : n.letIn sender = true := by
          unfold Node.letIn
          simpa [found] using approved
        split
        · exact fun _ => .refl n
        · rename_i session plaintext _
          exact fun kept => ((Elsewhere.modifyChat n _).trans
            (elsewhere _ plaintext)).guarded kept letIn

theorem beside_authorized : Chat.Beside (fun chat : Chat X => chat.authorized) :=
  ⟨fun _ _ => rfl, fun _ _ => rfl, fun _ _ => rfl⟩

/-- A user message enters an authorized chat only. -/
theorem receiveUser_guarded (n : Node X) (sender id : String) (message : WireOlm X.OlmMessage)
    (open? : Bytes → Except String (Option ChatMessage)) (shown : ChatMessage → String)
    (now : Nat) :
    n.Keeps Chat.guarded (n.receiveUser sender id message open? shown now).1 := by
  unfold receiveUser
  split
  · exact .refl n
  · split
    · exact .refl n
    · split
      · exact .refl n
      · rename_i chat found
        split
        · exact .refl n
        · rename_i approved
          have letIn : n.letIn sender = true := by
            unfold Node.letIn
            simpa [found] using approved
          split
          · exact .refl n
          · rename_i session plaintext _
            have alive : n.Keeps (·.authorized) (n.modifyChat sender
                (fun chat => { chat with session := session }.markAlive now)) :=
              .modifyChat n sender _ fun chat _ =>
                congrArg Prod.fst (Chat.admitted_markAlive now { chat with session := session })
            have first : Elsewhere sender n (n.modifyChat sender
                (fun chat => { chat with session := session }.markAlive now)) :=
              .modifyChat n _
            simp only []
            split
            · exact first.guarded alive letIn
            · exact first.guarded alive letIn
            · rename_i m _
              refine ((first.trans (.modifyChat _ (fun chat => (chat.takeIn m now).1))).trans
                (.of_chats rfl)).guarded ?_ letIn
              refine (alive.trans (.modifyChat _ sender _ fun chat _ => ?_)).trans (.of_chats rfl)
              exact beside_authorized.takeIn chat m now

/-- A change of a text is made in an authorized chat only. -/
theorem receiveChange_guarded (n : Node X) (sender : String) (message : WireOlm X.OlmMessage)
    (target? : Bytes → Option (String × (ChatMessage → ChatMessage))) (now : Nat) :
    n.Keeps Chat.guarded (n.receiveChange sender message target? now).1 := by
  have kept := receiveChange_keeps beside_authorized n sender message target? now
  revert kept
  unfold receiveChange
  split
  · exact fun _ => .refl n
  · split
    · exact fun _ => .refl n
    · rename_i chat found
      split
      · exact fun _ => .refl n
      · rename_i approved
        have letIn : n.letIn sender = true := by
          unfold Node.letIn
          simpa [found] using approved
        split
        · exact fun _ => .refl n
        · rename_i session plaintext _
          simp only []
          split
          · exact fun kept => (Elsewhere.modifyChat n _).guarded kept letIn
          · split
            · exact fun kept => ((Elsewhere.modifyChat n _).trans (.modifyChat _ _)).guarded kept letIn
            · exact fun kept => (Elsewhere.modifyChat n _).guarded kept letIn

/-- A preview enters an authorized chat only. -/
theorem receiveMediaIncoming_guarded (n : Node X) (sender : String)
    (message : WireOlm X.OlmMessage) (inputs : FrameInputs) (now : Nat) :
    n.Keeps Chat.guarded (n.receiveMediaIncoming sender message inputs now).1 := by
  refine openApproved_guarded n sender message _
    (receiveMediaIncoming_keeps beside_authorized n sender message inputs now) fun n plaintext => ?_
  split
  · exact .refl n
  · rename_i transferId kind thumb _
    simp only []
    generalize (if MAX_THUMB_BYTES < thumb.length then [] else thumb) = thumb
    have admitted : Elsewhere sender n (n.admitMedia sender thumb.length now).1 := .modifyChat n _
    revert admitted
    generalize n.admitMedia sender thumb.length now = admission
    intro admitted
    obtain ⟨n1, within⟩ := admission
    cases within with
    | false => exact admitted
    | true =>
      simp only []
      split
      · exact admitted
      · rename_i n2 thumbId stored
        -- Sealing the preview leaves the chats alone.
        have same : n2.chats = n1.chats := by
          split at stored
          · cases stored; rfl
          · obtain ⟨_, -, made⟩ := Option.map_eq_some_iff.mp stored
            cases made
            rfl
        exact (admitted.trans (.of_chats same)).trans (.modifyChat n2 _)

/-- An attachment enters an authorized chat only. -/
theorem receiveMedia_guarded (n : Node X) (sender : String) (message : WireOlm X.OlmMessage)
    (inputs : FrameInputs) (now : Nat) :
    n.Keeps Chat.guarded (n.receiveMedia sender message inputs now).1 := by
  refine openApproved_guarded n sender message _
    (receiveMedia_keeps beside_authorized n sender message inputs now) fun n plaintext => ?_
  split
  · exact .refl n
  · rename_i transferId kind data _
    split
    · exact .of_chats rfl
    · have admitted : Elsewhere sender n (n.admitMedia sender data.length now).1 := .modifyChat n _
      revert admitted
      generalize n.admitMedia sender data.length now = admission
      intro admitted
      obtain ⟨n1, within⟩ := admission
      cases within with
      | false => exact admitted.trans ((Elsewhere.modifyChat n1 _).trans (.of_chats rfl))
      | true =>
        simp only [storeMedia]
        cases inputs.mediaId with
        | none => exact admitted
        | some id =>
          exact (admitted.trans (.of_chats rfl)).trans
            ((Elsewhere.modifyChat _ _).trans (.of_chats rfl))

/-- A burn attachment enters an authorized chat only. -/
theorem receiveBurnMedia_guarded (n : Node X) (sender : String) (message : WireOlm X.OlmMessage)
    (inputs : FrameInputs) (now : Nat) :
    n.Keeps Chat.guarded (n.receiveBurnMedia sender message inputs now).1 := by
  refine openApproved_guarded n sender message _
    (receiveBurnMedia_keeps beside_authorized n sender message inputs now) fun n plaintext => ?_
  split
  · exact .refl n
  · rename_i burnSecs transferId kind data _
    split
    · exact .refl n
    · split
      · exact .of_chats rfl
      · have admitted : Elsewhere sender n (n.admitMedia sender data.length now).1 :=
          .modifyChat n _
        revert admitted
        generalize n.admitMedia sender data.length now = admission
        intro admitted
        obtain ⟨n1, within⟩ := admission
        cases within with
        | false => exact admitted.trans (.of_chats rfl)
        | true =>
          simp only [storeMedia]
          cases inputs.mediaId with
          | none => exact admitted
          | some id =>
            exact (admitted.trans (.of_chats rfl)).trans
              ((Elsewhere.modifyChat _ _).trans (.of_chats rfl))

/-- What a contact opened is heard of in an authorized chat only. -/
theorem receiveViewed_guarded (n : Node X) (sender : String) (message : WireOlm X.OlmMessage) :
    n.Keeps Chat.guarded (n.receiveViewed sender message).1 := by
  refine openApproved_guarded n sender message _
    (receiveViewed_keeps beside_authorized n sender message) fun n plaintext => ?_
  split
  · exact .refl n
  · exact (Elsewhere.modifyChat n _).trans (.of_chats (forgetMedia_chats _ _))

/-- A control frame's check notes a sign of life at most. -/
theorem verifyControl_admitted (n : Node X) (sender : String) (message : WireOlm X.OlmMessage)
    (marker : Bytes) (now : Nat) :
    n.Keeps Chat.admitted (n.verifyControl sender message marker now).1 := by
  unfold verifyControl
  split
  · split
    · exact .refl n
    · rename_i session plaintext _
      split
      · exact .modifyChat n sender _ fun chat _ =>
          Chat.admitted_markAlive now { chat with session := session }
      · exact .modifyChat n sender _ fun _ _ => rfl
  · exact .refl n

/-- A handler that acts on genuine frames only shows as what it does then. -/
theorem checked_admitted {n n' : Node X} (sender : String) (message : WireOlm X.OlmMessage)
    (marker : Bytes) (now : Nat)
    (refused : ∀ n1, n.verifyControl sender message marker now = (n1, false) → n' = n1)
    (acted : ∀ n1, n.verifyControl sender message marker now = (n1, true) →
      n1.Keeps Chat.admitted n') : n.Keeps Chat.admitted n' := by
  have checked := verifyControl_admitted n sender message marker now
  revert checked refused acted
  generalize n.verifyControl sender message marker now = verdict
  obtain ⟨n1, genuine⟩ := verdict
  intro refused acted checked
  cases genuine with
  | false => rwa [refused n1 rfl]
  | true => exact checked.trans (acted n1 rfl)

/-- A receipt marks one of our own messages. -/
theorem receiveDelivered_admitted (n : Node X) (sender : String) (message : WireOlm X.OlmMessage)
    (now : Nat) : n.Keeps Chat.admitted (n.receiveDelivered sender message now).1 := by
  unfold receiveDelivered
  split
  · exact .refl n
  · split
    · exact .refl n
    · split
      · exact .refl n
      · rename_i session plaintext _
        have alive : n.Keeps Chat.admitted (n.modifyChat sender
            (fun chat => { chat with session := session }.markAlive now)) :=
          .modifyChat n sender _ fun chat _ =>
            Chat.admitted_markAlive now { chat with session := session }
        simp only []
        split
        · exact alive
        · refine (alive.trans (.modifyChat _ sender _ fun chat _ => ?_)).trans (.of_chats rfl)
          -- Only one of ours is marked, and it stays one of ours.
          have ours : ∀ m : ChatMessage, isReceipted (fromUtf8Lossy plaintext) m = true →
              m.fromMe = true := by
            intro m named
            unfold isReceipted at named
            split at named <;> simp_all
          refine congrArg (Prod.mk chat.authorized)
            (Chat.contents_updateFirst ours (fun m named => ?_) chat.history)
          exact ours m named

/-- A version lets notices go, and brings no words. -/
theorem hearVersion_admitted (version : String) (now : Nat) (chat : Chat X) :
    (chat.hearVersion version now).1.admitted = chat.admitted := by
  have updated : (if versionOutdated version then chat
      else { chat with peerWireOld := false }.forgetUpgradeNotice).admitted = chat.admitted := by
    split
    · rfl
    · exact Chat.admitted_forgetUpgradeNotice { chat with peerWireOld := false }
  unfold Chat.hearVersion
  revert updated
  generalize (if versionOutdated version then chat
    else { chat with peerWireOld := false }.forgetUpgradeNotice) = chat1
  intro updated
  simp only []
  split
  · exact updated
  · split
    · exact updated
    · refine Eq.trans ?_ updated
      refine Chat.admitted_counted (fun chat => ?_) chat1
      rfl

/-- What the contact's device says of captures brings no words. -/
theorem receiveCaptures_admitted (n : Node X) (sender : String) (message : WireOlm X.OlmMessage)
    (now : Nat) : n.Keeps Chat.admitted (n.receiveCaptures sender message now).1 := by
  refine openKnown_keeps Chat.unsealed_admitted n sender message _ fun n plaintext => ?_
  have heardCaptures (visible : Bool) :
      n.Keeps Chat.admitted (n.hearChat sender (Chat.hearCaptures visible)).1 := by
    refine hearChat_keeps n sender fun chat => ?_
    unfold Chat.hearCaptures
    split <;> rfl
  split
  · exact heardCaptures true
  · split
    · -- Nearby: a question of theirs is a notice.
      rename_i body _
      unfold receiveNearby
      split
      · exact .refl n
      · rename_i peer _
        have heard : n.Keeps Chat.admitted (n.hearChat sender (Chat.hearNearby peer now)).1 := by
          refine hearChat_keeps n sender fun chat => ?_
          unfold Chat.hearNearby
          simp only []
          split
          · exact Chat.admitted_markAlive now chat
          · split
            · exact Chat.admitted_markAlive now chat
            · refine (Chat.admitted_counted (fun chat => ?_) _).trans
                (Chat.admitted_markAlive now chat)
              split
              · exact Chat.admitted_note NEARBY_ASKED_TEXT now chat
              · rfl
        simp only []
        split
        · exact heard.trans (.of_chats rfl)
        · exact heard
    · split
      · exact heardCaptures false
      · split
        · rename_i on seq _
          have heard : n.Keeps Chat.admitted (n.hearChat sender (Chat.hearBlock on seq now)).1 := by
            refine hearChat_keeps n sender fun chat => ?_
            unfold Chat.hearBlock
            simp only []
            split
            · exact Chat.admitted_markAlive now chat
            · split
              · exact Chat.admitted_markAlive now chat
              · refine (Chat.admitted_counted (fun chat => ?_) _).trans
                  (Chat.admitted_markAlive now chat)
                rfl
          exact heard.trans (receiveBlock_keeps Chat.unsealed_admitted n sender on seq now fun chat =>
            Chat.admitted_note RETOLD_TEXT now chat)
        · exact .refl n

/-- The pair's mailbox shows neither words nor a decision. -/
theorem onMailboxKey_admitted (n : Node X) (sender : String) (message : WireOlm X.OlmMessage)
    (fresh : Bytes) (now : Nat) :
    n.Keeps Chat.admitted (n.onMailboxKey sender message fresh now) := by
  unfold onMailboxKey
  split
  · split
    · exact .refl n
    · split
      · exact .refl n
      · rename_i session plaintext _
        have opened : n.Keeps Chat.admitted
            (n.modifyChat sender (fun chat => { chat with session := session })) :=
          .modifyChat n sender _ fun _ _ => rfl
        simp only []
        split
        · exact opened
        · rename_i theirs theirConfirm _
          have agreed (pair : Option MailboxPair) := opened.trans (Keeps.modifyChat _ sender
            (fun chat => { chat.markAlive now with mailbox := pair })
            fun chat _ => Chat.admitted_markAlive now chat)
          -- Whether the confirmation proved right or not, only the pair changes.
          split
          all_goals
            split
            · refine Keeps.trans ?_
                (sendMailboxKey_keeps Chat.unsealed_admitted (fun _ _ => rfl) _ sender fresh now)
              exact (agreed _).trans (.of_chats rfl)
            · exact (agreed _).trans (.of_chats rfl)
  · exact .refl n

/-- No sealed frame brings words into a chat that is not authorized, or authorizes one. -/
theorem processSealed_guarded (n : Node X) (kind : SealedKind) (sender : String)
    (message : WireOlm X.OlmMessage) (inputs : FrameInputs) (now : Nat) :
    n.Keeps Chat.guarded (n.processSealed kind sender message inputs now).1 := by
  have approved (act : Node X → Bytes → Node X × Processed)
      (each : ∀ (n' : Node X) plaintext, n'.Keeps Chat.admitted (act n' plaintext).1) :
      n.Keeps Chat.guarded (n.openApproved sender message act).1 :=
    (openApproved_keeps Chat.unsealed_admitted n sender message act each).guarded
  have known (act : Node X → Bytes → Node X × Processed)
      (each : ∀ (n' : Node X) plaintext, n'.Keeps Chat.admitted (act n' plaintext).1) :
      n.Keeps Chat.guarded (n.openKnown sender message act).1 :=
    (openKnown_keeps Chat.unsealed_admitted n sender message act each).guarded
  cases kind with
  | edit => exact receiveChange_guarded n sender message _ now
  | unsend => exact receiveChange_guarded n sender message _ now
  | burnMedia => exact receiveBurnMedia_guarded n sender message inputs now
  | viewed => exact receiveViewed_guarded n sender message
  | media => exact receiveMedia_guarded n sender message inputs now
  | mediaIncoming => exact receiveMediaIncoming_guarded n sender message inputs now
  | captures => exact (receiveCaptures_admitted n sender message now).guarded
  | mailboxKey => exact (onMailboxKey_admitted n sender message inputs.fresh now).guarded
  | delivered => exact (receiveDelivered_admitted n sender message now).guarded
  | storage =>
    refine approved _ fun n plaintext => hearChat_keeps n sender fun chat => ?_
    unfold Chat.hearStorage
    simp only []
    split
    · rfl
    · refine Chat.admitted_counted (fun chat => ?_) chat
      exact Chat.admitted_note _ now _
  | disappearing =>
    refine approved _ fun n plaintext => hearChat_keeps n sender fun chat => ?_
    unfold Chat.hearDisappearing
    simp only []
    split
    · rfl
    · refine Chat.admitted_counted (fun chat => ?_) chat
      exact Chat.admitted_note _ now _
  | verified =>
    refine known _ fun n plaintext => hearChat_keeps n sender fun chat => ?_
    unfold Chat.hearVerified
    split
    · rfl
    · split
      · rfl
      · refine Chat.admitted_counted (fun chat => ?_) chat
        exact Chat.admitted_note _ now _
  | screenshot =>
    refine known _ fun n plaintext => hearChat_keeps n sender fun chat => ?_
    unfold Chat.hearScreenshot
    split
    · rfl
    · refine (Chat.admitted_counted (fun chat => ?_) _).trans (Chat.admitted_markAlive now chat)
      exact Chat.admitted_note _ now chat
  | name => exact approved _ fun n plaintext => hearChat_keeps n sender fun chat => rfl
  | address =>
    refine approved _ fun n plaintext => ?_
    have heard : n.Keeps Chat.admitted (n.hearChat sender (Chat.hearAddress plaintext now)).1 := by
      refine hearChat_keeps n sender fun chat => ?_
      unfold Chat.hearAddress
      simp only []
      split
      · rfl
      · refine Chat.admitted_counted (fun chat => ?_) chat
        exact Chat.admitted_note ADDRESS_TEXT now _
    simp only []
    split
    · exact heard.trans
        (announceClientKey_keeps Chat.unsealed_admitted (fun _ _ => rfl) _ sender _ _ now)
    · exact heard
  | relaySet =>
    refine approved _ fun n plaintext => hearChat_keeps n sender fun chat => ?_
    unfold Chat.hearRelaySet
    split
    · rfl
    · simp only []
      split <;> rfl
  | version =>
    refine known _ fun n plaintext => ?_
    split
    · exact .refl n
    · rename_i version _
      have heard : n.Keeps Chat.admitted (n.hearChat sender (Chat.hearVersion version now)).1 :=
        hearChat_keeps n sender (hearVersion_admitted version now)
      simp only []
      split
      · have forgot : Keeps Chat.admitted _ _ :=
          .modifyChat (n.hearChat sender (Chat.hearVersion version now)).1
          sender (fun chat => { chat with toldNearbySeq := 0 }) fun _ _ => rfl
        exact (heard.trans forgot).trans (.of_chats rfl)
      · exact heard
  | clientKeySealed =>
    refine known _ fun n plaintext => ?_
    split
    · exact .refl n
    · refine .modifyChat n sender _ fun chat _ => ?_
      split <;> rfl
  | closed =>
    refine Keeps.guarded (checked_admitted sender message MARK_CLOSED now
      (fun n1 refused => ?_) (fun n1 genuine => ?_))
    · simp only [processSealed, receiveClosed, refused]
    · simp only [processSealed, receiveClosed, genuine]
      split
      · exact .modifyChat n1 sender _ fun chat _ =>
          Chat.admitted_note CLOSED_TEXT now { chat with closed := true }
      · exact .refl n1
  | backedUp =>
    refine Keeps.guarded (checked_admitted sender message MARK_BACKEDUP now
      (fun n1 refused => ?_) (fun n1 genuine => ?_))
    · simp only [processSealed, receiveBackedUp, refused]
    · simp only [processSealed, receiveBackedUp, genuine]
      refine hearChat_keeps n1 sender fun chat => ?_
      unfold Chat.hearBackedUp
      split
      · rfl
      · exact Chat.admitted_note BACKED_UP_TEXT now { chat with peerBackedUp := true }
  | burns =>
    refine Keeps.guarded (checked_admitted sender message MARK_BURNS_V1 now
      (fun n1 refused => ?_) (fun n1 genuine => ?_))
    · simp only [processSealed, receiveBurns, refused]
    · simp only [processSealed, receiveBurns, genuine]
      refine hearChat_keeps n1 sender fun chat => ?_
      split <;> rfl
  | ack =>
    refine Keeps.guarded (checked_admitted sender message MARK_ACK now
      (fun n1 refused => ?_) (fun n1 genuine => ?_))
    · simp only [processSealed, receiveAck, refused]
    · simp only [processSealed, receiveAck, genuine]
      exact .modifyChat n1 sender _ fun chat _ => Chat.admitted_markAlive now chat

end Node

end Nightdrop
