import Nightdrop.Node.Symbolic
import Nightdrop.Proofs.Node.Charge

/-! The daily allowance bounds what a contact adds, as long as what they do is counted. -/

namespace Nightdrop

variable {X : Externals} {base : Allowance} {whom : String} {now : Nat}

/-- A total to which one key contributes alone is what that key contributes. -/
theorem KeyedMap.total_eq_weightAt {κ ν : Type} [DecidableEq κ] (weight : κ → ν → Nat)
    (m : KeyedMap κ ν) (at' : κ) (others : ∀ key, key ≠ at' → weightAt weight m key = 0) :
    total weight m = weightAt weight m at' := by
  rw [total_eq_sum]
  refine Finset.sum_eq_single at' (fun key _ apart => others key apart) fun absent => ?_
  have unlisted : m.lookup at' = none := by
    apply AList.lookup_eq_none.mpr
    show at' ∉ m.entries.keys
    simpa using absent
  simp [weightAt, unlisted]

/-- What of a chat is counted. -/
def Chat.bulk (chat : Chat X) : List ChatMessage × Allowance × Bool × Bool :=
  (chat.history, chat.allowance, chat.closed, chat.peerBackedUp)

theorem Chat.unsealed_bulk : Chat.Unsealed (Chat.bulk (X := X)) := fun _ _ => rfl

namespace Node

/-- A measure of the chat with a contact; 0 if there is none. -/
def gauge (n : Node X) (contact : String) (measure : Chat X → Nat) : Nat :=
  ((n.chats.lookup contact).map measure).getD 0

/-- A device whose chat with one contact grew by what is paid for, and no other chat. -/
structure Grows (whom : String) (base : Allowance) (stored : Nat) (n n' : Node X) : Prop where
  apart : ∀ contact, contact ≠ whom → n'.historyOf contact = n.historyOf contact
  entries : surplus ChatMessage.key (n.historyOf whom) (n'.historyOf whom)
    + n.gauge whom (Chat.charge base) ≤ n'.gauge whom (Chat.charge base)
  notices : ((n'.historyOf whom).countP ChatMessage.isOverAllowance
      - (n.historyOf whom).countP ChatMessage.isOverAllowance)
    + n.gauge whom (Chat.warned base) ≤ n'.gauge whom (Chat.warned base)
  stored : stored + n.gauge whom (Chat.usedBytes base) ≤ n'.gauge whom (Chat.usedBytes base)
  marks : n.gauge whom Chat.marks ≤ n'.gauge whom Chat.marks
  since : n.allowanceOf whom = base ∨ base.Later (n.allowanceOf whom) →
    n'.allowanceOf whom = base ∨ base.Later (n'.allowanceOf whom)

variable {n n' : Node X} {stored more : Nat} {chat chat' : Chat X} {message : WireOlm X.OlmMessage}

theorem allowanceOf_found (found : n.chats.lookup whom = some chat) :
    n.allowanceOf whom = chat.allowance := by
  simp [allowanceOf, found]

/-- Other conversations stay when one chat changes. -/
theorem historyOf_modifyChat {contact : String} (apart : contact ≠ whom) (f : Chat X → Chat X) :
    (n.modifyChat whom f).historyOf contact = n.historyOf contact := by
  unfold historyOf
  rw [lookup_modifyChat, if_neg apart]

namespace Grows

theorem trans {a b c : Node X} (first : a.Grows whom base stored b)
    (second : b.Grows whom base more c) : a.Grows whom base (stored + more) c := by
  have stages := surplus_triangle ChatMessage.key (a.historyOf whom) (b.historyOf whom)
    (c.historyOf whom)
  obtain ⟨apart, entries, notices, bytes, marks, since⟩ := first
  obtain ⟨apart', entries', notices', bytes', marks', since'⟩ := second
  refine ⟨fun contact other => (apart' contact other).trans (apart contact other), ?_, ?_, ?_, ?_,
    fun before => since' (since before)⟩ <;> omega

/-- What the chat grew by is what the device did. -/
theorem of_chat (found : n.chats.lookup whom = some chat) (found' : n'.chats.lookup whom = some chat')
    (grown : chat.Grows base stored chat')
    (apart : ∀ contact, contact ≠ whom → n'.historyOf contact = n.historyOf contact) :
    n.Grows whom base stored n' := by
  obtain ⟨entries, notices, bytes, marks, since⟩ := grown
  refine ⟨apart, ?_, ?_, ?_, ?_, ?_⟩
  all_goals simpa [historyOf, gauge, allowanceOf, found, found'] using ‹_›

/-- One chat changed by what is paid for. -/
theorem modifyChat (found : n.chats.lookup whom = some chat) {f : Chat X → Chat X}
    (grown : chat.Grows base stored (f chat)) : n.Grows whom base stored (n.modifyChat whom f) := by
  refine of_chat found ?_ grown fun contact other => historyOf_modifyChat other f
  rw [lookup_modifyChat, if_pos rfl, found]
  rfl

/-- What keeps every chat as it is, in all that is counted, is no growth. -/
theorem of_keeps (keeps : n.Keeps Chat.bulk n') : n.Grows whom base 0 n' := by
  have apart (contact : String) : n'.historyOf contact = n.historyOf contact := by
    have same := keeps.coarser (fun bulk => bulk.1) contact
    simpa [historyOf, Chat.bulk] using congrArg (·.getD []) same
  cases found : n.chats.lookup whom with
  | none =>
    have same := keeps whom
    rw [found] at same
    have found' : n'.chats.lookup whom = none := by simpa using same
    refine ⟨fun contact _ => apart contact, ?_, ?_, ?_, ?_, ?_⟩ <;>
      simp [historyOf, gauge, allowanceOf, found, found']
  | some chat =>
    obtain ⟨chat', found', same⟩ := keeps.lookup found
    simp only [Chat.bulk, Prod.mk.injEq] at same
    exact of_chat found found' (.of_same same.1 same.2.1 same.2.2.1 same.2.2.2) fun contact _ => apart contact

theorem refl (n : Node X) : n.Grows whom base 0 n := of_keeps (.refl n)

/-- What happens beside the chats is no growth. -/
theorem beside (grown : n.Grows whom base stored n') {n'' : Node X} (same : n''.chats = n'.chats) :
    n.Grows whom base stored n'' :=
  grown.trans (of_keeps (.of_chats same))

end Grows

/-- A frame of an approved contact is ignored, or opens on their session. -/
theorem openApproved_cases (n : Node X) (sender : String) (message : WireOlm X.OlmMessage)
    (act : Node X → Bytes → Node X × Processed) :
    (n.openApproved sender message act).1 = n
      ∨ ∃ session plaintext chat, n.opens sender message = some (session, plaintext)
        ∧ n.chats.lookup sender = some chat ∧ n.openApproved sender message act
          = act (n.modifyChat sender (fun chat => { chat with session := session })) plaintext := by
  cases opened : n.opens sender message with
  | none => exact .inl (openApproved_unread opened act)
  | some result =>
    obtain ⟨session, plaintext⟩ := result
    obtain ⟨chat, olm, found, readable, opens⟩ := opens_eq_some.mp opened
    unfold openApproved
    simp only [readable, found, opens]
    cases chat.authorized with
    | false => exact .inl rfl
    | true => exact .inr ⟨session, plaintext, chat, rfl, rfl, rfl⟩

/-- A frame of a known contact is ignored, or opens on their session. -/
theorem openKnown_cases (n : Node X) (sender : String) (message : WireOlm X.OlmMessage)
    (act : Node X → Bytes → Node X × Processed) :
    (n.openKnown sender message act).1 = n
      ∨ ∃ session plaintext chat, n.opens sender message = some (session, plaintext)
        ∧ n.chats.lookup sender = some chat ∧ n.openKnown sender message act
          = act (n.modifyChat sender (fun chat => { chat with session := session })) plaintext := by
  cases opened : n.opens sender message with
  | none => exact .inl (congrArg Prod.fst (openKnown_unread opened act))
  | some result =>
    obtain ⟨session, plaintext⟩ := result
    obtain ⟨chat, olm, found, readable, opens⟩ := opens_eq_some.mp opened
    unfold openKnown
    simp only [readable, found, opens]
    exact .inr ⟨session, plaintext, chat, rfl, rfl, rfl⟩

/-- Using a session is no growth, and leaves the chat with the allowance it had. -/
theorem opened_grows (base : Allowance) (found : n.chats.lookup whom = some chat) (session : X.Session) :
    n.Grows whom base 0 (n.modifyChat whom (fun chat => { chat with session := session }))
      ∧ ∃ chat', (n.modifyChat whom (fun chat => { chat with session := session })).chats.lookup whom
          = some chat' ∧ chat'.allowance = n.allowanceOf whom := by
  refine ⟨.modifyChat found (.of_same rfl rfl rfl rfl), { chat with session := session }, ?_, ?_⟩
  · rw [lookup_modifyChat, if_pos rfl, found]
    rfl
  · exact (allowanceOf_found found).symm

/-- A frame of an approved contact grows as its handler does. -/
theorem openApproved_grows {act : Node X → Bytes → Node X × Processed}
    (each : ∀ (n1 : Node X) plaintext chat, n1.chats.lookup whom = some chat →
      chat.allowance = n.allowanceOf whom → n1.Grows whom base 0 (act n1 plaintext).1) :
    n.Grows whom base 0 (n.openApproved whom message act).1 := by
  rcases openApproved_cases n whom message act with same | ⟨session, plaintext, chat, -, found, did⟩
  · rw [same]
    exact .refl n
  · obtain ⟨used, chat', found', allowance⟩ := opened_grows base found session
    rw [did]
    exact used.trans (each _ plaintext chat' found' allowance)

/-- A frame of a known contact grows as its handler does. -/
theorem openKnown_grows {act : Node X → Bytes → Node X × Processed}
    (each : ∀ (n1 : Node X) plaintext chat, n1.chats.lookup whom = some chat →
      chat.allowance = n.allowanceOf whom → n1.Grows whom base 0 (act n1 plaintext).1) :
    n.Grows whom base 0 (n.openKnown whom message act).1 := by
  rcases openKnown_cases n whom message act with same | ⟨session, plaintext, chat, -, found, did⟩
  · rw [same]
    exact .refl n
  · obtain ⟨used, chat', found', allowance⟩ := opened_grows base found session
    rw [did]
    exact used.trans (each _ plaintext chat' found' allowance)

/-- What an open frame changes in its chat is what the device grows by. -/
theorem hearChat_grows (found : n.chats.lookup whom = some chat) {hear : Chat X → Chat X × Bool}
    (heard : chat.Grows base 0 (hear chat).1) : n.Grows whom base 0 (n.hearChat whom hear).1 :=
  .modifyChat found heard

/-- A control frame's check is no growth. -/
theorem verifyControl_grows (n : Node X) (whom : String) (message : WireOlm X.OlmMessage)
    (marker : Bytes) (now : Nat) : n.Grows whom base 0 (n.verifyControl whom message marker now).1 := by
  unfold verifyControl
  split
  · rename_i found readable
    split
    · exact .refl n
    · rename_i session plaintext _
      split
      · have used : ∀ chat : Chat X, chat.Grows base 0 { chat with session := session } :=
          fun chat => .of_same rfl rfl rfl rfl
        exact .modifyChat found ((used _).trans (.markAlive _ now))
      · exact .modifyChat found (.of_same rfl rfl rfl rfl)
  · exact .refl n

/-- A handler that acts on genuine frames only grows as it does then. -/
theorem checked_grows {n n' : Node X} (whom : String) (message : WireOlm X.OlmMessage)
    (marker : Bytes) (now : Nat)
    (refused : ∀ n1, n.verifyControl whom message marker now = (n1, false) → n' = n1)
    (acted : ∀ n1, n.verifyControl whom message marker now = (n1, true) →
      n1.Grows whom base 0 n') : n.Grows whom base 0 n' := by
  have checked : n.Grows whom base 0 (n.verifyControl whom message marker now).1 :=
    verifyControl_grows n whom message marker now
  revert checked refused acted
  generalize n.verifyControl whom message marker now = verdict
  obtain ⟨n1, genuine⟩ := verdict
  intro refused acted checked
  cases genuine with
  | false => rwa [refused n1 rfl]
  | true => exact checked.trans (acted n1 rfl)

/-- A user message is taken in for what it is counted as. -/
theorem receiveUser_grows (ready : base.Ready now (n.allowanceOf whom)) (id : String)
    {open? : Bytes → Except String (Option ChatMessage)}
    (user : ∀ plaintext m, open? plaintext = .ok (some m) → m.system = false)
    (shown : ChatMessage → String) :
    n.Grows whom base 0 (n.receiveUser whom id message open? shown now).1 := by
  unfold receiveUser
  split
  · exact .refl n
  · split
    · exact .refl n
    · split
      · exact .refl n
      · rename_i chat found
        split
        · exact .refl n
        · split
          · exact .refl n
          · rename_i session plaintext _
            have used : chat.Grows base 0 { chat with session := session } := .of_same rfl rfl rfl rfl
            have alive : n.Grows whom base 0 (n.modifyChat whom
                (fun chat => { chat with session := session }.markAlive now)) :=
              .modifyChat found (used.trans (.markAlive _ now))
            have found' : (n.modifyChat whom (fun chat => { chat with session := session }.markAlive now)).chats.lookup
                whom = some ({ chat with session := session }.markAlive now) := by
              rw [lookup_modifyChat, if_pos rfl, found]
              rfl
            simp only []
            split
            · exact alive
            · exact alive
            · rename_i m opened
              rw [allowanceOf_found found] at ready
              have inForce : base.Ready now ({ chat with session := session }.markAlive now).allowance := by
                simpa using ready
              have landed := Grows.modifyChat found' (f := fun chat => (chat.takeIn m now).1)
                (Chat.takeIn_grows inForce (user _ m opened))
              exact (alive.trans landed).beside rfl

/-- A change of a text is no growth. -/
theorem receiveChange_grows (n : Node X) (whom : String) (message : WireOlm X.OlmMessage)
    {target? : Bytes → Option (String × (ChatMessage → ChatMessage))} (now : Nat)
    (same : ∀ plaintext id change, target? plaintext = some (id, change) →
      ∀ m, (change m).key = m.key) :
    n.Grows whom base 0 (n.receiveChange whom message target? now).1 := by
  unfold receiveChange
  split
  · exact .refl n
  · split
    · exact .refl n
    · rename_i chat found
      split
      · exact .refl n
      · split
        · exact .refl n
        · rename_i session plaintext _
          obtain ⟨opened, chat', found', -⟩ := opened_grows base found session
          simp only []
          split
          · exact opened
          · rename_i id change target
            split
            · -- Only a user's text is a target, and it stays one.
              have plain (m : ChatMessage) (targeted : ChatMessage.isTheirText id now EDIT_WINDOW m = true) :
                  (change m).system = false := by
                have key := congrArg (fun key => key.2.1) (same plaintext id change target m)
                simp only [ChatMessage.isTheirText, Bool.and_eq_true, Bool.not_eq_true'] at targeted
                exact key.trans targeted.1.1.1.1.1.2
              refine opened.trans (.modifyChat found' (Chat.Marked.grows (.of_updateFirst chat' _
                (same plaintext id change target) (fun m targeted waits => ?_) fun m targeted noticed => ?_)))
              · rw [plain m targeted] at waits
                cases waits
              · simp [ChatMessage.isOverAllowance, plain m targeted] at noticed
            · exact opened

/-- A receipt is no growth. -/
theorem receiveDelivered_grows (n : Node X) (whom : String) (message : WireOlm X.OlmMessage)
    (now : Nat) : n.Grows whom base 0 (n.receiveDelivered whom message now).1 := by
  unfold receiveDelivered
  split
  · exact .refl n
  · split
    · exact .refl n
    · rename_i chat found
      split
      · exact .refl n
      · rename_i session plaintext _
        have used : chat.Grows base 0 { chat with session := session } := .of_same rfl rfl rfl rfl
        have alive : n.Grows whom base 0 (n.modifyChat whom
            (fun chat => { chat with session := session }.markAlive now)) :=
          .modifyChat found (used.trans (.markAlive _ now))
        have found' : (n.modifyChat whom (fun chat => { chat with session := session }.markAlive now)).chats.lookup
            whom = some ({ chat with session := session }.markAlive now) := by
          rw [lookup_modifyChat, if_pos rfl, found]
          rfl
        simp only []
        split
        · exact alive
        · refine (alive.trans (.modifyChat found' (Chat.Marked.grows ?_))).beside rfl
          exact .of_updateFirst _ _ (fun m => rfl) (fun m _ waits => waits) fun m _ noticed => noticed

/-- The pair's mailbox is no growth. -/
theorem onMailboxKey_grows (n : Node X) (whom : String) (message : WireOlm X.OlmMessage)
    (fresh : Bytes) (now : Nat) : n.Grows whom base 0 (n.onMailboxKey whom message fresh now) := by
  unfold onMailboxKey
  split
  · rename_i chat olm found readable
    split
    · exact .refl n
    · split
      · exact .refl n
      · rename_i session plaintext _
        obtain ⟨opened, chat', found', -⟩ := opened_grows base found session
        simp only []
        split
        · exact opened
        · have agreed (pair : Option MailboxPair) := opened.trans (Grows.modifyChat found'
            (f := fun chat => { chat.markAlive now with mailbox := pair })
            ((Chat.Grows.markAlive chat' now : chat'.Grows base 0 _).beside rfl rfl rfl rfl))
          -- Whether the confirmation proved right or not, only the pair changes.
          split
          all_goals
            split
            · refine Grows.trans ?_ (.of_keeps
                (sendMailboxKey_keeps Chat.unsealed_bulk (fun _ _ => rfl) _ whom fresh now))
              exact (agreed _).beside rfl
            · exact (agreed _).beside rfl
  · exact .refl n

/-- What the contact's device says of captures is no growth but what is counted. -/
theorem receiveCaptures_grows (ready : base.Ready now (n.allowanceOf whom)) :
    n.Grows whom base 0 (n.receiveCaptures whom message now).1 := by
  refine openKnown_grows fun n1 plaintext chat found allowance => ?_
  have ready : base.Ready now chat.allowance := by rwa [allowance]
  have heardCaptures (visible : Bool) :
      n1.Grows whom base 0 (n1.hearChat whom (Chat.hearCaptures visible)).1 :=
    hearChat_grows found (Chat.hearCaptures_grows chat visible)
  split
  · exact heardCaptures true
  · split
    · unfold receiveNearby
      split
      · exact .refl n1
      · rename_i peer _
        have heard := hearChat_grows found (Chat.hearNearby_grows ready peer)
        simp only []
        split
        · exact heard.beside rfl
        · exact heard
    · split
      · exact heardCaptures false
      · split
        · rename_i on seq _
          unfold receiveBlock
          simp only []
          split
          · rename_i retold
            simp only [shows, found, Option.any_some, Bool.and_eq_true] at retold
            -- The notice is paid for by the change it follows.
            obtain ⟨c, alive, spent⟩ := Chat.hearBlock_spent ready on seq retold.1.1.1
            have noted : c.Grows base 0 (Chat.note RETOLD_TEXT now (chat.hearBlock on seq now).1) :=
              spent.note (by decide +kernel) rfl rfl rfl rfl
            have found' : ((n1.hearChat whom (Chat.hearBlock on seq now)).1.modifyChat whom
                (Chat.note RETOLD_TEXT now)).chats.lookup whom
                = some (Chat.note RETOLD_TEXT now (chat.hearBlock on seq now).1) := by
              simp [hearChat, lookup_modifyChat, found]
            have heard : n1.Grows whom base 0 ((n1.hearChat whom (Chat.hearBlock on seq now)).1.modifyChat whom
                (Chat.note RETOLD_TEXT now)) :=
              .of_chat found found' (alive.trans noted) fun contact other =>
                (historyOf_modifyChat other _).trans (historyOf_modifyChat other _)
            refine Grows.trans ?_ (.of_keeps (sendCaptureNotice_keeps Chat.unsealed_bulk _ whom _ now))
            exact heard.beside rfl
          · exact hearChat_grows found (Chat.hearBlock_grows ready on seq)
        · exact .refl n1

/-- Counting less is counting no more. -/
theorem Grows.fewer (grown : n.Grows whom base stored n') {less : Nat} (fewer : less ≤ stored) :
    n.Grows whom base less n' := by
  obtain ⟨apart, entries, notices, bytes, marks, since⟩ := grown
  exact ⟨apart, entries, notices, by omega, marks, since⟩

/-- Where no file is sealed, no byte is stored. -/
theorem Grows.unstored (grown : n.Grows whom base stored n') (same : n'.media = n.media)
    (bytes : Envelope X.OlmMessage) : n.Grows whom base (n.bytesStored n' bytes) n' := by
  refine grown.fewer ?_
  rw [bytesStored, if_pos same]
  exact Nat.zero_le _

/-- At most what a frame carries is stored. -/
theorem Grows.carried {frame : Frame X.OlmMessage}
    (grown : n.Grows whom base (n.attachmentOf frame).length n') :
    n.Grows whom base (n.bytesStored n' (encode frame)) n' := by
  refine grown.fewer ?_
  unfold bytesStored
  rw [decode_encode]
  split
  · exact Nat.zero_le _
  · exact Nat.le_refl _

/-- An attachment is refused for a notice at most, or paid for. -/
theorem admitMedia_cases (found : n.chats.lookup whom = some chat)
    (ready : base.Ready now chat.allowance) (size : Nat) :
    ∃ n' chat', n'.chats.lookup whom = some chat' ∧ n'.media = n.media
      ∧ (∀ contact, contact ≠ whom → n'.historyOf contact = n.historyOf contact)
      ∧ ((n.admitMedia whom size now = (n', false) ∧ chat.Grows base 0 chat')
        ∨ (n.admitMedia whom size now = (n', true) ∧ chat.Spent base size chat')) := by
  refine ⟨(n.admitMedia whom size now).1, (withinAllowance chat size now).1, ?_, rfl,
    fun contact other => historyOf_modifyChat other _, ?_⟩
  · simp only [admitMedia]
    rw [lookup_modifyChat, if_pos rfl, found]
    rfl
  · have same : (n.admitMedia whom size now).2 = (withinAllowance chat size now).2 := by
      simp [admitMedia, shows, found]
    cases within : (withinAllowance chat size now).2 with
    | false => exact .inl ⟨Prod.ext rfl (same.trans within), .of_refused ready within⟩
    | true => exact .inr ⟨Prod.ext rfl (same.trans within), .of_within ready within⟩

/-- An admitted attachment that is sealed shows in its conversation, and is paid for. -/
theorem sealed_grows {n1 n2 : Node X} {chat1 chat2 : Chat X} {size : Nat}
    (used : n.Grows whom base 0 n1) (found1 : n1.chats.lookup whom = some chat1)
    (found2 : n2.chats.lookup whom = some chat2)
    (apart : ∀ contact, contact ≠ whom → n2.historyOf contact = n1.historyOf contact)
    {f : Chat X → Chat X} (landed : chat1.Grows base size (f chat2)) (id : String) :
    n.Grows whom base size ({ n2 with media := n2.media ++ [id] }.modifyChat whom f) := by
  have found3 : ({ n2 with media := n2.media ++ [id] }.modifyChat whom f).chats.lookup whom
      = some (f chat2) := by
    rw [lookup_modifyChat, if_pos rfl]
    exact congrArg (Option.map f) found2
  have grown := used.trans (Grows.of_chat found1 found3 landed fun contact other =>
    (historyOf_modifyChat other f).trans (apart contact other))
  rwa [Nat.zero_add] at grown

/-- An attachment is stored for what it was counted as. -/
theorem receiveMedia_grows (ready : base.Ready now (n.allowanceOf whom)) (inputs : FrameInputs) :
    n.Grows whom base (n.bytesStored (n.receiveMedia whom message inputs now).1
        (encode (.sealed .media whom message))) (n.receiveMedia whom message inputs now).1 := by
  unfold receiveMedia
  rcases openApproved_cases n whom message _ with same | ⟨session, plaintext, chat, opened, found, did⟩
  · rw [same]
    exact (Grows.refl n).unstored rfl _
  · rw [did]
    obtain ⟨used, chat1, found1, allowance⟩ := opened_grows base found session
    have media : (n.modifyChat whom (fun chat => { chat with session := session })).media = n.media := rfl
    generalize n.modifyChat whom (fun chat => { chat with session := session }) = n1 at used found1 media
    have ready : base.Ready now chat1.allowance := by rwa [allowance]
    split
    · exact used.unstored media _
    · rename_i transferId kind data read
      have carries : n.attachmentOf (.sealed .media whom message) = data := by
        simp [attachmentOf, opened, read]
      split
      · apply Grows.unstored
        · exact used.beside rfl
        · exact media
      · obtain ⟨n2, chat2, found2, media2, apart, ⟨refused, grown⟩ | ⟨admitted, spent⟩⟩ :=
          admitMedia_cases found1 ready data.length
        · simp only [refused]
          have counted : n.Grows whom base 0 n2 := used.trans (.of_chat found1 found2 grown apart)
          have cleared : n2.Grows whom base 0 (n2.modifyChat whom (fun chat => { chat with
              history := chat.history.filter (fun m =>
                !(m.transferId = transferId && !m.fromMe && m.mediaId = "")) })) :=
            .modifyChat found2 (Chat.Marked.grows (.of_filter rfl rfl rfl rfl))
          apply Grows.unstored
          · exact (counted.trans cleared).beside rfl
          · exact media2.trans media
        · simp only [admitted, storeMedia]
          cases inputs.mediaId with
          | none =>
            have counted := used.trans (Grows.of_chat found1 found2 spent.grows apart)
            exact counted.unstored (media2.trans media) _
          | some id =>
            -- The placeholder becomes the attachment, or the attachment is an entry of its own.
            have landed : chat1.Grows base data.length { chat2 with
                history :=
                  if chat2.history.any (·.isAwaited transferId) then
                    updateFirst (·.isAwaited transferId) ({ · with mediaId := id }) chat2.history
                  else chat2.history ++ [.ofMedia false kind id transferId "" now] } := by
              split
              · have arrived := Chat.Marked.of_updateFirst chat2 (·.isAwaited transferId)
                  (f := ({ · with mediaId := id })) (fun _ => rfl) (fun _ _ waits => waits)
                  fun _ _ noticed => noticed
                exact spent.grows.trans arrived.grows
              · exact spent.concat (m := .ofMedia false kind id transferId "" now) rfl rfl rfl rfl rfl rfl
            refine Grows.carried ?_
            rw [carries]
            exact (sealed_grows used found1 found2 apart landed id).beside rfl

/-- A burn attachment is stored for what it was counted as. -/
theorem receiveBurnMedia_grows (ready : base.Ready now (n.allowanceOf whom)) (inputs : FrameInputs) :
    n.Grows whom base (n.bytesStored (n.receiveBurnMedia whom message inputs now).1
        (encode (.sealed .burnMedia whom message))) (n.receiveBurnMedia whom message inputs now).1 := by
  unfold receiveBurnMedia
  rcases openApproved_cases n whom message _ with same | ⟨session, plaintext, chat, opened, found, did⟩
  · rw [same]
    exact (Grows.refl n).unstored rfl _
  · rw [did]
    obtain ⟨used, chat1, found1, allowance⟩ := opened_grows base found session
    have media : (n.modifyChat whom (fun chat => { chat with session := session })).media = n.media := rfl
    generalize n.modifyChat whom (fun chat => { chat with session := session }) = n1 at used found1 media
    have ready : base.Ready now chat1.allowance := by rwa [allowance]
    split
    · exact used.unstored media _
    · rename_i burnSecs transferId kind data read
      have carries : n.attachmentOf (.sealed .burnMedia whom message) = data := by
        simp [attachmentOf, opened, read]
      split
      · exact used.unstored media _
      · split
        · apply Grows.unstored
          · exact used.beside rfl
          · exact media
        · obtain ⟨n2, chat2, found2, media2, apart, ⟨refused, grown⟩ | ⟨admitted, spent⟩⟩ :=
            admitMedia_cases found1 ready data.length
          · simp only [refused]
            have counted : n.Grows whom base 0 n2 := used.trans (.of_chat found1 found2 grown apart)
            apply Grows.unstored
            · exact counted.beside rfl
            · exact media2.trans media
          · simp only [admitted, storeMedia]
            cases inputs.mediaId with
            | none =>
              have counted := used.trans (Grows.of_chat found1 found2 spent.grows apart)
              exact counted.unstored (media2.trans media) _
            | some id =>
              have landed : chat1.Grows base data.length { chat2 with history := chat2.history
                  ++ [{ ChatMessage.ofMedia false kind id transferId "" now with burnSecs := burnSecs }] } :=
                spent.concat (m := { ChatMessage.ofMedia false kind id transferId "" now with
                  burnSecs := burnSecs }) rfl rfl rfl rfl rfl rfl
              refine Grows.carried ?_
              rw [carries]
              exact (sealed_grows used found1 found2 apart landed id).beside rfl

/-- A preview is stored for what it was counted as, if it is one. -/
theorem receiveMediaIncoming_grows (ready : base.Ready now (n.allowanceOf whom)) (inputs : FrameInputs) :
    n.Grows whom base (n.bytesStored (n.receiveMediaIncoming whom message inputs now).1
        (encode (.sealed .mediaIncoming whom message)))
      (n.receiveMediaIncoming whom message inputs now).1 := by
  unfold receiveMediaIncoming
  rcases openApproved_cases n whom message _ with same | ⟨session, plaintext, chat, opened, found, did⟩
  · rw [same]
    exact (Grows.refl n).unstored rfl _
  · rw [did]
    obtain ⟨used, chat1, found1, allowance⟩ := opened_grows base found session
    have media : (n.modifyChat whom (fun chat => { chat with session := session })).media = n.media := rfl
    generalize n.modifyChat whom (fun chat => { chat with session := session }) = n1 at used found1 media
    have ready : base.Ready now chat1.allowance := by rwa [allowance]
    split
    · exact used.unstored media _
    · rename_i transferId kind data read
      have carries : n.attachmentOf (.sealed .mediaIncoming whom message)
          = if MAX_THUMB_BYTES < data.length then [] else data := by
        simp [attachmentOf, opened, read]
      simp only []
      generalize (if MAX_THUMB_BYTES < data.length then [] else data) = thumb at carries ⊢
      obtain ⟨n2, chat2, found2, media2, apart, ⟨refused, grown⟩ | ⟨admitted, spent⟩⟩ :=
        admitMedia_cases found1 ready thumb.length
      · simp only [refused]
        have counted : n.Grows whom base 0 n2 := used.trans (.of_chat found1 found2 grown apart)
        exact counted.unstored (media2.trans media) _
      · simp only [admitted, storeMedia]
        have counted := used.trans (Grows.of_chat found1 found2 spent.grows apart)
        have landed (thumbId : String) : chat1.Grows base thumb.length { chat2 with
            history := chat2.history ++ [.ofMedia false kind "" transferId thumbId now] } :=
          spent.concat (m := .ofMedia false kind "" transferId thumbId now) rfl rfl rfl rfl rfl rfl
        by_cases bare : thumb = []
        · simp only [if_pos bare]
          have found3 : (n2.modifyChat whom (fun chat => { chat with
              history := chat.history ++ [.ofMedia false kind "" transferId "" now] })).chats.lookup whom
              = some { chat2 with
                history := chat2.history ++ [.ofMedia false kind "" transferId "" now] } := by
            rw [lookup_modifyChat, if_pos rfl, found2]
            rfl
          have shown := used.trans (Grows.of_chat found1 found3 (landed "") fun contact other =>
            (historyOf_modifyChat other _).trans (apart contact other))
          exact shown.unstored (media2.trans media) _
        · simp only [if_neg bare]
          cases inputs.mediaId with
          | none => exact counted.unstored (media2.trans media) _
          | some id =>
            refine Grows.carried ?_
            rw [carries]
            exact sealed_grows used found1 found2 apart (landed id) id

/-- A device whose chat with one contact grew by what its marks account for alone. -/
structure Marked (whom : String) (n n' : Node X) : Prop where
  entries : surplus ChatMessage.key (n.historyOf whom) (n'.historyOf whom) + n.gauge whom Chat.marks
    ≤ n'.gauge whom Chat.marks
  grows : ∀ base, n.Grows whom base 0 n'

namespace Marked

theorem trans {a b c : Node X} (first : a.Marked whom b) (second : b.Marked whom c) : a.Marked whom c where
  entries := by
    have stages := surplus_triangle ChatMessage.key (a.historyOf whom) (b.historyOf whom)
      (c.historyOf whom)
    have entries := first.entries
    have entries' := second.entries
    omega
  grows base := (first.grows base).trans (second.grows base)

/-- What keeps every chat as it is, in all that is counted, adds nothing. -/
theorem of_keeps (keeps : n.Keeps Chat.bulk n') : n.Marked whom n' where
  entries := by
    have same := keeps whom
    have seen (m : Node X) : m.historyOf whom = ((m.chats.lookup whom).map Chat.bulk).elim [] (·.1)
        ∧ m.gauge whom Chat.marks = ((m.chats.lookup whom).map Chat.bulk).elim 0 (fun bulk =>
          bulk.2.2.1.toNat + (!bulk.1.any (fun m => m.system && m.kind = .awaitApproval)).toNat) := by
      unfold historyOf gauge
      cases m.chats.lookup whom <;> exact ⟨rfl, rfl⟩
    rw [(seen n).1, (seen n).2, (seen n').1, (seen n').2, same, surplus_self, Nat.zero_add]
  grows _ := .of_keeps keeps

/-- What the chat was marked with is what the device did. -/
theorem of_chat (found : n.chats.lookup whom = some chat) (found' : n'.chats.lookup whom = some chat')
    (marked : chat.Marked chat')
    (apart : ∀ contact, contact ≠ whom → n'.historyOf contact = n.historyOf contact) :
    n.Marked whom n' where
  entries := by simpa [historyOf, gauge, found, found'] using marked.entries
  grows _ := .of_chat found found' marked.grows apart

/-- One chat changed by what its marks account for. -/
theorem modifyChat (found : n.chats.lookup whom = some chat) {f : Chat X → Chat X}
    (marked : chat.Marked (f chat)) : n.Marked whom (n.modifyChat whom f) := by
  refine of_chat found ?_ marked fun contact other => historyOf_modifyChat other f
  rw [lookup_modifyChat, if_pos rfl, found]
  rfl

end Marked

/-- An approval ends a wait, or says nothing. -/
theorem receiveApproved_marked (n : Node X) (whom : String) (now : Nat) :
    n.Marked whom (n.receiveApproved whom now).1 := by
  unfold receiveApproved
  cases found : n.chats.lookup whom with
  | none => exact .of_keeps (.refl n)
  | some chat =>
    simp only []
    have cleared : n.Marked whom (n.modifyChat whom (·.clearSystemNotices [.awaitApproval])) :=
      .modifyChat found (Chat.Marked.clearSystemNotices chat _)
    by_cases waited : chat.awaitingApproval = true
    · simp only [waited, if_true]
      -- The notice of the wait makes room for the one that it is over.
      have ended : chat.Marked { chat.clearSystemNotices [.awaitApproval] with
          history := (chat.clearSystemNotices [.awaitApproval]).history
            ++ [.ofSystemTagged APPROVED_TEXT .approved now] } := by
        have over' : Chat.awaitingApproval { chat.clearSystemNotices [.awaitApproval] with
            history := (chat.clearSystemNotices [.awaitApproval]).history
              ++ [.ofSystemTagged APPROVED_TEXT .approved now] } = false := by
          simp only [Chat.awaitingApproval, Chat.clearSystemNotices, ChatMessage.ofSystemTagged,
            List.any_append, Bool.or_eq_false_iff, List.any_eq_false, List.mem_filter]
          refine ⟨fun m kept waits => ?_, by simp⟩
          simp [waits] at kept
        have apart : APPROVED_TEXT ≠ OVER_ALLOWANCE_NOTICE := by decide +kernel
        refine ⟨rfl, rfl, ?_, ?_⟩
        · have stages := surplus_triangle ChatMessage.key chat.history
            (chat.clearSystemNotices [.awaitApproval]).history
            ((chat.clearSystemNotices [.awaitApproval]).history
              ++ [.ofSystemTagged APPROVED_TEXT .approved now])
          have removed : surplus ChatMessage.key chat.history
              (chat.clearSystemNotices [.awaitApproval]).history = 0 := surplus_filter _ _
          rw [surplus_concat] at stages
          simp only [Chat.marks, over', waited]
          show _ + (chat.closed.toNat + 0) ≤ chat.closed.toNat + 1
          omega
        · simp only [Chat.overs, List.countP_append]
          have fewer := (Chat.Marked.clearSystemNotices chat [.awaitApproval]).notices
          have unmarked : [ChatMessage.ofSystemTagged APPROVED_TEXT .approved now].countP
              ChatMessage.isOverAllowance = 0 := by
            simp [ChatMessage.isOverAllowance, ChatMessage.ofSystemTagged, ChatMessage.ofSystem, apart]
          unfold Chat.overs at fewer
          omega
      have noted : n.Marked whom ((n.modifyChat whom (·.clearSystemNotices [.awaitApproval])).modifyChat
          whom (fun chat => { chat with
            history := chat.history ++ [.ofSystemTagged APPROVED_TEXT .approved now] })) := by
        refine .of_chat found ?_ ended fun contact other =>
          (historyOf_modifyChat other _).trans (historyOf_modifyChat other _)
        rw [lookup_modifyChat, if_pos rfl, lookup_modifyChat, if_pos rfl, found]
        rfl
      revert noted
      generalize (n.modifyChat whom (·.clearSystemNotices [.awaitApproval])).modifyChat whom (fun chat =>
        { chat with history := chat.history ++ [.ofSystemTagged APPROVED_TEXT .approved now] }) = n2
      intro noted
      have announced := noted.trans (.of_keeps (announceRelaySetTo_keeps Chat.unsealed_bulk n2 whom now))
      revert announced
      generalize n2.announceRelaySetTo whom now = n3
      intro announced
      have forgot : n3.Keeps Chat.bulk (n3.modifyChat whom (fun chat =>
          { chat with toldCaptures := none, toldBlock := none, toldBurns := false
                      toldVersion := none, toldNearbySeq := 0 })) :=
        .modifyChat n3 whom _ fun _ _ => rfl
      exact announced.trans (.of_keeps ((forgot.trans (.of_chats rfl)).trans
        (announceStanding_keeps Chat.unsealed_bulk _ whom now)))
    · simp only [Bool.not_eq_true] at waited
      simp only [waited, Bool.false_eq_true, if_false]
      exact cleared.trans (.of_keeps (announceRelaySetTo_keeps Chat.unsealed_bulk _ whom now))

/-- A code reported as spent closes the chat, if it was open. -/
theorem receiveCodeInUse_marked (n : Node X) (whom : String) (now : Nat)
    (unclosed : ∀ chat, n.chats.lookup whom = some chat → chat.closed = true →
      X.hasReceived chat.session = true) : n.Marked whom (n.receiveCodeInUse whom now).1 := by
  unfold receiveCodeInUse
  cases found : n.chats.lookup whom with
  | none => exact .of_keeps (.refl n)
  | some chat =>
    split
    · rename_i waits
      have unreceived : X.hasReceived chat.session = false := by simpa using waits
      have open' : chat.closed = false := by
        by_contra closed
        rw [unclosed chat found (by simpa using closed)] at unreceived
        cases unreceived
      exact .modifyChat found (.of_closing open' (by decide +kernel))
    · exact .of_keeps (.refl n)

/-- A contact's first `Hello` opens an empty chat. -/
theorem receiveHello_grows (absent : n.chats.lookup whom = none) (fromAddress : Option String)
    (address : String) (message : WireOlm X.OlmMessage) (inputs : PairingInputs) (now : Nat) :
    n.Grows whom base 0 (n.receiveHello fromAddress whom address message inputs now).1 := by
  cases readable : message.toOlm with
  | none =>
    simp only [receiveHello, readable]
    exact .refl n
  | some olm =>
    cases accepted : X.acceptInbound n.account whom olm with
    | none =>
      simp only [receiveHello, readable, accepted]
      exact .refl n
    | some opening =>
      obtain ⟨account, session, plaintext⟩ := opening
      have kept := receiveHello_keeps Chat.unsealed_bulk (fun _ _ _ _ => rfl) (fun _ _ => rfl) n readable
        accepted fromAddress address inputs now
      refine Grows.trans ?_ (.of_keeps kept)
      have adopted : { n with account := account }.adoptHello whom
          (if saneAddress address then address else fromAddress.getD "") session
            (X.readHello plaintext) now
          = { n with account := account, chats := n.chats.insert whom ({ n with account := account }.greeted
              session (if saneAddress address then address else fromAddress.getD "")
                (X.readHello plaintext) now) } := by
        unfold adoptHello
        simp only [absent]
      rw [adopted]
      constructor
      · intro contact other
        simp [historyOf, other]
      all_goals
        simp [historyOf, gauge, allowanceOf, absent, greeted, Chat.newPaired]

/-- A `Hello` that opens no session changes nothing. -/
theorem receiveHello_unread (fromAddress : Option String) (address : String)
    (message : WireOlm X.OlmMessage) (inputs : PairingInputs) (now : Nat)
    (unread : (message.toOlm.bind (X.acceptInbound n.account whom)).isSome = false) :
    (n.receiveHello fromAddress whom address message inputs now).1 = n := by
  unfold receiveHello
  cases readable : message.toOlm with
  | none => rfl
  | some olm =>
    cases accepted : X.acceptInbound n.account whom olm with
    | none => simp only [accepted]
    | some opening => simp [readable, accepted] at unread

/-- Every sealed frame is no growth but what is counted. -/
theorem processSealed_grows (kind : SealedKind) (message : WireOlm X.OlmMessage)
    (ready : (Frame.sealed kind whom message).counts = true → base.Ready now (n.allowanceOf whom))
    (inputs : FrameInputs) :
    n.Grows whom base (n.bytesStored (n.processSealed kind whom message inputs now).1
      (encode (.sealed kind whom message))) (n.processSealed kind whom message inputs now).1 := by
  have counted (chat : Chat X) (same : chat.allowance = n.allowanceOf whom)
      (counts : (Frame.sealed kind whom message).counts = true) : base.Ready now chat.allowance := by
    rw [same]
    exact ready counts
  -- What carries no attachment stores nothing, so its growth is all there is to show.
  cases kind with
  | media => exact receiveMedia_grows (ready rfl) inputs
  | burnMedia => exact receiveBurnMedia_grows (ready rfl) inputs
  | mediaIncoming => exact receiveMediaIncoming_grows (ready rfl) inputs
  | edit =>
    refine Grows.carried (receiveChange_grows n whom message now fun plaintext id change read m => ?_)
    obtain ⟨e, -, same⟩ := Option.map_eq_some_iff.mp read
    cases same
    rfl
  | unsend =>
    refine Grows.carried (receiveChange_grows n whom message now fun plaintext id change read m => ?_)
    obtain ⟨e, -, same⟩ := Option.map_eq_some_iff.mp read
    cases same
    rfl
  | captures => exact Grows.carried (receiveCaptures_grows (ready rfl))
  | mailboxKey => exact Grows.carried (onMailboxKey_grows n whom message inputs.fresh now)
  | delivered => exact Grows.carried (receiveDelivered_grows n whom message now)
  | viewed =>
    refine Grows.carried (openApproved_grows fun n1 plaintext chat found _ => ?_)
    split
    · exact .refl n1
    · refine Grows.beside ?_ (forgetMedia_chats _ _)
      exact .modifyChat found (Chat.Marked.grows (.of_filter rfl rfl rfl rfl))
  | storage =>
    exact Grows.carried (openApproved_grows fun n1 plaintext chat found same =>
      hearChat_grows found (Chat.hearStorage_grows (counted chat same rfl) plaintext))
  | disappearing =>
    exact Grows.carried (openApproved_grows fun n1 plaintext chat found same =>
      hearChat_grows found (Chat.hearDisappearing_grows (counted chat same rfl) plaintext))
  | verified =>
    exact Grows.carried (openKnown_grows fun n1 plaintext chat found same =>
      hearChat_grows found (Chat.hearVerified_grows (counted chat same rfl) plaintext))
  | screenshot =>
    exact Grows.carried (openKnown_grows fun n1 plaintext chat found same =>
      hearChat_grows found (Chat.hearScreenshot_grows (counted chat same rfl) plaintext))
  | name =>
    exact Grows.carried (openApproved_grows fun n1 plaintext chat found _ =>
      hearChat_grows found (.of_same rfl rfl rfl rfl))
  | relaySet =>
    exact Grows.carried (openApproved_grows fun n1 plaintext chat found _ =>
      hearChat_grows found (Chat.hearRelaySet_grows chat plaintext))
  | address =>
    refine Grows.carried (openApproved_grows fun n1 plaintext chat found same => ?_)
    have heard := hearChat_grows found (Chat.hearAddress_grows (counted chat same rfl) plaintext)
    simp only []
    split
    · exact heard.trans (.of_keeps (announceClientKey_keeps Chat.unsealed_bulk (fun _ _ => rfl) _ whom _ _ now))
    · exact heard
  | version =>
    refine Grows.carried (openKnown_grows fun n1 plaintext chat found same => ?_)
    split
    · exact .refl n1
    · rename_i version _
      have heard := hearChat_grows found (Chat.hearVersion_grows (counted chat same rfl) version)
      simp only []
      split
      · have forgot : Keeps Chat.bulk _ _ := .modifyChat (n1.hearChat whom (Chat.hearVersion version now)).1
          whom (fun chat => { chat with toldNearbySeq := 0 }) fun _ _ => rfl
        exact (heard.trans (.of_keeps forgot)).beside rfl
      · exact heard
  | clientKeySealed =>
    refine Grows.carried (openKnown_grows fun n1 plaintext chat found _ => ?_)
    split
    · exact .refl n1
    · refine .of_keeps (.modifyChat n1 whom _ fun chat _ => ?_)
      split <;> rfl
  | backedUp =>
    refine Grows.carried (checked_grows whom message MARK_BACKEDUP now
      (fun n1 refused => ?_) (fun n1 genuine => ?_))
    · simp only [processSealed, receiveBackedUp, refused]
    · simp only [processSealed, receiveBackedUp, genuine]
      cases found : n1.chats.lookup whom with
      | none => exact .of_keeps (.modifyChat n1 whom _ fun chat there => by rw [found] at there; cases there)
      | some chat => exact hearChat_grows found (Chat.hearBackedUp_grows chat now)
  | burns =>
    refine Grows.carried (checked_grows whom message MARK_BURNS_V1 now
      (fun n1 refused => ?_) (fun n1 genuine => ?_))
    · simp only [processSealed, receiveBurns, refused]
    · simp only [processSealed, receiveBurns, genuine]
      refine .of_keeps (hearChat_keeps n1 whom fun chat => ?_)
      split <;> rfl
  | ack =>
    refine Grows.carried (checked_grows whom message MARK_ACK now
      (fun n1 refused => ?_) (fun n1 genuine => ?_))
    · simp only [processSealed, receiveAck, refused]
    · simp only [processSealed, receiveAck, genuine]
      cases found : n1.chats.lookup whom with
      | none => exact .of_keeps (.modifyChat n1 whom _ fun chat there => by rw [found] at there; cases there)
      | some chat => exact .modifyChat found (.markAlive chat now)
  | closed =>
    refine Grows.carried (checked_grows whom message MARK_CLOSED now
      (fun n1 refused => ?_) (fun n1 genuine => ?_))
    · simp only [processSealed, receiveClosed, refused]
    · simp only [processSealed, receiveClosed, genuine]
      cases found : n1.chats.lookup whom with
      | none => exact .refl n1
      | some chat =>
        split
        · rename_i open'
          have marked : chat.Marked ({ chat with closed := true }.note CLOSED_TEXT now) :=
            .of_closing (by simpa using open') (by decide +kernel)
          exact (Marked.modifyChat found marked).grows base
        · exact .refl n1

/-- What a ciphertext opens is opened for a chat that is there. -/
theorem found_of_opens (opened : (n.opens whom message).isSome = true) :
    ∃ chat, n.chats.lookup whom = some chat := by
  obtain ⟨result, did⟩ := Option.isSome_iff_exists.mp opened
  obtain ⟨chat, -, found, -⟩ := opens_eq_some.mp did
  exact ⟨chat, found⟩

/-- A frame that is counted adds what is paid for, and one that fails authentication a mark at most. -/
theorem processFrame_grows {frame : Frame X.OlmMessage} (claims : frame.claimedSender = some whom)
    (since : n.allowanceOf whom = base ∨ base.Later (n.allowanceOf whom))
    (window : ∀ chat, n.chats.lookup whom = some chat → frame.counts = true →
      chat.allowance = base ∨ chat.allowance.current now = chat.allowance)
    (first : ∀ chat, n.chats.lookup whom = some chat → ∀ address message,
      frame = .hello whom address message → n.authentic (encode frame) = false)
    (unclosed : ∀ chat, n.chats.lookup whom = some chat → ∀ code, frame = .codeInUse whom code →
      chat.closed = true → X.hasReceived chat.session = true)
    (fromAddress : Option String) (inputs : FrameInputs) :
    n.Grows whom base (n.bytesStored (n.processFrame fromAddress frame inputs now).1 (encode frame))
        (n.processFrame fromAddress frame inputs now).1
      ∧ (n.authentic (encode frame) = false →
        n.Marked whom (n.processFrame fromAddress frame inputs now).1) := by
  have noted : n.Marked whom { n with dirty := true } := .of_keeps (.of_chats rfl)
  -- What opens is heard in a chat, whose window is in force or was not used.
  have ready (message : WireOlm X.OlmMessage) (counts : frame.counts = true)
      (opened : (n.opens whom message).isSome = true) : base.Ready now (n.allowanceOf whom) := by
    obtain ⟨chat, found⟩ := found_of_opens opened
    rw [allowanceOf_found found] at since ⊢
    rcases since with unused | later
    · exact .inl unused
    · rcases window chat found counts with unused | inForce
      · exact .inl unused
      · exact .inr ⟨later, inForce⟩
  -- A frame that adds marks alone, and carries no attachment.
  have marked {n' : Node X} (bare : n.attachmentOf frame = []) (marked : n.Marked whom n') :
      n.Grows whom base (n.bytesStored n' (encode frame)) n' := by
    refine Grows.carried ?_
    rw [bare]
    exact marked.grows base
  cases frame with
  | hello contact address message =>
    cases Option.some.inj claims
    cases genuine : n.authentic (encode (.hello whom address message)) with
    | false =>
      have same : (n.processFrame fromAddress (.hello whom address message) inputs now).1
          = { n with dirty := true } :=
        receiveHello_unread fromAddress address message inputs.toPairingInputs now genuine
      rw [same]
      exact ⟨marked rfl noted, fun _ => noted⟩
    | true =>
      have absent : n.chats.lookup whom = none := by
        cases found : n.chats.lookup whom with
        | none => rfl
        | some chat =>
          rw [first chat found address message rfl] at genuine
          cases genuine
      refine ⟨Grows.carried ?_, fun unproven => ?_⟩
      · exact (noted.grows base).trans (receiveHello_grows (n := { n with dirty := true }) absent fromAddress
          address message inputs.toPairingInputs now)
      · cases unproven
  | message sender id message =>
    cases Option.some.inj claims
    cases opened : (n.opens whom message).isSome with
    | false =>
      have unread : n.opens whom message = none := by simpa using opened
      have same : (n.processFrame fromAddress (.message whom id message) inputs now).1
          = { n with dirty := true } :=
        receiveUser_unread (n := { n with dirty := true }) unread id _ _ now
      rw [same]
      exact ⟨marked rfl noted, fun _ => noted⟩
    | true =>
      refine ⟨Grows.carried ?_, fun unproven => ?_⟩
      · refine (noted.grows base).trans (receiveUser_grows (n := { n with dirty := true })
          (ready message rfl opened) id (fun plaintext m read => ?_) _)
        cases read
        rfl
      · have proven : n.authentic (encode (.message whom id message)) = true := opened
        rw [proven] at unproven
        cases unproven
  | burn sender id message =>
    cases Option.some.inj claims
    cases opened : (n.opens whom message).isSome with
    | false =>
      have unread : n.opens whom message = none := by simpa using opened
      have same : (n.processFrame fromAddress (.burn whom id message) inputs now).1
          = { n with dirty := true } :=
        receiveUser_unread (n := { n with dirty := true }) unread id _ _ now
      rw [same]
      exact ⟨marked rfl noted, fun _ => noted⟩
    | true =>
      refine ⟨Grows.carried ?_, fun unproven => ?_⟩
      · refine (noted.grows base).trans (receiveUser_grows (n := { n with dirty := true })
          (ready message rfl opened) id (fun plaintext m read => ?_) _)
        split at read
        · cases read
        · cases read
        · cases read
          rfl
      · have proven : n.authentic (encode (.burn whom id message)) = true := opened
        rw [proven] at unproven
        cases unproven
  | «sealed» kind sender message =>
    cases Option.some.inj claims
    cases opened : (n.opens whom message).isSome with
    | false =>
      have unread : n.opens whom message = none := by simpa using opened
      have same : (n.processFrame fromAddress (.sealed kind whom message) inputs now).1
          = { n with dirty := true } :=
        processSealed_unread (n := { n with dirty := true }) kind unread inputs now
      rw [same]
      exact ⟨(noted.grows base).unstored rfl _, fun _ => noted⟩
    | true =>
      refine ⟨?_, fun unproven => ?_⟩
      · have grown := processSealed_grows (n := { n with dirty := true }) kind message
          (fun counts => ready message counts opened) inputs
        have both := (noted.grows base).trans grown
        rw [Nat.zero_add] at both
        exact both
      · have proven : n.authentic (encode (.sealed kind whom message)) = true := opened
        rw [proven] at unproven
        cases unproven
  | approved sender code =>
    cases Option.some.inj claims
    have did := noted.trans (receiveApproved_marked { n with dirty := true } whom now)
    exact ⟨marked rfl did, fun _ => did⟩
  | codeInUse sender code =>
    cases Option.some.inj claims
    have did := noted.trans (receiveCodeInUse_marked { n with dirty := true } whom now
      fun chat found => unclosed chat found code rfl)
    exact ⟨marked rfl did, fun _ => did⟩
  | clientKey => exact ⟨marked rfl noted, fun _ => noted⟩
  | pake => cases claims
  | cover => cases claims

/-- What a frame is counted as is read from what it decodes to. -/
theorem bytesStored_read {bytes : Envelope X.OlmMessage} {frame : Frame X.OlmMessage}
    (read : decode bytes = some frame) : n.bytesStored n' bytes = n.bytesStored n' (encode frame) := by
  rw [bytesStored, bytesStored, read, decode_encode]

theorem authentic_read {bytes : Envelope X.OlmMessage} {frame : Frame X.OlmMessage}
    (read : decode bytes = some frame) : n.authentic bytes = n.authentic (encode frame) := by
  rw [authentic, authentic, read, decode_encode]

/-- What decodes is the frame of its envelope. -/
theorem decode_frame {bytes : Envelope X.OlmMessage} {frame : Frame X.OlmMessage}
    (read : decode bytes = some frame) : frame = bytes.f := by
  unfold decode at read
  split at read
  · exact (Option.some.inj read).symm
  · cases read

end Node

namespace Flood

variable {s : Flood X} {a : Hearing X}

/-- A frame that is counted where it arrives adds what is paid for, and one that fails authentication a
mark at most. -/
theorem takeIn_grows (claims : a.bytes.f.claimedSender = some whom)
    (since : s.node.allowanceOf whom = base ∨ base.Later (s.node.allowanceOf whom))
    (counted : s.Counted whom base a) :
    s.node.Grows whom base (s.node.bytesStored (s.step a).node a.bytes) (s.step a).node
      ∧ (s.node.authentic a.bytes = false → s.node.Marked whom (s.step a).node) := by
  show s.node.Grows whom base (s.node.bytesStored
      (s.node.takeIn a.fromAddress a.bytes a.inputs a.now).1 a.bytes) (s.node.takeIn a.fromAddress a.bytes
        a.inputs a.now).1
    ∧ (s.node.authentic a.bytes = false → s.node.Marked whom
      (s.node.takeIn a.fromAddress a.bytes a.inputs a.now).1)
  unfold Node.takeIn
  split
  · -- An older envelope is remembered as such at most.
    have noted (sender : String) : s.node.Keeps Chat.bulk (s.node.noteLegacyFrame sender) := by
      unfold Node.noteLegacyFrame
      split
      · exact .refl s.node
      · simp only []
        split
        · refine Node.Keeps.trans (.modifyChat s.node sender _ fun chat _ => ?_) (.of_chats rfl)
          rfl
        · exact .refl s.node
    have media (sender : String) : (s.node.noteLegacyFrame sender).media = s.node.media := by
      unfold Node.noteLegacyFrame
      split
      · rfl
      · simp only []
        split <;> rfl
    split
    · rename_i sender _
      exact ⟨(Node.Grows.of_keeps (noted sender)).unstored (media sender) _,
        fun _ => .of_keeps (noted sender)⟩
    · exact ⟨(Node.Grows.refl s.node).unstored rfl _, fun _ => .of_keeps (.refl s.node)⟩
  · rename_i frame read
    obtain ⟨seen, twice, once, -⟩ := Node.isDuplicateUserFrame_noted s.node frame a.bytes
    rw [once, Node.bytesStored_read read, Node.authentic_read read]
    have remembered : s.node.Marked whom { s.node with seenFrames := seen } := .of_keeps (.of_chats rfl)
    cases twice with
    | true => exact ⟨(remembered.grows base).unstored rfl _, fun _ => remembered⟩
    | false =>
      cases Node.decode_frame read
      obtain ⟨grown, unproven⟩ := Node.processFrame_grows (n := { s.node with seenFrames := seen }) claims since
        (fun chat found counts => (counted chat found).1 (by rw [read]; exact counts))
        (fun chat found address message named => by
          rw [← Node.authentic_read read]
          exact (counted chat found).2.1 address message (read.trans (congrArg some named)))
        (fun chat found code named => (counted chat found).2.2 code (read.trans (congrArg some named)))
        a.fromAddress a.inputs
      refine ⟨?_, fun fails => remembered.trans (unproven fails)⟩
      have both := (remembered.grows base).trans grown
      rw [Nat.zero_add] at both
      exact both

/-- Where one conversation changed alone, its entries are all that were added. -/
theorem entriesAdded_eq {n n' : Node X}
    (apart : ∀ contact, contact ≠ whom → n'.historyOf contact = n.historyOf contact) :
    n.entriesAdded n' ≤ surplus ChatMessage.key (n.historyOf whom) (n'.historyOf whom) := by
  have others (contact : String) (other : contact ≠ whom) : KeyedMap.weightAt
      (fun contact (chat : Chat X) => surplus ChatMessage.key (n.historyOf contact) chat.history) n'.chats
        contact = 0 := by
    have same := apart contact other
    unfold KeyedMap.weightAt
    unfold Node.historyOf at same ⊢
    cases found : n'.chats.lookup contact with
    | none => rfl
    | some chat =>
      rw [found] at same
      simp only [Option.map_some, Option.getD_some] at same ⊢
      rw [same, surplus_self]
  rw [Node.entriesAdded, KeyedMap.total_eq_weightAt _ _ whom others]
  unfold KeyedMap.weightAt Node.historyOf
  cases n'.chats.lookup whom with
  | none => exact Nat.zero_le _
  | some chat => exact Nat.le_refl _

/-- Where one conversation changed alone, its notices are all that were added. -/
theorem noticesAdded_eq {n n' : Node X}
    (apart : ∀ contact, contact ≠ whom → n'.historyOf contact = n.historyOf contact) :
    n.noticesAdded n' ≤ (n'.historyOf whom).countP ChatMessage.isOverAllowance
      - (n.historyOf whom).countP ChatMessage.isOverAllowance := by
  have others (contact : String) (other : contact ≠ whom) : KeyedMap.weightAt
      (fun contact (chat : Chat X) => chat.history.countP ChatMessage.isOverAllowance
        - (n.historyOf contact).countP ChatMessage.isOverAllowance) n'.chats contact = 0 := by
    have same := apart contact other
    unfold KeyedMap.weightAt
    unfold Node.historyOf at same ⊢
    cases found : n'.chats.lookup contact with
    | none => rfl
    | some chat =>
      rw [found] at same
      simp only [Option.map_some, Option.getD_some] at same ⊢
      rw [same, Nat.sub_self]
  rw [Node.noticesAdded, KeyedMap.total_eq_weightAt _ _ whom others]
  unfold KeyedMap.weightAt Node.historyOf
  cases n'.chats.lookup whom with
  | none => exact Nat.zero_le _
  | some chat => exact Nat.le_refl _

/-- What a run added is paid for: by the allowance since it was this one, and by marks. -/
structure Paid (whom : String) (base : Allowance) (s : Flood X) : Prop where
  entries : s.entries ≤ s.node.gauge whom (Chat.charge base)
  notices : s.notices ≤ s.node.gauge whom (Chat.warned base)
  stored : s.stored ≤ s.node.gauge whom (Chat.usedBytes base)
  unproven : s.unproven ≤ s.node.gauge whom Chat.marks
  since : s.node.allowanceOf whom = base ∨ base.Later (s.node.allowanceOf whom)

/-- Nothing was added when the run begins. -/
theorem Paid.start (n : Node X) : Paid whom (n.allowanceOf whom) { node := n } :=
  ⟨Nat.zero_le _, Nat.zero_le _, Nat.zero_le _, Nat.zero_le _, .inl rfl⟩

/-- A frame that is counted is paid for. -/
theorem Paid.step (paid : Paid whom base s) (claims : a.bytes.f.claimedSender = some whom)
    (counted : s.Counted whom base a) : Paid whom base (s.step a) := by
  obtain ⟨grown, fails⟩ := takeIn_grows claims paid.since counted
  obtain ⟨apart, entries, notices, bytes, marks, since⟩ := grown
  have added := entriesAdded_eq apart
  have warned := noticesAdded_eq apart
  obtain ⟨paidEntries, paidNotices, paidBytes, paidMarks, paidSince⟩ := paid
  refine ⟨?_, ?_, ?_, ?_, since paidSince⟩
  · show s.entries + s.node.entriesAdded (s.step a).node ≤ _
    omega
  · show s.notices + s.node.noticesAdded (s.step a).node ≤ _
    omega
  · show s.stored + s.node.bytesStored (s.step a).node a.bytes ≤ _
    omega
  · show s.unproven + (if s.node.authentic a.bytes then 0 else s.node.entriesAdded (s.step a).node) ≤ _
    split
    · omega
    · rename_i unproven
      have marked := (fails (by simpa using unproven)).entries
      omega

/-- What every frame of a run adds is paid for. -/
theorem Paid.run {arrivals : List (Hearing X)} (paid : Paid whom base s)
    (claims : ∀ a ∈ arrivals, a.bytes.f.claimedSender = some whom)
    (counted : s.AllCounted whom base arrivals) : Paid whom base (s.run arrivals) := by
  induction arrivals generalizing s with
  | nil => exact paid
  | cons a rest ih =>
    obtain ⟨first, later⟩ := counted
    exact ih (paid.step (claims a (.head _)) first) (fun b member => claims b (.tail _ member)) later

/--
In every run of frames that claim to come from one contact, each of them counted where it arrives, at most
one day's messages are added and four notices, one of them that the allowance is used up; at most one day's
attachments are stored; and frames that fail authentication add two entries at most.
-/
theorem flood_is_bounded {n : Node X} {arrivals : List (Hearing X)}
    (claims : ∀ a ∈ arrivals, a.bytes.f.claimedSender = some whom)
    (counted : AllCounted whom (n.allowanceOf whom) { node := n } arrivals) :
    (run { node := n } arrivals).entries ≤ MAX_MESSAGES_PER_DAY + 4
      ∧ (run { node := n } arrivals).notices ≤ 1
      ∧ (run { node := n } arrivals).stored ≤ MAX_MEDIA_BYTES_PER_DAY
      ∧ (run { node := n } arrivals).unproven ≤ 2 := by
  obtain ⟨entries, notices, bytes, unproven, -⟩ := (Paid.start n).run claims counted
  generalize run { node := n } arrivals = s at entries notices bytes unproven
  generalize n.allowanceOf whom = base at entries notices bytes
  have since_le (measure : Allowance → Nat) (a : Allowance) : Allowance.since measure base a ≤ measure a := by
    unfold Allowance.since
    split
    · exact Nat.le_refl _
    · exact Nat.zero_le _
  unfold Node.gauge at entries notices bytes unproven
  cases found : s.node.chats.lookup whom with
  | none =>
    rw [found] at entries notices bytes unproven
    simp only [Option.map_none, Option.getD_none] at entries notices bytes unproven
    omega
  | some chat =>
    rw [found] at entries notices bytes unproven
    simp only [Option.map_some, Option.getD_some] at entries notices bytes unproven
    have messages : chat.usedMessages base ≤ MAX_MESSAGES_PER_DAY :=
      (since_le _ _).trans (Nat.min_le_right _ _)
    have warned : chat.warned base ≤ 1 := (since_le _ _).trans (Bool.toNat_le _)
    have used : chat.usedBytes base ≤ MAX_MEDIA_BYTES_PER_DAY := (since_le _ _).trans (Nat.min_le_right _ _)
    have backedUp : chat.peerBackedUp.toNat ≤ 1 := Bool.toNat_le _
    have marks : chat.marks ≤ 2 := Nat.add_le_add (Bool.toNat_le _) (Bool.toNat_le _)
    unfold Chat.charge at entries
    omega

/-- A code reported as spent adds an entry to a chat that received nothing, closed or not. -/
theorem spent_code_adds {s : Flood X} {chat : Chat X} (found : s.node.chats.lookup whom = some chat)
    (waits : X.hasReceived chat.session = false) (code : String) (now : Nat) :
    s.entries + 1 ≤ (s.step { bytes := encode (.codeInUse whom code), now := now }).entries
      ∧ ∃ chat', (s.step { bytes := encode (.codeInUse whom code), now := now }).node.chats.lookup whom
          = some chat' ∧ X.hasReceived chat'.session = false := by
  have did : (s.step { bytes := encode (.codeInUse whom code), now := now }).node
      = { s.node with dirty := true }.modifyChat whom
        (fun chat => { chat with closed := true }.note CODE_IN_USE_TEXT now) := by
    show (Node.receiveCodeInUse { s.node with dirty := true } whom now).1 = _
    simp [Node.receiveCodeInUse, found, waits]
  have found' : (s.step { bytes := encode (.codeInUse whom code), now := now }).node.chats.lookup whom
      = some ({ chat with closed := true }.note CODE_IN_USE_TEXT now) := by
    rw [did, Node.lookup_modifyChat, if_pos rfl]
    exact congrArg (Option.map _) found
  have before : s.node.historyOf whom = chat.history := by simp [Node.historyOf, found]
  have gained := KeyedMap.weightAt_le_total
    (fun contact (chat : Chat X) => surplus ChatMessage.key (s.node.historyOf contact) chat.history)
    (s.step { bytes := encode (.codeInUse whom code), now := now }).node.chats whom
  unfold KeyedMap.weightAt at gained
  simp only [found', before, Option.map_some, Option.getD_some, Chat.note, surplus_concat] at gained
  exact ⟨Nat.add_le_add_left gained _, _, found', waits⟩

/-- It does so every time. -/
theorem spent_code_repeats {s : Flood X} {chat : Chat X} (found : s.node.chats.lookup whom = some chat)
    (waits : X.hasReceived chat.session = false) (code : String) (now times : Nat) : s.entries + times
      ≤ (s.run (List.replicate times { bytes := encode (.codeInUse whom code), now := now })).entries := by
  induction times generalizing s chat with
  | zero => exact Nat.le_refl _
  | succ times ih =>
    obtain ⟨more, chat', found', waits'⟩ := spent_code_adds found waits code now
    have rest := ih found' waits'
    show _ ≤ (run (s.step _) (List.replicate times _)).entries
    omega

end Flood

namespace Symbolic

/-- A device that joined by a code and has heard nothing yet. -/
def joined : Node symbolic where
  identityKey := "me"
  account := ([] : Account)
  address := "me.onion"
  chats := (∅ : KeyedMap String (Chat symbolic)).insert "them"
    (Chat.newPaired "them.onion" ({ pairing := "first", opener := true } : Session) true (some "code") 0)

/-- A report that the code was spent, which anyone can send. -/
def spentCode (now : Nat) : Hearing symbolic where
  bytes := encode (.codeInUse "them" "code")
  now := now

end Symbolic

/-- A report of a spent code and an approval, each taken once, stay within the bound. -/
theorem first_reports_are_bounded :
    (Flood.run { node := Symbolic.joined } [Symbolic.spentCode 0,
      { bytes := encode (.approved "them" "code"), now := 1 }]).entries ≤ MAX_MESSAGES_PER_DAY + 4 := by
  have claims : ∀ a ∈ [Symbolic.spentCode 0, { bytes := encode (.approved "them" "code"), now := 1 }],
      a.bytes.f.claimedSender = some "them" := by
    simp [Symbolic.spentCode, encode, Frame.claimedSender]
  -- Neither report counts, and the first finds the chat open.
  refine (Flood.flood_is_bounded claims ⟨fun chat found => ⟨nofun, nofun, fun code read closed => ?_⟩,
    fun chat found => ⟨nofun, nofun, nofun⟩, trivial⟩).1
  have there : Symbolic.joined.chats.lookup "them"
      = some (Chat.newPaired "them.onion" ({ pairing := "first", opener := true } : Symbolic.Session) true
        (some "code") 0) := rfl
  rw [there] at found
  cases found
  cases closed

/--
Reports of a spent code, which need no session and carry nothing, add an entry each in one second, without
bound.
-/
theorem spent_codes_flood : ¬ ∃ constant, ∀ arrivals : List (Hearing symbolic),
    (∀ a ∈ arrivals, a.bytes.f.claimedSender = some "them" ∧ a.now = 0) →
      (Flood.run { node := Symbolic.joined } arrivals).entries ≤ MAX_MESSAGES_PER_DAY + constant := by
  rintro ⟨constant, bounded⟩
  have within := bounded (List.replicate (MAX_MESSAGES_PER_DAY + constant + 1) (Symbolic.spentCode 0)) ?_
  · apply absurd within
    rw [not_le]
    have waits : symbolic.hasReceived ({ pairing := "first", opener := true } : Symbolic.Session) = false := by
      decide
    have there : Symbolic.joined.chats.lookup "them"
        = some (Chat.newPaired "them.onion" ({ pairing := "first", opener := true } : Symbolic.Session) true
          (some "code") 0) := rfl
    have many := Flood.spent_code_repeats (s := { node := Symbolic.joined }) there waits "code" 0
      (MAX_MESSAGES_PER_DAY + constant + 1)
    rw [Nat.zero_add] at many
    exact many
  · intro a member
    cases List.eq_of_mem_replicate member
    exact ⟨rfl, rfl⟩

end Nightdrop
