import Nightdrop.Node.Talk
import Nightdrop.Proofs.Node.Handlers
import Nightdrop.Proofs.Node.Unread

/-! What hearing a contact on a topic makes of the record of it, and leaves of every other. -/

namespace Nightdrop

variable {X : Externals}

/-- What a chat takes up from an open payload: what it says, unless it may not or is over the
allowance. -/
def Chat.heeds (chat : Chat X) (topic : Topic) (plaintext : Bytes) (now : Nat) : Option Told :=
  (topic.reads X plaintext).filter (fun told =>
    (!topic.approved || chat.authorized)
      && (!topic.counted || chat.record topic = some told || (withinAllowance chat 0 now).2))

/-- What a chat holds once it heard a payload on a topic. -/
def Chat.recordAfter (chat : Chat X) (topic : Topic) (plaintext : Bytes) (now : Nat) (t : Topic) :
    Option Told :=
  if t = topic then (chat.heeds topic plaintext now).orElse (fun _ => chat.record t) else chat.record t

/-- What a device takes up from a ciphertext a contact sealed. -/
def Node.heeds (n : Node X) (contact : String) (topic : Topic) (message : WireOlm X.OlmMessage)
    (now : Nat) : Option Told := do
  let (_, plaintext) ← n.opens contact message
  let chat ← n.chats.lookup contact
  chat.heeds topic plaintext now

namespace Chat

/-- Records are kept beside the conversation. -/
theorem beside_record : Chat.Beside (Chat.record (X := X)) := by
  refine ⟨fun chat session => ?_, fun chat history => ?_, fun chat allowance => ?_⟩ <;>
    exact funext fun topic => by cases topic <;> rfl

/-- A counted change of one topic is made if the allowance admits it. -/
theorem counted_record {now : Nat} {change : Chat X → Chat X} {topic : Topic} {told : Option Told}
    (changes : ∀ chat t, (change chat).record t = if t = topic then told else chat.record t)
    (chat : Chat X) (t : Topic) :
    (chat.counted now change).1.record t
      = if t = topic ∧ (withinAllowance chat 0 now).2 = true then told else chat.record t := by
  have kept := congrFun (beside_record.withinAllowance chat 0 now) t
  unfold counted
  simp only []
  split
  · rename_i within
    rw [changes, kept]
    simp [within]
  · rename_i beyond
    rw [kept, if_neg (fun both => beyond both.2)]

variable {chat : Chat X} {plaintext : Bytes}

/-- What a payload says is taken up if its contact may say it, and if it is no news or admitted. -/
theorem heeds_of_reads {topic : Topic} {told : Told} (reads : topic.reads X plaintext = some told)
    (may : (!topic.approved || chat.authorized) = true) (now : Nat) :
    chat.heeds topic plaintext now
      = if (!topic.counted || chat.record topic = some told || (withinAllowance chat 0 now).2) = true
        then some told else none := by
  simp only [heeds, reads, may, Bool.true_and, Option.filter_some]

/-- A handler that counts what is news does what is heeded. -/
theorem counted_heeds {topic : Topic} {told : Told} (reads : topic.reads X plaintext = some told)
    (may : (!topic.approved || chat.authorized) = true) (counts : topic.counted = true) {now : Nat}
    {change : Chat X → Chat X} {hear : Chat X × Bool}
    (does : hear = if chat.record topic = some told then (chat, false) else chat.counted now change)
    (changes : ∀ chat t, (change chat).record t = if t = topic then some told else chat.record t)
    (t : Topic) : hear.1.record t = chat.recordAfter topic plaintext now t := by
  rw [recordAfter, heeds_of_reads reads may, does]
  simp only [counts, Bool.not_true, Bool.false_or, Bool.or_eq_true, decide_eq_true_eq]
  by_cases same : chat.record topic = some told
  · -- A repeat of what is held is no news.
    rw [if_pos same, if_pos (Or.inl same)]
    split
    · rename_i here
      rw [here, same]
      rfl
    · rfl
  · rw [if_neg same, counted_record changes]
    by_cases within : (withinAllowance chat 0 now).2 = true
    · simp [within]
    · simp [within, same]

/-- A switch of server storage is taken up if it is none, or if the allowance admits it. -/
theorem hearStorage_record (approved : chat.authorized = true) (now : Nat) (t : Topic) :
    (chat.hearStorage plaintext now).1.record t = chat.recordAfter .storage plaintext now t := by
  have same : (chat.record .storage = some (.storage (plaintext = utf8 "on")))
      = (decide (plaintext = utf8 "on") = chat.remoteStorage) := by
    simp only [record, Option.some.injEq, Told.storage.injEq, eq_comm]
  exact counted_heeds rfl (by simp [approved]) rfl (by simp only [same]; rfl)
    (fun chat t => by cases t <;> rfl) t

/-- A timer is taken up if it is none, or if the allowance admits it. -/
theorem hearDisappearing_record (approved : chat.authorized = true) (now : Nat) (t : Topic) :
    (chat.hearDisappearing plaintext now).1.record t = chat.recordAfter .timer plaintext now t := by
  have same : (chat.record .timer = some (.timer (readTimer plaintext)))
      = (readTimer plaintext = chat.disappearingSecs) := by
    simp only [record, Option.some.injEq, Told.timer.injEq, eq_comm]
  exact counted_heeds rfl (by simp [approved]) rfl (by simp only [same]; rfl)
    (fun chat t => by cases t <;> rfl) t

/-- An address is taken up if it is one, and if it is none or the allowance admits it. -/
theorem hearAddress_record (approved : chat.authorized = true) (now : Nat) (t : Topic) :
    (chat.hearAddress plaintext now).1.record t = chat.recordAfter .address plaintext now t := by
  cases sane : saneAddress (fromUtf8Lossy plaintext) with
  | false =>
    -- What is no address says nothing.
    simp only [hearAddress, recordAfter, heeds, Topic.reads, sane]
    cases t <;> rfl
  | true =>
    have reads : Topic.reads X plaintext .address = some (.address (fromUtf8Lossy plaintext)) := by
      simp [Topic.reads, sane]
    have same : (chat.record .address = some (.address (fromUtf8Lossy plaintext)))
        = (fromUtf8Lossy plaintext = chat.peerAddress) := by
      simp only [record, Option.some.injEq, Told.address.injEq, eq_comm]
    refine counted_heeds reads (by simp [approved]) rfl (by
      simp only [hearAddress, sane, Bool.not_true, Bool.false_or, decide_eq_true_eq, same]
      rfl) (fun chat t => by cases t <;> rfl) t

/-- A name is always taken up. -/
theorem hearName_record (approved : chat.authorized = true) (now : Nat) (t : Topic) :
    (chat.hearName plaintext).1.record t = chat.recordAfter .name plaintext now t := by
  rw [recordAfter, heeds_of_reads rfl (by simp [approved])]
  cases t <;> rfl

/-- A relay set that can be read is always taken up. -/
theorem hearRelaySet_record (approved : chat.authorized = true) (now : Nat) (t : Topic) :
    (chat.hearRelaySet plaintext).1.record t = chat.recordAfter .relaySet plaintext now t := by
  unfold hearRelaySet
  cases read : X.readRelaySet plaintext with
  | none =>
    simp only [recordAfter, heeds, Topic.reads, read]
    cases t <;> rfl
  | some set =>
    have reads : Topic.reads X plaintext .relaySet = some (.relaySet (sanitizePeerSet set)) := by
      simp [Topic.reads, read]
    rw [recordAfter, heeds_of_reads reads (by simp [approved])]
    simp only []
    by_cases same : chat.relaySet = some (sanitizePeerSet set)
    · rw [if_pos same]
      cases t <;> simp [record, same, Topic.counted]
    · rw [if_neg same]
      cases t <;> rfl

/-- A version is always taken up, whether or not the allowance admits what follows from it. -/
theorem hearVersion_record {version : String} (read : readVersion plaintext = some version) (now : Nat)
    (t : Topic) :
    (chat.hearVersion version now).1.record t = chat.recordAfter .version plaintext now t := by
  have reads : Topic.reads X plaintext .version = some (.version version) := by
    simp [Topic.reads, read]
  rw [recordAfter, heeds_of_reads reads rfl]
  -- An updated app is no longer held for, which shows in no record.
  have updated : (if versionOutdated version then chat
      else { chat with peerWireOld := false }.forgetUpgradeNotice).record = chat.record := by
    split
    · rfl
    · unfold forgetUpgradeNotice
      split <;> exact funext fun t => by cases t <;> rfl
  unfold hearVersion
  revert updated
  generalize (if versionOutdated version then chat
    else { chat with peerWireOld := false }.forgetUpgradeNotice) = chat1
  intro updated
  have takes (chat2 : Chat X) (same : chat2.record = chat1.record) :
      ({ chat2 with peerAppVersion := some version } : Chat X).record t
        = if t = .version then some (.version version) else chat.record t := by
    rw [← updated, ← same]
    cases t <;> rfl
  simp only [Topic.counted, Bool.not_false, Bool.true_or, if_true, Option.orElse_some]
  split
  · rename_i same
    rw [updated]
    split
    · rename_i here
      rw [here, ← updated, record, same]
      rfl
    · rfl
  · split
    · exact takes chat1 rfl
    · refine takes _ (beside_record.counted (fun chat => ?_) chat1)
      exact funext fun t => by cases t <;> rfl

/-- Whether captures are reported is always taken up. -/
theorem hearCaptures_record {visible : Bool}
    (reads : Topic.reads X plaintext .captures = some (.captures visible)) (now : Nat) (t : Topic) :
    (chat.hearCaptures visible).1.record t = chat.recordAfter .captures plaintext now t := by
  rw [recordAfter, heeds_of_reads reads rfl]
  unfold hearCaptures
  by_cases same : chat.peerCapturesSilent = some (!visible)
  · rw [if_pos same]
    cases t <;> simp [record, same, Topic.counted]
  · rw [if_neg same]
    cases t <;> simp [record, Topic.counted]

/-- What is heard does not depend on the ratchet. -/
theorem recordAfter_session (chat : Chat X) (session : X.Session) (topic : Topic) (plaintext : Bytes)
    (now : Nat) :
    { chat with session := session }.recordAfter topic plaintext now
      = chat.recordAfter topic plaintext now := by
  have same : ({ chat with session := session } : Chat X).record = chat.record :=
    beside_record.session chat session
  have within : (withinAllowance { chat with session := session } 0 now).2
      = (withinAllowance chat 0 now).2 := by
    simp only [withinAllowance]
    split <;> rfl
  funext t
  simp only [recordAfter, heeds, same, within]

end Chat

namespace Node

variable {n : Node X} {sender : String} {message : WireOlm X.OlmMessage} {now : Nat} {topic t : Topic}

/-- What keeps every chat's records keeps this one. -/
theorem Keeps.record {n' : Node X} (keeps : n.Keeps Chat.record n') (contact : String) (t : Topic) :
    n'.record contact t = n.record contact t := by
  have same := keeps contact
  unfold Node.record
  cases found : n.chats.lookup contact <;> cases found' : n'.chats.lookup contact <;>
    simp_all

/-- The record after a frame of a topic, by what is heeded of it. -/
def recordAfter (n : Node X) (sender : String) (topic : Topic) (message : WireOlm X.OlmMessage)
    (now : Nat) (t : Topic) : Option Told :=
  if t = topic then (n.heeds sender topic message now).orElse (fun _ => n.record sender t)
  else n.record sender t

/-- What does not open is not heeded. -/
theorem recordAfter_unread (unread : n.opens sender message = none) :
    n.recordAfter sender topic message now t = n.record sender t := by
  simp [recordAfter, heeds, unread]

/-- What opens is heeded as its payload is. -/
theorem recordAfter_opened {session : X.Session} {plaintext : Bytes} {chat : Chat X}
    (opened : n.opens sender message = some (session, plaintext))
    (found : n.chats.lookup sender = some chat) :
    n.recordAfter sender topic message now t = chat.recordAfter topic plaintext now t := by
  simp [recordAfter, Chat.recordAfter, heeds, opened, found, record]

/-- A frame of an approved contact is heard as its handler hears it. -/
theorem openApproved_record {act : Node X → Bytes → Node X × Processed}
    (approves : topic.approved = true)
    (each : ∀ (n1 : Node X) plaintext (chat : Chat X), n1.chats.lookup sender = some chat →
      chat.authorized = true →
      (act n1 plaintext).1.record sender t = chat.recordAfter topic plaintext now t) :
    (n.openApproved sender message act).1.record sender t = n.recordAfter sender topic message now t := by
  cases opened : n.opens sender message with
  | none => rw [openApproved_unread opened, recordAfter_unread opened]
  | some result =>
    obtain ⟨session, plaintext⟩ := result
    obtain ⟨chat, olm, found, readable, opens⟩ := opens_eq_some.mp opened
    rw [recordAfter_opened opened found]
    unfold openApproved
    simp only [readable, found]
    cases approved : chat.authorized with
    | false =>
      simp [Chat.recordAfter, Chat.heeds, approves, approved, record, found]
    | true =>
      simp only [Bool.not_true, Bool.false_eq_true, if_false, opens]
      rw [← Chat.recordAfter_session chat session]
      refine each _ plaintext { chat with session := session } ?_ approved
      rw [lookup_modifyChat, if_pos rfl, found]
      rfl

/-- A frame of a known contact is heard as its handler hears it. -/
theorem openKnown_record {act : Node X → Bytes → Node X × Processed}
    (each : ∀ (n1 : Node X) session plaintext (chat : Chat X),
      n.opens sender message = some (session, plaintext) → n1.chats.lookup sender = some chat →
      (act n1 plaintext).1.record sender t = chat.recordAfter topic plaintext now t) :
    (n.openKnown sender message act).1.record sender t = n.recordAfter sender topic message now t := by
  cases opened : n.opens sender message with
  | none => rw [openKnown_unread opened, recordAfter_unread opened]
  | some result =>
    obtain ⟨session, plaintext⟩ := result
    obtain ⟨chat, olm, found, readable, opens⟩ := opens_eq_some.mp opened
    rw [recordAfter_opened opened found]
    unfold openKnown
    simp only [readable, found, opens]
    rw [← Chat.recordAfter_session chat session]
    refine each _ session plaintext { chat with session := session } opened ?_
    rw [lookup_modifyChat, if_pos rfl, found]
    rfl

/-- What a handler makes of its chat is what is recorded. -/
theorem hearChat_record {chat : Chat X} (found : n.chats.lookup sender = some chat)
    (hear : Chat X → Chat X × Bool) (t : Topic) :
    (n.hearChat sender hear).1.record sender t = (hear chat).1.record t := by
  rw [record, hearChat, lookup_modifyChat, if_pos rfl, found]
  rfl

/-- A frame of a topic is heard on that topic, and on no other; what it says of captures must be
that they are reported, or not. -/
theorem processSealed_record (inputs : FrameInputs)
    (telling : topic = .captures → ∀ session plaintext,
      n.opens sender message = some (session, plaintext) → (topic.reads X plaintext).isSome) :
    (n.processSealed topic.carrier sender message inputs now).1.record sender t
      = n.recordAfter sender topic message now t := by
  cases topic with
  | timer =>
    refine openApproved_record rfl fun n1 plaintext chat found approved => ?_
    rw [hearChat_record found]
    exact Chat.hearDisappearing_record approved now t
  | storage =>
    refine openApproved_record rfl fun n1 plaintext chat found approved => ?_
    rw [hearChat_record found]
    exact Chat.hearStorage_record approved now t
  | name =>
    refine openApproved_record rfl fun n1 plaintext chat found approved => ?_
    rw [hearChat_record found]
    exact Chat.hearName_record approved now t
  | address =>
    refine openApproved_record rfl fun n1 plaintext chat found approved => ?_
    have heard := (hearChat_record found (Chat.hearAddress plaintext now) t).trans
      (Chat.hearAddress_record approved now t)
    simp only []
    split
    · -- The key handed out for the new address is no news of the contact's.
      rw [(announceClientKey_keeps Chat.beside_record.session (fun chat key => by
        exact funext fun t => by cases t <;> rfl) _ sender _ _ now).record]
      exact heard
    · exact heard
  | relaySet =>
    refine openApproved_record rfl fun n1 plaintext chat found approved => ?_
    rw [hearChat_record found]
    exact Chat.hearRelaySet_record approved now t
  | version =>
    refine openKnown_record fun n1 session plaintext chat opened found => ?_
    cases read : readVersion plaintext with
    | none => simp [Chat.recordAfter, Chat.heeds, Topic.reads, read, record, found]
    | some version =>
      have heard := (hearChat_record found (Chat.hearVersion version now) t).trans
        (Chat.hearVersion_record read now t)
      simp only []
      split
      · -- What is told them again is no news of the contact's.
        have forgot : Keeps Chat.record _ _ := .modifyChat (n1.hearChat sender
          (Chat.hearVersion version now)).1 sender (fun chat => { chat with toldNearbySeq := 0 })
          fun chat _ => funext fun t => by cases t <;> rfl
        rw [← heard, ← (forgot.trans (.of_chats rfl)).record]
        rfl
      · exact heard
  | captures =>
    refine openKnown_record fun n1 session plaintext chat opened found => ?_
    have spoken := telling rfl session plaintext opened
    by_cases visible : plaintext = MARK_CAPTURES_VISIBLE
    · rw [if_pos visible, hearChat_record found]
      exact Chat.hearCaptures_record (by simp [Topic.reads, visible]) now t
    · rw [if_neg visible]
      cases nearby : stripMark MARK_NEARBY_PREFIX plaintext with
      | some body => simp [Topic.reads, visible, nearby] at spoken
      | none =>
        simp only []
        by_cases silent : plaintext = MARK_CAPTURES_SILENT
        · rw [if_pos silent, hearChat_record found]
          refine Chat.hearCaptures_record ?_ now t
          simp only [Topic.reads, if_neg visible, nearby, if_pos silent]
          rfl
        · simp [Topic.reads, visible, nearby, silent] at spoken

/-! ### Who we are stays -/

@[simp] theorem modifyChat_identityKey (n : Node X) (contact : String) (f : Chat X → Chat X) :
    (n.modifyChat contact f).identityKey = n.identityKey := rfl

@[simp] theorem hearChat_identityKey (n : Node X) (sender : String) (hear : Chat X → Chat X × Bool) :
    (n.hearChat sender hear).1.identityKey = n.identityKey := rfl

/-- Sealing keeps who we are. -/
theorem authedControl_identityKey {n n' : Node X} {contact address : String} {marker : Bytes}
    {kind : SealedKind} {frame : Frame X.OlmMessage}
    (did : n.authedControl contact marker kind = some (n', address, frame)) :
    n'.identityKey = n.identityKey := by
  obtain ⟨_, _, _, -, -, rfl, -, -⟩ := authedControl_eq did
  rfl

/-- Sending keeps who we are. -/
@[simp] theorem deliverWith_identityKey (n : Node X) (peerAddress contact : String)
    (frame : Frame X.OlmMessage) (fresh : Bool) (done : OutboundDone X) (now : Nat) :
    (n.deliverWith peerAddress contact frame fresh done now).identityKey = n.identityKey := by
  unfold deliverWith
  split
  · cases done with
    | announced kind id =>
      cases kind with
      | block on | nearby seq => simp [applyAnnounced, retractAnnounced, apply_ite Node.identityKey]
      | burns | version | mailbox | address | relaySet | captures | upgradeNotice =>
        simp [applyAnnounced, retractAnnounced]
    | nothing | caller _ | pendingControl _ | held _ | unconfirmed _ | cover => rfl
  · rfl

/-- Handling an open frame keeps who we are if its handler does. -/
theorem openApproved_identityKey {act : Node X → Bytes → Node X × Processed}
    (each : ∀ (n1 : Node X) plaintext, (act n1 plaintext).1.identityKey = n1.identityKey) :
    (n.openApproved sender message act).1.identityKey = n.identityKey := by
  unfold openApproved
  split
  · rfl
  · split
    · rfl
    · split
      · rfl
      · split
        · rfl
        · exact each _ _

theorem openKnown_identityKey {act : Node X → Bytes → Node X × Processed}
    (each : ∀ (n1 : Node X) plaintext, (act n1 plaintext).1.identityKey = n1.identityKey) :
    (n.openKnown sender message act).1.identityKey = n.identityKey := by
  unfold openKnown
  split
  · split
    · rfl
    · exact each _ _
  · rfl

/-- Hearing a contact on a topic keeps who we are. -/
theorem processSealed_identityKey (topic : Topic) (inputs : FrameInputs) :
    (n.processSealed topic.carrier sender message inputs now).1.identityKey = n.identityKey := by
  cases topic with
  | timer | storage | name | relaySet => exact openApproved_identityKey fun n1 plaintext => rfl
  | address =>
    refine openApproved_identityKey fun n1 plaintext => ?_
    simp only []
    split
    · unfold announceClientKey
      split
      · rfl
      · simp only []
        split
        · rfl
        · rename_i did
          rw [deliverWith_identityKey, authedControl_identityKey did]
          rfl
    · rfl
  | version =>
    refine openKnown_identityKey fun n1 plaintext => ?_
    split
    · rfl
    · simp only []
      split <;> rfl
  | captures =>
    refine openKnown_identityKey fun n1 plaintext => ?_
    split
    · rfl
    · split
      · unfold receiveNearby
        split
        · rfl
        · simp only []
          split <;> rfl
      · split
        · rfl
        · split
          · unfold receiveBlock
            simp only []
            split
            · unfold sendCaptureNotice
              split
              · rfl
              · rename_i did
                simp only [queuePendingControl, sendOrQueue, authedControl_identityKey did]
                rfl
            · rfl
          · rfl

/-- Taking in a frame of a topic is hearing it, however often it was taken in before. -/
theorem takeIn_topic (n : Node X) (sender : String) (topic : Topic) (message : WireOlm X.OlmMessage)
    (fromAddress : Option String) (inputs : FrameInputs) (now : Nat) :
    (n.takeIn fromAddress (encode (.sealed topic.carrier sender message)) inputs now).1
      = (processSealed { n with dirty := true } topic.carrier sender message inputs now).1 := by
  unfold takeIn
  rw [decode_encode]
  cases topic <;> rfl

end Node

end Nightdrop
