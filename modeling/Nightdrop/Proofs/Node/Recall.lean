import Nightdrop.Node.Recall
import Nightdrop.Proofs.Node.Revise
import Nightdrop.Proofs.Node.Talk

/-! A revision goes untold only where no copy is left, exactly when every copy was on record. -/

namespace Nightdrop

variable {X : Externals} {n n' : Node X} {contact msgId : String} {chat : Chat X}

/-- A copy that was handed over directly is never recalled. -/
theorem RecallPlan.run_handedDirectly {plan : RecallPlan} (recalled : QueuedReceipt → Bool)
    (handed : QueuedReceipt.handedDirectly ∈ plan.copies) : plan.run recalled = false := by
  unfold RecallPlan.run recallReceipts
  rw [Bool.and_eq_false_iff]
  right
  rw [List.all_eq_false]
  exact ⟨_, handed, by simp [QueuedReceipt.handedDirectly]⟩

/-- A recall that got every copy back has taken every one of them. -/
theorem RecallPlan.taken_of_run {plan : RecallPlan} {recalled : QueuedReceipt → Bool}
    (all : plan.run recalled = true) : plan.taken recalled = plan.copies := by
  unfold RecallPlan.run recallReceipts at all
  rw [Bool.and_eq_true, List.all_eq_true] at all
  exact List.filter_eq_self.mpr all.2

/-- Once every receipt was honoured, nothing is left exactly when every copy was on record. -/
theorem Copies.gone_after_iff {copies : Copies} {plan : RecallPlan} {recalled : QueuedReceipt → Bool}
    (all : plan.run recalled = true) :
    (copies.after (some plan) recalled).Gone ↔ copies.OnRecord plan.copies := by
  have taken := RecallPlan.taken_of_run all
  have unmarked : QueuedReceipt.handedDirectly ∉ plan.copies := by
    intro handed
    rw [RecallPlan.run_handedDirectly recalled handed] at all
    cases all
  unfold Gone OnRecord after
  simp only [Option.map_some, Option.getD_some, taken, List.filter_eq_nil_iff, decide_eq_true_eq,
    not_not]
  constructor
  · rintro ⟨relays, direct⟩
    refine ⟨relays, fun handed => ?_⟩
    rw [direct] at handed
    cases handed
  · rintro ⟨relays, direct⟩
    refine ⟨relays, Bool.eq_false_iff.mpr fun handed => unmarked (direct handed)⟩

/-- A send whose every stored copy is answered for puts every copy it leaves on record. -/
theorem PlannedSend.execute_on_record {p : PlannedSend X} {fates : Option String → PostFate}
    (audible : ∀ relay taken, fates relay ≠ .unheard taken) {delivered : Bool}
    {receipts kept : List QueuedReceipt}
    (noted : (p.execute delivered fun relay => (fates relay).heard).copies = some receipts)
    (left : (p.execute delivered fun relay => (fates relay).kept).copies = some kept) :
    Copies.OnRecord { relays := kept } receipts := by
  have same : (fun relay => (fates relay).heard) = fun relay => (fates relay).kept := by
    funext relay
    cases fate : fates relay with
    | refused | answered => rfl
    | unheard taken => exact absurd fate (audible relay taken)
  rw [same, left] at noted
  cases noted
  refine ⟨fun r stored => stored, fun handed => ?_⟩
  cases handed

namespace Node

/-- A send that is queued hands out its bytes. -/
theorem sendOrQueue_hands (n : Node X) (send : DetachedSend X) (route : Route)
    (done : OutboundDone X) : n.Hands (n.sendOrQueue send route done) send.bytes :=
  .inl ⟨rfl, _, rfl, rfl⟩

/-- A frame about a revision is not the message itself. -/
theorem encode_message_ne (sender sender' id : String) (message message' : WireOlm X.OlmMessage) :
    (encode (.message sender id message) : Envelope X.OlmMessage)
      ≠ encode (.edit sender' message') := by
  intro same
  unfold encode at same
  rw [Envelope.mk.injEq] at same
  cases same.2

/-- Telling a contact of a revision hands its frame out. -/
theorem follows_up (found : n.chats.lookup contact = some chat) (revision : Revision) (later : Nat)
    {session : X.Session} {message : X.OlmMessage}
    (encrypted : X.encrypt chat.session (revision.payload msgId) = some (session, message)) :
    n.FollowsUp ((n.modifyChat contact (fun chat => { chat with session := session })).deliverWith
      chat.peerAddress contact (revision.frame n.identityKey message) false (.caller none) later)
      contact msgId revision :=
  ⟨chat, session, message, found, encrypted,
    deliverWith_hands (n.modifyChat contact _) chat.peerAddress contact _ (.inr rfl) later⟩

/-- The call that makes a revision is its two halves, and its sends if they ended well. -/
theorem revise_of_begun {revision : Revision} {net : CallNetwork} {now : Nat} {plan : Option RecallPlan}
    (begun : n.beginRevision contact msgId revision now = .ok (n', plan)) (later : Nat) :
    let result := n'.finishRevision contact msgId revision (plan.map (·.run net.recalled)) later
    (∀ reason, result.2 = .error reason → n.revise contact msgId revision net now later = result)
      ∧ (result.2 = .ok () →
        n.revise contact msgId revision net now later = result.1.callEnd net later) := by
  cases revision with
  | edit newText =>
    have first : n.beginEdit contact msgId newText now = .ok (n', plan) := begun
    unfold revise editMessage finishRevision
    simp only [first]
    cases n'.finishEdit contact msgId newText (plan.map (·.run net.recalled)) later with
    | error reason => simp
    | ok told => simp [callEnd]
  | unsend =>
    have first : n.beginUnsend contact msgId now = .ok (n', plan) := begun
    unfold revise unsendMessage finishRevision
    simp only [first]
    generalize n'.finishUnsend contact msgId (plan.map (·.run net.recalled)) later = result
    obtain ⟨told, reason | done⟩ := result
    · simp
    · simp [callEnd]

/-- Whether every copy on record was given back. -/
def allBack (plan : Option RecallPlan) (recalled : QueuedReceipt → Bool) : Bool :=
  plan.map (·.run recalled) = some true

/-- When a revision is told, or leaves nothing to tell. -/
def Settles (n : Node X) (contact msgId : String) (revision : Revision) (plan : Option RecallPlan)
    (copies : Copies) (recalled : QueuedReceipt → Bool) : Prop :=
  let receipts := (plan.map (·.copies)).getD []
  match revision with
  | .edit newText => ∃ chat, n.chats.lookup contact = some chat ∧
    if (n.heldUnsent contact msgId).isSome then
      (copies.after plan recalled).Gone
        ∧ chat.seals (userPlaintext
          (((chat.history.find? (·.isOwn msgId)).map (·.burnSecs)).getD 0) newText)
    else if allBack plan recalled then copies.OnRecord receipts ∧ chat.seals (utf8 newText)
    else chat.seals (packEdit msgId newText)
  | .unsend =>
    if (n.heldUnsent contact msgId).isSome then (copies.after plan recalled).Gone
    else ∃ chat, n.chats.lookup contact = some chat ∧
      if (buries chat msgId).isNone then (copies.after plan recalled).Gone
      else if allBack plan recalled then copies.OnRecord receipts
      else chat.seals (packUnsend msgId)

/-- A recall that got everything back leaves nothing exactly when every copy was on record. -/
theorem gone_of_allBack {plan : Option RecallPlan} {recalled : QueuedReceipt → Bool}
    (all : allBack plan recalled = true) (copies : Copies) :
    (copies.after plan recalled).Gone ↔ copies.OnRecord ((plan.map (·.copies)).getD []) := by
  cases plan with
  | none => simp [allBack] at all
  | some plan => exact Copies.gone_after_iff (by simpa [allBack] using all)

/-- A device that handed out nothing has told nobody of a revision. -/
theorem FollowsUp.not_of_length {revision : Revision} (outbox : n'.outbox.length ≤ n.outbox.length)
    (held : n'.held.length ≤ n.held.length) : ¬ n.FollowsUp n' contact msgId revision := by
  rintro ⟨chat, session, message, found, encrypted, hands⟩
  exact not_hands_of_length outbox held hands

/-- Nothing is told by an error that leaves the device as it was. -/
theorem FollowsUp.not_refl {revision : Revision} : ¬ n.FollowsUp n contact msgId revision :=
  FollowsUp.not_of_length le_rfl le_rfl

/-- An edit ends told or with nothing left exactly when it settles. -/
theorem edit_settles (n : Node X) (contact msgId newText : String) (plan : Option RecallPlan)
    (copies : Copies) (recalled : QueuedReceipt → Bool) (later : Nat) :
    n.AllOrNothing contact msgId (.edit newText) plan copies recalled later
      ↔ n.Settles contact msgId (.edit newText) plan copies recalled := by
  unfold AllOrNothing Settles finishRevision finishEdit
  simp only []
  cases found : n.chats.lookup contact with
  | none =>
    -- The chat is gone: an error either way.
    cases n.heldUnsent contact msgId with
    | none => simp [FollowsUp.not_refl]
    | some i => simp [resealHeld, found, FollowsUp.not_refl]
  | some chat =>
    cases n.heldUnsent contact msgId with
    | some i =>
      simp only [resealHeld, found, Option.isSome_some, if_true, Option.some.injEq,
        exists_eq_left']
      rcases sealFor_seals found (userPlaintext
          (((chat.history.find? (·.isOwn msgId)).map (·.burnSecs)).getD 0) newText)
        with ⟨unusable, refused⟩ | ⟨session, message, -, usable, sealed⟩
      · simp [refused, unusable, FollowsUp.not_refl]
      · rw [sealed, usable]
        -- The held copy is changed in its place, so that nothing is handed out.
        have untold : ¬ n.FollowsUp { n.modifyChat contact (fun chat => { chat with session := session })
            with
            held := n.held.modify i ({ · with bytes := encode (userFrame n.identityKey msgId
              (((chat.history.find? (·.isOwn msgId)).map (·.burnSecs)).getD 0) (.fromOlm message)) })
            dirty := true } contact msgId (.edit newText) :=
          FollowsUp.not_of_length le_rfl (List.length_modify ..).le
        constructor
        · rintro (told | ⟨-, gone⟩)
          · exact absurd told untold
          · exact ⟨gone, rfl⟩
        · rintro ⟨gone, -⟩
          exact .inr ⟨rfl, gone⟩
    | none =>
      simp only [Option.isSome_none, Bool.false_eq_true, if_false, Option.some.injEq,
        exists_eq_left']
      cases all : allBack plan recalled with
      | true =>
        have given : plan.map (·.run recalled) = some true := by simpa [allBack] using all
        simp only [given, if_true]
        rcases sealFor_seals found (utf8 newText)
          with ⟨unusable, refused⟩ | ⟨session, message, -, usable, sealed⟩
        · simp [refused, unusable, FollowsUp.not_refl]
        · rw [sealed, usable]
          simp only [and_true, true_and]
          rw [gone_of_allBack all copies]
          refine ⟨fun ends => ends.resolve_left ?_, .inr⟩
          -- What goes out is the message itself, which is no edit.
          rintro ⟨chat', session', message', -, -, hands⟩
          exact encode_message_ne _ _ _ _ _ ((sendOrQueue_hands _ _ _ _).unique hands)
      | false =>
        have kept : plan.map (·.run recalled) ≠ some true := by simpa [allBack] using all
        simp only [kept, if_false, Bool.false_eq_true]
        rcases sealFor_seals found (packEdit msgId newText)
          with ⟨unusable, refused⟩ | ⟨session, message, encrypted, usable, sealed⟩
        · simp [refused, unusable, FollowsUp.not_refl]
        · rw [sealed, usable]
          exact iff_of_true (.inl (follows_up found (.edit newText) later encrypted)) rfl

/-- Burying an entry leaves the session of its chat. -/
theorem buried_lookup (found : n.chats.lookup contact = some chat) (i : Nat) :
    (n.modifyChat contact (fun chat =>
        { chat with history := chat.history.modify i ChatMessage.tombstone })).chats.lookup contact
      = some { chat with history := chat.history.modify i ChatMessage.tombstone } := by
  rw [lookup_modifyChat, if_pos rfl, found]
  rfl

/-- An unsend ends told or with nothing left exactly when it settles. -/
theorem unsend_settles (n : Node X) (contact msgId : String) (plan : Option RecallPlan)
    (copies : Copies) (recalled : QueuedReceipt → Bool) (later : Nat) :
    n.AllOrNothing contact msgId .unsend plan copies recalled later
      ↔ n.Settles contact msgId .unsend plan copies recalled := by
  have silently {n' : Node X} (outbox : n'.outbox = n.outbox)
      (held : n'.held.length ≤ n.held.length) :
      ((n.FollowsUp n' contact msgId .unsend ∨ (copies.after plan recalled).Gone))
        ↔ (copies.after plan recalled).Gone :=
    or_iff_right (FollowsUp.not_of_length (congrArg List.length outbox).le held)
  unfold AllOrNothing Settles finishRevision finishUnsend
  simp only []
  cases n.heldUnsent contact msgId with
  | some i =>
    -- The held copy goes, so that nothing is handed out.
    simp only [Option.isSome_some, if_true, true_and]
    exact silently rfl (List.length_eraseIdx_le ..)
  | none =>
    simp only [Option.isSome_none, Bool.false_eq_true, if_false]
    cases found : n.chats.lookup contact with
    | none => simp [FollowsUp.not_refl]
    | some chat =>
      simp only [Option.some.injEq, exists_eq_left']
      unfold buries
      cases chat.history.findIdx? (fun m => m.fromMe && !m.system && m.msgId = msgId) with
      | none =>
        simp only [Option.isNone_none, if_true, true_and]
        exact silently rfl le_rfl
      | some i =>
        simp only [Option.isNone_some, Bool.false_eq_true, if_false]
        cases all : allBack plan recalled with
        | true =>
          have given : plan.map (·.run recalled) = some true := by simpa [allBack] using all
          simp only [given, if_true, true_and]
          rw [← gone_of_allBack all copies]
          exact silently rfl le_rfl
        | false =>
          have kept : plan.map (·.run recalled) ≠ some true := by simpa [allBack] using all
          simp only [kept, if_false, Bool.false_eq_true]
          rcases sealFor_seals (buried_lookup found i) (packUnsend msgId)
            with ⟨unusable, refused⟩ | ⟨session, message, encrypted, usable, sealed⟩
          · rw [refused]
            have unsealed : chat.seals (packUnsend msgId) = false := unusable
            simp only [unsealed, Bool.false_eq_true, iff_false, not_or, reduceCtorEq, false_and,
              not_false_eq_true, and_true]
            exact FollowsUp.not_of_length le_rfl le_rfl
          · rw [sealed]
            refine iff_of_true (.inl ⟨chat, session, message, found, encrypted, ?_⟩) usable
            exact deliverWith_hands (Node.modifyChat (n.modifyChat contact _) contact _)
              chat.peerAddress contact _ (.inr rfl) later

/--
A revision ends told, or ends well with no copy left, exactly when it settles.

Where it goes untold because every receipt was honoured, that is when every copy was on record: a
relay that stored one and was not heard has a copy that nobody takes back.
-/
theorem revision_settles (n : Node X) (contact msgId : String) (revision : Revision)
    (plan : Option RecallPlan) (copies : Copies) (recalled : QueuedReceipt → Bool) (later : Nat) :
    n.AllOrNothing contact msgId revision plan copies recalled later
      ↔ n.Settles contact msgId revision plan copies recalled := by
  cases revision with
  | edit newText => exact n.edit_settles contact msgId newText plan copies recalled later
  | unsend => exact n.unsend_settles contact msgId plan copies recalled later

end Node

/-- A device with two relays, and a contact to whom both are told. -/
def twoRelays : Node symbolic :=
  { Symbolic.device with
    relay := some {}
    relays := [.nightDrop]
    chats := (∅ : KeyedMap String (Chat symbolic)).insert "them" { Symbolic.chat with
      mailbox := some (.seeded [1])
      relaySet := some { nightdrop := true, relays := ["two.onion"] } } }

/-- The first relay stores its copy and says so; the second stores its own, and is not heard. -/
def secondUnheard (relay : Option String) : PostFate :=
  if relay = none then .answered ("b1", "t1") else .unheard ("b2", "t2")

/-- A copy that is off the record outlives the edit that nobody is told of. -/
theorem edit_untold :
    ∃ (sent tried begun : Node symbolic) (p : PlannedSend symbolic) (kept : List QueuedReceipt)
      (plan : Option RecallPlan),
      twoRelays.send "them" "meet at six" "m1" 5 = .ok sent
        ∧ sent.planPendingSends 6 = (tried, [p])
        ∧ (p.execute false fun relay => (secondUnheard relay).kept).copies = some kept
        ∧ (tried.applySendOutcome (p.execute false fun relay => (secondUnheard relay).heard) 7).beginRevision
            "them" "m1" (.edit "meet at seven") 60 = .ok (begun, plan)
        ∧ ¬ begun.AllOrNothing "them" "m1" (.edit "meet at seven") plan { relays := kept }
          (fun _ => true) 61 := by
  refine ⟨_, _, _, _, _, _, rfl, rfl, rfl, rfl, ?_⟩
  rw [Node.edit_settles]
  rintro ⟨chat, found, settles⟩
  rw [if_neg (by decide +kernel), if_pos (by decide +kernel)] at settles
  exact absurd settles.1 (by decide +kernel)

end Nightdrop
