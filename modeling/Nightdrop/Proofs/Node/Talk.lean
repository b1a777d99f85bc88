import Nightdrop.Proofs.Node.Heeds

/-! What is told arrives: where two devices agree once every frame between them was heard. -/

namespace Nightdrop

variable {X : Externals}

namespace Node

/-- A contact is live and its session seals this payload. -/
def Seals (n : Node X) (contact : String) (payload : Bytes) : Prop :=
  ∃ chat, n.chats.lookup contact = some chat ∧ chat.authorized = true ∧ chat.closed = false
    ∧ (X.encrypt chat.session payload).isSome = true

/-- A change the app refuses: of a chat that is not there, or to server storage nobody could use. -/
def Refuses (n : Node X) (contact : String) (told : Told) : Prop :=
  n.chats.lookup contact = none ∨ (told = .storage true ∧ n.serverStorageAvailable contact = false)

/-- Nothing more is on its way out. -/
def Silent (n n' : Node X) : Prop := n'.outbox = n.outbox ∧ n'.held = n.held

/-- The frame that tells a contact this, sealed on the session of their chat. -/
def FrameFor (n : Node X) (contact : String) (payload : Bytes) (carrier : SealedKind)
    (bytes : Envelope X.OlmMessage) : Prop :=
  ∃ chat session message, n.chats.lookup contact = some chat
    ∧ X.encrypt chat.session payload = some (session, message)
    ∧ bytes = encode (.sealed carrier n.identityKey (.fromOlm message))

variable {n n' : Node X} {contact : String} {now : Nat}

/-- One frame is handed out, not two. -/
theorem Hands.unique {bytes bytes' : Envelope X.OlmMessage} (one : n.Hands n' bytes)
    (two : n.Hands n' bytes') : bytes = bytes' := by
  rcases one with ⟨held, o, sent, rfl⟩ | ⟨outbox, h, kept, rfl⟩
  · rcases two with ⟨-, o', sent', rfl⟩ | ⟨outbox, -⟩
    · have same : o = o' := by simpa using sent.symm.trans sent'
      rw [same]
    · simp [outbox] at sent
  · rcases two with ⟨held, -⟩ | ⟨-, h', kept', rfl⟩
    · simp [held] at kept
    · have same : h = h' := by simpa using kept.symm.trans kept'
      rw [same]

/-- A step after which no more is sent or held has handed out nothing. -/
theorem not_hands_of_length {bytes : Envelope X.OlmMessage}
    (outbox : n'.outbox.length ≤ n.outbox.length) (held : n'.held.length ≤ n.held.length) :
    ¬ n.Hands n' bytes := by
  -- Handing out a frame makes one of the two queues longer by it.
  rintro (⟨-, o, sent, -⟩ | ⟨-, h, kept, -⟩)
  · rw [sent, List.length_append, List.length_singleton] at outbox
    omega
  · rw [kept, List.length_append, List.length_singleton] at held
    omega

/-- A silent step hands out nothing. -/
theorem Silent.not_hands {bytes : Envelope X.OlmMessage} (silent : n.Silent n') :
    ¬ n.Hands n' bytes :=
  not_hands_of_length (congrArg List.length silent.1).le (congrArg List.length silent.2).le

/-- What a silent step leads to is handed out from its start. -/
theorem Silent.hands_of {n1 : Node X} (silent : n.Silent n1) {bytes : Envelope X.OlmMessage}
    (does : n1.Hands n' bytes ∨ n1.Silent n') : n.Hands n' bytes ∨ n.Silent n' := by
  obtain ⟨outbox, held⟩ := silent
  unfold Hands Silent at does ⊢
  rwa [outbox, held] at does

/-- A frame nobody waits for is handed out, or held for an outdated contact. -/
theorem deliverWith_hands (n : Node X) (address contact : String) (frame : Frame X.OlmMessage)
    {done : OutboundDone X} (quiet : done = .nothing ∨ done = .caller none) (now : Nat) :
    n.Hands (n.deliverWith address contact frame false done now) (encode frame) := by
  unfold deliverWith
  split
  · rcases quiet with rfl | rfl
    · exact .inr ⟨rfl, _, rfl, rfl⟩
    · exact .inr ⟨rfl, _, rfl, rfl⟩
  · exact .inl ⟨rfl, _, rfl, rfl⟩

/-- Taking an announcement back queues nothing. -/
theorem applyAnnounced_failed_silent (n : Node X) (kind : Announce) (contact : String) (now : Nat) :
    n.Silent (n.applyAnnounced kind contact false now) := by
  cases kind with
  -- These two come down only if what was announced is still the latest.
  | block on | nearby seq =>
    simp [Silent, applyAnnounced, retractAnnounced, apply_ite Node.outbox, apply_ite Node.held]
  | burns | version | mailbox | address | relaySet | captures | upgradeNotice =>
    simp [Silent, applyAnnounced, retractAnnounced]

/-- An announcement is handed out, or taken back from an outdated contact. -/
theorem deliverWith_announced_hands (n : Node X) (address contact : String)
    (frame : Frame X.OlmMessage) (kind : Announce) (now : Nat) :
    n.Hands (n.deliverWith address contact frame false (.announced kind contact) now) (encode frame)
      ∨ n.Silent (n.deliverWith address contact frame false (.announced kind contact) now) := by
  unfold deliverWith
  split
  · exact .inr (applyAnnounced_failed_silent n kind contact now)
  · exact .inl (.inl ⟨rfl, _, rfl, rfl⟩)

/-- An operation does this to its contact's records, and hands out this frame or none. -/
structure Spoken (n n' : Node X) (contact : String) (payload : Bytes) (carrier : SealedKind) : Prop where
  identityKey : n'.identityKey = n.identityKey
  hands : ∀ bytes, n.Hands n' bytes → n.FrameFor contact payload carrier bytes

/-- A step that hands out one frame at most, which is this one. -/
theorem Spoken.of_frame {payload : Bytes} {carrier : SealedKind} {bytes : Envelope X.OlmMessage}
    (identityKey : n'.identityKey = n.identityKey) (sealedFor : n.FrameFor contact payload carrier bytes)
    (does : n.Hands n' bytes ∨ n.Silent n') : n.Spoken n' contact payload carrier := by
  refine ⟨identityKey, fun bytes' handed => ?_⟩
  rcases does with hands | silent
  · rw [handed.unique hands]
    exact sealedFor
  · exact absurd handed silent.not_hands

/-- A step that hands out no frame. -/
theorem Spoken.of_silent {payload : Bytes} {carrier : SealedKind}
    (identityKey : n'.identityKey = n.identityKey) (silent : n.Silent n') :
    n.Spoken n' contact payload carrier :=
  ⟨identityKey, fun _ handed => absurd handed silent.not_hands⟩

/-- A change of a chat is made in its records, and told where the chat is live. -/
theorem changeAndTell_spec (payload : Bytes) (carrier : SealedKind) {change : Chat X → Chat X}
    {done : OutboundDone X} (quiet : done = .nothing ∨ done = .caller none)
    (ratchet : ∀ chat, (change chat).session = chat.session) (n : Node X) (contact : String) (now : Nat) :
    n.Spoken (n.changeAndTell contact change payload carrier done now).1 contact payload carrier
      ∧ (∀ t, (n.changeAndTell contact change payload carrier done now).1.record contact t
          = ((n.chats.lookup contact).map change).bind (·.record t))
      ∧ (n.Seals contact payload →
          ∃ bytes, n.Hands (n.changeAndTell contact change payload carrier done now).1 bytes) := by
  unfold changeAndTell changeAndSeal
  cases found : n.chats.lookup contact with
  | none =>
    refine ⟨.of_silent rfl ⟨rfl, rfl⟩, fun t => ?_, ?_⟩
    · simp [record, found]
    · rintro ⟨chat, found', -⟩
      rw [found] at found'
      cases found'
  | some chat =>
    have changed (t : Topic) : (n.modifyChat contact change).record contact t = (change chat).record t := by
      simp [record, found]
    simp only []
    cases live : chat.authorized && !chat.closed with
    | false =>
      refine ⟨.of_silent rfl ⟨rfl, rfl⟩, fun t => by simpa using changed t, ?_⟩
      -- A chat that is not live is told nothing.
      rintro ⟨chat', found', approved, isOpen, -⟩
      obtain rfl : chat = chat' := by simpa [found] using found'
      simp [approved, isOpen] at live
    | true =>
      simp only [if_true]
      cases did : (n.modifyChat contact change).authedControl contact payload carrier with
      | none =>
        refine ⟨.of_silent rfl ⟨rfl, rfl⟩, fun t => by simpa using changed t, ?_⟩
        rintro ⟨chat', found', -, -, seals⟩
        obtain rfl : chat = chat' := by simpa [found] using found'
        obtain ⟨⟨session, message⟩, sealed⟩ := Option.isSome_iff_exists.mp seals
        simp [authedControl, sealFor, found, ratchet, sealed] at did
      | some result =>
        obtain ⟨n1, address, frame⟩ := result
        obtain ⟨chat1, session, message, found1, sealed, rfl, -, rfl⟩ := authedControl_eq did
        obtain rfl : change chat = chat1 := by simpa [found] using found1
        rw [ratchet] at sealed
        have handed := deliverWith_hands ((n.modifyChat contact change).modifyChat contact
          (fun chat => { chat with session := session })) address contact
          (.sealed carrier (n.modifyChat contact change).identityKey (.fromOlm message)) quiet now
        refine ⟨.of_frame ?_ ⟨chat, session, message, found, sealed, rfl⟩ (.inl handed), fun t => ?_,
          fun _ => ⟨_, handed⟩⟩
        · simp
        · have same := congrFun (Chat.beside_record.session (change chat) session) t
          simp [record, found, same]

/-- An announcement says what it is given to say, and is news on no topic of ours. -/
theorem announce_spoken (n : Node X) (contact : String) (kind : Announce) (carrier : SealedKind)
    (marker : Bytes) {raise : Node X → Node X} (now : Nat)
    (flags : ∀ n, (raise n).chats = n.chats ∧ (raise n).identityKey = n.identityKey
      ∧ n.Silent (raise n)) :
    n.Spoken (n.announce contact kind carrier marker raise now) contact marker carrier := by
  unfold announce
  cases did : n.authedControl contact marker carrier with
  | none => exact .of_silent rfl ⟨rfl, rfl⟩
  | some result =>
    obtain ⟨n1, address, frame⟩ := result
    obtain ⟨chat, session, message, found, sealed, rfl, -, rfl⟩ := authedControl_eq did
    obtain ⟨-, same, silent⟩ := flags (n.modifyChat contact (fun chat => { chat with session := session }))
    refine .of_frame (by simp [same]) ⟨chat, session, message, found, sealed, rfl⟩ ?_
    have handed := deliverWith_announced_hands
      (raise (n.modifyChat contact (fun chat => { chat with session := session }))) address contact
      (.sealed carrier n.identityKey (.fromOlm message)) kind now
    -- Raising the flags left the queues as they were.
    exact Silent.hands_of (n := n) silent handed

/-- What telling a contact does, whatever is told. -/
structure SpokenTold (n n' : Node X) (contact : String) (told : Told) : Prop where
  spoken : n.Spoken n' contact (told.payload X) told.topic.carrier
  others : ∀ t, (t = told.topic → told.topic.shared = false) → n'.record contact t = n.record contact t
  made : told.topic.shared = true → ∀ bytes, n.Hands n' bytes → n'.record contact told.topic = some told
  refused : n.Refuses contact told → told.topic.shared = true →
    n'.record contact told.topic = n.record contact told.topic
  handed : told.topic.shared = true → ¬ n.Refuses contact told → n.Seals contact (told.payload X) →
    ∃ bytes, n.Hands n' bytes

/-- An announcement is told without a change of our own. -/
theorem SpokenTold.of_announced {told : Told} (alone : told.topic.shared = false)
    (spoken : n.Spoken n' contact (told.payload X) told.topic.carrier)
    (keeps : ∀ t, n'.record contact t = n.record contact t) : n.SpokenTold n' contact told where
  spoken := spoken
  others t _ := keeps t
  made shared := by simp [alone] at shared
  refused _ shared := by simp [alone] at shared
  handed shared := by simp [alone] at shared

/-- A shared setting is changed here and told there. -/
theorem SpokenTold.of_changed {told : Told} {change : Chat X → Chat X}
    (shared : told.topic.shared = true)
    (changes : ∀ chat t, (change chat).record t = if t = told.topic then some told else chat.record t)
    (spoken : n.Spoken n' contact (told.payload X) told.topic.carrier)
    (records : ∀ t, n'.record contact t = ((n.chats.lookup contact).map change).bind (·.record t))
    (seals : n.Seals contact (told.payload X) → ∃ bytes, n.Hands n' bytes)
    (granted : n.Refuses contact told → n.chats.lookup contact = none) :
    n.SpokenTold n' contact told where
  spoken := spoken
  others t other := by
    have away : t ≠ told.topic := by
      intro here
      have alone := other here
      simp [shared] at alone
    rw [records, record]
    cases n.chats.lookup contact <;> simp [changes, away]
  made _ bytes handed := by
    obtain ⟨chat, session, message, found, -, -⟩ := spoken.hands bytes handed
    rw [records, found]
    simp [changes]
  refused refuses _ := by
    rw [records, record, granted refuses]
    rfl
  handed _ _ sealed := seals sealed

/-- Telling a contact something does what is told, by the operation of each topic. -/
theorem Tells.spec {told : Told} (did : n.Tells contact now told n') : n.SpokenTold n' contact told := by
  cases did with
  | @timer secs fits =>
    have ratchet (chat : Chat X) : (chat.setTimer secs now).session = chat.session := rfl
    obtain ⟨spoken, records, seals⟩ := changeAndTell_spec (decimal secs) .disappearing (.inr rfl)
      ratchet n contact now
    refine .of_changed rfl (fun chat t => ?_) spoken records seals ?_
    · cases t <;> rfl
    · rintro (missing | ⟨other, -⟩)
      · exact missing
      · cases other
  | @storage on =>
    unfold setRemoteStorage
    split
    · rename_i refused
      rw [Bool.and_eq_true, Bool.not_eq_true'] at refused
      obtain ⟨rfl, unavailable⟩ := refused
      exact {
        spoken := .of_silent rfl ⟨rfl, rfl⟩
        others := fun _ _ => rfl
        made := fun _ bytes handed => absurd handed (Silent.not_hands ⟨rfl, rfl⟩)
        refused := fun _ _ => rfl
        handed := fun _ granted => absurd (Or.inr ⟨rfl, unavailable⟩) granted }
    · rename_i granted
      have ratchet (chat : Chat X) : (chat.setStorage on now).session = chat.session := rfl
      obtain ⟨spoken, records, seals⟩ := changeAndTell_spec (utf8 (if on then "on" else "off")) .storage
        (.inl rfl) ratchet n contact now
      refine .of_changed rfl (fun chat t => ?_) spoken records seals ?_
      · cases t <;> rfl
      · rintro (missing | ⟨same, unavailable⟩)
        · exact missing
        · cases same
          simp [unavailable] at granted
  | @name chosen =>
    have ratchet (chat : Chat X) : ({ chat with myName := resolveName chosen } : Chat X).session
        = chat.session := rfl
    obtain ⟨spoken, records, -⟩ := changeAndTell_spec (utf8 (resolveName chosen)) .name (.inl rfl)
      ratchet n contact now
    refine .of_announced rfl spoken fun t => (records t).trans ?_
    rw [record]
    cases n.chats.lookup contact with
    | none => rfl
    | some chat => cases t <;> rfl
  | address =>
    unfold sendAddressTo
    let flagged : Node X := { n with addressAnnounced := n.addressAnnounced.insert contact n.address }
    cases did : flagged.authedControl contact (utf8 n.address) .address with
    | none =>
      simp only [flagged] at did
      simp only [did]
      exact .of_announced rfl (.of_silent rfl ⟨rfl, rfl⟩) fun t => rfl
    | some result =>
      obtain ⟨n1, address, frame⟩ := result
      have keeps := authedControl_keeps Chat.beside_record.session did
      obtain ⟨chat, session, message, found, sealed, same, -, rfl⟩ := authedControl_eq did
      simp only [flagged] at did
      simp only [did]
      have silent : n.Silent n1 := by
        rw [same]
        exact ⟨rfl, rfl⟩
      refine .of_announced rfl (.of_frame ?_ ⟨chat, session, message, found, sealed, rfl⟩
        (silent.hands_of (deliverWith_announced_hands n1 address contact _ .address now))) fun t => ?_
      · rw [deliverWith_identityKey, same]
        rfl
      · -- Neither the flag nor the frame is in the chats.
        exact (keeps.trans (.of_chats (deliverWith_chats _ _ _ _ _ _ _))).record contact t
  | relaySet =>
    refine .of_announced rfl ?_ fun t =>
      (announceRelaySetTo_keeps Chat.beside_record.session n contact now).record contact t
    unfold announceRelaySetTo
    simp only []
    split
    · exact .of_silent rfl ⟨rfl, rfl⟩
    · split
      · exact .of_silent rfl ⟨rfl, rfl⟩
      · exact announce_spoken n contact _ _ _ now fun _ => ⟨rfl, rfl, rfl, rfl⟩
  | version runs =>
    refine .of_announced rfl ?_ fun t =>
      (announceVersionTo_keeps Chat.beside_record.session n contact now).record contact t
    unfold announceVersionTo
    rw [runs]
    exact announce_spoken n contact _ _ _ now fun _ => ⟨rfl, rfl, rfl, rfl⟩
  | captures reports =>
    refine .of_announced rfl ?_ fun t =>
      (announceCapturesTo_keeps Chat.beside_record.session n contact now).record contact t
    unfold announceCapturesTo
    rw [reports]
    exact announce_spoken n contact _ _ _ now fun _ => ⟨rfl, rfl, rfl, rfl⟩

end Node

end Nightdrop
