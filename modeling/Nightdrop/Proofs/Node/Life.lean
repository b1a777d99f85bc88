import Nightdrop.Proofs.Node.Forged
import Nightdrop.Proofs.Node.Handlers

/-! Which frames count as a sign of life, and which readable ones do not. -/

namespace Nightdrop

variable {X : Externals}

/-- The chat's contact was heard at `now`, once, and is not outdated if the frame was current. -/
def Chat.Revived (now : Nat) (current : Prop) (chat chat' : Chat X) : Prop :=
  chat'.lastSeen = some now ∧ chat'.aliveCount = chat.aliveCount + 1
    ∧ (current → chat'.outdated = false)

/-- The chat's contact was not heard. -/
def Chat.Unmoved (chat chat' : Chat X) : Prop :=
  chat'.lastSeen = chat.lastSeen ∧ chat'.aliveCount = chat.aliveCount
    ∧ (chat.outdated = true → chat'.outdated = true)

/-- A chat as a pairing at `now` would leave it, as far as its contact's signs of life go. -/
def Chat.asGreeted (now : Nat) (chat : Chat X) : Bool :=
  chat.lastSeen = some now && chat.aliveCount = 0 && !chat.outdated

/-- The frames whose handler notes a sign of life when their payload is this one. -/
def Frame.showsLife {M : Type} (approved : Bool) (plaintext : Bytes) : Frame M → Bool
  | .message _ id _ | .burn _ id _ => saneId id && approved
  | .sealed kind _ _ => match kind with
    | .delivered => true
    | .closed => plaintext = MARK_CLOSED
    | .backedUp => plaintext = MARK_BACKEDUP
    | .burns => plaintext = MARK_BURNS_V1
    | .screenshot => (Chat.captureNote plaintext).isSome
    | .mailboxKey => approved && (decodePayload plaintext).isSome
    | .captures =>
      plaintext ≠ MARK_CAPTURES_VISIBLE && match stripMark MARK_NEARBY_PREFIX plaintext with
      | some body => (parseBody body).isSome
      | none => plaintext ≠ MARK_CAPTURES_SILENT
          && ((stripMark MARK_CAPTURE_BLOCK_PREFIX plaintext).bind readBlock).isSome
    | _ => false
  | _ => false

namespace Node

/-- What a frame's payload is, if it opens on the session of the contact the frame claims. -/
def reads (n : Node X) (frame : Frame X.OlmMessage) : Option Bytes :=
  frame.sealedBy.bind (fun from_ => (n.opens from_.1 from_.2).map (·.2))

/-- Processing an envelope is a sign of life of the contact it claims exactly if it is readable. -/
def ProvesLife (n : Node X) (a : Arrival X) : Prop :=
  ∀ sender chat, a.bytes.f.claimedSender = some sender → n.chats.lookup sender = some chat →
    ∃ chat', (n.take a).chats.lookup sender = some chat'
      ∧ if (n.reads a.bytes.f).isSome then chat.Revived a.now (a.bytes.v = WIRE_VERSION) chat'
        else chat.Unmoved chat'

/-- The envelope is of the current format, and not one taken in before. -/
def takesIn (n : Node X) (a : Arrival X) : Bool :=
  a.bytes.v = WIRE_VERSION && !(n.isDuplicateUserFrame a.bytes.f a.bytes).2

/-- The condition: a readable envelope is of a kind that notes it, and an unreadable one replaces no
closed chat by a new pairing. -/
def LifeShown (n : Node X) (a : Arrival X) : Prop :=
  ∀ sender chat, a.bytes.f.claimedSender = some sender → n.chats.lookup sender = some chat →
    match n.reads a.bytes.f with
    | some plaintext => n.takesIn a = true ∧ a.bytes.f.showsLife chat.authorized plaintext = true
    | none => a.bytes.v = WIRE_VERSION → n.accepts a.bytes.f = true → chat.closed = true →
        chat.asGreeted a.now = true

end Node

/-! ### What shows in the signs of life -/

/-- What of a chat tells whether its contact lives: when they were last heard, how often, and
whether their app is outdated. -/
def Chat.life (chat : Chat X) : Option Nat × Nat × Bool :=
  (chat.lastSeen, chat.aliveCount, chat.outdated)

namespace Chat

theorem beside_life : Chat.Beside (Chat.life (X := X)) := ⟨fun _ _ => rfl, fun _ _ => rfl, fun _ _ => rfl⟩

/-- Being alive is one sign of life, and no outdated app sends it. -/
theorem life_markAlive (now : Nat) (chat : Chat X) :
    (chat.markAlive now).life = (some now, chat.aliveCount + 1, false) := by
  -- The mark of the old format is gone, and an outdated version is forgotten.
  cases told : chat.toldUpgrade <;> cases old : chat.peerAppVersion.any versionOutdated <;>
    simp [life, markAlive, forgetUpgradeNotice, outdated, told, old]

/-- A chat that shows as just heard was revived. -/
theorem Revived.of_life {now : Nat} {current : Prop} {chat chat' : Chat X}
    (heard : chat'.life = (some now, chat.aliveCount + 1, false)) :
    chat.Revived now current chat' := by
  simp only [life, Prod.mk.injEq] at heard
  exact ⟨heard.1, heard.2.1, fun _ => heard.2.2⟩

/-- A chat whose count stayed was not revived. -/
theorem not_revived {now : Nat} {current : Prop} {chat chat' : Chat X}
    (same : chat'.aliveCount = chat.aliveCount) : ¬ chat.Revived now current chat' := by
  rintro ⟨-, counted, -⟩
  omega

/-- A chat that shows the same was not moved. -/
theorem Unmoved.of_life {chat chat' : Chat X} (same : chat'.life = chat.life) :
    chat.Unmoved chat' := by
  simp only [life, Prod.mk.injEq] at same
  exact ⟨same.1, same.2.1, fun old => same.2.2.trans old⟩

end Chat

/-- A numbered announcement of the capture block is a sign of life, whatever its number. -/
theorem Chat.hearBlock_life (on : Bool) (seq now : Nat) (chat : Chat X) :
    (chat.hearBlock on seq now).1.life = (chat.markAlive now).life := by
  unfold hearBlock
  simp only []
  split
  · rfl
  · split
    · rfl
    · refine beside_life.counted (fun chat => ?_) _
      rfl

/-- A nearby announcement is a sign of life, whatever its number. -/
theorem Chat.hearNearby_life (peer : PeerNearby) (now : Nat) (chat : Chat X) :
    (chat.hearNearby peer now).1.life = (chat.markAlive now).life := by
  unfold hearNearby
  simp only []
  split
  · rfl
  · split
    · rfl
    · refine beside_life.counted (fun chat => ?_) _
      -- Neither the notice nor where the peer listens shows.
      split
      · exact beside_life.note NEARBY_ASKED_TEXT now chat
      · rfl

namespace Node

variable {n : Node X} {sender : String} {message : WireOlm X.OlmMessage} {session : X.Session}
  {plaintext : Bytes} {chat : Chat X}

/-- The chat a contact has after an operation was revived exactly if this holds. -/
def RevivedIf (n' : Node X) (sender : String) (now : Nat) (chat : Chat X) (shown : Prop) : Prop :=
  ∃ chat', n'.chats.lookup sender = some chat' ∧ (chat.Revived now True chat' ↔ shown)

/-- An operation that keeps the count revives no chat. -/
theorem RevivedIf.of_count {n' : Node X} {now : Nat} {shown : Prop}
    (found : n.chats.lookup sender = some chat) (keeps : n.Keeps Chat.aliveCount n')
    (never : ¬ shown) : n'.RevivedIf sender now chat shown := by
  obtain ⟨chat', found', same⟩ := keeps.lookup found
  exact ⟨chat', found', iff_of_false (Chat.not_revived same) never⟩

/-- What keeps the signs of life after one keeps them revived. -/
theorem RevivedIf.of_life {n1 n' : Node X} {now : Nat} {shown : Prop} {alive : Chat X}
    (found : n1.chats.lookup sender = some alive)
    (heard : alive.life = (some now, chat.aliveCount + 1, false)) (keeps : n1.Keeps Chat.life n')
    (always : shown) : n'.RevivedIf sender now chat shown := by
  obtain ⟨chat', found', same⟩ := keeps.lookup found
  exact ⟨chat', found', iff_of_true (.of_life (same.trans heard)) always⟩

/-- A change that makes its chat alive, with what keeps the signs of life after it. -/
theorem RevivedIf.of_modify {n1 n' : Node X} {now : Nat} {shown : Prop} {start : Chat X}
    {f : Chat X → Chat X} (keeps : n1.Keeps Chat.life n') (found : n.chats.lookup sender = some start)
    (chats : n1.chats = (n.modifyChat sender f).chats)
    (heard : (f start).life = (some now, chat.aliveCount + 1, false)) (always : shown) :
    n'.RevivedIf sender now chat shown := by
  refine .of_life ?_ heard keeps always
  rw [chats, lookup_modifyChat, if_pos rfl, found]
  rfl

/-- A readable user frame is a sign of life of an approved contact. -/
theorem receiveUser_life (opened : n.opens sender message = some (session, plaintext))
    (found : n.chats.lookup sender = some chat) (id : String)
    (open? : Bytes → Except String (Option ChatMessage)) (shown : ChatMessage → String) (now : Nat) :
    (n.receiveUser sender id message open? shown now).1.RevivedIf sender now chat
      ((saneId id && chat.authorized) = true) := by
  obtain ⟨chat', olm, found', readable, opens⟩ := opens_eq_some.mp opened
  obtain rfl : chat = chat' := by simpa [found] using found'
  unfold receiveUser
  cases sane : saneId id with
  | false =>
    simp only [Bool.not_false, if_true, Bool.false_and]
    exact .of_count found (.refl n) (by simp)
  | true =>
    simp only [Bool.not_true, Bool.false_eq_true, if_false, readable, found, Bool.true_and]
    cases approved : chat.authorized with
    | false =>
      simp only [Bool.not_false, if_true]
      exact .of_count found (.refl n) (by simp)
    | true =>
      simp only [Bool.not_true, Bool.false_eq_true, if_false, opens]
      generalize heard : n.modifyChat sender
        (fun chat => { chat with session := session }.markAlive now) = n1
      have alive : n1.chats.lookup sender = some ({ chat with session := session }.markAlive now) := by
        rw [← heard, lookup_modifyChat, if_pos rfl, found]
        rfl
      have life := Chat.life_markAlive now { chat with session := session }
      split
      · exact .of_life alive life (.refl n1) trivial
      · exact .of_life alive life (.refl n1) trivial
      · rename_i m _
        refine .of_life alive life (Keeps.trans (.modifyChat n1 sender _ fun chat _ => ?_)
          (.of_chats rfl)) trivial
        exact Chat.beside_life.takeIn chat m now

/-- A readable receipt is a sign of life. -/
theorem receiveDelivered_life (opened : n.opens sender message = some (session, plaintext))
    (found : n.chats.lookup sender = some chat) (now : Nat) :
    (n.receiveDelivered sender message now).1.RevivedIf sender now chat True := by
  obtain ⟨chat', olm, found', readable, opens⟩ := opens_eq_some.mp opened
  obtain rfl : chat = chat' := by simpa [found] using found'
  unfold receiveDelivered
  simp only [readable, found, opens]
  generalize heard : n.modifyChat sender
    (fun chat => { chat with session := session }.markAlive now) = n1
  have alive : n1.chats.lookup sender = some ({ chat with session := session }.markAlive now) := by
    rw [← heard, lookup_modifyChat, if_pos rfl, found]
    rfl
  have life := Chat.life_markAlive now { chat with session := session }
  split
  · exact .of_life alive life (.refl n1) trivial
  · refine .of_life alive life (Keeps.trans (.modifyChat n1 sender _ fun chat _ => ?_)
      (.of_chats rfl)) trivial
    exact Chat.beside_life.history chat _

/-- A control frame that is checked is alive if it is genuine, and is not counted if it is not. -/
theorem verifyControl_life (opened : n.opens sender message = some (session, plaintext))
    (found : n.chats.lookup sender = some chat) (marker : Bytes) (now : Nat) :
    ∃ n1 alive, n.verifyControl sender message marker now = (n1, decide (plaintext = marker))
      ∧ n1.chats.lookup sender = some alive
      ∧ if plaintext = marker then alive.life = (some now, chat.aliveCount + 1, false)
        else n.Keeps Chat.aliveCount n1 := by
  obtain ⟨chat', olm, found', readable, opens⟩ := opens_eq_some.mp opened
  obtain rfl : chat = chat' := by simpa [found] using found'
  unfold verifyControl
  simp only [found, readable, opens]
  by_cases genuine : plaintext = marker
  · refine ⟨_, { chat with session := session }.markAlive now, by rw [if_pos genuine, decide_eq_true genuine],
      ?_, ?_⟩
    · rw [lookup_modifyChat, if_pos rfl, found]
      rfl
    · rw [if_pos genuine]
      exact Chat.life_markAlive now { chat with session := session }
  · refine ⟨_, { chat with session := session }, by rw [if_neg genuine, decide_eq_false genuine], ?_, ?_⟩
    · rw [lookup_modifyChat, if_pos rfl, found]
      rfl
    · rw [if_neg genuine]
      exact .modifyChat n sender _ fun chat _ => rfl

/-- A handler that acts on genuine frames only, and keeps what they revived. -/
theorem checked_life (opened : n.opens sender message = some (session, plaintext))
    (found : n.chats.lookup sender = some chat) (marker : Bytes) (now : Nat) {n' : Node X}
    (refused : ∀ n1, n.verifyControl sender message marker now = (n1, false) → n' = n1)
    (acted : ∀ n1, n.verifyControl sender message marker now = (n1, true) → n1.Keeps Chat.life n') :
    n'.RevivedIf sender now chat (decide (plaintext = marker) = true) := by
  obtain ⟨n1, alive, verified, found1, life⟩ := verifyControl_life opened found marker now
  by_cases genuine : plaintext = marker
  · rw [if_pos genuine] at life
    rw [decide_eq_true genuine] at verified
    exact .of_life found1 life (acted n1 verified) (by simp [genuine])
  · rw [if_neg genuine] at life
    rw [decide_eq_false genuine] at verified
    rw [refused n1 verified]
    exact .of_count found life (by simp [genuine])

/-- A frame of a known contact that opens is handled on the used session. -/
theorem openKnown_opened (opened : n.opens sender message = some (session, plaintext))
    (act : Node X → Bytes → Node X × Processed) :
    n.openKnown sender message act
      = act (n.modifyChat sender (fun chat => { chat with session := session })) plaintext := by
  obtain ⟨chat, olm, found, readable, opens⟩ := opens_eq_some.mp opened
  simp only [openKnown, found, readable, opens]

/-- The chat after what an open frame changes in it. -/
theorem hearChat_lookup (found : n.chats.lookup sender = some chat) (hear : Chat X → Chat X × Bool) :
    (n.hearChat sender hear).1.chats.lookup sender = some (hear chat).1 := by
  rw [hearChat, lookup_modifyChat, if_pos rfl, found]
  rfl

/-- A capture notice of a kind this build knows is a sign of life. -/
theorem receiveScreenshot_life (opened : n.opens sender message = some (session, plaintext))
    (found : n.chats.lookup sender = some chat) (now : Nat) :
    (n.receiveScreenshot sender message now).1.RevivedIf sender now chat
      ((Chat.captureNote plaintext).isSome = true) := by
  unfold receiveScreenshot
  rw [openKnown_opened opened]
  generalize used : n.modifyChat sender (fun chat => { chat with session := session }) = n1
  have found1 : n1.chats.lookup sender = some { chat with session := session } := by
    rw [← used, lookup_modifyChat, if_pos rfl, found]
    rfl
  cases known : Chat.captureNote plaintext with
  | none =>
    have kept : n1.Keeps Chat.aliveCount (n1.hearChat sender (Chat.hearScreenshot plaintext now)).1 := by
      refine hearChat_keeps n1 sender fun chat => ?_
      simp only [Chat.hearScreenshot, known]
    obtain ⟨chat', found', same⟩ := kept.lookup found1
    exact ⟨chat', found', iff_of_false (Chat.not_revived same) (by simp)⟩
  | some text =>
    have life := Chat.life_markAlive now { chat with session := session }
    have heard : (Chat.hearScreenshot plaintext now { chat with session := session }).1.life
        = (some now, chat.aliveCount + 1, false) := by
      simp only [Chat.hearScreenshot, known]
      rw [Chat.beside_life.counted (Chat.beside_life.note text now)]
      exact life
    exact .of_life (hearChat_lookup found1 _) heard (.refl _) rfl

/-- A contribution to the mailbox agreement is a sign of life of an approved contact. -/
theorem onMailboxKey_life (opened : n.opens sender message = some (session, plaintext))
    (found : n.chats.lookup sender = some chat) (fresh : Bytes) (now : Nat) :
    (n.onMailboxKey sender message fresh now).RevivedIf sender now chat
      ((chat.authorized && (decodePayload plaintext).isSome) = true) := by
  obtain ⟨chat', olm, found', readable, opens⟩ := opens_eq_some.mp opened
  obtain rfl : chat = chat' := by simpa [found] using found'
  unfold onMailboxKey
  simp only [found, readable]
  cases approved : chat.authorized with
  | false =>
    simp only [Bool.not_false, if_true, Bool.false_and]
    exact .of_count found (.refl n) (by simp)
  | true =>
    simp only [Bool.not_true, Bool.false_eq_true, if_false, opens, Bool.true_and]
    cases payload : decodePayload plaintext with
    | none =>
      simp only []
      exact .of_count found (.modifyChat n sender _ fun _ _ => rfl) (by simp)
    | some contribution =>
      obtain ⟨theirs, theirConfirm⟩ := contribution
      simp only [Option.isSome_some]
      have heard (pair : Option MailboxPair) :
          Chat.life { { chat with session := session }.markAlive now with mailbox := pair }
            = (some now, chat.aliveCount + 1, false) :=
        Chat.life_markAlive now { chat with session := session }
      rw [modifyChat_modifyChat]
      -- Whether the agreement is proven and is answered, sealing leaves the sign of life as it is.
      split
      all_goals
        split
        · exact .of_modify (sendMailboxKey_keeps Chat.beside_life.session (fun _ _ => rfl) _ sender
            fresh now) found rfl (heard _) trivial
        · exact .of_modify (.refl _) found rfl (heard _) trivial

/-- What a device says of captures is a sign of life if it is numbered: nearby, or the block. -/
theorem receiveCaptures_life (opened : n.opens sender message = some (session, plaintext))
    (found : n.chats.lookup sender = some chat) (now : Nat) :
    (n.receiveCaptures sender message now).1.RevivedIf sender now chat
      ((Frame.sealed (M := X.OlmMessage) .captures sender message).showsLife chat.authorized plaintext
        = true) := by
  unfold receiveCaptures
  rw [openKnown_opened opened]
  generalize used : n.modifyChat sender (fun chat => { chat with session := session }) = n1
  have found1 : n1.chats.lookup sender = some { chat with session := session } := by
    rw [← used, lookup_modifyChat, if_pos rfl, found]
    rfl
  have life := Chat.life_markAlive now { chat with session := session }
  have visible (on : Bool) (shown : Prop) (never : ¬ shown) :
      (n1.hearChat sender (Chat.hearCaptures on)).1.RevivedIf sender now chat shown := by
    have kept : n1.Keeps Chat.aliveCount (n1.hearChat sender (Chat.hearCaptures on)).1 := by
      refine hearChat_keeps n1 sender fun chat => ?_
      unfold Chat.hearCaptures
      split <;> rfl
    obtain ⟨chat', found', same⟩ := kept.lookup found1
    exact ⟨chat', found', iff_of_false (Chat.not_revived same) never⟩
  simp only [Frame.showsLife]
  by_cases shown : plaintext = MARK_CAPTURES_VISIBLE
  · rw [if_pos shown]
    exact visible true _ (by simp [shown])
  · rw [if_neg shown]
    cases nearby : stripMark MARK_NEARBY_PREFIX plaintext with
    | some body =>
      simp only [receiveNearby]
      cases parsed : parseBody body with
      | none => exact ⟨_, found1, iff_of_false (Chat.not_revived rfl) (by simp)⟩
      | some peer =>
        have heard := (Chat.hearNearby_life peer now { chat with session := session }).trans life
        have always : (decide (plaintext ≠ MARK_CAPTURES_VISIBLE) && (some peer).isSome) = true := by
          simp [shown]
        simp only []
        split
        · exact .of_life (hearChat_lookup found1 _) heard (.of_chats rfl) always
        · exact .of_life (hearChat_lookup found1 _) heard (.refl _) always
    | none =>
      simp only []
      by_cases silent : plaintext = MARK_CAPTURES_SILENT
      · rw [if_pos silent]
        exact visible false _ (by simp [silent])
      · rw [if_neg silent]
        cases block : (stripMark MARK_CAPTURE_BLOCK_PREFIX plaintext).bind readBlock with
        | none => exact ⟨_, found1, iff_of_false (Chat.not_revived rfl) (by simp)⟩
        | some asked =>
          obtain ⟨on, seq⟩ := asked
          have heard := (Chat.hearBlock_life on seq now { chat with session := session }).trans life
          have always : (decide (plaintext ≠ MARK_CAPTURES_VISIBLE)
              && (decide (plaintext ≠ MARK_CAPTURES_SILENT) && (some (on, seq)).isSome)) = true := by
            simp [shown, silent]
          -- Telling the peer again what stays allowed leaves the signs of life as they are.
          have kept := receiveBlock_keeps Chat.beside_life.session n1 sender on seq now fun chat =>
            Chat.beside_life.note RETOLD_TEXT now chat
          exact .of_life (hearChat_lookup found1 _) heard kept always

/-- A sealed frame that opens revives its chat exactly if its handler notes a sign of life. -/
theorem processSealed_life (kind : SealedKind)
    (opened : n.opens sender message = some (session, plaintext))
    (found : n.chats.lookup sender = some chat) (inputs : FrameInputs) (now : Nat) :
    (n.processSealed kind sender message inputs now).1.RevivedIf sender now chat
      ((Frame.sealed (M := X.OlmMessage) kind sender message).showsLife chat.authorized plaintext
        = true) := by
  cases kind with
  | edit | unsend | burnMedia | viewed | storage | disappearing | verified | name | address | relaySet
  | version | clientKeySealed | media | mediaIncoming =>
    exact .of_count found ((processSealed_quiet inputs now (by simp)).coarser (·.1))
      (by simp [Frame.showsLife])
  | delivered =>
    have life := receiveDelivered_life opened found now
    simpa [Frame.showsLife, processSealed] using life
  | screenshot => exact receiveScreenshot_life opened found now
  | captures => exact receiveCaptures_life opened found now
  | mailboxKey => exact onMailboxKey_life opened found inputs.fresh now
  | closed =>
    refine checked_life opened found MARK_CLOSED now (fun n1 verified => ?_) fun n1 verified => ?_
    · simp only [processSealed, receiveClosed, verified]
    · simp only [processSealed, receiveClosed, verified]
      split
      · exact .modifyChat n1 sender _ fun _ _ => rfl
      · exact .refl n1
  | backedUp =>
    refine checked_life opened found MARK_BACKEDUP now (fun n1 verified => ?_) fun n1 verified => ?_
    · simp only [processSealed, receiveBackedUp, verified]
    · simp only [processSealed, receiveBackedUp, verified]
      refine hearChat_keeps n1 sender fun chat => ?_
      unfold Chat.hearBackedUp
      split <;> rfl
  | burns =>
    refine checked_life opened found MARK_BURNS_V1 now (fun n1 verified => ?_) fun n1 verified => ?_
    · simp only [processSealed, receiveBurns, verified]
    · simp only [processSealed, receiveBurns, verified]
      refine hearChat_keeps n1 sender fun chat => ?_
      split <;> rfl
  | ack =>
    obtain ⟨n1, alive, verified, found1, life⟩ := verifyControl_life opened found MARK_ACK now
    simp only [processSealed, receiveAck, verified]
    by_cases genuine : plaintext = MARK_ACK
    · -- The check notes one sign of life and the handler another, so the frame counts as two.
      rw [if_pos genuine] at life
      rw [decide_eq_true genuine]
      have counted := congrArg (fun life => life.2.1) (Chat.life_markAlive now alive)
      have once := congrArg (fun life => life.2.1) life
      simp only [Chat.life] at counted once
      refine ⟨alive.markAlive now, ?_, iff_of_false ?_ (by simp [Frame.showsLife])⟩
      · simp only [lookup_modifyChat, if_true, found1, Option.map_some]
      · rintro ⟨-, twice, -⟩
        omega
    · rw [if_neg genuine] at life
      rw [decide_eq_false genuine]
      exact .of_count found life (by simp [Frame.showsLife])

/-- A known chat that a pairing adopts shows the same if it is open, and is begun anew if not. -/
theorem adoptHello_life (found : n.chats.lookup sender = some chat) (peerAddress : String)
    (session : X.Session) (body : Option HelloBody) (now : Nat) :
    ∃ chat', (n.adoptHello sender peerAddress session body now).chats.lookup sender = some chat'
      ∧ chat'.life = if chat.closed then (some now, 0, false) else chat.life := by
  have beside := Chat.beside_life (X := X)
  unfold adoptHello
  simp only [found]
  generalize (if chat.verified then REPAIRED_VERIFIED_TEXT else REPAIRED_TEXT) = notice
  have noted (n1 : Node X) : n1.Keeps Chat.life (n1.modifyChat sender (fun chat =>
      { chat with history := chat.history ++ [.ofSystem notice now] })) :=
    .modifyChat n1 sender _ fun chat _ => beside.history chat _
  cases closed : chat.closed with
  | true =>
    simp only [Bool.not_true, Bool.false_eq_true, if_false, if_true]
    have begun : ({ n with chats := n.chats.insert sender (n.greeted session peerAddress body now) } :
        Node X).chats.lookup sender = some (n.greeted session peerAddress body now) :=
      AList.lookup_insert n.chats
    obtain ⟨chat', found', same⟩ := (noted _).lookup begun
    exact ⟨chat', found', same⟩
  | false =>
    simp only [Bool.not_false, if_true, Bool.false_eq_true, if_false]
    have rekeys : n.Keeps Chat.life (n.modifyChat sender (rekeyed session peerAddress body)) :=
      .modifyChat n sender _ fun chat _ => rfl
    split
    · exact ((rekeys.trans (.of_chats (deliverWith_chats _ _ _ _ _ _ _))).trans (noted _)).lookup found
    · exact (rekeys.trans (noted _)).lookup found

/-- A pairing is no sign of life in a chat that is open; a closed chat is begun anew. -/
theorem receiveHello_life (found : n.chats.lookup sender = some chat) (fromAddress : Option String)
    (address : String) (inputs : PairingInputs) (now : Nat) :
    ∃ chat', (n.receiveHello fromAddress sender address message inputs now).1.chats.lookup sender
        = some chat'
      ∧ chat'.life = if n.accepts (.hello sender address message) && chat.closed
          then (some now, 0, false) else chat.life := by
  have beside := Chat.beside_life (X := X)
  cases readable : message.toOlm with
  | none =>
    simp only [receiveHello, readable]
    exact ⟨chat, found, by simp [accepts, readable]⟩
  | some olm =>
    cases accepted : X.acceptInbound n.account sender olm with
    | none =>
      simp only [receiveHello, readable, accepted]
      exact ⟨chat, found, by simp [accepts, readable, accepted]⟩
    | some opened =>
      obtain ⟨account, session, plaintext⟩ := opened
      have takes : n.accepts (.hello sender address message) = true := by
        simp [accepts, readable, accepted]
      simp only [takes, Bool.true_and]
      obtain ⟨chat1, found1, life⟩ := adoptHello_life (n := { n with account := account }) found
        (if saneAddress address then address else fromAddress.getD "") session (X.readHello plaintext) now
      obtain ⟨chat', found', same⟩ := (receiveHello_keeps beside.session
        (fun _ _ _ _ => rfl) (fun _ _ => rfl) n readable accepted fromAddress address inputs now).lookup found1
      exact ⟨chat', found', same.trans life⟩

/-- Old-format frames may mark their contact as outdated, and show no sign of life. -/
theorem noteLegacyFrame_unmoved (found : n.chats.lookup sender = some chat) (named : String) :
    ∃ chat', (n.noteLegacyFrame named).chats.lookup sender = some chat' ∧ chat.Unmoved chat' := by
  unfold noteLegacyFrame
  split
  · exact ⟨chat, found, .of_life rfl⟩
  · simp only []
    split
    · rw [lookup_modifyChat]
      split
      · rename_i here
        refine ⟨{ chat with peerWireOld := true }, by rw [← here, found]; rfl, rfl, rfl, fun _ => ?_⟩
        simp [Chat.outdated]
      · exact ⟨chat, found, .of_life rfl⟩
    · exact ⟨chat, found, .of_life rfl⟩

/-- What one frame of the current format does to the signs of life of the contact it claims. -/
theorem processFrame_life {frame : Frame X.OlmMessage} (claims : frame.claimedSender = some sender)
    (found : n.chats.lookup sender = some chat) (fromAddress : Option String) (inputs : FrameInputs)
    (now : Nat) :
    ∃ chat', (n.processFrame fromAddress frame inputs now).1.chats.lookup sender = some chat'
      ∧ match n.reads frame with
        | some plaintext =>
          (chat.Revived now True chat' ↔ frame.showsLife chat.authorized plaintext = true)
        | none => (chat.Unmoved chat' ↔
            (n.accepts frame = true → chat.closed = true → chat.asGreeted now = true)) := by
  let noted : Node X := { n with dirty := true }
  have found1 : noted.chats.lookup sender = some chat := found
  -- Frames that carry no ciphertext keep the signs of life.
  have bare {n' : Node X} (unread : n.reads frame = none) (unpaired : n.accepts frame = false)
      (keeps : noted.Keeps Chat.life n') : ∃ chat', n'.chats.lookup sender = some chat'
        ∧ match n.reads frame with
          | some plaintext =>
            (chat.Revived now True chat' ↔ frame.showsLife chat.authorized plaintext = true)
          | none => (chat.Unmoved chat' ↔
              (n.accepts frame = true → chat.closed = true → chat.asGreeted now = true)) := by
    obtain ⟨chat', found', same⟩ := keeps.lookup found1
    refine ⟨chat', found', ?_⟩
    simp only [unread, unpaired]
    exact iff_of_true (.of_life same) (by simp)
  cases frame with
  | pake data | cover padding => cases claims
  | approved sender' code =>
    obtain rfl : sender' = sender := by simpa [Frame.claimedSender] using claims
    exact bare rfl rfl (receiveApproved_keeps Chat.beside_life.session sender' now
      (fun _ => rfl) (fun _ => rfl) (fun _ => rfl) noted)
  | codeInUse sender' code =>
    obtain rfl : sender' = sender := by simpa [Frame.claimedSender] using claims
    exact bare rfl rfl (receiveCodeInUse_keeps now (fun _ => rfl) noted sender')
  | clientKey sender' key => exact bare rfl rfl (.refl noted)
  | hello sender' address message =>
    obtain rfl : sender' = sender := by simpa [Frame.claimedSender] using claims
    obtain ⟨chat', found', life⟩ : ∃ chat', (noted.receiveHello fromAddress sender' address message
        inputs.toPairingInputs now).1.chats.lookup sender' = some chat' ∧ _ :=
      receiveHello_life (n := noted) found1 fromAddress address inputs.toPairingInputs now
    refine ⟨chat', found', ?_⟩
    have accepts : noted.accepts (.hello sender' address message)
        = n.accepts (.hello sender' address message) := rfl
    rw [accepts] at life
    cases paired : n.accepts (.hello sender' address message) && chat.closed with
    | true =>
      rw [paired, if_pos rfl] at life
      rw [Bool.and_eq_true] at paired
      simp only [Chat.life, Prod.mk.injEq] at life
      obtain ⟨seen, count, current⟩ := life
      split
      · refine iff_of_false ?_ (by simp [Frame.showsLife])
        rintro ⟨-, counted, -⟩
        omega
      · simp only [paired.1, paired.2, Chat.Unmoved, Chat.asGreeted, seen, count, current,
          Bool.and_eq_true, Bool.not_eq_true', decide_eq_true_eq, forall_const]
        constructor
        · rintro ⟨sameSeen, sameCount, fresh⟩
          exact ⟨⟨sameSeen.symm, sameCount.symm⟩, by simpa using fresh⟩
        · rintro ⟨⟨sameSeen, sameCount⟩, fresh⟩
          exact ⟨sameSeen.symm, sameCount.symm, by simp [fresh]⟩
    | false =>
      rw [paired, if_neg (by simp)] at life
      split
      · have count := congrArg (fun life => life.2.1) life
        exact iff_of_false (Chat.not_revived count) (by simp [Frame.showsLife])
      · refine iff_of_true (.of_life life) fun accepted closed => ?_
        simp [accepted, closed] at paired
  | message sender' id message =>
    obtain rfl : sender' = sender := by simpa [Frame.claimedSender] using claims
    cases opens : n.opens sender' message with
    | none =>
      refine bare (by simp [reads, Frame.sealedBy, opens]) rfl ?_
      rw [processFrame, receiveMessage, receiveUser_unread (n := noted) opens]
      exact .refl noted
    | some opened =>
      obtain ⟨session, plaintext⟩ := opened
      have reading : n.reads (.message sender' id message) = some plaintext := by
        simp [reads, Frame.sealedBy, opens]
      rw [reading]
      exact receiveUser_life (n := noted) opens found1 id _ _ now
  | burn sender' id message =>
    obtain rfl : sender' = sender := by simpa [Frame.claimedSender] using claims
    cases opens : n.opens sender' message with
    | none =>
      refine bare (by simp [reads, Frame.sealedBy, opens]) rfl ?_
      rw [processFrame, receiveBurn, receiveUser_unread (n := noted) opens]
      exact .refl noted
    | some opened =>
      obtain ⟨session, plaintext⟩ := opened
      have reading : n.reads (.burn sender' id message) = some plaintext := by
        simp [reads, Frame.sealedBy, opens]
      rw [reading]
      exact receiveUser_life (n := noted) opens found1 id _ _ now
  | «sealed» kind sender' message =>
    obtain rfl : sender' = sender := by simpa [Frame.claimedSender] using claims
    cases opens : n.opens sender' message with
    | none =>
      refine bare (by simp [reads, Frame.sealedBy, opens]) rfl ?_
      rw [processFrame, processSealed_unread kind (n := noted) opens]
      exact .refl noted
    | some opened =>
      obtain ⟨session, plaintext⟩ := opened
      have reading : n.reads (.sealed kind sender' message) = some plaintext := by
        simp [reads, Frame.sealedBy, opens]
      rw [reading]
      exact processSealed_life (n := noted) kind opens found1 inputs now

/--
Every readable frame is proof of life, but for the kinds whose handler forgets to note it.

In every state, an envelope counts as one sign of life of the contact it claims exactly if it is
readable, and it is so exactly if a readable one is current, new and of a kind that notes it, and
an unreadable one replaces no closed chat by a new pairing.
-/
theorem readable_is_alive_iff (n : Node X) (a : Arrival X) : n.ProvesLife a ↔ n.LifeShown a := by
  unfold ProvesLife LifeShown
  refine forall₄_congr fun sender chat claims found => ?_
  by_cases current : a.bytes.v = WIRE_VERSION
  · have read : decode a.bytes = some a.bytes.f := if_pos current
    obtain ⟨seen, twice, noted, user⟩ := isDuplicateUserFrame_noted n a.bytes.f a.bytes
    unfold take takeIn takesIn
    rw [read]
    simp only [noted, current, decide_true, Bool.true_and]
    cases twice with
    | true =>
      -- A repeated frame is dropped, and pairs nobody.
      have unpaired : n.accepts a.bytes.f = false := by
        have repeated := user rfl
        revert repeated
        cases a.bytes.f <;> simp [isUserFrame, accepts]
      simp only [found, Option.some.injEq, exists_eq_left', unpaired]
      cases n.reads a.bytes.f with
      | none => simpa using Chat.Unmoved.of_life rfl
      | some plaintext => simpa using Chat.not_revived rfl
    | false =>
      obtain ⟨chat', found', life⟩ := processFrame_life (n := { n with seenFrames := seen }) claims found
        a.fromAddress a.inputs a.now
      have same : Node.reads { n with seenFrames := seen } a.bytes.f = n.reads a.bytes.f := rfl
      have same' : Node.accepts { n with seenFrames := seen } a.bytes.f = n.accepts a.bytes.f := by
        cases a.bytes.f <;> rfl
      rw [same, same'] at life
      simp only [found', Option.some.injEq, exists_eq_left']
      revert life
      cases n.reads a.bytes.f with
      | none => simp
      | some plaintext => simp
  · -- A frame in another format is never opened.
    have read : decode a.bytes = none := if_neg current
    have moved : ∃ chat', (n.take a).chats.lookup sender = some chat' ∧ chat.Unmoved chat' := by
      unfold take takeIn
      rw [read]
      cases legacySender a.bytes with
      | none => exact ⟨chat, found, .of_life rfl⟩
      | some named => exact noteLegacyFrame_unmoved found named
    obtain ⟨chat', found', unmoved⟩ := moved
    simp only [found', Option.some.injEq, exists_eq_left', takesIn, current]
    cases n.reads a.bytes.f with
    | none => simpa using unmoved
    | some plaintext => simpa using Chat.not_revived unmoved.2.1

/-- A contact who renames themselves is not seen to be alive. -/
theorem rename_not_alive :
    ¬ Symbolic.device.ProvesLife
      ⟨none, encode (.sealed .name "them" (Symbolic.fromThem 1 (utf8 "Ann"))), {}, 5⟩ := by
  intro proves
  obtain ⟨chat', found, shown⟩ := proves "them" Symbolic.chat rfl rfl
  have readable : (Symbolic.device.reads
      (.sealed .name "them" (Symbolic.fromThem 1 (utf8 "Ann")))).isSome = true := by decide +kernel
  simp only [encode, readable, if_true] at shown
  have unseen : ((Symbolic.device.take ⟨none, encode (.sealed .name "them"
      (Symbolic.fromThem 1 (utf8 "Ann"))), {}, 5⟩).chats.lookup "them").bind (·.lastSeen) = none :=
    Option.isNone_iff_eq_none.mp (by decide +kernel)
  rw [found, Option.bind_some, shown.1] at unseen
  cases unseen

end Node

end Nightdrop
