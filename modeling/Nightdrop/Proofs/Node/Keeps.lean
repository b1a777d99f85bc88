import Nightdrop.Proofs.Node.Announce

/-! What announcing leaves as it was: a view of every chat that sealing does not show in. -/

namespace Nightdrop

variable {X : Externals}

/-- Every chat is there as before, and what is seen of it is the same. -/
def Node.Keeps {β : Type*} (view : Chat X → β) (n n' : Node X) : Prop :=
  ∀ contact, (n'.chats.lookup contact).map view = (n.chats.lookup contact).map view

/-- A view that a used session does not show in. -/
def Chat.Unsealed {β : Type*} (view : Chat X → β) : Prop :=
  ∀ (chat : Chat X) (session : X.Session), view { chat with session := session } = view chat

namespace Node

variable {β : Type*} {view : Chat X → β}

namespace Keeps

theorem refl (n : Node X) : n.Keeps view n := fun _ => rfl

theorem trans {a b c : Node X} (first : a.Keeps view b) (second : b.Keeps view c) :
    a.Keeps view c :=
  fun contact => (second contact).trans (first contact)

/-- The same chats show the same. -/
theorem of_chats {n n' : Node X} (same : n'.chats = n.chats) : n.Keeps view n' :=
  fun contact => by rw [same]

/-- One chat changed where it is not seen. -/
theorem modifyChat (n : Node X) (contact : String) (f : Chat X → Chat X)
    (same : ∀ chat, n.chats.lookup contact = some chat → view (f chat) = view chat) :
    n.Keeps view (n.modifyChat contact f) := by
  intro other
  rw [lookup_modifyChat]
  by_cases here : other = contact
  · subst here
    rw [if_pos rfl]
    cases found : n.chats.lookup other with
    | none => rfl
    | some chat => simp [same chat found]
  · rw [if_neg here]

/-- What is seen of a chat afterwards was seen before. -/
theorem lookup {n n' : Node X} (keeps : n.Keeps view n') {contact : String} {chat : Chat X}
    (found : n.chats.lookup contact = some chat) :
    ∃ chat', n'.chats.lookup contact = some chat' ∧ view chat' = view chat := by
  have same := keeps contact
  rw [found] at same
  exact Option.map_eq_some_iff.mp same

/-- A coarser view is kept as well. -/
theorem coarser {γ : Type*} {n n' : Node X} (keeps : n.Keeps view n') (f : β → γ) :
    n.Keeps (fun chat => f (view chat)) n' := by
  intro contact
  have same := congrArg (Option.map f) (keeps contact)
  simpa [Option.map_map, Function.comp_def] using same

end Keeps

/-- An announcement that failed leaves the chats alone. -/
theorem applyAnnounced_failed_chats (n : Node X) (kind : Announce) (contact : String) (now : Nat) :
    (n.applyAnnounced kind contact false now).chats = n.chats := by
  cases kind with
  | block on | nearby seq => simp [applyAnnounced, retractAnnounced, apply_ite Node.chats]
  | burns | version | mailbox | address | relaySet | captures | upgradeNotice =>
    simp [applyAnnounced, retractAnnounced]

/-- A frame that is sent, held or given up leaves our relay list alone. -/
@[simp] theorem deliverWith_relays (n : Node X) (peerAddress contact : String)
    (frame : Frame X.OlmMessage) (fresh : Bool) (done : OutboundDone X) (now : Nat) :
    (n.deliverWith peerAddress contact frame fresh done now).relays = n.relays := by
  unfold deliverWith
  split
  · cases done with
    | announced kind id =>
      cases kind with
      | block on | nearby seq => simp [applyAnnounced, retractAnnounced, apply_ite Node.relays]
      | burns | version | mailbox | address | relaySet | captures | upgradeNotice =>
        simp [applyAnnounced, retractAnnounced]
    | nothing | caller _ | pendingControl _ | held _ | unconfirmed _ | cover => rfl
  · rfl

/-- A frame that is sent, held or given up leaves the chats alone. -/
@[simp] theorem deliverWith_chats (n : Node X) (peerAddress contact : String)
    (frame : Frame X.OlmMessage) (fresh : Bool) (done : OutboundDone X) (now : Nat) :
    (n.deliverWith peerAddress contact frame fresh done now).chats = n.chats := by
  unfold deliverWith
  split
  · cases done with
    | announced kind id => exact applyAnnounced_failed_chats n kind id now
    | nothing | caller _ | pendingControl _ | held _ | unconfirmed _ | cover => rfl
  · rfl

/-- A control frame is sealed on the session of its chat, and addressed to that chat. -/
theorem authedControl_eq {n n' : Node X} {contact address : String} {marker : Bytes}
    {kind : SealedKind} {frame : Frame X.OlmMessage}
    (did : n.authedControl contact marker kind = some (n', address, frame)) :
    ∃ chat session message, n.chats.lookup contact = some chat
      ∧ X.encrypt chat.session marker = some (session, message)
      ∧ n' = n.modifyChat contact (fun chat => { chat with session := session })
      ∧ address = chat.peerAddress ∧ frame = .sealed kind n.identityKey (.fromOlm message) := by
  unfold authedControl sealFor at did
  cases found : n.chats.lookup contact with
  | none => simp [found] at did
  | some chat =>
    cases encrypted : X.encrypt chat.session marker with
    | none => simp [found, encrypted] at did
    | some sealed =>
      obtain ⟨session, message⟩ := sealed
      simp only [found, encrypted, Option.bind_eq_bind, Option.bind_some, Option.pure_def,
        Option.some.injEq, Prod.mk.injEq] at did
      obtain ⟨rfl, rfl, rfl⟩ := did
      exact ⟨chat, session, message, rfl, encrypted, rfl, rfl, rfl⟩

/-- Sealing a control frame shows in no chat but by its session. -/
theorem authedControl_keeps (unsealed : Chat.Unsealed view) {n n' : Node X} {contact address : String}
    {marker : Bytes} {kind : SealedKind} {frame : Frame X.OlmMessage}
    (did : n.authedControl contact marker kind = some (n', address, frame)) : n.Keeps view n' := by
  obtain ⟨_, session, _, -, -, rfl, -, -⟩ := authedControl_eq did
  exact .modifyChat n contact _ fun chat _ => unsealed chat session

/-- An announcement shows in no chat but by its session. -/
theorem announce_keeps (unsealed : Chat.Unsealed view) (n : Node X) (contact : String)
    (kind : Announce) (carrier : SealedKind) (marker : Bytes) {raise : Node X → Node X} (now : Nat)
    (flags : ∀ n, (raise n).chats = n.chats) :
    n.Keeps view (n.announce contact kind carrier marker raise now) := by
  unfold announce
  split
  · exact .refl n
  · rename_i n1 address frame did
    refine (authedControl_keeps unsealed did).trans (.of_chats ?_)
    rw [deliverWith_chats, flags]

theorem announceBurnsTo_keeps (unsealed : Chat.Unsealed view) (n : Node X) (contact : String)
    (now : Nat) : n.Keeps view (n.announceBurnsTo contact now) :=
  announce_keeps unsealed n contact _ _ _ now fun _ => rfl

theorem announceVersionTo_keeps (unsealed : Chat.Unsealed view) (n : Node X) (contact : String)
    (now : Nat) : n.Keeps view (n.announceVersionTo contact now) := by
  unfold announceVersionTo
  split
  · exact .refl n
  · exact announce_keeps unsealed n contact _ _ _ now fun _ => rfl

theorem announceCapturesTo_keeps (unsealed : Chat.Unsealed view) (n : Node X) (contact : String)
    (now : Nat) : n.Keeps view (n.announceCapturesTo contact now) := by
  unfold announceCapturesTo
  split
  · exact .refl n
  · exact announce_keeps unsealed n contact _ _ _ now fun _ => rfl

theorem announceBlockTo_keeps (unsealed : Chat.Unsealed view) (n : Node X) (contact : String)
    (now : Nat) : n.Keeps view (n.announceBlockTo contact now) := by
  unfold announceBlockTo
  split
  · exact .refl n
  · exact announce_keeps unsealed n contact _ _ _ now fun _ => rfl

theorem announceRelaySetTo_keeps (unsealed : Chat.Unsealed view) (n : Node X) (contact : String)
    (now : Nat) : n.Keeps view (n.announceRelaySetTo contact now) := by
  unfold announceRelaySetTo
  simp only []
  split
  · exact .refl n
  · split
    · exact .refl n
    · exact announce_keeps unsealed n contact _ _ _ now fun _ => rfl

theorem announceStanding_keeps (unsealed : Chat.Unsealed view) (n : Node X) (contact : String)
    (now : Nat) : n.Keeps view (n.announceStanding contact now) :=
  (((announceCapturesTo_keeps unsealed n contact now).trans
    (announceBlockTo_keeps unsealed _ contact now)).trans
      (announceBurnsTo_keeps unsealed _ contact now)).trans
        (announceVersionTo_keeps unsealed _ contact now)

/-- The mailbox agreement shows only where the pair does. -/
theorem sendMailboxKey_keeps (unsealed : Chat.Unsealed view)
    (unpaired : ∀ (chat : Chat X) pair, view { chat with mailbox := pair } = view chat) (n : Node X)
    (contact : String) (fresh : Bytes) (now : Nat) :
    n.Keeps view (n.sendMailboxKey contact fresh now) := by
  unfold sendMailboxKey
  split
  · exact .refl n
  · split
    · exact .refl n
    · split
      · exact .refl n
      · simp only []
        generalize (Option.getD _ _ : MailboxPair) = pair
        have stored : n.Keeps view
            (n.modifyChat contact (fun chat => { chat with mailbox := some pair })) :=
          .modifyChat n contact _ fun chat _ => unpaired chat _
        split
        · exact stored.trans (.of_chats rfl)
        · rename_i n1 address frame did
          have sealed := authedControl_keeps unsealed did
          refine (stored.trans (.of_chats rfl)).trans (sealed.trans ?_)
          refine Keeps.trans ?_ (.of_chats (deliverWith_chats _ _ _ _ _ _ _))
          refine Keeps.trans (.modifyChat n1 contact (fun chat => { chat with
            mailbox := some { pair with
              confirmSent := pair.confirmSent
                || (pair.peer.map (X.confirmHash n.identityKey contact pair.own)).isSome } })
            fun chat _ => unpaired chat _) (.of_chats rfl)

/-- Handing out a key shows only where our key does. -/
theorem announceClientKey_keeps (unsealed : Chat.Unsealed view)
    (unkeyed : ∀ (chat : Chat X) key, view { chat with clientKey := key } = view chat) (n : Node X)
    (contact peerAddress : String) (minted : Option (String × Bytes)) (now : Nat) :
    n.Keeps view (n.announceClientKey contact peerAddress minted now) := by
  unfold announceClientKey
  split
  · exact .refl n
  · rename_i clientKey secret
    simp only []
    have stored : n.Keeps view
        (n.modifyChat contact (fun chat => { chat with clientKey := some secret })) :=
      .modifyChat n contact _ fun chat _ => unkeyed chat _
    split
    · exact stored.trans (.of_chats rfl)
    · rename_i n1 address frame did
      exact (stored.trans (.of_chats rfl)).trans ((authedControl_keeps unsealed did).trans
        (.of_chats (deliverWith_chats _ _ _ _ _ _ _)))

/-- A capture notice shows in no chat but by its session. -/
theorem sendCaptureNotice_keeps (unsealed : Chat.Unsealed view) (n : Node X) (contact : String)
    (marker : Bytes) (now : Nat) : n.Keeps view (n.sendCaptureNotice contact marker now) := by
  unfold sendCaptureNotice
  split
  · exact .refl n
  · rename_i n1 address frame did
    exact (authedControl_keeps unsealed did).trans (.of_chats rfl)

end Node

end Nightdrop
