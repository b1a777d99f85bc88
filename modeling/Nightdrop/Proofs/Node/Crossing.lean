import Nightdrop.Node.Crossing
import Nightdrop.Node.Symbolic
import Nightdrop.Proofs.Node.Keeps

/-! Joins that cross: which session each side ends up on, and when it is the same one. -/

namespace Nightdrop

variable {X : Externals}

namespace Node

/-- The chat with a contact goes on: more was sealed on its session, and its mailbox is the same. -/
def Evolves (contact : String) (n n' : Node X) : Prop :=
  ∀ chat, n.chats.lookup contact = some chat →
    ∃ chat', n'.chats.lookup contact = some chat' ∧ X.Seals chat.session chat'.session
      ∧ chat'.mailbox = chat.mailbox

namespace Evolves

variable {contact : String}

theorem refl (n : Node X) : n.Evolves contact n := fun chat found => ⟨chat, found, .refl, rfl⟩

theorem trans {a b c : Node X} (first : a.Evolves contact b) (second : b.Evolves contact c) :
    a.Evolves contact c := by
  intro chat found
  obtain ⟨chat1, found1, seals1, mailbox1⟩ := first chat found
  obtain ⟨chat2, found2, seals2, mailbox2⟩ := second chat1 found1
  exact ⟨chat2, found2, seals1.trans seals2, mailbox2.trans mailbox1⟩

theorem of_chats {n n' : Node X} (same : n'.chats = n.chats) : n.Evolves contact n' :=
  fun chat found => ⟨chat, by rw [same, found], .refl, rfl⟩

/-- A change of the chat that touches neither its session nor its mailbox. -/
theorem modifyChat (n : Node X) (f : Chat X → Chat X)
    (same : ∀ chat, (f chat).session = chat.session ∧ (f chat).mailbox = chat.mailbox) :
    n.Evolves contact (n.modifyChat contact f) := by
  intro chat found
  refine ⟨f chat, ?_, ?_, (same chat).2⟩
  · rw [lookup_modifyChat, if_pos rfl, found]
    rfl
  · rw [(same chat).1]

/-- A control frame for the contact is sealed on its session. -/
theorem authedControl {n n' : Node X} {address : String} {marker : Bytes} {kind : SealedKind}
    {frame : Frame X.OlmMessage}
    (did : n.authedControl contact marker kind = some (n', address, frame)) :
    n.Evolves contact n' := by
  obtain ⟨chat, session, message, found, sealed, rfl, -, -⟩ := authedControl_eq did
  intro chat' found'
  obtain rfl : chat = chat' := by simpa [found] using found'
  refine ⟨{ chat with session := session }, ?_, .single ⟨marker, message, sealed⟩, rfl⟩
  rw [lookup_modifyChat, if_pos rfl, found]
  rfl

theorem announce (n : Node X) (kind : Announce) (carrier : SealedKind) (marker : Bytes)
    {raise : Node X → Node X} (now : Nat) (flags : ∀ n, (raise n).chats = n.chats) :
    n.Evolves contact (n.announce contact kind carrier marker raise now) := by
  unfold Node.announce
  split
  · exact .refl n
  · rename_i n1 address frame did
    refine (Evolves.authedControl did).trans (.of_chats ?_)
    rw [deliverWith_chats, flags]

theorem announceRelaySetTo (n : Node X) (now : Nat) :
    n.Evolves contact (n.announceRelaySetTo contact now) := by
  unfold Node.announceRelaySetTo
  simp only []
  split
  · exact .refl n
  · split
    · exact .refl n
    · exact .announce n _ _ _ now fun _ => rfl

theorem announceStanding (n : Node X) (now : Nat) :
    n.Evolves contact (n.announceStanding contact now) := by
  -- Each of the four either has nothing to say or announces it.
  have captures (n : Node X) : n.Evolves contact (n.announceCapturesTo contact now) := by
    unfold Node.announceCapturesTo
    split
    · exact .refl n
    · exact .announce n _ _ _ now fun _ => rfl
  have block (n : Node X) : n.Evolves contact (n.announceBlockTo contact now) := by
    unfold Node.announceBlockTo
    split
    · exact .refl n
    · exact .announce n _ _ _ now fun _ => rfl
  have burns (n : Node X) : n.Evolves contact (n.announceBurnsTo contact now) :=
    .announce n _ _ _ now fun _ => rfl
  have version (n : Node X) : n.Evolves contact (n.announceVersionTo contact now) := by
    unfold Node.announceVersionTo
    split
    · exact .refl n
    · exact .announce n _ _ _ now fun _ => rfl
  exact (((captures n).trans (block _)).trans (burns _)).trans (version _)

theorem announceClientKey (n : Node X) (peerAddress : String) (minted : Option (String × Bytes))
    (now : Nat) : n.Evolves contact (n.announceClientKey contact peerAddress minted now) := by
  unfold Node.announceClientKey
  split
  · exact .refl n
  · rename_i clientKey secret
    simp only []
    have stored : n.Evolves contact
        (n.modifyChat contact (fun chat => { chat with clientKey := some secret })) :=
      .modifyChat n _ fun _ => ⟨rfl, rfl⟩
    split
    · exact stored.trans (.of_chats rfl)
    · rename_i n1 address frame did
      exact (stored.trans (.of_chats rfl)).trans ((Evolves.authedControl did).trans
        (.of_chats (deliverWith_chats ..)))

theorem applyPendingKeys (n : Node X) : n.Evolves contact (n.applyPendingKeys contact) := by
  unfold Node.applyPendingKeys
  split
  · exact .refl n
  · have applied : n.Evolves contact (n.modifyChat contact (fun chat =>
        { chat with
          peerKeyPending := none
          passPending := none
          clientKey := if chat.passPending.isSome then chat.passPending else chat.clientKey })) :=
      .modifyChat n _ fun _ => ⟨rfl, rfl⟩
    exact applied.trans (.of_chats rfl)

end Evolves

/-- A join leaves the chat on the session it opened, with its own seed for the mailbox. -/
theorem connectWithInvite_opens {n n' : Node X} {peerAddress : String} {bundle : PreKeyBundle}
    {extras : InviteExtras} {inputs : JoinInputs} {now : Nat} {s s' : X.Session}
    {message : X.OlmMessage} (opens : X.openOutbound n.account bundle = some s)
    (seals : X.encrypt s (X.writeHello (n.helloBody inputs)) = some (s', message))
    (joins : n.connectWithInvite peerAddress bundle extras inputs now = .ok n') :
    ∃ chat, n'.chats.lookup bundle.identityKey = some chat ∧ X.Seals s' chat.session
      ∧ chat.mailbox = some (.seeded inputs.mailboxSeed) := by
  unfold connectWithInvite at joins
  simp only [opens, seals] at joins
  split at joins
  · cases joins
  · cases joins
    generalize n.queueHello bundle.identityKey peerAddress message now = n1
    have keyed : ∀ (pass own : Option Bytes) (chat : Chat X),
        (setJoinKeys pass own chat).session = chat.session
          ∧ (setJoinKeys pass own chat).mailbox = chat.mailbox := by
      intro pass own chat
      cases pass <;> exact ⟨rfl, rfl⟩
    -- The chat adopts the session, or is opened on it; what follows only announces.
    have announced (n2 : Node X) (chat : Chat X)
        (found : n2.chats.lookup bundle.identityKey = some chat) (on : chat.session = s')
        (seeded : chat.mailbox = some (.seeded inputs.mailboxSeed)) :
        ∃ chat, (Node.announceStanding (if inputs.ownKey.isNone then
            n2.announceClientKey bundle.identityKey peerAddress inputs.minted now else n2)
            bundle.identityKey now).chats.lookup bundle.identityKey = some chat
          ∧ X.Seals s' chat.session ∧ chat.mailbox = some (.seeded inputs.mailboxSeed) := by
      have evolves : n2.Evolves bundle.identityKey (Node.announceStanding
          (if inputs.ownKey.isNone then
            n2.announceClientKey bundle.identityKey peerAddress inputs.minted now else n2)
          bundle.identityKey now) := by
        refine Evolves.trans ?_ (.announceStanding _ now)
        split
        · exact .announceClientKey n2 peerAddress _ now
        · exact .refl n2
      obtain ⟨chat', found', sealed, kept⟩ := evolves chat found
      exact ⟨chat', found', on ▸ sealed, kept.trans seeded⟩
    cases known : n1.chats.lookup bundle.identityKey with
    | some chat =>
      refine announced (n1.modifyChat bundle.identityKey
        (rejoined s' peerAddress extras n.myRelaySet inputs now))
        (rejoined s' peerAddress extras n.myRelaySet inputs now chat) ?_ (keyed _ _ _).1
        (keyed _ _ _).2
      rw [lookup_modifyChat, if_pos rfl, known]
      rfl
    | none =>
      exact announced
        { n1 with
          chats := n1.chats.insert bundle.identityKey
            (joined s' peerAddress extras n.myRelaySet inputs now) }
        (joined s' peerAddress extras n.myRelaySet inputs now) (AList.lookup_insert _)
        (keyed _ _ _).1 (keyed _ _ _).2

/-- An accepted `Hello` leaves the chat on the session it opened, with the seed in it for the
mailbox; what follows only announces. -/
theorem receiveHello_opens (n : Node X) {contact : String} {message : WireOlm X.OlmMessage}
    {olm : X.OlmMessage} {account : X.Account} {t : X.Session} {read : Bytes} {seed : Bytes}
    (readable : message.toOlm = some olm)
    (accepted : X.acceptInbound n.account contact olm = some (account, t, read))
    (seeded : ((X.readHello read).bind (·.mailbox)).bind X.decodeSecret = some seed)
    (fromAddress : Option String) (address : String) (inputs : PairingInputs) (now : Nat) :
    ∃ chat, (n.receiveHello fromAddress contact address message inputs now).1.chats.lookup contact
        = some chat ∧ X.Seals t chat.session ∧ chat.mailbox = some (.seeded seed) := by
  -- The chat is new, or a known one on its new session.
  have adopted (n : Node X) (peerAddress : String) :
      ∃ chat, (n.adoptHello contact peerAddress t (X.readHello read) now).chats.lookup contact
        = some chat ∧ chat.session = t ∧ chat.mailbox = some (.seeded seed) := by
    unfold adoptHello
    cases known : n.chats.lookup contact with
    | none =>
      refine ⟨_, AList.lookup_insert _, rfl, ?_⟩
      simp [greeted, seeded]
    | some prior =>
      -- The notice that follows touches neither the session nor the mailbox.
      have noted (n1 : Node X) (text : String) (opened : ∃ chat, n1.chats.lookup contact = some chat
          ∧ chat.session = t ∧ chat.mailbox = some (.seeded seed)) :
          ∃ chat, (n1.modifyChat contact (fun chat => { chat with
              history := chat.history ++ [.ofSystem text now] })).chats.lookup contact = some chat
            ∧ chat.session = t ∧ chat.mailbox = some (.seeded seed) := by
        obtain ⟨chat, found, on, held⟩ := opened
        refine ⟨{ chat with history := chat.history ++ [.ofSystem text now] }, ?_, on, held⟩
        rw [lookup_modifyChat, if_pos rfl, found]
        rfl
      have rekeyed : ∃ chat, (n.modifyChat contact (rekeyed t peerAddress (X.readHello read))).chats.lookup
          contact = some chat ∧ chat.session = t ∧ chat.mailbox = some (.seeded seed) := by
        refine ⟨rekeyed t peerAddress (X.readHello read) prior, ?_, rfl, ?_⟩
        · rw [lookup_modifyChat, if_pos rfl, known]
          rfl
        · simp [Node.rekeyed, seeded]
      refine noted _ _ ?_
      split
      · split
        · rw [deliverWith_chats]
          exact rekeyed
        · exact rekeyed
      · refine ⟨_, AList.lookup_insert _, rfl, ?_⟩
        simp [greeted, seeded]
  unfold receiveHello
  simp only [readable, accepted]
  generalize (if saneAddress address then address else fromAddress.getD "") = peerAddress
  obtain ⟨chat, found, on, held⟩ := adopted { n with account := account } peerAddress
  revert found
  generalize { n with account := account }.adoptHello contact peerAddress t
    (X.readHello read) now = n1
  intro found
  have keyed : n1.Evolves contact (if (n1.chats.lookup contact).any (·.authorized) then
      n1.applyPendingKeys contact else n1) := by
    split
    · exact .applyPendingKeys n1
    · exact .refl n1
  revert keyed
  generalize (if (n1.chats.lookup contact).any (·.authorized) then
    n1.applyPendingKeys contact else n1) = n2
  intro keyed
  have announced : n2.Evolves contact (if peerAddress ≠ ""
      && (((X.readHello read).bind (·.pass)).bind X.decodeSecret).isNone then
      n2.announceClientKey contact peerAddress inputs.minted now else n2) := by
    split
    · exact .announceClientKey n2 peerAddress _ now
    · exact .refl n2
  revert announced
  generalize (if peerAddress ≠ ""
      && (((X.readHello read).bind (·.pass)).bind X.decodeSecret).isNone then
      n2.announceClientKey contact peerAddress inputs.minted now else n2) = n3
  intro announced
  obtain ⟨chat3, found3, sealed3, kept3⟩ := (keyed.trans announced) chat found
  have held3 := kept3.trans held
  split
  · obtain ⟨chat4, found4, sealed4, kept4⟩ :=
      ((Evolves.announceStanding n3 now).trans (.announceRelaySetTo _ now)) chat3 found3
    have held4 := kept4.trans held3
    -- A seeded mailbox is agreed, so no agreement is sent.
    have agreed : ((n3.announceStanding contact now).announceRelaySetTo contact now).mailboxAgreed
        contact = true := by
      simp [mailboxAgreed, found4, held4, MailboxPair.seeded]
    simp only [agreed, if_true]
    exact ⟨chat4, found4, on ▸ sealed3.trans sealed4, held4⟩
  · exact ⟨chat3, found3, on ▸ sealed3, held3⟩

/-- Accepting a request seals announcements, if the chat stays. -/
theorem authorize_evolves {n n' : Node X} {contact : String} {now : Nat}
    (accepts : n.authorize contact true now = .ok n')
    (stays : (n'.chats.lookup contact).isSome = true) : n.Evolves contact n' := by
  unfold authorize at accepts
  cases found : n.chats.lookup contact with
  | none => simp [found] at accepts
  | some chat =>
    simp only [found, Bool.not_true, Bool.false_eq_true, if_false] at accepts
    split at accepts
    · cases accepts
    · split at accepts
      · cases accepts
        exact .refl n
      · split at accepts
        · -- The request is turned down, and the chat goes.
          cases accepts
          simp at stays
        · cases accepts
          have let' : n.Evolves contact
              (n.modifyChat contact (fun chat => { chat with authorized := true })) :=
            .modifyChat n _ fun _ => ⟨rfl, rfl⟩
          refine let'.trans ?_
          generalize n.modifyChat contact (fun chat => { chat with authorized := true }) = n1
          have told := (Evolves.applyPendingKeys n1).trans (.of_chats (deliverWith_chats
            (n1.applyPendingKeys contact) chat.peerAddress contact
            (.approved (n1.applyPendingKeys contact).identityKey (chat.code.getD "")) false
            (.caller none) now))
          exact (told.trans (.announceRelaySetTo _ now)).trans (.announceStanding _ now)

end Node

namespace Olm

variable (R : Olm X)

theorem seals_id {s t : X.Session} (seals : X.Seals s t) : R.id t = R.id s := by
  induction seals with
  | refl => rfl
  | tail _ sealed ih =>
    obtain ⟨plaintext, message, sealed⟩ := sealed
    exact (R.seal_id sealed).trans ih

theorem uses_id {s t : X.Session} (uses : X.Uses s t) : R.id t = R.id s := by
  induction uses with
  | refl => rfl
  | tail _ used ih =>
    rcases used with ⟨plaintext, message, sealed⟩ | ⟨message, plaintext, opened⟩
    · exact (R.seal_id sealed).trans ih
    · exact (R.open_id opened).trans ih

theorem linked_seals {s s' t : X.Session} (linked : R.Linked s t) (seals : X.Seals s s') :
    R.Linked s' t := by
  induction seals with
  | refl => exact linked
  | tail _ sealed ih =>
    obtain ⟨plaintext, message, sealed⟩ := sealed
    exact R.linked_seal ih sealed

/-- What was sealed on one session opens on no other. -/
theorem opens_own {s s' t : X.Session} {message : X.OlmMessage} {plaintext : Bytes}
    (sealed : X.SealedOn t message) (opened : X.decrypt s message = some (s', plaintext)) :
    R.id t = R.id s := by
  obtain ⟨before, after, said, encrypted, uses⟩ := sealed
  by_contra other
  have apart : R.id before ≠ R.id s := by
    rw [← R.seal_id encrypted, ← R.uses_id uses]
    exact other
  rw [R.foreign apart encrypted] at opened
  cases opened

end Olm

namespace Joiner

/-- The chat with the other user goes on: more was sealed on its session, or something the other
sealed was opened on it. -/
def Moves (a b : Joiner X) (n : Node X) : Prop :=
  (∀ chat, a.chat b = some chat → ∃ chat', n.chats.lookup b.name = some chat'
    ∧ chat'.contributions = chat.contributions
    ∧ (X.Seals chat.session chat'.session
      ∨ ∃ message plaintext, b.Sealed a message
        ∧ X.decrypt chat.session message = some (chat'.session, plaintext)))
  ∧ (a.chat b = none → n.chats.lookup b.name = none)

/-- One of the two's own join and what became of it: its session is a new one, on which it stays
until it hears the other, and which the other takes over on hearing of it. -/
structure Sound (R : Olm X) (a b : Joiner X) : Prop where
  waits : a.offer = none → b.heard = false ∧ a.ownLast = false
  early : a.heardFirst = true → a.heard = true
  last : a.offer ≠ none → a.heard = true → a.ownLast = a.heardFirst
  first : a.heardFirst = true → a.offer ≠ none ∧ b.offer ≠ none ∧ b.heardFirst = false
  apart : ∀ offer offer', a.offer = some offer → b.offer = some offer' →
    R.id offer.session ≠ R.id offer'.session
  made : ∀ offer, a.offer = some offer → ∃ account bundle s plaintext,
    X.openOutbound account bundle = some s
      ∧ X.encrypt s plaintext = some (offer.session, offer.message)
      ∧ ((X.readHello plaintext).bind (·.mailbox)).bind X.decodeSecret = some offer.seed
  own : ∀ offer, a.offer = some offer → a.ownLast = true →
    (∀ u ∈ a.past, R.id u ≠ R.id offer.session)
      ∧ ∃ chat, a.chat b = some chat ∧ R.id chat.session = R.id offer.session
        ∧ chat.contributions = some (offer.seed, some offer.seed)
        ∧ (b.heard = false → X.Seals offer.session chat.session)
  unheard : ∀ offer, a.offer = some offer → b.heard = false →
    ∀ u ∈ b.sessions a, R.id u ≠ R.id offer.session
  heard : ∀ offer, a.offer = some offer → b.heard = true → b.ownLast = false →
    (∀ u ∈ b.past, R.id u ≠ R.id offer.session)
      ∧ ∃ chat, b.chat a = some chat ∧ R.id chat.session = R.id offer.session
        ∧ chat.contributions = some (offer.seed, some offer.seed)
        ∧ (a.ownLast = true → ∀ mine, a.chat b = some mine → R.Linked mine.session chat.session)

variable {R : Olm X} {a b a' : Joiner X}

/-- A chat that goes on stays on its session. -/
theorem Moves.id {n : Node X} (moves : a.Moves b n) {chat : Chat X} (found : a.chat b = some chat) :
    ∃ chat', n.chats.lookup b.name = some chat' ∧ R.id chat'.session = R.id chat.session
      ∧ chat'.contributions = chat.contributions := by
  obtain ⟨chat', found', kept, how⟩ := moves.1 chat found
  refine ⟨chat', found', ?_, kept⟩
  rcases how with seals | ⟨message, plaintext, _, opened⟩
  · exact R.seals_id seals
  · exact R.open_id opened

/-- The sessions of one whose chat goes on are those it had, as far as their names go. -/
theorem Moves.sessions {n : Node X} (moves : a.Moves b n) {u : X.Session}
    (member : u ∈ ({ a with node := n } : Joiner X).sessions b) :
    ∃ s ∈ a.sessions b, R.id u = R.id s := by
  rcases List.mem_append.mp member with old | here
  · exact ⟨u, List.mem_append_left _ old, rfl⟩
  · cases found : a.chat b with
    | none =>
      have gone : n.chats.lookup b.name = none := moves.2 found
      simp [current, Joiner.chat, gone] at here
    | some chat =>
      obtain ⟨chat', found', same, -⟩ := moves.id (R := R) found
      have named : u = chat'.session := by simpa [current, Joiner.chat, found'] using here
      refine ⟨chat.session, List.mem_append_right _ ?_, by rw [named, same]⟩
      simp [current, found]

/-- Its owner's chat goes on, and so does what became of the join. -/
theorem Sound.owner_moves {n : Node X} (sound : a.Sound R b) (moves : a.Moves b n) :
    ({ a with node := n } : Joiner X).Sound R b where
  waits := sound.waits
  early := sound.early
  last := sound.last
  first := sound.first
  apart := sound.apart
  made := sound.made
  own := by
    intro offer offered own
    obtain ⟨past, chat, found, named, held, sealed⟩ := sound.own offer offered own
    obtain ⟨chat', found', kept, how⟩ := moves.1 chat found
    refine ⟨past, chat', found', ?_, kept.trans held, fun unheard => ?_⟩
    · rcases how with seals | ⟨message, plaintext, _, opened⟩
      · exact (R.seals_id seals).trans named
      · exact (R.open_id opened).trans named
    · -- Before the other hears of the join, nothing it seals opens on the new session.
      rcases how with seals | ⟨message, plaintext, ⟨u, member, on⟩, opened⟩
      · exact (sealed unheard).trans seals
      · exact absurd ((R.opens_own on opened).trans named) (sound.unheard offer offered unheard u member)
  unheard := sound.unheard
  heard := by
    intro offer offered heard theirs
    obtain ⟨past, chat, found, named, held, linked⟩ := sound.heard offer offered heard theirs
    refine ⟨past, chat, found, named, held, fun own mine' here => ?_⟩
    cases was : a.chat b with
    | none =>
      have gone : n.chats.lookup b.name = none := moves.2 was
      have there : n.chats.lookup b.name = some mine' := here
      rw [gone] at there
      cases there
    | some mine =>
      obtain ⟨mine1, found1, _, how⟩ := moves.1 mine was
      obtain rfl : mine1 = mine' := Option.some.inj (found1.symm.trans here)
      have link := linked own mine was
      rcases how with seals | ⟨message, plaintext, ⟨u, member, on⟩, opened⟩
      · exact R.linked_seals link seals
      · -- What opens was sealed on the session they share, not on one before it.
        rcases List.mem_append.mp member with old | current
        · have same := ((R.opens_own on opened).trans (R.linked_id link)).trans named
          exact absurd same (past u old)
        · have here : u = chat.session := by simpa [Joiner.current, found] using current
          subst here
          exact R.linked_open link on opened

/-- The other's chat goes on, and so does what became of the join. -/
theorem Sound.other_moves {n : Node X} (sound : b.Sound R a) (moves : a.Moves b n) :
    b.Sound R ({ a with node := n } : Joiner X) where
  waits := sound.waits
  early := sound.early
  last := sound.last
  first := sound.first
  apart := sound.apart
  made := sound.made
  own := sound.own
  unheard := by
    intro offer offered unheard u member
    obtain ⟨s, was, same⟩ := moves.sessions (R := R) member
    rw [same]
    exact sound.unheard offer offered unheard s was
  heard := by
    intro offer offered heard theirs
    obtain ⟨past, chat, found, named, held, linked⟩ := sound.heard offer offered heard theirs
    obtain ⟨chat', found', kept, how⟩ := moves.1 chat found
    refine ⟨past, chat', found', ?_, kept.trans held, fun own mine here => ?_⟩
    · rcases how with seals | ⟨message, plaintext, _, opened⟩
      · exact (R.seals_id seals).trans named
      · exact (R.open_id opened).trans named
    · have link := R.linked_symm (linked own mine here)
      rcases how with seals | ⟨message, plaintext, ⟨u, member, on⟩, opened⟩
      · exact R.linked_symm (R.linked_seals link seals)
      · rcases List.mem_append.mp member with old | current
        · have same := (R.opens_own on opened).trans named
          exact absurd same ((sound.own offer offered own).1 u old)
        · have same : u = mine.session := by
            have there : b.chat a = some mine := here
            simpa [Joiner.current, there] using current
          subst same
          exact R.linked_symm (R.linked_open link on opened)

/-- A session just offered is none of those there were. -/
theorem offered_new {s s' : X.Session} {plaintext : Bytes} {message : X.OlmMessage}
    (seals : X.encrypt s plaintext = some (s', message))
    (new : ∀ t ∈ a.sessions b ++ a.offered ++ (b.sessions a ++ b.offered), R.id t ≠ R.id s) :
    (∀ t ∈ a.sessions b, R.id t ≠ R.id s') ∧ (∀ t ∈ b.sessions a, R.id t ≠ R.id s')
      ∧ ∀ offer, b.offer = some offer → R.id offer.session ≠ R.id s' := by
  rw [R.seal_id seals]
  refine ⟨fun t member => new t ?_, fun t member => new t ?_, fun offer offered => new _ ?_⟩
  · simp [member]
  · simp [member]
  · simp [Joiner.offered, offered]

/-- A join is its owner's own. -/
theorem Sound.owner_joins {peerAddress : String} {bundle : PreKeyBundle} {extras : InviteExtras}
    {inputs : JoinInputs} {now : Nat} {n : Node X} {s s' : X.Session} {message : X.OlmMessage}
    (mine : a.Sound R b) (theirs : b.Sound R a) (once : a.offer = none)
    (whose : bundle.identityKey = b.name)
    (opens : X.openOutbound a.node.account bundle = some s)
    (seals : X.encrypt s (X.writeHello (a.node.helloBody inputs)) = some (s', message))
    (legible : ((X.readHello (X.writeHello (a.node.helloBody inputs))).bind (·.mailbox)).bind
      X.decodeSecret = some inputs.mailboxSeed)
    (new : ∀ t ∈ a.sessions b ++ a.offered ++ (b.sessions a ++ b.offered), R.id t ≠ R.id s)
    (joins : a.node.connectWithInvite peerAddress bundle extras inputs now = .ok n) :
    ({ a with
      node := n
      past := a.sessions b
      offer := some ⟨s', message, inputs.mailboxSeed⟩
      heardFirst := a.heard
      ownLast := true } : Joiner X).Sound R b := by
  obtain ⟨newMine, newTheirs, newOffer⟩ := offered_new seals new
  obtain ⟨chat, found, sealed, seeded⟩ := Node.connectWithInvite_opens opens seals joins
  rw [whose] at found
  refine ⟨fun none => by simp at none, id, fun _ heard => heard.symm, fun heard => ?_, ?_, ?_, ?_, ?_, ?_⟩
  · -- What was heard is a join of the other, who then had not heard of ours.
    refine ⟨by simp, fun none => ?_, ?_⟩
    · have unheard := (theirs.waits none).1
      rw [show a.heard = true from heard] at unheard
      cases unheard
    · by_contra crossed
      exact (theirs.first (by simpa using crossed)).2.1 once
  · rintro offer offer' ⟨⟩ offered'
    exact (newOffer offer' offered').symm
  · rintro offer ⟨⟩
    exact ⟨_, _, _, _, opens, seals, legible⟩
  · rintro offer ⟨⟩ _
    refine ⟨newMine, chat, found, R.seals_id sealed, ?_, fun _ => sealed⟩
    simp [Chat.contributions, seeded, MailboxPair.seeded]
  · rintro offer ⟨⟩ _ u member
    exact newTheirs u member
  · rintro offer ⟨⟩ heard _
    have unheard := (mine.waits once).1
    rw [show b.heard = true from heard] at unheard
    cases unheard

/-- A join replaces the session the other's join may have made. -/
theorem Sound.other_joins {peerAddress : String} {bundle : PreKeyBundle} {extras : InviteExtras}
    {inputs : JoinInputs} {now : Nat} {n : Node X} {s s' : X.Session} {message : X.OlmMessage}
    (theirs : b.Sound R a) (once : a.offer = none) (whose : bundle.identityKey = b.name)
    (opens : X.openOutbound a.node.account bundle = some s)
    (seals : X.encrypt s (X.writeHello (a.node.helloBody inputs)) = some (s', message))
    (new : ∀ t ∈ a.sessions b ++ a.offered ++ (b.sessions a ++ b.offered), R.id t ≠ R.id s)
    (joins : a.node.connectWithInvite peerAddress bundle extras inputs now = .ok n) :
    b.Sound R ({ a with
      node := n
      past := a.sessions b
      offer := some ⟨s', message, inputs.mailboxSeed⟩
      heardFirst := a.heard
      ownLast := true } : Joiner X) := by
  obtain ⟨_, _, newOffer⟩ := offered_new seals new
  obtain ⟨chat, found, sealed, seeded⟩ := Node.connectWithInvite_opens opens seals joins
  rw [whose] at found
  refine ⟨theirs.waits, theirs.early, theirs.last,
    fun first => absurd once (theirs.first first).2.1, ?_, theirs.made, theirs.own, ?_, ?_⟩
  · rintro offer offer' offered ⟨⟩
    exact newOffer offer offered
  · intro offer offered unheard u member
    rcases List.mem_append.mp member with old | current
    · exact theirs.unheard offer offered unheard u old
    · have named : u = chat.session := by simpa [Joiner.current, Joiner.chat, found] using current
      rw [named, R.seals_id sealed]
      exact (newOffer offer offered).symm
  · intro offer _ _ heard
    cases heard

/-- Hearing of the other's join replaces the session of one's own. -/
theorem Sound.owner_hears {n : Node X} (mine : a.Sound R b) (once : a.heard = false) :
    ({ a with node := n, past := a.sessions b, heard := true, ownLast := false } : Joiner X).Sound
      R b where
  waits := fun none => ⟨(mine.waits none).1, rfl⟩
  early := fun _ => rfl
  last := by
    intro _ _
    have late : a.heardFirst ≠ true := fun first => by simp [mine.early first] at once
    simpa using late.symm
  first := fun first => mine.first first
  apart := mine.apart
  made := mine.made
  own := fun _ _ own => by cases own
  unheard := mine.unheard
  heard := by
    intro offer offered heard theirs
    obtain ⟨past, chat, found, named, held, -⟩ := mine.heard offer offered heard theirs
    exact ⟨past, chat, found, named, held, fun own => by cases own⟩

/-- Hearing of the other's join makes the other end of its session. -/
theorem Sound.other_hears {offer : Offer X} {account : X.Account} {t : X.Session} {read : Bytes}
    (theirs : b.Sound R a) (offered : b.offer = some offer) (once : a.heard = false)
    (accepted : X.acceptInbound a.node.account b.name offer.message = some (account, t, read))
    (fromAddress : Option String) (address : String) (inputs : Node.PairingInputs) (now : Nat) :
    b.Sound R ({ a with
      node := (a.node.receiveHello fromAddress b.name address (.fromOlm offer.message) inputs now).1
      past := a.sessions b
      heard := true
      ownLast := false } : Joiner X) := by
  obtain ⟨account', bundle, s, plaintext, opens, seals, legible⟩ := theirs.made offer offered
  obtain ⟨rfl, link⟩ := R.accepted opens seals accepted
  have readable : (WireOlm.fromOlm offer.message).toOlm = some offer.message := rfl
  obtain ⟨chat, found, sealed, seeded⟩ := Node.receiveHello_opens a.node readable accepted legible
    fromAddress address inputs now
  refine ⟨fun none => ?_, theirs.early, theirs.last, fun first => theirs.first first, theirs.apart,
    theirs.made, ?_, ?_, ?_⟩
  · rw [offered] at none
    cases none
  · intro other offered' own
    obtain ⟨past, chat', found', named, held, -⟩ := theirs.own other offered' own
    exact ⟨past, chat', found', named, held, fun unheard => by cases unheard⟩
  · intro _ _ unheard
    cases unheard
  · intro other offered' _ _
    obtain rfl : offer = other := Option.some.inj (offered.symm.trans offered')
    refine ⟨theirs.unheard offer offered once, chat, found, ?_, ?_, fun own mine here => ?_⟩
    · exact (R.seals_id sealed).trans (R.linked_id link).symm
    · simp [Chat.contributions, seeded, MailboxPair.seeded]
    · -- The joiner only sealed on its session since, and so did this side on the other end.
      obtain ⟨_, mine', found', _, _, since⟩ := theirs.own offer offered own
      obtain rfl : mine' = mine := Option.some.inj (found'.symm.trans here)
      exact R.linked_symm (R.linked_seals
        (R.linked_symm (R.linked_seals link (since once))) sealed)

/-- What is sealed, opened, accepted or done aside moves the chat on. -/
theorem Acts.sound {event : CrossEvent} (taken : a.Acts R b event a') (mine : a.Sound R b)
    (theirs : b.Sound R a) : a'.Sound R b ∧ b.Sound R a' := by
  have moved {n : Node X} (moves : a.Moves b n) :
      ({ a with node := n } : Joiner X).Sound R b ∧ b.Sound R ({ a with node := n } : Joiner X) :=
    ⟨mine.owner_moves moves, theirs.other_moves moves⟩
  cases taken with
  | join once whose opens seals legible new joins =>
    exact ⟨mine.owner_joins theirs once whose opens seals legible new joins,
      theirs.other_joins once whose opens seals new joins⟩
  | hear offered once accepted =>
    exact ⟨mine.owner_hears once, theirs.other_hears offered once accepted _ _ _ _⟩
  | accept accepts stays =>
    refine moved ⟨fun chat found => ?_, fun gone => ?_⟩
    · obtain ⟨chat', found', sealed, kept⟩ := Node.authorize_evolves accepts stays chat found
      exact ⟨chat', found', by simp [Chat.contributions, kept], Or.inl sealed⟩
    · have absent : a.node.chats.lookup b.name = none := gone
      simp [Node.authorize, absent] at accepts
  | seals here sealed kept there =>
    refine moved ⟨fun chat found => ?_, fun gone => ?_⟩
    · obtain rfl := Option.some.inj (here.symm.trans found)
      exact ⟨_, there, kept, Or.inl (.single ⟨_, _, sealed⟩)⟩
    · rw [here] at gone
      cases gone
  | opens here genuine opened kept there =>
    refine moved ⟨fun chat found => ?_, fun gone => ?_⟩
    · obtain rfl := Option.some.inj (here.symm.trans found)
      exact ⟨_, there, kept, Or.inr ⟨_, _, genuine, opened⟩⟩
    · rw [here] at gone
      cases gone
  | aside kept =>
    refine moved ⟨fun chat found => ?_, fun gone => ?_⟩
    · rw [found] at kept
      obtain ⟨chat', found', same⟩ := Option.map_eq_some_iff.mp kept
      have session := congrArg Prod.fst same
      have contributions := congrArg Prod.snd same
      simp only [] at session contributions
      exact ⟨chat', found', contributions, Or.inl (by rw [session])⟩
    · rw [gone] at kept
      simpa using kept

end Joiner

namespace Crossing

variable {R : Olm X} {w w' start : Crossing X}

/-- Both joins and what became of them. -/
def Sound (R : Olm X) (w : Crossing X) : Prop :=
  ∀ side, (w.of side).Sound R (w.of side.other)

/-- Nothing has become of joins that were not made. -/
theorem Begins.sound (begins : w.Begins) : w.Sound R := by
  intro side
  obtain ⟨bare, unheard, early, own, _⟩ := begins side
  have theirs := begins side.other
  refine ⟨fun _ => ⟨theirs.2.1, own⟩, fun first => ?_, fun joined => absurd bare joined,
    fun first => ?_, ?_, ?_, ?_, ?_, ?_⟩
  · simp [early] at first
  · simp [early] at first
  all_goals
    intro offer
    rw [bare]
    simp

theorem of_set_same (w : Crossing X) (side : Side) (me : Joiner X) : (w.set side me).of side = me := by
  cases side <;> rfl

theorem of_set_other (w : Crossing X) (side : Side) (me : Joiner X) :
    (w.set side me).of side.other = w.of side.other := by
  cases side <;> rfl

/-- One step keeps both joins sound. -/
theorem Sound.step {event : Side × CrossEvent} (sound : w.Sound R) (taken : w.Step R event w') :
    w'.Sound R := by
  obtain ⟨side, what⟩ := event
  obtain ⟨me, acts, rfl⟩ := taken
  have theirs := sound side.other
  have back : side.other.other = side := by cases side <;> rfl
  rw [back] at theirs
  obtain ⟨mine', theirs'⟩ := acts.sound (sound side) theirs
  intro other
  -- The step is one side's, and both joins are looked at from either side.
  have whose : other = side ∨ other = side.other := by cases other <;> cases side <;> simp [Side.other]
  rcases whose with rfl | rfl
  · rw [of_set_same, of_set_other]
    exact mine'
  · rw [back, of_set_same, of_set_other]
    exact theirs'

/-- Every run keeps both joins sound. -/
theorem run_sound (begins : start.Begins) (run : Reach start (Step R) w) : w.Sound R :=
  Reach.invariant (P := Sound R) begins.sound (fun _ _ _ _ sound taken => sound.step taken) run

/-- Where one side joined last and the other heard last, both are on the session of that join. -/
theorem Sound.meets (sound : w.Sound R) (done : w.Done) {side : Side}
    (own : (w.of side).ownLast = true) (heard : (w.of side.other).ownLast = false) :
    ∃ mine theirs seed, (w.of side).chat (w.of side.other) = some mine
      ∧ (w.of side.other).chat (w.of side) = some theirs ∧ R.Linked mine.session theirs.session
      ∧ mine.contributions = some (seed, some seed)
      ∧ theirs.contributions = some (seed, some seed) := by
  obtain ⟨offer, offered⟩ := Option.isSome_iff_exists.mp (done side).1
  obtain ⟨_, mine, found, _, held, _⟩ := (sound side).own offer offered own
  obtain ⟨_, theirs, found', _, held', linked⟩ :=
    (sound side).heard offer offered (done side.other).2 heard
  exact ⟨mine, theirs, offer.seed, found, found', linked own mine found, held, held'⟩

/-- One of the two had heard of the other's join before it joined itself. -/
def OneFirst (w : Crossing X) : Prop := ∃ side, (w.of side).heardFirst = true

/--
Once both joined and both heard of it, they read each other and share a mailbox if one of them had
heard of the other's join before its own; if the joins truly crossed, neither reads the other.
-/
theorem crossing_settles (R : Olm X) {start w : Crossing X} (begins : start.Begins)
    (run : Reach start (Step R) w) (done : w.Done) :
    (w.OneFirst → w.Readable ∧ w.SameMailbox) ∧ (¬ w.OneFirst → w.Parted) := by
  have sound := run_sound begins run
  have joined (side : Side) : (w.of side).offer ≠ none := by
    intro none
    have offered := (done side).1
    rw [none] at offered
    cases offered
  have last (side : Side) : (w.of side).ownLast = (w.of side).heardFirst :=
    (sound side).last (joined side) (done side).2
  have back (side : Side) : side.other.other = side := by cases side <;> rfl
  refine ⟨fun ⟨side, first⟩ => ?_, fun crossed => ?_⟩
  · -- The one who joined last is on its own session, and the other on the other end of it.
    obtain ⟨mine, theirs, seed, found, found', linked, held, held'⟩ := sound.meets done
      ((last side).trans first) ((last side.other).trans ((sound side).first first).2.2)
    refine ⟨fun other => ?_, seed, fun other => ?_⟩
    · have whose : other = side ∨ other = side.other := by
        cases other <;> cases side <;> simp [Side.other]
      rcases whose with rfl | rfl
      · exact ⟨mine, theirs, found, found', fun _ _ _ sealed => R.linked_reads linked sealed⟩
      · rw [back]
        exact ⟨theirs, mine, found', found,
          fun _ _ _ sealed => R.linked_reads (R.linked_symm linked) sealed⟩
    · have whose : other = side ∨ other = side.other := by
        cases other <;> cases side <;> simp [Side.other]
      rcases whose with rfl | rfl
      · rw [found]
        exact congrArg some held
      · rw [back, found']
        exact congrArg some held'
  · intro side mine theirs here there plaintext s message sealed
    have theirsLast (side : Side) : (w.of side).ownLast = false := by
      rw [last side]
      by_contra first
      exact crossed ⟨side, by simpa using first⟩
    obtain ⟨offer, offered⟩ := Option.isSome_iff_exists.mp (done side).1
    obtain ⟨offer', offered'⟩ := Option.isSome_iff_exists.mp (done side.other).1
    -- Each is on the session of the other's join.
    obtain ⟨_, theirs', found', named', _⟩ :=
      (sound side).heard offer offered (done side.other).2 (theirsLast side.other)
    have other := sound side.other
    rw [back] at other
    obtain ⟨_, mine', found, named, _⟩ := other.heard offer' offered' (done side).2 (theirsLast side)
    obtain rfl := Option.some.inj (found.symm.trans here)
    obtain rfl := Option.some.inj (found'.symm.trans there)
    refine R.foreign ?_ sealed
    rw [named, named']
    exact ((sound side).apart offer offer' offered offered').symm

end Crossing

namespace Symbolic

/-- Uses of a symbolic session only count up. -/
theorem used_le {s t : Session} (uses : symbolic.Uses s t) : s.used ≤ t.used := by
  induction uses with
  | refl => exact le_rfl
  | tail _ used ih =>
    rename_i before after _
    rcases used with ⟨plaintext, message, sealed⟩ | ⟨message, plaintext, opened⟩
    · cases sealed
      exact ih.trans (Nat.le_succ _)
    · have opens : decrypt before message = some (after, plaintext) := opened
      unfold decrypt at opens
      split at opens
      · cases opens
        exact ih
      · cases opens

/-- The two ends of a symbolic session: neither has opened what the other is still to seal. -/
def Linked (s t : Session) : Prop :=
  s.pairing = t.pairing ∧ s.opener ≠ t.opener ∧ (∀ i ∈ s.opened, i < t.used)
    ∧ ∀ i ∈ t.opened, i < s.used

/-- The symbolic sessions do what is relied on. -/
def olm : Olm symbolic where
  id := fun s : Session => s.pairing
  Linked := fun s t : Session => Linked s t
  linked_symm := fun linked => ⟨linked.1.symm, linked.2.1.symm, linked.2.2.2, linked.2.2.1⟩
  linked_id := fun linked => linked.1
  seal_id := fun sealed => by
    cases sealed
    rfl
  open_id := fun {s t plaintext message} opened => by
    have opens : decrypt s message = some (t, plaintext) := opened
    unfold decrypt at opens
    split at opens
    · cases opens
      rfl
    · cases opens
  linked_seal := fun linked sealed => by
    cases sealed
    exact ⟨linked.1, linked.2.1, linked.2.2.1, fun i member => (linked.2.2.2 i member).trans
      (Nat.lt_succ_self _)⟩
  linked_open := fun {s s' t plaintext message} linked genuine opened => by
    obtain ⟨before, after, said, sealed, uses⟩ := genuine
    have opens : decrypt s message = some (s', plaintext) := opened
    have later := used_le uses
    cases sealed
    unfold decrypt at opens
    split at opens
    · cases opens
      refine ⟨linked.1, linked.2.1, fun i member => ?_, linked.2.2.2⟩
      rcases List.mem_cons.mp member with rfl | old
      · exact later
      · exact linked.2.2.1 i old
    · cases opens
  linked_reads := fun {s s' t plaintext message} linked sealed => by
    cases sealed
    have unread : (s : Session).used ∉ (t : Session).opened :=
      fun member => absurd (linked.2.2.2 _ member) (lt_irrefl _)
    refine ⟨({ (t : Session) with opened := (s : Session).used :: (t : Session).opened } : Session), ?_⟩
    show decrypt t ⟨(s : Session).pairing, (s : Session).opener, (s : Session).used, plaintext⟩ = _
    unfold decrypt
    rw [if_pos ⟨linked.1, linked.2.1, unread⟩]
    rfl
  foreign := fun {s s' t plaintext message} apart sealed => by
    cases sealed
    show decrypt t ⟨(s : Session).pairing, (s : Session).opener, (s : Session).used, plaintext⟩ = _
    unfold decrypt
    rw [if_neg (fun both => apart both.1)]
    rfl
  accepted := fun {account bundle s s' plaintext message account' contact account'' t read} opens
      sealed accepts => by
    cases opens
    cases sealed
    have makes : accept account' ⟨bundle.oneTimeKey, true, 0, plaintext⟩
      = some (account'', t, read) := accepts
    unfold accept at makes
    split at makes
    · cases makes
      refine ⟨rfl, rfl, ?_, by simp, by simp⟩
      show true ≠ false
      decide
    · cases makes

/-- Two devices that published a key each and do not know each other. -/
def inviter (name key : String) : Joiner symbolic where
  node := { identityKey := name, account := ([key] : Account), address := name ++ ".onion" }
  name := name

/-- What a join puts into the mailbox. -/
def seeding (byte : UInt8) : JoinInputs := { mailboxSeed := List.replicate 32 byte }

/-- The user joins the other's invite, which has this key in it. -/
def afterJoin (me them : Joiner symbolic) (key : String) (byte : UInt8) : Joiner symbolic :=
  let first := encrypt { pairing := key, opener := true }
    (symbolic.writeHello (me.node.helloBody (seeding byte)))
  { me with
    node := (me.node.connectWithInvite (them.name ++ ".onion") ⟨them.name, key⟩ {} (seeding byte)
      10).toOption.getD me.node
    past := me.sessions them
    offer := some ⟨first.1, first.2, List.replicate 32 byte⟩
    heardFirst := me.heard
    ownLast := true }

/-- The other user's `Hello` arrives. -/
def afterHear (me them : Joiner symbolic) : Joiner symbolic :=
  match them.offer with
  | none => me
  | some offer =>
    { me with
      node := (me.node.receiveHello none them.name (them.name ++ ".onion")
        (.fromOlm offer.message) {} 20).1
      past := me.sessions them
      heard := true
      ownLast := false }

/-- Whether the join goes through, under a key no session has used. -/
def mayJoin (me them : Joiner symbolic) (key : String) (byte : UInt8) : Bool :=
  me.offer.isNone
    && (me.node.connectWithInvite (them.name ++ ".onion") ⟨them.name, key⟩ {} (seeding byte)
      10).toOption.isSome
    && ((symbolic.readHello (symbolic.writeHello (me.node.helloBody (seeding byte)))).bind
      (·.mailbox)).bind symbolic.decodeSecret = some (List.replicate 32 byte)
    && (me.sessions them ++ me.offered ++ (them.sessions me ++ them.offered)).all
      (fun t : Session => t.pairing ≠ key)

/-- Whether the other's `Hello` is accepted. -/
def mayHear (me them : Joiner symbolic) : Bool :=
  !me.heard && them.offer.any (fun offer => (accept me.node.account offer.message).isSome)

def joins (side : Side) (key : String) (byte : UInt8) (w : Crossing symbolic) : Crossing symbolic :=
  w.set side (afterJoin (w.of side) (w.of side.other) key byte)

def hears (side : Side) (w : Crossing symbolic) : Crossing symbolic :=
  w.set side (afterHear (w.of side) (w.of side.other))

theorem joins_reach {start w : Crossing symbolic} (run : Reach start (Crossing.Step olm) w)
    (side : Side) (key : String) (byte : UInt8)
    (may : mayJoin (w.of side) (w.of side.other) key byte = true) :
    Reach start (Crossing.Step olm) (joins side key byte w) := by
  generalize these : w.of side = me at may
  generalize those : w.of side.other = them at may
  simp only [mayJoin, Bool.and_eq_true, decide_eq_true_eq] at may
  obtain ⟨⟨⟨once, through⟩, legible⟩, unused⟩ := may
  have new : ∀ t ∈ me.sessions them ++ me.offered ++ (them.sessions me ++ them.offered),
      olm.id t ≠ key := by
    intro t member
    exact of_decide_eq_true (List.all_eq_true.mp unused t member)
  have joined : me.node.connectWithInvite (them.name ++ ".onion") ⟨them.name, key⟩ {} (seeding byte)
      10 = .ok ((me.node.connectWithInvite (them.name ++ ".onion") ⟨them.name, key⟩ {}
        (seeding byte) 10).toOption.getD me.node) := by
    revert through
    generalize me.node.connectWithInvite (them.name ++ ".onion") ⟨them.name, key⟩ {}
      (seeding byte) 10 = outcome
    intro through
    cases outcome with
    | error reason => cases through
    | ok n => rfl
  refine .step (side, .join) run ⟨afterJoin me them key byte, ?_, by rw [joins, these, those]⟩
  rw [these, those]
  exact .join (Option.isNone_iff_eq_none.mp once) rfl rfl rfl legible new joined

theorem hears_reach {start w : Crossing symbolic} (run : Reach start (Crossing.Step olm) w)
    (side : Side) (may : mayHear (w.of side) (w.of side.other) = true) :
    Reach start (Crossing.Step olm) (hears side w) := by
  generalize these : w.of side = me at may
  generalize those : w.of side.other = them at may
  simp only [mayHear, Bool.and_eq_true, Bool.not_eq_true'] at may
  obtain ⟨once, acceptable⟩ := may
  refine .step (side, .hear) run ⟨afterHear me them, ?_, by rw [hears, these, those]⟩
  rw [these, those]
  cases offered : them.offer with
  | none => simp [offered] at acceptable
  | some offer =>
    simp only [offered, Option.any_some] at acceptable
    obtain ⟨⟨account, t, read⟩, accepted⟩ := Option.isSome_iff_exists.mp acceptable
    have after : afterHear me them =
        { me with
          node := (me.node.receiveHello none them.name (them.name ++ ".onion")
            (.fromOlm offer.message) {} 20).1
          past := me.sessions them
          heard := true
          ownLast := false } := by
      simp only [afterHear, offered]
    rw [after]
    exact .hear offered once accepted

/-- Two devices that published a key each and do not know each other. -/
def strangers : Crossing symbolic := { left := inviter "me" "mine", right := inviter "them" "theirs" }

/-- The second joins after it heard of the first's join. -/
def inTurn : Crossing symbolic :=
  hears .left (joins .right "mine" 2 (hears .right (joins .left "theirs" 1 strangers)))

/-- Both join before either hears of the other. -/
def crossed : Crossing symbolic :=
  hears .right (hears .left (joins .right "mine" 2 (joins .left "theirs" 1 strangers)))

theorem strangers_begin : strangers.Begins := fun side => by cases side <;> exact ⟨rfl, rfl, rfl, rfl, rfl⟩

theorem inTurn_reach : Reach strangers (Crossing.Step olm) inTurn := by
  refine hears_reach (joins_reach (hears_reach (joins_reach .start .left "theirs" 1 ?_) .right ?_)
    .right "mine" 2 ?_) .left ?_ <;> decide +kernel

theorem crossed_reach : Reach strangers (Crossing.Step olm) crossed := by
  refine hears_reach (hears_reach (joins_reach (joins_reach .start .left "theirs" 1 ?_)
    .right "mine" 2 ?_) .left ?_) .right ?_ <;> decide +kernel

end Symbolic

namespace Crossing

/-- Two users of whom the second joins after hearing of the first end on one session. -/
theorem crossing_settles_inTurn : Symbolic.inTurn.Readable ∧ Symbolic.inTurn.SameMailbox := by
  refine (crossing_settles Symbolic.olm Symbolic.strangers_begin Symbolic.inTurn_reach
    (fun side => ?_)).1 ⟨.right, by decide +kernel⟩
  cases side <;> decide +kernel

/-- Joins that cross leave each side on the session the other discarded. -/
theorem crossed_parted :
    Reach Symbolic.strangers (Step Symbolic.olm) Symbolic.crossed ∧ Symbolic.crossed.Done
      ∧ ¬ (Symbolic.crossed.Readable ∧ Symbolic.crossed.SameMailbox) := by
  refine ⟨Symbolic.crossed_reach, fun side => by cases side <;> decide +kernel, ?_⟩
  rintro ⟨readable, _⟩
  obtain ⟨mine, theirs, found, found', reads⟩ := readable .left
  obtain ⟨t, opened⟩ := reads [] _ _ rfl
  have closed : (((Symbolic.crossed.of .left).chat (Symbolic.crossed.of .right)).bind (fun mine =>
      ((Symbolic.crossed.of .right).chat (Symbolic.crossed.of .left)).bind (fun theirs =>
        Symbolic.decrypt theirs.session (Symbolic.encrypt mine.session []).2))).isNone = true := by
    decide +kernel
  have found' : (Symbolic.crossed.of .right).chat (Symbolic.crossed.of .left) = some theirs := found'
  have found : (Symbolic.crossed.of .left).chat (Symbolic.crossed.of .right) = some mine := found
  have opened : Symbolic.decrypt theirs.session (Symbolic.encrypt mine.session []).2
    = some (t, []) := opened
  rw [found, Option.bind_some, found', Option.bind_some, opened] at closed
  cases closed

end Crossing

end Nightdrop
