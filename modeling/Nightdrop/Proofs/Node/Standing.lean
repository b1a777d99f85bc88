import Mathlib
import Nightdrop.Node.Standing
import Nightdrop.Node.Symbolic
import Nightdrop.Proofs.Node.Talk

/-! What a chat records as told was delivered last, where completions find what their frame carried. -/

namespace Nightdrop

variable {X : Externals}

/-- A chat that differs in nothing it records as told. -/
def Chat.SameTold (chat chat' : Chat X) : Prop :=
  (∀ matter, chat'.told matter = chat.told matter) ∧ chat'.toldNearbySeq = chat.toldNearbySeq
    ∧ chat'.nearbySeq = chat.nearbySeq

namespace Node

variable {n n' : Node X}

/-- Nothing is recorded, announced or current that was not before. -/
structure Even (n n' : Node X) : Prop where
  chats : ∀ contact, (n'.chats.lookup contact = none ∧ n.chats.lookup contact = none)
    ∨ ∃ chat chat', n.chats.lookup contact = some chat ∧ n'.chats.lookup contact = some chat'
      ∧ chat.SameTold chat'
  current : ∀ contact matter, n'.current contact matter = n.current contact matter

theorem Even.told (even : n.Even n') (contact : String) (matter : Matter) :
    n'.told contact matter = n.told contact matter := by
  unfold Node.told
  rcases even.chats contact with ⟨gone, none⟩ | ⟨chat, chat', found, found', same, _⟩
  · rw [gone, none]
  · rw [found, found']
    exact same matter

theorem Even.refl (n : Node X) : n.Even n where
  chats := by
    intro contact
    cases found : n.chats.lookup contact with
    | none => exact Or.inl ⟨rfl, rfl⟩
    | some chat => exact Or.inr ⟨chat, chat, rfl, rfl, fun _ => rfl, rfl, rfl⟩
  current := fun _ _ => rfl

theorem Even.trans {n1 : Node X} (first : n.Even n1) (second : n1.Even n') : n.Even n' where
  chats := by
    intro contact
    rcases first.chats contact with ⟨gone, none⟩ | ⟨chat, chat1, found, found1, same, seq, at1⟩
    · rcases second.chats contact with ⟨gone', _⟩ | ⟨_, _, found1, _⟩
      · exact Or.inl ⟨gone', none⟩
      · rw [gone] at found1
        cases found1
    · rcases second.chats contact with ⟨_, none⟩ | ⟨chat2, chat', found2, found', same', seq', at'⟩
      · rw [found1] at none
        cases none
      · rw [found1, Option.some.injEq] at found2
        subst found2
        exact Or.inr ⟨chat, chat', found, found', fun matter => (same' matter).trans (same matter),
          seq'.trans seq, at'.trans at1⟩
  current := fun contact matter => (second.current contact matter).trans (first.current contact matter)

/-- What is current but for our nearby state is the device's own. -/
theorem current_congr (contact : String) (matter : Matter) (version : n'.appVersion = n.appVersion)
    (address : n'.address = n.address) (captures : n'.capturesVisible = n.capturesVisible)
    (block : n'.captureBlock = n.captureBlock) (relays : n'.relays = n.relays)
    (nearby : (n'.chats.lookup contact).bind Chat.nearbyState
      = (n.chats.lookup contact).bind Chat.nearbyState) :
    n'.current contact matter = n.current contact matter := by
  cases matter <;> simp only [current, myRelaySet, version, address, captures, block, relays, nearby]

/-- A change of one chat that records nothing else as told. -/
theorem Even.modifyChat (n : Node X) (contact : String) {f : Chat X → Chat X}
    (same : ∀ chat, n.chats.lookup contact = some chat → chat.SameTold (f chat)) :
    n.Even (n.modifyChat contact f) where
  chats := by
    intro other
    rw [lookup_modifyChat]
    by_cases here : other = contact
    · rw [if_pos here, here]
      cases found : n.chats.lookup contact with
      | none => exact Or.inl ⟨rfl, rfl⟩
      | some chat => exact Or.inr ⟨chat, f chat, rfl, rfl, same chat found⟩
    · rw [if_neg here]
      exact (Even.refl n).chats other
  current := by
    intro other matter
    refine current_congr other matter rfl rfl rfl rfl rfl ?_
    rw [lookup_modifyChat]
    by_cases here : other = contact
    · rw [if_pos here, here]
      cases found : n.chats.lookup contact with
      | none => rfl
      | some chat =>
        show (f chat).nearbyState = chat.nearbyState
        unfold Chat.nearbyState
        rw [(same chat found).2.2]
    · rw [if_neg here]

/-- The flag of a matter taken down for a contact. -/
def lower (n : Node X) (contact : String) : Matter → Node X
  | .burns => { n with burnsAnnounced := n.burnsAnnounced.filter (· ≠ contact) }
  | .version => { n with versionAnnounced := n.versionAnnounced.erase contact }
  | .address => { n with addressAnnounced := n.addressAnnounced.erase contact }
  | .captures => { n with capturesAnnounced := n.capturesAnnounced.erase contact }
  | .block => { n with blockAnnounced := n.blockAnnounced.erase contact }
  | .relaySet => { n with relaySetInFlight := n.relaySetInFlight.erase contact }
  | .nearby => { n with nearbyAnnounced := n.nearbyAnnounced.erase contact }

theorem flagged_lower (n : Node X) (contact other : String) (lowered matter : Matter) :
    (n.lower contact lowered).flagged other matter
      = if other = contact ∧ matter = lowered then none else n.flagged other matter := by
  by_cases same : matter = lowered
  · subst same
    by_cases here : other = contact <;> cases matter <;>
      simp [lower, flagged, KeyedMap.lookup_erase_if, here]
  · rw [if_neg (fun both => same both.2)]
    cases lowered <;> cases matter <;> first | rfl | exact absurd rfl same

theorem lower_even (n : Node X) (contact : String) (matter : Matter) : n.Even (n.lower contact matter) := by
  have chats : (n.lower contact matter).chats = n.chats := by cases matter <;> rfl
  constructor
  · rw [chats]
    exact (Even.refl n).chats
  · intro other m
    refine current_congr other m ?_ ?_ ?_ ?_ ?_ (by rw [chats]) <;> cases matter <;> rfl

theorem lower_outbox (n : Node X) (contact : String) (matter : Matter) :
    (n.lower contact matter).outbox = n.outbox := by
  cases matter <;> rfl

/-- A failure takes the flag down, but for a newer one that is under way. -/
theorem applyAnnounced_failed (n : Node X) (contact : String) (tiding : Tiding) (now : Nat) :
    n.applyAnnounced tiding.announce contact false now = n.lower contact tiding.matter
      ∨ n.applyAnnounced tiding.announce contact false now = n
        ∧ n.flagged contact tiding.matter ≠ some tiding := by
  cases tiding with
  | block on =>
    by_cases flag : n.blockAnnounced.lookup contact = some on
    · left
      simp [applyAnnounced, Tiding.announce, Tiding.matter, retractAnnounced, lower, flag]
    · right
      simp [applyAnnounced, Tiding.announce, Tiding.matter, retractAnnounced, flagged, flag]
  | nearby seq =>
    by_cases flag : n.nearbyAnnounced.lookup contact = some seq
    · left
      simp [applyAnnounced, Tiding.announce, Tiding.matter, retractAnnounced, lower, flag]
    · right
      simp [applyAnnounced, Tiding.announce, Tiding.matter, retractAnnounced, flagged, flag]
  | burns | version | address | captures | relaySet => exact Or.inl (by
      simp [applyAnnounced, Tiding.announce, Tiding.matter, retractAnnounced, lower])

/-- What a contact is recorded as told once its announcement was delivered. -/
def recorded (n : Node X) (contact : String) (tiding : Tiding) (now : Nat) (chat : Chat X) : Chat X :=
  match tiding with
  | .relaySet _ => { chat with relaysTold := n.relaySetInFlight.lookup contact }
  | .burns => n.recordTold .burns contact now chat
  | .version _ => n.recordTold .version contact now chat
  | .address _ => n.recordTold .address contact now chat
  | .captures _ => n.recordTold .captures contact now chat
  | .block on => n.recordTold (.block on) contact now chat
  | .nearby seq => n.recordTold (.nearby seq) contact now chat

/-- A delivery is recorded in the chat; the flag stays, but where only one frame may be under way. -/
theorem applyAnnounced_delivered (n : Node X) (contact : String) (tiding : Tiding) (now : Nat) :
    let known := { n.modifyChat contact (n.recorded contact tiding now) with
      dirty := n.dirty || (n.chats.lookup contact).isSome }
    n.applyAnnounced tiding.announce contact true now = known ∧ tiding.matter ≠ .relaySet
        ∧ (tiding.matter = .nearby → n.flagged contact .nearby ≠ some tiding)
      ∨ n.applyAnnounced tiding.announce contact true now = known.lower contact tiding.matter
        ∧ (tiding.matter = .relaySet ∨ tiding.matter = .nearby) := by
  intro known
  cases tiding with
  | nearby seq =>
    by_cases flag : n.nearbyAnnounced.lookup contact = some seq
    · right
      refine ⟨?_, Or.inr rfl⟩
      show (if n.nearbyAnnounced.lookup contact = some seq then known.lower contact .nearby else known) = _
      rw [if_pos flag]
      rfl
    · left
      refine ⟨?_, by simp [Tiding.matter], fun _ same => flag ?_⟩
      · show (if n.nearbyAnnounced.lookup contact = some seq then known.lower contact .nearby else known) = _
        rw [if_neg flag]
      · simpa [flagged] using same
  | relaySet set => exact Or.inr ⟨rfl, Or.inl rfl⟩
  | burns | version | address | captures | block =>
    exact Or.inl ⟨rfl, by simp [Tiding.matter], by simp [Tiding.matter]⟩

/-- A flag raised for a contact, and nothing else. -/
structure Raises (contact : String) (tiding : Tiding) (n n' : Node X) : Prop where
  even : n.Even n'
  outbox : n'.outbox = n.outbox
  raised : n'.flagged contact tiding.matter = some tiding
  others : ∀ other matter, other ≠ contact ∨ matter ≠ tiding.matter →
    n'.flagged other matter = n.flagged other matter

/-- An announcement goes out under its flag, or nothing goes out and no flag is raised. -/
structure Utters (contact : String) (matter : Matter) (n n' : Node X) : Prop where
  even : n.Even n'
  outcome : (n'.outbox = n.outbox ∧ ∀ other m, n'.flagged other m = n.flagged other m
        ∨ n'.flagged other m = none)
    ∨ (∃ sent, n'.outbox = n.outbox ++ [sent])
      ∧ (∀ tiding, n.current contact matter = some tiding →
          n'.flagged contact matter = some tiding)
      ∧ ∀ other m, other ≠ contact ∨ m ≠ matter → n'.flagged other m = n.flagged other m

/-- Nothing done tells nothing. -/
theorem Utters.refl (contact : String) (matter : Matter) (n : Node X) : Utters contact matter n n where
  even := .refl n
  outcome := Or.inl ⟨rfl, fun _ _ => Or.inl rfl⟩

/-- Sealing a frame touches no more than a session. -/
theorem authedControl_even {contact address : String} {marker : Bytes} {kind : SealedKind}
    {frame : Frame X.OlmMessage} (did : n.authedControl contact marker kind = some (n', address, frame)) :
    n.Even n' ∧ n'.outbox = n.outbox
      ∧ ∀ other matter, n'.flagged other matter = n.flagged other matter := by
  obtain ⟨chat, session, message, found, sealed, rfl, -, -⟩ := authedControl_eq did
  refine ⟨Even.modifyChat n contact fun chat' _ => ⟨fun matter => ?_, rfl, rfl⟩, rfl, ?_⟩
  · cases matter <;> rfl
  · intro other matter
    cases matter <;> rfl

/-- A flag that comes down again tells nothing. -/
theorem Raises.lowered {contact : String} {tiding : Tiding} {raised : Node X}
    (raises : Raises contact tiding n raised) :
    Utters contact tiding.matter n (raised.lower contact tiding.matter) := by
  refine ⟨raises.even.trans (lower_even raised contact _),
    Or.inl ⟨(lower_outbox raised contact _).trans raises.outbox, fun other m => ?_⟩⟩
  rw [flagged_lower]
  split
  · exact Or.inr rfl
  · rename_i apart
    left
    refine raises.others other m ?_
    by_cases here : other = contact
    · exact Or.inr fun same => apart ⟨here, same⟩
    · exact Or.inl here

theorem sendOrQueue_flagged (n : Node X) (send : DetachedSend X) (route : Route)
    (done : OutboundDone X) (contact : String) (matter : Matter) :
    (n.sendOrQueue send route done).flagged contact matter = n.flagged contact matter := by
  cases matter <;> rfl

/-- What was flagged is sent, or taken back from an outdated contact. -/
theorem Raises.deliver {contact : String} {tiding : Tiding} {raised : Node X}
    (raises : Raises contact tiding n raised) (current : n.current contact tiding.matter = some tiding
      ∨ n.current contact tiding.matter = none) (address : String) (frame : Frame X.OlmMessage)
    (now : Nat) :
    Utters contact tiding.matter n
      (raised.deliverWith address contact frame false (.announced tiding.announce contact) now) := by
  unfold deliverWith
  split
  · -- The flag that went up comes down again.
    rcases applyAnnounced_failed raised contact tiding now with down | ⟨_, absurd'⟩
    · show Utters contact tiding.matter n (raised.applyAnnounced tiding.announce contact false now)
      rw [down]
      exact raises.lowered
    · exact absurd raises.raised absurd'
  · refine ⟨⟨raises.even.chats, fun other m => ?_⟩,
      Or.inr ⟨⟨_, by rw [← raises.outbox]; rfl⟩, fun told states => ?_, ?_⟩⟩
    · exact (current_congr other m rfl rfl rfl rfl rfl rfl).trans (raises.even.current other m)
    · rw [sendOrQueue_flagged, raises.raised, ← states]
      rcases current with same | nothing
      · exact same.symm
      · rw [nothing] at states
        cases states
    · intro other m apart
      rw [sendOrQueue_flagged]
      exact raises.others other m apart

/-- An announcement seals its frame, raises its flag and sends it, or does nothing. -/
theorem announce_utters (n : Node X) (contact : String) (tiding : Tiding) (carrier : SealedKind)
    (marker : Bytes) {raise : Node X → Node X} (raises : ∀ n, Raises contact tiding n (raise n))
    (current : n.current contact tiding.matter = some tiding
      ∨ n.current contact tiding.matter = none) (now : Nat) :
    Utters contact tiding.matter n (n.announce contact tiding.announce carrier marker raise now) := by
  unfold announce
  split
  · exact .refl contact tiding.matter n
  · rename_i n1 address frame did
    obtain ⟨even, outbox, flagged⟩ := authedControl_even did
    have step := raises n1
    refine Raises.deliver ⟨even.trans step.even, step.outbox.trans outbox, step.raised, ?_⟩ current
      address frame now
    exact fun other matter apart => (step.others other matter apart).trans (flagged other matter)

/-- A flag put up is put up for its contact and matter alone. -/
theorem Raises.of_same {contact : String} {tiding : Tiding} {n n' : Node X} (chats : n'.chats = n.chats)
    (own : ∀ other matter, n'.current other matter = n.current other matter)
    (outbox : n'.outbox = n.outbox)
    (flags : ∀ other matter, n'.flagged other matter
      = if other = contact ∧ matter = tiding.matter then some tiding else n.flagged other matter) :
    Raises contact tiding n n' where
  even := ⟨by rw [chats]; exact (Even.refl n).chats, own⟩
  outbox := outbox
  raised := by rw [flags, if_pos ⟨rfl, rfl⟩]
  others := by
    intro other matter apart
    rw [flags, if_neg]
    rintro ⟨here, same⟩
    exact apart.elim (fun h => h here) (fun h => h same)

/-- Telling a contact sends it what there is to tell under a flag of it, or nothing. -/
theorem tell_utters (n : Node X) (matter : Matter) (contact : String) (now : Nat) :
    Utters contact matter n (n.tell matter contact now) := by
  cases matter with
  | burns =>
    refine announce_utters n contact .burns .burns MARK_BURNS_V1 (fun m => ?_) (Or.inl rfl) now
    refine .of_same rfl (fun other matter => by cases matter <;> rfl) rfl fun other matter => ?_
    cases matter <;> simp [flagged, Tiding.matter]
    by_cases here : other = contact <;> simp [here]
  | version =>
    show Utters _ _ n (n.announceVersionTo contact now)
    unfold announceVersionTo
    split
    · exact .refl contact .version n
    · rename_i version runs
      refine announce_utters n contact (.version version) .version _ (fun m => ?_)
        (Or.inl (by simp [current, Tiding.matter, runs])) now
      refine .of_same rfl (fun other matter => by cases matter <;> rfl) rfl fun other matter => ?_
      cases matter <;> simp [flagged, Tiding.matter, KeyedMap.lookup_insert_if]
      by_cases here : other = contact <;> simp [here]
  | captures =>
    show Utters _ _ n (n.announceCapturesTo contact now)
    unfold announceCapturesTo
    split
    · exact .refl contact .captures n
    · rename_i visible reports
      refine announce_utters n contact (.captures visible) .captures _ (fun m => ?_)
        (Or.inl (by simp [current, Tiding.matter, reports])) now
      refine .of_same rfl (fun other matter => by cases matter <;> rfl) rfl fun other matter => ?_
      cases matter <;> simp [flagged, Tiding.matter, KeyedMap.lookup_insert_if]
      by_cases here : other = contact <;> simp [here]
  | block =>
    show Utters _ _ n (n.announceBlockTo contact now)
    unfold announceBlockTo
    split
    · exact .refl contact .block n
    · rename_i blocked blocks
      refine announce_utters n contact (.block blocked) .captures _ (fun m => ?_)
        (Or.inl (by simp [current, Tiding.matter, blocks])) now
      refine .of_same rfl (fun other matter => by cases matter <;> rfl) rfl fun other matter => ?_
      cases matter <;> simp [flagged, Tiding.matter, KeyedMap.lookup_insert_if]
      by_cases here : other = contact <;> simp [here]
  | relaySet =>
    show Utters _ _ n (n.announceRelaySetTo contact now)
    unfold announceRelaySetTo
    simp only []
    split
    · exact .refl contact .relaySet n
    · split
      · exact .refl contact .relaySet n
      · refine announce_utters n contact (.relaySet n.myRelaySet) .relaySet _ (fun m => ?_)
          (Or.inl rfl) now
        refine .of_same rfl (fun other matter => by cases matter <;> rfl) rfl fun other matter => ?_
        cases matter <;> simp [flagged, Tiding.matter, KeyedMap.lookup_insert_if]
        by_cases here : other = contact <;> simp [here]
  | nearby =>
    show Utters _ _ n (n.announceNearbyTo contact now)
    unfold announceNearbyTo
    split
    · exact .refl contact .nearby n
    · rename_i chat found
      refine announce_utters n contact (.nearby chat.nearbySeq) .captures _ (fun m => ?_) ?_ now
      · refine .of_same rfl (fun other matter => by cases matter <;> rfl) rfl fun other matter => ?_
        cases matter <;> simp [flagged, Tiding.matter, KeyedMap.lookup_insert_if]
        by_cases here : other = contact <;> simp [here]
      · -- A state that was never switched is not current.
        show (n.chats.lookup contact).bind Chat.nearbyState = _ ∨ (n.chats.lookup contact).bind _ = _
        rw [found, Option.bind_some, Chat.nearbyState]
        split
        · exact Or.inr rfl
        · exact Or.inl rfl
  | address =>
    have raises : Raises contact (.address n.address) n
        { n with addressAnnounced := n.addressAnnounced.insert contact n.address } := by
      refine .of_same rfl (fun other matter => by cases matter <;> rfl) rfl fun other matter => ?_
      cases matter <;> simp [flagged, Tiding.matter, KeyedMap.lookup_insert_if]
      by_cases here : other = contact <;> simp [here]
    show Utters _ _ n (n.sendAddressTo contact now)
    unfold sendAddressTo
    simp only []
    split
    · rename_i raised
      exact raises.lowered
    · rename_i n1 address frame did
      obtain ⟨even, outbox, flagged⟩ := authedControl_even did
      have sealedToo : Raises contact (.address n.address) n n1 :=
        ⟨raises.even.trans even, outbox.trans raises.outbox, (flagged _ _).trans raises.raised,
          fun other matter apart =>
            (flagged other matter).trans (raises.others other matter apart)⟩
      exact sealedToo.deliver (Or.inl rfl) address frame now

/-- The frame that goes out says what there is to tell. -/
theorem tell_frame {n : Node X} {matter : Matter} {contact : String} {now : Nat} {tiding : Tiding}
    (states : n.current contact matter = some tiding) {bytes : Envelope X.OlmMessage}
    (handed : n.Hands (n.tell matter contact now) bytes) :
    n.FrameFor contact (n.payload contact tiding) tiding.carrier bytes := by
  cases matter with
  | burns =>
    obtain rfl : Tiding.burns = tiding := Option.some.inj states
    have spoken : n.Spoken (n.announceBurnsTo contact now) contact MARK_BURNS_V1 .burns :=
      announce_spoken n contact _ _ _ now fun _ => ⟨rfl, rfl, rfl, rfl⟩
    exact spoken.hands bytes handed
  | version =>
    obtain ⟨runs, version, rfl⟩ := Option.map_eq_some_iff.mp states
    exact (Tells.version version).spec.spoken.hands bytes handed
  | address =>
    obtain rfl : Tiding.address n.address = tiding := Option.some.inj states
    have did : n.Tells contact now (.address n.address) (n.sendAddressTo contact now) := .address
    exact did.spec.spoken.hands bytes handed
  | captures =>
    obtain ⟨visible, reports, rfl⟩ := Option.map_eq_some_iff.mp states
    exact (Tells.captures reports).spec.spoken.hands bytes handed
  | block =>
    obtain ⟨blocked, blocks, rfl⟩ := Option.map_eq_some_iff.mp states
    have spoken : n.Spoken (n.announceBlockTo contact now) contact
        (n.payload contact (.block blocked)) .captures := by
      unfold announceBlockTo
      rw [blocks]
      exact announce_spoken n contact _ _ _ now fun _ => ⟨rfl, rfl, rfl, rfl⟩
    exact spoken.hands bytes handed
  | relaySet =>
    obtain rfl : Tiding.relaySet n.myRelaySet = tiding := Option.some.inj states
    have did : n.Tells contact now (.relaySet n.myRelaySet) (n.announceRelaySetTo contact now) :=
      .relaySet
    exact did.spec.spoken.hands bytes handed
  | nearby =>
    obtain ⟨chat, found, state⟩ := Option.bind_eq_some_iff.mp states
    simp only [Chat.nearbyState] at state
    split at state
    · cases state
    · obtain rfl := Option.some.inj state
      have spoken : n.Spoken (n.announceNearbyTo contact now) contact
          (n.payload contact (.nearby chat.nearbySeq)) .captures := by
        unfold announceNearbyTo payload
        rw [found]
        exact announce_spoken n contact _ _ _ now fun _ => ⟨rfl, rfl, rfl, rfl⟩
      exact spoken.hands bytes handed

/-- A flag says what its matter is about. -/
theorem matter_of_flagged {n : Node X} {contact : String} {matter : Matter} {tiding : Tiding}
    (flag : n.flagged contact matter = some tiding) : tiding.matter = matter := by
  cases matter with
  | burns =>
    simp only [flagged, Option.ite_none_right_eq_some, Option.some.injEq] at flag
    rw [← flag.2]
    rfl
  | version | address | captures | block | relaySet | nearby =>
    obtain ⟨value, _, rfl⟩ := Option.map_eq_some_iff.mp flag
    rfl

/-- A failure records nothing. -/
theorem failed_even (n : Node X) (contact : String) (tiding : Tiding) (now : Nat) :
    n.Even (n.applyAnnounced tiding.announce contact false now) := by
  rcases applyAnnounced_failed n contact tiding now with down | ⟨same, _⟩
  · rw [down]
    exact lower_even n contact _
  · rw [same]
    exact .refl n

/-- The flags of another contact or matter are left alone. -/
theorem applyAnnounced_flagged (n : Node X) (contact : String) (tiding : Tiding) (delivered : Bool)
    (now : Nat) {other : String} {matter : Matter} (apart : other ≠ contact ∨ matter ≠ tiding.matter) :
    (n.applyAnnounced tiding.announce contact delivered now).flagged other matter
      = n.flagged other matter := by
  have lowered : ∀ m : Node X, (m.lower contact tiding.matter).flagged other matter
      = m.flagged other matter := by
    intro m
    rw [flagged_lower, if_neg]
    rintro ⟨here, same⟩
    exact apart.elim (fun h => h here) (fun h => h same)
  cases delivered with
  | false =>
    rcases applyAnnounced_failed n contact tiding now with down | ⟨same, _⟩
    · rw [down, lowered]
    · rw [same]
  | true =>
    rcases applyAnnounced_delivered n contact tiding now with ⟨known, _⟩ | ⟨known, _⟩
    · rw [known]
      cases matter <;> rfl
    · rw [known, lowered]
      cases matter <;> rfl

/-- What a delivery records of other matters is what was recorded. -/
theorem recorded_other (n : Node X) (contact : String) (tiding : Tiding) (now : Nat) (chat : Chat X)
    {matter : Matter} (apart : matter ≠ tiding.matter) :
    (n.recorded contact tiding now chat).told matter = chat.told matter := by
  cases tiding <;> cases matter <;>
    first
    | exact absurd rfl apart
    | rfl
    | (simp only [recorded, recordTold]; split <;> rfl)

theorem recorded_nearby (n : Node X) (contact : String) (tiding : Tiding) (now : Nat) (chat : Chat X) :
    (n.recorded contact tiding now chat).nearbySeq = chat.nearbySeq := by
  cases tiding <;> simp only [recorded, recordTold] <;> split <;> rfl

theorem recorded_toldNearby (n : Node X) (contact : String) (tiding : Tiding) (now : Nat)
    (chat : Chat X) (apart : .nearby ≠ tiding.matter) :
    (n.recorded contact tiding now chat).toldNearbySeq = chat.toldNearbySeq := by
  cases tiding <;>
    first
    | exact absurd rfl apart
    | rfl
    | (simp only [recorded, recordTold]; split <;> rfl)

/-- A delivery that finds on file what it carried records just that. -/
theorem recorded_told {n : Node X} {contact : String} {tiding : Tiding} (files : n.Files contact tiding)
    (now : Nat) {chat : Chat X} (found : n.chats.lookup contact = some chat) {told : Tiding}
    (records : (n.recorded contact tiding now chat).told tiding.matter = some told) : told = tiding := by
  cases tiding with
  | burns =>
    simp only [recorded, recordTold, Tiding.matter, Chat.told, if_true, Option.some.injEq] at records
    exact records.symm
  | version runs =>
    obtain ⟨flag, current⟩ := files
    have file : n.versionAnnounced.lookup contact = some runs := by simpa [flagged] using flag
    simp only [recorded, recordTold, Tiding.matter, Chat.told, file, current chat found,
      Option.isSome_some, Bool.not_false, Bool.and_self, if_true, Option.map_some,
      Option.some.injEq] at records
    exact records.symm
  | address onion =>
    have file : n.addressAnnounced.lookup contact = some onion := by simpa [Files, flagged] using files
    simp only [recorded, recordTold, Tiding.matter, Chat.told, file, Option.isSome_some, if_true,
      Option.map_some, Option.some.injEq] at records
    exact records.symm
  | captures visible =>
    have file : n.capturesAnnounced.lookup contact = some visible := by
      simpa [Files, flagged] using files
    simp only [recorded, recordTold, Tiding.matter, Chat.told, file, Option.isSome_some, if_true,
      Option.map_some, Option.some.injEq] at records
    exact records.symm
  | block on =>
    have file : n.captureBlock = some on := by simpa [Files, current] using files
    simp only [recorded, recordTold, Tiding.matter, Chat.told, file, if_true, Option.map_some,
      Option.some.injEq] at records
    exact records.symm
  | relaySet set =>
    have file : n.relaySetInFlight.lookup contact = some set := by simpa [Files, flagged] using files
    simp only [recorded, Tiding.matter, Chat.told, file, Option.map_some, Option.some.injEq] at records
    exact records.symm
  | nearby seq =>
    have newest : max chat.toldNearbySeq seq = seq := Nat.max_eq_right (files chat found).1
    simp only [recorded, recordTold, Tiding.matter, Chat.told, newest] at records
    split at records
    · cases records
    · rw [Option.some.injEq] at records
      exact records.symm

/-- A flag that is up when a delivery finds on file what it carried is the flag of that. -/
theorem flag_of_files {n : Node X} {contact : String} {tiding told : Tiding}
    (files : n.Files contact tiding) (many : tiding.matter ≠ .nearby)
    (single : tiding.matter ≠ .relaySet) (flag : n.flagged contact tiding.matter = some told)
    (follows : tiding.matter.follows = true → n.current contact tiding.matter = some told) :
    told = tiding := by
  cases tiding with
  | burns =>
    simp only [Tiding.matter, flagged, Option.ite_none_right_eq_some, Option.some.injEq] at flag
    exact flag.2.symm
  | version runs => exact Option.some.inj (flag.symm.trans files.1)
  | address onion => exact Option.some.inj (flag.symm.trans files)
  | captures visible => exact Option.some.inj (flag.symm.trans files)
  | block on => exact Option.some.inj ((follows rfl).symm.trans files)
  | relaySet set => exact absurd rfl single
  | nearby seq => exact absurd rfl many

/-- The chats after a delivery: the contact's own records it. -/
theorem delivered_chats (n : Node X) (contact : String) (tiding : Tiding) (now : Nat)
    (other : String) :
    (n.applyAnnounced tiding.announce contact true now).chats.lookup other
      = if other = contact then (n.chats.lookup contact).map (n.recorded contact tiding now)
        else n.chats.lookup other := by
  have known := lookup_modifyChat n contact other (n.recorded contact tiding now)
  rcases applyAnnounced_delivered n contact tiding now with ⟨same, _⟩ | ⟨same, _⟩
  · rw [same]
    exact known
  · rw [same]
    have chats : ∀ m : Node X, (m.lower contact tiding.matter).chats = m.chats := by
      intro m
      cases tiding <;> rfl
    rw [chats]
    exact known

/-- What is current stays so over a delivery. -/
theorem delivered_current (n : Node X) (contact : String) (tiding : Tiding) (now : Nat)
    (other : String) (matter : Matter) :
    (n.applyAnnounced tiding.announce contact true now).current other matter
      = n.current other matter := by
  have nearby : ((n.applyAnnounced tiding.announce contact true now).chats.lookup other).bind
      Chat.nearbyState = (n.chats.lookup other).bind Chat.nearbyState := by
    rw [delivered_chats]
    split
    · rename_i here
      rw [here]
      cases n.chats.lookup contact with
      | none => rfl
      | some chat =>
        show (n.recorded contact tiding now chat).nearbyState = chat.nearbyState
        unfold Chat.nearbyState
        rw [recorded_nearby]
    · rfl
  rcases applyAnnounced_delivered n contact tiding now with ⟨same, _⟩ | ⟨same, _⟩ <;>
    refine current_congr other matter ?_ ?_ ?_ ?_ ?_ nearby <;> rw [same] <;>
    cases tiding <;> rfl

end Node

namespace Node

/-- A contact that was not told, and is not being told, is due when it is time. -/
theorem due_of_untold {n : Node X} {now : Nat} {contact : String} {chat : Chat X} {matter : Matter}
    {tiding : Tiding} (found : n.chats.lookup contact = some chat)
    (authorized : chat.authorized = true) (opened : chat.closed = false)
    (retries : n.retries now contact matter = true)
    (current : n.current contact matter = some tiding) (unflagged : n.flagged contact matter = none)
    (untold : chat.told matter ≠ some tiding)
    (nearby : matter = .nearby → chat.toldNearbySeq ≤ chat.nearbySeq) :
    n.due now contact chat matter = true := by
  cases matter with
  | burns =>
    have time : n.mayRetry contact now = true := retries
    simp_all [due, burnsDue, Chat.due, flagged, Node.current, Chat.told]
  | version =>
    have time : n.retryDueEvenIfOutdated contact now = true := retries
    obtain ⟨runs, version, rfl⟩ := Option.map_eq_some_iff.mp current
    simp_all [due, versionDue, Chat.due, flagged, Chat.told]
  | address =>
    have time : n.mayRetry contact now = true := retries
    obtain rfl : Tiding.address n.address = tiding := Option.some.inj current
    simp_all [due, addressDue, Chat.due, flagged, Chat.told]
  | captures =>
    have time : n.mayRetry contact now = true := retries
    obtain ⟨visible, reports, rfl⟩ := Option.map_eq_some_iff.mp current
    simp_all [due, capturesDue, Chat.due, flagged, Chat.told]
  | block =>
    have time : n.mayRetry contact now = true := retries
    obtain ⟨blocked, blocks, rfl⟩ := Option.map_eq_some_iff.mp current
    simp_all [due, blockDue, Chat.due, flagged, Chat.told]
  | relaySet =>
    have time : n.mayRetry contact now = true := retries
    obtain rfl : Tiding.relaySet n.myRelaySet = tiding := Option.some.inj current
    simp_all [due, relaySetDue, Chat.due, flagged, Chat.told]
  | nearby =>
    have time : n.mayRetry contact now = true := retries
    have state : chat.nearbyState = some tiding := by
      rw [← current, Node.current, found]
      rfl
    have below := nearby rfl
    -- The state is of the chat's own number, which is not the one told.
    have other : chat.toldNearbySeq ≠ chat.nearbySeq := by
      intro same
      refine untold ?_
      rw [← state, Chat.told, Chat.nearbyState, same]
    have newer : chat.toldNearbySeq < chat.nearbySeq := by omega
    simp_all [due, nearbyDue, flagged]

end Node

namespace Telling

variable {w w' : Telling X} {contact : String} {matter : Matter}

/-- What a new delivery leaves as the last one. -/
theorem last_append (contact : String) (matter : Matter) (heard : List (String × Tiding)) (other : String) (tiding : Tiding)
    (node : Node X) (way : List (String × Tiding)) :
    ({ node, way, heard := heard ++ [(other, tiding)] } : Telling X).last contact matter
      = if other = contact ∧ tiding.matter = matter then some tiding
        else ({ node, way, heard } : Telling X).last contact matter := by
  unfold last
  rw [List.filter_append, List.map_append]
  by_cases this : other = contact ∧ tiding.matter = matter
  · simp [this.1, this.2]
  · simp [this]

/-- What keeps the record of one contact and matter true. -/
structure Sound (w : Telling X) (contact : String) (matter : Matter) : Prop where
  told : ∀ tiding, w.node.told contact matter = some tiding → w.last contact matter = some tiding
  flagged : ∀ tiding, w.node.flagged contact matter = some tiding → (contact, tiding) ∈ w.way
    ∨ matter ≠ .relaySet ∧ matter ≠ .nearby ∧ w.last contact matter = some tiding
  follows : matter.follows = true → ∀ tiding, w.node.flagged contact matter = some tiding →
    w.node.current contact matter = some tiding
  nearby : matter = .nearby → ∀ chat, w.node.chats.lookup contact = some chat →
    chat.toldNearbySeq ≤ chat.nearbySeq

theorem Begins.sound (begins : w.Begins) (contact : String) (matter : Matter) :
    w.Sound contact matter := by
  have none : w.node.chats.lookup contact = none := by
    rw [begins.chats]
    exact AList.lookup_empty contact
  constructor
  · intro tiding told
    rw [Node.told, none] at told
    cases told
  · intro tiding flag
    rw [begins.flagged] at flag
    cases flag
  · intro _ tiding flag
    rw [begins.flagged] at flag
    cases flag
  · intro _ chat found
    rw [none] at found
    cases found

/-- What a device does elsewhere forgets records, and adds none. -/
theorem Sound.elsewhere (sound : w.Sound contact matter) {n : Node X} (kept : w.node.Forgets n)
    {way : List (String × Tiding)} (under : (∀ tiding, n.flagged contact matter ≠ some tiding)
      ∨ way = w.way) :
    ({ w with node := n, way := way } : Telling X).Sound contact matter where
  told := by
    intro tiding told
    rcases kept.told contact matter with same | forgotten
    · exact sound.told tiding (same ▸ told)
    · have told : n.told contact matter = some tiding := told
      rw [forgotten] at told
      cases told
  flagged := by
    intro tiding flag
    rcases under with clear | rfl
    · exact absurd flag (clear tiding)
    · rcases kept.flagged contact matter with same | forgotten
      · exact sound.flagged tiding (same ▸ flag)
      · have flag : n.flagged contact matter = some tiding := flag
        rw [forgotten] at flag
        cases flag
  follows := by
    intro follows tiding flag
    have flag : n.flagged contact matter = some tiding := flag
    rcases kept.current contact matter follows with same | forgotten
    · rcases kept.flagged contact matter with still | forgotten
      · exact same.trans (sound.follows follows tiding (still ▸ flag))
      · rw [forgotten] at flag
        cases flag
    · rw [forgotten] at flag
      cases flag
  nearby := by
    intro about chat' found'
    obtain ⟨chat, found, nothing | ⟨same, grows⟩⟩ := kept.chats contact chat' found'
    · rw [nothing]
      exact Nat.zero_le _
    · rw [same]
      exact Nat.le_trans (sound.nearby about chat found) grows

/-- Telling a contact keeps the record: its flag goes up with its frame. -/
theorem Sound.tell (sound : w.Sound contact matter) {about : Matter} {other : String} {now : Nat}
    {way : List (String × Tiding)}
    (under : (w.node.tell about other now).outbox = w.node.outbox ∧ way = w.way
      ∨ (w.node.tell about other now).outbox ≠ w.node.outbox
        ∧ ∃ tiding, w.node.current other about = some tiding ∧ way = w.way ++ [(other, tiding)]) :
    ({ w with node := w.node.tell about other now, way := way } : Telling X).Sound contact matter := by
  have utters := Node.tell_utters w.node about other now
  have more : ∀ entry ∈ w.way, entry ∈ way := by
    intro entry among
    rcases under with ⟨_, rfl⟩ | ⟨_, tiding, _, rfl⟩
    · exact among
    · exact List.mem_append_left _ among
  -- Whatever is flagged afterwards was flagged before, or goes out with this frame.
  have flags : ∀ tiding, (w.node.tell about other now).flagged contact matter = some tiding →
      w.node.flagged contact matter = some tiding
        ∨ (contact, tiding) ∈ way ∧ w.node.current contact matter = some tiding := by
    intro tiding flag
    rcases utters.outcome with ⟨quiet, kept⟩ | ⟨⟨sent, handed⟩, raised, others⟩
    · rcases kept contact matter with same | forgotten
      · exact Or.inl (same ▸ flag)
      · rw [forgotten] at flag
        cases flag
    · by_cases here : contact = other ∧ matter = about
      · obtain ⟨rfl, rfl⟩ := here
        rcases under with ⟨quiet, _⟩ | ⟨_, told, carries, rfl⟩
        · rw [quiet] at handed
          exact absurd handed (by simp)
        · right
          rw [raised told carries, Option.some.injEq] at flag
          subst flag
          exact ⟨List.mem_append_right _ (List.mem_singleton.mpr rfl), carries⟩
      · left
        rw [← others contact matter (not_and_or.mp here)]
        exact flag
  constructor
  · intro tiding told
    have told : (w.node.tell about other now).told contact matter = some tiding := told
    rw [utters.even.told] at told
    exact sound.told tiding told
  · intro tiding flag
    rcases flags tiding flag with before | ⟨sent, _⟩
    · rcases sound.flagged tiding before with underway | delivered
      · exact Or.inl (more _ underway)
      · exact Or.inr delivered
    · exact Or.inl sent
  · intro follows tiding flag
    show (w.node.tell about other now).current contact matter = _
    rw [utters.even.current]
    rcases flags tiding flag with before | ⟨_, current⟩
    · exact sound.follows follows tiding before
    · exact current
  · intro is chat' found'
    rcases utters.even.chats contact with ⟨none, _⟩ | ⟨chat, chat1, found, found1, _, told, nearby⟩
    · rw [none] at found'
      cases found'
    · rw [found1, Option.some.injEq] at found'
      rw [← found', told, nearby]
      exact sound.nearby is chat found

/-- A frame that is no longer under way is the only one that is not. -/
theorem mem_of_other {α : Type} {front back : List α} {gone entry : α}
    (among : entry ∈ front ++ gone :: back) (other : entry ≠ gone) : entry ∈ front ++ back := by
  rw [List.mem_append, List.mem_cons] at among
  rw [List.mem_append]
  exact among.imp_right fun rest => rest.resolve_left other

/-- A send that failed takes down the flag it was sent under. -/
theorem Sound.failed (sound : w.Sound contact matter) {front back : List (String × Tiding)}
    {other : String} {tiding : Tiding} (under : w.way = front ++ (other, tiding) :: back) (now : Nat) :
    ({ w with
        node := w.node.applyAnnounced tiding.announce other false now
        way := front ++ back } : Telling X).Sound contact matter := by
  have even := Node.failed_even w.node other tiding now
  -- A flag that is still up is not that of this frame.
  have flags : ∀ told, (w.node.applyAnnounced tiding.announce other false now).flagged contact matter
      = some told → w.node.flagged contact matter = some told ∧ (contact, told) ≠ (other, tiding) := by
    intro told flag
    by_cases here : contact = other ∧ matter = tiding.matter
    · obtain ⟨rfl, rfl⟩ := here
      rcases Node.applyAnnounced_failed w.node contact tiding now with down | ⟨same, newer⟩
      · rw [down, Node.flagged_lower, if_pos ⟨rfl, rfl⟩] at flag
        cases flag
      · rw [same] at flag
        refine ⟨flag, fun this => newer ?_⟩
        rw [Prod.mk.injEq] at this
        rw [flag, this.2]
    · rw [Node.applyAnnounced_flagged _ _ _ _ _ (not_and_or.mp here)] at flag
      refine ⟨flag, fun this => here ?_⟩
      rw [Prod.mk.injEq] at this
      exact ⟨this.1, by rw [← this.2]; exact (Node.matter_of_flagged flag).symm⟩
  constructor
  · intro told records
    have records : (w.node.applyAnnounced tiding.announce other false now).told contact matter
      = some told := records
    rw [even.told] at records
    exact sound.told told records
  · intro told flag
    obtain ⟨before, apart⟩ := flags told flag
    rcases sound.flagged told before with underway | delivered
    · exact Or.inl (mem_of_other (under ▸ underway) apart)
    · exact Or.inr delivered
  · intro follows told flag
    show (w.node.applyAnnounced tiding.announce other false now).current contact matter = _
    rw [even.current]
    exact sound.follows follows told (flags told flag).1
  · intro is chat' found'
    rcases even.chats contact with ⟨none, _⟩ | ⟨chat, chat1, found, found1, _, told, nearby⟩
    · have found' : (w.node.applyAnnounced tiding.announce other false now).chats.lookup contact
        = some chat' := found'
      rw [none] at found'
      cases found'
    · have found' : (w.node.applyAnnounced tiding.announce other false now).chats.lookup contact
        = some chat' := found'
      rw [found1, Option.some.injEq] at found'
      rw [← found', told, nearby]
      exact sound.nearby is chat found

/-- The contact or the matter is another one. -/
theorem Sound.delivered_other (sound : w.Sound contact matter) {front back : List (String × Tiding)}
    {other : String} {tiding : Tiding} (under : w.way = front ++ (other, tiding) :: back) (now : Nat)
    (apart : contact ≠ other ∨ matter ≠ tiding.matter) :
    ({ w with
        node := w.node.applyAnnounced tiding.announce other true now
        way := front ++ back
        heard := w.heard ++ [(other, tiding)] } : Telling X).Sound contact matter := by
  have last := last_append contact matter w.heard other tiding
    (w.node.applyAnnounced tiding.announce other true now) (front ++ back)
  rw [if_neg (fun both => apart.elim (fun h => h both.1.symm) (fun h => h both.2.symm))] at last
  have chats := Node.delivered_chats w.node other tiding now contact
  constructor
  · intro told records
    rw [last]
    refine sound.told told ?_
    rw [← records]
    unfold Node.told
    rw [chats]
    split
    · rename_i here
      rw [here]
      cases w.node.chats.lookup other with
      | none => rfl
      | some chat =>
        exact (Node.recorded_other w.node other tiding now chat
          (apart.resolve_left fun elsewhere => elsewhere here)).symm
    · rfl
  · intro told flag
    have flag : (w.node.applyAnnounced tiding.announce other true now).flagged contact matter
      = some told := flag
    rw [Node.applyAnnounced_flagged _ _ _ _ _ apart] at flag
    rw [last]
    rcases sound.flagged told flag with underway | delivered
    · refine Or.inl (mem_of_other (under ▸ underway) fun this => ?_)
      rw [Prod.mk.injEq] at this
      exact apart.elim (fun h => h this.1)
        (fun h => h (by rw [← this.2]; exact (Node.matter_of_flagged flag).symm))
    · exact Or.inr delivered
  · intro follows told flag
    have flag : (w.node.applyAnnounced tiding.announce other true now).flagged contact matter
      = some told := flag
    rw [Node.applyAnnounced_flagged _ _ _ _ _ apart] at flag
    show (w.node.applyAnnounced tiding.announce other true now).current contact matter = _
    rw [Node.delivered_current]
    exact sound.follows follows told flag
  · intro is chat' found'
    have found' : (w.node.applyAnnounced tiding.announce other true now).chats.lookup contact
      = some chat' := found'
    rw [chats] at found'
    split at found'
    · rename_i here
      obtain ⟨chat, found, rfl⟩ := Option.map_eq_some_iff.mp found'
      have away : matter ≠ tiding.matter := apart.resolve_left fun elsewhere => elsewhere here
      rw [Node.recorded_nearby, Node.recorded_toldNearby _ _ _ _ _ (is ▸ away)]
      exact sound.nearby is chat (here ▸ found)
    · exact sound.nearby is chat' found'

/-- A delivery that finds on file what it carried records it, and it was delivered last. -/
theorem Sound.delivered (sound : w.Sound contact matter) {front back : List (String × Tiding)}
    {tiding : Tiding} (under : w.way = front ++ (contact, tiding) :: back) (now : Nat)
    (about : tiding.matter = matter) (files : w.node.Files contact tiding) :
    ({ w with
        node := w.node.applyAnnounced tiding.announce contact true now
        way := front ++ back
        heard := w.heard ++ [(contact, tiding)] } : Telling X).Sound contact matter := by
  subst about
  have last := last_append contact tiding.matter w.heard contact tiding
    (w.node.applyAnnounced tiding.announce contact true now) (front ++ back)
  rw [if_pos ⟨rfl, rfl⟩] at last
  have chats := Node.delivered_chats w.node contact tiding now contact
  rw [if_pos rfl] at chats
  -- A flag that is still up was up before, and one of a nearby state is of a newer one.
  have flags : ∀ told, (w.node.applyAnnounced tiding.announce contact true now).flagged contact
      tiding.matter = some told → w.node.flagged contact tiding.matter = some told
        ∧ tiding.matter ≠ .relaySet ∧ (tiding.matter = .nearby → told ≠ tiding) := by
    intro told flag
    rcases Node.applyAnnounced_delivered w.node contact tiding now with
      ⟨same, many, newer⟩ | ⟨same, _⟩
    · rw [same] at flag
      have before : w.node.flagged contact tiding.matter = some told := by
        rw [← flag]
        cases tiding <;> rfl
      refine ⟨before, many, fun is this => newer is ?_⟩
      rw [← is, before, this]
    · rw [same, Node.flagged_lower, if_pos ⟨rfl, rfl⟩] at flag
      cases flag
  constructor
  · intro told records
    have records : ((w.node.applyAnnounced tiding.announce contact true now).chats.lookup contact).bind
      (·.told tiding.matter) = some told := records
    rw [chats] at records
    obtain ⟨chat', found', records⟩ := Option.bind_eq_some_iff.mp records
    obtain ⟨chat, found, rfl⟩ := Option.map_eq_some_iff.mp found'
    rw [last, Node.recorded_told files now found records]
  · intro told flag
    obtain ⟨before, single, newer⟩ := flags told flag
    by_cases is : tiding.matter = .nearby
    · left
      rcases sound.flagged told before with underway | ⟨_, never, _⟩
      · refine mem_of_other (under ▸ underway) fun this => newer is ?_
        rw [Prod.mk.injEq] at this
        exact this.2
      · exact absurd is never
    · refine Or.inr ⟨single, is, ?_⟩
      rw [last, Node.flag_of_files files is single before (fun follows =>
        sound.follows follows told before)]
  · intro follows told flag
    show (w.node.applyAnnounced tiding.announce contact true now).current contact tiding.matter = _
    rw [Node.delivered_current]
    exact sound.follows follows told (flags told flag).1
  · intro is chat' found'
    have found' : (w.node.applyAnnounced tiding.announce contact true now).chats.lookup contact
      = some chat' := found'
    rw [chats] at found'
    obtain ⟨chat, found, rfl⟩ := Option.map_eq_some_iff.mp found'
    rw [Node.recorded_nearby]
    cases tiding with
    | nearby seq =>
      obtain ⟨newest, own⟩ := files chat found
      exact Nat.max_le.mpr ⟨Nat.le_trans newest own, own⟩
    | burns | version | address | captures | block | relaySet => cases is

/-- A contact that is paired starts with nothing told of the matter. -/
theorem Sound.paired (sound : w.Sound contact matter) {other : String} {chat : Chat X}
    (fresh : other = contact → chat.told matter = none ∧ w.node.flagged contact matter = none) :
    ({ w with
        node := { w.node with chats := w.node.chats.insert other chat }
        heard := w.heard.filter (fun h => h.1 ≠ other) } : Telling X).Sound contact matter := by
  have flags : ({ w.node with chats := w.node.chats.insert other chat } : Node X).flagged contact matter
      = w.node.flagged contact matter := by cases matter <;> rfl
  by_cases here : other = contact
  · obtain ⟨untold, unflagged⟩ := fresh here
    subst here
    have found : (w.node.chats.insert other chat).lookup other = some chat := AList.lookup_insert _
    constructor
    · intro tiding told
      have told : ((w.node.chats.insert other chat).lookup other).bind (·.told matter) = some tiding :=
        told
      rw [found, Option.bind_some, untold] at told
      cases told
    · intro tiding flag
      have flag := flags.symm.trans flag
      rw [unflagged] at flag
      cases flag
    · intro _ tiding flag
      have flag := flags.symm.trans flag
      rw [unflagged] at flag
      cases flag
    · intro is chat' found'
      have found' : (w.node.chats.insert other chat).lookup other = some chat' := found'
      rw [found, Option.some.injEq] at found'
      subst is found'
      -- Nothing told of a nearby state is the number zero.
      simp only [Chat.told, ite_eq_left_iff, reduceCtorEq, imp_false, not_not] at untold
      rw [untold]
      exact Nat.zero_le _
  · have found : (w.node.chats.insert other chat).lookup contact = w.node.chats.lookup contact :=
      AList.lookup_insert_ne (Ne.symm here)
    have last : ({ w with
        node := { w.node with chats := w.node.chats.insert other chat }
        heard := w.heard.filter (fun h => h.1 ≠ other) } : Telling X).last contact matter
        = w.last contact matter := by
      unfold last
      rw [List.filter_filter]
      congr 3
      funext h
      by_cases this : h.1 = contact
      · simp [this, Ne.symm here]
      · simp [this]
    have current : ({ w.node with chats := w.node.chats.insert other chat } : Node X).current contact
        matter = w.node.current contact matter :=
      Node.current_congr contact matter rfl rfl rfl rfl rfl (by rw [found])
    constructor
    · intro tiding told
      rw [last]
      refine sound.told tiding ?_
      rw [← told, Node.told, Node.told, found]
    · intro tiding flag
      rw [last]
      exact sound.flagged tiding (flags.symm.trans flag)
    · intro follows tiding flag
      exact current.trans (sound.follows follows tiding (flags.symm.trans flag))
    · intro is chat' found'
      exact sound.nearby is chat' (found.symm.trans found')

/-- An address that moved before it was announced leaves every record true. -/
theorem Sound.moved (sound : w.Sound contact matter) {address : String}
    (unannounced : matter = .address → w.node.flagged contact .address = none) :
    ({ w with node := { w.node with address := address } } : Telling X).Sound contact matter := by
  refine ⟨sound.told, ?_, ?_, sound.nearby⟩
  · intro tiding flag
    refine sound.flagged tiding ?_
    rw [← flag]
    cases matter <;> rfl
  · intro follows tiding flag
    cases matter with
    | address =>
      have flag : w.node.flagged contact .address = some tiding := flag
      rw [unannounced rfl] at flag
      cases flag
    | version | captures | block => exact sound.follows follows tiding flag
    | burns | relaySet | nearby => cases follows

/-- A step of an orderly run keeps the record. -/
theorem Sound.step (sound : w.Sound contact matter) {event : TellEvent X}
    (step : OrderlyStep contact matter w event w') : w'.Sound contact matter := by
  obtain ⟨orderly, step⟩ := step
  cases step with
  | elsewhere kept => exact sound.elsewhere kept (Or.inr rfl)
  | moved => exact sound.moved orderly
  | silent quiet => exact sound.tell (Or.inl ⟨quiet, rfl⟩)
  | tell handed carries =>
    refine sound.tell (Or.inr ⟨?_, _, carries, rfl⟩)
    rw [handed]
    simp
  | @done front back other tiding delivered now under =>
    cases delivered with
    | false => exact sound.failed under now
    | true =>
      by_cases here : contact = other ∧ matter = tiding.matter
      · obtain ⟨rfl, same⟩ := here
        exact sound.delivered under now same.symm (orderly rfl same.symm rfl)
      · exact sound.delivered_other under now (not_and_or.mp here)
  | paired => exact sound.paired orderly
  | restart kept none =>
    refine sound.elsewhere kept (Or.inl fun tiding flag => ?_)
    rw [none] at flag
    cases flag

/-- The record is true all through an orderly run. -/
theorem run_sound {start : Telling X} (begins : start.Begins)
    (reached : Reach start (OrderlyStep contact matter) w) : w.Sound contact matter :=
  reached.invariant (P := fun w => w.Sound contact matter) (begins.sound contact matter)
    fun _ _ _ _ sound step => sound.step step

/--
In every orderly run, what a chat records as told is what was delivered last to its contact since the
pairing, and a contact that was last told something else is due as soon as it is time, unless an
announcement to it is under way. A completion that finds another value on file records that one.
-/
theorem told_was_delivered {start : Telling X} (begins : start.Begins)
    (reached : Reach start (OrderlyStep contact matter) w) :
    (∀ tiding, w.node.told contact matter = some tiding → w.last contact matter = some tiding)
    ∧ ∀ now chat tiding, w.node.chats.lookup contact = some chat → chat.authorized = true →
        chat.closed = false → w.node.retries now contact matter = true →
        w.node.current contact matter = some tiding → w.last contact matter ≠ some tiding →
        w.node.due now contact chat matter = true
          ∨ ∃ told, w.node.flagged contact matter = some told ∧ (contact, told) ∈ w.way
            ∧ (matter.follows = true → told = tiding) := by
  have sound := run_sound begins reached
  refine ⟨sound.told, ?_⟩
  intro now chat tiding found authorized opened retries current other
  cases flag : w.node.flagged contact matter with
  | none =>
    left
    refine Node.due_of_untold found authorized opened retries current flag (fun told => ?_)
      fun is => sound.nearby is chat found
    -- What is recorded was delivered last, and that was something else.
    refine other (sound.told tiding ?_)
    rw [Node.told, found]
    exact told
  | some told =>
    right
    have same : matter.follows = true → told = tiding := fun follows =>
      Option.some.inj ((sound.follows follows told flag).symm.trans current)
    rcases sound.flagged told flag with underway | ⟨single, is, delivered⟩
    · exact ⟨told, rfl, underway, same⟩
    · refine absurd ?_ other
      rw [delivered]
      cases follows : matter.follows with
      | true => rw [same follows]
      | false =>
        cases matter with
        | burns =>
          have about := Node.matter_of_flagged flag
          cases told with
          | burns => exact current
          | version | address | captures | block | relaySet | nearby => cases about
        | relaySet => exact absurd rfl single
        | nearby => exact absurd rfl is
        | version | address | captures | block => cases follows

end Telling

namespace Node

/-- A change that leaves every chat alone. -/
theorem Forgets.of_chats {n n' : Node X} (chats : n'.chats = n.chats)
    (flagged : ∀ contact matter, n'.flagged contact matter = n.flagged contact matter
      ∨ n'.flagged contact matter = none)
    (current : ∀ contact matter, matter.follows = true →
      n'.current contact matter = n.current contact matter ∨ n'.flagged contact matter = none) :
    n.Forgets n' where
  told := fun contact matter => Or.inl (by rw [Node.told, Node.told, chats])
  flagged := flagged
  current := current
  chats := by
    intro contact chat found
    rw [chats] at found
    exact ⟨chat, found, Or.inr ⟨rfl, Nat.le_refl _⟩⟩

/-- A change of the chats that begins none, and forgets at most what was told. -/
theorem Forgets.of_same {n n' : Node X}
    (chats : ∀ contact chat', n'.chats.lookup contact = some chat' →
      ∃ chat, n.chats.lookup contact = some chat
        ∧ (∀ matter, chat'.told matter = chat.told matter ∨ chat'.told matter = none)
        ∧ (chat'.toldNearbySeq = 0
          ∨ chat'.toldNearbySeq = chat.toldNearbySeq ∧ chat.nearbySeq ≤ chat'.nearbySeq))
    (flagged : ∀ contact matter, n'.flagged contact matter = n.flagged contact matter
      ∨ n'.flagged contact matter = none)
    (current : ∀ contact matter, matter.follows = true →
      n'.current contact matter = n.current contact matter ∨ n'.flagged contact matter = none) :
    n.Forgets n' where
  told := by
    intro contact matter
    unfold Node.told
    cases found' : n'.chats.lookup contact with
    | none => exact Or.inr rfl
    | some chat' =>
      obtain ⟨chat, found, told, _⟩ := chats contact chat' found'
      rw [found]
      exact told matter
  flagged := flagged
  current := current
  chats := by
    intro contact chat' found'
    obtain ⟨chat, found, _, nearby⟩ := chats contact chat' found'
    exact ⟨chat, found, nearby⟩

theorem setAppVersion_forgets (n : Node X) (version : String) : n.Forgets (n.setAppVersion version) := by
  unfold setAppVersion
  simp only []
  split
  · exact .of_chats rfl (fun _ _ => Or.inl rfl) fun _ _ _ => Or.inl rfl
  · refine .of_chats rfl (fun contact matter => ?_) fun contact matter _ => ?_
    · cases matter <;> first | exact Or.inl rfl | exact Or.inr rfl
    · cases matter <;> first | exact Or.inl rfl | exact Or.inr rfl

theorem setCapturesVisible_forgets (n : Node X) (visible : Bool) :
    n.Forgets (n.setCapturesVisible visible) := by
  unfold setCapturesVisible
  split
  · exact .of_chats rfl (fun _ _ => Or.inl rfl) fun _ _ _ => Or.inl rfl
  · refine .of_chats rfl (fun contact matter => ?_) fun contact matter _ => ?_
    · cases matter <;> first | exact Or.inl rfl | exact Or.inr rfl
    · cases matter <;> first | exact Or.inl rfl | exact Or.inr rfl

/-- A changed answer about captures forgets what every chat was told of it. -/
theorem setCaptureBlock_forgets (n : Node X) (blocked : Bool) (nowMs : Nat) :
    n.Forgets (n.setCaptureBlock blocked nowMs) := by
  unfold setCaptureBlock
  split
  · exact .of_chats rfl (fun _ _ => Or.inl rfl) fun _ _ _ => Or.inl rfl
  · refine .of_same (fun contact chat' found' => ?_) (fun contact matter => ?_) fun contact matter follows => ?_
    · simp only [mapChats, KeyedMap.lookup_mapMaybe] at found'
      obtain ⟨chat, found, same⟩ := Option.bind_eq_some_iff.mp found'
      rw [Option.some.injEq] at same
      subst same
      refine ⟨chat, found, fun matter => ?_, Or.inr ⟨rfl, Nat.le_refl _⟩⟩
      cases matter <;> first | exact Or.inl rfl | exact Or.inr rfl
    · cases matter <;> first | exact Or.inl rfl | exact Or.inr rfl
    · cases matter <;> first | cases follows; done | exact Or.inl rfl | exact Or.inr rfl

/-- A new place on the local network takes a higher number in every chat with nearby on. -/
theorem noteNearbyAddress_forgets (n : Node X) (address : Option SocketAddr) (nowMs : Nat) :
    n.Forgets (n.noteNearbyAddress address nowMs) := by
  unfold noteNearbyAddress
  split
  · exact .of_chats rfl (fun _ _ => Or.inl rfl) fun _ _ _ => Or.inl rfl
  · refine .of_same (fun contact chat' found' => ?_) (fun contact matter => ?_) fun contact matter follows => ?_
    · simp only [mapChats, KeyedMap.lookup_mapMaybe] at found'
      obtain ⟨chat, found, same⟩ := Option.bind_eq_some_iff.mp found'
      rw [Option.some.injEq] at same
      subst same
      refine ⟨chat, found, fun matter => ?_, ?_⟩
      · split
        · exact Or.inl (by cases matter <;> rfl)
        · exact Or.inl rfl
      · right
        split
        · exact ⟨rfl, by show chat.nearbySeq ≤ max nowMs (chat.nearbySeq + 1); omega⟩
        · exact ⟨rfl, Nat.le_refl _⟩
    · cases matter <;> first | exact Or.inl rfl | exact Or.inr rfl
    · cases matter <;> first | cases follows; done | exact Or.inl rfl

/-- A chat that is removed is forgotten with what it was told; its flags stay up. -/
theorem erase_forgets (n : Node X) (contact : String) :
    n.Forgets { n with chats := n.chats.erase contact } := by
  refine .of_same (fun other chat' found' => ?_) (fun _ matter => Or.inl (by cases matter <;> rfl))
    fun _ matter follows => ?_
  · have found' : (n.chats.erase contact).lookup other = some chat' := found'
    rw [KeyedMap.lookup_erase_if] at found'
    split at found'
    · cases found'
    · exact ⟨chat', found', fun _ => Or.inl rfl, Or.inr ⟨rfl, Nat.le_refl _⟩⟩
  · cases matter <;> first | cases follows; done | exact Or.inl rfl

end Node

namespace Symbolic

/-- A device that has no chats yet. -/
def unpaired : Telling symbolic := { node := { device with chats := ∅ } }

/-- The same device once it is paired, with some answers about captures given and told in turn. -/
def answered (answers : List Bool) : Telling symbolic :=
  answers.foldl (fun w visible =>
      { w with
        node := (w.node.setCapturesVisible visible).tell .captures "them" 5
        way := w.way ++ [("them", .captures visible)] })
    { unpaired with node := { unpaired.node with chats := unpaired.node.chats.insert "them" chat } }

theorem unpaired_begins : unpaired.Begins where
  chats := rfl
  flagged := fun _ matter => by cases matter <;> rfl

/-- An answer is given and told in two steps of a run. -/
theorem answers_orderly {w : Telling symbolic} {matter : Matter} (visible : Bool)
    (reached : Reach unpaired (Telling.OrderlyStep "them" matter) w) {sent : Outbound symbolic}
    (handed : ((w.node.setCapturesVisible visible).tell .captures "them" 5).outbox
      = (w.node.setCapturesVisible visible).outbox ++ [sent]) :
    Reach unpaired (Telling.OrderlyStep "them" matter)
      { w with
        node := (w.node.setCapturesVisible visible).tell .captures "them" 5
        way := w.way ++ [("them", .captures visible)] } := by
  have current : (w.node.setCapturesVisible visible).current "them" .captures
      = some (.captures visible) := by
    unfold Node.setCapturesVisible
    split
    · rename_i same
      simp [Node.current, same]
    · rfl
  have given : Reach unpaired (Telling.OrderlyStep "them" matter)
      { w with node := w.node.setCapturesVisible visible } :=
    .step (.elsewhere (w.node.setCapturesVisible visible)) reached
      ⟨trivial, .elsewhere (Node.setCapturesVisible_forgets w.node visible)⟩
  exact .step (.tell .captures "them" 5) given ⟨trivial, .tell handed current⟩

/-- The pairing, and the first answers. -/
theorem answered_reach (matter : Matter) (fresh : chat.told matter = none) :
    Reach unpaired (Telling.OrderlyStep "them" matter) (answered [true])
      ∧ Reach unpaired (Telling.OrderlyStep "them" matter) (answered [true, false]) := by
  have paired : Reach unpaired (Telling.OrderlyStep "them" matter) (answered []) :=
    .step (.paired "them" chat) .start
      ⟨fun _ => ⟨fresh, unpaired_begins.flagged "them" matter⟩, .paired⟩
  have first := answers_orderly true paired rfl
  exact ⟨first, answers_orderly false first rfl⟩

end Symbolic

namespace Telling

/--
The answer "reported" goes out, then "not reported"; the first one is delivered and recorded as the
second, which fails. The contact was last told "reported", and is never told again.
-/
theorem newer_value_recorded :
    ∃ w, Reach Symbolic.unpaired Step w ∧ w.way = []
      ∧ w.last "them" .captures = some (.captures true)
      ∧ w.node.told "them" .captures = some (.captures false)
      ∧ w.node.current "them" .captures = some (.captures false)
      ∧ ∀ chat, w.node.chats.lookup "them" = some chat → w.node.due 9 "them" chat .captures = false := by
  let one : Telling symbolic :=
    { node := (Symbolic.answered [true, false]).node.applyAnnounced .captures "them" true 6
      way := [("them", .captures false)]
      heard := [("them", .captures true)] }
  let two : Telling symbolic :=
    { one with node := one.node.applyAnnounced .captures "them" false 7, way := [] }
  have told : Reach Symbolic.unpaired Step (Symbolic.answered [true, false]) :=
    (Symbolic.answered_reach .captures rfl).2.mono fun _ _ _ orderly => orderly.2
  have way : (Symbolic.answered [true, false]).way
    = [] ++ ("them", .captures true) :: [("them", .captures false)] := rfl
  have first : Step (Symbolic.answered [true, false]) (.done "them" (.captures true) true 6) one :=
    .done way
  have rest : one.way = [] ++ ("them", .captures false) :: [] := rfl
  have second : Step one (.done "them" (.captures false) false 7) two := .done rest
  refine ⟨two, .step _ (.step _ told first) second, rfl, by decide +kernel, by decide +kernel,
    by decide +kernel, ?_⟩
  intro chat found
  have due : ∀ chat ∈ two.node.chats.lookup "them", two.node.due 9 "them" chat .captures = false := by
    decide +kernel
  exact due chat found

/-- An answer that is delivered before it changes is what the chat records. -/
theorem told_was_delivered_answer :
    ∃ w : Telling symbolic, w.node.told "them" .captures = some (.captures true)
      ∧ w.last "them" .captures = some (.captures true) := by
  let one : Telling symbolic :=
    { node := (Symbolic.answered [true]).node.applyAnnounced .captures "them" true 6
      way := []
      heard := [("them", .captures true)] }
  have way : (Symbolic.answered [true]).way = [] ++ ("them", .captures true) :: [] := rfl
  have taken : Step (Symbolic.answered [true]) (.done "them" (.captures true) true 6) one := .done way
  have files : (Symbolic.answered [true]).node.flagged "them" .captures = some (.captures true) := by
    decide +kernel
  have reached : Reach Symbolic.unpaired (OrderlyStep "them" .captures) one :=
    .step (.done "them" (.captures true) true 6) (Symbolic.answered_reach .captures rfl).1
      ⟨fun _ _ _ => files, taken⟩
  have records : one.node.told "them" .captures = some (.captures true) := by decide +kernel
  exact ⟨one, records, (told_was_delivered Symbolic.unpaired_begins reached).1 _ records⟩

end Telling

end Nightdrop
