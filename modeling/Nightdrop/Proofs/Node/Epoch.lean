import Nightdrop.Proofs.Node.Polling

/-! A blob posted under one day's handle, and the days its recipient still polls while it waits. -/

namespace Nightdrop

variable {X : Externals}

namespace Poller

/-- Whether a handle is polled as one of a day's handles. -/
def polls (H : Hashes) (p : Poller X) (epoch : Nat) (handle : String) (now : Nat) : Prop :=
  ∃ fragment ∈ p.pollFragmentsAt H now, fragment.epoch = some epoch ∧ handle ∈ fragment.handles

/-- A day is polled until two days later, unless a drain has settled it. -/
theorem mem_polledEpochs {p : Poller X} {now epoch : Nat} (begun : epoch ≤ now / EPOCH_SECS) :
    epoch ∈ p.polledEpochs now
      ↔ now / EPOCH_SECS < epoch + 2
        ∧ (epoch < now / EPOCH_SECS → p.prevEpochDrained ≠ some epoch) := by
  unfold polledEpochs
  generalize now / EPOCH_SECS = today at *
  rcases Nat.lt_or_ge epoch today with past | current
  · by_cases yesterday : epoch + 1 = today
    · subst yesterday
      simp only [List.mem_append, List.mem_singleton, Nat.add_sub_cancel]
      grind
    · have old : ¬ today < epoch + 2 := by omega
      simp only [List.mem_append, List.mem_singleton]
      grind
  · have today_eq : today = epoch := by omega
    subst today_eq
    simp

/-- The day a drain would retire is the one before, once the margin has passed. -/
theorem settlingEpoch_eq_some {p : Poller X} {now epoch : Nat} :
    p.settlingEpoch now = some epoch
      ↔ now / EPOCH_SECS = epoch + 1 ∧ SKEW_MARGIN_SECS ≤ now % EPOCH_SECS
        ∧ p.prevEpochDrained ≠ some epoch := by
  have polled : epoch ≤ now / EPOCH_SECS → (epoch ∈ p.polledEpochs now ↔ _) := mem_polledEpochs
  unfold settlingEpoch
  generalize now / EPOCH_SECS = today at *
  constructor
  · intro retires
    simp only [] at retires
    split at retires
    · cases retires
    · split at retires
      · next begun late =>
        have named : today - 1 = epoch := by simpa using retires
        have next : today = epoch + 1 := by omega
        rw [named] at late
        exact ⟨next, late.1, ((polled (by omega)).mp late.2).2 (by omega)⟩
      · cases retires
  · rintro ⟨next, late, open'⟩
    have member : epoch ∈ p.polledEpochs now := (polled (by omega)).mpr ⟨by omega, fun _ => open'⟩
    rw [if_neg (by omega), if_pos ⟨late, by rw [next]; exact member⟩, next]
    rfl

/-- Only the handles of a polled day are polled as that day's. -/
theorem polled_of_polls {H : Hashes} {p : Poller X} {epoch now : Nat} {handle : String}
    (polls : p.polls H epoch handle now) : epoch ∈ p.polledEpochs now := by
  obtain ⟨fragment, member, day, _⟩ := polls
  obtain ⟨other, polled, part⟩ := List.mem_flatMap.mp member
  obtain ⟨bucket, _, made⟩ := List.mem_filterMap.mp part
  simp only [Option.ite_none_left_eq_some, Option.some.injEq] at made
  obtain ⟨-, rfl⟩ := made
  cases day
  exact polled

/-- An inbound handle of a polled day is in one of that day's fragments. -/
theorem polls_of_polled {H : Hashes} {p : Poller X} {epoch now : Nat} {label : Bytes}
    {handle : String} (inbound : (label, handle) ∈ p.inboundHandles H epoch)
    (polled : epoch ∈ p.polledEpochs now) : p.polls H epoch handle now := by
  have bucket := Nat.mod_lt (H.groupId [utf8 "nightdrop/poll/bucket", p.pollSeed,
    Hashes.toBeBytes epoch, label]) (by decide : 0 < POLL_FRAGMENTS)
  -- The fragment of the handle's own bucket has the handle, so it is not left out as empty.
  have kept : handle ∈ ((p.inboundHandles H epoch
      ++ p.dummyHandles H epoch (p.inboundHandles H epoch).length).filter (fun h =>
        H.groupId [utf8 "nightdrop/poll/bucket", p.pollSeed, Hashes.toBeBytes epoch, h.1]
            % POLL_FRAGMENTS
          = H.groupId [utf8 "nightdrop/poll/bucket", p.pollSeed, Hashes.toBeBytes epoch, label]
            % POLL_FRAGMENTS)).map Prod.snd :=
    List.mem_map.mpr ⟨_, List.mem_filter.mpr ⟨List.mem_append_left _ inbound, by simp⟩, rfl⟩
  refine ⟨_, List.mem_flatMap.mpr ⟨epoch, polled, List.mem_filterMap.mpr
    ⟨_, List.mem_range.mpr bucket, if_neg (List.ne_nil_of_mem kept)⟩⟩, rfl, kept⟩

/-- The mailbox of an open chat with both contributions is among our inbound handles. -/
theorem mem_inboundHandles {H : Hashes} {p : Poller X} {contact : String} {chat : Chat X}
    {pair : MailboxPair} {peer : Bytes} (found : p.chats.lookup contact = some chat)
    (still : chat.closed = false) (mailbox : chat.mailbox = some pair) (known : pair.peer = some peer)
    (epoch : Nat) :
    (utf8 contact, H.v2Handle (H.pairSecret p.identityKey contact pair.own peer) p.identityKey epoch)
      ∈ p.inboundHandles H epoch := by
  refine List.mem_append_left _ (List.mem_filterMap.mpr ⟨⟨contact, chat⟩, ?_, ?_⟩)
  · exact AList.mem_lookup_iff.mp found
  · simp [still, mailbox, known]

end Poller

/-- A drain in progress, as far as one blob goes. -/
structure Planned where
  epochs : List Nat
  settles : Option Nat
  /-- The relay that has the blob answered for the blob's handle. -/
  answered : Bool := false

/-- One blob and its recipient, in true time. -/
structure Watch where
  time : Nat := 0
  /-- The recipient's `prevEpochDrained`. -/
  drained : Option Nat := none
  /-- A relay accepted the blob. -/
  posted : Bool := false
  /-- The blob is on the relay, and no drain has collected it. -/
  waiting : Bool := false
  plan : Option Planned := none

/-- What happens to a blob and its recipient. -/
inductive WatchEvent where
  | wait
  | accept
  /-- The recipient plans a drain. -/
  | plan
  /-- The relay answers for the blob's handle, with all it has there or with less. -/
  | answer (whole : Bool)
  /-- The recipient takes over a drain, all of whose jobs were answered or not. -/
  | adopt (all : Bool)

/-- The recipient with what it has settled. -/
def Watch.recipient (p : Poller X) (w : Watch) : Poller X := { p with prevEpochDrained := w.drained }

/-- One step: the blob is accepted at `accepted` under a handle of `epoch`, and the recipient goes
by its own `clock`. -/
def Watch.Next (p : Poller X) (clock : Nat → Nat) (epoch accepted : Nat) (w : Watch)
    (event : WatchEvent) (w' : Watch) : Prop :=
  match event with
  | .wait => ∃ later, w.time ≤ later ∧ (w.posted ∨ later ≤ accepted) ∧ w' = { w with time := later }
  | .accept => w.time = accepted ∧ w.posted = false
      ∧ w' = { w with posted := true, waiting := true }
  | .plan => w' = { w with
      plan := some
        { epochs := (w.recipient p).polledEpochs (clock w.time)
          settles := (w.recipient p).settlingEpoch (clock w.time) } }
  | .answer whole => ∃ plan, w.plan = some plan ∧ w' = { w with
      waiting := w.waiting && !(whole && epoch ∈ plan.epochs)
      plan := some { plan with answered := true } }
  | .adopt all => ∃ plan, w.plan = some plan ∧ w' = { w with
      drained := (((w.recipient p).applyRelayHarvest
        ⟨[], [], plan.settles.filter (fun _ => plan.answered && all)⟩)).prevEpochDrained
      plan := none }

/-- Whether a relay answered with all it had. -/
def WatchEvent.Whole : WatchEvent → Prop
  | .answer whole => whole = true
  | _ => True

/-- The moments some run reaches, all of whose answers are whole. -/
def Watch.Reached (p : Poller X) (clock : Nat → Nat) (epoch accepted : Nat) : Watch → Prop :=
  Reach {} (fun w event w' => event.Whole ∧ Watch.Next p clock epoch accepted w event w')

/-- While a blob waits on its relay, its recipient has not stopped polling its handle. -/
def NeverStranded (H : Hashes) (p : Poller X) (clock : Nat → Nat) (epoch accepted : Nat)
    (handle : String) : Prop :=
  ∀ w, Watch.Reached p clock epoch accepted w → w.waiting = true →
    w.time < accepted + RELAY_TTL → epoch ≤ clock w.time / EPOCH_SECS →
      (w.recipient p).polls H epoch handle (clock w.time)

/-- What a run keeps when no drain can settle the day before the blob is accepted. -/
structure Watch.Sound (epoch accepted : Nat) (w : Watch) : Prop where
  early : w.posted = false → w.time ≤ accepted ∧ w.waiting = false
  late : w.posted = true → accepted ≤ w.time
  settled : w.drained = some epoch → w.posted = true ∧ w.waiting = false
  planned : ∀ plan, w.plan = some plan → plan.settles = some epoch →
    w.posted = true ∧ epoch ∈ plan.epochs ∧ (plan.answered = true → w.waiting = false)

/-- No step of a drain settles the day with the blob still waiting. -/
theorem Watch.Sound.step {p : Poller X} {clock : Nat → Nat} {epoch accepted : Nat} {w w' : Watch}
    {event : WatchEvent} (sound : w.Sound epoch accepted)
    (young : ∀ time ≤ accepted, clock time / EPOCH_SECS = epoch + 1 →
      clock time % EPOCH_SECS < SKEW_MARGIN_SECS)
    (whole : event.Whole) (taken : Watch.Next p clock epoch accepted w event w') :
    w'.Sound epoch accepted := by
  obtain ⟨early, passed, settled, planned⟩ := sound
  cases event with
  | wait =>
    obtain ⟨later, onward, bounded, rfl⟩ := taken
    refine ⟨fun unposted => ⟨?_, (early unposted).2⟩, fun posted => (passed posted).trans onward,
      settled, planned⟩
    rcases bounded with posted | bounded
    · exact absurd posted (by simpa using unposted)
    · exact bounded
  | accept =>
    obtain ⟨arrived, unposted, rfl⟩ := taken
    refine ⟨by simp, fun _ => arrived.ge, fun drained => ?_, fun plan made settles => ?_⟩
    · exact absurd (settled drained).1 (by simp [unposted])
    · exact absurd (planned plan made settles).1 (by simp [unposted])
  | plan =>
    cases taken
    refine ⟨early, passed, settled, fun plan made settles => ?_⟩
    cases made
    -- A drain that may settle the day starts after the blob was accepted, and asks for it.
    obtain ⟨next, late, open'⟩ := Poller.settlingEpoch_eq_some.mp settles
    have posted : w.posted = true := by
      by_contra unposted
      have before := (early (by simpa using unposted)).1
      exact absurd (young w.time before next) (by omega)
    exact ⟨posted, (Poller.mem_polledEpochs (by omega)).mpr ⟨by omega, fun _ => open'⟩, by simp⟩
  | answer complete =>
    obtain ⟨plan, made, rfl⟩ := taken
    have complete : complete = true := whole
    subst complete
    refine ⟨fun unposted => ⟨(early unposted).1, by simp [(early unposted).2]⟩, passed,
      fun drained => ⟨(settled drained).1, by simp [(settled drained).2]⟩, ?_⟩
    rintro _ ⟨⟩ settles
    obtain ⟨posted, asked, _⟩ := planned plan made settles
    exact ⟨posted, asked, fun _ => by simp [asked]⟩
  | adopt all =>
    obtain ⟨plan, made, rfl⟩ := taken
    refine ⟨early, passed, fun drained => ?_, by simp⟩
    simp only [Poller.applyRelayHarvest, Watch.recipient, Option.or_eq_some_iff] at drained
    rcases drained with adopted | ⟨_, kept⟩
    · obtain ⟨settles, both⟩ := Option.filter_eq_some_iff.mp adopted
      have answered : plan.answered = true := by simp at both; exact both.1
      exact ⟨(planned plan made settles).1, (planned plan made settles).2.2 answered⟩
    · exact settled kept

/-- Two people whose chats hold the mailbox they agreed on: the sender may post to it, and the
recipient polls it. -/
structure Agreed (sender : Node X) (recipient : Poller X) (pair : MailboxPair) (peer : Bytes)
    (chat back : Chat X) : Prop where
  there : recipient.chats.lookup sender.identityKey = some chat
  still : chat.closed = false
  mailbox : chat.mailbox = some pair
  known : pair.peer = some peer
  mirrored : sender.chats.lookup recipient.identityKey = some back
  confirmed : back.mailbox = some
    { own := peer, peer := some pair.own, peerConfirmed := true, confirmSent := true }

/-- The handle the sender posts under is the one its recipient polls for that day. -/
theorem Agreed.inbound {H : Hashes} {sender : Node (X.hashing H)} {recipient : Poller (X.hashing H)}
    {pair : MailboxPair} {peer : Bytes} {chat back : Chat (X.hashing H)}
    (agreed : Agreed sender recipient pair peer chat back) {now : Nat} {handle : String}
    (posts : sender.postHandle recipient.identityKey now = some handle) :
    (utf8 sender.identityKey, handle) ∈ recipient.inboundHandles H (now / EPOCH_SECS) := by
  have inbound := Poller.mem_inboundHandles (H := H) agreed.there agreed.still agreed.mailbox
    agreed.known (now / EPOCH_SECS)
  -- The sender derives the same secret from the same contributions.
  rw [Hashes.pairSecret_comm] at inbound
  have same : handle = H.v2Handle (H.pairSecret sender.identityKey recipient.identityKey peer pair.own)
      recipient.identityKey (now / EPOCH_SECS) := by
    unfold Node.postHandle at posts
    rw [agreed.mirrored] at posts
    simp only [Option.bind_eq_bind, Option.bind_some, agreed.confirmed, if_true] at posts
    exact (Option.some.inj posts).symm
  rwa [same]

/-- A drain planned when a day can be settled, answered in full and taken over, settles it. -/
theorem Watch.settled_reached (p : Poller X) {clock : Nat → Nat} {epoch accepted time : Nat}
    (before : time ≤ accepted) (next : clock time / EPOCH_SECS = epoch + 1)
    (late : SKEW_MARGIN_SECS ≤ clock time % EPOCH_SECS) :
    Watch.Reached p clock epoch accepted { time := time, drained := some epoch } := by
  have settles : (Watch.recipient p { time := time }).settlingEpoch (clock time) = some epoch :=
    Poller.settlingEpoch_eq_some.mpr ⟨next, late, by simp [Watch.recipient]⟩
  generalize asked : (Watch.recipient p { time := time }).polledEpochs (clock time) = epochs
  have waited : Watch.Reached p clock epoch accepted { time := time } :=
    .step .wait .start ⟨trivial, time, Nat.zero_le _, .inr before, rfl⟩
  have planned : Watch.Reached p clock epoch accepted
      { time := time, plan := some { epochs := epochs, settles := some epoch } } :=
    .step .plan waited ⟨trivial, by rw [← asked, ← settles]; rfl⟩
  have answered : Watch.Reached p clock epoch accepted
      { time := time
        plan := some { epochs := epochs, settles := some epoch, answered := true } } :=
    .step (.answer true) planned ⟨rfl, _, rfl, rfl⟩
  exact .step (.adopt true) answered ⟨trivial, _, rfl, rfl⟩

/-- A blob accepted in time goes on waiting while nobody drains. -/
theorem Watch.waiting_reached (p : Poller X) (clock : Nat → Nat) (epoch : Nat)
    {accepted time now : Nat} {drained : Option Nat} (before : time ≤ accepted) (after : accepted ≤ now)
    (reached : Watch.Reached p clock epoch accepted { time := time, drained := drained }) :
    Watch.Reached p clock epoch accepted
      { time := now, drained := drained, posted := true, waiting := true } := by
  have waited : Watch.Reached p clock epoch accepted { time := accepted, drained := drained } :=
    .step .wait reached ⟨trivial, accepted, before, .inr le_rfl, rfl⟩
  have there : Watch.Reached p clock epoch accepted
      { time := accepted, drained := drained, posted := true, waiting := true } :=
    .step .accept waited ⟨trivial, rfl, rfl, rfl⟩
  exact .step .wait there ⟨trivial, now, after, .inl rfl, rfl⟩

/-- Mail posted under a sender's current day is polled as long as it waits exactly when, by the
recipient's own clock, the second midnight after that day does not come before the mail expires and
the day was not due to be settled before the mail was accepted. -/
theorem mail_polled_iff {H : Hashes} {sender : Node (X.hashing H)}
    {recipient : Poller (X.hashing H)} {pair : MailboxPair} {peer : Bytes}
    {chat back : Chat (X.hashing H)} (agreed : Agreed sender recipient pair peer chat back)
    (sends clock : Nat → Nat)
    (skewed : ∀ time, clock time ≤ time + SKEW_MARGIN_SECS ∧ time ≤ clock time + SKEW_MARGIN_SECS)
    {posted accepted : Nat} {handle : String}
    (posts : sender.postHandle recipient.identityKey (sends posted) = some handle) :
    NeverStranded H recipient clock (sends posted / EPOCH_SECS) accepted handle
      ↔ (∀ time, accepted ≤ time → time < accepted + RELAY_TTL →
            clock time / EPOCH_SECS < sends posted / EPOCH_SECS + 2)
        ∧ ∀ time ≤ accepted, clock time / EPOCH_SECS = sends posted / EPOCH_SECS + 1 →
            clock time % EPOCH_SECS < SKEW_MARGIN_SECS := by
  have inbound := agreed.inbound posts
  generalize sends posted / EPOCH_SECS = epoch at *
  constructor
  · intro never
    refine ⟨fun time after live => ?_, fun time before next => ?_⟩
    · -- Nobody drains, and the blob still waits when its day is two days old.
      by_contra old
      have reached := Watch.waiting_reached recipient clock epoch
        (Nat.zero_le accepted) after Reach.start
      have polls := never _ reached rfl live (by simp only []; omega)
      have polled := (Poller.mem_polledEpochs (by simp only []; omega)).mp (Poller.polled_of_polls polls)
      exact old polled.1
    · -- A drain settles the day, and only then the blob arrives.
      by_contra late
      have late : SKEW_MARGIN_SECS ≤ clock time % EPOCH_SECS := by omega
      have after : accepted ≤ accepted + RELAY_TTL - 1 := by
        simp only [RELAY_TTL]
        omega
      have reached := Watch.waiting_reached recipient clock epoch before after
        (Watch.settled_reached recipient before next late)
      have tomorrow : epoch < clock (accepted + RELAY_TTL - 1) / EPOCH_SECS := by
        have ahead := (skewed time).1
        have behind := (skewed (accepted + RELAY_TTL - 1)).2
        simp only [RELAY_TTL, EPOCH_SECS, SKEW_MARGIN_SECS] at *
        omega
      have polls := never _ reached rfl (by simp only [RELAY_TTL]; omega) (Nat.le_of_lt tomorrow)
      have polled := (Poller.mem_polledEpochs (Nat.le_of_lt tomorrow)).mp
        (Poller.polled_of_polls polls)
      exact polled.2 tomorrow rfl
  · rintro ⟨recent, young⟩ w reached waiting live begun
    have sound : w.Sound epoch accepted := Reach.invariant (P := Watch.Sound epoch accepted)
      ⟨by simp, by simp, by simp, by simp⟩
      (fun _ _ _ _ sound taken => sound.step young taken.1 taken.2) reached
    have after : accepted ≤ w.time := by
      refine sound.late ?_
      by_contra unposted
      exact absurd (sound.early (by simpa using unposted)).2 (by simp [waiting])
    refine Poller.polls_of_polled inbound
      ((Poller.mem_polledEpochs begun).mpr ⟨recent w.time after live, fun _ drained => ?_⟩)
    exact absurd (sound.settled drained).2 (by simp [waiting])

namespace Symbolic

/-- A chat whose mailbox is agreed. -/
def agreedChat (own peer : Bytes) : Chat (symbolic.hashing hashes) where
  peerAddress := "them.onion"
  session := ({ pairing := "first", opener := true } : Session)
  authorized := true
  mailbox := some { own := own, peer := some peer, peerConfirmed := true, confirmSent := true }

/-- The side that posts. -/
def poster : Node (symbolic.hashing hashes) where
  identityKey := "them"
  account := (["second"] : Account)
  address := "them.onion"
  chats := (∅ : KeyedMap String _).insert "me" (agreedChat [2] [1])

/-- The side that polls. -/
def reader : Poller (symbolic.hashing hashes) where
  identityKey := "me"
  account := (["second"] : Account)
  address := "me.onion"
  chats := (∅ : KeyedMap String _).insert "them" (agreedChat [1] [2])

theorem agreed : Agreed poster reader
    { own := [1], peer := some [2], peerConfirmed := true, confirmSent := true } [2]
    (agreedChat [1] [2]) (agreedChat [2] [1]) :=
  ⟨rfl, rfl, rfl, rfl, rfl, rfl⟩

/-- The handle posted under at one moment of the sender's clock. -/
def postedUnder (now : Nat) : String :=
  hashes.v2Handle (hashes.pairSecret "them" "me" [2] [1]) "me" (now / EPOCH_SECS)

end Symbolic

/-- With both clocks right, mail of a whole day is polled as long as it waits. -/
theorem midday_mail_polled :
    NeverStranded Symbolic.hashes Symbolic.reader id 10 907200 (Symbolic.postedUnder 907200) :=
  have posts : Symbolic.poster.postHandle Symbolic.reader.identityKey 907200
      = some (Symbolic.postedUnder 907200) := rfl
  (mail_polled_iff Symbolic.agreed id id (fun time => by simp) posts).mpr
    ⟨fun time after live => by
      simp only [id, RELAY_TTL, EPOCH_SECS] at *
      omega,
    fun time before next => by
      simp only [id, EPOCH_SECS, SKEW_MARGIN_SECS] at *
      omega⟩

/-- A sender two hours slow posts an hour after midnight, and its recipient, away all that day, is
back soon after the next midnight: the mail is still there, under a handle nobody polls. -/
theorem slow_sender_stranded :
    ∃ (sends clock : Nat → Nat) (posted : Nat) (handle : String),
      (∀ time, sends time ≤ time + SKEW_MARGIN_SECS ∧ time ≤ sends time + SKEW_MARGIN_SECS)
        ∧ (∀ time, clock time ≤ time + SKEW_MARGIN_SECS ∧ time ≤ clock time + SKEW_MARGIN_SECS)
        ∧ Symbolic.poster.postHandle "me" (sends posted) = some handle
        ∧ ¬ NeverStranded Symbolic.hashes Symbolic.reader clock (sends posted / EPOCH_SECS) posted
            handle := by
  refine ⟨fun time => time - 7200, id, 954000, Symbolic.postedUnder 946800,
    fun time => by simp only [SKEW_MARGIN_SECS]; omega, fun time => by simp, rfl, fun never => ?_⟩
  have reached := Watch.waiting_reached Symbolic.reader id 10 (Nat.zero_le 954000)
    (by decide : 954000 ≤ 1036860) Reach.start
  have polls := never _ reached rfl (by decide) (by decide)
  exact absurd ((Poller.mem_polledEpochs (by decide)).mp (Poller.polled_of_polls polls)).1 (by decide)

end Nightdrop
