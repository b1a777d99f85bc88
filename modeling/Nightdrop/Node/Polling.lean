import Nightdrop.Node.Mailbox
import Nightdrop.Node.Persist
import Nightdrop.Relay.Client

/-! Which relays, days and handles a device polls for its mail, and when a day is retired. -/

namespace Nightdrop

/-- A device with what it keeps about its own polling. -/
structure Poller (X : Externals) extends Node X where
  /-- Relays that left the list, each with the time we stop draining it. -/
  relaysDraining : List (RelayEntry × Nat) := []
  /-- Whether each relay we poll answered the last drain. -/
  relayReachable : KeyedMap String Bool := ∅
  /-- The last day whose handles a drain found settled. -/
  prevEpochDrained : Option Nat := none
  pollSeed : Bytes := []

/-- One group of handles polled together. -/
structure PollFragment where
  group : Nat
  epoch : Option Nat
  handles : List String
deriving DecidableEq, Repr

variable {X : Externals}

namespace Poller

/-- Our relay list with blanks and repetitions dropped, and what the cap cut from it. -/
def normalizeRelays : List RelayEntry → List RelayEntry → List RelayEntry →
    List RelayEntry × List RelayEntry
  | kept, overflow, [] => (kept, overflow)
  | kept, overflow, entry :: rest =>
    let entry := match entry with
      | .onion addr => RelayEntry.onion (trimText addr)
      | .nightDrop => .nightDrop
    if entry = .onion "" ∨ entry ∈ kept ∨ entry ∈ overflow then normalizeRelays kept overflow rest
    else if kept.length < MAX_RELAYS then normalizeRelays (kept ++ [entry]) overflow rest
    else normalizeRelays kept (overflow ++ [entry]) rest

/-- The draining entries once `gone` starts to drain until `deadline`. -/
def drainUntil (deadline : Nat) (draining : List (RelayEntry × Nat)) (gone : RelayEntry) :
    List (RelayEntry × Nat) :=
  draining.filter (fun d => d.1 ≠ gone) ++ [(gone, deadline)]

/-- The entries we poll as of `now`: our list, then the relays still draining. -/
def polledEntries (p : Poller X) (now : Nat) : List RelayEntry :=
  p.relays ++ (p.relaysDraining.filter (fun d => now < d.2)).map Prod.fst

/-- What we poll as of `now`. -/
def polledRelaySet (p : Poller X) (now : Nat) : RelaySet := RelaySet.of (p.polledEntries now)

/-- Replaces our relay list; a relay that leaves it is drained for another `RELAY_TTL`. -/
def setRelayListAt (p : Poller X) (list : List RelayEntry) (now : Nat) : Poller X :=
  let normal := normalizeRelays [] [] list
  let gone := p.relays.filter (· ∉ normal.1) ++ normal.2
  let draining := gone.foldl (drainUntil (now + RELAY_TTL)) p.relaysDraining
  let p := { p with
    relays := normal.1
    relaysDraining := draining.filter (fun d => d.1 ∉ normal.1 ∧ now < d.2) }
  let keep := (p.polledRelaySet now).relays
  { p with
    relayReachable := p.relayReachable.mapMaybe (fun addr seen => if addr ∈ keep then some seen else none)
    dirty := true }

/-- The days whose handles we poll at `now`. -/
def polledEpochs (p : Poller X) (now : Nat) : List Nat :=
  let today := now / EPOCH_SECS
  (if 0 < today ∧ p.prevEpochDrained ≠ some (today - 1) then [today - 1] else [])
    ++ [today]
    ++ if EPOCH_SECS - SKEW_MARGIN_SECS ≤ now % EPOCH_SECS then [today + 1] else []

/-- The day a successful drain at `now` would retire. -/
def settlingEpoch (p : Poller X) (now : Nat) : Option Nat :=
  let today := now / EPOCH_SECS
  if today = 0 then none
  else if SKEW_MARGIN_SECS ≤ now % EPOCH_SECS ∧ today - 1 ∈ p.polledEpochs now then some (today - 1)
  else none

/-- The secret behind our own cover-traffic handle. -/
def coverSecret (H : Hashes) (p : Poller X) : Bytes :=
  H.derive (utf8 "nightdrop/mailbox/v2/cover") p.pollSeed (utf8 "self")

/-- Our inbound handles of one day, each with the label of its bucket: one for every open chat
that holds both contributions, then the cover handle. -/
def inboundHandles (H : Hashes) (p : Poller X) (epoch : Nat) : List (Bytes × String) :=
  p.chats.entries.filterMap (fun e =>
    if e.2.closed then none
    else e.2.mailbox.bind (fun pair => pair.peer.map (fun peer =>
      (utf8 e.1, H.v2Handle (H.pairSecret p.identityKey e.1 pair.own peer) p.identityKey epoch))))
    ++ [(utf8 "cover", H.v2Handle (p.coverSecret H) p.identityKey epoch)]

/-- The dummies that pad `real` handles of one day. -/
def dummyHandles (H : Hashes) (p : Poller X) (epoch real : Nat) : List (Bytes × String) :=
  let padded := (max real 1 + POLL_PAD - 1) / POLL_PAD * POLL_PAD
  (List.range (padded - real)).map (fun i =>
    let label := utf8 "dummy" ++ Hashes.toBeBytes i
    let id := H.groupId [utf8 "nightdrop/poll/dummy", p.pollSeed, Hashes.toBeBytes epoch, label]
    (label, "mbx:" ++ H.base64Handle (H.dummyBytes id p.pollSeed)))

/-- The fragments of one day: the handles by bucket, without the empty ones. -/
def fragmentsOf (H : Hashes) (p : Poller X) (epoch : Nat) : List PollFragment :=
  let e := Hashes.toBeBytes epoch
  let inbound := p.inboundHandles H epoch
  let labelled := inbound ++ p.dummyHandles H epoch inbound.length
  let bucketOf := fun label =>
    H.groupId [utf8 "nightdrop/poll/bucket", p.pollSeed, e, label] % POLL_FRAGMENTS
  (List.range POLL_FRAGMENTS).filterMap (fun b =>
    let handles := (labelled.filter (fun h => bucketOf h.1 = b)).map Prod.snd
    if handles = [] then none
    else some
      { group := H.groupId [utf8 "nightdrop/isolation/poll", p.pollSeed, e, Hashes.toBeBytes b]
        epoch := some epoch
        handles := handles })

/-- Our mailboxes in polling fragments, for the days polled at `now`. -/
def pollFragmentsAt (H : Hashes) (p : Poller X) (now : Nat) : List PollFragment :=
  (p.polledEpochs now).flatMap (p.fragmentsOf H)

/-- The relays a drain contacts, each once: the Night Drop relay as `none`, then the onions. -/
def drainRelays (p : Poller X) (now : Nat) : List Relay.Addr :=
  let route := p.toNode.expandRelaySet (p.polledRelaySet now)
  let seen := (route.1.bind (·.addr)).toList
  (if route.1.isSome then [none] else [])
    ++ (route.2.filter (· ∉ seen)).map some

/-- What a drain at `now` asks for, its jobs in the order `shuffle` puts them. -/
def relayDrainPlanAt (H : Hashes) (p : Poller X)
    (shuffle : List Relay.DrainJob → List Relay.DrainJob) (now : Nat) : Option Relay.RelayDrainPlan :=
  if p.drainRelays now = [] then none
  else some
    { jobs := shuffle ((p.drainRelays now).flatMap (fun addr =>
        (p.pollFragmentsAt H now).map (fun fragment =>
          { addr := addr, epoch := fragment.epoch, handles := fragment.handles })))
      settles := p.settlingEpoch now }

/-- Takes over what a drain learned about the relays and the settled day. -/
def applyRelayHarvest (p : Poller X) (harvest : Relay.RelayHarvest) : Poller X :=
  { p with
    relayReachable := harvest.reachability.foldl (fun seen r => seen.insert r.1 r.2) p.relayReachable
    prevEpochDrained := harvest.settled.or p.prevEpochDrained }

/-- What the state file keeps of a device and of its polling. -/
structure Persisted (X : Externals) extends PersistedState X where
  relaysDraining : List (RelayEntry × Nat)
  /-- The seed of the polling partition, in base64; absent from an older state. -/
  pollSeed : Option String

/-- The state file of a polling device. -/
def exportState (H : Hashes) (p : Poller X) : Persisted X :=
  { p.toNode.exportState with
    relaysDraining := p.relaysDraining
    pollSeed := some (H.base64Handle p.pollSeed) }

/-- The device a restart makes of a state file; a file without a seed gets the fresh one. -/
def restore (H : Hashes) (state : Persisted X) (platform : Node.Platform) (fresh : Bytes)
    (now : Nat) : Poller X :=
  let overflow :=
    (normalizeRelays [] [] (state.relays.getD (.nightDrop :: state.myRelays.map .onion))).2
  let seed := (state.pollSeed.bind H.unbase64Handle).filter (fun bytes => bytes.length = 32)
  let n := Node.restore state.toPersistedState platform now
  { n with
    relaysDraining := state.relaysDraining ++ overflow.map (fun entry => (entry, now + RELAY_TTL))
    pollSeed := seed.getD fresh
    dirty := seed.isNone || n.dirty }

/-- The list that is kept is the one a saved state would be restored to. -/
theorem normalizeRelays_kept (list kept overflow : List RelayEntry) (full : kept.length ≤ MAX_RELAYS)
    (cut : overflow ≠ [] → kept.length = MAX_RELAYS) :
    (normalizeRelays kept overflow list).1 = Nightdrop.normalizeRelays kept list := by
  induction list generalizing kept overflow with
  | nil => rfl
  | cons entry rest ih =>
    simp only [normalizeRelays, Nightdrop.normalizeRelays]
    grind

end Poller

end Nightdrop
