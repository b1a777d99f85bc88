import Nightdrop.Lib.Reach
import Nightdrop.Node.Polling
import Nightdrop.Node.Symbolic

/-! Which relays a drain really contacts, and how long a removed relay stays among them. -/

namespace Nightdrop

namespace Node

/-- One more address of a list whose repetitions go. -/
theorem eachOnce_append (addrs : List String) (addr : String) :
    eachOnce (addrs ++ [addr])
      = if addr ∈ eachOnce addrs then eachOnce addrs else eachOnce addrs ++ [addr] := by
  unfold eachOnce
  rw [List.foldl_append]
  rfl

/-- Dropping repetitions loses no address. -/
@[simp] theorem mem_eachOnce (addrs : List String) (addr : String) :
    addr ∈ eachOnce addrs ↔ addr ∈ addrs := by
  induction addrs using List.reverseRecOn with
  | nil => simp [eachOnce]
  | append_singleton front last ih =>
    rw [eachOnce_append]
    split <;> grind

/-- The first occurrences of a list start with those of its front. -/
theorem eachOnce_prefix (front back : List String) :
    eachOnce front <+: eachOnce (front ++ back) := by
  induction back using List.reverseRecOn with
  | nil => simp
  | append_singleton back last ih =>
    rw [← List.append_assoc, eachOnce_append]
    split
    · exact ih
    · exact ih.trans (List.prefix_append _ _)

/-- An address is among the first `k` exactly when fewer than `k` others come before it. -/
theorem mem_take_eachOnce {addrs : List String} {addr : String} (member : addr ∈ addrs) (k : Nat) :
    addr ∈ (eachOnce addrs).take k ↔ (eachOnce (addrs.takeWhile (· ≠ addr))).length < k := by
  -- The list is what comes before the address, the address, and the rest.
  obtain ⟨front, back, rfl, absent⟩ := List.eq_append_cons_of_mem member
  have before : (front ++ addr :: back).takeWhile (· ≠ addr) = front := by
    rw [List.takeWhile_append_of_pos (by intro a inside; simp; rintro rfl; exact absent inside)]
    simp
  rw [before]
  obtain ⟨rest, whole⟩ := eachOnce_prefix (front ++ [addr]) back
  rw [eachOnce_append, if_neg (by simpa using absent), List.append_assoc, List.append_assoc] at whole
  rw [List.singleton_append] at whole
  show addr ∈ (eachOnce (front ++ ([addr] ++ back))).take k ↔ _
  rw [← whole]
  have notAhead : addr ∉ eachOnce front := by simpa using absent
  by_cases early : (eachOnce front).length < k
  · simp only [early, iff_true]
    rw [List.take_append, List.mem_append]
    right
    obtain ⟨d, rfl⟩ : ∃ d, k = (eachOnce front).length + (d + 1) := ⟨k - (eachOnce front).length - 1, by omega⟩
    simp
  · simp only [early, iff_false]
    rw [List.take_append_of_le_length (by omega)]
    exact fun inside => notAhead (List.mem_of_mem_take inside)

end Node

/-- The onion an entry of a relay list names. -/
def RelayEntry.onion? : RelayEntry → Option String
  | .nightDrop => none
  | .onion addr => some addr

/-- A list's set has the Night Drop relay when the list does, and its onions, each once. -/
theorem RelaySet.of_spec (entries : List RelayEntry) :
    RelaySet.of entries
      = { nightdrop := .nightDrop ∈ entries
          relays := Node.eachOnce (entries.filterMap RelayEntry.onion?) } := by
  induction entries using List.reverseRecOn with
  | nil => rfl
  | append_singleton front last ih =>
    unfold RelaySet.of at ih ⊢
    rw [List.foldl_append, ih]
    cases last with
    | nightDrop => simp [show RelayEntry.onion? .nightDrop = none from rfl]
    | onion addr =>
      simp only [List.foldl_cons, List.foldl_nil, List.filterMap_append, List.filterMap_cons,
        List.filterMap_nil, RelayEntry.onion?, Node.eachOnce_append]
      split <;> simp

variable {X : Externals}

namespace Poller

/-- Whether a drain plan asks a relay of ours for our mail. -/
def contacts (p : Poller X) (plan : Option Relay.RelayDrainPlan) : RelayEntry → Prop
  | .nightDrop => ∃ drain, plan = some drain ∧ ∃ job ∈ drain.jobs, job.addr = none
  | .onion addr => ∃ drain, plan = some drain ∧ ∃ job ∈ drain.jobs,
      job.addr = some addr ∨ (job.addr = none ∧ p.relay.bind (·.addr) = some addr)

/-- The onions that stand before `addr` among our list and the relays still draining. -/
def onionsAhead (p : Poller X) (now : Nat) (addr : String) : List String :=
  Node.eachOnce (((p.polledEntries now).filterMap RelayEntry.onion?).takeWhile (· ≠ addr))

/-- A relay we poll that the cap on a contact's set does not cut: the Night Drop relay with a client
for it, an onion with fewer than `MAX_RELAYS` before it, or one the Night Drop relay brings along. -/
def Covered (p : Poller X) (now : Nat) : RelayEntry → Prop
  | .nightDrop => p.relay.isSome
  | .onion addr => (p.onionsAhead now addr).length < MAX_RELAYS
      ∨ (.nightDrop ∈ p.polledEntries now
          ∧ (addr ∈ p.discoveredRelays ∨ p.relay.bind (·.addr) = some addr))

/-- Every day's handles fall into some fragment: the cover handle is always there. -/
theorem fragmentsOf_ne_nil (H : Hashes) (p : Poller X) (epoch : Nat) : p.fragmentsOf H epoch ≠ [] := by
  intro nothing
  have bucket := Nat.mod_lt (H.groupId [utf8 "nightdrop/poll/bucket", p.pollSeed,
    Hashes.toBeBytes epoch, utf8 "cover"]) (by decide : 0 < POLL_FRAGMENTS)
  unfold fragmentsOf at nothing
  rw [List.filterMap_eq_nil_iff] at nothing
  have dropped := nothing _ (List.mem_range.mpr bucket)
  simp [inboundHandles] at dropped

/-- Some fragment is polled at any time: today's. -/
theorem pollFragmentsAt_ne_nil (H : Hashes) (p : Poller X) (now : Nat) :
    p.pollFragmentsAt H now ≠ [] := by
  intro nothing
  unfold pollFragmentsAt at nothing
  rw [List.flatMap_eq_nil_iff] at nothing
  exact p.fragmentsOf_ne_nil H _ (nothing (now / EPOCH_SECS) (by simp [polledEpochs]))

/-- A plan asks exactly the relays a drain contacts. -/
theorem plan_asks {H : Hashes} {shuffle : List Relay.DrainJob → List Relay.DrainJob}
    (permutes : ∀ jobs, (shuffle jobs).Perm jobs) (p : Poller X) (now : Nat) (addr : Relay.Addr) :
    (∃ drain, p.relayDrainPlanAt H shuffle now = some drain ∧ ∃ job ∈ drain.jobs, job.addr = addr)
      ↔ addr ∈ p.drainRelays now := by
  unfold relayDrainPlanAt
  split
  next nobody => simp [nobody]
  next =>
    obtain ⟨fragment, polled⟩ := List.exists_mem_of_ne_nil _ (p.pollFragmentsAt_ne_nil H now)
    constructor
    · rintro ⟨drain, made, job, member, rfl⟩
      cases made
      have member := (permutes _).mem_iff.mp member
      grind
    · intro member
      refine ⟨_, rfl, ⟨addr, fragment.epoch, fragment.handles⟩, (permutes _).mem_iff.mpr ?_, rfl⟩
      grind

/-- A drain reaches a relay we poll exactly when the cap leaves it in, or Night Drop brings it. -/
theorem contacts_iff {H : Hashes} {shuffle : List Relay.DrainJob → List Relay.DrainJob}
    (permutes : ∀ jobs, (shuffle jobs).Perm jobs) {p : Poller X} {now : Nat} {entry : RelayEntry}
    (polled : entry ∈ p.polledEntries now) :
    p.contacts (p.relayDrainPlanAt H shuffle now) entry ↔ p.Covered now entry := by
  have asks := plan_asks permutes p now (H := H)
  unfold drainRelays Node.expandRelaySet polledRelaySet at asks
  rw [RelaySet.of_spec] at asks
  cases entry with
  | nightDrop =>
    refine (asks none).trans ?_
    simp [polled, Covered]
  | onion addr =>
    -- Either a job names the onion, or the Night Drop client's own address is the onion.
    have either : p.contacts (p.relayDrainPlanAt H shuffle now) (.onion addr)
        ↔ (∃ drain, p.relayDrainPlanAt H shuffle now = some drain
              ∧ ∃ job ∈ drain.jobs, job.addr = some addr)
          ∨ ((∃ drain, p.relayDrainPlanAt H shuffle now = some drain
              ∧ ∃ job ∈ drain.jobs, job.addr = none) ∧ p.relay.bind (·.addr) = some addr) := by
      unfold contacts
      grind
    have member : addr ∈ (p.polledEntries now).filterMap RelayEntry.onion? :=
      List.mem_filterMap.mpr ⟨_, polled, rfl⟩
    have covered : p.Covered now (.onion addr)
        ↔ addr ∈ (Node.eachOnce ((p.polledEntries now).filterMap RelayEntry.onion?)).take MAX_RELAYS
          ∨ (.nightDrop ∈ p.polledEntries now
              ∧ (addr ∈ p.discoveredRelays ∨ p.relay.bind (·.addr) = some addr)) := by
      rw [Node.mem_take_eachOnce member]
      rfl
    rw [either, asks, asks, covered]
    by_cases nightdrop : RelayEntry.nightDrop ∈ p.polledEntries now
    · cases client : p.relay with
      | none => simp [nightdrop]
      | some relay =>
        cases known : relay.addr with
        | none => simp [nightdrop, known]
        | some own =>
          simp [nightdrop, known]
          grind
    · simp [nightdrop]

end Poller

/-- A device at one moment. -/
structure Moment (X : Externals) where
  poller : Poller X
  now : Nat

/-- What happens between two moments, as far as the polled relays go. -/
inductive ListEvent where
  /-- The user replaces the relay list. -/
  | setRelayList (list : List RelayEntry)
  /-- Anything else a device does. -/
  | other

/-- Time never goes back, and only an edit of the list touches it or what drains out of it. -/
def Moment.Next (s : Moment X) (event : ListEvent) (s' : Moment X) : Prop :=
  s.now ≤ s'.now ∧ match event with
    | .setRelayList list => s'.poller = s.poller.setRelayListAt list s'.now
    | .other => s'.poller.relays = s.poller.relays
        ∧ s'.poller.relaysDraining = s.poller.relaysDraining

namespace Poller

/-- The relays `gone` that start to drain do so until the deadline; the others drain on. -/
theorem mem_drainUntil {deadline : Nat} {gone : List RelayEntry} {draining : List (RelayEntry × Nat)}
    {entry : RelayEntry} {due : Nat} :
    (entry, due) ∈ gone.foldl (drainUntil deadline) draining
      ↔ (entry ∈ gone ∧ due = deadline) ∨ (entry ∉ gone ∧ (entry, due) ∈ draining) := by
  induction gone generalizing draining with
  | nil => simp
  | cons first rest ih =>
    rw [List.foldl_cons, ih]
    simp only [drainUntil]
    grind

/-- What drains after an edit of the list drains past the moment of the edit. -/
theorem setRelayListAt_live (p : Poller X) (list : List RelayEntry) (now : Nat) :
    ∀ d ∈ (p.setRelayListAt list now).relaysDraining, now < d.2 := by
  intro d kept
  simp only [setRelayListAt, List.mem_filter, decide_eq_true_eq] at kept
  exact kept.2.2

/-- A relay is in the list, or drains at least until `least`. -/
def Keeps (least : Nat) (entry : RelayEntry) (p : Poller X) : Prop :=
  entry ∈ p.relays ∨ ∃ deadline, least ≤ deadline ∧ (entry, deadline) ∈ p.relaysDraining

/-- An edit before a relay's time is up drops it from neither the list nor what drains. -/
theorem Keeps.edit {least now : Nat} {entry : RelayEntry} {p : Poller X} (kept : p.Keeps least entry)
    (early : now < least) (soon : least ≤ now + RELAY_TTL) (list : List RelayEntry) :
    (p.setRelayListAt list now).Keeps least entry := by
  show entry ∈ (normalizeRelays [] [] list).1 ∨ _
  by_cases back : entry ∈ (normalizeRelays [] [] list).1
  · exact .inl back
  · right
    simp only [setRelayListAt, List.mem_filter, decide_eq_true_eq, mem_drainUntil]
    by_cases goes : entry ∈ p.relays.filter (· ∉ (normalizeRelays [] [] list).1)
        ++ (normalizeRelays [] [] list).2
    · have running : 0 < RELAY_TTL := by decide
      exact ⟨now + RELAY_TTL, soon, .inl ⟨goes, rfl⟩, back, by omega⟩
    · -- It was not in the list, or this edit would have taken it out.
      rcases kept with listed | ⟨deadline, enough, drains⟩
      · exact absurd (List.mem_append_left _ (List.mem_filter.mpr ⟨listed, by simpa using back⟩)) goes
      · exact ⟨deadline, enough, .inr ⟨goes, drains⟩, back, by omega⟩

end Poller

/-- Until a relay's time is up, no step drops it from both the list and what drains. -/
theorem Moment.keeps {s s' : Moment X} (run : Reach s Moment.Next s') {entry : RelayEntry}
    (listed : entry ∈ s.poller.relays) :
    s.now ≤ s'.now
      ∧ (s'.now < s.now + RELAY_TTL → s'.poller.Keeps (s.now + RELAY_TTL) entry) := by
  induction run with
  | start => exact ⟨le_rfl, fun _ => .inl listed⟩
  | @step t t' event earlier taken ih =>
    obtain ⟨started, kept⟩ := ih
    obtain ⟨later, effect⟩ := taken
    refine ⟨started.trans later, fun recent => ?_⟩
    have kept := kept (by omega)
    cases event with
    | setRelayList list =>
      rw [show t'.poller = t.poller.setRelayListAt list t'.now from effect]
      exact kept.edit recent (by omega) list
    | other =>
      unfold Poller.Keeps at kept ⊢
      rwa [effect.1, effect.2]

/-- Until its time is up, a relay that was in the list is among those we mean to poll. -/
theorem Moment.polled {s s' : Moment X} (run : Reach s Moment.Next s') {entry : RelayEntry}
    (listed : entry ∈ s.poller.relays) (recent : s'.now < s.now + RELAY_TTL) :
    entry ∈ s'.poller.polledEntries s'.now := by
  unfold Poller.polledEntries
  rcases (Moment.keeps run listed).2 recent with still | ⟨deadline, enough, drains⟩
  · exact List.mem_append_left _ still
  · refine List.mem_append_right _ (List.mem_map.mpr ⟨_, List.mem_filter.mpr ⟨drains, ?_⟩, rfl⟩)
    simp only [decide_eq_true_eq]
    omega

/-- A relay that was in the list within the last `RELAY_TTL` is contacted by a drain exactly when
the cap leaves it in; what drains is gone once it is due. -/
theorem removed_relay_contacted_iff (H : Hashes)
    (shuffle : List Relay.DrainJob → List Relay.DrainJob)
    (permutes : ∀ jobs, (shuffle jobs).Perm jobs) {s s' : Moment X} (run : Reach s Moment.Next s')
    {entry : RelayEntry} (listed : entry ∈ s.poller.relays) (recent : s'.now < s.now + RELAY_TTL) :
    (s'.poller.contacts (s'.poller.relayDrainPlanAt H shuffle s'.now) entry
        ↔ s'.poller.Covered s'.now entry)
      ∧ (∀ list later, ∀ d ∈ (s'.poller.setRelayListAt list later).relaysDraining, later < d.2) :=
  ⟨Poller.contacts_iff permutes (Moment.polled run listed recent),
    fun list later => s'.poller.setRelayListAt_live list later⟩

namespace Symbolic

/-- Hashes that keep everything apart, for runs on fixed inputs. -/
def hashes : Hashes where
  derive salt key label := salt ++ [0] ++ key ++ [0] ++ label
  expand key label := key ++ [0] ++ label
  sha256 bytes := bytes
  base64Handle bytes := String.ofList (bytes.map (fun b => Char.ofNat (0x100 + b.toNat)))
  unbase64Handle text := some (text.toList.map (fun c => UInt8.ofNat (c.toNat - 0x100)))

/-- Four onions to start with. -/
def fourOnions : Moment symbolic where
  poller := { device with relays := [.onion "a", .onion "b", .onion "c", .onion "d"] }
  now := 0

/-- Four other onions in their place. -/
def fourOthers : List RelayEntry := [.onion "e", .onion "f", .onion "g", .onion "h"]

/-- The moment the four other onions are set. -/
def replaced : Moment symbolic where
  poller := fourOnions.poller.setRelayListAt fourOthers 0
  now := 0

theorem replaced_reached : Reach fourOnions Moment.Next replaced :=
  .step (.setRelayList fourOthers) .start ⟨le_rfl, rfl⟩

end Symbolic

/-- The first of four onions is contacted as long as it is in the list. -/
theorem listed_relay_contacted :
    Symbolic.fourOnions.poller.contacts
        (Symbolic.fourOnions.poller.relayDrainPlanAt Symbolic.hashes id 0) (.onion "a")
      ∧ ∀ list later,
        ∀ d ∈ (Symbolic.fourOnions.poller.setRelayListAt list later).relaysDraining, later < d.2 := by
  have listed : RelayEntry.onion "a" ∈ Symbolic.fourOnions.poller.relays := by decide +kernel
  have contacted := removed_relay_contacted_iff Symbolic.hashes id (fun _ => .refl _)
    (Reach.start : Reach Symbolic.fourOnions Moment.Next _) listed (by decide)
  exact ⟨contacted.1.mpr (.inl (by decide +kernel)), contacted.2⟩

/-- Four onions replaced by four others: mail queued at the first of them is not collected. -/
theorem removed_relay_stranded :
    ∃ s' : Moment symbolic, Reach Symbolic.fourOnions Moment.Next s' ∧ s'.now = Symbolic.fourOnions.now
      ∧ .onion "a" ∈ Symbolic.fourOnions.poller.relays
      ∧ ¬ s'.poller.contacts (s'.poller.relayDrainPlanAt Symbolic.hashes id s'.now) (.onion "a") := by
  refine ⟨Symbolic.replaced, Symbolic.replaced_reached, rfl, by decide +kernel, fun contacted => ?_⟩
  have listed : RelayEntry.onion "a" ∈ Symbolic.fourOnions.poller.relays := by decide +kernel
  have polled := Moment.polled Symbolic.replaced_reached listed (by decide)
  rcases (Poller.contacts_iff (fun _ => .refl _) polled).mp contacted with ahead | ⟨nightdrop, _⟩
  · exact absurd ahead (by decide +kernel)
  · exact absurd nightdrop (by decide +kernel)

end Nightdrop
