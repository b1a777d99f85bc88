import Nightdrop.Lib.Buckets
import Nightdrop.Proofs.Node.Agreement
import Nightdrop.Proofs.Node.Epoch

/-! The partition of the polled handles: complete, padded, and fixed for each contact and day. -/

namespace Nightdrop

variable {X : Externals}

namespace Poller

/-- All handles asked for on one day, each with the label of its bucket. -/
def labelled (H : Hashes) (p : Poller X) (epoch : Nat) : List (Bytes × String) :=
  p.inboundHandles H epoch ++ p.dummyHandles H epoch (p.inboundHandles H epoch).length

/-- The bucket a label falls into on one day. -/
def bucketOf (H : Hashes) (seed : Bytes) (epoch : Nat) (label : Bytes) : Nat :=
  H.groupId [utf8 "nightdrop/poll/bucket", seed, Hashes.toBeBytes epoch, label] % POLL_FRAGMENTS

/-- The isolation group of a label's bucket on one day. -/
def groupOf (H : Hashes) (seed : Bytes) (epoch : Nat) (label : Bytes) : Nat :=
  H.groupId [utf8 "nightdrop/isolation/poll", seed, Hashes.toBeBytes epoch,
    Hashes.toBeBytes (bucketOf H seed epoch label)]

/-- The hashes keep apart all the handles polled at one time. -/
def Distinct (H : Hashes) (p : Poller X) (now : Nat) : Prop :=
  ((p.polledEpochs now).flatMap (fun epoch => (p.labelled H epoch).map Prod.snd)).Nodup

theorem bucketOf_lt (H : Hashes) (seed : Bytes) (epoch : Nat) (label : Bytes) :
    bucketOf H seed epoch label < POLL_FRAGMENTS := Nat.mod_lt _ (by decide)

/-- A fragment of a day holds the day's handles of one bucket, under that bucket's group. -/
theorem mem_fragmentsOf {H : Hashes} {p : Poller X} {epoch : Nat} {fragment : PollFragment}
    (member : fragment ∈ p.fragmentsOf H epoch) :
    ∃ bucket, fragment.epoch = some epoch
      ∧ fragment.group = H.groupId [utf8 "nightdrop/isolation/poll", p.pollSeed,
          Hashes.toBeBytes epoch, Hashes.toBeBytes bucket]
      ∧ fragment.handles = ((p.labelled H epoch).filter
          (fun h => bucketOf H p.pollSeed epoch h.1 = bucket)).map Prod.snd := by
  obtain ⟨bucket, _, made⟩ := List.mem_filterMap.mp member
  simp only [Option.ite_none_left_eq_some, Option.some.injEq] at made
  obtain ⟨-, rfl⟩ := made
  exact ⟨bucket, rfl, rfl, rfl⟩

/-- Leaving the empty buckets out leaves no handle out. -/
theorem fragmentsOf_handles (H : Hashes) (p : Poller X) (epoch : Nat) :
    (p.fragmentsOf H epoch).flatMap PollFragment.handles
      = ((List.range POLL_FRAGMENTS).flatMap (fun bucket => (p.labelled H epoch).filter
          (fun h => bucketOf H p.pollSeed epoch h.1 = bucket))).map Prod.snd := by
  unfold fragmentsOf
  rw [List.map_flatMap]
  induction List.range POLL_FRAGMENTS with
  | nil => rfl
  | cons bucket rest ih =>
    rw [List.filterMap_cons, List.flatMap_cons, ← ih]
    simp only []
    split
    · rename_i empty
      split at empty
      · rename_i nothing
        unfold labelled bucketOf
        rw [nothing, List.nil_append]
      · cases empty
    · rename_i fragment made
      split at made
      · cases made
      · rw [← Option.some.inj made]
        rfl

/-- The fragments of a day ask for all its handles, each as often as it stands among them. -/
theorem fragmentsOf_perm (H : Hashes) (p : Poller X) (epoch : Nat) :
    ((p.fragmentsOf H epoch).flatMap PollFragment.handles).Perm
      ((p.labelled H epoch).map Prod.snd) := by
  rw [fragmentsOf_handles]
  generalize p.labelled H epoch = labelled
  have sorted := flatMap_buckets_perm (fun h : Bytes × String => bucketOf H p.pollSeed epoch h.1)
    POLL_FRAGMENTS (fun h => bucketOf_lt H p.pollSeed epoch h.1) labelled
  exact sorted.map Prod.snd

/-- The fragments polled at a time ask for the handles of all the days polled then. -/
theorem pollFragmentsAt_perm (H : Hashes) (p : Poller X) (now : Nat) :
    ((p.pollFragmentsAt H now).flatMap PollFragment.handles).Perm
      ((p.polledEpochs now).flatMap (fun epoch => (p.labelled H epoch).map Prod.snd)) := by
  unfold pollFragmentsAt
  rw [List.flatMap_assoc]
  induction p.polledEpochs now with
  | nil => exact .refl _
  | cons epoch rest ih =>
    rw [List.flatMap_cons, List.flatMap_cons]
    exact (p.fragmentsOf_perm H epoch).append ih

/-- The handles of a day are padded to a multiple of the unit. -/
theorem labelled_length (H : Hashes) (p : Poller X) (epoch : Nat) :
    POLL_PAD ∣ (p.labelled H epoch).length := by
  have some : 1 ≤ (p.inboundHandles H epoch).length := by
    unfold inboundHandles
    rw [List.length_append]
    exact Nat.le_add_left 1 _
  unfold labelled dummyHandles
  rw [List.length_append, List.length_map, List.length_range, Nat.max_eq_left some]
  generalize (p.inboundHandles H epoch).length = real at *
  have enough : real ≤ (real + POLL_PAD - 1) / POLL_PAD * POLL_PAD := by
    simp only [POLL_PAD]
    omega
  rw [Nat.add_sub_cancel' enough]
  exact Nat.dvd_mul_left ..

/-- Each day is polled once. -/
theorem polledEpochs_nodup (p : Poller X) (now : Nat) : (p.polledEpochs now).Nodup := by
  unfold polledEpochs
  simp only []
  split <;> split <;> simp <;> omega

/-- The fragments of one polled day, picked out of all. -/
theorem pollFragmentsAt_of_day (H : Hashes) (p : Poller X) {now epoch : Nat}
    (polled : epoch ∈ p.polledEpochs now) :
    (p.pollFragmentsAt H now).filter (fun f => f.epoch = some epoch) = p.fragmentsOf H epoch := by
  have own : ∀ day, (p.fragmentsOf H day).filter (fun f => f.epoch = some epoch)
      = if day = epoch then p.fragmentsOf H epoch else [] := by
    intro day
    by_cases same : day = epoch
    · rw [if_pos same, same]
      refine List.filter_eq_self.mpr fun f member => ?_
      obtain ⟨_, dated, _⟩ := mem_fragmentsOf member
      simpa using dated
    · rw [if_neg same]
      refine List.filter_eq_nil_iff.mpr fun f member => ?_
      obtain ⟨_, dated, _⟩ := mem_fragmentsOf member
      simpa [dated] using same
  have nodup := p.polledEpochs_nodup now
  unfold pollFragmentsAt
  rw [List.filter_flatMap]
  simp only [own]
  revert polled nodup
  induction p.polledEpochs now with
  | nil => intro polled; cases polled
  | cons day rest ih =>
    intro polled nodup
    obtain ⟨absent, tail⟩ := List.nodup_cons.mp nodup
    rw [List.flatMap_cons]
    rcases List.mem_cons.mp polled with rfl | later
    · rw [if_pos rfl]
      have nothing : rest.flatMap (fun day => if day = epoch then p.fragmentsOf H epoch else [])
          = [] := by
        refine List.flatMap_eq_nil_iff.mpr fun day member => if_neg ?_
        rintro rfl
        exact absent member
      rw [nothing, List.append_nil]
    · rw [if_neg (by rintro rfl; exact absent later), List.nil_append]
      exact ih later tail

/-- A handle is asked for once at a time, on one day and under one group. -/
structure AskedOnce (H : Hashes) (p : Poller X) (now epoch group : Nat) (handle : String) : Prop where
  once : ((p.pollFragmentsAt H now).flatMap PollFragment.handles).count handle = 1
  asked : ∃ f ∈ p.pollFragmentsAt H now, handle ∈ f.handles
  only : ∀ f ∈ p.pollFragmentsAt H now, handle ∈ f.handles → f.epoch = some epoch ∧ f.group = group

/-- With distinct hashes, a handle stands on one polled day and under one label. -/
theorem Distinct.unique {H : Hashes} {p : Poller X} {now : Nat} (distinct : p.Distinct H now)
    {day epoch : Nat} {label other : Bytes} {handle : String} (polled : day ∈ p.polledEpochs now)
    (polled' : epoch ∈ p.polledEpochs now) (first : (label, handle) ∈ p.labelled H day)
    (second : (other, handle) ∈ p.labelled H epoch) : day = epoch ∧ label = other := by
  obtain ⟨within, across⟩ := List.nodup_flatMap.mp distinct
  have same : day = epoch := by
    by_contra apart
    have symmetric : Std.Symm (Function.onFun List.Disjoint
        fun epoch => (p.labelled H epoch).map Prod.snd) := ⟨fun _ _ d => d.symm⟩
    have disjoint := across.forall polled polled' apart
    exact disjoint (List.mem_map_of_mem first) (List.mem_map.mpr ⟨_, second, rfl⟩)
  subst same
  have equal := List.inj_on_of_nodup_map (within day polled) first second rfl
  exact ⟨rfl, congrArg Prod.fst equal⟩

/-- Every handle of a polled day is asked for once, under the group of its label. -/
theorem Distinct.askedOnce {H : Hashes} {p : Poller X} {now : Nat} (distinct : p.Distinct H now)
    {epoch : Nat} {label : Bytes} {handle : String} (polled : epoch ∈ p.polledEpochs now)
    (member : (label, handle) ∈ p.labelled H epoch) :
    p.AskedOnce H now epoch (groupOf H p.pollSeed epoch label) handle where
  once := by
    rw [(p.pollFragmentsAt_perm H now).count_eq]
    exact List.count_eq_one_of_mem distinct
      (List.mem_flatMap.mpr ⟨epoch, polled, List.mem_map_of_mem member⟩)
  asked := by
    have among := (p.pollFragmentsAt_perm H now).mem_iff.mpr
      (List.mem_flatMap.mpr ⟨epoch, polled, List.mem_map_of_mem member⟩)
    exact List.mem_flatMap.mp among
  only := by
    intro f among holds
    obtain ⟨day, polledDay, made⟩ := List.mem_flatMap.mp among
    obtain ⟨bucket, dated, grouped, handles⟩ := mem_fragmentsOf made
    rw [handles] at holds
    obtain ⟨⟨other, _⟩, kept, rfl⟩ := List.mem_map.mp holds
    obtain ⟨stands, sorted⟩ := List.mem_filter.mp kept
    -- The one label the handle stands under is the one that sorted it here.
    obtain ⟨rfl, rfl⟩ := distinct.unique polledDay polled stands member
    refine ⟨dated, ?_⟩
    rw [grouped, ← of_decide_eq_true sorted]
    rfl

/-- A chat that is open and holds both contributions to its mailbox. -/
def OpenWith (p : Poller X) (contact : String) (own peer : Bytes) : Prop :=
  ∃ chat pair, p.chats.lookup contact = some chat ∧ chat.closed = false
    ∧ chat.mailbox = some pair ∧ pair.own = own ∧ pair.peer = some peer

/-- Our inbound handle for a contact on one day. -/
def inboundHandle (H : Hashes) (p : Poller X) (contact : String) (own peer : Bytes)
    (epoch : Nat) : String :=
  H.v2Handle (H.pairSecret p.identityKey contact own peer) p.identityKey epoch

/-- Our cover handle on one day. -/
def coverHandle (H : Hashes) (p : Poller X) (epoch : Nat) : String :=
  H.v2Handle (p.coverSecret H) p.identityKey epoch

/-- An open agreed contact's handle is asked for once, in the group of its own label. -/
theorem Distinct.contact {H : Hashes} {p : Poller X} {now : Nat} (distinct : p.Distinct H now)
    {epoch : Nat} (polled : epoch ∈ p.polledEpochs now) {contact : String} {own peer : Bytes}
    (agreed : p.OpenWith contact own peer) :
    p.AskedOnce H now epoch (groupOf H p.pollSeed epoch (utf8 contact))
      (p.inboundHandle H contact own peer epoch) := by
  obtain ⟨chat, pair, found, still, mailbox, rfl, known⟩ := agreed
  exact distinct.askedOnce polled
    (List.mem_append_left _ (mem_inboundHandles found still mailbox known epoch))

/-- A restart keeps an open agreed chat open and agreed. -/
theorem restore_openWith (H : Hashes) (p : Poller X) (platform : Node.Platform) (fresh : Bytes)
    (later : Nat) {contact : String} {own peer : Bytes} (agreed : p.OpenWith contact own peer) :
    (restore H (p.exportState H) platform fresh later).OpenWith contact own peer := by
  obtain ⟨chat, pair, found, still, mailbox, mine, known⟩ := agreed
  -- The chat's own entry is the one that is inserted under its contact.
  have nodup : ((p.toNode.exportState.chats).map PersistedChat.contactId).Nodup := by
    unfold Node.exportState
    rw [List.map_map]
    exact p.chats.nodupKeys
  have member : chat.toPersisted contact ∈ p.toNode.exportState.chats :=
    List.mem_map.mpr ⟨⟨contact, chat⟩, AList.mem_lookup_iff.mp found, rfl⟩
  have restored := KeyedMap.lookup_foldl_insert PersistedChat.contactId
    (fun c : PersistedChat X => c.toChat later) nodup ∅ member
  refine ⟨(chat.toPersisted contact).toChat later, pair.restored, restored, still, ?_, mine, known⟩
  show chat.mailbox.map MailboxPair.restored = some pair.restored
  rw [mailbox]
  rfl

/-- A restart keeps the seed of the partition. -/
theorem restore_pollSeed {H : Hashes} (reads : H.Reads) (p : Poller X) (sized : p.pollSeed.length = 32)
    (platform : Node.Platform) (fresh : Bytes) (later : Nat) :
    (restore H (p.exportState H) platform fresh later).pollSeed = p.pollSeed := by
  show ((H.unbase64Handle (H.base64Handle p.pollSeed)).filter
    (fun bytes => bytes.length = 32)).getD fresh = p.pollSeed
  rw [reads, Option.filter_some_pos (by simpa using sized)]
  rfl

/--
Each fragment is of one polled day, each polled day asks once for every open agreed contact's handle
and for the cover handle and for a multiple of the padding unit in all, and the group of a contact's
handle is the same for every device state of one identity and seed, after a restart too.
-/
theorem poll_partition (H : Hashes) (p : Poller X) (now : Nat) (distinct : p.Distinct H now) :
    (∀ f ∈ p.pollFragmentsAt H now, ∃ epoch ∈ p.polledEpochs now, f.epoch = some epoch
      ∧ ∀ handle ∈ f.handles, ∀ day ∈ p.polledEpochs now,
          handle ∈ (p.labelled H day).map Prod.snd → day = epoch)
    ∧ (∀ epoch ∈ p.polledEpochs now,
        (∀ contact own peer, p.OpenWith contact own peer →
          p.AskedOnce H now epoch (groupOf H p.pollSeed epoch (utf8 contact))
            (p.inboundHandle H contact own peer epoch))
        ∧ (∃ group, p.AskedOnce H now epoch group (p.coverHandle H epoch))
        ∧ POLL_PAD ∣ (((p.pollFragmentsAt H now).filter (fun f => f.epoch = some epoch)).flatMap
            PollFragment.handles).length)
    ∧ (∀ (q : Poller X) (later : Nat), q.Distinct H later → q.identityKey = p.identityKey →
        q.pollSeed = p.pollSeed → ∀ epoch ∈ p.polledEpochs now, epoch ∈ q.polledEpochs later →
        ∀ contact own peer, p.OpenWith contact own peer → q.OpenWith contact own peer →
        ∀ f ∈ p.pollFragmentsAt H now, ∀ g ∈ q.pollFragmentsAt H later,
          p.inboundHandle H contact own peer epoch ∈ f.handles →
          q.inboundHandle H contact own peer epoch ∈ g.handles → f.group = g.group)
    ∧ (H.Reads → p.pollSeed.length = 32 → ∀ (platform : Node.Platform) (fresh : Bytes) (later : Nat),
        platform.identityKey = p.identityKey →
        let q := restore H (p.exportState H) platform fresh later
        q.identityKey = p.identityKey ∧ q.pollSeed = p.pollSeed
          ∧ ∀ contact own peer, p.OpenWith contact own peer → q.OpenWith contact own peer) := by
  refine ⟨?_, ?_, ?_, ?_⟩
  · intro f among
    obtain ⟨epoch, polled, made⟩ := List.mem_flatMap.mp among
    obtain ⟨bucket, dated, _, handles⟩ := mem_fragmentsOf made
    refine ⟨epoch, polled, dated, fun handle holds day polledDay stands => ?_⟩
    rw [handles] at holds
    obtain ⟨⟨label, _⟩, kept, rfl⟩ := List.mem_map.mp holds
    obtain ⟨⟨other, text⟩, placed, same⟩ := List.mem_map.mp stands
    subst same
    exact (distinct.unique polledDay polled placed (List.mem_filter.mp kept).1).1
  · intro epoch polled
    refine ⟨fun contact own peer agreed => distinct.contact polled agreed, ?_, ?_⟩
    · have cover : (utf8 "cover", p.coverHandle H epoch) ∈ p.labelled H epoch :=
        List.mem_append_left _ (List.mem_append_right _ (List.mem_singleton.mpr rfl))
      exact ⟨_, distinct.askedOnce polled cover⟩
    · rw [p.pollFragmentsAt_of_day H polled, (p.fragmentsOf_perm H epoch).length_eq, List.length_map]
      exact p.labelled_length H epoch
  · intro q later distinct' identity seed epoch polled polled' contact own peer agreed agreed' f amongF
      g amongG holdsF holdsG
    have first := ((distinct.contact polled agreed).only f amongF holdsF).2
    have second := ((distinct'.contact polled' agreed').only g amongG holdsG).2
    rw [first, second, seed]
  · intro reads sized platform fresh later same
    refine ⟨?_, restore_pollSeed reads p sized platform fresh later, fun contact own peer agreed =>
      restore_openWith H p platform fresh later agreed⟩
    exact same

end Poller

namespace Symbolic

/-- Hashes that mix all of their input into few bytes. -/
def mixing : Hashes :=
  { hashes with
    sha256 := fun bytes =>
      let n := bytes.foldl (fun n b => (n * 1000003 + b.toNat + 1) % 2 ^ 120) 0
      (List.range 15).map (fun i => UInt8.ofNat (n >>> (8 * i))) }

theorem mixing_reads : mixing.Reads := by
  intro bytes
  show some ((String.ofList (bytes.map (fun b => Char.ofNat (0x100 + b.toNat)))).toList.map
    (fun c => UInt8.ofNat (c.toNat - 0x100))) = some bytes
  rw [String.toList_ofList, List.map_map]
  have each : ∀ n : Fin 256, UInt8.ofNat ((Char.ofNat (0x100 + n.val)).toNat - 0x100)
      = UInt8.ofNat n.val := by decide +kernel
  refine congrArg some (List.map_congr_left (g := id) (fun b _ => ?_) |>.trans (List.map_id bytes))
  have byte := each ⟨b.toNat, b.toNat_lt⟩
  simpa using byte

/-- A device with one agreed contact, on its second day. -/
def pollingReader : Poller (symbolic.hashing hashes) :=
  { reader with pollSeed := List.replicate 32 1 }

end Symbolic

/-- A device with a contact polls its handles of two days in a partition. -/
theorem poll_partition_reader :
    Symbolic.pollingReader.Distinct Symbolic.mixing 90000
    ∧ Symbolic.pollingReader.polledEpochs 90000 = [0, 1]
    ∧ (∃ group, Symbolic.pollingReader.AskedOnce Symbolic.mixing 90000 1 group
        (Symbolic.pollingReader.inboundHandle Symbolic.mixing "them" [1] [2] 1))
    ∧ (Poller.restore Symbolic.mixing (Symbolic.pollingReader.exportState Symbolic.mixing)
        ⟨"me", "me.onion", none⟩ [] 90000).pollSeed = List.replicate 32 1 := by
  have distinct : Symbolic.pollingReader.Distinct Symbolic.mixing 90000 := by
    unfold Poller.Distinct
    decide +kernel
  have whole := Poller.poll_partition Symbolic.mixing Symbolic.pollingReader 90000 distinct
  have days : Symbolic.pollingReader.polledEpochs 90000 = [0, 1] := by decide +kernel
  refine ⟨distinct, days, ?_, ?_⟩
  · refine ⟨_, (whole.2.1 1 (by rw [days]; decide)).1 "them" [1] [2] ?_⟩
    exact ⟨Symbolic.agreedChat [1] [2], _, rfl, rfl, rfl, rfl, rfl⟩
  · refine (whole.2.2.2 Symbolic.mixing_reads rfl ⟨"me", "me.onion", none⟩ [] 90000 rfl).2.1

end Nightdrop
