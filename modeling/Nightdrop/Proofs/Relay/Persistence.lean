import Nightdrop.Proofs.Relay.Accounting
import Nightdrop.Relay.Persistence

/-! The queue file follows the store: what a restart loads, and that no change is forgotten. -/

namespace Nightdrop.Relay

/-- Whether a load at this wall clock keeps an entry. -/
def outlives (clocks : Clocks) (s : Stored) : Bool := clocks.nowUnix < s.expiryUnix

/-- An entry as a load gives it back. -/
def reborn (clocks : Clocks) (s : Stored) : Stored :=
  { s with posted := clocks.now, expiry := clocks.expiryOf s.expiryUnix }

/-- What the entries of a queue cost that a load at this wall clock keeps. -/
def liveCost (clocks : Clocks) (handle : Handle) (queue : List Stored) : Nat :=
  queueCost handle (queue.filter (outlives clocks))

/-- What the entries of a queue cost that a load at this wall clock leaves out. -/
def lapsedCost (clocks : Clocks) (handle : Handle) (queue : List Stored) : Nat :=
  queueCost handle (queue.filter (fun s => !outlives clocks s))

/-- The blobs a file holds under a handle. -/
def blobsAt (file : Option PersistedStore) (handle : Handle) : List PersistedBlob :=
  (file.bind (fun persisted => persisted.mailboxes.lookup handle)).getD []

/-- Whether a file stands for the store's entries at every wall clock from `since` on. -/
def Mirrors (cfg : Config) (since : Nat) (file : Option PersistedStore) (inner : StoreInner) :
    Prop :=
  ∀ clocks : Clocks, since ≤ clocks.nowUnix → ∀ handle,
    loadQueue cfg clocks handle (blobsAt file handle)
      = ((inner.queue handle).filter (outlives clocks)).map (reborn clocks)

/-- Whether a file holds blobs only under handles that may be posted to. -/
def OnlyValid (file : Option PersistedStore) : Prop :=
  ∀ handle, blobsAt file handle ≠ [] → validHandle handle = true

/-- A snapshot holds every queue as it is. -/
theorem blobsAt_serializeStore (b64 : Base64) (inner : StoreInner) (handle : Handle) :
    blobsAt (some (serializeStore b64 inner)) handle
      = (inner.queue handle).map (persistedOf b64) := by
  simp only [blobsAt, serializeStore, Option.bind_some, KeyedMap.lookup_mapMaybe, StoreInner.queue]
  cases inner.map.lookup handle with
  | none => rfl
  | some queue => cases queue <;> simp

/-- A load of what was written gives back the entries that outlive it, in order. -/
theorem loadQueue_written {cfg : Config} (clocks : Clocks) {handle : Handle}
    (roundTrips : ∀ bytes, cfg.b64.decode (cfg.b64.encode bytes) = some bytes)
    {queue : List Stored} (costs : ∀ s ∈ queue, s.cost = costOf cfg handle s.bytes.length) :
    loadQueue cfg clocks handle (queue.map (persistedOf cfg.b64))
      = (queue.filter (outlives clocks)).map (reborn clocks) := by
  induction queue with
  | nil => rfl
  | cons head rest ih =>
    have tail := ih (fun s member => costs s (List.mem_cons_of_mem head member))
    simp only [loadQueue] at tail
    by_cases live : clocks.nowUnix < head.expiryUnix
    · -- The blob decodes to the bytes it was written from, at the cost it was charged.
      have cost := costs head (by simp)
      simp only [costOf] at cost
      simp [loadQueue, loadBlob, persistedOf, outlives, reborn, live, Nat.not_le.mpr live,
        roundTrips, tail, ← cost]
    · simp [loadQueue, loadBlob, persistedOf, outlives, live, Nat.not_lt.mp live, tail]

/-- What a later load keeps is the part of an earlier one that outlives it. -/
theorem loadQueue_later (cfg : Config) {clocks later : Clocks} (handle : Handle)
    (after : clocks.nowUnix ≤ later.nowUnix) (blobs : List PersistedBlob) :
    loadQueue cfg later handle blobs
      = ((loadQueue cfg clocks handle blobs).filter (outlives later)).map (reborn later) := by
  induction blobs with
  | nil => rfl
  | cons head rest ih =>
    simp only [loadQueue] at ih
    cases decoded : cfg.b64.decode head.blob with
    | none => simp [loadQueue, loadBlob, decoded, ih]
    | some bytes =>
      by_cases live : later.nowUnix < head.expiryUnix
      · have before : ¬ head.expiryUnix ≤ clocks.nowUnix := by omega
        simp [loadQueue, loadBlob, decoded, ih, live, before, Nat.not_le.mpr live, outlives,
          reborn]
      · by_cases gone : head.expiryUnix ≤ clocks.nowUnix
        · simp [loadQueue, loadBlob, ih, gone, Nat.not_lt.mp live]
        · -- The earlier load kept it, and it ran out in between.
          simp [loadQueue, loadBlob, decoded, ih, gone, live, Nat.not_lt.mp live, outlives]

/-- The mailboxes a load of a file fills. -/
def loadedMap (cfg : Config) (clocks : Clocks) (file : Option PersistedStore) :
    KeyedMap Handle (List Stored) :=
  (file.map (loadMailboxes cfg clocks)).getD ∅

/-- A load succeeds exactly when its sum and its expiries can be represented. -/
theorem loadStore_eq (cfg : Config) (clocks : Clocks) (file : Option PersistedStore) :
    loadStore cfg clocks file
      = if KeyedMap.total queueCost (loadedMap cfg clocks file) ≤ cfg.plat.usizeMax
          ∧ (loadedMap cfg clocks file).entries.all
            (fun e => e.2.all (fun s => s.expiry ≤ cfg.plat.instantMax)) then
        some { StoreInner.empty with
          map := loadedMap cfg clocks file
          totalBytes := KeyedMap.total queueCost (loadedMap cfg clocks file) }
      else none := by
  cases file with
  | none => simp [loadStore, loadedMap, StoreInner.empty]
  | some persisted => rfl

/-- The queues of a loaded store. -/
theorem queue_loadedMap (cfg : Config) (clocks : Clocks) (file : Option PersistedStore)
    {inner : StoreInner} (mapped : inner.map = loadedMap cfg clocks file) (handle : Handle) :
    inner.queue handle = loadQueue cfg clocks handle (blobsAt file handle) := by
  rw [StoreInner.queue, mapped]
  cases file with
  | none => simp [loadedMap, blobsAt, loadQueue]
  | some persisted =>
    simp only [loadedMap, Option.map_some, Option.getD_some, loadMailboxes, blobsAt,
      KeyedMap.lookup_mapMaybe, Option.bind_some]
    cases persisted.mailboxes.lookup handle with
    | none => simp [loadQueue]
    | some blobs =>
      cases loaded : loadQueue cfg clocks handle blobs with
      | nil => simp [loaded]
      | cons head rest => simp [loaded]

/-- A store that can be written out and loaded again: solvent, representable, truly charged. -/
structure Kept (cfg : Config) (inner : StoreInner) : Prop where
  solvent : Solvent inner
  bounded : inner.totalBytes ≤ cfg.plat.usizeMax
  costs : ∀ handle, ∀ s ∈ inner.queue handle, s.cost = costOf cfg handle s.bytes.length
  valid : ∀ handle, inner.queue handle ≠ [] → validHandle handle = true

/-- Every entry of such a store costs something, so whatever loses one frees something. -/
theorem Kept.charged {cfg : Config} {inner : StoreInner} (kept : Kept cfg inner)
    (handle : Handle) : Charged (inner.queue handle) := by
  intro s member
  rw [kept.costs handle s member]
  exact costOf_pos cfg (kept.valid handle (List.ne_nil_of_mem member)) _

theorem kept_empty (cfg : Config) : Kept cfg .empty where
  solvent := solvent_empty
  bounded := Nat.zero_le _
  costs := by simp
  valid handle := by simp

/-- Every critical section keeps the store fit to be written. -/
theorem step_kept {cfg : Config} {inner : StoreInner} (kept : Kept cfg inner) (event : Event) :
    Kept cfg (step cfg inner event) := by
  have solvent := step_solvent cfg kept.solvent event
  rcases step_cases cfg kept.solvent event with
    shrunk | ⟨_, handle, _, _, bytes, _, _, _, admits, _, left⟩
    | ⟨amb, handle, _, ttlSecs, bytes, _, admits, _, left⟩
  · exact {
      solvent := solvent
      bounded := shrunk.spends.trans kept.bounded
      costs := fun handle s member => kept.costs handle s ((shrunk.queues handle).subset member)
      valid := fun handle some => kept.valid handle (fun none =>
        some (List.sublist_nil.mp (none ▸ shrunk.queues handle))) }
  · rw [left] at solvent ⊢
    exact {
      solvent := solvent
      bounded := admits.room
      costs := fun other s member => kept.costs other s (by rwa [queue_overcharged] at member)
      valid := fun other some => kept.valid other (by rwa [queue_overcharged] at some) }
  · rw [left] at solvent ⊢
    refine ⟨solvent, admits.room, fun other s member => ?_, fun other some => ?_⟩
    · rw [queue_posted] at member
      by_cases same : other = handle
      · subst same
        simp only [if_true, List.mem_append, List.mem_singleton] at member
        rcases member with old | rfl
        · exact kept.costs other s old
        · rfl
      · exact kept.costs other s (by simpa [same] using member)
    · by_cases same : other = handle
      · exact same ▸ admits.valid
      · exact kept.valid other (by simpa [queue_posted, same] using some)

/-- A critical section never clears the mark, and sets it whenever it changes a queue. -/
theorem step_marks {cfg : Config} {inner : StoreInner} (kept : Kept cfg inner) (event : Event) :
    (inner.dirty = true → (step cfg inner event).dirty = true)
      ∧ ((step cfg inner event).dirty = false →
        ∀ handle, (step cfg inner event).queue handle = inner.queue handle) := by
  rcases step_cases cfg kept.solvent event with
    shrunk | ⟨_, handle, _, _, bytes, _, _, _, _, _, left⟩ | ⟨_, _, _, _, _, _, _, _, left⟩
  · exact ⟨shrunk.keepsMark, fun unmarked handle => shrunk.marks unmarked handle (kept.charged handle)⟩
  · -- The panic opens the mailbox, but every queue stays what it was.
    rw [left]
    exact ⟨fun marked => marked, fun _ other => queue_overcharged cfg inner handle other bytes.length⟩
  · rw [left]
    exact ⟨fun _ => rfl, fun unmarked => by simp [posted] at unmarked⟩

/-- What a load gives is fit to be written again, and the file it came from stands for it. -/
theorem loadStore_mirrors {cfg : Config} {clocks : Clocks} {file : Option PersistedStore}
    {inner : StoreInner} (valid : OnlyValid file) (loaded : loadStore cfg clocks file = some inner) :
    Kept cfg inner ∧ Mirrors cfg clocks.nowUnix file inner := by
  rw [loadStore_eq] at loaded
  split at loaded
  · rename_i fits
    obtain rfl := (Option.some.inj loaded).symm
    have queues : ∀ handle, StoreInner.queue { StoreInner.empty with
        map := loadedMap cfg clocks file
        totalBytes := KeyedMap.total queueCost (loadedMap cfg clocks file) } handle
        = loadQueue cfg clocks handle (blobsAt file handle) :=
      queue_loadedMap cfg clocks file rfl
    refine ⟨⟨Nat.le_refl _, fits.1, fun handle s member => ?_, fun handle some => ?_⟩,
      fun later after handle => ?_⟩
    · rw [queues handle] at member
      obtain ⟨b, _, made⟩ := List.mem_filterMap.mp member
      simp only [loadBlob] at made
      split at made
      · cases made
      · obtain ⟨bytes, _, rfl⟩ := Option.map_eq_some_iff.mp made
        rfl
    · apply valid handle
      intro none
      rw [queues handle, none] at some
      exact some rfl
    · rw [queues handle]
      exact loadQueue_later cfg handle after _
  · cases loaded

/-- A snapshot stands for the store it was taken of. -/
theorem serializeStore_mirrors {cfg : Config} {inner : StoreInner} (kept : Kept cfg inner)
    (roundTrips : ∀ bytes, cfg.b64.decode (cfg.b64.encode bytes) = some bytes) (since : Nat) :
    Mirrors cfg since (some (serializeStore cfg.b64 inner)) inner
      ∧ OnlyValid (some (serializeStore cfg.b64 inner)) := by
  refine ⟨fun clocks _ handle => ?_, fun handle some => ?_⟩
  · rw [blobsAt_serializeStore]
    exact loadQueue_written clocks roundTrips (kept.costs handle)
  · rw [blobsAt_serializeStore] at some
    exact kept.valid handle (by simpa using some)

/-- A file goes on standing for a store whose queues did not change. -/
theorem Mirrors.of_queues {cfg : Config} {since : Nat} {file : Option PersistedStore}
    {inner left : StoreInner} (mirrors : Mirrors cfg since file inner)
    (same : ∀ handle, left.queue handle = inner.queue handle) : Mirrors cfg since file left := by
  intro clocks after handle
  rw [same handle]
  exact mirrors clocks after handle

/-- The snapshot the writer is about to put on disk. -/
def RelayCore.inFlight (core : RelayCore) : Option (Nat × PersistedStore) :=
  match core.writer with
  | some (.writing number json) => some (number, json)
  | _ => none

/--
What every reached relay keeps.

Without the mark, what is on disk, or on its way there, stands for the store.
-/
structure Durable (cfg : Config) (core : RelayCore) : Prop where
  kept : Kept cfg core.store
  fileValid : OnlyValid core.file
  current : core.store.dirty = false → core.writing = false →
    Mirrors cfg core.booted core.file core.store
  pending : ∀ number json, core.inFlight = some (number, json) →
    OnlyValid (some json) ∧ number < core.taken ∧ (∀ older ∈ core.landed, older.1 < number)
      ∧ (core.store.dirty = false → Mirrors cfg core.booted (some json) core.store)
  numbered : ∀ older ∈ core.landed, older.1 < core.taken
  newest : core.file = core.landed.head?.map Prod.snd
  ordered : core.landed.Pairwise (fun later earlier => earlier.1 < later.1)

theorem durable_fresh (cfg : Config) : Durable cfg .fresh where
  kept := kept_empty cfg
  fileValid handle some := by simp [RelayCore.fresh, blobsAt] at some
  current _ _ clocks _ handle := by simp [RelayCore.fresh, blobsAt, loadQueue]
  pending number json written := by simp [RelayCore.fresh, RelayCore.inFlight] at written
  numbered older member := by simp [RelayCore.fresh] at member
  newest := rfl
  ordered := by simp [RelayCore.fresh]

/-- A handler or the reaper, at any moment of a flush. -/
theorem Durable.critical {cfg : Config} {core : RelayCore} (durable : Durable cfg core)
    (event : Event) : Durable cfg { core with store := step cfg core.store event } := by
  obtain ⟨marked, unchanged⟩ := step_marks durable.kept event
  -- Without the mark after the step, there was none before it.
  have before : (step cfg core.store event).dirty = false → core.store.dirty = false := by
    intro unmarked
    cases mark : core.store.dirty with
    | false => rfl
    | true => rw [marked mark] at unmarked; cases unmarked
  exact { durable with
    kept := step_kept durable.kept event
    current := fun unmarked idle =>
      (durable.current (before unmarked) idle).of_queues (unchanged unmarked)
    pending := fun number json written => by
      obtain ⟨valid, taken, newer, mirrors⟩ := durable.pending number json written
      exact ⟨valid, taken, newer, fun unmarked =>
        (mirrors (before unmarked)).of_queues (unchanged unmarked)⟩ }

/-- The holder of the writer looks at the store: it leaves, or its snapshot is on its way. -/
theorem Durable.snapshot {cfg : Config} {core : RelayCore} (durable : Durable cfg core)
    (roundTrips : ∀ bytes, cfg.b64.decode (cfg.b64.encode bytes) = some bytes)
    {respectInterval : Bool} (holds : core.writer = some (.entered respectInterval)) (now : Nanos) :
    Durable cfg (core.snapshot cfg respectInterval now) := by
  have idle : core.writing = false := by simp [RelayCore.writing, holds]
  unfold RelayCore.snapshot
  split
  · exact { durable with
      current := fun unmarked _ => durable.current unmarked idle
      pending := fun number json written => by simp [RelayCore.inFlight] at written }
  · obtain ⟨mirrors, valid⟩ := serializeStore_mirrors durable.kept roundTrips core.booted
    exact { durable with
      kept := ⟨durable.kept.solvent, durable.kept.bounded, durable.kept.costs, durable.kept.valid⟩
      current := fun _ idle => by simp [RelayCore.writing] at idle
      pending := fun number json written => by
        simp only [RelayCore.inFlight, Option.some.injEq, Prod.mk.injEq] at written
        obtain ⟨rfl, rfl⟩ := written
        exact ⟨valid, Nat.lt_succ_self _, durable.numbered, fun _ => mirrors⟩
      numbered := fun older member => Nat.lt_succ_of_lt (durable.numbered older member) }

/-- The snapshot in flight replaces the file. -/
theorem Durable.written {cfg : Config} {core : RelayCore} (durable : Durable cfg core)
    {number : Nat} {json : PersistedStore} (holds : core.writer = some (.writing number json)) :
    Durable cfg { core with
      writer := none, file := some json, landed := (number, json) :: core.landed } := by
  obtain ⟨valid, taken, newer, mirrors⟩ :=
    durable.pending number json (by simp [RelayCore.inFlight, holds])
  exact {
    kept := durable.kept
    fileValid := valid
    current := fun unmarked _ => mirrors unmarked
    pending := fun other text written => by simp [RelayCore.inFlight] at written
    numbered := fun older member => by
      rcases List.mem_cons.mp member with rfl | member
      · exact taken
      · exact durable.numbered older member
    newest := rfl
    ordered := List.pairwise_cons.mpr ⟨newer, durable.ordered⟩ }

/-- Every step keeps the invariant. -/
theorem Durable.step {cfg : Config} {core next : RelayCore} (durable : Durable cfg core)
    (roundTrips : ∀ bytes, cfg.b64.decode (cfg.b64.encode bytes) = some bytes)
    {event : CoreEvent} (taken : core.Next cfg event next) : Durable cfg next := by
  simp only [RelayCore.Next] at taken
  cases event with
  | store event =>
    obtain rfl := (Option.some.inj taken).symm
    exact durable.critical event
  | enter respectInterval =>
    simp only [RelayCore.step] at taken
    split at taken
    · rename_i free
      obtain rfl := (Option.some.inj taken).symm
      exact { durable with
        current := fun unmarked _ =>
          durable.current unmarked (by simp [RelayCore.writing, free])
        pending := fun number json written => by simp [RelayCore.inFlight] at written }
    · cases taken
  | snapshot now =>
    simp only [RelayCore.step] at taken
    split at taken
    · rename_i respectInterval holds
      obtain rfl := (Option.some.inj taken).symm
      exact durable.snapshot roundTrips holds now
    · cases taken
  | written =>
    simp only [RelayCore.step] at taken
    split at taken
    · rename_i number json holds
      obtain rfl := (Option.some.inj taken).symm
      exact durable.written holds
    · cases taken
  | writeFailed =>
    simp only [RelayCore.step] at taken
    split at taken
    · obtain rfl := (Option.some.inj taken).symm
      -- Until the mark is back, the write counts as in progress.
      exact { durable with
        current := fun _ idle => by simp [RelayCore.writing] at idle
        pending := fun number json written => by simp [RelayCore.inFlight] at written }
    · cases taken
  | remark =>
    simp only [RelayCore.step] at taken
    split at taken
    · obtain rfl := (Option.some.inj taken).symm
      exact { durable with
        kept := ⟨durable.kept.solvent, durable.kept.bounded, durable.kept.costs,
          durable.kept.valid⟩
        current := fun unmarked _ => by simp at unmarked
        pending := fun number json written => by simp [RelayCore.inFlight] at written }
    · cases taken
  | restart clocks =>
    simp only [RelayCore.step] at taken
    obtain ⟨store, loaded, rfl⟩ := Option.map_eq_some_iff.mp taken
    obtain ⟨kept, mirrors⟩ := loadStore_mirrors durable.fileValid loaded
    exact { durable with
      kept := kept
      current := fun _ _ => mirrors
      pending := fun number json written => by simp [RelayCore.inFlight] at written }

/-- A queue splits into what a load keeps and what it leaves out. -/
theorem liveCost_add_lapsedCost (clocks : Clocks) (handle : Handle) (queue : List Stored) :
    liveCost clocks handle queue + lapsedCost clocks handle queue = queueCost handle queue := by
  induction queue with
  | nil => rfl
  | cons head rest ih =>
    simp only [liveCost, lapsedCost, queueCost] at ih ⊢
    by_cases live : outlives clocks head = true
    · simp [live]
      omega
    · simp [live]
      omega

/-- The costs a load keeps and leaves out add up over the whole store. -/
theorem total_live_add_lapsed (clocks : Clocks) (m : KeyedMap Handle (List Stored)) :
    KeyedMap.total (liveCost clocks) m + KeyedMap.total (lapsedCost clocks) m
      = KeyedMap.total queueCost m := by
  simp only [KeyedMap.total, ← List.sum_map_add]
  exact congrArg List.sum (List.map_congr_left
    (fun e _ => liveCost_add_lapsedCost clocks e.1 e.2))

/-- A load of a file that stands for a store gives its entries that outlive the load. -/
theorem loadStore_of_mirrors {cfg : Config} {since : Nat} {file : Option PersistedStore}
    {inner : StoreInner} (kept : Kept cfg inner) (mirrors : Mirrors cfg since file inner)
    {clocks : Clocks} (after : since ≤ clocks.nowUnix)
    (fits : ∀ handle, ∀ s ∈ inner.queue handle, clocks.expiryOf s.expiryUnix ≤ cfg.plat.instantMax) :
    ∃ loaded, loadStore cfg clocks file = some loaded
      ∧ (∀ handle, loaded.queue handle
        = ((inner.queue handle).filter (outlives clocks)).map (reborn clocks))
      ∧ loaded.totalBytes = KeyedMap.total (liveCost clocks) inner.map := by
  let result : StoreInner := { StoreInner.empty with
    map := loadedMap cfg clocks file
    totalBytes := KeyedMap.total queueCost (loadedMap cfg clocks file) }
  have queues : ∀ handle, result.queue handle
      = ((inner.queue handle).filter (outlives clocks)).map (reborn clocks) := by
    intro handle
    rw [queue_loadedMap cfg clocks file rfl handle]
    exact mirrors clocks after handle
  have total : KeyedMap.total queueCost (loadedMap cfg clocks file)
      = KeyedMap.total (liveCost clocks) inner.map := by
    apply KeyedMap.total_eq_of_weightAt
    intro handle
    have here := weightAt_eq_queueCost result handle
    rw [queues handle] at here
    refine here.trans ?_
    -- Being loaded again changes nothing an entry costs.
    have same : ∀ queue : List Stored, queueCost handle (queue.map (reborn clocks))
        = queueCost handle queue := by
      intro queue
      simp only [queueCost, List.map_map]
      rfl
    rw [same]
    cases found : inner.map.lookup handle with
    | none => simp [KeyedMap.weightAt, StoreInner.queue, found, queueCost]
    | some queue => simp [KeyedMap.weightAt, StoreInner.queue, found, liveCost]
  have bounded : KeyedMap.total queueCost (loadedMap cfg clocks file) ≤ cfg.plat.usizeMax := by
    have split := total_live_add_lapsed clocks inner.map
    have solvent := kept.solvent
    have room := kept.bounded
    simp only [Solvent] at solvent
    omega
  refine ⟨result, ?_, queues, total⟩
  rw [loadStore_eq, if_pos]
  refine ⟨bounded, List.all_eq_true.mpr (fun e member => List.all_eq_true.mpr (fun s stored => ?_))⟩
  have here : result.queue e.1 = e.2 := queue_of_lookup (AList.mem_lookup_iff.mpr member)
  rw [queues] at here
  rw [← here] at stored
  obtain ⟨before, listed, rfl⟩ := List.mem_map.mp stored
  exact decide_eq_true (fits e.1 before (List.mem_of_mem_filter listed))

/-- What holds of a relay with persistence, whatever happened to it so far. -/
structure Persists (cfg : Config) (core : RelayCore) : Prop where
  /-- With nothing left to write, the file gives back every entry that outlives the load. -/
  loads : core.store.dirty = false → core.writing = false → ∀ clocks : Clocks,
    core.booted ≤ clocks.nowUnix →
    (∀ handle, ∀ s ∈ core.store.queue handle,
      clocks.expiryOf s.expiryUnix ≤ cfg.plat.instantMax) →
    ∃ loaded, loadStore cfg clocks core.file = some loaded
      ∧ (∀ handle, loaded.queue handle
        = ((core.store.queue handle).filter (outlives clocks)).map (reborn clocks))
      ∧ loaded.totalBytes = KeyedMap.total (liveCost clocks) core.store.map
      ∧ loaded.totalBytes + KeyedMap.total (lapsedCost clocks) core.store.map
        = storedBytes cfg core.store
  /-- Whatever changes a queue leaves the mark, also in the middle of a write. -/
  marked : ∀ event next, core.Next cfg event next → (∀ clocks, event ≠ .restart clocks) →
    (∃ handle, next.store.queue handle ≠ core.store.queue handle) → next.store.dirty = true
  /-- Only a snapshot of the whole store clears the mark, and none is taken during a write. -/
  cleared : ∀ event next, core.Next cfg event next → (∀ clocks, event ≠ .restart clocks) →
    core.store.dirty = true → next.store.dirty = false →
    core.writing = false
      ∧ next.writer = some (.writing core.taken (serializeStore cfg.b64 core.store))
  /-- A failed write ends with the mark set. -/
  failed : core.writer = some .failed → ∀ event next, core.Next cfg event next →
    (∀ clocks, event ≠ .restart clocks) → next.writing = false → next.store.dirty = true
  /-- The file is the snapshot that reached the path last. -/
  newest : core.file = core.landed.head?.map Prod.snd
  /-- Snapshots reach the path in the order they were taken. -/
  ordered : core.landed.Pairwise (fun later earlier => earlier.1 < later.1)

/-- What one step that is no restart does to the queues and to the mark. -/
theorem next_marks {cfg : Config} {core next : RelayCore}
    {event : CoreEvent} (taken : core.Next cfg event next)
    (runs : ∀ clocks, event ≠ .restart clocks) :
    (∃ critical, event = .store critical ∧ next = { core with store := step cfg core.store critical })
      ∨ (∃ respectInterval now, core.writer = some (.entered respectInterval)
        ∧ next = core.snapshot cfg respectInterval now)
      ∨ (core.writer = some .failed
        ∧ next = { core with writer := none, store := { core.store with dirty := true } })
      ∨ (next.store = core.store ∧ (core.writer = some .failed → False)) := by
  simp only [RelayCore.Next] at taken
  cases event with
  | store critical => exact .inl ⟨critical, rfl, (Option.some.inj taken).symm⟩
  | restart clocks => exact absurd rfl (runs clocks)
  | snapshot now =>
    simp only [RelayCore.step] at taken
    split at taken
    · rename_i respectInterval holds
      exact .inr (.inl ⟨respectInterval, now, holds, (Option.some.inj taken).symm⟩)
    · cases taken
  | remark =>
    simp only [RelayCore.step] at taken
    split at taken
    · rename_i holds
      exact .inr (.inr (.inl ⟨holds, (Option.some.inj taken).symm⟩))
    · cases taken
  | enter respectInterval =>
    simp only [RelayCore.step] at taken
    split at taken
    · rename_i free
      obtain rfl := (Option.some.inj taken).symm
      exact .inr (.inr (.inr ⟨rfl, fun holds => by simp [free] at holds⟩))
    · cases taken
  | written | writeFailed =>
    simp only [RelayCore.step] at taken
    split at taken
    · rename_i holds
      obtain rfl := (Option.some.inj taken).symm
      exact .inr (.inr (.inr ⟨rfl, fun failed => by simp [holds] at failed⟩))
    · cases taken

/-- The flush's look at the store leaves every queue alone. -/
theorem queue_snapshot (cfg : Config) (core : RelayCore) (respectInterval : Bool) (now : Nanos)
    (handle : Handle) :
    (core.snapshot cfg respectInterval now).store.queue handle = core.store.queue handle := by
  unfold RelayCore.snapshot
  split <;> rfl

/--
The queue file follows the store in every run of handlers, reaper, flushes and restarts.

A load keeps what its wall clock has not passed, which a relay still holding expired entries may
have more of; the wall clock must not run behind the last start.
-/
theorem persistence_follows (cfg : Config)
    (roundTrips : ∀ bytes, cfg.b64.decode (cfg.b64.encode bytes) = some bytes) {core : RelayCore}
    (reached : Reach .fresh (RelayCore.Next cfg) core) : Persists cfg core := by
  have durable : Durable cfg core := reached.invariant (durable_fresh cfg)
    (fun _ _ _ _ durable taken => durable.step roundTrips taken)
  refine {
    loads := fun unmarked idle clocks after fits => ?_
    marked := fun event next taken runs changed => ?_
    cleared := fun event next taken runs marked unmarked => ?_
    failed := fun holds event next taken runs idle => ?_
    newest := durable.newest
    ordered := durable.ordered }
  · obtain ⟨loaded, loads, queues, total⟩ :=
      loadStore_of_mirrors durable.kept (durable.current unmarked idle) after fits
    refine ⟨loaded, loads, queues, total, ?_⟩
    rw [total, storedBytes_eq durable.kept.costs]
    exact total_live_add_lapsed clocks core.store.map
  · obtain ⟨handle, differs⟩ := changed
    rcases next_marks taken runs with
      ⟨critical, rfl, rfl⟩ | ⟨respectInterval, now, _, rfl⟩ | ⟨_, rfl⟩ | ⟨same, _⟩
    · cases mark : (step cfg core.store critical).dirty with
      | true => rfl
      | false => exact absurd ((step_marks durable.kept critical).2 mark handle) differs
    · exact absurd (queue_snapshot cfg core respectInterval now handle) differs
    · rfl
    · exact absurd (by rw [same]) differs
  · rcases next_marks taken runs with
      ⟨critical, rfl, rfl⟩ | ⟨respectInterval, now, holds, rfl⟩ | ⟨_, rfl⟩ | ⟨same, _⟩
    · rw [(step_marks durable.kept critical).1 marked] at unmarked
      cases unmarked
    · refine ⟨by simp [RelayCore.writing, holds], ?_⟩
      cases skips : core.store.coalesces respectInterval now with
      | true =>
        -- A flush that skips leaves the mark where it was.
        simp [RelayCore.snapshot, skips, marked] at unmarked
      | false => simp [RelayCore.snapshot, skips, marked]
    · cases unmarked
    · rw [same, marked] at unmarked
      cases unmarked
  · rcases next_marks taken runs with
      ⟨critical, rfl, rfl⟩ | ⟨respectInterval, now, entered, rfl⟩ | ⟨_, rfl⟩ | ⟨_, other⟩
    · simp [RelayCore.writing, holds] at idle
    · rw [holds] at entered
      cases entered
    · rfl
    · exact (other holds).elim

/-- A relay as it runs by default, on a machine of 64 bits. -/
def defaultRelay : Config where
  plat := ⟨2 ^ 64 - 1, (2 ^ 63 - 1) * nanosPerSec + (nanosPerSec - 1)⟩
  limits := .default
  directory := none
  b64 := .standard
  shortHash := fun _ => "0000000000000000"

/-- Nine tenths of a second after its start a relay takes a post that it keeps for one second. -/
def briefPost : List CoreEvent :=
  [.restart ⟨0, 1700000000⟩,
    .store (.request ⟨9 * (nanosPerSec / 10), 1700000000, "id", "token"⟩
      (.post "mailbox" "AAAA" 1)),
    .enter true, .snapshot (9 * (nanosPerSec / 10)), .written]

/-- The relay after a list of events; `none` when one of them cannot happen. -/
def RelayCore.after (cfg : Config) (core : RelayCore) (events : List CoreEvent) :
    Option RelayCore :=
  events.foldlM (fun core event => core.step cfg event) core

/-- What a list of events leads to is reached by a run. -/
theorem RelayCore.after_reached {cfg : Config} {events : List CoreEvent} :
    ∀ {core last : RelayCore}, core.after cfg events = some last →
      Reach core (RelayCore.Next cfg) last := by
  induction events with
  | nil =>
    intro core last done
    obtain rfl := Option.some.inj done
    exact .start
  | cons event events ih =>
    intro core last done
    simp only [RelayCore.after, List.foldlM_cons, Option.bind_eq_bind,
      Option.bind_eq_some_iff] at done
    obtain ⟨mid, first, rest⟩ := done
    exact (Reach.step event .start first).trans (ih rest)

/-- A test that holds of the relay a list of events leads to holds of a reached relay. -/
theorem RelayCore.reached_of_any (cfg : Config) (events : List CoreEvent)
    {test : RelayCore → Bool} (holds : (RelayCore.fresh.after cfg events).any test = true) :
    ∃ core, Reach .fresh (RelayCore.Next cfg) core ∧ test core = true := by
  obtain ⟨core, run, passes⟩ := (Option.any_eq_true _ _).mp holds
  exact ⟨core, RelayCore.after_reached run, passes⟩

/-- The relay with the brief post on disk, and nothing left to write. -/
theorem brief_post_persists : ∃ core, Reach .fresh (RelayCore.Next defaultRelay) core
    ∧ (!core.store.dirty && !core.writing && core.file.isSome) = true
    ∧ Persists defaultRelay core := by
  have quietly : (RelayCore.fresh.after defaultRelay briefPost).any
      (fun core => !core.store.dirty && !core.writing && core.file.isSome) = true := by
    decide +kernel
  obtain ⟨core, reached, quiet⟩ := RelayCore.reached_of_any defaultRelay briefPost quietly
  exact ⟨core, reached, quiet, persistence_follows defaultRelay Base64.decode_encode reached⟩

/--
A load can leave out what the store still serves, and bring back what the store had dropped.

The wall clock is read in whole seconds, so a blob runs out on disk within the second before it
runs out in memory, and its cost stays in the store's total.
After a restart, a wall clock set back finds in the file what that restart left out.
-/
theorem load_differs_from_store :
    (∃ core, Reach .fresh (RelayCore.Next defaultRelay) core
      ∧ (!core.store.dirty && !core.writing
        && (core.store.queue "mailbox").any (fun s => 15 * (nanosPerSec / 10) < s.expiry)
        && (loadStore defaultRelay ⟨15 * (nanosPerSec / 10), 1700000001⟩ core.file).any
          (fun loaded => loaded.queue "mailbox" == [] && loaded.totalBytes == 0
            && core.store.totalBytes != 0)) = true)
    ∧ ∃ core, Reach .fresh (RelayCore.Next defaultRelay) core
      ∧ (!core.store.dirty && !core.writing && core.store.queue "mailbox" == []
        && (loadStore defaultRelay ⟨0, 1700000000⟩ core.file).any
          (fun loaded => loaded.queue "mailbox" != [])) = true :=
  ⟨RelayCore.reached_of_any defaultRelay briefPost (by decide +kernel),
    RelayCore.reached_of_any defaultRelay (briefPost ++ [.restart ⟨0, 1700000100⟩])
      (by decide +kernel)⟩

end Nightdrop.Relay
