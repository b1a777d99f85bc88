import Nightdrop.Proofs.Relay.Run
import Nightdrop.Lib.Reach

/-! The relay's books: the running total, the limits, and exactly when a step breaks them. -/

namespace Nightdrop.Relay

/-- The sum over all stored entries of blob, handle and overhead. -/
def storedBytes (cfg : Config) (inner : StoreInner) : Nat :=
  KeyedMap.total
    (fun handle queue => (queue.map (fun s => costOf cfg handle s.bytes.length)).sum) inner.map

/-- A store whose books are in order and within every limit. -/
structure Accounted (cfg : Config) (inner : StoreInner) : Prop where
  total : inner.totalBytes = storedBytes cfg inner
  costs : ∀ handle, ∀ s ∈ inner.queue handle, s.cost = costOf cfg handle s.bytes.length
  noEmpty : ∀ handle, inner.map.lookup handle ≠ some []
  within : inner.totalBytes ≤ cfg.limits.maxTotalBytes
  depth : ∀ handle, (inner.queue handle).length ≤ cfg.limits.maxMailboxBlobs
  mailbox : ∀ handle,
    ((inner.queue handle).map (fun s => s.bytes.length)).sum ≤ cfg.limits.maxMailboxBytes

/--
Whether an event is a post that passes every check but whose expiry cannot be represented.

Such a post panics after the store was charged for it.
-/
def lateOverflow (cfg : Config) (inner : StoreInner) : Event → Bool
  | .request amb (.post handle blob ttlSecs) =>
    (cfg.b64.decode blob).any (passes cfg inner handle) && !expiryFits cfg amb ttlSecs
  | _ => false

/-- When every entry carries its own charge, the two sums over the store agree. -/
theorem storedBytes_eq {cfg : Config} {inner : StoreInner}
    (costs : ∀ handle, ∀ s ∈ inner.queue handle, s.cost = costOf cfg handle s.bytes.length) :
    storedBytes cfg inner = KeyedMap.total queueCost inner.map := by
  refine KeyedMap.total_congr _ _ inner.map (fun handle queue found => ?_)
  refine congrArg List.sum (List.map_congr_left (fun s member => ?_))
  exact (costs handle s (by rwa [queue_of_lookup found])).symm

/-- A store with its books in order can pay for everything it frees. -/
theorem Accounted.solvent {cfg : Config} {inner : StoreInner} (accounted : Accounted cfg inner) :
    Solvent inner := by
  rw [Solvent, accounted.total, storedBytes_eq accounted.costs]

/-- Losing entries and paying for them keeps the books in order. -/
theorem Accounted.shrinks {cfg : Config} {inner left : StoreInner}
    (accounted : Accounted cfg inner) (shrunk : Shrinks inner left) : Accounted cfg left := by
  have costs : ∀ handle, ∀ s ∈ left.queue handle, s.cost = costOf cfg handle s.bytes.length :=
    fun handle s member => accounted.costs handle s ((shrunk.queues handle).subset member)
  have before := accounted.total
  have balance := shrunk.total
  rw [storedBytes_eq accounted.costs] at before
  have total : left.totalBytes = storedBytes cfg left := by
    rw [storedBytes_eq costs]
    omega
  exact {
    total := total
    costs := costs
    noEmpty := fun handle found => accounted.noEmpty handle (shrunk.noEmpty handle found)
    within := shrunk.spends.trans accounted.within
    depth := fun handle => (shrunk.queues handle).length_le.trans (accounted.depth handle)
    mailbox := fun handle => (((shrunk.queues handle).map _).sum_le_sum (by simp)).trans
      (accounted.mailbox handle) }

/-- An accepted post keeps the books in order. -/
theorem Accounted.posted {cfg : Config} {inner : StoreInner} (accounted : Accounted cfg inner)
    {handle : Handle} {entry : Stored} (cost : entry.cost = costOf cfg handle entry.bytes.length)
    (admits : Admits cfg inner handle entry.bytes.length) :
    Accounted cfg (posted cfg inner handle entry) := by
  have costs : ∀ other, ∀ s ∈ (Relay.posted cfg inner handle entry).queue other,
      s.cost = costOf cfg other s.bytes.length := by
    intro other s member
    rw [queue_posted] at member
    by_cases same : other = handle
    · subst same
      simp only [if_true, List.mem_append, List.mem_singleton] at member
      rcases member with old | rfl
      · exact accounted.costs other s old
      · exact cost
    · exact accounted.costs other s (by simpa [same] using member)
  have before := accounted.total
  rw [storedBytes_eq accounted.costs] at before
  exact {
    total := by
      rw [storedBytes_eq costs, total_posted, cost, ← before]
      rfl
    costs := costs
    noEmpty := fun other => by
      by_cases same : other = handle
      · subst same
        simp [Relay.posted]
      · simpa [Relay.posted, AList.lookup_insert_ne same] using accounted.noEmpty other
    within := admits.total
    depth := fun other => by
      rw [queue_posted]
      by_cases same : other = handle
      · subst same
        simpa using Nat.succ_le_of_lt admits.depth
      · simpa [same] using accounted.depth other
    mailbox := fun other => by
      rw [queue_posted]
      by_cases same : other = handle
      · subst same
        simpa using admits.mailbox
      · simpa [same] using accounted.mailbox other }

/-- Handles that may be posted to are not empty, so every stored entry costs something. -/
theorem costOf_pos (cfg : Config) {handle : Handle} (valid : validHandle handle = true)
    (len : Nat) : 0 < costOf cfg handle len := by
  simp only [validHandle, Bool.and_eq_true, decide_eq_true_eq] at valid
  simp only [costOf]
  omega

/-- A post that panics after it was charged leaves the total above the sum. -/
theorem overcharged_total {cfg : Config} {inner : StoreInner} (accounted : Accounted cfg inner)
    {handle : Handle} (valid : validHandle handle = true) (len : Nat) :
    (overcharged cfg inner handle len).totalBytes
      ≠ storedBytes cfg (overcharged cfg inner handle len) := by
  have before := accounted.total
  have costs : ∀ other, ∀ s ∈ (overcharged cfg inner handle len).queue other,
      s.cost = costOf cfg other s.bytes.length := by
    intro other s member
    exact accounted.costs other s (by simpa [queue_overcharged] using member)
  rw [storedBytes_eq accounted.costs] at before
  rw [storedBytes_eq costs, total_overcharged, ← before]
  have positive := costOf_pos cfg valid len
  simp only [overcharged]
  omega

/-- A critical section that does not overflow late keeps the books in order. -/
theorem step_accounted {cfg : Config} {inner : StoreInner} (accounted : Accounted cfg inner)
    {event : Event} (fits : lateOverflow cfg inner event = false) :
    Accounted cfg (step cfg inner event) := by
  rcases step_cases cfg accounted.solvent event with
    shrunk | ⟨amb, handle, blob, ttlSecs, bytes, rfl, decoded, passed, _, late, _⟩
    | ⟨amb, handle, blob, ttlSecs, bytes, _, admits, _, left⟩
  · exact accounted.shrinks shrunk
  · simp [lateOverflow, decoded, passed, late] at fits
  · rw [left]
    exact accounted.posted rfl admits

/-- What a late overflow does: the store is charged, and the mailbox opened, for nothing. -/
theorem post_late {cfg : Config} {amb : Ambient} {handle : Handle} {blob : String} {ttlSecs : Nat}
    {inner : StoreInner} {bytes : Bytes} (decoded : cfg.b64.decode blob = some bytes)
    (passed : passes cfg inner handle bytes = true) (late : expiryFits cfg amb ttlSecs = false) :
    post cfg amb handle blob ttlSecs inner
      = .panicked (overcharged cfg inner handle bytes.length) := by
  simp only [passes, Bool.and_eq_true, beq_iff_eq, Option.bind_eq_some_iff] at passed
  obtain ⟨valid, cost, charged, checked⟩ := passed
  obtain rfl := entryCost_eq_some charged
  simp only [post, decoded, valid, charged, checked, late]
  rfl

/-- A critical section that overflows late leaves the total above the sum. -/
theorem step_overcharged {cfg : Config} {inner : StoreInner} (accounted : Accounted cfg inner)
    {event : Event} (late : lateOverflow cfg inner event = true) :
    (step cfg inner event).totalBytes ≠ storedBytes cfg (step cfg inner event) := by
  cases event with
  | reap now => simp [lateOverflow] at late
  | request amb req =>
    cases req with
    | post handle blob ttlSecs =>
      simp only [lateOverflow, Bool.and_eq_true, Bool.not_eq_true'] at late
      obtain ⟨passed, late⟩ := late
      obtain ⟨bytes, decoded, passed⟩ := (Option.any_eq_true _ _).mp passed
      have valid : validHandle handle = true := by
        simp only [passes, Bool.and_eq_true] at passed
        exact passed.1
      simpa [step, process, post_late decoded passed late, Handled.panicked] using
        overcharged_total accounted valid bytes.length
    | _ => simp [lateOverflow] at late

/-- One critical section of a run in which no post overflows late. -/
def TimelyStep (cfg : Config) (inner : StoreInner) (event : Event) (left : StoreInner) : Prop :=
  lateOverflow cfg inner event = false ∧ left = step cfg inner event

/-- The books of a store, and what the next critical section can do to them. -/
structure Books (cfg : Config) (inner : StoreInner) : Prop where
  accounted : Accounted cfg inner
  /-- No subtraction from the total underflows, whichever path frees entries. -/
  drains : ∀ handle budget now, (inner.drainHandleBounded handle budget now).1 ≠ none
  drainsAll : ∀ now handles budget, (drainAll now handles budget inner).1 ≠ none
  recalls : ∀ handle msgId deleteToken, (inner.recallHits handle msgId deleteToken).1 ≠ none
  reaps : ∀ now, (inner.reap now).1 ≠ none
  /-- A large blob is accepted only when it leaves the reserve. -/
  reserve : ∀ amb handle blob ttlSecs bytes response event,
    cfg.b64.decode blob = some bytes → cfg.limits.smallBlobBytes < bytes.length →
    (post cfg amb handle blob ttlSecs inner).reply = some (response, event) →
    response.ok = true →
    (post cfg amb handle blob ttlSecs inner).store.totalBytes
      ≤ cfg.limits.maxTotalBytes - cfg.limits.smallReserveBytes
  /-- A refused post changes nothing at all. -/
  refused : ∀ amb handle blob ttlSecs response event,
    (post cfg amb handle blob ttlSecs inner).reply = some (response, event) →
    response.ok = false → (post cfg amb handle blob ttlSecs inner).store = inner
  /-- No post evicts anything. -/
  keeps : ∀ amb handle blob ttlSecs other,
    inner.queue other <+: (post cfg amb handle blob ttlSecs inner).store.queue other
  /-- The total still equals the sum after the next step exactly when it is no late overflow. -/
  exact : ∀ event, (step cfg inner event).totalBytes = storedBytes cfg (step cfg inner event)
    ↔ lateOverflow cfg inner event = false

theorem accounted_empty (cfg : Config) : Accounted cfg .empty where
  total := rfl
  costs := by simp
  noEmpty handle := by simp [StoreInner.empty]
  within := Nat.zero_le _
  depth handle := by simp
  mailbox handle := by simp

/-- Books in order tell what every step can do. -/
theorem Accounted.books {cfg : Config} {inner : StoreInner} (accounted : Accounted cfg inner) :
    Books cfg inner where
  accounted := accounted
  drains handle budget now := by
    obtain ⟨left, drained, _, _⟩ := drainHandleBounded_spec accounted.solvent handle budget now
    simp [drained]
  drainsAll now handles budget := by
    obtain ⟨parts, left, drained, _, _⟩ := drainAll_spec now handles budget accounted.solvent
    simp [drained]
  recalls handle msgId deleteToken := by
    obtain ⟨removed, left, recalled, _, _⟩ :=
      recallHits_spec accounted.solvent handle msgId deleteToken
    simp [recalled]
  reaps now := by simp [(reap_spec accounted.solvent now).1]
  reserve amb handle blob ttlSecs bytes response event decoded large replied ok := by
    rcases post_cases cfg amb handle blob ttlSecs inner with
      ⟨_, _, refused, notOk⟩ | panicked | ⟨_, _, _, _, _, panicked⟩
      | ⟨found, _, _, foundDecoded, _, admits, _, _, stored⟩
    · simp only [refused, Handled.answer, Option.some.injEq, Prod.mk.injEq] at replied
      simp [replied.1, ok] at notOk
    · simp [panicked, Handled.panicked] at replied
    · simp [panicked, Handled.panicked] at replied
    · obtain rfl : bytes = found := by simpa [decoded] using foundDecoded
      simpa [stored, Handled.answer, Relay.posted, storedOf, costOf] using admits.reserve large
  refused amb handle blob ttlSecs response event replied notOk := by
    rcases post_cases cfg amb handle blob ttlSecs inner with
      ⟨_, _, refused, _⟩ | panicked | ⟨_, _, _, _, _, panicked⟩ | ⟨_, _, _, _, _, _, _, ok, stored⟩
    · simp [refused, Handled.answer]
    · simp [panicked, Handled.panicked] at replied
    · simp [panicked, Handled.panicked] at replied
    · simp only [stored, Handled.answer, Option.some.injEq, Prod.mk.injEq] at replied
      simp [replied.1, notOk] at ok
  keeps amb handle blob ttlSecs other := by
    rcases post_cases cfg amb handle blob ttlSecs inner with
      ⟨_, _, refused, _⟩ | panicked | ⟨_, _, _, _, _, panicked⟩ | ⟨_, _, _, _, _, _, _, _, stored⟩
    · simp [refused, Handled.answer]
    · simp [panicked, Handled.panicked]
    · simp [panicked, Handled.panicked, queue_overcharged]
    · rw [stored, Handled.answer, queue_posted]
      split
      · exact List.prefix_append _ _
      · exact List.prefix_refl _
  exact event := by
    cases late : lateOverflow cfg inner event with
    | false => simpa using (step_accounted accounted late).total
    | true => simpa using step_overcharged accounted late

/-- In every run without a late overflow the books are in order after every step. -/
theorem relay_books (cfg : Config) {inner : StoreInner}
    (reached : Reach .empty (TimelyStep cfg) inner) : Books cfg inner := by
  refine Accounted.books (reached.invariant (accounted_empty cfg) ?_)
  rintro s event left _ accounted ⟨timely, rfl⟩
  exact step_accounted accounted timely

/-- A relay whose longest time to live is the largest duration there is. -/
def unboundedTtl : Config where
  plat := ⟨2 ^ 64 - 1, (2 ^ 63 - 1) * nanosPerSec + (nanosPerSec - 1)⟩
  limits := { RelayLimits.default with maxTtl := u64Max * nanosPerSec + (nanosPerSec - 1) }
  directory := none
  b64 := .standard
  shortHash := fun _ => "0000000000000000"

def sampleAmbient : Ambient := ⟨nanosPerSec, 1700000000, "id", "token"⟩

/-- The books hold after a post that keeps its mail for a minute. -/
theorem relay_books_minute : Books unboundedTtl
    (step unboundedTtl .empty (.request sampleAmbient (.post "mailbox" "AAAA" 60))) :=
  relay_books unboundedTtl (.step (.request sampleAmbient (.post "mailbox" "AAAA" 60)) .start
    ⟨by decide +kernel, rfl⟩)

/-- A post kept for the longest time charges the total, opens its mailbox and stores nothing. -/
theorem total_not_sum :
    let inner := run unboundedTtl .empty [.request sampleAmbient (.post "mailbox" "AAAA" u64Max)]
    inner.totalBytes = 522 ∧ storedBytes unboundedTtl inner = 0
      ∧ inner.map.lookup "mailbox" = some [] := by
  decide +kernel

end Nightdrop.Relay
