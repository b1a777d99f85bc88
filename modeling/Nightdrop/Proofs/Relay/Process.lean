import Nightdrop.Proofs.Relay.Store

/-! Laws of the request dispatch: everything one request can do to the store. -/

namespace Nightdrop.Relay

open Ledger

/-- Everything a post is checked against before it is charged. -/
structure Admits (cfg : Config) (inner : StoreInner) (handle : Handle) (len : Nat) : Prop where
  valid : validHandle handle = true
  blob : len ≤ cfg.limits.maxBlobBytes
  room : inner.totalBytes + (len + handle.utf8ByteSize + cfg.limits.entryOverheadBytes)
    ≤ cfg.plat.usizeMax
  total : inner.totalBytes + (len + handle.utf8ByteSize + cfg.limits.entryOverheadBytes)
    ≤ cfg.limits.maxTotalBytes
  reserve : cfg.limits.smallBlobBytes < len →
    inner.totalBytes + (len + handle.utf8ByteSize + cfg.limits.entryOverheadBytes)
      ≤ cfg.limits.maxTotalBytes - cfg.limits.smallReserveBytes
  depth : (inner.queue handle).length < cfg.limits.maxMailboxBlobs
  mailbox : ((inner.queue handle).map (fun s => s.bytes.length)).sum + len
    ≤ cfg.limits.maxMailboxBytes

/-- Whether a post passes every check made before it is charged. -/
def passes (cfg : Config) (inner : StoreInner) (handle : Handle) (bytes : Bytes) : Bool :=
  validHandle handle
    && (entryCost cfg.plat handle bytes.length cfg.limits.entryOverheadBytes).bind
      (rejection cfg inner handle bytes.length) == some none

/-- What a stored blob costs, when its cost can be computed at all. -/
def costOf (cfg : Config) (handle : Handle) (len : Nat) : Nat :=
  len + handle.utf8ByteSize + cfg.limits.entryOverheadBytes

/-- The store an accepted post leaves. -/
def posted (cfg : Config) (inner : StoreInner) (handle : Handle) (entry : Stored) : StoreInner :=
  { inner with
    totalBytes := inner.totalBytes + costOf cfg handle entry.bytes.length
    map := inner.map.insert handle (inner.queue handle ++ [entry])
    dirty := true }

/-- The store a post leaves that panics after it was charged. -/
def overcharged (cfg : Config) (inner : StoreInner) (handle : Handle) (len : Nat) : StoreInner :=
  { inner with
    totalBytes := inner.totalBytes + costOf cfg handle len
    map := inner.map.insert handle (inner.queue handle) }

theorem checkedAdd_eq_some {plat : Platform} {a b sum : Nat}
    (fits : checkedAdd plat a b = some sum) : sum = a + b := by
  simp only [checkedAdd] at fits
  split at fits
  · simpa using fits.symm
  · cases fits

theorem checkedAdd_fits {plat : Platform} {a b sum : Nat}
    (fits : checkedAdd plat a b = some sum) : sum ≤ plat.usizeMax := by
  have value := checkedAdd_eq_some fits
  simp only [checkedAdd] at fits
  split at fits
  · omega
  · cases fits

theorem entryCost_eq_some {plat : Platform} {handle : Handle} {len overhead cost : Nat}
    (fits : entryCost plat handle len overhead = some cost) :
    cost = len + handle.utf8ByteSize + overhead := by
  obtain ⟨sum, first, second⟩ := Option.bind_eq_some_iff.mp fits
  rw [checkedAdd_eq_some second, checkedAdd_eq_some first]

/-- A post that no check refuses is within every limit. -/
theorem rejection_none {cfg : Config} {inner : StoreInner} {handle : Handle} {len : Nat}
    (valid : validHandle handle = true)
    (passed : rejection cfg inner handle len
      (len + handle.utf8ByteSize + cfg.limits.entryOverheadBytes) = some none) :
    Admits cfg inner handle len := by
  simp only [rejection] at passed
  split at passed
  · simp at passed
  rename_i blob
  obtain ⟨after, sum, passed⟩ := Option.bind_eq_some_iff.mp passed
  have room := checkedAdd_fits sum
  obtain rfl := checkedAdd_eq_some sum
  split at passed
  · simp at passed
  rename_i total
  split at passed
  · simp at passed
  rename_i reserve
  obtain ⟨queueBytes, queued, passed⟩ := Option.bind_eq_some_iff.mp passed
  split at passed
  · simp at passed
  rename_i depth
  obtain ⟨together, added, passed⟩ := Option.bind_eq_some_iff.mp passed
  obtain rfl := checkedAdd_eq_some added
  split at passed
  · simp at passed
  rename_i mailbox
  have sumOf : queueBytes = ((inner.queue handle).map (fun s => s.bytes.length)).sum := by
    simp only [checkedSum] at queued
    split at queued
    · simpa using queued.symm
    · cases queued
  exact {
    valid := valid
    blob := by omega
    room := room
    total := by omega
    reserve := fun large => by
      simp only [Bool.and_eq_true, decide_eq_true_eq, not_and] at reserve
      have fits := reserve large
      omega
    depth := by omega
    mailbox := by omega }

/--
Everything a post can do: be refused, panic, or store one entry at the back of its queue.

Only the panic on the expiry comes after the store was charged.
-/
theorem post_cases (cfg : Config) (amb : Ambient) (handle : Handle) (blob : String) (ttlSecs : Nat)
    (inner : StoreInner) :
    (∃ response event, post cfg amb handle blob ttlSecs inner = .answer response event inner
        ∧ response.ok = false)
      ∨ post cfg amb handle blob ttlSecs inner = .panicked inner
      ∨ (∃ bytes, cfg.b64.decode blob = some bytes ∧ passes cfg inner handle bytes = true
        ∧ Admits cfg inner handle bytes.length ∧ expiryFits cfg amb ttlSecs = false
        ∧ post cfg amb handle blob ttlSecs inner
          = .panicked (overcharged cfg inner handle bytes.length))
      ∨ (∃ bytes response event, cfg.b64.decode blob = some bytes
        ∧ passes cfg inner handle bytes = true ∧ Admits cfg inner handle bytes.length
        ∧ expiryFits cfg amb ttlSecs = true ∧ response.ok = true
        ∧ post cfg amb handle blob ttlSecs inner = .answer response event
          (posted cfg inner handle
            (storedOf cfg amb bytes (costOf cfg handle bytes.length) ttlSecs))) := by
  cases decoded : cfg.b64.decode blob with
  | none => exact .inl ⟨_, _, by simp only [post, decoded]; rfl, rfl⟩
  | some bytes =>
    by_cases valid : validHandle handle = true
    · cases charged : entryCost cfg.plat handle bytes.length cfg.limits.entryOverheadBytes with
      | none => exact .inr (.inl (by simp [post, decoded, valid, charged]))
      | some cost =>
        obtain rfl := entryCost_eq_some charged
        cases checked : rejection cfg inner handle bytes.length
            (bytes.length + handle.utf8ByteSize + cfg.limits.entryOverheadBytes) with
        | none => exact .inr (.inl (by simp [post, decoded, valid, charged, checked]))
        | some verdict =>
          cases verdict with
          | some reason =>
            exact .inl ⟨_, _, by simp only [post, decoded, valid, charged, checked]; rfl, rfl⟩
          | none =>
            have admits := rejection_none valid checked
            have passed : passes cfg inner handle bytes = true := by
              simp [passes, valid, charged, checked]
            cases fits : expiryFits cfg amb ttlSecs with
            | false =>
              exact .inr (.inr (.inl ⟨bytes, rfl, passed, admits, rfl, by
                simp only [post, decoded, valid, charged, checked, fits]; rfl⟩))
            | true =>
              exact .inr (.inr (.inr ⟨bytes, _, _, rfl, passed, admits, rfl, rfl, by
                simp only [post, decoded, valid, charged, checked, fits]; rfl⟩))
    · exact .inl ⟨_, _, by simp only [post, decoded, valid]; rfl, rfl⟩

/-- What an accepted post leaves under each handle. -/
theorem queue_posted (cfg : Config) (inner : StoreInner) (target handle : Handle)
    (entry : Stored) :
    (posted cfg inner target entry).queue handle
      = if handle = target then inner.queue handle ++ [entry] else inner.queue handle := by
  by_cases same : handle = target
  · subst same
    simp [posted, StoreInner.queue]
  · simp [posted, StoreInner.queue, AList.lookup_insert_ne same, same]

/-- A post that panics leaves every queue as it was. -/
theorem queue_overcharged (cfg : Config) (inner : StoreInner) (target handle : Handle) (len : Nat) :
    (overcharged cfg inner target len).queue handle = inner.queue handle := by
  by_cases same : handle = target
  · subst same
    simp [overcharged, StoreInner.queue]
  · simp [overcharged, StoreInner.queue, AList.lookup_insert_ne same]

theorem weightAt_eq_queueCost (inner : StoreInner) (handle : Handle) :
    KeyedMap.weightAt queueCost inner.map handle = queueCost handle (inner.queue handle) := by
  cases found : inner.map.lookup handle with
  | none => simp [KeyedMap.weightAt, StoreInner.queue, found, queueCost]
  | some queue => simp [KeyedMap.weightAt, StoreInner.queue, found]

/-- Storing an entry adds its cost to the sum over the store. -/
theorem total_posted (cfg : Config) (inner : StoreInner) (handle : Handle) (entry : Stored) :
    KeyedMap.total queueCost (posted cfg inner handle entry).map
      = KeyedMap.total queueCost inner.map + entry.cost := by
  have written := KeyedMap.total_insert queueCost inner.map handle (inner.queue handle ++ [entry])
  rw [weightAt_eq_queueCost] at written
  simp only [queueCost, List.map_append, List.sum_append, List.map_cons, List.map_nil,
    List.sum_cons, List.sum_nil, Nat.add_zero] at written
  simp only [posted]
  omega

/-- Opening a mailbox without storing anything adds nothing. -/
theorem total_overcharged (cfg : Config) (inner : StoreInner) (handle : Handle) (len : Nat) :
    KeyedMap.total queueCost (overcharged cfg inner handle len).map
      = KeyedMap.total queueCost inner.map := by
  have written := KeyedMap.total_insert queueCost inner.map handle (inner.queue handle)
  rw [weightAt_eq_queueCost] at written
  simp only [overcharged]
  omega

/-- What a filtered-out part of a queue costs. -/
theorem freedBy_add (keep : Stored → Bool) (queue : List Stored) :
    freedBy keep queue + queueCost "" (queue.filter keep) = queueCost "" queue := by
  induction queue with
  | nil => rfl
  | cons head rest ih =>
    simp only [freedBy, queueCost] at ih ⊢
    by_cases kept : keep head = true
    · simp [kept]
      omega
    · simp [kept]
      omega

/-- In a solvent store a recall never panics, and removes exactly the entries it hits. -/
theorem recallHits_spec {inner : StoreInner} (solvent : Solvent inner) (handle : Handle)
    (msgId deleteToken : String) :
    ∃ removed left, inner.recallHits handle msgId deleteToken = (some removed, left)
      ∧ Shrinks inner left
      ∧ ∀ other, left.queue other = if other = handle
        then (inner.queue other).filter (fun s => !recallHit msgId deleteToken s)
        else inner.queue other := by
  cases found : inner.map.lookup handle with
  | none =>
    have nothing : inner.queue handle = [] := by simp [StoreInner.queue, found]
    refine ⟨false, inner, by simp only [StoreInner.recallHits, found], Shrinks.refl inner,
      fun other => ?_⟩
    by_cases same : other = handle <;> simp [same, nothing]
  | some queue =>
    have here := queue_of_lookup found
    have paid := freedBy_add (fun s => !recallHit msgId deleteToken s) queue
    have inTotal : queueCost handle queue ≤ inner.totalBytes :=
      (weightAt_of_lookup found ▸ KeyedMap.weightAt_le_total queueCost inner.map handle).trans
        solvent
    have enough : freedBy (fun s => !recallHit msgId deleteToken s) queue ≤ inner.totalBytes := by
      simp only [queueCost] at paid inTotal
      omega
    refine ⟨_, _, by
      simp only [StoreInner.recallHits, found, Nat.not_lt.mpr enough, if_false]; rfl,
      shrinks_write found List.filter_sublist paid enough _ (fun marked => by simp [marked])
        (fun unmarked => ?_), fun other => ?_⟩
    · -- Nothing was removed, so nothing was freed.
      have whole : (queue.filter (fun s => !recallHit msgId deleteToken s)).length
          = queue.length := by
        simp only [Bool.or_eq_false_iff, bne_eq_false_iff_eq] at unmarked
        exact unmarked.2
      have all := List.filter_sublist.eq_of_length whole
      rw [all] at paid
      omega
    rw [queue_write]
    by_cases same : other = handle
    · subst same
      simp [here]
    · simp [same]

end Nightdrop.Relay
