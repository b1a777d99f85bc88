import Nightdrop.Relay.Run
import Nightdrop.Lib.Ledger
import Nightdrop.Lib.Reach

/-! Laws of the mailbox store: what one drain, reap, recallBlob or post does to every queue. -/

namespace Nightdrop.Relay

open Ledger

/-- What one queue counts against the total. -/
def queueCost (_ : Handle) (queue : List Stored) : Nat := (queue.map Stored.cost).sum

/-- The running total covers every stored entry, so freeing any of them cannot underflow. -/
def Solvent (inner : StoreInner) : Prop := KeyedMap.total queueCost inner.map ≤ inner.totalBytes

@[simp] theorem queue_empty (handle : Handle) : StoreInner.empty.queue handle = [] := rfl

theorem queue_of_lookup {inner : StoreInner} {handle : Handle} {queue : List Stored}
    (found : inner.map.lookup handle = some queue) : inner.queue handle = queue := by
  simp [StoreInner.queue, found]

/-- Writing or dropping one mailbox changes only the queue under its handle. -/
theorem queue_write {inner : StoreInner} {handle target : Handle} (queue : List Stored) (total : Nat)
    (dirty : Bool) :
    StoreInner.queue { inner with
        map := if queue.isEmpty then inner.map.erase target else inner.map.insert target queue
        totalBytes := total
        dirty := dirty } handle
      = if handle = target then queue else inner.queue handle := by
  by_cases same : handle = target
  · subst same
    cases queue with
    | nil => simp [StoreInner.queue]
    | cons head rest => simp [StoreInner.queue]
  · cases queue with
    | nil => simp [StoreInner.queue, AList.lookup_erase_ne same, same]
    | cons head rest => simp [StoreInner.queue, AList.lookup_insert_ne same, same]

/-- The total after writing or dropping one mailbox. -/
theorem total_write (m : KeyedMap Handle (List Stored)) (handle : Handle) (queue : List Stored) :
    KeyedMap.total queueCost
        (if queue.isEmpty then m.erase handle else m.insert handle queue)
      + KeyedMap.weightAt queueCost m handle
      = KeyedMap.total queueCost m + queueCost handle queue := by
  cases queue with
  | nil => simpa [queueCost] using KeyedMap.total_erase queueCost m handle
  | cons head rest => exact KeyedMap.total_insert queueCost m handle (head :: rest)

theorem weightAt_of_lookup {m : KeyedMap Handle (List Stored)} {handle : Handle}
    {queue : List Stored} (found : m.lookup handle = some queue) :
    KeyedMap.weightAt queueCost m handle = queueCost handle queue := by
  simp [KeyedMap.weightAt, found]

/-- How the draining loop decides each entry: served, lapsed, or left waiting. -/
def drainDecisions (now : Nanos) : List Stored → TakeBudget → Ledger Stored
  | [], _ => []
  | head :: queue, budget =>
    if head.expiry ≤ now then (head, .lapsed) :: drainDecisions now queue budget
    else
      match budget.admit head.bytes.length with
      | (false, _) => allAs .waiting (head :: queue)
      | (true, budget) => (head, .served) :: drainDecisions now queue budget

/-- The loop's three lists are the decisions read by fate. -/
theorem drainDecisions_spec (now : Nanos) (queue : List Stored) (budget : TakeBudget) :
    items (drainDecisions now queue budget) = queue
      ∧ having .served (drainDecisions now queue budget) = (drainLoop now queue budget).taken
      ∧ having .waiting (drainDecisions now queue budget) = (drainLoop now queue budget).rest
      ∧ InOrder (drainDecisions now queue budget)
      ∧ ∀ s, (s, Fate.withdrawn) ∉ drainDecisions now queue budget := by
  induction queue generalizing budget with
  | nil => exact ⟨rfl, rfl, rfl, List.Pairwise.nil, by simp [drainDecisions]⟩
  | cons head rest ih =>
    by_cases expired : head.expiry ≤ now
    · -- An expired head is dropped and the loop goes on with the same budget.
      obtain ⟨all, served, waiting, ordered, none⟩ := ih budget
      simp only [drainDecisions, drainLoop, expired, if_true]
      exact ⟨by simp [all], by simpa using served, by simpa using waiting,
        List.pairwise_cons.mpr ⟨fun _ _ waits => absurd waits (by simp), ordered⟩,
        by simpa using none⟩
    · simp only [drainDecisions, drainLoop, expired, if_false]
      rcases admitted : budget.admit head.bytes.length with ⟨fits, after⟩
      cases fits with
      | false =>
        -- A live head that does not fit ends the loop, and everything behind it waits.
        refine ⟨by simp, ?_, by simp, ?_, by simp [mem_allAs]⟩
        · simpa using having_allAs_ne (by decide) (head :: rest)
        · exact inOrder_of_no_served (having_allAs_ne (by decide) _)
      | true =>
        obtain ⟨all, served, waiting, ordered, none⟩ := ih after
        exact ⟨by simp [all], by simpa using served, by simpa using waiting,
          List.pairwise_cons.mpr ⟨fun _ _ waits => absurd waits (by simp), ordered⟩,
          by simpa using none⟩

/-- Only entries whose expiry has passed lapse in a drain. -/
theorem drainDecisions_lapsed {now : Nanos} {queue : List Stored} {budget : TakeBudget}
    {s : Stored} (dropped : (s, Fate.lapsed) ∈ drainDecisions now queue budget) :
    s.expiry ≤ now := by
  induction queue generalizing budget with
  | nil => simp [drainDecisions] at dropped
  | cons head rest ih =>
    by_cases expired : head.expiry ≤ now
    · simp only [drainDecisions, expired, if_true, List.mem_cons, Prod.mk.injEq, and_true]
        at dropped
      rcases dropped with rfl | tail
      · exact expired
      · exact ih tail
    · simp only [drainDecisions, expired, if_false] at dropped
      rcases admitted : budget.admit head.bytes.length with ⟨fits, after⟩
      cases fits with
      | false => simp [admitted, mem_allAs] at dropped
      | true => exact ih (by simpa [admitted] using dropped)

/-- What the loop frees is exactly the cost of the entries that left the queue. -/
theorem drainLoop_freed (now : Nanos) (queue : List Stored) (budget : TakeBudget) :
    (drainLoop now queue budget).freed + queueCost "" (drainLoop now queue budget).rest
      = queueCost "" queue := by
  induction queue generalizing budget with
  | nil => rfl
  | cons head rest ih =>
    by_cases expired : head.expiry ≤ now
    · have tail := ih budget
      simp only [drainLoop, expired, if_true]
      simp [queueCost] at tail ⊢
      omega
    · simp only [drainLoop, expired, if_false]
      rcases admitted : budget.admit head.bytes.length with ⟨fits, after⟩
      cases fits with
      | false => simp
      | true =>
        have tail := ih after
        simp [queueCost] at tail ⊢
        omega

/-- The queue a drain leaves is a suffix of the one it found. -/
theorem drainLoop_rest_suffix (now : Nanos) (queue : List Stored) (budget : TakeBudget) :
    (drainLoop now queue budget).rest <:+ queue := by
  induction queue generalizing budget with
  | nil => exact List.suffix_refl _
  | cons head rest ih =>
    by_cases expired : head.expiry ≤ now
    · simpa [drainLoop, expired] using (ih budget).trans (List.suffix_cons head rest)
    · simp only [drainLoop, expired, if_false]
      rcases admitted : budget.admit head.bytes.length with ⟨fits, after⟩
      cases fits with
      | false => exact List.suffix_refl _
      | true => exact (ih after).trans (List.suffix_cons head rest)

/-- Whether every entry of a queue costs something. -/
def Charged (queue : List Stored) : Prop := ∀ s ∈ queue, 0 < s.cost

/-- A part of a queue that costs as much as the whole is the whole. -/
theorem eq_of_sublist_of_cost {kept queue : List Stored} (part : kept.Sublist queue)
    (charged : Charged queue) (same : (kept.map Stored.cost).sum = (queue.map Stored.cost).sum) :
    kept = queue := by
  induction part with
  | slnil => rfl
  | cons head part _ =>
    -- The entry left out would have cost something.
    have positive := charged head (by simp)
    have atMost := (part.map Stored.cost).sum_le_sum (by simp)
    simp only [List.map_cons, List.sum_cons] at same
    omega
  | cons_cons head part ih =>
    have rest := ih (fun s member => charged s (List.mem_cons_of_mem head member))
      (by simpa using same)
    rw [rest]

/-- A store that only lost entries, with the running total lowered by exactly their cost. -/
structure Shrinks (inner left : StoreInner) : Prop where
  queues : ∀ handle, (left.queue handle).Sublist (inner.queue handle)
  total : left.totalBytes + KeyedMap.total queueCost inner.map
    = inner.totalBytes + KeyedMap.total queueCost left.map
  spends : left.totalBytes ≤ inner.totalBytes
  noEmpty : ∀ handle, left.map.lookup handle = some [] → inner.map.lookup handle = some []
  keepsMark : inner.dirty = true → left.dirty = true
  marks : left.dirty = false → ∀ handle, Charged (inner.queue handle) →
    left.queue handle = inner.queue handle

theorem Shrinks.refl (inner : StoreInner) : Shrinks inner inner :=
  ⟨fun _ => List.Sublist.refl _, rfl, Nat.le_refl _, fun _ found => found, fun marked => marked,
    fun _ _ _ => rfl⟩

theorem Shrinks.trans {a b c : StoreInner} (first : Shrinks a b) (second : Shrinks b c) :
    Shrinks a c where
  queues handle := (second.queues handle).trans (first.queues handle)
  total := by
    have left := first.total
    have right := second.total
    omega
  spends := second.spends.trans first.spends
  noEmpty handle found := first.noEmpty handle (second.noEmpty handle found)
  keepsMark marked := second.keepsMark (first.keepsMark marked)
  marks unmarked handle charged := by
    -- The mark is still missing in between, so neither part changed the queue.
    have between : b.dirty = false := by
      cases mark : b.dirty with
      | false => rfl
      | true => rw [second.keepsMark mark] at unmarked; cases unmarked
    have same := first.marks between handle charged
    rw [second.marks unmarked handle (same ▸ charged), same]

/-- Losing entries keeps the total sufficient. -/
theorem Shrinks.solvent {inner left : StoreInner} (shrinks : Shrinks inner left)
    (solvent : Solvent inner) : Solvent left := by
  have balance := shrinks.total
  simp only [Solvent] at solvent ⊢
  omega

/-- Replacing one stored queue by a part of it, and paying back the difference, only loses entries. -/
theorem shrinks_write {inner : StoreInner} {handle : Handle} {queue kept : List Stored}
    (found : inner.map.lookup handle = some queue) (part : kept.Sublist queue) {freed : Nat}
    (paid : freed + queueCost handle kept = queueCost handle queue)
    (enough : freed ≤ inner.totalBytes) (dirty : Bool)
    (keepsMark : inner.dirty = true → dirty = true) (marks : dirty = false → freed = 0) :
    Shrinks inner { inner with
      map := if kept.isEmpty then inner.map.erase handle else inner.map.insert handle kept
      totalBytes := inner.totalBytes - freed
      dirty := dirty } where
  queues other := by
    rw [queue_write]
    by_cases same : other = handle
    · subst same
      simpa [queue_of_lookup found] using part
    · simp [same]
  total := by
    have written := total_write inner.map handle kept
    rw [weightAt_of_lookup found] at written
    simp only
    omega
  spends := Nat.sub_le _ _
  noEmpty other empty := by
    by_cases same : other = handle
    · -- An emptied mailbox is erased, so it cannot be found empty.
      subst same
      cases kept with
      | nil => simp at empty
      | cons head rest => simp at empty
    · cases kept with
      | nil => simpa [AList.lookup_erase_ne same] using empty
      | cons head rest => simpa [AList.lookup_insert_ne same] using empty
  keepsMark := keepsMark
  marks unmarked other charged := by
    rw [queue_write]
    by_cases same : other = handle
    · subst same
      have costs : queueCost other kept = queueCost other queue := by
        have nothing := marks unmarked
        omega
      rw [queue_of_lookup found] at charged ⊢
      simpa using eq_of_sublist_of_cost part charged costs
    · simp [same]

/-- In a solvent store a drain never panics, and leaves what the loop left. -/
theorem drainHandleBounded_spec {inner : StoreInner} (solvent : Solvent inner) (handle : Handle)
    (budget : TakeBudget) (now : Nanos) :
    ∃ left, inner.drainHandleBounded handle budget now
        = (some ((drainLoop now (inner.queue handle) budget).taken,
            (drainLoop now (inner.queue handle) budget).budget), left)
      ∧ (∀ other, left.queue other = if other = handle
          then (drainLoop now (inner.queue handle) budget).rest else inner.queue other)
      ∧ Shrinks inner left := by
  cases found : inner.map.lookup handle with
  | none =>
    have nothing : inner.queue handle = [] := by simp [StoreInner.queue, found]
    refine ⟨inner, by simp [StoreInner.drainHandleBounded, found, nothing, drainLoop],
      fun other => ?_, Shrinks.refl inner⟩
    by_cases same : other = handle <;> simp [same, nothing, drainLoop]
  | some queue =>
    have here := queue_of_lookup found
    rw [here]
    have freedCost := drainLoop_freed now queue budget
    have inTotal : queueCost handle queue ≤ inner.totalBytes :=
      (weightAt_of_lookup found ▸ KeyedMap.weightAt_le_total queueCost inner.map handle).trans solvent
    have enough : (drainLoop now queue budget).freed ≤ inner.totalBytes := by
      simp only [queueCost] at freedCost inTotal
      omega
    refine ⟨_, by
      simp only [StoreInner.drainHandleBounded, found, Nat.not_lt.mpr enough, if_false]; rfl,
      fun other => queue_write _ _ _, ?_⟩
    exact shrinks_write found (drainLoop_rest_suffix now queue budget).sublist freedCost enough _
      (fun marked => by simp [marked]) (fun unmarked => by simp at unmarked; omega)

/-- A drain of several handles never panics in a solvent store, and only loses entries. -/
theorem drainAll_spec (now : Nanos) (handles : List Handle) :
    ∀ (budget : TakeBudget) {inner : StoreInner}, Solvent inner →
      ∃ parts left, drainAll now handles budget inner = (some parts, left)
        ∧ parts.map Prod.fst = handles ∧ Shrinks inner left := by
  induction handles with
  | nil => exact fun budget inner _ => ⟨[], inner, rfl, rfl, Shrinks.refl inner⟩
  | cons handle rest ih =>
    intro budget inner solvent
    obtain ⟨left, drainedHead, _, shrunk⟩ := drainHandleBounded_spec solvent handle budget now
    obtain ⟨parts, last, drainedTail, named, shrunkTail⟩ := ih
      (drainLoop now (inner.queue handle) budget).budget (shrunk.solvent solvent)
    exact ⟨_, last, by simp only [drainAll, drainedHead, drainedTail]; rfl, by simp [named],
      shrunk.trans shrunkTail⟩

/-- Draining carries the ledger of every handle on: what it took is served, in order. -/
theorem drainAll_explains {withdrawn lapsed : Stored → Prop} (now : Nanos)
    (ranOut : ∀ s : Stored, s.expiry ≤ now → lapsed s) (handle : Handle) (handles : List Handle) :
    ∀ (budget : TakeBudget) {inner : StoreInner} {accepted served : List Stored}, Solvent inner →
      Explains withdrawn lapsed accepted served (inner.queue handle) →
      ∀ {parts left}, drainAll now handles budget inner = (some parts, left) →
      Explains withdrawn lapsed accepted (served ++ partsOf handle parts) (left.queue handle) := by
  induction handles with
  | nil =>
    intro budget inner accepted served _ explained parts left drained
    simp only [drainAll, Prod.mk.injEq, Option.some.injEq] at drained
    obtain ⟨rfl, rfl⟩ := drained
    simpa [partsOf] using explained
  | cons target rest ih =>
    intro budget inner accepted served solvent explained parts left drained
    obtain ⟨mid, drainedHead, queues, shrunk⟩ := drainHandleBounded_spec solvent target budget now
    obtain ⟨others, last, drainedTail, _, _⟩ := drainAll_spec now rest
      (drainLoop now (inner.queue target) budget).budget (shrunk.solvent solvent)
    simp only [drainAll, drainedHead, drainedTail, Prod.mk.injEq, Option.some.injEq] at drained
    obtain ⟨rfl, rfl⟩ := drained
    by_cases same : target = handle
    · -- This part of the drain decides the queue under the handle.
      subst same
      obtain ⟨all, handed, waiting, ordered, none⟩ :=
        drainDecisions_spec now (inner.queue target) budget
      have advanced := explained.advance _ [] (by simpa using all) ordered
        (fun s member => absurd member (none s))
        (fun s member => ranOut s (drainDecisions_lapsed member))
      rw [handed, waiting, List.append_nil] at advanced
      have here : mid.queue target = (drainLoop now (inner.queue target) budget).rest := by
        simpa using queues target
      rw [← here] at advanced
      simpa [partsOf] using ih _ (shrunk.solvent solvent) advanced drainedTail
    · have here : mid.queue handle = inner.queue handle := by
        simpa [Ne.symm same] using queues handle
      rw [← here] at explained
      simpa [partsOf, same] using ih _ (shrunk.solvent solvent) explained drainedTail

/-- The reaper never panics in a solvent store and only loses entries. -/
theorem reap_spec {inner : StoreInner} (solvent : Solvent inner) (now : Nanos) :
    (inner.reap now).1 = some () ∧ Shrinks inner (inner.reap now).2
      ∧ ∀ handle, (inner.reap now).2.queue handle = reapQueue now (inner.queue handle) := by
  have keeps : ∀ queue : List Stored, queueCost "" queue
      = queueCost "" (reapQueue now queue) + freedBy (fun s => s.expiry > now) queue := by
    intro queue
    induction queue with
    | nil => rfl
    | cons head rest ih =>
      by_cases live : head.expiry > now <;>
        simp_all [queueCost, reapQueue, freedBy] <;> omega
  have split := KeyedMap.total_mapMaybe queueCost
    (fun _ queue => freedBy (fun s => s.expiry > now) queue)
    (fun _ queue => if (reapQueue now queue).isEmpty then none else some (reapQueue now queue))
    inner.map (by
      intro handle queue _
      have kept := keeps queue
      by_cases empty : (reapQueue now queue).isEmpty
      · have none : reapQueue now queue = [] := by simpa using empty
        simpa [empty, none, queueCost] using kept
      · simpa [empty, queueCost] using kept)
  have enough : ¬ inner.totalBytes
      < KeyedMap.total (fun _ queue => freedBy (fun s => s.expiry > now) queue) inner.map := by
    simp only [Solvent] at solvent
    omega
  have queues : ∀ handle, StoreInner.queue { inner with
      map := KeyedMap.mapMaybe (fun _ queue =>
        if (reapQueue now queue).isEmpty then none else some (reapQueue now queue)) inner.map } handle
      = reapQueue now (inner.queue handle) := by
    intro handle
    simp only [StoreInner.queue, KeyedMap.lookup_mapMaybe]
    cases found : inner.map.lookup handle with
    | none => simp [reapQueue]
    | some queue =>
      cases kept : reapQueue now queue with
      | nil => simp [kept]
      | cons head rest => simp [kept]
  simp only [StoreInner.reap, enough, if_false]
  refine ⟨trivial, ⟨fun handle => ?_, by simp only; omega, Nat.sub_le _ _, fun handle empty => ?_,
    fun marked => by simp [marked], fun unmarked handle charged => ?_⟩, queues⟩
  · exact (queues handle).symm ▸ List.filter_sublist
  · -- The reaper removes every mailbox it empties.
    simp only [KeyedMap.lookup_mapMaybe, Option.bind_eq_some_iff] at empty
    obtain ⟨queue, _, kept⟩ := empty
    by_cases none : (reapQueue now queue).isEmpty
    · simp [none] at kept
    · simp only [none, Bool.false_eq_true, if_false, Option.some.injEq] at kept
      simp [kept] at none
  · -- Without the mark nothing was freed anywhere, so this queue kept all it costs.
    simp only [Bool.or_eq_false_iff, decide_eq_false_iff_not, Nat.not_lt, Nat.le_zero] at unmarked
    have freedHere := KeyedMap.weightAt_le_total
      (fun _ queue => freedBy (fun s => s.expiry > now) queue) inner.map handle
    rw [unmarked.2] at freedHere
    refine (queues handle).trans ?_
    cases found : inner.map.lookup handle with
    | none => simp [StoreInner.queue, found, reapQueue]
    | some queue =>
      rw [queue_of_lookup found] at charged ⊢
      have nothing : freedBy (fun s => s.expiry > now) queue = 0 := by
        simpa [KeyedMap.weightAt, found] using freedHere
      have costs := keeps queue
      rw [nothing] at costs
      exact eq_of_sublist_of_cost List.filter_sublist charged costs.symm

end Nightdrop.Relay
