import Mathlib.Data.List.Basic

/-! The ledger of a queue: every item ever accepted, in order, with what became of it. -/

namespace Nightdrop

/-- What became of one accepted item. -/
inductive Fate where
  /-- Still in the queue. -/
  | waiting
  /-- Handed to a reader. -/
  | served
  /-- Taken back by its writer. -/
  | withdrawn
  /-- Dropped because its time ran out. -/
  | lapsed
deriving DecidableEq, Repr

/-- Accepted items in the order they were accepted, each with its fate. -/
abbrev Ledger (α : Type) := List (α × Fate)

namespace Ledger

variable {α : Type}

/-- The items, whatever became of them. -/
def items (ledger : Ledger α) : List α := ledger.map Prod.fst

/-- The items with one fate, in order. -/
def having (fate : Fate) (ledger : Ledger α) : List α :=
  (ledger.filter (fun entry => entry.2 = fate)).map Prod.fst

/-- No item is served while an older one still waits. -/
def InOrder (ledger : Ledger α) : Prop :=
  ledger.Pairwise (fun older newer => older.2 = .waiting → newer.2 ≠ .served)

/-- The waiting entries are decided anew, in order, and what is left over is appended. -/
def settle : Ledger α → Ledger α → Ledger α
  | [], decided => decided
  | (item, .waiting) :: rest, [] => (item, .waiting) :: rest
  | (_, .waiting) :: rest, entry :: decided => entry :: settle rest decided
  | (item, .served) :: rest, decided => (item, .served) :: settle rest decided
  | (item, .withdrawn) :: rest, decided => (item, .withdrawn) :: settle rest decided
  | (item, .lapsed) :: rest, decided => (item, .lapsed) :: settle rest decided

@[simp] theorem items_nil : items ([] : Ledger α) = [] := rfl

@[simp] theorem items_cons (entry : α × Fate) (ledger : Ledger α) :
    items (entry :: ledger) = entry.1 :: items ledger := rfl

@[simp] theorem items_append (left right : Ledger α) :
    items (left ++ right) = items left ++ items right := by
  simp [items]

@[simp] theorem having_nil (fate : Fate) : having fate ([] : Ledger α) = [] := rfl

@[simp] theorem having_cons (fate : Fate) (entry : α × Fate) (ledger : Ledger α) :
    having fate (entry :: ledger) =
      if entry.2 = fate then entry.1 :: having fate ledger else having fate ledger := by
  by_cases same : entry.2 = fate <;> simp [having, same]

@[simp] theorem having_append (fate : Fate) (left right : Ledger α) :
    having fate (left ++ right) = having fate left ++ having fate right := by
  simp [having]

/-- The items all marked with one fate. -/
def allAs (fate : Fate) (list : List α) : Ledger α := list.map (fun item => (item, fate))

@[simp] theorem items_allAs (fate : Fate) (list : List α) : items (allAs fate list) = list := by
  simp [items, allAs, Function.comp_def]

@[simp] theorem having_allAs_self (fate : Fate) (list : List α) :
    having fate (allAs fate list) = list := by
  induction list with
  | nil => rfl
  | cons item rest ih => simpa [allAs] using ih

theorem having_allAs_ne {fate other : Fate} (differ : other ≠ fate) (list : List α) :
    having fate (allAs other list) = [] := by
  induction list with
  | nil => rfl
  | cons item rest ih => simpa [allAs, differ] using ih

theorem mem_allAs {fate : Fate} {list : List α} {entry : α × Fate} :
    entry ∈ allAs fate list ↔ entry.1 ∈ list ∧ entry.2 = fate := by
  rcases entry with ⟨item, mark⟩
  simp only [allAs, List.mem_map, Prod.mk.injEq]
  constructor
  · rintro ⟨found, member, rfl, rfl⟩
    exact ⟨member, rfl⟩
  · rintro ⟨member, rfl⟩
    exact ⟨item, member, rfl, rfl⟩

/-- A ledger in which nothing waits before something served is in order. -/
theorem inOrder_of_no_waiting {ledger : Ledger α} (none : having .waiting ledger = []) :
    InOrder ledger := by
  induction ledger with
  | nil => exact List.Pairwise.nil
  | cons entry rest ih =>
    by_cases same : entry.2 = .waiting
    · simp [same] at none
    · simp only [having_cons, same, if_false] at none
      exact List.pairwise_cons.mpr ⟨fun _ _ waits => absurd waits same, ih none⟩

/-- A ledger without served items is in order. -/
theorem inOrder_of_no_served {ledger : Ledger α} (none : having .served ledger = []) :
    InOrder ledger := by
  induction ledger with
  | nil => exact List.Pairwise.nil
  | cons entry rest ih =>
    have tailNone : having .served rest = [] := by
      by_cases same : entry.2 = .served <;> simp [same] at none
      exact none
    refine List.pairwise_cons.mpr ⟨fun newer member _ served => ?_, ih tailNone⟩
    -- A served entry further down would be listed among the served items.
    have listed : newer.1 ∈ having .served rest :=
      List.mem_map.mpr ⟨newer, List.mem_filter.mpr ⟨member, by simpa using served⟩, rfl⟩
    simp [tailNone] at listed

/-- In an ordered ledger nothing is served behind a waiting entry. -/
theorem InOrder.served_tail {item : α} {rest : Ledger α}
    (ordered : InOrder ((item, .waiting) :: rest)) : having .served rest = [] := by
  have tail := (List.pairwise_cons.mp ordered).1
  simp only [having, List.map_eq_nil_iff, List.filter_eq_nil_iff]
  intro entry member served
  exact tail entry member rfl (by simpa using served)

/-- An ordered run of no waiting entries may be put before any ordered ledger. -/
theorem InOrder.append {front back : Ledger α} (none : having .waiting front = [])
    (ordered : InOrder back) : InOrder (front ++ back) := by
  refine List.pairwise_append.mpr ⟨inOrder_of_no_waiting none, ordered, ?_⟩
  intro older member _ _ waits
  have listed : older.1 ∈ having .waiting front :=
    List.mem_map.mpr ⟨older, List.mem_filter.mpr ⟨member, by simpa using waits⟩, rfl⟩
  simp [none] at listed

/-- Deciding the waiting items keeps every item, in order, and appends the new ones. -/
theorem items_settle {ledger decided : Ledger α} {fresh : List α}
    (covers : items decided = having .waiting ledger ++ fresh) :
    items (settle ledger decided) = items ledger ++ fresh := by
  induction ledger generalizing decided with
  | nil => simpa [settle] using covers
  | cons entry rest ih =>
    rcases entry with ⟨item, fate⟩
    cases fate with
    | waiting =>
      cases decided with
      | nil => simp at covers
      | cons first others =>
        simp only [items_cons, having_cons, if_true, List.cons_append, List.cons.injEq] at covers
        simp [settle, covers.1, ih covers.2]
    | served => simpa [settle] using ih (by simpa using covers)
    | withdrawn => simpa [settle] using ih (by simpa using covers)
    | lapsed => simpa [settle] using ih (by simpa using covers)

/-- After deciding, exactly the entries left waiting wait. -/
theorem waiting_settle {ledger decided : Ledger α} {fresh : List α}
    (covers : items decided = having .waiting ledger ++ fresh) :
    having .waiting (settle ledger decided) = having .waiting decided := by
  induction ledger generalizing decided with
  | nil => rfl
  | cons entry rest ih =>
    rcases entry with ⟨item, fate⟩
    cases fate with
    | waiting =>
      cases decided with
      | nil => simp at covers
      | cons first others =>
        simp only [items_cons, having_cons, if_true, List.cons_append, List.cons.injEq] at covers
        simp [settle, ih covers.2]
    | served => simpa [settle] using ih (by simpa using covers)
    | withdrawn => simpa [settle] using ih (by simpa using covers)
    | lapsed => simpa [settle] using ih (by simpa using covers)

/-- What is newly served follows everything served before. -/
theorem served_settle {ledger decided : Ledger α} {fresh : List α} (ordered : InOrder ledger)
    (covers : items decided = having .waiting ledger ++ fresh) :
    having .served (settle ledger decided) = having .served ledger ++ having .served decided := by
  induction ledger generalizing decided with
  | nil => simp [settle]
  | cons entry rest ih =>
    rcases entry with ⟨item, fate⟩
    have tailOrdered : InOrder rest := (List.pairwise_cons.mp ordered).2
    cases fate with
    | waiting =>
      have tail : having .served rest = [] := InOrder.served_tail ordered
      cases decided with
      | nil => simp at covers
      | cons first others =>
        simp only [items_cons, having_cons, if_true, List.cons_append, List.cons.injEq] at covers
        simp [settle, ih tailOrdered covers.2, tail]
    | served => simpa [settle] using ih tailOrdered (by simpa using covers)
    | withdrawn => simpa [settle] using ih tailOrdered (by simpa using covers)
    | lapsed => simpa [settle] using ih tailOrdered (by simpa using covers)

/-- Every entry of the settled ledger was decided before or is decided now. -/
theorem mem_settle {ledger decided : Ledger α} {entry : α × Fate} {fresh : List α}
    (covers : items decided = having .waiting ledger ++ fresh)
    (member : entry ∈ settle ledger decided) :
    (entry ∈ ledger ∧ entry.2 ≠ .waiting) ∨ entry ∈ decided := by
  induction ledger generalizing decided with
  | nil => exact .inr member
  | cons first rest ih =>
    rcases first with ⟨item, fate⟩
    cases fate with
    | waiting =>
      cases decided with
      | nil => simp at covers
      | cons head others =>
        simp only [items_cons, having_cons, if_true, List.cons_append, List.cons.injEq] at covers
        rcases List.mem_cons.mp member with rfl | tail
        · exact .inr (by simp)
        · exact (ih covers.2 tail).imp (fun old => ⟨by simp [old.1], old.2⟩) (by simp +contextual)
    | served | withdrawn | lapsed =>
      rcases List.mem_cons.mp member with rfl | tail
      · exact .inl ⟨by simp, by simp⟩
      · exact (ih (by simpa using covers) tail).imp_left (fun old => ⟨by simp [old.1], old.2⟩)

/-- Deciding an ordered ledger in an ordered way keeps it ordered. -/
theorem inOrder_settle {ledger decided : Ledger α} {fresh : List α} (ordered : InOrder ledger)
    (decidedOrdered : InOrder decided)
    (covers : items decided = having .waiting ledger ++ fresh) :
    InOrder (settle ledger decided) := by
  induction ledger generalizing decided with
  | nil => exact decidedOrdered
  | cons entry rest ih =>
    rcases entry with ⟨item, fate⟩
    have tailOrdered : InOrder rest := (List.pairwise_cons.mp ordered).2
    cases fate with
    | waiting =>
      have noServed : having .served rest = [] := InOrder.served_tail ordered
      cases decided with
      | nil => simp at covers
      | cons first others =>
        have split := List.pairwise_cons.mp decidedOrdered
        simp only [items_cons, having_cons, if_true, List.cons_append, List.cons.injEq] at covers
        refine List.pairwise_cons.mpr ⟨fun newer member waits served => ?_,
          ih tailOrdered split.2 covers.2⟩
        -- A served entry behind comes from the old ledger or from the new decisions.
        rcases mem_settle covers.2 member with old | new
        · have listed : newer.1 ∈ having .served rest :=
            List.mem_map.mpr ⟨newer, List.mem_filter.mpr ⟨old.1, by simpa using served⟩, rfl⟩
          simp [noServed] at listed
        · exact split.1 newer new waits served
    | served | withdrawn | lapsed =>
      exact List.pairwise_cons.mpr ⟨fun _ _ waits => absurd waits (by simp),
        ih tailOrdered decidedOrdered (by simpa using covers)⟩

/--
Some ledger explains a queue: what was accepted, what was served, and what still waits.

Every withdrawn or lapsed item carries its justification.
-/
def Explains (withdrawn lapsed : α → Prop) (accepted served queue : List α) : Prop :=
  ∃ ledger : Ledger α, items ledger = accepted ∧ having .served ledger = served
    ∧ having .waiting ledger = queue ∧ InOrder ledger
    ∧ (∀ item, (item, Fate.withdrawn) ∈ ledger → withdrawn item)
    ∧ (∀ item, (item, Fate.lapsed) ∈ ledger → lapsed item)

/-- A fresh queue is explained by the empty ledger. -/
theorem Explains.start (withdrawn lapsed : α → Prop) : Explains withdrawn lapsed [] [] [] :=
  ⟨[], rfl, rfl, rfl, List.Pairwise.nil, by simp, by simp⟩

/-- Weaker justifications are enough. -/
theorem Explains.mono {withdrawn lapsed withdrawn' lapsed' : α → Prop}
    {accepted served queue : List α} (explained : Explains withdrawn lapsed accepted served queue)
    (moreWithdrawn : ∀ item, withdrawn item → withdrawn' item)
    (moreLapsed : ∀ item, lapsed item → lapsed' item) :
    Explains withdrawn' lapsed' accepted served queue := by
  obtain ⟨ledger, kept, handed, left, ordered, taken, dropped⟩ := explained
  exact ⟨ledger, kept, handed, left, ordered, fun item member => moreWithdrawn item (taken item member),
    fun item member => moreLapsed item (dropped item member)⟩

/-- Deciding the waiting items in order, and accepting new ones, carries the explanation on. -/
theorem Explains.advance {withdrawn lapsed : α → Prop} {accepted served queue : List α}
    (explained : Explains withdrawn lapsed accepted served queue) (decided : Ledger α)
    (fresh : List α) (covers : items decided = queue ++ fresh) (decidedOrdered : InOrder decided)
    (takenBack : ∀ item, (item, Fate.withdrawn) ∈ decided → withdrawn item)
    (ranOut : ∀ item, (item, Fate.lapsed) ∈ decided → lapsed item) :
    Explains withdrawn lapsed (accepted ++ fresh) (served ++ having .served decided)
      (having .waiting decided) := by
  obtain ⟨ledger, rfl, rfl, rfl, ordered, taken, dropped⟩ := explained
  refine ⟨settle ledger decided, items_settle covers, served_settle ordered covers,
    waiting_settle covers, inOrder_settle ordered decidedOrdered covers, ?_, ?_⟩
  · intro item member
    rcases mem_settle covers member with old | new
    · exact taken item old.1
    · exact takenBack item new
  · intro item member
    rcases mem_settle covers member with old | new
    · exact dropped item old.1
    · exact ranOut item new

/-- The items that pass a test wait on, and the others get one fate. -/
def sifted (keep : α → Bool) (fate : Fate) (list : List α) : Ledger α :=
  list.map (fun item => (item, if keep item then .waiting else fate))

@[simp] theorem items_sifted (keep : α → Bool) (fate : Fate) (list : List α) :
    items (sifted keep fate list) = list := by
  simp [items, sifted, Function.comp_def]

theorem having_served_sifted (keep : α → Bool) {fate : Fate} (unserved : fate ≠ .served)
    (list : List α) : having .served (sifted keep fate list) = [] := by
  induction list with
  | nil => rfl
  | cons item rest ih =>
    by_cases passes : keep item = true <;> simp_all [sifted]

theorem having_waiting_sifted (keep : α → Bool) {fate : Fate} (gone : fate ≠ .waiting)
    (list : List α) : having .waiting (sifted keep fate list) = list.filter keep := by
  induction list with
  | nil => rfl
  | cons item rest ih =>
    by_cases passes : keep item = true <;> simp_all [sifted]

theorem mem_sifted {keep : α → Bool} {fate : Fate} {list : List α} {entry : α × Fate}
    (member : entry ∈ sifted keep fate list) :
    if keep entry.1 then entry.2 = .waiting else entry.2 = fate := by
  obtain ⟨item, _, rfl⟩ := List.mem_map.mp member
  by_cases passes : keep item = true <;> simp [passes]

/-- New items wait behind the queue. -/
theorem Explains.accept {withdrawn lapsed : α → Prop} {accepted served queue : List α}
    (explained : Explains withdrawn lapsed accepted served queue) (fresh : List α) :
    Explains withdrawn lapsed (accepted ++ fresh) served (queue ++ fresh) := by
  have unserved := having_allAs_ne (show Fate.waiting ≠ .served by decide) (queue ++ fresh)
  have advanced := explained.advance (allAs .waiting (queue ++ fresh)) fresh
    (items_allAs _ _) (inOrder_of_no_served unserved) (by simp [mem_allAs]) (by simp [mem_allAs])
  simpa [unserved] using advanced

/-- Waiting items may be taken back, each with a justification. -/
theorem Explains.withdraw {withdrawn lapsed : α → Prop} {accepted served queue : List α}
    (explained : Explains withdrawn lapsed accepted served queue) {keep : α → Bool}
    (justified : ∀ item, keep item = false → withdrawn item) :
    Explains withdrawn lapsed accepted served (queue.filter keep) := by
  have unserved := having_served_sifted keep (show Fate.withdrawn ≠ .served by decide) queue
  have advanced := explained.advance (sifted keep .withdrawn queue) []
    (by simp) (inOrder_of_no_served unserved)
    (fun item member => justified item (by grind [mem_sifted member]))
    (fun item member => absurd (mem_sifted member) (by grind))
  simpa [unserved, having_waiting_sifted] using advanced

/-- Waiting items may lapse, each with a justification. -/
theorem Explains.lapse {withdrawn lapsed : α → Prop} {accepted served queue : List α}
    (explained : Explains withdrawn lapsed accepted served queue) {keep : α → Bool}
    (justified : ∀ item, keep item = false → lapsed item) :
    Explains withdrawn lapsed accepted served (queue.filter keep) := by
  have unserved := having_served_sifted keep (show Fate.lapsed ≠ .served by decide) queue
  have advanced := explained.advance (sifted keep .lapsed queue) []
    (by simp) (inOrder_of_no_served unserved)
    (fun item member => absurd (mem_sifted member) (by grind))
    (fun item member => justified item (by grind [mem_sifted member]))
  simpa [unserved, having_waiting_sifted] using advanced

/-- Nothing is served that was not accepted before. -/
theorem Explains.served_sublist {withdrawn lapsed : α → Prop} {accepted served queue : List α}
    (explained : Explains withdrawn lapsed accepted served queue) : served.Sublist accepted := by
  obtain ⟨ledger, rfl, rfl, _, _, _, _⟩ := explained
  exact (List.filter_sublist (l := ledger)).map Prod.fst

/-- What still waits was accepted. -/
theorem Explains.queue_sublist {withdrawn lapsed : α → Prop} {accepted served queue : List α}
    (explained : Explains withdrawn lapsed accepted served queue) : queue.Sublist accepted := by
  obtain ⟨ledger, rfl, _, rfl, _, _, _⟩ := explained
  exact (List.filter_sublist (l := ledger)).map Prod.fst

/-- A queue explains itself: all of it waits. -/
theorem Explains.whole (withdrawn lapsed : α → Prop) (queue : List α) :
    Explains withdrawn lapsed queue [] queue := by
  refine ⟨allAs .waiting queue, by simp, having_allAs_ne (by decide) queue, by simp,
    inOrder_of_no_served (having_allAs_ne (by decide) queue), ?_, ?_⟩
  · intro item member
    simp [mem_allAs] at member
  · intro item member
    simp [mem_allAs] at member

end Ledger

end Nightdrop
