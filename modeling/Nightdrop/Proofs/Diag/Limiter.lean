import Nightdrop.Diag.Channel

/-! Every event is logged or counted once, and no shape is logged more often than its budget allows. -/

namespace Nightdrop
namespace Diag

variable {burst window now tau : Nat} {k : List Char} {l : RateLimiter} {line : List Char}

/-- An event as it was counted: its shape, when it came, when its window began, and whether it was logged. -/
structure Counted where
  shape : List Char
  now : Nat
  start : Nat
  admitted : Bool

/-- How the event is counted. -/
def RateLimiter.counted (l : RateLimiter) (line : List Char) (now : Nat) : Counted :=
  ⟨eventShape line, now, (((l.check line now).2.2.shapes.lookup (eventShape line)).map Window.start).getD now,
    (l.check line now).1⟩

/-- Events one after the other: how each is counted, what is said of closed windows, and what is left. -/
def RateLimiter.run (l : RateLimiter) : List (List Char × Nat) → List Counted × List Summary × RateLimiter
  | [] => ([], [], l)
  | (line, now) :: rest =>
    let more := (l.check line now).2.2.run rest
    (l.counted line now :: more.1, (l.check line now).2.1 ++ more.2.1, more.2.2)

/-- What is dropped of a shape and not yet said. -/
def RateLimiter.heldBack (l : RateLimiter) (k : List Char) : Nat := ((l.shapes.lookup k).map Window.dropped).getD 0

/-- How many events of a shape summaries say were dropped. -/
def said (k : List Char) (summaries : List Summary) : Nat :=
  ((summaries.filter fun s => s.shape = k).map Summary.dropped).sum

/-- A shape's window, if it is open still. -/
def RateLimiter.open? (l : RateLimiter) (k : List Char) (now : Nat) : Option Window :=
  (l.shapes.lookup k).filter fun w => stillOpen l.window now w

theorem lookup_retain (l : RateLimiter) (now : Nat) (k : List Char) : (l.retain now).2.lookup k = l.open? k now := by
  rw [RateLimiter.retain, RateLimiter.open?]
  dsimp only
  rw [KeyedMap.lookup_mapMaybe]
  cases l.shapes.lookup k with
  | none => rfl
  | some w => simp only [Option.bind_some, Option.filter_some]

/-- A total that counts one key only is what that key weighs. -/
theorem total_single (m : KeyedMap (List Char) Window) (k : List Char) (f : Window → Nat) :
    KeyedMap.total (fun key w => if key = k then f w else 0) m = ((m.lookup k).map f).getD 0 := by
  have split := KeyedMap.total_erase (fun key w => if key = k then f w else 0) m k
  -- Without the key, nothing weighs anything.
  have others : KeyedMap.total (fun key w => if key = k then f w else 0) (m.erase k) = 0 := by
    have zero := KeyedMap.total_congr (fun key w => if key = k then f w else 0) (fun _ _ => 0) (m.erase k) (by
      intro key w found
      rw [if_neg]
      intro same
      rw [same, AList.lookup_erase] at found
      cases found)
    rw [zero, KeyedMap.total]
    simp
  rw [others, Nat.zero_add] at split
  rw [← split, KeyedMap.weightAt]
  cases m.lookup k <;> simp

/-- What is said of a shape is what its closed window dropped. -/
theorem said_retain (l : RateLimiter) (now : Nat) (k : List Char) :
    said k (l.retain now).1 = ((l.shapes.lookup k).map fun w => if stillOpen l.window now w then 0 else w.dropped).getD 0 := by
  rw [← total_single l.shapes k fun w => if stillOpen l.window now w then 0 else w.dropped, KeyedMap.total, said,
    RateLimiter.retain]
  dsimp only
  induction l.shapes.entries with
  | nil => rfl
  | cons e rest ih =>
    rw [List.map_cons, List.sum_cons, ← ih, List.filterMap_cons]
    cases isOpen : stillOpen l.window now e.2 with
    | true => simp
    | false =>
      by_cases some' : 0 < e.2.dropped
      · by_cases same : e.1 = k
        · simp [some', same]
        · simp [some', same]
      · have none : e.2.dropped = 0 := by omega
        simp [none]

/-- One event: what it changes for its own shape, and for the others. -/
theorem check_lookup (l : RateLimiter) (line : List Char) (now : Nat) (k : List Char) :
    (l.check line now).2.2.shapes.lookup k =
      if k = eventShape line then some (((l.open? k now).getD ⟨now, 0, 0⟩).count l.burst).2 else l.open? k now := by
  rw [RateLimiter.check]
  dsimp only
  rw [KeyedMap.lookup_insert_if, lookup_retain, lookup_retain]
  split
  · rename_i same
    rw [same]
  · rfl

theorem check_admits (l : RateLimiter) (line : List Char) (now : Nat) :
    (l.check line now).1 = (((l.open? (eventShape line) now).getD ⟨now, 0, 0⟩).count l.burst).1 := by
  rw [RateLimiter.check]
  dsimp only
  rw [lookup_retain]

theorem check_result (l : RateLimiter) (line : List Char) (now : Nat) :
    (l.check line now).2.1 = (l.retain now).1 ∧ (l.check line now).2.2.burst = l.burst
      ∧ (l.check line now).2.2.window = l.window := ⟨rfl, rfl, rfl⟩

theorem counted_shape (l : RateLimiter) (line : List Char) (now : Nat) : (l.counted line now).shape = eventShape line := by
  simp only [RateLimiter.counted]

theorem counted_admitted (l : RateLimiter) (line : List Char) (now : Nat) :
    (l.counted line now).admitted = (((l.open? (eventShape line) now).getD ⟨now, 0, 0⟩).count l.burst).1 :=
  check_admits l line now

/-- The window an event is counted in is the open one, or one that begins with it. -/
theorem counted_start (l : RateLimiter) (line : List Char) (now : Nat) :
    (l.counted line now).start = ((l.open? (eventShape line) now).getD ⟨now, 0, 0⟩).start := by
  rw [RateLimiter.counted]
  dsimp only
  rw [check_lookup, if_pos rfl, Option.map_some, Option.getD_some, Window.count]
  split <;> rfl

/-- Each event is logged, or held back until it is said. -/
theorem check_accounts (l : RateLimiter) (line : List Char) (now : Nat) (k : List Char) :
    (if (l.counted line now).shape = k ∧ (l.counted line now).admitted then 1 else 0) + said k (l.check line now).2.1
      + (l.check line now).2.2.heldBack k = (if eventShape line = k then 1 else 0) + l.heldBack k := by
  rw [RateLimiter.heldBack, RateLimiter.heldBack, (check_result l line now).1, said_retain, check_lookup]
  simp only [RateLimiter.counted, check_admits, RateLimiter.open?]
  generalize eventShape line = shape
  by_cases same : k = shape
  · subst same
    simp only [true_and, if_true, Window.count]
    -- The event goes into the open window, or into a new one once what the old one dropped is said.
    cases l.shapes.lookup k with
    | none =>
      simp only [Option.filter_none, Option.getD_none, Option.map_none, Option.map_some, Option.getD_some]
      split <;> simp
    | some w =>
      cases isOpen : stillOpen l.window now w with
      | true =>
        simp only [Option.filter_some, isOpen, if_true, Option.getD_some, Option.map_some]
        split
        · simp
        · simp
          omega
      | false =>
        simp only [Option.filter_some, isOpen, Bool.false_eq_true, if_false, Option.getD_none, Option.getD_some,
          Option.map_some]
        split
        · simp
        · simp
          omega
  · have other : ¬ shape = k := fun back => same back.symm
    simp only [other, same, false_and, if_false, Nat.zero_add]
    cases l.shapes.lookup k with
    | none => rfl
    | some w => cases isOpen : stillOpen l.window now w <;> simp [isOpen, Option.filter_some]

/-- How many events of a shape were logged. -/
def logged (k : List Char) (counted : List Counted) : Nat := (counted.filter fun e => e.shape = k ∧ e.admitted).length

/-- How many events of a shape there were. -/
def seen (k : List Char) (events : List (List Char × Nat)) : Nat := (events.filter fun e => eventShape e.1 = k).length

theorem said_append (k : List Char) (first later : List Summary) : said k (first ++ later) = said k first + said k later := by
  rw [said, List.filter_append, List.map_append, List.sum_append]
  rfl

/-- Over a run, every event of a shape is logged, said to be dropped, or held back. -/
theorem run_accounts (l : RateLimiter) (events : List (List Char × Nat)) (k : List Char) :
    logged k (l.run events).1 + said k (l.run events).2.1 + (l.run events).2.2.heldBack k
      = seen k events + l.heldBack k := by
  induction events generalizing l with
  | nil => simp [RateLimiter.run, logged, said, seen]
  | cons event rest ih =>
    obtain ⟨line, now⟩ := event
    have first := check_accounts l line now k
    have later := ih (l.check line now).2.2
    have counted : logged k (l.run ((line, now) :: rest)).1
        = (if (l.counted line now).shape = k ∧ (l.counted line now).admitted then 1 else 0)
          + logged k ((l.check line now).2.2.run rest).1 := by
      rw [RateLimiter.run, logged, List.filter_cons]
      split <;> rename_i mine
      · rw [if_pos (by simpa using mine), List.length_cons, logged]
        omega
      · rw [if_neg (by simpa using mine), logged]
        omega
    have seen' : seen k ((line, now) :: rest) = (if eventShape line = k then 1 else 0) + seen k rest := by
      rw [seen, List.filter_cons]
      split <;> rename_i mine
      · rw [if_pos (by simpa using mine), List.length_cons, seen]
        omega
      · rw [if_neg (by simpa using mine), seen]
        omega
    rw [counted, seen', RateLimiter.run]
    dsimp only
    rw [said_append]
    omega

/-- A window that has logged no more than its budget, and dropped something only once that was spent. -/
def Window.Fair (burst : Nat) (w : Window) : Prop := w.passed ≤ burst ∧ (0 < w.dropped → w.passed = burst)

theorem Window.Fair.count {w : Window} (fair : w.Fair burst) : (w.count burst).2.Fair burst := by
  obtain ⟨few, full⟩ := fair
  unfold Window.count
  split
  · rename_i room
    refine ⟨room, fun some' => ?_⟩
    -- A window that dropped something had no room.
    have spent := full some'
    omega
  · refine ⟨few, fun _ => ?_⟩
    dsimp only
    omega

/-- All of a limiter's windows are fair. -/
def RateLimiter.Fair (l : RateLimiter) : Prop := ∀ k w, l.shapes.lookup k = some w → w.Fair l.burst

theorem RateLimiter.Fair.check (fair : l.Fair) (line : List Char) (now : Nat) : (l.check line now).2.2.Fair := by
  -- A window that is open still is one of the limiter's.
  have kept : ∀ k w, l.open? k now = some w → w.Fair l.burst := by
    intro k w found
    exact fair k w (Option.eq_some_of_filter_eq_some found)
  intro k w found
  rw [check_lookup] at found
  split at found
  · cases found
    refine Window.Fair.count ?_
    cases opened : l.open? k now with
    | none => exact ⟨Nat.zero_le _, fun some' => absurd some' (Nat.lt_irrefl 0)⟩
    | some w => exact kept k w opened
  · exact kept k w found

/-- A summary speaks of a window that had spent its budget. -/
theorem run_says (fair : l.Fair) (events : List (List Char × Nat)) :
    ∀ s ∈ (l.run events).2.1, s.passed = l.burst ∧ 0 < s.dropped := by
  induction events generalizing l with
  | nil => simp [RateLimiter.run]
  | cons event rest ih =>
    intro s member
    rcases List.mem_append.mp member with now | later
    · rw [(check_result l event.1 event.2).1] at now
      -- A summary is made of a window that closed and had dropped something.
      obtain ⟨e, stored, made⟩ := List.mem_filterMap.mp now
      split at made
      · rename_i closed
        cases made
        have found : l.shapes.lookup e.1 = some e.2 := AList.mem_lookup_iff.mpr stored
        exact ⟨(fair e.1 e.2 found).2 closed.2, closed.2⟩
      · cases made
    · exact ih (fair.check event.1 event.2) s later

theorem new_fair (burst window : Nat) : (RateLimiter.new burst window).Fair := by
  intro k w found
  simp [RateLimiter.new] at found

/-- From the start, every event is logged, counted in one summary, or in a window that is open still, and a summary speaks only of a budget that was spent. -/
theorem events_accounted (burst window : Nat) (events : List (List Char × Nat)) :
    (∀ k, logged k ((RateLimiter.new burst window).run events).1 + said k ((RateLimiter.new burst window).run events).2.1
      + ((RateLimiter.new burst window).run events).2.2.heldBack k = seen k events)
    ∧ ∀ s ∈ ((RateLimiter.new burst window).run events).2.1, s.passed = burst ∧ 0 < s.dropped := by
  refine ⟨?_, run_says (new_fair burst window) events⟩
  intro k
  rw [run_accounts]
  simp [RateLimiter.heldBack, RateLimiter.new]

/-- What is known of a shape's events by the time `tau`, with the window that is kept of it. -/
structure Spaced (burst window tau : Nat) (events : List Counted) (kept : Option Window) : Prop where
  within : ∀ e ∈ events, e.start ≤ e.now ∧ e.now < e.start + window
  apart : ∀ e ∈ events, ∀ e' ∈ events, e.start = e'.start ∨ e.start + window ≤ e'.start ∨ e'.start + window ≤ e.start
  few : ∀ start, (events.filter fun e => e.start = start ∧ e.admitted).length ≤ burst
  gone : kept = none → ∀ e ∈ events, e.start + window ≤ tau
  held : ∀ w, kept = some w → w.start ≤ tau ∧ (∀ e ∈ events, e.start = w.start ∨ e.start + window ≤ w.start)
    ∧ (events.filter fun e => e.start = w.start ∧ e.admitted).length = w.passed ∧ w.passed ≤ burst

/-- As time goes on, a window that is open stays, and one that closed is behind. -/
theorem Spaced.later {events : List Counted} {kept : Option Window} (spaced : Spaced burst window tau events kept)
    (order : tau ≤ now) : Spaced burst window now events (kept.filter fun w => stillOpen window now w) := by
  refine ⟨spaced.within, spaced.apart, spaced.few, ?_, ?_⟩
  · intro closed e member
    cases kept with
    | none =>
      -- No window is kept: all that was counted is behind already.
      have past := spaced.gone rfl e member
      omega
    | some w =>
      rw [Option.filter_some] at closed
      split at closed
      · cases closed
      · rename_i shut
        simp only [stillOpen, decide_eq_true_eq] at shut
        obtain ⟨begun, before, _, _⟩ := spaced.held w rfl
        -- The window that closed is behind, and all before it with it.
        have place := before e member
        omega
  · intro w opened
    obtain ⟨begun, rest⟩ := spaced.held w (Option.eq_some_of_filter_eq_some opened)
    exact ⟨by omega, rest⟩

/-- One more event in the window that is open, or in a new one. -/
theorem Spaced.count {events : List Counted} {kept : Option Window} (spaced : Spaced burst window now events kept)
    (some' : 0 < window) (isOpen : ∀ w, kept = some w → stillOpen window now w = true) {e : Counted} (time : e.now = now)
    (start : e.start = (kept.getD ⟨now, 0, 0⟩).start) (admits : e.admitted = ((kept.getD ⟨now, 0, 0⟩).count burst).1) :
    Spaced burst window now (events ++ [e]) (some ((kept.getD ⟨now, 0, 0⟩).count burst).2) := by
  -- The window the event goes into: it began by now, is open, and holds what has its start.
  have window' : (kept.getD ⟨now, 0, 0⟩).start ≤ now ∧ now < (kept.getD ⟨now, 0, 0⟩).start + window
      ∧ (∀ d ∈ events, d.start = (kept.getD ⟨now, 0, 0⟩).start ∨ d.start + window ≤ (kept.getD ⟨now, 0, 0⟩).start)
      ∧ (events.filter fun d => d.start = (kept.getD ⟨now, 0, 0⟩).start ∧ d.admitted).length
        = (kept.getD ⟨now, 0, 0⟩).passed ∧ (kept.getD ⟨now, 0, 0⟩).passed ≤ burst := by
    cases kept with
    | none =>
      have past := spaced.gone rfl
      refine ⟨Nat.le_refl _, by simpa using some', fun d member => .inr (past d member), ?_, Nat.zero_le _⟩
      -- Nothing began before now and at it.
      have none : (events.filter fun d => d.start = now ∧ d.admitted) = [] := by
        refine List.filter_eq_nil_iff.mpr ?_
        intro d member
        have gone := past d member
        simp only [decide_eq_true_eq, not_and]
        intro same
        omega
      simpa using congrArg List.length none
    | some w =>
      obtain ⟨begun, before, exact', few⟩ := spaced.held w rfl
      have open' := isOpen w rfl
      simp only [stillOpen, decide_eq_true_eq] at open'
      exact ⟨begun, by simp only [Option.getD_some]; omega, before, exact', few⟩
  generalize kept.getD ⟨now, 0, 0⟩ = w at start admits window' ⊢
  obtain ⟨begun, ends, before, exact', few⟩ := window'
  have same : (w.count burst).2.start = w.start := by
    unfold Window.count
    split <;> rfl
  -- The window counts the event if and only if it is logged.
  have passes : (w.count burst).2.passed = w.passed + (if e.admitted then 1 else 0) := by
    rw [admits]
    unfold Window.count
    split <;> simp
  have room : e.admitted = true → w.passed < burst := by
    rw [admits]
    unfold Window.count
    intro admitted
    split at admitted
    · assumption
    · cases admitted
  -- Of each start, the event adds one where it is its own.
  have counts : ∀ at' : Nat, ((events ++ [e]).filter fun d => d.start = at' ∧ d.admitted).length
      = (events.filter fun d => d.start = at' ∧ d.admitted).length + (if e.start = at' ∧ e.admitted then 1 else 0) := by
    intro at'
    rw [List.filter_append, List.length_append]
    congr 1
    by_cases mine : e.start = at' ∧ e.admitted = true
    · simp [mine]
    · rw [if_neg mine]
      simpa using mine
  refine ⟨?_, ?_, ?_, ?_, ?_⟩
  · intro d member
    rcases List.mem_append.mp member with old | new
    · exact spaced.within d old
    · rw [List.mem_singleton.mp new, time, start]
      exact ⟨begun, ends⟩
  · intro d member d' member'
    rcases List.mem_append.mp member with old | new <;> rcases List.mem_append.mp member' with old' | new'
    · exact spaced.apart d old d' old'
    · rw [List.mem_singleton.mp new', start]
      have place := before d old
      omega
    · rw [List.mem_singleton.mp new, start]
      have place := before d' old'
      omega
    · rw [List.mem_singleton.mp new, List.mem_singleton.mp new']
      exact .inl rfl
  · intro at'
    rw [counts]
    have old := spaced.few at'
    split
    · rename_i mine
      have spare := room mine.2
      rw [← mine.1, start, exact']
      omega
    · omega
  · intro none
    cases none
  · intro w' found
    cases found
    rw [same]
    refine ⟨begun, ?_, ?_, ?_⟩
    · intro d member
      rcases List.mem_append.mp member with old | new
      · exact before d old
      · rw [List.mem_singleton.mp new]
        exact .inl start
    · rw [counts, exact', passes]
      simp [start]
    · rw [passes]
      split
      · rename_i admitted
        have spare := room admitted
        omega
      · omega

/-- The events of one shape. -/
def ofShape (k : List Char) (counted : List Counted) : List Counted := counted.filter fun e => e.shape = k

/-- Over a run in the order of time, the events of a shape are spaced. -/
theorem run_spaced (some' : 0 < l.window) {before : List Counted} {events : List (List Char × Nat)}
    (spaced : Spaced l.burst l.window tau (ofShape k before) (l.shapes.lookup k))
    (order : (tau :: events.map Prod.snd).Pairwise (· ≤ ·)) :
    ∃ tau', Spaced l.burst l.window tau' (ofShape k (before ++ (l.run events).1)) ((l.run events).2.2.shapes.lookup k) := by
  -- By induction on the run, with what is known of the events before it.
  induction events generalizing l tau before with
  | nil => exact ⟨tau, by simpa [RateLimiter.run] using spaced⟩
  | cons event rest ih =>
    obtain ⟨line, now⟩ := event
    have first : tau ≤ now := (List.pairwise_cons.mp order).1 now (by simp)
    have more : (now :: rest.map Prod.snd).Pairwise (· ≤ ·) := (List.pairwise_cons.mp order).2
    have kept : Spaced l.burst l.window now (ofShape k before) (l.open? k now) := spaced.later first
    have shape := counted_shape l line now
    -- The event is of this shape, or leaves its window as time has left it.
    have step : Spaced l.burst l.window now (ofShape k (before ++ [l.counted line now]))
        ((l.check line now).2.2.shapes.lookup k) := by
      rw [check_lookup, ofShape, List.filter_append]
      by_cases mine : eventShape line = k
      · have last : ([l.counted line now].filter fun e => e.shape = k) = [l.counted line now] := by
          simp [shape, mine]
        rw [last, if_pos mine.symm]
        refine kept.count some' ?_ rfl ?_ ?_
        · intro w found
          exact (Option.filter_eq_some_iff.mp found).2
        · rw [counted_start, mine]
        · rw [counted_admitted, mine]
      · have last : ([l.counted line now].filter fun e => e.shape = k) = [] := by
          simp [shape, mine]
        rw [last, List.append_nil, if_neg fun same => mine same.symm]
        exact kept
    obtain ⟨tau', done⟩ := ih (l := (l.check line now).2.2) some' step more
    refine ⟨tau', ?_⟩
    rw [List.append_assoc, List.singleton_append] at done
    exact done

/-- Of the events that were logged at one time or another of a stretch, those of one window are no more than its budget. -/
theorem Spaced.one {events : List Counted} {kept : Option Window} (spaced : Spaced burst window tau events kept)
    (p : Counted → Bool) (logged : ∀ e, p e = true → e.admitted = true) (start : Nat) :
    ((events.filter p).countP fun e => e.start = start) ≤ burst := by
  have all := spaced.few start
  rw [← List.countP_eq_length_filter] at all
  refine Nat.le_trans ?_ all
  rw [List.countP_filter]
  refine List.countP_mono_left ?_
  intro e _ both
  simp only [Bool.and_eq_true, decide_eq_true_eq] at both ⊢
  exact ⟨both.1, logged e both.2⟩

/-- A stretch as long as a window meets two windows at most. -/
theorem Spaced.stretch {events : List Counted} {kept : Option Window} (spaced : Spaced burst window tau events kept) (t : Nat) :
    (events.filter fun e => e.admitted ∧ t ≤ e.now ∧ e.now < t + window).length ≤ 2 * burst := by
  have logged : ∀ e : Counted, (decide (e.admitted ∧ t ≤ e.now ∧ e.now < t + window)) = true → e.admitted = true := by
    intro e both
    simp only [decide_eq_true_eq] at both
    exact both.1
  have each := spaced.one _ logged
  -- Every window that is met begins near the stretch.
  have near : ∀ e ∈ events.filter (fun e => e.admitted ∧ t ≤ e.now ∧ e.now < t + window),
      e ∈ events ∧ t < e.start + window ∧ e.start < t + window := by
    intro e member
    obtain ⟨inside, both⟩ := List.mem_filter.mp member
    simp only [decide_eq_true_eq] at both
    have within := spaced.within e inside
    exact ⟨inside, by omega, by omega⟩
  generalize events.filter (fun e => e.admitted ∧ t ≤ e.now ∧ e.now < t + window) = met at each near
  cases met with
  | nil => simp
  | cons e rest =>
    rw [List.length_eq_countP_add_countP fun d : Counted => decide (d.start = e.start)]
    have first := each e.start
    -- Those of another window are all of one: a third would be too far off.
    have second : (e :: rest).countP (fun d => !decide (d.start = e.start)) ≤ burst := by
      by_cases other : ∃ d ∈ e :: rest, d.start ≠ e.start
      · obtain ⟨d, member, differ⟩ := other
        refine Nat.le_trans (List.countP_mono_left ?_) (each d.start)
        intro d' member' apart
        simp only [Bool.not_eq_true', decide_eq_false_iff_not] at apart
        obtain ⟨inside, low, high⟩ := near e (by simp)
        obtain ⟨inside₁, low₁, high₁⟩ := near d member
        obtain ⟨inside₂, low₂, high₂⟩ := near d' member'
        -- Of three windows that are apart, two are a window's length from each other.
        have space := spaced.apart e inside d inside₁
        have space' := spaced.apart e inside d' inside₂
        have space'' := spaced.apart d inside₁ d' inside₂
        simp only [decide_eq_true_eq]
        omega
      · have none : (e :: rest).countP (fun d => !decide (d.start = e.start)) = 0 := by
          refine List.countP_eq_zero.mpr ?_
          intro d member differ
          exact other ⟨d, member, by simpa using differ⟩
        omega
    have negated : (fun d : Counted => decide ¬ (decide (d.start = e.start)) = true)
        = fun d => !decide (d.start = e.start) := by
      funext d
      simp
    rw [negated]
    omega

/-- However events come, in a stretch as long as a window no more than two budgets of one shape are logged. -/
theorem rate_bounded (burst window t : Nat) (k : List Char) {events : List (List Char × Nat)}
    (order : (events.map Prod.snd).Pairwise (· ≤ ·)) :
    ((ofShape k ((RateLimiter.new burst window).run events).1).filter fun e =>
      e.admitted ∧ t ≤ e.now ∧ e.now < t + window).length ≤ 2 * burst := by
  by_cases some' : 0 < window
  · have start : Spaced burst window 0 (ofShape k []) ((RateLimiter.new burst window).shapes.lookup k) := by
      refine ⟨by simp [ofShape], by simp [ofShape], by simp [ofShape], by simp [ofShape], ?_⟩
      intro w found
      simp [RateLimiter.new] at found
    obtain ⟨tau, spaced⟩ := run_spaced (l := .new burst window) some' start
      (List.pairwise_cons.mpr ⟨fun _ _ => Nat.zero_le _, order⟩)
    rw [List.nil_append] at spaced
    exact spaced.stretch t
  · -- A stretch of no time holds no event.
    have none : ((ofShape k ((RateLimiter.new burst window).run events).1).filter fun e =>
        e.admitted ∧ t ≤ e.now ∧ e.now < t + window) = [] := by
      refine List.filter_eq_nil_iff.mpr ?_
      intro e _
      simp only [decide_eq_true_eq]
      omega
    rw [none]
    exact Nat.zero_le _

/-- Two events at once, with a budget of one. -/
theorem rate_bounded_pair :
    ((ofShape ['x'] ((RateLimiter.new 1 10).run [(['x'], 3), (['x'], 3)]).1).filter fun e =>
      e.admitted ∧ 0 ≤ e.now ∧ e.now < 0 + 10).length ≤ 2 * 1 :=
  rate_bounded 1 10 0 ['x'] (by decide)

end Diag
end Nightdrop
