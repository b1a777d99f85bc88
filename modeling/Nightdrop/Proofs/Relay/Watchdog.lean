import Nightdrop.Relay.Watchdog

/-! A restart is ordered for darkness that lasted, and for every darkness of the publisher that did. -/

namespace Nightdrop.Watchdog

/-- The last cycles of a trace, from one at `since` on, were all of a kind. -/
def Streak (kind : Observation × Verdict → Prop) (trace : List (Observation × Verdict))
    (since : Nat) : Prop :=
  ∃ before first span, trace = before ++ first :: span ∧ first.1.now = since
    ∧ ∀ cycle ∈ first :: span, kind cycle

namespace Streak

variable {kind : Observation × Verdict → Prop} {trace : List (Observation × Verdict)} {since : Nat}

/-- A cycle of the kind begins a streak. -/
theorem begin (trace : List (Observation × Verdict)) {cycle : Observation × Verdict}
    (fits : kind cycle) : Streak kind (trace ++ [cycle]) cycle.1.now :=
  ⟨trace, cycle, [], rfl, rfl, by simpa using fits⟩

/-- A cycle of the kind goes on with a streak. -/
theorem extend (streak : Streak kind trace since) {cycle : Observation × Verdict}
    (fits : kind cycle) : Streak kind (trace ++ [cycle]) since := by
  obtain ⟨before, first, span, rfl, began, all⟩ := streak
  refine ⟨before, first, span ++ [cycle], by simp, began, ?_⟩
  intro other member
  rw [← List.cons_append, List.mem_append] at member
  rcases member with early | last
  · exact all other early
  · rw [List.mem_singleton.mp last]
    exact fits

/-- A clock that ran on, or was started by the cycle, has the streak behind it. -/
theorem next {clock : Option Nat} {cycle : Observation × Verdict}
    (behind : ∀ since, clock = some since → Streak kind trace since) (fits : kind cycle) :
    Streak kind (trace ++ [cycle]) (clock.getD cycle.1.now) := by
  cases clock with
  | none => exact begin trace fits
  | some since => exact (behind since rfl).extend fits

end Streak

/-- What a cycle behind the publisher's clock showed. -/
def RingDark (cycle : Observation × Verdict) : Prop :=
  cycle.1.publisherDark = true ∧ cycle.1.clientUnusable = none

/-- What a cycle behind the dial's clock showed: nothing excused it. -/
def DialDark (cycle : Observation × Verdict) : Prop :=
  cycle.1.dialFailed = true ∧ cycle.1.clientUnusable = none ∧ cycle.2 ≠ .inconclusive STILL_SERVED

/-- Each clock that runs has its streak behind it. -/
structure DarkClocks.Backed (clocks : DarkClocks) (trace : List (Observation × Verdict)) : Prop where
  publisher : ∀ since, clocks.publisher = some since → Streak RingDark trace since
  dial : ∀ since, clocks.dial = some since → Streak DialDark trace since

/-- Clocks that stand still need nothing behind them. -/
theorem DarkClocks.Backed.still (trace : List (Observation × Verdict)) :
    DarkClocks.Backed {} trace where
  publisher since reads := by cases reads
  dial since reads := by cases reads

/-- What a cycle comes to, with what it takes to come to that. -/
theorem Cycle.verdict_cases (cycle : Cycle) :
    cycle.verdict = .healthy
    ∨ (cycle.clientUnusable.isSome = true ∧ cycle.verdict = .inconclusive CLIENT_UNUSABLE)
    ∨ (cycle.clientUnusable = none
      ∧ ((cycle.publisherDark = true ∧ cycle.verdict = cycle.escalate RING_MISSING)
        ∨ (cycle.publisherDark = false ∧ cycle.servedSinceDark = true
          ∧ cycle.verdict = .inconclusive STILL_SERVED)
        ∨ (cycle.publisherDark = false ∧ cycle.servedSinceDark = false
          ∧ cycle.verdict = cycle.escalate DIAL_FAILED))) := by
  unfold Cycle.verdict
  split
  · exact .inl rfl
  · split
    · rename_i unusable
      exact .inr (.inl ⟨unusable, rfl⟩)
    · rename_i usable
      refine .inr (.inr ⟨by simpa using usable, ?_⟩)
      split
      · rename_i dark
        exact .inl ⟨dark, rfl⟩
      · rename_i bright
        have good : cycle.publisherDark = false := by simpa using bright
        split
        · rename_i served
          exact .inr (.inl ⟨good, served, rfl⟩)
        · rename_i unserved
          exact .inr (.inr ⟨good, by simpa using unserved, rfl⟩)

/-- An escalation waits or restarts. -/
theorem Cycle.escalate_cases (cycle : Cycle) (why : String) :
    (cycle.escalate why = .dark why ∧ cycle.darkFor < WATCHDOG_MAX_DARK)
    ∨ (cycle.escalate why = .restart why ∧ WATCHDOG_MAX_DARK ≤ cycle.darkFor) := by
  unfold Cycle.escalate
  split
  · rename_i short
    exact .inl ⟨rfl, short⟩
  · rename_i long
    exact .inr ⟨rfl, Nat.le_of_not_lt long⟩

/-- The clocks once they took a cycle in. -/
def DarkClocks.took (clocks : DarkClocks) (seen : Observation) : DarkClocks :=
  clocks.observe seen.publisherDark seen.dialFailed seen.now

/-- What a turn comes to and the clocks it leaves: those it took in are kept unless a veto says. -/
theorem DarkClocks.turn_cases (clocks : DarkClocks) (seen : Observation) :
    (clocks.turn seen).2 = {}
    ∨ (seen.clientUnusable = none ∧ (clocks.turn seen).2 = { clocks.took seen with dial := none })
    ∨ (seen.clientUnusable = none ∧ (clocks.turn seen).2 = clocks.took seen
      ∧ (clocks.turn seen).1 ≠ .inconclusive STILL_SERVED) := by
  have verdict : (clocks.turn seen).1 = ((clocks.took seen).cycle seen).verdict := rfl
  have settled : (clocks.turn seen).2 = (clocks.took seen).settle seen (clocks.turn seen).1 := rfl
  rw [settled, verdict]
  rcases ((clocks.took seen).cycle seen).verdict_cases with
    good | ⟨unusable, vetoed⟩ | ⟨usable, ⟨_, judged⟩ | ⟨_, _, excused⟩ | ⟨_, _, judged⟩⟩
  · rw [good]
    exact .inl rfl
  · have client : seen.clientUnusable.isSome = true := unusable
    rw [vetoed]
    refine .inl ?_
    simp [DarkClocks.settle, DarkClocks.excuse, client]
  · rw [judged]
    rcases Cycle.escalate_cases ((clocks.took seen).cycle seen) RING_MISSING with
      ⟨verdict, _⟩ | ⟨verdict, _⟩ <;> rw [verdict] <;>
      exact .inr (.inr ⟨usable, rfl, Verdict.noConfusion⟩)
  · have client : seen.clientUnusable = none := usable
    rw [excused]
    refine .inr (.inl ⟨client, ?_⟩)
    simp [DarkClocks.settle, DarkClocks.excuse, client]
  · rw [judged]
    rcases Cycle.escalate_cases ((clocks.took seen).cycle seen) DIAL_FAILED with
      ⟨verdict, _⟩ | ⟨verdict, _⟩ <;> rw [verdict] <;>
      exact .inr (.inr ⟨usable, rfl, Verdict.noConfusion⟩)

/-- A turn keeps every clock backed by what was seen. -/
theorem DarkClocks.Backed.turn {clocks : DarkClocks} {trace : List (Observation × Verdict)}
    (backed : clocks.Backed trace) (seen : Observation) :
    (clocks.turn seen).2.Backed (trace ++ [(seen, (clocks.turn seen).1)]) := by
  -- What the publisher's clock reads once it took the cycle in, where the client is usable.
  have ring (usable : seen.clientUnusable = none) (since : Nat)
      (reads : (clocks.took seen).publisher = some since) :
      Streak RingDark (trace ++ [(seen, (clocks.turn seen).1)]) since := by
    simp only [DarkClocks.took, DarkClocks.observe] at reads
    split at reads
    · rename_i bad
      cases reads
      exact Streak.next backed.publisher ⟨bad, usable⟩
    · cases reads
  rcases clocks.turn_cases seen with cleared | ⟨usable, excused⟩ | ⟨usable, kept, judged⟩
  · rw [cleared]
    exact DarkClocks.Backed.still _
  · rw [excused]
    exact ⟨ring usable, fun since reads => by cases reads⟩
  · rw [kept]
    refine ⟨ring usable, ?_⟩
    intro since reads
    simp only [DarkClocks.took, DarkClocks.observe] at reads
    split at reads
    · rename_i bad
      cases reads
      exact Streak.next backed.dial ⟨bad, usable, judged⟩
    · cases reads

/-- What a restart rests on: the signal on trial, bad for long enough with nothing that excuses it. -/
structure Grounds (earlier : List (Observation × Verdict)) (seen : Observation) (why : String) :
    Prop where
  ring : seen.publisherDark = true → why = RING_MISSING
    ∧ ∃ since, since + WATCHDOG_MAX_DARK ≤ seen.now
      ∧ Streak RingDark (earlier ++ [(seen, .restart why)]) since
  /-- Nor was a stream served since the dial first failed. -/
  dial : seen.publisherDark = false → why = DIAL_FAILED
    ∧ ∃ since, since + WATCHDOG_MAX_DARK ≤ seen.now ∧ seen.lastServed ≤ asSecs since
      ∧ Streak DialDark (earlier ++ [(seen, .restart why)]) since

/-- A clock that has run for long enough says since when. -/
theorem long_enough {clock : Option Nat} {now : Nat}
    (long : WATCHDOG_MAX_DARK ≤ (clock.map (now - ·)).getD 0) :
    ∃ since, clock = some since ∧ since + WATCHDOG_MAX_DARK ≤ now := by
  have positive : 0 < WATCHDOG_MAX_DARK := by decide
  cases clock with
  | none => simp at long; omega
  | some since =>
    refine ⟨since, rfl, ?_⟩
    simp only [Option.map_some, Option.getD_some] at long
    omega

/-- An escalation that restarts has lasted. -/
theorem Cycle.escalate_restart {cycle : Cycle} {reason why : String}
    (restarts : cycle.escalate reason = .restart why) :
    why = reason ∧ WATCHDOG_MAX_DARK ≤ cycle.darkFor := by
  rcases cycle.escalate_cases reason with ⟨verdict, _⟩ | ⟨verdict, long⟩
  · rw [verdict] at restarts
    cases restarts
  · rw [verdict] at restarts
    cases restarts
    exact ⟨rfl, long⟩

/-- A turn that restarts has its grounds. -/
theorem DarkClocks.Backed.grounds {clocks : DarkClocks} {trace : List (Observation × Verdict)}
    (backed : clocks.Backed trace) {seen : Observation} {why : String}
    (restarts : (clocks.turn seen).1 = .restart why) : Grounds trace seen why := by
  have after := backed.turn seen
  rw [restarts] at after
  -- A restart leaves the clocks as they were observed.
  have kept : (clocks.turn seen).2 = clocks.took seen := by
    have settled : (clocks.turn seen).2 = (clocks.took seen).settle seen (clocks.turn seen).1 := rfl
    rw [settled, restarts]
    rfl
  rw [kept] at after
  have verdict : (clocks.turn seen).1 = ((clocks.took seen).cycle seen).verdict := rfl
  rw [verdict] at restarts
  rcases ((clocks.took seen).cycle seen).verdict_cases with
    good | ⟨_, vetoed⟩ | ⟨_, ⟨dark, judged⟩ | ⟨_, _, excused⟩ | ⟨bright, unserved, judged⟩⟩
  · rw [good] at restarts
    cases restarts
  · rw [vetoed] at restarts
    cases restarts
  · rw [judged] at restarts
    obtain ⟨reason, lasted⟩ := Cycle.escalate_restart restarts
    have bad : seen.publisherDark = true := dark
    simp only [DarkClocks.cycle, DarkClocks.darkFor, bad, if_true] at lasted
    obtain ⟨since, reads, long⟩ := long_enough lasted
    refine ⟨fun _ => ⟨reason, since, long, after.publisher since reads⟩, fun good => ?_⟩
    rw [bad] at good
    cases good
  · rw [excused] at restarts
    cases restarts
  · rw [judged] at restarts
    obtain ⟨reason, lasted⟩ := Cycle.escalate_restart restarts
    have good : seen.publisherDark = false := bright
    simp only [DarkClocks.cycle, DarkClocks.darkFor, good, Bool.false_eq_true, if_false] at lasted
    obtain ⟨since, reads, long⟩ := long_enough lasted
    refine ⟨fun bad => ?_, fun _ => ⟨reason, since, long, ?_, after.dial since reads⟩⟩
    · rw [good] at bad
      cases bad
    · simpa [DarkClocks.cycle, reads] using unserved

/-- Every restart of a run has its grounds. -/
theorem watch_grounds {clocks : DarkClocks} {past : List (Observation × Verdict)}
    (backed : clocks.Backed past) (run : List Observation) {earlier later : List (Observation × Verdict)}
    {seen : Observation} {why : String}
    (traced : watch clocks run = earlier ++ (seen, .restart why) :: later) :
    Grounds (past ++ earlier) seen why := by
  -- By induction on the run: the cycles before the restart move into the past.
  induction run generalizing clocks past earlier with
  | nil => simp [watch] at traced
  | cons next rest ih =>
    simp only [watch] at traced
    cases earlier with
    | nil =>
      simp only [List.nil_append, List.cons.injEq, Prod.mk.injEq] at traced
      obtain ⟨⟨rfl, restarts⟩, _⟩ := traced
      rw [List.append_nil]
      exact backed.grounds restarts
    | cons cycle others =>
      simp only [List.cons_append, List.cons.injEq] at traced
      obtain ⟨rfl, onward⟩ := traced
      split at onward
      · simp at onward
      · have later := ih (backed.turn next) onward
        rwa [List.append_assoc] at later

/-- A restart is the last thing a run does. -/
theorem watch_restart_last {clocks : DarkClocks} {run : List Observation}
    {earlier later : List (Observation × Verdict)} {seen : Observation} {why : String}
    (traced : watch clocks run = earlier ++ (seen, .restart why) :: later) : later = [] := by
  induction run generalizing clocks earlier with
  | nil => simp [watch] at traced
  | cons next rest ih =>
    simp only [watch] at traced
    cases earlier with
    | nil =>
      simp only [List.nil_append, List.cons.injEq, Prod.mk.injEq] at traced
      obtain ⟨⟨rfl, restarts⟩, nothing⟩ := traced
      rw [restarts] at nothing
      simpa [Verdict.isRestart] using nothing.symm
    | cons cycle others =>
      simp only [List.cons_append, List.cons.injEq] at traced
      obtain ⟨_, onward⟩ := traced
      split at onward
      · simp at onward
      · exact ih onward

/-- The clocks after a run that goes on. -/
def clocksAfter (clocks : DarkClocks) (run : List Observation) : DarkClocks :=
  run.foldl (fun clocks seen => (clocks.turn seen).2) clocks

/-- A run goes on from where it got to, unless it restarted. -/
theorem watch_append (clocks : DarkClocks) (before after : List Observation) :
    (∃ cycle ∈ watch clocks (before ++ after), cycle.2.isRestart = true)
    ∨ watch clocks (before ++ after) = watch clocks before ++ watch (clocksAfter clocks before) after := by
  induction before generalizing clocks with
  | nil => exact .inr rfl
  | cons seen rest ih =>
    simp only [List.cons_append, watch]
    split
    · rename_i restarts
      exact .inl ⟨_, List.mem_cons_self, restarts⟩
    · rcases ih (clocks.turn seen).2 with ⟨cycle, member, restarts⟩ | onward
      · exact .inl ⟨cycle, List.mem_cons_of_mem _ member, restarts⟩
      · right
        rw [onward]
        rfl

/-- A turn that finds the ring dark and the client usable keeps the publisher's clock running. -/
theorem DarkClocks.turn_publisher (clocks : DarkClocks) {seen : Observation}
    (dark : seen.publisherDark = true) (usable : seen.clientUnusable = none) :
    (clocks.turn seen).2.publisher = some (clocks.publisher.getD seen.now) := by
  have observed : (clocks.took seen).publisher = some (clocks.publisher.getD seen.now) := by
    simp [DarkClocks.took, DarkClocks.observe, dark]
  have settled : (clocks.turn seen).2
      = (clocks.took seen).settle seen ((clocks.took seen).cycle seen).verdict := rfl
  have judged : ((clocks.took seen).cycle seen).verdict
      = ((clocks.took seen).cycle seen).escalate RING_MISSING := by
    simp [Cycle.verdict, DarkClocks.cycle, dark, usable]
  rw [settled, judged]
  rcases ((clocks.took seen).cycle seen).escalate_cases RING_MISSING with
    ⟨verdict, _⟩ | ⟨verdict, _⟩ <;> rw [verdict] <;> exact observed

/-- The publisher's clock runs on through cycles that find the ring dark. -/
theorem clocksAfter_publisher {since : Nat} (span : List Observation) {clocks : DarkClocks}
    (reads : ∃ t ≤ since, clocks.publisher = some t)
    (dark : ∀ seen ∈ span, seen.publisherDark = true ∧ seen.clientUnusable = none) :
    ∃ t ≤ since, (clocksAfter clocks span).publisher = some t := by
  induction span generalizing clocks with
  | nil => exact reads
  | cons seen rest ih =>
    obtain ⟨t, early, running⟩ := reads
    obtain ⟨bad, usable⟩ := dark seen List.mem_cons_self
    have next := clocks.turn_publisher bad usable
    rw [running, Option.getD_some] at next
    exact ih ⟨t, early, next⟩ fun other among => dark other (List.mem_cons_of_mem seen among)

/-- A publisher's clock never reads later than the last cycle. -/
theorem DarkClocks.turn_publisher_le {clocks : DarkClocks} {seen : Observation} {bound : Nat}
    (reads : ∀ t, clocks.publisher = some t → t ≤ bound) (later : seen.now ≤ bound) :
    ∀ t, (clocks.turn seen).2.publisher = some t → t ≤ bound := by
  have observed (t : Nat) (running : (clocks.took seen).publisher = some t) : t ≤ bound := by
    simp only [DarkClocks.took, DarkClocks.observe] at running
    split at running
    · cases clock : clocks.publisher with
      | none => rw [clock] at running; cases running; exact later
      | some started => rw [clock] at running; cases running; exact reads _ clock
    · cases running
  rcases clocks.turn_cases seen with cleared | ⟨_, excused⟩ | ⟨_, kept, _⟩
  · rw [cleared]
    intro t running
    cases running
  · rw [excused]
    exact observed
  · rw [kept]
    exact observed

/-- After cycles that were none later than `bound`, the publisher's clock reads no later. -/
theorem clocksAfter_publisher_le {bound : Nat} (run : List Observation) {clocks : DarkClocks}
    (reads : ∀ t, clocks.publisher = some t → t ≤ bound) (early : ∀ seen ∈ run, seen.now ≤ bound) :
    ∀ t, (clocksAfter clocks run).publisher = some t → t ≤ bound := by
  induction run generalizing clocks with
  | nil => exact reads
  | cons seen rest ih =>
    refine ih (DarkClocks.turn_publisher_le reads (early seen List.mem_cons_self)) ?_
    exact fun other among => early other (List.mem_cons_of_mem seen among)

/-- A publisher's clock that has run for long enough restarts the relay, whatever else was seen. -/
theorem DarkClocks.turn_restarts {clocks : DarkClocks} {seen : Observation} {since : Nat}
    (running : clocks.publisher = some since) (long : since + WATCHDOG_MAX_DARK ≤ seen.now)
    (dark : seen.publisherDark = true) (usable : seen.clientUnusable = none) :
    (clocks.turn seen).1 = .restart RING_MISSING := by
  have lasted : ¬ seen.now - since < WATCHDOG_MAX_DARK := by omega
  simp [DarkClocks.turn, Cycle.verdict, DarkClocks.cycle, Cycle.escalate, DarkClocks.darkFor,
    DarkClocks.observe, dark, usable, running, lasted]

/-- A publisher's signal that stays bad for long enough has restarted the relay by then. -/
theorem watch_restarts {before span : List Observation} {first last : Observation}
    (increasing : (before ++ first :: (span ++ [last])).Pairwise (·.now < ·.now))
    (dark : ∀ seen ∈ first :: (span ++ [last]),
      seen.publisherDark = true ∧ seen.clientUnusable = none)
    (long : first.now + WATCHDOG_MAX_DARK ≤ last.now) :
    ∃ cycle ∈ watch {} (before ++ first :: (span ++ [last])), cycle.2.isRestart = true := by
  -- The run up to the last cycle, and the clocks it leaves.
  have split : before ++ first :: (span ++ [last]) = (before ++ first :: span) ++ [last] := by simp
  rw [split]
  rcases watch_append {} (before ++ first :: span) [last] with restarted | onward
  · exact restarted
  obtain ⟨earlier, _, ordered⟩ := List.pairwise_append.mp increasing
  have started : ∃ t ≤ first.now,
      (clocksAfter (clocksAfter {} before) (first :: span)).publisher = some t := by
    -- Every cycle before the first was earlier, so the clock reads no later than it.
    have still (t : Nat) (reads : ({} : DarkClocks).publisher = some t) : t ≤ first.now := by
      cases reads
    have bound : ∀ t, (clocksAfter {} before).publisher = some t → t ≤ first.now :=
      clocksAfter_publisher_le before still
        fun seen among => Nat.le_of_lt (ordered seen among first List.mem_cons_self)
    obtain ⟨bad, usable⟩ := dark first List.mem_cons_self
    have begun := (clocksAfter {} before).turn_publisher bad usable
    refine clocksAfter_publisher span ⟨_, ?_, begun⟩ ?_
    · cases reads : (clocksAfter {} before).publisher with
      | none => exact Nat.le_refl _
      | some t => exact bound t reads
    · exact fun seen among => dark seen (by simp [among])
  obtain ⟨t, since, running⟩ := started
  have after : clocksAfter {} (before ++ first :: span)
      = clocksAfter (clocksAfter {} before) (first :: span) := by
    simp [clocksAfter]
  obtain ⟨bad, usable⟩ := dark last (by simp)
  rw [← after] at running
  have restart := DarkClocks.turn_restarts running (by omega) bad usable
  refine ⟨(last, .restart RING_MISSING), ?_, rfl⟩
  rw [onward]
  simp [watch, restart]

/-- The watchdog, over every run of cycles at increasing times: a restart has its grounds in the
cycles before it, and a publisher's signal that stays bad with a usable client gets one. -/
theorem watchdog_judges (run : List Observation) (increasing : run.Pairwise (·.now < ·.now)) :
    (∀ earlier later seen why, watch {} run = earlier ++ (seen, .restart why) :: later →
      later = [] ∧ Grounds earlier seen why)
    ∧ (∀ before span first last, run = before ++ first :: (span ++ [last]) →
      (∀ seen ∈ first :: (span ++ [last]), seen.publisherDark = true ∧ seen.clientUnusable = none) →
      first.now + WATCHDOG_MAX_DARK ≤ last.now →
      ∃ cycle ∈ watch {} run, cycle.2.isRestart = true) := by
  refine ⟨?_, ?_⟩
  · intro earlier later seen why traced
    have nothing := DarkClocks.Backed.still []
    exact ⟨watch_restart_last traced, watch_grounds nothing run traced⟩
  · rintro before span first last rfl dark long
    exact watch_restarts increasing dark long

/-- A cycle that finds the descriptor on one ring only, `minutes` after the start; a client was
served a minute before it. -/
def halfPublished (minutes : Nat) (dialFailed : Bool) : Observation where
  dialFailed := dialFailed
  publisherDark := true
  lastServed := 60 * minutes - 60
  clientUnusable := none
  now := 60 * minutes * SECOND

/-- An outage of one ring restarts the relay, although clients are served and dials get through. -/
theorem watchdog_half_published :
    (∃ cycle ∈ watch {} [halfPublished 5 true, halfPublished 10 false, halfPublished 15 true,
        halfPublished 20 true], cycle.2.isRestart = true)
      ∧ Grounds [(halfPublished 5 true, .dark RING_MISSING), (halfPublished 10 false, .dark RING_MISSING),
          (halfPublished 15 true, .dark RING_MISSING)] (halfPublished 20 true) RING_MISSING :=
  have judged := watchdog_judges [halfPublished 5 true, halfPublished 10 false,
    halfPublished 15 true, halfPublished 20 true] (by decide)
  ⟨judged.2 [] [halfPublished 10 false, halfPublished 15 true] _ _ rfl (by decide) (by decide),
    (judged.1 _ [] _ _ (by decide)).2⟩

end Nightdrop.Watchdog
