import Nightdrop.Proofs.Relay.Conservation
import Nightdrop.Relay.Retire

/-! When a drain that calls an epoch settled has left none of its mail behind. -/

namespace Nightdrop.Relay

open Ledger Ask

/-- Blobs that one after the other fit a budget also fit it in two goes. -/
theorem admitAll_append (budget : TakeBudget) (front back : List Nat) :
    budget.admitAll (front ++ back) = (budget.admitAll front).bind (·.admitAll back) := by
  induction front generalizing budget with
  | nil => rfl
  | cons len lens ih =>
    simp only [List.cons_append, TakeBudget.admitAll]
    rcases budget.admit len with ⟨fits, after⟩
    cases fits with
    | false => rfl
    | true => exact ih after

/-- Whether one budget has at least the room of another. -/
def TakeBudget.Covers (wide budget : TakeBudget) : Prop :=
  budget.room ≤ wide.room ∧ (budget.first = true → wide.first = true)

/-- Fewer blobs fit a wider budget. -/
theorem admitAll_sublist {lens fewer : List Nat} (part : fewer.Sublist lens) :
    ∀ {budget wide : TakeBudget}, wide.Covers budget →
      (budget.admitAll lens).isSome = true → (wide.admitAll fewer).isSome = true := by
  -- Both budgets shrink along the list, so they stay quantified over.
  induction part with
  | slnil => exact fun _ _ => rfl
  | cons len part ih =>
    intro budget wide ⟨room, first⟩ fits
    simp only [TakeBudget.admitAll, TakeBudget.admit] at fits
    split at fits
    · rename_i admitted
      split at admitted
      · cases admitted
      · obtain ⟨_, rfl⟩ := Prod.mk.inj admitted
        exact ih ⟨(Nat.sub_le _ _).trans room, fun impossible => by cases impossible⟩ fits
    · cases fits
  | cons_cons len part ih =>
    intro budget wide ⟨room, first⟩ fits
    simp only [TakeBudget.admitAll, TakeBudget.admit] at fits ⊢
    by_cases refused : (!budget.first && decide (len > budget.room)) = true
    · simp [refused] at fits
    · -- What the tight budget admits, the wide one does.
      have admitted : (!wide.first && decide (len > wide.room)) = false := by
        simp only [Bool.and_eq_true, Bool.not_eq_true', decide_eq_true_eq, not_and,
          Bool.and_eq_false_iff, Bool.not_eq_false', decide_eq_false_iff_not] at refused ⊢
        cases opening : budget.first with
        | true => exact .inl (first opening)
        | false =>
          have fitting := refused opening
          exact .inr (by omega)
      simp only [refused, if_false, Bool.false_eq_true, admitted] at fits ⊢
      exact ih ⟨Nat.sub_le_sub_right room len, fun impossible => by cases impossible⟩ fits

/-- A response has room exactly when its blobs fit the budget, or nothing follows the first. -/
theorem admitAll_default (lens : List Nat) :
    (TakeBudget.default.admitAll lens).isSome = true
      ↔ lens.sum ≤ TAKE_BUDGET_BYTES ∨ lens.tail.sum = 0 := by
  -- Behind the first blob, what is admitted is what fits the room that is left.
  have later : ∀ (lens : List Nat) (room : Nat),
      ((⟨room, false⟩ : TakeBudget).admitAll lens).isSome = true ↔ lens.sum ≤ room := by
    intro lens
    induction lens with
    | nil => simp [TakeBudget.admitAll]
    | cons len lens ih =>
      intro room
      by_cases refused : len > room
      · simp only [TakeBudget.admitAll, TakeBudget.admit, refused]
        simp
        omega
      · simp only [TakeBudget.admitAll, TakeBudget.admit, refused]
        simp only [Bool.not_false, Bool.true_and, decide_false, Bool.false_eq_true, if_false,
          ih, List.sum_cons]
        omega
  cases lens with
  | nil => simp [TakeBudget.admitAll]
  | cons len lens =>
    simp only [TakeBudget.admitAll, TakeBudget.admit, TakeBudget.default, Bool.not_true,
      Bool.false_and, Bool.false_eq_true, if_false, later, List.sum_cons, List.tail_cons]
    omega

/-- The draining loop leaves nothing exactly when all that is live fits, and charges that. -/
theorem drainLoop_rest (now : Nanos) (queue : List Stored) (budget : TakeBudget) :
    match budget.admitAll
      ((queue.filter (fun s => s.expiry > now)).map (fun s => s.bytes.length)) with
    | some left => (drainLoop now queue budget).rest = []
      ∧ (drainLoop now queue budget).budget = left
    | none => (drainLoop now queue budget).rest ≠ [] := by
  induction queue generalizing budget with
  | nil => exact ⟨rfl, rfl⟩
  | cons head rest ih =>
    by_cases expired : head.expiry ≤ now
    · have gone : ¬ head.expiry > now := Nat.not_lt.mpr expired
      simpa [drainLoop, expired, gone] using ih budget
    · have live : head.expiry > now := Nat.not_le.mp expired
      simp only [drainLoop, expired, if_false, List.filter_cons, live, decide_true, if_true,
        List.map_cons, TakeBudget.admitAll]
      rcases admitted : budget.admit head.bytes.length with ⟨fits, after⟩
      cases fits with
      | false => simp
      | true => exact ih after

/-- The lengths a drain meets shrink with the queues. -/
theorem liveLengths_sublist (now : Nanos) {inner left : StoreInner}
    (shrunk : ∀ handle, (left.queue handle).Sublist (inner.queue handle))
    (handles : List Handle) :
    (liveLengths now left handles).Sublist (liveLengths now inner handles) := by
  induction handles with
  | nil => exact List.Sublist.refl _
  | cons handle rest ih =>
    exact (((shrunk handle).filter _).map _).append ih

/-- A drain that has room for all that is live empties every handle it names. -/
theorem drainAll_empties {now : Nanos} {handles : List Handle} :
    ∀ {budget : TakeBudget} {inner : StoreInner}, Solvent inner →
      (budget.admitAll (liveLengths now inner handles)).isSome = true →
      ∀ handle ∈ handles, (drainAll now handles budget inner).2.queue handle = [] := by
  induction handles with
  | nil => exact fun _ _ handle member => absurd member (by simp)
  | cons target rest ih =>
    intro budget inner solvent fits handle member
    obtain ⟨mid, drainedHead, queues, shrunk⟩ := drainHandleBounded_spec solvent target budget now
    have here := drainLoop_rest now (inner.queue target) budget
    rw [liveLengths, List.flatMap_cons, admitAll_append] at fits
    cases head : budget.admitAll
        (((inner.queue target).filter (fun s => s.expiry > now)).map (fun s => s.bytes.length)) with
    | none => simp [head] at fits
    | some left =>
      rw [head] at here fits
      obtain ⟨emptied, charged⟩ := here
      -- The handles behind it meet no more than they would have, within the budget left.
      have covered : left.Covers left := ⟨Nat.le_refl _, fun opening => opening⟩
      have tail := admitAll_sublist (liveLengths_sublist now shrunk.queues rest) covered fits
      rw [← charged] at tail
      obtain ⟨others, last, drainedTail, _, shrunkTail⟩ := drainAll_spec now rest
        (drainLoop now (inner.queue target) budget).budget (shrunk.solvent solvent)
      have whole : (drainAll now (target :: rest) budget inner).2 = last := by
        simp only [drainAll, drainedHead, drainedTail]
      rw [whole]
      rcases List.mem_cons.mp member with rfl | behind
      · have midEmpty : mid.queue handle = [] := by simp [queues handle, emptied]
        exact List.sublist_nil.mp (midEmpty ▸ shrunkTail.queues handle)
      · have more := ih (shrunk.solvent solvent) tail handle behind
        rwa [drainedTail] at more

/-- A drain leaves every handle alone that it does not name. -/
theorem drainAll_untouched (now : Nanos) {handles : List Handle} {other : Handle}
    (unnamed : other ∉ handles) :
    ∀ (budget : TakeBudget) {inner : StoreInner}, Solvent inner →
      (drainAll now handles budget inner).2.queue other = inner.queue other := by
  induction handles with
  | nil => exact fun _ _ _ => rfl
  | cons target rest ih =>
    intro budget inner solvent
    have differs : other ≠ target := List.ne_of_not_mem_cons unnamed
    have behind : other ∉ rest := List.not_mem_of_not_mem_cons unnamed
    obtain ⟨mid, drainedHead, queues, shrunk⟩ := drainHandleBounded_spec solvent target budget now
    obtain ⟨parts, last, drainedTail, _, _⟩ := drainAll_spec now rest
      (drainLoop now (inner.queue target) budget).budget (shrunk.solvent solvent)
    have tail := ih behind (drainLoop now (inner.queue target) budget).budget
      (shrunk.solvent solvent)
    rw [drainedTail, queues other] at tail
    simp only [drainAll, drainedHead, drainedTail]
    simpa [differs] using tail

/-- A drain of distinct handles empties all of them only if it has room for all that is live. -/
theorem drainAll_empties_iff {now : Nanos} {handles : List Handle} (distinct : handles.Nodup) :
    ∀ (budget : TakeBudget) {inner : StoreInner}, Solvent inner →
      ((∀ handle ∈ handles, (drainAll now handles budget inner).2.queue handle = [])
        ↔ (budget.admitAll (liveLengths now inner handles)).isSome = true) := by
  induction handles with
  | nil => exact fun budget inner _ => by simp [liveLengths, TakeBudget.admitAll]
  | cons target rest ih =>
    intro budget inner solvent
    refine ⟨fun empty => ?_, fun fits => drainAll_empties solvent fits⟩
    obtain ⟨fresh, others⟩ := List.nodup_cons.mp distinct
    obtain ⟨mid, drainedHead, queues, shrunk⟩ := drainHandleBounded_spec solvent target budget now
    obtain ⟨parts, last, drainedTail, _, _⟩ := drainAll_spec now rest
      (drainLoop now (inner.queue target) budget).budget (shrunk.solvent solvent)
    have here := drainLoop_rest now (inner.queue target) budget
    have untouched := drainAll_untouched now fresh
      (drainLoop now (inner.queue target) budget).budget (shrunk.solvent solvent)
    have tail := ih others (drainLoop now (inner.queue target) budget).budget
      (shrunk.solvent solvent)
    rw [drainedTail] at untouched tail
    have whole : (drainAll now (target :: rest) budget inner).2 = last := by
      simp only [drainAll, drainedHead, drainedTail]
    rw [whole] at empty
    -- The first handle was emptied by its own drain, since nothing behind it touches it.
    have emptied : (drainLoop now (inner.queue target) budget).rest = [] := by
      have gone := empty target (by simp)
      rw [untouched, queues target] at gone
      simpa using gone
    have same : liveLengths now mid rest = liveLengths now inner rest := by
      refine List.flatMap_congr (fun handle member => ?_)
      have apart : handle ≠ target := fun equal => fresh (equal ▸ member)
      simp [queues handle, apart]
    rw [liveLengths, List.flatMap_cons, admitAll_append]
    cases head : budget.admitAll
        (((inner.queue target).filter (fun s => s.expiry > now)).map (fun s => s.bytes.length)) with
    | none =>
      rw [head] at here
      exact absurd emptied here
    | some left =>
      rw [head] at here
      rw [here.2, same] at tail
      exact tail.mp (fun handle member => empty handle (List.mem_cons_of_mem _ member))

/-- What a queue holds after a run was there before, or was accepted in it. -/
theorem queue_run_sublist (cfg : Config) {inner : StoreInner} (solvent : Solvent inner)
    (handle : Handle) (events : List Event) :
    ((run cfg inner events).queue handle).Sublist
      (inner.queue handle ++ accepted cfg handle inner events) := by
  have explained := run_explains cfg handle events solvent
    (fun _ _ _ _ => trivial) (fun _ _ _ _ => trivial)
    (Explains.whole (fun _ => True) (fun _ => True) (inner.queue handle))
  exact explained.queue_sublist

/-- What is accepted in two runs, one after the other. -/
theorem accepted_append (cfg : Config) (handle : Handle) (first second : List Event) :
    ∀ inner, accepted cfg handle inner (first ++ second)
      = accepted cfg handle inner first ++ accepted cfg handle (run cfg inner first) second := by
  induction first with
  | nil => exact fun _ => rfl
  | cons event rest ih => exact fun inner => by simp [accepted, run, ih, List.append_assoc]

variable {fleet : Fleet}

/-- One course goes on from another one. -/
structure Follows (course later : Course) (made : List TripRecord) : Prop where
  log : ∀ addr, course.log addr <+: later.log addr
  trips : later.trips = course.trips ++ made

theorem Follows.refl (course : Course) : Follows course course [] :=
  ⟨fun _ => List.prefix_refl _, by simp⟩

theorem Follows.trans {a b c : Course} {first second : List TripRecord}
    (before : Follows a b first) (after : Follows b c second) :
    Follows a c (first ++ second) :=
  ⟨fun addr => (before.log addr).trans (after.log addr), by simp [after.trips, before.trips]⟩

/-- A queue that holds only new entries holds only new entries later on. -/
theorem Course.OnlyNew.later {began : Addr → List Event} {course later : Course} {addr : Addr}
    {handle : Handle} (new : course.OnlyNew fleet began addr handle)
    (goesOn : course.log addr <+: later.log addr) : later.OnlyNew fleet began addr handle := by
  obtain ⟨since, logged, only⟩ := new
  obtain ⟨more, goes⟩ := goesOn
  refine ⟨since ++ more, by rw [← goes, logged, List.append_assoc], ?_⟩
  have solvent : Solvent (course.store fleet addr) :=
    run_solvent fleet.cfg solvent_empty (course.log addr)
  have grown := queue_run_sublist fleet.cfg solvent handle more
  have onward : later.store fleet addr = run fleet.cfg (course.store fleet addr) more := by
    rw [Course.store, ← goes, run_append, Course.store]
  rw [onward, accepted_append]
  refine grown.trans (only.append ?_)
  rw [Course.store, logged, run_append]

/-- An emptied queue holds only new entries. -/
theorem Course.OnlyNew.emptied {began : Addr → List Event} {course : Course} {addr : Addr}
    {handle : Handle} (goesOn : began addr <+: course.log addr)
    (empty : (course.store fleet addr).queue handle = []) :
    course.OnlyNew fleet began addr handle := by
  obtain ⟨since, logged⟩ := goesOn
  refine ⟨since, logged.symm, ?_⟩
  rw [empty]
  exact List.nil_sublist _

/-- One round trip: it is recorded, and with room for all that is live it empties its handles. -/
theorem serves_spec {query : Query} (reads : query.req.onlyReads = true) {course later : Course}
    {reply : Reply} (served : fleet.Serves query course reply later) :
    ∃ record, Follows course later [record] ∧ record.query = query ∧ record.reply = reply
      ∧ (∀ response, reply = some response → response.ok = true → record.served.isSome = true)
      ∧ (record.served.isSome = true → record.hasRoom = true →
        ∀ handle ∈ query.req.drains, (later.store fleet query.addr).queue handle = []) := by
  cases served with
  | unsent between =>
    exact ⟨_, ⟨fun addr => List.prefix_append _ _, rfl⟩, rfl, rfl,
      (fun _ heard => by cases heard), fun processed => by simp at processed⟩
  | unknown between amb fate older =>
    refine ⟨_, ⟨fun addr => List.prefix_append _ _, rfl⟩, rfl, rfl, fun response heard ok => ?_,
      fun processed => by simp at processed⟩
    -- An older relay only ever answers with an error.
    simp only [Fleet.answer, older, if_true] at heard
    cases fate with
    | lost => cases heard
    | heard | garbled =>
      obtain rfl := (Option.some.inj heard).symm
      simp [Response.err, Response.default] at ok
  | trip between amb fate known =>
    refine ⟨_, ⟨fun addr => ?_, rfl⟩, rfl, rfl, fun _ _ _ => rfl, fun _ room handle named => ?_⟩
    · by_cases here : addr = query.addr
      · simp only [World.after, here, if_true, Course.pass, List.append_assoc]
        exact List.prefix_append _ _
      · simp only [World.after, here, if_false, Course.pass]
        exact List.prefix_append _ _
    · -- The relay's store after the trip is what the request's drain left.
      have solvent : Solvent ((course.pass between).store fleet query.addr) :=
        run_solvent fleet.cfg solvent_empty _
      have left := (process_drains fleet.cfg solvent amb query.req reads).2
      simp only [Course.store, World.after, if_true, run_append, run, step]
      rw [show run fleet.cfg .empty ((course.pass between).log query.addr)
        = (course.pass between).store fleet query.addr from rfl, left]
      simp only [TripRecord.hasRoom, Option.all_some] at room
      exact drainAll_empties solvent room handle named

/-- What follows a round trip is judged for everything that can become of its request. -/
theorem roundTrip_serves {A : Type} {addr : Addr} {req : Request} {rest : Reply → Client A}
    {post : Course → A → Prop} {course : Course}
    (each : ∀ reply later, fleet.Serves ⟨addr, req⟩ course reply later →
      (rest reply).Meets fleet.Serves post later) :
    (roundTrip addr req >>= rest).Meets fleet.Serves post course := each

/-- A take is one round trip, and succeeds only if it is answered. -/
theorem take_retires (addr : Addr) (handle : Handle) (course : Course) :
    (take fleet.cfg.b64 addr handle).Meets fleet.Serves
      (fun later result => ∃ record, Follows course later [record]
        ∧ record.query = ⟨addr, .take handle⟩
        ∧ (∀ blobs, result = .ok blobs → record.reply.isSome = true)
        ∧ (record.served.isSome = true → record.hasRoom = true →
          (later.store fleet addr).queue handle = [])) course := by
  refine roundTrip_serves (fun reply later served => ?_)
  obtain ⟨record, follows, asked, replied, _, empties⟩ := serves_spec rfl served
  have emptied : record.served.isSome = true → record.hasRoom = true →
      (later.store fleet addr).queue handle = [] :=
    fun processed room => empties processed room handle (by simp [Request.drains])
  cases reply with
  | none => exact ⟨record, follows, asked, (fun blobs failed => by cases failed), emptied⟩
  | some response =>
    have heard : record.reply.isSome = true := by simp [replied]
    cases ok : response.ok with
    | false =>
      simp only [ok, Bool.not_false, if_true, pure_eq, meets_done]
      exact ⟨record, follows, asked, fun _ _ => heard, emptied⟩
    | true =>
      simp only [ok, Bool.not_true, Bool.false_eq_true, if_false, pure_eq, meets_done]
      exact ⟨record, follows, asked, fun _ _ => heard, emptied⟩

/-- The fallback loop takes every handle, and succeeds only if one of them was answered. -/
theorem takeEachLoop_retires {began : Addr → List Event} (addr : Addr) (handles : List Handle) :
    ∀ (out : List Bytes) (answered : Bool) (lastErr : Option ClientError) (course : Course),
      (∀ addr, began addr <+: course.log addr) →
      (takeEachLoop fleet.cfg.b64 addr handles out answered lastErr).Meets fleet.Serves
        (fun later result => ∃ made, Follows course later made
          ∧ (∀ handle ∈ handles, ∃ record ∈ made, record.query = ⟨addr, .take handle⟩
            ∧ (record.served.isSome = true → record.hasRoom = true →
              later.OnlyNew fleet began addr handle))
          ∧ (∀ blobs, result = .ok blobs → answered = true
            ∨ (∃ record ∈ made, (∃ handle ∈ handles, record.query = ⟨addr, .take handle⟩)
              ∧ record.reply.isSome = true)
            ∨ (handles = [] ∧ lastErr = none))) course := by
  induction handles with
  | nil =>
    intro out answered lastErr course _
    cases answered with
    | true => exact ⟨[], Follows.refl course, by simp, fun _ _ => .inl rfl⟩
    | false =>
      cases lastErr with
      | none => exact ⟨[], Follows.refl course, by simp, fun _ _ => .inr (.inr ⟨rfl, rfl⟩)⟩
      | some e => exact ⟨[], Follows.refl course, by simp, (fun _ failed => by cases failed)⟩
  | cons handle rest ih =>
    intro out answered lastErr course start
    refine (take_retires addr handle course).bind ?_
    rintro mid result ⟨record, follows, asked, heard, empties⟩
    have onward : ∀ addr, began addr <+: mid.log addr :=
      fun addr => (start addr).trans (follows.log addr)
    -- What this take emptied stays free of old mail while the loop goes on.
    have first : record.served.isSome = true → record.hasRoom = true →
        mid.OnlyNew fleet began addr handle :=
      fun processed room => Course.OnlyNew.emptied (onward addr) (empties processed room)
    have gather : ∀ {later : Course} {made : List TripRecord}, Follows mid later made →
        (∀ other ∈ rest, ∃ record ∈ made, record.query = ⟨addr, .take other⟩
          ∧ (record.served.isSome = true → record.hasRoom = true →
            later.OnlyNew fleet began addr other)) →
        ∀ other ∈ handle :: rest, ∃ trip ∈ [record] ++ made, trip.query = ⟨addr, .take other⟩
          ∧ (trip.served.isSome = true → trip.hasRoom = true →
            later.OnlyNew fleet began addr other) := by
      intro later made goes others other member
      rcases List.mem_cons.mp member with rfl | behind
      · exact ⟨record, by simp, asked,
          fun processed room => (first processed room).later (goes.log addr)⟩
      · obtain ⟨trip, listed, holds⟩ := others other behind
        exact ⟨trip, by simp [listed], holds⟩
    cases result with
    | ok blobs =>
      refine (ih (out ++ blobs) true lastErr mid onward).mono ?_
      rintro later result ⟨made, goes, others, _⟩
      exact ⟨[record] ++ made, follows.trans goes, gather goes others, fun _ _ =>
        .inr (.inl ⟨record, by simp, ⟨handle, by simp, asked⟩, heard blobs rfl⟩)⟩
    | error e =>
      refine (ih out answered (some e) mid onward).mono ?_
      rintro later result ⟨made, goes, others, ends⟩
      refine ⟨[record] ++ made, follows.trans goes, gather goes others, fun blobs done => ?_⟩
      rcases ends blobs done with before | ⟨trip, listed, ⟨other, member, taken⟩, answer⟩ | ⟨_, none⟩
      · exact .inl before
      · exact .inr (.inl ⟨trip, by simp [listed], ⟨other, by simp [member], taken⟩, answer⟩)
      · cases none

/-- A job that its fallback reports drained holds only new mail, if its trips were thorough. -/
theorem takeEach_retires {began : Addr → List Event} (job : DrainJob) (course : Course)
    (start : ∀ addr, began addr <+: course.log addr) :
    (takeEach fleet.cfg.b64 job.addr job.handles).Meets fleet.Serves
      (fun later result => ∃ made, Follows course later made
        ∧ (∀ blobs, result = .ok blobs → Thorough made job →
          ∀ handle ∈ job.handles, later.OnlyNew fleet began job.addr handle)) course := by
  refine (takeEachLoop_retires job.addr job.handles [] job.handles.isEmpty none course start).mono ?_
  rintro later result ⟨made, follows, taken, ends⟩
  refine ⟨made, follows, fun blobs done thorough handle named => ?_⟩
  obtain ⟨record, listed, asked, holds⟩ := taken handle named
  have takes : record.TakesOf job := ⟨handle, named, asked⟩
  rcases ends blobs done with empty | ⟨trip, heard, ⟨other, member, asked⟩, answer⟩ | ⟨none, _⟩
  · simp [List.isEmpty_iff.mp empty] at named
  · -- Some handle was answered, so this one was taken as well.
    have processed := thorough.together ⟨trip, heard, ⟨other, member, asked⟩, answer⟩
      record listed takes
    exact holds processed (thorough.room record listed (.inl takes))
  · simp [none] at named

/-- The trips a job made in part of a drain were thorough if those of the whole drain were. -/
theorem Thorough.part {trips made : List TripRecord} {job : DrainJob}
    (thorough : Thorough trips job) (part : ∀ record ∈ made, record ∈ trips) :
    Thorough made job :=
  ⟨fun record listed => thorough.room record (part record listed),
    fun ⟨heard, listed, rest⟩ record member =>
      thorough.together ⟨heard, part heard listed, rest⟩ record (part record member)⟩

/-- A job that is reported drained holds only new mail, if its trips were thorough. -/
theorem takeMany_retires {began : Addr → List Event} (job : DrainJob) (course : Course)
    (start : ∀ addr, began addr <+: course.log addr) :
    (takeMany fleet.cfg.b64 job.addr job.handles).Meets fleet.Serves
      (fun later result => ∃ made, Follows course later made
        ∧ (∀ blobs, result = .ok blobs → Thorough made job →
          ∀ handle ∈ job.handles, later.OnlyNew fleet began job.addr handle)) course := by
  by_cases single : (job.handles.length ≤ 1 || job.handles.length > MAX_TAKE_MANY) = true
  · simpa [takeMany, single] using takeEach_retires job course start
  simp only [takeMany, single]
  refine roundTrip_serves (fun reply later served => ?_)
  obtain ⟨record, follows, asked, replied, known, empties⟩ := serves_spec rfl served
  have onward : ∀ addr, began addr <+: later.log addr :=
    fun addr => (start addr).trans (follows.log addr)
  have few : ¬ job.handles.length > MAX_TAKE_MANY := by
    intro many
    simp [many] at single
  cases reply with
  | none => exact ⟨[record], follows, (fun blobs failed => by cases failed)⟩
  | some response =>
    cases ok : response.ok with
    | false =>
      by_cases older : response.error.any (fun e => e.startsWith "bad request") = true
      · simp only [ok, older, Bool.not_false, if_true]
        refine (takeEach_retires job later onward).mono ?_
        rintro last result ⟨made, goes, holds⟩
        exact ⟨[record] ++ made, follows.trans goes, fun blobs done thorough =>
          holds blobs done (thorough.part (fun trip listed => by simp [listed]))⟩
      · simp only [ok, older, Bool.not_false, if_true, if_false, Bool.false_eq_true, pure_eq,
          meets_done]
        exact ⟨[record], follows, (fun blobs failed => by cases failed)⟩
    | true =>
      simp only [ok, Bool.not_true, Bool.false_eq_true, if_false, pure_eq, meets_done]
      refine ⟨[record], follows, fun blobs _ thorough handle named => ?_⟩
      have room := thorough.room record (by simp) (.inr asked)
      exact .emptied (onward job.addr) (empties (known response rfl ok) room handle
        (by simp [Request.drains, few, named]))

/-- A round keeps an epoch settled only while every one of its jobs is answered. -/
theorem drainJobs_retires {began : Addr → List Event} (settles : Option Nat) (jobs : List DrainJob) :
    ∀ (round : DrainRound) (course : Course), (∀ addr, began addr <+: course.log addr) →
      (drainJobs fleet.cfg.b64 settles jobs round).Meets fleet.Serves
        (fun later last => ∃ made, Follows course later made
          ∧ (last.settleOk = true → round.settleOk = true
            ∧ ∀ job ∈ jobs, job.epoch = settles → Thorough made job →
              ∀ handle ∈ job.handles, later.OnlyNew fleet began job.addr handle)) course := by
  induction jobs with
  | nil => exact fun round course _ => ⟨[], Follows.refl course, fun kept => ⟨kept, by simp⟩⟩
  | cons job rest ih =>
    intro round course start
    simp only [drainJobs]
    split
    · -- A job that is skipped gives up its epoch.
      refine (ih _ course start).mono ?_
      rintro later last ⟨made, follows, holds⟩
      refine ⟨made, follows, fun kept => ?_⟩
      obtain ⟨before, others⟩ := holds kept
      simp only [Bool.and_eq_true, bne_iff_ne] at before
      refine ⟨before.1, fun other member epoch => ?_⟩
      rcases List.mem_cons.mp member with rfl | behind
      · exact absurd epoch before.2
      · exact others other behind epoch
    · refine (takeMany_retires job course start).bind ?_
      rintro mid result ⟨made, follows, drained⟩
      have onward : ∀ addr, began addr <+: mid.log addr :=
        fun addr => (start addr).trans (follows.log addr)
      cases result with
      | ok taken =>
        refine (ih _ mid onward).mono ?_
        rintro later last ⟨more, goes, holds⟩
        refine ⟨made ++ more, follows.trans goes, fun kept => ?_⟩
        obtain ⟨before, others⟩ := holds kept
        refine ⟨before, fun other member epoch thorough handle named => ?_⟩
        rcases List.mem_cons.mp member with rfl | behind
        · exact (drained taken rfl (thorough.part (fun trip listed => by simp [listed]))
            handle named).later (goes.log other.addr)
        · exact others other behind epoch
            (thorough.part (fun trip listed => by simp [listed])) handle named
      | error e =>
        -- So does a job that fails.
        refine (ih _ mid onward).mono ?_
        rintro later last ⟨more, goes, holds⟩
        refine ⟨made ++ more, follows.trans goes, fun kept => ?_⟩
        obtain ⟨before, others⟩ := holds kept
        simp only [Bool.and_eq_true, bne_iff_ne] at before
        refine ⟨before.1, fun other member epoch thorough handle named => ?_⟩
        rcases List.mem_cons.mp member with rfl | behind
        · exact absurd epoch before.2
        · exact others other behind epoch
            (thorough.part (fun trip listed => by simp [listed])) handle named

/--
A drain whose round trips were thorough has emptied every epoch it calls settled.

Whatever the relays did in between and whichever round trips failed, what is left under the
epoch's handles was accepted after the drain began.
-/
theorem settled_epoch_drained (fleet : Fleet) (plan : RelayDrainPlan) (began : Addr → List Event)
    {harvest : RelayHarvest} {last : Course}
    (run : Runs fleet.Serves (drainRelayMailboxes fleet.cfg.b64 plan) ⟨began, []⟩ harvest last)
    {epoch : Nat} (settled : harvest.settled = some epoch)
    (thorough : ∀ job ∈ plan.jobs, job.epoch = some epoch → Thorough last.trips job) :
    ∀ job ∈ plan.jobs, job.epoch = some epoch →
      ∀ handle ∈ job.handles, last.OnlyNew fleet began job.addr handle := by
  have meets : (drainRelayMailboxes fleet.cfg.b64 plan).Meets fleet.Serves
      (fun later harvest => ∃ made, later.trips = made
        ∧ (harvest.settled = some epoch →
          ∀ job ∈ plan.jobs, job.epoch = some epoch → Thorough made job →
            ∀ handle ∈ job.handles, later.OnlyNew fleet began job.addr handle)) ⟨began, []⟩ := by
    refine (drainJobs_retires plan.settles plan.jobs _ ⟨began, []⟩
      (fun addr => List.prefix_refl _)).bind ?_
    rintro later round ⟨made, follows, holds⟩
    refine ⟨made, by simpa using follows.trips, fun reported => ?_⟩
    obtain ⟨named, kept⟩ := Option.filter_eq_some_iff.mp reported
    exact fun job member same => (holds kept).2 job member (named ▸ same)
  obtain ⟨made, rfl, holds⟩ := meets.run run
  exact fun job member same => holds settled job member same (thorough job member same)

end Nightdrop.Relay
