import Nightdrop.Node.Polling
import Nightdrop.Proofs.Relay.Fleet
import Nightdrop.Proofs.Relay.Retire

/-! Retiring an epoch: what the drain that a device adopts has left under its handles. -/

namespace Nightdrop

open Relay Ask

/--
A drain that reports an epoch settled, and a device that retires one by it, leave no mail behind.

Every round trip of the drain must have been thorough: room in each response for all that was live
under its handles, and no handle of a job failing while another one of it is answered.
-/
theorem retired_epoch_drained (fleet : Fleet) (plan : RelayDrainPlan)
    (began : Addr → List Relay.Event) {harvest : RelayHarvest} {last : Course}
    (drain : Runs fleet.Serves (drainRelayMailboxes fleet.cfg.b64 plan) ⟨began, []⟩ harvest last)
    {epoch : Nat}
    (thorough : ∀ job ∈ plan.jobs, job.epoch = some epoch → Thorough last.trips job) :
    (harvest.settled = some epoch → ∀ job ∈ plan.jobs, job.epoch = some epoch →
      ∀ handle ∈ job.handles, last.OnlyNew fleet began job.addr handle)
    ∧ ∀ (X : Externals) (p : Poller X), p.prevEpochDrained ≠ some epoch →
      (p.applyRelayHarvest harvest).prevEpochDrained = some epoch →
      ∀ job ∈ plan.jobs, job.epoch = some epoch →
        ∀ handle ∈ job.handles, last.OnlyNew fleet began job.addr handle := by
  refine ⟨fun settled => settled_epoch_drained fleet plan began drain settled thorough,
    fun X p unretired retired => ?_⟩
  -- A device retires only what the drain reports.
  have settled : harvest.settled = some epoch := by
    cases reported : harvest.settled with
    | none => simp [Poller.applyRelayHarvest, reported, unretired] at retired
    | some other => simpa [Poller.applyRelayHarvest, reported] using retired
  exact settled_epoch_drained fleet plan began drain settled thorough

/-- What is to become of one request of a drain, with nothing happening in between. -/
inductive Serving where
  | unsent
  | made (amb : Ambient) (fate : Trip)

/-- One request of a drain, served as the serving says. -/
def Serving.serve (fleet : Fleet) (query : Query) (course : Course) : Serving → Reply × Course
  | .unsent =>
    (none, { course.pass (fun _ => []) with trips := course.trips ++ [⟨query, none, none⟩] })
  | .made amb fate =>
    let between := (course.pass (fun _ => [])).log
    let reply := fate.hear (fleet.answer { Relay.World.start with log := between } query amb)
    if fleet.unknown query then
      (reply, { course.pass (fun _ => []) with
        trips := course.trips ++ [⟨query, none, reply⟩] })
    else
      (reply,
        { log := Relay.World.after { Relay.World.start with log := between } query.addr (.request amb query.req)
          trips := course.trips ++ [⟨query,
            some ((course.pass (fun _ => [])).store fleet query.addr, amb), reply⟩] })

/-- A drain whose requests are served as listed; `none` when the list is too short. -/
def play {A : Type} (fleet : Fleet) : Client A → Course → List Serving → Option (A × Course)
  | .done result, course, _ => some (result, course)
  | .ask _ _, _, [] => none
  | .ask query next, course, serving :: servings =>
    play fleet (next (serving.serve fleet query course).1) (serving.serve fleet query course).2 servings

/-- Every serving serves the request in a way the relays can. -/
theorem serve_serves (fleet : Fleet) (query : Query) (course : Course) (serving : Serving) :
    fleet.Serves query course (serving.serve fleet query course).1 (serving.serve fleet query course).2 := by
  cases serving with
  | unsent => exact .unsent (fun _ => [])
  | made amb fate =>
    cases unknown : fleet.unknown query with
    | true =>
      simp only [Serving.serve, unknown, if_true]
      exact .unknown (fun _ => []) amb fate unknown
    | false =>
      simp only [Serving.serve, unknown, Bool.false_eq_true, if_false]
      exact .trip (fun _ => []) amb fate unknown

/-- A drain that is played out is a run. -/
theorem play_runs {A : Type} {fleet : Fleet} {program : Client A} :
    ∀ {course last : Course} {servings : List Serving} {result : A},
      play fleet program course servings = some (result, last) →
      Runs fleet.Serves program course result last := by
  induction program with
  | done value =>
    intro course last servings result played
    obtain ⟨rfl, rfl⟩ := Prod.mk.inj (Option.some.inj played)
    exact .done _ _
  | ask query next ih =>
    intro course last servings result played
    cases servings with
    | nil => cases played
    | cons serving servings => exact .ask _ (serve_serves fleet query course serving) (ih _ played)

/-- A test that a played drain passes is passed by a run of it. -/
theorem runs_of_any {A : Type} {fleet : Fleet} {program : Client A} {course : Course}
    {servings : List Serving} {test : A × Course → Bool}
    (passes : (play fleet program course servings).any test = true) :
    ∃ result last, Runs fleet.Serves program course result last ∧ test (result, last) = true := by
  obtain ⟨⟨result, last⟩, played, holds⟩ := (Option.any_eq_true _ _).mp passes
  exact ⟨result, last, play_runs played, holds⟩

/-- Yesterday's fragment of two handles, on one relay. -/
def sampleRound : RelayDrainPlan := ⟨[⟨none, some 5, ["mailbox", "letterbox"]⟩], some 5⟩

/-- A relay that holds one blob under the first of the handles. -/
def oneBlob : Addr → List Relay.Event := fun _ => [samplePost]

/-- A drain that a current relay answers whole retires the epoch and leaves nothing old. -/
theorem answered_epoch_drained : ∃ harvest last,
    Runs sampleFleet.Serves (drainRelayMailboxes sampleFleet.cfg.b64 sampleRound) ⟨oneBlob, []⟩
      harvest last
    ∧ (harvest.settled = some 5 ∧ harvest.blobs.length = 1)
    ∧ last.OnlyNew sampleFleet oneBlob none "mailbox" := by
  have played : (play sampleFleet (drainRelayMailboxes sampleFleet.cfg.b64 sampleRound)
      ⟨oneBlob, []⟩ [.made sampleAmbient .heard]).any (fun ended =>
        ended.1.settled == some 5 && ended.1.blobs.length == 1
          && ended.2.trips.all (fun record => record.hasRoom && record.served.isSome)) = true := by
    decide +kernel
  obtain ⟨harvest, last, drain, passes⟩ := runs_of_any played
  simp only [Bool.and_eq_true, beq_iff_eq, List.all_eq_true] at passes
  obtain ⟨⟨settled, one⟩, trips⟩ := passes
  have thorough : ∀ job ∈ sampleRound.jobs, job.epoch = some 5 → Thorough last.trips job :=
    fun job _ _ => ⟨fun record listed _ => (trips record listed).1,
      fun _ record listed _ => (trips record listed).2⟩
  exact ⟨harvest, last, drain, ⟨settled, one⟩,
    (retired_epoch_drained sampleFleet sampleRound oneBlob drain thorough).1 settled
      ⟨none, some 5, ["mailbox", "letterbox"]⟩ (by simp [sampleRound]) rfl "mailbox" (by simp)⟩

/-- A relay that predates the request for several handles at once. -/
def olderFleet : Fleet := { sampleFleet with old := fun _ => true }

/--
An epoch can be retired with mail still under one of its handles.

The relay predates the request for several handles, so each is taken by itself: the empty one is
answered, the one with the mail is not, and the job counts as drained.
-/
theorem retired_epoch_holds_mail : ∃ harvest last,
    Runs olderFleet.Serves
      (drainRelayMailboxes olderFleet.cfg.b64 ⟨[⟨none, some 5, ["letterbox", "mailbox"]⟩], some 5⟩)
      ⟨oneBlob, []⟩ harvest last
    ∧ harvest.settled = some 5
    ∧ (∀ (X : Externals) (p : Poller X),
      (p.applyRelayHarvest harvest).prevEpochDrained = some 5)
    ∧ ∃ s ∈ (last.store olderFleet none).queue "mailbox", sampleAmbient.now < s.expiry
      ∧ s ∈ (run olderFleet.cfg .empty (oneBlob none)).queue "mailbox" := by
  have played : (play olderFleet
      (drainRelayMailboxes olderFleet.cfg.b64
        ⟨[⟨none, some 5, ["letterbox", "mailbox"]⟩], some 5⟩)
      ⟨oneBlob, []⟩ [.made sampleAmbient .heard, .made sampleAmbient .heard, .unsent]).any
        (fun ended => ended.1.settled == some 5
          && ((ended.2.store olderFleet none).queue "mailbox").any (fun s =>
            sampleAmbient.now < s.expiry
              && (run olderFleet.cfg .empty (oneBlob none)).queue "mailbox" == [s])) = true := by
    decide +kernel
  obtain ⟨harvest, last, drain, passes⟩ := runs_of_any played
  simp only [Bool.and_eq_true, beq_iff_eq, List.any_eq_true, decide_eq_true_eq] at passes
  obtain ⟨settled, s, queued, live, before⟩ := passes
  exact ⟨harvest, last, drain, settled,
    fun X p => by simp [Poller.applyRelayHarvest, settled], s, queued, live, by simp [before]⟩

end Nightdrop
