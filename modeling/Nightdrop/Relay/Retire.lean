import Nightdrop.Relay.Fleet

/-! One drain round against a fleet of relays: its round trips, and what happens between them. -/

namespace Nightdrop.Relay

/-- The budget left after every one of these blobs went in; `none` when one of them did not. -/
def TakeBudget.admitAll (budget : TakeBudget) : List Nat → Option TakeBudget
  | [] => some budget
  | len :: lens =>
    match budget.admit len with
    | (true, budget) => budget.admitAll lens
    | (false, _) => none

/-- The lengths of the live blobs under some handles, in the order a drain meets them. -/
def liveLengths (now : Nanos) (inner : StoreInner) (handles : List Handle) : List Nat :=
  handles.flatMap (fun handle =>
    ((inner.queue handle).filter (fun s => s.expiry > now)).map (fun s => s.bytes.length))

/-- One round trip of a drain, and what became of it. -/
structure TripRecord where
  query : Query
  /-- The store it was processed against, with the clock; `none` when it never was. -/
  served : Option (StoreInner × Ambient)
  reply : Reply

/-- Whether one response had room for all that was live under the handles it drained. -/
def TripRecord.hasRoom (record : TripRecord) : Bool :=
  record.served.all (fun served =>
    (TakeBudget.default.admitAll
      (liveLengths served.2.now served.1 record.query.req.drains)).isSome)

/-- Whether a round trip is the take of one handle of a job. -/
def TripRecord.TakesOf (record : TripRecord) (job : DrainJob) : Prop :=
  ∃ handle ∈ job.handles, record.query = ⟨job.addr, .take handle⟩

/-- Whether a round trip drains handles of a job. -/
def TripRecord.Concerns (record : TripRecord) (job : DrainJob) : Prop :=
  record.TakesOf job ∨ record.query = ⟨job.addr, .takeMany job.handles⟩

/-- The relays' histories in the course of a drain, and its round trips so far. -/
structure Course where
  log : Addr → List Event
  trips : List TripRecord

/-- The store of one relay at this point of the course. -/
def Course.store (fleet : Fleet) (course : Course) (addr : Addr) : StoreInner :=
  run fleet.cfg .empty (course.log addr)

/-- The relays after whatever anyone asked of them in between. -/
def Course.pass (course : Course) (between : Addr → List Event) : Course :=
  { course with log := fun addr => course.log addr ++ between addr }

/-- What can become of a request of the drain. -/
inductive Fleet.Serves (fleet : Fleet) (query : Query) (course : Course) : Reply → Course → Prop where
  /-- It never reaches the relay. -/
  | unsent (between : Addr → List Event) :
      Serves fleet query course none
        { course.pass between with trips := course.trips ++ [⟨query, none, none⟩] }
  /-- The relay is too old to know it. -/
  | unknown (between : Addr → List Event) (amb : Ambient) (fate : Trip)
      (older : fleet.unknown query = true) :
      Serves fleet query course
        (fate.hear (fleet.answer { World.start with log := (course.pass between).log } query amb))
        { course.pass between with
          trips := course.trips ++ [⟨query, none,
            fate.hear (fleet.answer
              { World.start with log := (course.pass between).log } query amb)⟩] }
  /-- The relay processes it, and its answer arrives, changed or not, or is lost. -/
  | trip (between : Addr → List Event) (amb : Ambient) (fate : Trip)
      (known : fleet.unknown query = false) :
      Serves fleet query course
        (fate.hear (fleet.answer { World.start with log := (course.pass between).log } query amb))
        { log := World.after { World.start with log := (course.pass between).log } query.addr
            (.request amb query.req)
          trips := course.trips ++ [⟨query,
            some ((course.pass between).store fleet query.addr, amb),
            fate.hear (fleet.answer
              { World.start with log := (course.pass between).log } query amb)⟩] }

/--
Whether what a queue holds was all accepted since the relays' histories were `began`.

Then nothing that was queued by then is still there.
-/
def Course.OnlyNew (fleet : Fleet) (began : Addr → List Event) (course : Course) (addr : Addr)
    (handle : Handle) : Prop :=
  ∃ since, course.log addr = began addr ++ since
    ∧ ((course.store fleet addr).queue handle).Sublist
      (accepted fleet.cfg handle (run fleet.cfg .empty (began addr)) since)

/-- Whether the round trips of a drain leave no handle of a job out. -/
structure Thorough (trips : List TripRecord) (job : DrainJob) : Prop where
  /-- Each response has room for all that is live under the handles it drains. -/
  room : ∀ record ∈ trips, record.Concerns job → record.hasRoom = true
  /-- Where the handles are taken one by one, none fails to be taken while another is answered. -/
  together : (∃ record ∈ trips, record.TakesOf job ∧ record.reply.isSome = true) →
    ∀ record ∈ trips, record.TakesOf job → record.served.isSome = true

end Nightdrop.Relay
