import Nightdrop.Proofs.Relay.Accounting
import Nightdrop.Proofs.Relay.Client
import Nightdrop.Proofs.Relay.Conservation

/-! Conservation of mail across clients and relays, and the one failure that loses it. -/

namespace Nightdrop.Relay

open Ledger

/-- The drained entries of one handle on one relay. -/
def under (addr : Addr) (handle : Handle) (parcels : List Parcel) : List Stored :=
  (parcels.filter (fun parcel => parcel.1 = addr ∧ parcel.2.1 = handle)).map (fun parcel => parcel.2.2)

@[simp] theorem under_nil (addr : Addr) (handle : Handle) : under addr handle [] = [] := rfl

@[simp] theorem under_append (addr : Addr) (handle : Handle) (left right : List Parcel) :
    under addr handle (left ++ right) = under addr handle left ++ under addr handle right := by
  simp [under]

/-- Entries tagged with one relay and one handle are read back under these alone. -/
theorem under_tag (addr source : Addr) (handle target : Handle) (queue : List Stored) :
    under addr handle (queue.map (fun s => (source, target, s)))
      = if source = addr ∧ target = handle then queue else [] := by
  induction queue with
  | nil => simp
  | cons s rest ih =>
    simp only [under] at ih ⊢
    by_cases here : source = addr ∧ target = handle
    · simpa [here] using ih
    · simpa [here] using ih

/-- Tagging drained parts and reading one handle back gives that handle's part. -/
theorem under_tagged (addr source : Addr) (handle : Handle) (parts : List (Handle × List Stored)) :
    under addr handle (parts.flatMap (fun part => part.2.map (fun s => (source, part.1, s))))
      = if source = addr then partsOf handle parts else [] := by
  induction parts with
  | nil => simp [partsOf]
  | cons part rest ih =>
    simp only [List.flatMap_cons, under_append, ih, under_tag]
    by_cases here : source = addr <;> by_cases same : part.1 = handle <;>
      simp [partsOf, here, same]

variable {fleet : Fleet} {world : World} {query : Query} {amb : Ambient}

/-- The drained entries without their tags. -/
theorem drains_entries : (fleet.drains world query amb).map (fun parcel => parcel.2.2)
    = if fleet.unknown query then []
      else (drainParts (world.store fleet query.addr) (.request amb query.req)).flatMap Prod.snd := by
  by_cases unknown : fleet.unknown query = true
  · simp [Fleet.drains, unknown]
  · simp [Fleet.drains, unknown, List.map_flatMap, Function.comp_def]

/-- A relay that does not answer has drained nothing. -/
theorem unanswered_drains (unanswered : fleet.answer world query amb = none) :
    fleet.drains world query amb = [] := by
  have solvent : Solvent (world.store fleet query.addr) :=
    run_solvent fleet.cfg solvent_empty (world.log query.addr)
  by_cases unknown : fleet.unknown query = true
  · simp [Fleet.drains, unknown]
  simp only [Fleet.answer, unknown] at unanswered
  by_cases reads : query.req.onlyReads = true
  · exact absurd unanswered (process_drains fleet.cfg solvent amb query.req reads).1
  · cases asked : query.req with
    | post | recallBlob => simp [Fleet.drains, unknown, asked, drainParts, Request.drains, drainAll]
    | _ => simp [asked, Request.onlyReads] at reads

/-- A relay's answer carries what it drained, and a refusal drained nothing. -/
theorem answered_carries {answer : Response × RelayEvent}
    (answered : fleet.answer world query amb = some answer) :
    Carries fleet.cfg.b64 query.req
        ((fleet.drains world query amb).map (fun parcel => parcel.2.2)) answer.1
      ∧ (answer.1.ok = false → fleet.drains world query amb = []) := by
  have solvent : Solvent (world.store fleet query.addr) :=
    run_solvent fleet.cfg solvent_empty (world.log query.addr)
  rw [drains_entries]
  by_cases unknown : fleet.unknown query = true
  · simp only [Fleet.answer, unknown, if_true, Option.some.injEq] at answered
    subst answered
    refine ⟨?_, fun _ => by simp [Fleet.drains, unknown]⟩
    cases asked : query.req <;> simp [unknown, Carries, Response.err, Response.default]
  · simp only [Fleet.answer, unknown] at answered
    refine ⟨by simpa [unknown] using process_carries solvent amb query.req answered,
      fun refused => ?_⟩
    simp [Fleet.drains, unknown, process_refused solvent amb query.req answered refused]

/-- Replacing a blob of an answer that carries nothing changes nothing. -/
theorem garbled_carries {b64 : Base64} {req : Request} {response : Response} {index : Nat}
    {blob : String} (empty : Carries b64 req [] response) :
    Carries b64 req [] { response with
      blobs := response.blobs.set index blob
      items := response.items.modify index (fun item => (item.1, blob)) } := by
  have nothing : response.blobs = [] ∧ response.items = [] := by
    cases req <;> simp_all [Carries]
  cases req <;> simp [Carries, nothing]

/-- The answer to a processed request keeps its mail unless it is lost with something in it. -/
theorem fleet_answers {fate : Trip} (keeps : KeepsAnswer fleet world (.trip query amb fate)) (got : List Parcel) :
    Answers fleet.cfg.b64 query got (fate.hear (fleet.answer world query amb))
      (got ++ fleet.drains world query amb) := by
  refine ⟨fleet.drains world query amb, rfl, ?_⟩
  rcases keeps with whole | nothing
  · -- The answer is heard as it was sent.
    rw [whole]
    cases answered : fleet.answer world query amb with
    | none => exact unanswered_drains answered
    | some answer => exact answered_carries answered
  · rw [nothing]
    cases answered : fleet.answer world query amb with
    | none => cases fate <;> rfl
    | some answer =>
      have carried := answered_carries answered
      rw [nothing] at carried
      cases fate with
      | heard => exact carried
      | lost => rfl
      | garbled index blob => exact ⟨garbled_carries carried.1, fun _ => rfl⟩

/-- Every entry a relay drained was handed over, or is in the pocket of a call in flight. -/
structure Conserves (fleet : Fleet) (world : World) : Prop where
  handed : world.handed = bytesOf world.credited
  calls : ∀ session ∈ world.sessions, session.call.Meets (Answers fleet.cfg.b64)
    (fun got result => bytesOf got = result.toOption.getD []) session.got
  drained : ∀ addr handle, (drained fleet.cfg handle .empty (world.log addr)).Perm
    (under addr handle (world.credited ++ world.sessions.flatMap Session.got))

theorem conserves_start (fleet : Fleet) : Conserves fleet .start where
  handed := rfl
  calls := by simp [World.start]
  drained addr handle := by simp [World.start, Relay.drained]

/-- A critical section that drains nothing takes nothing from any handle. -/
theorem drainedBy_plain {inner : StoreInner} {handle : Handle} {event : Event}
    (plain : event.drainsNothing) : drainedBy inner handle event = [] := by
  cases event with
  | reap now => rfl
  | request amb req =>
    have none : req.drains = [] := plain
    simp [drainedBy, drainParts, none, drainAll, partsOf]

/-- What one more critical section at one relay adds to what was drained. -/
theorem drained_after (fleet : Fleet) (world : World) (addr other : Addr) (handle : Handle)
    (event : Event) :
    drained fleet.cfg handle .empty (world.after addr event other)
      = drained fleet.cfg handle .empty (world.log other)
        ++ if addr = other then drainedBy (world.store fleet addr) handle event else [] := by
  by_cases here : other = addr
  · subst here
    simp [World.after, drained_append, World.store]
  · simp [World.after, here, Ne.symm here]

/-- One step of the world loses nothing, unless an answer is lost with mail in it. -/
theorem step_conserves
    (lawful : ∀ bytes, fleet.cfg.b64.decode (fleet.cfg.b64.encode bytes) = some bytes)
    {left : World} {label : Label} (conserves : Conserves fleet world)
    (keeps : KeepsAnswer fleet world label) (step : WorldStep fleet world label left) :
    Conserves fleet left := by
  cases step with
  | relay addr event plain =>
    exact {
      handed := conserves.handed
      calls := conserves.calls
      drained := fun other handle => by
        rw [drained_after, drainedBy_plain plain]
        simpa using conserves.drained other handle }
  | start drain =>
    exact {
      handed := conserves.handed
      calls := fun session member => by
        rcases List.mem_append.mp member with old | new
        · exact conserves.calls session old
        · rw [List.mem_singleton.mp new]
          exact call_meets lawful drain
      drained := fun addr handle => by simpa using conserves.drained addr handle }
  | unsent front back query next got here =>
    have pocket := conserves.drained
    have calls := conserves.calls
    rw [here] at calls
    simp only [here, List.flatMap_append, List.flatMap_cons] at pocket
    exact {
      handed := conserves.handed
      calls := fun session member => by
        rcases List.mem_append.mp member with old | new
        · exact calls session (by simp [old])
        · rcases List.mem_cons.mp new with rfl | old
          · -- A request that never arrived drained nothing for its call.
            exact (calls ⟨.ask query next, got⟩ (by simp)).reply ⟨[], by simp, rfl⟩
          · exact calls session (by simp [old])
      drained := fun addr handle => by simpa using pocket addr handle }
  | trip front back query next got amb fate here =>
    have pocket := conserves.drained
    have calls := conserves.calls
    rw [here] at calls
    simp only [here, List.flatMap_append, List.flatMap_cons] at pocket
    exact {
      handed := conserves.handed
      calls := fun session member => by
        rcases List.mem_append.mp member with old | new
        · exact calls session (by simp [old])
        · rcases List.mem_cons.mp new with rfl | old
          · exact (calls ⟨.ask query next, got⟩ (by simp)).reply (fleet_answers keeps got)
          · exact calls session (by simp [old])
      drained := fun addr handle => by
        have before := pocket addr handle
        have more : drained fleet.cfg handle .empty
            ((if fleet.unknown query then world.log
              else world.after query.addr (.request amb query.req)) addr)
            = drained fleet.cfg handle .empty (world.log addr)
              ++ under addr handle (fleet.drains world query amb) := by
          by_cases unknown : fleet.unknown query = true
          · simp [unknown, Fleet.drains]
          · simp only [unknown, if_false, Bool.false_eq_true, drained_after, Fleet.drains,
              under_tagged]
            rfl
        rw [more]
        refine List.perm_iff_count.mpr (fun s => ?_)
        have counted := List.perm_iff_count.mp before s
        simp only [under_append, List.count_append, List.flatMap_append, List.flatMap_cons]
          at counted ⊢
        omega }
  | finish front back result got here =>
    have pocket := conserves.drained
    have calls := conserves.calls
    rw [here] at calls
    simp only [here, List.flatMap_append, List.flatMap_cons] at pocket
    have ended : bytesOf got = result.toOption.getD [] := calls ⟨.done result, got⟩ (by simp)
    exact {
      handed := by simp [conserves.handed, ended]
      calls := fun session member => calls session (by
        rcases List.mem_append.mp member with old | old <;> simp [old])
      drained := fun addr handle => by
        refine (pocket addr handle).trans (List.perm_iff_count.mpr (fun s => ?_))
        simp only [under_append, List.count_append, List.flatMap_append]
        omega }

/-- One step that keeps what it drains. -/
def KeptStep (fleet : Fleet) (world : World) (label : Label) (left : World) : Prop :=
  KeepsAnswer fleet world label ∧ WorldStep fleet world label left

/-- Every world reached while no answer is lost with mail in it conserves the mail. -/
theorem run_conserves
    (lawful : ∀ bytes, fleet.cfg.b64.decode (fleet.cfg.b64.encode bytes) = some bytes)
    (reached : Reach .start (KeptStep fleet) world) : Conserves fleet world :=
  reached.invariant (conserves_start fleet) (fun _ _ _ _ conserves step =>
    step_conserves lawful conserves step.1 step.2)

/-- A take asks once and then ends, with an error if it hears nothing. -/
theorem take_asks (b64 : Base64) (addr : Addr) (handle : Handle) :
    ∃ next, take b64 addr handle = .ask ⟨addr, .take handle⟩ next
      ∧ next none = .done (.error .roundTrip)
      ∧ ∀ reply, ∃ result, next reply = .done result := by
  refine ⟨_, rfl, rfl, fun reply => ?_⟩
  cases reply with
  | none => exact ⟨_, rfl⟩
  | some response =>
    cases ok : response.ok with
    | false => exact ⟨.error (.refused "take" response.error), by simp [ok, Ask.bind]⟩
    | true => exact ⟨decodeAll b64 response.blobs, by simp [ok, Ask.bind]⟩

/-- A take whose answer arrives is one more critical section in its relay's history. -/
theorem take_round (fleet : Fleet) {world : World} (idle : world.sessions = []) (addr : Addr)
    (handle : Handle) (amb : Ambient) :
    ∃ left, Reach world (KeptStep fleet) left ∧ left.sessions = []
      ∧ left.log = world.after addr (.request amb (.take handle)) := by
  obtain ⟨next, asks, _, ends⟩ := take_asks fleet.cfg.b64 addr handle
  have known : fleet.unknown ⟨addr, .take handle⟩ = false := by simp [Fleet.unknown]
  -- The call starts, its request is processed and heard, and it ends.
  let calling : World := { world with sessions := [⟨.ask ⟨addr, .take handle⟩ next, []⟩] }
  have started : WorldStep fleet world (.start (.take addr handle)) calling := by
    have step : WorldStep fleet world (.start (.take addr handle)) _ := .start (.take addr handle)
    rw [idle, Drain.call, asks] at step
    exact step
  have heard : WorldStep fleet calling (.trip ⟨addr, .take handle⟩ amb .heard) _ :=
    .trip [] [] ⟨addr, .take handle⟩ next [] amb .heard rfl
  obtain ⟨result, ended⟩ :=
    ends (Trip.heard.hear (fleet.answer calling ⟨addr, .take handle⟩ amb))
  rw [ended, known] at heard
  have kept : KeepsAnswer fleet calling (.trip ⟨addr, .take handle⟩ amb .heard) := .inl rfl
  have calls : Reach world (KeptStep fleet) calling := .step (.start (.take addr handle)) .start ⟨trivial, started⟩
  exact ⟨_, .step .finish (calls.step _ ⟨kept, heard⟩) ⟨trivial, .finish [] [] result _ rfl⟩,
    rfl, rfl⟩

/-- As many answered takes as a queue is long empty it. -/
theorem takes_rounds (fleet : Fleet) (addr : Addr) (handle : Handle) (clocks : List Ambient) :
    ∀ {world : World}, world.sessions = [] →
      ∃ left, Reach world (KeptStep fleet) left ∧ left.sessions = []
        ∧ left.log addr
          = world.log addr ++ clocks.map (fun amb => .request amb (.take handle)) := by
  induction clocks with
  | nil => exact fun {world} idle => ⟨world, .start, idle, by simp⟩
  | cons amb clocks ih =>
    intro world idle
    obtain ⟨mid, first, midIdle, logged⟩ := take_round fleet idle addr handle amb
    obtain ⟨left, rest, leftIdle, more⟩ := ih midIdle
    exact ⟨left, first.trans rest, leftIdle, by simp [more, logged, World.after]⟩

/-- What the readers of one handle on one relay can rely on. -/
structure NothingLost (fleet : Fleet) (world : World) (addr : Addr) (handle : Handle) : Prop where
  /-- What the relay drained is what it accepted, less what was recalled or ran out. -/
  explained : Explains (fun s => ∃ event ∈ world.log addr, event.Recalls handle s)
    (fun s => ∃ event ∈ world.log addr, s.expiry ≤ event.now)
    (accepted fleet.cfg handle .empty (world.log addr))
    (drained fleet.cfg handle .empty (world.log addr)) ((world.store fleet addr).queue handle)
  /-- All of it was handed over, or is with a call in flight. -/
  handed : world.handed = bytesOf world.credited ∧
    (drained fleet.cfg handle .empty (world.log addr)).Perm
      (under addr handle (world.credited ++ world.sessions.flatMap Session.got))
  /-- A call that ends with an error has removed nothing from any relay. -/
  failed : ∀ session ∈ world.sessions, ∀ e, session.call = .done (.error e) → session.got = []
  /-- Once the calls are over and the queue is empty, every live entry has been handed over. -/
  delivered : world.sessions = [] → (world.store fleet addr).queue handle = [] →
    ∀ s ∈ accepted fleet.cfg handle .empty (world.log addr),
      (∃ event ∈ world.log addr, event.Recalls handle s)
        ∨ (∃ event ∈ world.log addr, s.expiry ≤ event.now) ∨ s.bytes ∈ world.handed
  /-- As many takes as the queue is long, each answered, get there. -/
  eventually : world.sessions = [] → ∀ clocks : List Ambient,
    ((world.store fleet addr).queue handle).length ≤ clocks.length →
    ∃ left, Reach world (KeptStep fleet) left ∧ left.sessions = []
      ∧ left.log addr = world.log addr ++ clocks.map (fun amb => .request amb (.take handle))
      ∧ (left.store fleet addr).queue handle = []

/-- Where no answer is lost with mail in it, draining loses nothing on any relay. -/
theorem relays_lose_nothing
    (lawful : ∀ bytes, fleet.cfg.b64.decode (fleet.cfg.b64.encode bytes) = some bytes)
    (reached : Reach .start (KeptStep fleet) world) (addr : Addr) (handle : Handle) :
    NothingLost fleet world addr handle := by
  have conserves := run_conserves lawful reached
  have explained := (relay_endToEnd fleet.cfg (world.log addr) handle).explained
  have handed := conserves.drained addr handle
  exact {
    explained := explained
    handed := ⟨conserves.handed, handed⟩
    failed := fun session member e ended => by
      have meets := conserves.calls session member
      rw [ended] at meets
      simpa [bytesOf, Except.toOption] using meets
    delivered := fun idle empty s member => by
      obtain ⟨ledger, kept, served, waiting, _, taken, dropped⟩ := explained
      rw [← kept] at member
      obtain ⟨⟨item, fate⟩, listed, rfl⟩ := List.mem_map.mp member
      have marked : item ∈ having fate ledger :=
        List.mem_map.mpr ⟨(item, fate), List.mem_filter.mpr ⟨listed, by simp⟩, rfl⟩
      cases fate with
      | waiting =>
        rw [waiting] at marked
        simp [show run fleet.cfg .empty (world.log addr) = world.store fleet addr from rfl, empty]
          at marked
      | withdrawn => exact .inl (taken item listed)
      | lapsed => exact .inr (.inl (dropped item listed))
      | served =>
        rw [served, handed.mem_iff, idle] at marked
        simp only [List.flatMap_nil, List.append_nil, under, List.mem_map, List.mem_filter]
          at marked
        obtain ⟨parcel, ⟨credited, _⟩, rfl⟩ := marked
        exact .inr (.inr (conserves.handed ▸ List.mem_map.mpr ⟨parcel, credited, rfl⟩))
    eventually := fun idle clocks short => by
      obtain ⟨left, rest, leftIdle, more⟩ := takes_rounds fleet addr handle clocks idle
      refine ⟨left, rest, leftIdle, more, ?_⟩
      have emptied := (relay_endToEnd fleet.cfg (world.log addr) handle).finite clocks short
      simpa [World.store, more, run_append] using emptied }

/-- A relay with the default limits, and nothing that predates it. -/
def sampleFleet : Fleet where
  cfg := { unboundedTtl with limits := .default }
  old := fun _ => false
  parseError := "expected value"

def samplePost : Event := .request sampleAmbient (.post "mailbox" "AAAA" 60)

/-- Nothing is lost in a run that has posted and not drained yet. -/
theorem relays_lose_nothing_posted :
    NothingLost sampleFleet { World.start with log := World.start.after none samplePost }
      none "mailbox" :=
  relays_lose_nothing Base64.decode_encode
    (.step (.relay none samplePost) .start ⟨trivial, .relay none samplePost rfl⟩) none "mailbox"

/-- The history of a relay that was posted to and then asked to hand the mail out. -/
def sampleHistory : List Event := [samplePost, .request sampleAmbient (.take "mailbox")]

/-- A take that returns an error because its answer was lost has removed the mail for good. -/
theorem lost_answer_loses_mail :
    ∃ world, Reach .start (WorldStep sampleFleet) world ∧ world.log none = sampleHistory
      ∧ world.sessions = [] ∧ world.handed = []
      ∧ (world.store sampleFleet none).queue "mailbox" = []
      ∧ ∃ s ∈ accepted sampleFleet.cfg "mailbox" .empty (world.log none),
        ∀ event ∈ world.log none, ¬ event.Recalls "mailbox" s ∧ event.now < s.expiry := by
  let posted : World := { World.start with log := World.start.after none samplePost }
  have first : Reach .start (WorldStep sampleFleet) posted :=
    .step (.relay none samplePost) .start (.relay none samplePost rfl)
  obtain ⟨next, asks, failed, _⟩ := take_asks sampleFleet.cfg.b64 none "mailbox"
  let calling : World := { posted with sessions := [⟨.ask ⟨none, .take "mailbox"⟩ next, []⟩] }
  have started : WorldStep sampleFleet posted (.start (.take none "mailbox")) calling := by
    have step : WorldStep sampleFleet posted (.start (.take none "mailbox")) _ :=
      .start (.take none "mailbox")
    rw [Drain.call, asks] at step
    exact step
  -- The relay processes the take, and its answer is lost on the way back.
  have lost : WorldStep sampleFleet calling (.trip ⟨none, .take "mailbox"⟩ sampleAmbient .lost) _ :=
    .trip [] [] ⟨none, .take "mailbox"⟩ next [] sampleAmbient .lost rfl
  rw [Trip.hear, failed] at lost
  have emptied : (run sampleFleet.cfg .empty sampleHistory).queue "mailbox" = [] := by
    decide +kernel
  have stored : storedOf sampleFleet.cfg sampleAmbient [0, 0, 0] 522 60
      ∈ accepted sampleFleet.cfg "mailbox" .empty sampleHistory := by
    decide +kernel
  refine ⟨_, .step .finish (.step _ (.step _ first started) lost)
    (.finish [] [] (.error .roundTrip) _ rfl), rfl, rfl, rfl, emptied, _, stored, ?_⟩
  intro event member
  rcases List.mem_pair.mp member with rfl | rfl
  · exact ⟨by rintro ⟨amb, same⟩; simp [samplePost] at same, by decide⟩
  · exact ⟨by rintro ⟨amb, same⟩; simp at same, by decide⟩

end Nightdrop.Relay
