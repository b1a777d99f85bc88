import Nightdrop.Proofs.Relay.Run

/-! Conservation of mail: what a relay's readers can rely on in any run, end to end. -/

namespace Nightdrop.Relay

open Ledger

/-- A post carries the ledger of every handle on: an accepted entry waits at the back. -/
theorem post_explains {cfg : Config} {withdrawn lapsed : Stored → Prop} {inner : StoreInner}
    {handle target : Handle} {amb : Ambient} {blob : String} {ttlSecs : Nat}
    {accepted served : List Stored}
    (explained : Explains withdrawn lapsed accepted served (inner.queue handle)) :
    Explains withdrawn lapsed
      (accepted ++ acceptedBy cfg inner handle (.request amb (.post target blob ttlSecs))) served
      ((post cfg amb target blob ttlSecs inner).store.queue handle) := by
  rcases post_cases cfg amb target blob ttlSecs inner with
    ⟨response, event, refused, notOk⟩ | panicked | ⟨bytes, _, _, _, _, panicked⟩
    | ⟨bytes, response, event, decoded, _, _, _, ok, stored⟩
  · -- A refused post accepts nothing and leaves the store alone.
    have nothing : acceptedBy cfg inner handle (.request amb (.post target blob ttlSecs)) = [] := by
      simp only [acceptedBy, refused, Handled.answer]
      split <;> try rfl
      split <;> simp_all
    simpa [nothing, refused, Handled.answer] using explained
  · simpa [acceptedBy, panicked, Handled.panicked] using explained
  · simpa [acceptedBy, panicked, Handled.panicked, queue_overcharged] using explained
  · rw [stored]
    by_cases same : handle = target
    · subst same
      simpa [acceptedBy, stored, Handled.answer, decoded, ok, queue_posted, costOf] using
        explained.accept [storedOf cfg amb bytes (costOf cfg handle bytes.length) ttlSecs]
    · simpa [acceptedBy, Ne.symm same, Handled.answer, queue_posted, same] using explained

/-- One critical section carries the ledger of every handle on. -/
theorem step_explains (cfg : Config) {withdrawn lapsed : Stored → Prop} {inner : StoreInner}
    (solvent : Solvent inner) (handle : Handle) (event : Event)
    (taken : ∀ s : Stored, event.Recalls handle s → withdrawn s)
    (ranOut : ∀ s : Stored, s.expiry ≤ event.now → lapsed s) {accepted served : List Stored}
    (explained : Explains withdrawn lapsed accepted served (inner.queue handle)) :
    Explains withdrawn lapsed (accepted ++ acceptedBy cfg inner handle event)
      (served ++ drainedBy inner handle event) ((step cfg inner event).queue handle) := by
  cases event with
  | reap now =>
    have left := (reap_spec solvent now).2.2 handle
    simp only [acceptedBy, drainedBy, drainParts, partsOf, List.append_nil, List.filter_nil,
      List.flatMap_nil, step, left]
    exact explained.lapse (fun s gone => ranOut s (by simpa [Event.now] using gone))
  | request amb req =>
    by_cases reads : req.onlyReads = true
    · obtain ⟨parts, left, drained, _, _⟩ := drainAll_spec amb.now req.drains .default solvent
      have none : acceptedBy cfg inner handle (.request amb req) = [] := by
        cases req with
        | post => simp [Request.onlyReads] at reads
        | _ => rfl
      have store := (process_drains cfg solvent amb req reads).2
      simpa [none, step, store, drainedBy, drainParts, drained] using
        drainAll_explains amb.now ranOut handle req.drains .default solvent explained drained
    cases req with
    | fetch | take | takeMany | peek | getDirectory => exact absurd rfl reads
    | post target blob ttlSecs =>
      simpa [drainedBy, drainParts, Request.drains, drainAll, partsOf, step, process] using
        post_explains explained
    | recallBlob target msgId deleteToken =>
      obtain ⟨removed, left, recalled, _, queues⟩ :=
        recallHits_spec solvent target msgId deleteToken
      have store : (step cfg inner (.request amb (.recallBlob target msgId deleteToken))) = left := by
        simp [step, process, recallBlob, recalled, Handled.answer]
      simp only [store, queues, acceptedBy, drainedBy, drainParts, Request.drains, drainAll, partsOf,
        Option.getD_some, List.filter_nil, List.flatMap_nil, List.append_nil]
      by_cases same : handle = target
      · subst same
        simp only [if_true]
        refine explained.withdraw (fun s hit => taken s ⟨amb, ?_⟩)
        obtain ⟨rfl, rfl⟩ : s.msgId = msgId ∧ s.deleteToken = deleteToken := by
          simpa [recallHit] using hit
        rfl
      · simpa [same] using explained

/-- A whole run carries the ledger of every handle on. -/
theorem run_explains (cfg : Config) {withdrawn lapsed : Stored → Prop} (handle : Handle)
    (events : List Event) :
    ∀ {inner : StoreInner} {before served : List Stored}, Solvent inner →
      (∀ event ∈ events, ∀ s : Stored, event.Recalls handle s → withdrawn s) →
      (∀ event ∈ events, ∀ s : Stored, s.expiry ≤ event.now → lapsed s) →
      Explains withdrawn lapsed before served (inner.queue handle) →
      Explains withdrawn lapsed (before ++ accepted cfg handle inner events)
        (served ++ drained cfg handle inner events) ((run cfg inner events).queue handle) := by
  induction events with
  | nil =>
    intro inner before served _ _ _ explained
    simpa [accepted, drained, run] using explained
  | cons event events ih =>
    intro inner before served solvent taken ranOut explained
    have carried := step_explains cfg solvent handle event (taken event (by simp))
      (ranOut event (by simp)) explained
    simpa [accepted, drained, run, List.append_assoc] using
      ih (step_solvent cfg solvent event) (fun e member => taken e (by simp [member]))
        (fun e member => ranOut e (by simp [member])) carried

/-- A take decides the queue under its handle with a fresh budget. -/
theorem take_spec (cfg : Config) {inner : StoreInner} (solvent : Solvent inner) (amb : Ambient)
    (handle : Handle) :
    (step cfg inner (.request amb (.take handle))).queue handle
        = (drainLoop amb.now (inner.queue handle) .default).rest
      ∧ ∃ event, (process cfg amb (.take handle) inner).reply = some
        ({ Response.justOk with
            blobs := (drainLoop amb.now (inner.queue handle) .default).taken.map
              (fun s => cfg.b64.encode s.bytes) }, event) := by
  obtain ⟨left, drained, queues, _⟩ := drainHandleBounded_spec solvent handle .default amb.now
  refine ⟨?_, _, by simp only [process, drained]; rfl⟩
  simpa [step, process, drained, Handled.answer] using queues handle

/-- As many takes as the queue is long leave it empty, whatever the clocks say. -/
theorem takes_empty (cfg : Config) (handle : Handle) (clocks : List Ambient) :
    ∀ {inner : StoreInner}, Solvent inner → (inner.queue handle).length ≤ clocks.length →
      (run cfg inner (clocks.map (fun amb => .request amb (.take handle)))).queue handle = [] := by
  induction clocks with
  | nil =>
    intro inner _ short
    exact List.length_eq_zero_iff.mp (Nat.le_zero.mp short)
  | cons amb clocks ih =>
    intro inner solvent short
    refine ih (step_solvent cfg solvent _) ?_
    rw [(take_spec cfg solvent amb handle).1]
    -- One take shortens the queue unless there was nothing in it.
    cases queued : inner.queue handle with
    | nil => simp [drainLoop]
    | cons head rest =>
      have shorter : (drainLoop amb.now (head :: rest) .default).rest.length ≤ rest.length :=
        drainLoop_shortens rfl
      rw [queued] at short
      exact shorter.trans (Nat.le_of_succ_le_succ short)

/-- A request that starts with a handle holding live mail takes some of it. -/
theorem starts_takes {inner : StoreInner} (solvent : Solvent inner) {amb : Ambient}
    {req : Request} {handle : Handle} (starts : req.drains.head? = some handle) {s : Stored}
    (queued : s ∈ inner.queue handle) (live : amb.now < s.expiry) :
    drainedBy inner handle (.request amb req) ≠ [] := by
  obtain ⟨rest, drains⟩ : ∃ rest, req.drains = handle :: rest := by
    cases listed : req.drains with
    | nil => simp [listed] at starts
    | cons first rest =>
      rw [listed, List.head?_cons, Option.some.injEq] at starts
      exact ⟨rest, by rw [starts]⟩
  obtain ⟨left, drainedHead, _, shrunk⟩ :=
    drainHandleBounded_spec solvent handle .default amb.now
  obtain ⟨others, last, drainedTail, _, _⟩ := drainAll_spec amb.now rest
    (drainLoop amb.now (inner.queue handle) .default).budget (shrunk.solvent solvent)
  intro nothing
  have taken : (drainLoop amb.now (inner.queue handle) .default).taken = [] := by
    simp only [drainedBy, drainParts, drains, drainAll, drainedHead, drainedTail, partsOf,
      Option.getD_some] at nothing
    simp only [decide_true, List.filter_cons_of_pos, List.flatMap_cons, List.append_eq_nil_iff]
      at nothing
    exact nothing.1
  have expired := (drainLoop_first rfl taken).2 s queued
  exact absurd live (Nat.not_lt.mpr expired)

/-- What the readers of one handle can rely on after a run of the relay. -/
structure EndToEnd (cfg : Config) (events : List Event) (handle : Handle) : Prop where
  /-- What was drained is, in post order, what was accepted and neither recalled nor expired. -/
  explained : Explains (fun s => ∃ event ∈ events, event.Recalls handle s)
    (fun s => ∃ event ∈ events, s.expiry ≤ event.now)
    (accepted cfg handle .empty events) (drained cfg handle .empty events)
    ((run cfg .empty events).queue handle)
  /-- A request answered next carries exactly what it took from the queues it names. -/
  carries : ∀ amb req response event,
    (process cfg amb req (run cfg .empty events)).reply = some (response, event) →
    Carries cfg.b64 req
      ((drainParts (run cfg .empty events) (.request amb req)).flatMap Prod.snd) response
  /-- A draining request is always answered. -/
  answered : ∀ amb req, req.onlyReads = true →
    (process cfg amb req (run cfg .empty events)).reply ≠ none
  /-- Nothing expired is ever returned. -/
  live : ∀ event, ∀ s ∈ drainedBy (run cfg .empty events) handle event, event.now < s.expiry
  /-- Nothing that a recall names stays queued behind it. -/
  recalled : ∀ event, ∀ s ∈ (step cfg (run cfg .empty events) event).queue handle,
    ¬ event.Recalls handle s
  /-- A request that starts with the handle returns some of the live mail under it. -/
  progress : ∀ amb req, req.drains.head? = some handle →
    (∃ s ∈ (run cfg .empty events).queue handle, amb.now < s.expiry) →
    drainedBy (run cfg .empty events) handle (.request amb req) ≠ []
  /-- A take that answers empty found and left nothing. -/
  emptied : ∀ amb response event,
    (process cfg amb (.take handle) (run cfg .empty events)).reply = some (response, event) →
    response.blobs = [] →
    (step cfg (run cfg .empty events) (.request amb (.take handle))).queue handle = []
  /-- As many takes as the queue is long drain it. -/
  finite : ∀ clocks : List Ambient,
    ((run cfg .empty events).queue handle).length ≤ clocks.length →
    (run cfg (run cfg .empty events)
      (clocks.map (fun amb => .request amb (.take handle)))).queue handle = []

/-- The relay conserves mail end to end, in every interleaving and under every configuration. -/
theorem relay_endToEnd (cfg : Config) (events : List Event) (handle : Handle) :
    EndToEnd cfg events handle where
  explained := by
    simpa using run_explains cfg handle events solvent_empty
      (fun event member s recalls => ⟨event, member, recalls⟩)
      (fun event member s past => ⟨event, member, past⟩)
      (Explains.start _ _)
  carries amb req response event answered :=
    process_carries (run_solvent cfg solvent_empty events) amb req answered
  answered amb req reads := (process_drains cfg (run_solvent cfg solvent_empty events) amb req reads).1
  live event s taken := by
    have solvent := run_solvent cfg solvent_empty events
    cases event with
    | reap now => simp [drainedBy, drainParts, partsOf] at taken
    | request amb req =>
      obtain ⟨parts, left, drained, _, _⟩ := drainAll_spec amb.now req.drains .default solvent
      simp only [drainedBy, drainParts, drained, Option.getD_some, partsOf, List.mem_flatMap,
        List.mem_filter] at taken
      obtain ⟨part, ⟨member, _⟩, inside⟩ := taken
      exact drainAll_live solvent drained part member s inside
  recalled event s queued := by
    rintro ⟨amb, rfl⟩
    obtain ⟨removed, left, recalled, _, queues⟩ := recallHits_spec
      (run_solvent cfg solvent_empty events) handle s.msgId s.deleteToken
    simp only [step, process, recallBlob, recalled, Handled.answer, queues, if_true] at queued
    simp [recallHit] at queued
  progress amb req starts waiting := by
    obtain ⟨s, queued, live⟩ := waiting
    exact starts_takes (run_solvent cfg solvent_empty events) starts queued live
  emptied amb response event answered empty := by
    obtain ⟨left, _, reply⟩ := take_spec cfg (run_solvent cfg solvent_empty events) amb handle
    rw [reply, Option.some.injEq, Prod.mk.injEq] at answered
    obtain ⟨rfl, _⟩ := answered
    rw [left]
    exact (drainLoop_first rfl (List.map_eq_nil_iff.mp empty)).1
  finite clocks short := takes_empty cfg handle clocks (run_solvent cfg solvent_empty events) short

end Nightdrop.Relay
