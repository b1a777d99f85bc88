import Nightdrop.Proofs.Relay.Process

/-! Laws of whole relay runs: each queue's ledger, and what its readers can rely on. -/

namespace Nightdrop.Relay

open Ledger

/-- The loop always takes the first live entry when the budget has not admitted one yet. -/
theorem drainLoop_first {now : Nanos} {queue : List Stored} {budget : TakeBudget}
    (first : budget.first = true) (none : (drainLoop now queue budget).taken = []) :
    (drainLoop now queue budget).rest = [] ∧ ∀ s ∈ queue, s.expiry ≤ now := by
  induction queue with
  | nil => exact ⟨rfl, by simp⟩
  | cons head rest ih =>
    by_cases expired : head.expiry ≤ now
    · simp only [drainLoop, expired, if_true] at none ⊢
      exact ⟨(ih none).1, by simpa [expired] using (ih none).2⟩
    · simp [drainLoop, expired, TakeBudget.admit, first] at none

/-- A fresh budget shortens every queue that holds something. -/
theorem drainLoop_shortens {now : Nanos} {head : Stored} {rest : List Stored}
    {budget : TakeBudget} (first : budget.first = true) :
    (drainLoop now (head :: rest) budget).rest.length ≤ rest.length := by
  by_cases expired : head.expiry ≤ now
  · simpa [drainLoop, expired] using (drainLoop_rest_suffix now rest budget).length_le
  · simpa [drainLoop, expired, TakeBudget.admit, first] using
      (drainLoop_rest_suffix now rest ⟨budget.room - head.bytes.length, false⟩).length_le

/-- What the loop takes is live. -/
theorem drainLoop_live {now : Nanos} {queue : List Stored} {budget : TakeBudget} {s : Stored}
    (taken : s ∈ (drainLoop now queue budget).taken) : now < s.expiry := by
  induction queue generalizing budget with
  | nil => simp [drainLoop] at taken
  | cons head rest ih =>
    by_cases expired : head.expiry ≤ now
    · exact ih (by simpa [drainLoop, expired] using taken)
    · simp only [drainLoop, expired, if_false] at taken
      rcases admitted : budget.admit head.bytes.length with ⟨fits, after⟩
      cases fits with
      | false => simp [admitted] at taken
      | true =>
        rcases List.mem_cons.mp (by simpa [admitted] using taken) with rfl | tail
        · exact Nat.lt_of_not_le expired
        · exact ih tail

/-- Everything a drain of several handles takes is live. -/
theorem drainAll_live {now : Nanos} {handles : List Handle} :
    ∀ {budget : TakeBudget} {inner left : StoreInner} {parts : List (Handle × List Stored)},
      Solvent inner → drainAll now handles budget inner = (some parts, left) →
      ∀ part ∈ parts, ∀ s ∈ part.2, now < s.expiry := by
  induction handles with
  | nil =>
    intro budget inner left parts _ drained
    simp only [drainAll, Prod.mk.injEq, Option.some.injEq] at drained
    obtain ⟨rfl, rfl⟩ := drained
    simp
  | cons target rest ih =>
    intro budget inner left parts solvent drained
    obtain ⟨mid, drainedHead, _, shrunk⟩ := drainHandleBounded_spec solvent target budget now
    obtain ⟨others, last, drainedTail, _, _⟩ := drainAll_spec now rest
      (drainLoop now (inner.queue target) budget).budget (shrunk.solvent solvent)
    simp only [drainAll, drainedHead, drainedTail, Prod.mk.injEq, Option.some.injEq] at drained
    obtain ⟨rfl, rfl⟩ := drained
    intro part member s taken
    rcases List.mem_cons.mp member with rfl | tail
    · exact drainLoop_live taken
    · exact ih (shrunk.solvent solvent) drainedTail part tail s taken

/-- A request that neither posts nor recalls only drains, and is always answered. -/
theorem process_drains (cfg : Config) {inner : StoreInner} (solvent : Solvent inner)
    (amb : Ambient) (req : Request) (reads : req.onlyReads = true) :
    (process cfg amb req inner).reply ≠ none ∧
      (process cfg amb req inner).store = (drainAll amb.now req.drains .default inner).2 := by
  cases req with
  | post | recallBlob => simp [Request.onlyReads] at reads
  | peek | getDirectory => exact ⟨by simp [process, Handled.answer], rfl⟩
  | fetch handle | take handle =>
    obtain ⟨left, drained, _, _⟩ := drainHandleBounded_spec solvent handle .default amb.now
    simp [process, Request.drains, drainAll, drained, Handled.answer]
  | takeMany handles =>
    by_cases tooMany : handles.length > MAX_TAKE_MANY
    · simp [process, Request.drains, tooMany, Handled.answer, drainAll]
    · obtain ⟨parts, left, drained, _, _⟩ := drainAll_spec amb.now handles .default solvent
      simp [process, Request.drains, tooMany, drained, Handled.answer]

/-- A response carries exactly the entries its request took. -/
theorem process_carries {cfg : Config} {inner : StoreInner} (solvent : Solvent inner)
    (amb : Ambient) (req : Request) {response : Response} {event : RelayEvent}
    (answered : (process cfg amb req inner).reply = some (response, event)) :
    Carries cfg.b64 req ((drainParts inner (.request amb req)).flatMap Prod.snd) response := by
  cases req with
  | post handle blob ttlSecs =>
    simp only [process, post] at answered
    (repeat' split at answered) <;>
      simp only [Handled.answer, Handled.panicked, Option.some.injEq, Prod.mk.injEq,
        reduceCtorEq] at answered <;>
      obtain ⟨rfl, _⟩ := answered <;> exact ⟨rfl, rfl⟩
  | recallBlob handle msgId deleteToken =>
    simp only [process, recallBlob] at answered
    split at answered
    · simp [Handled.panicked] at answered
    · rename_i removed _ _
      simp only [Handled.answer, Option.some.injEq, Prod.mk.injEq] at answered
      obtain ⟨rfl, _⟩ := answered
      cases removed <;> exact ⟨rfl, rfl⟩
  | peek handle | getDirectory =>
    simp only [process, Handled.answer, Option.some.injEq, Prod.mk.injEq] at answered
    obtain ⟨rfl, _⟩ := answered
    exact ⟨rfl, rfl⟩
  | fetch handle | take handle =>
    obtain ⟨left, drained, _, _⟩ := drainHandleBounded_spec solvent handle .default amb.now
    simp only [process, drained, Handled.answer, Option.some.injEq, Prod.mk.injEq] at answered
    obtain ⟨rfl, _⟩ := answered
    simp [Carries, drainParts, Request.drains, drainAll, drained, Response.justOk,
      Response.default]
  | takeMany handles =>
    by_cases tooMany : handles.length > MAX_TAKE_MANY
    · simp only [process, tooMany, if_true, Handled.answer, Option.some.injEq, Prod.mk.injEq]
        at answered
      obtain ⟨rfl, _⟩ := answered
      simp [Carries, drainParts, Request.drains, tooMany, drainAll, Response.err,
        Response.default]
    · obtain ⟨parts, left, drained, _, _⟩ := drainAll_spec amb.now handles .default solvent
      simp only [process, tooMany, if_false, drained, Handled.answer, Option.some.injEq,
        Prod.mk.injEq] at answered
      obtain ⟨rfl, _⟩ := answered
      simp [Carries, drainParts, Request.drains, tooMany, drained, Response.justOk,
        Response.default, List.map_flatMap]

/-- Everything one critical section can do to a solvent store. -/
theorem step_cases (cfg : Config) {inner : StoreInner} (solvent : Solvent inner) (event : Event) :
    Shrinks inner (step cfg inner event)
      ∨ (∃ amb handle blob ttlSecs, ∃ bytes : Bytes, event = .request amb (.post handle blob ttlSecs)
        ∧ cfg.b64.decode blob = some bytes ∧ passes cfg inner handle bytes = true
        ∧ Admits cfg inner handle bytes.length ∧ expiryFits cfg amb ttlSecs = false
        ∧ step cfg inner event = overcharged cfg inner handle bytes.length)
      ∨ (∃ amb handle blob ttlSecs, ∃ bytes : Bytes, event = .request amb (.post handle blob ttlSecs)
        ∧ Admits cfg inner handle bytes.length ∧ expiryFits cfg amb ttlSecs = true
        ∧ step cfg inner event = posted cfg inner handle
          (storedOf cfg amb bytes (costOf cfg handle bytes.length) ttlSecs)) := by
  cases event with
  | reap now => exact .inl (reap_spec solvent now).2.1
  | request amb req =>
    by_cases reads : req.onlyReads = true
    · obtain ⟨_, left, drained, _, shrunk⟩ := drainAll_spec amb.now req.drains .default solvent
      exact .inl (by simpa [step, (process_drains cfg solvent amb req reads).2, drained] using shrunk)
    cases req with
    | fetch | take | takeMany | peek | getDirectory => exact absurd rfl reads
    | post handle blob ttlSecs =>
      rcases post_cases cfg amb handle blob ttlSecs inner with
        ⟨_, _, refused, _⟩ | panicked | ⟨bytes, decoded, passed, admits, late, panicked⟩
        | ⟨bytes, _, _, _, _, admits, fits, _, stored⟩
      · exact .inl (by simpa [step, process, refused, Handled.answer] using Shrinks.refl inner)
      · exact .inl (by simpa [step, process, panicked, Handled.panicked] using Shrinks.refl inner)
      · exact .inr (.inl ⟨amb, handle, blob, ttlSecs, bytes, rfl, decoded, passed, admits, late, by
          simp [step, process, panicked, Handled.panicked]⟩)
      · exact .inr (.inr ⟨amb, handle, blob, ttlSecs, bytes, rfl, admits, fits, by
          simp [step, process, stored, Handled.answer]⟩)
    | recallBlob handle msgId deleteToken =>
      obtain ⟨removed, left, recalled, shrunk, _⟩ :=
        recallHits_spec solvent handle msgId deleteToken
      exact .inl (by simpa [step, process, recallBlob, recalled, Handled.answer] using shrunk)

/-- The running total covers the store after every critical section. -/
theorem step_solvent (cfg : Config) {inner : StoreInner} (solvent : Solvent inner)
    (event : Event) : Solvent (step cfg inner event) := by
  rcases step_cases cfg solvent event with
    shrunk | ⟨amb, handle, blob, ttlSecs, bytes, _, _, _, _, _, left⟩
    | ⟨amb, handle, blob, ttlSecs, bytes, _, _, _, left⟩
  · exact shrunk.solvent solvent
  · -- A late panic charges without storing.
    rw [left, Solvent, total_overcharged]
    exact solvent.trans (Nat.le_add_right _ _)
  · rw [left, Solvent, total_posted]
    exact Nat.add_le_add_right solvent _

/-- A refused request drained nothing. -/
theorem process_refused {cfg : Config} {inner : StoreInner} (solvent : Solvent inner)
    (amb : Ambient) (req : Request) {response : Response} {event : RelayEvent}
    (answered : (process cfg amb req inner).reply = some (response, event))
    (refused : response.ok = false) : drainParts inner (.request amb req) = [] := by
  cases req with
  | post | recallBlob | peek | getDirectory => rfl
  | fetch handle | take handle =>
    obtain ⟨left, drained, _, _⟩ := drainHandleBounded_spec solvent handle .default amb.now
    simp only [process, drained, Handled.answer, Option.some.injEq, Prod.mk.injEq] at answered
    simp [← answered.1, Response.justOk] at refused
  | takeMany handles =>
    by_cases tooMany : handles.length > MAX_TAKE_MANY
    · simp [drainParts, Request.drains, tooMany, drainAll]
    · obtain ⟨parts, left, drained, _, _⟩ := drainAll_spec amb.now handles .default solvent
      simp only [process, tooMany, if_false, drained, Handled.answer, Option.some.injEq,
        Prod.mk.injEq] at answered
      simp [← answered.1, Response.justOk] at refused

/-- Every store a run reaches is solvent. -/
theorem run_solvent (cfg : Config) {inner : StoreInner} (solvent : Solvent inner)
    (events : List Event) : Solvent (run cfg inner events) := by
  induction events generalizing inner with
  | nil => exact solvent
  | cons event events ih => exact ih (step_solvent cfg solvent event)

theorem solvent_empty : Solvent StoreInner.empty := Nat.le_refl 0

theorem run_append (cfg : Config) (first second : List Event) :
    ∀ inner, run cfg inner (first ++ second) = run cfg (run cfg inner first) second := by
  induction first with
  | nil => exact fun _ => rfl
  | cons event rest ih => exact fun inner => ih (step cfg inner event)

/-- What a run drains grows by what its last step drains. -/
theorem drained_append (cfg : Config) (handle : Handle) (event : Event) (events : List Event) :
    ∀ inner, drained cfg handle inner (events ++ [event])
      = drained cfg handle inner events ++ drainedBy (run cfg inner events) handle event := by
  induction events with
  | nil => exact fun inner => by simp [drained, run]
  | cons first rest ih => exact fun inner => by simp [drained, run, ih, List.append_assoc]

end Nightdrop.Relay
