import Mathlib.Logic.Basic

/-! Runs of a labelled transition system, and the invariant rule over them. -/

namespace Nightdrop

/-- The states some run from `init` reaches, every step of which is allowed. -/
inductive Reach {σ ε : Type} (init : σ) (next : σ → ε → σ → Prop) : σ → Prop where
  | start : Reach init next init
  | step {s s' : σ} (event : ε) (earlier : Reach init next s) (taken : next s event s') :
      Reach init next s'

namespace Reach

variable {σ ε : Type} {init : σ} {next next' : σ → ε → σ → Prop}

/-- What holds at the start and is kept by every step holds in every reached state. -/
theorem invariant {P : σ → Prop} (start : P init)
    (kept : ∀ s event s', Reach init next s → P s → next s event s' → P s') {s : σ}
    (reached : Reach init next s) : P s := by
  induction reached with
  | start => exact start
  | step event earlier taken ih => exact kept _ event _ earlier ih taken

/-- A run may go on from where another one ended. -/
theorem trans {s t : σ} (first : Reach init next s) (second : Reach s next t) :
    Reach init next t := by
  induction second with
  | start => exact first
  | step event _ taken ih => exact .step event ih taken

/-- A run of the stricter system is a run of the laxer one. -/
theorem mono (laxer : ∀ s event s', next s event s' → next' s event s') {s : σ}
    (reached : Reach init next s) : Reach init next' s := by
  induction reached with
  | start => exact .start
  | step event _ taken ih => exact .step event ih (laxer _ _ _ taken)

end Reach

/-- What holds at the end of a run of events held at its start, or an event brought it about. -/
theorem foldl_brings {σ ε : Type} {step : σ → ε → σ} {P : σ → Prop} (s : σ) (events : List ε)
    (ends : P (events.foldl step s)) :
    P s ∨ ∃ before event after, events = before ++ event :: after
      ∧ ¬ P (before.foldl step s) ∧ P (step (before.foldl step s) event) := by
  induction events generalizing s with
  | nil => exact Or.inl ends
  | cons event rest ih =>
    rcases ih (step s event) ends with first | ⟨before, later, after, split, unlike, brought⟩
    · -- It holds after the first event: before it too, or that event brought it about.
      by_cases held : P s
      · exact Or.inl held
      · exact Or.inr ⟨[], event, rest, rfl, held, first⟩
    · refine Or.inr ⟨event :: before, later, after, ?_, unlike, brought⟩
      rw [split]
      rfl

end Nightdrop
