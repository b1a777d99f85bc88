import Mathlib.Data.Set.Basic

/-! What can be made of the things that were seen, by operations that anyone can run. -/

namespace Nightdrop

/-- What an observer makes of the things it saw, by any number of operations. -/
inductive Makes {M : Type} (op : List M → M → Prop) (seen : Set M) : M → Prop where
  | saw {m : M} (member : m ∈ seen) : Makes op seen m
  | run {args : List M} {m : M} (made : ∀ a ∈ args, Makes op seen a) (result : op args m) :
      Makes op seen m

namespace Makes

variable {M : Type} {op op' : List M → M → Prop} {seen seen' : Set M} {m a b : M}

/-- What holds of all that was seen, and that no operation leads out of, holds of all that is made. -/
theorem closed {P : M → Prop} (start : ∀ m ∈ seen, P m)
    (kept : ∀ args m, (∀ a ∈ args, P a) → op args m → P m) (made : Makes op seen m) : P m := by
  induction made with
  | saw member => exact start _ member
  | run _ result ih => exact kept _ _ ih result

/-- Whoever sees all that another one can make can make as much. -/
theorem through (made : Makes op seen m) (more : ∀ m ∈ seen, Makes op seen' m) : Makes op seen' m := by
  induction made with
  | saw member => exact more _ member
  | run _ result ih => exact .run ih result

/-- What an operation makes of nothing, of one thing and of two. -/
theorem run₀ (result : op [] m) : Makes op seen m :=
  .run (by simp) result

theorem run₁ (made : Makes op seen a) (result : op [a] m) : Makes op seen m :=
  .run (by simpa using made) result

theorem run₂ (first : Makes op seen a) (second : Makes op seen b) (result : op [a, b] m) : Makes op seen m :=
  .run (by simpa using ⟨first, second⟩) result

end Makes
end Nightdrop
