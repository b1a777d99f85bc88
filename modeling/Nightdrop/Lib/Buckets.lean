import Mathlib

/-! A list sorted into numbered buckets: nothing is lost, and each element is in its own. -/

namespace Nightdrop

variable {α : Type} [DecidableEq α]

/-- Over the buckets, only an element's own counts it. -/
theorem sum_own_bucket (own count n : Nat) :
    ((List.range n).map (fun b => if own = b then count else 0)).sum = if own < n then count else 0 := by
  induction n with
  | zero => rfl
  | succ n ih =>
    rw [List.range_succ, List.map_append, List.sum_append, ih]
    simp only [List.map_cons, List.map_nil, List.sum_cons, List.sum_nil]
    split <;> split <;> split <;> omega

/-- The buckets together hold what was sorted into them, each element as often as before. -/
theorem flatMap_buckets_perm (f : α → Nat) (n : Nat) (below : ∀ a, f a < n) (xs : List α) :
    ((List.range n).flatMap (fun b => xs.filter (fun a => f a = b))).Perm xs := by
  rw [List.perm_iff_count]
  intro a
  have each : ∀ b, (xs.filter (fun a => decide (f a = b))).count a = if f a = b then xs.count a else 0 := by
    intro b
    by_cases own : f a = b
    · rw [if_pos own, List.count_filter (by simpa using own)]
    · rw [if_neg own, List.count_eq_zero]
      intro member
      exact own (by simpa using (List.mem_filter.mp member).2)
  rw [List.count_flatMap]
  have counts : (List.count a ∘ fun b => xs.filter (fun a => decide (f a = b)))
      = fun b => if f a = b then xs.count a else 0 := funext each
  rw [counts, sum_own_bucket, if_pos (below a)]

end Nightdrop
