import Mathlib.Data.List.Nodup
import Mathlib.Tactic.Common

/-! Lists without repetitions, each element at its first place. -/

namespace Nightdrop

variable {α : Type} [DecidableEq α]

/-- A list without repetitions is left by dropping them. -/
theorem eraseDups_of_nodup {list : List α} (apart : list.Nodup) : list.eraseDups = list := by
  induction list with
  | nil => rfl
  | cons a rest ih =>
    rw [List.nodup_cons] at apart
    have others : rest.filter (fun b => !b == a) = rest := by
      rw [List.filter_eq_self]
      intro b among
      have differs : b ≠ a := by
        rintro rfl
        exact apart.1 among
      simpa using differs
    rw [List.eraseDups_cons, others, ih apart.2]

/-- Dropping repetitions leaves none. -/
theorem nodup_eraseDups (list : List α) : list.eraseDups.Nodup := by
  -- The rest is shorter once the first element was dropped from it.
  induction size : list.length using Nat.strongRecOn generalizing list with
  | ind n ih =>
    cases list with
    | nil => exact List.nodup_nil
    | cons a rest =>
      rw [List.eraseDups_cons, List.nodup_cons]
      have shorter := List.length_filter_le (fun b => !b == a) rest
      rw [List.length_cons] at size
      refine ⟨?_, ih _ (by omega) _ rfl⟩
      rw [List.mem_eraseDups]
      simp

/-- An element that was named before is not named again. -/
theorem eraseDups_concat (front : List α) (a : α) :
    (front ++ [a]).eraseDups = if a ∈ front then front.eraseDups else front.eraseDups ++ [a] := by
  rw [List.eraseDups_append]
  by_cases named : a ∈ front
  · simp [List.removeAll, named]
  · simp [List.removeAll, named, List.eraseDups_cons]

end Nightdrop
