import Mathlib

/-! What a list has over another: the entries it gained, whatever was changed in place or removed. -/

namespace Nightdrop

variable {α κ : Type} [DecidableEq κ] (key : α → κ)

/-- How many entries a list has that the list before it had not, told apart by a key. -/
def surplus (before after : List α) : Nat :=
  ((after.map key : Multiset κ) - (before.map key : Multiset κ)).card

variable {key} {before between after : List α}

/-- Nothing is gained if every key was there before, as often. -/
theorem surplus_eq_zero (fewer : (after.map key).Subperm (before.map key)) :
    surplus key before after = 0 := by
  have less : (after.map key : Multiset κ) ≤ (before.map key : Multiset κ) := fewer
  rw [surplus, tsub_eq_zero_of_le less, Multiset.card_zero]

@[simp] theorem surplus_self (list : List α) : surplus key list list = 0 :=
  surplus_eq_zero (List.Subperm.refl _)

/-- Removing gains nothing. -/
@[simp] theorem surplus_filter (keep : α → Bool) (list : List α) :
    surplus key list (list.filter keep) = 0 :=
  surplus_eq_zero (List.filter_sublist.map key).subperm

/-- One more entry is one gained. -/
@[simp] theorem surplus_concat (list : List α) (entry : α) :
    surplus key list (list ++ [entry]) = 1 := by
  have more : ((list ++ [entry]).map key : Multiset κ) = (list.map key : Multiset κ) + {key entry} := by
    rw [List.map_append, ← Multiset.coe_add]
    rfl
  rw [surplus, more, add_tsub_cancel_left, Multiset.card_singleton]

/-- What is gained in two stages is at most the sum of what each gains. -/
theorem surplus_triangle (key : α → κ) (before between after : List α) :
    surplus key before after ≤ surplus key before between + surplus key between after := by
  have stages := tsub_le_tsub_add_tsub (a := (after.map key : Multiset κ))
    (b := (between.map key : Multiset κ)) (c := (before.map key : Multiset κ))
  have counted := Multiset.card_le_card stages
  rw [Multiset.card_add] at counted
  unfold surplus
  omega

end Nightdrop
