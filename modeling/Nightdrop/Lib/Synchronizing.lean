import Mathlib.Data.List.TakeDrop
import Mathlib.Tactic.Common

/-! Codes whose words can be told apart in the middle of a text: cutting one without splitting a word. -/

namespace Nightdrop
namespace Synchronizing

variable {α β : Type}

/-- A code whose words start with a symbol that continues no word, and go on with symbols that do. -/
structure Code (encode : α → List β) (continues : β → Bool) : Prop where
  word : ∀ a, ∃ lead rest, encode a = lead :: rest ∧ continues lead = false ∧ ∀ b ∈ rest, continues b = true

/-- Whether a word starts at `i`, or the text ends there. -/
def boundary (continues : β → Bool) (text : List β) (i : Nat) : Bool :=
  i = 0 || match text[i]? with
    | none => i = text.length
    | some b => !continues b

/-- The last boundary up to `i`. -/
def floorBoundary (continues : β → Bool) (text : List β) : Nat → Nat
  | 0 => 0
  | i + 1 => if boundary continues text (i + 1) then i + 1 else floorBoundary continues text i

/-- The longest run of leading elements whose sizes fit in `room`. -/
def takeFit (size : α → Nat) (room : Nat) : List α → List α
  | [] => []
  | a :: rest => if size a ≤ room then a :: takeFit size (room - size a) rest else []

theorem takeFit_prefix (size : α → Nat) (room : Nat) (list : List α) : takeFit size room list <+: list := by
  induction list generalizing room with
  | nil => exact List.nil_prefix
  | cons a rest ih =>
    unfold takeFit
    split
    · obtain ⟨left, split⟩ := ih (room - size a)
      exact ⟨left, by rw [List.cons_append, split]⟩
    · exact List.nil_prefix

theorem floorBoundary_le (continues : β → Bool) (text : List β) (i : Nat) :
    floorBoundary continues text i ≤ i := by
  induction i with
  | zero => exact Nat.le_refl 0
  | succ i ih =>
    unfold floorBoundary
    split
    · exact Nat.le_refl _
    · omega

/-- What is found is a boundary. -/
theorem boundary_floorBoundary (continues : β → Bool) (text : List β) (i : Nat) :
    boundary continues text (floorBoundary continues text i) = true := by
  induction i with
  | zero => rfl
  | succ i ih =>
    unfold floorBoundary
    split
    · assumption
    · exact ih

variable {encode : α → List β} {continues : β → Bool}

/-- The place after a word is a boundary. -/
theorem boundary_word (code : Code encode continues) (a : α) (list : List α) :
    boundary continues (encode a ++ list.flatMap encode) (encode a).length = true := by
  unfold boundary
  rw [List.getElem?_append_right (Nat.le_refl _), Nat.sub_self]
  cases list with
  | nil => simp
  | cons next list =>
    obtain ⟨lead, rest, word, starts, _⟩ := code.word next
    simp [word, starts]

/-- Behind a word, the boundaries are those of what follows it. -/
theorem boundary_append (a text : List β) (i : Nat) :
    boundary continues (a ++ text) (a.length + (i + 1)) = boundary continues text (i + 1) := by
  unfold boundary
  rw [List.getElem?_append_right (by omega), Nat.add_sub_cancel_left, List.length_append]
  cases text[i + 1]? with
  | none => simp
  | some b => simp

/-- Within a word there is no boundary, so the walk goes back to its start. -/
theorem floorBoundary_within (code : Code encode continues) (a : α) (text : List β) {i : Nat}
    (within : i < (encode a).length) : floorBoundary continues (encode a ++ text) i = 0 := by
  induction i with
  | zero => rfl
  | succ i ih =>
    obtain ⟨lead, rest, word, _, goes⟩ := code.word a
    have symbol : ∃ b, (encode a ++ text)[i + 1]? = some b ∧ continues b = true := by
      rw [List.getElem?_append_left within, word, List.getElem?_cons_succ]
      rw [word, List.length_cons] at within
      exact ⟨rest[i], List.getElem?_eq_getElem (by omega), goes _ (List.getElem_mem _)⟩
    obtain ⟨b, found, goesOn⟩ := symbol
    have no : boundary continues (encode a ++ text) (i + 1) = false := by
      simp [boundary, found, goesOn]
    unfold floorBoundary
    rw [if_neg (by simp [no])]
    exact ih (by omega)

/-- Behind a word, the walk stops where it stops in what follows the word. -/
theorem floorBoundary_append (code : Code encode continues) (a : α) (list : List α) (i : Nat) :
    floorBoundary continues (encode a ++ list.flatMap encode) ((encode a).length + i)
      = (encode a).length + floorBoundary continues (list.flatMap encode) i := by
  induction i with
  | zero =>
    obtain ⟨lead, rest, word, _⟩ := code.word a
    obtain ⟨n, size⟩ : ∃ n, (encode a).length = n + 1 := ⟨rest.length, by simp [word]⟩
    have stops := boundary_word code a list
    rw [size] at stops ⊢
    simp only [floorBoundary, Nat.add_zero, stops, if_true]
  | succ i ih =>
    rw [← Nat.add_assoc]
    unfold floorBoundary
    rw [Nat.add_assoc, boundary_append, ih]
    split <;> rfl

/-- Cutting a text at the last boundary keeps the words that fit, whole. -/
theorem take_floorBoundary (code : Code encode continues) (list : List α) {n : Nat}
    (within : n ≤ (list.flatMap encode).length) :
    (list.flatMap encode).take (floorBoundary continues (list.flatMap encode) n)
      = (takeFit (fun a => (encode a).length) n list).flatMap encode := by
  induction list generalizing n with
  | nil => simp [takeFit]
  | cons a list ih =>
    rw [List.flatMap_cons]
    unfold takeFit
    split
    · rename_i fits
      -- The first word fits: what remains is cut as it would be alone.
      obtain ⟨left, rfl⟩ := Nat.exists_eq_add_of_le fits
      rw [List.flatMap_cons, List.length_append] at within
      rw [floorBoundary_append code, List.take_length_add_append, Nat.add_sub_cancel_left, List.flatMap_cons,
        ih (by omega)]
    · rename_i tooLong
      rw [floorBoundary_within code a _ (by omega)]
      rfl

end Synchronizing
end Nightdrop
