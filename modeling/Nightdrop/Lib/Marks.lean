import Mathlib.Data.List.Infix
import Mathlib.Tactic.Common

/-! Where a mark stands in a list, and which places it cannot reach across. -/

namespace Nightdrop

variable {α : Type} {mark list before after a b p q : List α} {x : α}

/-- A mark that does not hold `x` stands on one side of it. -/
theorem apart_of_bar (absent : x ∉ mark) (same : p ++ x :: q = a ++ (mark ++ b)) :
    (∃ c, p = a ++ (mark ++ c) ∧ b = c ++ x :: q) ∨ (∃ c, q = c ++ (mark ++ b) ∧ a = p ++ x :: c) := by
  rcases List.append_eq_append_iff.mp same with ⟨c, behind, lead⟩ | ⟨c, behind, lead⟩
  · -- The mark begins behind all of `p`: at `x`, which it does not hold, or later.
    cases c with
    | nil =>
      rw [List.nil_append] at lead
      cases mark with
      | nil => exact .inl ⟨[], by simpa using behind.symm, by simpa using lead.symm⟩
      | cons y mark =>
        rw [List.cons_append, List.cons.injEq] at lead
        exact absurd (by rw [lead.1]; exact List.mem_cons_self) absent
    | cons y c =>
      rw [List.cons_append, List.cons.injEq] at lead
      obtain ⟨rfl, rest⟩ := lead
      exact .inr ⟨c, rest, behind⟩
  · -- The mark begins within `p`, and ends before `x`, which it does not hold.
    rcases List.append_eq_append_iff.mp lead with ⟨d, within, rest⟩ | ⟨d, across, rest⟩
    · exact .inl ⟨d, by rw [behind, within], rest⟩
    · cases d with
      | nil => exact .inl ⟨[], by rw [behind, across]; simp, by simpa using rest.symm⟩
      | cons y d =>
        rw [List.cons_append, List.cons.injEq] at rest
        refine absurd ?_ absent
        rw [across, rest.1]
        simp

variable [DecidableEq α]

/-- What stands before the first place of a mark, and what stands behind it. -/
def around (mark : List α) : List α → Option (List α × List α)
  | [] => if mark = [] then some ([], []) else none
  | x :: rest =>
    if mark.isPrefixOf (x :: rest) then some ([], (x :: rest).drop mark.length)
    else (around mark rest).map fun (before, after) => (x :: before, after)

/-- Where a mark is found, it stands whole, and nowhere earlier. -/
theorem around_some (found : around mark list = some (before, after)) :
    list = before ++ (mark ++ after) ∧ ∀ a b, list = a ++ (mark ++ b) → before.length ≤ a.length := by
  induction list generalizing before with
  | nil =>
    unfold around at found
    split at found
    · rename_i empty
      cases found
      simp [empty]
    · cases found
  | cons x rest ih =>
    unfold around at found
    split at found
    · rename_i leads
      cases found
      obtain ⟨tail, whole⟩ := List.isPrefixOf_iff_prefix.mp leads
      refine ⟨?_, fun _ _ _ => by simp⟩
      rw [← whole, List.drop_left, List.nil_append]
    · rename_i apart
      cases later : around mark rest with
      | none => simp [later] at found
      | some both =>
        obtain ⟨before', after'⟩ := both
        simp only [later, Option.map_some, Option.some.injEq, Prod.mk.injEq] at found
        obtain ⟨rfl, rfl⟩ := found
        obtain ⟨whole, first⟩ := ih later
        refine ⟨by rw [whole, List.cons_append], ?_⟩
        intro a b same
        cases a with
        | nil =>
          -- The mark does not lead the list, so it stands no earlier than in the rest.
          refine absurd (List.isPrefixOf_iff_prefix.mpr ⟨b, ?_⟩) apart
          rw [List.nil_append] at same
          exact same.symm
        | cons y a =>
          rw [List.cons_append, List.cons.injEq] at same
          have early := first a b same.2
          simp only [List.length_cons]
          omega

/-- A mark that is not found stands nowhere. -/
theorem around_none (found : around mark list = none) (a b : List α) : list ≠ a ++ (mark ++ b) := by
  induction list generalizing a with
  | nil =>
    unfold around at found
    split at found
    · cases found
    · rename_i some'
      intro same
      have empty := (List.append_eq_nil_iff.mp (List.append_eq_nil_iff.mp same.symm).2).1
      exact some' empty
  | cons x rest ih =>
    unfold around at found
    split at found
    · cases found
    · rename_i apart
      intro same
      cases a with
      | nil =>
        refine apart (List.isPrefixOf_iff_prefix.mpr ⟨b, ?_⟩)
        rw [List.nil_append] at same
        exact same.symm
      | cons y a =>
        rw [List.cons_append, List.cons.injEq] at same
        exact ih (by simpa using found) a same.2

/-- The place where a mark stands first is where it is found. -/
theorem around_eq (first : ∀ a b, before ++ (mark ++ after) = a ++ (mark ++ b) → before.length ≤ a.length) :
    around mark (before ++ (mark ++ after)) = some (before, after) := by
  cases found : around mark (before ++ (mark ++ after)) with
  | none => exact absurd rfl (around_none found before after)
  | some both =>
    obtain ⟨before', after'⟩ := both
    obtain ⟨whole, earliest⟩ := around_some found
    -- Each of the two places is no later than the other.
    have order := first before' after' whole
    have order' := earliest before after rfl
    obtain ⟨same, rest⟩ := List.append_inj whole (by omega)
    obtain ⟨_, same'⟩ := List.append_inj rest rfl
    rw [← same, ← same']

/-- What was found stays where it is when more follows. -/
theorem around_append (found : around mark list = some (before, after)) (more : List α) :
    around mark (list ++ more) = some (before, after ++ more) := by
  obtain ⟨whole, first⟩ := around_some found
  have shape : list ++ more = before ++ (mark ++ (after ++ more)) := by
    rw [whole]
    simp only [List.append_assoc]
  rw [shape]
  refine around_eq ?_
  intro a b same
  by_contra early
  -- An earlier place would end before the found one does, so within the list.
  rw [← shape] at same
  have room : (a ++ mark).length ≤ list.length := by
    rw [whole]
    simp only [List.length_append]
    omega
  rw [← List.append_assoc] at same
  obtain ⟨rest, within⟩ := List.prefix_of_prefix_length_le (List.prefix_append (a ++ mark) b)
    (same ▸ List.prefix_append list more) room
  have late := first a rest (by rw [← within, List.append_assoc])
  omega

/-- A mark whose first element stands nowhere else in it does not overlap itself, and is found where it comes first. -/
theorem around_lead {x : α} {mark : List α} (absent : x ∉ mark) (none : around (x :: mark) p = none) (q : List α) :
    around (x :: mark) (p ++ ((x :: mark) ++ q)) = some (p, q) := by
  refine around_eq ?_
  intro a b same
  by_contra early
  have shape : a ++ ((x :: mark) ++ b) = (a ++ [x]) ++ (mark ++ b) := by simp
  rw [shape, List.cons_append] at same
  rcases apart_of_bar absent same with ⟨c, within, _⟩ | ⟨c, _, across⟩
  · exact around_none none a c (by rw [within]; simp)
  · have long := congrArg List.length across
    simp only [List.length_append, List.length_cons, List.length_nil] at long
    omega

end Nightdrop
