import Mathlib.Data.List.Basic
import Mathlib.Tactic.Common

/-! Numbered announcements of one value: what was sent under each number, and what the highest one heard says. -/

namespace Nightdrop

variable {V : Type}

/-- What was sent under which number, where `current` is what the number `seq` stands for now. -/
structure Numbered (sent : List (Nat × V)) (seq : Nat) (current : V) : Prop where
  positive : ∀ f ∈ sent, 0 < f.1
  upper : ∀ f ∈ sent, f.1 ≤ seq
  same : ∀ f ∈ sent, f.1 = seq → f.2 = current
  apart : ∀ f ∈ sent, ∀ g ∈ sent, f.1 = g.1 → f = g

namespace Numbered

variable {sent : List (Nat × V)} {seq : Nat} {current : V}

/-- A later number may stand for any value. -/
theorem change (numbered : Numbered sent seq current) {later : Nat} (grows : seq < later) (value : V) :
    Numbered sent later value where
  positive := numbered.positive
  upper f among := Nat.le_of_lt (Nat.lt_of_le_of_lt (numbered.upper f among) grows)
  same f among wrong := by
    have early := numbered.upper f among
    omega
  apart := numbered.apart

/-- Sending what the number stands for keeps one value for each number. -/
theorem send (numbered : Numbered sent seq current) (positive : 0 < seq) :
    Numbered (sent ++ [(seq, current)]) seq current := by
  have cases' : ∀ f ∈ sent ++ [(seq, current)], f ∈ sent ∨ f = (seq, current) := by
    intro f among
    rcases List.mem_append.mp among with before | last
    · exact .inl before
    · exact .inr (List.mem_singleton.mp last)
  refine ⟨?_, ?_, ?_, ?_⟩
  · intro f among
    rcases cases' f among with before | rfl
    · exact numbered.positive f before
    · exact positive
  · intro f among
    rcases cases' f among with before | rfl
    · exact numbered.upper f before
    · exact Nat.le_refl seq
  · intro f among now
    rcases cases' f among with before | rfl
    · exact numbered.same f before now
    · rfl
  · intro f among g among' number
    rcases cases' f among with before | rfl
    · rcases cases' g among' with before' | rfl
      · exact numbered.apart f before g before' number
      · exact Prod.ext number (numbered.same f before number)
    · rcases cases' g among' with before' | rfl
      · exact Prod.ext number (numbered.same g before' number.symm).symm
      · rfl

end Numbered

/-- What was heard has come to rest: the recorded number is the highest one heard, and what it said is held. -/
structure Settled (heard : List (Nat × V)) (seq : Nat) (holds : V → Prop) : Prop where
  upper : ∀ f ∈ heard, f.1 ≤ seq
  highest : heard ≠ [] → ∃ f ∈ heard, f.1 = seq ∧ holds f.2
  fresh : heard = [] → seq = 0

namespace Settled

variable {heard : List (Nat × V)} {seq : Nat} {holds : V → Prop} {f : Nat × V}

/-- Nothing heard, and nothing recorded. -/
theorem start (holds : V → Prop) : Settled [] 0 holds :=
  ⟨by simp, fun some' => absurd rfl some', fun _ => rfl⟩

/-- A number that is no higher changes nothing. -/
theorem skip (settled : Settled heard seq holds) (positive : 0 < f.1) (old : f.1 ≤ seq) :
    Settled (heard ++ [f]) seq holds := by
  have some' : heard ≠ [] := by
    intro none'
    have zero := settled.fresh none'
    omega
  obtain ⟨g, among, number, held⟩ := settled.highest some'
  refine ⟨?_, fun _ => ⟨g, List.mem_append_left _ among, number, held⟩, fun wrong => by simp at wrong⟩
  intro h among'
  rcases List.mem_append.mp among' with before | last
  · exact settled.upper h before
  · rw [List.mem_singleton.mp last]
    exact old

/-- A higher number is recorded with what it says. -/
theorem take (settled : Settled heard seq holds) (newer : seq < f.1) {holds' : V → Prop} (held : holds' f.2) :
    Settled (heard ++ [f]) f.1 holds' := by
  refine ⟨?_, fun _ => ⟨f, by simp, rfl, held⟩, fun wrong => by simp at wrong⟩
  intro h among'
  rcases List.mem_append.mp among' with before | last
  · exact Nat.le_of_lt (Nat.lt_of_le_of_lt (settled.upper h before) newer)
  · exact Nat.le_of_eq (congrArg Prod.fst (List.mem_singleton.mp last))

end Settled
end Nightdrop
