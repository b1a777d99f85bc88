import Nightdrop.Update.Version

/-! A version is newer as its release is, and a malformed one is newer than some just where one of its numbers counts. -/

namespace Nightdrop
namespace Version

variable {a b c v : String}

theorem updateAvailable_compare : (compare a b).updateAvailable = isNewer b a := by
  simp only [compare]

/-- The parts are the first three of the numbers that are read. -/
theorem parts_eq {numbers : List Nat} (read : lenient v = numbers) :
    parts v = (numbers.getD 0 0, numbers.getD 1 0, numbers.getD 2 0) := by
  rw [← read]
  rfl

theorem isNewer_eq_true : isNewer a b = true ↔
    (parts b).1 < (parts a).1 ∨ ((parts b).1 = (parts a).1 ∧ ((parts b).2.1 < (parts a).2.1
      ∨ ((parts b).2.1 = (parts a).2.1 ∧ (parts b).2.2 < (parts a).2.2))) := by
  simp [isNewer]

/-- No version is newer than itself. -/
theorem isNewer_irrefl (a : String) : isNewer a a = false := by
  rw [Bool.eq_false_iff, ne_eq, isNewer_eq_true]
  omega

theorem isNewer_trans (first : isNewer a b = true) (second : isNewer b c = true) : isNewer a c = true := by
  rw [isNewer_eq_true] at first second ⊢
  omega

/-- A well-formed version has the numbers of its release. -/
theorem parts_of_release {x : ℕ ×ₗ ℕ ×ₗ ℕ} (named : release v = some x) :
    parts v = ((ofLex x).1, (ofLex (ofLex x).2).1, (ofLex (ofLex x).2).2) := by
  unfold release at named
  split at named
  · rename_i major minor patch numbers
    cases named
    have read : lenient v = [major, minor, patch] := by
      have mapped := congrArg (List.map fun n : Option Nat => n.getD 0) numbers
      rw [List.map_map] at mapped
      exact mapped
    exact parts_eq read
  · cases named

/-- Well-formed versions are compared as the releases they name. -/
theorem isNewer_release {x y : ℕ ×ₗ ℕ ×ₗ ℕ} (first : release a = some x) (second : release b = some y) :
    isNewer a b = true ↔ y < x := by
  rw [isNewer_eq_true, parts_of_release first, parts_of_release second, Prod.Lex.lt_iff, Prod.Lex.lt_iff]

/-- A version of which nothing counts reads as zeros. -/
theorem parts_of_nothing (nothing : NothingPositive v) : parts v = (0, 0, 0) := by
  have zero : ∀ i < 3, (lenient v).getD i 0 = 0 := by
    intro i early
    unfold lenient
    rw [List.getD_eq_getElem?_getD, List.getElem?_map]
    cases found : ((core v).splitOn '.')[i]? with
    | none => rfl
    | some p =>
      have among : p ∈ ((core v).splitOn '.').take 3 := by
        apply List.mem_of_getElem? (i := i)
        rw [List.getElem?_take_of_lt early]
        exact found
      simp only [Option.map_some, Option.getD_some]
      exact nothing p among
  rw [parts_eq rfl, zero 0 (by omega), zero 1 (by omega), zero 2 (by omega)]

/-- A version of which something counts is newer than one that says nothing. -/
theorem isNewer_blank (counts : ¬ NothingPositive v) : isNewer v "" = true := by
  have blank : parts "" = (0, 0, 0) := by decide +kernel
  obtain ⟨p, among, positive⟩ : ∃ p ∈ ((core v).splitOn '.').take 3, (component p).getD 0 ≠ 0 := by
    unfold NothingPositive at counts
    push Not at counts
    exact counts
  obtain ⟨i, found⟩ := List.mem_iff_getElem?.mp among
  have early : i < 3 := by
    have within := (List.getElem?_eq_some_iff.mp found).1
    rw [List.length_take] at within
    omega
  rw [List.getElem?_take_of_lt early] at found
  have read : (lenient v).getD i 0 ≠ 0 := by
    unfold lenient
    rw [List.getD_eq_getElem?_getD, List.getElem?_map, found]
    simp only [Option.map_some, Option.getD_some]
    exact positive
  have some' : (parts v).1 ≠ 0 ∨ (parts v).2.1 ≠ 0 ∨ (parts v).2.2 ≠ 0 := by
    simp only [parts_eq rfl]
    obtain rfl | rfl | rfl : i = 0 ∨ i = 1 ∨ i = 2 := by omega
    · exact .inl read
    · exact .inr (.inl read)
    · exact .inr (.inr read)
  have major := congrArg Prod.fst blank
  have minor := congrArg (fun x => x.2.1) blank
  have patch := congrArg (fun x => x.2.2) blank
  simp only at major minor patch
  rw [isNewer_eq_true]
  omega

/-- A download goes through just where the version that runs is known and the offered one is newer. -/
theorem ensureNewer_ok (running : Option String) (offered : String) : ensureNewer running offered = .ok ()
    ↔ ∃ current, running = some current ∧ (compare current offered).updateAvailable = true := by
  cases running with
  | none => simp [ensureNewer]
  | some current =>
    simp only [Option.some.injEq, exists_eq_left', updateAvailable_compare, ensureNewer]
    cases isNewer offered current <;> simp

/-- A version of which nothing counts is newer than none. -/
theorem isNewer_nothing (nothing : NothingPositive a) (b : String) : isNewer a b = false := by
  have major := congrArg Prod.fst (parts_of_nothing nothing)
  have minor := congrArg (fun x => x.2.1) (parts_of_nothing nothing)
  have patch := congrArg (fun x => x.2.2) (parts_of_nothing nothing)
  simp only at major minor patch
  rw [Bool.eq_false_iff, ne_eq, isNewer_eq_true]
  omega

/-- The comparison is the strict order of the releases. -/
theorem ordered : Ordered := by
  refine ⟨fun a b x y first second => ?_, fun a => ?_, fun a b c first second => ?_⟩
  · rw [updateAvailable_compare]
    exact isNewer_release first second
  · rw [updateAvailable_compare]
    exact isNewer_irrefl a
  · rw [updateAvailable_compare] at first second ⊢
    exact isNewer_trans first second

/-- The comparison orders well-formed versions as their releases; a version is treated as it should be just where it
is well formed, or nothing of it counts. -/
theorem versions_compared (offered : String) :
    Ordered ∧ (Sound offered ↔ WellFormed offered ∨ NothingPositive offered) := by
  refine ⟨ordered, fun sound => ?_, ?_⟩
  · by_cases formed : WellFormed offered
    · exact .inl formed
    · right
      by_contra counts
      -- What counts in it makes it newer than a version of zeros.
      have never := sound.never formed ""
      rw [updateAvailable_compare, isNewer_blank counts] at never
      cases never
  · rintro (formed | nothing)
    · refine ⟨fun malformed => absurd formed malformed, fun running => ?_⟩
      rw [ensureNewer_ok]
      exact ⟨fun newer => ⟨formed, newer⟩, fun both => both.2⟩
    · have never : ∀ running, (compare running offered).updateAvailable = false := by
        intro running
        rw [updateAvailable_compare, isNewer_nothing nothing]
      refine ⟨fun _ => never, fun running => ?_⟩
      rw [ensureNewer_ok]
      refine ⟨fun newer => ?_, fun both => both.2⟩
      obtain ⟨current, _, newer⟩ := newer
      rw [never current] at newer
      cases newer

/-- A version whose second component is no number is taken for newer all the same. -/
theorem malformed_is_newer :
    ¬ ∀ running offered : String, ensureNewer (some running) offered = .ok () → WellFormed offered := by
  intro all
  have accepted : ensureNewer (some "0.1.17") "1.x.0" = .ok () := by
    rw [ensureNewer_ok]
    exact ⟨_, rfl, by decide +kernel⟩
  have malformed : (release "1.x.0").isSome = false := by decide +kernel
  exact absurd (malformed.symm.trans (all _ _ accepted)) (by decide)

end Version
end Nightdrop
