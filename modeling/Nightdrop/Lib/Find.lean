import Nightdrop.Lib.Text

/-! Where one run of bytes, or one mark of a text, first stands in another, and what depends on bytes still to come. -/

namespace Nightdrop

variable {needle hay more : Bytes} {i : Nat}

/-- The place where `needle` first stands in the bytes. -/
def findBytes (needle : Bytes) : Bytes → Option Nat
  | [] => if needle = [] then some 0 else none
  | b :: rest => if needle.isPrefixOf (b :: rest) then some 0 else (findBytes needle rest).map (· + 1)

/-- Where it is found, it stands whole. -/
theorem findBytes_le (found : findBytes needle hay = some i) : i + needle.length ≤ hay.length := by
  induction hay generalizing i with
  | nil =>
    unfold findBytes at found
    split at found
    · rename_i empty
      cases found
      simp [empty]
    · cases found
  | cons b rest ih =>
    unfold findBytes at found
    split at found
    · rename_i leads
      cases found
      simpa using (List.isPrefixOf_iff_prefix.mp leads).length_le
    · cases later : findBytes needle rest with
      | none => simp [later] at found
      | some j =>
        have fits := ih later
        simp only [later, Option.map_some, Option.some.injEq] at found
        simp only [List.length_cons]
        omega

/-- What was found stays where it is when more bytes come. -/
theorem findBytes_append (found : findBytes needle hay = some i) (more : Bytes) :
    findBytes needle (hay ++ more) = some i := by
  induction hay generalizing i with
  | nil =>
    unfold findBytes at found
    split at found
    · rename_i empty
      cases found
      cases more with
      | nil => simp [findBytes, empty]
      | cons b rest => simp [findBytes, empty]
    · cases found
  | cons b rest ih =>
    unfold findBytes at found
    split at found
    · rename_i leads
      cases found
      have still : needle.isPrefixOf (b :: (rest ++ more)) = true := by
        rw [List.isPrefixOf_iff_prefix] at leads ⊢
        exact leads.trans (List.prefix_append (b :: rest) more)
      simp [findBytes, still]
    · rename_i apart
      cases later : findBytes needle rest with
      | none => simp [later] at found
      | some j =>
        simp only [later, Option.map_some, Option.some.injEq] at found
        have fits := findBytes_le later
        -- The bytes compared with `needle` were all there before.
        have still : needle.isPrefixOf (b :: (rest ++ more)) = false := by
          rw [Bool.eq_false_iff, ne_eq, List.isPrefixOf_iff_prefix]
          intro leads
          apply apart
          rw [List.isPrefixOf_iff_prefix]
          refine List.prefix_of_prefix_length_le leads (List.prefix_append (b :: rest) more) ?_
          simp only [List.length_cons]
          omega
        simp [findBytes, still, ih later, found]

/-- What only comes with more bytes ends among them. -/
theorem lt_of_findBytes_append (none' : findBytes needle hay = none)
    (found : findBytes needle (hay ++ more) = some i) : hay.length < i + needle.length := by
  by_contra inside
  have all := findBytes_le found
  induction hay generalizing i with
  | nil =>
    have empty : needle = [] := by
      rw [← List.length_eq_zero_iff]
      simp only [List.length_nil] at inside
      omega
    simp [findBytes, empty] at none'
  | cons b rest ih =>
    rw [List.cons_append] at found
    unfold findBytes at none' found
    split at none'
    · cases none'
    · rename_i apart
      simp only [Option.map_eq_none_iff] at none'
      split at found
      · rename_i leads
        cases found
        apply apart
        rw [List.isPrefixOf_iff_prefix] at leads ⊢
        refine List.prefix_of_prefix_length_le leads (List.prefix_append (b :: rest) more) ?_
        omega
      · cases later : findBytes needle (rest ++ more) with
        | none => simp [later] at found
        | some j =>
          simp only [later, Option.map_some, Option.some.injEq] at found
          simp only [List.length_cons] at inside
          exact ih none' later (by omega) (findBytes_le later)

/-- Without it among all the bytes, it is not among the first of them. -/
theorem findBytes_eq_none_of_append (none' : findBytes needle (hay ++ more) = none) :
    findBytes needle hay = none := by
  cases found : findBytes needle hay with
  | none => rfl
  | some i =>
    rw [findBytes_append found] at none'
    cases none'

/-- What stands somewhere is found. -/
theorem findBytes_ne_none (before needle behind : Bytes) : findBytes needle (before ++ (needle ++ behind)) ≠ none := by
  induction before with
  | nil =>
    cases needle with
    | nil => cases behind <;> simp [findBytes]
    | cons b rest =>
      have leads : (b :: rest).isPrefixOf (b :: (rest ++ behind)) = true := by
        rw [List.isPrefixOf_iff_prefix]
        exact List.prefix_append (b :: rest) behind
      simp [findBytes, leads]
  | cons b more ih =>
    rw [List.cons_append]
    unfold findBytes
    split
    · simp
    · simpa using ih

/-- What is found behind a prefix is found with it. -/
theorem findBytes_append_ne_none (before : Bytes)
    (found : findBytes needle hay ≠ none) : findBytes needle (before ++ hay) ≠ none := by
  induction before with
  | nil => exact found
  | cons b more ih =>
    rw [List.cons_append]
    unfold findBytes
    split
    · simp
    · simpa using ih

/-- The bytes up to where it first ends have it there. -/
theorem findBytes_take (found : findBytes needle hay = some i) :
    findBytes needle (hay.take (i + needle.length)) = some i := by
  have fits := findBytes_le found
  have split' := (List.take_append_drop (i + needle.length) hay).symm
  cases sooner : findBytes needle (hay.take (i + needle.length)) with
  | none =>
    rw [split'] at found
    have late := lt_of_findBytes_append sooner found
    rw [List.length_take] at late
    omega
  | some j =>
    have same := findBytes_append sooner (hay.drop (i + needle.length))
    rw [← split', found] at same
    exact same.symm

/-- Where something is first found it stands. -/
theorem findBytes_split (found : findBytes needle hay = some i) :
    ∃ lead tail, hay = lead ++ (needle ++ tail) ∧ lead.length = i := by
  induction hay generalizing i with
  | nil =>
    unfold findBytes at found
    split at found
    · rename_i empty
      cases found
      exact ⟨[], [], by rw [empty]; rfl, rfl⟩
    · cases found
  | cons b rest ih =>
    unfold findBytes at found
    split at found
    · rename_i leads
      cases found
      obtain ⟨tail, same⟩ := List.isPrefixOf_iff_prefix.mp leads
      exact ⟨[], tail, same.symm, rfl⟩
    · obtain ⟨j, later, rfl⟩ := Option.map_eq_some_iff.mp found
      obtain ⟨lead, tail, same, size⟩ := ih later
      exact ⟨b :: lead, tail, by rw [same]; rfl, by rw [List.length_cons, size]⟩

/-- What stands before and behind the first colon of a line. -/
def splitColon (line : String) : Option (String × String) :=
  if ':' ∈ line.toList then
    some (String.ofList (line.toList.takeWhile (· ≠ ':')), String.ofList ((line.toList.dropWhile (· ≠ ':')).drop 1))
  else none

end Nightdrop
