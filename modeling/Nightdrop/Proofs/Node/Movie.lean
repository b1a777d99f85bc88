import Nightdrop.Node.Movie

/-! A file that is opened as an ISO video is tiled by its boxes, and nothing in its movie points outside of it. -/

namespace Nightdrop
namespace Movie

variable {data body entry : Bytes} {header size : Nat} {list : List IsoBox} {check : IsoBox → Walk Bool}

/-- What a box's header says of its own length and of the whole box. -/
theorem boxHead_some (head : boxHead data = some (header, size)) :
    8 ≤ data.length ∧ (header = 8 ∧ ofBigEndian (data.take 4) = size
      ∨ header = 8 ∧ ofBigEndian (data.take 4) = 0 ∧ size = data.length
      ∨ header = 16 ∧ ofBigEndian (data.take 4) = 1 ∧ ofBigEndian ((data.drop 8).take 8) = size) := by
  unfold boxHead at head
  split at head
  · cases head
  · rename_i long
    refine ⟨by omega, ?_⟩
    split at head
    · rename_i zero
      cases head
      exact .inr (.inl ⟨rfl, zero, rfl⟩)
    · split at head
      · rename_i wide
        split at head
        · cases head
        · cases head
          exact .inr (.inr ⟨rfl, wide, rfl⟩)
      · cases head
        exact .inl ⟨rfl, rfl⟩

theorem slice_of_le {first last : Nat} (order : first ≤ last) (within : last ≤ data.length) :
    slice data first last = some ((data.take last).drop first) := by
  unfold slice
  rw [if_pos ⟨order, within⟩]

/-- A box that fits leads the bytes, and the others tile what follows it. -/
theorem tiles_cons {more : List IsoBox} (head : boxHead data = some (header, size)) (order : header ≤ size)
    (within : size ≤ data.length) (tiled : Tiles more (data.drop size)) :
    Tiles (⟨(data.drop 4).take 4, (data.take size).drop header⟩ :: more) data := by
  have said := (boxHead_some head).2
  have parts : data = data.take header ++ ((data.take size).drop header ++ data.drop size) := by
    have front : data.take size = data.take header ++ (data.take size).drop header := by
      have split := (List.take_append_drop header (data.take size)).symm
      rwa [List.take_take, Nat.min_eq_left order] at split
    rw [← List.append_assoc, ← front, List.take_append_drop]
  have long : (data.take header).length = header := by
    rw [List.length_take]
    omega
  have whole : (data.take header ++ (data.take size).drop header).length = size := by
    rw [List.length_append, long, List.length_drop, List.length_take]
    omega
  have eight : 8 ≤ header := by omega
  have first : (data.take header).take 4 = data.take 4 := by
    rw [List.take_take, Nat.min_eq_left (by omega)]
  have kind : ((data.take header).drop 4).take 4 = (data.drop 4).take 4 := by
    rw [List.drop_take, List.take_take, Nat.min_eq_left (by omega)]
  have sized : (data.take header).length = 8
        ∧ ofBigEndian ((data.take header).take 4) = (data.take header ++ (data.take size).drop header).length
      ∨ (data.take header).length = 8 ∧ ofBigEndian ((data.take header).take 4) = 0 ∧ data.drop size = []
      ∨ (data.take header).length = 16 ∧ ofBigEndian ((data.take header).take 4) = 1
        ∧ ofBigEndian (((data.take header).drop 8).take 8)
          = (data.take header ++ (data.take size).drop header).length := by
    rw [long, whole, first]
    rcases said with ⟨eight, told⟩ | ⟨eight, zero, all⟩ | ⟨sixteen, one, told⟩
    · exact .inl ⟨eight, told⟩
    · refine .inr (.inl ⟨eight, zero, ?_⟩)
      rw [all, List.drop_length]
    · refine .inr (.inr ⟨sixteen, one, ?_⟩)
      rw [List.drop_take, List.take_take, Nat.min_eq_left (by omega)]
      exact told
  have tiles := Tiles.cons sized tiled
  rw [kind, ← parts] at tiles
  exact tiles

/-- Given a step for every byte, splitting is never stuck; the boxes it finds tile the bytes and are shorter. -/
theorem boxesIn_spec {steps : Nat} (enough : data.length ≤ steps) : boxesIn steps data ≠ .stuck
    ∧ ∀ list, boxesIn steps data = .found list → Tiles list data ∧ ∀ b ∈ list, b.body.length + 8 ≤ data.length := by
  induction steps generalizing data with
  | zero =>
    have empty : data = [] := List.eq_nil_of_length_eq_zero (by omega)
    subst empty
    refine ⟨by simp [boxesIn], fun list found => ?_⟩
    simp only [boxesIn, if_true, Walk.found.injEq] at found
    subst found
    exact ⟨.nil, by simp⟩
  | succ steps ih =>
    unfold boxesIn
    by_cases empty : data = []
    · subst empty
      rw [if_pos rfl]
      refine ⟨nofun, fun list found => ?_⟩
      simp only [Walk.found.injEq] at found
      subst found
      exact ⟨.nil, by simp⟩
    · rw [if_neg empty]
      cases head : boxHead data with
      | none => exact ⟨nofun, nofun⟩
      | some both =>
        obtain ⟨header, size⟩ := both
        simp only []
        split
        · exact ⟨nofun, nofun⟩
        · rename_i fits
          have said := boxHead_some head
          have order : header ≤ size := by omega
          have within : size ≤ data.length := by omega
          rw [slice_of_le order within, slice_of_le within (Nat.le_refl _), List.take_length]
          simp only []
          have rest := @ih (data.drop size) (by rw [List.length_drop]; omega)
          cases later : boxesIn steps (data.drop size) with
          | stuck => exact absurd later rest.1
          | refused => exact ⟨nofun, nofun⟩
          | found more =>
            refine ⟨nofun, fun list found => ?_⟩
            simp only [Walk.found.injEq] at found
            subst found
            obtain ⟨tiled, short⟩ := rest.2 more later
            refine ⟨tiles_cons head order within tiled, fun b among => ?_⟩
            rcases List.mem_cons.mp among with rfl | other
            · simp only [List.length_drop, List.length_take]
              omega
            · have less := short b other
              rw [List.length_drop] at less
              omega

theorem boxes_not_stuck (data : Bytes) : boxes data ≠ .stuck := (boxesIn_spec (Nat.le_refl _)).1

theorem boxes_tile (found : boxes data = .found list) : Tiles list data := ((boxesIn_spec (Nat.le_refl _)).2 list found).1

theorem boxes_short (found : boxes data = .found list) : ∀ b ∈ list, b.body.length + 8 ≤ data.length :=
  ((boxesIn_spec (Nat.le_refl _)).2 list found).2

/-- What is found true of all is found true of each. -/
theorem allBoxes_true (all : allBoxes check list = .found true) : ∀ b ∈ list, check b = .found true := by
  induction list with
  | nil => simp
  | cons a list ih =>
    unfold allBoxes at all
    split at all
    · rename_i first
      intro b among
      rcases List.mem_cons.mp among with rfl | later
      · exact first
      · exact ih all b later
    · rename_i other
      exact absurd all other

/-- Where no box is stuck, all are not. -/
theorem allBoxes_not_stuck (free : ∀ b ∈ list, check b ≠ .stuck) : allBoxes check list ≠ .stuck := by
  induction list with
  | nil => exact nofun
  | cons a list ih =>
    unfold allBoxes
    split
    · exact ih fun b among => free b (List.mem_cons_of_mem _ among)
    · exact free a List.mem_cons_self

theorem drefSelfContained_not_stuck (body : Bytes) : drefSelfContained body ≠ .stuck := by
  unfold drefSelfContained
  split
  · exact nofun
  · split
    · exact nofun
    · exact nofun
    · rename_i stuck
      exact absurd stuck (boxes_not_stuck _)

/-- Given a step for every level that fits into the bytes, the walk down is never stuck. -/
theorem drefsIn_not_stuck {steps : Nat} (enough : body.length < steps) : drefsIn steps body ≠ .stuck := by
  induction steps generalizing body with
  | zero => omega
  | succ steps ih =>
    unfold drefsIn
    split
    · rename_i children split'
      apply allBoxes_not_stuck
      intro b child
      have short := boxes_short split' b child
      split
      · exact drefSelfContained_not_stuck b.body
      · split
        · exact ih (by omega)
        · exact nofun
    · exact nofun
    · rename_i stuck
      exact absurd stuck (boxes_not_stuck _)

/-- Every entry that is reached was checked on the way down. -/
theorem drefsIn_entry (reached : Entry body entry) {steps : Nat} (checked : drefsIn steps body = .found true) :
    selfContained entry = true := by
  induction reached generalizing steps with
  | here split child dref listed among =>
    cases steps with
    | zero => cases checked
    | succ steps =>
      unfold drefsIn at checked
      rw [split] at checked
      have passed := allBoxes_true checked _ child
      rw [if_pos dref] at passed
      unfold drefSelfContained at passed
      split at passed
      · cases passed
      · rw [listed] at passed
        simp only [Walk.found.injEq, List.all_eq_true] at passed
        exact passed _ among
  | inside split child holds _ ih =>
    cases steps with
    | zero => cases checked
    | succ steps =>
      unfold drefsIn at checked
      rw [split] at checked
      have passed := allBoxes_true checked _ child
      have other : ∀ kind ∈ ISO_CONTAINERS, kind ≠ utf8 "dref" := by decide +kernel
      rw [if_neg (other _ holds), if_pos (List.contains_iff_mem.mpr holds)] at passed
      exact ih passed

/-- A name that occurs leads one of the tails. -/
theorem tails_any {tag : Bytes} : (body.tails.any fun w => tag.isPrefixOf w) = true ↔ tag <:+: body := by
  rw [List.any_eq_true, List.infix_iff_prefix_suffix]
  constructor
  · rintro ⟨w, tail, leads⟩
    exact ⟨w, List.isPrefixOf_iff_prefix.mp leads, (List.mem_tails w body).mp tail⟩
  · rintro ⟨w, leads, tail⟩
    exact ⟨w, (List.mem_tails w body).mpr tail, List.isPrefixOf_iff_prefix.mpr leads⟩

theorem isoBmffIsSelfContained_not_stuck (data : Bytes) : isoBmffIsSelfContained data ≠ .stuck := by
  unfold isoBmffIsSelfContained
  split
  · rename_i top _
    split
    · exact nofun
    · apply allBoxes_not_stuck
      intro b _
      split
      · split
        · exact nofun
        · exact drefsIn_not_stuck (Nat.lt_succ_self _)
      · exact nofun
  · exact nofun
  · rename_i stuck
    exact absurd stuck (boxes_not_stuck _)

/-- A file that is found self-contained is. -/
theorem selfContained_of_found (found : isoBmffIsSelfContained data = .found true) : ∃ top, SelfContained data top := by
  unfold isoBmffIsSelfContained at found
  split at found
  · rename_i top split'
    split at found
    · rename_i checked
      have passed := allBoxes_true checked
      simp only [Walk.found.injEq, List.any_eq_true, decide_eq_true_eq] at found
      refine ⟨top, boxes_tile split', found, fun b among movie => ?_, fun b among movie entry reached => ?_⟩
      · have free := passed b among
        rw [if_pos movie] at free
        intro tag listed occurs
        rw [if_pos (List.any_eq_true.mpr ⟨tag, listed, tails_any.mpr occurs⟩)] at free
        cases free
      · have free := passed b among
        rw [if_pos movie] at free
        split at free
        · cases free
        · exact drefsIn_entry reached free
    · rename_i other
      exact absurd found (other · )
  · cases found
  · cases found

end Movie
end Nightdrop
