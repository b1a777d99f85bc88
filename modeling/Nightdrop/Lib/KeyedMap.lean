import Mathlib

/-! Finite maps whose values are summed: the laws of a running total kept beside a map. -/

namespace Nightdrop

/-- A finite map with one value type. -/
abbrev KeyedMap (κ ν : Type) := AList (fun _ : κ => ν)

namespace KeyedMap

variable {κ ν μ : Type} [DecidableEq κ]

/-- What the whole map weighs under a weight of single entries. -/
def total (weight : κ → ν → Nat) (m : KeyedMap κ ν) : Nat :=
  (m.entries.map (fun e => weight e.1 e.2)).sum

/-- What one key contributes to the total. -/
def weightAt (weight : κ → ν → Nat) (m : KeyedMap κ ν) (key : κ) : Nat :=
  ((m.lookup key).map (weight key)).getD 0

/-- Every value is replaced, and a key whose value is refused is dropped. -/
def mapMaybe (f : κ → ν → Option μ) (m : KeyedMap κ ν) : KeyedMap κ μ where
  entries := m.entries.filterMap (fun e => (f e.1 e.2).map (fun v => ⟨e.1, v⟩))
  nodupKeys := by
    -- The surviving keys are a sublist of the old ones.
    have keysSub : ∀ l : List (Sigma fun _ : κ => ν),
        (l.filterMap (fun e => (f e.1 e.2).map (fun v => (⟨e.1, v⟩ : Sigma fun _ : κ => μ)))).keys
          |>.Sublist l.keys := by
      intro l
      induction l with
      | nil => simp
      | cons e rest ih =>
        cases found : f e.1 e.2 with
        | none => simpa [List.keys, found] using ih.cons e.1
        | some v => simpa [List.keys, found] using ih.cons_cons e.1
    exact (keysSub m.entries).nodup m.nodupKeys

/-- One key's value is changed, if the key is there. -/
def modify (m : KeyedMap κ ν) (key : κ) (f : ν → ν) : KeyedMap κ ν :=
  match m.lookup key with
  | some v => m.insert key (f v)
  | none => m

/-- A change at one key is seen at that key only. -/
@[simp] theorem lookup_modify (m : KeyedMap κ ν) (key other : κ) (f : ν → ν) :
    (m.modify key f).lookup other = if other = key then (m.lookup key).map f else m.lookup other := by
  unfold modify
  by_cases same : other = key
  · subst same
    cases found : m.lookup other with
    | none => simp [found]
    | some v => simp
  · cases m.lookup key with
    | none => simp [same]
    | some v => simp [same, AList.lookup_insert_ne same]

/-- Two changes at one key are one. -/
theorem modify_modify (m : KeyedMap κ ν) (key : κ) (f g : ν → ν) :
    (m.modify key f).modify key g = m.modify key (fun v => g (f v)) := by
  cases found : m.lookup key with
  | none => simp [modify, found]
  | some v => simp [modify, found, AList.insert_insert]

omit [DecidableEq κ] in
@[simp] theorem total_empty (weight : κ → ν → Nat) : total weight (∅ : KeyedMap κ ν) = 0 := rfl

/-- Weights that agree on every stored entry give the same total. -/
theorem total_congr (weight other : κ → ν → Nat) (m : KeyedMap κ ν)
    (agree : ∀ key v, m.lookup key = some v → weight key v = other key v) :
    total weight m = total other m :=
  congrArg List.sum (List.map_congr_left
    (fun e member => agree e.1 e.2 (AList.mem_lookup_iff.mpr member)))

/-- Taking one key out leaves the rest of the total. -/
theorem total_erase (weight : κ → ν → Nat) (m : KeyedMap κ ν) (key : κ) :
    total weight (m.erase key) + weightAt weight m key = total weight m := by
  by_cases stored : key ∈ m
  · -- The entry sits between two runs that the erasure joins.
    obtain ⟨v, before, after, absent, split, erased⟩ :=
      List.exists_of_kerase (l := m.entries) stored
    have found : m.lookup key = some v := by
      apply AList.mem_lookup_iff.mpr
      simp [split]
    have erasedSum : total weight (m.erase key)
        = ((before ++ after).map (fun e => weight e.1 e.2)).sum := by
      simp [total, AList.erase, erased]
    rw [erasedSum]
    simp only [weightAt, found, total, split]
    simp
    omega
  · have absent : m.lookup key = none := AList.lookup_eq_none.mpr stored
    have same : List.kerase key m.entries = m.entries := List.kerase_of_notMem_keys stored
    simp [total, weightAt, absent, AList.erase, same]

/-- Writing one key replaces its contribution. -/
theorem total_insert (weight : κ → ν → Nat) (m : KeyedMap κ ν) (key : κ) (v : ν) :
    total weight (m.insert key v) + weightAt weight m key = total weight m + weight key v := by
  rw [← total_erase weight m key]
  simp only [total, AList.entries_insert, AList.erase, List.map_cons, List.sum_cons]
  omega

/-- A dropped or replaced value is looked up as such. -/
@[simp] theorem lookup_mapMaybe (f : κ → ν → Option μ) (m : KeyedMap κ ν) (key : κ) :
    (mapMaybe f m).lookup key = (m.lookup key).bind (f key) := by
  -- The claim is about the entry list, whose keys are distinct.
  have general : ∀ l : List (Sigma fun _ : κ => ν), l.NodupKeys →
      (l.filterMap (fun e => (f e.1 e.2).map (fun v => (⟨e.1, v⟩ : Sigma fun _ : κ => μ)))).dlookup key
        = (l.dlookup key).bind (f key) := by
    intro l distinct
    induction l with
    | nil => simp
    | cons e rest ih =>
      have restDistinct := (List.nodupKeys_cons.mp distinct).2
      have headFresh := (List.nodupKeys_cons.mp distinct).1
      by_cases same : key = e.1
      · subst same
        have absent : rest.dlookup e.1 = none := List.dlookup_eq_none.mpr headFresh
        have here : (e :: rest).dlookup e.1 = some e.2 := List.dlookup_cons_eq rest e.1 e.2
        cases found : f e.1 e.2 with
        | none => simp [found, ih restDistinct, absent, here]
        | some v => simp [found, here]
      · cases found : f e.1 e.2 with
        | none => simp [found, ih restDistinct, List.dlookup_cons_ne _ _ same]
        | some v =>
          simp [found, ih restDistinct, List.dlookup_cons_ne _ _ same,
            List.dlookup_cons_ne _ (⟨e.1, v⟩ : Sigma fun _ : κ => μ) same]
  exact general m.entries m.nodupKeys

/-- When every entry's weight splits into what stays and what is given up, so does the total. -/
theorem total_mapMaybe (weight lost : κ → ν → Nat) (f : κ → ν → Option ν) (m : KeyedMap κ ν)
    (splits : ∀ key v, m.lookup key = some v →
      weight key v = ((f key v).map (weight key)).getD 0 + lost key v) :
    total weight (mapMaybe f m) + total lost m = total weight m := by
  have general : ∀ l : List (Sigma fun _ : κ => ν),
      (∀ e ∈ l, weight e.1 e.2 = ((f e.1 e.2).map (weight e.1)).getD 0 + lost e.1 e.2) →
      ((l.filterMap (fun e => (f e.1 e.2).map
          (fun v => (⟨e.1, v⟩ : Sigma fun _ : κ => ν)))).map (fun e => weight e.1 e.2)).sum
        + (l.map (fun e => lost e.1 e.2)).sum = (l.map (fun e => weight e.1 e.2)).sum := by
    intro l holds
    induction l with
    | nil => simp
    | cons e rest ih =>
      have tail := ih (fun e' member => holds e' (by simp [member]))
      have head := holds e (by simp)
      cases found : f e.1 e.2 with
      | none => simp [found] at head ⊢; omega
      | some v => simp [found] at head ⊢; omega
  exact general m.entries (fun e member => splits e.1 e.2 (AList.mem_lookup_iff.mpr member))

/-- The total sums what every key contributes. -/
theorem total_eq_sum (weight : κ → ν → Nat) (m : KeyedMap κ ν) :
    total weight m = ∑ key ∈ m.entries.keys.toFinset, weightAt weight m key := by
  have listed : ∀ e ∈ m.entries, weightAt weight m e.1 = weight e.1 e.2 := by
    intro e member
    have found : m.lookup e.1 = some e.2 := AList.mem_lookup_iff.mpr member
    simp [weightAt, found]
  rw [List.sum_toFinset _ m.nodupKeys, List.keys, List.map_map]
  exact congrArg List.sum (List.map_congr_left (fun e member => (listed e member).symm))

/-- Maps to whose totals every key contributes the same have the same total. -/
theorem total_eq_of_weightAt (weight : κ → ν → Nat) (other : κ → μ → Nat) (m : KeyedMap κ ν)
    (m' : KeyedMap κ μ) (same : ∀ key, weightAt weight m key = weightAt other m' key) :
    total weight m = total other m' := by
  -- Both sums may range over the keys of either map, where the absent ones weigh nothing.
  have widened : ∀ {ν' : Type} (w : κ → ν' → Nat) (map : KeyedMap κ ν') (keys : Finset κ),
      map.entries.keys.toFinset ⊆ keys → total w map = ∑ key ∈ keys, weightAt w map key := by
    intro ν' w map keys within
    rw [total_eq_sum]
    refine Finset.sum_subset within (fun key _ absent => ?_)
    have unlisted : map.lookup key = none := by
      apply AList.lookup_eq_none.mpr
      show key ∉ map.entries.keys
      simpa using absent
    simp [weightAt, unlisted]
  rw [widened weight m _ Finset.subset_union_left,
    widened other m' _ Finset.subset_union_right]
  exact Finset.sum_congr rfl (fun key _ => same key)

/-- One key never weighs more than the whole map. -/
theorem weightAt_le_total (weight : κ → ν → Nat) (m : KeyedMap κ ν) (key : κ) :
    weightAt weight m key ≤ total weight m := by
  have split := total_erase weight m key
  omega

/-- A key inserted is there under its own value alone. -/
theorem lookup_insert_if (m : KeyedMap κ ν) (key other : κ) (v : ν) :
    (m.insert key v).lookup other = if other = key then some v else m.lookup other := by
  by_cases here : other = key
  · rw [if_pos here, here]
    exact AList.lookup_insert m
  · rw [if_neg here]
    exact AList.lookup_insert_ne here

/-- A key erased is gone alone. -/
theorem lookup_erase_if (m : KeyedMap κ ν) (key other : κ) :
    (m.erase key).lookup other = if other = key then none else m.lookup other := by
  by_cases here : other = key
  · rw [if_pos here, here]
    exact AList.lookup_erase key m
  · rw [if_neg here]
    exact AList.lookup_erase_ne here

/-- Inserting other keys leaves a key's value. -/
theorem lookup_foldl_insert_of_notMem {α : Type} (key : α → κ) (value : α → ν) {k : κ} (l : List α)
    (m : KeyedMap κ ν) (other : k ∉ l.map key) :
    (l.foldl (fun m a => m.insert (key a) (value a)) m).lookup k = m.lookup k := by
  induction l generalizing m with
  | nil => rfl
  | cons a rest ih =>
    obtain ⟨apart, absent⟩ := not_or.mp (fun either => other (List.mem_cons.mpr either))
    exact (ih (m.insert (key a) (value a)) absent).trans (AList.lookup_insert_ne apart)

/-- Inserting distinct keys leaves each with its own value. -/
theorem lookup_foldl_insert {α : Type} (key : α → κ) (value : α → ν) {l : List α} (nodup : (l.map key).Nodup)
    (m : KeyedMap κ ν) {a : α} (member : a ∈ l) :
    (l.foldl (fun m a => m.insert (key a) (value a)) m).lookup (key a) = some (value a) := by
  induction l generalizing m with
  | nil => cases member
  | cons b rest ih =>
    obtain ⟨absent, tail⟩ := List.nodup_cons.mp nodup
    rcases List.mem_cons.mp member with rfl | later
    · exact (lookup_foldl_insert_of_notMem key value rest _ absent).trans (AList.lookup_insert m)
    · exact ih tail _ later

end KeyedMap

end Nightdrop
