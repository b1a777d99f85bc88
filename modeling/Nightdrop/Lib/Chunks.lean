import Nightdrop.Lib.Text

/-! Bytes cut into chunks, each led by a header that says how long it is, and chunks rewritten where they stand. -/

namespace Nightdrop

/-- A chunk: its header and what it holds. -/
structure Chunk where
  header : Bytes
  body : Bytes
deriving DecidableEq

def Chunk.bytes (c : Chunk) : Bytes := c.header ++ c.body

/-- The bytes of chunks that stand one behind the other. -/
def joined (list : List Chunk) : Bytes := list.flatMap Chunk.bytes

theorem joined_cons (c : Chunk) (list : List Chunk) : joined (c :: list) = c.bytes ++ joined list := List.flatMap_cons

theorem joined_append (list more : List Chunk) : joined (list ++ more) = joined list ++ joined more := List.flatMap_append

/-- A reading of headers: how long the one that leads some bytes is, and the whole of its chunk. -/
structure Heading where
  read : Bytes → Option (Nat × Nat)
  fits : ∀ {data : Bytes} {header size : Nat}, read data = some (header, size) →
    0 < header ∧ header ≤ size ∧ size ≤ data.length

namespace Heading

variable {heading : Heading} {data rest rest' : Bytes} {list list' : List Chunk} {c c' : Chunk}

/-- The chunks that lead some bytes, in so many steps, and what follows the last of them. -/
def cutIn (heading : Heading) : Nat → Bytes → List Chunk × Bytes
  | 0, data => ([], data)
  | steps + 1, data =>
    match heading.read data with
    | none => ([], data)
    | some (header, size) =>
      let more := cutIn heading steps (data.drop size)
      (⟨data.take header, (data.take size).drop header⟩ :: more.1, more.2)

def cut (heading : Heading) (data : Bytes) : List Chunk × Bytes := heading.cutIn data.length data

/-- The chunks that lead some bytes are these, and behind them no header is read. -/
inductive Cuts (heading : Heading) : Bytes → List Chunk → Bytes → Prop where
  | stop {rest : Bytes} (unled : heading.read rest = none) : Cuts heading rest [] rest
  | next {c : Chunk} {data rest : Bytes} {list : List Chunk}
      (led : heading.read (c.bytes ++ data) = some (c.header.length, c.bytes.length))
      (more : Cuts heading data list rest) : Cuts heading (c.bytes ++ data) (c :: list) rest

/-- The chunk that a header leads, put together again. -/
theorem led_split {header size : Nat} (read : heading.read data = some (header, size)) :
    (⟨data.take header, (data.take size).drop header⟩ : Chunk).bytes ++ data.drop size = data
    ∧ (data.take header).length = header
    ∧ (⟨data.take header, (data.take size).drop header⟩ : Chunk).bytes.length = size := by
  have fits := heading.fits read
  have whole : (⟨data.take header, (data.take size).drop header⟩ : Chunk).bytes = data.take size := by
    have split := List.take_append_drop header (data.take size)
    rwa [List.take_take, Nat.min_eq_left fits.2.1] at split
  rw [whole, List.take_append_drop, List.length_take, List.length_take]
  exact ⟨rfl, by omega, by omega⟩

theorem cutIn_cuts (heading : Heading) {steps : Nat} (enough : data.length ≤ steps) :
    heading.Cuts data (heading.cutIn steps data).1 (heading.cutIn steps data).2 := by
  -- By induction on the steps: each chunk takes one, and at least a byte.
  induction steps generalizing data with
  | zero =>
    have empty : data = [] := List.eq_nil_of_length_eq_zero (by omega)
    subst empty
    refine .stop ?_
    -- A chunk is not empty, so none leads the empty bytes.
    cases read : heading.read [] with
    | none => rfl
    | some both =>
      obtain ⟨header, size⟩ := both
      have fits := heading.fits read
      simp only [List.length_nil] at fits
      omega
  | succ steps ih =>
    unfold cutIn
    cases read : heading.read data with
    | none => exact .stop read
    | some both =>
      obtain ⟨header, size⟩ := both
      have fits := heading.fits read
      obtain ⟨whole, long, size'⟩ := led_split read
      have more := @ih (data.drop size) (by rw [List.length_drop]; omega)
      have led := read
      rw [← whole] at led
      have next := Cuts.next (c := ⟨data.take header, (data.take size).drop header⟩)
        (by rw [size']; simpa only [long] using led) more
      rwa [whole] at next

theorem cut_cuts (heading : Heading) (data : Bytes) :
    heading.Cuts data (heading.cut data).1 (heading.cut data).2 :=
  heading.cutIn_cuts (Nat.le_refl _)

/-- What is cut is all there is. -/
theorem Cuts.joined (cuts : heading.Cuts data list rest) : joined list ++ rest = data := by
  induction cuts with
  | stop _ => rfl
  | next _ _ ih => rw [Nightdrop.joined, List.flatMap_cons, List.append_assoc, ← Nightdrop.joined, ih]

/-- Bytes are cut in one way only. -/
theorem Cuts.unique (cuts : heading.Cuts data list rest) (again : heading.Cuts data list' rest') :
    list = list' ∧ rest = rest' := by
  induction cuts generalizing list' rest' with
  | stop unled =>
    cases again with
    | stop _ => exact ⟨rfl, rfl⟩
    | next led _ =>
      rw [unled] at led
      cases led
  | @next c data rest list led more ih =>
    generalize whole : c.bytes ++ data = bytes at again
    cases again with
    | stop unled =>
      rw [whole, unled] at led
      cases led
    | @next d data' _ more' led' cuts' =>
      -- The one header that is read says where both chunks end.
      rw [whole, led'] at led
      simp only [Option.some.injEq, Prod.mk.injEq] at led
      obtain ⟨same, rfl⟩ := List.append_inj whole led.2.symm
      have header : c.header = d.header ∧ c.body = d.body := List.append_inj same led.1.symm
      obtain ⟨rfl, rfl⟩ := ih cuts'
      refine ⟨?_, rfl⟩
      cases c
      cases d
      simp only at header
      rw [header.1, header.2]

theorem Cuts.cut_eq (cuts : heading.Cuts data list rest) : heading.cut data = (list, rest) := by
  obtain ⟨same, left⟩ := (heading.cut_cuts data).unique cuts
  rw [← same, ← left]

/-- A chunk that may stand in another's place: as long, and led by its header wherever the other was by its own. -/
def Replaces (heading : Heading) (c c' : Chunk) : Prop :=
  c'.bytes.length = c.bytes.length ∧ ∀ data data' : Bytes, data'.length = data.length →
    heading.read (c.bytes ++ data) = some (c.header.length, c.bytes.length) →
    heading.read (c'.bytes ++ data') = some (c'.header.length, c'.bytes.length)

/-- Chunks in the places of others are as long as these. -/
theorem joined_length (same : List.Forall₂ heading.Replaces list list') :
    (Nightdrop.joined list').length = (Nightdrop.joined list).length := by
  induction same with
  | nil => rfl
  | cons head _ ih =>
    simp only [Nightdrop.joined, List.flatMap_cons, List.length_append] at ih ⊢
    rw [ih, head.1]

/-- Chunks rewritten where they stand are cut where they were, and what follows them is cut by itself. -/
theorem Cuts.rewrite {more : List Chunk} {left : Bytes} (cuts : heading.Cuts data list rest)
    (same : List.Forall₂ heading.Replaces list list') (long : rest'.length = rest.length)
    (behind : heading.Cuts rest' more left) :
    heading.Cuts (Nightdrop.joined list' ++ rest') (list' ++ more) left := by
  -- Along the cut: each chunk stands where another stood, so the next one is read as before.
  induction cuts generalizing list' with
  | stop _ =>
    cases same
    exact behind
  | next led more' ih =>
    cases same with
    | cons head tail =>
      have later := ih tail long
      -- The bytes behind the chunk are as many as they were.
      have count := congrArg List.length more'.joined
      rw [List.length_append] at count
      have next := Cuts.next (head.2 _ (Nightdrop.joined _ ++ rest')
        (by rw [List.length_append, joined_length tail, long, count]) led) later
      rwa [← List.append_assoc] at next

end Heading

section Places

variable {β σ ε : Type} {step : Bytes × σ → β → Except ε (Bytes × σ)}

/-- Each chunk with the place where it begins. -/
def places (place : Nat → Chunk → β) : Nat → List Chunk → List β
  | _, [] => []
  | start, c :: rest => place start c :: places place (start + c.bytes.length) rest

/-- Edits the chunks one after the other, up to the first failure. -/
def editAll (edit : Chunk → σ → Except ε (Chunk × σ)) : List Chunk → σ → Except ε (List Chunk × σ)
  | [], s => .ok ([], s)
  | c :: rest, s =>
    match edit c s with
    | .error e => .error e
    | .ok (c', s') =>
      match editAll edit rest s' with
      | .error e => .error e
      | .ok (rest', s'') => .ok (c' :: rest', s'')

/-- A step on all the bytes at a chunk's place is an edit of the chunk alone. -/
def EditsThere (step : Bytes × σ → β → Except ε (Bytes × σ)) (place : Nat → Chunk → β)
    (edit : Chunk → σ → Except ε (Chunk × σ)) (c : Chunk) : Prop :=
  ∀ before behind s, step (before ++ (c.bytes ++ behind), s) (place before.length c)
    = (edit c s).map fun (c', s') => (before ++ (c'.bytes ++ behind), s')

/-- Steps at the places of chunks, one after the other, edit the chunks one after the other. -/
theorem foldlM_places {place : Nat → Chunk → β} {edit : Chunk → σ → Except ε (Chunk × σ)} {list : List Chunk}
    (there : ∀ c ∈ list, EditsThere step place edit c)
    (long : ∀ c ∈ list, ∀ s c' s', edit c s = .ok (c', s') → c'.bytes.length = c.bytes.length)
    (before behind : Bytes) (s : σ) :
    (places place before.length list).foldlM step (before ++ (joined list ++ behind), s)
      = (editAll edit list s).map fun (list', s') => (before ++ (joined list' ++ behind), s') := by
  induction list generalizing before s with
  | nil => rfl
  | cons c rest ih =>
    have first := there c (by simp) before (joined rest ++ behind) s
    have shape : before ++ (joined (c :: rest) ++ behind) = before ++ (c.bytes ++ (joined rest ++ behind)) := by
      rw [joined, List.flatMap_cons, ← joined, List.append_assoc]
    rw [shape, places, List.foldlM_cons, first, editAll]
    cases edited : edit c s with
    | error e => rfl
    | ok both =>
      obtain ⟨c', s'⟩ := both
      -- The chunks behind are where they were, for the edited one is as long.
      have place' := long c (by simp) s c' s' edited
      have later := ih (fun d member => there d (by simp [member])) (fun d member => long d (by simp [member]))
        (before ++ c'.bytes) s'
      rw [List.length_append, place', List.append_assoc] at later
      simp only [Except.map, bind, Except.bind]
      rw [later]
      cases editAll edit rest s' with
      | error e => rfl
      | ok both =>
        obtain ⟨rest', s''⟩ := both
        simp only [Except.map, joined, List.flatMap_cons, List.append_assoc]

/-- What holds of each chunk and its edit holds of all of them in order. -/
theorem editAll_forall₂ {edit : Chunk → σ → Except ε (Chunk × σ)} {R : Chunk → Chunk → Prop} {list list' : List Chunk}
    {s s' : σ} (each : ∀ c ∈ list, ∀ s c' s', edit c s = .ok (c', s') → R c c')
    (edited : editAll edit list s = .ok (list', s')) : List.Forall₂ R list list' := by
  induction list generalizing list' s with
  | nil =>
    cases edited
    exact .nil
  | cons c rest ih =>
    unfold editAll at edited
    cases first : edit c s with
    | error e => simp [first] at edited
    | ok both =>
      obtain ⟨c', s₁⟩ := both
      simp only [first] at edited
      cases later : editAll edit rest s₁ with
      | error e => simp [later] at edited
      | ok both =>
        obtain ⟨rest', s₂⟩ := both
        simp only [later, Except.ok.injEq, Prod.mk.injEq] at edited
        obtain ⟨rfl, rfl⟩ := edited
        exact .cons (each c (by simp) s c' s₁ first)
          (ih (fun d member => each d (by simp [member])) later)

/-- What stands on the right is related to something on the left. -/
theorem mem_forall₂_right {R : Chunk → Chunk → Prop} {list list' : List Chunk} (each : List.Forall₂ R list list')
    {d : Chunk} (member : d ∈ list') : ∃ c ∈ list, R c d := by
  induction each with
  | nil => cases member
  | @cons c c' rest rest' head _ ih =>
    rcases List.mem_cons.mp member with rfl | later
    · exact ⟨c, by simp, head⟩
    · obtain ⟨b, inside, related⟩ := ih later
      exact ⟨b, by simp [inside], related⟩

/-- Where an edit fails, it fails at one of the chunks. -/
theorem editAll_error {edit : Chunk → σ → Except ε (Chunk × σ)} {list : List Chunk} {s : σ} {e : ε}
    (failed : editAll edit list s = .error e) : ∃ c ∈ list, ∃ s, edit c s = .error e := by
  induction list generalizing s with
  | nil => cases failed
  | cons c rest ih =>
    unfold editAll at failed
    cases first : edit c s with
    | error e' =>
      simp only [first, Except.error.injEq] at failed
      exact ⟨c, by simp, s, by rw [first, failed]⟩
    | ok both =>
      simp only [first] at failed
      cases later : editAll edit rest both.2 with
      | error e' =>
        simp only [later, Except.error.injEq] at failed
        obtain ⟨d, member, s', bad⟩ := ih (failed ▸ later)
        exact ⟨d, by simp [member], s', bad⟩
      | ok more => simp [later] at failed

/-- Chunks that an edit leaves as they are stay as they are together. -/
theorem editAll_still {edit : Chunk → σ → Except ε (Chunk × σ)} {list : List Chunk}
    (still : ∀ c ∈ list, ∀ s, ∃ s', edit c s = .ok (c, s')) (s : σ) : ∃ s', editAll edit list s = .ok (list, s') := by
  induction list generalizing s with
  | nil => exact ⟨s, rfl⟩
  | cons c rest ih =>
    obtain ⟨s₁, first⟩ := still c (by simp) s
    obtain ⟨s₂, later⟩ := ih (fun d member => still d (by simp [member])) s₁
    exact ⟨s₂, by simp only [editAll, first, later]⟩

end Places
end Nightdrop
