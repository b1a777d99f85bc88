import Nightdrop.Proofs.Node.ScrubClean

/-! A Matroska video is scrubbed where it stands, element by element. -/

namespace Nightdrop
namespace Scrub

open Movie (slice slice_of_le)

variable {data before behind out : Bytes} {list list' : List Chunk} {c c' : Chunk} {s s' : Scrubbed}

/-- The size that a size field says, and none for an unknown one. -/
def sizeOf (bytes : Bytes) (first : UInt8) : Option Nat :=
  let v := (bytes.drop 1).foldl (fun v b => v * 256 + b.toNat) (first.toNat % 2 ^ (8 - (leadingZeros first + 1)))
  if v = 2 ^ (7 * (leadingZeros first + 1)) - 1 then none else some v

/-- An id is read exactly where its first byte says how long it is and all of it is there. -/
theorem ebmlId_eq_some {p id len : Nat} :
    ebmlId data p = some (id, len) ↔ ∃ first, data[p]? = some first ∧ len = leadingZeros first + 1 ∧ len ≤ 4
      ∧ p + len ≤ data.length ∧ id = ofBigEndian ((data.drop p).take len) := by
  unfold ebmlId
  cases data[p]? with
  | none => simp
  | some first =>
    simp only [Option.bind_eq_bind, Option.bind_some, Option.some.injEq, exists_eq_left', Option.pure_def]
    constructor
    · intro read
      split at read
      · cases read
      · obtain ⟨bytes, found, same⟩ := Option.bind_eq_some_iff.mp read
        have run := slice_eq_some found
        rw [Nat.add_sub_cancel_left] at run
        cases same
        exact ⟨rfl, by omega, run.2, by rw [run.1]⟩
    · rintro ⟨rfl, short, within, rfl⟩
      rw [if_neg (by omega), slice_of_le (by omega) within, Option.bind_some, List.drop_take, Nat.add_sub_cancel_left]

/-- A size is read exactly where its first byte says how long it is and all of it is there. -/
theorem ebmlSize_eq_some {p len : Nat} {size : Option Nat} :
    ebmlSize data p = some (size, len) ↔ ∃ first, data[p]? = some first ∧ len = leadingZeros first + 1 ∧ len ≤ 8
      ∧ p + len ≤ data.length ∧ size = sizeOf ((data.drop p).take len) first := by
  unfold ebmlSize sizeOf
  cases data[p]? with
  | none => simp
  | some first =>
    simp only [Option.bind_eq_bind, Option.bind_some, Option.some.injEq, exists_eq_left', Option.pure_def]
    constructor
    · intro read
      split at read
      · cases read
      · obtain ⟨bytes, found, same⟩ := Option.bind_eq_some_iff.mp read
        have run := slice_eq_some found
        rw [Nat.add_sub_cancel_left] at run
        cases same
        exact ⟨rfl, by omega, run.2, by rw [run.1]⟩
    · rintro ⟨rfl, short, within, rfl⟩
      rw [if_neg (by omega), slice_of_le (by omega) within, Option.bind_some, List.drop_take, Nat.add_sub_cancel_left]

/-- The bytes of an element's header say this id and this size. -/
def Heads (header : Bytes) (id : Nat) (size : Option Nat) : Prop :=
  ∃ idLen, ebmlId header 0 = some (id, idLen) ∧ ebmlSize header idLen = some (size, header.length - idLen)

theorem Heads.pos {header : Bytes} {id : Nat} {size : Option Nat} (heads : Heads header id size) : 0 < header.length := by
  obtain ⟨idLen, named, _⟩ := heads
  obtain ⟨first, _, long, _, within, _⟩ := ebmlId_eq_some.mp named
  omega

/-- What is read of bytes is read of their beginning where that holds all of it, and the other way round. -/
theorem ebmlId_append {header more : Bytes} {p id len : Nat} :
    ebmlId header p = some (id, len) ↔ ebmlId (header ++ more) p = some (id, len) ∧ p + len ≤ header.length := by
  rw [ebmlId_eq_some, ebmlId_eq_some]
  constructor
  · rintro ⟨first, found, long, short, within, rfl⟩
    refine ⟨⟨first, ?_, long, short, ?_, ?_⟩, within⟩
    · rw [List.getElem?_append_left (by omega), found]
    · rw [List.length_append]
      omega
    · rw [List.drop_append_of_le_length (by omega), List.take_append_of_le_length (by rw [List.length_drop]; omega)]
  · rintro ⟨⟨first, found, long, short, _, rfl⟩, within⟩
    refine ⟨first, ?_, long, short, within, ?_⟩
    · rwa [List.getElem?_append_left (by omega)] at found
    · rw [List.drop_append_of_le_length (by omega), List.take_append_of_le_length (by rw [List.length_drop]; omega)]

theorem ebmlSize_append {header more : Bytes} {p len : Nat} {size : Option Nat} :
    ebmlSize header p = some (size, len) ↔ ebmlSize (header ++ more) p = some (size, len) ∧ p + len ≤ header.length := by
  rw [ebmlSize_eq_some, ebmlSize_eq_some]
  constructor
  · rintro ⟨first, found, long, short, within, rfl⟩
    refine ⟨⟨first, ?_, long, short, ?_, ?_⟩, within⟩
    · rw [List.getElem?_append_left (by omega), found]
    · rw [List.length_append]
      omega
    · rw [List.drop_append_of_le_length (by omega), List.take_append_of_le_length (by rw [List.length_drop]; omega)]
  · rintro ⟨⟨first, found, long, short, _, rfl⟩, within⟩
    refine ⟨first, ?_, long, short, within, ?_⟩
    · rwa [List.getElem?_append_left (by omega)] at found
    · rw [List.drop_append_of_le_length (by omega), List.take_append_of_le_length (by rw [List.length_drop]; omega)]

/-- What is read at a place is read of the bytes from there on. -/
theorem ebmlId_behind {p id len : Nat} :
    ebmlId (before ++ data) (before.length + p) = some (id, len) ↔ ebmlId data p = some (id, len) := by
  rw [ebmlId_eq_some, ebmlId_eq_some, List.getElem?_append_right (by omega), Nat.add_sub_cancel_left,
    List.drop_length_add_append, List.length_append]
  simp only [Nat.add_assoc, Nat.add_le_add_iff_left]

theorem ebmlSize_behind {p len : Nat} {size : Option Nat} :
    ebmlSize (before ++ data) (before.length + p) = some (size, len) ↔ ebmlSize data p = some (size, len) := by
  rw [ebmlSize_eq_some, ebmlSize_eq_some, List.getElem?_append_right (by omega), Nat.add_sub_cancel_left,
    List.drop_length_add_append, List.length_append]
  simp only [Nat.add_assoc, Nat.add_le_add_iff_left]

/-- An element is read exactly where the bytes go on with a header that says it, and it ends in time. -/
theorem ebmlAt_eq_some {limit id body : Nat} {finish : Option Nat} {start : Nat} :
    ebmlAt (before ++ data) before.length limit = some ⟨id, start, body, finish⟩ ↔
      ∃ header more size, data = header ++ more ∧ Heads header id size ∧ start = before.length
        ∧ body = before.length + header.length ∧ finish = size.map (body + ·) ∧ ∀ last ∈ finish, last ≤ limit := by
  have id' : ∀ i l, ebmlId (before ++ data) before.length = some (i, l) ↔ ebmlId data 0 = some (i, l) := by
    intro i l
    have there := @ebmlId_behind data before 0 i l
    rwa [Nat.add_zero] at there
  unfold ebmlAt
  simp only [Option.bind_eq_bind, Option.bind_eq_some_iff, Prod.exists, Option.pure_def]
  constructor
  · rintro ⟨i, idLen, named, size, sizeLen, sized, read⟩
    have named' := (id' i idLen).mp named
    have sized' := ebmlSize_behind.mp sized
    have within : idLen + sizeLen ≤ data.length := by
      obtain ⟨_, _, _, _, within, _⟩ := ebmlSize_eq_some.mp sized'
      exact within
    -- The header is the bytes of the id and of the size.
    have long : (data.take (idLen + sizeLen)).length = idLen + sizeLen := by
      rw [List.length_take]
      omega
    have split := (List.take_append_drop (idLen + sizeLen) data).symm
    have heads : Heads (data.take (idLen + sizeLen)) i size := by
      refine ⟨idLen, ?_, ?_⟩
      · rw [split] at named'
        exact ebmlId_append.mpr ⟨named', by omega⟩
      · rw [split] at sized'
        rw [long, Nat.add_sub_cancel_left]
        exact ebmlSize_append.mpr ⟨sized', by omega⟩
    refine ⟨_, _, size, split, ?_⟩
    rw [long]
    cases size with
    | none =>
      cases read
      exact ⟨heads, rfl, by omega, rfl, by simp⟩
    | some size =>
      simp only at read
      split at read
      · cases read
        refine ⟨heads, rfl, by omega, rfl, ?_⟩
        simpa using by assumption
      · cases read
  · rintro ⟨header, more, size, rfl, ⟨idLen, named, sized⟩, rfl, rfl, rfl, within⟩
    have fits : idLen < header.length := by
      obtain ⟨first, _, long, _, within', _⟩ := ebmlSize_eq_some.mp sized
      omega
    refine ⟨id, idLen, (id' _ _).mpr (ebmlId_append.mp named).1, size, header.length - idLen,
      ebmlSize_behind.mpr (ebmlSize_append.mp sized).1, ?_⟩
    have body : before.length + idLen + (header.length - idLen) = before.length + header.length := by omega
    rw [body]
    cases size with
    | none => rfl
    | some size =>
      simp only [Option.map_some, Option.mem_some_iff, forall_eq'] at within ⊢
      rw [if_pos within]

/-- An element of a known size among other bytes is read as it is by itself. -/
theorem ebmlAt_between {id start body finish : Nat} :
    ebmlAt (before ++ (data ++ behind)) before.length (before.length + data.length) = some ⟨id, start, body, some finish⟩ ↔
      ∃ header more size, data = header ++ more ∧ Heads header id (some size) ∧ start = before.length
        ∧ body = before.length + header.length ∧ finish = before.length + (header.length + size)
        ∧ header.length + size ≤ data.length := by
  rw [ebmlAt_eq_some]
  constructor
  · rintro ⟨header, more, size, shape, heads, rfl, rfl, same, within⟩
    obtain ⟨size, rfl, rfl⟩ := Option.map_eq_some_iff.mp same.symm
    have fits := within _ rfl
    -- The header ends before the bytes behind begin.
    have lead : header = data.take header.length := by
      have first := congrArg (List.take header.length) shape
      rw [List.take_left, List.take_append_of_le_length (by omega)] at first
      exact first.symm
    refine ⟨header, data.drop header.length, size, ?_, heads, rfl, rfl, by omega, by omega⟩
    have split := (List.take_append_drop header.length data).symm
    rwa [← lead] at split
  · rintro ⟨header, more, size, rfl, heads, rfl, rfl, rfl, within⟩
    refine ⟨header, more ++ behind, some size, by rw [List.append_assoc], heads, rfl, rfl, ?_, ?_⟩
    · rw [Option.map_some, Nat.add_assoc]
    · intro last same
      cases same
      omega

/-- The headers of the elements of known size of a Matroska file. -/
def ebmlHeading : Heading where
  read data :=
    match ebmlAt data 0 data.length with
    | some ⟨_, _, body, some finish⟩ => some (body, finish)
    | _ => none
  fits := by
    intro data header size read
    split at read
    · rename_i id start body finish found
      cases read
      have there := (@ebmlAt_between data [] [] id start header size).mp (by
          simpa only [List.nil_append, List.append_nil, List.length_nil, Nat.zero_add] using found)
      obtain ⟨bytes, _, count, _, heads, _, rfl, rfl, within⟩ := there
      have positive := heads.pos
      simp only [List.length_nil]
      omega
    · cases read

theorem ebmlHeading_read {header size : Nat} :
    ebmlHeading.read data = some (header, size) ↔ ∃ bytes more id body, data = bytes ++ more ∧ Heads bytes id (some body)
      ∧ header = bytes.length ∧ size = bytes.length + body ∧ size ≤ data.length := by
  have there := fun id start => @ebmlAt_between data [] [] id start header size
  simp only [List.nil_append, List.append_nil, List.length_nil, Nat.zero_add] at there
  constructor
  · intro read
    unfold ebmlHeading at read
    dsimp only at read
    split at read
    · rename_i id start body finish found
      cases read
      obtain ⟨bytes, more, count, shape, heads, _, long, whole, within⟩ := (there id start).mp found
      exact ⟨bytes, more, id, count, shape, heads, long, whole, by omega⟩
    · cases read
  · rintro ⟨bytes, more, id, body, shape, heads, long, whole, within⟩
    have found := (there id 0).mpr ⟨bytes, more, body, shape, heads, rfl, long, whole, by omega⟩
    unfold ebmlHeading
    simp only [found]

/-- The id of an element. -/
def elementId (c : Chunk) : Nat := ((ebmlId c.header 0).map fun both => both.1).getD 0

theorem Heads.elementId {id : Nat} {size : Option Nat} (heads : Heads c.header id size) : elementId c = id := by
  obtain ⟨idLen, named, _⟩ := heads
  rw [Scrub.elementId, named, Option.map_some, Option.getD_some]

/-- An element leads the bytes exactly where its header says its id and the size of its body. -/
theorem ebml_led : ebmlHeading.read (c.bytes ++ data) = some (c.header.length, c.bytes.length) ↔
    Heads c.header (elementId c) (some c.body.length) := by
  rw [ebmlHeading_read]
  constructor
  · rintro ⟨bytes, more, id, body, shape, heads, long, whole, _⟩
    rw [Chunk.bytes, List.append_assoc] at shape
    obtain ⟨same, _⟩ := List.append_inj shape long
    subst same
    have size : body = c.body.length := by
      simp only [Chunk.bytes, List.length_append] at whole
      omega
    rwa [heads.elementId, ← size]
  · intro heads
    refine ⟨c.header, c.body ++ data, elementId c, c.body.length, ?_, heads, rfl, ?_, ?_⟩
    · rw [Chunk.bytes, List.append_assoc]
    · rw [Chunk.bytes, List.length_append]
    · rw [List.length_append]
      omega

/-- An element of the same length stands in an element's place. -/
theorem ebml_replaces (heads : Heads c'.header (elementId c') (some c'.body.length))
    (long : c'.bytes.length = c.bytes.length) : ebmlHeading.Replaces c c' :=
  ⟨long, fun _ _ _ _ => ebml_led.mpr heads⟩

/-- An element whose place is taken by a void one. -/
def voided (c : Chunk) : Chunk :=
  ⟨voidHead c.bytes.length, List.replicate (c.bytes.length - (voidHead c.bytes.length).length) 0⟩

theorem voidHead_length {len : Nat} (some' : 1 ≤ len) : (voidHead len).length ≤ len := by
  unfold voidHead
  split
  · simp only [List.length_cons, List.length_drop, length_bigEndian]
    omega
  · split
    · simp only [List.length_cons, List.length_nil]
      omega
    · exact some'

theorem voided_length (some' : 1 ≤ c.bytes.length) : (voided c).bytes.length = c.bytes.length := by
  have fits := voidHead_length some'
  simp only [voided, Chunk.bytes, List.length_append, List.length_replicate] at fits ⊢
  omega

/-- A number that leaves the first byte empty is written behind it. -/
theorem bigEndian_small {width n : Nat} (fits : n < 256 ^ width) : bigEndian (width + 1) n = 0 :: bigEndian width n := by
  induction width generalizing n with
  | zero =>
    -- Only zero fits into no bytes.
    have zero : n = 0 := by simpa using fits
    subst zero
    rfl
  | succ width ih =>
    rw [Nat.pow_succ] at fits
    rw [bigEndian, ih (Nat.div_lt_of_lt_mul (by rw [Nat.mul_comm]; exact fits))]
    rfl

/-- The header of a void element says the bytes behind it. -/
theorem voidHead_heads {len : Nat} (some' : 2 ≤ len) (small : len < 2 ^ 56) :
    Heads (voidHead len) 0xEC (some (len - (voidHead len).length)) := by
  by_cases long : 9 ≤ len
  · have fits : len - 9 < 256 ^ 7 := by
      have same : (256 : Nat) ^ 7 = 2 ^ 56 := by decide
      omega
    have shape : voidHead len = 0xEC :: 0x01 :: bigEndian 7 (len - 9) := by
      rw [voidHead, if_pos long, bigEndian_small fits, List.drop_one, List.tail_cons]
    have whole : (voidHead len).length = 9 := by
      rw [shape, List.length_cons, List.length_cons, length_bigEndian]
    refine ⟨1, ebmlId_eq_some.mpr ⟨0xEC, ?_, by decide, by decide, by omega, ?_⟩,
      ebmlSize_eq_some.mpr ⟨0x01, ?_, by rw [whole]; decide, by omega, by omega, ?_⟩⟩
    · rw [shape]
      rfl
    · rw [shape]
      rfl
    · rw [shape]
      rfl
    · -- The seven bytes behind the marker say the size, which is none of the unknown ones.
      rw [whole, shape, List.drop_one, List.tail_cons, List.take_of_length_le (by simp), sizeOf, List.drop_one,
        List.tail_cons]
      have said := ofBigEndian_bigEndian fits
      rw [ofBigEndian] at said
      have start : (0x01 : UInt8).toNat % 2 ^ (8 - (leadingZeros 0x01 + 1)) = 0 := by decide
      have marker : 7 * (leadingZeros 0x01 + 1) = 56 := by decide
      rw [start, said, marker]
      rw [if_neg (by omega)]
  · have few : len ∈ List.range' 2 7 := by
      rw [List.mem_range'_1]
      omega
    -- The size of a short one is in its second byte.
    have each : ∀ n ∈ List.range' 2 7, ebmlId (voidHead n) 0 = some (0xEC, 1)
        ∧ ebmlSize (voidHead n) 1 = some (some (n - (voidHead n).length), (voidHead n).length - 1) := by decide
    exact ⟨1, each len few⟩

theorem voided_heads (some' : 2 ≤ c.bytes.length) (small : c.bytes.length < 2 ^ 56) :
    Heads (voided c).header (elementId (voided c)) (some (voided c).body.length) := by
  have heads := voidHead_heads some' small
  have body : (voided c).body.length = c.bytes.length - (voidHead c.bytes.length).length := by
    rw [voided, List.length_replicate]
  rw [body, Heads.elementId (c := voided c) heads]
  exact heads

/-- Voiding an element where it stands is voiding it by itself. -/
theorem ebmlVoid_there (some' : 1 ≤ c.bytes.length) (s : Scrubbed) :
    ebmlVoid (before ++ (c.bytes ++ behind), s) before.length (before.length + c.bytes.length)
      = .ok (before ++ ((voided c).bytes ++ behind), { s with blanked := s.blanked + 1 }) := by
  have fits := voidHead_length some'
  have filled := @fill_between before behind c.bytes
  -- The first of the zeros make way for the header.
  have split : List.replicate c.bytes.length (0 : UInt8) = List.replicate (voidHead c.bytes.length).length 0
      ++ List.replicate (c.bytes.length - (voidHead c.bytes.length).length) 0 := by
    rw [List.replicate_append_replicate]
    congr 1
    omega
  have written := @overwrite_between before
    (List.replicate (c.bytes.length - (voidHead c.bytes.length).length) 0 ++ behind)
    (List.replicate (voidHead c.bytes.length).length 0) (voidHead c.bytes.length)
    (by rw [List.length_replicate])
  rw [← List.append_assoc (List.replicate _ _), ← split] at written
  simp only [ebmlVoid, filled, Nat.add_sub_cancel_left, written, bind, Except.bind, pure, Except.pure, Work.blank]
  have whole : (voided c).bytes = voidHead c.bytes.length
      ++ List.replicate (c.bytes.length - (voidHead c.bytes.length).length) 0 := rfl
  rw [whole, List.append_assoc]

/-- A walk over elements, up to the first that is of unknown size or does not fit. -/
def walk (step : Work → Ebml → Except Failure Work) : Nat → Work → Nat → Nat → Except Failure Work
  | 0, work, _, _ => .ok work
  | steps + 1, work, p, limit =>
    if limit ≤ p then .ok work
    else match ebmlAt work.1 p limit with
    | some ⟨id, start, body, some finish⟩ =>
      match step work ⟨id, start, body, some finish⟩ with
      | .error e => .error e
      | .ok work => walk step steps work finish limit
    | _ => .ok work

/-- An element where it stands in a file. -/
def ebmlPlace (start : Nat) (c : Chunk) : Ebml :=
  ⟨elementId c, start, start + c.header.length, some (start + c.bytes.length)⟩

/-- A walk over bytes between others edits the elements they are cut into. -/
theorem walk_between {step : Work → Ebml → Except Failure Work} {change : Chunk → Scrubbed → Except Failure (Chunk × Scrubbed)}
    {rest : Bytes} (cuts : ebmlHeading.Cuts data list rest) {steps : Nat} (enough : data.length ≤ steps)
    (there : ∀ c ∈ list, EditsThere step ebmlPlace change c)
    (long : ∀ c ∈ list, ∀ s c' s', change c s = .ok (c', s') → c'.bytes.length = c.bytes.length)
    (before behind : Bytes) (s : Scrubbed) :
    walk step steps (before ++ (data ++ behind), s) before.length (before.length + data.length)
      = (editAll change list s).map fun (list', s') => (before ++ (joined list' ++ rest ++ behind), s') := by
  induction cuts generalizing steps before s with
  | @stop rest unled =>
    have still : (editAll change [] s).map (fun x => (before ++ (joined x.1 ++ rest ++ behind), x.2))
        = .ok (before ++ (rest ++ behind), s) := rfl
    rw [still]
    cases steps with
    | zero => rfl
    | succ steps =>
      rw [walk]
      split
      · rfl
      · split
        · rename_i id start body finish found
          -- No element leads what is left.
          obtain ⟨header, more, size, shape, heads, _, _, _, within⟩ := ebmlAt_between.mp found
          have read := ebmlHeading_read.mpr ⟨header, more, id, size, shape, heads, rfl, rfl, within⟩
          rw [unled] at read
          cases read
        · rfl
  | @next c data rest list led more ih =>
    have fits := ebmlHeading.fits led
    have heads := ebml_led.mp led
    cases steps with
    | zero => omega
    | succ steps =>
      have found := @ebmlAt_between (c.bytes ++ data) before behind (elementId c) before.length
        (before.length + c.header.length) (before.length + c.bytes.length) |>.mpr ⟨c.header, c.body ++ data, c.body.length,
          by rw [Chunk.bytes, List.append_assoc], heads, rfl, rfl, by rw [Chunk.bytes, List.length_append],
          by rw [List.length_append, Chunk.bytes, List.length_append]; omega⟩
      rw [walk, if_neg (by omega)]
      simp only [found]
      have first := there c (by simp) before (data ++ behind) s
      rw [ebmlPlace, ← List.append_assoc c.bytes data behind] at first
      rw [first, editAll]
      cases edited : change c s with
      | error e => rfl
      | ok both =>
        obtain ⟨c', s'⟩ := both
        have same := long c (by simp) s c' s' edited
        -- The walk goes on behind the element, which is as long as it was.
        have later := @ih steps (by simp only [List.length_append] at enough; omega)
          (fun d member => there d (by simp [member])) (fun d member => long d (by simp [member])) (before ++ c'.bytes) s'
        rw [List.length_append, same, List.append_assoc] at later
        simp only [Except.map]
        rw [List.length_append, ← Nat.add_assoc, later]
        cases editAll change list s' with
        | error e => rfl
        | ok both => simp only [Except.map, joined_cons, List.append_assoc]

/-- What becomes of an element of the segment's information. -/
def editInfo (c : Chunk) (s : Scrubbed) : Except Failure (Chunk × Scrubbed) :=
  if elementId c = INFO_DATE_UTC then .ok (⟨c.header, List.replicate c.body.length 0⟩, { s with times := s.times + 1 })
  else if elementId c = INFO_TITLE then .ok (voided c, { s with blanked := s.blanked + 1 })
  else .ok (c, s)

/-- What becomes of an element of the segment. -/
def editSegment (c : Chunk) (s : Scrubbed) : Except Failure (Chunk × Scrubbed) :=
  if elementId c = SEG_TAGS ∨ elementId c = SEG_ATTACHMENTS then .ok (voided c, { s with blanked := s.blanked + 1 })
  else if elementId c = SEG_INFO then
    (editAll editInfo (ebmlHeading.cut c.body).1 s).map fun (list, s) =>
      (⟨c.header, joined list ++ (ebmlHeading.cut c.body).2⟩, s)
  else .ok (c, s)

/-- What the walk does at an element of the segment's information. -/
def infoStep (work : Work) (e : Ebml) : Except Failure Work :=
  if e.id = INFO_DATE_UTC then
    (fill work.1 e.body (e.finish.getD 0)).map fun data => (data, { work.2 with times := work.2.times + 1 })
  else if e.id = INFO_TITLE then ebmlVoid work e.start (e.finish.getD 0)
  else .ok work

/-- What the walk does at an element of the segment. -/
def segmentStep (work : Work) (e : Ebml) : Except Failure Work :=
  if e.id = SEG_TAGS ∨ e.id = SEG_ATTACHMENTS then ebmlVoid work e.start (e.finish.getD 0)
  else if e.id = SEG_INFO then scrubInfo (e.finish.getD 0 - e.body) work e.body (e.finish.getD 0)
  else .ok work

theorem scrubInfo_eq (steps : Nat) (work : Work) (q limit : Nat) :
    scrubInfo steps work q limit = walk infoStep steps work q limit := by
  induction steps generalizing work q with
  | zero => rfl
  | succ steps ih =>
    rw [scrubInfo, walk]
    by_cases ends : limit ≤ q
    · rw [if_pos ends, if_pos ends]
    · rw [if_neg ends, if_neg ends]
      obtain found | ⟨id, start, body, _ | finish⟩ := ebmlAt work.1 q limit
      · rfl
      · -- An element of unknown size ends both walks.
        rfl
      · simp only [infoStep, Option.getD_some]
        split
        · cases fill work.1 body finish <;> simp [Except.map, bind, Except.bind, pure, Except.pure, ih]
        · split
          · cases ebmlVoid work start finish <;> simp [bind, Except.bind, ih]
          · simp [bind, Except.bind, ih]

theorem scrubSegment_eq (steps : Nat) (work : Work) (p limit : Nat) :
    scrubSegment steps work p limit = walk segmentStep steps work p limit := by
  induction steps generalizing work p with
  | zero => rfl
  | succ steps ih =>
    rw [scrubSegment, walk]
    by_cases ends : limit ≤ p
    · rw [if_pos ends, if_pos ends]
    · rw [if_neg ends, if_neg ends]
      obtain found | ⟨id, start, body, _ | finish⟩ := ebmlAt work.1 p limit
      · rfl
      · rfl
      · simp only [segmentStep, Option.getD_some]
        split
        · cases ebmlVoid work start finish <;> simp [bind, Except.bind, ih]
        · split
          · cases scrubInfo (finish - body) work body finish <;> simp [bind, Except.bind, ih]
          · simp [bind, Except.bind, ih]

/-- What may become of an element of the segment's information. -/
def InfoScrubs (c c' : Chunk) : Prop :=
  if elementId c = INFO_DATE_UTC then c' = ⟨c.header, List.replicate c.body.length 0⟩
  else if elementId c = INFO_TITLE then c' = voided c
  else c' = c

/-- What may become of an element of the segment: tags and attachments make way, and the information is scrubbed. -/
def SegmentScrubs (c c' : Chunk) : Prop :=
  if elementId c = SEG_TAGS ∨ elementId c = SEG_ATTACHMENTS then c' = voided c
  else if elementId c = SEG_INFO then
    ∃ list rest list', ebmlHeading.Cuts c.body list rest ∧ List.Forall₂ InfoScrubs list list'
      ∧ c' = ⟨c.header, joined list' ++ rest⟩
  else c' = c

/-- An element of the segment's information that says neither a date nor a title. -/
def InfoClean (c : Chunk) : Prop :=
  elementId c ≠ INFO_TITLE ∧ (elementId c = INFO_DATE_UTC → c.body = List.replicate c.body.length 0)

/-- An element of the segment that says nothing of the recording. -/
def SegmentClean (c : Chunk) : Prop :=
  elementId c ≠ SEG_TAGS ∧ elementId c ≠ SEG_ATTACHMENTS
  ∧ (elementId c = SEG_INFO → ∀ d ∈ (ebmlHeading.cut c.body).1, InfoClean d)

/-- The headers of the elements that bytes are cut into say how long their bodies are. -/
theorem cuts_heads {rest : Bytes} (cuts : ebmlHeading.Cuts data list rest) :
    ∀ c ∈ list, Heads c.header (elementId c) (some c.body.length) ∧ c.bytes.length ≤ data.length := by
  induction cuts with
  | stop _ => simp
  | next led _ ih =>
    intro c member
    rw [List.length_append]
    rcases List.mem_cons.mp member with rfl | later
    · exact ⟨ebml_led.mp led, by omega⟩
    · obtain ⟨heads, small⟩ := ih c later
      exact ⟨heads, by omega⟩

/-- An element has an id of a byte and a size of another. -/
theorem Heads.two {size : Option Nat} {id : Nat} (heads : Heads c.header id size) : 2 ≤ c.bytes.length := by
  obtain ⟨idLen, named, sized⟩ := heads
  obtain ⟨_, _, long, _, _, _⟩ := ebmlId_eq_some.mp named
  obtain ⟨_, _, long', _, _, _⟩ := ebmlSize_eq_some.mp sized
  rw [Chunk.bytes, List.length_append]
  omega

theorem InfoScrubs.long (scrubs : InfoScrubs c c') (heads : Heads c.header (elementId c) (some c.body.length)) :
    c'.bytes.length = c.bytes.length := by
  have two := heads.two
  unfold InfoScrubs at scrubs
  split at scrubs
  · rw [scrubs, Chunk.bytes, Chunk.bytes, List.length_append, List.length_append, List.length_replicate]
  · split at scrubs
    · rw [scrubs, voided_length (by omega)]
    · rw [scrubs]

theorem InfoScrubs.replaces (scrubs : InfoScrubs c c') (heads : Heads c.header (elementId c) (some c.body.length))
    (small : c.bytes.length < 2 ^ 56) : ebmlHeading.Replaces c c' := by
  have same := scrubs.long heads
  refine ebml_replaces ?_ same
  unfold InfoScrubs at scrubs
  split at scrubs
  · -- The header of a date says what it said.
    rw [scrubs, List.length_replicate]
    exact heads
  · split at scrubs
    · rw [scrubs]
      exact voided_heads heads.two small
    · rw [scrubs]
      exact heads

theorem info_long (heads : ∀ c ∈ list, Heads c.header (elementId c) (some c.body.length))
    (each : List.Forall₂ InfoScrubs list list') : (joined list').length = (joined list).length := by
  -- Each element is as long as the one whose place it takes.
  induction each with
  | nil => rfl
  | cons one _ ih =>
    have first := one.long (heads _ (by simp))
    have later := ih fun d member => heads d (by simp [member])
    rw [joined_cons, joined_cons, List.length_append, List.length_append, first, later]

theorem SegmentScrubs.long (scrubs : SegmentScrubs c c') (heads : Heads c.header (elementId c) (some c.body.length)) :
    c'.bytes.length = c.bytes.length := by
  have two := heads.two
  unfold SegmentScrubs at scrubs
  split at scrubs
  · rw [scrubs, voided_length (by omega)]
  · split at scrubs
    · obtain ⟨list, rest, list', cuts, each, rfl⟩ := scrubs
      have same := info_long (fun d member => (cuts_heads cuts d member).1) each
      have whole := congrArg List.length cuts.joined
      simp only [Chunk.bytes, List.length_append] at whole ⊢
      omega
    · rw [scrubs]

theorem SegmentScrubs.replaces (scrubs : SegmentScrubs c c') (heads : Heads c.header (elementId c) (some c.body.length))
    (small : c.bytes.length < 2 ^ 56) : ebmlHeading.Replaces c c' := by
  have same := scrubs.long heads
  refine ebml_replaces ?_ same
  unfold SegmentScrubs at scrubs
  split at scrubs
  · rw [scrubs]
    exact voided_heads heads.two small
  · split at scrubs
    · obtain ⟨list, rest, list', _, _, rfl⟩ := scrubs
      -- The information is as long as it was, which its header says.
      have body : (joined list' ++ rest).length = c.body.length := by
        simp only [Chunk.bytes, List.length_append] at same ⊢
        omega
      rw [body]
      exact heads
    · rw [scrubs]
      exact heads

/-- Elements in the places of others: what each of them needs for it, it has among the bytes. -/
theorem forall₂_replaces {R : Chunk → Chunk → Prop}
    (one : ∀ c c', R c c' → Heads c.header (elementId c) (some c.body.length) → c.bytes.length < 2 ^ 56 →
      ebmlHeading.Replaces c c')
    (known : ∀ c ∈ list, Heads c.header (elementId c) (some c.body.length) ∧ c.bytes.length < 2 ^ 56)
    (each : List.Forall₂ R list list') : List.Forall₂ ebmlHeading.Replaces list list' := by
  induction each with
  | nil => exact .nil
  | @cons c c' rest rest' head _ ih =>
    obtain ⟨heads, small⟩ := known c (by simp)
    exact .cons (one _ _ head heads small) (ih fun d member => known d (by simp [member]))

theorem editInfo_scrubs (edited : editInfo c s = .ok (c', s')) : InfoScrubs c c' := by
  unfold editInfo at edited
  unfold InfoScrubs
  split at edited
  · cases edited
    rw [if_pos (by assumption)]
  · rw [if_neg (by assumption)]
    split at edited <;> cases edited
    · rw [if_pos (by assumption)]
    · rw [if_neg (by assumption)]

theorem editInfo_ok (list : List Chunk) (s : Scrubbed) : ∃ list' s', editAll editInfo list s = .ok (list', s') := by
  cases all : editAll editInfo list s with
  | ok both => exact ⟨both.1, both.2, rfl⟩
  | error e =>
    obtain ⟨c, _, s', bad⟩ := editAll_error all
    -- No branch of the edit fails.
    unfold editInfo at bad
    split at bad
    · cases bad
    · split at bad <;> cases bad

theorem editSegment_scrubs (edited : editSegment c s = .ok (c', s')) : SegmentScrubs c c' := by
  unfold editSegment at edited
  unfold SegmentScrubs
  split at edited
  · cases edited
    rw [if_pos (by assumption)]
  · rw [if_neg (by assumption)]
    split at edited
    · rw [if_pos (by assumption)]
      obtain ⟨list', s₁, all⟩ := editInfo_ok (ebmlHeading.cut c.body).1 s
      rw [all] at edited
      cases edited
      exact ⟨_, _, list', ebmlHeading.cut_cuts c.body, editAll_forall₂ (fun d _ s d' s' one => editInfo_scrubs one) all, rfl⟩
    · cases edited
      rw [if_neg (by assumption)]

theorem editSegment_ok (list : List Chunk) (s : Scrubbed) : ∃ list' s', editAll editSegment list s = .ok (list', s') := by
  cases all : editAll editSegment list s with
  | ok both => exact ⟨both.1, both.2, rfl⟩
  | error e =>
    obtain ⟨c, _, s', bad⟩ := editAll_error all
    -- No branch fails, and within the information none does either.
    unfold editSegment at bad
    split at bad
    · cases bad
    · split at bad
      · obtain ⟨list', s₁, fine⟩ := editInfo_ok (ebmlHeading.cut c.body).1 s'
        rw [fine] at bad
        cases bad
      · cases bad

/-- The walk edits each element of the information where it stands. -/
theorem infoStep_there (heads : Heads c.header (elementId c) (some c.body.length)) :
    EditsThere infoStep ebmlPlace editInfo c := by
  have two := heads.two
  intro before behind s
  have id : (ebmlPlace before.length c).id = elementId c := rfl
  rw [infoStep, editInfo, id]
  by_cases date : elementId c = INFO_DATE_UTC
  · rw [if_pos date, if_pos date]
    -- The body stands behind the header.
    have filled := @fill_between (before ++ c.header) behind c.body
    have there : before.length + c.bytes.length = (before ++ c.header).length + c.body.length := by
      simp only [Chunk.bytes, List.length_append]
      omega
    have shape : before ++ (c.bytes ++ behind) = (before ++ c.header) ++ (c.body ++ behind) := by
      simp only [Chunk.bytes, List.append_assoc]
    simp only [ebmlPlace, Option.getD_some]
    have start : before.length + c.header.length = (before ++ c.header).length := by rw [List.length_append]
    rw [shape, there, start, filled]
    simp only [Except.map, Chunk.bytes, List.append_assoc]
  · rw [if_neg date, if_neg date]
    by_cases title : elementId c = INFO_TITLE
    · rw [if_pos title, if_pos title]
      exact ebmlVoid_there (by omega) s
    · rw [if_neg title, if_neg title]
      rfl

/-- The walk edits each element of the segment where it stands. -/
theorem segmentStep_there (heads : Heads c.header (elementId c) (some c.body.length)) :
    EditsThere segmentStep ebmlPlace editSegment c := by
  have two := heads.two
  intro before behind s
  have id : (ebmlPlace before.length c).id = elementId c := rfl
  rw [segmentStep, editSegment, id]
  by_cases described : elementId c = SEG_TAGS ∨ elementId c = SEG_ATTACHMENTS
  · rw [if_pos described, if_pos described]
    exact ebmlVoid_there (by omega) s
  · rw [if_neg described, if_neg described]
    by_cases info : elementId c = SEG_INFO
    · rw [if_pos info, if_pos info]
      have cuts := ebmlHeading.cut_cuts c.body
      -- Each element has a header that says its id and its length.
      have known := cuts_heads cuts
      have there : before.length + c.bytes.length = (before ++ c.header).length + c.body.length := by
        simp only [Chunk.bytes, List.length_append]
        omega
      have shape : before ++ (c.bytes ++ behind) = (before ++ c.header) ++ (c.body ++ behind) := by
        simp only [Chunk.bytes, List.append_assoc]
      -- The walk within the information ends where the information does.
      have inside := @walk_between _ _ infoStep editInfo _ cuts _ (Nat.le_refl _)
        (fun d member => infoStep_there (known d member).1)
        (fun d member s d' s' edited => (editInfo_scrubs edited).long (known d member).1) (before ++ c.header) behind s
      simp only [ebmlPlace, Option.getD_some]
      have start : before.length + c.header.length = (before ++ c.header).length := by rw [List.length_append]
      rw [shape, there, start, Nat.add_sub_cancel_left, scrubInfo_eq, inside]
      cases editAll editInfo (ebmlHeading.cut c.body).1 s with
      | error e => rfl
      | ok both => simp only [Except.map, Chunk.bytes, List.append_assoc]
    · rw [if_neg info, if_neg info]
      rfl

/-- Where the body of a Matroska file's segment begins, and where it ends. -/
def segmentOf (data : Bytes) : Option (Nat × Nat) :=
  match ebmlAt data 0 data.length with
  | some ⟨id, _, _, some segAt⟩ =>
    if id = EBML_HEADER then
      match ebmlAt data segAt data.length with
      | some ⟨id, _, body, finish⟩ => if id = SEGMENT then some (body, finish.getD data.length) else none
      | none => none
    else none
  | _ => none

/-- Scrubbing a Matroska video is a walk over its segment. -/
theorem scrubMatroska_eq (data : Bytes) (s : Scrubbed) :
    scrubMatroska (data, s) = match segmentOf data with
      | some (first, last) => walk segmentStep (last - first) (data, s) first last
      | none => .error (.refused NOT_CLEANABLE) := by
  unfold scrubMatroska segmentOf
  dsimp only
  rcases ebmlAt data 0 data.length with _ | ⟨id, start, body, _ | segAt⟩
  · rfl
  · rfl
  · dsimp only
    -- A file that does not lead with the two elements is refused by both.
    by_cases isHeader : id = EBML_HEADER
    · rw [if_pos isHeader, if_pos isHeader]
      rcases ebmlAt data segAt data.length with _ | ⟨id', start', body', finish⟩
      · rfl
      · dsimp only
        by_cases isSegment : id' = SEGMENT
        · rw [if_pos isSegment, if_pos isSegment]
          exact scrubSegment_eq ..
        · rw [if_neg isSegment, if_neg isSegment]
    · rw [if_neg isHeader, if_neg isHeader]

/-- An element is read of any bytes that begin as these do up to its body. -/
theorem ebmlAt_same {p limit id start body : Nat} {finish : Option Nat}
    (found : ebmlAt data p limit = some ⟨id, start, body, finish⟩) (same : out.take body = data.take body) :
    p ≤ body ∧ body ≤ data.length ∧ (∀ last ∈ finish, body ≤ last) ∧ ebmlAt out p limit = some ⟨id, start, body, finish⟩ := by
  have within : p < data.length := by
    -- No id is read past the end.
    unfold ebmlAt at found
    obtain ⟨both, named, _⟩ := Option.bind_eq_some_iff.mp found
    obtain ⟨first, there, _⟩ := ebmlId_eq_some.mp named
    exact (List.getElem?_eq_some_iff.mp there).1
  have long : (data.take p).length = p := by
    rw [List.length_take]
    omega
  have split := List.take_append_drop p data
  have found' : ebmlAt (data.take p ++ data.drop p) (data.take p).length limit = some ⟨id, start, body, finish⟩ := by
    rw [split, long]
    exact found
  obtain ⟨header, more, size, shape, heads, rfl, rfl, same', inTime⟩ := ebmlAt_eq_some.mp found'
  rw [long] at same ⊢
  have whole : data = data.take p ++ (header ++ more) := by rw [← shape, split]
  have count := congrArg List.length whole
  rw [List.length_append, List.length_append, long] at count
  refine ⟨by omega, by omega, ?_, ?_⟩
  · intro last member
    rw [Option.mem_def.mp member] at same'
    obtain ⟨_, _, rfl⟩ := Option.map_eq_some_iff.mp same'.symm
    omega
  · -- The other bytes begin with the same bytes, so with the same header.
    have lead : out.take (p + header.length) = data.take p ++ header := by
      rw [same]
      nth_rewrite 1 [whole]
      rw [← List.append_assoc]
      exact List.take_left' (by rw [List.length_append, long])
    have split' := List.take_append_drop (p + header.length) out
    rw [lead, List.append_assoc] at split'
    have there := (@ebmlAt_eq_some (header ++ out.drop (p + header.length)) (data.take p) limit id (p + header.length) finish p).mpr
        ⟨header, _, size, rfl, heads, long.symm, by rw [long], by rw [← long]; exact same', inTime⟩
    rwa [split', long] at there

/-- The segment is where it was in any bytes that begin as these do up to its body. -/
theorem segmentOf_same {first last : Nat} (found : segmentOf data = some (first, last)) (long : out.length = data.length)
    (same : out.take first = data.take first) : first ≤ last ∧ last ≤ data.length ∧ segmentOf out = some (first, last) := by
  unfold segmentOf at found
  split at found
  · rename_i id start body segAt lead
    split at found
    · rename_i isHeader
      split at found
      · rename_i id' start' body' finish next
        split at found
        · rename_i isSegment
          cases found
          -- The header comes before the segment's body, which is the first place that may differ.
          obtain ⟨after, inside, order, again⟩ := ebmlAt_same next same
          obtain ⟨_, _, front, _⟩ := @ebmlAt_same _ data _ _ _ _ _ _ lead rfl
          have early := front segAt rfl
          have same' : out.take body = data.take body := by
            have shorter := congrArg (List.take body) same
            rwa [List.take_take, List.take_take, Nat.min_eq_left (by omega)] at shorter
          -- So the header is read of these bytes as of those.
          obtain ⟨_, _, _, lead'⟩ := ebmlAt_same lead same'
          refine ⟨?_, ?_, ?_⟩
          · cases finish with
            | none => exact inside
            | some last => exact order last rfl
          · cases finish with
            | none => exact Nat.le_refl _
            | some last =>
              -- An element that was read ends within its limit, here the file.
              have before := @ebmlAt_eq_some (data.drop segAt) (data.take segAt) data.length id' first (some last) start'
              have long' : (data.take segAt).length = segAt := by
                rw [List.length_take]
                omega
              rw [List.take_append_drop, long'] at before
              obtain ⟨_, _, _, _, _, _, _, _, inTime⟩ := before.mp next
              exact inTime last rfl
          · unfold segmentOf
            rw [long]
            simp only [lead', if_pos isHeader, again, if_pos isSegment]
        · cases found
      · cases found
    · cases found
  · cases found

/-- The body of a segment is behind the four bytes of the file's first id. -/
theorem segmentOf_four {first last : Nat} (found : segmentOf data = some (first, last)) : 4 ≤ first := by
  unfold segmentOf at found
  split at found
  · rename_i id start body segAt lead
    split at found
    · rename_i isHeader
      split at found
      · rename_i id' start' body' finish next
        split at found
        · cases found
          obtain ⟨after, _, _, _⟩ := @ebmlAt_same _ data _ _ _ _ _ _ next rfl
          obtain ⟨_, _, front, _⟩ := @ebmlAt_same _ data _ _ _ _ _ _ lead rfl
          have early := front segAt rfl
          -- An id of fewer bytes is a smaller number.
          have there := @ebmlAt_eq_some data [] data.length id body (some segAt) start
          simp only [List.nil_append, List.length_nil, Nat.zero_add] at there
          obtain ⟨header, _, _, _, ⟨idLen, named, _⟩, _, rfl, _⟩ := there.mp lead
          obtain ⟨_, _, _, short, within, rfl⟩ := ebmlId_eq_some.mp named
          have bound := ofBigEndian_lt ((header.drop 0).take idLen)
          rw [isHeader, List.drop_zero, List.length_take, Nat.min_eq_left (by omega)] at bound
          have four : ¬ idLen ≤ 3 := by
            intro few
            have least : 256 ^ idLen ≤ 256 ^ 3 := Nat.pow_le_pow_right (by omega) few
            have big : EBML_HEADER = 440786851 := rfl
            have small : 256 ^ 3 = 16777216 := rfl
            omega
          omega
        · cases found
      · cases found
    · cases found
  · cases found

/-- A Matroska video and what it is once scrubbed: nothing moves, and only what describes the recording changes. -/
structure MatroskaScrubbed (data out : Bytes) (first last : Nat) : Prop where
  long : out.length = data.length
  /-- The segment is where it was, and everything around it is as it was. -/
  found : segmentOf data = some (first, last)
  again : segmentOf out = some (first, last)
  front : out.take first = data.take first
  behind : out.drop last = data.drop last
  /-- The elements of the segment are scrubbed one by one; what follows them stays. -/
  elements : ∃ list rest list', ebmlHeading.Cuts ((data.take last).drop first) list rest
    ∧ List.Forall₂ SegmentScrubs list list' ∧ (out.take last).drop first = joined list' ++ rest
  clean : ∀ c ∈ (ebmlHeading.cut ((out.take last).drop first)).1, SegmentClean c

theorem voided_id (two : 2 ≤ c.bytes.length) (small : c.bytes.length < 2 ^ 56) : elementId (voided c) = 0xEC :=
  Heads.elementId (c := voided c) (voidHead_heads two small)

theorem InfoScrubs.clean (scrubs : InfoScrubs c c') (heads : Heads c.header (elementId c) (some c.body.length))
    (small : c.bytes.length < 2 ^ 56) : InfoClean c' := by
  unfold InfoScrubs at scrubs
  split at scrubs
  · rename_i date
    subst scrubs
    -- A date keeps its id and is zero; a void element has neither of the two ids.
    have same : elementId ⟨c.header, List.replicate c.body.length 0⟩ = elementId c := rfl
    refine ⟨?_, fun _ => by rw [List.length_replicate]⟩
    rw [same, date]
    decide
  · rename_i other
    split at scrubs
    · subst scrubs
      rw [InfoClean, voided_id heads.two small]
      exact ⟨by decide, fun same => absurd same (by decide)⟩
    · rename_i title
      subst scrubs
      exact ⟨title, fun same => absurd same other⟩

/-- A scrubbed element says nothing of the recording. -/
theorem SegmentScrubs.clean (scrubs : SegmentScrubs c c') (heads : Heads c.header (elementId c) (some c.body.length))
    (small : c.bytes.length < 2 ^ 56) : SegmentClean c' := by
  unfold SegmentScrubs at scrubs
  split at scrubs
  · subst scrubs
    rw [SegmentClean, voided_id heads.two small]
    exact ⟨by decide, by decide, fun same => absurd same (by decide)⟩
  · rename_i plain
    split at scrubs
    · rename_i info
      obtain ⟨list, rest, list', cuts, each, rfl⟩ := scrubs
      have same : elementId ⟨c.header, joined list' ++ rest⟩ = elementId c := rfl
      rw [SegmentClean, same, info]
      refine ⟨by decide, by decide, fun _ => ?_⟩
      -- The information is cut where it was.
      have inside : ∀ d ∈ list, Heads d.header (elementId d) (some d.body.length) ∧ d.bytes.length < 2 ^ 56 := by
        intro d member
        obtain ⟨heads', fits⟩ := cuts_heads cuts d member
        have body : c.body.length ≤ c.bytes.length := by
          rw [Chunk.bytes, List.length_append]
          omega
        exact ⟨heads', by omega⟩
      -- What no element was read of still reads as none, so the cut ends where it did.
      have unled := cut_unled ebmlHeading c.body
      rw [cuts.cut_eq] at unled
      have behind := ebmlHeading.cut_cuts rest
      rw [unled] at behind
      have again := cuts.rewrite (forall₂_replaces (fun d d' one => one.replaces) inside each) rfl behind
      rw [List.append_nil] at again
      rw [again.cut_eq]
      intro d member
      obtain ⟨b, member', one⟩ := mem_forall₂_right each member
      obtain ⟨heads', small'⟩ := inside b member'
      exact one.clean heads' small'
    · rename_i other
      subst scrubs
      exact ⟨fun same => plain (.inl same), fun same => plain (.inr same), fun same => absurd same other⟩

/-- An element that says nothing of the recording is left as it is. -/
theorem SegmentClean.still (clean : SegmentClean c) (s : Scrubbed) : ∃ s', editSegment c s = .ok (c, s') := by
  obtain ⟨tags, attachments, info⟩ := clean
  unfold editSegment
  rw [if_neg (by simp [tags, attachments])]
  split
  · rename_i same
    have each : ∀ d ∈ (ebmlHeading.cut c.body).1, ∀ s, ∃ s', editInfo d s = .ok (d, s') := by
      intro d member s
      obtain ⟨title, date⟩ := info same d member
      unfold editInfo
      rw [if_neg title]
      split
      · rename_i dated
        -- The date is zero already.
        exact ⟨_, by rw [← date dated]⟩
      · exact ⟨s, rfl⟩
    obtain ⟨s', all⟩ := editAll_still each s
    exact ⟨s', by simp only [all, Except.map, (ebmlHeading.cut_cuts c.body).joined]⟩
  · exact ⟨s, rfl⟩

/-- A walk over a segment that is found edits the elements that its body is cut into. -/
theorem scrubMatroska_found {first last : Nat} (found : segmentOf data = some (first, last)) (s : Scrubbed) :
    scrubMatroska (data, s) =
      (editAll editSegment (ebmlHeading.cut ((data.take last).drop first)).1 s).map fun (list', s') =>
        (data.take first ++ (joined list' ++ (ebmlHeading.cut ((data.take last).drop first)).2 ++ data.drop last), s') := by
  obtain ⟨order, within, _⟩ := @segmentOf_same _ data _ _ found rfl rfl
  have cuts := ebmlHeading.cut_cuts ((data.take last).drop first)
  have known := cuts_heads cuts
  -- The walk over the body, with what surrounds it in the file.
  have inside := @walk_between _ _ segmentStep editSegment _ cuts _ (Nat.le_refl _)
    (fun c member => segmentStep_there (known c member).1)
    (fun c member s c' s' edited => (editSegment_scrubs edited).long (known c member).1) (data.take first) (data.drop last) s
  have long : (data.take first).length = first := by
    rw [List.length_take]
    omega
  have count : ((data.take last).drop first).length = last - first := by
    rw [List.length_drop, List.length_take]
    omega
  -- The bytes are those before the body, the body, and those behind it.
  have whole : data.take first ++ ((data.take last).drop first ++ data.drop last) = data := by
    have split := List.take_append_drop first (data.take last)
    rw [List.take_take, Nat.min_eq_left order] at split
    rw [← List.append_assoc, split, List.take_append_drop]
  have finish : first + (last - first) = last := by omega
  rw [whole, long, count, finish] at inside
  rw [scrubMatroska_eq, found, ← inside]

theorem scrubMatroska_inRange (data : Bytes) (s : Scrubbed) : scrubMatroska (data, s) ≠ .error .outOfRange := by
  cases found : segmentOf data with
  | none => simp [scrubMatroska_eq, found]
  | some both =>
    obtain ⟨list', s', all⟩ := editSegment_ok (ebmlHeading.cut ((data.take both.2).drop both.1)).1 s
    rw [scrubMatroska_found found, all]
    simp [Except.map]

/-- Only what describes the recording changes in a scrubbed Matroska video, nothing moves, and nothing of it is left. -/
theorem scrubMatroska_scrubbed (small : data.length < 2 ^ 56) (scrubbed : scrubMatroska (data, s) = .ok (out, s')) :
    ∃ first last, MatroskaScrubbed data out first last := by
  cases found : segmentOf data with
  | none => simp [scrubMatroska_eq, found] at scrubbed
  | some both =>
    obtain ⟨first, last⟩ := both
    obtain ⟨order, within, _⟩ := @segmentOf_same _ data _ _ found rfl rfl
    rw [scrubMatroska_found found] at scrubbed
    obtain ⟨list', s₁, all⟩ := editSegment_ok (ebmlHeading.cut ((data.take last).drop first)).1 s
    rw [all] at scrubbed
    cases scrubbed
    have cuts := ebmlHeading.cut_cuts ((data.take last).drop first)
    have each : List.Forall₂ SegmentScrubs (ebmlHeading.cut ((data.take last).drop first)).1 list' :=
      editAll_forall₂ (fun c _ s c' s' one => editSegment_scrubs one) all
    have inside : ∀ c ∈ (ebmlHeading.cut ((data.take last).drop first)).1,
        Heads c.header (elementId c) (some c.body.length) ∧ c.bytes.length < 2 ^ 56 := by
      intro c member
      obtain ⟨heads, fits⟩ := cuts_heads cuts c member
      rw [List.length_drop, List.length_take] at fits
      exact ⟨heads, by omega⟩
    -- Each scrubbed element stands in the place of the one it was.
    have same := forall₂_replaces (fun c c' one => one.replaces) inside each
    have count := congrArg List.length cuts.joined
    rw [List.length_append, ← Heading.joined_length same, List.length_drop, List.length_take] at count
    have long : (data.take first).length = first := by
      rw [List.length_take]
      omega
    -- The body is as long as it was, so what surrounds it is where it was.
    have middle : ((data.take first ++ (joined list' ++ (ebmlHeading.cut ((data.take last).drop first)).2
        ++ data.drop last)).take last).drop first = joined list' ++ (ebmlHeading.cut ((data.take last).drop first)).2 := by
      rw [← List.append_assoc (data.take first), List.take_left' (by simp only [List.length_append, long]; omega),
        List.drop_left' long]
    have length' : (data.take first ++ (joined list' ++ (ebmlHeading.cut ((data.take last).drop first)).2
        ++ data.drop last)).length = data.length := by
      simp only [List.length_append, long, List.length_drop]
      omega
    have front : (data.take first ++ (joined list' ++ (ebmlHeading.cut ((data.take last).drop first)).2
        ++ data.drop last)).take first = data.take first := List.take_left' long
    refine ⟨first, last, length', found, (segmentOf_same found length' front).2.2, front, ?_, ?_, ?_⟩
    · rw [← List.append_assoc (data.take first)]
      exact List.drop_left' (by simp only [List.length_append, long]; omega)
    · exact ⟨_, _, list', cuts, each, middle⟩
    · rw [middle]
      have unled := cut_unled ebmlHeading ((data.take last).drop first)
      have behind := ebmlHeading.cut_cuts (ebmlHeading.cut ((data.take last).drop first)).2
      rw [unled] at behind
      -- So the scrubbed body is cut into the scrubbed elements.
      have again := cuts.rewrite same rfl behind
      rw [List.append_nil] at again
      rw [again.cut_eq]
      intro c member
      obtain ⟨b, member', one⟩ := mem_forall₂_right each member
      obtain ⟨heads, small'⟩ := inside b member'
      exact one.clean heads small'

/-- Another scrub of a scrubbed Matroska video changes nothing in it. -/
theorem scrubMatroska_again (small : data.length < 2 ^ 56) (scrubbed : scrubMatroska (data, s) = .ok (out, s')) :
    ∃ s'', scrubMatroska (out, s) = .ok (out, s'') := by
  obtain ⟨first, last, made⟩ := scrubMatroska_scrubbed small scrubbed
  -- Elements that are clean are left as they are.
  obtain ⟨s'', still⟩ := editAll_still (fun c member s => (made.clean c member).still s) s
  obtain ⟨order, within, _⟩ := @segmentOf_same _ out _ _ made.again rfl rfl
  rw [scrubMatroska_found made.again, still, Except.map]
  refine ⟨s'', ?_⟩
  have whole := (ebmlHeading.cut_cuts ((out.take last).drop first)).joined
  have split := List.take_append_drop first (out.take last)
  rw [List.take_take, Nat.min_eq_left order] at split
  simp only [whole]
  rw [← List.append_assoc, split, List.take_append_drop]

end Scrub
end Nightdrop
